import Mathlib.Data.List.Basic
import SqlAccess.Proofs.Calendar.Literal
import SqlAccess.Proofs.Calendar.Offset
import SqlAccess.Proofs.Text.Trim

/-!
# Reading a configuration back from its text

The text of a configuration is a location and segments with semicolons before them: at most one for
each setting that is shown, and one for each property of the engine (`Config.toList_text`). Reading
cuts it at the same places, and takes every segment for what it was written for. The main result is
that a configuration whose parts leave these places recognizable is read back as it is shown, and
has the same text again (`Config.parse_text`).

Values may hold equals signs and databases may hold colons, since a text is only cut at the first
one. What breaks a text are semicolons, blanks where parts are trimmed, keys with an equals sign in
them, and keys that set a field of the configuration.
-/

namespace SqlAccess

open SqlAccess.Text SqlAccess.Calendar

namespace Config

/-! ## The text in parts -/

/-- The protocol and the database. -/
def location (c : Config) : List Char :=
  c.protocol.keyword.toList ++ ':' :: c.database.toList

/-- A key and a value. -/
def segment (key value : List Char) : List Char :=
  key ++ '=' :: value

/-- What a text shows after the location. -/
def segments (c : Config) : List (List Char) :=
  (if c.defaultSchema then [segment "default_schema".toList "true".toList] else []) ++
    (if c.timeZone.seconds = 0 then [] else [segment "time_zone".toList c.timeZone.text]) ++
    c.properties.map fun p => segment p.1.toList p.2.toList

theorem intercalate_cons (separator : Char) (first : List Char) (rest : List (List Char)) :
    [separator].intercalate (first :: rest) = first ++ rest.flatMap (separator :: ·) := by
  induction rest generalizing first with
  | nil => simp
  | cons next rest ih => simp [List.intercalate_cons_cons, ih]

/-- A text is the location and the segments, with semicolons between them. -/
theorem toList_text (c : Config) :
    c.text.toList = scheme.toList ++ [';'].intercalate (c.location :: c.segments) := by
  have htext : c.text = c.url ++ (if c.defaultSchema then ";default_schema=true" else "") ++
      (if c.timeZone.seconds = 0 then "" else ";time_zone=" ++ String.ofList c.timeZone.text) ++
      String.join (c.properties.map fun p => ";" ++ p.1 ++ "=" ++ p.2) := rfl
  have hproperties : (String.join (c.properties.map fun p => ";" ++ p.1 ++ "=" ++ p.2)).toList =
      c.properties.flatMap fun p => ';' :: segment p.1.toList p.2.toList := by
    simp [String.toList_join, List.flatMap_map, segment]
  rw [intercalate_cons, segments, htext, url]
  simp only [String.toList_append, hproperties, List.flatMap_append, List.flatMap_map]
  -- Each setting that is shown has a segment of its own.
  by_cases hschema : c.defaultSchema
  · by_cases hutc : c.timeZone.seconds = 0
    · simp [hschema, hutc, segment, location]
    · simp [hschema, hutc, segment, location]
  · by_cases hutc : c.timeZone.seconds = 0
    · simp [hschema, hutc, location]
    · simp [hschema, hutc, segment, location]

/-! ## Reading segments -/

/-- The keys that set a field of the configuration. -/
def recognizedKeys : List String :=
  ["user", "password", "default_schema", "time_zone", "fetch_size", "log_level", "log_file"]

/-- A key of the engine's, which can be told from what stands around it. -/
structure IsPropertyKey (key : String) : Prop where
  tight : Tight key.toList
  semicolon : ';' ∉ key.toList
  equals : '=' ∉ key.toList
  unrecognized : ∀ name ∈ recognizedKeys, equalIgnoringCase key.toList name.toList = false

/-- A value that can be told from what stands around it. -/
structure IsPropertyValue (value : String) : Prop where
  tight : Tight value.toList
  semicolon : ';' ∉ value.toList

variable {c : Config}

/-- A segment sets its key to its value, as they were written. -/
theorem applySegment_segment {key value : String} (hkey : Tight key.toList)
    (hequals : '=' ∉ key.toList) (hvalue : Tight value.toList) :
    c.applySegment (segment key.toList value.toList) = c.applyProperty key value := by
  -- The equals sign is no blank, so that the segment is not passed over.
  have hblank : trim (segment key.toList value.toList) ≠ [] := by
    intro hnil
    have hequalsBlank := trim_eq_nil_iff.1 hnil '=' (by simp [segment])
    cases hequalsBlank
  rw [applySegment, if_neg hblank, segment, cutFirst_append hequals]
  simp only [hkey.trim_eq_self, hvalue.trim_eq_self, String.ofList_toList]

/-- A key that sets no field is kept for the engine. -/
theorem applyProperty_of_unrecognized {key : String}
    (h : ∀ name ∈ recognizedKeys, equalIgnoringCase key.toList name.toList = false)
    (value : String) :
    c.applyProperty key value = .ok { c with properties := c.properties.insert key value } := by
  have hother (name : String) (hname : name ∈ recognizedKeys)
      (hlower : asciiLower name.toList = name.toList) :
      String.ofList (asciiLower key.toList) ≠ name := by
    rintro rfl
    have := h _ hname
    rw [equalIgnoringCase, hlower, String.toList_ofList, beq_self_eq_true] at this
    cases this
  -- None of the names of a field is the key in small letters.
  unfold applyProperty
  split
  · next heq => exact absurd heq (hother "user" (by simp [recognizedKeys]) rfl)
  · next heq => exact absurd heq (hother "password" (by simp [recognizedKeys]) rfl)
  · next heq => exact absurd heq (hother "default_schema" (by simp [recognizedKeys]) rfl)
  · next heq => exact absurd heq (hother "time_zone" (by simp [recognizedKeys]) rfl)
  · next heq => exact absurd heq (hother "fetch_size" (by simp [recognizedKeys]) rfl)
  · next heq => exact absurd heq (hother "log_level" (by simp [recognizedKeys]) rfl)
  · next heq => exact absurd heq (hother "log_file" (by simp [recognizedKeys]) rfl)
  · rfl

/-- A property with a new key comes last. -/
theorem insert_of_not_mem {key : String} {p : Properties} (h : key ∉ p.map (·.1))
    (value : String) : p.insert key value = p ++ [(key, value)] := by
  induction p with
  | nil => rfl
  | cons kv rest ih =>
    obtain ⟨k, v⟩ := kv
    obtain ⟨hk, hrest⟩ : key ≠ k ∧ key ∉ rest.map (·.1) := by simpa using h
    rw [Properties.insert, if_neg (Ne.symm hk), ih hrest]
    rfl

/-- Properties are read one after the other, and each adds itself to those before it. -/
theorem foldlM_properties {ps : Properties} (hkeys : ∀ p ∈ ps, IsPropertyKey p.1)
    (hvalues : ∀ p ∈ ps, IsPropertyValue p.2) (hdistinct : (ps.map (·.1)).Nodup)
    (hnew : ∀ p ∈ ps, p.1 ∉ c.properties.map (·.1)) :
    (ps.map fun p => segment p.1.toList p.2.toList).foldlM applySegment c =
      .ok { c with properties := c.properties ++ ps } := by
  induction ps generalizing c with
  | nil =>
    rw [List.append_nil]
    rfl
  | cons p ps ih =>
    rw [List.forall_mem_cons] at hkeys hvalues hnew
    rw [List.map_cons, List.nodup_cons] at hdistinct
    have hkey := hkeys.1
    have hfirst : c.applySegment (segment p.1.toList p.2.toList) =
        .ok { c with properties := c.properties ++ [p] } := by
      rw [applySegment_segment hkey.tight hkey.equals hvalues.1.tight,
        applyProperty_of_unrecognized hkey.unrecognized, insert_of_not_mem hnew.1]
    -- The keys behind the first one are still new, since no key comes twice.
    have hrest : ∀ q ∈ ps, q.1 ∉ (c.properties ++ [p]).map (·.1) := by
      intro q hq hmem
      rw [List.map_append, List.mem_append] at hmem
      rcases hmem with hold | hsame
      · exact hnew.2 q hq hold
      · apply hdistinct.1
        have hkeySame : q.1 = p.1 := by simpa using hsame
        rw [← hkeySame]
        exact List.mem_map_of_mem hq
    rw [List.map_cons, List.foldlM_cons, hfirst]
    change (ps.map _).foldlM applySegment { c with properties := c.properties ++ [p] } = _
    rw [ih hkeys.2 hvalues.2 hdistinct.2 hrest, List.append_assoc]
    rfl

theorem applySegment_defaultSchema :
    c.applySegment (segment "default_schema".toList "true".toList) =
      .ok { c with defaultSchema := true } := by
  rw [applySegment_segment (tight_of_all rfl) (by decide) (tight_of_all rfl)]
  rfl

/-- The segment for the time zone sets the zone that it was written for. -/
theorem applySegment_timeZone {o : Offset} (h : o.IsZone) :
    c.applySegment (segment "time_zone".toList o.text) = .ok { c with timeZone := o } := by
  have htext : (String.ofList o.text).toList = o.text := String.toList_ofList
  have hread : timeZone? (String.ofList o.text) = some o := by
    -- The text of an offset starts with a sign, and the names of UTC do not.
    have hname (name : String) (hplus : name.toList.head? ≠ some '+')
        (hminus : name.toList.head? ≠ some '-') : String.ofList o.text ≠ name := by
      rintro rfl
      rw [htext, Offset.text_eq, Offset.signText] at hplus hminus
      split at hplus
      · next hneg => exact hminus (by rw [if_pos hneg]; rfl)
      · exact hplus rfl
    rw [timeZone?, if_neg, htext, Offset.ofText?_text h]
    rintro (hutc | hutc)
    · exact hname "Z" (by decide) (by decide) hutc
    · exact hname "UTC" (by decide) (by decide) hutc
  rw [← htext, applySegment_segment (tight_of_all rfl) (by decide)
    (htext.symm ▸ o.tight_text)]
  have hkey : String.ofList (asciiLower "time_zone".toList) = "time_zone" := by decide
  simp only [applyProperty, hkey, hread]

/-! ## Reading a text -/

/-- A configuration whose text can be taken apart again. -/
structure IsShowable (c : Config) : Prop where
  database_semicolon : ';' ∉ c.database.toList
  database_stop : EndsTight c.database.toList
  zone : c.timeZone.IsZone
  keys : ∀ p ∈ c.properties, IsPropertyKey p.1
  values : ∀ p ∈ c.properties, IsPropertyValue p.2
  /-- Properties are a map, and `Properties.insert` keeps them one. -/
  distinct : (c.properties.map (·.1)).Nodup

/-- What the text of a configuration shows of it, with all else at its default. -/
def shown (c : Config) : Config :=
  { ofDatabase c.protocol c.database with
    defaultSchema := c.defaultSchema
    timeZone := c.timeZone
    properties := c.properties }

/-- A text shows all that there is in what it shows. -/
theorem text_shown (c : Config) : c.shown.text = c.text := rfl

/-- The segments of a text set again what they show. -/
theorem foldlM_segments (h : c.IsShowable) :
    c.segments.foldlM applySegment (ofDatabase c.protocol c.database) = .ok c.shown := by
  have hschema : (if c.defaultSchema then [segment "default_schema".toList "true".toList]
      else []).foldlM applySegment (ofDatabase c.protocol c.database) =
      .ok { ofDatabase c.protocol c.database with defaultSchema := c.defaultSchema } := by
    cases c.defaultSchema with
    | false => rfl
    | true =>
      rw [if_pos rfl, List.foldlM_cons, applySegment_defaultSchema]
      rfl
  have hzone (before : Config) (hutc : before.timeZone = .utc) :
      (if c.timeZone.seconds = 0 then [] else [segment "time_zone".toList c.timeZone.text]).foldlM
        applySegment before = .ok { before with timeZone := c.timeZone } := by
    split
    · next hzero =>
      have hsame : c.timeZone = .utc := Offset.eq_of_seconds_eq hzero
      rw [hsame, ← hutc]
      rfl
    · rw [List.foldlM_cons, applySegment_timeZone h.zone]
      rfl
  -- The three kinds of segments come one after the other, and each leaves the others' fields alone.
  rw [segments, List.foldlM_append, List.foldlM_append, hschema]
  change ((if c.timeZone.seconds = 0 then [] else _).foldlM applySegment
    { ofDatabase c.protocol c.database with defaultSchema := c.defaultSchema } >>= _) = _
  rw [hzone _ rfl]
  change (c.properties.map fun p => segment p.1.toList p.2.toList).foldlM applySegment _ = _
  rw [foldlM_properties h.keys h.values h.distinct (by simp [ofDatabase])]
  rfl

/-- What holds of every segment that can be shown holds of all that are. -/
theorem forall_mem_segments {P : List Char → Prop}
    (hschema : P (segment "default_schema".toList "true".toList))
    (hzone : P (segment "time_zone".toList c.timeZone.text))
    (hproperties : ∀ p ∈ c.properties, P (segment p.1.toList p.2.toList)) :
    ∀ s ∈ c.segments, P s := by
  intro s hs
  rw [segments, List.mem_append, List.mem_append] at hs
  rcases hs with (hs | hs) | hs
  · split at hs
    · rwa [List.mem_singleton.1 hs]
    · cases hs
  · split at hs
    · cases hs
    · rwa [List.mem_singleton.1 hs]
  · obtain ⟨p, hp, rfl⟩ := List.mem_map.1 hs
    exact hproperties p hp

/-- Semicolons stand between the parts of a text only. -/
theorem IsShowable.not_mem_semicolon (h : c.IsShowable) :
    ∀ s ∈ c.location :: c.segments, ';' ∉ s := by
  have hsegment {key value : List Char} (hkey : ';' ∉ key) (hvalue : ';' ∉ value) :
      ';' ∉ segment key value := by
    simp [segment, hkey, hvalue]
  have hlocation : ';' ∉ c.location := by
    have hkeyword : ';' ∉ c.protocol.keyword.toList := by cases c.protocol <;> decide
    simp [location, hkeyword, h.database_semicolon]
  rw [List.forall_mem_cons]
  refine ⟨hlocation, forall_mem_segments ?_ ?_ ?_⟩
  · exact hsegment (by decide) (by decide)
  · exact hsegment (by decide)
      (Offset.not_mem_text (by decide) (by decide) (by decide))
  · intro p hp
    exact hsegment (h.keys p hp).semicolon (h.values p hp).semicolon

/-- No part of a text ends in a blank. -/
theorem IsShowable.endsTight (h : c.IsShowable) : ∀ s ∈ c.location :: c.segments, EndsTight s := by
  have hsegment (key : List Char) {value : List Char} (hvalue : EndsTight value) :
      EndsTight (segment key value) :=
    (hvalue.cons (by decide)).append (by simp)
  rw [List.forall_mem_cons]
  refine ⟨(h.database_stop.cons (by decide)).append (by simp), forall_mem_segments ?_ ?_ ?_⟩
  · exact hsegment _ (tight_of_all rfl).stop
  · exact hsegment _ c.timeZone.tight_text.stop
  · intro p hp
    exact hsegment _ (h.values p hp).tight.stop

/-- Parts that do not end in a blank do not end in one together. -/
theorem endsTight_intercalate {separator : Char} (hseparator : isBlank separator = false)
    {first : List Char} {rest : List (List Char)} (h : ∀ s ∈ first :: rest, EndsTight s) :
    EndsTight ([separator].intercalate (first :: rest)) := by
  rw [intercalate_cons]
  -- The first part takes in one more part after the other.
  induction rest generalizing first with
  | nil => simpa using h
  | cons next rest ih =>
    rw [List.flatMap_cons, ← List.append_assoc]
    apply ih
    intro s hs
    rcases List.mem_cons.1 hs with rfl | hs
    · exact ((h next (by simp)).cons hseparator).append (by simp)
    · exact h s (by simp [hs])

/-- A text that can be taken apart has no blanks around it. -/
theorem IsShowable.tight_text (h : c.IsShowable) : Tight c.text.toList where
  start := by
    -- Every text starts with the scheme.
    rw [toList_text]
    rintro _ ⟨⟩
    decide
  stop := by
    rw [toList_text]
    apply (endsTight_intercalate (by decide) h.endsTight).append
    simp [intercalate_cons, location]

/-- A text is read as what it shows. -/
theorem parse_text (h : c.IsShowable) : parse c.text = .ok c.shown := by
  have htrim : trim c.text.toList =
      scheme.toList ++ [';'].intercalate (c.location :: c.segments) := by
    rw [h.tight_text.trim_eq_self, toList_text]
  have hcut : ([';'].intercalate (c.location :: c.segments)).splitOn ';' =
      c.location :: c.segments :=
    List.splitOn_intercalate ';' h.not_mem_semicolon (List.cons_ne_nil _ _)
  have hlocation : cutFirst ':' c.location =
      some (c.protocol.keyword.toList, c.database.toList) := by
    have hcolon : ':' ∉ c.protocol.keyword.toList := by cases c.protocol <;> decide
    exact cutFirst_append hcolon _
  have hne : scheme.toList ++ [';'].intercalate (c.location :: c.segments) ≠ [] := by
    simp [scheme]
  -- The text is cut where it was put together.
  have hstart : start c.text = .ok (ofDatabase c.protocol c.database, c.segments) := by
    unfold start
    simp only [htrim, if_neg hne, afterLead_append, hcut, hlocation, StorageProtocol.parse_keyword,
      String.ofList_toList]
    rfl
  rw [parse, hstart]
  exact foldlM_segments h

/-- The text of a configuration is read back, and what is read has the same text again. -/
theorem exists_parse_text (h : c.IsShowable) :
    ∃ r, parse c.text = .ok r ∧ r.protocol = c.protocol ∧ r.database = c.database ∧
      r.defaultSchema = c.defaultSchema ∧ r.timeZone = c.timeZone ∧
      r.properties = c.properties ∧ r.text = c.text :=
  ⟨c.shown, parse_text h, rfl, rfl, rfl, rfl, rfl, text_shown c⟩

/-- A configuration whose text has equals signs and colons within its parts, and empty parts. -/
def assorted : Config :=
  { ofDatabase .file "/data:0/a=b" with
    defaultSchema := true
    timeZone := ⟨-19800, by decide⟩
    properties := [("", ""), ("trace", "on=all")] }

theorem isShowable_assorted : assorted.IsShowable where
  database_semicolon := by decide
  database_stop := (tight_of_all rfl).stop
  zone := ⟨by decide, by decide⟩
  keys := by
    rintro _ (_ | ⟨_, _ | ⟨_, ⟨⟩⟩⟩)
    · exact ⟨tight_of_all rfl, by decide, by decide, by decide⟩
    · exact ⟨tight_of_all rfl, by decide, by decide, by decide⟩
  values := by
    rintro _ (_ | ⟨_, _ | ⟨_, ⟨⟩⟩⟩)
    · exact ⟨tight_of_all rfl, by decide⟩
    · exact ⟨tight_of_all rfl, by decide⟩
  distinct := by decide

theorem exists_parse_text_assorted :
    ∃ r, parse assorted.text = .ok r ∧ r.protocol = .file ∧ r.database = "/data:0/a=b" ∧
      r.defaultSchema = true ∧ r.timeZone = ⟨-19800, by decide⟩ ∧
      r.properties = [("", ""), ("trace", "on=all")] ∧ r.text = assorted.text :=
  exists_parse_text isShowable_assorted

end Config

end SqlAccess
