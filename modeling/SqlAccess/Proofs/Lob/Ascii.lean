import Mathlib.Data.List.Forall2
import SqlAccess.Proofs.Lob.Content

/-!
# Large objects of ASCII characters

A character of ASCII is a single byte, so that a character large object of such characters and a
binary one of their bytes are two forms of one thing. Both are lists of units with the same calls
(`LobCall.Answers`), and taking characters to bytes keeps what these calls tell and leave
(`LobCall.Answers.toBytes`).

Searching is left to each of them, and here they differ in one case. Behind the last unit there is
no room for a pattern but the empty one, which is found among bytes and not among characters
(`Lob.position_nothing_at_end`). The main result is that the two agree at every step of a run of
calls exactly if the run never comes to such a search (`run_ascii`).
-/

namespace SqlAccess

/-! ## Characters as bytes -/

/-- All characters are of ASCII. -/
def IsAscii (s : List Char) : Prop :=
  ∀ c ∈ s, c.toNat < 128

/-- The bytes of characters of ASCII. -/
def asciiBytes (s : List Char) : List UInt8 :=
  s.map Char.toUInt8

@[simp]
theorem length_asciiBytes (s : List Char) : (asciiBytes s).length = s.length := by
  simp [asciiBytes]

theorem drop_length_asciiBytes (s : List Char) : (asciiBytes s).drop s.length = [] :=
  List.drop_eq_nil_of_le (by simp)

/-- Different characters of ASCII have different bytes. -/
theorem toUInt8_inj {c d : Char} (hc : c.toNat < 128) (hd : d.toNat < 128) :
    c.toUInt8 = d.toUInt8 ↔ c = d := by
  have htoNat {e : Char} (he : e.toNat < 128) : e.toUInt8.toNat = e.toNat := by
    rw [← Char.toUInt8_val, UInt32.toNat_toUInt8]
    exact Nat.mod_eq_of_lt (Nat.lt_trans he (by decide))
  rw [← UInt8.toNat_inj, htoNat hc, htoNat hd, Char.toNat_inj]

namespace IsAscii

variable {s t : List Char}

theorem cons_iff {c : Char} : IsAscii (c :: s) ↔ c.toNat < 128 ∧ IsAscii s :=
  List.forall_mem_cons

theorem take (hs : IsAscii s) (n : Nat) : IsAscii (s.take n) :=
  fun c hc => hs c (List.mem_of_mem_take hc)

theorem drop (hs : IsAscii s) (n : Nat) : IsAscii (s.drop n) :=
  fun c hc => hs c (List.mem_of_mem_drop hc)

/-- In UTF-8 a character of ASCII is the byte with its number. -/
theorem encode_eq (hs : IsAscii s) : LobUnit.encode s = asciiBytes s := by
  change s.flatMap String.utf8EncodeChar = asciiBytes s
  induction s with
  | nil => rfl
  | cons c s ih =>
    obtain ⟨hc, hs⟩ := cons_iff.1 hs
    -- Such a character takes one byte in UTF-8.
    have hsize : c.utf8Size = 1 := by
      rw [Char.utf8Size_eq_one_iff, UInt32.le_iff_toNat_le]
      exact Nat.le_of_lt_succ hc
    rw [List.flatMap_cons, String.utf8EncodeChar_eq_singleton hsize, Char.toUInt8_val, ih hs]
    rfl

/-- Characters of ASCII are in front of others exactly if their bytes are. -/
theorem isPrefixOf_eq (hs : IsAscii s) (ht : IsAscii t) :
    (asciiBytes s).isPrefixOf (asciiBytes t) = s.isPrefixOf t := by
  induction s generalizing t with
  | nil => rfl
  | cons c s ih =>
    cases t with
    | nil => rfl
    | cons d t =>
      obtain ⟨hc, hs⟩ := cons_iff.1 hs
      obtain ⟨hd, ht⟩ := cons_iff.1 ht
      -- The first characters are the same exactly if their bytes are.
      have hfirst : (c.toUInt8 == d.toUInt8) = (c == d) := by
        rw [Bool.eq_iff_iff, beq_iff_eq, beq_iff_eq, toUInt8_inj hc hd]
      change (c.toUInt8 == d.toUInt8 && (asciiBytes s).isPrefixOf (asciiBytes t)) =
        (c == d && s.isPrefixOf t)
      rw [hfirst, ih hs ht]

/-- A pattern occurs where its bytes do. -/
theorem firstOccurrence_eq (hs : IsAscii s) (ht : IsAscii t) :
    Lob.firstOccurrence (asciiBytes s) (asciiBytes t) = Lob.firstOccurrence s t := by
  induction t with
  | nil => simp [asciiBytes, Lob.firstOccurrence]
  | cons d t ih =>
    -- At each place the two begin alike, so that the first place is the same.
    have hstart := isPrefixOf_eq hs ht
    obtain ⟨-, ht⟩ := cons_iff.1 ht
    change (if (asciiBytes s).isPrefixOf (asciiBytes (d :: t)) then some 0
      else (Lob.firstOccurrence (asciiBytes s) (asciiBytes t)).map (· + 1)) = _
    rw [hstart, ih ht]
    rfl

end IsAscii

/-! ## The content that is written -/

section Map

variable {α β : Type} {units value after : List α} {pos : Nat}

@[simp]
theorem unitAt_map (f : α → β) (units : List α) (pos : Nat) :
    unitAt (units.map f) pos = (unitAt units pos).map f := by
  cases pos with
  | zero => rfl
  | succ i => exact List.getElem?_map

/-- To overwrite a content and to map it can be done in either order. -/
theorem Overwritten.map (h : Overwritten units pos value after) (f : α → β) :
    Overwritten (units.map f) pos (value.map f) (after.map f) where
  length := by simpa using h.length
  unitAt_value k hk hle := by
    rw [unitAt_map, unitAt_map, h.unitAt_value k hk (by simpa using hle)]
  unitAt_other q hq := by
    rw [unitAt_map, unitAt_map, h.unitAt_other q (by simpa using hq)]

/-- There is only one content that has a value written over it. -/
theorem Overwritten.eq {other : List α} (hpos : 1 ≤ pos) (h : Overwritten units pos value after)
    (h' : Overwritten units pos value other) : after = other := by
  apply List.ext_getElem?
  intro i
  change unitAt after (i + 1) = unitAt other (i + 1)
  -- A position is one of the value, or one before or behind it.
  by_cases hvalue : pos ≤ i + 1 ∧ i + 1 < pos + value.length
  · obtain ⟨k, hk⟩ : ∃ k, i + 1 = pos - 1 + k := ⟨i + 1 - (pos - 1), by omega⟩
    rw [hk, h.unitAt_value k (by omega) (by omega), h'.unitAt_value k (by omega) (by omega)]
  · rw [h.unitAt_other (i + 1) (by omega), h'.unitAt_other (i + 1) (by omega)]

theorem mem_of_unitAt {units : List α} {u : α} (h : unitAt units pos = some u) : u ∈ units := by
  cases pos with
  | zero => cases h
  | succ i => exact List.mem_of_getElem? h

/-- What is in the content was in it, or is in the value. -/
theorem Overwritten.mem {u : α} (hpos : 1 ≤ pos) (h : Overwritten units pos value after)
    (hu : u ∈ after) : u ∈ units ∨ u ∈ value := by
  obtain ⟨i, hi⟩ := List.getElem?_of_mem hu
  have hunit : unitAt after (i + 1) = some u := hi
  by_cases hvalue : pos ≤ i + 1 ∧ i + 1 < pos + value.length
  · obtain ⟨k, hk⟩ : ∃ k, i + 1 = pos - 1 + k := ⟨i + 1 - (pos - 1), by omega⟩
    rw [hk, h.unitAt_value k (by omega) (by omega)] at hunit
    exact .inr (mem_of_unitAt hunit)
  · rw [h.unitAt_other (i + 1) (by omega)] at hunit
    exact .inl (mem_of_unitAt hunit)

end Map

/-! ## Calls on characters and on bytes -/

/-- The binary large object with the bytes of a character one. -/
def Lob.toBytes (l : Clob) : Blob :=
  ⟨asciiBytes l.units, l.freed⟩

/-- Freed or not, a large object and the one of its bytes hold the same. -/
theorem Lob.toBytes_holding (now : Option (List Char)) :
    (holding now).toBytes = holding (now.map asciiBytes) := by
  cases now <;> rfl

/-- What is told of characters, told of their bytes. -/
def LobReply.toBytes : LobReply Char → LobReply UInt8
  | done => .done
  | count n => .count n
  | flag b => .flag b
  | units s => .units (asciiBytes s)
  | bytes b => .bytes b
  | found pos => .found pos

/-- Two answers tell the same, or neither call is accepted. -/
inductive Corresponds : Except Error (LobReply Char) → Except Error (LobReply UInt8) → Prop
  | told (a : LobReply Char) : Corresponds (.ok a) (.ok a.toBytes)
  | refused (s t : String) :
      Corresponds (.error (.invalidArgument s)) (.error (.invalidArgument t))

namespace LobCall

/-- The call on bytes for a call on characters. -/
def toBytes : LobCall Char → LobCall UInt8
  | length => .length
  | read pos count => .read pos count
  | content => .content
  | stream => .stream
  | streamAt pos count => .streamAt pos count
  | position pattern start => .position (asciiBytes pattern) start
  | positionOf pattern start => .positionOf pattern.toBytes start
  | write pos value => .write pos (asciiBytes value)
  | truncate count => .truncate count
  | free => .free
  | isFreed => .isFreed

/-- The characters that the call is given are of ASCII. -/
def HasAsciiArguments : LobCall Char → Prop
  | position pattern _ => IsAscii pattern
  | positionOf pattern _ => IsAscii pattern.units
  | write _ value => IsAscii value
  | _ => True

/-- The call looks for a pattern. -/
def IsSearch : LobCall Char → Prop
  | position _ _ => True
  | positionOf _ _ => True
  | _ => False

/-- The call looks for the empty pattern behind the last unit of the content. -/
def SeeksNothingAtEnd (l : Clob) : LobCall Char → Prop
  | position pattern start => l.freed = false ∧ pattern = [] ∧ start = l.units.length + 1
  | positionOf pattern start =>
    l.freed = false ∧ pattern.freed = false ∧ pattern.units = [] ∧ start = l.units.length + 1
  | _ => False

variable {now : Option (List Char)} {call : LobCall Char}

/-- A call is allowed on bytes exactly if it is allowed on their characters. -/
theorem isAllowed_toBytes : call.toBytes.IsAllowed (now.map asciiBytes) ↔ call.IsAllowed now := by
  cases now <;> cases call <;> simp [toBytes, IsAllowed, IsPosition, Lob.toBytes]

/-- A search for nothing at the end is allowed. -/
theorem SeeksNothingAtEnd.isAllowed (h : call.SeeksNothingAtEnd (.holding now)) :
    call.IsAllowed now := by
  cases now with
  | none => cases call <;> simp [SeeksNothingAtEnd, Lob.holding] at h
  | some units =>
    cases call with
    | position pattern start =>
      obtain ⟨-, -, rfl⟩ := h
      exact ⟨Nat.le_add_left .., Nat.le_refl _⟩
    | positionOf pattern start =>
      obtain ⟨-, hfreed, -, rfl⟩ := h
      exact ⟨hfreed, Nat.le_add_left .., Nat.le_refl _⟩
    | _ => exact h.elim

/-- Only a search can seek nothing. -/
theorem not_seeksNothingAtEnd_of_not_isSearch (h : ¬call.IsSearch) (l : Clob) :
    ¬call.SeeksNothingAtEnd l := by
  cases call <;> simp_all [IsSearch, SeeksNothingAtEnd]

/-- What a call tells of characters and leaves of them is what it tells of their bytes and leaves of
these; only where a pattern is found is not said here. -/
theorem Answers.toBytes {after : Option (List Char)} {after' : Option (List UInt8)}
    {a : LobReply Char} {a' : LobReply UInt8} (hnow : ∀ units ∈ now, IsAscii units)
    (hcall : call.HasAsciiArguments) (hallowed : call.IsAllowed now)
    (h : call.Answers LobUnit.encode now a after)
    (h' : call.toBytes.Answers LobUnit.encode (now.map asciiBytes) a' after') :
    after' = after.map asciiBytes ∧ (∀ units ∈ after, IsAscii units) ∧
      (¬call.IsSearch → a' = a.toBytes) := by
  cases now with
  | none =>
    cases call with
    | free | isFreed =>
      obtain ⟨rfl, rfl⟩ := h
      obtain ⟨rfl, rfl⟩ := h'
      exact ⟨rfl, nofun, fun _ => rfl⟩
    | _ => exact h.elim
  | some units =>
    have hunits : IsAscii units := hnow units rfl
    cases call with
    | length | content | isFreed =>
      obtain ⟨rfl, rfl⟩ := h
      obtain ⟨rfl, rfl⟩ := h'
      exact ⟨rfl, hnow, fun _ => by simp [LobReply.toBytes]⟩
    | read pos count =>
      obtain ⟨rfl, rfl⟩ := h
      obtain ⟨rfl, rfl⟩ := h'
      exact ⟨rfl, hnow, fun _ => by simp [LobReply.toBytes, unitsFrom, asciiBytes]⟩
    | stream =>
      obtain ⟨rfl, rfl⟩ := h
      obtain ⟨rfl, rfl⟩ := h'
      exact ⟨rfl, hnow, fun _ => congrArg LobReply.bytes hunits.encode_eq.symm⟩
    | streamAt pos count =>
      obtain ⟨rfl, rfl⟩ := h
      obtain ⟨rfl, rfl⟩ := h'
      have hread : unitsFrom (asciiBytes units) pos count =
          LobUnit.encode (unitsFrom units pos count) := by
        rw [unitsFrom, unitsFrom, ((hunits.drop _).take _).encode_eq]
        simp [asciiBytes]
      exact ⟨rfl, hnow, fun _ => congrArg LobReply.bytes hread⟩
    | position pattern start | positionOf pattern start =>
      obtain ⟨-, rfl⟩ := h
      obtain ⟨-, rfl⟩ := h'
      exact ⟨rfl, hnow, fun hsearch => absurd trivial hsearch⟩
    | write pos value =>
      obtain ⟨rfl, written, hwritten, rfl⟩ := h
      obtain ⟨rfl, written', hwritten', rfl⟩ := h'
      have hpos : 1 ≤ pos := hallowed.1
      -- Two contents with the value written over them are one.
      have hsame : written' = asciiBytes written := hwritten'.eq hpos (hwritten.map Char.toUInt8)
      refine ⟨congrArg some hsame, ?_, fun _ => by simp [LobReply.toBytes]⟩
      rintro _ ⟨⟩ c hc
      exact (hwritten.mem hpos hc).elim (hunits c) (hcall c)
    | truncate count =>
      obtain ⟨rfl, rfl⟩ := h
      obtain ⟨rfl, rfl⟩ := h'
      refine ⟨?_, ?_, fun _ => rfl⟩
      · simp [asciiBytes]
      · rintro _ ⟨⟩
        exact hunits.take count
    | free =>
      obtain ⟨rfl, rfl⟩ := h
      obtain ⟨rfl, rfl⟩ := h'
      exact ⟨rfl, nofun, fun _ => rfl⟩

end LobCall

/-! ## Searching -/

namespace Lob

variable {units pattern : List Char} {start : Nat}

/-- A pattern is found where its bytes are, if it is not empty or there is a unit to start with. -/
theorem position_asciiBytes (hunits : IsAscii units) (hpattern : IsAscii pattern)
    (h : IsPosition units start) (hne : ¬(pattern = [] ∧ start = units.length + 1)) :
    (ofList (asciiBytes units)).position (asciiBytes pattern) start =
      (ofList units).position pattern start := by
  have hbytes : IsPosition (asciiBytes units) start := by simpa [IsPosition] using h
  rw [position_ofList h, position_ofList hbytes]
  by_cases hend : start - 1 = units.length
  · -- No unit is left, and so there is no room for a pattern of at least one.
    have hempty : pattern ≠ [] := by
      rintro rfl
      have hfirst := h.1
      exact hne ⟨rfl, by omega⟩
    rw [hend, drop_length_asciiBytes]
    simp [LobUnit.foundAtEnd, firstOccurrence, asciiBytes, hempty]
  · -- In front of some unit, both look at what is left.
    have hfound := hpattern.firstOccurrence_eq (hunits.drop (start - 1))
    simp only [asciiBytes, List.map_drop] at hfound
    simp [hend, hfound, asciiBytes]

/-- Behind the last unit, the empty pattern is found among bytes and not among characters. -/
theorem position_nothing_at_end (units : List Char) :
    (ofList units).position [] (units.length + 1) = .ok none ∧
      (ofList (asciiBytes units)).position [] (units.length + 1) =
        .ok (some (units.length + 1)) := by
  have hchars : IsPosition units (units.length + 1) := ⟨by omega, Nat.le_refl _⟩
  have hbytes : IsPosition (asciiBytes units) (units.length + 1) := by simp [IsPosition]
  rw [position_ofList hchars, position_ofList hbytes, Nat.add_sub_cancel, drop_length_asciiBytes]
  simp [LobUnit.foundAtEnd, firstOccurrence]

/-- Searches agree unless they seek nothing behind the last unit. -/
theorem corresponds_position (hunits : IsAscii units) (hpattern : IsAscii pattern)
    (h : IsPosition units start) :
    Corresponds (((ofList units).position pattern start).map .found)
        (((ofList (asciiBytes units)).position (asciiBytes pattern) start).map .found) ↔
      ¬(pattern = [] ∧ start = units.length + 1) := by
  by_cases hne : pattern = [] ∧ start = units.length + 1
  · obtain ⟨rfl, rfl⟩ := hne
    obtain ⟨hnowhere, hend⟩ := position_nothing_at_end units
    have hfound : (ofList (asciiBytes units)).position (asciiBytes []) (units.length + 1) =
        .ok (some (units.length + 1)) := hend
    rw [hnowhere, hfound]
    refine iff_of_false ?_ (by simp)
    rintro ⟨⟩
  · obtain ⟨found, hfound⟩ := exists_position_ofList h pattern
    rw [position_asciiBytes hunits hpattern h hne, hfound]
    exact iff_of_true (.told (.found found)) hne

end Lob

/-! ## One call, and runs of calls -/

namespace LobCall

variable {now : Option (List Char)} {call : LobCall Char}

/-- A search tells the same of characters and of bytes, unless it seeks nothing at the end. -/
theorem corresponds_search (hnow : ∀ units ∈ now, IsAscii units) (hcall : call.HasAsciiArguments)
    (hallowed : call.IsAllowed now) (hsearch : call.IsSearch) :
    Corresponds (call.perform (.holding now)).1
        (call.toBytes.perform (.holding (now.map asciiBytes))).1 ↔
      ¬call.SeeksNothingAtEnd (.holding now) := by
  cases now with
  | none => cases call <;> first | exact hallowed.elim | exact hsearch.elim
  | some units =>
    have hunits : IsAscii units := hnow units rfl
    cases call with
    | position pattern start =>
      have hseeks : (position pattern start).SeeksNothingAtEnd (.holding (some units)) ↔
          pattern = [] ∧ start = units.length + 1 := by
        simp [SeeksNothingAtEnd, Lob.holding, Lob.ofList]
      rw [hseeks]
      exact Lob.corresponds_position hunits hcall hallowed
    | positionOf pattern start =>
      -- A pattern that was not freed is sought by its units.
      obtain ⟨hfreed, hstart⟩ := hallowed
      have hbytes : pattern.toBytes.freed = false := hfreed
      have hseeks : (positionOf pattern start).SeeksNothingAtEnd (.holding (some units)) ↔
          pattern.units = [] ∧ start = units.length + 1 := by
        simp [SeeksNothingAtEnd, Lob.holding, Lob.ofList, hfreed]
      rw [hseeks]
      simp only [perform, toBytes, Lob.positionOf_of_not_freed _ hfreed,
        Lob.positionOf_of_not_freed _ hbytes]
      exact Lob.corresponds_position hunits hcall hstart
    | _ => exact hsearch.elim

/-- A call and the one on the bytes leave the same, and tell the same unless they seek nothing behind
the last unit. -/
theorem exists_perform_toBytes (hnow : ∀ units ∈ now, IsAscii units)
    (hcall : call.HasAsciiArguments) :
    ∃ after, (∀ units ∈ after, IsAscii units) ∧
      (call.perform (.holding now)).2 = .holding after ∧
      (call.toBytes.perform (.holding (now.map asciiBytes))).2 =
        .holding (after.map asciiBytes) ∧
      (Corresponds (call.perform (.holding now)).1
          (call.toBytes.perform (.holding (now.map asciiBytes))).1 ↔
        ¬call.SeeksNothingAtEnd (.holding now)) := by
  by_cases hallowed : call.IsAllowed now
  · obtain ⟨a, after, ha, hchars⟩ := perform_of_isAllowed hallowed
    obtain ⟨a', after', ha', hbytes⟩ := perform_of_isAllowed (isAllowed_toBytes.2 hallowed)
    obtain ⟨hafter, hascii, htold⟩ := ha.toBytes hnow hcall hallowed ha'
    refine ⟨after, hascii, by rw [hchars], by rw [hbytes, hafter], ?_⟩
    -- Only a search can tell something different.
    by_cases hsearch : call.IsSearch
    · exact corresponds_search hnow hcall hallowed hsearch
    · rw [hchars, hbytes, htold hsearch]
      exact iff_of_true (.told a) (not_seeksNothingAtEnd_of_not_isSearch hsearch _)
  · -- What is refused for characters is refused for bytes, and changes neither.
    obtain ⟨s, hchars⟩ := perform_of_not_isAllowed hallowed
    obtain ⟨t, hbytes⟩ := perform_of_not_isAllowed (mt isAllowed_toBytes.1 hallowed)
    refine ⟨now, hnow, by rw [hchars], by rw [hbytes], ?_⟩
    rw [hchars, hbytes]
    exact iff_of_true (.refused s t) fun hseeks => hallowed hseeks.isAllowed

end LobCall

/-- A run of calls comes to seek nothing behind the last unit. -/
def Lob.ComesToSeekNothing (l : Clob) : List (LobCall Char) → Prop
  | [] => False
  | call :: calls => call.SeeksNothingAtEnd l ∨ ComesToSeekNothing (call.perform l).2 calls

/-- What holds of one call holds of all calls of a run. -/
theorem Lob.run_toBytes {now : Option (List Char)} (hnow : ∀ units ∈ now, IsAscii units)
    {calls : List (LobCall Char)} (hcalls : ∀ call ∈ calls, call.HasAsciiArguments) :
    let chars := (holding now).run calls
    let bytes := (holding (now.map asciiBytes)).run (calls.map LobCall.toBytes)
    bytes.2 = chars.2.toBytes ∧
      (List.Forall₂ Corresponds chars.1 bytes.1 ↔ ¬(holding now).ComesToSeekNothing calls) := by
  induction calls generalizing now with
  | nil => exact ⟨(toBytes_holding now).symm, iff_of_true .nil not_false⟩
  | cons call calls ih =>
    rw [List.forall_mem_cons] at hcalls
    -- Both hold the same behind the first call, and the rest of the run starts there.
    obtain ⟨after, hafter, hchars, hbytes, htold⟩ := call.exists_perform_toBytes hnow hcalls.1
    obtain ⟨hlast, hrest⟩ := ih hafter hcalls.2
    simp only [run, List.map_cons, List.forall₂_cons, ComesToSeekNothing, not_or, hchars, hbytes]
    exact ⟨hlast, and_congr htold hrest⟩

/-- A character large object of ASCII and a binary one of its bytes go through a run of calls
together. They hold the same after it, and tell the same at every step, exactly if no call seeks
nothing behind the last unit. -/
theorem run_ascii {text : List Char} (htext : IsAscii text) {calls : List (LobCall Char)}
    (hcalls : ∀ call ∈ calls, call.HasAsciiArguments) :
    let chars := (Lob.ofList text).run calls
    let bytes := (Lob.ofList (asciiBytes text)).run (calls.map LobCall.toBytes)
    bytes.2 = chars.2.toBytes ∧
      (List.Forall₂ Corresponds chars.1 bytes.1 ↔
        ¬(Lob.ofList text).ComesToSeekNothing calls) := by
  have hnow : ∀ units ∈ some text, IsAscii units := by
    rintro _ ⟨⟩
    exact htext
  exact Lob.run_toBytes hnow hcalls

/-- A text is appended to, searched, cut and given up; one call is refused, and one seeks nothing
where a character follows. -/
theorem run_ascii_append :
    let calls : List (LobCall Char) :=
      [.write 3 ['c'], .position ['b', 'c'] 1, .position [] 3, .truncate 9, .read 2 5, .free]
    let chars := (Lob.ofList ['a', 'b']).run calls
    let bytes := (Lob.ofList [97, 98]).run (calls.map LobCall.toBytes)
    IsAscii ['a', 'b'] ∧ (∀ call ∈ calls, call.HasAsciiArguments) ∧
      bytes.2 = ⟨[], true⟩ ∧ List.Forall₂ Corresponds chars.1 bytes.1 := by
  intro calls chars bytes
  have hascii : IsAscii ['a', 'b'] := by simp [IsAscii]
  have hcalls : ∀ call ∈ calls, call.HasAsciiArguments := by
    simp [calls, LobCall.HasAsciiArguments, IsAscii]
  have hseeks : ¬(Lob.ofList ['a', 'b']).ComesToSeekNothing calls := by
    rintro (h | h | h | h | h | h | h)
    · exact h
    · exact absurd h.2.1 (by decide)
    · -- There are three units by then.
      exact absurd h.2.2 (by decide)
    · exact h
    · exact h
    · exact h
    · exact h
  obtain ⟨hlast, htold⟩ := run_ascii hascii hcalls
  exact ⟨hascii, hcalls, hlast, htold.2 hseeks⟩

/-- Nothing is found behind the last byte, and not behind the last character. -/
theorem run_ascii_nothing_at_end :
    ((Lob.ofList ['a', 'b']).run [.position [] 3]).1 = [.ok (.found none)] ∧
    ((Lob.ofList (asciiBytes ['a', 'b'])).run [.position [] 3]).1 = [.ok (.found (some 3))] ∧
    ¬∀ (text : List Char) (calls : List (LobCall Char)), IsAscii text →
      (∀ call ∈ calls, call.HasAsciiArguments) →
      List.Forall₂ Corresponds ((Lob.ofList text).run calls).1
        ((Lob.ofList (asciiBytes text)).run (calls.map LobCall.toBytes)).1 := by
  refine ⟨rfl, rfl, fun h => ?_⟩
  have hcalls : ∀ call ∈ [LobCall.position [] 3], call.HasAsciiArguments := by
    simp [LobCall.HasAsciiArguments, IsAscii]
  have hrun := h ['a', 'b'] [.position [] 3] (by simp [IsAscii]) hcalls
  -- The two answers tell different places.
  obtain ⟨hanswer, -⟩ := List.forall₂_cons.1 hrun
  cases hanswer

end SqlAccess
