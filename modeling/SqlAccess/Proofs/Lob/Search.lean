import Mathlib.Order.Bounds.Basic
import SqlAccess.Proofs.Lob.Content

/-!
# Searching large objects

A search finds the first position from its start on where the pattern begins, and nothing if the
pattern begins nowhere from there on (`position_first`). Positions count units, so that those of a
character large object count characters, however many bytes each of them takes.

The bytes of a character large object can be searched in its place. In UTF-8 the first byte of a
character is never one that continues another character, so that the bytes of a pattern begin
nowhere but at the first byte of a character (`SelfSynchronizing`).
-/

namespace SqlAccess

variable {α : Type} {units pattern : List α} {start pos n : Nat}

/-! ## The first occurrence -/

/-- The units from a position on begin with the pattern. -/
def BeginsAt (units pattern : List α) (pos : Nat) : Prop :=
  pattern <+: units.drop (pos - 1)

namespace Lob

section FirstOccurrence

variable [BEq α] [LawfulBEq α]

/-- Nothing is found exactly if the pattern begins nowhere. -/
theorem firstOccurrence_eq_none_iff :
    firstOccurrence pattern units = none ↔ ∀ k, ¬pattern <+: units.drop k := by
  induction units with
  | nil => cases pattern <;> simp [firstOccurrence]
  | cons u rest ih =>
    rw [firstOccurrence]
    split
    · next hfirst =>
      refine iff_of_false (by simp) fun h => h 0 ?_
      exact List.isPrefixOf_iff_prefix.1 hfirst
    · next hfirst =>
      rw [Option.map_eq_none_iff, ih]
      -- The pattern begins nowhere if not at the front and not in the rest.
      constructor
      · rintro h (_ | k) hbegins
        · exact hfirst (List.isPrefixOf_iff_prefix.2 hbegins)
        · exact h k hbegins
      · intro h k hbegins
        exact h (k + 1) hbegins

/-- Before the first occurrence the pattern begins nowhere. -/
theorem not_prefix_of_lt_firstOccurrence (h : firstOccurrence pattern units = some n) :
    ∀ k < n, ¬pattern <+: units.drop k := by
  induction units generalizing n with
  | nil =>
    rw [firstOccurrence] at h
    split at h <;> cases h
    simp
  | cons u rest ih =>
    rw [firstOccurrence] at h
    split at h
    · cases h
      simp
    · next hfirst =>
      obtain ⟨m, hm, rfl⟩ := Option.map_eq_some_iff.1 h
      -- The search went on, so that the pattern does not begin at once; and the rest is searched
      -- further.
      rintro (_ | k) hk hbegins
      · exact hfirst (List.isPrefixOf_iff_prefix.2 hbegins)
      · exact ih hm k (Nat.lt_of_succ_lt_succ hk) hbegins

/-- The number of units before the first occurrence of a pattern. -/
theorem firstOccurrence_eq_some_iff :
    firstOccurrence pattern units = some n ↔ IsLeast {k | pattern <+: units.drop k} n := by
  have hleast {m : Nat} (h : firstOccurrence pattern units = some m) :
      IsLeast {k | pattern <+: units.drop k} m := by
    refine ⟨List.isPrefixOf_iff_prefix.1 (isPrefixOf_of_firstOccurrence h), fun k hk => ?_⟩
    exact Nat.le_of_not_lt fun hlt => not_prefix_of_lt_firstOccurrence h k hlt hk
  constructor
  · exact hleast
  · intro h
    cases hfound : firstOccurrence pattern units with
    | none => exact absurd h.1 (firstOccurrence_eq_none_iff.1 hfound n)
    | some m => rw [(hleast hfound).unique h]

end FirstOccurrence

end Lob

/-! ## Bytes -/

/-- The bytes of a pattern occur in the bytes of a content only where the pattern occurs, and start
at the first byte of a unit. -/
class SelfSynchronizing (α : Type) [LobUnit α] : Prop where
  encode_append (s t : List α) : LobUnit.encode (s ++ t) = LobUnit.encode s ++ LobUnit.encode t
  exists_boundary {units pattern : List α} {k : Nat} (hpattern : pattern ≠ [])
    (h : LobUnit.encode pattern <+: (LobUnit.encode units).drop k) :
    ∃ n, (LobUnit.encode (units.take n)).length = k ∧ pattern <+: units.drop n

/-! ### Characters in UTF-8 -/

/-- Texts in UTF-8 that are the same start with the same character. -/
theorem utf8EncodeChar_append_inj {c d : Char} {s t : List UInt8}
    (h : String.utf8EncodeChar c ++ s = String.utf8EncodeChar d ++ t) : c = d ∧ s = t := by
  -- The first character is decoded whatever follows it.
  have hdecode (e : Char) (b : List UInt8) :
      (String.utf8EncodeChar e ++ b).toByteArray.utf8DecodeChar? 0 = some e := by
    rw [List.toByteArray_append, ByteArray.utf8DecodeChar?_utf8EncodeChar_append]
  have hsame : some c = some d := by
    rw [← hdecode c s, h, hdecode]
  cases hsame
  exact ⟨rfl, List.append_cancel_left h⟩

/-- The bytes of a pattern are in front of those of a content only if the pattern is. -/
theorem prefix_of_encode {units pattern : List Char}
    (h : LobUnit.encode pattern <+: LobUnit.encode units) : pattern <+: units := by
  change pattern.flatMap String.utf8EncodeChar <+: units.flatMap String.utf8EncodeChar at h
  induction pattern generalizing units with
  | nil => exact List.nil_prefix
  | cons c pattern ih =>
    obtain ⟨rest, hrest⟩ := h
    rw [List.flatMap_cons, List.append_assoc] at hrest
    cases units with
    | nil => exact absurd (List.append_eq_nil_iff.1 hrest).1 String.utf8EncodeChar_ne_nil
    | cons d units =>
      rw [List.flatMap_cons] at hrest
      obtain ⟨rfl, htail⟩ := utf8EncodeChar_append_inj hrest
      exact List.cons_prefix_cons.2 ⟨rfl, ih ⟨rest, htail⟩⟩

/-- Of the bytes of a character, only the first one can start a text in UTF-8. -/
theorem not_encode_prefix_of_inside {c : Char} {pattern : List Char} {bytes : List UInt8} {k : Nat}
    (hpattern : pattern ≠ []) (hpos : 0 < k) (hk : k < (String.utf8EncodeChar c).length) :
    ¬LobUnit.encode pattern <+: (String.utf8EncodeChar c ++ bytes).drop k := by
  obtain ⟨d, rest, rfl⟩ := List.exists_cons_of_ne_nil hpattern
  rintro ⟨after, hafter⟩
  change (d :: rest).flatMap String.utf8EncodeChar ++ after = _ at hafter
  rw [List.flatMap_cons, List.append_assoc, List.drop_append_of_le_length hk.le] at hafter
  have hd : 0 < (String.utf8EncodeChar d).length :=
    List.length_pos_iff.2 String.utf8EncodeChar_ne_nil
  -- Both sides start with a byte: of one character the first, and of the other a later one.
  have hbyte : (String.utf8EncodeChar d)[0] = (String.utf8EncodeChar c)[k] := by
    have hhead := congrArg (·[0]?) hafter
    have hrest : 0 < ((String.utf8EncodeChar c).drop k).length := by
      rw [List.length_drop]
      omega
    rw [List.getElem?_append_left hd, List.getElem?_append_left hrest,
      List.getElem?_drop, Nat.add_zero, List.getElem?_eq_getElem hd,
      List.getElem?_eq_getElem hk] at hhead
    exact Option.some.inj hhead
  have hfirst : (String.utf8EncodeChar d)[0].IsUTF8FirstByte :=
    UInt8.isUTF8FirstByte_getElem_utf8EncodeChar.2 rfl
  rw [hbyte, UInt8.isUTF8FirstByte_getElem_utf8EncodeChar] at hfirst
  exact Nat.lt_irrefl 0 (hfirst ▸ hpos)

instance : SelfSynchronizing Char where
  encode_append _ _ := List.flatMap_append
  exists_boundary {units pattern k} hpattern h := by
    induction units generalizing k with
    | nil =>
      have hnil : LobUnit.encode pattern = [] := by simpa [LobUnit.encode] using h
      obtain ⟨c, rest, rfl⟩ := List.exists_cons_of_ne_nil hpattern
      exact absurd (List.append_eq_nil_iff.1 hnil).1 String.utf8EncodeChar_ne_nil
    | cons c units ih =>
      rcases Nat.eq_zero_or_pos k with rfl | hpos
      · exact ⟨0, rfl, prefix_of_encode h⟩
      · change LobUnit.encode pattern <+:
          (String.utf8EncodeChar c ++ LobUnit.encode units).drop k at h
        rcases Nat.lt_or_ge k (String.utf8EncodeChar c).length with hinside | hbehind
        · exact absurd h (not_encode_prefix_of_inside hpattern hpos hinside)
        · obtain ⟨j, rfl⟩ := Nat.exists_eq_add_of_le hbehind
          rw [List.drop_length_add_append] at h
          obtain ⟨n, hn, hbegins⟩ := ih h
          refine ⟨n + 1, ?_, hbegins⟩
          rw [← hn]
          exact List.length_append

/-! ### Bytes of a binary large object -/

instance : SelfSynchronizing UInt8 where
  encode_append _ _ := rfl
  exists_boundary {units pattern k} hpattern h := by
    change pattern <+: units.drop k at h
    have hk : k < units.length := by
      by_contra hlong
      rw [List.drop_eq_nil_of_le (Nat.le_of_not_lt hlong), List.prefix_nil] at h
      exact hpattern h
    exact ⟨k, List.length_take_of_le hk.le, h⟩

/-! ## Searching bytes -/

/-- The position of the first byte of the unit at a position. -/
def bytePosition [LobUnit α] (units : List α) (pos : Nat) : Nat :=
  (LobUnit.encode (units.take (pos - 1))).length + 1

namespace SelfSynchronizing

variable [LobUnit α] [SelfSynchronizing α]

/-- More units have no fewer bytes. -/
theorem length_encode_take_le {m : Nat} (h : m ≤ n) (units : List α) :
    (LobUnit.encode (units.take m)).length ≤ (LobUnit.encode (units.take n)).length := by
  obtain ⟨d, rfl⟩ := Nat.exists_eq_add_of_le h
  rw [List.take_add, encode_append, List.length_append]
  exact Nat.le_add_right _ _

/-- Behind the bytes of the first units come those of the others. -/
theorem drop_encode (units : List α) (n : Nat) :
    (LobUnit.encode units).drop (LobUnit.encode (units.take n)).length =
      LobUnit.encode (units.drop n) := by
  have hsplit := encode_append (units.take n) (units.drop n)
  rw [List.take_append_drop] at hsplit
  rw [hsplit, List.drop_left]

/-- The bytes of what stands in front stand in front. -/
theorem isPrefix_encode (h : pattern <+: units) :
    LobUnit.encode pattern <+: LobUnit.encode units := by
  obtain ⟨rest, rfl⟩ := h
  rw [encode_append]
  exact List.prefix_append _ _

/-- A pattern that is not empty has bytes. -/
theorem encode_ne_nil (hpattern : pattern ≠ []) : LobUnit.encode pattern ≠ [] := by
  intro hnil
  -- Without bytes, the pattern would occur in any content.
  have hempty : LobUnit.encode pattern <+: (LobUnit.encode ([] : List α)).drop 0 := by
    rw [hnil]
    exact List.nil_prefix
  obtain ⟨n, -, hbegins⟩ := exists_boundary hpattern hempty
  rw [List.drop_nil, List.prefix_nil] at hbegins
  exact hpattern hbegins

/-- The first byte of a unit is at a position of the bytes. -/
theorem isPosition_bytePosition (units : List α) (pos : Nat) :
    IsPosition (LobUnit.encode units) (bytePosition units pos) := by
  have hle := length_encode_take_le (Nat.le_add_right (pos - 1) units.length) units
  rw [List.take_of_length_le (Nat.le_add_left _ _)] at hle
  exact ⟨Nat.le_add_left _ _, Nat.succ_le_succ hle⟩

/-- The bytes between two units are those of the units between them. -/
theorem bytePosition_add (hstart : 1 ≤ start) (units : List α) (n : Nat) :
    bytePosition units (start + n) =
      bytePosition units start + (LobUnit.encode ((units.drop (start - 1)).take n)).length := by
  have hbefore : start + n - 1 = start - 1 + n := by omega
  rw [bytePosition, bytePosition, hbefore, List.take_add, encode_append, List.length_append]
  omega

/-- The first occurrence of a pattern is where its bytes occur first. -/
theorem firstOccurrence_encode [BEq α] [LawfulBEq α] (hpattern : pattern ≠ []) (units : List α) :
    Lob.firstOccurrence (LobUnit.encode pattern) (LobUnit.encode units) =
      (Lob.firstOccurrence pattern units).map fun n =>
        (LobUnit.encode (units.take n)).length := by
  cases hfound : Lob.firstOccurrence pattern units with
  | none =>
    rw [Option.map_none, Lob.firstOccurrence_eq_none_iff]
    intro k hk
    -- An occurrence of the bytes would be one of the pattern.
    obtain ⟨n, -, hbegins⟩ := exists_boundary hpattern hk
    exact Lob.firstOccurrence_eq_none_iff.1 hfound n hbegins
  | some n =>
    obtain ⟨hbegins, hleast⟩ := Lob.firstOccurrence_eq_some_iff.1 hfound
    rw [Option.map_some, Lob.firstOccurrence_eq_some_iff]
    constructor
    · show LobUnit.encode pattern <+: _
      rw [drop_encode]
      exact isPrefix_encode hbegins
    · intro k hk
      -- The bytes occur only where the pattern does, and there no earlier.
      obtain ⟨m, rfl, hm⟩ := exists_boundary hpattern hk
      exact length_encode_take_le (hleast hm) units

end SelfSynchronizing

/-! ## Positions -/

/-- What begins behind the start begins in the rest of the content from there. -/
theorem beginsAt_add (hstart : 1 ≤ start) :
    BeginsAt units pattern (start + n) ↔ pattern <+: (units.drop (start - 1)).drop n := by
  have hbefore : start + n - 1 = start - 1 + n := by omega
  rw [BeginsAt, List.drop_drop, hbefore]

/-- The first place in the rest of a content is the first position from its start on. -/
theorem isLeast_beginsAt_iff (hstart : 1 ≤ start) :
    IsLeast {q | start ≤ q ∧ BeginsAt units pattern q} (start + n) ↔
      IsLeast {k | pattern <+: (units.drop (start - 1)).drop k} n := by
  constructor
  · rintro ⟨⟨-, hbegins⟩, hleast⟩
    refine ⟨(beginsAt_add hstart).1 hbegins, fun k hk => ?_⟩
    exact Nat.le_of_add_le_add_left (hleast ⟨Nat.le_add_right .., (beginsAt_add hstart).2 hk⟩)
  · rintro ⟨hbegins, hleast⟩
    refine ⟨⟨Nat.le_add_right .., (beginsAt_add hstart).2 hbegins⟩, ?_⟩
    rintro q ⟨hq, hbegins⟩
    obtain ⟨k, rfl⟩ := Nat.exists_eq_add_of_le hq
    exact Nat.add_le_add_left (hleast ((beginsAt_add hstart).1 hbegins)) start

/-- A search for a pattern that is not empty looks at the rest of the content from its start on. -/
theorem Lob.position_of_ne_nil [BEq α] [LobUnit α] (hpattern : pattern ≠ [])
    (h : IsPosition units start) :
    (ofList units).position pattern start =
      .ok ((firstOccurrence pattern (units.drop (start - 1))).map (start + ·)) := by
  rw [position_ofList h]
  split
  · next hend =>
    -- At the end there is no room for the pattern.
    rw [hend.1, List.drop_length, firstOccurrence, if_neg (by simpa using hpattern),
      Option.map_none]
  · have hcount : (fun n => start - 1 + n + 1) = (start + ·) := by
      funext n
      have := h.1
      omega
    rw [hcount]

/-- For a pattern that is not empty, a search finds the least position from its start on where the
pattern begins, and nothing exactly if there is none. It finds the same for a large object that
holds the pattern. Positions count units: the same search on the bytes finds the first byte of the
unit that is found, however many bytes the units take. -/
theorem position_first [BEq α] [LawfulBEq α] [LobUnit α] [SelfSynchronizing α]
    {units pattern : List α} {start : Nat} (hpattern : pattern ≠ [])
    (hstart : IsPosition units start) :
    ∃ found : Option Nat,
      (Lob.ofList units).position pattern start = .ok found ∧
      (Lob.ofList units).positionOf (.ofList pattern) start = .ok found ∧
      (∀ p, found = some p ↔ IsLeast {q | start ≤ q ∧ BeginsAt units pattern q} p) ∧
      (found = none ↔ ∀ q, start ≤ q → ¬BeginsAt units pattern q) ∧
      (Lob.ofList (LobUnit.encode units)).position (LobUnit.encode pattern)
          (bytePosition units start) = .ok (found.map (bytePosition units)) := by
  have hfirst := hstart.1
  refine ⟨_, Lob.position_of_ne_nil hpattern hstart, ?_, fun p => ?_, ?_, ?_⟩
  · rw [Lob.positionOf_of_not_freed _ rfl]
    exact Lob.position_of_ne_nil hpattern hstart
  · -- The first place in the rest, counted from the start, is the first position.
    simp only [Option.map_eq_some_iff, Lob.firstOccurrence_eq_some_iff]
    constructor
    · rintro ⟨n, hleast, rfl⟩
      exact (isLeast_beginsAt_iff hfirst).2 hleast
    · intro hleast
      obtain ⟨n, rfl⟩ := Nat.exists_eq_add_of_le hleast.1.1
      exact ⟨n, (isLeast_beginsAt_iff hfirst).1 hleast, rfl⟩
  · rw [Option.map_eq_none_iff, Lob.firstOccurrence_eq_none_iff]
    constructor
    · intro hnone q hq hbegins
      obtain ⟨n, rfl⟩ := Nat.exists_eq_add_of_le hq
      exact hnone n ((beginsAt_add hfirst).1 hbegins)
    · intro hnone n hbegins
      exact hnone (start + n) (Nat.le_add_right ..) ((beginsAt_add hfirst).2 hbegins)
  · have hrest : (LobUnit.encode units).drop (bytePosition units start - 1) =
        LobUnit.encode (units.drop (start - 1)) :=
      SelfSynchronizing.drop_encode units (start - 1)
    rw [Lob.position_of_ne_nil (SelfSynchronizing.encode_ne_nil hpattern)
      (SelfSynchronizing.isPosition_bytePosition units start), hrest,
      SelfSynchronizing.firstOccurrence_encode hpattern, Option.map_map, Option.map_map]
    -- The bytes before the unit that is found are those before the start and those from there on.
    have hbytes : (bytePosition units start + ·) ∘
        (fun n => (LobUnit.encode ((units.drop (start - 1)).take n)).length) =
          bytePosition units ∘ (start + ·) := by
      funext n
      exact (SelfSynchronizing.bytePosition_add hfirst units n).symm
    rw [hbytes]

/-- A pattern of three characters that overlaps itself, behind and among characters of one to four
bytes; and a pattern of two bytes. -/
theorem position_first_widths :
    let text : List Char := ['a', 'é', '𝄞', 'é', '𝄞', 'é']
    let word : List Char := ['é', '𝄞', 'é']
    let bytes : List UInt8 := [1, 1, 2]
    let pair : List UInt8 := [1, 2]
    (word ≠ [] ∧ IsPosition text 3 ∧ IsPosition text 5 ∧ pair ≠ [] ∧ IsPosition bytes 1) ∧
      (Lob.ofList text).position word 3 = .ok (some 4) ∧
      IsLeast {q | 3 ≤ q ∧ BeginsAt text word q} 4 ∧
      (Lob.ofList (LobUnit.encode text)).position (LobUnit.encode word) 4 = .ok (some 8) ∧
      (Lob.ofList text).positionOf (.ofList word) 5 = .ok none ∧
      (∀ q, 5 ≤ q → ¬BeginsAt text word q) ∧
      (Lob.ofList bytes).position pair 1 = .ok (some 2) ∧
      IsLeast {q | 1 ≤ q ∧ BeginsAt bytes pair q} 2 := by
  intro text word bytes pair
  have hword : word ≠ [] := by decide
  have hthird : IsPosition text 3 := by decide
  have hfifth : IsPosition text 5 := by decide
  have hpair : pair ≠ [] := by decide
  have hfirst : IsPosition bytes 1 := by decide
  obtain ⟨found, hsearch, -, hleast, -, hbytes⟩ := position_first hword hthird
  obtain ⟨found', hsearch', hsame, -, hnone, -⟩ := position_first hword hfifth
  obtain ⟨found'', hsearch'', -, hleast'', -⟩ :=
    position_first hpair hfirst
  have hfound : (Lob.ofList text).position word 3 = .ok (some 4) := by decide +kernel
  have hfound' : (Lob.ofList text).position word 5 = .ok none := by decide +kernel
  have hfound'' : (Lob.ofList bytes).position pair 1 = .ok (some 2) := by decide +kernel
  cases hfound.symm.trans hsearch
  cases hfound'.symm.trans hsearch'
  cases hfound''.symm.trans hsearch''
  exact ⟨⟨hword, hthird, hfifth, hpair, hfirst⟩, hfound, (hleast 4).1 rfl, hbytes, hsame, hnone.1 rfl,
    hfound'', (hleast'' 2).1 rfl⟩

end SqlAccess
