import SqlAccess.Config
import SqlAccess.Proofs.Text.Trim

/-!
# Passwords in connection URLs

A password sets one field of a configuration, and no other segment of a URL looks at this field.
So two URLs that differ in the password only are read alike: they are cut at the same places
(`Config.start_passwordUrl`), the segments before the password are the same, and those behind it
keep two configurations that differ in their passwords at that, or fail alike
(`Config.ReadAlike.foldlM`). The main result is that the password is in no error and in nothing that
a configuration shows (`Config.parse_passwordUrl`).
-/

namespace SqlAccess

open SqlAccess.Text SqlAccess.Calendar

/-! ## Cutting -/

namespace Text

theorem splitOn_append_cons (separator : Char) (s t : List Char) :
    (s ++ separator :: t).splitOn separator = s.splitOn separator ++ t.splitOn separator := by
  simp [List.splitOn_eq_splitOnP, List.splitOnP_append_cons]

theorem splitOn_eq_singleton {separator : Char} {s : List Char} (h : separator ∉ s) :
    s.splitOn separator = [s] := by
  rw [List.splitOn_eq_splitOnP, List.splitOnP_eq_singleton]
  intro c hc
  simpa using fun heq : c = separator => h (heq ▸ hc)

/-- A lead ends before a character that it does not have. -/
theorem afterLead_append_cons {lead : List Char} {c : Char} (h : c ∉ lead) (s t : List Char) :
    afterLead lead (s ++ c :: t) = (afterLead lead s).map (· ++ c :: t) := by
  induction lead generalizing s with
  | nil => rfl
  | cons d lead ih =>
    rw [List.mem_cons, not_or] at h
    cases s with
    | nil => simp [afterLead, Ne.symm h.1]
    | cons e s =>
      simp only [List.cons_append, afterLead]
      split
      · exact ih h.2 s
      · rfl

end Text

namespace Config

/-! ## Two readings -/

/-- Both readings fail alike, or they give configurations that differ at most in the password. -/
inductive ReadAlike : Except Error Config → Except Error Config → Prop
  | failed (e : Error) : ReadAlike (.error e) (.error e)
  | read (c : Config) (p q : String) :
      ReadAlike (.ok { c with password := p }) (.ok { c with password := q })

variable (c : Config) (p q : String)

/-- No property is read by the password that there is. -/
theorem readAlike_applyProperty (key value : String) :
    ReadAlike ({ c with password := p }.applyProperty key value)
      ({ c with password := q }.applyProperty key value) := by
  unfold applyProperty
  split
  · exact .read { c with username := value } p q
  · -- The password itself is the same in both behind this.
    exact .read c value value
  · -- A value that cannot be read is shown by the error, and it is the same one.
    split
    · next b _ => exact .read { c with defaultSchema := b } p q
    · exact .failed _
  · split
    · next zone _ => exact .read { c with timeZone := zone } p q
    · exact .failed _
  · split
    · next n _ => exact .read { c with fetchSize := n } p q
    · exact .failed _
  · exact .read { c with logLevel := some value } p q
  · exact .read { c with logFile := some value } p q
  · exact .read { c with properties := c.properties.insert key value } p q

/-- No segment is read by the password that there is. -/
theorem readAlike_applySegment (segment : List Char) :
    ReadAlike ({ c with password := p }.applySegment segment)
      ({ c with password := q }.applySegment segment) := by
  unfold applySegment
  split
  · exact .read c p q
  · split
    · exact .failed _
    · exact readAlike_applyProperty c p q _ _

/-- Segments that follow keep two readings alike. -/
theorem ReadAlike.foldlM {r r' : Except Error Config} (h : ReadAlike r r')
    (segments : List (List Char)) :
    ReadAlike (r >>= segments.foldlM applySegment) (r' >>= segments.foldlM applySegment) := by
  induction segments generalizing r r' with
  | nil => cases h <;> constructor
  | cons segment segments ih =>
    cases h with
    | failed e => exact .failed e
    | read c p q => exact ih (readAlike_applySegment c p q segment)

/-- Whether reading comes to an overflow does not depend on the password before. -/
theorem segmentsOverflow_withPassword (segments : List (List Char)) :
    { c with password := p }.segmentsOverflow segments =
      { c with password := q }.segmentsOverflow segments := by
  induction segments generalizing c p q with
  | nil => rfl
  | cons segment segments ih =>
    unfold segmentsOverflow
    refine congrArg (segmentOverflows segment || ·) ?_
    -- What the segment leaves differs in the password only, or is the same error.
    have hsame := readAlike_applySegment c p q segment
    generalize { c with password := p }.applySegment segment = r at hsame ⊢
    generalize { c with password := q }.applySegment segment = r' at hsame ⊢
    cases hsame with
    | failed e => rfl
    | read c p q => exact ih c p q

/-- Reading some segments and then others comes to an overflow in the first ones, or gets through
them and comes to one in the others. -/
theorem segmentsOverflow_append (first last : List (List Char)) :
    c.segmentsOverflow (first ++ last) =
      (c.segmentsOverflow first ||
        match first.foldlM applySegment c with
        | .ok c => c.segmentsOverflow last
        | .error _ => false) := by
  induction first generalizing c with
  | nil => simp [segmentsOverflow, pure, Except.pure]
  | cons segment first ih =>
    rw [List.cons_append, segmentsOverflow, segmentsOverflow, List.foldlM_cons]
    cases c.applySegment segment with
    | error e => simp [bind, Except.bind]
    | ok c => simp [ih, Bool.or_assoc, bind, Except.bind]

/-! ## The segment of the password -/

/-- The key of the password, in any case and between blanks. -/
def IsPasswordKey (key : List Char) : Prop :=
  asciiLower (trim key) = "password".toList
deriving Decidable

/-- No character but those of the word and blanks is in its key. -/
theorem IsPasswordKey.not_mem {key : List Char} (h : IsPasswordKey key) {c : Char}
    (hblank : isBlank c = false) (hword : c.toLower ∉ "password".toList) : c ∉ key := by
  intro hc
  apply hword
  rw [← show asciiLower (trim key) = "password".toList from h, asciiLower]
  exact List.mem_map_of_mem (mem_trim hblank hc)

/-- The key is recognized as that of the password. -/
theorem IsPasswordKey.lower_eq {key : List Char} (h : IsPasswordKey key) :
    String.ofList (asciiLower (String.ofList (trim key)).toList) = "password" := by
  rw [String.toList_ofList, show asciiLower (trim key) = "password".toList from h]
  exact String.ofList_toList

/-- The segment of a password sets the password to its trimmed value. -/
theorem applySegment_password {key : List Char} (h : IsPasswordKey key) (value : List Char) :
    c.applySegment (key ++ '=' :: value) =
      .ok { c with password := String.ofList (trim value) } := by
  have hblank : trim (key ++ '=' :: value) ≠ [] := by
    have hmem : '=' ∈ trim (key ++ '=' :: value) := mem_trim (by decide) (by simp)
    exact List.ne_nil_of_mem hmem
  -- The first equals sign is the one behind the key.
  have hequals : '=' ∉ key := h.not_mem (by decide) (by decide)
  rw [applySegment, if_neg hblank, cutFirst_append hequals]
  simp only [applyProperty, h.lower_eq]

/-- The segment of a password does not overflow, whatever the password is. -/
theorem segmentOverflows_password {key : List Char} (h : IsPasswordKey key) (value : List Char) :
    segmentOverflows (key ++ '=' :: value) = false := by
  have hequals : '=' ∉ key := h.not_mem (by decide) (by decide)
  rw [segmentOverflows, cutFirst_append hequals]
  simp only [propertyOverflows, h.lower_eq]
  rfl

/-! ## URLs with a password -/

/-- A URL that has a password between some other text. -/
def passwordUrl (before key password after : String) : String :=
  before ++ ";" ++ key ++ "=" ++ password ++ ";" ++ after

theorem toList_passwordUrl (before key password after : String) :
    (passwordUrl before key password after).toList =
      before.toList ++ ';' :: ((key.toList ++ '=' :: password.toList) ++ ';' :: after.toList) := by
  simp [passwordUrl]

/-- Trimming a URL only trims what is before and behind the password. -/
theorem trim_passwordUrl (before key password after : String) :
    trim (passwordUrl before key password after).toList =
      trimStart before.toList ++ ';' ::
        ((key.toList ++ '=' :: password.toList) ++ ';' :: trimEnd after.toList) := by
  rw [toList_passwordUrl, trim, trimStart_append_cons (by decide)]
  have hend := trimEnd_append_cons (c := ';') (by decide)
    (trimStart before.toList ++ ';' :: (key.toList ++ '=' :: password.toList)) after.toList
  simpa using hend

/-- URLs are cut at the same places, whatever the password is: they fail before they come to it, or
it is one of their segments. -/
theorem start_passwordUrl (before after : String) :
    ∃ r : Except Error (Config × List (List Char) × List (List Char)),
      ∀ key password : String, ';' ∉ key.toList → ';' ∉ password.toList →
        start (passwordUrl before key password after) =
          r.map fun (c, first, last) =>
            (c, first ++ (key.toList ++ '=' :: password.toList) :: last) := by
  -- There is a semicolon in the URL, so that it is not empty.
  have hnonempty (key password : String) : trimStart before.toList ++ ';' ::
      ((key.toList ++ '=' :: password.toList) ++ ';' :: trimEnd after.toList) ≠ [] := by simp
  -- The scheme has no semicolon, so that it is before the one of the password or not there.
  have hlead (rest : List Char) : afterLead scheme.toList (trimStart before.toList ++ ';' :: rest) =
      (afterLead scheme.toList (trimStart before.toList)).map (· ++ ';' :: rest) :=
    afterLead_append_cons (by decide) _ _
  cases hscheme : afterLead scheme.toList (trimStart before.toList) with
  | none =>
    refine ⟨.error (.invalidConnectionString s!"URL must start with {scheme}"), ?_⟩
    intro key password _ _
    unfold start
    simp only [trim_passwordUrl, if_neg (hnonempty key password), hlead, hscheme]
    rfl
  | some rest =>
    -- The location ends at a semicolon before the password, or at the one right before it.
    obtain ⟨location, first, hfirst⟩ := List.exists_cons_of_ne_nil (List.splitOn_ne_nil ';' rest)
    have hcut {key password : String} (hkey : ';' ∉ key.toList) (hpassword : ';' ∉ password.toList) :
        (rest ++ ';' :: ((key.toList ++ '=' :: password.toList) ++
          ';' :: trimEnd after.toList)).splitOn ';' =
        location :: (first ++ (key.toList ++ '=' :: password.toList) ::
          (trimEnd after.toList).splitOn ';') := by
      have hsegment : ';' ∉ key.toList ++ '=' :: password.toList := by simp [hkey, hpassword]
      rw [splitOn_append_cons, splitOn_append_cons, splitOn_eq_singleton hsegment, hfirst]
      simp
    cases hlocation : cutFirst ':' location with
    | none =>
      refine ⟨.error (.invalidConnectionString "expected <protocol>:<database>"), ?_⟩
      intro key password hkey hpassword
      unfold start
      simp only [trim_passwordUrl, if_neg (hnonempty key password), hlead, hscheme,
        Option.map_some, hcut hkey hpassword, hlocation]
      rfl
    | some place =>
      refine ⟨(StorageProtocol.parse place.1).map fun protocol =>
        (ofDatabase protocol (String.ofList place.2), first,
          (trimEnd after.toList).splitOn ';'), ?_⟩
      intro key password hkey hpassword
      unfold start
      simp only [trim_passwordUrl, if_neg (hnonempty key password), hlead, hscheme,
        Option.map_some, hcut hkey hpassword, hlocation]
      cases StorageProtocol.parse place.1 <;> rfl

/-- Two URLs with different passwords are read alike. -/
theorem readAlike_passwordUrl (before after : String) {key p q : String}
    (hkey : IsPasswordKey key.toList) (hp : ';' ∉ p.toList) (hq : ';' ∉ q.toList) :
    ReadAlike (parse (passwordUrl before key p after)) (parse (passwordUrl before key q after)) := by
  have hsemicolon : ';' ∉ key.toList := hkey.not_mem (by decide) (by decide)
  obtain ⟨r, hr⟩ := start_passwordUrl before after
  rw [parse, parse, hr key p hsemicolon hp, hr key q hsemicolon hq]
  cases r with
  | error e => exact .failed e
  | ok parts =>
    obtain ⟨c, first, last⟩ := parts
    change ReadAlike ((first ++ _ :: last).foldlM applySegment c)
      ((first ++ _ :: last).foldlM applySegment c)
    rw [List.foldlM_append, List.foldlM_append]
    -- What comes before the password is read first, and gives the same.
    cases first.foldlM applySegment c with
    | error e => exact .failed e
    | ok c =>
      change ReadAlike (applySegment c _ >>= last.foldlM applySegment)
        (applySegment c _ >>= last.foldlM applySegment)
      rw [applySegment_password c hkey, applySegment_password c hkey]
      exact (ReadAlike.read c _ _).foldlM last

/-- Two URLs with different passwords both come to an overflow, or neither does. -/
theorem overflows_passwordUrl (before after : String) {key p q : String}
    (hkey : IsPasswordKey key.toList) (hp : ';' ∉ p.toList) (hq : ';' ∉ q.toList) :
    overflows (passwordUrl before key p after) = overflows (passwordUrl before key q after) := by
  have hsemicolon : ';' ∉ key.toList := hkey.not_mem (by decide) (by decide)
  obtain ⟨r, hr⟩ := start_passwordUrl before after
  rw [overflows, overflows, hr key p hsemicolon hp, hr key q hsemicolon hq]
  cases r with
  | error e => rfl
  | ok parts =>
    obtain ⟨c, first, last⟩ := parts
    simp only [Except.map, segmentsOverflow_append]
    cases first.foldlM applySegment c with
    | error e => rfl
    -- The password does not overflow, and what follows does not depend on it.
    | ok c =>
      simp only [segmentsOverflow, segmentOverflows_password hkey, applySegment_password c hkey]
      rw [segmentsOverflow_withPassword c _ (String.ofList (trim q.toList))]

/-- The password of a URL is in nothing that reading it shows: the error is the same for every
password, or the configurations are but for the password, and so are their texts. -/
theorem parse_passwordUrl (before after : String) {key p q : String}
    (hkey : IsPasswordKey key.toList) (hp : ';' ∉ p.toList) (hq : ';' ∉ q.toList) :
    overflows (passwordUrl before key p after) = overflows (passwordUrl before key q after) ∧
    ((∃ e, parse (passwordUrl before key p after) = .error e ∧
        parse (passwordUrl before key q after) = .error e) ∨
      ∃ c d, parse (passwordUrl before key p after) = .ok c ∧
        parse (passwordUrl before key q after) = .ok d ∧
        d = { c with password := d.password } ∧ d.url = c.url ∧ d.text = c.text) := by
  refine ⟨overflows_passwordUrl before after hkey hp hq, ?_⟩
  have halike := readAlike_passwordUrl before after hkey hp hq
  generalize parse (passwordUrl before key p after) = r at halike ⊢
  generalize parse (passwordUrl before key q after) = r' at halike ⊢
  cases halike with
  | failed e => exact .inl ⟨e, rfl, rfl⟩
  | read c p q =>
    have htext := (text_withPassword c q).trans (text_withPassword c p).symm
    exact .inr ⟨_, _, rfl, rfl, rfl, rfl, htext⟩

/-- Two passwords with an equals sign and blanks, between a property that is set twice and one that
cannot be read. -/
theorem parse_passwordUrl_unreadable :
    let url (password : String) :=
      passwordUrl "quarry:mem:x;PASSWORD=a;mode=b" "\tPassWord " password "mode=c;fetch_size=many"
    IsPasswordKey "\tPassWord ".toList ∧
      parse (url "p=1 ") = .error (invalidProperty "fetch_size" "many") ∧
      parse (url "") = .error (invalidProperty "fetch_size" "many") := by
  intro url
  have hkey : IsPasswordKey "\tPassWord ".toList := by decide
  have hp : ';' ∉ "p=1 ".toList := by decide
  have hq : ';' ∉ "".toList := by decide
  have hread : parse (url "p=1 ") = .error (invalidProperty "fetch_size" "many") := by
    decide +kernel
  -- One reading is looked at, and the other one is alike.
  obtain ⟨-, ⟨e, he, hother⟩ | ⟨c, d, hc, -⟩⟩ :=
    parse_passwordUrl "quarry:mem:x;PASSWORD=a;mode=b" "mode=c;fetch_size=many" hkey hp hq
  · have hsame : e = invalidProperty "fetch_size" "many" := Except.error.inj (he.symm.trans hread)
    exact ⟨hkey, hread, hsame ▸ hother⟩
  · cases hc.symm.trans hread

end Config

end SqlAccess
