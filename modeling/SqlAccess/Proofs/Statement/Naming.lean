import Mathlib.Data.List.Induction
import SqlAccess.Proofs.Statement.Output

/-!
# Parameters by name

A name means a parameter: the first one that has exactly this name, or else the first one that has
it in upper case (`Parameter.Means`). For as long as a statement is open, using a parameter by a
name is using it by the ordinal that the name means, and a name that means none fails and changes
nothing (`name_addresses`). The names of some parameters are those that mean something as they are
written, in the order of their first parameters.

Everything that a callable statement does with one parameter goes through `ParameterBuffer.resolve`,
so that two ways to address a parameter are the same if they resolve to the same slot
(`ParameterUse.perform_congr`).
-/

namespace SqlAccess

namespace Parameter

variable {ps : List Parameter} {p : Parameter} {label name : String} {i n : Nat}

/-! ## What a name means -/

/-- The first parameter with a name; nobody has the empty name. -/
structure FirstNamed (ps : List Parameter) (label : String) (i : Nat) : Prop where
  ne_empty : label ≠ ""
  named : ∃ p, ps[i]? = some p ∧ p.name = label
  before : ∀ j p, j < i → ps[j]? = some p → p.name ≠ label

/-- The ordinal that a name means. -/
inductive Means (ps : List Parameter) (name : String) : Nat → Prop
  | exact {i : Nat} : FirstNamed ps name i → Means ps name (i + 1)
  /-- Nobody has the name as it is written. -/
  | upper {i : Nat} :
      (∀ j, ¬FirstNamed ps name j) → FirstNamed ps (upperName name) i → Means ps name (i + 1)

/-- The search for an exact name finds the first parameter with it. -/
theorem named?_eq_some_iff : named? ps label = some i ↔ FirstNamed ps label i := by
  unfold named?
  split
  · next hempty =>
    constructor
    · nofun
    · rintro ⟨hne, -, -⟩
      exact absurd hempty hne
  · next hne =>
    -- The search is by index, so that indices have to be taken for parameters on the way.
    rw [List.findIdx?_eq_some_iff_getElem]
    constructor
    · rintro ⟨hi, hname, hbefore⟩
      refine ⟨hne, ⟨ps[i], List.getElem?_eq_getElem hi, by simpa using hname⟩, ?_⟩
      intro j p hj hp
      obtain ⟨_, rfl⟩ := List.getElem?_eq_some_iff.1 hp
      simpa using hbefore j hj
    · rintro ⟨-, ⟨p, hp, hname⟩, hbefore⟩
      obtain ⟨hi, rfl⟩ := List.getElem?_eq_some_iff.1 hp
      refine ⟨hi, by simpa using hname, fun j hj => ?_⟩
      simpa using hbefore j _ hj (List.getElem?_eq_getElem (by omega))

theorem named?_eq_none_iff : named? ps label = none ↔ ∀ i, ¬FirstNamed ps label i := by
  simp only [← named?_eq_some_iff, Option.eq_none_iff_forall_ne_some, ne_eq]

/-- A name is found where it means something. -/
theorem find?_eq_some_iff : find? ps name = some i ↔ Means ps name (i + 1) := by
  unfold find?
  cases hexact : named? ps name with
  | some k =>
    -- The name is had as it is written, so that its upper case does not matter.
    have hfirst := named?_eq_some_iff.1 hexact
    rw [Option.some_or, Option.some.injEq]
    constructor
    · rintro rfl
      exact .exact hfirst
    · rintro (h | ⟨hnone, -⟩)
      · exact Option.some.inj (hexact.symm.trans (named?_eq_some_iff.2 h))
      · exact absurd hfirst (hnone k)
  | none =>
    have hnone := named?_eq_none_iff.1 hexact
    rw [Option.none_or, named?_eq_some_iff]
    constructor
    · exact .upper hnone
    · rintro (h | ⟨-, h⟩)
      · exact absurd h (hnone i)
      · exact h

theorem find?_eq_none_iff : find? ps name = none ↔ ∀ n, ¬Means ps name n := by
  rw [Option.eq_none_iff_forall_ne_some]
  constructor
  · rintro h n hn
    -- Every ordinal that is meant follows an index.
    obtain ⟨i, rfl⟩ : ∃ i, n = i + 1 := by cases hn <;> exact ⟨_, rfl⟩
    exact h i (find?_eq_some_iff.2 hn)
  · intro h i hi
    exact h (i + 1) (find?_eq_some_iff.1 hi)

/-! ## The names in their order -/

/-- Listed are all names but the empty one. -/
theorem mem_names : label ∈ names ps ↔ label ≠ "" ∧ ∃ p ∈ ps, p.name = label := by
  simp only [names, List.mem_eraseDups, List.mem_filter, List.mem_map, decide_eq_true_eq]
  exact and_comm

/-- One more parameter adds its name at the end, unless it has none or it is there already. -/
theorem names_concat (ps : List Parameter) (p : Parameter) :
    names (ps ++ [p]) =
      names ps ++ if p.name = "" ∨ p.name ∈ names ps then [] else [p.name] := by
  rw [names, List.map_append, List.filter_append, List.eraseDups_append]
  refine congrArg (names ps ++ ·) ?_
  by_cases hempty : p.name = ""
  · simp [hempty]
  · by_cases hmem : ∃ q ∈ ps, q.name = p.name
    · simp [hempty, hmem, mem_names, List.removeAll]
    · simp [hempty, hmem, mem_names, List.removeAll, List.eraseDups_cons]

/-- Parameters that come behind take no name away. -/
theorem FirstNamed.append (h : FirstNamed ps label i) (qs : List Parameter) :
    FirstNamed (ps ++ qs) label i where
  ne_empty := h.ne_empty
  named := by
    obtain ⟨p, hp, hname⟩ := h.named
    have hi := (List.getElem?_eq_some_iff.1 hp).1
    exact ⟨p, (List.getElem?_append_left hi).trans hp, hname⟩
  before := by
    intro j q hj hq
    obtain ⟨p, hp, -⟩ := h.named
    have hi := (List.getElem?_eq_some_iff.1 hp).1
    rw [List.getElem?_append_left (by omega)] at hq
    exact h.before j q hj hq

/-- A name that was not listed is first had by the parameter that is added. -/
theorem firstNamed_concat (hempty : p.name ≠ "") (hnew : p.name ∉ names ps) :
    FirstNamed (ps ++ [p]) p.name ps.length where
  ne_empty := hempty
  named := ⟨p, by simp, rfl⟩
  before := by
    intro j q hj hq hname
    rw [List.getElem?_append_left hj] at hq
    exact hnew (mem_names.2 ⟨hempty, q, List.mem_of_getElem? hq, hname⟩)

/-- The names stand in the order of their first parameters, and so each of them once. -/
theorem pairwise_names (ps : List Parameter) :
    (names ps).Pairwise fun a b =>
      ∃ i j, FirstNamed ps a i ∧ FirstNamed ps b j ∧ i < j := by
  induction ps using List.reverseRecOn with
  | nil => exact .nil
  | append_singleton ps p ih =>
    -- What is first among the parameters so far stays so.
    have hkept : (names ps).Pairwise fun a b =>
        ∃ i j, FirstNamed (ps ++ [p]) a i ∧ FirstNamed (ps ++ [p]) b j ∧ i < j :=
      ih.imp fun ⟨i, j, ha, hb, hlt⟩ => ⟨i, j, ha.append [p], hb.append [p], hlt⟩
    rw [names_concat]
    split
    · rwa [List.append_nil]
    · next hnew =>
      obtain ⟨hempty, hnew⟩ := not_or.1 hnew
      refine List.pairwise_append.2 ⟨hkept, List.pairwise_singleton .., ?_⟩
      -- Whoever has a name already comes before the parameter that is added.
      intro a ha b hb
      obtain rfl := List.mem_singleton.1 hb
      obtain ⟨hne, q, hq, hname⟩ := mem_names.1 ha
      obtain ⟨i, hi⟩ : ∃ i, named? ps a = some i := by
        refine Option.ne_none_iff_exists'.1 fun hnone => ?_
        rw [named?, if_neg hne, List.findIdx?_eq_none_iff] at hnone
        simpa [hname] using hnone q hq
      have hfirst := named?_eq_some_iff.1 hi
      exact ⟨i, ps.length, hfirst.append [p], firstNamed_concat hempty hnew, lt_of_named? hi⟩

end Parameter

/-! ## Using a parameter -/

/-- What a callable statement does with one parameter. -/
inductive ParameterUse
  | set (a : Argument)
  | get (g : Getter)
  | registerOutput

namespace ParameterUse

/-- The command that uses the parameter that is meant. -/
def command (ref : ParameterRef) : ParameterUse → CallableCommand
  | set a => .setParameter ref a
  | get g => .get ref g
  | registerOutput => .registerOutput ref

variable {s : CallableStatement} {ref ref' : ParameterRef} {e : Error}

/-- What is done with a parameter depends on the slot that is meant alone. -/
theorem perform_congr (h : s.parameters.resolve ref = s.parameters.resolve ref')
    (use : ParameterUse) (c : Connection) :
    (use.command ref).perform (s, c) = (use.command ref').perform (s, c) := by
  -- Setters go through the ordinal, getters and registrations through the slot.
  have hordinal : CallableStatement.ordinal s ref = CallableStatement.ordinal s ref' := by
    rw [CallableStatement.ordinal, h, CallableStatement.ordinal]
  have houtput : CallableStatement.outputSlot s ref = CallableStatement.outputSlot s ref' := by
    rw [CallableStatement.outputSlot, h, CallableStatement.outputSlot]
  cases use with
  | set a =>
    simp only [command, CallableCommand.perform, StatementAction.change,
      CallableStatement.setParameter, hordinal]
  | get g =>
    have hget : CallableStatement.get s ref g = CallableStatement.get s ref' g := by
      unfold CallableStatement.get
      rw [houtput]
    simp only [command, CallableCommand.perform, hget]
  | registerOutput =>
    simp only [command, CallableCommand.perform, StatementAction.tell,
      CallableStatement.registerOutput, houtput]

/-- Nothing is done with a parameter that is not found. -/
theorem perform_of_unresolved (hs : s.parameters.closed = false)
    (h : s.parameters.resolve ref = .error e) (use : ParameterUse) (c : Connection) :
    (use.command ref).perform (s, c) = .error e (s, c) := by
  have hopen : s.requireOpen = .ok () := ParameterBuffer.requireOpen_eq_ok_iff.2 hs
  -- Whichever way the parameter is looked for, the error is the one of resolving it.
  have hordinal : CallableStatement.ordinal s ref = .error e := by
    rw [CallableStatement.ordinal, hopen, h]
    rfl
  have houtput : CallableStatement.outputSlot s ref = .error e := by
    rw [CallableStatement.outputSlot, hopen, h]
    rfl
  cases use with
  | set a =>
    simp only [command, CallableCommand.perform, StatementAction.change,
      CallableStatement.setParameter, hordinal]
    rfl
  | get g =>
    have hget : CallableStatement.get s ref g = (.error e, s) := by
      unfold CallableStatement.get
      rw [houtput]
      split <;> rfl
    simp only [command, CallableCommand.perform, hget]
  | registerOutput =>
    simp only [command, CallableCommand.perform, StatementAction.tell,
      CallableStatement.registerOutput, houtput]
    rfl

end ParameterUse

/-! ## Names and ordinals -/

namespace ParameterBuffer

variable {b : ParameterBuffer} {name : String} {n : Nat}

/-- A name resolves to the slot at the ordinal that it means. -/
theorem resolve_of_means (h : Parameter.Means b.parameters name n) :
    b.resolve (.name name) = b.resolve (.ordinal n) := by
  obtain ⟨i, rfl⟩ : ∃ i, n = i + 1 := by cases h <;> exact ⟨_, rfl⟩
  have hfind := Parameter.find?_eq_some_iff.2 h
  -- The empty name is refused before it is looked for, but it means nothing.
  have hne : name ≠ "" := by
    rintro rfl
    rw [Parameter.find?_empty] at hfind
    cases hfind
  simp only [resolve, if_neg hne, Parameter.ordinal, hfind]
  rfl

/-- A name that means nothing is missing if it is empty, and else is not found. -/
theorem resolve_of_meaningless (h : ∀ n, ¬Parameter.Means b.parameters name n) :
    b.resolve (.name name) =
      .error (if name = "" then .nullArgument "parameter name" else .parameterNotFound name) := by
  have hordinal : Parameter.ordinal b.parameters name = .error (.parameterNotFound name) := by
    rw [Parameter.ordinal, Parameter.find?_eq_none_iff.2 h]
  simp only [resolve, hordinal]
  split <;> rfl

end ParameterBuffer

/-- After any commands on a statement and for as long as it is open, a name stands for the ordinal
that it means, whatever is done with the parameter; a name that means none fails and changes
nothing. The names that are listed are those of the parameters, in the order in which they come
first. -/
theorem name_addresses {sql : String} {d : Description} {config : Config} {turns : List Turn}
    {s : CallableStatement} {past : List Event}
    (hturns : (PreparedStatement.ofDescription (.ofSql sql) d config).follow [] turns = (s, past))
    (hs : s.parameters.closed = false) :
    (∀ name n, Parameter.Means d.parameters name n → ∀ (use : ParameterUse) (c : Connection),
      (use.command (.name name)).perform (s, c) = (use.command (.ordinal n)).perform (s, c)) ∧
    (∀ name, (∀ n, ¬Parameter.Means d.parameters name n) →
      ∀ (use : ParameterUse) (c : Connection),
        (use.command (.name name)).perform (s, c) =
          .error (if name = "" then .nullArgument "parameter name" else .parameterNotFound name)
            (s, c)) ∧
    (∀ label, label ∈ Parameter.names d.parameters ↔
      label ≠ "" ∧ ∃ p ∈ d.parameters, p.name = label) ∧
    (Parameter.names d.parameters).Pairwise fun a b =>
      ∃ i j, Parameter.FirstNamed d.parameters a i ∧ Parameter.FirstNamed d.parameters b j ∧
        i < j := by
  have hrecords := (Records.initial d sql config).follow turns
  rw [hturns] at hrecords
  -- The parameters are those of the description until the statement is closed.
  have hparameters := hrecords.parameters hs
  refine ⟨?_, ?_, fun label => Parameter.mem_names, Parameter.pairwise_names d.parameters⟩
  · intro name n h use c
    rw [← hparameters] at h
    exact use.perform_congr (ParameterBuffer.resolve_of_means h) c
  · intro name h use c
    rw [← hparameters] at h
    exact use.perform_of_unresolved hs (ParameterBuffer.resolve_of_meaningless h) c

/-- Two parameters share a name, one differs from them in case only, and one has no name. -/
theorem name_addresses_shared :
    let d : Description :=
      ⟨7, .call, [.described "a" .integer .output, .described "A" .integer .output,
        .described "" .integer .input, .described "A" .integer .input,
        .described "B" .boolean .inOut], []⟩
    let start := PreparedStatement.ofDescription (.ofSql "CALL P(?, ?, ?, ?, ?)") d default
    let c := Connection.ofConfig default ⟨fun _ _ => .error (.protocol "not expected")⟩
    let turns : List Turn := [⟨.setParameter (.name "b") (.value (.boolean true)), c⟩]
    let s := (start.follow [] turns).1
    s.parameters.closed = false ∧
      (Parameter.Means d.parameters "a" 1 ∧ Parameter.Means d.parameters "A" 2 ∧
        Parameter.Means d.parameters "b" 5 ∧ ∀ n, ¬Parameter.Means d.parameters "c" n) ∧
      (∀ use : ParameterUse,
        (use.command (.name "b")).perform (s, c) = (use.command (.ordinal 5)).perform (s, c) ∧
        (use.command (.name "c")).perform (s, c) = .error (.parameterNotFound "c") (s, c) ∧
        (use.command (.name "")).perform (s, c) =
          .error (.nullArgument "parameter name") (s, c)) ∧
      Parameter.names d.parameters = ["a", "A", "B"] := by
  intro d start c turns s
  have hmeans {name : String} {i : Nat} (h : Parameter.find? d.parameters name = some i) :
      Parameter.Means d.parameters name (i + 1) := Parameter.find?_eq_some_iff.1 h
  have hb : Parameter.Means d.parameters "b" 5 := hmeans (by decide)
  have hc : ∀ n, ¬Parameter.Means d.parameters "c" n :=
    Parameter.find?_eq_none_iff.1 (by decide)
  have hempty : ∀ n, ¬Parameter.Means d.parameters "" n :=
    Parameter.find?_eq_none_iff.1 (by decide)
  obtain ⟨hnamed, hunnamed, -⟩ := name_addresses (Prod.eta (start.follow [] turns)).symm rfl
  exact ⟨rfl, ⟨hmeans (by decide), hmeans (by decide), hb, hc⟩,
    fun use => ⟨hnamed "b" 5 hb use c, hunnamed "c" hc use c, hunnamed "" hempty use c⟩,
    by decide⟩

end SqlAccess
