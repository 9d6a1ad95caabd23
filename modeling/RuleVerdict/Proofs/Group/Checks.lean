import RuleVerdict.Proofs.Group.Compiled
import RuleVerdict.Proofs.Group.Numbering
import RuleVerdict.Proofs.Logic.Acceptance
import RuleVerdict.Proofs.Logic.Depth
import RuleVerdict.Proofs.Logic.Spelling

/-!
# The checks of a definition

A definition has to pass some checks, one after the other, and the first one that it does not pass
is the one that is reported. A definition that passes all of them has a group. What is checked is
said here without the functions that check it: ids do not repeat, operators have one of the known
spellings, and a logic that is not blank has only tokens for words, is derived by the grammar,
refers to atoms of the group, and is at most 256 levels deep.

* `Runs`: a result is that of some checks in order.
* `GroupDefinition.checks`: the checks of a definition.
* `GroupDefinition.compile_eq`: what is done to compile a definition, step by step.
* `compileWith_runs_checks`: compiling a definition runs its checks.
-/

namespace RuleVerdict

open Logic

/-- A check, given by the errors that it may report. -/
abbrev Check := CompileError → Prop

/-- There is nothing to report. -/
def Check.Passes (check : Check) : Prop := ∀ e, ¬check e

/-- A computation fails exactly if the check does not pass, and with an error of the check. -/
structure Check.DecidedBy {α : Type} (check : Check) (stage : Except CompileError α) : Prop where
  passes : ∀ a, stage = .ok a → check.Passes
  reports : ∀ e, stage = .error e → check e

theorem Check.DecidedBy.of_iff {α : Type} {check : Check} {stage : Except CompileError α}
    (h : ∀ e, stage = .error e ↔ check e) : check.DecidedBy stage where
  passes := fun a ha e he => by cases ha.symm.trans ((h e).mpr he)
  reports := fun e he => (h e).mp he

/-- The result is an error of the first check that does not pass, or else is as it is wanted. -/
structure Runs {α : Type} (checks : List Check) (wanted : α → Prop)
    (result : Except CompileError α) : Prop where
  failed : ∀ check, FirstNot Check.Passes checks check → ∃ e, result = .error e ∧ check e
  passed : (∀ check ∈ checks, check.Passes) → ∃ a, result = .ok a ∧ wanted a

theorem Runs.nil {α : Type} {wanted : α → Prop} {a : α} (h : wanted a) :
    Runs [] wanted (.ok a) :=
  ⟨fun check hfirst => absurd hfirst (not_firstNot_nil _ check), fun _ => ⟨a, rfl, h⟩⟩

/-- A computation that decides the first check is followed by one that runs the others. -/
theorem Runs.bind {α β : Type} {check : Check} {checks : List Check} {wanted : β → Prop}
    {stage : Except CompileError α} {next : α → Except CompileError β} (h : check.DecidedBy stage)
    (hnext : ∀ a, stage = .ok a → Runs checks wanted (next a)) :
    Runs (check :: checks) wanted (stage.bind next) := by
  cases hstage : stage with
  | error e =>
    have hcheck := h.reports e hstage
    have hfails : ¬check.Passes := fun hpasses => hpasses e hcheck
    constructor
    · intro first hfirst
      rcases firstNot_cons.mp hfirst with ⟨rfl, -⟩ | ⟨hpasses, -⟩
      · exact ⟨e, rfl, hcheck⟩
      · exact absurd hpasses hfails
    · intro hall
      exact absurd (hall check List.mem_cons_self) hfails
  | ok a =>
    have hpasses := h.passes a hstage
    have hrest := hnext a hstage
    constructor
    · intro first hfirst
      rcases firstNot_cons.mp hfirst with ⟨-, hfails⟩ | ⟨-, hfirst⟩
      · exact absurd hpasses hfails
      · exact hrest.failed first hfirst
    · exact fun hall => hrest.passed fun c hc => hall c (.tail check hc)

/-- A result is not an error exactly if all checks pass. -/
theorem Runs.exists_ok_iff {α : Type} {checks : List Check} {wanted : α → Prop}
    {result : Except CompileError α} (h : Runs checks wanted result) :
    (∃ a, result = .ok a) ↔ ∀ check ∈ checks, check.Passes := by
  constructor
  · rintro ⟨a, rfl⟩
    refine forall_mem_of_forall_not_firstNot fun check hfirst => ?_
    obtain ⟨e, he, -⟩ := h.failed check hfirst
    cases he
  · intro hall
    obtain ⟨a, ha, -⟩ := h.passed hall
    exact ⟨a, ha⟩

theorem mapError_eq_ok_iff {ε ε' α : Type} {x : Except ε α} {f : ε → ε'} {a : α} :
    x.mapError f = .ok a ↔ x = .ok a := by
  cases x <;> simp [Except.mapError]

/-! ## Operators -/

/-- The spellings of the operators, in symbols and in letters. -/
def Operator.spellings : List String := [
  "=", "!=", ">", ">=", "<", "<=", "@", "!@", "^$", "0", "1", "<<", "@@",
  "eq", "neq", "gt", "gte", "lt", "lte", "in", "nin", "regex", "empty", "nempty", "between",
  "intersect"]

theorem Operator.spellings_eq : spellings = all.map symbol ++ all.map word := rfl

theorem Operator.ofSpelling?_eq_none_iff {s : String} :
    ofSpelling? s = none ↔ s ∉ spellings := by
  rw [ofSpelling?, List.find?_eq_none, spellings_eq, List.mem_append, List.mem_map, List.mem_map]
  constructor
  · rintro h (⟨op, hop, rfl⟩ | ⟨op, hop, rfl⟩)
    · exact h op hop (by simp)
    · exact h op hop (by simp)
  · intro h op hop hs
    rcases Bool.or_eq_true_iff.mp hs with hs | hs
    · exact h (.inl ⟨op, hop, eq_of_beq hs⟩)
    · exact h (.inr ⟨op, hop, eq_of_beq hs⟩)

/-- A definition with its id, up to the first one whose operator is not known. -/
theorem resolveAll_eq_error_iff {ds : List AtomDefinition} {ids : List AtomId} {e : CompileError} :
    resolveAll ds ids = .error e ↔
      ∃ rule id, FirstNot (fun r => r.1.op ∈ Operator.spellings) (ds.zip ids) (rule, id) ∧
        e = .unknownOperator id rule.op := by
  have hnil : ∀ rule id, ¬FirstNot (fun r : AtomDefinition × AtomId => r.1.op ∈ Operator.spellings)
      [] (rule, id) := fun rule id => not_firstNot_nil _ _
  induction ds generalizing ids with
  | nil => simp [resolveAll, hnil]
  | cons d ds ih =>
    cases ids with
    | nil => simp [resolveAll, hnil]
    | cons id ids =>
      simp only [List.zip_cons_cons, firstNot_cons, resolveAll, AtomDefinition.resolve]
      cases hop : Operator.ofSpelling? d.op with
      | none =>
        have hunknown := Operator.ofSpelling?_eq_none_iff.mp hop
        simp [hunknown, eq_comm]
      | some op =>
        have hknown : d.op ∈ Operator.spellings := Classical.byContradiction fun hno => by
          cases hop.symm.trans (Operator.ofSpelling?_eq_none_iff.mpr hno)
        have hmap : ∀ a : Atom, (resolveAll ds ids).map (a :: ·) = .error e ↔
            resolveAll ds ids = .error e := by
          intro a
          cases resolveAll ds ids <;> simp [Except.map]
        simp [hknown, hmap, ih]

/-- Atoms have the parts of their definitions. -/
theorem map_parts_of_resolveAll {ds : List AtomDefinition} {ids : List AtomId} {atoms : List Atom}
    (hlen : ids.length = ds.length) (h : resolveAll ds ids = .ok atoms) :
    atoms.map (fun a => (some a.op, a.key, a.literal, a.message)) =
      ds.map fun r => (Operator.ofSpelling? r.op, r.key, r.literal, r.message) := by
  induction ds generalizing ids atoms with
  | nil =>
    cases List.length_eq_zero_iff.mp hlen
    cases h
    rfl
  | cons d ds ih =>
    cases ids with
    | nil => cases hlen
    | cons id ids =>
      rw [resolveAll] at h
      split at h
      · cases h
      · next a ha =>
        obtain ⟨rest, hrest, rfl⟩ := map_eq_ok h
        rw [List.map_cons, List.map_cons, ih (Nat.succ.inj hlen) hrest]
        unfold AtomDefinition.resolve at ha
        split at ha
        · next op hop =>
          cases ha
          rw [hop]
        · cases ha

/-! ## Logic -/

/-- The references are checked up to the first one to an atom that there is not. -/
theorem checkReferences_eq_error_iff {ids : List AtomId} {ts : List Token} {e : CompileError} :
    checkReferences ids ts = .error e ↔
      ∃ id, FirstNot (· ∈ ids) (ts.filterMap Token.id?) id ∧ e = .undefinedAtom id := by
  induction ts with
  | nil => simp [checkReferences, not_firstNot_nil]
  | cons t ts ih =>
    rw [checkReferences, List.filterMap_cons]
    cases ht : t.id? with
    | none => exact ih
    | some id =>
      simp only [firstNot_cons, List.contains_eq_mem, decide_eq_true_eq]
      split
      · next hid => simp [hid, ih]
      · next hid => simp [hid, eq_comm]

theorem checkReferences_eq_ok {ids : List AtomId} {ts : List Token}
    (h : ∀ id, .id id ∈ ts → id ∈ ids) : checkReferences ids ts = .ok () := by
  cases hRefs : checkReferences ids ts with
  | ok _ => rfl
  | error e =>
    obtain ⟨id, ⟨before, after, hSplit, -, hNo⟩, -⟩ := checkReferences_eq_error_iff.mp hRefs
    have hMem : id ∈ ts.filterMap Token.id? := by simp [hSplit]
    exact absurd (h id (Token.mem_filterMap_id?.mp hMem)) hNo

/-- The shape is wrong exactly if the grammar does not derive the tokens. -/
theorem checkShape_eq_ok_iff {ts : List Token} :
    checkShape ts = .ok () ↔ ∃ x : OrChain AtomId, x.tokens = ts := by
  rw [← exists_evaluate_iff (Stacks.knows_true ts), checkShape]
  constructor
  · intro h
    obtain ⟨b, hb, -⟩ := map_eq_ok h
    exact ⟨b, hb⟩
  · rintro ⟨b, hb⟩
    rw [hb]
    rfl

/-! ## Definitions -/

namespace GroupDefinition

/-- The ids of the atoms, whether they are distinct or not. -/
def ids (d : GroupDefinition) : List AtomId := numbers d.rules

/-- The error names the first id that an earlier atom has as well. -/
def ReportsRepeatedId (d : GroupDefinition) : Check := fun e =>
  ∃ id, FirstRepeat d.ids id ∧ e = .duplicateAtomId id

/-- The error names the first operator with an unknown spelling and the id of its atom. -/
def ReportsUnknownOperator (d : GroupDefinition) : Check := fun e =>
  ∃ rule id, FirstNot (fun r => r.1.op ∈ Operator.spellings) (d.rules.zip d.ids) (rule, id) ∧
    e = .unknownOperator id rule.op

/-- The error names the first word of the logic that is no token. -/
def ReportsInvalidToken (d : GroupDefinition) : Check := fun e =>
  ∃ w, FirstNot IsTokenWord (words (normalize d.logic)) w ∧ e = .invalidToken w

/-- The error says that the tokens of the logic are not derived by the grammar. -/
def ReportsMalformed (d : GroupDefinition) : Check := fun e =>
  ∃ ts, tokenize (normalize d.logic) = .ok ts ∧ (∀ x : OrChain AtomId, x.tokens ≠ ts) ∧
    ∃ reason, e = .malformedLogic (normalize d.logic) (.shape reason)

/-- The error names the first atom of the logic that there is not. -/
def ReportsUndefinedAtom (d : GroupDefinition) : Check := fun e =>
  ∃ ts id, tokenize (normalize d.logic) = .ok ts ∧
    FirstNot (· ∈ d.ids) (ts.filterMap Token.id?) id ∧ e = .undefinedAtom id

/-- The error says that the expression is too deep. -/
def ReportsTooDeep (d : GroupDefinition) : Check := fun e =>
  ∃ x : OrChain AtomId, tokenize (normalize d.logic) = .ok x.tokens ∧ 256 < x.depth ∧
    e = .malformedLogic (normalize d.logic) (.tree .tooDeep)

/-- The checks of a definition in order. A blank logic is not checked. -/
def checks (d : GroupDefinition) : List Check :=
  d.ReportsRepeatedId :: d.ReportsUnknownOperator ::
    if normalize d.logic = "" then []
    else [d.ReportsInvalidToken, d.ReportsMalformed, d.ReportsUndefinedAtom, d.ReportsTooDeep]

/-- What a group has to be to be that of the definition. -/
structure Describes (d : GroupDefinition) (g : Group) : Prop where
  name : g.name = d.name
  message : g.message = d.message.getD ""
  value : g.value = d.value
  blame : g.blame = d.blame
  ids : g.atoms.map Atom.id = d.ids
  parts : g.atoms.map (fun a => (some a.op, a.key, a.literal, a.message)) =
    d.rules.map fun r => (Operator.ofSpelling? r.op, r.key, r.literal, r.message)
  logic : g.logic = normalize d.logic
  noTree : normalize d.logic = "" → g.tree = none
  tree : normalize d.logic ≠ "" → ∃ t, Tree.build (normalize d.logic) = .ok t ∧ g.tree = some t

/-! ## Compiling -/

/-- All that is done to compile a definition, one thing after the other. -/
theorem compile_eq (d : GroupDefinition) :
    d.compile =
      (assignIds d.rules).bind fun ids => (resolveAll d.rules ids).bind fun atoms =>
        if normalize d.logic = "" then .ok (d.group atoms none)
        else
          ((tokenize (normalize d.logic)).mapError .invalidToken).bind fun ts =>
            ((checkShape ts).mapError fun e => .malformedLogic (normalize d.logic) (.shape e)).bind
              fun _ => (checkReferences ids ts).bind fun _ =>
                (buildTree (normalize d.logic)).bind fun t => .ok (d.group atoms (some t)) := by
  unfold compile check
  cases assignIds d.rules with
  | error e => rfl
  | ok ids =>
    simp only [Except.bind]
    cases resolveAll d.rules ids with
    | error e => rfl
    | ok atoms =>
      by_cases hblank : normalize d.logic = ""
      · simp [hblank, group]
      · simp only [hblank, if_false, checkLogic]
        cases tokenize (normalize d.logic) with
        | error w => rfl
        | ok ts =>
          simp only [Except.mapError]
          cases checkShape ts with
          | error e => rfl
          | ok _ =>
            simp only
            cases checkReferences ids ts with
            | error e => rfl
            | ok _ =>
              simp only [hblank, if_false]
              cases buildTree (normalize d.logic) <;> rfl

variable {d : GroupDefinition}

/-- A logic that refers to the given atoms only, and is not too deep, has a tree. -/
theorem exists_treeFor {ids : List AtomId} {e : OrChain AtomId}
    (he : tokenize (normalize d.logic) = .ok e.tokens) (hRefs : ∀ id, .id id ∈ e.tokens → id ∈ ids)
    (hDepth : e.depth ≤ 256) : ∃ t, TreeFor ids (normalize d.logic) (some t) := by
  obtain ⟨t, ht⟩ := exists_build_of_tokenize he
  rw [if_neg (Nat.not_lt.mpr hDepth)] at ht
  obtain ⟨-, f, hf, -⟩ := Tree.build_eq_ok_iff.mp ht
  have hShape : checkShape e.tokens = .ok () := checkShape_eq_ok_iff.mpr ⟨e, rfl⟩
  refine ⟨t, ne_empty_of_build hf, ?_, ht⟩
  simp only [checkLogic, he, hShape, checkReferences_eq_ok hRefs]

/-- With such a logic the rules have a group. -/
theorem exists_compile_eq {ids : List AtomId} {atoms : List Atom} {e : OrChain AtomId}
    (hIds : assignIds d.rules = .ok ids) (hAtoms : resolveAll d.rules ids = .ok atoms)
    (he : tokenize (normalize d.logic) = .ok e.tokens) (hRefs : ∀ id, .id id ∈ e.tokens → id ∈ ids)
    (hDepth : e.depth ≤ 256) : ∃ t, d.compile = .ok (d.group atoms (some t)) := by
  obtain ⟨t, ht⟩ := exists_treeFor he hRefs hDepth
  exact ⟨t, compile_eq_ok_iff.mpr ⟨ids, atoms, some t, hIds, hAtoms, ht, rfl⟩⟩

theorem decided_repeatedId : d.ReportsRepeatedId.DecidedBy (assignIds d.rules) :=
  .of_iff fun _ => assignIds_eq_error_iff

theorem decided_unknownOperator : d.ReportsUnknownOperator.DecidedBy (resolveAll d.rules d.ids) :=
  .of_iff fun _ => resolveAll_eq_error_iff

theorem decided_invalidToken :
    d.ReportsInvalidToken.DecidedBy ((tokenize (normalize d.logic)).mapError .invalidToken) := by
  refine .of_iff fun e => ?_
  simp only [ReportsInvalidToken, ← tokenize_eq_error_iff]
  cases tokenize (normalize d.logic) <;> simp [Except.mapError, eq_comm]

theorem decided_malformed {ts : List Token} (h : tokenize (normalize d.logic) = .ok ts) :
    d.ReportsMalformed.DecidedBy
      ((checkShape ts).mapError fun e => .malformedLogic (normalize d.logic) (.shape e)) := by
  cases hshape : checkShape ts with
  | error reason =>
    refine ⟨nofun, fun e he => ⟨ts, h, fun x hx => ?_, reason, ?_⟩⟩
    · cases hshape.symm.trans (checkShape_eq_ok_iff.mpr ⟨x, hx⟩)
    · exact (Except.error.inj he).symm
  | ok _ =>
    obtain ⟨x, hx⟩ := checkShape_eq_ok_iff.mp hshape
    refine ⟨fun _ _ e ⟨us, hus, hno, _⟩ => ?_, nofun⟩
    obtain rfl := Except.ok.inj (h.symm.trans hus)
    exact hno x hx

theorem decided_undefinedAtom {ts : List Token} (h : tokenize (normalize d.logic) = .ok ts) :
    d.ReportsUndefinedAtom.DecidedBy (checkReferences d.ids ts) := by
  refine .of_iff fun e => checkReferences_eq_error_iff.trans ⟨?_, ?_⟩
  · rintro ⟨id, hid, rfl⟩
    exact ⟨ts, id, h, hid, rfl⟩
  · rintro ⟨us, id, hus, hid, rfl⟩
    obtain rfl := Except.ok.inj (h.symm.trans hus)
    exact ⟨id, hid, rfl⟩

theorem decided_tooDeep {x : OrChain AtomId} (h : tokenize (normalize d.logic) = .ok x.tokens) :
    d.ReportsTooDeep.DecidedBy (buildTree (normalize d.logic)) := by
  refine .of_iff fun e => ⟨fun he => ?_, ?_⟩
  · obtain ⟨t, ht⟩ := exists_build_of_tokenize h
    split at ht
    · next hdeep =>
      rw [buildTree, ht] at he
      exact ⟨x, h, hdeep, (Except.error.inj he).symm⟩
    · rw [buildTree, ht] at he
      cases he
  · rintro ⟨y, hy, hdeep, rfl⟩
    obtain ⟨t, ht⟩ := exists_build_of_tokenize hy
    rw [if_pos hdeep] at ht
    rw [buildTree, ht]

end GroupDefinition

open GroupDefinition

/-- Without a cache the checks of a definition are run in order. -/
theorem compile_runs_checks (d : GroupDefinition) : Runs d.checks d.Describes d.compile := by
  rw [compile_eq]
  refine .bind decided_repeatedId fun ids hids => ?_
  have hlen := (assignFrom_spec hids).1
  obtain rfl : ids = d.ids := eq_numbers_of_assignIds hids
  refine .bind decided_unknownOperator fun atoms hatoms => ?_
  have hid := map_id_of_resolveAll hlen hatoms
  have hparts := map_parts_of_resolveAll hlen hatoms
  split
  · next hblank => exact .nil ⟨rfl, rfl, rfl, rfl, hid, hparts, rfl, fun _ => rfl, absurd hblank⟩
  · next hblank =>
    refine .bind decided_invalidToken fun ts hts => ?_
    rw [mapError_eq_ok_iff] at hts
    refine .bind (decided_malformed hts) fun _ hshape => ?_
    rw [mapError_eq_ok_iff] at hshape
    obtain ⟨x, rfl⟩ := checkShape_eq_ok_iff.mp hshape
    refine .bind (decided_undefinedAtom hts) fun _ _ => ?_
    refine .bind (decided_tooDeep hts) fun t ht => ?_
    exact .nil ⟨rfl, rfl, rfl, rfl, hid, hparts, rfl, fun he => absurd he hblank,
      fun _ => ⟨t, TreeCache.build_of_buildTree ht, rfl⟩⟩

/-- **The first check that does not pass is reported.** A definition is compiled with any cache
that compiling and reading can leave behind. Its checks are run in order, and the definition has
its group if it passes all of them and is not accepted otherwise. -/
theorem compileWith_runs_checks {c : TreeCache} (hc : c.Reachable) (d : GroupDefinition) :
    Runs d.checks d.Describes (d.compileWith c).1 ∧
      ((∃ g, (d.compileWith c).1 = .ok g) ↔ ∀ check ∈ d.checks, check.Passes) := by
  rw [hc.sound.fst_compileWith]
  exact ⟨compile_runs_checks d, (compile_runs_checks d).exists_ok_iff⟩

/-- Two atoms, and a logic that refers to others behind a reference to the first one. -/
def strangers : GroupDefinition where
  rules := [⟨"=", "a", none, none, ""⟩, ⟨"1", "b", none, none, ""⟩]
  logic := "1 AND(7 or 8)"
  name := none
  message := none
  value := none
  blame := .exhaustive

/-- The atoms of this group and the expression that its logic is. -/
def strangersAtoms : List Atom :=
  [⟨1, "a", .compare .eq, none, "", _, rfl⟩, ⟨2, "b", .present, none, "", _, rfl⟩]

def strangersExpression : OrChain AtomId :=
  .last (.and (.atom 1) (.last (.brackets (.or (.last (.atom 7)) (.last (.last (.atom 8)))))))

/-- With a cache that holds a tree, the first reference to an unknown atom is reported. -/
theorem compileWith_runs_checks_strangers :
    (TreeCache.empty.getOrBuild "1").2.Reachable ∧
      (strangers.compileWith (TreeCache.empty.getOrBuild "1").2).1 = .error (.undefinedAtom 7) := by
  have hc : (TreeCache.empty.getOrBuild "1").2.Reachable := .read .empty "1"
  have hlogic : normalize strangers.logic = "1 and ( 7 or 8 )" := by decide +kernel
  have htokens : tokenize (normalize strangers.logic) = .ok strangersExpression.tokens := by
    rw [hlogic]
    decide +kernel
  have hatoms : resolveAll strangers.rules strangers.ids = .ok strangersAtoms := rfl
  have hseven : FirstNot (· ∈ strangers.ids)
      (strangersExpression.tokens.filterMap Token.id?) 7 := by
    refine ⟨[1], [8], by decide +kernel, ?_, by decide +kernel⟩
    simp only [List.forall_mem_cons]
    exact ⟨by decide +kernel, nofun⟩
  have hfirst : FirstNot Check.Passes strangers.checks strangers.ReportsUndefinedAtom := by
    refine ⟨[strangers.ReportsRepeatedId, strangers.ReportsUnknownOperator,
      strangers.ReportsInvalidToken, strangers.ReportsMalformed], [strangers.ReportsTooDeep],
      by simp [GroupDefinition.checks, hlogic], ?_, ?_⟩
    · simp only [List.forall_mem_cons]
      exact ⟨decided_repeatedId.passes [1, 2] (by decide +kernel),
        decided_unknownOperator.passes _ hatoms,
        decided_invalidToken.passes _ (mapError_eq_ok_iff.mpr htokens),
        (decided_malformed htokens).passes () (by decide +kernel), nofun⟩
    · exact fun hpasses => hpasses _ ⟨_, 7, htokens, hseven, rfl⟩
  obtain ⟨e, he, ts, id, hts, hid, rfl⟩ :=
    (compileWith_runs_checks hc strangers).1.failed _ hfirst
  obtain rfl := Except.ok.inj (htokens.symm.trans hts)
  rw [hseven.unique hid]
  exact ⟨hc, he⟩

end RuleVerdict
