import Mathlib.Data.List.Induction
import RuleVerdict.Proofs.Group.Compiled

/-!
# Runs of a tree cache

A cache starts empty and is then used in any order: texts are read or looked up, groups are
compiled, and from time to time all trees are dropped. A hit skips the reading of a text and, when
a group is compiled, the check of its depth. Nobody can tell: what an operation answers does not
depend on the cache, and the texts in a cache are those that were read since it was last cleared.

* `TreeCache.isSome_get?_perform`: the texts in a cache after one operation.
* `TreeCache.isSome_get?_run_iff`: the texts in a cache after a run.
* `TreeCache.run_transparent`: the cache does not show.
-/

namespace RuleVerdict

open Logic

/-! ## Operations -/

/-- What can be done with a cache. -/
inductive Operation where
  | read (logic : String)
  | look (logic : String)
  | compile (d : GroupDefinition)
  | clear
  deriving DecidableEq

/-- What comes back. -/
inductive Answer where
  | read (result : Except CompileError Tree)
  | found (t : Option Tree)
  | compiled (result : Except CompileError Group)
  | cleared

/-- The answer is an error. -/
def Answer.Failed : Answer → Prop
  | .read (.error _) => True
  | .compiled (.error _) => True
  | _ => False

namespace TreeCache

/-- The answer of a cache to an operation and the cache after it. -/
def perform (c : TreeCache) : Operation → Answer × TreeCache
  | .read logic => (.read (c.getOrBuild logic).1, (c.getOrBuild logic).2)
  | .look logic => (.found (c.get? logic), c)
  | .compile d => (.compiled (d.compileWith c).1, (d.compileWith c).2)
  | .clear => (.cleared, c.clear)

/-- The cache after some operations. -/
def run (c : TreeCache) (ops : List Operation) : TreeCache :=
  ops.foldl (fun c op => (c.perform op).2) c

variable {c : TreeCache} {d : GroupDefinition} {op : Operation} {ops : List Operation}
  {logic key : String}

@[simp] theorem run_nil (c : TreeCache) : c.run [] = c := rfl

@[simp] theorem run_concat (c : TreeCache) (ops : List Operation) (op : Operation) :
    c.run (ops ++ [op]) = ((c.run ops).perform op).2 := by
  rw [run, List.foldl_append]
  rfl

/-- A successful operation that reads the text of a key, so that its tree is kept. -/
def Reads (c : TreeCache) (key : String) : Operation → Prop
  | .read logic => logic = key ∧ ∃ t, (c.getOrBuild logic).1 = .ok t
  | .compile d => key ≠ "" ∧ normalize d.logic = key ∧ ∃ g, (d.compileWith c).1 = .ok g
  | _ => False

/-! ## One operation -/

theorem perform_of_failed (h : (c.perform op).1.Failed) : (c.perform op).2 = c := by
  cases op with
  | read logic =>
    cases hRead : (c.getOrBuild logic).1 with
    | error e => exact getOrBuild_of_error hRead
    | ok t =>
      simp only [perform, hRead] at h
      exact h.elim
  | look logic => rfl
  | compile d =>
    rcases compileWith_cases d c with ⟨e, he⟩ | ⟨g, -, -, hg⟩ | ⟨g, t, -, -, -, hg⟩
    · simp only [perform, he]
    · simp only [perform, hg]
    · simp only [perform, hg] at h
      exact h.elim
  | clear => exact h.elim

theorem isSome_get?_getOrBuild :
    ((c.getOrBuild logic).2.get? key).isSome = true ↔
      (logic = key ∧ ∃ t, (c.getOrBuild logic).1 = .ok t) ∨ (c.get? key).isSome = true := by
  unfold getOrBuild
  split
  · next t ht =>
    constructor
    · exact .inr
    · rintro (⟨rfl, -⟩ | h)
      · rw [ht]
        rfl
      · exact h
  · split
    · next t ht =>
      simp only [get?, Std.HashMap.getElem?_insert]
      split
      · next hEq => simp [eq_of_beq hEq]
      · next hNe =>
        have hOther : logic ≠ key := by simpa using hNe
        simp [hOther]
    · simp

theorem isSome_get?_compileWith :
    ((d.compileWith c).2.get? key).isSome = true ↔
      (key ≠ "" ∧ normalize d.logic = key ∧ ∃ g, (d.compileWith c).1 = .ok g) ∨
        (c.get? key).isSome = true := by
  rcases compileWith_cases d c with ⟨e, he⟩ | ⟨g, hCheck, hBlank, hg⟩ |
    ⟨g, t, hCheck, hNe, ht, hg⟩
  · simp [he]
  · have hLogic := GroupDefinition.logic_of_check hCheck
    have hNotRead : ¬(key ≠ "" ∧ normalize d.logic = key) := by
      rintro ⟨hKey, rfl⟩
      exact hKey (hLogic.symm.trans hBlank)
    simp only [hg, ← and_assoc, hNotRead, false_and, false_or]
  · have hLogic := GroupDefinition.logic_of_check hCheck
    have hKey : normalize d.logic = key → key ≠ "" := by
      rintro rfl
      rwa [← hLogic]
    rw [hg, isSome_get?_getOrBuild, ht, hLogic]
    apply or_congr_left
    constructor
    · rintro ⟨hEq, -⟩
      exact ⟨hKey hEq, hEq, _, rfl⟩
    · rintro ⟨-, hEq, -⟩
      exact ⟨hEq, t, rfl⟩

/-- After an operation a cache has the text that was read and, unless it was cleared, the texts
that it had. -/
theorem isSome_get?_perform :
    ((c.perform op).2.get? key).isSome = true ↔
      c.Reads key op ∨ op ≠ .clear ∧ (c.get? key).isSome = true := by
  cases op with
  | read logic => simpa [perform, Reads] using isSome_get?_getOrBuild
  | look logic => simp [perform, Reads]
  | compile d => simpa [perform, Reads] using isSome_get?_compileWith
  | clear => simp [perform, Reads, clear, get?, empty]

theorem Reachable.perform (hc : c.Reachable) (op : Operation) : (c.perform op).2.Reachable := by
  cases op with
  | read logic => exact .read hc logic
  | look logic => exact hc
  | compile d => exact .compiled hc d
  | clear => exact .empty

/-! ## Runs -/

theorem reachable_run (ops : List Operation) : (empty.run ops).Reachable := by
  induction ops using List.reverseRecOn with
  | nil => exact .empty
  | append_singleton ops op ih =>
    rw [run_concat]
    exact ih.perform op

/-- Some operation of a run reads the text of a key, and the cache is not cleared after it. -/
def HasRead (ops : List Operation) (key : String) : Prop :=
  ∃ before op after, ops = before ++ op :: after ∧ .clear ∉ after ∧
    (empty.run before).Reads key op

theorem not_hasRead_nil : ¬HasRead [] key := by
  rintro ⟨before, op, after, hOps, -⟩
  exact absurd hOps.symm (by simp)

theorem hasRead_concat_iff :
    HasRead (ops ++ [op]) key ↔
      (empty.run ops).Reads key op ∨ op ≠ .clear ∧ HasRead ops key := by
  constructor
  · rintro ⟨before, op', after, hOps, hClear, hReads⟩
    rcases List.eq_nil_or_concat after with rfl | ⟨after, last, rfl⟩
    · obtain ⟨rfl, hLast⟩ := List.append_inj' hOps rfl
      cases hLast
      exact .inl hReads
    · rw [List.concat_eq_append, ← List.cons_append, ← List.append_assoc] at hOps
      obtain ⟨rfl, hLast⟩ := List.append_inj' hOps rfl
      cases hLast
      simp only [List.concat_eq_append, List.mem_append, List.mem_singleton, not_or] at hClear
      exact .inr ⟨Ne.symm hClear.2, before, op', after, rfl, hClear.1, hReads⟩
  · rintro (hReads | ⟨hOp, before, op', after, rfl, hClear, hReads⟩)
    · exact ⟨ops, op, [], rfl, List.not_mem_nil, hReads⟩
    · refine ⟨before, op', after ++ [op], by simp, ?_, hReads⟩
      simp only [List.mem_append, List.mem_singleton, not_or]
      exact ⟨hClear, hOp.symm⟩

/-- The texts in a cache are those that were read since it was last cleared. -/
theorem isSome_get?_run_iff :
    ((empty.run ops).get? key).isSome = true ↔ HasRead ops key := by
  induction ops using List.reverseRecOn with
  | nil => simp [not_hasRead_nil, get?, empty]
  | append_singleton ops op ih =>
    rw [run_concat, isSome_get?_perform, hasRead_concat_iff, ih]

theorem Reachable.fst_getOrBuild (hc : c.Reachable) (logic : String) :
    (c.getOrBuild logic).1 = (TreeCache.empty.getOrBuild logic).1 := by
  rw [hc.sound.fst_getOrBuild, sound_empty.fst_getOrBuild]

theorem Reachable.fst_compileWith (hc : c.Reachable) (d : GroupDefinition) :
    (d.compileWith c).1 = (d.compileWith .empty).1 := by
  rw [hc.sound.fst_compileWith, sound_empty.fst_compileWith]

/-- **The cache does not show.** After any run every tree is the one of the text it is kept under,
the texts are those that were read since the cache was last cleared, an operation that fails leaves
the cache as it was, and reading and compiling give what they give with an empty cache. -/
theorem run_transparent (ops : List Operation) :
    (∀ key t, (empty.run ops).get? key = some t → buildTree key = .ok t ∧ t.logic = key) ∧
      (∀ key, ((empty.run ops).get? key).isSome = true ↔ HasRead ops key) ∧
      (∀ op, ((empty.run ops).perform op).1.Failed →
        ((empty.run ops).perform op).2 = empty.run ops) ∧
      (∀ logic, ((empty.run ops).getOrBuild logic).1 = (empty.getOrBuild logic).1) ∧
      ∀ d : GroupDefinition, (d.compileWith (empty.run ops)).1 = (d.compileWith empty).1 := by
  have hc := reachable_run ops
  refine ⟨?_, fun key => isSome_get?_run_iff, fun op => perform_of_failed, hc.fst_getOrBuild,
    hc.fst_compileWith⟩
  intro key t ht
  have hBuild := hc.sound key t ht
  constructor
  · rw [buildTree, hBuild]
  · obtain ⟨-, f, -, rfl⟩ := Tree.build_eq_ok_iff.mp hBuild
    rfl

end TreeCache

end RuleVerdict
