import Std.Data.HashMap
import RuleVerdict.CompileError

/-!
# Tree caches

A tree depends only on the logic text it is read from, so trees are kept under their texts and
shared. Only what could be read is kept.

* `getOrBuild_of_get?`: what is kept is not read again.
* `getOrBuild_of_error`: an error changes nothing.
-/

namespace RuleVerdict

/-- Reads a logic text in normal layout into a tree, or says what is wrong with the logic. -/
def buildTree (logic : String) : Except CompileError Logic.Tree :=
  match Logic.Tree.build logic with
  | .ok t => .ok t
  | .error e => .error (.malformedLogic logic (.tree e))

/-- Trees under the texts they were read from. -/
structure TreeCache where
  trees : Std.HashMap String Logic.Tree

namespace TreeCache

/-- The cache without trees. -/
def empty : TreeCache := ⟨∅⟩

/-- The tree kept under a text. -/
def get? (c : TreeCache) (logic : String) : Option Logic.Tree := c.trees[logic]?

/-- The number of trees. -/
def size (c : TreeCache) : Nat := c.trees.size

/-- Whether there are no trees. -/
def isEmpty (c : TreeCache) : Bool := c.trees.isEmpty

/-- The tree kept under a text; if there is none, it is read and kept. -/
def getOrBuild (c : TreeCache) (logic : String) : Except CompileError Logic.Tree × TreeCache :=
  match c.get? logic with
  | some t => (.ok t, c)
  | none =>
    match buildTree logic with
    | .ok t => (.ok t, ⟨c.trees.insert logic t⟩)
    | .error e => (.error e, c)

/-- The cache after all its trees are dropped. -/
def clear (_ : TreeCache) : TreeCache := empty

theorem getOrBuild_of_get? {c : TreeCache} {logic : String} {t : Logic.Tree}
    (h : c.get? logic = some t) : c.getOrBuild logic = (.ok t, c) := by
  simp [getOrBuild, h]

theorem getOrBuild_of_error {c : TreeCache} {logic : String} {e : CompileError}
    (h : (c.getOrBuild logic).1 = .error e) : (c.getOrBuild logic).2 = c := by
  unfold getOrBuild at h ⊢
  split
  · rfl
  · split
    · simp_all
    · rfl

end TreeCache

end RuleVerdict
