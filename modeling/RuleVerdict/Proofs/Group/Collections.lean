import Mathlib.Data.List.Forall2
import Mathlib.Data.List.ReduceOption
import RuleVerdict.Collection

/-!
# What a collection answers

A collection is asked for the names of all groups that a record fits, for the first of these groups,
for its value, and for that value as a scalar of one kind. Each answer has a pass over the groups of
its own. A group without a name would be missing among the names, so all of it rests on the names
that the groups get when the collection is made.

* `Group.Called`: how a group at some place of a collection is called.
* `Collection.Answers`: how the answers go together with the groups that the collection was made of.
* `collection_answers`: they do, and groups that have been named once keep their names.
-/

namespace RuleVerdict

namespace Group

/-- How the group at a place is called: by its own name, or by the place if it has none. -/
inductive Called (g : Group) (place : Nat) : String → Prop where
  | byName {n : String} (hName : g.name = some n) (hn : n ≠ "") : g.Called place n
  | byPlace (hName : g.name = none ∨ g.name = some "") : g.Called place (Text.numeral place)

/-- The group has a name that can be read. -/
def IsNamed (g : Group) : Prop := ∃ n, g.name = some n ∧ n ≠ ""

end Group

namespace Collection

/-! ## Names -/

variable (g : Group) (gs : List Group) (place : Nat) (r : Record)

theorem exists_called :
    ∃ n, g.Called place n ∧ nameGroup place g = { g with name := some n } := by
  unfold nameGroup
  split
  · next hName => exact ⟨_, .byPlace (.inl hName), rfl⟩
  · next n hName =>
    by_cases hn : n = ""
    · subst hn
      exact ⟨_, .byPlace (.inr hName), rfl⟩
    · refine ⟨n, .byName hName hn, ?_⟩
      rw [if_neg hn, ← hName]

theorem isNamed_nameGroup : (nameGroup place g).IsNamed := by
  obtain ⟨n, hn, hGroup⟩ := exists_called g place
  refine ⟨n, congrArg Group.name hGroup, ?_⟩
  cases hn with
  | byName _ hn => exact hn
  | byPlace _ => exact Text.numeral_ne_empty place

variable {g gs} in
theorem nameGroup_of_isNamed (h : g.IsNamed) : nameGroup place g = g := by
  obtain ⟨n, hName, hn⟩ := h
  simp only [nameGroup, hName, if_neg hn]

theorem nameFrom_eq_map :
    nameFrom place gs = (gs.zipIdx place).map fun p => nameGroup p.2 p.1 := by
  induction gs generalizing place with
  | nil => rfl
  | cons g gs ih => rw [nameFrom, ih, List.zipIdx_cons, List.map_cons]

variable {gs} in
theorem nameFrom_of_isNamed (h : ∀ g ∈ gs, g.IsNamed) : nameFrom place gs = gs := by
  induction gs generalizing place with
  | nil => rfl
  | cons g gs ih =>
    obtain ⟨hg, hgs⟩ := List.forall_mem_cons.mp h
    rw [nameFrom, nameGroup_of_isNamed place hg, ih (place + 1) hgs]

/-- Groups that have been named keep their names. -/
theorem nameFrom_nameFrom (place' : Nat) :
    nameFrom place' (nameFrom place gs) = nameFrom place gs := by
  refine nameFrom_of_isNamed place' ?_
  intro g hg
  rw [nameFrom_eq_map] at hg
  obtain ⟨p, -, rfl⟩ := List.mem_map.mp hg
  exact isNamed_nameGroup p.1 p.2

/-! ## Groups that fit -/

/-- The groups that a record fits, in order, each with its place counted from one. -/
def fitting (gs : List Group) (r : Record) : List (Group × Nat) :=
  (gs.zipIdx 1).filter fun p => p.1.fits r

/-- A name does not count in a verdict. -/
theorem fits_nameGroup : (nameGroup place g).fits r = g.fits r := by
  obtain ⟨n, -, hGroup⟩ := exists_called g place
  rw [hGroup]
  rfl

theorem value_nameGroup : (nameGroup place g).value = g.value := by
  obtain ⟨n, -, hGroup⟩ := exists_called g place
  rw [hGroup]

theorem filter_nameFrom_one :
    ((nameFrom 1 gs).filter fun g => g.fits r) =
      (fitting gs r).map fun p => nameGroup p.2 p.1 := by
  rw [nameFrom_eq_map, List.filter_map, fitting]
  congr 1
  refine List.filter_congr fun p _ => ?_
  exact fits_nameGroup p.1 p.2 r

/-- No group that has been named is missing among the names. -/
theorem forall₂_called (ps : List (Group × Nat)) :
    List.Forall₂ (fun p n => p.1.Called p.2 n) ps
      ((ps.map fun p => nameGroup p.2 p.1).filterMap Group.name) := by
  induction ps with
  | nil => exact .nil
  | cons p ps ih =>
    obtain ⟨n, hn, hGroup⟩ := exists_called p.1 p.2
    have hName : (nameGroup p.2 p.1).name = some n := congrArg Group.name hGroup
    rw [List.map_cons, List.filterMap_cons_some hName]
    exact .cons hn ih

/-! ## Kinds of values -/

/-- What is found when the value of a collection is asked for as each kind of scalar. -/
def readings (c : Collection) (r : Record) : List Value :=
  [(c.fitInt r).map .int, (c.fitFloat r).map .float, (c.fitBool r).map .bool,
    (c.fitText r).map .text].reduceOption

/-- A value is of one kind. -/
theorem readings_eq (c : Collection) : c.readings r = (c.fitValue r).toList := by
  simp only [readings, fitInt, fitFloat, fitBool, fitText]
  cases c.fitValue r with
  | none => rfl
  | some v => cases v <;> rfl

/-! ## All answers -/

/-- How the answers of a collection on a record go together with the groups it was made of. There is
one name for each group that fits, in order. The first name is that of the group that is chosen,
which is chosen if there is any name at all. The value is that of the same group, and of the four
kinds of scalars it is found as its own. -/
structure Answers (c : Collection) (gs : List Group) (r : Record) : Prop where
  names : List.Forall₂ (fun p n => p.1.Called p.2 n) (fitting gs r) (c.fitAll r)
  none_iff : c.fit? r = none ↔ c.fitAll r = []
  first : ∀ g, c.fit? r = some g → ∃ p ps n ns,
    fitting gs r = p :: ps ∧ c.fitAll r = n :: ns ∧ g = { p.1 with name := some n }
  value : c.fitValue r = (fitting gs r).head?.bind fun p => p.1.value
  kinds : c.readings r = (c.fitValue r).toList

variable (name message : String)

theorem fitAll_ofGroups :
    (ofGroups name message gs).fitAll r =
      ((fitting gs r).map fun p => nameGroup p.2 p.1).filterMap Group.name :=
  congrArg (List.filterMap Group.name) (filter_nameFrom_one gs r)

theorem fit?_ofGroups :
    (ofGroups name message gs).fit? r =
      ((fitting gs r).map fun p => nameGroup p.2 p.1).head? :=
  (fit?_eq_head? _ r).trans (congrArg List.head? (filter_nameFrom_one gs r))

theorem answers_ofGroups : (ofGroups name message gs).Answers gs r where
  names := by
    rw [fitAll_ofGroups]
    exact forall₂_called (fitting gs r)
  none_iff := by
    have hLength := (forall₂_called (fitting gs r)).length_eq
    rw [fitAll_ofGroups, fit?_ofGroups, List.head?_eq_none_iff, List.map_eq_nil_iff,
      ← List.length_eq_zero_iff, hLength, List.length_eq_zero_iff]
  first := by
    intro g hg
    rw [fit?_ofGroups] at hg
    rw [fitAll_ofGroups]
    cases hFitting : fitting gs r with
    | nil =>
      rw [hFitting] at hg
      cases hg
    | cons p ps =>
      rw [hFitting] at hg
      cases hg
      obtain ⟨n, -, hGroup⟩ := exists_called p.1 p.2
      have hName : (nameGroup p.2 p.1).name = some n := congrArg Group.name hGroup
      exact ⟨p, ps, n, _, rfl, List.filterMap_cons_some hName, hGroup⟩
  value := by
    rw [fitValue, fit?_ofGroups]
    cases fitting gs r with
    | nil => rfl
    | cons p ps => exact value_nameGroup p.1 p.2
  kinds := readings_eq r _

end Collection

open Collection

/-- **The answers of a collection agree.** Whatever groups a collection is made of, its answers on
any record go together, and a collection made of its groups has the same groups. -/
theorem collection_answers (name message : String) (gs : List Group) :
    (∀ r, (ofGroups name message gs).Answers gs r) ∧
      ∀ name' message', (ofGroups name' message' (ofGroups name message gs).groups).groups =
        (ofGroups name message gs).groups :=
  ⟨fun r => answers_ofGroups gs r name message, fun _ _ => nameFrom_nameFrom gs 1 1⟩

-- The second group fits as well and is called by its place, but its value does not count.
example :
    let g : Group := ⟨some "gold", "", none, .firstDisjunct, [], "", none⟩
    let c := ofGroups "tier" "" [g, { g with name := some "", value := some (.int 3) }]
    c.fitAll .empty = ["gold", "2"] ∧ c.fitValue .empty = none := by
  decide +kernel

end RuleVerdict
