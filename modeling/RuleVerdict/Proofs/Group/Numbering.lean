import RuleVerdict.Group.Compile
import Mathlib.Data.List.Nodup

/-!
# Numbering

A definition keeps the id that is written in it. The definitions without one are numbered upward
from the largest id that is written, and once the greatest id has been given out, all later ones
get it too. These numbers do not depend on whether they are distinct; the assignment gives them out
if they are, and reports the first one that comes up again if they are not.

* `assignIds_eq_error_iff`: the id that is reported.
* `eq_numbers_of_assignIds`: the ids that are given out.
-/

namespace RuleVerdict

/-- The id of a number; a number that is too large stands for the greatest id. -/
def AtomId.capped (n : Nat) : AtomId := UInt32.ofNat (min n AtomId.greatest)

/-- The largest number that is written as an id, or zero. -/
def largestWritten (defs : List AtomDefinition) : Nat :=
  ((defs.filterMap AtomDefinition.id).map UInt32.toNat).foldr max 0

/-- The ids of some definitions when `n` was the last number used. -/
def numbersFrom (n : Nat) : List AtomDefinition → List AtomId
  | [] => []
  | d :: ds =>
    match d.id with
    | some id => id :: numbersFrom n ds
    | none => AtomId.capped (n + 1) :: numbersFrom (n + 1) ds

/-- The ids of some definitions: those that are written, and numbers from the largest of these
upward for the definitions without one. -/
def numbers (defs : List AtomDefinition) : List AtomId := numbersFrom (largestWritten defs) defs

/-- The id is the first one in the list that also stands before. -/
def FirstRepeat (ids : List AtomId) (id : AtomId) : Prop :=
  ∃ before after, ids = before ++ id :: after ∧ before.Nodup ∧ id ∈ before

/-! ## Counting up -/

namespace AtomId

theorem toNat_le_greatest (id : AtomId) : id.toNat ≤ greatest := by
  have h := id.toNat_lt
  simp only [greatest]
  omega

theorem toNat_capped (n : Nat) : (capped n).toNat = min n greatest := by
  have h : min n greatest < UInt32.size := by
    simp only [greatest, UInt32.size]
    omega
  rw [capped, UInt32.toNat_ofNat_of_lt' h]

theorem next_eq (id : AtomId) : id.next = capped (id.toNat + 1) := by
  have hle := toNat_le_greatest id
  unfold next capped
  split
  · next h => rw [Nat.min_eq_left (by omega)]
  · next h => rw [Nat.min_eq_right (by omega), show greatest = id.toNat by omega,
      UInt32.ofNat_toNat]

theorem next_capped (n : Nat) : (capped n).next = capped (n + 1) := by
  rw [next_eq, toNat_capped, capped, capped]
  congr 1
  omega

end AtomId

theorem toNat_foldl_max (ids : List AtomId) (id : AtomId) :
    (ids.foldl (fun m i => if m < i then i else m) id).toNat =
      max id.toNat ((ids.map UInt32.toNat).foldr max 0) := by
  induction ids generalizing id with
  | nil => exact (Nat.max_zero _).symm
  | cons i ids ih =>
    rw [List.foldl_cons, ih, List.map_cons, List.foldr_cons]
    split
    · next h => have := UInt32.lt_iff_toNat_lt.mp h; omega
    · next h => have := mt UInt32.lt_iff_toNat_lt.mpr h; omega

theorem toNat_largestId (defs : List AtomDefinition) :
    (largestId defs).toNat = largestWritten defs := by
  rw [largestId, toNat_foldl_max]
  exact Nat.zero_max _

/-! ## Repeats -/

theorem not_firstRepeat_of_nodup {ids : List AtomId} (h : ids.Nodup) (id : AtomId) :
    ¬FirstRepeat ids id := by
  rintro ⟨before, after, rfl, -, hid⟩
  exact (List.nodup_append.mp h).2.2 id hid id List.mem_cons_self rfl

/-- Behind distinct ids the first one that stands among them is the first repeat. -/
theorem firstRepeat_append_cons {seen rest : List AtomId} {i id : AtomId} (hseen : seen.Nodup)
    (hi : i ∈ seen) : FirstRepeat (seen ++ i :: rest) id ↔ id = i := by
  constructor
  · rintro ⟨before, after, h, hbefore, hid⟩
    rcases List.append_eq_append_iff.mp h with ⟨as, rfl, has⟩ | ⟨as, rfl, has⟩
    · cases as with
      | nil => exact (List.cons.inj has).1.symm
      | cons a as =>
        -- The ids before the repeat already hold `i` twice.
        obtain ⟨rfl, -⟩ := List.cons.inj has
        exact absurd rfl ((List.nodup_append.mp hbefore).2.2 i hi i List.mem_cons_self)
    · cases as with
      | nil => exact (List.cons.inj has).1
      | cons a as =>
        obtain ⟨rfl, -⟩ := List.cons.inj has
        exact absurd rfl ((List.nodup_append.mp hseen).2.2 id hid id List.mem_cons_self)
  · rintro rfl
    exact ⟨seen, rest, rfl, hseen, hi⟩

/-- The ids if they are distinct and new, or else the first one that is not. -/
def distinct (seen : List AtomId) : List AtomId → Except CompileError (List AtomId)
  | [] => .ok []
  | id :: ids =>
    if id ∈ seen then .error (.duplicateAtomId id) else (distinct (id :: seen) ids).map (id :: ·)

theorem eq_of_distinct {seen ids result : List AtomId} (h : distinct seen ids = .ok result) :
    result = ids := by
  induction ids generalizing seen result with
  | nil =>
    cases h
    rfl
  | cons id ids ih =>
    rw [distinct] at h
    split at h
    · cases h
    · obtain ⟨rest, hrest, rfl⟩ := Logic.map_eq_ok h
      rw [ih hrest]

/-- Among the ids seen before, earliest first, and those to come, the first repeat is reported. -/
theorem distinct_eq_error_iff {seen ids : List AtomId} {e : CompileError} (hseen : seen.Nodup) :
    distinct seen ids = .error e ↔
      ∃ id, FirstRepeat (seen.reverse ++ ids) id ∧ e = .duplicateAtomId id := by
  induction ids generalizing seen with
  | nil =>
    refine ⟨nofun, fun ⟨id, hid, _⟩ => ?_⟩
    rw [List.append_nil] at hid
    exact absurd hid (not_firstRepeat_of_nodup (List.nodup_reverse.mpr hseen) id)
  | cons id ids ih =>
    rw [distinct]
    split
    · next hid =>
      have hfirst : ∀ i, FirstRepeat (seen.reverse ++ id :: ids) i ↔ i = id := fun _ =>
        firstRepeat_append_cons (List.nodup_reverse.mpr hseen) (List.mem_reverse.mpr hid)
      simp only [hfirst, exists_eq_left, Except.error.injEq]
      exact eq_comm
    · next hid =>
      have hmap : (distinct (id :: seen) ids).map (id :: ·) = .error e ↔
          distinct (id :: seen) ids = .error e := by
        cases distinct (id :: seen) ids <;> simp [Except.map]
      rw [hmap, ih (List.nodup_cons.mpr ⟨hid, hseen⟩), List.reverse_cons, List.append_assoc]
      rfl

/-! ## Assigning -/

theorem assignFrom_capped (n : Nat) (seen : List AtomId) (defs : List AtomDefinition) :
    assignFrom (.capped (n + 1)) seen defs = distinct seen (numbersFrom n defs) := by
  induction defs generalizing n seen with
  | nil => rfl
  | cons d defs ih =>
    cases hd : d.id with
    | none => simp [assignFrom, numbersFrom, distinct, hd, AtomId.next_capped, ih]
    | some id => simp [assignFrom, numbersFrom, distinct, hd, ih]

theorem assignIds_eq (defs : List AtomDefinition) :
    assignIds defs = distinct [] (numbers defs) := by
  rw [assignIds, AtomId.next_eq, toNat_largestId, assignFrom_capped, numbers]

/-- The ids that are given out are the numbers of the definitions. -/
theorem eq_numbers_of_assignIds {defs : List AtomDefinition} {ids : List AtomId}
    (h : assignIds defs = .ok ids) : ids = numbers defs :=
  eq_of_distinct ((assignIds_eq defs).symm.trans h)

/-- The id that is reported is the first repeat among the numbers of the definitions. -/
theorem assignIds_eq_error_iff {defs : List AtomDefinition} {e : CompileError} :
    assignIds defs = .error e ↔
      ∃ id, FirstRepeat (numbers defs) id ∧ e = .duplicateAtomId id := by
  rw [assignIds_eq, distinct_eq_error_iff List.nodup_nil]
  rfl

theorem distinct_eq_ok {ids : List AtomId} (h : ids.Nodup) : distinct [] ids = .ok ids := by
  cases hIds : distinct [] ids with
  | error e =>
    obtain ⟨id, hRepeat, -⟩ := (distinct_eq_error_iff List.nodup_nil).mp hIds
    exact absurd hRepeat (not_firstRepeat_of_nodup h id)
  | ok result => rw [eq_of_distinct hIds]

/-- Distinct numbers are given out. -/
theorem assignIds_eq_ok {defs : List AtomDefinition} (h : (numbers defs).Nodup) :
    assignIds defs = .ok (numbers defs) := by
  rw [assignIds_eq, distinct_eq_ok h]

end RuleVerdict
