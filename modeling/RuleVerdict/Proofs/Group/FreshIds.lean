import RuleVerdict.Proofs.Group.Numbering
import RuleVerdict.Proofs.Group.Compiled
import Mathlib.Data.List.MinMax
import Mathlib.Order.Nat

/-!
# Fresh ids

The numbers for definitions without an id run upward from the largest id that is written, so they
are new and distinct as long as there are enough numbers left. When there are not, the greatest id
has to be given out twice, and the assignment fails. So it succeeds exactly if the ids that are
written are distinct and the last number needed is an id.

* `getElem?_numbers`: the number of each definition by its position.
* `numbersFrom_perm`: the numbers are the ids that are written and a range of new ones.
* `nodup_numbers_iff`: when the numbers are distinct.
* `assignIds_numbers_upward`: when ids are assigned, which ones, and what is reported otherwise.
-/

namespace RuleVerdict

open AtomId

/-- How many definitions have no id. -/
def unnumbered (defs : List AtomDefinition) : Nat := defs.countP fun d => d.id.isNone

theorem unnumbered_cons (d : AtomDefinition) (ds : List AtomDefinition) :
    unnumbered (d :: ds) = unnumbered ds + if d.id.isNone then 1 else 0 :=
  List.countP_cons ..

/-! ## Numbers by position -/

theorem getElem?_numbersFrom (n : Nat) (defs : List AtomDefinition) (i : Nat) :
    (numbersFrom n defs)[i]? =
      defs[i]?.map fun d => d.id.getD (capped (n + unnumbered (defs.take (i + 1)))) := by
  induction defs generalizing n i with
  | nil => rfl
  | cons d ds ih =>
    rw [List.take_succ_cons, unnumbered_cons]
    cases hd : d.id with
    | some id =>
      cases i with
      | zero => simp [numbersFrom, hd]
      | succ i => simpa [numbersFrom, hd] using ih n i
    | none =>
      cases i with
      | zero => simp [numbersFrom, hd, unnumbered]
      | succ i =>
        have hRest := ih (n + 1) i
        simpa [numbersFrom, hd, Nat.add_assoc, Nat.add_comm] using hRest

theorem getElem?_numbers (defs : List AtomDefinition) (i : Nat) :
    (numbers defs)[i]? =
      defs[i]?.map fun d =>
        d.id.getD (capped (largestWritten defs + unnumbered (defs.take (i + 1)))) :=
  getElem?_numbersFrom _ defs i

theorem length_numbers (defs : List AtomDefinition) : (numbers defs).length = defs.length := by
  have hFrom : ∀ n, (numbersFrom n defs).length = defs.length := by
    induction defs with
    | nil => exact fun _ => rfl
    | cons d ds ih =>
      intro n
      cases hd : d.id <;> simp [numbersFrom, hd, ih]
  exact hFrom _

/-! ## Distinct numbers -/

/-- The ids that are given out are those that are written and those behind the last number used. -/
theorem numbersFrom_perm (n : Nat) (defs : List AtomDefinition) :
    (numbersFrom n defs).Perm
      (defs.filterMap AtomDefinition.id ++
        (List.range' (n + 1) (unnumbered defs)).map capped) := by
  induction defs generalizing n with
  | nil => exact .refl _
  | cons d ds ih =>
    rw [unnumbered_cons]
    cases hd : d.id with
    | some id => simpa [numbersFrom, hd] using ih n
    | none =>
      have hRest := ih (n + 1)
      have hNew := (hRest.cons (capped (n + 1))).trans List.perm_middle.symm
      simpa [numbersFrom, hd, List.range'_succ] using hNew

theorem capped_injective {i j : Nat} (hi : i ≤ greatest) (hj : j ≤ greatest)
    (h : capped i = capped j) : i = j := by
  have hToNat := congrArg UInt32.toNat h
  rwa [toNat_capped, toNat_capped, Nat.min_eq_left hi, Nat.min_eq_left hj] at hToNat

theorem capped_eq_of_le {n : Nat} (h : greatest ≤ n) : capped n = capped greatest := by
  rw [capped, capped, Nat.min_eq_right h, Nat.min_self]

theorem capped_toNat (id : AtomId) : capped id.toNat = id := by
  rw [capped, Nat.min_eq_left (toNat_le_greatest id), UInt32.ofNat_toNat]

/-! ## The largest id that is written -/

theorem toNat_le_largestWritten {defs : List AtomDefinition} {id : AtomId}
    (h : id ∈ defs.filterMap AtomDefinition.id) : id.toNat ≤ largestWritten defs :=
  List.le_max_of_le' 0 (List.mem_map_of_mem h) (Nat.le_refl _)

theorem largestWritten_le (defs : List AtomDefinition) : largestWritten defs ≤ greatest := by
  apply List.max_le_of_forall_le
  intro n hn
  obtain ⟨id, -, rfl⟩ := List.mem_map.mp hn
  exact toNat_le_greatest id

/-- Unless it is zero, the largest number that is written is the id of a definition. -/
theorem capped_largestWritten_mem {defs : List AtomDefinition} (h : largestWritten defs ≠ 0) :
    capped (largestWritten defs) ∈ defs.filterMap AtomDefinition.id := by
  have hNe : (defs.filterMap AtomDefinition.id).map UInt32.toNat ≠ [] := by
    intro hNil
    apply h
    rw [largestWritten, hNil]
    rfl
  have hMem := List.maximum_mem (List.foldr_max_of_ne_nil hNe).symm
  obtain ⟨id, hId, hMax⟩ := List.mem_map.mp hMem
  have hSame : id.toNat = largestWritten defs := hMax
  rwa [← hSame, capped_toNat]

/-! ## Distinct numbers -/

/-- New numbers are distinct and larger than those that are written while they are ids. -/
theorem nodup_numbers_of_le {defs : List AtomDefinition}
    (hWritten : (defs.filterMap AtomDefinition.id).Nodup)
    (h : unnumbered defs = 0 ∨ largestWritten defs + unnumbered defs ≤ greatest) :
    (numbers defs).Nodup := by
  rw [numbers, (numbersFrom_perm _ defs).nodup_iff, List.nodup_append]
  have hBound : ∀ n ∈ List.range' (largestWritten defs + 1) (unnumbered defs),
      largestWritten defs < n ∧ n ≤ greatest := by
    intro n hn
    rw [List.mem_range'_1] at hn
    omega
  refine ⟨hWritten, List.Nodup.map_on ?_ List.nodup_range', ?_⟩
  · intro i hi j hj hSame
    exact capped_injective (hBound i hi).2 (hBound j hj).2 hSame
  · rintro id hId new hNew rfl
    obtain ⟨n, hn, hSame⟩ := List.mem_map.mp hNew
    have hLe := toNat_le_largestWritten hId
    rw [← hSame, toNat_capped, Nat.min_eq_left (hBound n hn).2] at hLe
    have hLt := (hBound n hn).1
    omega

/-- When numbers run out, the greatest id is given out twice: it is written already, or both the
number that reaches it and the last one stand for it. -/
theorem le_of_nodup_numbers {defs : List AtomDefinition} (h : (numbers defs).Nodup) :
    unnumbered defs = 0 ∨ largestWritten defs + unnumbered defs ≤ greatest := by
  rw [numbers, (numbersFrom_perm _ defs).nodup_iff, List.nodup_append] at h
  obtain ⟨-, hNew, hApart⟩ := h
  by_contra hNot
  obtain ⟨hSome, hFull⟩ := not_or.mp hNot
  have hLe := largestWritten_le defs
  have hLast : largestWritten defs + unnumbered defs ∈
      List.range' (largestWritten defs + 1) (unnumbered defs) := by
    rw [List.mem_range'_1]
    omega
  have hCapped : capped (largestWritten defs + unnumbered defs) = capped greatest :=
    capped_eq_of_le (by omega)
  rcases Nat.lt_or_eq_of_le hLe with hLt | hMax
  · have hReached : greatest ∈ List.range' (largestWritten defs + 1) (unnumbered defs) := by
      rw [List.mem_range'_1]
      omega
    have hSame := List.inj_on_of_nodup_map hNew hLast hReached hCapped
    omega
  · have hPos : largestWritten defs ≠ 0 := by simp [hMax, greatest]
    have hWritten := capped_largestWritten_mem hPos
    rw [hMax] at hWritten
    exact hApart _ hWritten _ (List.mem_map_of_mem hLast) hCapped.symm

/-- The numbers are distinct exactly if the ids that are written are and the last number needed is
not too large. -/
theorem nodup_numbers_iff (defs : List AtomDefinition) :
    (numbers defs).Nodup ↔
      (defs.filterMap AtomDefinition.id).Nodup ∧
        (unnumbered defs = 0 ∨ largestWritten defs + unnumbered defs ≤ greatest) := by
  constructor
  · intro h
    have hParts := (numbersFrom_perm _ defs).nodup_iff.mp h
    exact ⟨(List.nodup_append.mp hParts).1, le_of_nodup_numbers h⟩
  · rintro ⟨hWritten, hRoom⟩
    exact nodup_numbers_of_le hWritten hRoom

/-! ## Assignment -/

theorem exists_assignIds_iff (defs : List AtomDefinition) :
    (∃ ids, assignIds defs = .ok ids) ↔ (numbers defs).Nodup := by
  constructor
  · rintro ⟨ids, h⟩
    obtain rfl := eq_numbers_of_assignIds h
    exact (assignFrom_spec h).2.1
  · exact fun h => ⟨_, assignIds_eq_ok h⟩

/-- The id of a definition is the one that is written, and else as many behind the largest id that
is written as there are definitions without an id up to this one. -/
theorem number_of_nodup {defs : List AtomDefinition} (h : (numbers defs).Nodup) {i : Nat}
    {d : AtomDefinition} {id : AtomId} (hd : defs[i]? = some d)
    (hid : (numbers defs)[i]? = some id) :
    (∀ written, d.id = some written → id = written) ∧
      (d.id = none → id.toNat = largestWritten defs + unnumbered (defs.take (i + 1))) := by
  rw [getElem?_numbers, hd, Option.map_some, Option.some_inj] at hid
  subst hid
  constructor
  · intro written hSome
    rw [hSome, Option.getD_some]
  · intro hNone
    have hCount : unnumbered (defs.take (i + 1)) ≤ unnumbered defs :=
      (List.take_sublist _ _).countP_le
    have hPos : 0 < unnumbered defs :=
      List.countP_pos_iff.mpr ⟨d, List.mem_of_getElem? hd, by simp [hNone]⟩
    have hRoom := (le_of_nodup_numbers h).resolve_left hPos.ne'
    rw [hNone, Option.getD_none, toNat_capped]
    omega

/-- **Ids are assigned upward from the largest one that is written.** The assignment succeeds
exactly if the ids that are written are distinct and the definitions without one do not need numbers
beyond the greatest id. Then every definition has an id of its own: the one that is written, or the
next number behind the largest of these. Otherwise the first definition is reported whose number,
capped at the greatest id, an earlier definition has as well. -/
theorem assignIds_numbers_upward (defs : List AtomDefinition) :
    ((∃ ids, assignIds defs = .ok ids) ↔
      (defs.filterMap AtomDefinition.id).Nodup ∧
        (unnumbered defs = 0 ∨ largestWritten defs + unnumbered defs ≤ 4294967295)) ∧
    (∀ ids, assignIds defs = .ok ids →
      ids.length = defs.length ∧ ids.Nodup ∧
        ∀ (i : Nat) (d : AtomDefinition) (id : AtomId), defs[i]? = some d → ids[i]? = some id →
          (∀ written, d.id = some written → id = written) ∧
            (d.id = none → id.toNat = largestWritten defs + unnumbered (defs.take (i + 1)))) ∧
    (∀ i : Nat, (numbers defs)[i]? = defs[i]?.map fun d =>
      d.id.getD (capped (largestWritten defs + unnumbered (defs.take (i + 1))))) ∧
    ∀ e, assignIds defs = .error e ↔
      ∃ id, FirstRepeat (numbers defs) id ∧ e = .duplicateAtomId id := by
  refine ⟨(exists_assignIds_iff defs).trans (nodup_numbers_iff defs), fun ids h => ?_,
    getElem?_numbers defs, fun e => assignIds_eq_error_iff⟩
  have hNodup := (exists_assignIds_iff defs).mp ⟨ids, h⟩
  obtain rfl := eq_numbers_of_assignIds h
  exact ⟨length_numbers defs, hNodup, fun i d id => number_of_nodup hNodup⟩

/-- Two ids are left behind `4294967293`, also for a definition in front of it. -/
theorem assignIds_numbers_upward_to_greatest :
    ∃ ids, assignIds [⟨"=", "a", none, none, ""⟩, ⟨"=", "b", none, some 4294967293, ""⟩,
        ⟨"=", "c", none, none, ""⟩] = .ok ids ∧
      ids.map UInt32.toNat = [4294967294, 4294967293, 4294967295] := by
  have h := assignIds_numbers_upward [⟨"=", "a", none, none, ""⟩,
    ⟨"=", "b", none, some 4294967293, ""⟩, ⟨"=", "c", none, none, ""⟩]
  obtain ⟨ids, hIds⟩ := h.1.mpr (by decide)
  obtain ⟨hLength, -, hEach⟩ := h.2.1 ids hIds
  match ids, hLength with
  | [x, y, z], _ =>
    have hx := (hEach 0 _ x rfl rfl).2 rfl
    have hy := (hEach 1 _ y rfl rfl).1 _ rfl
    have hz := (hEach 2 _ z rfl rfl).2 rfl
    refine ⟨_, hIds, ?_⟩
    rw [List.map_cons, List.map_cons, List.map_cons, hx, hy, hz]
    decide

end RuleVerdict
