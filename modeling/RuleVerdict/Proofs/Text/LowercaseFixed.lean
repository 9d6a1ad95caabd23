import RuleVerdict.Text.Lowercase

/-!
# Lower case is final

A character that comes out of the lower case mapping is left alone by it, wherever it stands: the
runs of the mapping never lead into one another, and neither special character is where a run leads
or what a special character becomes. So a text in lower case stays as it is.

* `lowerRuns_miss`: no run leads to a character that is moved.
* `isFixed_of_mem_lowercase`, `lowercase_of_isFixed`: what comes out of the mapping, and what it
  does to it.
-/

namespace RuleVerdict

namespace Unicode

/-- Whether the first run moves nothing to a member of the second: it leads past the second run, or
the two take every second code point in turn. -/
def CaseRun.misses (r s : CaseRun) : Bool :=
  (r.image + (r.last - r.first)).blt s.first || s.last.blt r.image ||
    (s.step == 2 && (r.step == 2 || r.first == r.last) && (r.image + s.first) % 2 == 1)

theorem CaseRun.apply?_eq_none_of_misses {r s : CaseRun} (h : r.misses s = true) {n m : Nat}
    (hn : r.apply? n = some m) : s.apply? m = none := by
  obtain ⟨⟨hFirst, hLast, hStep⟩, rfl⟩ := apply?_eq_some.mp hn
  simp only [misses, Bool.or_eq_true, Bool.and_eq_true, Nat.blt_eq, beq_iff_eq] at h
  refine if_neg ?_
  rintro ⟨hMin, hMax, hMember⟩
  rcases h with (hBelow | hAbove) | ⟨⟨hTwo, hMoves⟩, hOdd⟩
  · omega
  · omega
  · rw [hTwo] at hMember
    rcases hMoves with hr | hr
    · rw [hr] at hStep
      omega
    · omega

/-- The dotted capital `İ`, as a run of its own. -/
def dottedRun : CaseRun := ⟨0x130, 0x130, 1, 0x69⟩

theorem lowerRuns_miss {r s : CaseRun} (hr : r ∈ lowerRuns) (hs : s ∈ dottedRun :: lowerRuns) :
    r.misses s = true := by
  have hAll : (lowerRuns.all fun r => (dottedRun :: lowerRuns).all r.misses) = true := by
    decide +kernel
  exact List.all_eq_true.mp (List.all_eq_true.mp hAll r hr) s hs

end Unicode

namespace Text

open Unicode

/-- The lower case mapping leaves the character alone, whatever stands around it. -/
structure IsFixed (c : Char) : Prop where
  ne_sigma : c ≠ 'Σ'
  ne_dotted : c ≠ 'İ'
  lowerChar : lowerChar c = c

instance decidableIsFixed (c : Char) : Decidable (IsFixed c) :=
  decidable_of_iff (c ≠ 'Σ' ∧ c ≠ 'İ' ∧ Text.lowerChar c = c)
    ⟨fun ⟨hSigma, hDotted, hLower⟩ => ⟨hSigma, hDotted, hLower⟩,
      fun h => ⟨h.ne_sigma, h.ne_dotted, h.lowerChar⟩⟩

/-- A text of such characters stays as it is. -/
theorem lowercase_of_isFixed {cs : List Char} (h : ∀ c ∈ cs, IsFixed c) : lowercase cs = cs := by
  rw [lowercase, lowerFrom_of_plain fun c hc => ⟨(h c hc).ne_sigma, (h c hc).ne_dotted⟩]
  exact (List.map_congr_left fun c hc => (h c hc).lowerChar).trans (List.map_id cs)

theorem toNat_ofNat_or (n : Nat) : (Char.ofNat n).toNat = n ∨ Char.ofNat n = '\x00' := by
  by_cases h : n.isValidChar
  · left
    rw [Char.ofNat, dif_pos h]
    rfl
  · right
    rw [Char.ofNat, dif_neg h]
    rfl

/-- Where a run leads, the mapping leaves the character alone. -/
theorem isFixed_ofNat {r : CaseRun} (hr : r ∈ lowerRuns) {n m : Nat} (h : r.apply? n = some m) :
    IsFixed (Char.ofNat m) := by
  rcases toNat_ofNat_or m with hm | hZero
  · have hMiss : ∀ s ∈ dottedRun :: lowerRuns, s.apply? (Char.ofNat m).toNat = none := by
      intro s hs
      rw [hm]
      exact CaseRun.apply?_eq_none_of_misses (lowerRuns_miss hr hs) h
    have hNone : lowerRuns.findSome? (fun s => s.apply? (Char.ofNat m).toNat) = none :=
      List.findSome?_eq_none_iff.mpr fun s hs => hMiss s (List.mem_cons_of_mem _ hs)
    refine ⟨?_, ?_, ?_⟩
    · intro hSigma
      rw [hSigma] at hNone
      exact absurd hNone (by decide +kernel)
    · intro hDotted
      have hMoved := hMiss dottedRun List.mem_cons_self
      rw [hDotted] at hMoved
      exact absurd hMoved (by decide)
    · rw [Text.lowerChar, hNone]
  · rw [hZero]
    decide +kernel

theorem isFixed_lowerChar {c : Char} (hSigma : c ≠ 'Σ') (hDotted : c ≠ 'İ') :
    IsFixed (lowerChar c) := by
  cases hRun : lowerRuns.findSome? fun r => r.apply? c.toNat with
  | none =>
    have hLower : lowerChar c = c := by rw [lowerChar, hRun]
    rw [hLower]
    exact ⟨hSigma, hDotted, hLower⟩
  | some m =>
    obtain ⟨r, hr, hm⟩ := List.exists_of_findSome?_eq_some hRun
    rw [lowerChar, hRun]
    exact isFixed_ofNat hr hm

theorem isFixed_of_mem_lowerAt {before after : List Char} {c d : Char}
    (h : d ∈ lowerAt before c after) : IsFixed d := by
  unfold lowerAt at h
  split at h
  · split at h
    · obtain rfl := List.mem_singleton.mp h
      decide +kernel
    · obtain rfl := List.mem_singleton.mp h
      decide +kernel
  · next hSigma =>
    split at h
    · rw [List.mem_cons, List.mem_singleton] at h
      rcases h with rfl | rfl
      · decide +kernel
      · decide +kernel
    · next hDotted =>
      obtain rfl := List.mem_singleton.mp h
      exact isFixed_lowerChar hSigma hDotted

theorem isFixed_of_mem_lowerFrom {before cs : List Char} {d : Char}
    (h : d ∈ lowerFrom before cs) : IsFixed d := by
  induction cs generalizing before with
  | nil => cases h
  | cons c cs ih =>
    rw [lowerFrom_cons, List.mem_append] at h
    rcases h with hHere | hRest
    · exact isFixed_of_mem_lowerAt hHere
    · exact ih hRest

/-- Characters in lower case are left alone. -/
theorem isFixed_of_mem_lowercase {cs : List Char} {d : Char} (h : d ∈ lowercase cs) :
    IsFixed d :=
  isFixed_of_mem_lowerFrom h

end Text

end RuleVerdict
