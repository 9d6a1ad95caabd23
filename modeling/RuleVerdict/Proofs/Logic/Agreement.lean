import RuleVerdict.Proofs.Logic.Acceptance
import RuleVerdict.Proofs.Logic.Meaning
import RuleVerdict.Proofs.Logic.NodeValues

/-!
# Two readings of the same tokens

Tokens are read twice: the shape check runs over them with two stacks, and a tree is built from
their words by splitting. Both accept exactly the expressions of the grammar, apart from the limit
on the nesting of trees, and both find the value of the same expression.

* `words_join_word`: tokens that are written with single spaces between them are found again.
* `tree_and_stacks_agree`: the two readings agree on acceptance, value and faults.
-/

namespace RuleVerdict.Logic

theorem Token.toList_word (t : Token) : ' ' ∉ t.word.toList ∧ t.word.toList ≠ [] := by
  cases t with
  | id n =>
    simp only [word, AtomId.text, Text.numeral, String.toList_ofList]
    refine ⟨fun h => ?_, Text.toDigits_ne_nil _⟩
    have := Text.isDigit_of_mem_toDigits h
    revert this
    decide
  | _ => decide +kernel

/-- Tokens written with single spaces between them are the words of the text. -/
theorem words_join_word (ts : List Token) :
    words (Text.join ' ' (ts.map Token.word)) = ts.map Token.word :=
  words_join (List.forall_mem_map.mpr fun t _ => t.toList_word)

theorem map_read?_word (ts : List Token) :
    (ts.map Token.word).map Token.read? = ts.map some := by
  rw [List.map_map]
  exact List.map_congr_left fun t _ => t.read?_word

/-- Words that are read into a formula are accepted as tokens. -/
theorem evaluate_of_build {truth : AtomId → Option Bool} {v : AtomId → Bool} {ts : List Token}
    {f : Formula} (hv : Stacks.Knows truth v ts) (h : build (ts.map Token.word) = .ok f) :
    ∃ b, evaluate truth ts = .ok b := by
  obtain ⟨d, hd⟩ := exists_words_of_build h
  have hread := d.map_read?_words
  rw [hd, map_read?_word] at hread
  obtain rfl := (List.map_inj_right fun _ _ => Option.some.inj).mp hread
  exact exists_evaluate_tokens _ hv

/-- Tokens that are accepted are read into a formula with the value that was found. -/
theorem build_of_evaluate {truth : AtomId → Option Bool} {v : AtomId → Bool} {ts : List Token}
    {b : Bool} (hv : Stacks.Knows truth v ts) (h : evaluate truth ts = .ok b) :
    ∃ f, build (ts.map Token.word) = .ok f ∧ f.Proper ∧ f.value v = b := by
  obtain ⟨e, rfl, rfl⟩ := exists_value_of_evaluate hv h
  obtain ⟨f, hf, hp, hvalue, -, -⟩ := exists_formula_of_read (map_read?_word e.tokens)
  exact ⟨f, hf, hp, hvalue v⟩

/-- **The two readings agree.** Under an assignment that gives a value to every atom of some
tokens, a tree is built from their text exactly if the stacks find a value and the nesting is
within its limit. In that case the root of the tree has the value that the stacks find, and it is
true exactly if no atom is reached along diverging nodes. -/
theorem tree_and_stacks_agree (ts : List Token) (truth : AtomId → Option Bool)
    (hts : ∀ id, .id id ∈ ts → (truth id).isSome) :
    ((∃ t, Tree.build (Text.join ' ' (ts.map Token.word)) = .ok t) ↔
      (∃ b, evaluate truth ts = .ok b) ∧ nesting (ts.map Token.word) ≤ 256) ∧
    ∀ t b, Tree.build (Text.join ' ' (ts.map Token.word)) = .ok t → evaluate truth ts = .ok b →
      (t.values fun id => (truth id).getD false)[0]? = some b ∧
        (b = true ↔ t.divergingFaults (fun id => (truth id).getD false) = []) := by
  have hv : Stacks.Knows truth (fun id => (truth id).getD false) ts := by
    intro id hid
    obtain ⟨b, hb⟩ := Option.isSome_iff_exists.mp (hts id hid)
    simp [hb]
  simp only [Tree.build_eq_ok_iff, words_join_word]
  refine ⟨⟨?_, ?_⟩, ?_⟩
  · rintro ⟨t, hn, f, hf, -⟩
    exact ⟨evaluate_of_build hv hf, hn⟩
  · rintro ⟨⟨b, hb⟩, hn⟩
    obtain ⟨f, hf, -, -⟩ := build_of_evaluate hv hb
    exact ⟨_, hn, f, hf, rfl⟩
  · rintro t b ⟨-, f, hf, rfl⟩ hb
    obtain ⟨g, hg, hp, rfl⟩ := build_of_evaluate hv hb
    obtain rfl : f = g := Except.ok.inj (hf.symm.trans hg)
    refine ⟨Tree.values_root _ _, ?_⟩
    rw [Tree.divergingFaults_eq, Formula.divergingFaults_eq_nil_iff hp]

/-- Both read `not ( 1 and 2 ) or 3` and find it true when only atom 2 fails. -/
theorem tree_and_stacks_agree_not_and_or :
    ∃ t, Tree.build (Text.join ' '
        ([.not, .opening, .id 1, .and, .id 2, .closing, .or, .id 3].map Token.word)) = .ok t ∧
      (t.values fun id => id != 2)[0]? = some true ∧
      t.divergingFaults (fun id => id != 2) = [] := by
  have h := tree_and_stacks_agree
    [.not, .opening, .id 1, .and, .id 2, .closing, .or, .id 3] (fun id => some (id != 2))
    (fun _ _ => rfl)
  have hstacks : evaluate (fun id => some (id != 2))
      [.not, .opening, .id 1, .and, .id 2, .closing, .or, .id 3] = .ok true := by rfl
  obtain ⟨t, ht⟩ := h.1.mpr ⟨⟨true, hstacks⟩, by decide +kernel⟩
  obtain ⟨hvalue, hfaults⟩ := h.2 t true ht hstacks
  exact ⟨t, ht, hvalue, hfaults.mp rfl⟩

end RuleVerdict.Logic
