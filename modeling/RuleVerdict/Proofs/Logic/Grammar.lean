import RuleVerdict.Logic.Tree
import RuleVerdict.Logic.Token
import Mathlib.Tactic.SplitIfs

/-!
# The grammar of logic texts

An expression is a chain of one or more operands of `or`, each of these is a chain of operands of
`and`, and each of those is an atom, a negation or an expression in brackets. The three kinds of
trees below are the derivations of this grammar, so that a word list is an expression exactly when
it is the yield of such a tree. What stands for an atom is left open: it is an id where tokens are
derived, and a numeral where words are.

* `map_read?_words`: the words of an expression are read as its tokens.
* `exists_words_eq`: words that are read as the tokens of an expression spell that expression.
-/

namespace RuleVerdict.Logic

mutual

/-- One or more operands joined by `or`. -/
inductive OrChain (α : Type) where
  | last (c : AndChain α)
  | or (first : AndChain α) (rest : OrChain α)

/-- One or more operands joined by `and`. -/
inductive AndChain (α : Type) where
  | last (u : Operand α)
  | and (first : Operand α) (rest : AndChain α)

/-- An atom, a negation, or an expression in brackets. -/
inductive Operand (α : Type) where
  | atom (a : α)
  | not (u : Operand α)
  | brackets (d : OrChain α)

end

/-- A word that stands for an atom, with the id that it writes. -/
structure Numeral where
  word : String
  id : AtomId
  reads : atomOfWord? word = some id

/-! ## The yield -/

mutual

/-- The tokens that an expression derives. -/
@[simp]
def OrChain.tokens : OrChain AtomId → List Token
  | .last c => c.tokens
  | .or c d => c.tokens ++ .or :: d.tokens

/-- The tokens of a chain of `and`. -/
@[simp]
def AndChain.tokens : AndChain AtomId → List Token
  | .last u => u.tokens
  | .and u c => u.tokens ++ .and :: c.tokens

/-- The tokens of an operand. -/
@[simp]
def Operand.tokens : Operand AtomId → List Token
  | .atom id => [.id id]
  | .not u => .not :: u.tokens
  | .brackets d => .opening :: (d.tokens ++ [.closing])

end

mutual

/-- The words that an expression derives. -/
@[simp]
def OrChain.words : OrChain Numeral → List String
  | .last c => c.words
  | .or c d => c.words ++ "or" :: d.words

/-- The words of a chain of `and`. -/
@[simp]
def AndChain.words : AndChain Numeral → List String
  | .last u => u.words
  | .and u c => u.words ++ "and" :: c.words

/-- The words of an operand. -/
@[simp]
def Operand.words : Operand Numeral → List String
  | .atom n => [n.word]
  | .not u => "not" :: u.words
  | .brackets d => "(" :: (d.words ++ [")"])

end

mutual

/-- The expression with other atoms. -/
@[simp]
def OrChain.map {α β : Type} (f : α → β) : OrChain α → OrChain β
  | .last c => .last (c.map f)
  | .or c d => .or (c.map f) (d.map f)

/-- The chain with other atoms. -/
@[simp]
def AndChain.map {α β : Type} (f : α → β) : AndChain α → AndChain β
  | .last u => .last (u.map f)
  | .and u c => .and (u.map f) (c.map f)

/-- The operand with other atoms. -/
@[simp]
def Operand.map {α β : Type} (f : α → β) : Operand α → Operand β
  | .atom a => .atom (f a)
  | .not u => .not (u.map f)
  | .brackets d => .brackets (d.map f)

end

/-! ## What an expression says -/

mutual

/-- The truth value of an expression. -/
@[simp]
def OrChain.value {α : Type} (truth : α → Bool) : OrChain α → Bool
  | .last c => c.value truth
  | .or c d => c.value truth || d.value truth

/-- The truth value of a chain of `and`. -/
@[simp]
def AndChain.value {α : Type} (truth : α → Bool) : AndChain α → Bool
  | .last u => u.value truth
  | .and u c => u.value truth && c.value truth

/-- The truth value of an operand. -/
@[simp]
def Operand.value {α : Type} (truth : α → Bool) : Operand α → Bool
  | .atom a => truth a
  | .not u => !u.value truth
  | .brackets d => d.value truth

end

mutual

/-- The literals that decide an expression when only the first operand of each `or` counts: the
atoms with the values that they have to take for the expression to be worth `sign`. -/
@[simp]
def OrChain.literals {α : Type} (sign : Bool) : OrChain α → List (α × Bool)
  | .last c => c.literals sign
  | .or c _ => c.literals sign

/-- The literals of a chain of `and`: those of all operands. -/
@[simp]
def AndChain.literals {α : Type} (sign : Bool) : AndChain α → List (α × Bool)
  | .last u => u.literals sign
  | .and u c => u.literals sign ++ c.literals sign

/-- The literals of an operand; a negation turns the sign around. -/
@[simp]
def Operand.literals {α : Type} (sign : Bool) : Operand α → List (α × Bool)
  | .atom a => [(a, sign)]
  | .not u => u.literals (!sign)
  | .brackets d => d.literals sign

end

mutual

/-- The formula that an expression spells: without brackets, and with one node for each chain of
two or more operands. -/
@[simp]
def OrChain.formula : OrChain Numeral → Formula
  | .last c => c.formula
  | .or c d => .disjunction (Text.join ' ' (OrChain.or c d).words) (c.formula :: d.formulas)

/-- The formulas of the operands of `or`. -/
@[simp]
def OrChain.formulas : OrChain Numeral → List Formula
  | .last c => [c.formula]
  | .or c d => c.formula :: d.formulas

/-- The formula of a chain of `and`. -/
@[simp]
def AndChain.formula : AndChain Numeral → Formula
  | .last u => u.formula
  | .and u c => .conjunction (Text.join ' ' (AndChain.and u c).words) (u.formula :: c.formulas)

/-- The formulas of the operands of `and`. -/
@[simp]
def AndChain.formulas : AndChain Numeral → List Formula
  | .last u => [u.formula]
  | .and u c => u.formula :: c.formulas

/-- The formula of an operand. -/
@[simp]
def Operand.formula : Operand Numeral → Formula
  | .atom n => .atom n.id
  | .not u => .negation (Text.join ' ' (Operand.not u).words) u.formula
  | .brackets d => d.formula

end

mutual

/-- The value of an expression depends on the atoms of its tokens only. -/
theorem OrChain.value_congr {v w : AtomId → Bool} : (d : OrChain AtomId) →
    (∀ id, .id id ∈ d.tokens → v id = w id) → d.value v = d.value w
  | .last c, h => c.value_congr h
  | .or c d, h => by
    rw [OrChain.value, OrChain.value, c.value_congr fun id hid => h id (by simp [hid]),
      d.value_congr fun id hid => h id (by simp [hid])]

theorem AndChain.value_congr {v w : AtomId → Bool} : (c : AndChain AtomId) →
    (∀ id, .id id ∈ c.tokens → v id = w id) → c.value v = c.value w
  | .last u, h => u.value_congr h
  | .and u c, h => by
    rw [AndChain.value, AndChain.value, u.value_congr fun id hid => h id (by simp [hid]),
      c.value_congr fun id hid => h id (by simp [hid])]

theorem Operand.value_congr {v w : AtomId → Bool} : (u : Operand AtomId) →
    (∀ id, .id id ∈ u.tokens → v id = w id) → u.value v = u.value w
  | .atom a, h => h a (by simp)
  | .not u, h => by
    rw [Operand.value, Operand.value, u.value_congr fun id hid => h id (by simp [hid])]
  | .brackets d, h => d.value_congr fun id hid => h id (by simp [hid])

end

/-! ## Words and tokens -/

/-- The token that a word stands for when a tree is read. -/
def Token.read? (w : String) : Option Token :=
  if w = "and" then some .and
  else if w = "or" then some .or
  else if w = "not" then some .not
  else if w = "(" then some .opening
  else if w = ")" then some .closing
  else (atomOfWord? w).map .id

namespace Token

theorem atomOfWord?_of_digits {w : String} {n : AtomId}
    (h : AtomId.ofDigits? w.toList = some n) : atomOfWord? w = some n := by
  unfold atomOfWord?
  split
  · next ds hw =>
    -- A plus sign is no digit.
    rw [hw] at h
    simp [AtomId.ofDigits?, Text.number?, show Text.isDigit '+' = false by decide] at h
  · exact h

theorem read?_of_atomOfWord? {w : String} {n : AtomId} (h : atomOfWord? w = some n) :
    read? w = some (.id n) := by
  have hd : ∀ s : String, atomOfWord? s = none → w ≠ s := by
    rintro s hs rfl
    rw [hs] at h
    cases h
  have h1 := hd "and" (by decide +kernel)
  have h2 := hd "or" (by decide +kernel)
  have h3 := hd "not" (by decide +kernel)
  have h4 := hd "(" (by decide +kernel)
  have h5 := hd ")" (by decide +kernel)
  simp [read?, h1, h2, h3, h4, h5, h]

theorem atomOfWord?_of_read? {w : String} {n : AtomId} (h : read? w = some (.id n)) :
    atomOfWord? w = some n := by
  unfold read? at h
  split_ifs at h
  all_goals simp_all

theorem word_of_read? {w : String} {t : Token} (h : read? w = some t) (ht : t.id? = none) :
    w = t.word := by
  unfold read? at h
  split_ifs at h
  case neg =>
    obtain ⟨n, -, rfl⟩ := Option.map_eq_some_iff.mp h
    cases ht
  all_goals
    cases h
    assumption

/-- A word of a tokenized text is read in the same way when its tree is built. -/
theorem read?_of_ofWord? {w : String} {t : Token} (h : ofWord? w = some t) :
    read? w = some t := by
  unfold ofWord? at h
  unfold read?
  split_ifs at h ⊢
  case neg =>
    obtain ⟨n, hn, rfl⟩ := Option.map_eq_some_iff.mp h
    rw [atomOfWord?_of_digits hn]
    rfl
  all_goals exact h

theorem read?_word (t : Token) : read? t.word = some t := read?_of_ofWord? (ofWord?_word t)

theorem mem_filterMap_id? {ts : List Token} {n : AtomId} :
    n ∈ ts.filterMap id? ↔ .id n ∈ ts := by
  rw [List.mem_filterMap]
  constructor
  · rintro ⟨t, ht, hn⟩
    cases t with
    | id m =>
      cases hn
      exact ht
    | _ => cases hn
  · exact fun h => ⟨.id n, h, rfl⟩

end Token

theorem map_ofWord?_of_tokensOf {ws : List String} {ts : List Token} (h : tokensOf ws = .ok ts) :
    ws.map Token.ofWord? = ts.map some := by
  induction ws generalizing ts with
  | nil =>
    cases h
    rfl
  | cons w ws ih =>
    rw [tokensOf] at h
    split at h
    · cases h
    · next t ht =>
      obtain ⟨us, hus, rfl⟩ := map_eq_ok h
      rw [List.map_cons, List.map_cons, ht, ih hus]

/-- The words of a tokenized text are its tokens. No piece of it is empty, since no token is. -/
theorem map_read?_words_of_tokenize {s : String} {ts : List Token} (h : tokenize s = .ok ts) :
    (words s).map Token.read? = ts.map some := by
  unfold tokenize at h
  split at h
  · next hs =>
    cases h
    subst hs
    rfl
  · have hof := map_ofWord?_of_tokensOf h
    have hread : ∀ w ∈ Text.split ' ' s, ∃ t, Token.ofWord? w = some t := by
      intro w hw
      have hmem := List.mem_map_of_mem (f := Token.ofWord?) hw
      rw [hof] at hmem
      obtain ⟨t, -, ht⟩ := List.mem_map.mp hmem
      exact ⟨t, ht.symm⟩
    have hwords : words s = Text.split ' ' s := by
      rw [words, wordsOf, List.filter_eq_self.mpr, Text.split]
      intro w hw
      obtain ⟨t, ht⟩ := hread (String.ofList w) (List.mem_map_of_mem (f := String.ofList) hw)
      cases w with
      | nil => cases ht
      | cons c cs => rfl
    rw [hwords, ← hof]
    refine List.map_congr_left fun w hw => ?_
    obtain ⟨t, ht⟩ := hread w hw
    rw [ht, Token.read?_of_ofWord? ht]

mutual

theorem OrChain.map_read?_words : (d : OrChain Numeral) →
    d.words.map Token.read? = (d.map Numeral.id).tokens.map some
  | .last c => by simpa using c.map_read?_words
  | .or c d => by
    simp [c.map_read?_words, d.map_read?_words,
      show Token.read? "or" = some .or by decide +kernel]

theorem AndChain.map_read?_words : (c : AndChain Numeral) →
    c.words.map Token.read? = (c.map Numeral.id).tokens.map some
  | .last u => by simpa using u.map_read?_words
  | .and u c => by
    simp [u.map_read?_words, c.map_read?_words,
      show Token.read? "and" = some .and by decide +kernel]

theorem Operand.map_read?_words : (u : Operand Numeral) →
    u.words.map Token.read? = (u.map Numeral.id).tokens.map some
  | .atom n => by simp [Token.read?_of_atomOfWord? n.reads]
  | .not u => by
    simp [u.map_read?_words,
      show Token.read? "not" = some .not by decide +kernel]
  | .brackets d => by
    simp [d.map_read?_words,
      show Token.read? "(" = some .opening by decide +kernel,
      show Token.read? ")" = some .closing by decide +kernel]

end

mutual

/-- Words that are read as the tokens of an expression spell that expression. -/
theorem OrChain.exists_words_eq : (e : OrChain AtomId) → ∀ ws : List String,
    ws.map Token.read? = e.tokens.map some →
      ∃ e' : OrChain Numeral, e'.words = ws ∧ e'.map Numeral.id = e
  | .last c, ws, h => by
    obtain ⟨c', hw, hm⟩ := c.exists_words_eq ws h
    exact ⟨.last c', hw, by simp [hm]⟩
  | .or c d, ws, h => by
    simp only [OrChain.tokens, List.map_append, List.map_cons] at h
    obtain ⟨us, vs, rfl, hu, hv⟩ := List.map_eq_append_iff.mp h
    obtain ⟨w, vs, rfl, hw, hv⟩ := List.map_eq_cons_iff.mp hv
    obtain ⟨c', rfl, rfl⟩ := c.exists_words_eq us hu
    obtain ⟨d', rfl, rfl⟩ := d.exists_words_eq vs hv
    refine ⟨.or c' d', ?_, rfl⟩
    simp [Token.word_of_read? hw rfl, Token.word]

theorem AndChain.exists_words_eq : (c : AndChain AtomId) → ∀ ws : List String,
    ws.map Token.read? = c.tokens.map some →
      ∃ c' : AndChain Numeral, c'.words = ws ∧ c'.map Numeral.id = c
  | .last u, ws, h => by
    obtain ⟨u', hw, hm⟩ := u.exists_words_eq ws h
    exact ⟨.last u', hw, by simp [hm]⟩
  | .and u c, ws, h => by
    simp only [AndChain.tokens, List.map_append, List.map_cons] at h
    obtain ⟨us, vs, rfl, hu, hv⟩ := List.map_eq_append_iff.mp h
    obtain ⟨w, vs, rfl, hw, hv⟩ := List.map_eq_cons_iff.mp hv
    obtain ⟨u', rfl, rfl⟩ := u.exists_words_eq us hu
    obtain ⟨c', rfl, rfl⟩ := c.exists_words_eq vs hv
    refine ⟨.and u' c', ?_, rfl⟩
    simp [Token.word_of_read? hw rfl, Token.word]

theorem Operand.exists_words_eq : (u : Operand AtomId) → ∀ ws : List String,
    ws.map Token.read? = u.tokens.map some →
      ∃ u' : Operand Numeral, u'.words = ws ∧ u'.map Numeral.id = u
  | .atom id, ws, h => by
    obtain ⟨w, vs, rfl, hw, hv⟩ := List.map_eq_cons_iff.mp h
    obtain rfl := List.map_eq_nil_iff.mp hv
    exact ⟨.atom ⟨w, id, Token.atomOfWord?_of_read? hw⟩, rfl, rfl⟩
  | .not u, ws, h => by
    obtain ⟨w, vs, rfl, hw, hv⟩ := List.map_eq_cons_iff.mp h
    obtain ⟨u', rfl, rfl⟩ := u.exists_words_eq vs hv
    refine ⟨.not u', ?_, rfl⟩
    simp [Token.word_of_read? hw rfl, Token.word]
  | .brackets d, ws, h => by
    obtain ⟨w, vs, rfl, hw, hv⟩ := List.map_eq_cons_iff.mp h
    rw [List.map_append] at hv
    obtain ⟨us, zs, rfl, hu, hz⟩ := List.map_eq_append_iff.mp hv
    obtain ⟨z, zs, rfl, hc, hn⟩ := List.map_eq_cons_iff.mp hz
    obtain rfl := List.map_eq_nil_iff.mp hn
    obtain ⟨d', rfl, rfl⟩ := d.exists_words_eq us hu
    refine ⟨.brackets d', ?_, rfl⟩
    simp [Token.word_of_read? hw rfl, Token.word_of_read? hc rfl, Token.word]

end

end RuleVerdict.Logic
