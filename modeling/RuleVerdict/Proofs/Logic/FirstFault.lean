import RuleVerdict.Proofs.Logic.Acceptance

/-!
# The first impossible token

Tokens that are no expression go wrong at a definite point. Either there is a first token that no
expression has behind the tokens before it, or some expression begins with all the tokens, and
then they only stop too early. The shape check finds this point, and what it reports there is
decided by the grammar alone, whatever the atoms are worth.

* `begins_iff`: some expression begins with the tokens exactly if each may stand at its place.
* `operandFollows_iff`, `endsOperand_iff`: what the place says about the expressions that begin with
  the tokens.
* `faulty_refusal`, `faulty_stopped`: what is reported at a place is the fault of the tokens.
* `evaluate_reports_first_fault`: the errors said by the grammar.
-/

namespace RuleVerdict.Logic

open Stacks

variable {ts : List Token}

/-! ## Beginnings of expressions -/

/-- The grammar derives the tokens. -/
def IsExpression (ts : List Token) : Prop := ∃ d : OrChain AtomId, d.tokens = ts

/-- Some expression begins with the tokens. -/
def Begins (ts : List Token) : Prop := ∃ d : OrChain AtomId, ts <+: d.tokens

/-- In every expression that begins with the tokens an operand stands behind them. -/
def OperandFollows (ts : List Token) : Prop :=
  ∀ (d : OrChain AtomId) (rest : List Token), d.tokens = ts ++ rest →
    ∃ (u : Operand AtomId) (more : List Token), rest = u.tokens ++ more

/-- The tokens end with a whole operand. -/
def EndsOperand (ts : List Token) : Prop :=
  ∃ (front : List Token) (u : Operand AtomId), ts = front ++ u.tokens

/-- An expression begins with the tokens before the position, but none goes on with the token that
stands there. -/
def ImpossibleAt (ts : List Token) (p : Nat) : Prop :=
  p < ts.length ∧ Begins (ts.take p) ∧ ¬Begins (ts.take (p + 1))

/-- A closing bracket stands behind a whole operand while no bracket is open. -/
def StrayClosing (ts : List Token) (p : Nat) : Prop :=
  ts[p]? = some .closing ∧ EndsOperand (ts.take p) ∧
    (ts.take p).count .opening = (ts.take p).count .closing

/-- What has to be wrong with some tokens for an error to be reported. -/
inductive Faulty (ts : List Token) : ShapeError → Prop
  | unexpected {t : Token} {p : Nat} (h : ImpossibleAt ts p) (hToken : ts[p]? = some t)
      (hOther : ¬StrayClosing ts p) : Faulty ts (.unexpected t p)
  | unopened {p : Nat} (h : ImpossibleAt ts p) (hStray : StrayClosing ts p) :
      Faulty ts (.unopened p)
  | missingOperand (h : Begins ts) (hNo : ¬IsExpression ts) (hFollows : OperandFollows ts) :
      Faulty ts .missingOperand
  | unclosed (h : Begins ts) (hNo : ¬IsExpression ts) (hOther : ¬OperandFollows ts) :
      Faulty ts .unclosed

theorem Begins.shorten {us : List Token} (h : Begins ts) (hus : us <+: ts) : Begins us := by
  obtain ⟨d, hd⟩ := h
  exact ⟨d, hus.trans hd⟩

theorem IsExpression.begins (h : IsExpression ts) : Begins ts := by
  obtain ⟨d, rfl⟩ := h
  exact ⟨d, List.prefix_refl _⟩

namespace ImpossibleAt

variable {p q : Nat}

theorem not_begins (h : ImpossibleAt ts p) : ¬Begins ts := fun hBegins =>
  h.2.2 (hBegins.shorten (List.take_prefix _ _))

theorem le_of_impossibleAt (h : ImpossibleAt ts p) (hq : ImpossibleAt ts q) : p ≤ q := by
  refine Nat.le_of_not_lt fun hLt => hq.2.2 (h.2.1.shorten ?_)
  exact List.take_prefix_take_left hLt

/-- There is at most one first impossible token. -/
theorem position_unique (h : ImpossibleAt ts p) (hq : ImpossibleAt ts q) : p = q :=
  Nat.le_antisymm (h.le_of_impossibleAt hq) (hq.le_of_impossibleAt h)

end ImpossibleAt

namespace Faulty

/-- No more than one error fits. -/
theorem error_unique {e f : ShapeError} (he : Faulty ts e) (hf : Faulty ts f) : e = f := by
  cases he with
  | unexpected h hToken hOther =>
    cases hf with
    | unexpected h' hToken' =>
      obtain rfl := h.position_unique h'
      obtain rfl := Option.some.inj (hToken.symm.trans hToken')
      rfl
    | unopened h' hStray =>
      obtain rfl := h.position_unique h'
      exact absurd hStray hOther
    | missingOperand hBegins | unclosed hBegins => exact absurd hBegins h.not_begins
  | unopened h hStray =>
    cases hf with
    | unexpected h' hToken hOther =>
      obtain rfl := h.position_unique h'
      exact absurd hStray hOther
    | unopened h' =>
      obtain rfl := h.position_unique h'
      rfl
    | missingOperand hBegins | unclosed hBegins => exact absurd hBegins h.not_begins
  | missingOperand h hNo hFollows =>
    cases hf with
    | unexpected h' | unopened h' => exact absurd h h'.not_begins
    | missingOperand => rfl
    | unclosed _ _ hOther => exact absurd hFollows hOther
  | unclosed h hNo hOther =>
    cases hf with
    | unexpected h' | unopened h' => exact absurd h h'.not_begins
    | missingOperand _ _ hFollows => exact absurd hFollows hOther
    | unclosed => rfl

theorem not_isExpression {e : ShapeError} (h : Faulty ts e) : ¬IsExpression ts := by
  cases h with
  | unexpected h | unopened h => exact fun hExpr => h.not_begins hExpr.begins
  | missingOperand _ hNo | unclosed _ hNo => exact hNo

theorem at_position_iff {p : Nat} :
    ((∃ t, Faulty ts (.unexpected t p)) ∨ Faulty ts (.unopened p)) ↔ ImpossibleAt ts p := by
  constructor
  · rintro (⟨t, hFaulty⟩ | hFaulty)
    · cases hFaulty with
      | unexpected h => exact h
    · cases hFaulty with
      | unopened h => exact h
  · intro h
    by_cases hStray : StrayClosing ts p
    · exact .inr (.unopened h hStray)
    · exact .inl ⟨_, .unexpected h (List.getElem?_eq_getElem h.1) hStray⟩

theorem at_end_iff :
    (Faulty ts .missingOperand ∨ Faulty ts .unclosed) ↔ Begins ts ∧ ¬IsExpression ts := by
  constructor
  · rintro (hFaulty | hFaulty)
    · cases hFaulty with
      | missingOperand h hNo => exact ⟨h, hNo⟩
    · cases hFaulty with
      | unclosed h hNo => exact ⟨h, hNo⟩
  · rintro ⟨h, hNo⟩
    by_cases hFollows : OperandFollows ts
    · exact .inl (.missingOperand h hNo hFollows)
    · exact .inr (.unclosed h hNo hFollows)

end Faulty

/-! ## Places and beginnings -/

theorem isExpression_iff : IsExpression ts ↔ Place.start.after? ts = some .done := by
  constructor
  · rintro ⟨d, rfl⟩
    exact d.after?_tokens 0
  · intro h
    obtain ⟨d, hd, -⟩ := evaluate_of_after? (knows_true ts) h
    exact ⟨d, hd⟩

namespace Place

theorem after?_replicate_closing (n : Nat) :
    after? ⟨false, n⟩ (List.replicate n .closing) = some done := by
  induction n with
  | zero => rfl
  | succ n ih => simpa [List.replicate_succ, after?, next?] using ih

/-- Tokens that complete an expression from a place: an atom where an operand has to begin, and
the closing brackets of those that are open. -/
def completion (p : Place) : List Token :=
  (if p.wantsOperand then [.id 0] else []) ++ List.replicate p.depth .closing

theorem after?_completion (p : Place) : p.after? p.completion = some done := by
  obtain ⟨wants, n⟩ := p
  have hClose := after?_replicate_closing n
  cases wants with
  | false => exact hClose
  | true => simpa [completion, after?, next?] using hClose

theorem depth_of_next? {p q : Place} {t : Token} (h : p.next? t = some q) :
    p.depth + [t].count .opening = [t].count .closing + q.depth := by
  unfold next? at h
  split at h
  case h_7 => cases h
  all_goals
    cases h
    simp [Nat.add_comm]

/-- As many brackets are open as were opened and not closed. -/
theorem depth_of_after? {p q : Place} (h : p.after? ts = some q) :
    p.depth + ts.count .opening = ts.count .closing + q.depth := by
  induction ts generalizing p with
  | nil =>
    cases h
    simp
  | cons t ts ih =>
    obtain ⟨r, hr, hq⟩ := Option.bind_eq_some_iff.mp h
    have hNext := depth_of_next? hr
    have hRest := ih hq
    rw [← List.singleton_append, List.count_append, List.count_append]
    omega

/-- A token that may stand at a place may also stand there when brackets further out are left
away, unless it closes one of them. -/
theorem next?_of_add {wants : Bool} {n k : Nat} {t : Token} {q : Place}
    (h : next? ⟨wants, n + k⟩ t = some q) (hk : wants = true ∨ k ≠ 0) :
    ∃ l, q = ⟨q.wantsOperand, n + l⟩ ∧ next? ⟨wants, k⟩ t = some ⟨q.wantsOperand, l⟩ := by
  cases wants with
  | true =>
    cases t with
    | id _ | not =>
      cases h
      exact ⟨k, rfl, rfl⟩
    | opening =>
      cases h
      exact ⟨k + 1, rfl, rfl⟩
    | _ => cases h
  | false =>
    cases k with
    | zero => simp at hk
    | succ k =>
      cases t with
      | and | or =>
        cases h
        exact ⟨k + 1, rfl, rfl⟩
      | closing =>
        cases h
        exact ⟨k, rfl, rfl⟩
      | _ => cases h

/-- Tokens that close brackets further out come behind tokens that need none of these. -/
theorem exists_inner_of_after? {wants : Bool} {n k m : Nat}
    (h : after? ⟨wants, n + k⟩ ts = some ⟨false, m⟩) (hm : m ≤ n) :
    ∃ inner more, ts = inner ++ more ∧ after? ⟨wants, k⟩ inner = some done := by
  induction ts generalizing wants k with
  | nil =>
    obtain ⟨rfl, hDepth⟩ : wants = false ∧ n + k = m := by simpa [after?] using h
    obtain rfl : k = 0 := by omega
    exact ⟨[], [], rfl, rfl⟩
  | cons t ts ih =>
    by_cases hk : wants = true ∨ k ≠ 0
    · obtain ⟨q, hq, hRest⟩ := Option.bind_eq_some_iff.mp h
      obtain ⟨l, hDepth, hNext⟩ := next?_of_add hq hk
      rw [hDepth] at hRest
      obtain ⟨inner, more, rfl, hInner⟩ := ih hRest
      exact ⟨t :: inner, more, rfl, by rw [after?, hNext]; exact hInner⟩
    · obtain ⟨rfl, rfl⟩ : wants = false ∧ k = 0 := by simpa using hk
      exact ⟨[], t :: ts, rfl, rfl⟩

end Place

theorem begins_iff : Begins ts ↔ ∃ p, Place.start.after? ts = some p := by
  constructor
  · rintro ⟨d, rest, hd⟩
    have hAfter := d.after?_tokens 0
    rw [← hd, Place.after?_append] at hAfter
    obtain ⟨p, hp, -⟩ := Option.bind_eq_some_iff.mp hAfter
    exact ⟨p, hp⟩
  · rintro ⟨p, hp⟩
    have hDone : Place.start.after? (ts ++ p.completion) = some .done := by
      rw [Place.after?_append, hp]
      exact p.after?_completion
    exact (isExpression_iff.mpr hDone).begins.shorten (List.prefix_append _ _)

theorem OrChain.exists_operand_tokens (d : OrChain AtomId) :
    ∃ (u : Operand AtomId) (more : List Token), d.tokens = u.tokens ++ more := by
  have hChain : ∀ c : AndChain AtomId, ∃ (u : Operand AtomId) (more : List Token),
      c.tokens = u.tokens ++ more := by
    rintro (u | ⟨u, c⟩)
    · exact ⟨u, [], (List.append_nil _).symm⟩
    · exact ⟨u, .and :: c.tokens, rfl⟩
  cases d with
  | last c => exact hChain c
  | or c d =>
    obtain ⟨u, more, hc⟩ := hChain c
    exact ⟨u, more ++ .or :: d.tokens, by rw [tokens, hc, List.append_assoc]⟩

theorem Operand.closing_ne_head (u : Operand AtomId) : u.tokens.head? ≠ some .closing := by
  cases u <;> simp

/-- An operand follows exactly where the place asks for one. -/
theorem operandFollows_iff {p : Place} (h : Place.start.after? ts = some p) :
    OperandFollows ts ↔ p.wantsOperand = true := by
  obtain ⟨wants, n⟩ := p
  cases wants with
  | true =>
    refine iff_of_true (fun d rest hd => ?_) rfl
    have hRest := d.after?_tokens 0
    rw [hd, show Place.mk true 0 = .start from rfl, Place.after?_append, h,
      Option.bind_some] at hRest
    obtain ⟨inner, more, rfl, hInner⟩ :=
      Place.exists_inner_of_after? (n := n) (k := 0) hRest (Nat.zero_le n)
    obtain ⟨e, rfl⟩ := isExpression_iff.mpr hInner
    obtain ⟨u, behind, he⟩ := e.exists_operand_tokens
    exact ⟨u, behind ++ more, by rw [he, List.append_assoc]⟩
  | false =>
    refine iff_of_false (fun hFollows => ?_) Bool.false_ne_true
    have hDone : Place.start.after? (ts ++ List.replicate n .closing) = some .done := by
      rw [Place.after?_append, h]
      exact Place.after?_replicate_closing n
    obtain ⟨d, hd⟩ := isExpression_iff.mpr hDone
    obtain ⟨u, more, hu⟩ := hFollows d _ hd
    cases hTokens : u.tokens with
    | nil => cases u <;> simp at hTokens
    | cons t us =>
      have hMem : t ∈ List.replicate n Token.closing := by
        rw [hu, hTokens]
        exact List.mem_cons_self
      have hHead := u.closing_ne_head
      rw [hTokens, List.eq_of_mem_replicate hMem] at hHead
      exact hHead rfl

/-- The tokens end with an operand exactly where the place asks for none. -/
theorem endsOperand_iff {p : Place} (h : Place.start.after? ts = some p) :
    EndsOperand ts ↔ p.wantsOperand = false := by
  constructor
  · rintro ⟨front, u, rfl⟩
    rw [Place.after?_append] at h
    obtain ⟨⟨wants, n⟩, -, hu⟩ := Option.bind_eq_some_iff.mp h
    cases wants with
    | true =>
      rw [u.after?_tokens n] at hu
      cases hu
      rfl
    | false => cases u <;> simp [Place.after?, Place.next?] at hu
  · intro hFilled
    obtain ⟨s, -, hs, rfl⟩ := run_of_after? (knows_true ts) h
    cases hs with
    | waiting _ => cases hFilled
    | @filled _ _ front _ u => exact ⟨front, u, rfl⟩

/-! ## What is reported -/

theorem strayClosing_iff {before after : List Token} {t : Token} {q : Place}
    (hBefore : Place.start.after? before = some q) (hRefused : q.next? t = none) :
    StrayClosing (before ++ t :: after) before.length ↔
      q.wantsOperand = false ∧ t = .closing := by
  have hToken : (before ++ t :: after)[before.length]? = some t := by simp
  have hCount := Place.depth_of_after? hBefore
  rw [StrayClosing, hToken, List.take_left, endsOperand_iff hBefore, Option.some_inj]
  constructor
  · rintro ⟨rfl, hFilled, -⟩
    exact ⟨hFilled, rfl⟩
  · rintro ⟨hFilled, rfl⟩
    obtain ⟨wants, n⟩ := q
    obtain rfl : wants = false := hFilled
    cases n with
    | zero => exact ⟨rfl, rfl, by simpa [Place.start] using hCount⟩
    | succ n => cases hRefused

theorem faulty_refusal {before after : List Token} {t : Token} {q : Place}
    (hBefore : Place.start.after? before = some q) (hRefused : q.next? t = none) :
    Faulty (before ++ t :: after) (q.refusal t before.length) := by
  have hImpossible : ImpossibleAt (before ++ t :: after) before.length := by
    refine ⟨by simp, ?_, ?_⟩
    · rw [List.take_left]
      exact begins_iff.mpr ⟨q, hBefore⟩
    · have hTake : (before ++ t :: after).take (before.length + 1) = before ++ [t] := by
        rw [List.take_length_add_append, List.take_succ_cons, List.take_zero]
      rw [hTake, begins_iff, Place.after?_append, hBefore]
      simp [Place.after?, hRefused]
  have hStray : StrayClosing (before ++ t :: after) before.length ↔
      q.wantsOperand = false ∧ t = .closing := strayClosing_iff hBefore hRefused
  unfold Place.refusal
  split
  · next hClosing => exact .unopened hImpossible (hStray.mpr hClosing)
  · next hOther => exact .unexpected hImpossible (by simp) fun h => hOther (hStray.mp h)

theorem faulty_stopped {p : Place} (h : Place.start.after? ts = some p) (hDone : p ≠ .done) :
    Faulty ts (if p.wantsOperand then .missingOperand else .unclosed) := by
  have hBegins := begins_iff.mpr ⟨p, h⟩
  have hNo : ¬IsExpression ts := by
    rw [isExpression_iff, h]
    exact fun hSome => hDone (Option.some.inj hSome)
  split
  · next hWants => exact .missingOperand hBegins hNo ((operandFollows_iff h).mpr hWants)
  · next hFilled => exact .unclosed hBegins hNo fun hf => hFilled ((operandFollows_iff h).mp hf)

variable {truth : AtomId → Option Bool} {v : AtomId → Bool}

/-- What is reported is the fault of the tokens. -/
theorem exists_faulty (hv : Knows truth v ts) (hNo : ¬IsExpression ts) :
    ∃ e, evaluate truth ts = .error e ∧ Faulty ts e := by
  cases h : Place.start.after? ts with
  | none =>
    obtain ⟨before, t, after, q, rfl, hBefore, hRefused⟩ := Place.exists_refused h
    exact ⟨_, evaluate_of_refused hv hBefore hRefused, faulty_refusal hBefore hRefused⟩
  | some p =>
    have hDone : p ≠ .done := by
      rintro rfl
      exact hNo (isExpression_iff.mpr h)
    exact ⟨_, evaluate_of_stopped hv h hDone, faulty_stopped h hDone⟩

theorem evaluate_eq_error_iff (hv : Knows truth v ts) (e : ShapeError) :
    evaluate truth ts = .error e ↔ Faulty ts e := by
  constructor
  · intro he
    have hNo : ¬IsExpression ts := by
      intro hExpr
      obtain ⟨b, hb⟩ := (exists_evaluate_iff hv).mpr hExpr
      cases hb.symm.trans he
    obtain ⟨f, hf, hFaulty⟩ := exists_faulty hv hNo
    obtain rfl := Except.error.inj (he.symm.trans hf)
    exact hFaulty
  · intro hFaulty
    obtain ⟨f, hf, hOther⟩ := exists_faulty hv hFaulty.not_isExpression
    rw [hf, hFaulty.error_unique hOther]

/-- Whether tokens are accepted, and what is reported if not, does not depend on what the atoms are
worth. -/
theorem map_evaluate_eq {truth' : AtomId → Option Bool} {v' : AtomId → Bool}
    (hv : Knows truth v ts) (hv' : Knows truth' v' ts) :
    (evaluate truth ts).map (fun _ => ()) = (evaluate truth' ts).map (fun _ => ()) := by
  cases h : evaluate truth ts with
  | error e =>
    have hFaulty := (evaluate_eq_error_iff hv e).mp h
    rw [(evaluate_eq_error_iff hv' e).mpr hFaulty]
  | ok b =>
    obtain ⟨b', hb'⟩ := (exists_evaluate_iff hv').mpr ((exists_evaluate_iff hv).mp ⟨b, h⟩)
    rw [hb']
    rfl

/-- **The first impossible token is reported.** Under an assignment that gives a value to every atom
of some tokens, the shape check succeeds exactly on the expressions of the grammar, and an error is
reported exactly if it is the fault of the tokens. So a position is reported exactly if the token
there is the first one that no expression has behind those before it; if some expression begins
with the tokens, but they are none, then what is reported is that an operand or a closing bracket
is missing at the end. The stacks are never too short or too full, no atom is without a value, and
what the atoms are worth makes no difference. -/
theorem evaluate_reports_first_fault (ts : List Token) (truth : AtomId → Option Bool)
    (hts : ∀ id, .id id ∈ ts → (truth id).isSome) :
    ((∃ b, evaluate truth ts = .ok b) ↔ IsExpression ts) ∧
    (∀ e, evaluate truth ts = .error e ↔ Faulty ts e) ∧
    (∀ p, ((∃ t, evaluate truth ts = .error (.unexpected t p)) ∨
        evaluate truth ts = .error (.unopened p)) ↔ ImpossibleAt ts p) ∧
    (∀ p q, ImpossibleAt ts p → ImpossibleAt ts q → p = q) ∧
    ((evaluate truth ts = .error .missingOperand ∨ evaluate truth ts = .error .unclosed) ↔
      Begins ts ∧ ¬IsExpression ts) ∧
    (∀ c n id, evaluate truth ts ≠ .error (.underflow c) ∧
      evaluate truth ts ≠ .error (.leftover n) ∧ evaluate truth ts ≠ .error (.unassigned id)) ∧
    ∀ truth' : AtomId → Option Bool, (∀ id, .id id ∈ ts → (truth' id).isSome) →
      (evaluate truth ts).map (fun _ => ()) = (evaluate truth' ts).map (fun _ => ()) := by
  have hv := knows_getD hts
  have hError := evaluate_eq_error_iff hv
  refine ⟨exists_evaluate_iff hv, hError, fun p => ?_, fun p q hp hq => hp.position_unique hq, ?_,
    fun c n id => ?_, fun truth' hts' => map_evaluate_eq hv (knows_getD hts')⟩
  · simp only [hError]
    exact Faulty.at_position_iff
  · simp only [hError]
    exact Faulty.at_end_iff
  · simp only [ne_eq, hError]
    exact ⟨nofun, nofun, nofun⟩

/-- In `1 and ( 2 ) ) or` the last bracket is the one that no expression has there. -/
theorem evaluate_reports_stray_closing :
    evaluate (fun id => some (id = 2))
        [.id 1, .and, .opening, .id 2, .closing, .closing, .or] = .error (.unopened 5) ∧
      ImpossibleAt [.id 1, .and, .opening, .id 2, .closing, .closing, .or] 5 ∧
      (evaluate (fun _ => some true)
        [.id 1, .and, .opening, .id 2, .closing, .closing, .or]).map (fun _ => ()) =
          .error (.unopened 5) := by
  have h := evaluate_reports_first_fault
    [.id 1, .and, .opening, .id 2, .closing, .closing, .or] (fun id => some (id = 2))
    fun _ _ => rfl
  have hError : evaluate (fun id => some (id = 2))
      [.id 1, .and, .opening, .id 2, .closing, .closing, .or] = .error (.unopened 5) := by rfl
  obtain ⟨-, -, hPosition, -, -, -, hSame⟩ := h
  refine ⟨hError, (hPosition 5).mp (.inr hError), ?_⟩
  rw [← hSame (fun _ => some true) fun _ _ => rfl, hError]
  rfl

end RuleVerdict.Logic
