import RuleVerdict.Logic.Shape
import RuleVerdict.Proofs.Logic.Grammar

/-!
# What the shape check accepts

Whether a token may come next depends on two things only: whether an operand has to begin, and how
many brackets are open (`Place`). The stacks always hold a partly read expression at a known place
(`Stacks.Holds`), so they refuse a token exactly where the place does, and what they hold after the
last token is the value of an expression that derives the tokens.

* `step_of_holds`, `run_of_holds`: one token, and a list of tokens, follow the place.
* `after?_tokens`: the tokens of an expression lead past an operand, with no bracket left open.
* `evaluate_of_after?`: tokens that do so have the value of an expression that derives them.
* `evaluate_of_refused`, `evaluate_of_stopped`: what is reported of all other tokens.
-/

namespace RuleVerdict.Logic

/-! ## Chains that grow at the end -/

/-- The chain with one more operand behind it. -/
def AndChain.snoc {α : Type} : AndChain α → Operand α → AndChain α
  | .last u, v => .and u (.last v)
  | .and u c, v => .and u (c.snoc v)

/-- The chain with one more operand behind it. -/
def OrChain.snoc {α : Type} : OrChain α → AndChain α → OrChain α
  | .last c, b => .or c (.last b)
  | .or c d, b => .or c (d.snoc b)

@[simp]
theorem AndChain.tokens_snoc : (c : AndChain AtomId) → (v : Operand AtomId) →
    (c.snoc v).tokens = c.tokens ++ .and :: v.tokens
  | .last _, _ => rfl
  | .and u c, v => by simp [snoc, c.tokens_snoc v]

@[simp]
theorem OrChain.tokens_snoc : (d : OrChain AtomId) → (b : AndChain AtomId) →
    (d.snoc b).tokens = d.tokens ++ .or :: b.tokens
  | .last _, _ => rfl
  | .or c d, b => by simp [snoc, d.tokens_snoc b]

@[simp]
theorem AndChain.value_snoc {α : Type} (v : α → Bool) : (c : AndChain α) → (w : Operand α) →
    (c.snoc w).value v = (c.value v && w.value v)
  | .last _, _ => rfl
  | .and u c, w => by simp [snoc, c.value_snoc v w, Bool.and_assoc]

@[simp]
theorem OrChain.value_snoc {α : Type} (v : α → Bool) : (d : OrChain α) → (b : AndChain α) →
    (d.snoc b).value v = (d.value v || b.value v)
  | .last _, _ => rfl
  | .or c d, b => by simp [snoc, d.value_snoc v b, Bool.or_assoc]

/-! ## Places -/

/-- What decides whether a token may come next. -/
structure Place where
  wantsOperand : Bool
  depth : Nat
  deriving DecidableEq

namespace Place

/-- Before the first token. -/
def start : Place := ⟨true, 0⟩

/-- Behind an operand, with no bracket open. -/
def done : Place := ⟨false, 0⟩

/-- The place behind a token, if the token may stand there. -/
def next? : Place → Token → Option Place
  | ⟨true, n⟩, .id _ => some ⟨false, n⟩
  | ⟨true, n⟩, .not => some ⟨true, n⟩
  | ⟨true, n⟩, .opening => some ⟨true, n + 1⟩
  | ⟨false, n⟩, .and => some ⟨true, n⟩
  | ⟨false, n⟩, .or => some ⟨true, n⟩
  | ⟨false, n + 1⟩, .closing => some ⟨false, n⟩
  | _, _ => none

/-- The place behind some tokens, if each of them may stand where it stands. -/
def after? : Place → List Token → Option Place
  | p, [] => some p
  | p, t :: ts => (p.next? t).bind fun q => q.after? ts

/-- Why a token may not come next. -/
def refusal (p : Place) (t : Token) (position : Nat) : ShapeError :=
  if p.wantsOperand = false ∧ t = .closing then .unopened position else .unexpected t position

theorem after?_append (p : Place) (ts us : List Token) :
    p.after? (ts ++ us) = (p.after? ts).bind fun q => q.after? us := by
  induction ts generalizing p with
  | nil => rfl
  | cons t ts ih => simp [after?, Option.bind_assoc, ih]

/-- Tokens that do not lead anywhere have a first one that may not stand where it stands. -/
theorem exists_refused {p : Place} (h : p.after? ts = none) :
    ∃ before t after q, ts = before ++ t :: after ∧ p.after? before = some q ∧
      q.next? t = none := by
  induction ts generalizing p with
  | nil => cases h
  | cons t ts ih =>
    cases hq : p.next? t with
    | none => exact ⟨[], t, ts, p, rfl, rfl, hq⟩
    | some q =>
      rw [after?, hq] at h
      obtain ⟨before, u, after, r, rfl, hBefore, hRefused⟩ := ih h
      exact ⟨t :: before, u, after, r, rfl, by rw [after?, hq]; exact hBefore, hRefused⟩

end Place

mutual

/-- The tokens of an expression lead past an operand. -/
theorem OrChain.after?_tokens (n : Nat) : (d : OrChain AtomId) →
    Place.after? ⟨true, n⟩ d.tokens = some ⟨false, n⟩
  | .last c => c.after?_tokens n
  | .or c d => by
    simp [Place.after?_append, c.after?_tokens n, Place.after?, Place.next?, d.after?_tokens n]

theorem AndChain.after?_tokens (n : Nat) : (c : AndChain AtomId) →
    Place.after? ⟨true, n⟩ c.tokens = some ⟨false, n⟩
  | .last u => u.after?_tokens n
  | .and u c => by
    simp [Place.after?_append, u.after?_tokens n, Place.after?, Place.next?, c.after?_tokens n]

theorem Operand.after?_tokens (n : Nat) : (u : Operand AtomId) →
    Place.after? ⟨true, n⟩ u.tokens = some ⟨false, n⟩
  | .atom _ => rfl
  | .not u => by simp [Place.after?, Place.next?, u.after?_tokens n]
  | .brackets d => by
    simp [Place.after?_append, d.after?_tokens (n + 1), Place.after?, Place.next?]

end

/-! ## What the stacks hold -/

namespace Stacks

variable {v : AtomId → Bool}

/-- Some connectives wait under one another for an operand, and their left operands, with the
tokens that were read so far. A connective waits only on top of one that binds less tightly. -/
inductive Waiting (v : AtomId → Bool) : List Pending → List Bool → List Token → Prop
  | start : Waiting v [] [] []
  | opening {p : List Pending} {o : List Bool} {ts : List Token} (h : Waiting v p o ts) :
      Waiting v (.opening :: p) o (ts ++ [.opening])
  | not {p : List Pending} {o : List Bool} {ts : List Token} (h : Waiting v p o ts) :
      Waiting v (.not :: p) o (ts ++ [.not])
  | and {p : List Pending} {o : List Bool} {ts : List Token} (h : Waiting v p o ts)
      (hp : ∀ c ∈ p.head?, c.precedence < Pending.and.precedence) (c : AndChain AtomId) :
      Waiting v (.and :: p) (c.value v :: o) (ts ++ (c.tokens ++ [.and]))
  | or {p : List Pending} {o : List Bool} {ts : List Token} (h : Waiting v p o ts)
      (hp : ∀ c ∈ p.head?, c.precedence < Pending.or.precedence) (d : OrChain AtomId) :
      Waiting v (.or :: p) (d.value v :: o) (ts ++ (d.tokens ++ [.or]))

/-- The stacks hold what the tokens say: connectives that wait, and, unless an operand has to
begin, one operand on top of them. -/
inductive Holds (v : AtomId → Bool) : Stacks → List Token → Prop
  | waiting {p : List Pending} {o : List Bool} {ts : List Token} (h : Waiting v p o ts) :
      Holds v ⟨o, p, true⟩ ts
  | filled {p : List Pending} {o : List Bool} {ts : List Token} (h : Waiting v p o ts)
      (u : Operand AtomId) : Holds v ⟨u.value v :: o, p, false⟩ (ts ++ u.tokens)

/-- The place of the stacks. -/
def place (s : Stacks) : Place := ⟨s.wantsOperand, s.pending.count .opening⟩

theorem holds_start : Holds v start [] := .waiting .start

/-! ## Applying what waits -/

theorem reduce_of_lt {k : Nat} {p : List Pending} (hp : ∀ c ∈ p.head?, c.precedence < k)
    (o : List Bool) : reduce k p o = .ok (p, o) := by
  cases p with
  | nil => rfl
  | cons c p => simp [reduce, hp c (by simp)]

/-- Before an `and` the stacks come down to a whole chain of `and`. -/
theorem reduce_and {p : List Pending} {o : List Bool} {ts : List Token} (h : Waiting v p o ts)
    (u : Operand AtomId) :
    ∃ p' o' ts', ∃ c : AndChain AtomId,
      reduce Pending.and.precedence p (u.value v :: o) = .ok (p', c.value v :: o') ∧
        Waiting v p' o' ts' ∧ (∀ q ∈ p'.head?, q.precedence < Pending.and.precedence) ∧
        ts ++ u.tokens = ts' ++ c.tokens ∧ p'.count .opening = p.count .opening := by
  induction h generalizing u with
  | start => exact ⟨[], [], [], .last u, rfl, .start, by simp, rfl, rfl⟩
  | @opening p o ts h ih =>
    exact ⟨_, _, _, .last u, reduce_of_lt (by simp [Pending.precedence]) _, h.opening,
      by simp [Pending.precedence], rfl, rfl⟩
  | @not p o ts h ih =>
    obtain ⟨p', o', ts', c, hr, hw, hp', ht, hc⟩ := ih (.not u)
    refine ⟨p', o', ts', c, ?_, hw, hp', ?_, ?_⟩
    · simpa [reduce, apply, Pending.precedence] using hr
    · simpa using ht
    · simpa using hc
  | @and p o ts h hp c ih =>
    refine ⟨p, o, ts, c.snoc u, ?_, h, hp, ?_, ?_⟩
    · have hr := reduce_of_lt hp ((c.value v && u.value v) :: o)
      simpa [reduce, apply, Pending.precedence] using hr
    · simp
    · simp
  | @or p o ts h hp d ih =>
    exact ⟨_, _, _, .last u, reduce_of_lt (by simp [Pending.precedence]) _, h.or hp d,
      by simp [Pending.precedence], rfl, rfl⟩

/-- A whole chain of `and` on top of less tight connectives becomes part of a chain of `or`. -/
theorem reduce_or_chain {p : List Pending} {o : List Bool} {ts : List Token}
    (h : Waiting v p o ts) (hp : ∀ q ∈ p.head?, q.precedence < Pending.and.precedence)
    (c : AndChain AtomId) :
    ∃ p' o' ts', ∃ d : OrChain AtomId,
      reduce Pending.or.precedence p (c.value v :: o) = .ok (p', d.value v :: o') ∧
        Waiting v p' o' ts' ∧ (∀ q ∈ p'.head?, q.precedence < Pending.or.precedence) ∧
        ts ++ c.tokens = ts' ++ d.tokens ∧ p'.count .opening = p.count .opening := by
  cases h with
  | start => exact ⟨[], [], [], .last c, rfl, .start, by simp, rfl, rfl⟩
  | opening h =>
    exact ⟨_, _, _, .last c, reduce_of_lt (by simp [Pending.precedence]) _, h.opening,
      by simp [Pending.precedence], rfl, rfl⟩
  | not h => simp [Pending.precedence] at hp
  | and h hp' b => simp [Pending.precedence] at hp
  | @or p o ts h hp' d =>
    refine ⟨p, o, ts, d.snoc c, ?_, h, hp', ?_, ?_⟩
    · have hr := reduce_of_lt hp' ((d.value v || c.value v) :: o)
      simpa [reduce, apply, Pending.precedence] using hr
    · simp
    · simp

/-- What is applied before a tight connective would also be applied before a looser one. -/
theorem reduce_of_reduce {k l : Nat} (hk : k ≤ l) {p p' : List Pending} {o o' : List Bool}
    (h : reduce l p o = .ok (p', o')) : reduce k p o = reduce k p' o' := by
  induction p generalizing o with
  | nil => cases h; rfl
  | cons c p ih =>
    unfold reduce at h
    split at h
    · cases h; rfl
    · next hc =>
      split at h
      · cases h
      · next o₁ ho =>
        have hc' : ¬ (c = .opening ∨ c.precedence < k) :=
          fun e => hc (e.imp_right fun hlt => Nat.lt_of_lt_of_le hlt hk)
        rw [reduce, if_neg hc', ho]
        exact ih h

theorem close_of_reduce (position : Nat) {k : Nat} {p p' : List Pending} {o o' : List Bool}
    (h : reduce k p o = .ok (p', o')) : close position p o = close position p' o' := by
  induction p generalizing o with
  | nil => cases h; rfl
  | cons c p ih =>
    unfold reduce at h
    split at h
    · cases h; rfl
    · next hc =>
      split at h
      · cases h
      · next o₁ ho =>
        rw [close.eq_3 position o c p (fun e => hc (.inl e)), ho]
        exact ih h

theorem drain_of_reduce {k : Nat} {p p' : List Pending} {o o' : List Bool}
    (h : reduce k p o = .ok (p', o')) : drain p o = drain p' o' := by
  induction p generalizing o with
  | nil => cases h; rfl
  | cons c p ih =>
    unfold reduce at h
    split at h
    · cases h; rfl
    · split at h
      · cases h
      · next o₁ ho =>
        rw [drain, ho]
        exact ih h

/-- Before an `or` the stacks come down to a whole chain of `or`. -/
theorem reduce_or {p : List Pending} {o : List Bool} {ts : List Token} (h : Waiting v p o ts)
    (u : Operand AtomId) :
    ∃ p' o' ts', ∃ d : OrChain AtomId,
      reduce Pending.or.precedence p (u.value v :: o) = .ok (p', d.value v :: o') ∧
        Waiting v p' o' ts' ∧ (∀ q ∈ p'.head?, q.precedence < Pending.or.precedence) ∧
        ts ++ u.tokens = ts' ++ d.tokens ∧ p'.count .opening = p.count .opening := by
  obtain ⟨p₁, o₁, ts₁, c, hr₁, hw₁, hp₁, ht₁, hc₁⟩ := reduce_and h u
  obtain ⟨p₂, o₂, ts₂, d, hr₂, hw₂, hp₂, ht₂, hc₂⟩ := reduce_or_chain hw₁ hp₁ c
  refine ⟨p₂, o₂, ts₂, d, ?_, hw₂, hp₂, ht₁.trans ht₂, hc₂.trans hc₁⟩
  exact (reduce_of_reduce (by decide) hr₁).trans hr₂

/-- What binds less tightly than `or` is an open bracket. -/
theorem eq_nil_or_opening {p : List Pending}
    (hp : ∀ q ∈ p.head?, q.precedence < Pending.or.precedence) :
    p = [] ∨ ∃ q, p = .opening :: q := by
  cases p with
  | nil => exact .inl rfl
  | cons c p =>
    have hc := hp c (by simp)
    cases c with
    | opening => exact .inr ⟨p, rfl⟩
    | _ => simp [Pending.precedence] at hc

/-- A bracket is closed around a whole expression, if one is open at all. -/
theorem close_of_waiting {p : List Pending} {o : List Bool} {ts : List Token}
    (h : Waiting v p o ts) (u : Operand AtomId) (position : Nat) :
    (p.count .opening = 0 ∧ close position p (u.value v :: o) = .error (.unopened position)) ∨
      ∃ p' o' ts', ∃ d : OrChain AtomId,
        close position p (u.value v :: o) = .ok (p', d.value v :: o') ∧ Waiting v p' o' ts' ∧
          ts ++ (u.tokens ++ [.closing]) = ts' ++ (Operand.brackets d).tokens ∧
          p.count .opening = p'.count .opening + 1 := by
  obtain ⟨p₁, o₁, ts₁, d, hr, hw, hp, ht, hc⟩ := reduce_or h u
  have hclose := close_of_reduce position hr
  rcases eq_nil_or_opening hp with rfl | ⟨q, rfl⟩
  · exact .inl ⟨hc.symm, hclose⟩
  · cases hw with
    | @opening q o₁ ts₂ hw =>
      refine .inr ⟨q, o₁, ts₂, d, hclose, hw, ?_, ?_⟩
      · rw [← List.append_assoc, ht]
        simp
      · rw [← hc, List.count_cons_self]

/-- At the end all brackets have to be closed, and the expression is complete. -/
theorem drain_of_waiting {p : List Pending} {o : List Bool} {ts : List Token}
    (h : Waiting v p o ts) (u : Operand AtomId) :
    (p.count .opening ≠ 0 ∧ drain p (u.value v :: o) = .error .unclosed) ∨
      p.count .opening = 0 ∧ ∃ d : OrChain AtomId, d.tokens = ts ++ u.tokens ∧
        drain p (u.value v :: o) = .ok (d.value v) := by
  obtain ⟨p₁, o₁, ts₁, d, hr, hw, hp, ht, hc⟩ := reduce_or h u
  have hdrain := drain_of_reduce hr
  rcases eq_nil_or_opening hp with rfl | ⟨q, rfl⟩
  · cases hw with
    | start => exact .inr ⟨hc.symm, d, by simpa using ht.symm, hdrain⟩
  · refine .inl ⟨?_, hdrain⟩
    rw [← hc, List.count_cons_self]
    omega

/-! ## Runs -/

/-- The truth values that are known are those of `v`. -/
def Knows (truth : AtomId → Option Bool) (v : AtomId → Bool) (ts : List Token) : Prop :=
  ∀ id, .id id ∈ ts → truth id = some (v id)

variable {truth : AtomId → Option Bool}

/-- A token is taken exactly if it may stand at the place of the stacks. -/
theorem step_of_holds {s : Stacks} {ts : List Token} (h : Holds v s ts) {t : Token}
    (ht : Knows truth v [t]) (position : Nat) :
    match s.place.next? t with
    | some p => ∃ s', step truth position t s = .ok s' ∧ Holds v s' (ts ++ [t]) ∧ s'.place = p
    | none => step truth position t s = .error (s.place.refusal t position) := by
  cases h with
  | @waiting p o ts h =>
    cases t with
    | id n =>
      have hn := ht n (by simp)
      exact ⟨⟨v n :: o, p, false⟩, by simp [step, hn], .filled h (.atom n), rfl⟩
    | not => exact ⟨⟨o, .not :: p, true⟩, rfl, .waiting h.not, by simp [place]⟩
    | opening => exact ⟨⟨o, .opening :: p, true⟩, rfl, .waiting h.opening, by simp [place]⟩
    | _ => simp [place, Place.next?, step, Place.refusal]
  | @filled p o ts h u =>
    cases t with
    | and =>
      obtain ⟨p', o', ts', c, hr, hw, hp, ht, hc⟩ := reduce_and h u
      refine ⟨⟨c.value v :: o', .and :: p', true⟩, by simp [step, hr], ?_, by simp [place, hc]⟩
      rw [ht, List.append_assoc]
      exact .waiting (hw.and hp c)
    | or =>
      obtain ⟨p', o', ts', d, hr, hw, hp, ht, hc⟩ := reduce_or h u
      refine ⟨⟨d.value v :: o', .or :: p', true⟩, by simp [step, hr], ?_, by simp [place, hc]⟩
      rw [ht, List.append_assoc]
      exact .waiting (hw.or hp d)
    | closing =>
      rcases close_of_waiting h u position with ⟨hc, he⟩ | ⟨p', o', ts', d, hr, hw, ht, hc⟩
      · simp [place, hc, Place.next?, step, he, Place.refusal]
      · simp only [place, hc, Place.next?]
        refine ⟨⟨d.value v :: o', p', false⟩, by simp [step, hr], ?_, rfl⟩
        rw [List.append_assoc, ht]
        exact .filled hw (.brackets d)
    | _ => simp [place, Place.next?, step, Place.refusal]

theorem Knows.of_cons {t : Token} {ts : List Token} (h : Knows truth v (t :: ts)) :
    Knows truth v [t] ∧ Knows truth v ts :=
  ⟨fun id hid => h id (List.mem_append_left ts hid), fun id hid => h id (.tail t hid)⟩

theorem knows_true (ts : List Token) : Knows (fun _ => some true) (fun _ => true) ts :=
  fun _ _ => rfl

/-- An assignment that covers the atoms of some tokens knows what they are worth. -/
theorem knows_getD {ts : List Token} (h : ∀ id, .id id ∈ ts → (truth id).isSome) :
    Knows truth (fun id => (truth id).getD false) ts := by
  intro id hid
  obtain ⟨b, hb⟩ := Option.isSome_iff_exists.mp (h id hid)
  simp [hb]

/-- Tokens that may stand where they stand are taken one after the other. -/
theorem run_of_holds {s : Stacks} {ts us : List Token} {p : Place} (h : Holds v s ts)
    (hu : Knows truth v us) (hp : s.place.after? us = some p) (position : Nat) :
    ∃ s', run truth position us s = .ok s' ∧ Holds v s' (ts ++ us) ∧ s'.place = p := by
  induction us generalizing s ts position with
  | nil => exact ⟨s, rfl, by simpa using h, Option.some.inj hp⟩
  | cons t us ih =>
    obtain ⟨ht, hus⟩ := hu.of_cons
    obtain ⟨q, hq, hRest⟩ := Option.bind_eq_some_iff.mp hp
    have hStep := step_of_holds h ht position
    rw [hq] at hStep
    obtain ⟨s', hs, hh, rfl⟩ := hStep
    have hRun := ih hh hus hRest (position + 1)
    rw [run, hs]
    simpa using hRun

theorem run_of_after? {ts : List Token} {p : Place} (hv : Knows truth v ts)
    (h : Place.start.after? ts = some p) :
    ∃ s, run truth 0 ts start = .ok s ∧ Holds v s ts ∧ s.place = p :=
  run_of_holds holds_start hv h 0

theorem run_append (truth : AtomId → Option Bool) (position : Nat) (ts us : List Token)
    (s : Stacks) :
    run truth position (ts ++ us) s =
      (run truth position ts s).bind (run truth (position + ts.length) us) := by
  induction ts generalizing position s with
  | nil => rfl
  | cons t ts ih =>
    rw [List.cons_append, run, run]
    cases step truth position t s with
    | error e => rfl
    | ok s =>
      simp only [ih, List.length_cons]
      rw [Nat.add_right_comm, Nat.add_assoc]

/-- The stacks give a value exactly behind an operand with no bracket open, and it is the value of
an expression with these tokens. -/
theorem finish_of_holds {s : Stacks} {ts : List Token} (h : Holds v s ts) :
    if s.place = .done then
      ∃ d : OrChain AtomId, d.tokens = ts ∧ s.finish = .ok (d.value v)
    else s.finish = .error (if s.place.wantsOperand then .missingOperand else .unclosed) := by
  cases h with
  | waiting h => rfl
  | @filled p o ts h u =>
    rcases drain_of_waiting h u with ⟨hc, he⟩ | ⟨hc, d, hd, he⟩
    · simp [place, Place.done, hc, finish, he]
    · simp only [place, Place.done, hc, if_pos]
      exact ⟨d, hd, he⟩

end Stacks

open Stacks

variable {truth : AtomId → Option Bool} {v : AtomId → Bool} {ts : List Token}

/-- Tokens that lead past an operand and leave no bracket open have the value of an expression
that derives them. -/
theorem evaluate_of_after? (hv : Knows truth v ts) (h : Place.start.after? ts = some .done) :
    ∃ d : OrChain AtomId, d.tokens = ts ∧ evaluate truth ts = .ok (d.value v) := by
  obtain ⟨s, hs, hh, hp⟩ := run_of_after? hv h
  have hFinish := finish_of_holds hh
  rw [if_pos hp] at hFinish
  obtain ⟨d, hd, hf⟩ := hFinish
  exact ⟨d, hd, by rw [evaluate, hs]; exact hf⟩

/-- The first token that may not stand where it stands is reported. -/
theorem evaluate_of_refused {before after : List Token} {t : Token} {q : Place}
    (hv : Knows truth v (before ++ t :: after)) (hBefore : Place.start.after? before = some q)
    (hRefused : q.next? t = none) :
    evaluate truth (before ++ t :: after) = .error (q.refusal t before.length) := by
  have hKnown : Knows truth v before := fun id hid => hv id (List.mem_append_left _ hid)
  have hToken : Knows truth v [t] := fun id hid =>
    hv id (List.mem_append_right _ (List.mem_cons.mpr (.inl (List.mem_singleton.mp hid))))
  obtain ⟨s, hs, hHolds, rfl⟩ := run_of_after? hKnown hBefore
  have hStep := step_of_holds hHolds hToken before.length
  rw [hRefused] at hStep
  rw [evaluate, run_append, hs, Nat.zero_add]
  simp only [Except.bind, run, hStep]

/-- Where nothing is refused, the tokens stop where an operand has to begin or a bracket is open. -/
theorem evaluate_of_stopped {p : Place} (hv : Knows truth v ts)
    (h : Place.start.after? ts = some p) (hDone : p ≠ .done) :
    evaluate truth ts = .error (if p.wantsOperand then .missingOperand else .unclosed) := by
  obtain ⟨s, hs, hHolds, rfl⟩ := run_of_after? hv h
  have hFinish := finish_of_holds hHolds
  rw [if_neg hDone] at hFinish
  rw [evaluate, hs]
  exact hFinish

/-- All other tokens are refused. -/
theorem evaluate_error_of_after? (hv : Knows truth v ts) (h : Place.start.after? ts ≠ some .done) :
    ∃ e, evaluate truth ts = .error e := by
  cases hp : Place.start.after? ts with
  | none =>
    obtain ⟨before, t, after, q, rfl, hBefore, hRefused⟩ := Place.exists_refused hp
    exact ⟨_, evaluate_of_refused hv hBefore hRefused⟩
  | some p => exact ⟨_, evaluate_of_stopped hv hp fun hDone => h (hp.trans (congrArg some hDone))⟩

/-- The tokens of an expression are accepted. -/
theorem exists_evaluate_tokens (d : OrChain AtomId) (hv : Knows truth v d.tokens) :
    ∃ b, evaluate truth d.tokens = .ok b := by
  obtain ⟨e, -, he⟩ := evaluate_of_after? hv (d.after?_tokens 0)
  exact ⟨_, he⟩

/-- What is accepted is an expression, and its value is found. -/
theorem exists_value_of_evaluate {b : Bool} (hv : Knows truth v ts)
    (h : evaluate truth ts = .ok b) : ∃ d : OrChain AtomId, d.tokens = ts ∧ d.value v = b := by
  by_cases ha : Place.start.after? ts = some .done
  · obtain ⟨d, hd, he⟩ := evaluate_of_after? hv ha
    rw [h] at he
    cases he
    exact ⟨d, hd, rfl⟩
  · obtain ⟨e, he⟩ := evaluate_error_of_after? hv ha
    rw [h] at he
    cases he

/-- Exactly the expressions are accepted. -/
theorem exists_evaluate_iff (hv : Knows truth v ts) :
    (∃ b, evaluate truth ts = .ok b) ↔ ∃ d : OrChain AtomId, d.tokens = ts := by
  constructor
  · rintro ⟨b, hb⟩
    obtain ⟨d, hd, -⟩ := exists_value_of_evaluate hv hb
    exact ⟨d, hd⟩
  · rintro ⟨d, rfl⟩
    exact exists_evaluate_tokens d hv

end RuleVerdict.Logic
