import Mathlib.Data.Nat.Notation
import Mathlib.Logic.Basic

/-!
# Programs that ask somebody else

A program ends with a value or an exception, or asks a question and goes on with the answer. What is
answered is not up to the program: `run` is told by a function that also sees what was asked before,
so that the same question may be answered differently each time. `All P` says that every question
satisfies `P` whatever was answered so far; it is proved along the program (`All.bind`,
`All.attempt`), holds of every run (`All.asked`), and is a matter of the questions alone
(`All.of_outline`). With answers that depend on the question alone a run is an evaluation
(`run_eval`).

Nothing is said of what the other side is. In a model of a program that reads from a cluster over
many seconds this matters: the state it reads may change under it, so two answers need not fit
together, and a theorem about all answers covers that. Where a claim is about one fixed state, the
answers come from it and `eval` is enough.
-/

namespace Interaction

variable {Q : Type} {A : Q → Type} {E α β : Type}

/-- A program with questions `Q`, of which `q` is answered by an `A q`. After a question it may go
on differently for each answer. -/
inductive Prog (A : Q → Type) (E α : Type) where
  | done (a : α)
  | fail (e : E)
  | ask (q : Q) (next : A q → Prog A E α)

namespace Prog

/-- One program after the other. An exception ends both. -/
def bind : Prog A E α → (α → Prog A E β) → Prog A E β
  | done a,     f => f a
  | fail e,     _ => fail e
  | ask q next, f => ask q fun a => (next a).bind f

instance : Monad (Prog A E) where
  pure := done
  bind := bind

def request (q : Q) : Prog A E (A q) := ask q done

/-- A computation without questions. -/
def lift : Except E α → Prog A E α
  | .ok a    => done a
  | .error e => fail e

/-- The exception becomes a value. -/
def attempt : Prog A E α → Prog A E (Except E α)
  | done a     => done (.ok a)
  | fail e     => done (.error e)
  | ask q next => ask q fun a => (next a).attempt

/-- What has failed stays failed. -/
theorem bind_of_fail {p : Prog A E α} {e : E} (h : p = .fail e) (f : α → Prog A E β) :
    p >>= f = .fail e := by
  rw [h]
  rfl

/-! ## Every question

The rules for `All` follow the way programs are put together, one for each construct, so that a
proof about a program reads like the program. -/

/-- Whatever is answered, only questions that satisfy `P` are asked. -/
def All (P : Q → Prop) : Prog A E α → Prop
  | done _     => True
  | fail _     => True
  | ask q next => P q ∧ ∀ a, (next a).All P

variable {P : Q → Prop}

theorem All.pure (a : α) : (Pure.pure a : Prog A E α).All P := trivial

theorem All.request {q : Q} (h : P q) : (request q : Prog A E (A q)).All P :=
  ⟨h, fun _ => trivial⟩

theorem All.lift (r : Except E α) : (lift r : Prog A E α).All P := by
  cases r <;> trivial

/-- The rule for sequences. What comes second is looked at for every result, since any may come. -/
theorem All.bind {p : Prog A E α} {f : α → Prog A E β} (hp : p.All P) (hf : ∀ a, (f a).All P) :
    (p >>= f).All P := by
  induction p with
  | done a => exact hf a
  | fail e => trivial
  | ask q next ih => exact ⟨hp.1, fun a => ih a (hp.2 a)⟩

/-- Behind a check only the results that pass it have to be looked at. -/
theorem All.lift_bind {r : Except E α} {f : α → Prog A E β} (hf : ∀ a, r = .ok a → (f a).All P) :
    (Prog.lift r >>= f).All P := by
  cases r with
  | error e => trivial
  | ok a => exact hf a rfl

/-- Catching an exception asks nothing more. -/
theorem All.attempt {p : Prog A E α} (hp : p.All P) : p.attempt.All P := by
  induction p with
  | done a => trivial
  | fail e => trivial
  | ask q next ih => exact ⟨hp.1, fun a => ih a (hp.2 a)⟩

/-! ## Runs

A run is a list of questions and an end. The one who answers sees the questions asked so far, which
is as much as anybody outside could go by. -/

/-- The questions asked, in order, and how the program ends. `answer` is given the questions asked
before. -/
def run (answer : List Q → (q : Q) → A q) (past : List Q) : Prog A E α → List Q × Except E α
  | done a     => ([], .ok a)
  | fail e     => ([], .error e)
  | ask q next =>
    let rest := (next (answer past q)).run answer (past ++ [q])
    (q :: rest.1, rest.2)

/-- A check asks nothing. -/
theorem run_lift (answer : List Q → (q : Q) → A q) (past : List Q) (r : Except E α) :
    (lift r : Prog A E α).run answer past = ([], r) := by
  cases r <;> rfl

/-- A question, and the rest of the run. -/
theorem run_request_bind (answer : List Q → (q : Q) → A q) (past : List Q) (q : Q)
    (f : A q → Prog A E α) :
    (request q >>= f).run answer past =
      (q :: ((f (answer past q)).run answer (past ++ [q])).1,
        ((f (answer past q)).run answer (past ++ [q])).2) := rfl

/-- What is done with the result asks nothing. -/
theorem run_map (answer : List Q → (q : Q) → A q) (past : List Q) (p : Prog A E α) (f : α → β) :
    (p >>= fun a => (Pure.pure (f a) : Prog A E β)).run answer past =
      ((p.run answer past).1, (p.run answer past).2.map f) := by
  induction p generalizing past with
  | done a => rfl
  | fail e => rfl
  | ask q next ih =>
      -- the question is asked either way; only what comes back at the end is mapped
      have hrest := ih (answer past q) (past ++ [q])
      have hasked := congrArg (fun rest => q :: Prod.fst rest) hrest
      have hend := congrArg Prod.snd hrest
      exact Prod.ext hasked hend

/-- **Every question of a run** is one of those, whatever was asked and answered before. -/
theorem All.asked {p : Prog A E α} (h : p.All P) (answer : List Q → (q : Q) → A q) (past : List Q) :
    ∀ q ∈ (p.run answer past).1, P q := by
  induction p generalizing past with
  | done a => exact fun q hq => absurd hq (List.not_mem_nil)
  | fail e => exact fun q hq => absurd hq (List.not_mem_nil)
  | ask q next ih =>
      intro q' hq'
      -- the first question, or one of those that follow the answer to it
      rcases List.mem_cons.mp hq' with rfl | hq'
      · exact h.1
      · exact ih _ (h.2 _) _ q' hq'

/-- The question that is asked whatever is answered. -/
def first : Prog A E α → Option Q
  | ask q _ => some q
  | _       => none

/-- What a program asks first does not depend on what comes behind it. -/
theorem first_bind {p : Prog A E α} {q : Q} (h : p.first = some q) (f : α → Prog A E β) :
    (p >>= f).first = some q := by
  cases p with
  | done a => cases h
  | fail e => cases h
  | ask q' next => exact h

/-- And it is asked in every run. -/
theorem first_asked {p : Prog A E α} {q : Q} (h : p.first = some q)
    (answer : List Q → (q : Q) → A q) (past : List Q) : q ∈ (p.run answer past).1 := by
  cases p with
  | done a => cases h
  | fail e => cases h
  | ask q' next =>
      rw [← Option.some.inj h]
      exact List.mem_cons_self ..

/-! ## How many questions

A bound along every branch. A loop over what was answered would have no such bound, so a program
that has one does not let the other side decide how much is asked. -/

/-- Whatever is answered, at most `n` questions are asked. -/
def AtMost : ℕ → Prog A E α → Prop
  | _,     done _     => True
  | _,     fail _     => True
  | 0,     ask _ _    => False
  | n + 1, ask _ next => ∀ a, (next a).AtMost n

/-- A larger bound is a bound. -/
theorem AtMost.mono {p : Prog A E α} {m n : ℕ} (h : p.AtMost m) (hle : m ≤ n) : p.AtMost n := by
  induction p generalizing m n with
  | done a => cases n <;> trivial
  | fail e => cases n <;> trivial
  | ask q next ih =>
      cases m with  -- a program that asks has a bound of at least one
      | zero => cases h
      | succ m =>
          obtain ⟨n, rfl⟩ := Nat.exists_eq_add_of_lt hle
          exact fun a => ih a (h a) (Nat.le_add_right m n)

theorem AtMost.pure {n : ℕ} (a : α) : (Pure.pure a : Prog A E α).AtMost n := by
  cases n <;> trivial

theorem AtMost.lift {n : ℕ} (r : Except E α) : (Prog.lift r : Prog A E α).AtMost n := by
  cases r <;> cases n <;> trivial

theorem AtMost.request (q : Q) : (Prog.request q : Prog A E (A q)).AtMost 1 :=
  fun _ => trivial

/-- One after the other, they ask as much as both. -/
theorem AtMost.bind {p : Prog A E α} {f : α → Prog A E β} {m n : ℕ} (hp : p.AtMost m)
    (hf : ∀ a, (f a).AtMost n) : (p >>= f).AtMost (m + n) := by
  induction p generalizing m with
  | done a => exact (hf a).mono (Nat.le_add_left n m)
  | fail e =>
      show (Prog.fail e : Prog A E β).AtMost (m + n)
      cases m + n <;> trivial
  | ask q next ih =>
      cases m with
      | zero => cases hp
      | succ m =>
          rw [Nat.add_right_comm]  -- the first question is paid from the bound of the first part
          exact fun a => ih a (hp a)

/-- A check does not count. -/
theorem AtMost.lift_bind {r : Except E α} {f : α → Prog A E β} {n : ℕ} (hf : ∀ a, (f a).AtMost n) :
    (Prog.lift r >>= f).AtMost n := by
  rw [← Nat.zero_add n]
  exact AtMost.bind (AtMost.lift r) hf

/-- **Every run** asks as little, whatever the answers are and whatever was asked before. -/
theorem AtMost.asked {p : Prog A E α} {n : ℕ} (h : p.AtMost n) (answer : List Q → (q : Q) → A q)
    (past : List Q) : (p.run answer past).1.length ≤ n := by
  induction p generalizing n past with
  | done a => exact Nat.zero_le n
  | fail e => exact Nat.zero_le n
  | ask q next ih =>
      cases n with
      | zero => cases h
      | succ n => exact Nat.succ_le_succ (ih _ (h _) _)

/-! ## Another language

A program with one kind of question becomes part of a larger one with more kinds. Both properties
are about questions, so they go over with the translation. -/

section

variable {Q' : Type} {A' : Q' → Type}

/-- The questions put in another language, and the answers brought back. -/
def reask (tr : Q → Q') (back : ∀ q, A' (tr q) → A q) : Prog A E α → Prog A' E α
  | done a     => done a
  | fail e     => fail e
  | ask q next => ask (tr q) fun a => (next (back q a)).reask tr back

variable {tr : Q → Q'} {back : ∀ q, A' (tr q) → A q}

theorem All.reask {P : Q' → Prop} {p : Prog A E α} (h : p.All fun q => P (tr q)) :
    (p.reask tr back).All P := by
  induction p with
  | done a => trivial
  | fail e => trivial
  | ask q next ih => exact ⟨h.1, fun a => ih _ (h.2 _)⟩

theorem AtMost.reask {p : Prog A E α} {n : ℕ} (h : p.AtMost n) : (p.reask tr back).AtMost n := by
  induction p generalizing n with
  | done a => cases n <;> trivial
  | fail e => cases n <;> trivial
  | ask q next ih =>
      cases n with
      | zero => cases h
      | succ n => exact fun a => ih _ (h _)

end

/-! ## The questions alone

Two programs may return different things and still ask the same, whatever they are answered. Their
outlines are then the same program, and each property of the questions of one holds of the other. -/

/-- What the program returns or raises is left out. -/
def outline : Prog A E α → Prog A Unit Unit
  | done _     => done ()
  | fail _     => fail ()
  | ask q next => ask q fun a => (next a).outline

/-- A property of the questions is one of the outline. -/
theorem All.outline_iff {p : Prog A E α} : p.outline.All P ↔ p.All P := by
  induction p with
  | done a => exact Iff.rfl
  | fail e => exact Iff.rfl
  | ask q next ih => exact and_congr_right fun _ => forall_congr' ih

/-- Programs that go on with the same questions have the same outline. -/
theorem outline_bind_congr {γ : Type} (p : Prog A E α) {f : α → Prog A E β} {g : α → Prog A E γ}
    (h : ∀ a, (f a).outline = (g a).outline) : (p >>= f).outline = (p >>= g).outline := by
  induction p with
  | done a => exact h a
  | fail e => rfl
  | ask q next ih => exact congrArg (ask q) (funext ih)

/-- What is made of the result does not show in it. -/
theorem outline_map (p : Prog A E α) (f : α → β) :
    (p >>= fun a => (Pure.pure (f a) : Prog A E β)).outline = p.outline := by
  induction p with
  | done a => rfl
  | fail e => rfl
  | ask q next ih => exact congrArg (ask q) (funext ih)

/-- What is returned and what is raised, put in other words. -/
def recast {E' : Type} (f : α → β) (g : E → E') : Prog A E α → Prog A E' β
  | done a     => done (f a)
  | fail e     => fail (g e)
  | ask q next => ask q fun a => (next a).recast f g

/-- Nor does the kind of exception. -/
theorem outline_recast {E' : Type} (p : Prog A E α) (f : α → β) (g : E → E') :
    (p.recast f g).outline = p.outline := by
  induction p with
  | done a => rfl
  | fail e => rfl
  | ask q next ih => exact congrArg (ask q) (funext ih)

/-- Programs of one outline ask the same. -/
theorem All.of_outline {E' : Type} {p : Prog A E α} {p' : Prog A E' β} (h : p.outline = p'.outline)
    (hp : p'.All P) : p.All P := by
  rw [← All.outline_iff, h]
  exact All.outline_iff.mpr hp

/-! ## Answers that depend on the question alone

A fixed state answers a question in the same way each time. The program is then a function of the
state, and the equations for `eval` compute it. -/

/-- How the program ends if a question is always answered alike. -/
def eval (answer : (q : Q) → A q) : Prog A E α → Except E α
  | done a     => .ok a
  | fail e     => .error e
  | ask q next => (next (answer q)).eval answer

/-- With such answers the end of a run is the value of the program. -/
theorem run_eval (answer : (q : Q) → A q) (p : Prog A E α) (past : List Q) :
    (p.run (fun _ => answer) past).2 = p.eval answer := by
  induction p generalizing past with
  | done a => rfl
  | fail e => rfl
  | ask q next ih => exact ih _ _

variable {answer : (q : Q) → A q}

@[simp] theorem eval_pure (a : α) : (Pure.pure a : Prog A E α).eval answer = .ok a := rfl

@[simp] theorem eval_request (q : Q) :
    (request q : Prog A E (A q)).eval answer = .ok (answer q) := rfl

@[simp] theorem eval_lift (r : Except E α) : (lift r : Prog A E α).eval answer = r := by
  cases r <;> rfl

@[simp] theorem eval_bind (p : Prog A E α) (f : α → Prog A E β) :
    (p >>= f).eval answer = (p.eval answer).bind fun a => (f a).eval answer := by
  induction p with
  | done a => rfl
  | fail e => rfl
  | ask q next ih => exact ih _

@[simp] theorem eval_attempt (p : Prog A E α) : p.attempt.eval answer = .ok (p.eval answer) := by
  induction p with
  | done a => rfl
  | fail e => rfl
  | ask q next ih => exact ih _

/-- Asking in another language comes to asking somebody who translates. -/
theorem eval_reask {Q' : Type} {A' : Q' → Type} {tr : Q → Q'} {back : ∀ q, A' (tr q) → A q}
    (answer : (q : Q') → A' q) (p : Prog A E α) :
    (p.reask tr back).eval answer = p.eval fun q => back q (answer (tr q)) := by
  induction p with
  | done a => rfl
  | fail e => rfl
  | ask q next ih => exact ih _

end Prog

end Interaction
