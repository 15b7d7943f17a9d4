import Mathlib.Algebra.GroupWithZero.Nat
import Mathlib.Data.List.Forall2
import SreAgent.Lib.Interaction

/-!
# Limited programs, side by side

`Limited P n` says of a program that it asks at most `n` questions and that all satisfy `P`, whatever it is
answered. It is proved along the program like `All` and `AtMost`, both at once. Programs that run at the
same time ask their questions in any order, and what one of them is answered may depend on what the
others asked. `Asks ps qs` says that the programs `ps` together may ask `qs`, up to some moment. What holds
of every question of each program holds of all that are asked (`All.asks`), and how many there are adds
up (`AtMost.asks`); limited programs are limited together (`Limited.asks`).
-/

namespace Interaction.Prog

variable {Q : Type} {A : Q → Type} {E α : Type}

/-! ## Questions and how many

A program is a tree of questions, with a branch for each answer. Both properties are read off the
tree, so neither depends on who answers or how; a bound on the questions is a bound along the
longest branch. -/

/-- What keeps to a property keeps to any that follows from it. -/
theorem All.mono {P P' : Q → Prop} {p : Prog A E α} (h : p.All P) (hmono : ∀ q, P q → P' q) :
    p.All P' := by
  induction p with
  | done a => trivial
  | fail e => trivial
  | ask q next ih => exact ⟨hmono q h.1, fun a => ih a (h.2 a)⟩

/-- Two properties of a program may be proved apart. -/
theorem All.and {P P' : Q → Prop} {p : Prog A E α} (h : p.All P) (h' : p.All P') :
    p.All fun q => P q ∧ P' q := by
  induction p with
  | done a => trivial
  | fail e => trivial
  | ask q next ih => exact ⟨⟨h.1, h'.1⟩, fun a => ih a (h.2 a) (h'.2 a)⟩

/-- Whatever is answered, at most `n` questions are asked, and all satisfy `P`. -/
structure Limited (P : Q → Prop) (n : ℕ) (p : Prog A E α) : Prop where
  all : p.All P
  few : p.AtMost n

namespace Limited

variable {P P' : Q → Prop} {β : Type} {m n : ℕ}

theorem mono {p : Prog A E α} (h : p.Limited P m) (hmono : ∀ q, P q → P' q) (hle : m ≤ n) :
    p.Limited P' n := ⟨h.all.mono hmono, h.few.mono hle⟩

theorem pure (a : α) : (Pure.pure a : Prog A E α).Limited P n := ⟨All.pure a, AtMost.pure a⟩

theorem lift (r : Except E α) : (Prog.lift r : Prog A E α).Limited P n :=
  ⟨All.lift r, AtMost.lift r⟩

theorem request {q : Q} (h : P q) : (Prog.request q : Prog A E (A q)).Limited P 1 :=
  ⟨All.request h, AtMost.request q⟩

theorem bind {p : Prog A E α} {f : α → Prog A E β} (hp : p.Limited P m)
    (hf : ∀ a, (f a).Limited P n) : (p >>= f).Limited P (m + n) :=
  ⟨All.bind hp.all fun a => (hf a).all, AtMost.bind hp.few fun a => (hf a).few⟩

/-- The same, of a sum that is known. -/
theorem bind_le {p : Prog A E α} {f : α → Prog A E β} {k : ℕ} (hk : m + n ≤ k)
    (hp : p.Limited P m) (hf : ∀ a, (f a).Limited P n) : (p >>= f).Limited P k :=
  (bind hp hf).mono (fun _ hq => hq) hk

/-- One question, and more that depend on its answer. -/
theorem first {p : Prog A E α} {f : α → Prog A E β} (hp : p.Limited P 1)
    (hf : ∀ a, (f a).Limited P n) : (p >>= f).Limited P (n + 1) := bind_le (by omega) hp hf

/-- Nothing is asked after it. -/
theorem last {p : Prog A E α} {f : α → Prog A E β} (hp : p.Limited P n)
    (hf : ∀ a, (f a).Limited P 0) : (p >>= f).Limited P n := bind_le (by omega) hp hf

/-- A check asks nothing, and what comes behind it may rely on its result. -/
theorem lift_bind {r : Except E α} {f : α → Prog A E β} (hf : ∀ a, r = .ok a → (f a).Limited P n) :
    (Prog.lift r >>= f).Limited P n := by
  refine ⟨All.lift_bind fun a ha => (hf a ha).all, ?_⟩
  cases r with
  | error e => exact AtMost.lift (.error e)
  | ok a => exact (hf a rfl).few

/-- What is done with the result asks nothing. -/
theorem discard {p : Prog A E α} (h : p.Limited P n) :
    Limited P n (Functor.discard p : Prog A E Unit) := h.bind fun _ => pure (n := 0) ()

theorem reask {Q' : Type} {A' : Q' → Type} {tr : Q → Q'} {back : ∀ q, A' (tr q) → A q}
    {P : Q' → Prop} {p : Prog A E α} (h : p.Limited (fun q => P (tr q)) n) :
    (p.reask tr back).Limited P n := ⟨h.all.reask, h.few.reask⟩

end Limited

/-! ## Side by side

The programs share whatever answers them, and nothing is known of it: one of them asks, some answer
comes, and the next may be asked by another. `Asks` leaves the order open and may stop anywhere, so
what is proved of it holds in the middle of things as well. -/

/-- One of the programs asks, and goes on with an answer. -/
inductive Step : List (Prog A E α) → Q → List (Prog A E α) → Prop
  | ask (before after : List (Prog A E α)) (q : Q) (next : A q → Prog A E α) (a : A q) :
    Step (before ++ .ask q next :: after) q (before ++ next a :: after)

/-- What is asked, in the order in which it is asked. -/
inductive Asks : List (Prog A E α) → List Q → Prop
  | nothing (ps : List (Prog A E α)) : Asks ps []
  | step {ps ps' : List (Prog A E α)} {q : Q} {qs : List Q} (h : Step ps q ps')
    (hrest : Asks ps' qs) : Asks ps (q :: qs)

/-- A run of one program alone. -/
theorem asks_run (p : Prog A E α) (answer : List Q → (q : Q) → A q) (past : List Q) :
    Asks [p] (p.run answer past).1 := by
  induction p generalizing past with
  | done a => exact .nothing _
  | fail e => exact .nothing _
  | ask q next ih => exact .step (.ask [] [] q next (answer past q)) (ih _ _)

/-- A step of a program that keeps to `P` asks such a question, and the rest keeps to it. -/
theorem All.step {P : Q → Prop} {ps ps' : List (Prog A E α)} {q : Q} (hall : ∀ p ∈ ps, p.All P)
    (h : Step ps q ps') : P q ∧ ∀ p ∈ ps', p.All P := by
  cases h with
  | ask before after q next a =>
      obtain ⟨hq, hnext⟩ := hall (.ask q next) (by simp)
      refine ⟨hq, ?_⟩
      intro p hp
      rw [List.mem_append, List.mem_cons] at hp
      rcases hp with hp | rfl | hp
      · exact hall p (List.mem_append_left _ hp)
      · exact hnext a
      · exact hall p (List.mem_append_right _ (List.mem_cons_of_mem _ hp))

/-- **Whatever is asked** satisfies `P`, in whatever order, if every question of each program does.
-/
theorem All.asks {P : Q → Prop} {ps : List (Prog A E α)} {qs : List Q} (hall : ∀ p ∈ ps, p.All P)
    (h : Asks ps qs) : ∀ q ∈ qs, P q := by
  induction h with
  | nothing ps => exact fun q hq => absurd hq List.not_mem_nil
  | step h hrest ih =>
      obtain ⟨hq, hall'⟩ := All.step hall h
      intro q' hq'
      rcases List.mem_cons.mp hq' with rfl | hq'
      · exact hq
      · exact ih hall' q' hq'

/-- A step uses up one of the questions that are left. -/
theorem AtMost.step {ns : List ℕ} {ps ps' : List (Prog A E α)} {q : Q}
    (hall : List.Forall₂ (fun n p => p.AtMost n) ns ps) (h : Step ps q ps') :
    ∃ ns', List.Forall₂ (fun n p => p.AtMost n) ns' ps' ∧ ns'.sum + 1 = ns.sum := by
  cases h with
  | ask before after q next a =>
      -- the bounds of the others do not change, so the sum falls by one
      induction before generalizing ns with
      | nil =>
          cases hall with
          | @cons n _ ns _ hp hrest =>
              cases n with
              | zero => cases hp
              | succ n =>
                  refine ⟨n :: ns, .cons (hp a) hrest, ?_⟩
                  rw [List.sum_cons, List.sum_cons, Nat.add_right_comm]
      | cons p before ih =>
          cases hall with
          | @cons n _ ns _ hp hrest =>
              obtain ⟨ns', hns', hsum⟩ := ih hrest
              refine ⟨n :: ns', .cons hp hns', ?_⟩
              rw [List.sum_cons, List.sum_cons, ← hsum, Nat.add_assoc]

/-- **As many as all together** are asked: the bounds of programs that run side by side add up. -/
theorem AtMost.asks {ns : List ℕ} {ps : List (Prog A E α)} {qs : List Q}
    (hall : List.Forall₂ (fun n p => p.AtMost n) ns ps) (h : Asks ps qs) : qs.length ≤ ns.sum := by
  induction h generalizing ns with
  | nothing ps => exact Nat.zero_le _
  | step h hrest ih =>
      obtain ⟨ns', hns', hsum⟩ := AtMost.step hall h
      rw [← hsum]
      exact Nat.succ_le_succ (ih hns')

/-- A common bound, as a list of bounds. -/
theorem AtMost.forall₂_replicate {n : ℕ} {ps : List (Prog A E α)} (hall : ∀ p ∈ ps, p.AtMost n) :
    List.Forall₂ (fun n p => p.AtMost n) (List.replicate ps.length n) ps := by
  induction ps with
  | nil => exact .nil
  | cons p ps ih =>
      exact .cons (hall p List.mem_cons_self) (ih fun p hp => hall p (List.mem_cons_of_mem _ hp))

/-- The same for programs that all ask at most `n`. -/
theorem AtMost.asks_le {n : ℕ} {ps : List (Prog A E α)} {qs : List Q} (hall : ∀ p ∈ ps, p.AtMost n)
    (h : Asks ps qs) : qs.length ≤ ps.length * n := by
  have hle := AtMost.asks (forall₂_replicate hall) h
  rwa [List.sum_replicate_nat] at hle

/-- **Limited programs** side by side ask what each of them may, and no more than the limit for
each. -/
theorem Limited.asks {P : Q → Prop} {n : ℕ} {ps : List (Prog A E α)} {qs : List Q}
    (hall : ∀ p ∈ ps, p.Limited P n) (h : Asks ps qs) :
    (∀ q ∈ qs, P q) ∧ qs.length ≤ ps.length * n :=
  ⟨All.asks (fun p hp => (hall p hp).all) h, AtMost.asks_le (fun p hp => (hall p hp).few) h⟩

end Interaction.Prog
