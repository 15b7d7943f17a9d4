import Mathlib.Data.List.Infix

/-!
# Rewriting woven texts

A text is woven from plain symbols and whole tags, and matches in it are replaced from left to right. If
no match begins inside a tag and each one falls apart into whole pieces, the result is woven again
(`Woven.replaceAll`); and in a woven text a symbol that is not plain is where the tags have it
(`Woven.starts`, `Woven.ends`).
-/

namespace Weave

variable {α : Type*}

/-! ## Replacing

A rule looks at the front of a text and says what becomes of a match there and how long it is. A
chain of replacements with different rules is several passes, each over the result of the one
before. -/

/-- Replaces the matches of a rule, which says what becomes of a match at the beginning of the text and
how long it is. The first `skip` symbols belong to the match before. -/
def replaceFrom (rule : List α → Option (List α × ℕ)) : (skip : ℕ) → List α → List α
  | _,        []      => []
  | skip + 1, _ :: cs => replaceFrom rule skip cs
  | 0,        c :: cs =>
    match rule (c :: cs) with
    | some (out, n) => out ++ replaceFrom rule (n - 1) cs
    | none          => c :: replaceFrom rule 0 cs

/-- Over the whole text, from the left, going on behind each match. -/
def replaceAll (rule : List α → Option (List α × ℕ)) : List α → List α := replaceFrom rule 0

variable {rule : List α → Option (List α × ℕ)}

/-- What belongs to a match is skipped. -/
theorem replaceFrom_eq (skip : ℕ) (cs : List α) :
    replaceFrom rule skip cs = replaceAll rule (cs.drop skip) := by
  induction cs generalizing skip with
  | nil => cases skip <;> rfl
  | cons c cs ih =>
      cases skip with
      | zero => rfl
      | succ skip => exact ih skip

/-- Without a match the symbol stays, and the scan goes on behind it. -/
theorem replaceAll_none {c : α} {cs : List α} (h : rule (c :: cs) = none) :
    replaceAll rule (c :: cs) = c :: replaceAll rule cs := by
  unfold replaceAll
  rw [replaceFrom, h]

/-- A match is replaced, and the scan goes on behind it. -/
theorem replaceAll_some {cs out : List α} {n : ℕ} (h : rule cs = some (out, n)) (hcs : cs ≠ [])
    (hn : 0 < n) : replaceAll rule cs = out ++ replaceAll rule (cs.drop n) := by
  cases cs with
  | nil => exact absurd rfl hcs
  | cons c cs =>
      cases n with
      | zero => exact absurd hn (Nat.lt_irrefl 0)
      | succ n =>
          rw [replaceAll, replaceFrom, h]
          exact congrArg (out ++ ·) (replaceFrom_eq n cs)

/-! ## Woven texts

The tags are fixed texts, known in advance; a symbol may be plain and occur in a tag as well, and
then a text can be woven in several ways. A loose symbol cannot: it occurs in no tag, so wherever it
stands it stands between the pieces, and the text may be cut there. -/

inductive Woven (tags : List (List α)) (plain : α → Prop) : List α → Prop
  | nil : Woven tags plain []
  | plain {c : α} {cs : List α} (symbol : plain c) (tail : Woven tags plain cs) :
      Woven tags plain (c :: cs)
  | tag {t cs : List α} (known : t ∈ tags) (tail : Woven tags plain cs) : Woven tags plain (t ++ cs)

/-- A symbol that no tag contains. -/
def Loose (tags : List (List α)) (c : α) : Prop := ∀ t ∈ tags, c ∉ t

instance [DecidableEq α] (tags : List (List α)) (c : α) : Decidable (Loose tags c) :=
  inferInstanceAs (Decidable (∀ t ∈ tags, c ∉ t))

variable {tags : List (List α)} {plain : α → Prop} {cs xs ys : List α} {b : α}

/-- A text without tags is woven. -/
theorem Woven.of_plain (h : ∀ c ∈ cs, plain c) : Woven tags plain cs := by
  induction cs with
  | nil => exact .nil
  | cons c cs ih => exact .plain (h c (List.mem_cons_self ..)) (ih fun d hd => h d (.tail _ hd))

/-- Two woven texts, one behind the other, are one. -/
theorem Woven.append (hx : Woven tags plain xs) (hy : Woven tags plain ys) :
    Woven tags plain (xs ++ ys) := by
  induction hx with
  | nil => exact hy
  | plain symbol _ ih => exact .plain symbol ih
  | tag known _ ih =>
      rw [List.append_assoc]
      exact .tag known ih

/-- Tags may be put around a woven text, whether they fit together or not. -/
theorem Woven.wrap {t u : List α} (ht : t ∈ tags) (hu : u ∈ tags) (h : Woven tags plain cs) :
    Woven tags plain (t ++ cs ++ u) := by
  rw [List.append_assoc]
  have hend : Woven tags plain (u ++ []) := .tag hu .nil
  rw [List.append_nil] at hend
  exact .tag ht (h.append hend)

/-- Where a symbol stands in a text that begins with a tag: in the tag, or behind it. -/
theorem tag_or_tail {t cs before after : List α} (h : t ++ cs = before ++ b :: after) :
    (∃ inside, t = before ++ b :: inside) ∨ ∃ between, before = t ++ between ∧
      cs = between ++ b :: after := by
  rcases List.append_eq_append_iff.mp h with ⟨between, rfl, hcs⟩ | ⟨inside, rfl, hafter⟩
  · exact .inr ⟨between, rfl, hcs⟩
  · cases inside with
    | nil => exact .inr ⟨[], (List.append_nil _).symm.trans (by simp), hafter.symm⟩
    | cons d inside =>
        obtain ⟨rfl, -⟩ := List.cons.inj hafter
        exact .inl ⟨inside, rfl⟩

/-- A woven text may be cut at a loose symbol. -/
theorem Woven.cut (hb : Loose tags b) (h : Woven tags plain (xs ++ b :: ys)) :
    Woven tags plain xs ∧ Woven tags plain ys := by
  generalize heq : xs ++ b :: ys = cs at h
  induction h generalizing xs with
  | nil => simp at heq
  | plain symbol tail ih =>
      cases xs with
      | nil =>
          obtain ⟨-, rfl⟩ := List.cons.inj heq
          exact ⟨.nil, tail⟩
      | cons x xs =>
          obtain ⟨rfl, htail⟩ := List.cons.inj heq
          obtain ⟨hfront, hback⟩ := ih htail
          exact ⟨.plain symbol hfront, hback⟩
  | tag known _ ih =>
      -- the cut is at a loose symbol, which is in no tag
      rcases tag_or_tail heq.symm with ⟨inside, rfl⟩ | ⟨between, rfl, htail⟩
      · exact absurd (by simp) (hb _ known)
      · obtain ⟨hfront, hback⟩ := ih htail.symm
        exact ⟨.tag known hfront, hback⟩

/-- Loose symbols at the front may be taken away, and at the end. -/
theorem Woven.of_loose_append (hloose : ∀ c ∈ xs, Loose tags c) (h : Woven tags plain (xs ++ ys)) :
    Woven tags plain ys := by
  induction xs with
  | nil => exact h
  | cons x xs ih =>
      rw [List.forall_mem_cons] at hloose
      have hrest : Woven tags plain ([] ++ x :: (xs ++ ys)) := h
      exact ih hloose.2 (hrest.cut hloose.1).2

theorem Woven.of_append_loose (hloose : ∀ c ∈ ys, Loose tags c) (h : Woven tags plain (xs ++ ys)) :
    Woven tags plain xs := by
  cases ys with
  | nil => rwa [List.append_nil] at h
  | cons y ys => exact (Woven.cut (hloose y (List.mem_cons_self ..)) h).1

/-- What stands between two loose marks is woven, and so is what follows them. -/
theorem Woven.between {mark : List α} (hmark : mark ≠ []) (hloose : ∀ c ∈ mark, Loose tags c)
    (h : Woven tags plain (mark ++ (xs ++ (mark ++ ys)))) :
    Woven tags plain xs ∧ Woven tags plain ys := by
  have hinner := Woven.of_loose_append hloose h
  cases mark with
  | nil => exact absurd rfl hmark
  | cons b mark =>
      rw [List.forall_mem_cons] at hloose
      obtain ⟨hfront, hback⟩ := Woven.cut hloose.1 hinner
      exact ⟨hfront, Woven.of_loose_append hloose.2 hback⟩

/-! ## Rewriting

The invariant of a pass. Tags are copied, since no match begins in one; plain symbols are copied or
begin a match, and a match is replaced by woven text and leaves woven text behind it. -/

/-- A rule that begins its matches outside of tags, and takes woven texts apart into such. -/
structure Respects (tags : List (List α)) (plain : α → Prop) (rule : List α → Option (List α × ℕ)) :
    Prop where
  start  : ∀ {cs out n}, rule cs = some (out, n) → ∃ c rest, cs = c :: rest ∧ Loose tags c
  length : ∀ {cs out n}, rule cs = some (out, n) → 0 < n
  pieces : ∀ {cs out n}, rule cs = some (out, n) → Woven tags plain cs →
    Woven tags plain out ∧ Woven tags plain (cs.drop n)

/-- Inside a tag nothing is replaced. -/
theorem Respects.replaceAll_append (hrule : Respects tags plain rule) {t : List α}
    (ht : ∀ c ∈ t, ¬ Loose tags c) (cs : List α) :
    replaceAll rule (t ++ cs) = t ++ replaceAll rule cs := by
  induction t with
  | nil => rfl
  | cons c t ih =>
      rw [List.forall_mem_cons] at ht
      -- a match would begin at `c`, which is in a tag
      have hnone : rule (c :: (t ++ cs)) = none := by
        rw [Option.eq_none_iff_forall_ne_some]
        rintro ⟨out, n⟩ hsome
        obtain ⟨d, rest, heq, hloose⟩ := hrule.start hsome
        obtain ⟨rfl, -⟩ := List.cons.inj heq
        exact ht.1 hloose
      rw [List.cons_append, replaceAll_none hnone, ih ht.2, List.cons_append]

/-- **A woven text stays woven** when the matches of such a rule are replaced. -/
theorem Woven.replaceAll (hrule : Respects tags plain rule) (h : Woven tags plain cs) :
    Woven tags plain (replaceAll rule cs) := by
  obtain ⟨bound, hbound⟩ : ∃ bound, cs.length ≤ bound := ⟨_, le_rfl⟩
  -- behind a match the text is shorter by any length, so the length is bounded apart from the text
  induction bound generalizing cs with
  | zero =>
      rw [List.eq_nil_of_length_eq_zero (Nat.le_zero.mp hbound)]
      exact .nil
  | succ bound shorter =>
      induction h with
      | nil => exact .nil
      | @plain c cs symbol tail ih =>
          rw [List.length_cons] at hbound
          cases hmatch : rule (c :: cs) with
          | none =>
              rw [replaceAll_none hmatch]
              exact .plain symbol (ih (by omega))
          | some hit =>
              obtain ⟨out, n⟩ := hit
              have hpos := hrule.length hmatch
              obtain ⟨hout, hrest⟩ := hrule.pieces hmatch (.plain symbol tail)
              rw [replaceAll_some hmatch (by simp) hpos]
              apply hout.append
              apply shorter hrest
              rw [List.length_drop, List.length_cons]
              omega
      | tag known tail ih =>
          rw [List.length_append] at hbound
          rw [hrule.replaceAll_append fun c hc hloose => hloose _ known hc]
          exact .tag known (ih (by omega))

/-! ## What is not plain

If the opening bracket is not plain, each one in the result begins a tag that the rules brought in:
this is how it is said that nothing of the input became markup. -/

/-- A symbol that is not plain and begins tags only is where a tag begins. -/
theorem Woven.starts (hb : ¬ plain b) (htags : ∀ t ∈ tags, b ∉ t.tail) {before after : List α}
    (h : Woven tags plain (before ++ b :: after)) : ∃ t ∈ tags, t <+: b :: after := by
  generalize heq : before ++ b :: after = cs at h
  induction h generalizing before with
  | nil => simp at heq
  | plain symbol _ ih =>
      cases before with
      | nil =>
          obtain ⟨rfl, -⟩ := List.cons.inj heq
          exact absurd symbol hb
      | cons d before => exact ih (List.cons.inj heq).2
  | @tag t cs known _ ih =>
      -- the symbol is in a tag, and then it is its first one, or behind it
      rcases tag_or_tail heq.symm with ⟨inside, hinside⟩ | ⟨between, -, htail⟩
      · cases before with
        | nil =>
            rw [List.nil_append] at heq
            exact ⟨t, known, heq ▸ List.prefix_append t cs⟩
        | cons d before =>
            refine absurd ?_ (htags t known)
            rw [hinside]
            simp
      · exact ih htail.symm

/-- One that ends tags only is where a tag ends. -/
theorem Woven.ends (hb : ¬ plain b) (htags : ∀ t ∈ tags, b ∉ t.dropLast) {before after : List α}
    (h : Woven tags plain (before ++ b :: after)) : ∃ t ∈ tags, t <:+ before ++ [b] := by
  generalize heq : before ++ b :: after = cs at h
  induction h generalizing before with
  | nil => simp at heq
  | plain symbol _ ih =>
      cases before with
      | nil =>
          obtain ⟨rfl, -⟩ := List.cons.inj heq
          exact absurd symbol hb
      | cons d before =>
          obtain ⟨t, ht, hsuffix⟩ := ih (List.cons.inj heq).2
          exact ⟨t, ht, hsuffix.trans (List.suffix_cons d _)⟩
  | @tag t cs known _ ih =>
      -- the symbol is in a tag, and then it is its last one, or behind it
      rcases tag_or_tail heq.symm with ⟨inside, hinside⟩ | ⟨between, rfl, htail⟩
      · cases inside with
        | nil => exact ⟨t, known, hinside ▸ List.suffix_rfl⟩
        | cons d inside =>
            refine absurd ?_ (htags t known)
            rw [hinside, List.dropLast_append_cons]
            simp
      · obtain ⟨u, hu, hsuffix⟩ := ih htail.symm
        refine ⟨u, hu, hsuffix.trans ?_⟩
        rw [List.append_assoc]
        exact List.suffix_append _ _

end Weave
