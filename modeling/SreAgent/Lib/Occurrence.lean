import SreAgent.Lib.PyStr
import SreAgent.Lib.Weave

/-!
# Occurrences of a text

`str.split` with a limit of one, and `str.replace`, on character lists.

Both functions scan from the left and go on behind an occurrence. `replace_induction` is the
induction that follows this scan: over an occurrence in one step, and on by one character where
there is none. Every lemma about replaced texts uses it.
-/

namespace Py

/-! ## Cutting once

The first occurrence counts. What stands before it is free of the separator, and what is behind it
may contain more of them. -/

/-- What stands before the first occurrence of `sep`, which is not empty, and what behind it. -/
def cutAt (sep : List Char) : List Char → Option (List Char × List Char)
  | []      => none
  | c :: cs =>
    if sep.isPrefixOf (c :: cs) then some ([], (c :: cs).drop sep.length)
    else (cutAt sep cs).map fun (before, after) => (c :: before, after)

/-- An occurrence at the very front leaves nothing before it. -/
theorem cutAt_sep {sep : List Char} (hne : sep ≠ []) (cs : List Char) :
    cutAt sep (sep ++ cs) = some ([], cs) := by
  cases sep with
  | nil => exact absurd rfl hne
  | cons c sep =>
      rw [List.cons_append, cutAt, if_pos (by simp)]
      have hdrop : (c :: sep ++ cs).drop (c :: sep).length = cs := List.drop_left
      exact congrArg (fun after => some ([], after)) hdrop

/-- Where `sep` does not begin it is not cut. -/
theorem cutAt_cons {sep : List Char} {c : Char} {cs : List Char} (h : ¬ sep <+: c :: cs) :
    cutAt sep (c :: cs) = (cutAt sep cs).map fun (before, after) => (c :: before, after) := by
  rw [cutAt, if_neg (by rwa [List.isPrefixOf_iff_prefix])]

/-- Characters that `sep` does not begin with are passed over. -/
theorem cutAt_append {d : Char} {sep as : List Char} (h : d ∉ as) (cs : List Char) :
    cutAt (d :: sep) (as ++ cs) =
      (cutAt (d :: sep) cs).map fun (before, after) => (as ++ before, after) := by
  induction as with
  | nil => simp
  | cons a as ih =>
      obtain ⟨hne, has⟩ := List.ne_and_not_mem_of_not_mem_cons h
      rw [List.cons_append, cutAt_cons fun hsep => hne (List.cons_prefix_cons.mp hsep).1, ih has,
        Option.map_map]
      rfl

/-! ## Replacing

An occurrence that overlaps one already replaced does not count, so replacing by nothing can leave
an occurrence behind: the result is shorter than the text, but need not be free of `old`. -/

/-- An occurrence of `old` at the beginning. -/
def occurrence (old new : List Char) (cs : List Char) : Option (List Char × ℕ) :=
  if old.isPrefixOf cs then some (new, old.length) else none

/-- `s.replace(old, new)`, for `old` not empty. -/
def replaceText (old new : List Char) (cs : List Char) : List Char :=
  Weave.replaceAll (occurrence old new) cs

variable {old new : List Char}

/-- An occurrence at the front is replaced, and the scan goes on behind it. -/
theorem replaceText_old (hne : old ≠ []) (cs : List Char) :
    replaceText old new (old ++ cs) = new ++ replaceText old new cs := by
  have hmatch : occurrence old new (old ++ cs) = some (new, old.length) := by
    rw [occurrence, if_pos (by simp)]
  rw [replaceText, Weave.replaceAll_some hmatch (by simp [hne]) (List.length_pos_of_ne_nil hne),
    List.drop_left]
  rfl

/-- Where there is none, the scan moves on by one character. -/
theorem replaceText_cons {c : Char} {cs : List Char} (h : ¬ old <+: c :: cs) :
    replaceText old new (c :: cs) = c :: replaceText old new cs := by
  apply Weave.replaceAll_none
  rw [occurrence, if_neg (by rwa [List.isPrefixOf_iff_prefix])]

/-- Replacing goes through a text in two ways: over an occurrence, or on by one character. -/
theorem replace_induction {motive : List Char → Prop} (hne : old ≠ []) (nil : motive [])
    (occurs : ∀ cs, motive cs → motive (old ++ cs))
    (next : ∀ c cs, ¬ old <+: c :: cs → motive cs → motive (c :: cs)) (cs : List Char) : motive cs := by
  -- on the length, since an occurrence takes several characters off at once
  induction hlen : cs.length using Nat.strong_induction_on generalizing cs with
  | _ len ih =>
    subst hlen
    have hpos := List.length_pos_of_ne_nil hne
    by_cases hold : old <+: cs
    · obtain ⟨cs, rfl⟩ := hold
      apply occurs
      apply ih _ _ cs rfl
      rw [List.length_append]
      omega
    · cases cs with
      | nil => exact nil
      | cons c cs => exact next c cs hold (ih _ (Nat.lt_succ_self _) cs rfl)

/-- A character that is not in `old` separates what is replaced. -/
theorem replaceText_append_cons (hne : old ≠ []) {d : Char} (hd : d ∉ old) (as cs : List Char) :
    replaceText old new (as ++ d :: cs) = replaceText old new as ++ d :: replaceText old new cs := by
  -- an occurrence cannot reach across `d`, which is not in it
  have hbefore : ∀ as, old <+: as ++ d :: cs → old <+: as := by
    rintro as ⟨rest, hrest⟩
    rcases Weave.tag_or_tail hrest with ⟨inside, rfl⟩ | ⟨between, rfl, -⟩
    · exact absurd (by simp) hd
    · exact List.prefix_append _ _
  induction as using replace_induction hne with
  | nil =>
      apply replaceText_cons
      intro hold
      exact hne (List.eq_nil_of_prefix_nil (hbefore [] hold))
  | occurs as ih =>
      rw [List.append_assoc, replaceText_old hne, replaceText_old hne, ih, List.append_assoc]
  | next a as hold ih =>
      have hnext : ¬ old <+: a :: (as ++ d :: cs) := fun h => hold (hbefore (a :: as) h)
      rw [List.cons_append, replaceText_cons hnext, replaceText_cons hold, ih, List.cons_append]

/-- Without an occurrence nothing is replaced. -/
theorem replaceText_of_not_infix {cs : List Char} (h : ¬ old <:+: cs) : replaceText old new cs = cs := by
  induction cs with
  | nil => rfl
  | cons c cs ih =>
      rw [List.infix_cons_iff, not_or] at h
      rw [replaceText_cons h.1, ih h.2]

/-- Erasing makes no text longer, and one with an occurrence shorter. -/
theorem length_erase (hne : old ≠ []) (cs : List Char) :
    (replaceText old [] cs).length ≤ cs.length := by
  induction cs using replace_induction hne with
  | nil => exact le_rfl
  | occurs cs ih =>
      rw [replaceText_old hne, List.nil_append, List.length_append]
      exact ih.trans (Nat.le_add_left _ _)
  | next c cs hold ih =>
      rw [replaceText_cons hold]
      exact Nat.succ_le_succ ih

theorem length_erase_lt (hne : old ≠ []) {cs : List Char} (h : old <:+: cs) :
    (replaceText old [] cs).length < cs.length := by
  induction cs using replace_induction hne with
  | nil => exact absurd (List.infix_nil.mp h) hne
  | occurs cs _ =>
      rw [replaceText_old hne, List.nil_append, List.length_append]
      have hpos := List.length_pos_of_ne_nil hne
      have hle := length_erase hne cs
      omega
  | next c cs hold ih =>
      rw [replaceText_cons hold]
      exact Nat.succ_lt_succ (ih ((List.infix_cons_iff.mp h).resolve_left hold))

/-- **Erasing leaves a text alone** exactly if there is nothing to erase. -/
theorem erase_eq_self_iff (hne : old ≠ []) (cs : List Char) :
    replaceText old [] cs = cs ↔ ¬ old <:+: cs := by
  refine ⟨fun heq hinfix => ?_, replaceText_of_not_infix⟩
  have hlt := length_erase_lt hne hinfix
  rw [heq] at hlt
  exact Nat.lt_irrefl _ hlt

/-- Erasing brings no characters in. -/
theorem mem_of_mem_erase (hne : old ≠ []) {c : Char} {cs : List Char} (h : c ∈ replaceText old [] cs) :
    c ∈ cs := by
  induction cs using replace_induction hne with
  | nil => exact h
  | occurs cs ih =>
      rw [replaceText_old hne] at h
      exact List.mem_append_right _ (ih h)
  | next d cs hold ih =>
      rw [replaceText_cons hold, List.mem_cons] at h
      exact List.mem_cons.mpr (h.imp_right ih)

end Py
