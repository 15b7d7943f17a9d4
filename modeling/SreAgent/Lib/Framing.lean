import Mathlib.Data.List.Infix

/-!
# Frames on a stream

A writer ends every frame with a separator; a reader appends each piece it receives to a buffer,
splits the buffer at the separators, and keeps the last part for the next piece. The pieces may be
cut anywhere, also inside a separator: as long as no frame contains the character a separator
begins with, the reader gets the frames that were written (`read_stream`).

    frames ──stream──▶ characters ──cut──▶ pieces ──read──▶ frames
-/

namespace Framing

variable {α : Type*} [DecidableEq α]

/-! ## Splitting

The function of the standard library, which takes each separator as far to the left as it can. The
lemmas need only that no frame contains the first character of the separator: then a separator in
the stream is one that was written as such. -/

/-- `c` in front of the first part. -/
def consHead (c : α) : List (List α) → List (List α)
  | []      => [[c]]
  | w :: ws => (c :: w) :: ws

/-- The parts between the occurrences of `sep`, each taken as far left as it can be; `skip` more
characters belong to the last one found. -/
def splitFrom (sep : List α) : (skip : Nat) → List α → List (List α)
  | _,        []      => [[]]
  | skip + 1, _ :: cs => splitFrom sep skip cs
  | 0,        c :: cs =>
    if sep.isPrefixOf (c :: cs) then [] :: splitFrom sep (sep.length - 1) cs
    else consHead c (splitFrom sep 0 cs)

/-- `s.split(sep)`, for a `sep` that is not empty. -/
def split (sep cs : List α) : List (List α) := splitFrom sep 0 cs

/-- Characters that are to be skipped are skipped. -/
theorem splitFrom_skip (sep w cs : List α) :
    splitFrom sep w.length (w ++ cs) = splitFrom sep 0 cs := by
  induction w with
  | nil => rfl
  | cons c w ih => exact ih

variable {s : α} {sep : List α}

/-- A separator ends the part before it. -/
theorem split_sep (cs : List α) : split (s :: sep) ((s :: sep) ++ cs) = [] :: split (s :: sep) cs := by
  have hpre : (s :: sep).isPrefixOf ((s :: sep) ++ cs) = true := by simp
  show (if (s :: sep).isPrefixOf ((s :: sep) ++ cs) then _ else _) = _
  rw [if_pos hpre]
  exact congrArg ([] :: ·) (splitFrom_skip (s :: sep) sep cs)

/-- A character no separator begins with belongs to the first part. -/
theorem split_cons {c : α} (h : c ≠ s) (cs : List α) :
    split (s :: sep) (c :: cs) = consHead c (split (s :: sep) cs) := by
  have hpre : ¬ (s :: sep).isPrefixOf (c :: cs) = true := by
    rw [List.isPrefixOf_iff_prefix, List.cons_prefix_cons]
    exact fun hp => h hp.1.symm
  exact if_neg hpre

/-- **A whole frame** is split off: what stands before the first separator is the frame, and the
rest is split by itself. -/
theorem split_frame {f : List α} (h : s ∉ f) (cs : List α) :
    split (s :: sep) (f ++ (s :: sep) ++ cs) = f :: split (s :: sep) cs := by
  induction f with
  | nil => exact split_sep cs
  | cons c f ih =>
      obtain ⟨hc, hf⟩ := List.ne_and_not_mem_of_not_mem_cons h
      show split (s :: sep) (c :: (f ++ (s :: sep) ++ cs)) = _
      rw [split_cons (Ne.symm hc), ih hf]
      rfl

/-- Something shorter than a separator is not split. -/
theorem split_short {t : List α} (h : t.length < (s :: sep).length) : split (s :: sep) t = [t] := by
  induction t with
  | nil => rfl
  | cons c t ih =>
      have hpre : ¬ (s :: sep).isPrefixOf (c :: t) = true := by
        rw [List.isPrefixOf_iff_prefix]
        intro hp
        exact absurd hp.length_le (not_le.mpr h)
      show (if (s :: sep).isPrefixOf (c :: t) then _ else consHead c (split (s :: sep) t)) = _
      rw [if_neg hpre, ih (Nat.lt_of_succ_lt h)]
      rfl

/-- **A frame that is not whole** is not split: as long as its separator is not complete, all of it
is kept. -/
theorem split_begun {f t : List α} (h : s ∉ f) (hpre : t <+: f ++ (s :: sep))
    (hlen : t.length < (f ++ (s :: sep)).length) : split (s :: sep) t = [t] := by
  induction f generalizing t with
  | nil => exact split_short hlen
  | cons c f ih =>
      obtain ⟨hc, hf⟩ := List.ne_and_not_mem_of_not_mem_cons h
      cases t with
      | nil => rfl
      | cons d t =>
          obtain ⟨rfl, ht⟩ := List.cons_prefix_cons.mp hpre
          rw [split_cons (Ne.symm hc), ih hf ht (Nat.lt_of_succ_lt_succ hlen)]
          rfl

/-! ## Writing and reading

The reader's state is its buffer. `Begun` is the invariant between two pieces: the buffer is the
beginning of the next frame, and not all of it, or the frame would already have been handed out. -/

/-- What is written: every frame with a separator behind it. -/
def stream (sep : List α) (frames : List (List α)) : List α := frames.flatMap (· ++ sep)

/-- A piece arrives: the frames it completes, and what is kept for the next one. -/
def feed (sep buf piece : List α) : List (List α) × List α :=
  ((split sep (buf ++ piece)).dropLast, (split sep (buf ++ piece)).getLastD [])

/-- The frames read off the pieces, and what is left in the buffer. -/
def read (sep : List α) : (buf : List α) → (pieces : List (List α)) → List (List α) × List α
  | buf, []              => ([], buf)
  | buf, piece :: pieces =>
    let fed := feed sep buf piece
    let rest := read sep fed.2 pieces
    (fed.1 ++ rest.1, rest.2)

/-- The buffer holds less than the first of the frames still to be read. -/
def Begun (sep buf : List α) : List (List α) → Prop
  | []     => buf = []
  | f :: _ => buf.length < (f ++ sep).length

/-- **Splitting some of the stream** gives the frames that are whole there, and begins the next. -/
theorem split_stream {frames : List (List α)} (hclean : ∀ f ∈ frames, s ∉ f) {text rest : List α}
    (h : text ++ rest = stream (s :: sep) frames) :
    ∃ whole frames' tail, frames = whole ++ frames' ∧ split (s :: sep) text = whole ++ [tail] ∧
      tail ++ rest = stream (s :: sep) frames' ∧ Begun (s :: sep) tail frames' := by
  induction frames generalizing text with
  | nil =>
      obtain ⟨rfl, rfl⟩ := List.append_eq_nil_iff.mp h
      exact ⟨[], [], [], rfl, rfl, rfl, rfl⟩
  | cons f frames ih =>
      have hf : s ∉ f := hclean f (List.mem_cons_self ..)
      have hstream : text ++ rest = (f ++ (s :: sep)) ++ stream (s :: sep) frames := h
      by_cases hlen : text.length < (f ++ (s :: sep)).length
      · have hpre : text <+: f ++ (s :: sep) :=
          List.prefix_of_prefix_length_le ⟨rest, hstream⟩ (List.prefix_append _ _) hlen.le
        exact ⟨[], f :: frames, text, rfl, split_begun hf hpre hlen, h, hlen⟩
      · -- the first frame is whole, and the rest of the text is some of the rest of the stream
        obtain ⟨text', rfl⟩ : f ++ (s :: sep) <+: text :=
          List.prefix_of_prefix_length_le ⟨_, hstream.symm⟩ (List.prefix_append _ _) (not_lt.mp hlen)
        rw [List.append_assoc, List.append_cancel_left_eq] at hstream
        obtain ⟨whole, frames', tail, rfl, hsplit, htail, hbegun⟩ :=
          ih (fun g hg => hclean g (List.mem_cons_of_mem _ hg)) hstream
        refine ⟨f :: whole, frames', tail, rfl, ?_, htail, hbegun⟩
        rw [split_frame hf, hsplit]
        rfl

/-- One piece takes the reader from some of a frame to some of a later one. -/
theorem feed_stream {frames : List (List α)} (hclean : ∀ f ∈ frames, s ∉ f)
    {buf piece rest : List α} (h : buf ++ piece ++ rest = stream (s :: sep) frames) :
    ∃ frames', frames = (feed (s :: sep) buf piece).1 ++ frames' ∧
      (feed (s :: sep) buf piece).2 ++ rest = stream (s :: sep) frames' ∧
      Begun (s :: sep) (feed (s :: sep) buf piece).2 frames' := by
  obtain ⟨whole, frames', tail, hframes, hsplit, htail, hbegun⟩ := split_stream hclean h
  refine ⟨frames', ?_⟩
  rw [feed, hsplit, List.dropLast_concat, List.getLastD_concat]
  exact ⟨hframes, htail, hbegun⟩

/-- **However the stream is cut**, the reader gets the frames that were written, each once and in
order, and its buffer is empty at the end. -/
theorem read_stream {frames : List (List α)} (hclean : ∀ f ∈ frames, s ∉ f) {buf : List α}
    (hbegun : Begun (s :: sep) buf frames) {pieces : List (List α)}
    (h : buf ++ pieces.flatten = stream (s :: sep) frames) :
    read (s :: sep) buf pieces = (frames, []) := by
  induction pieces generalizing buf frames with
  | nil =>
      rw [List.flatten_nil, List.append_nil] at h
      cases frames with
      | nil =>
          obtain rfl : buf = [] := hbegun
          rfl
      | cons f frames =>
          -- the buffer would hold a whole frame
          have hlen : (f ++ (s :: sep)).length ≤ buf.length := by
            rw [h]
            exact (List.prefix_append (f ++ (s :: sep)) (stream (s :: sep) frames)).length_le
          exact absurd hbegun (not_lt.mpr hlen)
  | cons piece pieces ih =>
      rw [List.flatten_cons, ← List.append_assoc] at h
      obtain ⟨frames', hframes, htail, hbegun'⟩ := feed_stream hclean h
      have hclean' : ∀ f ∈ frames', s ∉ f := by
        intro f hf
        apply hclean
        rw [hframes]
        exact List.mem_append_right _ hf
      rw [read, ih hclean' hbegun' htail, hframes]

end Framing
