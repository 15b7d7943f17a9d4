import SreAgent.Lib.Windows
import SreAgent.Rag.Embed

/-!
# What the chunks cover

A section of no more than `max_tokens` words is one chunk; a longer one is cut into windows of its
words, which overlap by `_OVERLAP`. For that `max_tokens` has to be larger than the overlap
(`lossless_iff`), and the last window may be one that adds nothing (`noRedundant_iff`).

Both statements are about positions of words in a section, not about words: a word that occurs twice may
be lost at one place and kept at another. `spansOf` gives the positions the source computes, and
`Emits` ties the chunks to them.
-/

namespace SreAgent.Rag

open Windows (Covers Fresh)

/-! ## Words of the sections

Sections begin at line starts, and a line break is white space. So the words of the text are
distributed over the sections as they are. -/

/-- A character joins the first section. -/
theorem consChar_cons (c : Char) (s : List Char) (ss : List (List Char)) :
    consChar c (s :: ss) = (c :: s) :: ss := rfl

/-- There is always a section. -/
theorem sectionsFrom_ne_nil (lineStart : Bool) (cs : List Char) : sectionsFrom lineStart cs ≠ [] := by
  cases cs with
  | nil => simp [sectionsFrom]
  | cons c cs =>
      obtain ⟨s, ss, hs⟩ : ∃ s ss, consChar c (sectionsFrom (c == '\n') cs) = s :: ss := by
        cases sectionsFrom (c == '\n') cs with
        | nil => exact ⟨_, _, rfl⟩
        | cons s ss => exact ⟨_, _, rfl⟩
      rw [sectionsFrom]
      split <;> simp [hs]

/-- A text without a heading is one section. -/
theorem sectionsFrom_of_not_mem {lineStart : Bool} {cs : List Char} (h : '#' ∉ cs) :
    sectionsFrom lineStart cs = [cs] := by
  induction cs generalizing lineStart with
  | nil => rfl
  | cons c cs ih =>
      obtain ⟨hc, hcs⟩ := List.ne_and_not_mem_of_not_mem_cons h
      have hplain : startsHeading (c :: cs) = false := by simp [startsHeading, hc.symm]
      rw [sectionsFrom, ih hcs, hplain, Bool.and_false]
      rfl

/-- A cut is at the beginning of a line, so no word is cut. `cur` is what has been read of the first
word before `cs`, backwards. -/
theorem splitFrom_sections {lineStart : Bool} {cs head : List Char} {tail : List (List Char)}
    (hcut : sectionsFrom lineStart cs = head :: tail) {cur : List Char}
    (hcur : lineStart = true → cur = []) :
    Py.splitFrom cur cs = Py.splitFrom cur head ++ tail.flatMap Py.split := by
  induction cs generalizing lineStart head tail cur with
  | nil =>
      obtain ⟨rfl, rfl⟩ := List.cons.inj hcut
      simp
  | cons c cs ih =>
      obtain ⟨s, ss, hrest⟩ := List.exists_cons_of_ne_nil (sectionsFrom_ne_nil (c == '\n') cs)
      -- without a cut the first character goes to the first section
      have hhere : ∀ cur, Py.splitFrom cur (c :: cs) =
          Py.splitFrom cur (c :: s) ++ ss.flatMap Py.split := by
        intro cur
        rw [Py.splitFrom, Py.splitFrom]
        split
        · rw [ih hrest fun _ => rfl, List.append_assoc]
        · next hword =>
          refine ih hrest fun hline => absurd ?_ hword
          rw [beq_iff_eq.mp hline]
          rfl
      rw [sectionsFrom, hrest, consChar_cons] at hcut
      split at hcut
      · next hheading =>
        obtain ⟨rfl, rfl⟩ := List.cons.inj hcut
        rw [hcur (Bool.and_eq_true_iff.mp hheading).1, hhere, List.flatMap_cons, Py.split_eq (c :: s)]
        rfl
      · obtain ⟨rfl, rfl⟩ := List.cons.inj hcut
        exact hhere cur

/-- **The words of a text are those of its sections.** -/
theorem flatMap_sections (text : String) :
    (sections text).flatMap Py.split = Py.split text.toList := by
  obtain ⟨head, tail, hcut⟩ := List.exists_cons_of_ne_nil (sectionsFrom_ne_nil true text.toList)
  rw [sections, hcut, Py.split_eq text.toList, splitFrom_sections hcut fun _ => rfl,
    List.flatMap_cons, Py.split_eq head]

/-! ## Windows of a section

A section is described by three things at once: its chunks, the spans of their words, and that the
one belongs to the other (`Cut`). The two branches of the source each give such a description. -/

/-- The words at the positions of the window. -/
def window (words : List (List Char)) (a : Nat × Nat) : List (List Char) :=
  (words.drop a.1).take (a.2 - a.1)

def wordsOf (chunk : String) : List (List Char) := Py.split chunk.toList

/-- The chunks have the words of the windows, in order. -/
def Emits (words : List (List Char)) (chunks : List String) (spans : List (Nat × Nat)) : Prop :=
  chunks.map wordsOf = spans.map (window words)

/-- The positions of the words that go into each chunk of a section, as `chunk_document` computes
them. -/
def spansOf (maxTokens : ℤ) (cs : List Char) : Except Exc (List (Nat × Nat)) :=
  let n := (Py.split cs).length
  if n ≤ maxTokens then
    .ok (if (Py.strip cs).isEmpty then [] else [(0, n)])
  else do
    let starts ← pyRange n (maxTokens - overlap)
    pure (starts.map (Windows.span maxTokens.toNat n))

/-- A section comes out as chunks of no more than `max_tokens` words, which are windows of it that
leave no word out. -/
structure Cut (maxTokens : ℤ) (cs : List Char) (chunks : List String) (spans : List (Nat × Nat)) :
    Prop where
  chunked : chunkSection maxTokens cs = .ok chunks
  spanned : spansOf maxTokens cs = .ok spans
  emits   : Emits (Py.split cs) chunks spans
  covers  : Covers (Py.split cs).length spans
  small   : ∀ a ∈ spans, ((a.2 - a.1 : Nat) : ℤ) ≤ maxTokens

variable {maxTokens : ℤ} {cs : List Char}

/-- A step forward gives the starts of the windows. -/
theorem pyRange_of_pos {step : ℤ} (h : 0 < step) (n : Nat) :
    pyRange n step = .ok (Windows.starts step.toNat n) := by
  rw [pyRange, if_neg h.ne', if_neg (not_lt.mpr h.le)]
  rfl

/-- Joined with blanks and split again, the words of a window are the same. -/
theorem wordsOf_joinWords (cs : List Char) (a : Nat × Nat) :
    wordsOf (joinWords (window (Py.split cs) a)) = window (Py.split cs) a := by
  rw [wordsOf, joinWords, String.toList_ofList]
  apply Py.split_intercalate
  intro w hw
  exact Py.isWord_of_mem_split (List.mem_of_mem_drop (List.mem_of_mem_take hw))

/-- A section that is short enough. -/
theorem cut_of_short (h : (Py.split cs).length ≤ maxTokens) : ∃ chunks spans,
    Cut maxTokens cs chunks spans := by
  -- a blank section gives no chunk, and has no words to lose
  by_cases hblank : (Py.strip cs).isEmpty = true
  · have hnone : (Py.split cs).length = 0 := by
      rw [← Py.split_strip, List.isEmpty_iff.mp hblank]
      rfl
    refine ⟨[], [], ?_, ?_, rfl, ?_, by simp⟩
    · simp only [chunkSection, if_pos h, if_pos hblank]
    · simp only [spansOf, if_pos h, if_pos hblank]
    · rw [hnone]
      exact ⟨.nil, by simp, by simp⟩
  · refine ⟨[String.ofList (Py.strip cs)], [(0, (Py.split cs).length)], ?_, ?_, ?_, ?_, ?_⟩
    · simp only [chunkSection, if_pos h, if_neg hblank]
    · simp only [spansOf, if_pos h, if_neg hblank]
    · rw [Emits, List.map_singleton, List.map_singleton, wordsOf, String.toList_ofList,
        Py.split_strip, window, List.drop_zero, Nat.sub_zero, List.take_length]
    · exact ⟨List.pairwise_singleton _ _, by simp, fun p hp => ⟨_, List.mem_cons_self, by simpa⟩⟩
    · simpa using h

/-- A longer section, where the windows advance. -/
theorem cut_of_long (h : overlap < maxTokens) (hlong : ¬ (Py.split cs).length ≤ maxTokens) :
    ∃ chunks, Cut maxTokens cs chunks
      (Windows.spans maxTokens.toNat (maxTokens - overlap).toNat (Py.split cs).length) := by
  have hstep : 0 < maxTokens - overlap := by omega
  have hrange := pyRange_of_pos hstep (Py.split cs).length
  -- what the source slices is what the window covers
  have htake : ∀ i, (((Py.split cs).drop i).take maxTokens.toNat) =
      window (Py.split cs) (Windows.span maxTokens.toNat (Py.split cs).length i) := by
    intro i
    rw [window, Windows.span, List.take_eq_take_iff, List.length_drop]
    omega
  refine ⟨(Windows.spans maxTokens.toNat (maxTokens - overlap).toNat (Py.split cs).length).map fun a =>
    joinWords (window (Py.split cs) a), ?_, ?_, ?_, ?_, ?_⟩
  · simp only [chunkSection, if_neg hlong, hrange, htake, Windows.spans, List.map_map]
    rfl
  · simp only [spansOf, if_neg hlong, hrange]
    rfl
  · rw [Emits, List.map_map]
    exact List.map_congr_left fun a _ => wordsOf_joinWords cs a
  · unfold overlap at hstep ⊢
    exact Windows.covers_spans (by omega) (by omega)
  · intro a ha
    obtain ⟨i, -, rfl⟩ := List.mem_map.mp ha
    unfold overlap at hstep
    simp only [Windows.span]
    omega

/-! ## Nothing is lost

The step is `max_tokens` less the overlap. Where it is not positive, a section that needs more than
one window has none, or raises; a section that fits does not notice. -/

/-- `chunk_document` returns chunks of no more than `max_tokens` words, which for each section are
windows of it that leave no word out, so that every word of the text is in some chunk. -/
structure Lossless (text : String) (maxTokens : ℤ) : Prop where
  returns : ∃ chunks, chunkDocument text maxTokens = .ok chunks ∧
    (∀ c ∈ chunks, ((wordsOf c).length : ℤ) ≤ maxTokens) ∧
      ∀ w ∈ Py.split text.toList, ∃ c ∈ chunks, w ∈ wordsOf c
  sections : ∀ cs ∈ sections text, ∃ chunks spans, chunkSection maxTokens cs = .ok chunks ∧
    Emits (Py.split cs) chunks spans ∧ Covers (Py.split cs).length spans
  words : (Rag.sections text).flatMap Py.split = Py.split text.toList

/-- No chunk is too long, and every word is in one. -/
theorem Cut.length_le {chunks : List String} {spans : List (Nat × Nat)}
    (h : Cut maxTokens cs chunks spans) {c : String} (hc : c ∈ chunks) :
    ((wordsOf c).length : ℤ) ≤ maxTokens := by
  have hmem : wordsOf c ∈ spans.map (window (Py.split cs)) := h.emits ▸ List.mem_map_of_mem hc
  obtain ⟨a, ha, hwords⟩ := List.mem_map.mp hmem
  have hsmall := h.small a ha
  rw [← hwords, window, List.length_take]
  omega

theorem Cut.mem_chunk {chunks : List String} {spans : List (Nat × Nat)}
    (h : Cut maxTokens cs chunks spans) {w : List Char} (hw : w ∈ Py.split cs) :
    ∃ c ∈ chunks, w ∈ wordsOf c := by
  obtain ⟨p, hp, rfl⟩ := List.mem_iff_getElem.mp hw
  obtain ⟨a, ha, hfrom, hto⟩ := h.covers.covered p hp
  have hmem : window (Py.split cs) a ∈ chunks.map wordsOf := h.emits.symm ▸ List.mem_map_of_mem ha
  obtain ⟨c, hc, hwords⟩ := List.mem_map.mp hmem
  refine ⟨c, hc, ?_⟩
  rw [hwords, window, List.mem_iff_getElem]
  exact ⟨p - a.1, by rw [List.length_take, List.length_drop]; omega, by
    rw [List.getElem_take, List.getElem_drop]
    congr 1
    omega⟩

/-- **A document whose sections are cut so** loses nothing: every word is in a chunk, and no chunk
is longer than allowed. -/
theorem lossless_of_cut {text : String}
    (h : ∀ cs ∈ sections text, ∃ chunks spans, Cut maxTokens cs chunks spans) :
    Lossless text maxTokens := by
  obtain ⟨all, hall⟩ := Gather.gather_ok_iff.mpr fun cs hcs =>
    (h cs hcs).imp fun chunks => fun ⟨spans, hcut⟩ => hcut.chunked
  refine ⟨⟨all, (chunkDocument_eq text maxTokens).trans hall, fun c hc => ?_, fun w hw => ?_⟩,
    fun cs hcs => ?_, flatMap_sections text⟩
  · -- a chunk of the document is one of some section
    obtain ⟨cs, hcs, found, hfound, hmem⟩ := (Gather.mem_of_gather hall).mp hc
    obtain ⟨chunks, spans, hcut⟩ := h cs hcs
    obtain rfl := Except.ok.inj (hcut.chunked.symm.trans hfound)
    exact hcut.length_le hmem
  · -- a word of the text is one of some section
    rw [← flatMap_sections, List.mem_flatMap] at hw
    obtain ⟨cs, hcs, hw⟩ := hw
    obtain ⟨chunks, spans, hcut⟩ := h cs hcs
    obtain ⟨c, hc, hwc⟩ := hcut.mem_chunk hw
    exact ⟨c, (Gather.mem_of_gather hall).mpr ⟨cs, hcs, chunks, hcut.chunked, hc⟩, hwc⟩
  · obtain ⟨chunks, spans, hcut⟩ := h cs hcs
    exact ⟨chunks, spans, hcut.chunked, hcut.emits, hcut.covers⟩

/-- Windows that do not advance leave a longer section out, or raise. -/
theorem not_covered_of_long (hmax : 1 ≤ maxTokens) (hstep : maxTokens ≤ overlap)
    (hlong : ¬ (Py.split cs).length ≤ maxTokens) : ¬ ∃ chunks spans,
      chunkSection maxTokens cs = .ok chunks ∧ Emits (Py.split cs) chunks spans ∧
        Covers (Py.split cs).length spans := by
  rintro ⟨chunks, spans, hchunks, hemits, hcovers⟩
  -- a step of zero raises, and with a negative one there is no window
  have hnone : chunks = [] := by
    rcases hstep.eq_or_lt with heq | hlt
    · have hrange : pyRange (Py.split cs).length (maxTokens - overlap) = .error .valueError := by
        rw [pyRange, if_pos (by omega)]
      simp only [chunkSection, if_neg hlong, hrange] at hchunks
      cases hchunks
    · have hrange : pyRange (Py.split cs).length (maxTokens - overlap) = .ok [] := by
        rw [pyRange, if_neg (by omega), if_pos (by omega)]
      simp only [chunkSection, if_neg hlong, hrange] at hchunks
      exact (Except.ok.inj hchunks).symm
  rw [Emits, hnone] at hemits
  have hspans : spans = [] := List.map_eq_nil_iff.mp hemits.symm
  obtain ⟨a, ha, -⟩ := hcovers.covered 0 (by omega)
  rw [hspans] at ha
  cases ha

/-- **Exactly when nothing is lost**: the windows advance, or there is no section that needs more
than one of them. -/
theorem lossless_iff (hmax : 1 ≤ maxTokens) (text : String) : Lossless text maxTokens ↔
    overlap < maxTokens ∨ ∀ cs ∈ sections text, (Py.split cs).length ≤ maxTokens := by
  constructor
  · intro h
    by_cases hstep : overlap < maxTokens
    · exact .inl hstep
    · refine .inr fun cs hcs => ?_
      by_contra hlong  -- a section that needs more than one window shows that they advance
      exact not_covered_of_long hmax (not_lt.mp hstep) hlong (h.sections cs hcs)
  · intro h
    apply lossless_of_cut
    intro cs hcs
    by_cases hshort : (Py.split cs).length ≤ maxTokens
    · exact cut_of_short hshort
    · have hstep := h.resolve_right fun hall => hshort (hall cs hcs)
      exact (cut_of_long hstep hshort).imp fun chunks hcut => ⟨_, hcut⟩

theorem lossless_iff_two : Lossless "a b" 1 ↔
    overlap < 1 ∨ ∀ cs ∈ sections "a b", (Py.split cs).length ≤ (1 : ℤ) :=
  lossless_iff (by decide) "a b"

/-- Of two words none is left where one is too many. -/
theorem two_words_lost : ¬ Lossless "a b" 1 := by
  intro h
  have hsection : ['a', ' ', 'b'] ∈ sections "a b" := by decide
  exact not_covered_of_long (by decide) (by decide) (by decide) (h.sections _ hsection)

/-! ## Nothing is redundant

A window is redundant if the one before it already reaches the end. That is the case of the last one
where what is left for it is no more than the overlap. -/

/-- Every chunk of a section but the first has a word at a position that the one before it does not
reach. -/
def NoRedundant (text : String) (maxTokens : ℤ) : Prop :=
  ∀ cs ∈ sections text, ∃ chunks spans, chunkSection maxTokens cs = .ok chunks ∧
    spansOf maxTokens cs = .ok spans ∧ Emits (Py.split cs) chunks spans ∧
      spans.IsChain Fresh

/-- One chunk follows no other. -/
theorem fresh_of_short (h : (Py.split cs).length ≤ maxTokens) {spans : List (Nat × Nat)}
    (hspans : spansOf maxTokens cs = .ok spans) : spans.IsChain Fresh := by
  simp only [spansOf, if_pos h] at hspans
  obtain rfl := Except.ok.inj hspans
  split
  · exact .nil
  · exact .singleton _

/-- Of windows only the last can be redundant, and it depends on the remainder. -/
theorem fresh_iff_of_long (h : overlap < maxTokens) (hlong : maxTokens < (Py.split cs).length) :
    (Windows.spans maxTokens.toNat (maxTokens - overlap).toNat (Py.split cs).length).IsChain Fresh ↔
      overlap ≤ ((Py.split cs).length - 1) % (maxTokens - overlap) := by
  generalize (Py.split cs).length = n at hlong ⊢
  unfold overlap at h ⊢
  lift maxTokens to ℕ using by omega
  rw [Windows.isChain_fresh_iff (by omega) (by omega) (by omega)]
  have hstep : ((maxTokens : ℤ) - 100).toNat = maxTokens - 100 := by omega
  have hsize : (maxTokens : ℤ).toNat = maxTokens := rfl
  have hmod : ((n : ℤ) - 1) % (maxTokens - 100) = ((n - 1) % (maxTokens - 100) : ℕ) := by
    rw [Int.natCast_mod, Nat.cast_sub (by omega), Nat.cast_sub (by omega)]
    rfl
  rw [hstep, hsize, hmod]
  omega

/-- **Exactly when no chunk is redundant**: in each section that is cut, the last window has more
words than it shares with the one before. -/
theorem noRedundant_iff (h : overlap < maxTokens) (text : String) : NoRedundant text maxTokens ↔
    ∀ cs ∈ sections text, maxTokens < (Py.split cs).length →
      overlap ≤ ((Py.split cs).length - 1) % (maxTokens - overlap) := by
  refine forall₂_congr fun cs hcs => ?_
  -- one chunk is never redundant, so it is the long sections that count
  by_cases hshort : (Py.split cs).length ≤ maxTokens
  · obtain ⟨chunks, spans, hcut⟩ := cut_of_short hshort
    have hfresh := fresh_of_short hshort hcut.spanned
    constructor
    · exact fun _ hlong => absurd hshort (not_le.mpr hlong)
    · exact fun _ => ⟨chunks, spans, hcut.chunked, hcut.spanned, hcut.emits, hfresh⟩
  · obtain ⟨chunks, hcut⟩ := cut_of_long h hshort
    have hiff := fresh_iff_of_long h (not_le.mp hshort)
    constructor
    · rintro ⟨chunks', spans', -, hspans', -, hfresh⟩ -
      obtain rfl := Except.ok.inj (hcut.spanned.symm.trans hspans')
      exact hiff.mp hfresh
    · exact fun hrest => ⟨chunks, _, hcut.chunked, hcut.spanned, hcut.emits,
        hiff.mpr (hrest (not_le.mp hshort))⟩

/-- One word more than fits a chunk, and the overlap is all but one of the words of a chunk. -/
def oneTooMany : String := joinWords (List.replicate 102 ['a'])

/-- It is its own section, of one word too many. -/
theorem oneTooMany_section : oneTooMany.toList ∈ sections oneTooMany := by
  have hplain : '#' ∉ oneTooMany.toList := by
    rw [oneTooMany, joinWords, String.toList_ofList]
    decide +kernel
  rw [sections, sectionsFrom_of_not_mem hplain]
  exact List.mem_singleton_self _

theorem oneTooMany_words : (Py.split oneTooMany.toList).length = 102 := by
  rw [oneTooMany, joinWords, String.toList_ofList, Py.split_intercalate, List.length_replicate]
  intro w hw
  rw [List.eq_of_mem_replicate hw]
  refine ⟨List.cons_ne_nil _ _, fun c hc => ?_⟩
  rw [List.mem_singleton.mp hc]
  rfl

theorem noRedundant_iff_oneTooMany : NoRedundant oneTooMany 101 ↔
    ∀ cs ∈ sections oneTooMany, (101 : ℤ) < (Py.split cs).length →
      overlap ≤ ((Py.split cs).length - 1) % (101 - overlap) :=
  noRedundant_iff (by decide) oneTooMany

/-- The second chunk ends with the last word, and there are a hundred more of them. -/
theorem oneTooMany_redundant : ¬ NoRedundant oneTooMany 101 := by
  intro h
  have hstep : overlap < 101 := by decide
  have hlong : (101 : ℤ) < (Py.split oneTooMany.toList).length := by
    rw [oneTooMany_words]
    decide
  obtain ⟨-, spans, -, hspans, -, hfresh⟩ := h _ oneTooMany_section
  obtain ⟨chunks, hcut⟩ := cut_of_long hstep (not_le.mpr hlong)
  obtain rfl := Except.ok.inj (hcut.spanned.symm.trans hspans)
  have hrest := (fresh_iff_of_long hstep hlong).mp hfresh
  rw [oneTooMany_words] at hrest
  exact absurd hrest (by decide)

end SreAgent.Rag
