import Mathlib.Data.Int.Notation
import Mathlib.Tactic.Linarith
import SreAgent.Errors
import SreAgent.Lib.Gather
import SreAgent.Lib.PyStr

/-!
# Chunking

`chunk_document` of `rag/embed.py`: a text is cut before its markdown headings, and a section of
more than `max_tokens` words is cut again into overlapping windows. The embedding model is a
service; it is a parameter of whatever calls it.

Words and white space are those of `str.split`. The arithmetic of the windows is a library of its
own (`Windows`); this module is the source's loop around it.
-/

namespace SreAgent.Rag

/-- `_MAX_TOKENS`. -/
def maxTokensDefault : ℤ := 800

/-- `_OVERLAP`. -/
def overlap : ℤ := 100

/-! ## Sections

The regular expression is empty: it matches at a place and takes nothing. So the sections, joined
together again, are the text, and a heading stays at the beginning of its section. -/

/-- What `(?=#{1,3}\s)` looks for: one to three `#`, then white space. -/
def startsHeading (cs : List Char) : Bool :=
  let hashes := (cs.takeWhile (· == '#')).length
  1 ≤ hashes && hashes ≤ 3 && (cs.drop hashes).head?.any Py.isSpace

/-- Put `c` in front of the first section. -/
def consChar (c : Char) : List (List Char) → List (List Char)
  | []      => [[c]]
  | s :: ss => (c :: s) :: ss

/-- `re.split(r"(?m)^(?=#{1,3}\s)", text)`. The pattern is empty, so nothing of the text is lost; a
heading at its very beginning leaves an empty first section. -/
def sectionsFrom (lineStart : Bool) : List Char → List (List Char)
  | []      => [[]]
  | c :: cs =>
    let here := consChar c (sectionsFrom (c == '\n') cs)
    if lineStart && startsHeading (c :: cs) then [] :: here else here

def sections (text : String) : List (List Char) := sectionsFrom true text.toList

/-! ## Windows

`range(0, n, step)` is evaluated before any window is made. A step of zero raises, and a negative
one gives no windows at all; neither is checked by the caller. -/

/-- `range(0, n, step)`. -/
def pyRange (n : Nat) (step : ℤ) : Except Exc (List Nat) :=
  if step = 0 then .error .valueError
  else if step < 0 then .ok []
  else
    let s := step.toNat
    .ok ((List.range ((n + s - 1) / s)).map (· * s))

/-- `" ".join(words)`. -/
def joinWords (words : List (List Char)) : String := String.ofList ([' '].intercalate words)

def chunkSection (maxTokens : ℤ) (cs : List Char) : Except Exc (List String) :=
  let words := Py.split cs
  if words.length ≤ maxTokens then
    .ok (if (Py.strip cs).isEmpty then [] else [String.ofList (Py.strip cs)])
  else do
    let starts ← pyRange words.length (maxTokens - overlap)
    pure (starts.map fun i => joinWords ((words.drop i).take maxTokens.toNat))

/-- `chunk_document`: the chunks of all sections, in their order. -/
def chunkDocument (text : String) (maxTokens : ℤ) : Except Exc (List String) := do
  let chunks ← (sections text).mapM (chunkSection maxTokens)
  pure chunks.flatten

/-- Only a step of zero raises, so a section is chunked unless its windows do not advance. -/
theorem pyRange_ok {step : ℤ} (h : step ≠ 0) (n : Nat) : ∃ starts, pyRange n step = .ok starts := by
  unfold pyRange
  rw [if_neg h]
  split
  · exact ⟨_, rfl⟩
  · exact ⟨_, rfl⟩

theorem chunkSection_ok {maxTokens : ℤ} (h : maxTokens ≠ overlap) (cs : List Char) :
    ∃ chunks, chunkSection maxTokens cs = .ok chunks := by
  unfold chunkSection
  dsimp only
  split
  · exact ⟨_, rfl⟩
  · obtain ⟨starts, hstarts⟩ := pyRange_ok (sub_ne_zero.mpr h) (Py.split cs).length
    rw [hstarts]
    exact ⟨_, rfl⟩

/-- The loop over the sections gathers what each of them gives. -/
theorem chunkDocument_eq (text : String) (maxTokens : ℤ) :
    chunkDocument text maxTokens = Gather.gather (chunkSection maxTokens) (sections text) := rfl

/-- Chunking only raises where a section is cut into windows that do not advance. -/
theorem chunkDocument_ok {maxTokens : ℤ} (h : maxTokens ≠ overlap) (text : String) :
    ∃ chunks, chunkDocument text maxTokens = .ok chunks := by
  rw [chunkDocument_eq, Gather.gather_ok_iff]
  exact fun cs _ => chunkSection_ok h cs

end SreAgent.Rag
