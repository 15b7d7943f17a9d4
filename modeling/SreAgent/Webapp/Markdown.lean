import Mathlib.Data.Bool.AllAny
import Mathlib.Data.List.TakeWhile
import SreAgent.Lib.Weave

/-!
# Rendered chat text

`escapeHtml` and `renderMarkdown` of `static/app.js`: the text is escaped, and three replacements, each
over what the one before left, put tags into it. What a replacement captures may have tags in it, but
never a part of one (`renderMarkdown_inert`).

Escaping comes first, so a `<` in the result is one the replacements put in. The question is whether
a later replacement can break a tag of an earlier one: its marks are of characters that no tag has,
so a match is never within one.
-/

namespace SreAgent.Webapp.Markdown

open Weave (Woven Loose Respects replaceAll)

/-- A JavaScript string, of any 16-bit units. -/
abbrev Text := List UInt16

def unit (c : Char) : UInt16 := .ofNat c.toNat

def lit (s : String) : Text := s.toList.map unit

/-! ## The source

Texts are lists of 16-bit units, as in JavaScript, and need not be Unicode. The three rules are
regular expressions with one capture each, tried from left to right. -/

def entities : List (Text × Text) :=
  [(lit "&", lit "&amp;"), (lit "<", lit "&lt;"), (lit ">", lit "&gt;"), (lit "\"", lit "&quot;"),
   (lit "'", lit "&#39;")]

def escapeUnit (c : UInt16) : Text :=
  ((entities.find? fun entity => entity.1 == [c]).map Prod.snd).getD [c]

def escapeHtml (s : Text) : Text := s.flatMap escapeUnit

/-- White space and line terminators. -/
def isBlank (c : UInt16) : Bool :=
  [9, 10, 11, 12, 13, 32, 0xA0, 0x1680, 0x2028, 0x2029, 0x202F, 0x205F, 0x3000, 0xFEFF].contains c ||
    decide (0x2000 ≤ c ∧ c ≤ 0x200A)

def trim (s : Text) : Text := ((s.dropWhile isBlank).reverse.dropWhile isBlank).reverse

/-- What stands before the first occurrence of a mark. -/
def upTo (mark : Text) : Text → Option Text
  | []      => none
  | c :: cs => if mark.isPrefixOf (c :: cs) then some [] else (upTo mark cs).map (c :: ·)

def fence : Text := lit "```"

/-- The first replacement: a match ends at the first fence behind the one it begins with. -/
def preRule (s : Text) : Option (Text × ℕ) :=
  if fence.isPrefixOf s then
    (upTo fence (s.drop fence.length)).map fun c =>
      (lit "<pre>" ++ trim c ++ lit "</pre>", fence.length + (c.length + fence.length))
  else none

/-- The other two: between two marks stands something, but nothing of a mark. -/
def spanRule (mark opening closing : Text) (s : Text) : Option (Text × ℕ) :=
  if mark.isPrefixOf s then
    let c := (s.drop mark.length).takeWhile fun c => !mark.contains c
    if !c.isEmpty && mark.isPrefixOf ((s.drop mark.length).drop c.length) then
      some (opening ++ c ++ closing, mark.length + (c.length + mark.length))
    else none
  else none

def codeRule : Text → Option (Text × ℕ) := spanRule (lit "`") (lit "<code>") (lit "</code>")

def strongRule : Text → Option (Text × ℕ) := spanRule (lit "**") (lit "<strong>") (lit "</strong>")

def renderMarkdown (text : Text) : Text :=
  let html := escapeHtml text
  let html := replaceAll preRule html
  let html := replaceAll codeRule html
  replaceAll strongRule html

/-! ## Inert text

A text is woven of tags and of plain units. This is the invariant: it holds after escaping, when
there are no tags yet, and each replacement keeps it. -/

/-- The tags that the replacements put in. -/
def tags : List Text :=
  [lit "<pre>", lit "</pre>", lit "<code>", lit "</code>", lit "<strong>", lit "</strong>"]

/-- Every `<` starts one of the tags, and every `>` ends one, so a browser finds no markup in the
result but what the rules have put there. -/
structure Inert (html : Text) : Prop where
  starts : ∀ before after, html = before ++ unit '<' :: after →
    ∃ tag ∈ tags, tag <+: unit '<' :: after
  ends   : ∀ before after, html = before ++ unit '>' :: after →
    ∃ tag ∈ tags, tag <:+ before ++ [unit '>']

def Plain (c : UInt16) : Prop := c ≠ unit '<' ∧ c ≠ unit '>'

instance (c : UInt16) : Decidable (Plain c) := inferInstanceAs (Decidable (_ ∧ _))

theorem Inert.of_woven {html : Text} (h : Woven tags Plain html) : Inert html := by
  constructor
  · rintro before after rfl
    exact h.starts (by decide) (by decide)
  · rintro before after rfl
    exact h.ends (by decide) (by decide)

/-- An escaped unit is plain. -/
theorem escapeUnit_plain (c : UInt16) : ∀ d ∈ escapeUnit c, Plain d := by
  unfold escapeUnit
  cases hfind : entities.find? fun entity => entity.1 == [c] with
  | none =>
      intro d hd
      obtain rfl := List.mem_singleton.mp hd
      -- a unit without an entity is not an angle bracket
      have hother := List.find?_eq_none.mp hfind
      constructor
      · rintro rfl
        exact hother (lit "<", lit "&lt;") (by decide) (by decide)
      · rintro rfl
        exact hother (lit ">", lit "&gt;") (by decide) (by decide)
  | some entity =>
      -- the entities themselves are plain
      have hplain : ∀ d ∈ entities.flatMap Prod.snd, Plain d := List.all_iff_forall_prop.mp (by decide)
      intro d hd
      exact hplain d (List.mem_flatMap.mpr ⟨entity, List.mem_of_find?_eq_some hfind, hd⟩)

/-- The escaped text has no tags in it. -/
theorem escapeHtml_woven (s : Text) : Woven tags Plain (escapeHtml s) := by
  apply Woven.of_plain
  intro d hd
  obtain ⟨c, -, hd⟩ := List.mem_flatMap.mp hd
  exact escapeUnit_plain c d hd

/-! ## The replacements

A match is a capture between two marks. The marks are loose, so cutting at them leaves whole tags,
and what is put around the capture are tags again. -/

/-- What stands before a mark, the mark, and the rest. -/
theorem upTo_eq {mark s c : Text} (h : upTo mark s = some c) : ∃ rest, s = c ++ (mark ++ rest) := by
  induction s generalizing c with
  | nil => cases h
  | cons d s ih =>
      unfold upTo at h
      split at h
      · next hmark =>
        obtain rfl := Option.some.inj h
        obtain ⟨rest, hrest⟩ := List.isPrefixOf_iff_prefix.mp hmark
        exact ⟨rest, hrest.symm⟩
      · obtain ⟨c, hc, rfl⟩ := Option.map_eq_some_iff.mp h
        obtain ⟨rest, rfl⟩ := ih hc
        exact ⟨rest, rfl⟩

/-- A match of both kinds of rule: a capture between two marks. -/
structure Match (mark s c : Text) (n : ℕ) : Prop where
  text   : ∃ rest, s = mark ++ (c ++ (mark ++ rest))
  length : n = mark.length + (c.length + mark.length)

/-- A match of the first rule, and of the other two. -/
theorem preRule_match {s out : Text} {n : ℕ} (h : preRule s = some (out, n)) :
    ∃ c, out = lit "<pre>" ++ trim c ++ lit "</pre>" ∧ Match fence s c n := by
  unfold preRule at h
  split at h
  · next hfence =>
    obtain ⟨c, hc, hout⟩ := Option.map_eq_some_iff.mp h
    obtain ⟨rfl, rfl⟩ := Prod.mk.inj hout
    obtain ⟨s, rfl⟩ := List.isPrefixOf_iff_prefix.mp hfence
    rw [List.drop_left] at hc
    obtain ⟨rest, rfl⟩ := upTo_eq hc
    exact ⟨c, rfl, ⟨rest, rfl⟩, rfl⟩
  · cases h

theorem spanRule_match {mark opening closing s out : Text} {n : ℕ}
    (h : spanRule mark opening closing s = some (out, n)) :
    ∃ c, out = opening ++ c ++ closing ∧ Match mark s c n := by
  unfold spanRule at h
  split at h
  · next hmark =>
    obtain ⟨s, rfl⟩ := List.isPrefixOf_iff_prefix.mp hmark
    rw [List.drop_left] at h
    dsimp only at h
    split at h
    · next hclosed =>
      obtain ⟨rfl, rfl⟩ := Prod.mk.inj (Option.some.inj h)
      rw [Bool.and_eq_true, List.isPrefixOf_iff_prefix] at hclosed
      obtain ⟨rest, hrest⟩ := hclosed.2  -- the rule takes the shortest body, up to the next mark
      refine ⟨_, rfl, ⟨rest, ?_⟩, rfl⟩
      rw [hrest, List.prefix_iff_eq_append.mp (List.takeWhile_prefix _)]
    · cases h
  · cases h

/-- What a match leaves is woven if the text was. -/
theorem Match.pieces {mark s c : Text} {n : ℕ} (h : Match mark s c n) (hmark : mark ≠ [])
    (hloose : ∀ d ∈ mark, Loose tags d) (hs : Woven tags Plain s) :
    Woven tags Plain c ∧ Woven tags Plain (s.drop n) := by
  obtain ⟨⟨rest, rfl⟩, rfl⟩ := h
  obtain ⟨hc, hrest⟩ := hs.between hmark hloose
  refine ⟨hc, ?_⟩
  rwa [← List.drop_drop, List.drop_left, ← List.drop_drop, List.drop_left, List.drop_left]

/-- A rule whose matches are captures between loose marks, and puts tags around these. -/
theorem respects_of_match {rule : Text → Option (Text × ℕ)} {mark opening closing : Text}
    {shown : Text → Text} (hmark : mark ≠ []) (hloose : ∀ d ∈ mark, Loose tags d)
    (hopening : opening ∈ tags) (hclosing : closing ∈ tags)
    (hshown : ∀ c, Woven tags Plain c → Woven tags Plain (shown c))
    (hrule : ∀ {s out n}, rule s = some (out, n) →
      ∃ c, out = opening ++ shown c ++ closing ∧ Match mark s c n) : Respects tags Plain rule := by
  constructor
  · intro s out n h
    obtain ⟨c, -, ⟨rest, rfl⟩, -⟩ := hrule h
    cases mark with  -- what a rule matches starts with a loose unit, so never inside a tag
    | nil => exact absurd rfl hmark
    | cons d mark => exact ⟨d, _, rfl, hloose d (List.mem_cons_self ..)⟩
  · intro s out n h
    obtain ⟨c, -, -, rfl⟩ := hrule h
    exact Nat.add_pos_left (List.length_pos_of_ne_nil hmark) _
  · intro s out n h hs
    obtain ⟨c, rfl, hmatch⟩ := hrule h
    obtain ⟨hc, hrest⟩ := hmatch.pieces hmark hloose hs
    exact ⟨(hshown c hc).wrap hopening hclosing, hrest⟩

/-- Blanks are in no tag. -/
theorem isBlank_loose {c : UInt16} (h : isBlank c = true) : Loose tags c := by
  have hvisible : ∀ d ∈ tags.flatten, isBlank d = false := List.all_iff_forall_prop.mp (by decide)
  intro t ht hc
  rw [hvisible c (List.mem_flatten.mpr ⟨t, ht, hc⟩)] at h
  cases h

/-- No tag is cut by trimming. -/
theorem trim_woven {s : Text} (h : Woven tags Plain s) : Woven tags Plain (trim s) := by
  have hblank : ∀ (cs : Text), ∀ c ∈ cs.takeWhile isBlank, Loose tags c := fun cs c hc =>
    isBlank_loose (List.mem_takeWhile_imp hc)
  rw [← List.takeWhile_append_dropWhile (p := isBlank) (l := s)] at h
  have hfront := Woven.of_loose_append (hblank s) h
  rw [← List.reverse_reverse (s.dropWhile isBlank),
    ← List.takeWhile_append_dropWhile (p := isBlank) (l := (s.dropWhile isBlank).reverse),
    List.reverse_append] at hfront
  apply Woven.of_append_loose _ hfront
  intro c hc
  exact hblank _ c (List.mem_reverse.mp hc)

/-- So all three rules respect the tags: that of fenced text, that of code and that of bold text. -/
theorem preRule_respects : Respects tags Plain preRule :=
  respects_of_match (by decide) (List.all_iff_forall_prop.mp (by decide)) (by decide) (by decide)
    (fun _ => trim_woven) preRule_match

theorem codeRule_respects : Respects tags Plain codeRule :=
  respects_of_match (by decide) (List.all_iff_forall_prop.mp (by decide)) (by decide) (by decide)
    (fun _ => id) spanRule_match

theorem strongRule_respects : Respects tags Plain strongRule :=
  respects_of_match (by decide) (List.all_iff_forall_prop.mp (by decide)) (by decide) (by decide)
    (fun _ => id) spanRule_match

/-- **Rendered text is inert**, whatever the text: every tag in it is one that the three
replacements put there. -/
theorem renderMarkdown_inert (text : Text) : Inert (renderMarkdown text) := by
  have hescaped := escapeHtml_woven text
  have hpre := hescaped.replaceAll preRule_respects
  have hcode := hpre.replaceAll codeRule_respects
  exact .of_woven (hcode.replaceAll strongRule_respects)

end SreAgent.Webapp.Markdown
