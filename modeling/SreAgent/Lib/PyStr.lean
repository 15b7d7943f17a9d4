import Mathlib.Data.List.Dedup
import Mathlib.Data.List.Infix
import Mathlib.Data.List.TakeWhile

/-!
# Python's `str`

The string methods a shallow embedding of Python code meets, on Lean's `String`. Everything is
computed on the list of code points, so that the lemmas are the ones about lists.

Case mapping: `lower` maps ASCII, Latin-1, Greek and Cyrillic capitals, and the three code points
outside those blocks that Python lowers to or through a basic Latin letter (the Kelvin sign, the
Angstrom sign, dotted capital I). Other scripts are left alone: their small letters are outside
ASCII as well, so no search for ASCII text can tell the difference.
-/

namespace Py

/-! ## Character classes

The tables are those of the Unicode version that the interpreter ships. Only facts about ASCII are
proved of them: a letter or digit is no white space, and a digit is decimal. -/

/-- `str.isspace` of one code point. -/
def isSpace (c : Char) : Bool :=
  (9 ≤ c.toNat && c.toNat ≤ 13) || (28 ≤ c.toNat && c.toNat ≤ 32) ||
  [0x85, 0xA0, 0x1680, 0x2028, 0x2029, 0x202F, 0x205F, 0x3000].contains c.toNat ||
  (0x2000 ≤ c.toNat && c.toNat ≤ 0x200A)

/-- The zeros of the decimal digit blocks of Unicode. -/
def decimalZeros : List Nat :=
  [0x30, 0x660, 0x6F0, 0x7C0, 0x966, 0x9E6, 0xA66, 0xAE6, 0xB66, 0xBE6, 0xC66, 0xCE6, 0xD66,
   0xDE6, 0xE50, 0xED0, 0xF20, 0x1040, 0x1090, 0x17E0, 0x1810, 0x1946, 0x19D0, 0x1A80, 0x1A90,
   0x1B50, 0x1BB0, 0x1C40, 0x1C50, 0xA620, 0xA8D0, 0xA900, 0xA9D0, 0xA9F0, 0xAA50, 0xABF0,
   0xFF10, 0x104A0, 0x10D30, 0x11066, 0x110F0, 0x11136, 0x111D0, 0x112F0, 0x11450, 0x114D0,
   0x11650, 0x116C0, 0x11730, 0x118E0, 0x11950, 0x11C50, 0x11D50, 0x11DA0, 0x11F50, 0x16A60,
   0x16AC0, 0x16B50, 0x1D7CE, 0x1D7D8, 0x1D7E2, 0x1D7EC, 0x1D7F6, 0x1E140, 0x1E2F0, 0x1E4F0,
   0x1E950, 0x1FBF0]

/-- What `\d` matches in a `str` pattern. -/
def isDecimal (c : Char) : Bool :=
  decimalZeros.any fun z => z ≤ c.toNat && c.toNat ≤ z + 9

/-- The value of a decimal digit. -/
def decimalValue (c : Char) : Option Nat :=
  (decimalZeros.find? fun z => z ≤ c.toNat && c.toNat ≤ z + 9).map (c.toNat - ·)

/-- `[a-z0-9]`. -/
def isLowerAlnum (c : Char) : Bool := ('a' ≤ c && c ≤ 'z') || ('0' ≤ c && c ≤ '9')

/-- What a slug is made of is never stripped. -/
theorem isSpace_of_isLowerAlnum {c : Char} (h : isLowerAlnum c = true) : isSpace c = false := by
  have hrange : (97 ≤ c.toNat ∧ c.toNat ≤ 122) ∨ (48 ≤ c.toNat ∧ c.toNat ≤ 57) := by
    simpa [isLowerAlnum, Char.le_def, UInt32.le_iff_toNat_le] using h
  have hother : c.toNat ∉ [0x85, 0xA0, 0x1680, 0x2028, 0x2029, 0x202F, 0x205F, 0x3000] := by
    simp only [List.mem_cons, List.not_mem_nil, or_false]
    omega
  simp only [isSpace, List.contains_eq_mem, hother, decide_false, Bool.or_false,
    Bool.or_eq_false_iff, Bool.and_eq_false_iff, decide_eq_false_iff_not]
  omega

/-- A digit may stand in a slug. -/
theorem isLowerAlnum_of_isDigit {c : Char} (h : c.isDigit = true) : isLowerAlnum c = true := by
  rw [isLowerAlnum, Bool.or_eq_true]
  exact .inr (by simpa [Char.isDigit, Char.le_def] using h)

/-- The ASCII digits are the first block of decimal digits. -/
theorem isDecimal_of_isDigit {c : Char} (h : c.isDigit = true) : isDecimal c = true := by
  have hrange : 48 ≤ c.toNat ∧ c.toNat ≤ 57 := by
    simpa [Char.isDigit, UInt32.le_iff_toNat_le] using h
  have hzero : 0x30 ∈ decimalZeros := by decide
  apply List.any_eq_true.mpr ⟨0x30, hzero, _⟩
  simpa using hrange

/-! ## Searching

A text contains another one if that is a contiguous part of it. The searches of the source are then
statements about `<:+:`, of which the core library has the laws. -/

/-- `sub in s`. -/
def contains (s sub : String) : Bool := decide (sub.toList <:+: s.toList)

/-- `contains` decides the infix relation. -/
theorem contains_eq_true {s w : String} : contains s w = true ↔ w.toList <:+: s.toList :=
  decide_eq_true_iff

/-- What is in a part is in the whole. -/
theorem contains_trans {s w v : String} (hw : contains s w = true) (hv : contains w v = true) :
    contains s v = true := by
  rw [contains_eq_true] at *
  exact hv.trans hw

/-- `any(p in s for p in phrases)`. -/
def containsAny (s : String) (phrases : List String) : Bool := phrases.any (contains s)

/-- `s.startswith(pre)`. -/
def startsWith (s pre : String) : Bool := pre.toList.isPrefixOf s.toList

@[simp] theorem startsWith_eq_true {s pre : String} :
    startsWith s pre = true ↔ pre.toList <+: s.toList := by simp [startsWith]

/-- A text begins with what was put in front. -/
theorem startsWith_append (pre s : String) : startsWith (pre ++ s) pre = true := by
  rw [startsWith_eq_true, String.toList_append]
  exact List.prefix_append _ _

/-! ## Case

A character may be lowered to two, so `lower` is a `flatMap`. A search in lower case for a phrase of
small ASCII letters cannot be met by anything that this table leaves out. -/

def lowerChar (c : Char) : List Char :=
  let n := c.toNat
  if 0x41 ≤ n && n ≤ 0x5A then [Char.ofNat (n + 32)]
  else if n < 0x80 then [c]
  else if (0xC0 ≤ n && n ≤ 0xDE) && n != 0xD7 then [Char.ofNat (n + 32)]
  else if (0x391 ≤ n && n ≤ 0x3A9) && n != 0x3A2 then [Char.ofNat (n + 32)]
  else if 0x410 ≤ n && n ≤ 0x42F then [Char.ofNat (n + 32)]
  else if 0x400 ≤ n && n ≤ 0x40F then [Char.ofNat (n + 80)]
  else if n == 0x212A then ['k']
  else if n == 0x212B then [Char.ofNat 0xE5]
  else if n == 0x130 then ['i', Char.ofNat 0x307]
  else [c]

/-- `s.lower()`. -/
def lower (s : String) : String := String.ofList (s.toList.flatMap lowerChar)

/-! ## Cutting and joining

Three questions come up again and again: what is left of a text that was joined and split again,
where a word can be found in a joined text, and what stripping takes away. The first has a clean
answer where no part contains the separator. The second has one in general: a word lies in one part,
or it is cut by a separator (`Straddles`), and a word without the separator is never cut. -/

/-- `s[:n]`. -/
def slice (s : String) (n : Nat) : String := String.ofList (s.toList.take n)

/-- `sep.join(parts)`. -/
def join (sep : String) (parts : List String) : String :=
  String.ofList (sep.toList.intercalate (parts.map String.toList))

/-- `s.split(c)`, for one character `c`: there is always at least one part. -/
def splitOn (c : Char) : List Char → List (List Char)
  | []      => [[]]
  | a :: as =>
    if a = c then [] :: splitOn c as
    else match splitOn c as with
      | []      => [[a]]
      | w :: ws => (a :: w) :: ws

/-- Without the separator there is one part. -/
theorem splitOn_of_notMem {c : Char} {cs : List Char} (h : c ∉ cs) : splitOn c cs = [cs] := by
  induction cs with
  | nil => rfl
  | cons a as ih =>
      obtain ⟨hne, has⟩ := List.ne_and_not_mem_of_not_mem_cons h
      simp [splitOn, Ne.symm hne, ih has]

/-- There is always a part, if only the empty one. -/
theorem splitOn_ne_nil (c : Char) (cs : List Char) : splitOn c cs ≠ [] := by
  cases cs with
  | nil => simp [splitOn]
  | cons a as =>
      unfold splitOn
      split
      · simp
      · split <;> simp

/-- A separator ends a part. -/
theorem splitOn_append_sep (c : Char) (w cs : List Char) :
    splitOn c (w ++ c :: cs) = splitOn c w ++ splitOn c cs := by
  induction w with
  | nil => simp [splitOn]
  | cons a as ih =>
      by_cases ha : a = c
      · simp [splitOn, ha, ih]
      · obtain ⟨v, vs, hv⟩ := List.exists_cons_of_ne_nil (splitOn_ne_nil c as)
        simp [splitOn, ha, ih, hv]

/-- **Joining and splitting again** splits every part, and nothing else: the separators that were
put in are found again. -/
theorem splitOn_intercalate_flatMap (c : Char) {parts : List (List Char)} (hne : parts ≠ []) :
    splitOn c ([c].intercalate parts) = parts.flatMap (splitOn c) := by
  induction parts with
  | nil => exact absurd rfl hne
  | cons w ws ih =>
      cases ws with
      | nil => simp
      | cons w' ws =>
          rw [List.intercalate_cons_cons, List.append_assoc, List.singleton_append,
            splitOn_append_sep, ih (List.cons_ne_nil _ _)]
          rfl

/-- No part contains the separator. -/
theorem notMem_of_mem_splitOn {c : Char} {w cs : List Char} (h : w ∈ splitOn c cs) : c ∉ w := by
  induction cs generalizing w with
  | nil =>
      rw [splitOn, List.mem_singleton] at h
      simp [h]
  | cons a as ih =>
      obtain ⟨v, vs, hv⟩ := List.exists_cons_of_ne_nil (splitOn_ne_nil c as)
      rw [hv] at ih
      by_cases ha : a = c  -- a separator ends the part in front, another character goes into it
      · rw [splitOn, if_pos ha, hv] at h
        rcases List.mem_cons.mp h with rfl | h
        · simp
        · exact ih h
      · rw [splitOn, if_neg ha, hv] at h
        rcases List.mem_cons.mp h with rfl | h
        · have hfirst : c ∉ v := ih (List.mem_cons_self ..)
          simp [Ne.symm ha, hfirst]
        · exact ih (List.mem_cons_of_mem _ h)

/-- **Splitting undoes joining**, as long as no part contains the separator. -/
theorem splitOn_intercalate {c : Char} {parts : List (List Char)} (hne : parts ≠ [])
    (h : ∀ w ∈ parts, c ∉ w) : splitOn c ([c].intercalate parts) = parts := by
  have hwhole : ∀ w ∈ parts, splitOn c w = [w] := fun w hw => splitOn_of_notMem (h w hw)
  rw [splitOn_intercalate_flatMap c hne, List.flatMap_congr hwhole, List.flatMap_singleton']

/-- Joining by two characters is joining by the first one, the second one put in front of all parts
but the first. -/
theorem intercalate_pair (a b : Char) (w : List Char) (ws : List (List Char)) :
    [a, b].intercalate (w :: ws) = [a].intercalate (w :: ws.map (b :: ·)) := by
  induction ws generalizing w with
  | nil => rfl
  | cons v vs ih =>
      have hfront : [a].intercalate ((b :: v) :: vs.map (b :: ·)) =
          b :: [a].intercalate (v :: vs.map (b :: ·)) := by
        cases vs <;> simp
      rw [List.intercalate_cons_cons, ih, List.map_cons, List.intercalate_cons_cons, hfront]
      simp

/-- **`", ".join` loses nothing** about parts without commas, as long as there are some. -/
theorem join_comma_inj {parts parts' : List String} (hne : parts ≠ []) (hne' : parts' ≠ [])
    (h : ∀ s ∈ parts, ',' ∉ s.toList) (h' : ∀ s ∈ parts', ',' ∉ s.toList)
    (heq : join ", " parts = join ", " parts') : parts = parts' := by
  -- splitting at the commas gives the parts back, each but the first with a blank in front
  have hsplit : ∀ {s : String} {ss : List String}, (∀ t ∈ s :: ss, ',' ∉ t.toList) →
      splitOn ',' (join ", " (s :: ss)).toList =
        s.toList :: ss.map fun t => ' ' :: t.toList := by
    intro s ss hs
    have htext : (join ", " (s :: ss)).toList =
        [','].intercalate (s.toList :: ss.map fun t => ' ' :: t.toList) := by
      have hsep : ", ".toList = [',', ' '] := rfl
      rw [join, String.toList_ofList, hsep, List.map_cons, intercalate_pair, List.map_map]
      rfl
    rw [htext]
    apply splitOn_intercalate (by simp)
    intro w hw
    rcases List.mem_cons.mp hw with rfl | hw
    · exact hs s (List.mem_cons_self ..)
    · obtain ⟨t, ht, rfl⟩ := List.mem_map.mp hw
      simpa using hs t (List.mem_cons_of_mem _ ht)
  obtain ⟨s, ss, rfl⟩ := List.exists_cons_of_ne_nil hne
  obtain ⟨t, ts, rfl⟩ := List.exists_cons_of_ne_nil hne'
  have hparts := (hsplit h).symm.trans ((congrArg (fun x => splitOn ',' x.toList) heq).trans (hsplit h'))
  obtain ⟨hhead, htail⟩ := List.cons.inj hparts
  have hinj : Function.Injective fun t : String => ' ' :: t.toList := fun a b hab =>
    String.toList_inj.mp (List.cons.inj hab).2
  rw [String.toList_inj.mp hhead, List.map_injective_iff.mpr hinj htail]

/-- Of two places in a text the first one is the second, behind it or before it. -/
theorem place_cases {x y u v : List Char} {c d : Char} (h : x ++ c :: y = u ++ d :: v) :
    (x = u ∧ c = d ∧ y = v) ∨ (∃ w, x = u ++ d :: w ∧ v = w ++ c :: y) ∨
      ∃ w, u = x ++ c :: w ∧ y = w ++ d :: v := by
  -- one of the two texts in front is the longer one; what it has more is `w`
  rcases List.append_eq_append_iff.mp h with ⟨w, rfl, hw⟩ | ⟨w, rfl, hw⟩
  · cases w with
    | nil =>
        obtain ⟨rfl, rfl⟩ := List.cons.inj hw
        exact .inl ⟨(List.append_nil _).symm, rfl, rfl⟩
    | cons a w =>
        obtain ⟨rfl, rfl⟩ := List.cons.inj hw
        exact .inr (.inr ⟨w, rfl, rfl⟩)
  · cases w with
    | nil =>
        obtain ⟨rfl, rfl⟩ := List.cons.inj hw
        exact .inl ⟨List.append_nil _, rfl, rfl⟩
    | cons a w =>
        obtain ⟨rfl, rfl⟩ := List.cons.inj hw
        exact .inr (.inl ⟨w, rfl, rfl⟩)

/-- Nothing is in front of the first place. -/
theorem place_of_notMem {x y u v : List Char} {d : Char} (hd : d ∉ x)
    (h : x ++ d :: y = u ++ d :: v) :
    (u = x ∧ v = y) ∨ ∃ w, u = x ++ d :: w ∧ y = w ++ d :: v := by
  rcases place_cases h with ⟨hu, -, hv⟩ | ⟨w, rfl, -⟩ | hbehind
  · exact .inl ⟨hu.symm, hv.symm⟩
  · exact absurd (by simp) hd
  · exact .inr hbehind

/-- A word does not reach back over a separator. -/
theorem suffix_append_sep_iff {w x y : List Char} {d : Char} (hd : d ∉ w) :
    w <:+ x ++ d :: y ↔ w <:+ y := by
  constructor
  · rintro ⟨before, heq⟩
    rcases List.append_eq_append_iff.mp heq with ⟨cut, -, rfl⟩ | ⟨rest, -, hrest⟩
    · exact absurd (by simp) hd
    · cases rest with
      | nil =>
          obtain rfl : d :: y = w := hrest
          exact absurd List.mem_cons_self hd
      | cons c rest => exact ⟨rest, (List.cons.inj hrest).2.symm⟩
  · intro h
    exact (h.trans (List.suffix_cons d y)).trans (List.suffix_append x _)

/-- `w` is cut by a separator: its beginning ends one part, its rest begins the parts behind that
one. -/
def Straddles (c : Char) (w : List Char) (parts : List (List Char)) : Prop :=
  ∃ before part after u v, parts = before ++ part :: after ∧ after ≠ [] ∧ w = u ++ c :: v ∧
    u <:+ part ∧ v <+: [c].intercalate after

/-- One part alone has no separator to be cut by. -/
theorem not_straddles_singleton (c : Char) (w part : List Char) : ¬ Straddles c w [part] := by
  rintro ⟨before, part', after, u, v, heq, hafter, -⟩
  cases before with
  | nil => exact hafter (List.cons.inj heq).2.symm
  | cons b before => simp at heq

/-- Among more parts a word straddles the first separator or a later one. -/
theorem straddles_cons {c : Char} {w part : List Char} {parts : List (List Char)} (hne : parts ≠ []) :
    Straddles c w (part :: parts) ↔
      (∃ u v, w = u ++ c :: v ∧ u <:+ part ∧ v <+: [c].intercalate parts) ∨
        Straddles c w parts := by
  constructor
  · rintro ⟨before, part', after, u, v, heq, hafter, hw, hu, hv⟩
    cases before with  -- the word begins in the first part, or in a later one
    | nil =>
        obtain ⟨rfl, rfl⟩ := List.cons.inj heq
        exact .inl ⟨u, v, hw, hu, hv⟩
    | cons b before =>
        obtain ⟨rfl, rfl⟩ := List.cons.inj heq
        exact .inr ⟨before, part', after, u, v, rfl, hafter, hw, hu, hv⟩
  · rintro (⟨u, v, hw, hu, hv⟩ | ⟨before, part', after, u, v, rfl, hafter, hw, hu, hv⟩)
    · exact ⟨[], part, parts, u, v, rfl, hne, hw, hu, hv⟩
    · exact ⟨part :: before, part', after, u, v, rfl, hafter, hw, hu, hv⟩

/-- **A word in a joined text** is in a part, or is cut by a separator. -/
theorem infix_intercalate_iff {c : Char} {w : List Char} (hne : w ≠ []) (parts : List (List Char)) :
    w <:+: [c].intercalate parts ↔ (∃ p ∈ parts, w <:+: p) ∨ Straddles c w parts := by
  induction parts with
  | nil =>
      have hnone : ¬ Straddles c w [] := by
        rintro ⟨before, part, after, u, v, heq, -⟩
        cases before <;> cases heq
      simpa [hnone] using hne
  | cons p ps ih =>
      cases ps with
      | nil => simp [not_straddles_singleton]
      | cons p' ps =>
          have hmem : (∃ q ∈ p :: p' :: ps, w <:+: q) ↔ w <:+: p ∨ ∃ q ∈ p' :: ps, w <:+: q :=
            List.exists_mem_cons_iff ..
          rw [List.intercalate_cons_cons, List.append_assoc, List.singleton_append,
            List.infix_append_iff, List.infix_cons_iff, ih, straddles_cons (List.cons_ne_nil p' ps),
            hmem]
          generalize [c].intercalate (p' :: ps) = rest
          constructor
          · rintro (hp | (hfront | hlater | hcut) | ⟨u, v, rfl, hu, hv⟩)
            · exact .inl (.inl hp)
            · cases w with
              | nil => exact absurd rfl hne
              | cons d w =>
                  obtain ⟨rfl, hw⟩ := List.cons_prefix_cons.mp hfront
                  exact .inr (.inl ⟨[], w, rfl, List.nil_suffix, hw⟩)
            · exact .inl (.inr hlater)
            · exact .inr (.inr hcut)
            · -- the part behind `u` is empty, or begins with the separator
              cases v with
              | nil => exact .inl (.inl (by simpa using hu.isInfix))
              | cons d v =>
                  obtain ⟨rfl, hrest⟩ := List.cons_prefix_cons.mp hv
                  exact .inr (.inl ⟨u, v, rfl, hu, hrest⟩)
          · rintro ((hp | hlater) | ⟨u, v, rfl, hu, hv⟩ | hcut)
            · exact .inl hp
            · exact .inr (.inl (.inr (.inl hlater)))
            · exact .inr (.inr ⟨u, c :: v, rfl, hu, List.cons_prefix_cons.mpr ⟨rfl, hv⟩⟩)
            · exact .inr (.inl (.inr (.inr hcut)))

/-- Without the separator it cannot be cut. -/
theorem infix_intercalate {c : Char} {w : List Char} (hne : w ≠ []) (hc : c ∉ w)
    (parts : List (List Char)) : w <:+: [c].intercalate parts ↔ ∃ p ∈ parts, w <:+: p := by
  rw [infix_intercalate_iff hne]
  apply or_iff_left
  rintro ⟨before, part, after, u, v, -, -, rfl, -⟩
  exact hc (by simp)

/-- A character of a joined text is the separator, or in a part. -/
theorem mem_of_mem_intercalate {c d : Char} {parts : List (List Char)}
    (h : d ∈ [c].intercalate parts) : d = c ∨ ∃ w ∈ parts, d ∈ w := by
  induction parts with
  | nil => cases h
  | cons w ws ih =>
      cases ws with
      | nil => exact .inr ⟨w, List.mem_cons_self, by simpa using h⟩
      | cons w' ws =>  -- a character of the first part, the separator, or one of the rest
          rw [List.intercalate_cons_cons, List.append_assoc, List.singleton_append, List.mem_append,
            List.mem_cons] at h
          rcases h with hw | heq | hrest
          · exact .inr ⟨w, List.mem_cons_self, hw⟩
          · exact .inl heq
          · apply (ih hrest).imp_right
            rintro ⟨v, hv, hd⟩
            exact ⟨v, List.mem_cons_of_mem _ hv, hd⟩

/-- A joined text begins as its first part does. -/
theorem head?_intercalate (c : Char) {w : List Char} (hne : w ≠ []) (ws : List (List Char)) :
    ([c].intercalate (w :: ws)).head? = w.head? := by
  cases ws with
  | nil => rw [List.intercalate_singleton]
  | cons w' ws =>
      rw [List.intercalate_cons_cons, List.append_assoc, List.head?_append_of_ne_nil _ hne]

/-- It ends as its last part does. -/
theorem getLast?_intercalate (c : Char) {parts : List (List Char)} {w : List Char} (hne : w ≠ [])
    (hlast : parts.getLast? = some w) : ([c].intercalate parts).getLast? = w.getLast? := by
  induction parts with
  | nil => cases hlast
  | cons v vs ih =>
      cases vs with
      | nil =>
          have heq : v = w := Option.some.inj hlast
          rw [List.intercalate_singleton, heq]
      | cons v' vs =>
          rw [List.getLast?_cons_cons] at hlast
          rw [List.intercalate_cons_cons, List.getLast?_append, ih hlast,
            List.getLast?_eq_some_getLast hne]
          rfl

/-- What is done to single characters and leaves the separator alone is done to the parts. -/
theorem flatMap_intercalate {c : Char} {f : Char → List Char} (hf : f c = [c])
    (parts : List (List Char)) :
    ([c].intercalate parts).flatMap f = [c].intercalate (parts.map fun p => p.flatMap f) := by
  induction parts with
  | nil => rfl
  | cons p ps ih =>
      cases ps with
      | nil => simp
      | cons p' ps =>
          rw [List.map_cons, List.map_cons, List.intercalate_cons_cons, List.intercalate_cons_cons,
            List.flatMap_append, List.flatMap_append, ih, List.map_cons, List.flatMap_singleton, hf]

/-- A phrase cut by the blank between two lines, as they read in lower case. -/
def SplitOver (w : String) (lines : List String) : Prop :=
  Straddles ' ' w.toList (lines.map fun line => (lower line).toList)

/-- Lowering goes through to the lines, since a blank is left alone. -/
theorem lower_join_toList (parts : List String) :
    (lower (join " " parts)).toList = [' '].intercalate (parts.map fun p => (lower p).toList) := by
  have hsep : " ".toList = [' '] := rfl
  rw [lower, join, String.toList_ofList, String.toList_ofList, hsep, flatMap_intercalate (by decide),
    List.map_map]
  congr 1
  apply List.map_congr_left
  intro p _
  exact String.toList_ofList.symm

/-- **A phrase in `" ".join(lines).lower()`** is in a line, or split over lines. -/
theorem contains_lower_join_iff {w : String} (hne : w ≠ "") (lines : List String) :
    contains (lower (join " " lines)) w = true ↔
      (∃ line ∈ lines, contains (lower line) w = true) ∨ SplitOver w lines := by
  have hnil : w.toList ≠ [] := by simpa using hne
  rw [contains, decide_eq_true_eq, lower_join_toList, infix_intercalate_iff hnil, SplitOver]
  simp [contains]

/-- A word without blanks is in `" ".join(parts).lower()` if it is in a part, and so in any order of
the parts. -/
theorem contains_lower_join {w : String} (hne : w ≠ "") (hblank : ' ' ∉ w.toList)
    (parts : List String) :
    contains (lower (join " " parts)) w = parts.any fun p => contains (lower p) w := by
  have hnil : w.toList ≠ [] := by simpa using hne
  rw [Bool.eq_iff_iff, List.any_eq_true, contains, decide_eq_true_eq, lower_join_toList,
    infix_intercalate hnil hblank]
  simp [contains]

/-- `s.replace(c, new)`, for one character `c`. -/
def replace (c : Char) (new : List Char) (cs : List Char) : List Char :=
  cs.flatMap fun a => if a = c then new else [a]

/-- Nothing is replaced where there is nothing to replace. -/
theorem replace_of_notMem {c : Char} {cs : List Char} (h : c ∉ cs) (new : List Char) :
    replace c new cs = cs := by
  induction cs with
  | nil => rfl
  | cons a as ih =>
      obtain ⟨hne, has⟩ := List.ne_and_not_mem_of_not_mem_cons h
      show (if a = c then new else [a]) ++ replace c new as = a :: as
      rw [if_neg (Ne.symm hne), ih has]
      rfl

/-- `s.strip()`. -/
def strip (cs : List Char) : List Char :=
  ((cs.dropWhile isSpace).reverse.dropWhile isSpace).reverse

/-- Dropping blanks in front takes away no visible character. -/
theorem filter_dropWhile_space (cs : List Char) :
    (cs.dropWhile isSpace).filter (fun c => !isSpace c) = cs.filter fun c => !isSpace c := by
  induction cs with
  | nil => rfl
  | cons c cs ih =>
      cases hc : isSpace c with
      | true => simp [hc, ih]
      | false => simp [hc]

/-- Stripping takes away no visible character. -/
theorem filter_strip (cs : List Char) :
    (strip cs).filter (fun c => !isSpace c) = cs.filter fun c => !isSpace c := by
  rw [strip, List.filter_reverse, filter_dropWhile_space, ← List.filter_reverse,
    List.reverse_reverse, filter_dropWhile_space]

/-- **Text in front** is stripped away exactly if it is blank. -/
theorem strip_append_eq_iff (cs ds : List Char) :
    strip (cs ++ ds) = strip ds ↔ ∀ c ∈ cs, isSpace c = true := by
  constructor
  · intro h c hc
    -- compare the visible characters: the text in front adds none
    have hvisible := congrArg (List.filter fun c => !isSpace c) h
    rw [filter_strip, filter_strip, List.filter_append, List.append_left_eq_self,
      List.filter_eq_nil_iff] at hvisible
    simpa using hvisible c hc
  · intro h
    rw [strip, strip, List.dropWhile_append_of_pos h]

/-- `s.rstrip(c)`. -/
def rstrip (c : Char) (cs : List Char) : List Char := (cs.reverse.dropWhile (· == c)).reverse

/-- A character at the end is stripped if it is the one. -/
theorem rstrip_concat (c d : Char) (cs : List Char) :
    rstrip c (cs ++ [d]) = if d = c then rstrip c cs else cs ++ [d] := by
  rw [rstrip, List.reverse_concat, List.dropWhile_cons]
  by_cases hd : d = c
  · rw [if_pos (beq_iff_eq.mpr hd), if_pos hd]
    rfl
  · rw [if_neg (by simpa using hd), if_neg hd, List.reverse_cons, List.reverse_reverse]

/-- The words seen so far, newest first, and the word being read, backwards. -/
def splitStep : List (List Char) × List Char → Char → List (List Char) × List Char
  | (words, cur), c =>
    if isSpace c then (if cur.isEmpty then (words, []) else (cur.reverse :: words, []))
    else (words, c :: cur)

/-- `s.split()`: the maximal runs without white space. -/
def split (cs : List Char) : List (List Char) :=
  let (words, cur) := cs.foldl splitStep ([], [])
  (if cur.isEmpty then words else cur.reverse :: words).reverse

/-- The words of `cs`, `cur` being what is read of the first one, backwards. -/
def splitFrom (cur : List Char) : List Char → List (List Char)
  | []      => if cur.isEmpty then [] else [cur.reverse]
  | c :: cs =>
    if isSpace c then (if cur.isEmpty then [] else [cur.reverse]) ++ splitFrom [] cs
    else splitFrom (c :: cur) cs

def finishSplit (state : List (List Char) × List Char) : List (List Char) :=
  (if state.2.isEmpty then state.1 else state.2.reverse :: state.1).reverse

/-- The loop of `split` computes `splitFrom`: the words it has are those in front. -/
theorem finishSplit_foldl (words : List (List Char)) (cur cs : List Char) :
    finishSplit (cs.foldl splitStep (words, cur)) = words.reverse ++ splitFrom cur cs := by
  induction cs generalizing words cur with
  | nil => cases cur <;> simp [finishSplit, splitFrom]
  | cons c cs ih =>
      rw [List.foldl_cons]
      cases hc : isSpace c with
      | false =>
          rw [splitStep, hc, if_neg Bool.false_ne_true, ih, splitFrom, hc,
            if_neg Bool.false_ne_true]
      | true =>  -- a blank ends the word, if there is one
          rw [splitStep, hc, if_pos rfl, splitFrom, hc, if_pos rfl]
          cases cur with
          | nil => exact ih words []
          | cons a cur =>
              refine (ih ((a :: cur).reverse :: words) []).trans ?_
              rw [List.reverse_cons, List.append_assoc]
              rfl

/-- `split` without its accumulator. -/
theorem split_eq (cs : List Char) : split cs = splitFrom [] cs := finishSplit_foldl [] [] cs

/-- A space ends the first part. -/
theorem splitFrom_append_space {c : Char} (hc : isSpace c = true) (cur as bs : List Char) :
    splitFrom cur (as ++ c :: bs) = splitFrom cur as ++ split bs := by
  induction as generalizing cur with
  | nil => simp only [List.nil_append, splitFrom, hc, if_true, split_eq]
  | cons a as ih =>
      rw [List.cons_append, splitFrom, splitFrom]
      split
      · rw [ih, List.append_assoc]
      · rw [ih]

/-- A character that is no space goes to the word being read. -/
theorem splitFrom_word {w : List Char} (hw : ∀ c ∈ w, isSpace c = false) (cur cs : List Char) :
    splitFrom cur (w ++ cs) = splitFrom (w.reverse ++ cur) cs := by
  induction w generalizing cur with
  | nil => rfl
  | cons c w ih =>
      have hc : isSpace c = false := hw c List.mem_cons_self
      rw [List.cons_append, splitFrom, hc, if_neg Bool.false_ne_true,
        ih fun d hd => hw d (List.mem_cons_of_mem _ hd), List.reverse_cons, List.append_assoc]
      rfl

/-- A run of characters without white space. -/
def IsWord (w : List Char) : Prop := w ≠ [] ∧ ∀ c ∈ w, isSpace c = false

/-- A word is split into itself. -/
theorem split_word {w : List Char} (h : IsWord w) : split w = [w] := by
  have hscan := splitFrom_word h.2 [] []
  rw [List.append_nil, List.append_nil] at hscan
  rw [split_eq, hscan, splitFrom, List.reverse_reverse, if_neg]
  rw [List.isEmpty_reverse, List.isEmpty_iff]
  exact h.1

/-- **Splitting undoes joining words**, which have no blank in them and are not empty. -/
theorem split_intercalate {ws : List (List Char)} (h : ∀ w ∈ ws, IsWord w) :
    split ([' '].intercalate ws) = ws := by
  induction ws with
  | nil => rfl
  | cons w ws ih =>
      have hw : split w = [w] := split_word (h w List.mem_cons_self)
      have hrest := ih fun v hv => h v (List.mem_cons_of_mem _ hv)
      cases ws with
      | nil => simpa using hw
      | cons v vs =>
          rw [List.intercalate_cons_cons, List.append_assoc, List.singleton_append, split_eq,
            splitFrom_append_space rfl, ← split_eq, hw, hrest]
          rfl

/-- **What is split off are words**, whatever the text: no blank is in them, and none is empty. -/
theorem isWord_of_mem_split {w cs : List Char} (h : w ∈ split cs) : IsWord w := by
  rw [split_eq] at h
  -- the word being read is generalised: it consists of visible characters all along
  suffices hscan : ∀ cur, (∀ c ∈ cur, isSpace c = false) → w ∈ splitFrom cur cs → IsWord w from
    hscan [] (by simp) h
  clear h
  -- what is flushed at a space or at the end
  have hflush : ∀ cur : List Char, (∀ c ∈ cur, isSpace c = false) →
      w ∈ (if cur.isEmpty then [] else [cur.reverse] : List (List Char)) → IsWord w := by
    intro cur hcur hw
    cases cur with
    | nil => cases hw
    | cons a cur =>
        obtain rfl := List.mem_singleton.mp hw
        exact ⟨by simp, fun c hc => hcur c (List.mem_reverse.mp hc)⟩
  induction cs with
  | nil => exact hflush
  | cons c cs ih =>
      intro cur hcur hw
      rw [splitFrom] at hw
      split at hw
      · rcases List.mem_append.mp hw with hw | hw
        · exact hflush cur hcur hw
        · exact ih [] (by simp) hw
      · next hc =>
        refine ih (c :: cur) (fun d hd => ?_) hw
        rcases List.mem_cons.mp hd with rfl | hd
        · exact Bool.not_eq_true _ ▸ hc
        · exact hcur d hd

/-- Blanks in front open no word, and blanks behind open none either. -/
theorem split_blank_append {as : List Char} (h : ∀ c ∈ as, isSpace c = true) (cs : List Char) :
    split (as ++ cs) = split cs := by
  rw [split_eq, split_eq]
  induction as with
  | nil => rfl
  | cons a as ih =>
      rw [List.cons_append, splitFrom, if_pos (h a List.mem_cons_self)]
      exact ih fun c hc => h c (List.mem_cons_of_mem _ hc)

theorem split_append_blank {bs : List Char} (h : ∀ c ∈ bs, isSpace c = true) (cs : List Char) :
    split (cs ++ bs) = split cs := by
  cases bs with
  | nil => rw [List.append_nil]
  | cons b bs =>
      have hblank : split bs = [] := by
        have hb := split_blank_append (fun c hc => h c (List.mem_cons_of_mem _ hc)) []
        rwa [List.append_nil] at hb
      rw [split_eq, splitFrom_append_space (h b List.mem_cons_self), ← split_eq, hblank,
        List.append_nil]

/-- **Stripping takes away no word**, since it takes away blanks at the ends, where no word begins.
-/
theorem split_strip (cs : List Char) : split (strip cs) = split cs := by
  have hfront : split (cs.dropWhile isSpace) = split cs := by
    conv_rhs => rw [← List.takeWhile_append_dropWhile (p := isSpace) (l := cs)]
    exact (split_blank_append (fun c hc => List.mem_takeWhile_imp hc) _).symm
  rw [← hfront, strip]
  generalize cs.dropWhile isSpace = ds
  have hds : ds = (ds.reverse.dropWhile isSpace).reverse ++ (ds.reverse.takeWhile isSpace).reverse := by
    rw [← List.reverse_append, List.takeWhile_append_dropWhile, List.reverse_reverse]
  conv_rhs => rw [hds]
  refine (split_append_blank (fun c hc => ?_) _).symm
  exact List.mem_takeWhile_imp (List.mem_reverse.mp hc)

/-- The line breaks of `str.splitlines`. -/
def isLineBreak (c : Char) : Bool :=
  (10 ≤ c.toNat && c.toNat ≤ 13) || (28 ≤ c.toNat && c.toNat ≤ 30) ||
  [0x85, 0x2028, 0x2029].contains c.toNat

/-- The lines of `cs`, `cur` being what is read of the first one, backwards. -/
def linesFrom (cur : List Char) : List Char → List (List Char)
  | []               => if cur.isEmpty then [] else [cur.reverse]
  | '\r' :: '\n' :: cs => cur.reverse :: linesFrom [] cs
  | c :: cs          =>
    if isLineBreak c then cur.reverse :: linesFrom [] cs else linesFrom (c :: cur) cs

/-- `s.splitlines()`. A final line break opens no further line. -/
def splitlines (s : String) : List String := (linesFrom [] s.toList).map String.ofList

/-! ## Integers

`int` accepts every decimal digit of Unicode and single underscores between digits. Both conversions
refuse numbers of too many digits; that is a `ValueError` like any other text that is no number. -/

/-- From this many decimal digits on `int` and `str` refuse to convert. -/
def maxDigits : Nat := 4300

/-- `int(s)` for digits that may be grouped by single underscores; `none` is the `ValueError`. -/
def digitsValue (cs : List Char) : Option Nat :=
  let groups := splitOn '_' cs
  if groups.any List.isEmpty || groups.flatten.length > maxDigits then none
  else (groups.flatten.mapM decimalValue).map fun ds => ds.foldl (fun n d => 10 * n + d) 0

/-- `int(s)`. -/
def toInt (s : List Char) : Option ℤ :=
  match strip s with
  | '-' :: cs => (digitsValue cs).map fun n => -(n : ℤ)
  | '+' :: cs => (digitsValue cs).map Int.ofNat
  | cs        => (digitsValue cs).map Int.ofNat

/-- `str(n)`; `none` is the `ValueError`. -/
def ofInt (n : ℤ) : Option String :=
  if (toString n.natAbs).length ≤ maxDigits then some (toString n) else none

/-! ## Rendering

What `repr` and an f-string write. `None` is written like any other value, so an absent string shows
in a message. -/

def hexDigit (n : Nat) : Char := "0123456789abcdef".toList.getD n '0'

/-- One code point inside `repr` quotes `q`. Code points from U+00A1 on are taken as printable. -/
def reprChar (q c : Char) : List Char :=
  if c = q || c = '\\' then ['\\', c]
  else if c = '\n' then ['\\', 'n']
  else if c = '\r' then ['\\', 'r']
  else if c = '\t' then ['\\', 't']
  else if c.toNat < 32 || (127 ≤ c.toNat && c.toNat ≤ 160) then
    ['\\', 'x', hexDigit (c.toNat / 16), hexDigit (c.toNat % 16)]
  else [c]

/-- `repr(s)`: single quotes unless only double quotes avoid an escape. -/
def repr (s : String) : String :=
  let q := if s.toList.contains '\'' && !s.toList.contains '"' then '"' else '\''
  String.ofList (q :: s.toList.flatMap (reprChar q) ++ [q])

/-- `repr` of a list of strings. -/
def reprList (l : List String) : String := "[" ++ join ", " (l.map repr) ++ "]"

/-- `f"{x}"` of an optional string. -/
def showOpt : Option String → String
  | some s => s
  | none   => "None"

/-- `f"{x!r}"` of an optional string. -/
def reprOpt : Option String → String
  | some s => repr s
  | none   => "None"

/-- Truth of an optional string: `None` and `""` are false. -/
def truthy : Option String → Bool
  | some s => s != ""
  | none   => false

@[simp] theorem truthy_none : truthy none = false := rfl

@[simp] theorem truthy_some (s : String) : truthy (some s) = (s != "") := rfl

/-! ## Order

Strings are compared by code points. It is a linear order, which is all that `sorted` needs to give
one list for one set. -/

/-- `s <= t`, code point by code point. -/
def le : List Char → List Char → Bool
  | [],      _       => true
  | _ :: _,  []      => false
  | c :: cs, d :: ds => c.toNat < d.toNat || (c.toNat == d.toNat && le cs ds)

/-- `sorted(set(l))`. -/
def sortedSet (l : List String) : List String :=
  l.dedup.mergeSort fun s t => le s.toList t.toList

/-- The first code points decide, or, where they are the same, the rest. -/
theorem le_cons_iff {c d : Char} {cs ds : List Char} :
    le (c :: cs) (d :: ds) = true ↔ c.toNat < d.toNat ∨ c.toNat = d.toNat ∧ le cs ds = true := by
  simp [le]

/-- Of two strings one is no greater. -/
theorem le_total (s t : List Char) : le s t = true ∨ le t s = true := by
  induction s generalizing t with
  | nil => exact .inl rfl
  | cons c s ih =>
      cases t with
      | nil => exact .inr rfl
      | cons d t =>
          rw [le_cons_iff, le_cons_iff]
          rcases Nat.lt_trichotomy c.toNat d.toNat with hlt | heq | hlt
          · exact .inl (.inl hlt)
          · exact (ih t).imp (fun h => .inr ⟨heq, h⟩) (fun h => .inr ⟨heq.symm, h⟩)
          · exact .inr (.inl hlt)

/-- The order is transitive, by induction on the first string. -/
theorem le_trans {s t u : List Char} (h : le s t = true) (h' : le t u = true) : le s u = true := by
  induction s generalizing t u with
  | nil => rfl
  | cons c s ih =>
      cases t with
      | nil => cases h
      | cons d t =>
          cases u with
          | nil => cases h'
          | cons e u =>
              rw [le_cons_iff] at h h' ⊢
              -- where the first characters differ somewhere, they decide
              rcases h with hlt | ⟨heq, hrest⟩ <;> rcases h' with hlt' | ⟨heq', hrest'⟩
              · exact .inl (hlt.trans hlt')
              · exact .inl (heq' ▸ hlt)
              · exact .inl (heq ▸ hlt')
              · exact .inr ⟨heq.trans heq', ih hrest hrest'⟩

/-- Strings that are each no greater than the other are one string. -/
theorem le_antisymm {s t : List Char} (h : le s t = true) (h' : le t s = true) : s = t := by
  induction s generalizing t with
  | nil =>
      cases t with
      | nil => rfl
      | cons d t => cases h'
  | cons c s ih =>
      cases t with
      | nil => cases h
      | cons d t =>
          rw [le_cons_iff] at h h'
          -- neither first character is less, so they are the same
          rcases h with hlt | ⟨heq, hrest⟩ <;> rcases h' with hlt' | ⟨heq', hrest'⟩
          · exact absurd hlt' (Nat.lt_asymm hlt)
          · exact absurd heq' (Nat.ne_of_gt hlt)
          · exact absurd heq (Nat.ne_of_gt hlt')
          · rw [Char.toNat_inj.mp heq, ih hrest hrest']

/-- **A set is sorted alike**, in whatever order its members come. -/
theorem sortedSet_perm {l l' : List String} (h : l'.Perm l) : sortedSet l' = sortedSet l := by
  -- both lists are sorted, and they are permutations of each other
  have hsorted : ∀ k : List String, (sortedSet k).Pairwise fun s t => le s.toList t.toList = true := by
    intro k
    apply List.pairwise_mergeSort
    · exact fun _ _ _ => le_trans
    · exact fun s t => Bool.or_eq_true_iff.mpr (le_total s.toList t.toList)
  have hperm : (sortedSet l').Perm (sortedSet l) :=
    (List.mergeSort_perm _ _).trans (h.dedup.trans (List.mergeSort_perm _ _).symm)
  apply List.Perm.eq_of_pairwise _ (hsorted l') (hsorted l) hperm
  exact fun s t _ _ hst hts => String.toList_inj.mp (le_antisymm hst hts)

end Py
