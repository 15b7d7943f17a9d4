import Mathlib.Data.Bool.AllAny
import Mathlib.Data.List.Basic
import Mathlib.Data.Nat.Notation

/-!
# Markup that is put together as text

What a browser reads out of a text that is assigned to an element: texts and tags. `read` knows the part of the
tokenization of HTML that tags with quoted values and the five escapes need, and has no answer to
other markup. `write` is what templates make of a list of texts and tags if every text and every value is
escaped: whatever these are, the same tags are read again, with the same texts and values between
and in them (`read_write`).

A text is a sequence of UTF-16 units, of any kind. A browser makes a line feed of every line break, leaves
out units that are zero, and has a replacement for these in values; `Markup.seen` does so.
-/

namespace Html

abbrev Text := List UInt16

def code (c : Char) : UInt16 := .ofNat c.toNat

def ascii (s : String) : Text := s.toList.map code

/-! ## Escapes

The five units that can end a text or a value, each with its reference. A text that was escaped is
read back because a reference begins with an ampersand and an ampersand is always escaped. -/

/-- The units that are escaped, and what for. -/
def references : List (UInt16 × Text) :=
  [(code '&', ascii "&amp;"), (code '<', ascii "&lt;"), (code '>', ascii "&gt;"),
   (code '"', ascii "&quot;"), (code '\'', ascii "&#39;")]

def escapeUnit (c : UInt16) : Text := (references.find? fun r => r.1 == c).elim [c] Prod.snd

def escape (s : Text) : Text := s.flatMap escapeUnit

/-- The text that the references stand for. The first `skip` units belong to a reference before. -/
def decodeFrom : (skip : ℕ) → Text → Option Text
  | _,        []      => some []
  | skip + 1, _ :: cs => decodeFrom skip cs
  | 0,        c :: cs =>
    if c = code '&' then
      match references.find? fun r => r.2.isPrefixOf (c :: cs) with
      | some (d, reference) => (decodeFrom (reference.length - 1) cs).map (d :: ·)
      | none                => none
    else (decodeFrom 0 cs).map (c :: ·)

def decode (s : Text) : Option Text := decodeFrom 0 s

/-- Anything but an ampersand stands for itself. -/
theorem decode_cons {c : UInt16} (h : c ≠ code '&') (cs : Text) :
    decode (c :: cs) = (decode cs).map (c :: ·) := by
  unfold decode
  rw [decodeFrom, if_neg h]

/-- A reference stands for its unit. -/
theorem decode_reference {r : UInt16 × Text} (h : r ∈ references) (rest : Text) :
    decode (r.2 ++ rest) = (decode rest).map (r.1 :: ·) := by
  simp only [references, List.mem_cons, List.not_mem_nil, or_false] at h
  rcases h with rfl | rfl | rfl | rfl | rfl <;> rfl

/-- What was written for a unit is read as the unit, escaped or not. -/
theorem decode_escapeUnit (c : UInt16) (rest : Text) :
    decode (escapeUnit c ++ rest) = (decode rest).map (c :: ·) := by
  unfold escapeUnit
  cases hfind : references.find? fun r => r.1 == c with
  | none =>
      have hother := List.find?_eq_none.mp hfind
      apply decode_cons
      rintro rfl
      exact hother (code '&', ascii "&amp;") List.mem_cons_self (by decide)
  | some r =>
      have hc : r.1 = c := by simpa using List.find?_some hfind
      rw [← hc]
      exact decode_reference (List.mem_of_find?_eq_some hfind) rest

/-- **What is escaped is read** as it was: decoding the character references gives the text back,
whatever is in it. -/
theorem decode_escape (s : Text) : decode (escape s) = some s := by
  induction s with
  | nil => rfl
  | cons c s ih =>
      show decode (escapeUnit c ++ escape s) = _
      rw [decode_escapeUnit, ih]
      rfl

/-- A unit that is none of the five, or stands in a reference. -/
theorem mem_escapeUnit {c d : UInt16} (h : d ∈ escapeUnit c) : d ≠ code '<' ∧ d ≠ code '"' := by
  unfold escapeUnit at h
  cases hfind : references.find? fun r => r.1 == c with
  | none =>  -- a unit that stands for itself has no reference, as these two have
      rw [hfind] at h
      obtain rfl := List.mem_singleton.mp h
      have hother := List.find?_eq_none.mp hfind
      constructor
      · rintro rfl
        exact hother (code '<', ascii "&lt;") (by decide) (by decide)
      · rintro rfl
        exact hother (code '"', ascii "&quot;") (by decide) (by decide)
  | some r =>  -- the references are of letters and digits
      rw [hfind] at h
      have hplain : ∀ d ∈ references.flatMap Prod.snd, d ≠ code '<' ∧ d ≠ code '"' :=
        List.all_iff_forall_prop.mp (by decide)
      exact hplain d (List.mem_flatMap.mpr ⟨r, List.mem_of_find?_eq_some hfind, h⟩)

/-- Escaped text opens no tag and ends no value. -/
theorem mem_escape {s : Text} {d : UInt16} (h : d ∈ escape s) : d ≠ code '<' ∧ d ≠ code '"' := by
  obtain ⟨c, -, h⟩ := List.mem_flatMap.mp h
  exact mem_escapeUnit h

theorem escape_append (s t : Text) : escape (s ++ t) = escape s ++ escape t := List.flatMap_append

/-! ## Texts and tags

The reader goes through the text unit by unit, and the place in a tag is its state. Where the
standard would recover from an error this reader has no answer at all; so what it does read is read
the same by any browser. -/

inductive Tag where
  | opening (name : Text) (attributes : List (Text × Text))
  | closing (name : Text)
  deriving DecidableEq, Repr

def isLetter (c : UInt16) : Bool := code 'a' ≤ c && c ≤ code 'z'

/-- The units of names. There are no capital letters among them. -/
def isNameUnit (c : UInt16) : Bool := isLetter c || code '0' ≤ c && c ≤ code '9' || c == code '-'

/-- Where in a tag the reading is, with what was read of it. -/
inductive Place where
  | start
  | solidus
  | closing (name : Text)
  | opening (name : Text)
  | blank (name : Text) (attributes : List (Text × Text))
  | attribute (name : Text) (attributes : List (Text × Text)) (attr : Text)
  | equals (name : Text) (attributes : List (Text × Text)) (attr : Text)
  | value (name : Text) (attributes : List (Text × Text)) (attr val : Text)
  | quoted (name : Text) (attributes : List (Text × Text))

/-- One unit further: the next place, or the tag. -/
def step : Place → UInt16 → Option (Place ⊕ Tag)
  | .start, c =>
    if c = code '/' then some (.inl .solidus)
    else if isLetter c then some (.inl (.opening [c])) else none
  | .solidus, c => if isLetter c then some (.inl (.closing [c])) else none
  | .closing name, c =>
    if isNameUnit c then some (.inl (.closing (name ++ [c])))
    else if c = code '>' then some (.inr (.closing name)) else none
  | .opening name, c =>
    if isNameUnit c then some (.inl (.opening (name ++ [c])))
    else if c = code ' ' then some (.inl (.blank name []))
    else if c = code '>' then some (.inr (.opening name [])) else none
  | .blank name attributes, c =>
    if isNameUnit c then some (.inl (.attribute name attributes [c])) else none
  | .attribute name attributes attr, c =>
    if isNameUnit c then some (.inl (.attribute name attributes (attr ++ [c])))
    -- of two attributes of one name the second would be ignored
    else if c = code '=' && !(attributes.map Prod.fst).contains attr then
      some (.inl (.equals name attributes attr))
    else none
  | .equals name attributes attr, c =>
    if c = code '"' then some (.inl (.value name attributes attr [])) else none
  | .value name attributes attr val, c =>
    if c = code '"' then (decode val).map fun val => .inl (.quoted name (attributes ++ [(attr, val)]))
    else some (.inl (.value name attributes attr (val ++ [c])))
  | .quoted name attributes, c =>
    if c = code ' ' then some (.inl (.blank name attributes))
    else if c = code '>' then some (.inr (.opening name attributes)) else none

/-- Tags, each with the text before it, and the text behind the last of them. -/
structure Markup where
  tags : List (Text × Tag)
  rest : Text
  deriving DecidableEq, Repr

def Markup.push (text : Text) (tag : Tag) (m : Markup) : Markup := { m with tags := (text, tag) :: m.tags }

/-- Reads on, behind a text and, if there is one, inside of a tag. -/
def readFrom : (text : Text) → Option Place → Text → Option Markup
  | text, none,       []      => (decode text).map fun text => ⟨[], text⟩
  | _,    some _,     []      => none
  | text, none,       c :: cs =>
    if c = code '<' then readFrom text (some .start) cs else readFrom (text ++ [c]) none cs
  | text, some place, c :: cs =>
    match step place c with
    | none                => none
    | some (.inl place)   => readFrom text (some place) cs
    | some (.inr tag)     => (decode text).bind fun text => (readFrom [] none cs).map (.push text tag)

/-! ## Templates

What a template may put in is a text or the value of an attribute. The names are the template's own,
and `regular` is what they have to satisfy: letters, digits and dashes, and no attribute twice. -/

/-- A part of a template: a text to be escaped, or a tag. -/
inductive Item where
  | text (s : Text)
  | tag (t : Tag)
  deriving DecidableEq, Repr

def writeAttribute (a : Text × Text) : Text :=
  code ' ' :: (a.1 ++ code '=' :: code '"' :: (escape a.2 ++ [code '"']))

/-- A tag as markup. Values are escaped and stand in double quotes, names are written as they are.
-/
def Tag.write : Tag → Text
  | .opening name attributes => code '<' :: (name ++ (attributes.flatMap writeAttribute ++ [code '>']))
  | .closing name            => code '<' :: code '/' :: (name ++ [code '>'])

def Item.write : Item → Text
  | .text s => escape s
  | .tag t  => t.write

/-- A template filled in: each part for itself, one behind the other. -/
def write (items : List Item) : Text := items.flatMap Item.write

theorem write_nil : write [] = [] := rfl

theorem write_cons (item : Item) (items : List Item) :
    write (item :: items) = item.write ++ write items := rfl

theorem write_append (items items' : List Item) :
    write (items ++ items') = write items ++ write items' := List.flatMap_append

/-- What stands between the tags of an element, with the tags. -/
def element (name : Text) (attributes : List (Text × Text)) (items : List Item) : List Item :=
  .tag (.opening name attributes) :: (items ++ [.tag (.closing name)])

def markupFrom : (text : Text) → List Item → Markup
  | text, []              => ⟨[], text⟩
  | text, .text s :: rest => markupFrom (text ++ s) rest
  | text, .tag t :: rest  => (markupFrom [] rest).push text t

def tagsOf (items : List Item) : List Tag :=
  items.filterMap fun item => match item with
    | .text _ => none
    | .tag t  => some t

/-- The tags that are read are those of the template, in their order. -/
theorem markupFrom_tags (text : Text) (items : List Item) :
    (markupFrom text items).tags.map Prod.snd = tagsOf items := by
  induction items generalizing text with
  | nil => rfl
  | cons item items ih =>
      cases item with
      | text s => exact ih (text ++ s)
      | tag t => exact congrArg (t :: ·) (ih [])

/-- A name as the reader takes it. -/
def isName : Text → Bool
  | []      => false
  | c :: cs => isLetter c && cs.all isNameUnit

/-- A tag that is read as it is written. -/
def Tag.regular : Tag → Bool
  | .opening name attributes =>
    isName name && attributes.all (fun a => isName a.1) && decide (attributes.map Prod.fst).Nodup
  | .closing name            => isName name

def Item.regular : Item → Bool
  | .text _ => true
  | .tag t  => t.regular

/-! ## Reading what was written

The state machine is run over the text of a tag: over its name, over each attribute, and over the
bracket at its end. `readFrom_gather` is the step that is common to all of them. -/

/-- Units that do not end what is read are gathered. -/
theorem readFrom_gather {m : Text → Place} {p : UInt16 → Prop}
    (hstep : ∀ got c, p c → step (m got) c = some (.inl (m (got ++ [c])))) {more : Text}
    (hmore : ∀ c ∈ more, p c) (text got rest : Text) :
    readFrom text (some (m got)) (more ++ rest) = readFrom text (some (m (got ++ more))) rest := by
  induction more generalizing got with
  | nil => rw [List.append_nil, List.nil_append]
  | cons c more ih =>
      rw [List.cons_append, readFrom, hstep got c (hmore c List.mem_cons_self)]
      show readFrom text (some (m (got ++ [c]))) (more ++ rest) = _
      rw [ih (fun d hd => hmore d (List.mem_cons_of_mem c hd)), List.append_assoc]
      rfl

/-- A name has a first letter. -/
theorem isName_cons {name : Text} (h : isName name = true) :
    ∃ c cs, name = c :: cs ∧ isLetter c = true ∧ ∀ d ∈ cs, isNameUnit d = true := by
  cases name with
  | nil => cases h
  | cons c cs =>
      rw [isName, Bool.and_eq_true, List.all_eq_true] at h
      exact ⟨c, cs, rfl, h.1, h.2⟩

theorem isNameUnit_of_isLetter {c : UInt16} (h : isLetter c = true) : isNameUnit c = true := by
  rw [isNameUnit, h]
  rfl

theorem readFrom_attribute {name : Text} {attributes : List (Text × Text)} {a : Text × Text}
    (hname : isName a.1 = true) (hnew : a.1 ∉ attributes.map Prod.fst) (text rest : Text) :
    readFrom text (some (.blank name attributes))
        (a.1 ++ code '=' :: code '"' :: (escape a.2 ++ code '"' :: rest)) =
      readFrom text (some (.quoted name (attributes ++ [a]))) rest := by
  -- a name begins with a letter, which starts the attribute
  obtain ⟨c, cs, hcs, hletter, hunits⟩ := isName_cons hname
  have hblank : step (.blank name attributes) c = some (.inl (.attribute name attributes [c])) := by
    rw [step, if_pos (isNameUnit_of_isLetter hletter)]
  have hequals : step (.attribute name attributes a.1) (code '=') =
      some (.inl (.equals name attributes a.1)) := by
    rw [step, if_neg (by decide), if_pos (by simpa using hnew)]
  -- no quotation mark is in an escaped value, so the first one ends it
  have hquote : step (.value name attributes a.1 (escape a.2)) (code '"') =
      some (.inl (.quoted name (attributes ++ [a]))) := by
    rw [step, if_pos rfl, decode_escape]
    rfl
  rw [hcs, List.cons_append, readFrom, hblank]
  show readFrom text (some (.attribute name attributes [c])) _ = _
  rw [readFrom_gather (m := .attribute name attributes) (p := fun d => isNameUnit d = true)
    (fun got d hd => by rw [step, if_pos hd]) hunits]
  show readFrom text (some (.attribute name attributes (c :: cs))) _ = _
  rw [← hcs, readFrom, hequals]
  show readFrom text (some (.value name attributes a.1 [])) _ = _
  rw [readFrom_gather (m := .value name attributes a.1) (p := fun d => d ≠ code '"')
    (fun got d hd => by rw [step, if_neg hd]) (fun d hd => (mem_escape hd).2)]
  rw [List.nil_append, readFrom, hquote]

/-- The attributes that are left, and the end of the tag. -/
theorem readFrom_attributes {name : Text} {attributes more : List (Text × Text)}
    (hnames : ∀ a ∈ more, isName a.1 = true) (hnodup : ((attributes ++ more).map Prod.fst).Nodup)
    (text rest : Text) :
    readFrom text (some (.quoted name attributes))
        (more.flatMap writeAttribute ++ code '>' :: rest) =
      (decode text).bind fun text =>
        (readFrom [] none rest).map (.push text (.opening name (attributes ++ more))) := by
  -- the attributes read so far move to the left, one at a time
  induction more generalizing attributes with
  | nil =>
      have hend : step (.quoted name attributes) (code '>') =
          some (.inr (.opening name attributes)) := by
        rw [step, if_neg (by decide), if_pos rfl]
      rw [List.flatMap_nil, List.nil_append, List.append_nil, readFrom, hend]
  | cons a more ih =>
      have hblank : step (.quoted name attributes) (code ' ') =
          some (.inl (.blank name attributes)) := by
        rw [step, if_pos rfl]
      -- no name comes twice, or the reader would drop the second one
      have hnew : a.1 ∉ attributes.map Prod.fst := by
        rw [List.map_append, List.map_cons] at hnodup
        exact fun ha => (List.nodup_append.mp hnodup).2.2 _ ha _ List.mem_cons_self rfl
      have hwrite : (a :: more).flatMap writeAttribute ++ code '>' :: rest =
          code ' ' :: (a.1 ++ code '=' :: code '"' :: (escape a.2 ++
            code '"' :: (more.flatMap writeAttribute ++ code '>' :: rest))) := by
        simp only [List.flatMap_cons, writeAttribute, List.cons_append, List.append_assoc,
          List.nil_append]
      rw [hwrite, readFrom, hblank]
      show readFrom text (some (.blank name attributes)) _ = _
      rw [readFrom_attribute (hnames a List.mem_cons_self) hnew, ih
        (fun b hb => hnames b (List.mem_cons_of_mem a hb)) (by rwa [List.append_assoc]),
        List.append_assoc]
      rfl

theorem readFrom_tag {tag : Tag} (h : tag.regular = true) (text rest : Text) :
    readFrom text none (tag.write ++ rest) =
      (decode text).bind fun text => (readFrom [] none rest).map (.push text tag) := by
  cases tag with
  | closing name =>
      obtain ⟨c, cs, rfl, hletter, hunits⟩ := isName_cons h
      have hname : step .solidus c = some (.inl (.closing [c])) := by
        rw [step, if_pos hletter]
      have hend : step (.closing (c :: cs)) (code '>') = some (.inr (.closing (c :: cs))) := by
        rw [step, if_neg (by decide), if_pos rfl]
      show readFrom text (some .solidus) (c :: cs ++ [code '>'] ++ rest) = _
      rw [List.append_assoc, List.cons_append, readFrom, hname]
      show readFrom text (some (.closing [c])) (cs ++ code '>' :: rest) = _
      rw [readFrom_gather (m := .closing) (p := fun d => isNameUnit d = true)
        (fun got d hd => by rw [step, if_pos hd]) hunits]
      show readFrom text (some (.closing (c :: cs))) _ = _
      rw [readFrom, hend]
  | opening name attributes =>
      rw [Tag.regular, Bool.and_eq_true, Bool.and_eq_true, decide_eq_true_eq,
        List.all_eq_true] at h
      obtain ⟨⟨hname, hnames⟩, hnodup⟩ := h
      obtain ⟨c, cs, rfl, hletter, hunits⟩ := isName_cons hname
      have hsolidus : c ≠ code '/' := by
        rintro rfl
        cases hletter
      have hstart : step .start c = some (.inl (.opening [c])) := by
        rw [step, if_neg hsolidus, if_pos hletter]
      show readFrom text (some .start)
        (c :: cs ++ (attributes.flatMap writeAttribute ++ [code '>']) ++ rest) = _
      rw [List.append_assoc, List.cons_append, readFrom, hstart]
      show readFrom text (some (.opening [c])) (cs ++ _) = _
      rw [readFrom_gather (m := .opening) (p := fun d => isNameUnit d = true)
        (fun got d hd => by rw [step, if_pos hd]) hunits, List.append_assoc]
      show readFrom text (some (.opening (c :: cs))) _ = _
      cases attributes with
      | nil =>
          have hend : step (.opening (c :: cs)) (code '>') =
              some (.inr (.opening (c :: cs) [])) := by
            rw [step, if_neg (by decide), if_neg (by decide), if_pos rfl]
          rw [List.flatMap_nil, List.nil_append, List.singleton_append, readFrom, hend]
      | cons a more =>
          -- a blank leads to the attributes from the name as it does from a value
          have hblank : step (.opening (c :: cs)) (code ' ') =
              some (.inl (.blank (c :: cs) [])) := by
            rw [step, if_neg (by decide), if_pos rfl]
          have hquoted : step (.quoted (c :: cs) []) (code ' ') =
              some (.inl (.blank (c :: cs) [])) := by
            rw [step, if_pos rfl]
          have hall := @readFrom_attributes (c :: cs) [] (a :: more) hnames hnodup text rest
          show readFrom text (some (.opening (c :: cs))) (code ' ' :: _) = _
          rw [readFrom, hblank]
          rw [← List.nil_append (a :: more), ← hall]
          show _ = readFrom text (some (.quoted (c :: cs) [])) (code ' ' :: _)
          rw [readFrom, hquoted]
          simp only [List.cons_append, List.nil_append]

theorem readFrom_text (s text rest : Text) :
    readFrom text none (escape s ++ rest) = readFrom (text ++ escape s) none rest := by
  -- escaped text has no opening bracket, so it is gathered
  have hplain : ∀ (more : Text), (∀ c ∈ more, c ≠ code '<') → ∀ text,
      readFrom text none (more ++ rest) = readFrom (text ++ more) none rest := by
    intro more hmore
    induction more with
    | nil => exact fun text => by rw [List.append_nil, List.nil_append]
    | cons c more ih =>
        intro text
        rw [List.cons_append, readFrom, if_neg (hmore c List.mem_cons_self),
          ih (fun d hd => hmore d (List.mem_cons_of_mem c hd)), List.append_assoc]
        rfl
  exact hplain (escape s) (fun c hc => (mem_escape hc).1) text

/-- **A filled-in template is read as its parts.** By induction on the parts: a text goes to the
text before the next tag, and a tag ends it. -/
theorem readFrom_write {items : List Item} (h : ∀ item ∈ items, item.regular = true) (text : Text) :
    readFrom (escape text) none (write items) = some (markupFrom text items) := by
  induction items generalizing text with  -- the text in front is gathered until a tag comes
  | nil =>
      show (decode (escape text)).map _ = _
      rw [decode_escape]
      rfl
  | cons item items ih =>
      have htail : ∀ i ∈ items, i.regular = true := fun i hi => h i (List.mem_cons_of_mem item hi)
      show readFrom (escape text) none (item.write ++ write items) = _
      cases item with
      | text s =>
          show readFrom (escape text) none (escape s ++ write items) = _
          rw [readFrom_text, ← escape_append, ih htail]
          rfl
      | tag t =>
          show readFrom (escape text) none (t.write ++ write items) = _
          rw [readFrom_tag (h (.tag t) List.mem_cons_self), decode_escape]
          show (readFrom (escape []) none (write items)).map (Markup.push text t) = _
          rw [ih htail]
          rfl

/-! ## What is shown

Before it reads anything a browser makes one kind of line break out of three, and it does not show
every unit. The round trip is therefore up to `seen`, on both sides of the comparison. -/

/-- Line breaks, of which a browser makes line feeds. -/
def lineFeeds : Text → Text
  | []             => []
  | 13 :: 10 :: cs => 10 :: lineFeeds cs
  | c :: cs        => (if c = 13 then 10 else c) :: lineFeeds cs

def seenText (s : Text) : Text := (lineFeeds s).filter fun c => c ≠ 0

def seenValue (s : Text) : Text := (lineFeeds s).map fun c => if c = 0 then 0xFFFD else c

def Tag.seen : Tag → Tag
  | .opening name attributes => .opening name (attributes.map fun a => (a.1, seenValue a.2))
  | .closing name            => .closing name

def Markup.seen (m : Markup) : Markup where
  tags := m.tags.map fun (text, tag) => (seenText text, tag.seen)
  rest := seenText m.rest

/-- What is read out of a text. -/
def read (html : Text) : Option Markup := (readFrom [] none html).map Markup.seen

/-- The texts and tags of a template. -/
def markup (items : List Item) : Markup := markupFrom [] items

/-- What a browser shows of a template has the tags of the template. -/
theorem tags_seen (items : List Item) :
    (markup items).seen.tags.map Prod.snd = (tagsOf items).map Tag.seen := by
  have htags := markupFrom_tags [] items
  rw [← htags, Markup.seen, List.map_map, List.map_map]
  rfl

/-- **What was written is read**: regular items are read as their markup, tag by tag, with the texts
between them, as a browser sees these. -/
theorem read_write {items : List Item} (h : ∀ item ∈ items, item.regular = true) :
    read (write items) = some (markup items).seen := by
  have hread := readFrom_write h []
  show (readFrom (escape []) none (write items)).map _ = _
  rw [hread]
  rfl

end Html
