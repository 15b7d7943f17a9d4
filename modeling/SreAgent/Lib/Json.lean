import Mathlib.Algebra.Field.Rat
import SreAgent.Lib.PyStr

/-!
# Python's `json` module

`dumps` and `loads` on character lists, and the round trip `loads_dumps`. A string is a sequence of
Unicode scalar values, so an escaped surrogate without its partner is rejected; `NaN` and the two
infinities are no JSON and are left out. A number is what its text shows.

Python itself refuses some values and their texts: integers of too many digits, and values nested
more deeply than the interpreter has levels left. `Json.refusal` says which, and what is raised.

The round trip is proved bottom up: code units of a string, the parts of a number, then values,
items and members by one mutual induction. What makes the reader stop in the right place is `Ends`:
no number goes on behind a value, since what follows there is a comma, a bracket or nothing.

The fuel of the reader bounds the nesting of calls. The text of a value is longer than the value is
deep, so `loads` never runs out of it.
-/

namespace Py

/-! ## Values

Values are trees over strings and number texts. Objects keep repeated keys, as a text has them;
looking a key up takes the last one, as Python's dictionary does. -/

/-- The digits before and after the point, and the exponent. An `int` has neither of the last two. -/
structure Number where
  negative : Bool := false
  whole    : Nat
  fraction : List (Fin 10) := []
  exponent : Option ℤ := none
  deriving DecidableEq, Repr

/-- `.5` for the digit 5. -/
def fractionValue : List (Fin 10) → ℚ
  | []      => 0
  | d :: ds => ((d.val : ℚ) + fractionValue ds) / 10

/-- The number a text stands for, exactly. -/
def Number.value (n : Number) : ℚ :=
  (if n.negative then -1 else 1) * ((n.whole : ℚ) + fractionValue n.fraction) *
    (10 : ℚ) ^ (n.exponent.getD 0)

/-- An object keeps its members in order; of two members of one key the later one counts. -/
inductive Json where
  | null
  | bool (b : Bool)
  | num (n : Number)
  | str (s : String)
  | arr (items : List Json)
  | obj (members : List (String × Json))

/-- `d.get(key)` and `d[key]`. -/
def member (members : List (String × Json)) (key : String) : Option Json :=
  (members.reverse.find? fun kv => kv.1 == key).map Prod.snd

/-- `bool(v)`. -/
def Json.truthy : Json → Bool
  | .null        => false
  | .bool b      => b
  | .num n       => n.whole != 0 || n.fraction.any (· != 0)
  | .str s       => s != ""
  | .arr items   => !items.isEmpty
  | .obj members => !members.isEmpty

/-! ## Writing

`json.dumps` with `ensure_ascii`, in the compact and in the default spacing, and the indented
layout. A character beyond the first plane is written as two escaped surrogates. -/

/-- The UTF-16 code units of a character. -/
def units (c : Char) : List Nat :=
  if c.toNat < 0x10000 then [c.toNat]
  else [0xD800 + (c.toNat - 0x10000) / 0x400, 0xDC00 + (c.toNat - 0x10000) % 0x400]

/-- `\uXXXX`. -/
def escapeUnit (n : Nat) : List Char :=
  ['\\', 'u', hexDigit (n / 4096), hexDigit (n / 256 % 16), hexDigit (n / 16 % 16), hexDigit (n % 16)]

/-- The letter of a two-character escape. -/
def shortEscape (c : Char) : Option Char :=
  if c = '"' then some '"'
  else if c = '\\' then some '\\'
  else if c = '\n' then some 'n'
  else if c = '\r' then some 'r'
  else if c = '\t' then some 't'
  else if c = Char.ofNat 8 then some 'b'
  else if c = Char.ofNat 12 then some 'f'
  else none

/-- One character of a string literal, with `ensure_ascii`. -/
def escapeChar (c : Char) : List Char :=
  match shortEscape c with
  | some e => ['\\', e]
  | none   => if 32 ≤ c.toNat ∧ c.toNat ≤ 126 then [c] else (units c).flatMap escapeUnit

def stringText (s : String) : List Char := '"' :: s.toList.flatMap escapeChar ++ ['"']

def exponentDigits (n : Nat) : List Char :=
  if n < 10 then '0' :: Nat.toDigits 10 n else Nat.toDigits 10 n

def exponentText : Option ℤ → List Char
  | none   => []
  | some e => 'e' :: (if e < 0 then '-' else '+') :: exponentDigits e.natAbs

def fractionText (ds : List (Fin 10)) : List Char :=
  if ds.isEmpty then [] else '.' :: ds.map fun d => Nat.digitChar d.val

def Number.text (n : Number) : List Char :=
  (if n.negative then ['-'] else []) ++ (Nat.toDigits 10 n.whole ++
    (fractionText n.fraction ++ exponentText n.exponent))

mutual

/-- `json.dumps(v, separators=("," + space, ":" + space))`. -/
def Json.dumps (space : List Char) : Json → List Char
  | .null         => ['n', 'u', 'l', 'l']
  | .bool true    => ['t', 'r', 'u', 'e']
  | .bool false   => ['f', 'a', 'l', 's', 'e']
  | .num n        => n.text
  | .str s        => stringText s
  | .arr []       => ['[', ']']
  | .arr (v :: vs) => '[' :: (v.dumps space ++ itemsText space vs)
  | .obj []       => ['{', '}']
  | .obj ((k, v) :: ms) =>
    '{' :: (stringText k ++ (':' :: (space ++ (v.dumps space ++ membersText space ms))))

/-- What follows an item of a list. -/
def itemsText (space : List Char) : List Json → List Char
  | []      => [']']
  | v :: vs => ',' :: (space ++ (v.dumps space ++ itemsText space vs))

/-- What follows a member of an object. -/
def membersText (space : List Char) : List (String × Json) → List Char
  | []           => ['}']
  | (k, v) :: ms =>
    ',' :: (space ++ (stringText k ++ (':' :: (space ++ (v.dumps space ++ membersText space ms)))))

end

/-- A new line, indented by two blanks a level. -/
def newLine (depth : Nat) : List Char := '\n' :: List.replicate (2 * depth) ' '

mutual

/-- `json.dumps(v, indent=2)`, at some level of indentation. -/
def Json.indented (depth : Nat) : Json → List Char
  | .arr (v :: vs) =>
    '[' :: (newLine (depth + 1) ++ (v.indented (depth + 1) ++ indentedItems depth vs))
  | .obj ((k, v) :: ms) =>
    '{' :: (newLine (depth + 1) ++ (stringText k ++ (':' :: ' ' ::
      (v.indented (depth + 1) ++ indentedMembers depth ms))))
  | v => v.dumps [' ']

/-- What follows an item of a list. -/
def indentedItems (depth : Nat) : List Json → List Char
  | []      => newLine depth ++ [']']
  | v :: vs => ',' :: (newLine (depth + 1) ++ (v.indented (depth + 1) ++ indentedItems depth vs))

/-- What follows a member of an object. -/
def indentedMembers (depth : Nat) : List (String × Json) → List Char
  | []           => newLine depth ++ ['}']
  | (k, v) :: ms =>
    ',' :: (newLine (depth + 1) ++ (stringText k ++ (':' :: ' ' ::
      (v.indented (depth + 1) ++ indentedMembers depth ms))))

end

/-! ## Reading

The scanner of the standard library, one function for each of its own. Every function returns what
it has not read. Objects and lists take fuel; a string and a number are read by recursion on the
text. -/

def isJsonSpace (c : Char) : Bool := c == ' ' || c == '\t' || c == '\n' || c == '\r'

def skipSpace (cs : List Char) : List Char := cs.dropWhile isJsonSpace

/-- Both cases of letters are digits. -/
def hexValue (c : Char) : Option Nat :=
  let n := c.toNat
  if 48 ≤ n ∧ n ≤ 57 then some (n - 48)
  else if 97 ≤ n ∧ n ≤ 102 then some (n - 87)
  else if 65 ≤ n ∧ n ≤ 70 then some (n - 55)
  else none

def hexFour (a b c d : Char) : Option Nat := do
  let a ← hexValue a
  let b ← hexValue b
  let c ← hexValue c
  let d ← hexValue d
  pure (a * 4096 + b * 256 + c * 16 + d)

/-- The character an escape other than `\u` stands for. -/
def unescape (c : Char) : Option Char :=
  if c = '"' ∨ c = '\\' ∨ c = '/' then some c
  else if c = 'n' then some '\n'
  else if c = 'r' then some '\r'
  else if c = 't' then some '\t'
  else if c = 'b' then some (Char.ofNat 8)
  else if c = 'f' then some (Char.ofNat 12)
  else none

/-- The code units of a string literal behind its opening quote, and what follows it. -/
def scanUnits : List Char → Option (List Nat × List Char)
  | '\\' :: 'u' :: a :: b :: c :: d :: cs => do
    let n ← hexFour a b c d
    let (us, rest) ← scanUnits cs
    pure (n :: us, rest)
  | '\\' :: c :: cs => do
    let e ← unescape c
    let (us, rest) ← scanUnits cs
    pure (e.toNat :: us, rest)
  | c :: cs =>
    if c = '"' then some ([], cs)
    else if c.toNat < 32 ∨ c = '\\' then none
    else do
      let (us, rest) ← scanUnits cs
      pure (units c ++ us, rest)
  | [] => none

/-- The characters of a sequence of code units. -/
def joinUnits : List Nat → Option (List Char)
  | hi :: lo :: us =>
    if 0xD800 ≤ hi ∧ hi < 0xDC00 ∧ 0xDC00 ≤ lo ∧ lo < 0xE000 then
      (joinUnits us).map (Char.ofNat (0x10000 + (hi - 0xD800) * 0x400 + (lo - 0xDC00)) :: ·)
    else if 0xD800 ≤ hi ∧ hi < 0xE000 then none
    else (joinUnits (lo :: us)).map (Char.ofNat hi :: ·)
  | [u] => if 0xD800 ≤ u ∧ u < 0xE000 then none else some [Char.ofNat u]
  | []  => some []

def scanString (cs : List Char) : Option (String × List Char) := do
  let (us, rest) ← scanUnits cs
  let s ← joinUnits us
  pure (String.ofList s, rest)

/-- `0|[1-9][0-9]*`. -/
def scanWhole (cs : List Char) : Option (Nat × List Char) :=
  match cs with
  | '0' :: rest => some (0, rest)
  | _ =>
    let digits := cs.takeWhile Char.isDigit
    if digits.isEmpty then none
    else some (Nat.ofDigitChars 10 digits 0, cs.dropWhile Char.isDigit)

/-- `(\.[0-9]+)?`. -/
def scanFraction (cs : List Char) : List (Fin 10) × List Char :=
  match cs with
  | '.' :: rest =>
    let digits := rest.takeWhile Char.isDigit
    if digits.isEmpty then ([], cs)
    else (digits.map fun c => Fin.ofNat 10 (c.toNat - 48), rest.dropWhile Char.isDigit)
  | _ => ([], cs)

/-- `([eE][-+]?[0-9]+)?`. -/
def scanExponent (cs : List Char) : Option ℤ × List Char :=
  match cs with
  | [] => (none, [])
  | c :: rest =>
    if c = 'e' ∨ c = 'E' then
      let minus := rest.head? == some '-'
      let unsigned := if minus || rest.head? == some '+' then rest.tail else rest
      let digits := unsigned.takeWhile Char.isDigit
      if digits.isEmpty then (none, cs)
      else
        let n : ℤ := Nat.ofDigitChars 10 digits 0
        (some (if minus then -n else n), unsigned.dropWhile Char.isDigit)
    else (none, cs)

/-- The regular expression `NUMBER_RE`, group by group. -/
def scanNumber (cs : List Char) : Option (Number × List Char) :=
  let negative := cs.head? == some '-'
  match scanWhole (if negative then cs.tail else cs) with
  | none => none
  | some (whole, rest) =>
    let (fraction, rest) := scanFraction rest
    let (exponent, rest) := scanExponent rest
    some (⟨negative, whole, fraction, exponent⟩, rest)

/-- `null`, `true`, `false` or a number. -/
def scanAtom (cs : List Char) : Option (Json × List Char) :=
  if ['n', 'u', 'l', 'l'].isPrefixOf cs then some (.null, cs.drop 4)
  else if ['t', 'r', 'u', 'e'].isPrefixOf cs then some (.bool true, cs.drop 4)
  else if ['f', 'a', 'l', 's', 'e'].isPrefixOf cs then some (.bool false, cs.drop 5)
  else (scanNumber cs).map fun (n, rest) => (.num n, rest)

mutual

/-- A value and what follows it, by at most `fuel` nested calls. -/
def scanValue (fuel : Nat) (cs : List Char) : Option (Json × List Char) :=
  match fuel with
  | 0 => none
  | fuel + 1 =>
    match cs with
    | [] => none
    | c :: rest =>
      if c = '"' then (scanString rest).map fun (s, rest) => (.str s, rest)
      else if c = '[' then
        match skipSpace rest with
        | ']' :: rest => some (.arr [], rest)
        | inner => (scanItems fuel inner).map fun (vs, rest) => (.arr vs, rest)
      else if c = '{' then
        match skipSpace rest with
        | '}' :: rest => some (.obj [], rest)
        | inner => (scanMembers fuel inner).map fun (ms, rest) => (.obj ms, rest)
      else scanAtom (c :: rest)

/-- The items of a list that has one, up to the closing bracket. -/
def scanItems (fuel : Nat) (cs : List Char) : Option (List Json × List Char) :=
  match fuel with
  | 0 => none
  | fuel + 1 =>
    match scanValue fuel cs with
    | none => none
    | some (v, rest) =>
      match skipSpace rest with
      | ']' :: rest => some ([v], rest)
      | ',' :: rest => (scanItems fuel (skipSpace rest)).map fun (vs, rest) => (v :: vs, rest)
      | _ => none

/-- The members of an object that has one, up to the closing brace. -/
def scanMembers (fuel : Nat) (cs : List Char) : Option (List (String × Json) × List Char) :=
  match fuel, cs with
  | fuel + 1, '"' :: cs =>
    match scanString cs with
    | none => none
    | some (k, rest) =>
      match skipSpace rest with
      | ':' :: rest =>
        match scanValue fuel (skipSpace rest) with
        | none => none
        | some (v, rest) =>
          match skipSpace rest with
          | '}' :: rest => some ([(k, v)], rest)
          | ',' :: rest => (scanMembers fuel (skipSpace rest)).map fun (ms, rest) => ((k, v) :: ms, rest)
          | _ => none
      | _ => none
  | _, _ => none

end

/-- `json.loads`. Every nested call reads a character, so the length is fuel enough. -/
def loads (cs : List Char) : Option Json :=
  match scanValue (cs.length + 1) (skipSpace cs) with
  | some (v, rest) => if (skipSpace rest).isEmpty then some v else none
  | none => none

/-! ## What is refused

Both refusals depend on the value alone. A value is written from left to right and depth first, so
the first value that is refused decides what is raised. -/

/-- Why the interpreter gives up on a value, or on its text. -/
inductive Refusal where
  | digits   -- a `ValueError`
  | depth    -- a `RecursionError`
  deriving DecidableEq, Repr

/-- An `int`, which is written and read digit by digit. A float has a point or an exponent. -/
def Number.isInt (n : Number) : Bool := n.fraction.isEmpty && n.exponent.isNone

mutual

/-- What goes wrong first when a value is written, or its text is read, with so many levels of
recursion left. Each list and each object takes one, the empty ones too. -/
def Json.refusal (levels : Nat) : Json → Option Refusal
  | .num n  => if n.isInt && 10 ^ maxDigits ≤ n.whole then some .digits else none
  | .arr vs =>
    match levels with
    | 0          => some .depth
    | levels + 1 => itemsRefusal levels vs
  | .obj ms =>
    match levels with
    | 0          => some .depth
    | levels + 1 => membersRefusal levels ms
  | _       => none

def itemsRefusal (levels : Nat) : List Json → Option Refusal
  | []      => none
  | v :: vs => (v.refusal levels).or (itemsRefusal levels vs)

def membersRefusal (levels : Nat) : List (String × Json) → Option Refusal
  | []           => none
  | (_, v) :: ms => (v.refusal levels).or (membersRefusal levels ms)

end

/-- A long integer is refused, at whatever depth, -/
theorem refusal_int {n : Number} (hint : n.isInt = true) (h : 10 ^ maxDigits ≤ n.whole) {levels : Nat} :
    (Json.num n).refusal levels = some .digits := by
  rw [Json.refusal, hint, Bool.true_and, if_pos (decide_eq_true h)]

/-- and an object whose first member is refused is refused for the same reason. -/
theorem refusal_firstMember {v : Json} {levels : Nat} {r : Refusal} (h : v.refusal levels = some r)
    (k : String) (ms : List (String × Json)) : (Json.obj ((k, v) :: ms)).refusal (levels + 1) = some r := by
  rw [Json.refusal, membersRefusal, h]
  rfl

/-! ## Strings read back

A string is escaped character by character, each as some code units, and read unit by unit; the
units are joined to characters at the end. So the two directions meet in the code units. -/

/-- A hexadecimal digit is read back, and four of them are the unit. -/
theorem hexValue_hexDigit : ∀ n < 16, hexValue (hexDigit n) = some n := by decide

theorem hexFour_escapeUnit {n : Nat} (h : n < 0x10000) :
    hexFour (hexDigit (n / 4096)) (hexDigit (n / 256 % 16)) (hexDigit (n / 16 % 16))
      (hexDigit (n % 16)) = some n := by
  unfold hexFour
  rw [hexValue_hexDigit _ (by omega), hexValue_hexDigit _ (by omega), hexValue_hexDigit _ (by omega),
    hexValue_hexDigit _ (by omega)]
  apply congrArg some
  show n / 4096 * 4096 + n / 256 % 16 * 256 + n / 16 % 16 * 16 + n % 16 = n
  omega

/-- There are 17 planes of 65536 code points. -/
theorem toNat_lt (c : Char) : c.toNat < 0x110000 := by
  have h := c.valid
  rcases h with h | h
  · exact Nat.lt_trans h (by decide)
  · exact h.2

/-- No character is a surrogate. -/
theorem notSurrogate (c : Char) : ¬ (0xD800 ≤ c.toNat ∧ c.toNat < 0xE000) := by
  have h := c.valid
  rintro ⟨hlow, hhigh⟩
  rcases h with h | h
  · exact absurd hlow (Nat.not_le.mpr h)
  · exact absurd hhigh (Nat.not_lt.mpr (Nat.succ_le_of_lt h.1))

/-- A code unit has 16 bits. -/
theorem units_lt (c : Char) : ∀ u ∈ units c, u < 0x10000 := by
  have hc := toNat_lt c
  intro u hu
  unfold units at hu
  split at hu
  · rw [List.mem_singleton.mp hu]
    assumption
  · rcases List.mem_cons.mp hu with rfl | hu
    · omega
    · rw [List.mem_singleton.mp hu]
      omega

/-- Reading code units in front of what `scanUnits` reads. -/
def addUnits (us : List Nat) (r : Option (List Nat × List Char)) : Option (List Nat × List Char) :=
  r.map fun p => (us ++ p.1, p.2)

theorem addUnits_addUnits (us vs : List Nat) (r : Option (List Nat × List Char)) :
    addUnits us (addUnits vs r) = addUnits (us ++ vs) r := by
  cases r <;> simp [addUnits]

/-- An escaped unit is read as that unit, and a run of them as the run. -/
theorem scanUnits_escapeUnit {n : Nat} (h : n < 0x10000) (cs : List Char) :
    scanUnits (escapeUnit n ++ cs) = addUnits [n] (scanUnits cs) := by
  show scanUnits ('\\' :: 'u' :: _ :: _ :: _ :: _ :: cs) = _
  rw [scanUnits, hexFour_escapeUnit h]
  cases scanUnits cs <;> rfl

theorem scanUnits_escapeUnits {us : List Nat} (h : ∀ u ∈ us, u < 0x10000) (cs : List Char) :
    scanUnits (us.flatMap escapeUnit ++ cs) = addUnits us (scanUnits cs) := by
  induction us with
  | nil =>
      cases hs : scanUnits cs <;> simp [addUnits, hs]
  | cons u us ih =>
      rw [List.flatMap_cons, List.append_assoc, scanUnits_escapeUnit (h u (List.mem_cons_self ..)),
        ih fun v hv => h v (List.mem_cons_of_mem _ hv), addUnits_addUnits]
      rfl

/-- An escape other than `\u`. -/
theorem scanUnits_unescape {c e : Char} (h : unescape c = some e) (hu : c ≠ 'u') (cs : List Char) :
    scanUnits ('\\' :: c :: cs) = addUnits [e.toNat] (scanUnits cs) := by
  rw [scanUnits]
  · rw [h]
    cases scanUnits cs <;> rfl
  · intro a b c' d cs' hc
    exact absurd hc hu

/-- A character that stands for itself. -/
theorem scanUnits_plain {c : Char} (hquote : c ≠ '"') (hslash : c ≠ '\\') (hlow : 32 ≤ c.toNat)
    (cs : List Char) : scanUnits (c :: cs) = addUnits (units c) (scanUnits cs) := by
  rw [scanUnits]
  · rw [if_neg hquote, if_neg (by simp [hslash, hlow])]
    cases scanUnits cs <;> rfl
  · intro a b c' d cs' hc
    exact absurd hc hslash
  · intro c' cs' hc
    exact absurd hc hslash

/-- A character of the first plane is one unit. -/
theorem units_small {c : Char} (h : c.toNat < 0x10000) : units c = [c.toNat] := if_pos h

/-- The letters of the short escapes are read back, and none of them is `u`. -/
theorem shortEscape_spec {c e : Char} (h : shortEscape c = some e) :
    unescape e = some c ∧ e ≠ 'u' ∧ c.toNat < 0x10000 := by
  unfold shortEscape at h
  split_ifs at h with h₁ h₂ h₃ h₄ h₅ h₆ h₇ <;>
  · obtain rfl := Option.some.inj h
    subst c
    decide

/-- **Each character is read back as its units**, in whatever way it was escaped. -/
theorem scanUnits_escapeChar (c : Char) (cs : List Char) :
    scanUnits (escapeChar c ++ cs) = addUnits (units c) (scanUnits cs) := by
  unfold escapeChar
  cases hshort : shortEscape c with
  | some e =>  -- a short escape, such as the one for a line break
      obtain ⟨hback, hu, hsmall⟩ := shortEscape_spec hshort
      rw [units_small hsmall]
      exact scanUnits_unescape hback hu cs
  | none =>  -- a printable character stands for itself, another one is written by its units
      dsimp only
      split
      · next hprint =>
        apply scanUnits_plain _ _ hprint.1
        · rintro rfl
          cases hshort
        · rintro rfl
          cases hshort
      · exact scanUnits_escapeUnits (units_lt c) cs

/-- The whole string, up to its closing quote. -/
theorem scanUnits_text (s : List Char) (rest : List Char) :
    scanUnits (s.flatMap escapeChar ++ '"' :: rest) = some (s.flatMap units, rest) := by
  induction s with
  | nil =>
      show scanUnits ('"' :: rest) = some ([], rest)
      rw [scanUnits]
      · rfl
      · intro a b c d cs' hc
        cases hc
      · intro c cs' hc
        cases hc
  | cons c s ih =>
      rw [List.flatMap_cons, List.append_assoc, scanUnits_escapeChar, ih]
      rfl

/-- The units of a character are joined to that character, since no character is half of a pair. -/
theorem joinUnits_units (c : Char) (us : List Nat) :
    joinUnits (units c ++ us) = (joinUnits us).map (c :: ·) := by
  have hc := toNat_lt c
  have hlone := notSurrogate c
  unfold units  -- a character is one unit, or a pair of surrogates
  split
  · show joinUnits (c.toNat :: us) = _
    cases us with
    | nil => rw [joinUnits, if_neg hlone, Char.ofNat_toNat]; rfl
    | cons u us =>
        rw [joinUnits, if_neg (by omega), if_neg hlone, Char.ofNat_toNat]
  · show joinUnits (_ :: _ :: us) = _
    rw [joinUnits, if_pos (by omega)]
    have hback : 0x10000 + (0xD800 + (c.toNat - 0x10000) / 0x400 - 0xD800) * 0x400 +
        (0xDC00 + (c.toNat - 0x10000) % 0x400 - 0xDC00) = c.toNat := by omega
    rw [hback, Char.ofNat_toNat]

/-- So are those of a whole string. -/
theorem joinUnits_text (s : List Char) : joinUnits (s.flatMap units) = some s := by
  induction s with
  | nil => rfl
  | cons c s ih =>
      rw [List.flatMap_cons, joinUnits_units, ih]
      rfl

/-- **A string literal is read back**, up to the quotation mark that closes it, and what stands
behind is left over. -/
theorem scanString_text (s : String) (rest : List Char) :
    scanString (s.toList.flatMap escapeChar ++ '"' :: rest) = some (s, rest) := by
  rw [scanString, scanUnits_text]
  show ((joinUnits (s.toList.flatMap units)).bind fun cs => some (String.ofList cs, rest)) = _
  rw [joinUnits_text]
  exact congrArg (fun x => some (x, rest)) String.ofList_toList

/-- No escaped character begins another: reading tells them apart. -/
theorem escapeChar_prefix {c d : Char} (h : escapeChar c <+: escapeChar d) : c = d := by
  obtain ⟨more, hmore⟩ := h
  -- reading the longer of the two gives the units of the shorter one first
  have hread := scanUnits_text [d] []
  rw [List.flatMap_singleton, List.flatMap_singleton, ← hmore, List.append_assoc,
    scanUnits_escapeChar] at hread
  obtain ⟨⟨us, rest⟩, hus, heq⟩ := Option.map_eq_some_iff.mp hread
  have hunits : units c ++ us = units d := congrArg Prod.fst heq
  have hjoin := joinUnits_text [d]
  rw [List.flatMap_singleton, ← hunits, joinUnits_units] at hjoin
  obtain ⟨cs, -, hcs⟩ := Option.map_eq_some_iff.mp hjoin
  exact (List.cons.inj hcs).1

/-- An escaped character does not begin with the closing quote. -/
theorem escapeChar_head (c : Char) : ∃ x w, escapeChar c = x :: w ∧ x ≠ '"' := by
  unfold escapeChar
  cases hshort : shortEscape c with
  | some e => exact ⟨'\\', [e], rfl, by decide⟩
  | none =>
      dsimp only
      split
      · refine ⟨c, [], rfl, ?_⟩
        rintro rfl
        cases hshort
      · unfold units
        split
        · exact ⟨'\\', _, rfl, by decide⟩
        · exact ⟨'\\', _, rfl, by decide⟩

/-! ## Numbers read back

Each part of a number is read as far as it goes, so it is read back where what follows cannot belong
to it: behind the digits no digit, behind the fraction no exponent, behind the number none of all
these. -/

/-- No number goes on here. -/
def Ends (rest : List Char) : Prop :=
  ∀ c ∈ rest.head?, c.isDigit = false ∧ c ≠ '.' ∧ c ≠ 'e' ∧ c ≠ 'E'

def NoDigit (rest : List Char) : Prop := ∀ c ∈ rest.head?, c.isDigit = false

/-- Where no number goes on, no digit follows. -/
theorem Ends.noDigit {rest : List Char} (h : Ends rest) : NoDigit rest := fun c hc => (h c hc).1

/-- A run of digits is taken as a whole. -/
theorem span_digits {ds rest : List Char} (hds : ∀ c ∈ ds, c.isDigit = true) (hrest : NoDigit rest) :
    (ds ++ rest).takeWhile Char.isDigit = ds ∧ (ds ++ rest).dropWhile Char.isDigit = rest := by
  rw [List.takeWhile_append_of_pos hds, List.dropWhile_append_of_pos hds]
  cases rest with
  | nil => simp
  | cons c rest =>
      have hc : ¬ c.isDigit = true := by simp [hrest c rfl]
      rw [List.takeWhile_cons_of_neg hc, List.dropWhile_cons_of_neg hc, List.append_nil]
      exact ⟨rfl, rfl⟩

/-- A number is written in digits. -/
theorem toDigits_digits (n : Nat) : ∀ c ∈ Nat.toDigits 10 n, c.isDigit = true := fun _ hc =>
  Nat.isDigit_of_mem_toDigits (by decide) (by decide) hc

/-- So is each digit of a fraction. -/
theorem digitChar_isDigit : ∀ d : Fin 10, (Nat.digitChar d.val).isDigit = true := by decide

/-- Only zero begins with a zero. -/
theorem toDigits_head {n : Nat} (h : n ≠ 0) : (Nat.toDigits 10 n).head? ≠ some '0' := by
  induction n using Nat.strongRecOn with
  | _ n ih =>
    by_cases hsmall : n < 10
    · rw [Nat.toDigits_of_lt_base hsmall]
      have hall : ∀ d < 10, d ≠ 0 → [Nat.digitChar d].head? ≠ some '0' := by decide
      exact hall n hsmall h
    · rw [Nat.toDigits_of_base_le (by decide) (Nat.not_lt.mp hsmall), List.head?_append_of_ne_nil]
      · exact ih (n / 10) (by omega) (by omega)
      · exact Nat.toDigits_ne_nil

/-- The whole part is read back; a zero is one only if it stands alone. -/
theorem scanWhole_text (n : Nat) {rest : List Char} (h : NoDigit rest) :
    scanWhole (Nat.toDigits 10 n ++ rest) = some (n, rest) := by
  by_cases hzero : n = 0  -- zero is written with the digit that may begin no other number
  · subst hzero
    rw [Nat.toDigits_zero]
    rfl
  · have hhead := toDigits_head hzero
    obtain ⟨htake, hdrop⟩ := span_digits (toDigits_digits n) h
    have hne := @Nat.toDigits_ne_nil n 10
    rw [scanWhole, htake, hdrop, Nat.ofDigitChars_ten_toDigits]
    · simp [hne]
    · intro rest' heq
      obtain ⟨c, cs, hcs⟩ := List.exists_cons_of_ne_nil hne
      rw [hcs] at heq hhead
      exact hhead (congrArg some (List.cons.inj heq).1)

/-- The digits behind the point are read back, if there are any. -/
theorem scanFraction_text (ds : List (Fin 10)) {rest : List Char} (h : NoDigit rest)
    (hpoint : rest.head? ≠ some '.') : scanFraction (fractionText ds ++ rest) = (ds, rest) := by
  unfold fractionText
  cases ds with
  | nil =>  -- no fraction, and no point behind the number that could be taken for one
      show scanFraction rest = ([], rest)
      rw [scanFraction]
      intro rest' heq
      exact hpoint (by rw [heq]; rfl)
  | cons d ds =>
      have hdigits : ∀ c ∈ (d :: ds).map (fun d : Fin 10 => Nat.digitChar d.val), c.isDigit = true := by
        intro c hc
        obtain ⟨d', -, rfl⟩ := List.mem_map.mp hc
        exact digitChar_isDigit d'
      have hback : ∀ d : Fin 10, Fin.ofNat 10 ((Nat.digitChar d.val).toNat - 48) = d := by decide
      obtain ⟨htake, hdrop⟩ := span_digits hdigits h
      show scanFraction ('.' :: ((d :: ds).map _ ++ rest)) = _
      rw [scanFraction, htake, hdrop, List.map_map]
      have hid : (fun c : Char => Fin.ofNat 10 (c.toNat - 48)) ∘
          (fun d : Fin 10 => Nat.digitChar d.val) = id := funext hback
      rw [hid, List.map_id]
      rfl

/-- Nothing is taken for an exponent where there is none. -/
theorem scanExponent_none {rest : List Char} (h : Ends rest) : scanExponent rest = (none, rest) := by
  cases rest with
  | nil => rfl
  | cons c rest =>
      obtain ⟨-, -, he, hE⟩ := h c rfl
      rw [scanExponent, if_neg (by simp [he, hE])]

/-- The digits of an exponent, with the leading zero, have its value. -/
theorem exponentDigits_spec (n : Nat) : (∀ c ∈ exponentDigits n, c.isDigit = true) ∧
    exponentDigits n ≠ [] ∧ Nat.ofDigitChars 10 (exponentDigits n) 0 = n := by
  unfold exponentDigits
  split
  · refine ⟨?_, by simp, ?_⟩
    · intro c hc
      rcases List.mem_cons.mp hc with rfl | hc
      · decide
      · exact toDigits_digits n c hc
    · rw [Nat.ofDigitChars_cons]
      exact Nat.ofDigitChars_ten_toDigits
  · exact ⟨toDigits_digits n, Nat.toDigits_ne_nil, Nat.ofDigitChars_ten_toDigits⟩

/-- The exponent is read back with its sign. -/
theorem scanExponent_text (e : Option ℤ) {rest : List Char} (h : Ends rest) :
    scanExponent (exponentText e ++ rest) = (e, rest) := by
  cases e with
  | none => exact scanExponent_none h
  | some e =>
      obtain ⟨hdigits, hne, hvalue⟩ := exponentDigits_spec e.natAbs
      obtain ⟨htake, hdrop⟩ := span_digits hdigits h.noDigit
      show scanExponent ('e' :: (if e < 0 then '-' else '+') ::
        (exponentDigits e.natAbs ++ rest)) = _
      by_cases hneg : e < 0
      · have habs : -((e.natAbs : ℕ) : ℤ) = e := by omega
        simpa [scanExponent, hneg, htake, hdrop, hne, hvalue] using habs
      · have habs : ((e.natAbs : ℕ) : ℤ) = e := by omega
        simpa [scanExponent, hneg, htake, hdrop, hne, hvalue] using habs

/-- Neither an exponent nor what follows a number begins with a digit or a point, -/
theorem noDigit_exponent (e : Option ℤ) {rest : List Char} (h : Ends rest) :
    NoDigit (exponentText e ++ rest) ∧ (exponentText e ++ rest).head? ≠ some '.' := by
  cases e with
  | none => exact ⟨h.noDigit, fun hpoint => (h '.' hpoint).2.1 rfl⟩
  | some e =>
      refine ⟨fun c hc => ?_, by simp [exponentText]⟩
      obtain rfl : 'e' = c := Option.some.inj hc
      decide

/-- and a fraction does not begin with a digit. -/
theorem noDigit_fraction (ds : List (Fin 10)) {rest : List Char} (h : NoDigit rest) :
    NoDigit (fractionText ds ++ rest) := by
  cases ds with
  | nil => exact h
  | cons d ds =>
      intro c hc
      obtain rfl : '.' = c := Option.some.inj hc
      decide

/-- A number begins with a minus sign or a digit. -/
theorem text_head (n : Number) :
    ∃ c cs, n.text = c :: cs ∧ (c = '-' ∧ n.negative = true ∨ c.isDigit = true ∧ n.negative = false) := by
  unfold Number.text
  cases n.negative with
  | true => exact ⟨'-', _, rfl, .inl ⟨rfl, rfl⟩⟩
  | false =>
      obtain ⟨c, cs, hcs⟩ := List.exists_cons_of_ne_nil (@Nat.toDigits_ne_nil n.whole 10)
      refine ⟨c, cs ++ (fractionText n.fraction ++ exponentText n.exponent), ?_, .inr ⟨?_, rfl⟩⟩
      · rw [hcs]
        rfl
      · exact toDigits_digits n.whole c (hcs ▸ List.mem_cons_self ..)

/-- **A number is read back**, part by part: its sign, its digits, its fraction and its exponent, if
nothing behind it belongs to a number. -/
theorem scanNumber_text (n : Number) {rest : List Char} (h : Ends rest) :
    scanNumber (n.text ++ rest) = some (n, rest) := by
  obtain ⟨hexp, hpoint⟩ := noDigit_exponent n.exponent h
  -- the sign is there exactly if the number is negative
  have hsign : ((n.text ++ rest).head? == some '-') = n.negative ∧
      (if n.negative then (n.text ++ rest).tail else n.text ++ rest) =
        Nat.toDigits 10 n.whole ++ (fractionText n.fraction ++ (exponentText n.exponent ++ rest)) := by
    obtain ⟨c, cs, htext, ⟨rfl, hneg⟩ | ⟨hdigit, hneg⟩⟩ := text_head n
    · refine ⟨by rw [htext, hneg]; rfl, ?_⟩
      simp [Number.text, hneg]
    · have hminus : c ≠ '-' := by
        rintro rfl
        cases hdigit
      refine ⟨by rw [htext, hneg]; simp [hminus], ?_⟩
      simp [Number.text, hneg]
  unfold scanNumber
  rw [hsign.1]
  dsimp only
  rw [hsign.2, scanWhole_text n.whole (noDigit_fraction n.fraction hexp)]
  dsimp only
  rw [scanFraction_text n.fraction hexp hpoint]
  dsimp only
  rw [scanExponent_text n.exponent h]

/-! ## Values read back

The induction follows the value. A list hands over to its items, an object to its members, and each
takes one off the fuel. The texts of the parts are shorter than that of the whole, which is what the
inequality about lengths is carried along for. -/

/-- A digit is no white space. -/
theorem digit_notSpace {c : Char} (h : c.isDigit = true) : isJsonSpace c = false := by
  rw [Bool.eq_false_iff]
  intro hspace
  simp only [isJsonSpace, Bool.or_eq_true, beq_iff_eq] at hspace
  rcases hspace with ((rfl | rfl) | rfl) | rfl <;> cases h

/-- A value begins with no white space and does not look like the end of a list. -/
theorem dumps_head (space : List Char) (v : Json) :
    ∃ c cs, v.dumps space = c :: cs ∧ isJsonSpace c = false ∧ c ≠ ']' := by
  cases v with
  | null => exact ⟨_, _, by rw [Json.dumps], by decide, by decide⟩
  | bool b => cases b <;> exact ⟨_, _, by rw [Json.dumps], by decide, by decide⟩
  | num n =>
      obtain ⟨c, cs, htext, ⟨rfl, -⟩ | ⟨hdigit, -⟩⟩ := text_head n
      · exact ⟨'-', cs, by rw [Json.dumps, htext], by decide, by decide⟩
      · refine ⟨c, cs, by rw [Json.dumps, htext], digit_notSpace hdigit, ?_⟩
        rintro rfl
        cases hdigit
  | str s => exact ⟨_, _, by rw [Json.dumps]; rfl, by decide, by decide⟩
  | arr vs => cases vs <;> exact ⟨_, _, by rw [Json.dumps], by decide, by decide⟩
  | obj ms => cases ms <;> exact ⟨_, _, by rw [Json.dumps], by decide, by decide⟩

/-- Nothing is skipped in front of a token. -/
theorem skipSpace_cons {c : Char} (h : isJsonSpace c = false) (cs : List Char) :
    skipSpace (c :: cs) = c :: cs := List.dropWhile_cons_of_neg (by simp [h])

theorem comma_notSpace : isJsonSpace ',' = false := by decide

theorem colon_notSpace : isJsonSpace ':' = false := by decide

/-- What separators end with is skipped, up to the value. -/
theorem skipSpace_space {space : List Char} (h : ∀ c ∈ space, isJsonSpace c = true)
    (cs : List Char) : skipSpace (space ++ cs) = skipSpace cs := List.dropWhile_append_of_pos h

theorem skipSpace_dumps {space : List Char} (h : ∀ c ∈ space, isJsonSpace c = true) (v : Json)
    (rest : List Char) : skipSpace (space ++ (v.dumps space ++ rest)) = v.dumps space ++ rest := by
  obtain ⟨c, cs, htext, hc, -⟩ := dumps_head space v
  rw [skipSpace_space h, htext]
  exact skipSpace_cons hc _

/-- A number ends before the rest of a list, and before the rest of an object. -/
theorem ends_itemsText (space : List Char) (vs : List Json) (rest : List Char) :
    Ends (itemsText space vs ++ rest) := by
  intro c hc
  cases vs with
  | nil =>
      obtain rfl : ']' = c := by simpa [itemsText] using hc
      decide
  | cons v vs =>
      obtain rfl : ',' = c := by simpa [itemsText] using hc
      decide

theorem ends_membersText (space : List Char) (ms : List (String × Json)) (rest : List Char) :
    Ends (membersText space ms ++ rest) := by
  intro c hc
  cases ms with
  | nil =>
      obtain rfl : '}' = c := by simpa [membersText] using hc
      decide
  | cons kv ms =>
      obtain rfl : ',' = c := by
        obtain ⟨k, v⟩ := kv
        simpa [membersText] using hc
      decide

/-- A number is not taken for one of the three words. -/
theorem scanAtom_number (n : Number) {rest : List Char} (h : Ends rest) :
    scanAtom (n.text ++ rest) = some (.num n, rest) := by
  -- a number begins with a digit or a minus, so it is none of the three words
  have hnot : ∀ (word : List Char) (c : Char) (cs : List Char), word = c :: cs → c.isDigit = false →
      c ≠ '-' → word.isPrefixOf (n.text ++ rest) = false := by
    intro word c cs hword hdigit hminus
    obtain ⟨c', cs', htext, hc'⟩ := text_head n
    rw [hword, htext]
    have hne : (c == c') = false := by
      rw [beq_eq_false_iff_ne]
      rintro rfl
      rcases hc' with ⟨hc', -⟩ | ⟨hc', -⟩
      · exact hminus hc'
      · rw [hdigit] at hc'
        cases hc'
    simp [List.isPrefixOf, hne]
  rw [scanAtom, hnot _ 'n' _ rfl (by decide) (by decide), hnot _ 't' _ rfl (by decide) (by decide),
    hnot _ 'f' _ rfl (by decide) (by decide), scanNumber_text n h]
  rfl

/-- The scanner at the front of a list that has an item. -/
theorem scanValue_list {inner : List Char} {c : Char} {cs : List Char} (hinner : inner = c :: cs)
    (hspace : isJsonSpace c = false) (hclose : c ≠ ']') (fuel : Nat) :
    scanValue (fuel + 1) ('[' :: inner) =
      (scanItems fuel inner).map fun (vs, rest) => (.arr vs, rest) := by
  subst hinner
  rw [scanValue, if_neg (by decide), if_pos rfl, skipSpace_cons hspace]
  split
  · next heq => exact absurd (List.cons.inj heq).1 hclose
  · rfl

/-- The scanner at the front of an object that has a member. -/
theorem scanValue_object (inner : List Char) (fuel : Nat) :
    scanValue (fuel + 1) ('{' :: '"' :: inner) =
      (scanMembers fuel ('"' :: inner)).map fun (ms, rest) => (.obj ms, rest) := by
  rw [scanValue, if_neg (by decide), if_neg (by decide), if_pos rfl, skipSpace_cons (by decide)]
  rfl

/-- A number is neither a string nor a list nor an object, so it is read as an atom. -/
theorem scanValue_number (n : Number) {rest : List Char} (h : Ends rest) (fuel : Nat) :
    scanValue (fuel + 1) (n.text ++ rest) = some (.num n, rest) := by
  obtain ⟨c, cs, htext, hc⟩ := text_head n
  -- the first character decides which branch reads the value
  have hplain : c ≠ '"' ∧ c ≠ '[' ∧ c ≠ '{' := by
    refine ⟨?_, ?_, ?_⟩ <;>
    · rintro rfl
      rcases hc with ⟨hc, -⟩ | ⟨hc, -⟩ <;> cases hc
  have hatom := scanAtom_number n h
  rw [htext] at hatom ⊢
  show scanValue (fuel + 1) (c :: (cs ++ rest)) = _
  rw [scanValue, if_neg hplain.1, if_neg hplain.2.1, if_neg hplain.2.2]
  exact hatom

theorem stringText_append (s : String) (rest : List Char) :
    stringText s ++ rest = '"' :: (s.toList.flatMap escapeChar ++ '"' :: rest) := by
  simp [stringText]

/-- A member of an object and what follows it. -/
def memberText (space : List Char) (k : String) (v : Json) (ms : List (String × Json)) : List Char :=
  stringText k ++ (':' :: (space ++ (v.dumps space ++ membersText space ms)))

theorem membersText_cons (space : List Char) (k : String) (v : Json) (ms : List (String × Json)) :
    membersText space ((k, v) :: ms) = ',' :: (space ++ memberText space k v ms) := by
  rw [membersText, memberText]

theorem memberText_append (space : List Char) (k : String) (v : Json) (ms : List (String × Json))
    (rest : List Char) : memberText space k v ms ++ rest =
      '"' :: (k.toList.flatMap escapeChar ++ '"' ::
        (':' :: (space ++ (v.dumps space ++ (membersText space ms ++ rest))))) := by
  simp [memberText, stringText]

mutual

/-- **A value is read back** from its text, whatever may follow a value. -/
theorem scanValue_dumps {space : List Char} (hspace : ∀ c ∈ space, isJsonSpace c = true) :
    ∀ (v : Json) (fuel : Nat) (rest : List Char), (v.dumps space).length ≤ fuel → Ends rest →
      scanValue fuel (v.dumps space ++ rest) = some (v, rest)
  | .null, fuel + 1, rest, _, _ => rfl
  | .bool true, fuel + 1, rest, _, _ => rfl
  | .bool false, fuel + 1, rest, _, _ => rfl
  | .num n, fuel + 1, rest, _, hrest => by
      rw [Json.dumps]
      exact scanValue_number n hrest fuel
  | .str s, fuel + 1, rest, _, _ => by
      rw [Json.dumps, stringText_append, scanValue, if_pos rfl, scanString_text]
      rfl
  | .arr [], fuel + 1, rest, _, _ => rfl
  -- what stands behind the bracket is no blank and does not close the list
  | .arr (v :: vs), fuel + 1, rest, hfuel, _ => by
      obtain ⟨c, cs, htext, hc, hclose⟩ := dumps_head space v
      rw [Json.dumps] at hfuel ⊢
      rw [List.cons_append, List.append_assoc,
        scanValue_list (by rw [htext]; rfl) hc hclose,
        scanItems_dumps hspace v vs fuel rest (Nat.le_of_succ_le_succ hfuel)]
      rfl
  | .obj [], fuel + 1, rest, _, _ => rfl
  | .obj ((k, v) :: ms), fuel + 1, rest, hfuel, _ => by
      rw [Json.dumps] at hfuel ⊢
      have hmembers := scanMembers_dumps hspace k v ms fuel rest (Nat.le_of_succ_le_succ hfuel)
      rw [memberText_append] at hmembers
      show scanValue (fuel + 1) ('{' :: (memberText space k v ms ++ rest)) = _
      rw [memberText_append, scanValue_object, hmembers]
      rfl
  | v, 0, rest, hfuel, _ => by  -- no value is written as nothing
      obtain ⟨c, cs, htext, -⟩ := dumps_head space v
      rw [htext] at hfuel
      cases hfuel

theorem scanItems_dumps {space : List Char} (hspace : ∀ c ∈ space, isJsonSpace c = true) :
    ∀ (v : Json) (vs : List Json) (fuel : Nat) (rest : List Char),
      (v.dumps space ++ itemsText space vs).length ≤ fuel →
      scanItems fuel (v.dumps space ++ (itemsText space vs ++ rest)) = some (v :: vs, rest)
  | v, [], fuel + 1, rest, hfuel => by
      have hvalue := scanValue_dumps hspace v fuel (itemsText space [] ++ rest)
        (by simpa [itemsText] using hfuel) (ends_itemsText space [] rest)
      rw [scanItems, hvalue]
      rfl
  | v, v' :: vs, fuel + 1, rest, hfuel => by
      -- the fuel is the length of the text, of which one item and its comma are used up
      rw [itemsText, List.length_append, List.length_cons, List.length_append] at hfuel
      have hvalue := scanValue_dumps hspace v fuel (itemsText space (v' :: vs) ++ rest)
        (by omega) (ends_itemsText space (v' :: vs) rest)
      have hitems := scanItems_dumps hspace v' vs fuel rest (by omega)
      rw [scanItems, hvalue]
      simp only [itemsText, List.cons_append, skipSpace_cons comma_notSpace]
      rw [List.append_assoc, List.append_assoc, skipSpace_dumps hspace, hitems]
      rfl
  | v, vs, 0, rest, hfuel => by
      obtain ⟨c, cs, htext, -⟩ := dumps_head space v
      rw [htext] at hfuel
      cases hfuel

theorem scanMembers_dumps {space : List Char} (hspace : ∀ c ∈ space, isJsonSpace c = true) :
    ∀ (k : String) (v : Json) (ms : List (String × Json)) (fuel : Nat) (rest : List Char),
      (memberText space k v ms).length ≤ fuel →
      scanMembers fuel (memberText space k v ms ++ rest) = some ((k, v) :: ms, rest)
  | k, v, [], fuel + 1, rest, hfuel => by
      simp only [memberText, membersText, stringText, List.length_append, List.length_cons] at hfuel
      have hvalue := scanValue_dumps hspace v fuel (membersText space [] ++ rest)
        (by omega) (ends_membersText space [] rest)
      rw [memberText_append, scanMembers, scanString_text]
      simp only [skipSpace_cons colon_notSpace]
      rw [skipSpace_dumps hspace, hvalue]
      rfl
  | k, v, (k', v') :: ms, fuel + 1, rest, hfuel => by
      -- the fuel is the length of the text, so the rest has enough of it
      have hlength : (memberText space k v ((k', v') :: ms)).length =
          (stringText k).length + (space.length + ((v.dumps space).length +
            (space.length + (memberText space k' v' ms).length + 1)) + 1) := by
        simp [memberText, membersText]
      have hvalue := scanValue_dumps hspace v fuel (membersText space ((k', v') :: ms) ++ rest)
        (by omega) (ends_membersText space ((k', v') :: ms) rest)
      have hmembers := scanMembers_dumps hspace k' v' ms fuel rest (by omega)
      have hfront : skipSpace (space ++ (memberText space k' v' ms ++ rest)) =
          memberText space k' v' ms ++ rest := by
        rw [skipSpace_space hspace, memberText_append, skipSpace_cons (by decide)]
      rw [memberText_append, scanMembers, scanString_text]
      simp only [skipSpace_cons colon_notSpace]
      rw [skipSpace_dumps hspace, hvalue]
      simp only [membersText_cons, List.cons_append, skipSpace_cons comma_notSpace]
      rw [List.append_assoc, hfront, hmembers]
      rfl
  | k, v, ms, 0, rest, hfuel => by
      cases hfuel

end

/-- **`loads` undoes `dumps`**, whatever white space the separators end with. -/
theorem loads_dumps {space : List Char} (hspace : ∀ c ∈ space, isJsonSpace c = true) (v : Json) :
    loads (v.dumps space) = some v := by
  obtain ⟨c, cs, htext, hc, -⟩ := dumps_head space v
  have hskip : skipSpace (v.dumps space) = v.dumps space := by
    rw [htext]
    exact skipSpace_cons hc cs
  have hread := scanValue_dumps hspace v ((v.dumps space).length + 1) [] (Nat.le_succ _)
    (fun c hc => by cases hc)
  rw [List.append_nil] at hread
  rw [loads, hskip, hread]
  rfl

/-! ## What a text is made of

All of a text is printable ASCII, so it can be sent as bytes of any encoding, and it contains no
line break. -/

/-- Printable ASCII. -/
def isPrintable (c : Char) : Bool := 32 ≤ c.toNat && c.toNat ≤ 126

/-- A hexadecimal digit is printable, hence an escaped unit, hence a character as it is written,
hence a string. -/
theorem isPrintable_hexDigit (n : Nat) : isPrintable (hexDigit n) = true := by
  have hall : ∀ c ∈ "0123456789abcdef".toList, isPrintable c = true := List.all_eq_true.mp rfl
  rw [hexDigit, List.getD_eq_getElem?_getD]
  cases h : "0123456789abcdef".toList[n]? with
  | none => rfl
  | some c => exact hall c (List.mem_of_getElem? h)

theorem isPrintable_escapeUnit (n : Nat) : ∀ c ∈ escapeUnit n, isPrintable c = true := by
  simp only [escapeUnit, List.forall_mem_cons, isPrintable_hexDigit, true_and]
  exact ⟨rfl, rfl, by simp⟩

theorem isPrintable_escapeChar (c : Char) : ∀ d ∈ escapeChar c, isPrintable d = true := by
  unfold escapeChar
  split
  · next e he =>
    have hletter : isPrintable e = true := by
      unfold shortEscape at he
      split_ifs at he <;> obtain rfl := Option.some.inj he <;> rfl
    exact List.forall_mem_cons.mpr ⟨rfl, List.forall_mem_singleton.mpr hletter⟩
  · split
    · next hplain => simpa [isPrintable] using hplain
    · intro d hd
      obtain ⟨u, -, hu⟩ := List.mem_flatMap.mp hd
      exact isPrintable_escapeUnit u d hu

theorem isPrintable_stringText (s : String) : ∀ c ∈ stringText s, isPrintable c = true := by
  intro c hc
  rw [stringText, List.mem_append, List.mem_cons, List.mem_flatMap, List.mem_singleton] at hc
  rcases hc with (rfl | ⟨d, -, hd⟩) | rfl
  · rfl
  · exact isPrintable_escapeChar d c hd
  · rfl

/-- So is a digit, and a number in each of its parts. -/
theorem isPrintable_digit {c : Char} (h : c.isDigit = true) : isPrintable c = true := by
  simp only [Char.isDigit, Bool.and_eq_true, decide_eq_true_eq, UInt32.le_iff_toNat_le] at h
  have hlow : 48 ≤ c.toNat := h.1
  have hhigh : c.toNat ≤ 57 := h.2
  simp only [isPrintable, Bool.and_eq_true, decide_eq_true_eq]
  omega

theorem isPrintable_number (n : Number) : ∀ c ∈ n.text, isPrintable c = true := by
  have hfraction : ∀ c ∈ fractionText n.fraction, isPrintable c = true := by
    intro c hc
    unfold fractionText at hc
    split at hc
    · cases hc
    · rcases List.mem_cons.mp hc with rfl | hc
      · rfl
      · obtain ⟨d, -, rfl⟩ := List.mem_map.mp hc
        exact isPrintable_digit (digitChar_isDigit d)
  have hexponent : ∀ c ∈ exponentText n.exponent, isPrintable c = true := by
    intro c hc
    unfold exponentText at hc
    split at hc
    · cases hc
    · rcases List.mem_cons.mp hc with rfl | hc
      · rfl
      · rcases List.mem_cons.mp hc with rfl | hc
        · split <;> rfl
        · exact isPrintable_digit ((exponentDigits_spec _).1 c hc)
  intro c hc  -- the sign, the digits, the fraction and the exponent
  rcases List.mem_append.mp hc with hc | hc
  · split at hc
    · rw [List.mem_singleton.mp hc]
      rfl
    · cases hc
  rcases List.mem_append.mp hc with hc | hc
  · exact isPrintable_digit (toDigits_digits _ c hc)
  rcases List.mem_append.mp hc with hc | hc
  · exact hfraction c hc
  · exact hexponent c hc

section Printable

variable {space : List Char} (hspace : ∀ c ∈ space, isPrintable c = true)

include hspace

mutual

/-- **The text of a value is printable ASCII**: whatever else there is in it is escaped. -/
theorem isPrintable_dumps : ∀ (v : Json), ∀ c ∈ v.dumps space, isPrintable c = true
  | .null => by rw [Json.dumps]; exact List.all_eq_true.mp rfl
  | .bool true => by rw [Json.dumps]; exact List.all_eq_true.mp rfl
  | .bool false => by rw [Json.dumps]; exact List.all_eq_true.mp rfl
  | .num n => by rw [Json.dumps]; exact isPrintable_number n
  | .str s => by rw [Json.dumps]; exact isPrintable_stringText s
  | .arr [] => by rw [Json.dumps]; exact List.all_eq_true.mp rfl
  | .arr (v :: vs) => by  -- the items and members are mutual with this
      rw [Json.dumps, List.forall_mem_cons, List.forall_mem_append]
      exact ⟨rfl, isPrintable_dumps v, isPrintable_items vs⟩
  | .obj [] => by rw [Json.dumps]; exact List.all_eq_true.mp rfl
  | .obj ((k, v) :: ms) => by
      rw [Json.dumps, List.forall_mem_cons, List.forall_mem_append, List.forall_mem_cons,
        List.forall_mem_append, List.forall_mem_append]
      exact ⟨rfl, isPrintable_stringText k, rfl, hspace, isPrintable_dumps v, isPrintable_members ms⟩

theorem isPrintable_items : ∀ (vs : List Json), ∀ c ∈ itemsText space vs, isPrintable c = true
  | [] => by rw [itemsText]; exact List.all_eq_true.mp rfl
  | v :: vs => by
      rw [itemsText, List.forall_mem_cons, List.forall_mem_append, List.forall_mem_append]
      exact ⟨rfl, hspace, isPrintable_dumps v, isPrintable_items vs⟩

theorem isPrintable_members :
    ∀ (ms : List (String × Json)), ∀ c ∈ membersText space ms, isPrintable c = true
  | [] => by rw [membersText]; exact List.all_eq_true.mp rfl
  | (k, v) :: ms => by
      rw [membersText, List.forall_mem_cons, List.forall_mem_append, List.forall_mem_append,
        List.forall_mem_cons, List.forall_mem_append, List.forall_mem_append]
      exact ⟨rfl, hspace, isPrintable_stringText k, rfl, hspace, isPrintable_dumps v,
        isPrintable_members ms⟩

end

end Printable

/-- An object's text ends with its brace. -/
theorem membersText_concat (space : List Char) (ms : List (String × Json)) :
    ∃ cs, membersText space ms = cs ++ ['}'] := by
  induction ms with
  | nil => exact ⟨[], rfl⟩
  | cons kv ms ih =>
      obtain ⟨k, v⟩ := kv
      obtain ⟨cs, hcs⟩ := ih
      rw [membersText, hcs]
      refine ⟨',' :: (space ++ (stringText k ++ (':' :: (space ++ (v.dumps space ++ cs))))), ?_⟩
      simp

/-- The text of an object stands between braces. -/
theorem dumps_obj (space : List Char) (ms : List (String × Json)) :
    ∃ cs, (Json.obj ms).dumps space = '{' :: (cs ++ ['}']) := by
  cases ms with
  | nil => exact ⟨[], by rw [Json.dumps]; rfl⟩
  | cons kv ms =>
      obtain ⟨k, v⟩ := kv
      obtain ⟨cs, hcs⟩ := membersText_concat space ms
      rw [Json.dumps, hcs]
      refine ⟨stringText k ++ (':' :: (space ++ (v.dumps space ++ cs))), ?_⟩
      simp

end Py
