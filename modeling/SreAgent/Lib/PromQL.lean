import Mathlib.Data.List.Basic
import Mathlib.Tactic.Linarith

/-!
# PromQL

The part of Prometheus' query language that instant vectors, range vectors, functions of one of
them, aggregations and binary operators make up; `offset`, `@`, subqueries and vector matching are
left out, so a text that is read here is read by Prometheus in the same way.

    text (String) ──lex──▶ tokens ──parseExpr──▶ Expr ──kind──▶ checked

The lexer goes from character to character. A string literal ends at the first quote of its kind that
is not escaped; a text that ends, or a line that ends, inside of it is no query. What a text written
around a foreign string is read as is decided by the lexer alone: `scan_literal` if the string is the
inside of a literal, `lex_broken` if it neither is nor ends the literal.
-/

namespace PromQL

/-! ## Tokens

The lexer is one step for each character, and its mode says what the characters read so far may
still become. A word or a number ends where a character does not belong to it any more; that
character then opens the next token, so `step` goes back to `start`. -/

inductive Token where
  | word (text : String)      -- an identifier or a keyword
  | number (text : String)    -- a number or a duration
  | str (value : String)
  | op (text : String)
  deriving DecidableEq, Repr

/-- Where the lexer is. -/
inductive Mode where
  | between
  | word (text : List Char)
  | number (text : List Char)
  | operator (first : Char)
  | literal (quote : Char) (value : List Char)
  | escape (quote : Char) (value : List Char)
  | code (quote : Char) (value : List Char) (base left n : Nat)
  | raw (value : List Char)
  | comment
  deriving DecidableEq, Repr

/-- The tokens found so far, and the mode. -/
abbrev Lexer := List Token × Mode

def isLetter (c : Char) : Bool := ('a' ≤ c && c ≤ 'z') || ('A' ≤ c && c ≤ 'Z')

def isDigit (c : Char) : Bool := '0' ≤ c && c ≤ '9'

def isWordStart (c : Char) : Bool := isLetter c || c == '_' || c == ':'

def isWordChar (c : Char) : Bool := isWordStart c || isDigit c

def isNumberChar (c : Char) : Bool := isDigit c || isLetter c || c == '.'

/-- A character between two tokens. -/
def start (ts : List Token) (c : Char) : Option Lexer :=
  if [' ', '\t', '\n', '\r'].contains c then some (ts, .between)
  else if isWordStart c then some (ts, .word [c])
  else if isDigit c || c == '.' then some (ts, .number [c])
  else if c == '"' || c == '\'' then some (ts, .literal c [])
  else if c == '\x60' then some (ts, .raw [])
  else if c == '#' then some (ts, .comment)
  else if ['=', '!', '<', '>'].contains c then some (ts, .operator c)
  else if ['(', ')', '{', '}', '[', ']', ',', '+', '-', '*', '/', '%', '^'].contains c then
    some (ts ++ [.op (String.singleton c)], .between)
  else none

/-- The character a letter stands for after a backslash. -/
def simpleEscape (quote c : Char) : Option Char :=
  if c == quote || c == '\\' then some c
  else if c == 'a' then some '\x07'
  else if c == 'b' then some '\x08'
  else if c == 'f' then some '\x0c'
  else if c == 'n' then some '\n'
  else if c == 'r' then some '\r'
  else if c == 't' then some '\t'
  else if c == 'v' then some '\x0b'
  else none

/-- The value of a hexadecimal digit. No base is greater than 16, so for any other character it is
no digit. -/
def digitValue (c : Char) : Nat :=
  if isDigit c then c.toNat - '0'.toNat
  else if 'a' ≤ c && c ≤ 'f' then c.toNat - 'a'.toNat + 10
  else if 'A' ≤ c && c ≤ 'F' then c.toNat - 'A'.toNat + 10
  else 16

/-- One more digit of a code. The last one makes it a character, if there is such a character; an
octal code is a byte. -/
def codeDigit (quote : Char) (value : List Char) (base left n : Nat) (c : Char) : Option Mode :=
  if digitValue c < base then
    let n := n * base + digitValue c
    if left > 1 then some (.code quote value base (left - 1) n)
    else if n.isValidChar && (base == 16 || n ≤ 255) then
      some (.literal quote (value ++ [Char.ofNat n]))
    else none
  else none

/-- A character after a backslash. -/
def escaped (quote : Char) (value : List Char) (c : Char) : Option Mode :=
  match simpleEscape quote c with
  | some d => some (.literal quote (value ++ [d]))
  | none =>
    if c == 'x' then some (.code quote value 16 2 0)
    else if c == 'u' then some (.code quote value 16 4 0)
    else if c == 'U' then some (.code quote value 16 8 0)
    else codeDigit quote value 8 3 0 c

def twoChars (first second : Char) : Bool :=
  [('=', '='), ('=', '~'), ('!', '='), ('!', '~'), ('<', '='), ('>', '=')].contains (first, second)

/-- One character further. There is no next state where Prometheus reports an error. -/
def step : Lexer → Char → Option Lexer
  | (ts, .between), c => start ts c
  | (ts, .word text), c =>
    if isWordChar c then some (ts, .word (text ++ [c]))
    else start (ts ++ [.word (String.ofList text)]) c
  | (ts, .number text), c =>
    if isNumberChar c then some (ts, .number (text ++ [c]))
    else start (ts ++ [.number (String.ofList text)]) c
  | (ts, .operator first), c =>
    if twoChars first c then some (ts ++ [.op (String.ofList [first, c])], .between)
    else if first == '!' then none
    else start (ts ++ [.op (String.singleton first)]) c
  | (ts, .literal quote value), c =>
    if c == quote then some (ts ++ [.str (String.ofList value)], .between)
    else if c == '\\' then some (ts, .escape quote value)
    else if c == '\n' then none
    else some (ts, .literal quote (value ++ [c]))
  | (ts, .escape quote value), c => (escaped quote value c).map fun mode => (ts, mode)
  | (ts, .code quote value base left n), c =>
    (codeDigit quote value base left n c).map fun mode => (ts, mode)
  | (ts, .raw value), c =>
    if c == '\x60' then some (ts ++ [.str (String.ofList value)], .between)
    else some (ts, .raw (value ++ [c]))
  | (ts, .comment), c => some (ts, if c == '\n' then .between else .comment)

/-- The end of the text. -/
def finish : Lexer → Option (List Token)
  | (ts, .between)        => some ts
  | (ts, .comment)        => some ts
  | (ts, .word text)      => some (ts ++ [.word (String.ofList text)])
  | (ts, .number text)    => some (ts ++ [.number (String.ofList text)])
  | (ts, .operator first) => if first == '!' then none else some (ts ++ [.op (String.singleton first)])
  | (_, .literal ..) | (_, .escape ..) | (_, .code ..) | (_, .raw ..) => none

def scan (s : Lexer) (cs : List Char) : Option Lexer := cs.foldlM step s

def lex (text : String) : Option (List Token) := (scan ([], .between) text.toList).bind finish

/-! ## Expressions

What Prometheus calls the type of an expression is checked before anything is evaluated, so an
expression without a `kind` is refused. A vector selector has to name its metric or to ask for some
label that is not empty. -/

inductive MatchOp where
  | eq
  | ne
  | re
  | nre
  deriving DecidableEq, Repr

structure Matcher where
  label : String
  op    : MatchOp
  value : String
  deriving DecidableEq, Repr

inductive Expr where
  | number (text : String)
  | selector (metric : Option String) (matchers : List Matcher)
  | range (e : Expr) (duration : String)
  | call (function : String) (arg : Expr)
  | aggregate (op : String) (without : Bool) (labels : List String) (arg : Expr)
  | negate (e : Expr)
  | binary (op : String) (l r : Expr)
  | paren (e : Expr)
  deriving DecidableEq, Repr

/-- The matchers of every vector selector of an expression. -/
def Expr.selectors : Expr → List (List Matcher)
  | .number _             => []
  | .selector _ matchers  => [matchers]
  | .range e _            => e.selectors
  | .call _ arg           => arg.selectors
  | .aggregate _ _ _ arg  => arg.selectors
  | .negate e             => e.selectors
  | .binary _ l r         => l.selectors ++ r.selectors
  | .paren e              => e.selectors

/-- The types of expressions, but for strings, which no operator or function of this part takes. -/
inductive Kind where
  | scalar
  | instant
  | range
  deriving DecidableEq, Repr

def rangeFunctions : List String :=
  ["rate", "irate", "increase", "delta", "idelta", "deriv", "changes", "resets",
   "avg_over_time", "min_over_time", "max_over_time", "sum_over_time", "count_over_time",
   "last_over_time", "stddev_over_time", "stdvar_over_time", "present_over_time"]

def instantFunctions : List String :=
  ["abs", "ceil", "floor", "exp", "ln", "log2", "log10", "sqrt", "sgn", "sort", "sort_desc",
   "timestamp", "absent"]

def setOperators : List String := ["and", "or", "unless"]

def comparisons : List String := ["==", "!=", "<", "<=", ">", ">="]

def isNumber (text : String) : Bool := !text.isEmpty && text.toList.all isDigit

def isDuration (text : String) : Bool :=
  (text.toList.head?.any isDigit) && ["ms", "s", "m", "h", "d", "w", "y"].any fun unit =>
    text.toList.dropWhile isDigit == unit.toList

/-- Some matcher asks for a label. -/
def asksForLabel (matchers : List Matcher) : Bool := matchers.any fun m => m.op == .eq && m.value != ""

/-- What an expression evaluates to, where it is well typed. -/
def Expr.kind : Expr → Option Kind
  | .number text           => if isNumber text then some .scalar else none
  | .selector metric ms    => if metric.isSome || asksForLabel ms then some .instant else none
  | .range e duration      =>
    match e with
    | .selector metric ms =>
      if (metric.isSome || asksForLabel ms) && isDuration duration then some .range else none
    | _ => none
  | .call function arg     =>
    if rangeFunctions.contains function && arg.kind == some .range then some .instant
    else if instantFunctions.contains function && arg.kind == some .instant then some .instant
    else none
  | .aggregate _ _ _ arg   => if arg.kind == some .instant then some .instant else none
  | .negate e              => e.kind.filter (· != .range)
  | .paren e               => e.kind
  | .binary op l r         =>
    match l.kind, r.kind with
    | some .instant, some .instant => some .instant
    | some .scalar, some .scalar   =>
      if setOperators.contains op || comparisons.contains op then none else some .scalar
    | some .scalar, some .instant  => if setOperators.contains op then none else some .instant
    | some .instant, some .scalar  => if setOperators.contains op then none else some .instant
    | _, _                         => none

/-! ## Parsing

Recursive descent over the tokens, with binding strengths for the binary operators. The mutual
functions take fuel; each of them hands on at most as many tokens as it was given, so that four
calls for a token are enough. -/

def matchOp : String → Option MatchOp
  | "="  => some .eq
  | "!=" => some .ne
  | "=~" => some .re
  | "!~" => some .nre
  | _    => none

/-- The matchers up to the closing brace; a comma may follow the last one. -/
def parseMatchers : List Token → Option (List Matcher × List Token)
  | .op "\x7d" :: rest => some ([], rest)
  | .word label :: .op o :: .str value :: .op "\x7d" :: rest =>
    (matchOp o).map fun op => ([⟨label, op, value⟩], rest)
  | .word label :: .op o :: .str value :: .op "," :: rest => do
    let op ← matchOp o
    let (ms, rest) ← parseMatchers rest
    some (⟨label, op, value⟩ :: ms, rest)
  | _ => none

/-- The labels up to the closing parenthesis. -/
def parseLabels : List Token → Option (List String × List Token)
  | .op ")" :: rest                       => some ([], rest)
  | .word label :: .op ")" :: rest        => some ([label], rest)
  | .word label :: .op "," :: rest        => do
    let (ls, rest) ← parseLabels rest
    some (label :: ls, rest)
  | _ => none

def aggregators : List String :=
  ["sum", "min", "max", "avg", "count", "stddev", "stdvar", "group"]

def keywords : List String := ["by", "without", "and", "or", "unless", "on", "ignoring", "bool",
  "offset", "group_left", "group_right"]

/-- The binding strength of a binary operator. -/
def strength : Token → Option (Nat × String)
  | .word "or"     => some (1, "or")
  | .word "and"    => some (2, "and")
  | .word "unless" => some (2, "unless")
  | .op o          =>
    if comparisons.contains o then some (3, o)
    else if o = "+" || o = "-" then some (4, o)
    else if o = "*" || o = "/" || o = "%" then some (5, o)
    else if o = "^" then some (6, o)
    else none
  | _ => none

/-- A vector selector may be followed by a range. -/
def parseRange (e : Expr) : List Token → Option (Expr × List Token)
  | .op "[" :: .number duration :: .op "]" :: rest => some (.range e duration, rest)
  | .op "[" :: _                                   => none
  | rest                                           => some (e, rest)

mutual

/-- An expression whose operators bind at least as strongly as `least`. -/
def parseExpr (fuel least : Nat) (ts : List Token) : Option (Expr × List Token) :=
  match fuel with
  | 0        => none
  | fuel + 1 => do
    let (l, rest) ← parseUnary fuel ts
    parseRest fuel least l rest

/-- What follows a first operand. The operators are left associative, but for `^`. -/
def parseRest (fuel least : Nat) (l : Expr) (ts : List Token) : Option (Expr × List Token) :=
  match fuel with
  | 0        => none
  | fuel + 1 =>
    match ts with
    | []      => some (l, [])
    | t :: rest =>
      match strength t with
      | some (n, o) =>
        if least ≤ n then do
          let (r, rest) ← parseExpr fuel (if o = "^" then n else n + 1) rest
          parseRest fuel least (.binary o l r) rest
        else some (l, ts)
      | none => some (l, ts)

/-- A sign binds less than `^` and more than anything else. -/
def parseUnary (fuel : Nat) (ts : List Token) : Option (Expr × List Token) :=
  match fuel with
  | 0        => none
  | fuel + 1 =>
    match ts with
    | .op "-" :: rest => do
      let (e, rest) ← parseExpr fuel 6 rest
      some (.negate e, rest)
    | .op "+" :: rest => parseExpr fuel 6 rest
    | _               => parsePrimary fuel ts

/-- A number, an expression in parentheses, a selector, a call or an aggregation. A keyword does not
name a metric. -/
def parsePrimary (fuel : Nat) (ts : List Token) : Option (Expr × List Token) :=
  match fuel with
  | 0        => none
  | fuel + 1 =>
    match ts with
    | .number text :: rest => some (.number text, rest)
    | .op "(" :: rest      => do
      let (e, rest) ← parseExpr fuel 0 rest
      match rest with
      | .op ")" :: rest => some (.paren e, rest)
      | _               => none
    | .op "\x7b" :: rest      => do
      let (ms, rest) ← parseMatchers rest
      parseRange (.selector none ms) rest
    | .word w :: .op "\x7b" :: rest => do
      if keywords.contains w then none
      let (ms, rest) ← parseMatchers rest
      parseRange (.selector (some w) ms) rest
    | .word w :: .word g :: .op "(" :: rest =>
      -- an aggregation with its labels first
      if aggregators.contains w && (g = "by" || g = "without") then do
        let (ls, rest) ← parseLabels rest
        match rest with
        | .op "(" :: rest => do
          let (e, rest) ← parseExpr fuel 0 rest
          match rest with
          | .op ")" :: rest => some (.aggregate w (g = "without") ls e, rest)
          | _               => none
        | _ => none
      else if keywords.contains w then none
      else parseRange (.selector (some w) []) (.word g :: .op "(" :: rest)
    | .word w :: .op "(" :: rest => do
      if keywords.contains w then none
      let (e, rest) ← parseExpr fuel 0 rest
      match rest with
      | .op ")" :: .word g :: .op "(" :: rest =>
        -- an aggregation with its labels last
        if aggregators.contains w && (g = "by" || g = "without") then do
          let (ls, rest) ← parseLabels rest
          some (.aggregate w (g = "without") ls e, rest)
        else some (if aggregators.contains w then .aggregate w false [] e else .call w e,
          .word g :: .op "(" :: rest)
      | .op ")" :: rest =>
        some (if aggregators.contains w then .aggregate w false [] e else .call w e, rest)
      | _ => none
    | .word w :: rest =>
      if keywords.contains w then none else parseRange (.selector (some w) []) rest
    | _ => none

end

/-- The expression of a whole text, well typed. -/
def parseTokens (ts : List Token) : Option Expr :=
  match parseExpr (4 * ts.length + 4) 0 ts with
  | some (e, []) => if e.kind.isSome then some e else none
  | _            => none

/-- A text as Prometheus reads it, `none` for a bad query. -/
def parse (text : String) : Option Expr := (lex text).bind parseTokens

/-! ## Scanning piece by piece

A query is written as a text around a value, so the lexer is followed over the pieces one after the
other. What it found before does not matter for what it finds next (`scan_after`). -/

/-- The first character, and then the others. -/
theorem scan_cons (s : Lexer) (c : Char) (cs : List Char) :
    scan s (c :: cs) = (step s c).bind fun s => scan s cs := by
  unfold scan
  rw [List.foldlM_cons]
  rfl

/-- A text in two pieces. -/
theorem scan_append (s : Lexer) (cs ds : List Char) :
    scan s (cs ++ ds) = (scan s cs).bind fun s => scan s ds := by
  unfold scan
  rw [List.foldlM_append]
  rfl

/-- The tokens found before. -/
def after (before : List Token) (s : Lexer) : Lexer := (before ++ s.1, s.2)

/-- A token that begins does so whatever was found before, -/
theorem start_after (before ts : List Token) (c : Char) :
    start (before ++ ts) c = (start ts c).map (after before) := by
  unfold start
  simp only [apply_ite (Option.map (after before)), Option.map_some, Option.map_none, after,
    List.append_assoc]

/-- and so does each further step: only the mode is looked at. -/
theorem step_after (before : List Token) (s : Lexer) (c : Char) :
    step (after before s) c = (step s c).map (after before) := by
  obtain ⟨ts, mode⟩ := s
  cases mode <;>
    simp only [step, after, List.append_assoc, start_after, apply_ite (Option.map (after before)),
      Option.map_some, Option.map_none, Option.map_map, Function.comp_def]

/-- Tokens found before stay before. -/
theorem scan_after (before : List Token) (s : Lexer) (cs : List Char) :
    scan (after before s) cs = (scan s cs).map (after before) := by
  induction cs generalizing s with
  | nil => rfl
  | cons c cs ih =>
      rw [scan_cons, scan_cons, step_after]
      cases step s c with
      | none => rfl
      | some s' => exact ih s'

/-! ## Literals

Three things can happen to a text between the quotes of a literal. It may be the inside of a
literal: then the query keeps the shape of the template. It may end the literal before its own end:
then the rest of it is query text. In any other case the whole is no query, since the lexer fails or
never comes out again. -/

/-- The text is the inside of a double-quoted literal of this value. -/
def Body (body value : List Char) : Prop :=
  scan ([], .literal '"' []) body = some ([], .literal '"' value)

/-- A character that a double-quoted literal may hold as it stands. -/
def isPlain (c : Char) : Bool := c != '"' && c != '\\' && c != '\n'

/-- A plain character is added to the value, by induction on the text, with the value read so far
left open. -/
theorem scan_plain (value : List Char) {body : List Char} (h : body.all isPlain = true) :
    scan ([], .literal '"' value) body = some ([], .literal '"' (value ++ body)) := by
  induction body generalizing value with
  | nil => rw [List.append_nil]; rfl
  | cons c cs ih =>
      rw [List.all_cons, Bool.and_eq_true] at h
      obtain ⟨hc, hcs⟩ := h
      simp only [isPlain, Bool.and_eq_true, bne_iff_ne] at hc
      have hstep : step ([], .literal '"' value) c = some ([], .literal '"' (value ++ [c])) := by
        simp [step, hc]
      rw [scan_cons, hstep]
      show scan ([], .literal '"' (value ++ [c])) cs = _
      rw [ih _ hcs, List.append_assoc]
      rfl

/-- Without quotes, backslashes and line ends a text stands for itself. -/
theorem body_plain {body : List Char} (h : body.all isPlain = true) : Body body body :=
  scan_plain [] h

/-- **A literal is one token**: inside of it the lexer goes on to the closing quote, and what stood
there is its value. -/
theorem scan_body {body value : List Char} (h : Body body value) (ts : List Token)
    (rest : List Char) :
    scan (ts, .literal '"' []) (body ++ '"' :: rest) =
      scan (ts ++ [.str (String.ofList value)], .between) rest := by
  have hbody : scan (ts, .literal '"' []) body = some (ts, .literal '"' value) := by
    have := scan_after ts ([], .literal '"' []) body
    rw [h] at this
    simpa [after] using this
  rw [scan_append, hbody]
  show (step (ts, .literal '"' value) '"').bind (fun s => scan s rest) = _
  simp [step]

/-- **A text around a literal** is lexed as what stands before it, the literal, and what follows. -/
theorem scan_literal {s s' : Lexer} {before body value rest : List Char} {ts : List Token}
    (hbefore : scan s before = some (ts, .literal '"' [])) (hbody : Body body value)
    (hrest : scan ([], .between) rest = some s') :
    scan s (before ++ (body ++ '"' :: rest)) =
      some (after (ts ++ [.str (String.ofList value)]) s') := by
  have hafter := scan_after (ts ++ [.str (String.ofList value)]) ([], .between) rest
  rw [hrest] at hafter
  rw [scan_append, hbefore]
  show scan (ts, .literal '"' []) (body ++ '"' :: rest) = _
  rw [scan_body hbody, ← Option.map_some, ← hafter]
  simp [after]

/-- The lexer is inside of a double-quoted literal. -/
def Inside : Mode → Prop
  | .literal q _ => q = '"'
  | .escape q _  => q = '"'
  | .code q ..   => q = '"'
  | _            => False

/-- A text that ends inside of a literal is none. -/
theorem finish_inside {ts : List Token} {mode : Mode} (h : Inside mode) :
    finish (ts, mode) = none := by
  cases mode with
  | literal => rfl
  | escape => rfl
  | code => rfl
  | _ => cases h

/-- A digit of a code does not lead out of the literal, -/
theorem codeDigit_inside {value : List Char} {base left n : Nat} {c : Char} {mode : Mode}
    (h : codeDigit '"' value base left n c = some mode) : Inside mode := by
  unfold codeDigit at h
  dsimp only at h
  split at h
  · split at h
    · rw [← Option.some.inj h]
      rfl
    split at h
    · rw [← Option.some.inj h]
      rfl
    · cases h
  · cases h

/-- and neither does a character behind a backslash, the quote included. -/
theorem escaped_inside {value : List Char} {c : Char} {mode : Mode}
    (h : escaped '"' value c = some mode) : Inside mode := by
  unfold escaped at h  -- whatever the escape is, the lexer is still inside of the literal
  split at h
  · rw [← Option.some.inj h]
    rfl
  split at h
  · rw [← Option.some.inj h]
    rfl
  split at h
  · rw [← Option.some.inj h]
    rfl
  split at h
  · rw [← Option.some.inj h]
    rfl
  · exact codeDigit_inside h

/-- One character inside of a literal: the lexer fails, stays inside, or the literal ends. -/
theorem step_inside (ts : List Token) {mode : Mode} (hmode : Inside mode) (c : Char) :
    step (ts, mode) c = none ∨ (∃ mode', Inside mode' ∧ step (ts, mode) c = some (ts, mode')) ∨
      c = '"' ∧ ∃ value, mode = .literal '"' value := by
  -- the two cases behind a backslash only change the mode
  have lifted : ∀ o : Option Mode, (∀ m, o = some m → Inside m) →
      o.map (fun m => (ts, m)) = none ∨
        ∃ mode', Inside mode' ∧ o.map (fun m => (ts, m)) = some (ts, mode') := by
    intro o ho
    cases o with
    | none => exact .inl rfl
    | some m => exact .inr ⟨m, ho m rfl, rfl⟩
  cases mode with
  | literal q value =>
      obtain rfl : q = '"' := hmode
      by_cases hquote : c = '"'
      · exact .inr (.inr ⟨hquote, value, rfl⟩)
      by_cases hback : c = '\\'
      · exact .inr (.inl ⟨.escape '"' value, rfl, by simp [step, hback]⟩)
      by_cases hline : c = '\n'
      · exact .inl (by simp [step, hline])
      · exact .inr (.inl ⟨.literal '"' (value ++ [c]), rfl, by simp [step, hquote, hback, hline]⟩)
  | escape q value =>
      obtain rfl : q = '"' := hmode
      rcases lifted _ fun m hm => @escaped_inside value c m hm with h | h
      · exact .inl h
      · exact .inr (.inl h)
  | code q value base left n =>
      obtain rfl : q = '"' := hmode
      rcases lifted _ fun m hm => @codeDigit_inside value base left n c m hm with h | h
      · exact .inl h
      · exact .inr (.inl h)
  | between | word | number | operator | raw | comment => cases hmode

/-- Some text inside of a literal: the lexer fails, or stays inside, or the literal ends in it. -/
theorem scan_inside {mode : Mode} (hmode : Inside mode) (cs : List Char) :
    scan ([], mode) cs = none ∨ (∃ mode', Inside mode' ∧ scan ([], mode) cs = some ([], mode')) ∨
      ∃ a b value, cs = a ++ '"' :: b ∧ scan ([], mode) a = some ([], .literal '"' value) := by
  induction cs generalizing mode with
  | nil => exact .inr (.inl ⟨mode, hmode, rfl⟩)
  | cons c cs ih =>
      -- one character is read; the induction goes on unless the literal has ended or
      -- failed
      rcases step_inside [] hmode c with h | ⟨mode', hmode', h⟩ | ⟨rfl, value, rfl⟩
      · left
        rw [scan_cons, h]
        rfl
      · have hscan : ∀ ds, scan ([], mode) (c :: ds) = scan ([], mode') ds := by
          intro ds
          rw [scan_cons, h]
          rfl
        rcases ih hmode' with hnone | ⟨mode'', hmode'', hsome⟩ | ⟨a, b, value, rfl, ha⟩
        · exact .inl ((hscan cs).trans hnone)
        · exact .inr (.inl ⟨mode'', hmode'', (hscan cs).trans hsome⟩)
        · exact .inr (.inr ⟨c :: a, b, value, rfl, (hscan a).trans ha⟩)
      · exact .inr (.inr ⟨[], cs, value, rfl, rfl⟩)

/-- A literal that is not ended until the text ends makes it no query. -/
theorem finish_scan_inside {ts : List Token} {mode : Mode} (hmode : Inside mode) {cs : List Char}
    (hcs : '"' ∉ cs) : (scan (ts, mode) cs).bind finish = none := by
  have hafter : scan (ts, mode) cs = (scan ([], mode) cs).map (after ts) := by
    rw [← scan_after]
    simp [after]
  rw [hafter]
  rcases scan_inside hmode cs with h | ⟨mode', hmode', h⟩ | ⟨a, b, -, rfl, -⟩
  · rw [h]
    rfl
  · rw [h]
    exact finish_inside hmode'
  · exact absurd (List.mem_append_right _ (List.mem_cons_self ..)) hcs

/-- The text ends a literal it is written into. -/
def ClosesEarly (body : List Char) : Prop := ∃ a b value, body = a ++ '"' :: b ∧ Body a value

/-- **A text that neither is the inside of a literal nor ends it** spoils what it is written into. -/
theorem lex_broken {body : List Char} (hbody : ∀ value, ¬ Body body value)
    (hopen : ¬ ClosesEarly body) (ts : List Token) {rest : List Char} (hrest : '"' ∉ rest) :
    (scan (ts, .literal '"' []) (body ++ '"' :: rest)).bind finish = none := by
  have hafter : scan (ts, .literal '"' []) body = (scan ([], .literal '"' []) body).map (after ts) := by
    rw [← scan_after]
    simp [after]
  have hmode : Inside (.literal '"' []) := rfl
  rw [scan_append, hafter]
  rcases scan_inside hmode body with h | ⟨mode, hinside, h⟩ | ⟨a, b, value, rfl, ha⟩
  · rw [h]
    rfl
  · rw [h]
    show (scan (ts ++ [], mode) ('"' :: rest)).bind finish = none
    rw [scan_cons]
    -- the quote is the escaped character, or no digit; in no case does it end the literal
    rcases step_inside (ts ++ []) hinside '"' with hstep | ⟨mode', hmode', hstep⟩ | ⟨-, value, rfl⟩
    · rw [hstep]
      rfl
    · rw [hstep]
      exact finish_scan_inside hmode' hrest
    · exact absurd h (hbody value)
  · exact absurd ⟨a, b, value, rfl, ha⟩ hopen

end PromQL
