import Mathlib.Tactic.Linarith
import SreAgent.Lib.PyStr

/-!
# Python's `datetime`

Values as the constructor admits them, their order, `isoformat` and `fromisoformat` (the grammar
of Python 3.11). A value is aware when it has an offset, in microseconds, and naive when it has
none; comparing a naive with an aware one raises. `fromisoformat_isoformat` is the round trip for
UTC values, which is what a Kubernetes client hands out.
-/

namespace Py

/-! ## The calendar

The proleptic Gregorian calendar with the arithmetic of the standard library, in days counted from
the first day of year 1. The functions are total; a month or a day that does not exist is sorted out
by `valid`. -/

def isLeap (y : Nat) : Bool := y % 4 == 0 && (y % 100 != 0 || y % 400 == 0)

def daysInMonth (y m : Nat) : Nat :=
  if m == 2 then (if isLeap y then 29 else 28) else if [4, 6, 9, 11].contains m then 30 else 31

def daysBeforeYear (y : Nat) : Nat := (y - 1) * 365 + (y - 1) / 4 - (y - 1) / 100 + (y - 1) / 400

def daysBeforeMonth (y m : Nat) : Nat := ((List.range (m - 1)).map (daysInMonth y <| · + 1)).sum

/-- `toordinal`: day 1 is 1 January of year 1. -/
def toOrdinal (y m d : Nat) : Nat := daysBeforeYear y + daysBeforeMonth y m + d

/-- `_ord2ymd`: from a day's number back to year, month and day, by cycles of 400, 100 and 4 years.
The last day of a cycle would fall into a year too many, and is set right at the end. -/
def fromOrdinal (ordinal : Nat) : Nat × Nat × Nat :=
  let n := ordinal - 1
  let n400 := n / 146097
  let n := n % 146097
  let n100 := n / 36524
  let n := n % 36524
  let n4 := n / 1461
  let n := n % 1461
  let n1 := n / 365
  let n := n % 365
  let y := n400 * 400 + 1 + n100 * 100 + n4 * 4 + n1
  if n1 == 4 || n100 == 4 then (y - 1, 12, 31)
  else
    let m := (n + 50) / 32
    let m := if daysBeforeMonth y m > n then m - 1 else m
    (y, m, n - daysBeforeMonth y m + 1)

/-- `_isoweek_to_gregorian`. A year has 53 weeks if it begins on a Thursday, or on a Wednesday and
is a leap year. -/
def fromIsoWeek (y week day : Nat) : Option (Nat × Nat × Nat) :=
  let firstWeekday := (toOrdinal y 1 1 + 6) % 7
  let weeks := if firstWeekday == 3 || (firstWeekday == 2 && isLeap y) then 53 else 52
  if (1 ≤ y && y ≤ 9999) && (1 ≤ week && week ≤ weeks) && (1 ≤ day && day ≤ 7) then
    let monday := toOrdinal y 1 1 - firstWeekday + (if firstWeekday > 3 then 7 else 0)
    some (fromOrdinal (monday + (week - 1) * 7 + (day - 1)))
  else none

/-! ## Values

A value is what the constructor was given, so that what is printed shows it as it was given; two
values may be the same instant. Their order is that of the instants, and there is none between a
naive and an aware value. -/

structure DateTime where
  year   : Nat
  month  : Nat
  day    : Nat
  hour   : Nat := 0
  minute : Nat := 0
  second : Nat := 0
  micro  : Nat := 0
  offset : Option ℤ := none
  deriving DecidableEq, Repr

/-- What `datetime(..)` accepts, its `tzinfo` being a `timezone` of less than a day. -/
def DateTime.valid (d : DateTime) : Bool :=
  (1 ≤ d.year && d.year ≤ 9999) && (1 ≤ d.month && d.month ≤ 12) &&
  (1 ≤ d.day && d.day ≤ daysInMonth d.year d.month) && d.hour ≤ 23 && d.minute ≤ 59 &&
  d.second ≤ 59 && d.micro ≤ 999999 && (d.offset.all fun o => o.natAbs < 86400000000)

/-- Microseconds since the beginning of year 1, local time. -/
def DateTime.wall (d : DateTime) : ℤ :=
  (((toOrdinal d.year d.month d.day * 24 + d.hour) * 60 + d.minute) * 60 + d.second : Nat) *
    1000000 + d.micro

/-- The same in UTC, a naive value being taken as it stands. -/
def DateTime.instant (d : DateTime) : ℤ := d.wall - d.offset.getD 0

/-- A value that knows its offset from UTC. -/
def DateTime.aware (d : DateTime) : Bool := d.offset.isSome

/-- `d <= e`; `none` is the `TypeError`. -/
def DateTime.le? (d e : DateTime) : Option Bool :=
  if d.aware = e.aware then some (d.instant ≤ e.instant) else none

/-! ## Digits

Numbers are printed with leading zeros in a fixed width, and read in the same width: the two are
inverse where the number fits. -/

/-- The last `width` decimal digits of `n`. -/
def padded : (width : Nat) → Nat → List Char
  | 0, _     => []
  | w + 1, n => padded w (n / 10) ++ [Nat.digitChar (n % 10)]

def isDigit (c : Char) : Bool := 48 ≤ c.toNat && c.toNat ≤ 57

/-- `int(ds)` for ASCII digits. -/
def ofDigits (ds : List Char) : Nat := ds.foldl (fun n c => 10 * n + (c.toNat - 48)) 0

/-- Exactly `width` digits at the front, and what follows them. -/
def readDigits (width : Nat) (cs : List Char) : Option (Nat × List Char) :=
  let ds := cs.take width
  if ds.length = width ∧ ds.all isDigit = true then some (ofDigits ds, cs.drop width) else none

/-- What is printed in a width has it. -/
@[simp] theorem length_padded (w n : Nat) : (padded w n).length = w := by
  induction w generalizing n with
  | zero => rfl
  | succ w ih => simp [padded, ih]

theorem toNat_digitChar {d : Nat} (h : d < 10) : (Nat.digitChar d).toNat = 48 + d :=
  Nat.toNat_digitChar_of_lt_ten h

theorem isDigit_digitChar (n : Nat) : isDigit (Nat.digitChar (n % 10)) = true := by
  have h : n % 10 < 10 := Nat.mod_lt n (by decide)
  simp only [isDigit, toNat_digitChar h, Bool.and_eq_true, decide_eq_true_eq]
  omega

/-- It is digits all through. -/
theorem all_isDigit_padded (w n : Nat) : ∀ c ∈ padded w n, isDigit c = true := by
  induction w generalizing n with
  | zero => simp [padded]
  | succ w ih =>
      intro c hc
      rcases List.mem_append.mp hc with hc | hc
      · exact ih _ c hc
      · rw [List.mem_singleton.mp hc]
        exact isDigit_digitChar n

/-- **A number that fits is read back**, by induction on the width, the last digit first. -/
theorem ofDigits_padded {w n : Nat} (h : n < 10 ^ w) : ofDigits (padded w n) = n := by
  -- the last digit comes off, the others are padded to one place less
  induction w generalizing n with
  | zero =>
      rw [pow_zero] at h
      obtain rfl : n = 0 := by omega
      rfl
  | succ w ih =>
      have hdiv : n / 10 < 10 ^ w := by
        rw [pow_succ] at h
        omega
      have hlast := toNat_digitChar (Nat.mod_lt n (show 10 > 0 by decide))
      have hinit := ih hdiv
      rw [ofDigits] at hinit
      rw [ofDigits, padded, List.foldl_append, hinit]
      simp only [List.foldl_cons, List.foldl_nil, hlast]
      omega

/-- **What is printed in `w` digits is read back from them.** -/
theorem readDigits_padded {w n : Nat} (h : n < 10 ^ w) (rest : List Char) :
    readDigits w (padded w n ++ rest) = some (n, rest) := by
  have htake : (padded w n ++ rest).take w = padded w n := by
    rw [List.take_append_of_le_length (by simp), List.take_of_length_le (by simp)]
  have hdrop : (padded w n ++ rest).drop w = rest := List.drop_left' (length_padded w n)
  simp only [readDigits, htake, hdrop, length_padded, ofDigits_padded h]
  exact if_pos ⟨trivial, List.all_eq_true.mpr (all_isDigit_padded w n)⟩

/-! ## Printing

The fraction is left out where it is zero, and so are the seconds of an offset. So a text does not
show the width it was printed with, and the parser has to find out. -/

/-- `hh:mm:ss[.ffffff]`. -/
def isoTime (hour minute second micro : Nat) : List Char :=
  padded 2 hour ++ ':' :: padded 2 minute ++ ':' :: padded 2 second ++
    (if micro = 0 then [] else '.' :: padded 6 micro)

/-- `+hh:mm[:ss[.ffffff]]`. -/
def isoOffset (offset : ℤ) : List Char :=
  let n := offset.natAbs
  (if offset < 0 then '-' else '+') :: padded 2 (n / 3600000000) ++
    ':' :: padded 2 (n / 60000000 % 60) ++
    (if n % 60000000 = 0 then []
     else ':' :: padded 2 (n / 1000000 % 60) ++
      (if n % 1000000 = 0 then [] else '.' :: padded 6 (n % 1000000)))

def DateTime.isoChars (d : DateTime) : List Char :=
  padded 4 d.year ++ '-' :: padded 2 d.month ++ '-' :: padded 2 d.day ++
    'T' :: isoTime d.hour d.minute d.second d.micro ++ (d.offset.elim [] isoOffset)

/-- `d.isoformat()`. -/
def DateTime.isoformat (d : DateTime) : String := String.ofList d.isoChars

/-! ## Parsing

The parser of the C implementation, function by function. It is more permissive than the standard it
is named after: any character may separate date and time, a point and a comma both begin a fraction,
and digits beyond the sixth are dropped. -/

/-- `_find_isoformat_datetime_separator`: where the date ends, given that there are at least seven
characters. -/
def separatorLocation (cs : List Char) : Nat :=
  let at? (i : Nat) : Char := cs.getD i ' '
  if cs.length = 7 then 7
  else if at? 4 = '-' then
    if at? 5 = 'W' then
      if cs.length > 8 ∧ at? 8 = '-' then
        if cs.length > 10 ∧ isDigit (at? 10) = true then 8 else 10
      else 8
    else 10
  else if at? 4 = 'W' then
    let idx := 7 + ((cs.drop 7).takeWhile isDigit).length
    if idx < 9 then idx else if idx % 2 = 0 then 7 else 8
  else 8

/-- Drop the separator `c` where the notation has one, and nothing where it has none. -/
def skipSep (hasSep : Bool) (c : Char) : List Char → Option (List Char)
  | []      => if hasSep then none else some []
  | a :: as => if hasSep then (if a = c then some as else none)
               else if a = c then none else some (a :: as)

/-- `_parse_isoformat_date`. -/
def parseIsoDate (cs : List Char) : Option (Nat × Nat × Nat) := do
  let (year, cs) ← readDigits 4 cs
  let hasSep := cs.head? = some '-'
  let cs := if hasSep then cs.tail else cs
  match cs with
  | 'W' :: cs => do
    let (week, cs) ← readDigits 2 cs
    if cs.isEmpty then fromIsoWeek year week 1
    else
      let cs ← skipSep hasSep '-' cs
      let (day, cs) ← readDigits 1 cs
      if cs.isEmpty then fromIsoWeek year week day else none
  | cs => do
    let (month, cs) ← readDigits 2 cs
    let cs ← skipSep hasSep '-' cs
    let (day, cs) ← readDigits 2 cs
    if cs.isEmpty then some (year, month, day) else none

structure TimeOfDay where
  hour   : Nat := 0
  minute : Nat := 0
  second : Nat := 0
  micro  : Nat := 0
  deriving DecidableEq, Repr

/-- The fraction of a second in microseconds: digits beyond the sixth are skipped, and the flag says
that nothing follows the digits. -/
def parseFraction (cs : List Char) : Option (Nat × Bool) :=
  let ds := cs.take 6
  if ds.all isDigit then
    some (ofDigits ds * 10 ^ (6 - ds.length), (cs.drop 6).all isDigit)
  else none

def fractionOnly (cs : List Char) : Option (List Nat × Nat × Bool) :=
  (parseFraction cs).map fun (micro, exact) => ([], micro, exact)

/-- The two-digit components that are still to come, then the fraction. `hasSep` says whether the
notation separates them by colons; the character after the first one decides. A single character
behind a component ends the scan, whatever it is. -/
def parseComponents : (left : Nat) → (hasSep : Option Bool) → List Char →
    Option (List Nat × Nat × Bool)
  | 0, _, cs => fractionOnly cs
  | left + 1, hasSep, cs => do
    let (v, cs) ← readDigits 2 cs
    match cs with
    | []  => some ([v], 0, true)
    | [_] => some ([v], 0, false)
    | c :: rest =>
      let sep := hasSep.getD (c == ':')
      let (vs, micro, exact) ←
        if sep && c == ':' then parseComponents left (some sep) rest
        else if c == '.' || c == ',' then fractionOnly rest
        else if sep then none
        else parseComponents left (some sep) (c :: rest)
      some (v :: vs, micro, exact)

def parseHhMmSsFf (cs : List Char) : Option (TimeOfDay × Bool) :=
  (parseComponents 3 none cs).map fun (vs, micro, exact) =>
    (⟨vs.getD 0 0, vs.getD 1 0, vs.getD 2 0, micro⟩, exact)

def TimeOfDay.micros (t : TimeOfDay) : ℤ :=
  ((t.hour * 60 + t.minute) * 60 + t.second : Nat) * 1000000 + t.micro

/-- `_parse_isoformat_time`. Only the last part of the text has to end where its scan does. -/
def parseIsoTime (cs : List Char) : Option (TimeOfDay × Option ℤ) := do
  let isZone (c : Char) : Bool := c == '+' || c == '-' || c == 'Z'
  let (t, exact) ← parseHhMmSsFf (cs.takeWhile (!isZone ·))
  match cs.dropWhile (!isZone ·) with
  | []        => if exact then some (t, none) else none
  | 'Z' :: cs => if cs.isEmpty then some (t, some 0) else none
  | c :: cs   => do
    let (z, exact) ← parseHhMmSsFf cs
    if exact then some (t, some (if c = '-' then -z.micros else z.micros)) else none

/-- The date up to its separator, one character, and the time. What comes out is checked like an
argument of the constructor. -/
def fromIsoChars (cs : List Char) : Option DateTime :=
  if cs.length < 7 then none
  else do
    let (year, month, day) ← parseIsoDate (cs.take (separatorLocation cs))
    let (t, offset) ← match cs.drop (separatorLocation cs) with
      | []        => some ({}, none)
      | _ :: time => parseIsoTime time
    let d : DateTime := ⟨year, month, day, t.hour, t.minute, t.second, t.micro, offset⟩
    if d.valid then some d else none

/-- `datetime.fromisoformat(s)`; `none` is the `ValueError`. -/
def fromisoformat (s : String) : Option DateTime := fromIsoChars s.toList

/-! ## The round trip

Component by component, from the inside out: a width of digits, a component with a colon behind it,
the time of day, the zone, and last the whole text, in which the date has to be found to end after
ten characters. -/

@[simp] theorem padded_two (n : Nat) :
    padded 2 n = [Nat.digitChar (n / 10 % 10), Nat.digitChar (n % 10)] := rfl

/-- A digit is none of the other characters. -/
theorem isDigit_ne {c : Char} (h : isDigit c = true) {a : Char} (ha : isDigit a = false) : c ≠ a := by
  rintro rfl
  rw [h] at ha
  cases ha

/-- A date with dashes ends after ten characters. -/
theorem separatorLocation_dashed {a b c d m : Char} (hm : m ≠ 'W') {rest : List Char}
    (h : 1 < rest.length) : separatorLocation (a :: b :: c :: d :: '-' :: m :: rest) = 10 := by
  have hlen : rest.length ≠ 1 := by omega
  simp [separatorLocation, hm, hlen]

/-- `yyyy-mm-dd`. -/
def isoDate (year month day : Nat) : List Char :=
  padded 4 year ++ '-' :: (padded 2 month ++ '-' :: padded 2 day)

/-- A date with dashes is read as it was printed. -/
theorem parseIsoDate_isoDate {year month day : Nat} (hy : year < 10000) (hm : month < 100)
    (hd : day < 100) : parseIsoDate (isoDate year month day) = some (year, month, day) := by
  have hyear := readDigits_padded (w := 4) hy ('-' :: (padded 2 month ++ '-' :: padded 2 day))
  have hmonth := readDigits_padded (w := 2) hm ('-' :: padded 2 day)
  have hday := readDigits_padded (w := 2) hd []
  rw [List.append_nil] at hday
  -- a digit stands where a week date would have its `W`
  have hW : Nat.digitChar (month / 10 % 10) ≠ 'W' := isDigit_ne (isDigit_digitChar _) (by decide)
  rw [isoDate, parseIsoDate, hyear]
  simp only [Option.bind_eq_bind, Option.bind_some, List.head?_cons, decide_true, if_true,
    List.tail_cons]
  split
  · next cs heq =>
    rw [padded_two] at heq
    exact absurd (List.cons.inj heq).1 hW
  · simp only [hmonth, Option.bind_some, skipSep, if_true, hday, List.isEmpty_nil]

/-- No digit and no separator of a time of day begins a zone. -/
theorem takeWhile_isoTime {isZone : Char → Bool} (hdigit : ∀ c, isDigit c = true → isZone c = false)
    (hcolon : isZone ':' = false) (hpoint : isZone '.' = false) (hplus : isZone '+' = true)
    (hour minute second micro : Nat) (zone : List Char) :
    (isoTime hour minute second micro ++ '+' :: zone).takeWhile (!isZone ·) =
        isoTime hour minute second micro ∧
      (isoTime hour minute second micro ++ '+' :: zone).dropWhile (!isZone ·) = '+' :: zone := by
  -- nothing in the time begins a zone: there are digits, colons and a point
  have hall : ∀ c ∈ isoTime hour minute second micro, (!isZone c) = true := by
    have hpad : ∀ w n, ∀ c ∈ padded w n, isZone c = false :=
      fun w n c hc => hdigit c (all_isDigit_padded w n c hc)
    intro c hc
    rw [Bool.not_eq_true']
    simp only [isoTime, List.append_assoc, List.mem_append, List.mem_cons, List.cons_append] at hc
    rcases hc with hc | rfl | hc | rfl | hc | hc
    · exact hpad _ _ c hc
    · exact hcolon
    · exact hpad _ _ c hc
    · exact hcolon
    · exact hpad _ _ c hc
    · split at hc
      · cases hc
      · rcases List.mem_cons.mp hc with rfl | hc
        · exact hpoint
        · exact hpad _ _ c hc
  constructor
  · rw [List.takeWhile_append_of_pos hall, List.takeWhile_cons_of_neg (by simp [hplus]),
      List.append_nil]
  · rw [List.dropWhile_append_of_pos hall, List.dropWhile_cons_of_neg (by simp [hplus])]

/-- Six digits are the whole fraction. -/
theorem parseFraction_padded {micro : Nat} (h : micro < 1000000) :
    parseFraction (padded 6 micro) = some (micro, true) := by
  have htake : (padded 6 micro).take 6 = padded 6 micro := List.take_of_length_le (by simp)
  have hdrop : (padded 6 micro).drop 6 = [] := List.drop_of_length_le (by simp)
  have hval : ofDigits (padded 6 micro) = micro := ofDigits_padded h
  rw [parseFraction, htake, hdrop, if_pos (List.all_eq_true.mpr (all_isDigit_padded 6 micro)), hval]
  simp

/-- A component with a colon and more behind it. -/
theorem parseComponents_colon {v : Nat} (hv : v < 100) (hasSep : Option Bool)
    (hsep : hasSep.getD true = true) (left : Nat) (x : Char) (rest : List Char) :
    parseComponents (left + 1) hasSep (padded 2 v ++ ':' :: x :: rest) =
      (parseComponents left (some true) (x :: rest)).map fun (vs, micro, exact) =>
        (v :: vs, micro, exact) := by
  rw [parseComponents, readDigits_padded (w := 2) hv]
  simp only [Option.bind_eq_bind, Option.bind_some, beq_self_eq_true, hsep, Bool.and_true, if_true]
  cases parseComponents left (some true) (x :: rest) <;> rfl

/-- The last component, with its fraction if it has one. -/
theorem parseComponents_last {v micro : Nat} (hv : v < 100) (hu : micro < 1000000) :
    parseComponents 1 (some true) (padded 2 v ++ if micro = 0 then [] else '.' :: padded 6 micro) =
      some ([v], micro, true) := by
  rcases eq_or_ne micro 0 with rfl | hne
  · rw [if_pos rfl, parseComponents, readDigits_padded (w := 2) hv]
    rfl
  · rw [if_neg hne, parseComponents, readDigits_padded (w := 2) hv]
    show (fractionOnly (padded 6 micro)).bind _ = _
    rw [fractionOnly, parseFraction_padded hu]
    rfl

/-- A time of day is read as it was printed, with its fraction if it has one. -/
theorem parseHhMmSsFf_isoTime {hour minute second micro : Nat} (hh : hour < 100)
    (hm : minute < 100) (hs : second < 100) (hu : micro < 1000000) :
    parseHhMmSsFf (isoTime hour minute second micro) =
      some (⟨hour, minute, second, micro⟩, true) := by
  have hlast := parseComponents_last hs hu
  -- the fraction is read with the seconds, so it is kept whole
  generalize hfrac : (if micro = 0 then [] else '.' :: padded 6 micro) = frac at hlast
  have hsecond := parseComponents_colon hm (some true) rfl 1
    (Nat.digitChar (second / 10 % 10)) (Nat.digitChar (second % 10) :: frac)
  have hminute := parseComponents_colon hh none rfl 2
    (Nat.digitChar (minute / 10 % 10))
    (Nat.digitChar (minute % 10) :: ':' :: (padded 2 second ++ frac))
  rw [parseHhMmSsFf, isoTime, hfrac]
  -- the text as three components, one colon after the other
  have hshape : padded 2 hour ++ ':' :: padded 2 minute ++ ':' :: padded 2 second ++ frac =
      padded 2 hour ++ ':' :: Nat.digitChar (minute / 10 % 10) ::
        (Nat.digitChar (minute % 10) :: ':' :: (padded 2 second ++ frac)) := by
    simp
  have hrest : parseComponents 2 (some true) (Nat.digitChar (minute / 10 % 10) ::
      (Nat.digitChar (minute % 10) :: ':' :: (padded 2 second ++ frac))) =
      some ([minute, second], micro, true) := by
    exact hsecond.trans (congrArg (Option.map _) hlast)
  rw [hshape, hminute, hrest]
  rfl

theorem isoOffset_zero : isoOffset 0 = ['+', '0', '0', ':', '0', '0'] := by decide

/-- **UTC values survive the round trip**: a valid one that is written in ISO format is read as
itself, with its microseconds and its offset. -/
theorem fromIsoChars_isoChars {d : DateTime} (hvalid : d.valid = true) (hutc : d.offset = some 0) :
    fromIsoChars d.isoChars = some d := by
  have hranges := hvalid  -- what the constructor has checked bounds each component by its width
  simp only [DateTime.valid, Bool.and_eq_true, decide_eq_true_eq] at hranges
  obtain ⟨⟨⟨⟨⟨⟨⟨⟨hy₁, hy⟩, hm₁, hm⟩, hd₁, hd⟩, hh⟩, hmin⟩, hs⟩, hu⟩, -⟩ := hranges
  have hd' : d.day < 100 := by
    refine lt_of_le_of_lt hd ?_
    unfold daysInMonth
    split_ifs <;> decide
  have hshape : d.isoChars = isoDate d.year d.month d.day ++
      'T' :: (isoTime d.hour d.minute d.second d.micro ++ '+' :: ['0', '0', ':', '0', '0']) := by
    rw [DateTime.isoChars, hutc, Option.elim_some, isoOffset_zero, isoDate]
    simp only [List.append_assoc, List.cons_append]
  have hlen : (isoDate d.year d.month d.day).length = 10 := by simp [isoDate]
  have hsep : separatorLocation d.isoChars = 10 := by
    rw [hshape]
    exact separatorLocation_dashed (isDigit_ne (isDigit_digitChar _) (by decide)) (by simp)
  have hdate := parseIsoDate_isoDate (show d.year < 10000 by omega) (show d.month < 100 by omega) hd'
  have hzone := @takeWhile_isoTime (fun c => c == '+' || c == '-' || c == 'Z')
    (fun c hc => by
      simp [isDigit_ne hc (show isDigit '+' = false by decide),
        isDigit_ne hc (show isDigit '-' = false by decide),
        isDigit_ne hc (show isDigit 'Z' = false by decide)])
    rfl rfl rfl d.hour d.minute d.second d.micro ['0', '0', ':', '0', '0']
  have htime := parseHhMmSsFf_isoTime (show d.hour < 100 by omega) (show d.minute < 100 by omega)
    (show d.second < 100 by omega) (show d.micro < 1000000 by omega)
  have hoffset : parseHhMmSsFf ['0', '0', ':', '0', '0'] = some ({}, true) := by decide
  have htail : parseIsoTime (isoTime d.hour d.minute d.second d.micro ++
      '+' :: ['0', '0', ':', '0', '0']) =
        some (⟨d.hour, d.minute, d.second, d.micro⟩, some 0) := by
    rw [parseIsoTime]
    simp only [hzone.1, hzone.2, htime, Option.bind_eq_bind, Option.bind_some]
    show (parseHhMmSsFf ['0', '0', ':', '0', '0']).bind _ = _
    rw [hoffset]
    rfl
  rw [fromIsoChars, if_neg (by rw [hshape]; simp; omega), hsep, hshape,
    List.take_left' hlen, List.drop_left' hlen]
  simp only [hdate, htail, Option.bind_eq_bind, Option.bind_some]
  have hd_eta : (⟨d.year, d.month, d.day, d.hour, d.minute, d.second, d.micro, some 0⟩ : DateTime) =
      d := by rw [← hutc]
  rw [hd_eta, if_pos hvalid]

/-- The same on strings: a valid UTC value comes back from its text. -/
theorem fromisoformat_isoformat {d : DateTime} (hvalid : d.valid = true)
    (hutc : d.offset = some 0) : fromisoformat d.isoformat = some d := by
  rw [fromisoformat, DateTime.isoformat, String.toList_ofList]
  exact fromIsoChars_isoChars hvalid hutc

end Py
