import Mathlib.Data.List.Basic

/-!
# Percent-encoding

A byte that is no letter, no digit and none of `_.-~` is written as `%` and two hexadecimal digits, and
in a form a space as `+`. What is written is read back byte for byte (`decode_encode`) and contains no
character that means something in a URL (`plain_of_mem_encode`), so that a value in the path or in the
query of a URL stays where it was put.
-/

namespace PercentEncoding

abbrev Bytes := List UInt8

/-- The bytes that stand for themselves. -/
def unreserved (b : UInt8) : Bool :=
  let c := Char.ofNat b.toNat
  c.isAlphanum || c == '_' || c == '.' || c == '-' || c == '~'

def hexDigit (n : Nat) : Char := (Nat.digitChar n).toUpper

def escape (b : UInt8) : List Char := ['%', hexDigit (b.toNat / 16), hexDigit (b.toNat % 16)]

/-- `form` says whether a space is written as `+`. -/
def encodeByte (form : Bool) (b : UInt8) : List Char :=
  if unreserved b then [Char.ofNat b.toNat]
  else if form && b == 32 then ['+']
  else escape b

def encode (form : Bool) (bytes : Bytes) : List Char := bytes.flatMap (encodeByte form)

/-! ## Reading

Reading is total and forgiving, as in the standard library: a `%` that is not followed by two
hexadecimal digits stays what it is. -/

def hexValue (c : Char) : Option Nat :=
  if c.isDigit then some (c.toNat - 48)
  else if 'A' ≤ c ∧ c ≤ 'F' then some (c.toNat - 55)
  else if 'a' ≤ c ∧ c ≤ 'f' then some (c.toNat - 87)
  else none

/-- A character outside of an escape. -/
def plainBytes (form : Bool) (c : Char) : Bytes :=
  if form && c == '+' then [32] else String.utf8EncodeChar c

/-- A `%` that begins no escape stands for itself. -/
def decode (form : Bool) : List Char → Bytes
  | []                    => []
  | '%' :: a :: b :: rest =>
    match hexValue a, hexValue b with
    | some hi, some lo => UInt8.ofNat (16 * hi + lo) :: decode form rest
    | _, _             => 37 :: decode form (a :: b :: rest)
  | c :: rest             => plainBytes form c ++ decode form rest

/-! ## The round trip

Byte by byte. There are 256 of them, so what a single byte needs is settled by looking at each; the
texts in between are not touched. -/

theorem hexValue_hexDigit : ∀ n < 16, hexValue (hexDigit n) = some n := by decide

/-- An escape is read as its byte, whatever comes after it. -/
theorem decode_escape (form : Bool) (b : UInt8) (rest : List Char) :
    decode form (escape b ++ rest) = b :: decode form rest := by
  have hb : b.toNat < 256 := b.toNat_lt
  have hdigits : 16 * (b.toNat / 16) + b.toNat % 16 = b.toNat := Nat.div_add_mod ..
  show decode form ('%' :: hexDigit (b.toNat / 16) :: hexDigit (b.toNat % 16) :: rest) = _
  rw [decode, hexValue_hexDigit _ (by omega), hexValue_hexDigit _ (by omega)]
  dsimp only
  rw [hdigits, UInt8.ofNat_toNat]

/-- A byte that stands for itself is no sign of the encoding, and one character. -/
theorem unreserved_spec : ∀ n < 256, unreserved (UInt8.ofNat n) = true →
    Char.ofNat n ≠ '%' ∧ Char.ofNat n ≠ '+' ∧
      String.utf8EncodeChar (Char.ofNat n) = [UInt8.ofNat n] := by decide +kernel

/-- Anything but a percent sign is read by itself. -/
theorem decode_plain {form : Bool} {c : Char} (h : c ≠ '%') (rest : List Char) :
    decode form (c :: rest) = plainBytes form c ++ decode form rest := by
  rw [decode]
  intro a b rest' hc
  exact absurd hc h

/-- Of the three ways to write a byte each is read as the byte. -/
theorem decode_encodeByte (form : Bool) (b : UInt8) (rest : List Char) :
    decode form (encodeByte form b ++ rest) = b :: decode form rest := by
  unfold encodeByte
  split
  · -- an unreserved character stands for its own byte
    next h =>
    obtain ⟨hpercent, hplus, hbytes⟩ := unreserved_spec b.toNat b.toNat_lt (by
      rw [UInt8.ofNat_toNat]
      exact h)
    rw [UInt8.ofNat_toNat] at hbytes
    rw [List.singleton_append, decode_plain hpercent, plainBytes, if_neg (by simp [hplus]), hbytes]
    rfl
  split
  · -- a blank is a plus in a form
    next h =>
    obtain ⟨rfl, rfl⟩ : form = true ∧ b = 32 := by simpa using h
    rw [List.singleton_append, decode_plain (by decide)]
    rfl
  · exact decode_escape form b rest

/-- **What is written is read back**, byte for byte, in a path as well as in a form. -/
theorem decode_encode (form : Bool) (bytes : Bytes) : decode form (encode form bytes) = bytes := by
  induction bytes with
  | nil => rfl
  | cons b bytes ih =>
      show decode form (encodeByte form b ++ encode form bytes) = b :: bytes
      rw [decode_encodeByte, ih]

/-! ## What is written -/

/-- A character of an encoded text. -/
def IsPlain (form : Bool) (c : Char) : Prop :=
  c.isAlphanum = true ∨ c ∈ ['_', '.', '-', '~', '%'] ∨ form = true ∧ c = '+'

theorem isAlphanum_hexDigit : ∀ n < 16, (hexDigit n).isAlphanum = true := by decide

/-- None of the three ways brings in a character from outside the set. -/
theorem plain_of_mem_encodeByte {form : Bool} {b : UInt8} {c : Char} (h : c ∈ encodeByte form b) :
    IsPlain form c := by
  have hb : b.toNat < 256 := b.toNat_lt
  unfold encodeByte at h
  split at h
  · next hunreserved =>
    rw [List.mem_singleton.mp h]
    simp only [unreserved, Bool.or_eq_true, beq_iff_eq] at hunreserved
    unfold IsPlain
    simp only [List.mem_cons, List.not_mem_nil, or_false]
    tauto
  split at h
  · next hspace =>
    rw [List.mem_singleton.mp h]
    exact .inr (.inr ⟨by simpa using (Bool.and_eq_true _ _ ▸ hspace).1, rfl⟩)
  · -- a percent sign and two hexadecimal digits
    unfold escape at h
    simp only [List.mem_cons, List.not_mem_nil, or_false] at h
    rcases h with rfl | rfl | rfl
    · exact .inr (.inl (by decide))
    · exact .inl (isAlphanum_hexDigit _ (by omega))
    · exact .inl (isAlphanum_hexDigit _ (by omega))

/-- **Nothing is written that means something in a URL**: what is left are unreserved characters,
percent signs, and the plus of a form. -/
theorem plain_of_mem_encode {form : Bool} {bytes : Bytes} {c : Char} (h : c ∈ encode form bytes) :
    IsPlain form c := by
  obtain ⟨b, -, hc⟩ := List.mem_flatMap.mp h
  exact plain_of_mem_encodeByte hc

end PercentEncoding
