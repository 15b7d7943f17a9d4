import Mathlib.Data.List.Basic
import Mathlib.Tactic.IntervalCases

/-!
# URL-safe Base64, as Python's `base64` module does it

`urlsafeEncode` is `base64.urlsafe_b64encode`. The decoder is the state machine behind
`base64.urlsafe_b64decode`, which is lenient: characters outside the alphabet are skipped, both
spellings of the last two letters are read, and input ends at the first complete padding. The two
directions meet in `urlsafeDecode_padded`: decoding gives the bytes back even when the padding
was stripped on the way and put back from the length alone.
-/

namespace Base64

abbrev Bytes := List UInt8

/-! ## The alphabet

Six bits a letter. The encoder writes the URL-safe spelling only; the decoder knows both, so two
texts may stand for the same bytes, and a signature has to be compared as text and not as what it
decodes to. -/

def letter (n : Nat) : Char :=
  if n < 26 then Char.ofNat (n + 65)
  else if n < 52 then Char.ofNat (n + 71)
  else if n < 62 then Char.ofNat (n - 4)
  else if n = 62 then '-' else '_'

/-- The sextet of a letter, in either of the two spellings. -/
def sextet (c : Char) : Option Nat :=
  let n := c.toNat
  if 65 ≤ n ∧ n ≤ 90 then some (n - 65)
  else if 97 ≤ n ∧ n ≤ 122 then some (n - 71)
  else if 48 ≤ n ∧ n ≤ 57 then some (n + 4)
  else if c = '-' ∨ c = '+' then some 62
  else if c = '_' ∨ c = '/' then some 63
  else none

/-- A letter is read as the sextet it was written for. -/
theorem sextet_letter {n : Nat} (h : n < 64) : sextet (letter n) = some n := by
  interval_cases n <;> rfl

/-- No letter looks like padding. -/
theorem letter_ne_pad {n : Nat} (h : n < 64) : letter n ≠ '=' := by
  intro he
  have hnone : sextet '=' = none := by decide
  have hs := sextet_letter h
  rw [he, hnone] at hs
  cases hs

/-! ## Encoding -/

/-- Three bytes make four letters; one or two left over make two or three. -/
def encode : Bytes → List Char
  | []               => []
  | [a]              => [letter (a.toNat / 4), letter (a.toNat % 4 * 16)]
  | [a, b]           => [letter (a.toNat / 4), letter (a.toNat % 4 * 16 + b.toNat / 16),
                         letter (b.toNat % 16 * 4)]
  | a :: b :: c :: r => letter (a.toNat / 4) :: letter (a.toNat % 4 * 16 + b.toNat / 16) ::
                        letter (b.toNat % 16 * 4 + c.toNat / 64) :: letter (c.toNat % 64) ::
                        encode r

/-- `-len(s) % 4` pad characters. -/
def padding (len : Nat) : List Char := List.replicate ((4 - len % 4) % 4) '='

/-- `base64.urlsafe_b64encode(raw)`. -/
def urlsafeEncode (raw : Bytes) : List Char := encode raw ++ padding (encode raw).length

/-! ## Decoding

The state is small, a position in a group of four and the bits that are still open, and the output
is produced as the groups fill up. A text that ends inside a group without padding is an error; one
that goes on behind complete padding is not, and what comes there is not looked at. -/

/-- Where the decoder is in a group of four: how many letters it has read, the bits of the last
one it has not used, and how many pad characters in a row it has seen. -/
structure Decoder where
  pos  : Nat := 0
  left : Nat := 0
  pads : Nat := 0

/-- `binascii.a2b_base64` without strict mode. `none` is `binascii.Error`. -/
def decodeFrom (d : Decoder) : List Char → Option Bytes
  | [] => if d.pos = 0 then some [] else none
  | c :: cs =>
    if c = '=' then
      if 2 ≤ d.pos then
        if 4 ≤ d.pos + (d.pads + 1) then some [] else decodeFrom { d with pads := d.pads + 1 } cs
      else decodeFrom d cs
    else match sextet c with
      | none => decodeFrom d cs
      | some s =>
        match d.pos with
        | 0 => decodeFrom ⟨1, s, 0⟩ cs
        | 1 => (decodeFrom ⟨2, s % 16, 0⟩ cs).map (UInt8.ofNat (d.left * 4 + s / 16) :: ·)
        | 2 => (decodeFrom ⟨3, s % 4, 0⟩ cs).map (UInt8.ofNat (d.left * 16 + s / 4) :: ·)
        | _ => (decodeFrom ⟨0, 0, 0⟩ cs).map (UInt8.ofNat (d.left * 64 + s) :: ·)

/-- `base64.urlsafe_b64decode(s)` on ASCII text. -/
def urlsafeDecode (s : List Char) : Option Bytes := decodeFrom {} s

/-! ## The letters of an encoding

Whoever puts an encoding into a header or splits at a point needs to know what cannot be in it.
Everything of that kind follows from one fact, that its characters are letters of the alphabet. -/

/-- Letters, digits, `-` and `_`. -/
def IsLetter (c : Char) : Prop := ∃ n < 64, c = letter n

/-- An encoding consists of letters: each is the letter of a number below 64, by the encoder's
recursion. -/
theorem encode_letters (raw : Bytes) : ∀ c ∈ encode raw, IsLetter c := by
  have hb : ∀ a : UInt8, a.toNat < 256 := fun a => a.toNat_lt
  -- the cases are those of the encoder: nothing, one byte, two bytes, three and the rest
  induction raw using encode.induct with
  | case1 => simp [encode]
  | case2 a =>
      intro c hc
      have ha := hb a
      simp only [encode, List.mem_cons, List.not_mem_nil, or_false] at hc
      rcases hc with rfl | rfl
      · exact ⟨_, by omega, rfl⟩
      · exact ⟨_, by omega, rfl⟩
  | case3 a b =>
      intro c hc
      have ha := hb a
      have hb' := hb b
      simp only [encode, List.mem_cons, List.not_mem_nil, or_false] at hc
      rcases hc with rfl | rfl | rfl
      · exact ⟨_, by omega, rfl⟩
      · exact ⟨_, by omega, rfl⟩
      · exact ⟨_, by omega, rfl⟩
  | case4 a b c r ih =>
      intro x hx
      have ha := hb a
      have hb' := hb b
      have hc := hb c
      simp only [encode, List.mem_cons] at hx
      rcases hx with rfl | rfl | rfl | rfl | hx
      · exact ⟨_, by omega, rfl⟩
      · exact ⟨_, by omega, rfl⟩
      · exact ⟨_, by omega, rfl⟩
      · exact ⟨_, by omega, rfl⟩
      · exact ih x hx

/-- The padding can be told from what it pads. -/
theorem IsLetter.ne_pad {c : Char} (h : IsLetter c) : c ≠ '=' := by
  obtain ⟨n, hn, rfl⟩ := h
  exact letter_ne_pad hn

/-- What the decoder skips is no letter. -/
theorem not_isLetter {c : Char} (hc : sextet c = none) : ¬ IsLetter c := by
  rintro ⟨n, hn, h⟩
  have hs := sextet_letter hn
  rw [← h, hc] at hs
  cases hs

/-- An encoding is ASCII. -/
theorem IsLetter.toNat_lt {c : Char} (h : IsLetter c) : c.toNat < 128 := by
  obtain ⟨n, hn, rfl⟩ := h
  interval_cases n <;> decide

/-! ## The round trip

The decoder reads a letter in one of four ways, by its position; there is an equation for each. The
arithmetic that puts the bytes together again is the same in all of them and is left to `omega`. -/

/-- A byte is known by its number. -/
theorem byte_eq {a : UInt8} {n : Nat} (h : n = a.toNat) : UInt8.ofNat n = a := by
  rw [h, UInt8.ofNat_toNat]

section Letters

variable {n : Nat} (h : n < 64) (left pads : Nat) (cs : List Char)
include h

theorem decodeFrom_letter₀ :
    decodeFrom ⟨0, left, pads⟩ (letter n :: cs) = decodeFrom ⟨1, n, 0⟩ cs := by
  simp only [decodeFrom, if_neg (letter_ne_pad h), sextet_letter h]

theorem decodeFrom_letter₁ :
    decodeFrom ⟨1, left, pads⟩ (letter n :: cs) =
      (decodeFrom ⟨2, n % 16, 0⟩ cs).map (UInt8.ofNat (left * 4 + n / 16) :: ·) := by
  simp only [decodeFrom, if_neg (letter_ne_pad h), sextet_letter h]

theorem decodeFrom_letter₂ :
    decodeFrom ⟨2, left, pads⟩ (letter n :: cs) =
      (decodeFrom ⟨3, n % 4, 0⟩ cs).map (UInt8.ofNat (left * 16 + n / 4) :: ·) := by
  simp only [decodeFrom, if_neg (letter_ne_pad h), sextet_letter h]

theorem decodeFrom_letter₃ :
    decodeFrom ⟨3, left, pads⟩ (letter n :: cs) =
      (decodeFrom ⟨0, 0, 0⟩ cs).map (UInt8.ofNat (left * 64 + n) :: ·) := by
  simp only [decodeFrom, if_neg (letter_ne_pad h), sextet_letter h]

end Letters

/-- Decoding the letters of `raw` followed by what its length is padded with. By the encoder's own
recursion: a full group returns the decoder to its start, and the three ends are computed. -/
theorem decodeFrom_encode (raw : Bytes) :
    decodeFrom {} (encode raw ++ padding (encode raw).length) = some raw := by
  have hb : ∀ a : UInt8, a.toNat < 256 := fun a => a.toNat_lt
  induction raw using encode.induct with
  | case1 => rfl
  | case2 a =>  -- two letters and two pads
      have ha := hb a
      show decodeFrom {} (letter _ :: letter _ :: ['=', '=']) = _
      rw [decodeFrom_letter₀ (by omega), decodeFrom_letter₁ (by omega), byte_eq (a := a) (by omega)]
      rfl
  | case3 a b =>  -- three letters and one pad
      have ha := hb a
      have hb' := hb b
      show decodeFrom {} (letter _ :: letter _ :: letter _ :: ['=']) = _
      rw [decodeFrom_letter₀ (by omega), decodeFrom_letter₁ (by omega),
        decodeFrom_letter₂ (by omega), byte_eq (a := a) (by omega), byte_eq (a := b) (by omega)]
      rfl
  | case4 a b c r ih =>  -- a whole group, after which the padding is that of the rest
      have ha := hb a
      have hb' := hb b
      have hc := hb c
      have hpad : padding (encode (a :: b :: c :: r)).length = padding (encode r).length := by
        have hlen : (encode (a :: b :: c :: r)).length = (encode r).length + 4 := rfl
        rw [hlen, padding, padding, Nat.add_mod_right]
      rw [hpad]
      show decodeFrom {} (letter _ :: letter _ :: letter _ :: letter _ :: (encode r ++ _)) = _
      rw [decodeFrom_letter₀ (by omega), decodeFrom_letter₁ (by omega),
        decodeFrom_letter₂ (by omega), decodeFrom_letter₃ (by omega), byte_eq (a := a) (by omega),
        byte_eq (a := b) (by omega), byte_eq (a := c) (by omega)]
      show (((decodeFrom {} _).map _).map _).map _ = _
      rw [ih]
      rfl

/-- Stripping the padding and putting it back from the length loses nothing. -/
theorem urlsafeDecode_padded (raw : Bytes) :
    urlsafeDecode (encode raw ++ padding (encode raw).length) = some raw :=
  decodeFrom_encode raw

end Base64
