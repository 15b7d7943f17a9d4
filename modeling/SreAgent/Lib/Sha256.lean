import Mathlib.Data.List.Basic

/-!
# SHA-256 and HMAC

`hashlib.sha256(m).digest()` and `hmac.new(key, m, hashlib.sha256).digest()` on lists of bytes.

Nothing is proved of the hash here beyond the length of what it returns. It is written out so that a
cookie of the model is the cookie of the program, byte for byte, and what is proved of signatures
elsewhere either holds of any code or says which property of a code it needs.
-/

namespace Sha256

abbrev Bytes := List UInt8

def constants : List UInt32 :=
  [0x428a2f98, 0x71374491, 0xb5c0fbcf, 0xe9b5dba5, 0x3956c25b, 0x59f111f1, 0x923f82a4, 0xab1c5ed5,
   0xd807aa98, 0x12835b01, 0x243185be, 0x550c7dc3, 0x72be5d74, 0x80deb1fe, 0x9bdc06a7, 0xc19bf174,
   0xe49b69c1, 0xefbe4786, 0x0fc19dc6, 0x240ca1cc, 0x2de92c6f, 0x4a7484aa, 0x5cb0a9dc, 0x76f988da,
   0x983e5152, 0xa831c66d, 0xb00327c8, 0xbf597fc7, 0xc6e00bf3, 0xd5a79147, 0x06ca6351, 0x14292967,
   0x27b70a85, 0x2e1b2138, 0x4d2c6dfc, 0x53380d13, 0x650a7354, 0x766a0abb, 0x81c2c92e, 0x92722c85,
   0xa2bfe8a1, 0xa81a664b, 0xc24b8b70, 0xc76c51a3, 0xd192e819, 0xd6990624, 0xf40e3585, 0x106aa070,
   0x19a4c116, 0x1e376c08, 0x2748774c, 0x34b0bcb5, 0x391c0cb3, 0x4ed8aa4a, 0x5b9cca4f, 0x682e6ff3,
   0x748f82ee, 0x78a5636f, 0x84c87814, 0x8cc70208, 0x90befffa, 0xa4506ceb, 0xbef9a3f7, 0xc67178f2]

/-- The eight words carried from block to block. -/
structure Chain where
  a : UInt32 := 0x6a09e667
  b : UInt32 := 0xbb67ae85
  c : UInt32 := 0x3c6ef372
  d : UInt32 := 0xa54ff53a
  e : UInt32 := 0x510e527f
  f : UInt32 := 0x9b05688c
  g : UInt32 := 0x1f83d9ab
  h : UInt32 := 0x5be0cd19

/-- To the right around a word of 32 bits. -/
def rotr (x n : UInt32) : UInt32 := (x >>> n) ||| (x <<< (32 - n))

def word (a b c d : UInt8) : UInt32 :=
  (a.toUInt32 <<< 24) ||| (b.toUInt32 <<< 16) ||| (c.toUInt32 <<< 8) ||| d.toUInt32

/-- A block as words, the first byte of each the most significant one. What does not fill a word is
dropped. -/
def words : Bytes → List UInt32
  | a :: b :: c :: d :: rest => word a b c d :: words rest
  | _ => []

def bytesOf (w : UInt32) : Bytes :=
  [(w >>> 24).toUInt8, (w >>> 16).toUInt8, (w >>> 8).toUInt8, w.toUInt8]

/-- The message schedule, newest word first: `n` words more than the block has. -/
def schedule (block : List UInt32) : Nat → List UInt32
  | 0     => block.reverse
  | n + 1 =>
    let ws := schedule block n
    let w (i : Nat) := ws.getD (i - 1) 0
    let s0 := rotr (w 15) 7 ^^^ rotr (w 15) 18 ^^^ (w 15 >>> 3)
    let s1 := rotr (w 2) 17 ^^^ rotr (w 2) 19 ^^^ (w 2 >>> 10)
    (w 16 + s0 + w 7 + s1) :: ws

/-- One of the 64 rounds on a block, with its constant and its word of the schedule. -/
def round (s : Chain) (k w : UInt32) : Chain :=
  let s1 := rotr s.e 6 ^^^ rotr s.e 11 ^^^ rotr s.e 25
  let ch := (s.e &&& s.f) ^^^ ((~~~ s.e) &&& s.g)
  let t1 := s.h + s1 + ch + k + w
  let s0 := rotr s.a 2 ^^^ rotr s.a 13 ^^^ rotr s.a 22
  let maj := (s.a &&& s.b) ^^^ (s.a &&& s.c) ^^^ (s.b &&& s.c)
  { a := t1 + (s0 + maj), b := s.a, c := s.b, d := s.c, e := s.d + t1, f := s.e, g := s.f, h := s.g }

/-- A block goes into the chain: 64 rounds from the chain so far, added to it word by word. -/
def compress (s : Chain) (block : Bytes) : Chain :=
  let r := (constants.zip (schedule (words block) 48).reverse).foldl (fun s kw => round s kw.1 kw.2) s
  { a := s.a + r.a, b := s.b + r.b, c := s.c + r.c, d := s.d + r.d
    e := s.e + r.e, f := s.f + r.f, g := s.g + r.g, h := s.h + r.h }

/-- The first `n` blocks of 64 bytes. -/
def blocks : Nat → Bytes → List Bytes
  | 0, _     => []
  | n + 1, m => m.take 64 :: blocks n (m.drop 64)

/-- The message, a one bit, zeros up to a multiple of 64 bytes less 8, and the length in bits. -/
def pad (m : Bytes) : Bytes :=
  let bits := 8 * m.length
  let length : Bytes := [56, 48, 40, 32, 24, 16, 8, 0].map fun n => UInt8.ofNat (bits >>> n)
  m ++ 0x80 :: (List.replicate ((119 - m.length % 64) % 64) 0 ++ length)

/-- `hashlib.sha256(m).digest()`. -/
def digest (m : Bytes) : Bytes :=
  let padded := pad m
  let s := (blocks (padded.length / 64) padded).foldl compress {}
  [s.a, s.b, s.c, s.d, s.e, s.f, s.g, s.h].flatMap bytesOf

/-- The key of an HMAC, hashed if it is longer than a block, and filled up with zeros. -/
def blockKey (key : Bytes) : Bytes :=
  let short := if 64 < key.length then digest key else key
  short ++ List.replicate (64 - short.length) 0

/-- `hmac.new(key, m, hashlib.sha256).digest()`. -/
def hmac (key m : Bytes) : Bytes :=
  let k := blockKey key
  digest (k.map (· ^^^ 0x5c) ++ digest (k.map (· ^^^ 0x36) ++ m))

end Sha256
