import Mathlib.Data.List.Basic

/-!
# SHA-256

`hashlib.sha256(data).hexdigest()`, on the words of FIPS 180-4 as natural numbers below `2 ^ 32`.
-/

namespace Python

namespace Sha256

/-- A 32-bit word. -/
def word (x : Nat) : Nat := x % 4294967296

/-- Rotation to the right. -/
def rotateRight (x n : Nat) : Nat := (x >>> n) ||| word (x <<< (32 - n))

/-- The round constants. -/
def roundConstants : List Nat :=
  [0x428a2f98, 0x71374491, 0xb5c0fbcf, 0xe9b5dba5, 0x3956c25b, 0x59f111f1, 0x923f82a4, 0xab1c5ed5,
    0xd807aa98, 0x12835b01, 0x243185be, 0x550c7dc3, 0x72be5d74, 0x80deb1fe, 0x9bdc06a7, 0xc19bf174,
    0xe49b69c1, 0xefbe4786, 0x0fc19dc6, 0x240ca1cc, 0x2de92c6f, 0x4a7484aa, 0x5cb0a9dc, 0x76f988da,
    0x983e5152, 0xa831c66d, 0xb00327c8, 0xbf597fc7, 0xc6e00bf3, 0xd5a79147, 0x06ca6351, 0x14292967,
    0x27b70a85, 0x2e1b2138, 0x4d2c6dfc, 0x53380d13, 0x650a7354, 0x766a0abb, 0x81c2c92e, 0x92722c85,
    0xa2bfe8a1, 0xa81a664b, 0xc24b8b70, 0xc76c51a3, 0xd192e819, 0xd6990624, 0xf40e3585, 0x106aa070,
    0x19a4c116, 0x1e376c08, 0x2748774c, 0x34b0bcb5, 0x391c0cb3, 0x4ed8aa4a, 0x5b9cca4f, 0x682e6ff3,
    0x748f82ee, 0x78a5636f, 0x84c87814, 0x8cc70208, 0x90befffa, 0xa4506ceb, 0xbef9a3f7, 0xc67178f2]

/-- The eight working words. -/
structure State where
  a : Nat
  b : Nat
  c : Nat
  d : Nat
  e : Nat
  f : Nat
  g : Nat
  h : Nat
  deriving DecidableEq

/-- The initial hash value. -/
def State.initial : State :=
  ⟨0x6a09e667, 0xbb67ae85, 0x3c6ef372, 0xa54ff53a, 0x510e527f, 0x9b05688c, 0x1f83d9ab, 0x5be0cd19⟩

/-- One round, with its constant and its word of the message schedule. -/
def State.round (s : State) (constant scheduled : Nat) : State :=
  let s1 := rotateRight s.e 6 ^^^ rotateRight s.e 11 ^^^ rotateRight s.e 25
  let choice := (s.e &&& s.f) ^^^ ((4294967295 - s.e) &&& s.g)
  let temp1 := s.h + s1 + choice + constant + scheduled
  let s0 := rotateRight s.a 2 ^^^ rotateRight s.a 13 ^^^ rotateRight s.a 22
  let majority := (s.a &&& s.b) ^^^ (s.a &&& s.c) ^^^ (s.b &&& s.c)
  ⟨word (temp1 + s0 + majority), s.a, s.b, s.c, word (s.d + temp1), s.e, s.f, s.g⟩

/-- The next word of the message schedule, from the last sixteen. -/
def nextScheduled : List Nat → Nat
  | w0 :: w1 :: rest =>
    let w14 := rest.getD 12 0
    let s0 := rotateRight w1 7 ^^^ rotateRight w1 18 ^^^ (w1 >>> 3)
    let s1 := rotateRight w14 17 ^^^ rotateRight w14 19 ^^^ (w14 >>> 10)
    word (w0 + s0 + rest.getD 7 0 + s1)
  | _ => 0

/-- The rounds over the remaining constants; `window` holds the next sixteen scheduled words. -/
def rounds : List Nat → List Nat → State → State
  | constant :: constants, scheduled :: window, s =>
      rounds constants (window ++ [nextScheduled (scheduled :: window)])
        (s.round constant scheduled)
  | _, _, s => s

/-- One block. -/
def compress (s : State) (block : List Nat) : State :=
  let t := rounds roundConstants block s
  ⟨word (s.a + t.a), word (s.b + t.b), word (s.c + t.c), word (s.d + t.d), word (s.e + t.e),
    word (s.f + t.f), word (s.g + t.g), word (s.h + t.h)⟩

/-- The big-endian bytes of a word of `count` bytes. -/
def bytesOf : Nat → Nat → List Nat
  | 0, _ => []
  | count + 1, x => (x >>> (8 * count)) % 256 :: bytesOf count x

/-- The padded message. -/
def pad (data : List UInt8) : List Nat :=
  data.map UInt8.toNat ++ 128 :: List.replicate ((119 - data.length % 64) % 64) 0 ++
    bytesOf 8 (8 * data.length)

/-- Bytes to words. -/
def wordsOf : List Nat → List Nat
  | a :: b :: c :: d :: rest => (a <<< 24 ||| b <<< 16 ||| c <<< 8 ||| d) :: wordsOf rest
  | _ => []

/-- The blocks of sixteen words, hashed one after the other; `count` bounds their number. -/
def hashWords : Nat → List Nat → State → State
  | 0, _, s => s
  | count + 1, words, s => hashWords count (words.drop 16) (compress s (words.take 16))

/-- The eight hexadecimal digits of a word. -/
def digitsOf (x : Nat) : List (Fin 16) :=
  [x >>> 28, x >>> 24, x >>> 20, x >>> 16, x >>> 12, x >>> 8, x >>> 4, x].map (Fin.ofNat 16)

/-- The digits of a state. -/
def State.digits (s : State) : List (Fin 16) :=
  [s.a, s.b, s.c, s.d, s.e, s.f, s.g, s.h].flatMap digitsOf

theorem State.length_digits (s : State) : s.digits.length = 64 := rfl

end Sha256

/-- `hashlib.sha256(data).hexdigest()`, as digits. -/
def sha256 (data : List UInt8) : { digits : List (Fin 16) // digits.length = 64 } :=
  let words := Sha256.wordsOf (Sha256.pad data)
  let final := Sha256.hashWords (words.length / 16) words .initial
  ⟨final.digits, final.length_digits⟩

example : (sha256 [0x61, 0x62, 0x63]).val.take 8 = [0xb, 0xa, 0x7, 0x8, 0x1, 0x6, 0xb, 0xf] := by
  decide +kernel

end Python
