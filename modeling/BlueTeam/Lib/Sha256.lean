/- GID: BlueTeam/Lib/Sha256
   generality: G
   digest: SHA-256 over lists of bytes, and UTF-8, as computable functions. -/

import Mathlib.Algebra.Group.Nat.Defs
import Mathlib.Data.List.Basic

set_option autoImplicit false
set_option relaxedAutoImplicit false

namespace BlueTeam.Lib.Sha256

/-- Words are natural numbers below `2 ^ 32`. -/
def rotr (x n : Nat) : Nat := (x >>> n ||| x <<< (32 - n)) % 2 ^ 32

def smallSigma0 (x : Nat) : Nat := rotr x 7 ^^^ rotr x 18 ^^^ x >>> 3

def smallSigma1 (x : Nat) : Nat := rotr x 17 ^^^ rotr x 19 ^^^ x >>> 10

def bigSigma0 (x : Nat) : Nat := rotr x 2 ^^^ rotr x 13 ^^^ rotr x 22

def bigSigma1 (x : Nat) : Nat := rotr x 6 ^^^ rotr x 11 ^^^ rotr x 25

def choose (x y z : Nat) : Nat := (x &&& y) ^^^ ((2 ^ 32 - 1 - x) &&& z)

def majority (x y z : Nat) : Nat := (x &&& y) ^^^ (x &&& z) ^^^ (y &&& z)

def roundConstants : List Nat :=
  [0x428a2f98, 0x71374491, 0xb5c0fbcf, 0xe9b5dba5, 0x3956c25b, 0x59f111f1, 0x923f82a4, 0xab1c5ed5,
    0xd807aa98, 0x12835b01, 0x243185be, 0x550c7dc3, 0x72be5d74, 0x80deb1fe, 0x9bdc06a7, 0xc19bf174,
    0xe49b69c1, 0xefbe4786, 0x0fc19dc6, 0x240ca1cc, 0x2de92c6f, 0x4a7484aa, 0x5cb0a9dc, 0x76f988da,
    0x983e5152, 0xa831c66d, 0xb00327c8, 0xbf597fc7, 0xc6e00bf3, 0xd5a79147, 0x06ca6351, 0x14292967,
    0x27b70a85, 0x2e1b2138, 0x4d2c6dfc, 0x53380d13, 0x650a7354, 0x766a0abb, 0x81c2c92e, 0x92722c85,
    0xa2bfe8a1, 0xa81a664b, 0xc24b8b70, 0xc76c51a3, 0xd192e819, 0xd6990624, 0xf40e3585, 0x106aa070,
    0x19a4c116, 0x1e376c08, 0x2748774c, 0x34b0bcb5, 0x391c0cb3, 0x4ed8aa4a, 0x5b9cca4f, 0x682e6ff3,
    0x748f82ee, 0x78a5636f, 0x84c87814, 0x8cc70208, 0x90befffa, 0xa4506ceb, 0xbef9a3f7, 0xc67178f2]

/-- The eight working variables, and the intermediate hash value. -/
structure Registers where
  a : Nat
  b : Nat
  c : Nat
  d : Nat
  e : Nat
  f : Nat
  g : Nat
  h : Nat

def initial : Registers :=
  ⟨0x6a09e667, 0xbb67ae85, 0x3c6ef372, 0xa54ff53a, 0x510e527f, 0x9b05688c, 0x1f83d9ab, 0x5be0cd19⟩

/-- One of the 64 rounds, with its constant and its schedule word. -/
def round (r : Registers) (k : Nat × Nat) : Registers :=
  let t1 := r.h + bigSigma1 r.e + choose r.e r.f r.g + k.1 + k.2
  let t2 := bigSigma0 r.a + majority r.a r.b r.c
  ⟨(t1 + t2) % 2 ^ 32, r.a, r.b, r.c, (r.d + t1) % 2 ^ 32, r.e, r.f, r.g⟩

/-- The message schedule, extended by `n` words; the newest word comes first. -/
def schedule : Nat → List Nat → List Nat
  | 0, w => w
  | n + 1, w =>
      schedule n ((smallSigma1 (w.getD 1 0) + w.getD 6 0 + smallSigma0 (w.getD 14 0) +
        w.getD 15 0) % 2 ^ 32 :: w)

def compress (r : Registers) (block : List Nat) : Registers :=
  let o := (roundConstants.zip (schedule 48 block.reverse).reverse).foldl round r
  ⟨(r.a + o.a) % 2 ^ 32, (r.b + o.b) % 2 ^ 32, (r.c + o.c) % 2 ^ 32, (r.d + o.d) % 2 ^ 32,
    (r.e + o.e) % 2 ^ 32, (r.f + o.f) % 2 ^ 32, (r.g + o.g) % 2 ^ 32, (r.h + o.h) % 2 ^ 32⟩

/-- The big-endian bytes of a number, `n` of them. -/
def bigEndian (n value : Nat) : List Nat :=
  (List.range n).reverse.map (fun i => value / 256 ^ i % 256)

/-- A one bit, zeros up to 56 bytes modulo 64, and the length in bits as eight bytes. -/
def pad (message : List Nat) : List Nat :=
  message ++ 0x80 :: List.replicate ((119 - message.length % 64) % 64) 0 ++
    bigEndian 8 (8 * message.length)

/-- Big-endian words of four bytes. -/
def words : List Nat → List Nat
  | b₀ :: b₁ :: b₂ :: b₃ :: rest => (((b₀ * 256 + b₁) * 256 + b₂) * 256 + b₃) :: words rest
  | _ => []

/-- Take one more word; every sixteenth word completes a block. -/
def absorb (state : Registers × List Nat) (word : Nat) : Registers × List Nat :=
  if state.2.length = 15 then (compress state.1 (state.2 ++ [word]), [])
  else (state.1, state.2 ++ [word])

def digest (message : List Nat) : Registers :=
  ((words (pad message)).foldl absorb (initial, [])).1

/-- A word as eight lower-case hexadecimal digits. -/
def hexWord (word : Nat) : List Char :=
  (List.range 8).reverse.map (fun i => Nat.digitChar (word / 16 ^ i % 16))

def hexdigest (message : List Nat) : List Char :=
  let r := digest message
  [r.a, r.b, r.c, r.d, r.e, r.f, r.g, r.h].flatMap hexWord

@[simp] theorem length_hexWord (word : Nat) : (hexWord word).length = 8 := by
  simp [hexWord]

theorem length_hexdigest (message : List Nat) : (hexdigest message).length = 64 := by
  simp [hexdigest]

/-- The UTF-8 encoding of one character. -/
def utf8Char (c : Char) : List Nat :=
  let n := c.toNat
  if n < 0x80 then [n]
  else if n < 0x800 then [0xC0 + n / 64, 0x80 + n % 64]
  else if n < 0x10000 then [0xE0 + n / 4096, 0x80 + n / 64 % 64, 0x80 + n % 64]
  else [0xF0 + n / 262144, 0x80 + n / 4096 % 64, 0x80 + n / 64 % 64, 0x80 + n % 64]

def utf8 (text : String) : List Nat := text.toList.flatMap utf8Char

set_option maxRecDepth 100000 in
example : String.ofList (hexdigest (utf8 "abc")) =
    "ba7816bf8f01cfea414140de5dae2223b00361a396177a9cb410ff61f20015ad" := by decide +kernel

end BlueTeam.Lib.Sha256
