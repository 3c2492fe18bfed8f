import Mutagenesis.Text.Decimal
import Mutagenesis.Text.Utf8

/-!
# SHA-256

The digest that names cached answers, of any bytes, as sixty-four hexadecimal digits.
-/
namespace Mutagenesis.Sha256

/-- The state before the first block: the first fractional bits of the square roots of the first
eight primes. -/
def initial : List UInt32 :=
  [0x6a09e667, 0xbb67ae85, 0x3c6ef372, 0xa54ff53a, 0x510e527f, 0x9b05688c,
   0x1f83d9ab, 0x5be0cd19]

/-- The constants of the rounds: the first fractional bits of the cube roots of the first
sixty-four primes. -/
def constants : List UInt32 :=
  [0x428a2f98, 0x71374491, 0xb5c0fbcf, 0xe9b5dba5, 0x3956c25b, 0x59f111f1,
   0x923f82a4, 0xab1c5ed5, 0xd807aa98, 0x12835b01, 0x243185be, 0x550c7dc3,
   0x72be5d74, 0x80deb1fe, 0x9bdc06a7, 0xc19bf174, 0xe49b69c1, 0xefbe4786,
   0x0fc19dc6, 0x240ca1cc, 0x2de92c6f, 0x4a7484aa, 0x5cb0a9dc, 0x76f988da,
   0x983e5152, 0xa831c66d, 0xb00327c8, 0xbf597fc7, 0xc6e00bf3, 0xd5a79147,
   0x06ca6351, 0x14292967, 0x27b70a85, 0x2e1b2138, 0x4d2c6dfc, 0x53380d13,
   0x650a7354, 0x766a0abb, 0x81c2c92e, 0x92722c85, 0xa2bfe8a1, 0xa81a664b,
   0xc24b8b70, 0xc76c51a3, 0xd192e819, 0xd6990624, 0xf40e3585, 0x106aa070,
   0x19a4c116, 0x1e376c08, 0x2748774c, 0x34b0bcb5, 0x391c0cb3, 0x4ed8aa4a,
   0x5b9cca4f, 0x682e6ff3, 0x748f82ee, 0x78a5636f, 0x84c87814, 0x8cc70208,
   0x90befffa, 0xa4506ceb, 0xbef9a3f7, 0xc67178f2]

def rotate (x : UInt32) (n : UInt32) : UInt32 := (x >>> n) ||| (x <<< (32 - n))

/-- The bytes of a number, the highest first. -/
def bigEndian (count n : Nat) : Bytes :=
  (List.range count).reverse.map fun i : Nat => UInt8.ofNat (n >>> (8 * i))

/-- A message with a one bit, zeros and its length in bits behind it, to a whole number of
blocks. -/
def padded (message : Bytes) : Bytes :=
  let zeros := (119 - message.length % 64) % 64
  message ++ 0x80 :: List.replicate zeros 0 ++ bigEndian 8 (8 * message.length)

/-- The words of bytes, four bytes each. -/
def words : Bytes → List UInt32
  | a :: b :: c :: d :: rest =>
      (a.toUInt32 <<< 24 ||| b.toUInt32 <<< 16 ||| c.toUInt32 <<< 8 ||| d.toUInt32) :: words rest
  | _ => []

/-- The words of a block continued to the number of rounds, the last first. -/
def schedule : Nat → List UInt32 → List UInt32
  | 0, reversed => reversed
  | n + 1, reversed =>
      let at' (i : Nat) := reversed.getD (i - 1) 0
      let a := at' 15
      let b := at' 2
      let s0 := rotate a 7 ^^^ rotate a 18 ^^^ (a >>> 3)
      let s1 := rotate b 17 ^^^ rotate b 19 ^^^ (b >>> 10)
      schedule n ((at' 16 + s0 + at' 7 + s1) :: reversed)

/-- The eight words that a round works on. -/
structure State where
  a : UInt32
  b : UInt32
  c : UInt32
  d : UInt32
  e : UInt32
  f : UInt32
  g : UInt32
  h : UInt32

namespace State

def ofWords : List UInt32 → State
  | [a, b, c, d, e, f, g, h] => ⟨a, b, c, d, e, f, g, h⟩
  | _ => ⟨0, 0, 0, 0, 0, 0, 0, 0⟩

def toWords (s : State) : List UInt32 := [s.a, s.b, s.c, s.d, s.e, s.f, s.g, s.h]

/-- One round with the sum of its constant and word. -/
def round (s : State) (input : UInt32) : State :=
  let s1 := rotate s.e 6 ^^^ rotate s.e 11 ^^^ rotate s.e 25
  let choice := (s.e &&& s.f) ^^^ (~~~s.e &&& s.g)
  let t1 := s.h + s1 + choice + input
  let s0 := rotate s.a 2 ^^^ rotate s.a 13 ^^^ rotate s.a 22
  let majority := (s.a &&& s.b) ^^^ (s.a &&& s.c) ^^^ (s.b &&& s.c)
  ⟨t1 + (s0 + majority), s.a, s.b, s.c, s.d + t1, s.e, s.f, s.g⟩

end State

/-- The state after a block of sixteen words. -/
def compress (state block : List UInt32) : List UInt32 :=
  let inputs := (constants.zip (schedule 48 block.reverse).reverse).map fun (k, w) => k + w
  let last := inputs.foldl State.round (.ofWords state)
  state.zipWith (· + ·) last.toWords

/-- The state after the blocks of the words; the first number bounds the blocks. -/
def compressAll : Nat → List UInt32 → List UInt32 → List UInt32
  | 0, state, _ => state
  | n + 1, state, ws =>
      if ws.isEmpty then state else compressAll n (compress state (ws.take 16)) (ws.drop 16)

/-- Two hexadecimal digits. -/
def hexByte (b : UInt8) : List Char :=
  [Text.digitChar (b.toNat / 16), Text.digitChar (b.toNat % 16)]

/-- The digest of a message in hexadecimal digits. -/
def digest (message : Bytes) : String :=
  let ws := words (padded message)
  let state := compressAll (ws.length / 16) initial ws
  String.ofList ((state.flatMap fun w => bigEndian 4 w.toNat).flatMap hexByte)

end Mutagenesis.Sha256
