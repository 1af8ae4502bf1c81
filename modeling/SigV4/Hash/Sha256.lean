import SigV4.Octets.Hex

/-!
# SHA-256

The one hash function of the signature scheme. A message is padded to whole
blocks of 64 octets, each block is expanded into a schedule of 64 words, and a
state of eight words is folded over the schedule of one block after another.

* `SigV4.Sha256.digest` – the 32 octets of the hash
  (`SigV4.Sha256.length_digest`);
* `SigV4.Sha256.hexDigest` – the same as hexadecimal text, the form in which a
  digest enters a text to be signed.

The state is a structure of eight words rather than a list, so that a digest has
its length by its type and not by an invariant carried along.
-/

namespace SigV4

namespace Sha256

/-! ### Words -/

/-- Rotation of a word to the right, for amounts strictly between 0 and 32. -/
def rotateRight (x : UInt32) (n : UInt32) : UInt32 :=
  (x >>> n) ||| (x <<< (32 - n))

/-- The word that four octets write, most significant first. -/
def word (a b c d : UInt8) : UInt32 :=
  (a.toUInt32 <<< 24) ||| (b.toUInt32 <<< 16) ||| (c.toUInt32 <<< 8) ||| d.toUInt32

/-- The four octets of a word, most significant first. -/
def octetsOfWord (w : UInt32) : Octets :=
  [(w >>> 24).toUInt8, (w >>> 16).toUInt8, (w >>> 8).toUInt8, w.toUInt8]

/-- The words that a list of octets writes, four octets each. -/
def words : Octets → List UInt32
  | a :: b :: c :: d :: rest => word a b c d :: words rest
  | _ => []

/-! ### The state -/

/-- **The chaining state**: eight words, also the working variables of the
rounds. -/
structure State where
  a : UInt32
  b : UInt32
  c : UInt32
  d : UInt32
  e : UInt32
  f : UInt32
  g : UInt32
  h : UInt32

namespace State

/-- The state before the first block. -/
def initial : State where
  a := 0x6a09e667
  b := 0xbb67ae85
  c := 0x3c6ef372
  d := 0xa54ff53a
  e := 0x510e527f
  f := 0x9b05688c
  g := 0x1f83d9ab
  h := 0x5be0cd19

/-- Word by word addition. -/
def add (s t : State) : State where
  a := s.a + t.a
  b := s.b + t.b
  c := s.c + t.c
  d := s.d + t.d
  e := s.e + t.e
  f := s.f + t.f
  g := s.g + t.g
  h := s.h + t.h

/-- The octets of the eight words in order. -/
def octets (s : State) : Octets :=
  octetsOfWord s.a ++ octetsOfWord s.b ++ octetsOfWord s.c ++ octetsOfWord s.d ++
    octetsOfWord s.e ++ octetsOfWord s.f ++ octetsOfWord s.g ++ octetsOfWord s.h

@[simp] theorem length_octets (s : State) : s.octets.length = 32 := rfl

/-- One round, driven by the sum of a round constant and a schedule word. -/
def round (s : State) (kw : UInt32) : State :=
  let sum₁ := rotateRight s.e 6 ^^^ rotateRight s.e 11 ^^^ rotateRight s.e 25
  let choice := (s.e &&& s.f) ^^^ (~~~s.e &&& s.g)
  let sum₀ := rotateRight s.a 2 ^^^ rotateRight s.a 13 ^^^ rotateRight s.a 22
  let majority := (s.a &&& s.b) ^^^ (s.a &&& s.c) ^^^ (s.b &&& s.c)
  let t := s.h + sum₁ + choice + kw
  { a := t + sum₀ + majority, b := s.a, c := s.b, d := s.c,
    e := s.d + t, f := s.e, g := s.f, h := s.g }

end State

/-! ### Blocks -/

/-- The round constants. -/
def constants : List UInt32 :=
  [0x428a2f98, 0x71374491, 0xb5c0fbcf, 0xe9b5dba5, 0x3956c25b, 0x59f111f1, 0x923f82a4, 0xab1c5ed5,
   0xd807aa98, 0x12835b01, 0x243185be, 0x550c7dc3, 0x72be5d74, 0x80deb1fe, 0x9bdc06a7, 0xc19bf174,
   0xe49b69c1, 0xefbe4786, 0x0fc19dc6, 0x240ca1cc, 0x2de92c6f, 0x4a7484aa, 0x5cb0a9dc, 0x76f988da,
   0x983e5152, 0xa831c66d, 0xb00327c8, 0xbf597fc7, 0xc6e00bf3, 0xd5a79147, 0x06ca6351, 0x14292967,
   0x27b70a85, 0x2e1b2138, 0x4d2c6dfc, 0x53380d13, 0x650a7354, 0x766a0abb, 0x81c2c92e, 0x92722c85,
   0xa2bfe8a1, 0xa81a664b, 0xc24b8b70, 0xc76c51a3, 0xd192e819, 0xd6990624, 0xf40e3585, 0x106aa070,
   0x19a4c116, 0x1e376c08, 0x2748774c, 0x34b0bcb5, 0x391c0cb3, 0x4ed8aa4a, 0x5b9cca4f, 0x682e6ff3,
   0x748f82ee, 0x78a5636f, 0x84c87814, 0x8cc70208, 0x90befffa, 0xa4506ceb, 0xbef9a3f7, 0xc67178f2]

/-- Extends a schedule by the next word, computed from the words two, seven,
fifteen and sixteen places back. -/
def extend (schedule : Array UInt32) : Array UInt32 :=
  let back (n : Nat) : UInt32 := schedule.getD (schedule.size - n) 0
  let small₀ := rotateRight (back 15) 7 ^^^ rotateRight (back 15) 18 ^^^ (back 15 >>> 3)
  let small₁ := rotateRight (back 2) 17 ^^^ rotateRight (back 2) 19 ^^^ (back 2 >>> 10)
  schedule.push (back 16 + small₀ + back 7 + small₁)

/-- The schedule of a block: its own sixteen words and 48 more. -/
def schedule (block : Octets) : List UInt32 :=
  (Nat.repeat extend 48 (words block).toArray).toList

/-- The state after one more block. -/
def compress (s : State) (block : Octets) : State :=
  s.add ((List.zipWith (· + ·) constants (schedule block)).foldl State.round s)

/-- The state after the first `count` blocks of a message. -/
def absorb : (count : Nat) → State → Octets → State
  | 0, s, _ => s
  | count + 1, s, message => absorb count (compress s (message.take 64)) (message.drop 64)

/-- The message with its padding: a set bit, zeros up to a block less eight
octets, and the length in bits. -/
def pad (message : Octets) : Octets :=
  message ++ 0x80 :: List.replicate ((119 - message.length % 64) % 64) 0 ++
    Octets.ofNat 8 (8 * message.length)

/-! ### The hash -/

/-- **The SHA-256 digest** of a message. -/
def digest (message : Octets) : Octets :=
  let padded := pad message
  (absorb (padded.length / 64) .initial padded).octets

@[simp] theorem length_digest (message : Octets) : (digest message).length = 32 := rfl

/-- The digest as hexadecimal text. -/
def hexDigest (message : Octets) : String :=
  Hex.encode (digest message)

end Sha256

end SigV4
