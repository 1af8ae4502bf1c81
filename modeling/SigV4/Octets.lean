/-!
# Octets

Everything that is hashed, signed or sent is a list of octets, while everything
that a caller names – a region, a key id, a query parameter – is a text. This
file fixes the two passages between the worlds that need no decision at all:

* `SigV4.Octets.ofText` – a text as its UTF-8 octets, the only form in which a
  text is ever hashed;
* `SigV4.Octets.toNat` and `SigV4.Octets.ofNat` – a list of octets as a number
  in base 256, most significant octet first, and a number written in a given
  width (`SigV4.Octets.length_ofNat`).

The way back from octets to a text can fail, and how it fails is a decision of
its own: see `SigV4.Octets.Unicode`.
-/

namespace SigV4

/-- A sequence of octets. -/
abbrev Octets := List UInt8

namespace Octets

/-! ### Texts -/

/-- The UTF-8 octets of a text. -/
def ofText (s : String) : Octets :=
  s.toList.flatMap String.utf8EncodeChar

@[simp] theorem ofText_append (s t : String) : ofText (s ++ t) = ofText s ++ ofText t := by
  simp [ofText]

/-! ### Numbers in base 256 -/

/-- The number that the octets write in base 256, most significant octet
first. -/
def toNat (bs : Octets) : Nat :=
  bs.foldl (fun n b => n * 256 + b.toNat) 0

/-- The number `n` in base 256, written with exactly `width` octets. A number
that needs more keeps its lowest `width` octets. -/
def ofNat : (width : Nat) → (n : Nat) → Octets
  | 0, _ => []
  | width + 1, n => ofNat width (n / 256) ++ [UInt8.ofNat n]

@[simp] theorem length_ofNat (width n : Nat) : (ofNat width n).length = width := by
  induction width generalizing n with
  | zero => rfl
  | succ width ih => simp [ofNat, ih]

theorem toNat_append_singleton (bs : Octets) (b : UInt8) :
    toNat (bs ++ [b]) = toNat bs * 256 + b.toNat := by
  simp [toNat]

/-- **Writing a number and reading it back** keeps what fits the width. -/
theorem toNat_ofNat (width n : Nat) : toNat (ofNat width n) = n % Nat.pow 256 width := by
  induction width generalizing n with
  | zero => simp [ofNat, toNat, Nat.mod_one]
  | succ width ih =>
    change _ = n % (Nat.pow 256 width * 256)
    rw [ofNat, toNat_append_singleton, ih, Nat.mul_comm (Nat.pow 256 width) 256, Nat.mod_mul]
    simp
    omega

end Octets

end SigV4
