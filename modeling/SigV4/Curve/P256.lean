import SigV4.Curve.Power

/-!
# The curve P-256

The group in which asymmetric signatures live: the points of
`y² = x³ - 3x + b` over a prime field of 256 bits, with the point at infinity,
and a base point that generates a group of prime order.

Coordinates and scalars are `Fin` types of the two primes, so a value that is not
reduced cannot be written down, and the range checks of the standard are
conversions from natural numbers (`SigV4.P256.Coordinate.ofNat?`,
`SigV4.P256.Scalar.ofNat?`). Points are affine, and the sum of two points is the
chord-and-tangent rule as it is drawn: each sum costs an inverse, and every
intermediate value is a point that a reader can check against the curve's
equation.
-/

namespace SigV4

namespace P256

/-! ### The two primes -/

/-- The prime of the coordinate field. -/
def prime : Nat := 0xffffffff00000001000000000000000000000000ffffffffffffffffffffffff

/-- The prime order of the group. -/
def order : Nat := 0xffffffff00000000ffffffffffffffffbce6faada7179e84f3b9cac2fc632551

instance : @NeZero Nat Zero.ofOfNat0 prime := ⟨by decide⟩

instance : @NeZero Nat Zero.ofOfNat0 order := ⟨by decide⟩

/-- An element of the coordinate field. -/
abbrev Coordinate := Fin prime

/-- A multiplier of points, up to the order of the group. -/
abbrev Scalar := Fin order

/-- A number as a coordinate, if it is reduced. -/
def Coordinate.ofNat? (n : Nat) : Option Coordinate :=
  if h : n < prime then some ⟨n, h⟩ else none

/-- A number as a scalar, if it is reduced. -/
def Scalar.ofNat? (n : Nat) : Option Scalar :=
  if h : n < order then some ⟨n, h⟩ else none

/-- A number reduced to a scalar. -/
def Scalar.reduce (n : Nat) : Scalar := Fin.ofNat order n

/-- The inverse of a nonzero coordinate, as the power that the little theorem of
Fermat gives. -/
def Coordinate.inverse (x : Coordinate) : Coordinate :=
  Power.power (· * ·) 1 x (prime - 2)

/-- The inverse of a nonzero scalar. -/
def Scalar.inverse (k : Scalar) : Scalar :=
  Power.power (· * ·) 1 k (order - 2)

/-! ### Points -/

/-- **A point**: the one at infinity, or a pair of coordinates. -/
inductive Point where
  /-- The neutral element. -/
  | infinity
  /-- A point of the plane. -/
  | affine (x y : Coordinate)
deriving DecidableEq

/-- The constant term of the curve's equation. -/
def b : Coordinate :=
  Fin.ofNat prime 0x5ac635d8aa3a93e7b3ebbd55769886bc651d06b0cc53b0f63bce3c3e27d2604b

namespace Point

/-- Whether two coordinates satisfy the equation of the curve. -/
def OnCurve (x y : Coordinate) : Prop :=
  y * y = x * x * x - 3 * x + b

instance (x y : Coordinate) : Decidable (OnCurve x y) :=
  inferInstanceAs (Decidable (_ = _))

/-- The point with the given coordinates, if it lies on the curve. -/
def ofCoordinates? (x y : Coordinate) : Option Point :=
  if OnCurve x y then some (.affine x y) else none

/-- The third point of the line with the given slope through `(x₁, y₁)` and a
point of abscissa `x₂`, reflected. -/
def third (slope x₁ y₁ x₂ : Coordinate) : Point :=
  let x := slope * slope - x₁ - x₂
  .affine x (slope * (x₁ - x) - y₁)

/-- **The sum of two points** by chord and tangent. A point and its reflection add
up to infinity. -/
def add : Point → Point → Point
  | .infinity, q => q
  | p, .infinity => p
  | .affine x₁ y₁, .affine x₂ y₂ =>
    if x₁ = x₂ then
      if y₁ + y₂ = 0 then .infinity
      else third ((3 * x₁ * x₁ - 3) * Coordinate.inverse (2 * y₁)) x₁ y₁ x₂
    else third ((y₂ - y₁) * Coordinate.inverse (x₂ - x₁)) x₁ y₁ x₂

/-- A multiple of a point. -/
def multiple (k : Scalar) (q : Point) : Point :=
  Power.power add .infinity q k.val

/-- The base point. -/
def base : Point :=
  .affine
    (Fin.ofNat prime 0x6b17d1f2e12c4247f8bce6e563a440f277037d812deb33a0f4a13945d898c296)
    (Fin.ofNat prime 0x4fe342e2fe1a7f9b8ee7eb4a7c0f9e162bce33576b315ececbb6406837bf51f5)

end Point

end P256

end SigV4
