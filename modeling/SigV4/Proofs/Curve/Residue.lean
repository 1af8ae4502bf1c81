import SigV4.Proofs.Curve.Primes

/-!
# Coordinates and scalars as residues

Coordinates and scalars are numbers below a modulus, and their sums and products are
reduced. As residues they are elements of a field, since the moduli are primes, and what
the curve calls an inverse is the inverse there (`SigV4.P256.Coordinate.residue_inverse`,
`SigV4.P256.Scalar.residue_inverse`). Nothing gets lost on the way
(`SigV4.P256.residue_injective`), so an equation between residues is one between the
numbers.
-/

namespace SigV4

namespace P256

variable {m : Nat}

/-- A number below a modulus as a residue. -/
def residue (x : Fin m) : ZMod m := (x.val : ZMod m)

theorem residue_injective : Function.Injective (residue : Fin m → ZMod m) := by
  intro x y h
  have hmod := (ZMod.natCast_eq_natCast_iff' _ _ m).mp h
  rw [Nat.mod_eq_of_lt x.isLt, Nat.mod_eq_of_lt y.isLt] at hmod
  exact Fin.ext hmod

theorem residue_add (x y : Fin m) : residue (x + y) = residue x + residue y := by
  rw [residue, Fin.val_add, ZMod.natCast_mod, Nat.cast_add]
  rfl

theorem residue_mul (x y : Fin m) : residue (x * y) = residue x * residue y := by
  rw [residue, Fin.val_mul, ZMod.natCast_mod, Nat.cast_mul]
  rfl

theorem residue_sub (x y : Fin m) : residue (x - y) = residue x - residue y := by
  rw [residue, Fin.val_sub, ZMod.natCast_mod, Nat.cast_add, Nat.cast_sub y.isLt.le,
    ZMod.natCast_self, zero_sub, neg_add_eq_sub]
  rfl

section

variable [NeZero m]

theorem residue_ofNat (n : Nat) : residue (Fin.ofNat m n) = n :=
  ZMod.natCast_mod n m

theorem residue_zero : residue (0 : Fin m) = 0 :=
  (residue_ofNat 0).trans Nat.cast_zero

theorem residue_one : residue (1 : Fin m) = 1 :=
  (residue_ofNat 1).trans Nat.cast_one

theorem residue_eq_zero_iff {x : Fin m} : residue x = 0 ↔ x = 0 := by
  rw [← residue_zero]
  exact residue_injective.eq_iff

theorem residue_power (x : Fin m) (e : Nat) :
    residue (Power.power (· * ·) 1 x e) = residue x ^ e := by
  refine Power.power_induction (Q := fun n a => residue a = residue x ^ n) ?_ ?_ ?_ e
  · rw [residue_one, pow_zero]
  · rw [pow_one]
  · intro j k a b ha hb
    rw [residue_mul, ha, hb, pow_add]

/-- The power that the little theorem of Fermat gives is the inverse. -/
theorem residue_power_sub_two [Fact m.Prime] (hm : 2 < m) (x : Fin m) :
    residue (Power.power (· * ·) 1 x (m - 2)) = (residue x)⁻¹ := by
  rw [residue_power]
  by_cases hx : residue x = 0
  · rw [hx, inv_zero, zero_pow (by omega)]
  · refine eq_inv_of_mul_eq_one_left ?_
    rw [← pow_succ, show m - 2 + 1 = m - 1 by omega]
    exact ZMod.pow_card_sub_one_eq_one hx

end

/-! ### The two fields -/

instance : Fact prime.Prime := ⟨prime_prime⟩

instance : Fact order.Prime := ⟨prime_order⟩

theorem Coordinate.residue_inverse (x : Coordinate) :
    residue (inverse x) = (residue x)⁻¹ :=
  residue_power_sub_two (by decide) x

theorem Scalar.residue_inverse (k : Scalar) : residue (inverse k) = (residue k)⁻¹ :=
  residue_power_sub_two (by decide) k

end P256

end SigV4
