import Mathlib.GroupTheory.OrderOfElement
import SigV4.Ecdsa.PrivateKey
import SigV4.Proofs.Curve.Group

/-!
# Every private key has a public key

A public key is a multiple of the base point, and a multiple could be the point at infinity, which
has no coordinates and is nobody's key. It is not, since the order of the base point is a prime and
a private key is a positive number below it (`SigV4.P256.Represents.nsmul_ne_zero`). And a multiple
of a point on the curve is on the curve. So a public key has two coordinates, and they satisfy the
equation of the curve (`SigV4.Ecdsa.PrivateKey.exists_publicKey`).
-/

namespace SigV4

namespace P256

namespace Represents

variable {p : Point} {P G : curve.Point}

/-- A point that does not stand for zero has coordinates, and lies on the curve. -/
theorem exists_affine (h : Represents p P) (hP : P ≠ 0) :
    ∃ x y, p = .affine x y ∧ Point.OnCurve x y := by
  cases h with
  | infinity => exact absurd rfl hP
  | @affine x y h => exact ⟨x, y, rfl, equation_iff_onCurve.mp h.1⟩

/-- **No multiple of the base point is zero** before its order. -/
theorem nsmul_ne_zero (h : Represents Point.base G) {n : Nat} (hpos : 0 < n) (hlt : n < order) :
    n • G ≠ 0 := by
  have hG : G ≠ 0 := by
    rintro rfl
    have hbase := h.unique .infinity
    cases hbase
  have horder : addOrderOf G = order := addOrderOf_eq_prime h.order_nsmul hG
  intro hzero
  have hdvd := addOrderOf_dvd_of_nsmul_eq_zero hzero
  rw [horder] at hdvd
  exact absurd (Nat.le_of_dvd hpos hdvd) (Nat.not_le.mpr hlt)

end Represents

end P256

namespace Ecdsa

open P256

/-- **A public key has coordinates**, and they are those of a point on the curve. -/
theorem PrivateKey.exists_publicKey (key : PrivateKey) :
    ∃ x y, key.publicKey = .affine x y ∧ Point.OnCurve x y := by
  obtain ⟨G, hbase⟩ := exists_represents_base
  have hpos : 0 < key.scalar.val :=
    Nat.pos_of_ne_zero fun hzero => key.nonzero (Fin.ext hzero)
  exact (hbase.multiple key.scalar).exists_affine (hbase.nsmul_ne_zero hpos key.scalar.isLt)

end Ecdsa

end SigV4
