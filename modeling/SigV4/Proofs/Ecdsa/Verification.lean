import SigV4.Ecdsa
import SigV4.Proofs.Curve.Group
import SigV4.Proofs.Ecdsa.Signature

/-!
# A signature verifies

Whoever holds the public key accepts what was signed with the private one
(`SigV4.Ecdsa.verify_of_sign?`). The verifier adds a multiple of the base point and a
multiple of the public key, which is itself a multiple of the base point by a number that
the verifier does not know, and ends at the point of the nonce. So the proof is one equation
between the numbers that multiply the base point, modulo the order of the group
(`SigV4.Ecdsa.residue_nonce`), and the rest is that points behave like a group
(`SigV4.P256.Represents`).
-/

namespace SigV4

namespace Ecdsa

open P256

variable {key : PrivateKey} {message : Octets} {sig : Signature}

theorem PrivateKey.scalar_injective : Function.Injective PrivateKey.scalar := by
  rintro ⟨a, _⟩ ⟨b, _⟩ h
  obtain rfl : a = b := h
  rfl

/-- **What a nonce makes of a digest**: a signature, unless one of its scalars is zero. -/
def signature? (key : PrivateKey) (digest : Octets) (k : PrivateKey) : Option Signature :=
  match k.publicKey with
  | .infinity => none
  | .affine x _ => Signature.ofScalars? (Scalar.reduce x.val)
      (Scalar.inverse k.scalar * (digestScalar digest + Scalar.reduce x.val * key.scalar))

theorem sign?_eq_bind : sign? key message =
    (Nonce.nonce? key (Sha256.digest message)).bind (signature? key (Sha256.digest message)) := by
  rw [sign?, Option.bind_eq_bind]
  refine Option.bind_congr fun k _ => ?_
  rw [signature?]
  cases k.publicKey <;> rfl

/-- **What a signature is made of**: the abscissa of the nonce's point, and a scalar in which
the nonce hides the private key. -/
theorem sign?_eq_some_iff :
    sign? key message = some sig ↔
      ∃ k x y, Nonce.nonce? key (Sha256.digest message) = some k ∧
        k.publicKey = .affine x y ∧ sig.r = Scalar.reduce x.val ∧
        sig.s = Scalar.inverse k.scalar *
          (digestScalar (Sha256.digest message) + sig.r * key.scalar) := by
  rw [sign?_eq_bind, Option.bind_eq_some_iff]
  constructor
  · rintro ⟨k, hk, h⟩
    rw [signature?] at h
    split at h
    · cases h
    · next x y hpoint =>
      obtain ⟨hr, hs⟩ := Signature.ofScalars?_eq_some_iff.mp h
      exact ⟨k, x, y, hk, hpoint, hr, by rw [hs, hr]⟩
  · rintro ⟨k, x, y, hk, hpoint, hr, hs⟩
    refine ⟨k, hk, ?_⟩
    rw [signature?, hpoint]
    exact Signature.ofScalars?_eq_some_iff.mpr ⟨hr, by rw [hs, hr]⟩

/-- **The verifier finds the nonce**, in the residues modulo the order of the group. -/
theorem residue_nonce {d k e r s : Scalar} (hk : k ≠ 0) (hs : s ≠ 0)
    (h : s = Scalar.inverse k * (e + r * d)) :
    residue (e * Scalar.inverse s) + residue (r * Scalar.inverse s) * residue d = residue k := by
  have hk' : residue k ≠ 0 := residue_eq_zero_iff.not.mpr hk
  have hs' : residue s ≠ 0 := residue_eq_zero_iff.not.mpr hs
  have hnonce : residue k * residue s = residue e + residue r * residue d := by
    rw [h, residue_mul, Scalar.residue_inverse, residue_add, residue_mul,
      mul_inv_cancel_left₀ hk']
  rw [residue_mul, residue_mul, Scalar.residue_inverse]
  calc residue e * (residue s)⁻¹ + residue r * (residue s)⁻¹ * residue d
      = (residue e + residue r * residue d) * (residue s)⁻¹ := by ring
    _ = residue k := by rw [← hnonce, mul_inv_cancel_right₀ hs']

/-- **The verifier ends at the point of the nonce**: the two multiples that it adds up are
multiples of the base point, and their sum is one by the nonce. -/
theorem add_multiple_eq_publicKey {k : PrivateKey} {e r s : Scalar} (hs : s ≠ 0)
    (h : s = Scalar.inverse k.scalar * (e + r * key.scalar)) :
    (Point.multiple (e * Scalar.inverse s) Point.base).add
      (Point.multiple (r * Scalar.inverse s) key.publicKey) = k.publicKey := by
  obtain ⟨G, hbase⟩ := exists_represents_base
  have hnonce := residue_nonce k.nonzero hs h
  generalize e * Scalar.inverse s = u at hnonce ⊢
  generalize r * Scalar.inverse s = v at hnonce ⊢
  have hsum := (hbase.multiple u).add ((hbase.multiple key.scalar).multiple v)
  rw [smul_smul, ← add_smul] at hsum
  have hmultiple : (u.val + v.val * key.scalar.val) • G = k.scalar.val • G := by
    refine hbase.nsmul_eq ?_
    rw [Nat.cast_add, Nat.cast_mul]
    exact hnonce
  rw [hmultiple] at hsum
  exact hsum.unique (hbase.multiple k.scalar)

/-- **The verifier accepts** if it ends at a point of the right abscissa. -/
theorem verify_of_add_multiple_eq {publicKey : Point} {x y : Coordinate}
    (hsum : (Point.multiple (digestScalar (Sha256.digest message) * Scalar.inverse sig.s)
      Point.base).add (Point.multiple (sig.r * Scalar.inverse sig.s) publicKey) = .affine x y)
    (hr : sig.r = Scalar.reduce x.val) : verify publicKey message sig = true := by
  unfold verify
  dsimp only
  rw [hsum]
  exact beq_iff_eq.mpr hr.symm

/-- **A signature verifies** under the public key. -/
theorem verify_of_sign? (h : sign? key message = some sig) :
    verify key.publicKey message sig = true := by
  obtain ⟨k, x, y, -, hpoint, hr, hs⟩ := sign?_eq_some_iff.mp h
  have hsum := add_multiple_eq_publicKey sig.s_nonzero hs
  rw [hpoint] at hsum
  exact verify_of_add_multiple_eq hsum hr

end Ecdsa

end SigV4
