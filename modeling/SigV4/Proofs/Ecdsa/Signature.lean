import SigV4.Ecdsa.Signature

/-!
# The fixed-width form of a signature is read back

Two scalars are below the order of the group, so they fit into 32 octets each, and a reader
that is given the 64 octets of a signature finds the signature
(`SigV4.Ecdsa.Signature.ofOctets?_octets`).
-/

namespace SigV4

namespace Ecdsa

open P256

namespace Signature

variable {sig : Signature} {r s : Scalar}

/-- A pair of scalars is a signature if neither is zero. -/
theorem ofScalars?_eq_some_iff : ofScalars? r s = some sig ↔ sig.r = r ∧ sig.s = s := by
  rw [ofScalars?]
  constructor
  · intro h
    split at h
    · obtain rfl := Option.some.inj h
      exact ⟨rfl, rfl⟩
    · cases h
  · rintro ⟨rfl, rfl⟩
    exact dif_pos ⟨sig.r_nonzero, sig.s_nonzero⟩

theorem scalar_ofNat?_val (k : Scalar) : Scalar.ofNat? k.val = some k :=
  dif_pos k.isLt

theorem toNat_ofNat_val (k : Scalar) : Octets.toNat (Octets.ofNat 32 k.val) = k.val := by
  rw [Octets.toNat_ofNat]
  exact Nat.mod_eq_of_lt (Nat.lt_trans k.isLt (by decide))

/-- **What was written in fixed width is read back.** -/
theorem ofOctets?_octets (sig : Signature) : ofOctets? sig.octets = some sig := by
  rw [ofOctets?, if_pos sig.length_octets, octets, List.take_left' (Octets.length_ofNat 32 _),
    List.drop_left' (Octets.length_ofNat 32 _), toNat_ofNat_val, toNat_ofNat_val, ofNats?,
    scalar_ofNat?_val, scalar_ofNat?_val]
  exact ofScalars?_eq_some_iff.mpr ⟨rfl, rfl⟩

end Signature

end Ecdsa

end SigV4
