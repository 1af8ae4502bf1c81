import SigV4.Identity
import SigV4.Proofs.Octets.Numbers

/-!
# Private keys that are given

A private key that is not derived is given by its octets, and the number that they write is taken
as it is or not at all: it is neither reduced nor made positive. So a credential that comes out has
exactly the octets that went in (`SigV4.AsymmetricCredential.ofOctets_decides`), up to one thing.
Fewer than 32 octets, and 24 at least, are the lower octets of a key that begins with zeros.

This is a matter of care, since a key of which the end has got lost is a key too, and another one
(`SigV4.AsymmetricCredential.ofOctets_truncated`). With 32 octets there is no such mistake, as
every other number of them is then refused.
-/

namespace SigV4

open P256

namespace Ecdsa

namespace PrivateKey

variable {key : PrivateKey} {bs : Octets} {k : Scalar} {n : Nat}

theorem ofScalar?_eq_some_iff : ofScalar? k = some key ↔ key.scalar = k := by
  rw [ofScalar?]
  constructor
  · intro h
    split at h
    · obtain rfl := Option.some.inj h
      rfl
    · cases h
  · rintro rfl
    exact dif_pos key.nonzero

/-- **A number is a private key** exactly if it is the key's scalar. -/
theorem ofNat?_bind_eq_some_iff :
    (Scalar.ofNat? n).bind ofScalar? = some key ↔ key.scalar.val = n := by
  simp only [Option.bind_eq_some_iff, ofScalar?_eq_some_iff]
  constructor
  · rintro ⟨k, hk, rfl⟩
    obtain ⟨_, hk⟩ := Option.dite_none_right_eq_some.mp hk
    exact congrArg Fin.val (Option.some.inj hk).symm
  · rintro rfl
    exact ⟨_, dif_pos key.scalar.isLt, rfl⟩

theorem ofOctets?_eq_some_iff :
    ofOctets? bs = some key ↔
      (24 ≤ bs.length ∧ bs.length ≤ 32) ∧ key.scalar.val = bs.toNat := by
  rw [ofOctets?, Option.ite_none_right_eq_some, ofNat?_bind_eq_some_iff]

/-- The scalar of a private key is positive and below the order of the group. -/
theorem val_bounds (key : PrivateKey) :
    1 ≤ key.scalar.val ∧ key.scalar.val ≤ order - 1 := by
  have hpos : key.scalar.val ≠ 0 := fun hzero => key.nonzero (Fin.ext hzero)
  have hlt := key.scalar.isLt
  omega

/-- Every number in this range is the scalar of a private key. -/
theorem exists_scalar_iff : (∃ key : PrivateKey, key.scalar.val = n) ↔ 1 ≤ n ∧ n ≤ order - 1 := by
  constructor
  · rintro ⟨key, rfl⟩
    exact key.val_bounds
  · rintro ⟨hpos, hle⟩
    have horder : 0 < order := by decide
    refine ⟨⟨⟨n, by omega⟩, fun hzero => ?_⟩, rfl⟩
    have hn : n = 0 := congrArg Fin.val hzero
    omega

/-- **Octets are a private key** if there are 24 to 32 of them, and the number is in range. -/
theorem exists_ofOctets?_iff :
    (∃ key, ofOctets? bs = some key) ↔
      (24 ≤ bs.length ∧ bs.length ≤ 32) ∧ 1 ≤ bs.toNat ∧ bs.toNat ≤ order - 1 := by
  simp only [ofOctets?_eq_some_iff, exists_and_left, exists_scalar_iff]

/-- **The octets of the key** are those that were given, behind zeros. -/
theorem ofOctets?_eq_some_iff_octets :
    ofOctets? bs = some key ↔
      24 ≤ bs.length ∧ key.octets = List.replicate (32 - bs.length) 0 ++ bs := by
  rw [ofOctets?_eq_some_iff]
  constructor
  · rintro ⟨⟨hge, hle⟩, hnumber⟩
    refine ⟨hge, ?_⟩
    rw [octets, hnumber]
    exact Octets.ofNat_toNat_of_le hle
  · rintro ⟨hge, hoctets⟩
    have hlength := congrArg List.length hoctets
    rw [octets, Octets.length_ofNat, List.length_append, List.length_replicate] at hlength
    refine ⟨⟨hge, by omega⟩, ?_⟩
    have hnumber := congrArg Octets.toNat hoctets
    rwa [octets, Octets.toNat_replicate_append, Octets.toNat_ofNat_of_lt
      (Nat.lt_trans key.scalar.isLt (by decide))] at hnumber

end PrivateKey

end Ecdsa

namespace AsymmetricCredential

variable {accessKeyId : String} {bs : Octets} {c : AsymmetricCredential} {e : Error}

theorem ofOctets_eq_ok_iff :
    ofOctets accessKeyId bs = .ok c ↔ Ecdsa.PrivateKey.ofOctets? bs = some c.key ∧
      c.accessKeyId = accessKeyId ∧ c.sessionToken = none ∧ c.expires = none := by
  rw [ofOctets]
  cases Ecdsa.PrivateKey.ofOctets? bs with
  | none => exact ⟨nofun, nofun⟩
  | some key =>
    constructor
    · intro h
      obtain rfl := Except.ok.inj h
      exact ⟨rfl, rfl, rfl, rfl⟩
    · rintro ⟨hkey, rfl, htoken, hexpires⟩
      obtain rfl := Option.some.inj hkey
      rw [← htoken, ← hexpires]

theorem ofOctets_eq_error_iff :
    ofOctets accessKeyId bs = .error e ↔
      ¬(∃ key, Ecdsa.PrivateKey.ofOctets? bs = some key) ∧ e = .malformedPrivateKey := by
  rw [ofOctets]
  cases Ecdsa.PrivateKey.ofOctets? bs with
  | none =>
    refine ⟨fun h => ⟨nofun, (Except.error.inj h).symm⟩, ?_⟩
    rintro ⟨-, rfl⟩
    rfl
  | some key => exact ⟨nofun, fun h => absurd ⟨key, rfl⟩ h.1⟩

theorem exists_ofOctets_iff :
    (∃ c, ofOctets accessKeyId bs = .ok c) ↔ ∃ key, Ecdsa.PrivateKey.ofOctets? bs = some key := by
  simp only [ofOctets_eq_ok_iff]
  constructor
  · rintro ⟨c, hkey, -⟩
    exact ⟨c.key, hkey⟩
  · rintro ⟨key, hkey⟩
    exact ⟨{ accessKeyId, key }, hkey, rfl, rfl, rfl⟩

/-- **What is made of the octets of a private key**. There is a credential if there are 24 to 32
octets that write a positive number below the order of the group, and the error is one about keys
if there is none. The credential has the octets that were given, with zeros in front if they were
fewer than 32, and nothing else but the key id. -/
theorem ofOctets_decides (accessKeyId : String) (bs : Octets) :
    ((∃ c, ofOctets accessKeyId bs = .ok c) ↔
      (24 ≤ bs.length ∧ bs.length ≤ 32) ∧ 1 ≤ bs.toNat ∧ bs.toNat ≤ order - 1) ∧
    (∀ c, ofOctets accessKeyId bs = .ok c ↔
      (24 ≤ bs.length ∧ c.key.octets = List.replicate (32 - bs.length) 0 ++ bs) ∧
        c.accessKeyId = accessKeyId ∧ c.sessionToken = none ∧ c.expires = none) ∧
    (∀ e, ofOctets accessKeyId bs = .error e ↔
      ¬((24 ≤ bs.length ∧ bs.length ≤ 32) ∧ 1 ≤ bs.toNat ∧ bs.toNat ≤ order - 1) ∧
        e = .malformedPrivateKey) ∧
    Error.malformedPrivateKey.kind = .invalidKey := by
  refine ⟨?_, fun c => ?_, fun e => ?_, rfl⟩
  · rw [exists_ofOctets_iff, Ecdsa.PrivateKey.exists_ofOctets?_iff]
  · rw [ofOctets_eq_ok_iff, Ecdsa.PrivateKey.ofOctets?_eq_some_iff_octets]
  · rw [ofOctets_eq_error_iff, Ecdsa.PrivateKey.exists_ofOctets?_iff]

/-- **A key of which the last octet is missing** is taken for another key. -/
theorem ofOctets_truncated :
    ∃ whole truncated, ofOctets "id" (List.replicate 32 1) = .ok whole ∧
      ofOctets "id" (List.replicate 31 1) = .ok truncated ∧
      whole.key.octets = List.replicate 32 1 ∧ truncated.key.octets = 0 :: List.replicate 31 1 := by
  have hwhole : ∃ key, Ecdsa.PrivateKey.ofOctets? (List.replicate 32 1) = some key :=
    Ecdsa.PrivateKey.exists_ofOctets?_iff.mpr (by decide +kernel)
  have htruncated : ∃ key, Ecdsa.PrivateKey.ofOctets? (List.replicate 31 1) = some key :=
    Ecdsa.PrivateKey.exists_ofOctets?_iff.mpr (by decide +kernel)
  obtain ⟨whole, hwhole⟩ := exists_ofOctets_iff.mpr hwhole
  obtain ⟨truncated, htruncated⟩ := exists_ofOctets_iff.mpr htruncated
  refine ⟨whole, truncated, hwhole, htruncated, ?_, ?_⟩
  · exact (Ecdsa.PrivateKey.ofOctets?_eq_some_iff_octets.mp (ofOctets_eq_ok_iff.mp hwhole).1).2
  · exact (Ecdsa.PrivateKey.ofOctets?_eq_some_iff_octets.mp (ofOctets_eq_ok_iff.mp htruncated).1).2

end AsymmetricCredential

end SigV4
