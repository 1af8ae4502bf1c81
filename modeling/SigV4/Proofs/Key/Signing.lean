import SigV4.Proofs.Key.Resolve

/-!
# What a key signs with

Signing never fails with a secret, and fails with a private key only where the curve has
no signature (`SigV4.SigningKey.Fails`), which is as good as never but cannot be ruled
out. Where it succeeds, the signature is hexadecimal text, and its length is that of the
algorithm (`SigV4.SigningKey.sign_cases`), since the key that is found for a scope is one
for its algorithm (`SigV4.SigningKey.signatureLength_of_resolve`).

Nothing here depends on the curve, and the proofs must not try to compute with it. So the
curve is a parameter of them (`SigV4.SigningKey.signBy`).
-/

namespace SigV4

namespace SigningKey

/-! ### Signing with any curve -/

/-- Signs a text, given how private keys sign. -/
def signBy (curve : Ecdsa.PrivateKey → Octets → Option Ecdsa.Signature) (key : SigningKey)
    (text : String) : Except Error String :=
  match key with
  | .hmac key => .ok (Hex.encode (Hmac.mac key (Octets.ofText text)))
  | .ecdsa key =>
    match curve key (Octets.ofText text) with
    | some sig => .ok (Hex.encode sig.octets)
    | none => .error .ecdsa

theorem sign_eq_signBy : sign = signBy Ecdsa.sign? := rfl

theorem signBy_ecdsa_eq_ok_iff {curve : Ecdsa.PrivateKey → Octets → Option Ecdsa.Signature}
    {k : Ecdsa.PrivateKey} {text signature : String} :
    signBy curve (.ecdsa k) text = .ok signature ↔
      ∃ sig, curve k (Octets.ofText text) = some sig ∧ signature = Hex.encode sig.octets := by
  rw [signBy]
  constructor
  · intro h
    split at h
    · next sig hsig => exact ⟨sig, hsig, (Except.ok.inj h).symm⟩
    · cases h
  · rintro ⟨sig, hsig, rfl⟩
    rw [hsig]

/-- **A private key signs** if the curve has a signature, and writes it in fixed width. -/
theorem sign_ecdsa_eq_ok_iff {k : Ecdsa.PrivateKey} {text signature : String} :
    (ecdsa k).sign text = .ok signature ↔
      ∃ sig, Ecdsa.sign? k (Octets.ofText text) = some sig ∧
        signature = Hex.encode sig.octets := by
  rw [sign_eq_signBy]
  exact signBy_ecdsa_eq_ok_iff

/-! ### Signatures and failures -/

/-- The number of characters of the signatures of a key. -/
def signatureLength : SigningKey → Nat
  | .hmac _ => Algorithm.hmac.signatureLength
  | .ecdsa _ => Algorithm.ecdsa.signatureLength

/-- **Whether a key fails** for some text: it is a private key, and the curve has no
signature for the text. -/
def Fails (key : SigningKey) : Prop :=
  ∃ k text, key = .ecdsa k ∧ Ecdsa.sign? k (Octets.ofText text) = none

/-- **What signing gives**: hexadecimal text of the length of the algorithm, unless the
curve has no signature. -/
theorem sign_cases (key : SigningKey) (text : String) :
    (∃ signature, key.sign text = .ok (Hex.encode signature) ∧
        (Hex.encode signature).length = key.signatureLength) ∨
      key.Fails ∧ key.sign text = .error .ecdsa := by
  rw [sign_eq_signBy, Fails]
  -- From here on the curve is any function, and there is nothing to compute.
  generalize Ecdsa.sign? = curve
  cases key with
  | hmac key =>
    refine Or.inl ⟨Hmac.mac key (Octets.ofText text), rfl, ?_⟩
    rw [Hex.length_encode, Hmac.length_mac]
    rfl
  | ecdsa key =>
    rw [signBy]
    split
    · next sig hsig =>
      refine Or.inl ⟨sig.octets, rfl, ?_⟩
      rw [Hex.length_encode, Ecdsa.Signature.length_octets]
      rfl
    · next hnone => exact Or.inr ⟨⟨key, text, rfl, hnone⟩, rfl⟩

/-- **A signature is hexadecimal text**, as long as those of its key. -/
theorem exists_hex_of_sign {key : SigningKey} {text signature : String}
    (h : key.sign text = .ok signature) :
    ∃ octets, signature = Hex.encode octets ∧ signature.length = key.signatureLength := by
  rcases key.sign_cases text with ⟨octets, hsign, hlength⟩ | ⟨-, herror⟩
  · obtain rfl := Except.ok.inj (h.symm.trans hsign)
    exact ⟨octets, rfl, hlength⟩
  · rw [herror] at h
    cases h

/-- **The key for a scope** is one for the algorithm of the scope. -/
theorem signatureLength_of_resolve {identity : Identity} {scope : Scope} {key : SigningKey}
    (h : resolve identity scope = .ok key) :
    key.signatureLength = scope.algorithm.signatureLength := by
  rcases resolve_cases h with ⟨name, octets, hregion, rfl⟩ | ⟨names, k, hregion, rfl⟩
  · rw [Scope.algorithm, hregion]
    rfl
  · rw [Scope.algorithm, hregion]
    rfl

/-- Only a key for a region set can fail. -/
theorem isSet_of_fails {identity : Identity} {scope : Scope} {key : SigningKey}
    (h : resolve identity scope = .ok key) (hfails : key.Fails) : scope.region.isSet = true := by
  obtain ⟨k, text, rfl, -⟩ := hfails
  rcases resolve_cases h with ⟨name, octets, -, hkey⟩ | ⟨names, _, hregion, -⟩
  · cases hkey
  · rw [hregion]
    rfl

end SigningKey

end SigV4
