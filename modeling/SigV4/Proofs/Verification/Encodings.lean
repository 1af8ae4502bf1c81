import SigV4.Proofs.Ecdsa.Encodings
import SigV4.Proofs.Octets.HexCase
import SigV4.Proofs.Verification.Asymmetric

/-!
# Verifying either encoding

A signature may come in fixed width or in DER, in digits of either case, and the verifier is to
give the same answer. It is not told which of the two encodings it gets, and it does not look:
64 octets are the fixed width, and any other number of octets is DER. That is right for almost
all signatures, since a scalar nearly always needs 32 octets and DER is then longer than 64.

| scalars together, in octets as DER counts them | the DER form | read as |
|---|---|---|
| not 58 | not 64 octets | the signature |
| 58 | 64 octets | two scalars out of the middle of the form, or nothing |

In the second row the verifier is wrong about every signature
(`SigV4.Verification.signature?_eq_some_iff`): no signature has the same octets in both encodings,
so what is read is never what was written. Nobody meets such a signature by chance. Whoever looks
for one finds it, and a signature that is valid in fixed width is malformed in DER
(`SigV4.Verification.asymmetric_der_ne`).
-/

namespace SigV4

namespace Verification

variable {bs : Octets} {sig : Ecdsa.Signature} {text : String}

/-! ### What a text is read as -/

/-- **Octets are read as a signature** if they are its fixed-width form, or its DER form and not 64
of them. -/
theorem decode?_eq_some_iff :
    decode? bs = some sig ↔ bs = sig.octets ∨ bs = sig.der ∧ sig.der.length ≠ 64 := by
  unfold decode?
  split
  · next hlength =>
    rw [Ecdsa.Signature.ofOctets?_eq_some_iff]
    refine ⟨Or.inl, ?_⟩
    rintro (h | ⟨h, hne⟩)
    · exact h
    · rw [h] at hlength
      exact absurd hlength hne
  · next hlength =>
    rw [Ecdsa.Signature.ofDer?_eq_some_iff]
    constructor
    · intro h
      rw [h] at hlength
      exact Or.inr ⟨h, hlength⟩
    · rintro (h | ⟨h, -⟩)
      · rw [h] at hlength
        exact absurd sig.length_octets hlength
      · exact h

/-- The signature that a text is read as. -/
def signature? (text : String) : Option Ecdsa.Signature :=
  (Hex.decode? text).bind decode?

/-- **A text is read as a signature** if it is hexadecimal text, in digits of either case, of the
fixed-width form, or of a DER form that does not have 64 octets. -/
theorem signature?_eq_some_iff :
    signature? text = some sig ↔ text.toLower = Hex.encode sig.octets ∨
      text.toLower = Hex.encode sig.der ∧ sig.der.length ≠ 64 := by
  rw [signature?, Option.bind_eq_some_iff]
  simp only [Hex.decode?_eq_some_iff, decode?_eq_some_iff]
  constructor
  · rintro ⟨bs, h, hbs | ⟨hbs, hlength⟩⟩
    · exact Or.inl (hbs ▸ h)
    · exact Or.inr ⟨hbs ▸ h, hlength⟩
  · rintro (h | ⟨h, hlength⟩)
    · exact ⟨_, h, Or.inl rfl⟩
    · exact ⟨_, h, Or.inr ⟨rfl, hlength⟩⟩

/-- The verifier answers for the signature that it reads. -/
theorem asymmetric_of_signature? (h : signature? text = some sig) (canonicalRequest : String)
    (scope : Scope) (publicKey : P256.Point) :
    asymmetric canonicalRequest scope publicKey text =
      .ok (Ecdsa.verify publicKey (Octets.ofText (scope.stringToSign canonicalRequest)) sig) := by
  obtain ⟨bs, hbs, hsig⟩ := Option.bind_eq_some_iff.mp h
  rw [asymmetric, hbs]
  dsimp only
  rw [hsig]

/-! ### Both encodings -/

/-- The DER form has 64 octets exactly if the whole octets that the scalars fill are 56. -/
theorem length_der_eq_iff (sig : Ecdsa.Signature) :
    sig.der.length = 64 ↔ sig.r.val.size / 8 + sig.s.val.size / 8 = 56 := by
  rw [sig.length_der]
  omega

/-- **Verifying either encoding.** In fixed width, and in digits of either case, the verifier
answers for the signature. In DER it gives the same answer, unless the scalars fill 56 octets
together; and exactly then it does not even read the signature. -/
theorem asymmetric_of_encodings (canonicalRequest : String) (scope : Scope)
    (publicKey : P256.Point) {sig : Ecdsa.Signature} {fixed der : String}
    (hfixed : fixed.toLower = Hex.encode sig.octets) (hder : der.toLower = Hex.encode sig.der) :
    asymmetric canonicalRequest scope publicKey fixed =
        .ok (Ecdsa.verify publicKey (Octets.ofText (scope.stringToSign canonicalRequest)) sig) ∧
      (sig.r.val.size / 8 + sig.s.val.size / 8 ≠ 56 →
        asymmetric canonicalRequest scope publicKey der =
          asymmetric canonicalRequest scope publicKey fixed) ∧
      (signature? der = some sig ↔ sig.r.val.size / 8 + sig.s.val.size / 8 ≠ 56) := by
  have hread : signature? fixed = some sig := signature?_eq_some_iff.mpr (Or.inl hfixed)
  have hread_iff : signature? der = some sig ↔ sig.r.val.size / 8 + sig.s.val.size / 8 ≠ 56 := by
    rw [signature?_eq_some_iff, hder, ← (length_der_eq_iff sig).ne]
    constructor
    · rintro (h | ⟨-, hlength⟩)
      · exact absurd (Hex.encode_injective h) sig.der_ne_octets
      · exact hlength
    · exact fun hlength => Or.inr ⟨rfl, hlength⟩
  refine ⟨asymmetric_of_signature? hread _ _ _, fun hsize => ?_, hread_iff⟩
  rw [asymmetric_of_signature? (hread_iff.mpr hsize), asymmetric_of_signature? hread]

/-- Two small scalars, of which both need a zero for the sign. -/
def sampleSmall : Ecdsa.Signature where
  r := Fin.ofNat P256.order 0xabcdef
  s := Fin.ofNat P256.order 0xff
  r_nonzero := by decide +kernel
  s_nonzero := by decide +kernel

/-- All regions. -/
def sampleScope : Scope where
  __ := ChunkSigner.sampleScope
  region := .set "*"
  region_ne_empty := by decide

/-- In DER they take few octets, and the letters of the digits may be of either case. -/
theorem asymmetric_of_encodings_sampleSmall :
    "300A020400aBcDeF020200Ff".toLower = Hex.encode sampleSmall.der ∧
      sampleSmall.r.val.size / 8 + sampleSmall.s.val.size / 8 ≠ 56 ∧
      asymmetric "" sampleScope P256.Point.base "300A020400aBcDeF020200Ff" =
        asymmetric "" sampleScope P256.Point.base (Hex.encode sampleSmall.octets) := by
  have hder : "300A020400aBcDeF020200Ff".toLower = Hex.encode sampleSmall.der := by
    decide +kernel
  have hsize : sampleSmall.r.val.size / 8 + sampleSmall.s.val.size / 8 ≠ 56 := by
    decide +kernel
  exact ⟨hder, hsize, (asymmetric_of_encodings "" sampleScope P256.Point.base
    (Hex.toLower_encode _) hder).2.1 hsize⟩

/-! ### A signature that is valid in one encoding only -/

/-- A canonical request. -/
def sampleCanonical : String :=
  "GET\n/\n\nhost:example.com\n\nhost\nUNSIGNED-PAYLOAD"

/-- Its digest, as it is signed for all regions. -/
def sampleCanonicalDigest : Octets :=
  Octets.ofNat 32 0x7df8eff89bc37fac01847dce94be4bb9c6852eae6cd2c12219f7686e57e6babf

/-- A public key, by its abscissa. -/
def sampleX : P256.Coordinate :=
  Fin.ofNat P256.prime 0xc6d69fe607fdbcfe42b7e0b6285ea7de77182e89813921fac04b42fc9b5a6d6b

/-- The ordinate of that public key. -/
def sampleY : P256.Coordinate :=
  Fin.ofNat P256.prime 0xf0d63557bbc13c8987858d935184328ea770ca19b75eb211fc82a8db4a74fbe3

/-- Two scalars that fill 31 and 25 octets, and of which the one ends with 32 digits that are
set. -/
def samplePair : Ecdsa.Signature where
  r := Fin.ofNat P256.order 0x4000000000000fffffffffffffffffffffffffffffffffffffbffffffffffff
  s := Fin.ofNat P256.order 0xffffffffffffffffffffffffffffffffffffffffffffffffff
  r_nonzero := by decide +kernel
  s_nonzero := by decide +kernel

theorem digest_sampleCanonical :
    Sha256.digest (Octets.ofText (sampleScope.stringToSign sampleCanonical)) =
      sampleCanonicalDigest := by
  decide +kernel

theorem add_multiple_samplePair :
    (P256.Point.multiple (Ecdsa.digestScalar sampleCanonicalDigest *
        P256.Scalar.inverse samplePair.s) P256.Point.base).add
      (P256.Point.multiple (samplePair.r * P256.Scalar.inverse samplePair.s)
        (.affine sampleX sampleY)) =
    .affine (Fin.ofNat P256.prime samplePair.r.val) (Fin.ofNat P256.prime
      0x37ba42e60eccd93666ab780b7112a37706c98f31e5d968b324d8ba216d474bd6) := by
  decide +kernel

/-- **A signature that is valid in fixed width is malformed in DER.** The second half of its DER
form begins with the last four octets of the first scalar, and they make a number that is no
scalar. -/
theorem asymmetric_der_ne :
    P256.Point.OnCurve sampleX sampleY ∧
      asymmetric sampleCanonical sampleScope (.affine sampleX sampleY)
        (Hex.encode samplePair.octets) = .ok true ∧
      asymmetric sampleCanonical sampleScope (.affine sampleX sampleY)
        (Hex.encode samplePair.der) = .error .malformedSignature := by
  refine ⟨by decide +kernel, ?_, ?_⟩
  · have hread : signature? (Hex.encode samplePair.octets) = some samplePair :=
      signature?_eq_some_iff.mpr (Or.inl (Hex.toLower_encode _))
    have hsum := add_multiple_samplePair
    rw [← digest_sampleCanonical] at hsum
    rw [asymmetric_of_signature? hread,
      Ecdsa.verify_of_add_multiple_eq hsum (by decide +kernel)]
  · have hread : decode? samplePair.der = none := by decide +kernel
    rw [asymmetric, Hex.decode?_encode]
    dsimp only
    rw [hread]

end Verification

end SigV4
