import SigV4.Proofs.Ecdsa.Verification
import SigV4.Proofs.Upload.Clones
import SigV4.Verification

/-!
# Verifying with the public key

Whoever has the public key accepts every signature that was made for a region set, those of
the chunks of a body not less than that of the request
(`SigV4.RequestSigner.asymmetric_of_sign`). Between signing and verifying there is a text: a
signature is written in fixed width and in hexadecimal, and the reader, who could also be
given DER, tells by the length what it has got (`SigV4.Verification.decode?_octets`). What is
left is that the signature which is read back verifies, and that is
`SigV4.Ecdsa.verify_of_sign?`.

The verifier of requests builds the text that was signed from the canonical request. Chunks
have texts of their own, so the verifier is given the text here
(`SigV4.Verification.ofText`), and the verifier of requests is a case of it.
-/

namespace SigV4

namespace Verification

/-! ### Any text -/

/-- **Verifies an asymmetric signature** of a text. -/
def ofText (text : String) (publicKey : P256.Point) (signature : String) : Except Error Bool :=
  match Hex.decode? signature with
  | none => .error .signatureNotHex
  | some bs =>
    match decode? bs with
    | none => .error .malformedSignature
    | some sig => .ok (Ecdsa.verify publicKey (Octets.ofText text) sig)

theorem asymmetric_eq_ofText (canonicalRequest : String) (scope : Scope)
    (publicKey : P256.Point) (signature : String) :
    asymmetric canonicalRequest scope publicKey signature =
      ofText (scope.stringToSign canonicalRequest) publicKey signature := rfl

/-- A signature in fixed width is recognized. -/
theorem decode?_octets (sig : Ecdsa.Signature) : decode? sig.octets = some sig := by
  rw [decode?, if_pos sig.length_octets, Ecdsa.Signature.ofOctets?_octets]

/-- **What a private key has signed** is accepted under its public key. -/
theorem ofText_of_sign {k : Ecdsa.PrivateKey} {text signature : String}
    (h : (SigningKey.ecdsa k).sign text = .ok signature) :
    Hex.IsHex signature ∧ signature.length = 128 ∧
      ofText text k.publicKey signature = .ok true := by
  obtain ⟨sig, hsig, rfl⟩ := SigningKey.sign_ecdsa_eq_ok_iff.mp h
  refine ⟨Hex.isHex_encode _, ?_, ?_⟩
  · rw [Hex.length_encode, sig.length_octets]
  · rw [ofText, Hex.decode?_encode]
    dsimp only
    rw [decode?_octets]
    dsimp only
    rw [Ecdsa.verify_of_sign? hsig]

end Verification

/-! ### A chain of chunks -/

namespace ChunkSigner

variable {signer last : ChunkSigner} {chunks : List Octets} {signatures : List String}
  {k : Ecdsa.PrivateKey}

/-- Along a chain each signature is that of its text. -/
theorem forall₂_sign (h : signer.signAll chunks = .ok (signatures, last)) :
    List.Forall₂ (fun text signature => signer.key.sign text = .ok signature)
      (signer.scope.chunkTexts signer.previous signatures chunks) signatures := by
  have htexts := (of_signAll h).1
  rw [← List.forall₂_eq_eq_eq, List.forall₂_map_left_iff, List.forall₂_map_right_iff] at htexts
  exact htexts

/-- **What was signed along a chain** with a private key is accepted, chunk by chunk. -/
theorem forall₂_ofText (h : signer.signAll chunks = .ok (signatures, last))
    (hkey : signer.key = .ecdsa k) :
    List.Forall₂ (fun text signature => Hex.IsHex signature ∧ signature.length = 128 ∧
        Verification.ofText text k.publicKey signature = .ok true)
      (signer.scope.chunkTexts signer.previous signatures chunks) signatures := by
  have hsigned := forall₂_sign h
  rw [hkey] at hsigned
  exact hsigned.imp fun _ _ hsign => Verification.ofText_of_sign hsign

end ChunkSigner

/-! ### Signed for a region set -/

namespace RequestSigner

variable {signer : RequestSigner} {now : Instant} {request : Request} {identity : Identity}
  {mode : Mode} {s : Signed} {names : String} {plan : Plan}

/-- The key for a region set is the private key of the identity. -/
theorem key_of_set (hregion : signer.region = .set names)
    (hplan : signer.plan now request identity mode = .ok plan) :
    ∃ d, identity.toAsymmetric = .ok d ∧ plan.key = .ecdsa d.key := by
  obtain ⟨hscope, -, -, hresolve⟩ := plan_eq_ok_iff.mp hplan
  have hset : plan.scope.region = .set names := (Scope.region_of_make hscope).trans hregion
  obtain ⟨d, hd, -, hkey⟩ := (SigningKey.resolve_set_eq_ok_iff hset).mp hresolve
  exact ⟨d, hd, hkey⟩

/-! ### A request that can be signed for a region set -/

/-- A signer for all regions that signs bodies in chunks. -/
def sampleRegionSet : RequestSigner where
  service := "service"
  region := .set "*"
  config := { chunked := true }

/-- Someone with a private key. -/
def sampleKeyholder : AsymmetricCredential where
  accessKeyId := "id"
  key := ⟨1, by decide⟩

/-- A request with a body of which the length is not known. -/
def sampleStream : Request := { sampleUpload with body := .streaming none }

/-- The text that is signed for that request. -/
def sampleText : String :=
  "AWS4-ECDSA-P256-SHA256\n19700101T000000Z\n19700101/service/aws4_request\n" ++
    "38bbb87a7d162c8af76dc7a8c11a1a4154df6bc794017bca8efda31aef80dcca"

/-- The digest of that text. -/
def sampleDigest : Octets :=
  Octets.ofNat 32 0xabadd9d8f5ccae1222a87a907bf0f1c50a33705b2e9747314f4dd70a769ee68e

/-- The nonce for that digest. -/
def sampleNonce : Ecdsa.PrivateKey where
  scalar := Fin.ofNat P256.order
    0x3cf77967cf97cc847bff9d5fce7c985735a4ee62382e3943caa55bbe34b3613a
  nonzero := by decide +kernel

theorem toBeSigned_sampleStream :
    ToBeSigned sampleRegionSet .epoch sampleStream (.asymmetric sampleKeyholder) .fields
      (.ecdsa sampleKeyholder.key) sampleText :=
  ⟨_, _, _, rfl, rfl, rfl, by decide, by decide, rfl, by decide +kernel⟩

theorem nonce?_sampleDigest :
    (Ecdsa.Nonce.nonce? sampleKeyholder.key sampleDigest).map (·.scalar) =
      some sampleNonce.scalar := by
  decide +kernel

theorem isSome_signature?_sampleNonce :
    (Ecdsa.signature? sampleKeyholder.key sampleDigest sampleNonce).isSome = true := by
  decide +kernel

-- Text, digest, nonce and signature are computed one after another, since each of them is as
-- much as one computation can be asked for.
theorem exists_sign?_sampleText :
    ∃ sig, Ecdsa.sign? sampleKeyholder.key (Octets.ofText sampleText) = some sig := by
  have hdigest : Sha256.digest (Octets.ofText sampleText) = sampleDigest := by decide +kernel
  obtain ⟨k, hk, hscalar⟩ := Option.map_eq_some_iff.mp nonce?_sampleDigest
  have hnonce : k = sampleNonce := Ecdsa.PrivateKey.scalar_injective hscalar
  obtain ⟨sig, hsig⟩ := Option.isSome_iff_exists.mp isSome_signature?_sampleNonce
  refine ⟨sig, ?_⟩
  rw [Ecdsa.sign?_eq_bind, hdigest, hk, hnonce, Option.bind_some, hsig]

/-! ### Signed and accepted -/

/-- **What was signed for a region set is accepted** under the public key of the identity: the
signature of the request, and those of the chunks of its body, however many there are. -/
theorem asymmetric_of_sign (hregion : signer.region = .set names)
    (h : signer.sign now request identity mode = .ok s) :
    Hex.IsHex s.signature ∧ s.signature.length = 128 ∧
      ∃ scope d, Scope.make now signer.region signer.service = .ok scope ∧
        identity.toAsymmetric = .ok d ∧
        Verification.asymmetric s.canonical.text scope d.key.publicKey s.signature = .ok true ∧
        ∀ first chunks signatures last, s.chunkSigner = some first →
          first.signAll chunks = .ok (signatures, last) →
          List.Forall₂ (fun text signature => Hex.IsHex signature ∧ signature.length = 128 ∧
              Verification.ofText text d.key.publicKey signature = .ok true)
            (scope.chunkTexts s.signature signatures chunks) signatures := by
  obtain ⟨plan, announced, hplan, -, -, hsignature, -, hchunks⟩ := sign_eq_ok_iff.mp h
  obtain ⟨hscope, -, -, -⟩ := plan_eq_ok_iff.mp hplan
  obtain ⟨d, hd, hkey⟩ := key_of_set hregion hplan
  rw [hkey] at hsignature
  obtain ⟨hhex, hlength, haccepted⟩ := Verification.ofText_of_sign hsignature
  refine ⟨hhex, hlength, plan.scope, d, hscope, hd, ?_, ?_⟩
  · rw [Verification.asymmetric_eq_ofText]
    exact haccepted
  · intro first chunks signatures last hfirst hall
    obtain ⟨length, chunkSize, -, rfl⟩ := of_chunkSigner? (hchunks.symm.trans hfirst)
    have haccepted := ChunkSigner.forall₂_ofText hall hkey
    exact haccepted

/-- A private key, all regions, and a body in chunks. -/
theorem asymmetric_of_sign_sample :
    ∃ s first scope, sampleRegionSet.sign .epoch sampleStream (.asymmetric sampleKeyholder)
        .fields = .ok s ∧ s.chunkSigner = some first ∧
      Scope.make .epoch (.set "*") "service" = .ok scope ∧
      Verification.asymmetric s.canonical.text scope sampleKeyholder.key.publicKey s.signature =
        .ok true ∧
      ∀ chunks signatures last, first.signAll chunks = .ok (signatures, last) →
        List.Forall₂ (fun text signature => Hex.IsHex signature ∧ signature.length = 128 ∧
            Verification.ofText text sampleKeyholder.key.publicKey signature = .ok true)
          (scope.chunkTexts s.signature signatures chunks) signatures := by
  obtain ⟨sig, hsig⟩ := exists_sign?_sampleText
  obtain ⟨s, hs⟩ := exists_sign_of_toBeSigned toBeSigned_sampleStream
    (SigningKey.sign_ecdsa_eq_ok_iff.mpr ⟨sig, hsig, rfl⟩)
  obtain ⟨first, hfirst⟩ := exists_chunkSigner hs rfl
  obtain ⟨-, -, scope, d, hscope, hd, hverified, hchain⟩ := asymmetric_of_sign rfl hs
  obtain rfl := Except.ok.inj hd
  exact ⟨s, first, scope, hs, hfirst, hscope, hverified,
    fun chunks signatures last => hchain first chunks signatures last hfirst⟩

end RequestSigner

end SigV4
