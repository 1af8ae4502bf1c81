import SigV4.Proofs.Key.Resolve
import SigV4.Proofs.Octets.HexCase
import SigV4.Proofs.Signer.Reread
import SigV4.Proofs.Upload.Chain
import SigV4.Verification

/-!
# Verifying with the secret

Whoever has the secret makes the signature again. So there is one right signature for a text
in a scope, the one that signing produces, and the verifier accepts it in either case of its
letters and accepts nothing else (`SigV4.Verification.symmetric_eq`). It gives an error for an
empty secret and for no other reason (`SigV4.Verification.symmetric_eq_error_iff`).

What a signer for a single region has signed is accepted
(`SigV4.RequestSigner.symmetric_of_sign`), since the key it finds is the one that the verifier
derives, and a signature that was just written has no letters to lower.
-/

namespace SigV4

/-! ### One right signature -/

/-- **A text is accepted** if it is the hexadecimal text of the right digest up to the case of
its letters. -/
theorem Hmac.verifyHex_eq (key message : Octets) (s : String) :
    verifyHex key message s = decide (s.toLower = Hex.encode (mac key message)) := by
  rw [Bool.eq_iff_iff, decide_eq_true_iff, ← Hex.decode?_eq_some_iff, verifyHex]
  cases Hex.decode? s with
  | none => exact ⟨nofun, nofun⟩
  | some bs =>
    rw [Option.some_inj]
    exact beq_iff_eq

namespace Verification

variable {text secret : String} {scope : Scope}

/-- **The right signature**, as signing with the key for the scope gives it. -/
theorem exists_signature (text : String) (scope : Scope) (secret : String) :
    ∃ expected, (SigningKey.hmac (Key.forScope secret scope)).sign (scope.stringToSign text) =
        .ok expected ∧ Hex.IsHex expected ∧ expected.length = 64 ∧
      expected = Hex.encode
        (Hmac.mac (Key.forScope secret scope) (Octets.ofText (scope.stringToSign text))) := by
  refine ⟨_, rfl, Hex.isHex_encode _, ?_, rfl⟩
  rw [Hex.length_encode, Hmac.length_mac]

/-- **What the verifier answers** if there is a secret. -/
theorem symmetric_eq (h : secret ≠ "") (signature : String) :
    symmetric text scope secret signature =
      .ok (decide (signature.toLower = Hex.encode (Hmac.mac (Key.forScope secret scope)
        (Octets.ofText (scope.stringToSign text))))) := by
  rw [symmetric, if_neg h, Hmac.verifyHex_eq]

/-- **An empty secret** is the one thing that the verifier rejects. -/
theorem symmetric_eq_error_iff {signature : String} {e : Error} :
    symmetric text scope secret signature = .error e ↔ secret = "" ∧ e = .emptySecret := by
  constructor
  · intro h
    by_cases hsecret : secret = ""
    · rw [symmetric, if_pos hsecret] at h
      exact ⟨hsecret, (Except.error.inj h).symm⟩
    · rw [symmetric_eq hsecret] at h
      cases h
  · rintro ⟨hsecret, rfl⟩
    rw [symmetric, if_pos hsecret]

end Verification

/-! ### Signed for a single region -/

namespace RequestSigner

variable {signer : RequestSigner} {now : Instant} {request : Request} {c : Credential}
  {mode : Mode} {s : Signed} {name : String}

/-- The signature of a request for a single region is made with the key for the scope. -/
theorem signature_of_single (hregion : signer.region = .single name)
    (h : signer.sign now request (.symmetric c) mode = .ok s) :
    ∃ scope, Scope.make now signer.region signer.service = .ok scope ∧
      c.secretAccessKey ≠ "" ∧
      s.signature = Hex.encode (Hmac.mac (Key.forScope c.secretAccessKey scope)
        (Octets.ofText (scope.stringToSign s.canonical.text))) := by
  obtain ⟨plan, announced, hplan, -, -, hsignature, -, -⟩ := sign_eq_ok_iff.mp h
  obtain ⟨hscope, -, -, hresolve⟩ := plan_eq_ok_iff.mp hplan
  have hsingle : plan.scope.region = .single name := (Scope.region_of_make hscope).trans hregion
  obtain ⟨hcheck, hkey⟩ := (SigningKey.resolve_single_eq_ok_iff hsingle).mp hresolve
  rw [hkey] at hsignature
  have hsecret := (Credential.check_eq_ok_iff.mp hcheck).2
  exact ⟨plan.scope, hscope, hsecret, (Except.ok.inj hsignature).symm⟩

/-- **What was signed for a single region is accepted.** -/
theorem symmetric_of_sign (hregion : signer.region = .single name)
    (h : signer.sign now request (.symmetric c) mode = .ok s) :
    ∃ scope, Scope.make now signer.region signer.service = .ok scope ∧
      Verification.symmetric s.canonical.text scope c.secretAccessKey s.signature =
        .ok true := by
  obtain ⟨scope, hscope, hsecret, hsignature⟩ := signature_of_single hregion h
  refine ⟨scope, hscope, ?_⟩
  rw [Verification.symmetric_eq hsecret, hsignature, Hex.toLower_encode]
  exact congrArg Except.ok (decide_eq_true rfl)

end RequestSigner

/-! ### What the verifier decides -/

namespace Verification

/-- **The verifier decides** whether a signature is the one that signing produces: it accepts
what was signed for a single region, and of all texts it accepts those that become the right
signature when their letters are lowered. -/
theorem symmetric_decides :
    (∀ (signer : RequestSigner) (now : Instant) (request : Request) (c : Credential)
        (mode : Mode) (s : Signed) (name : String), signer.region = .single name →
        signer.sign now request (.symmetric c) mode = .ok s →
      ∃ scope, Scope.make now signer.region signer.service = .ok scope ∧
        symmetric s.canonical.text scope c.secretAccessKey s.signature = .ok true) ∧
    ∀ (text : String) (scope : Scope) (secret : String), ∃ expected,
      (SigningKey.hmac (Key.forScope secret scope)).sign (scope.stringToSign text) =
        .ok expected ∧
      (∀ (c : Credential) (name : String), c.secretAccessKey = secret → c.check = .ok () →
        scope.region = .single name →
        ∃ key, SigningKey.resolve (.symmetric c) scope = .ok key ∧
          key.sign (scope.stringToSign text) = .ok expected) ∧
      Hex.IsHex expected ∧ expected.length = 64 ∧
      ∀ signature,
        ((∃ e, symmetric text scope secret signature = .error e ∧
            e.kind = .invalidCredentials) ↔ secret = "") ∧
        (secret ≠ "" →
          symmetric text scope secret signature =
            .ok (decide (signature.toLower = expected))) := by
  refine ⟨?_, ?_⟩
  · intro signer now request c mode s name hregion h
    exact RequestSigner.symmetric_of_sign hregion h
  · intro text scope secret
    obtain ⟨expected, hsign, hhex, hlength, heq⟩ := exists_signature text scope secret
    refine ⟨expected, hsign, ?_, hhex, hlength, fun signature => ⟨?_, fun hsecret => ?_⟩⟩
    · rintro c name rfl hcheck hregion
      exact ⟨_, (SigningKey.resolve_single_eq_ok_iff hregion).mpr ⟨hcheck, rfl⟩, hsign⟩
    · constructor
      · rintro ⟨e, he, -⟩
        exact (symmetric_eq_error_iff.mp he).1
      · intro hsecret
        exact ⟨.emptySecret, symmetric_eq_error_iff.mpr ⟨hsecret, rfl⟩, rfl⟩
    · rw [heq]
      exact symmetric_eq hsecret signature

/-- A request that was signed, a text that is too short, and a secret that is missing. -/
theorem symmetric_decides_sample :
    (∃ s scope, RequestSigner.sampleSigner.sign .epoch RequestSigner.sample
          RequestSigner.sampleIdentity .fields = .ok s ∧
        Scope.make .epoch (.single "region") "service" = .ok scope ∧
        symmetric s.canonical.text scope "secret" s.signature = .ok true) ∧
      symmetric "" ChunkSigner.sampleScope "secret" "00" = .ok false ∧
      ∃ e, symmetric "" ChunkSigner.sampleScope "" "00" = .error e ∧
        e.kind = .invalidCredentials := by
  obtain ⟨hsigned, hall⟩ := symmetric_decides
  refine ⟨?_, ?_, ?_⟩
  · obtain ⟨s, hs⟩ := RequestSigner.exists_sign (RequestSigner.signable_sample (Or.inl rfl))
    obtain ⟨scope, hscope, htrue⟩ := hsigned _ _ _ _ _ s _ rfl hs
    exact ⟨s, scope, hs, hscope, htrue⟩
  · obtain ⟨expected, -, -, -, hlength, hverify⟩ := hall "" ChunkSigner.sampleScope "secret"
    have hshort : "00".toLower ≠ expected := by
      intro h
      rw [← h] at hlength
      exact absurd hlength (by decide +kernel)
    rw [(hverify "00").2 (by decide), decide_eq_false hshort]
  · obtain ⟨expected, -, -, -, -, hverify⟩ := hall "" ChunkSigner.sampleScope ""
    exact (hverify "00").1.mpr rfl

end Verification

end SigV4
