import SigV4.Proofs.Key.Resolve
import SigV4.Proofs.Signer.Reread

/-!
# Identities that sign alike

Of an identity a signed request shows the key id and the session token, and everything else
that is said about the signature depends on the scope. The identity enters a second time with
its key. So two identities with the same key id, the same token and the same key sign alike
(`SigV4.RequestSigner.sign_congr`): they fail with the same error, or they give the same
request, the same signature and the same signer of chunks.

A secret and the private key that is derived from it are such a pair, as long as it is a
region set that they sign for (`SigV4.RequestSigner.sign_ofSymmetric`). So it makes no
difference whether a key is derived once and kept, or for each request again.
-/

namespace SigV4

/-- **Whether two identities look alike**: requests show the same of them. -/
structure Identity.Alike (identity identity' : Identity) : Prop where
  /-- They have the same key id. -/
  accessKeyId : identity.accessKeyId = identity'.accessKeyId
  /-- They have the same token. -/
  sessionToken : identity.sessionToken = identity'.sessionToken

namespace Identity.Alike

variable {identity identity' : Identity}

/-! ### What a request says -/

theorem credential_eq (h : Alike identity identity') (scope : Scope) :
    Announcement.credential scope identity = Announcement.credential scope identity' := by
  rw [Announcement.credential, Announcement.credential, h.accessKeyId]

theorem inFields_eq (h : Alike identity identity') (request : Request) (config : Config)
    (scope : Scope) (payload : Payload) :
    Announcement.inFields request config scope identity payload =
      Announcement.inFields request config scope identity' payload := by
  rw [Announcement.inFields, Announcement.inFields, h.sessionToken]

theorem inQuery_eq (h : Alike identity identity') (request : Request) (scope : Scope)
    (lifetime : Nat) :
    Announcement.inQuery request scope identity lifetime =
      Announcement.inQuery request scope identity' lifetime := by
  rw [Announcement.inQuery, Announcement.inQuery, Announcement.params, Announcement.params,
    h.credential_eq, h.sessionToken]

end Identity.Alike

namespace RequestSigner

variable {signer : RequestSigner} {now : Instant} {identity identity' : Identity}

theorem announce_congr (h : identity.Alike identity') (plan : Plan) (request : Request) :
    signer.announce plan request identity = signer.announce plan request identity' := by
  rw [announce, announce]
  refine bind_congr fun hosted => ?_
  split
  · exact h.inFields_eq hosted signer.config plan.scope plan.payload
  · rw [h.inQuery_eq]

theorem attach_congr (h : identity.Alike identity') (plan : Plan) (announced : Request)
    (canonical : CanonicalRequest) (signature : String) :
    attach plan announced identity canonical signature =
      attach plan announced identity' canonical signature := by
  rw [attach, attach, authorization, authorization, h.credential_eq]

/-! ### The key -/

/-- The keys of two identities matter only in the scope of the signature. -/
theorem plan_congr (hkey : ∀ scope, Scope.make now signer.region signer.service = .ok scope →
      SigningKey.resolve identity scope = SigningKey.resolve identity' scope)
    (request : Request) (mode : Mode) :
    signer.plan now request identity mode = signer.plan now request identity' mode := by
  rw [RequestSigner.plan, RequestSigner.plan]
  refine Outcome.bind_congr_of_eq_ok fun scope hscope => ?_
  rw [hkey scope hscope]

/-- **Identities sign alike** if they look alike and have the same key. -/
theorem sign_congr (h : identity.Alike identity')
    (hkey : ∀ scope, Scope.make now signer.region signer.service = .ok scope →
      SigningKey.resolve identity scope = SigningKey.resolve identity' scope)
    (request : Request) (mode : Mode) :
    signer.sign now request identity mode = signer.sign now request identity' mode := by
  rw [sign, sign, plan_congr hkey]
  refine bind_congr fun plan => ?_
  rw [announce_congr h]
  refine bind_congr fun announced => ?_
  refine bind_congr fun canonical => ?_
  refine bind_congr fun signature => ?_
  rw [attach_congr h]

/-- **Identities that look alike** have the same canonical form signed, whatever their keys are. -/
theorem canonical_of_alike (h : identity.Alike identity') {request : Request} {mode : Mode}
    {s s' : Signed} (hs : signer.sign now request identity mode = .ok s)
    (hs' : signer.sign now request identity' mode = .ok s') : s.canonical = s'.canonical := by
  obtain ⟨⟨scope, lifetime, payload, key⟩, announced, hplan, hannounce, hcanonical, -⟩ :=
    sign_eq_ok_iff.mp hs
  obtain ⟨⟨scope', lifetime', payload', key'⟩, announced', hplan', hannounce', hcanonical', -⟩ :=
    sign_eq_ok_iff.mp hs'
  obtain ⟨hscope, hlifetime, hpayload, -⟩ := plan_eq_ok_iff.mp hplan
  obtain ⟨hscope', hlifetime', hpayload', -⟩ := plan_eq_ok_iff.mp hplan'
  -- The plans differ in their keys only, and no key is used before the canonical form is there.
  obtain rfl : scope = scope' := Except.ok.inj (hscope.symm.trans hscope')
  obtain rfl : lifetime = lifetime' := Except.ok.inj (hlifetime.symm.trans hlifetime')
  obtain rfl : payload = payload' := Except.ok.inj (hpayload.symm.trans hpayload')
  rw [announce_congr h] at hannounce
  obtain rfl : announced = announced' := Except.ok.inj (hannounce.symm.trans hannounce')
  exact Except.ok.inj (hcanonical.symm.trans hcanonical')

/-! ### A secret and its private key -/

variable {c : Credential} {d : AsymmetricCredential} {names : String}

theorem alike_ofSymmetric (h : AsymmetricCredential.ofSymmetric c = .ok d) :
    (Identity.symmetric c).Alike (.asymmetric d) := by
  obtain ⟨-, -, hid, htoken, -⟩ := AsymmetricCredential.ofSymmetric_eq_ok_iff.mp h
  exact ⟨hid.symm, htoken.symm⟩

/-- A secret from which a private key is derived. -/
def sampleSecret : Credential where
  accessKeyId := "id"
  secretAccessKey := "secret"

theorem exists_ofSymmetric_sampleSecret :
    ∃ d, AsymmetricCredential.ofSymmetric sampleSecret = .ok d := by
  have hsome : (Key.asymmetric? sampleSecret.accessKeyId sampleSecret.secretAccessKey).isSome =
      true := by
    decide +kernel
  obtain ⟨key, hkey⟩ := Option.isSome_iff_exists.mp hsome
  exact ⟨{ accessKeyId := "id", key }, AsymmetricCredential.ofSymmetric_eq_ok_iff.mpr
    ⟨rfl, hkey, rfl, rfl, rfl⟩⟩

/-- **A secret and the private key that is derived from it sign alike** for a region set. -/
theorem sign_ofSymmetric (h : AsymmetricCredential.ofSymmetric c = .ok d)
    (hregion : signer.region = .set names) (now : Instant) (request : Request) (mode : Mode) :
    signer.sign now request (.symmetric c) mode =
      signer.sign now request (.asymmetric d) mode := by
  refine sign_congr (alike_ofSymmetric h) (fun scope hscope => ?_) request mode
  have hset : scope.region = .set names := (Scope.region_of_make hscope).trans hregion
  rw [SigningKey.resolve_set hset, SigningKey.resolve_set hset, Identity.toAsymmetric, h,
    Identity.toAsymmetric]

/-- Someone's secret, for all regions. -/
theorem sign_ofSymmetric_sampleSecret :
    ∃ d, AsymmetricCredential.ofSymmetric sampleSecret = .ok d ∧
      (make "service" (.set "*")).sign .epoch sample (.symmetric sampleSecret) .fields =
        (make "service" (.set "*")).sign .epoch sample (.asymmetric d) .fields := by
  obtain ⟨d, hd⟩ := exists_ofSymmetric_sampleSecret
  exact ⟨d, hd, sign_ofSymmetric hd rfl .epoch sample .fields⟩

end RequestSigner

end SigV4
