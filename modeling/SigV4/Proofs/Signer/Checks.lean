import SigV4.Proofs.Signer.Kept
import SigV4.Proofs.Signer.Kinds
import SigV4.Proofs.Signer.Readable

/-!
# Why signing fails

A request that cannot be signed is refused with an error of some kind, and this file says
exactly when, and of which kind (`SigV4.RequestSigner.kind?_sign`). There are six checks, and
the first that fails decides (`SigV4.RequestSigner.refusal?`):

| check | kind of error |
|---|---|
| there is a service, and a region | `invalidRegionOrService` |
| a link lives for a second at least and for a week at most | `unsupportedConfiguration` |
| the body can be signed as it is to be | `unsupportedConfiguration` |
| the identity goes with the region | `unsupportedConfiguration` |
| the identity is complete | `invalidCredentials` |
| what is written is text | `invalidRequest` |

The last check is made of many (`SigV4.RequestSigner.Legible`), in steps that come one after
another, but as all of them fail with one kind of error their order does not matter. Which values
it looks at depends on the place of the signature. In a link nothing is written into fields, so
it looks at the fields that are there. Otherwise it looks at what is written and at the fields
that are not touched.

Two things are taken for granted: that a private key comes out of a secret, and that the key has
a signature for every text. For a single region both hold anyway.
-/

namespace SigV4

open Http Outcome

/-- The digest of a body that was computed elsewhere. -/
def Body.precomputed? : Body → Option String
  | .precomputed digest => some digest
  | _ => none

/-- The name of a single region. -/
def Region.name? : Region → Option String
  | .single name => some name
  | .set _ => none

namespace RequestSigner

/-! ### The checks -/

/-- Whether the body of a request is signed in chunks, if the signature goes into the fields. -/
def cuts (signer : RequestSigner) (request : Request) : Bool :=
  request.body.isStream && signer.config.chunked &&
    Payload.isSigned signer.config request.scheme

/-- **Whether a signature can be announced in the fields.** What others have chosen and what is
written into signed fields is visible ASCII. So are the first of the codings, if chunks are put in
front of it, and the values of the signed fields that are not touched. -/
def Announceable (signer : RequestSigner) (request : Request) (identity : Identity) : Prop :=
  (∀ names ∈ signer.region.names?, FieldValue.IsVisible names) ∧
    (∀ token ∈ identity.sessionToken, FieldValue.IsVisible token) ∧
    (∀ digest ∈ request.body.precomputed?,
      Payload.isSigned signer.config request.scheme = true →
        signer.config.bodyHeader = .addIfSigned → FieldValue.IsVisible digest) ∧
    (signer.cuts request = true →
      ∀ value ∈ request.fields.get? Vocabulary.contentEncoding, value.IsReadable) ∧
    request.fields.Readable (signer.touched request identity (signer.cuts request))

instance (signer : RequestSigner) (request : Request) (identity : Identity) :
    Decidable (signer.Announceable request identity) :=
  inferInstanceAs (Decidable (_ ∧ _ ∧ _ ∧ _ ∧ _))

/-- **Whether a key can be named beside a signature in the fields.** Who signs and for what is not
signed there and need not be ASCII, but it may not hold control characters. -/
def Nameable (signer : RequestSigner) (identity : Identity) : Prop :=
  FieldValue.IsText identity.accessKeyId ∧ FieldValue.IsText signer.service ∧
    ∀ name ∈ signer.region.name?, FieldValue.IsText name

instance (signer : RequestSigner) (identity : Identity) : Decidable (signer.Nameable identity) :=
  inferInstanceAs (Decidable (_ ∧ _ ∧ _))

/-- **Whether what is written is text**, wherever the signature goes. -/
def Legible (signer : RequestSigner) (request : Request) (identity : Identity) (mode : Mode) :
    Prop :=
  if mode.isQuery then request.fields.Readable []
  else signer.Nameable identity ∧ signer.Announceable request identity

instance (signer : RequestSigner) (request : Request) (identity : Identity) (mode : Mode) :
    Decidable (signer.Legible request identity mode) :=
  inferInstanceAs (Decidable (ite _ _ _))

/-- **Why a request is refused**: the kind of error of the first check that fails. -/
def refusal? (signer : RequestSigner) (now : Instant) (request : Request) (identity : Identity)
    (mode : Mode) : Option ErrorKind :=
  if signer.service = "" ∨ signer.region.text = "" then some .invalidRegionOrService
  else if ∃ seconds ∈ mode.wholeSeconds now, seconds < 1 ∨ 604800 < seconds then
    some .unsupportedConfiguration
  else if Payload.Refused signer.config request mode then some .unsupportedConfiguration
  else if identity.isAsymmetric = true ∧ signer.region.isSet = false then
    some .unsupportedConfiguration
  else if identity.isComplete = false then some .invalidCredentials
  else if ¬signer.Legible request identity mode then some .invalidRequest
  else none

end RequestSigner

/-! ### What is written -/

namespace Payload

variable {config : Config} {request : Request} {mode : Mode} {payload : Payload}

theorem isVisible_streamingText (algorithm : Algorithm) :
    FieldValue.IsVisible algorithm.streamingText := by
  cases algorithm <;> decide

theorem isChunked_of_ofStream {scheme : Scheme} {length : Option Nat}
    (h : ofStream config scheme mode length = .ok payload) (hmode : mode.isQuery = false) :
    payload.isChunked = (config.chunked && isSigned config scheme) := by
  unfold ofStream at h
  cases hchunked : config.chunked with
  | false =>
    rw [hchunked] at h
    simp only [Bool.not_false, if_true] at h
    split at h
    · cases h
    · obtain rfl := Except.ok.inj h
      rfl
  | true =>
    rw [hchunked, hmode] at h
    cases hsigned : isSigned config scheme with
    | false =>
      rw [hsigned] at h
      obtain rfl := Except.ok.inj h
      rfl
    | true =>
      rw [hsigned] at h
      simp only [Bool.not_true, Bool.false_eq_true, if_false] at h
      split at h
      · cases h
      · obtain rfl := Except.ok.inj h
        rfl

theorem isChunked_of_resolve (h : resolve config request mode = .ok payload)
    (hmode : mode.isQuery = false) :
    payload.isChunked =
      (request.body.isStream && config.chunked && isSigned config request.scheme) := by
  cases hbody : request.body with
  | streaming length =>
    rw [resolve, hbody, hmode, Bool.and_false] at h
    exact isChunked_of_ofStream h hmode
  | _ =>
    have hnot : payload.isChunked ≠ true := by
      intro hchunked
      cases payload with
      | chunked length chunkSize =>
        obtain ⟨hstream, -, -⟩ := of_resolve_chunked h
        rw [hbody] at hstream
        cases hstream
      | hashed digest => cases hchunked
      | unsigned => cases hchunked
    exact Bool.not_eq_true _ ▸ hnot

/-- A body that arrives piece by piece has no digest. -/
theorem ofStream_ne_hashed {scheme : Scheme} {length : Option Nat} {digest : String} :
    ofStream config scheme mode length ≠ .ok (.hashed digest) := by
  intro h
  unfold ofStream at h
  split at h
  · split at h <;> cases h
  split at h
  · cases h
  split at h
  · cases h
  split at h <;> cases h

/-- **A digest** is computed, and visible then, or it was computed elsewhere. -/
theorem of_resolve_hashed {digest : String}
    (h : resolve config request mode = .ok (.hashed digest)) :
    FieldValue.IsVisible digest ∨
      request.body = .precomputed digest ∧ isSigned config request.scheme = true := by
  unfold resolve at h
  split at h
  · cases h
  split at h
  · cases h
  split at h
  · exact absurd h ofStream_ne_hashed
  split at h
  · cases h
  next hsigned =>
  rw [Bool.not_eq_true', Bool.not_eq_false] at hsigned
  split at h
  · obtain rfl := Payload.hashed.inj (Except.ok.inj h)
    exact Or.inl (FieldValue.isVisible_hex _)
  · obtain rfl := Payload.hashed.inj (Except.ok.inj h)
    exact Or.inl (FieldValue.isVisible_hex _)
  · next hbody =>
    obtain rfl := Payload.hashed.inj (Except.ok.inj h)
    exact Or.inr ⟨hbody, hsigned⟩
  · cases h
  · cases h

/-- **What is said about a body** is visible, unless it is a digest that was computed elsewhere. -/
theorem text_cases (h : resolve config request mode = .ok payload) (scope : Scope) :
    FieldValue.IsVisible (payload.text scope) ∨
      ∃ digest, request.body = .precomputed digest ∧
        isSigned config request.scheme = true ∧ payload = .hashed digest := by
  cases payload with
  | unsigned => exact Or.inl (show FieldValue.IsVisible Vocabulary.unsignedPayload by decide)
  | chunked length chunkSize => exact Or.inl (isVisible_streamingText _)
  | hashed digest =>
    rcases of_resolve_hashed h with hvisible | ⟨hbody, hsigned⟩
    · exact Or.inl hvisible
    · exact Or.inr ⟨digest, hbody, hsigned, rfl⟩

theorem resolve_precomputed {digest : String} (hbody : request.body = .precomputed digest)
    (hsigned : isSigned config request.scheme = true) (hmode : mode.isQuery = false) :
    resolve config request mode = .ok (.hashed digest) := by
  rw [resolve, hbody, hmode, hsigned, Bool.and_false]
  rfl

end Payload

namespace Announcement

variable {config : Config} {request : Request} {mode : Mode} {payload : Payload}
  {scope : Scope}

/-- **The digest that is shown** is visible, if one that was computed elsewhere is. -/
theorem isVisible_digest?_iff (h : Payload.resolve config request mode = .ok payload)
    (hmode : mode.isQuery = false) :
    (∀ digest ∈ digest? config scope payload, FieldValue.IsVisible digest) ↔
      ∀ digest ∈ request.body.precomputed?, Payload.isSigned config request.scheme = true →
        config.bodyHeader = .addIfSigned → FieldValue.IsVisible digest := by
  constructor
  · intro hshown digest hdigest hsigned hheader
    have hbody : request.body = .precomputed digest := by
      cases hbody : request.body with
      | precomputed other =>
        rw [hbody] at hdigest
        exact congrArg Body.precomputed (Option.some.inj hdigest)
      | _ =>
        rw [hbody] at hdigest
        cases hdigest
    have hpayload := h.symm.trans (Payload.resolve_precomputed hbody hsigned hmode)
    obtain rfl := Except.ok.inj hpayload
    refine hshown digest ?_
    rw [digest?, showsDigest, hheader]
    rfl
  · intro hdigests digest hdigest
    rw [digest?] at hdigest
    split at hdigest
    · next hshows =>
      obtain rfl := Option.some.inj hdigest
      rcases Payload.text_cases h scope with hvisible | ⟨digest, hbody, hsigned, rfl⟩
      · exact hvisible
      · have hheader : (config.bodyHeader == .addIfSigned) = true := hshows
        exact hdigests digest (by rw [hbody]; rfl) hsigned (beq_iff_eq.mp hheader)
    · cases hdigest

/-- **The key id beside a signature** can be written if its pieces can. -/
theorem isText_credential_iff (scope : Scope) (identity : Identity) :
    FieldValue.IsText (credential scope identity) ↔
      FieldValue.IsText identity.accessKeyId ∧ FieldValue.IsText scope.service ∧
        ∀ name ∈ scope.region.name?, FieldValue.IsText name := by
  have hdate := scope.time.isVisible_dateStamp.isText
  have hslash : FieldValue.IsText "/" := by decide
  have hterminator : FieldValue.IsText terminator := by decide
  rw [credential, Scope.text]
  cases scope.region with
  | single name =>
    simp only [FieldValue.isText_append_iff, hdate, hslash, hterminator, Region.name?,
      Option.mem_some_iff, forall_eq', and_true, true_and]
    exact and_congr_right fun _ => And.comm
  | set names =>
    simp only [FieldValue.isText_append_iff, hdate, hslash, hterminator, Region.name?,
      Option.mem_def, reduceCtorEq, false_implies, implies_true, and_true, true_and]

end Announcement

theorem CanonicalRequest.isVisible_signedFields {request : Request} {config : Config}
    {payloadHash : String} {c : CanonicalRequest}
    (h : ofRequest request config payloadHash = .ok c) : FieldValue.IsVisible c.signedFields := by
  obtain ⟨hlines, -, -, -, hsigned, -⟩ := ofRequest_eq_ok_iff.mp h
  refine FieldValue.isVisible_of_forall fun d hd => ?_
  by_contra hhidden
  rw [hsigned, String.toList_intercalate] at hd
  refine Joined.not_mem_intercalate ?_ ?_ hd
  · rintro rfl
    exact hhidden (by decide)
  · intro cs hcs hmem
    simp only [List.map_map, List.mem_map, Function.comp_apply] at hcs
    obtain ⟨line, hline, rfl⟩ := hcs
    obtain ⟨name, -, -, rfl⟩ := (CanonicalFields.mem_lines_iff hlines).mp hline
    exact hhidden (isVisibleChar_of_isTokenChar (name.isTokenChar_of_mem hmem))

namespace RequestSigner

variable {signer : RequestSigner} {now : Instant} {request announced : Request}
  {identity : Identity} {mode : Mode} {plan : Plan}

/-! ### From the plan to the signature -/

/-- The last steps of signing: the canonical form, its signature, and the signature in its place. -/
def conclude (config : Config) (plan : Plan) (announced : Request) (identity : Identity) :
    Except Error Signed := do
  let canonical ← CanonicalRequest.ofRequest announced config (plan.payload.text plan.scope)
  let signature ← plan.key.sign (plan.scope.stringToSign canonical.text)
  let request ← attach plan announced identity canonical signature
  return { request, signature, canonical, chunkSigner := chunkSigner? plan signature }

theorem sign_eq_conclude (signer : RequestSigner) (now : Instant) (request : Request)
    (identity : Identity) (mode : Mode) :
    signer.sign now request identity mode =
      signer.plan now request identity mode >>= fun plan =>
      signer.announce plan request identity >>= fun announced =>
      conclude signer.config plan announced identity :=
  rfl

theorem failsAs_conclude (htotal : plan.key.IsTotal) (config : Config) (announced : Request)
    (identity : Identity) : FailsAs .invalidRequest (conclude config plan announced identity) := by
  refine (CanonicalRequest.failsAs_ofRequest _ _ _).bind fun canonical => ?_
  refine FailsAs.bind (fun e he => ?_) fun signature => ?_
  · obtain ⟨signature, hsignature⟩ := htotal (plan.scope.stringToSign canonical.text)
    rw [hsignature] at he
    cases he
  · exact (failsAs_attach _ _ _ _ _).bind fun signed => failsAs_ok _

/-- A key that has a signature for every text writes it in hexadecimal digits. -/
theorem exists_hex_of_isTotal {key : SigningKey} (htotal : key.IsTotal) (text : String) :
    ∃ signature, key.sign text = .ok (Hex.encode signature) := by
  obtain ⟨signature, hsign⟩ := htotal text
  obtain ⟨octets, rfl, -⟩ := SigningKey.exists_hex_of_sign hsign
  exact ⟨octets, hsign⟩

theorem isText_of_attach {canonical : CanonicalRequest} {signature : String} {signed : Request}
    (hlifetime : plan.lifetime = none)
    (h : attach plan announced identity canonical signature = .ok signed) :
    FieldValue.IsText (Announcement.credential plan.scope identity) := by
  rw [attach, hlifetime] at h
  obtain ⟨value, hvalue, -⟩ := Announcement.setField_eq_ok_iff.mp h
  have hall := value.isFieldOctet_octets
  rw [(FieldValue.ofText_eq_ok_iff.mp hvalue).1] at hall
  -- The key id and the scope are one of the pieces of the text.
  have htext : FieldValue.IsText (authorization plan.scope identity canonical signature) := hall
  simp only [authorization, FieldValue.isText_append_iff] at htext
  exact htext.1.1.1.1.2

/-- **The last steps** ask for signed fields that can be read, and for a key id that can be written
beside the signature. -/
theorem exists_conclude_iff (htotal : plan.key.IsTotal) (config : Config) (announced : Request)
    (identity : Identity) :
    (∃ s, conclude config plan announced identity = .ok s) ↔
      (plan.lifetime = none →
          FieldValue.IsText (Announcement.credential plan.scope identity)) ∧
        announced.fields.Readable [] := by
  constructor
  · rintro ⟨s, h⟩
    obtain ⟨canonical, hcanonical, h⟩ := Outcome.bind_eq_ok_iff.mp h
    obtain ⟨signature, -, h⟩ := Outcome.bind_eq_ok_iff.mp h
    obtain ⟨signed, hattach, -⟩ := Outcome.bind_eq_ok_iff.mp h
    obtain ⟨hfields, -⟩ := CanonicalRequest.ofRequest_eq_ok_iff.mp hcanonical
    exact ⟨fun hlifetime => isText_of_attach hlifetime hattach,
      Fields.exists_lines_iff_readable.mp ⟨_, hfields⟩⟩
  · rintro ⟨hcredential, hreadable⟩
    obtain ⟨ls, hls⟩ := Fields.exists_lines_iff_readable.mpr hreadable
    obtain ⟨canonical, hcanonical⟩ : ∃ canonical, CanonicalRequest.ofRequest announced config
        (plan.payload.text plan.scope) = .ok canonical :=
      ⟨_, Outcome.bind_eq_ok_iff.mpr ⟨ls, hls, rfl⟩⟩
    obtain ⟨signature, hsignature⟩ :=
      exists_hex_of_isTotal htotal (plan.scope.stringToSign canonical.text)
    obtain ⟨signed, hattach⟩ : ∃ signed, attach plan announced identity canonical
        (Hex.encode signature) = .ok signed := by
      cases hlifetime : plan.lifetime with
      | none =>
        exact exists_attach plan announced (hcredential hlifetime)
          (CanonicalRequest.isVisible_signedFields hcanonical).isText signature
      | some lifetime =>
        rw [attach, hlifetime]
        exact ⟨_, rfl⟩
    refine exists_bind_iff.mpr ⟨canonical, hcanonical, ?_⟩
    refine exists_bind_iff.mpr ⟨_, hsignature, ?_⟩
    exact exists_bind_iff.mpr ⟨signed, hattach, _, rfl⟩

/-- **A link** asks for signed fields that can be read. The host is named before they are, but a
host can always be read. -/
theorem gives_announce_of_query {lifetime : Nat} (hlifetime : plan.lifetime = some lifetime)
    (request : Request) (identity : Identity) :
    Gives (signer.announce plan request identity) (·.fields.Readable []) ↔
      request.fields.Readable [] := by
  rw [announce, gives_bind_iff, hlifetime]
  simp only [pure, Except.pure, gives_ok_iff, Announcement.inQuery, ← Fields.ready_false_iff]
  exact Announcement.gives_withHost_iff List.not_mem_nil

/-- **An announcement in fields** asks for what is written to be visible, and for fields that can be
read where they are not touched. -/
theorem gives_announce_of_fields (hplan : signer.plan now request identity mode = .ok plan)
    (hmode : mode.isQuery = false) :
    Gives (signer.announce plan request identity) (·.fields.Readable []) ↔
      signer.Announceable request identity := by
  obtain ⟨hscope, hlifetime, hpayload, -⟩ := plan_eq_ok_iff.mp hplan
  have hcuts : plan.payload.isChunked = signer.cuts request :=
    Payload.isChunked_of_resolve hpayload hmode
  have hready : request.fields.Ready
      (Announcement.written signer.config plan.scope identity plan.payload)
      plan.payload.isChunked ↔
      (signer.cuts request = true →
          ∀ value ∈ request.fields.get? Vocabulary.contentEncoding, value.IsReadable) ∧
        request.fields.Readable (signer.touched request identity (signer.cuts request)) := by
    rw [Fields.ready_iff, hcuts, and_comm]
    refine and_congr_right fun _ => Fields.readable_congr fun name hsigned hcontains => ?_
    -- Of what is touched but not written, the one field is not signed and the other not there.
    rw [← hcuts, mem_touched_iff hplan, or_iff_right, or_iff_right]
    · rintro ⟨habsent, rfl⟩
      rw [habsent] at hcontains
      cases hcontains
    · rintro rfl
      exact absurd hsigned (by decide)
  rw [announce, gives_bind_iff, Mode.lifetime_eq_none hlifetime hmode]
  simp only [← Fields.ready_false_iff, Announcement.gives_inFields_iff, gives_and_iff]
  rw [Announcement.gives_withHost_iff Announcement.host_notMem_written, hready,
    Announcement.regionSet_eq_names?, Scope.region_of_make hscope,
    Announcement.isVisible_digest?_iff hpayload hmode, Announceable]

/-- **A request that is planned** is signed exactly if it is legible. -/
theorem exists_signed_iff (hplan : signer.plan now request identity mode = .ok plan)
    (htotal : plan.key.IsTotal) :
    (∃ s, (signer.announce plan request identity >>= fun announced =>
        conclude signer.config plan announced identity) = .ok s) ↔
      signer.Legible request identity mode := by
  obtain ⟨hscope, hlifetime, -, -⟩ := plan_eq_ok_iff.mp hplan
  obtain ⟨-, hregion, hservice⟩ := Scope.of_make hscope
  rw [exists_bind_iff]
  simp only [exists_conclude_iff htotal]
  rw [gives_and_iff, Legible]
  cases hmode : mode.isQuery with
  | true =>
    obtain ⟨lifetime, hsome⟩ :=
      Option.isSome_iff_exists.mp ((Mode.isSome_lifetime hlifetime).trans hmode)
    rw [gives_announce_of_query hsome, hsome, if_pos rfl]
    exact and_iff_right fun h => nomatch h
  | false =>
    rw [gives_announce_of_fields hplan hmode, Announcement.isText_credential_iff,
      hregion, hservice,
      Mode.lifetime_eq_none hlifetime hmode, if_neg (by decide), Nameable]
    exact and_congr_left fun _ => forall_prop_of_true rfl

/-- **Planning** fails with the kind of error of the first check that fails. -/
theorem kind?_plan
    (hderived : signer.region.isSet = true → ∀ c, identity = .symmetric c →
      ∃ key, Key.asymmetric? c.accessKeyId c.secretAccessKey = some key) :
    kind? (signer.plan now request identity mode) =
      if signer.service = "" ∨ signer.region.text = "" then some .invalidRegionOrService
      else if ∃ seconds ∈ mode.wholeSeconds now, seconds < 1 ∨ 604800 < seconds then
        some .unsupportedConfiguration
      else if Payload.Refused signer.config request mode then some .unsupportedConfiguration
      else if identity.isAsymmetric = true ∧ signer.region.isSet = false then
        some .unsupportedConfiguration
      else if identity.isComplete = false then some .invalidCredentials
      else none := by
  rw [plan]
  refine kind?_check_bind (Scope.kind?_make _ _ _) fun scope hscope => ?_
  refine kind?_check_bind (Mode.kind?_lifetime _ _) fun lifetime _ => ?_
  refine kind?_check_bind (Payload.kind?_resolve _ _ _) fun payload _ => ?_
  have hregion := Scope.region_of_make hscope
  refine (kind?_bind_of_ok fun key => ⟨_, rfl⟩).trans ?_
  rw [SigningKey.kind?_resolve (by rwa [hregion]), hregion]

/-- **Why signing fails**: with the kind of error of the first check that fails, and not at all
if none does. -/
theorem kind?_sign
    (hderived : signer.region.isSet = true → ∀ c, identity = .symmetric c →
      ∃ key, Key.asymmetric? c.accessKeyId c.secretAccessKey = some key)
    (htotal : ∀ plan, signer.plan now request identity mode = .ok plan → plan.key.IsTotal) :
    kind? (signer.sign now request identity mode) =
      signer.refusal? now request identity mode := by
  have hrest : ∀ plan, signer.plan now request identity mode = .ok plan →
      kind? (signer.announce plan request identity >>= fun announced =>
        conclude signer.config plan announced identity) =
      if ¬signer.Legible request identity mode then some .invalidRequest else none := by
    intro plan hplan
    refine FailsAs.kind?_eq ?_ (by rw [not_not]; exact exists_signed_iff hplan (htotal plan hplan))
    exact (failsAs_announce _ _ _ _).bind fun _ => failsAs_conclude (htotal plan hplan) _ _ _
  rw [sign_eq_conclude, kind?_bind (kind?_plan hderived) hrest, refusal?]
  simp only [ite_some_or, Option.none_or]

/-- A request with the time of something else, in a field that cannot be read. -/
def garbled : Request where
  __ := sample
  fields := Http.Fields.empty.append Vocabulary.date ⟨[0xe9], false, rfl⟩

/-- Someone with an id and no secret. -/
def sampleForgetful : Identity := .symmetric { accessKeyId := "id", secretAccessKey := "" }

/-- One request, and three outcomes. In the fields it is signed, as the time is replaced; in a link
it stays and is in the way. If there is no secret either, and the link is to live for no time at
all, the lifetime is what is said to be wrong. -/
theorem kind?_sign_garbled :
    kind? (sampleSigner.sign .epoch garbled sampleIdentity .fields) = none ∧
      kind? (sampleSigner.sign .epoch garbled sampleIdentity sampleMode) =
        some .invalidRequest ∧
      kind? (sampleSigner.sign .epoch garbled sampleForgetful (.query ⟨0, 0, by decide⟩)) =
        some .unsupportedConfiguration := by
  have htotal : ∀ identity mode plan,
      sampleSigner.plan .epoch garbled identity mode = .ok plan → plan.key.IsTotal := by
    intro identity mode plan hplan
    obtain ⟨hscope, -, -, hkey⟩ := plan_eq_ok_iff.mp hplan
    refine SigningKey.isTotal_of_resolve hkey ?_
    rw [Scope.region_of_make hscope]
    rfl
  refine ⟨?_, ?_, ?_⟩
  · exact (kind?_sign (fun hset => absurd hset (by decide)) (htotal _ _)).trans (by decide)
  · exact (kind?_sign (fun hset => absurd hset (by decide)) (htotal _ _)).trans (by decide)
  · exact (kind?_sign (fun hset => absurd hset (by decide)) (htotal _ _)).trans (by decide)

end RequestSigner

end SigV4
