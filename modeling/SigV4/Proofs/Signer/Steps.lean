import SigV4.Proofs.Canonical.Text
import SigV4.Proofs.Http.FieldText
import SigV4.Proofs.Outcome
import SigV4.Signer

/-!
# The steps of signing

What each step of `SigV4.RequestSigner.sign` has done when it succeeds, so that no proof
about signing takes a step apart again. The steps that write something into the fields
leave everything else of the request alone (`SigV4.Request.SameButFields`), and what they
leave of the fields is told by name: the values of the field that is set, and those of
every other (`SigV4.Announcement.values_setField`).
-/

namespace SigV4

/-! ### Requests that differ in their fields -/

/-- **Whether two requests are the same** but for their fields. -/
def Request.SameButFields (r r' : Request) : Prop :=
  r' = { r with fields := r'.fields }

namespace Request.SameButFields

theorem refl (r : Request) : r.SameButFields r := by
  obtain ⟨method, scheme, authority, path, query, fields, body⟩ := r
  rfl

theorem trans {r r' r'' : Request} (h : r.SameButFields r') (h' : r'.SameButFields r'') :
    r.SameButFields r'' := by
  rw [SameButFields, h', h]

end Request.SameButFields

namespace Announcement

variable {request request' : Request} {name : Http.FieldName} {text : String} {sensitive : Bool}

/-- What setting a field does, when it can be done. -/
theorem setField_eq_ok_iff :
    setField request name text sensitive = .ok request' ↔
      ∃ value, Http.FieldValue.ofText text = .ok value ∧
        request' = { request with
          fields := request.fields.insert name
            (if sensitive then value.asSensitive else value) } := by
  unfold setField
  constructor
  · intro h
    split at h
    · next value hvalue =>
      obtain rfl := Except.ok.inj h
      exact ⟨value, hvalue, rfl⟩
    · cases h
  · rintro ⟨value, hvalue, rfl⟩
    rw [hvalue]

theorem exists_setField (request : Request) (name : Http.FieldName) (sensitive : Bool)
    (h : Http.FieldValue.IsText text) :
    ∃ request', setField request name text sensitive = .ok request' := by
  obtain ⟨value, hvalue⟩ := Http.FieldValue.exists_ofText h
  exact ⟨_, setField_eq_ok_iff.mpr ⟨value, hvalue, rfl⟩⟩

theorem sameButFields_setField (h : setField request name text sensitive = .ok request') :
    request.SameButFields request' := by
  obtain ⟨value, -, rfl⟩ := setField_eq_ok_iff.mp h
  rfl

/-- **A field that was set** has one value, and its octets are those of the text. -/
theorem values_setField (h : setField request name text sensitive = .ok request') :
    (request'.fields.values name).map (·.octets) = [Octets.ofText text] := by
  obtain ⟨value, hvalue, rfl⟩ := setField_eq_ok_iff.mp h
  rw [Http.Fields.values_insert, if_pos rfl, List.map_singleton,
    ← (Http.FieldValue.ofText_eq_ok_iff.mp hvalue).1]
  split <;> rfl

/-- The other fields keep their values. -/
theorem values_setField_of_ne (h : setField request name text sensitive = .ok request')
    {other : Http.FieldName} (hne : name ≠ other) :
    request'.fields.values other = request.fields.values other := by
  obtain ⟨value, -, rfl⟩ := setField_eq_ok_iff.mp h
  rw [Http.Fields.values_insert, if_neg hne]

theorem sameButFields_setOptional {text : Option String}
    (h : setOptional request name text sensitive = .ok request') :
    request.SameButFields request' := by
  cases text with
  | none =>
    obtain rfl := Except.ok.inj h
    exact .refl request
  | some text => exact sameButFields_setField h

theorem values_setOptional_of_ne {text : Option String}
    (h : setOptional request name text sensitive = .ok request') {other : Http.FieldName}
    (hne : name ≠ other) : request'.fields.values other = request.fields.values other := by
  cases text with
  | none =>
    obtain rfl := Except.ok.inj h
    rfl
  | some text => exact values_setField_of_ne h hne

theorem sameButFields_withHost (h : withHost request = .ok request') :
    request.SameButFields request' := by
  unfold withHost at h
  split at h
  · obtain rfl := Except.ok.inj h
    exact .refl request
  · exact sameButFields_setField h

/-! ### Announcing in fields -/

variable {scope : Scope}

theorem sameButFields_withLengths {chunkSize : Nat} {length : Option Nat}
    (h : withLengths request scope chunkSize length = .ok request') :
    request.SameButFields request' := by
  cases length with
  | none =>
    obtain rfl := Except.ok.inj h
    exact .refl request
  | some length =>
    obtain ⟨between, hdecoded, hlength⟩ := Outcome.bind_eq_ok_iff.mp h
    exact (sameButFields_setField hdecoded).trans (sameButFields_setField hlength)

theorem sameButFields_withChunks {payload : Payload}
    (h : withChunks request scope payload = .ok request') : request.SameButFields request' := by
  cases payload with
  | hashed digest =>
    obtain rfl := Except.ok.inj h
    exact .refl request
  | unsigned =>
    obtain rfl := Except.ok.inj h
    exact .refl request
  | chunked length chunkSize =>
    obtain ⟨codings, -, h⟩ := Outcome.bind_eq_ok_iff.mp h
    obtain ⟨between, hcodings, hlengths⟩ := Outcome.bind_eq_ok_iff.mp h
    exact (sameButFields_setField hcodings).trans (sameButFields_withLengths hlengths)

/-- **The fields of an announcement**, one after the other: the time, the region set, the token,
the chunks, and the digest. -/
theorem inFields_eq_ok_iff {config : Config} {identity : Identity} {payload : Payload} :
    inFields request config scope identity payload = .ok request' ↔
      ∃ dated placed held cut,
        setField request Vocabulary.date scope.timestamp false = .ok dated ∧
        setOptional dated Vocabulary.regionSet (regionSet scope) false = .ok placed ∧
        setOptional placed Vocabulary.securityToken identity.sessionToken true = .ok held ∧
        withChunks held scope payload = .ok cut ∧
        setOptional cut Vocabulary.contentSha256
          (if showsDigest config payload then some (payload.text scope) else none) false =
            .ok request' := by
  simp only [inFields, Outcome.bind_eq_ok_iff]
  constructor
  · rintro ⟨dated, hdate, placed, hregion, held, htoken, cut, hchunks, hdigest⟩
    exact ⟨dated, placed, held, cut, hdate, hregion, htoken, hchunks, hdigest⟩
  · rintro ⟨dated, placed, held, cut, hdate, hregion, htoken, hchunks, hdigest⟩
    exact ⟨dated, hdate, placed, hregion, held, htoken, cut, hchunks, hdigest⟩

/-- **Announcing in fields** changes nothing but fields. -/
theorem sameButFields_inFields {config : Config} {identity : Identity} {payload : Payload}
    (h : inFields request config scope identity payload = .ok request') :
    request.SameButFields request' := by
  obtain ⟨dated, placed, held, cut, hdate, hregion, htoken, hchunks, hdigest⟩ :=
    inFields_eq_ok_iff.mp h
  exact (sameButFields_setField hdate).trans <| (sameButFields_setOptional hregion).trans <|
    (sameButFields_setOptional htoken).trans <| (sameButFields_withChunks hchunks).trans
      (sameButFields_setOptional hdigest)

/-- The lengths that the fields of a body in chunks give. -/
theorem values_withLengths {chunkSize length : Nat}
    (h : withLengths request scope chunkSize (some length) = .ok request') :
    (request'.fields.values Vocabulary.decodedContentLength).map (·.octets) =
        [Octets.ofText (toString length)] ∧
      (request'.fields.values Vocabulary.contentLength).map (·.octets) =
        [Octets.ofText (toString
          (Frame.encodedLength length chunkSize scope.algorithm.signatureLength))] := by
  obtain ⟨between, hdecoded, hlength⟩ := Outcome.bind_eq_ok_iff.mp h
  refine ⟨?_, values_setField hlength⟩
  rw [values_setField_of_ne hlength (by decide)]
  exact values_setField hdecoded

/-- **A body in chunks of known length** has its own length and that of its frames
announced. -/
theorem values_inFields {config : Config} {identity : Identity} {chunkSize length : Nat}
    (h : inFields request config scope identity (.chunked (some length) chunkSize) =
      .ok request') :
    (request'.fields.values Vocabulary.decodedContentLength).map (·.octets) =
        [Octets.ofText (toString length)] ∧
      (request'.fields.values Vocabulary.contentLength).map (·.octets) =
        [Octets.ofText (toString
          (Frame.encodedLength length chunkSize scope.algorithm.signatureLength))] := by
  obtain ⟨dated, placed, held, cut, -, -, -, hchunks, hdigest⟩ :=
    inFields_eq_ok_iff.mp h
  obtain ⟨codings, -, hchunks⟩ := Outcome.bind_eq_ok_iff.mp hchunks
  obtain ⟨coded, -, hlengths⟩ := Outcome.bind_eq_ok_iff.mp hchunks
  -- Of the fields that are set behind the lengths, none holds a length.
  rw [values_setOptional_of_ne hdigest (by decide), values_setOptional_of_ne hdigest (by decide)]
  exact values_withLengths hlengths

end Announcement

/-! ### The steps -/

/-- A scope is for the time, for the region and for the service that were given. -/
theorem Scope.of_make {now : Instant} {region : Region} {service : String} {scope : Scope}
    (h : make now region service = .ok scope) :
    scope.time = now ∧ scope.region = region ∧ scope.service = service := by
  unfold make at h
  split at h
  · split at h
    · obtain rfl := Except.ok.inj h
      exact ⟨rfl, rfl, rfl⟩
    · cases h
  · cases h

theorem Scope.time_of_make {now : Instant} {region : Region} {service : String} {scope : Scope}
    (h : make now region service = .ok scope) : scope.time = now :=
  (of_make h).1

theorem Scope.region_of_make {now : Instant} {region : Region} {service : String} {scope : Scope}
    (h : make now region service = .ok scope) : scope.region = region :=
  (of_make h).2.1

/-- A signature that does not go into the query goes into the fields. -/
theorem Mode.eq_fields {mode : Mode} (h : mode.isQuery = false) : mode = .fields := by
  cases mode with
  | fields => rfl
  | query lifetime => cases h
  | queryUntil stop => cases h

/-- There is a lifetime exactly for a signature in the query. -/
theorem Mode.isSome_lifetime {mode : Mode} {now : Instant} {lifetime : Option Nat}
    (h : mode.lifetime now = .ok lifetime) : lifetime.isSome = mode.isQuery := by
  cases mode with
  | fields =>
    obtain rfl := Except.ok.inj h
    rfl
  | query d =>
    obtain ⟨seconds, -, rfl⟩ := Outcome.map_eq_ok_iff.mp h
    rfl
  | queryUntil stop =>
    obtain ⟨seconds, -, rfl⟩ := Outcome.map_eq_ok_iff.mp h
    rfl

theorem Mode.lifetime_eq_none {mode : Mode} {now : Instant} {lifetime : Option Nat}
    (h : mode.lifetime now = .ok lifetime) (hmode : mode.isQuery = false) : lifetime = none := by
  have hsome := isSome_lifetime h
  rwa [hmode, Option.isSome_eq_false_iff, Option.isNone_iff_eq_none] at hsome

namespace RequestSigner

variable {signer : RequestSigner} {now : Instant} {request announced : Request}
  {identity : Identity} {mode : Mode} {plan : Plan} {s : Signed}

theorem plan_eq_ok_iff :
    signer.plan now request identity mode = .ok plan ↔
      Scope.make now signer.region signer.service = .ok plan.scope ∧
        mode.lifetime now = .ok plan.lifetime ∧
        Payload.resolve signer.config request mode = .ok plan.payload ∧
        SigningKey.resolve identity plan.scope = .ok plan.key := by
  simp only [RequestSigner.plan, Outcome.bind_eq_ok_iff]
  constructor
  · rintro ⟨scope, hscope, lifetime, hlifetime, payload, hpayload, key, hkey, h⟩
    obtain rfl := Except.ok.inj h
    exact ⟨hscope, hlifetime, hpayload, hkey⟩
  · rintro ⟨hscope, hlifetime, hpayload, hkey⟩
    exact ⟨_, hscope, _, hlifetime, _, hpayload, _, hkey, rfl⟩

/-- **What has been done when a request is signed.** -/
theorem sign_eq_ok_iff :
    signer.sign now request identity mode = .ok s ↔
      ∃ plan announced, signer.plan now request identity mode = .ok plan ∧
        signer.announce plan request identity = .ok announced ∧
        CanonicalRequest.ofRequest announced signer.config (plan.payload.text plan.scope) =
          .ok s.canonical ∧
        plan.key.sign (plan.scope.stringToSign s.canonical.text) = .ok s.signature ∧
        attach plan announced identity s.canonical s.signature = .ok s.request ∧
        s.chunkSigner = chunkSigner? plan s.signature := by
  simp only [sign, Outcome.bind_eq_ok_iff]
  constructor
  · rintro ⟨plan, hplan, announced, hannounced, canonical, hcanonical, signature, hsignature,
      signed, hattach, h⟩
    obtain rfl := Except.ok.inj h
    exact ⟨plan, announced, hplan, hannounced, hcanonical, hsignature, hattach, rfl⟩
  · rintro ⟨plan, announced, hplan, hannounced, hcanonical, hsignature, hattach, hchunks⟩
    obtain ⟨signed, signature, canonical, chunkSigner⟩ := s
    obtain rfl : chunkSigner = chunkSigner? plan signature := hchunks
    exact ⟨plan, hplan, announced, hannounced, _, hcanonical, _, hsignature, _, hattach, rfl⟩

/-- A signature that goes into the fields changes nothing but fields before it is there. -/
theorem announce_of_lifetime_none (hlifetime : plan.lifetime = none)
    (h : signer.announce plan request identity = .ok announced) :
    request.SameButFields announced := by
  obtain ⟨hosted, hhost, h⟩ := Outcome.bind_eq_ok_iff.mp h
  rw [hlifetime] at h
  exact (Announcement.sameButFields_withHost hhost).trans (Announcement.sameButFields_inFields h)

/-- A signature that goes into the query is announced behind the parameters of the request,
and the fields may be told the host. -/
theorem announce_of_lifetime_some {lifetime : Nat} (hlifetime : plan.lifetime = some lifetime)
    (h : signer.announce plan request identity = .ok announced) :
    ∃ hosted, request.SameButFields hosted ∧
      announced = Announcement.inQuery hosted plan.scope identity lifetime := by
  obtain ⟨hosted, hhost, h⟩ := Outcome.bind_eq_ok_iff.mp h
  rw [hlifetime] at h
  exact ⟨hosted, Announcement.sameButFields_withHost hhost, (Except.ok.inj h).symm⟩

theorem attach_of_lifetime_none {canonical : CanonicalRequest} {signature : String}
    {signed : Request} (hlifetime : plan.lifetime = none)
    (h : attach plan announced identity canonical signature = .ok signed) :
    ∃ value, signed =
      { announced with fields := announced.fields.insert Vocabulary.authorization value } := by
  rw [attach, hlifetime] at h
  obtain ⟨value, -, rfl⟩ := Announcement.setField_eq_ok_iff.mp h
  exact ⟨value.asSensitive, rfl⟩

theorem attach_of_lifetime_some {canonical : CanonicalRequest} {signature : String}
    {signed : Request} {lifetime : Nat} (hlifetime : plan.lifetime = some lifetime)
    (h : attach plan announced identity canonical signature = .ok signed) :
    signed = announced.push Vocabulary.signatureParam signature := by
  rw [attach, hlifetime] at h
  exact (Except.ok.inj h).symm

/-! ### Signing that succeeds -/

/-- **A signature finds its place**: only the key id and the names of the signed fields
could be in the way, since a signature is hexadecimal text. -/
theorem exists_attach (plan : Plan) (announced : Request) {identity : Identity}
    {canonical : CanonicalRequest}
    (hcredential : Http.FieldValue.IsText (Announcement.credential plan.scope identity))
    (hsigned : Http.FieldValue.IsText canonical.signedFields) (signature : Octets) :
    ∃ signed, attach plan announced identity canonical (Hex.encode signature) = .ok signed := by
  rw [attach]
  split
  · have halgorithm : Http.FieldValue.IsText plan.scope.algorithm.text := by
      cases plan.scope.algorithm <;> decide
    have hfront := (halgorithm.append (t := " Credential=") (by decide)).append hcredential
    have hmiddle := (hfront.append (t := ", SignedHeaders=") (by decide)).append hsigned
    have hback := hmiddle.append (t := ", Signature=") (by decide)
    exact Announcement.exists_setField _ _ _ (hback.append (Http.FieldValue.isText_hex _))
  · exact ⟨_, rfl⟩

/-- **What a key is to sign**: every step before the signature succeeds, the key id and the
names of the signed fields can be written beside a signature, and this is the key and this is
the text. -/
def ToBeSigned (signer : RequestSigner) (now : Instant) (request : Request) (identity : Identity)
    (mode : Mode) (key : SigningKey) (text : String) : Prop :=
  ∃ plan announced canonical, signer.plan now request identity mode = .ok plan ∧
    signer.announce plan request identity = .ok announced ∧
    CanonicalRequest.ofRequest announced signer.config (plan.payload.text plan.scope) =
      .ok canonical ∧
    Http.FieldValue.IsText (Announcement.credential plan.scope identity) ∧
    Http.FieldValue.IsText canonical.signedFields ∧
    plan.key = key ∧ plan.scope.stringToSign canonical.text = text

/-- A request is signed if its text is. -/
theorem exists_sign_of_toBeSigned {key : SigningKey} {text : String} {signature : Octets}
    (h : ToBeSigned signer now request identity mode key text)
    (hsignature : key.sign text = .ok (Hex.encode signature)) :
    ∃ s, signer.sign now request identity mode = .ok s := by
  obtain ⟨plan, announced, canonical, hplan, hannounce, hcanonical, hcredential, hsigned, rfl,
    rfl⟩ := h
  obtain ⟨signed, hattach⟩ := exists_attach plan announced hcredential hsigned signature
  exact ⟨⟨signed, Hex.encode signature, canonical, chunkSigner? plan (Hex.encode signature)⟩,
    sign_eq_ok_iff.mpr ⟨plan, announced, hplan, hannounce, hcanonical, hsignature, hattach, rfl⟩⟩

/-- **What signing with a secret needs**: that every step before the signature succeeds, and
that the key id and the names of the signed fields can be written beside it. -/
def Signable (signer : RequestSigner) (now : Instant) (request : Request) (identity : Identity)
    (mode : Mode) : Prop :=
  ∃ plan, signer.plan now request identity mode = .ok plan ∧
    (∃ key, plan.key = .hmac key) ∧
    ∃ announced, signer.announce plan request identity = .ok announced ∧
    ∃ canonical, CanonicalRequest.ofRequest announced signer.config
        (plan.payload.text plan.scope) = .ok canonical ∧
      Http.FieldValue.IsText (Announcement.credential plan.scope identity) ∧
      Http.FieldValue.IsText canonical.signedFields

theorem exists_sign (h : Signable signer now request identity mode) :
    ∃ s, signer.sign now request identity mode = .ok s := by
  obtain ⟨plan, hplan, ⟨key, hkey⟩, announced, hannounce, canonical, hcanonical, hcredential,
    hsigned⟩ := h
  have hready : ToBeSigned signer now request identity mode (.hmac key)
      (plan.scope.stringToSign canonical.text) :=
    ⟨plan, announced, canonical, hplan, hannounce, hcanonical, hcredential, hsigned, hkey, rfl⟩
  exact exists_sign_of_toBeSigned hready rfl

end RequestSigner

end SigV4
