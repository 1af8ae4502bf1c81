import SigV4.Proofs.Signer.Link
import SigV4.Proofs.Upload.Length

/-!
# What signing leaves alone

A request that is signed is the request that was to be signed and something more, and this
file says that there is nothing else to it (`SigV4.RequestSigner.kept_of_sign`). Wherever the
signature goes, the method, the scheme, the authority, the path and the body stay
(`SigV4.Request.SameTarget`). What else stays depends on the place of the signature.

| signature | parameters | fields |
|---|---|---|
| in the query | those of the request, then those of the signature | those of the request, and the host if it was not named |
| in the fields | those of the request | all but the ones that are touched |

Which fields are touched can be said beforehand, but for one thing
(`SigV4.RequestSigner.touched`): whether the body is signed in chunks. A length that the
request has of its body is touched only if the length is known to the signer as well. For a
body in chunks whose length is not known it stays as it is, although the frames are longer.
-/

namespace SigV4

/-- **Whether two requests go to the same target**, with the same body. -/
structure Request.SameTarget (r r' : Request) : Prop where
  /-- The method is the same. -/
  method : r'.method = r.method
  /-- The scheme is the same. -/
  scheme : r'.scheme = r.scheme
  /-- The authority is the same. -/
  authority : r'.authority = r.authority
  /-- The path is the same. -/
  path : r'.path = r.path
  /-- What is known about the body is the same. -/
  body : r'.body = r.body

/-- Whether the body arrives piece by piece and its length is known. -/
def Body.hasLength : Body → Bool
  | .streaming (some _) => true
  | _ => false

namespace Http.Fields

/-- Whether fields were completed by a host: it is named behind the others, unless it was
named. -/
def HostNamed (before after : Fields) (host : String) : Prop :=
  if before.contains Vocabulary.host then after = before
  else ∃ value, value.octets = Octets.ofText host ∧
    after = before.append Vocabulary.host value

/-- A name that does not occur cannot be erased. -/
theorem erase_of_contains_eq_false {fields : Fields} {name : FieldName}
    (h : fields.contains name = false) : fields.erase name = fields := by
  have hkept : ∀ field ∈ fields.toList, decide (field.1 ≠ name) = true := by
    intro field hfield
    rw [decide_eq_true_iff]
    exact of_decide_eq_false (by simpa using List.any_eq_false.mp h field hfield)
  rw [erase, List.filter_eq_self.mpr hkept]

end Http.Fields

theorem Announcement.hostNamed_withHost {request request' : Request}
    (h : withHost request = .ok request') :
    request.fields.HostNamed request'.fields request.authority.text := by
  unfold withHost at h
  rw [Http.Fields.HostNamed]
  split at h
  · next hnamed =>
    obtain rfl := Except.ok.inj h
    rw [if_pos hnamed]
  · next hnamed =>
    obtain ⟨value, hvalue, rfl⟩ := setField_eq_ok_iff.mp h
    rw [if_neg hnamed, Http.Fields.insert,
      Http.Fields.erase_of_contains_eq_false (Bool.not_eq_true _ ▸ hnamed)]
    exact ⟨value, (Http.FieldValue.ofText_eq_ok_iff.mp hvalue).1, rfl⟩

namespace RequestSigner

variable {signer : RequestSigner} {now : Instant} {request : Request} {identity : Identity}
  {mode : Mode} {plan : Plan} {s : Signed}

/-! ### The target -/

theorem sameTarget_of_sign (h : signer.sign now request identity mode = .ok s) :
    request.SameTarget s.request := by
  obtain ⟨announced, -, hfields, hquery⟩ := exists_announced h
  cases hmode : mode.isQuery with
  | false =>
    obtain ⟨hannounced, value, hsigned⟩ := hfields hmode
    rw [hsigned, hannounced]
    exact ⟨rfl, rfl, rfl, rfl, rfl⟩
  | true =>
    obtain ⟨⟨hosted, scope, lifetime, hhosted, rfl⟩, hsigned⟩ := hquery hmode
    rw [hsigned, hhosted]
    exact ⟨rfl, rfl, rfl, rfl, rfl⟩

/-! ### The fields -/

/-- A signature in the query leaves the fields alone, once they name the host. -/
theorem hostNamed_of_sign (h : signer.sign now request identity mode = .ok s)
    (hmode : mode.isQuery = true) :
    request.fields.HostNamed s.request.fields request.authority.text := by
  obtain ⟨plan, announced, hplan, hannounce, -, -, hattach, -⟩ := sign_eq_ok_iff.mp h
  obtain ⟨-, hlifetime, -, -⟩ := plan_eq_ok_iff.mp hplan
  obtain ⟨lifetime, hsome⟩ :=
    Option.isSome_iff_exists.mp ((Mode.isSome_lifetime hlifetime).trans hmode)
  obtain ⟨hosted, hhost, hannounced⟩ := Outcome.bind_eq_ok_iff.mp hannounce
  rw [hsome] at hannounced
  obtain rfl := Except.ok.inj hannounced
  rw [attach_of_lifetime_some hsome hattach]
  change request.fields.HostNamed hosted.fields _
  exact Announcement.hostNamed_withHost hhost

/-- **The host of a signed request** is the one that was there when it had been named. -/
theorem exists_withHost (h : signer.sign now request identity mode = .ok s) :
    ∃ hosted, Announcement.withHost request = .ok hosted ∧
      s.request.fields.values Vocabulary.host = hosted.fields.values Vocabulary.host := by
  obtain ⟨plan, announced, hplan, hannounce, -, -, hattach, -⟩ := sign_eq_ok_iff.mp h
  obtain ⟨hosted, hhost, hannounced⟩ := Outcome.bind_eq_ok_iff.mp hannounce
  refine ⟨hosted, hhost, ?_⟩
  cases hlifetime : plan.lifetime with
  | none =>
    rw [hlifetime] at hannounced
    obtain ⟨value, hsigned⟩ := attach_of_lifetime_none hlifetime hattach
    rw [hsigned, Http.Fields.values_insert, if_neg (by decide)]
    exact Announcement.values_inFields_of_notMem hannounced Announcement.host_notMem_written
  | some lifetime =>
    rw [hlifetime] at hannounced
    obtain rfl := Except.ok.inj hannounced
    rw [attach_of_lifetime_some hlifetime hattach]
    rfl

/-- Names that are given only under a condition. -/
def onlyIf (condition : Bool) (names : List Http.FieldName) : List Http.FieldName :=
  if condition then names else []

theorem mem_onlyIf_iff {condition : Bool} {names : List Http.FieldName} {name : Http.FieldName} :
    name ∈ onlyIf condition names ↔ condition = true ∧ name ∈ names := by
  cases condition <;> simp [onlyIf]

/-- **The fields that signing in the fields touches**, given whether the body is signed in
chunks: that of the signature and that of the time in any case, and every other only where
there is something to be said in it. -/
def touched (signer : RequestSigner) (request : Request) (identity : Identity)
    (chunked : Bool) : List Http.FieldName :=
  [Vocabulary.authorization] ++
    onlyIf (!request.fields.contains Vocabulary.host) [Vocabulary.host] ++
    [Vocabulary.date] ++
    onlyIf signer.region.isSet [Vocabulary.regionSet] ++
    onlyIf identity.sessionToken.isSome [Vocabulary.securityToken] ++
    onlyIf chunked [Vocabulary.contentEncoding] ++
    onlyIf (chunked && request.body.hasLength)
      [Vocabulary.decodedContentLength, Vocabulary.contentLength] ++
    onlyIf (chunked || signer.config.bodyHeader == .addIfSigned) [Vocabulary.contentSha256]

/-- The fields that announce chunks are there for chunks, and those of the lengths if the
length of the body is known. -/
theorem mem_chunkFields_iff {config : Config} {name : Http.FieldName} {payload : Payload}
    (h : Payload.resolve config request mode = .ok payload) :
    name ∈ Announcement.chunkFields payload ↔
      payload.isChunked = true ∧ (name = Vocabulary.contentEncoding ∨
        request.body.hasLength = true ∧
          (name = Vocabulary.decodedContentLength ∨ name = Vocabulary.contentLength)) := by
  cases payload with
  | hashed digest => simp [Announcement.chunkFields, Payload.isChunked]
  | unsigned => simp [Announcement.chunkFields, Payload.isChunked]
  | chunked length chunkSize =>
    obtain ⟨hbody, -, -⟩ := Payload.of_resolve_chunked h
    rw [hbody]
    cases length <;> simp [Announcement.chunkFields, Payload.isChunked, Body.hasLength]

/-- **What is touched** is what announces the signature, the signature, and the host if it was
not named. -/
theorem mem_touched_iff {name : Http.FieldName}
    (hplan : signer.plan now request identity mode = .ok plan) :
    name ∈ signer.touched request identity plan.payload.isChunked ↔
      name = Vocabulary.authorization ∨
        (request.fields.contains Vocabulary.host = false ∧ name = Vocabulary.host) ∨
        name ∈ Announcement.written signer.config plan.scope identity plan.payload := by
  obtain ⟨hscope, -, hpayload, -⟩ := plan_eq_ok_iff.mp hplan
  have hregion : plan.scope.region.names?.isSome = signer.region.isSet := by
    rw [Scope.region_of_make hscope]
    cases signer.region <;> rfl
  simp only [touched, Announcement.written, List.mem_append, List.mem_cons, List.not_mem_nil,
    or_false, mem_onlyIf_iff, Announcement.mem_ifSome_iff, Announcement.regionSet_eq_names?,
    Announcement.isSome_digest?, Announcement.showsDigest, hregion, mem_chunkFields_iff hpayload,
    Bool.not_eq_true', Bool.and_eq_true, and_or_left, and_assoc, or_assoc]

/-- **A field that is not touched** keeps its values. -/
theorem values_of_sign (h : signer.sign now request identity .fields = .ok s)
    {name : Http.FieldName}
    (hname : name ∉ signer.touched request identity s.chunkSigner.isSome) :
    s.request.fields.values name = request.fields.values name := by
  obtain ⟨plan, hosted, announced, value, hplan, hhost, hinFields, hsigned, -, hchunks⟩ :=
    exists_hosted h
  rw [hchunks, isSome_chunkSigner?, mem_touched_iff hplan, not_or, not_or] at hname
  obtain ⟨hauthorization, hunnamed, hwritten⟩ := hname
  rw [hsigned, Http.Fields.values_insert, if_neg (Ne.symm hauthorization),
    Announcement.values_inFields_of_notMem hinFields hwritten]
  cases hnamed : request.fields.contains Vocabulary.host with
  | true =>
    rw [Announcement.withHost, if_pos hnamed] at hhost
    obtain rfl := Except.ok.inj hhost
    rfl
  | false => exact Announcement.values_withHost_of_ne hhost fun heq => hunnamed ⟨hnamed, heq.symm⟩

theorem exists_values_authorization (h : signer.sign now request identity .fields = .ok s) :
    ∃ value, s.request.fields.values Vocabulary.authorization = [value] := by
  obtain ⟨plan, hosted, announced, value, -, -, -, hsigned, -, -⟩ := exists_hosted h
  refine ⟨value, ?_⟩
  rw [hsigned, Http.Fields.values_insert, if_pos rfl]

/-! ### The whole request -/

/-- **What signing leaves alone.** The target and the body stay. A signature in the query
leaves the fields alone, once they name the host, and puts its parameters behind those of
the request; a signature in the fields leaves the query alone, is the only one of its field,
and leaves alone every field that is not touched. -/
theorem kept_of_sign (h : signer.sign now request identity mode = .ok s) :
    request.SameTarget s.request ∧
      (mode.isQuery = true →
        request.fields.HostNamed s.request.fields request.authority.text ∧
        ∃ scope lifetime, Scope.make now signer.region signer.service = .ok scope ∧
          mode.lifetime now = .ok (some lifetime) ∧
          s.request.query = request.query ++ Param.ofEntries
            ((Terms.make s.request.fields scope identity lifetime).withSignature
              s.signature)) ∧
      (mode.isQuery = false →
        s.request.query = request.query ∧
        (∃ value, s.request.fields.values Vocabulary.authorization = [value]) ∧
        ∀ name, name ∉ signer.touched request identity s.chunkSigner.isSome →
          s.request.fields.values name = request.fields.values name) := by
  refine ⟨sameTarget_of_sign h, fun hmode => ⟨hostNamed_of_sign h hmode, ?_⟩, fun hmode => ?_⟩
  · obtain ⟨scope, lifetime, hscope, hlifetime, -, hquery⟩ := exists_terms h hmode
    exact ⟨scope, lifetime, hscope, hlifetime, hquery⟩
  · obtain rfl : mode = .fields := by
      cases mode with
      | fields => rfl
      | query lifetime => cases hmode
      | queryUntil stop => cases hmode
    obtain ⟨announced, -, hfields, -⟩ := exists_announced h
    obtain ⟨hannounced, value, hsigned⟩ := hfields rfl
    refine ⟨?_, exists_values_authorization h, fun name => values_of_sign h⟩
    rw [hsigned, hannounced]

/-- A request with a length and with a token of someone. -/
def labelled : Request where
  __ := sample
  fields := (Http.Fields.empty.append Vocabulary.contentLength ⟨[0x31], false, rfl⟩).append
    Vocabulary.securityToken sampleValue

/-- Both places for the signature. In the fields, the length is left alone as there are no
chunks, and the token as whoever signs has none; in the query, all fields are, and the host
is named behind them. -/
theorem kept_of_sign_labelled :
    (∃ s, sampleSigner.sign .epoch labelled sampleIdentity .fields = .ok s ∧
      s.request.query = labelled.query ∧
      ∀ name ∈ [Vocabulary.contentLength, Vocabulary.securityToken],
        s.request.fields.values name = labelled.fields.values name) ∧
    ∃ s, sampleSigner.sign .epoch labelled sampleIdentity sampleMode = .ok s ∧
      ∃ value, value.octets = Octets.ofText "example.com" ∧
        s.request.fields = labelled.fields.append Vocabulary.host value := by
  obtain ⟨s, hs⟩ : ∃ s, sampleSigner.sign .epoch labelled sampleIdentity .fields = .ok s :=
    exists_sign ⟨_, rfl, ⟨_, rfl⟩, _, rfl, _, rfl, by decide, by decide⟩
  obtain ⟨s', hs'⟩ : ∃ s, sampleSigner.sign .epoch labelled sampleIdentity sampleMode = .ok s :=
    exists_sign ⟨_, rfl, ⟨_, rfl⟩, _, rfl, _, rfl, by decide, by decide⟩
  obtain ⟨-, -, hfields⟩ := kept_of_sign hs
  obtain ⟨-, hquery, -⟩ := kept_of_sign hs'
  obtain ⟨hsame, -, hkept⟩ := hfields rfl
  refine ⟨⟨s, hs, hsame, fun name hname => hkept name ?_⟩, s', hs', (hquery rfl).1⟩
  -- Whether there are chunks makes no difference to these two.
  have hall : ∀ chunked, ∀ name ∈ [Vocabulary.contentLength, Vocabulary.securityToken],
      name ∉ sampleSigner.touched labelled sampleIdentity chunked := by decide
  exact hall _ name hname

end RequestSigner

end SigV4
