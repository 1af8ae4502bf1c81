import SigV4.Proofs.Signer.Steps

/-!
# A signed request has the canonical form that was signed

Whoever receives a signed request builds its canonical form, and it has to be the one that
was signed (`SigV4.RequestSigner.ofRequest_withoutSignature`). A request is changed on its
way to being signed, and changed once more afterwards, so this says that the second change
cannot be seen: as a field, the signature is not signed and replaces whatever the request
had in its place; as a parameter it would be signed, so it has to be taken away first, and
it is the last one (`SigV4.Request.withoutSignature`).

What arrives need not be the request that was signed. It is enough that method, parameters
and fields are the same, and that the path has the same canonical form
(`SigV4.RequestSigner.ofRequest_of_received`).
-/

namespace SigV4

/-- **The request without its signature**, as far as the signature would be signed: without
its last parameter, if the signature is in the query. -/
def Request.withoutSignature (r : Request) (mode : Mode) : Request :=
  if mode.isQuery then { r with query := r.query.dropLast } else r

namespace RequestSigner

variable {signer : RequestSigner} {now : Instant} {request : Request} {identity : Identity}
  {mode : Mode} {s : Signed}

/-! ### The pieces of a signed request -/

/-- **How a request changes when it is signed**: what was signed is the request with other
fields and further parameters, and the signature comes on top of that. -/
theorem exists_announced (h : signer.sign now request identity mode = .ok s) :
    ∃ announced, CanonicalRequest.ofRequest announced signer.config s.canonical.payloadHash =
        .ok s.canonical ∧
      (mode.isQuery = false → request.SameButFields announced ∧ ∃ value, s.request =
        { announced with fields := announced.fields.insert Vocabulary.authorization value }) ∧
      (mode.isQuery = true → (∃ hosted scope lifetime, request.SameButFields hosted ∧
          announced = Announcement.inQuery hosted scope identity lifetime) ∧
        s.request = announced.push Vocabulary.signatureParam s.signature) := by
  obtain ⟨plan, announced, hplan, hannounce, hcanonical, -, hattach, -⟩ := sign_eq_ok_iff.mp h
  obtain ⟨-, hmode, -, -⟩ := plan_eq_ok_iff.mp hplan
  obtain ⟨-, -, -, -, -, hhash⟩ := CanonicalRequest.ofRequest_eq_ok_iff.mp hcanonical
  refine ⟨announced, ?_, fun hfields => ?_, fun hquery => ?_⟩
  · rw [hhash]
    exact hcanonical
  · have hlifetime := Mode.lifetime_eq_none hmode hfields
    exact ⟨announce_of_lifetime_none hlifetime hannounce,
      attach_of_lifetime_none hlifetime hattach⟩
  · obtain ⟨lifetime, hlifetime⟩ :=
      Option.isSome_iff_exists.mp ((Mode.isSome_lifetime hmode).trans hquery)
    obtain ⟨hosted, hhosted, rfl⟩ := announce_of_lifetime_some hlifetime hannounce
    exact ⟨⟨hosted, _, _, hhosted, rfl⟩, attach_of_lifetime_some hlifetime hattach⟩

theorem path_of_sign (h : signer.sign now request identity mode = .ok s) :
    s.request.path = request.path := by
  obtain ⟨announced, -, hfields, hquery⟩ := exists_announced h
  cases hmode : mode.isQuery with
  | false =>
    obtain ⟨hannounced, value, hsigned⟩ := hfields hmode
    rw [hsigned, hannounced]
  | true =>
    obtain ⟨⟨hosted, scope, lifetime, hhosted, rfl⟩, hsigned⟩ := hquery hmode
    rw [hsigned, hhosted]
    rfl

/-- Signing puts parameters behind those of the request, and each of them has a name. -/
theorem query_of_sign (h : signer.sign now request identity mode = .ok s) :
    ∃ added, s.request.query = request.query ++ added ∧ ∀ param ∈ added, param.name ≠ "" := by
  obtain ⟨announced, -, hfields, hquery⟩ := exists_announced h
  cases hmode : mode.isQuery with
  | false =>
    obtain ⟨hannounced, value, hsigned⟩ := hfields hmode
    refine ⟨[], ?_, by simp⟩
    rw [hsigned, hannounced, List.append_nil]
  | true =>
    obtain ⟨⟨hosted, scope, lifetime, hhosted, rfl⟩, hsigned⟩ := hquery hmode
    refine ⟨Announcement.params hosted scope identity lifetime ++
      [⟨Vocabulary.signatureParam, s.signature⟩], ?_, ?_⟩
    · rw [hsigned, ← List.append_assoc, hhosted]
      rfl
    · intro param hparam
      simp only [Announcement.params, List.mem_append, List.mem_cons, List.mem_map,
        List.not_mem_nil, or_false] at hparam
      rcases hparam with (((rfl | rfl | rfl | rfl | rfl) | ⟨names, -, rfl⟩) | ⟨token, -, rfl⟩) | rfl
      all_goals
        dsimp only
        decide

/-- A signature that goes into the fields leaves the URI alone. -/
theorem uri_of_sign (h : signer.sign now request identity mode = .ok s)
    (hmode : mode.isQuery = false) : s.request.uri = request.uri := by
  obtain ⟨announced, -, hfields, -⟩ := exists_announced h
  obtain ⟨hannounced, value, hsigned⟩ := hfields hmode
  rw [hsigned, hannounced]
  rfl

/-! ### The canonical form -/

/-- **What arrives has the canonical form that was signed**, if method, parameters and
fields arrive as they were sent, and a path with the same canonical form. -/
theorem ofRequest_of_received (h : signer.sign now request identity mode = .ok s)
    {received : Request} (hmethod : received.method = s.request.method)
    (hpath : CanonicalPath.ofPath signer.config.doubleEncode signer.config.normalizePath
        received.path =
      CanonicalPath.ofPath signer.config.doubleEncode signer.config.normalizePath s.request.path)
    (hquery : received.query = s.request.query) (hfields : received.fields = s.request.fields) :
    CanonicalRequest.ofRequest (received.withoutSignature mode) signer.config
      s.canonical.payloadHash = .ok s.canonical := by
  obtain ⟨announced, hcanonical, hinFields, hinQuery⟩ := exists_announced h
  rw [← hcanonical, Request.withoutSignature]
  cases hmode : mode.isQuery with
  | false =>
    -- The signature is in a field that is not signed, so no line shows it.
    obtain ⟨-, value, hsigned⟩ := hinFields hmode
    rw [hsigned] at hmethod hpath hquery hfields
    rw [if_neg Bool.false_ne_true]
    refine CanonicalRequest.ofRequest_congr ?_ ?_ ?_ ?_ _
    · exact hmethod
    · exact hpath
    · exact hquery
    · rw [hfields]
      exact CanonicalFields.lines_insert (by decide) _ _
  | true =>
    -- The signature is the last parameter, and that one is taken away.
    obtain ⟨-, hsigned⟩ := hinQuery hmode
    rw [hsigned] at hmethod hpath hquery hfields
    rw [if_pos rfl]
    refine CanonicalRequest.ofRequest_congr ?_ ?_ ?_ ?_ _
    · exact hmethod
    · exact hpath
    · exact (congrArg List.dropLast hquery).trans List.dropLast_concat
    · exact congrArg CanonicalFields.lines hfields

/-! ### A request that can be signed -/

/-- A value of one letter. -/
def sampleValue : Http.FieldValue := ⟨[0x61], false, rfl⟩

/-- A request that holds something in the place of the signature. -/
def sample : Request where
  method := .get
  scheme := .http
  authority := CanonicalRequest.sampleAuthority
  path := ""
  query := [⟨"a", "1"⟩, ⟨"b", ""⟩]
  fields := Http.Fields.empty.append Vocabulary.authorization sampleValue
  body := .empty

/-- A signer for one region. -/
def sampleSigner : RequestSigner := make "service" (.single "region")

/-- Someone to sign. -/
def sampleIdentity : Identity := .symmetric { accessKeyId := "id", secretAccessKey := "secret" }

/-- A signature in the query, for a minute. -/
def sampleMode : Mode := .query ⟨60, 0, by decide⟩

theorem signable_sample {mode : Mode} (h : mode = .fields ∨ mode = sampleMode) :
    Signable sampleSigner .epoch sample sampleIdentity mode := by
  rcases h with rfl | rfl
  · exact ⟨_, rfl, ⟨_, rfl⟩, _, rfl, _, rfl, by decide, by decide⟩
  · exact ⟨_, rfl, ⟨_, rfl⟩, _, rfl, _, rfl, by decide, by decide⟩

/-! ### A signed request -/

/-- **A signed request has the canonical form that was signed**, whatever the request had
in the place of the signature; and the signature is the last parameter, if it is one. -/
theorem ofRequest_withoutSignature (h : signer.sign now request identity mode = .ok s) :
    (mode.isQuery = true →
        s.request.query.getLast? = some ⟨Vocabulary.signatureParam, s.signature⟩) ∧
      CanonicalRequest.ofRequest (s.request.withoutSignature mode) signer.config
        s.canonical.payloadHash = .ok s.canonical := by
  refine ⟨fun hquery => ?_, ofRequest_of_received h rfl rfl rfl rfl⟩
  obtain ⟨announced, -, -, hinQuery⟩ := exists_announced h
  rw [(hinQuery hquery).2]
  exact List.getLast?_concat

/-- Both places for the signature, for a request that holds something in one of them. -/
theorem ofRequest_sample_withoutSignature :
    (∃ s, sampleSigner.sign .epoch sample sampleIdentity .fields = .ok s ∧
      CanonicalRequest.ofRequest (s.request.withoutSignature .fields) sampleSigner.config
        s.canonical.payloadHash = .ok s.canonical) ∧
    ∃ s, sampleSigner.sign .epoch sample sampleIdentity sampleMode = .ok s ∧
      s.request.query.getLast? = some ⟨Vocabulary.signatureParam, s.signature⟩ ∧
      CanonicalRequest.ofRequest (s.request.withoutSignature sampleMode) sampleSigner.config
        s.canonical.payloadHash = .ok s.canonical := by
  obtain ⟨s, hs⟩ := exists_sign (signable_sample (Or.inl rfl))
  obtain ⟨s', hs'⟩ := exists_sign (signable_sample (Or.inr rfl))
  obtain ⟨hlast, hcanonical⟩ := ofRequest_withoutSignature hs'
  exact ⟨⟨s, hs, (ofRequest_withoutSignature hs).2⟩, s', hs', hlast rfl, hcanonical⟩

end RequestSigner

end SigV4
