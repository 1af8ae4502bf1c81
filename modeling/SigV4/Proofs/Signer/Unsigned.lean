import SigV4.Proofs.Signer.Agreement
import SigV4.Proofs.Upload.Length

/-!
# What a signature does not see

Between the one who signs a request and the one who checks the signature there are proxies,
and what a proxy may do to a request must not show in its signature. It may put the fields and
the parameters into another order, and it may do what it likes with the fields that are not
signed: add them, take them away, or give them values that are no text.

So two requests are to be signed alike if they are the same where they are signed
(`SigV4.Request.SameWhereSigned`), and they are, to the point that they fail alike
(`SigV4.RequestSigner.sign_of_sameWhereSigned`). Each step takes two such requests to two
such requests. The steps that look at fields are the ones that could go wrong, and there are
four of them:

* the host is named unless it is there;
* the chunks are put in front of the codings that are there;
* a link names the fields that are signed;
* the canonical request shows them, and fails if one of them is no text.

The last two make the same list of names, in two different ways.

A mark on a value, that it is to be kept out of logs, is not a part of what is sent. So values
are compared by their octets.
-/

namespace SigV4

open Http

/-- **Whether two requests are the same where they are signed**: up to the order of the
parameters, the order of the names of the fields, and the fields that are not signed. -/
structure Request.SameWhereSigned (r r' : Request) : Prop where
  /-- The method is the same. -/
  method : r.method = r'.method
  /-- The scheme is the same. -/
  scheme : r.scheme = r'.scheme
  /-- The authority is the same. -/
  authority : r.authority = r'.authority
  /-- The path is the same. -/
  path : r.path = r'.path
  /-- The parameters are the same, in any order. -/
  query : r.query.Perm r'.query
  /-- The values of each signed name are the same. -/
  values : ∀ name, Vocabulary.isSigned name = true →
    (r.fields.values name).map (·.octets) = (r'.fields.values name).map (·.octets)
  /-- What is known about the body is the same. -/
  body : r.body = r'.body

theorem Announcement.codings_congr {first first' : Option FieldValue}
    (h : first.map (·.octets) = first'.map (·.octets)) : codings first = codings first' := by
  cases first with
  | none =>
    rw [Option.map_eq_none_iff.mp h.symm]
  | some value =>
    obtain ⟨value', rfl, hoctets⟩ := Option.map_eq_some_iff.mp h.symm
    rw [codings, codings, FieldValue.text, FieldValue.text, hoctets]

namespace Request.SameWhereSigned

variable {r r' : Request}

/-! ### Looking at fields -/

theorem contains_eq (h : r.SameWhereSigned r') {name : FieldName}
    (hname : Vocabulary.isSigned name = true) :
    r.fields.contains name = r'.fields.contains name :=
  (CanonicalFields.joined_congr (h.values name hname)).1

theorem codingsOf (h : r.SameWhereSigned r') :
    Announcement.codingsOf r.fields = Announcement.codingsOf r'.fields := by
  refine Announcement.codings_congr ?_
  rw [Fields.get?, Fields.get?, ← List.head?_map, ← List.head?_map, h.values _ (by decide)]

theorem signedNamesText_eq (h : r.SameWhereSigned r') :
    CanonicalFields.signedNamesText r.fields = CanonicalFields.signedNamesText r'.fields := by
  rw [CanonicalFields.signedNamesText, CanonicalFields.signedNamesText,
    CanonicalFields.signedNames_congr fun name hname => h.contains_eq hname]

theorem ofRequest_eq (h : r.SameWhereSigned r') (config : Config) (payloadHash : String) :
    CanonicalRequest.ofRequest r config payloadHash =
      CanonicalRequest.ofRequest r' config payloadHash := by
  rw [CanonicalRequest.ofRequest, CanonicalRequest.ofRequest, h.method, h.path,
    CanonicalQuery.ofParams_eq_iff_perm.mpr h.query, CanonicalFields.lines_congr_octets h.values]

/-! ### Announcing -/

/-- A field that is set in both is the same in both. -/
theorem insert (h : r.SameWhereSigned r') (name : FieldName) (value : FieldValue) :
    SameWhereSigned { r with fields := r.fields.insert name value }
      { r' with fields := r'.fields.insert name value } where
  __ := h
  values other hother := by
    rw [Fields.values_insert, Fields.values_insert]
    split
    · rfl
    · exact h.values other hother

theorem follows : Announcement.Follows fun _ => SameWhereSigned :=
  ⟨fun h _ => h, fun h name value => h.insert name value, fun h => h.codingsOf⟩

theorem setField (h : r.SameWhereSigned r') (name : FieldName) (text : String)
    (sensitive : Bool) :
    Outcome.Same SameWhereSigned (Announcement.setField r name text sensitive)
      (Announcement.setField r' name text sensitive) :=
  @Announcement.Follows.setField _ ∅ r r' follows h name text sensitive

theorem withHost (h : r.SameWhereSigned r') :
    Outcome.Same SameWhereSigned (Announcement.withHost r) (Announcement.withHost r') := by
  rw [Announcement.withHost, Announcement.withHost, h.contains_eq (by decide), h.authority]
  split
  · exact .ok h
  · exact h.setField _ _ _

theorem inFields (h : r.SameWhereSigned r') (config : Config) (scope : Scope)
    (identity : Identity) (payload : Payload) :
    Outcome.Same SameWhereSigned (Announcement.inFields r config scope identity payload)
      (Announcement.inFields r' config scope identity payload) :=
  @Announcement.Follows.inFields _ ∅ r r' follows h config scope identity payload

/-- Parameters that are put behind those of both make no difference. -/
theorem append (h : r.SameWhereSigned r') (params : List Param) :
    SameWhereSigned { r with query := r.query ++ params }
      { r' with query := r'.query ++ params } where
  __ := h
  query := h.query.append_right params

theorem inQuery (h : r.SameWhereSigned r') (scope : Scope) (identity : Identity)
    (lifetime : Nat) :
    (Announcement.inQuery r scope identity lifetime).SameWhereSigned
      (Announcement.inQuery r' scope identity lifetime) := by
  have hparams : Announcement.params r scope identity lifetime =
      Announcement.params r' scope identity lifetime := by
    rw [Announcement.params, Announcement.params, h.signedNamesText_eq]
  rw [Announcement.inQuery, Announcement.inQuery, hparams]
  exact h.append _

end Request.SameWhereSigned

/-- **Whether two signed requests have the same signature**: of the same canonical form, with
the same signer of chunks, and with requests that are the same where they are signed. -/
structure Signed.SameSignature (s s' : Signed) : Prop where
  /-- The canonical forms are the same. -/
  canonical : s.canonical = s'.canonical
  /-- The signatures are the same. -/
  signature : s.signature = s'.signature
  /-- The signers of chunks are the same. -/
  chunkSigner : s.chunkSigner = s'.chunkSigner
  /-- The requests are the same where they are signed. -/
  request : s.request.SameWhereSigned s'.request

namespace RequestSigner

variable {signer : RequestSigner} {now : Instant} {request request' : Request}
  {identity : Identity} {mode : Mode}

/-! ### The steps -/

theorem plan_of_sameWhereSigned (h : request.SameWhereSigned request') :
    signer.plan now request identity mode = signer.plan now request' identity mode := by
  rw [RequestSigner.plan, RequestSigner.plan, Payload.resolve, Payload.resolve, h.body, h.scheme]

theorem announce_of_sameWhereSigned (h : request.SameWhereSigned request') (plan : Plan)
    (identity : Identity) :
    Outcome.Same Request.SameWhereSigned (signer.announce plan request identity)
      (signer.announce plan request' identity) := by
  refine h.withHost.bind fun hosted hosted' hhosted => ?_
  split
  · exact hhosted.inFields _ _ _ _
  · exact .ok (hhosted.inQuery _ _ _)

theorem attach_of_sameWhereSigned (h : request.SameWhereSigned request') (plan : Plan)
    (identity : Identity) (canonical : CanonicalRequest) (signature : String) :
    Outcome.Same Request.SameWhereSigned (attach plan request identity canonical signature)
      (attach plan request' identity canonical signature) := by
  rw [attach, attach]
  split
  · exact h.setField _ _ _
  · exact .ok (h.append _)

/-! ### A request on its way -/

/-- The field that names the program of whoever sends a request. -/
def userAgent : FieldName := ⟨"user-agent", by decide⟩

/-- A request with a body in chunks, as it is sent. Its sender is named in no text. -/
def posted : Request where
  __ := sampleUpload
  query := [⟨"a", "1"⟩, ⟨"b", ""⟩]
  fields := ((Fields.empty.append userAgent ⟨[0xE4], false, rfl⟩).append
    Vocabulary.contentEncoding ⟨[0x62, 0x72], false, rfl⟩).append
      Vocabulary.contentLength ⟨[0x33], false, rfl⟩

/-- The request as it arrives, in another order and with someone's signature. -/
def relayed : Request where
  __ := sampleUpload
  query := [⟨"b", ""⟩, ⟨"a", "1"⟩]
  fields := ((Fields.empty.append Vocabulary.contentLength ⟨[0x33], false, rfl⟩).append
    Vocabulary.authorization sampleValue.asSensitive).append
      Vocabulary.contentEncoding ⟨[0x62, 0x72], true, rfl⟩

theorem sameWhereSigned_relayed : posted.SameWhereSigned relayed where
  method := rfl
  scheme := rfl
  authority := rfl
  path := rfl
  query := List.Perm.swap _ _ _
  values name hname := by
    have hagent : userAgent ≠ name := by
      rintro rfl
      exact absurd hname (by decide)
    have hauthorization : Vocabulary.authorization ≠ name := by
      rintro rfl
      exact absurd hname (by decide)
    simp only [posted, relayed, Fields.values_append, Fields.values_empty, if_neg hagent,
      if_neg hauthorization, List.nil_append, List.append_nil]
    by_cases hcoding : Vocabulary.contentEncoding = name
    · subst hcoding
      rfl
    · rw [if_neg hcoding, if_neg hcoding, List.nil_append, List.append_nil]
  body := rfl

/-! ### Signing -/

/-- **A signature does not see** the order of the parameters, the order of the names of the
fields, or the fields that are not signed: two requests that differ in nothing else are signed
with the same signature, of the same canonical form and with the same signer of chunks, or they
fail with the same error. -/
theorem sign_of_sameWhereSigned (h : request.SameWhereSigned request') :
    Outcome.Same Signed.SameSignature (signer.sign now request identity mode)
      (signer.sign now request' identity mode) := by
  rw [sign, sign, plan_of_sameWhereSigned h]
  refine .common _ fun plan _ => ?_
  refine (announce_of_sameWhereSigned h plan identity).bind fun announced announced' hsame => ?_
  rw [hsame.ofRequest_eq]
  refine .common _ fun canonical _ => .common _ fun signature _ => ?_
  refine (attach_of_sameWhereSigned hsame plan identity canonical signature).bind ?_
  exact fun signed signed' hsigned => .ok ⟨rfl, rfl, rfl, hsigned⟩

/-- A request has the same signature when it is sent and when it arrives. -/
theorem sign_of_sameWhereSigned_relayed :
    posted.SameWhereSigned relayed ∧
      ∃ s s', sampleChunked.sign .epoch posted sampleIdentity .fields = .ok s ∧
        sampleChunked.sign .epoch relayed sampleIdentity .fields = .ok s' ∧
        s.SameSignature s' := by
  obtain ⟨s, hs⟩ : ∃ s, sampleChunked.sign .epoch posted sampleIdentity .fields = .ok s :=
    exists_sign ⟨_, rfl, ⟨_, rfl⟩, _, rfl, _, rfl, by decide, by decide⟩
  have hsame : Outcome.Same Signed.SameSignature
      (sampleChunked.sign .epoch posted sampleIdentity .fields)
      (sampleChunked.sign .epoch relayed sampleIdentity .fields) :=
    sign_of_sameWhereSigned sameWhereSigned_relayed
  obtain ⟨s', hs', h⟩ := hsame.exists_of_eq_ok hs
  exact ⟨sameWhereSigned_relayed, s, s', hs, hs', h⟩

end RequestSigner

end SigV4
