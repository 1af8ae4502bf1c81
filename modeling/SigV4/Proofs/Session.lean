import SigV4.Proofs.Request.RoundTrip
import SigV4.Proofs.Signer.Reread
import SigV4.Session

/-!
# What a session sends is what was signed

A session signs a list of parameters and sends a URI, and whoever receives the head signs
a list of parameters again. So the signature is only good if writing the head and reading
it back does not show in the canonical form
(`SigV4.Session.ofRequest_of_sent`). Three things have to meet for that:

* the head that is sent is read back as the request that was signed, but for its path,
  where nothing has become a slash (`SigV4.Request.ofHead_of_uri`);
* nothing and a slash have the same canonical form
  (`SigV4.CanonicalPath.ofPath_of_sent`);
* the signature is not seen (`SigV4.RequestSigner.ofRequest_of_received`).

The first of them needs that no parameter is empty altogether, which has to be asked of
the parameters of the request only, since those that signing puts behind them have names.
-/

namespace SigV4

theorem CanonicalPath.ofPath_of_sent (doubleEncode normalizePath : Bool) (path : String) :
    ofPath doubleEncode normalizePath (if path = "" then "/" else path) =
      ofPath doubleEncode normalizePath path := by
  split
  · next h =>
    subst h
    rfl
  · rfl

namespace Session

variable {wall : Instant} {head sent : Http.Head} {body : Body} {mode : Mode}

/-- **What has been done when a head is signed**, or sent without a signature: there was an
identity, or none, and the head was taken apart, signed, and put together. -/
theorem sign_eq_ok_iff_exists {K : Type} [Perishable K] {session : Session K} {cache : Cache K} :
    (session.sign wall head body mode cache).1 = .ok sent ↔
      ∃ identity request signed, (session.identity wall cache).1 = .ok identity ∧
        Request.ofHead head body = .ok request ∧
        session.procedure.sign session.clock wall request identity mode = .ok signed ∧
        signed.head = .ok sent := by
  -- What is remembered of the identity has no part in the answer.
  have hsign : (session.sign wall head body mode cache).1 =
      (session.identity wall cache).1 >>= session.signHead wall head body mode := by
    unfold sign
    split
    · next hfound =>
      rw [hfound]
      rfl
    · next hfound =>
      rw [hfound]
      rfl
  simp only [hsign, signHead, Outcome.bind_eq_ok_iff]
  constructor
  · rintro ⟨identity, hidentity, request, hrequest, signed, hsigned, hhead⟩
    exact ⟨identity, request, signed, hidentity, hrequest, hsigned, hhead⟩
  · rintro ⟨identity, request, signed, hidentity, hrequest, hsigned, hhead⟩
    exact ⟨identity, hidentity, request, hrequest, signed, hsigned, hhead⟩

variable {signer : RequestSigner} {clock : Clock} {provider : Provider Identity}
  {identity : Identity} {cache : Cache Identity}

/-- What has been done when a head is signed with an identity by a signer of requests. -/
theorem sign_eq_ok_iff
    (hidentity : ((signer.session clock provider).identity wall cache).1 = .ok (some identity)) :
    ((signer.session clock provider).sign wall head body mode cache).1 = .ok sent ↔
      ∃ request s, Request.ofHead head body = .ok request ∧
        signer.sign (clock.now wall) request identity mode = .ok s ∧
        s.request.head = .ok sent := by
  rw [sign_eq_ok_iff_exists]
  constructor
  · rintro ⟨found, request, signed, hfound, hrequest, hsigned, hhead⟩
    obtain rfl := Except.ok.inj (hidentity.symm.trans hfound)
    obtain ⟨s, hs, rfl⟩ := Outcome.map_eq_ok_iff.mp hsigned
    exact ⟨request, s, hrequest, hs, hhead⟩
  · rintro ⟨request, s, hrequest, hs, hhead⟩
    exact ⟨some identity, request, s.request, hidentity, hrequest,
      Outcome.map_eq_ok_iff.mpr ⟨s, hs, rfl⟩, hhead⟩

theorem query_of_ofHead {request : Request} (h : Request.ofHead head body = .ok request) :
    request.query = (head.uri.target.query.map Form.decode).getD [] := by
  obtain ⟨authority, -, rfl⟩ := Request.ofHead_eq_ok_iff.mp h
  rfl

/-- A signed request that is put together is read back, with a slash for an empty path. -/
theorem ofHead_of_head {request : Request} {s : Signed} {now : Instant}
    (hrequest : Request.ofHead head body = .ok request)
    (hparams : (⟨"", ""⟩ : Param) ∉ request.query)
    (hs : signer.sign now request identity mode = .ok s) (hhead : s.request.head = .ok sent)
    (body' : Body) :
    Request.ofHead sent body' = .ok { s.request with
      body := body'
      path := if s.request.path = "" then "/" else s.request.path } := by
  obtain ⟨uri, huri, rfl⟩ := Outcome.map_eq_ok_iff.mp hhead
  have hpath : Http.isPath s.request.path.toList = true := by
    rw [RequestSigner.path_of_sign hs]
    exact Request.isPath_of_ofHead hrequest
  have hkept : ∀ p ∈ s.request.query, decide (p ≠ ⟨"", ""⟩) = true := by
    intro p hp
    obtain ⟨added, hquery, hnamed⟩ := RequestSigner.query_of_sign hs
    rw [hquery, List.mem_append] at hp
    rcases hp with hp | hp
    · exact decide_eq_true (ne_of_mem_of_not_mem hp hparams)
    · exact decide_eq_true fun he => hnamed p hp (congrArg Param.name he)
  rw [Request.ofHead_of_uri hpath huri, List.filter_eq_self.mpr hkept]

/-! ### A head that can be signed -/

/-- A head whose query can be spelled in other ways. -/
def sampleHead : Http.Head where
  method := .get
  uri :=
    { scheme := none
      authority := some CanonicalRequest.sampleAuthority
      target := { Http.Target.empty with
        query := some "a=1+2&b"
        isQueryChar_query := by decide } }
  fields := .empty

/-- The request of that head. -/
def sampleRequest : Request where
  method := .get
  scheme := .http
  authority := CanonicalRequest.sampleAuthority
  path := "/"
  query := [⟨"a", "1 2"⟩, ⟨"b", ""⟩]
  fields := .empty
  body := .empty

/-- A session of someone who can always sign. -/
def sampleSession : Session Identity :=
  RequestSigner.sampleSigner.session (.fixed .epoch) (.constant RequestSigner.sampleIdentity)

theorem query_sampleHead :
    (sampleHead.uri.target.query.map Form.decode).getD [] = sampleRequest.query := by
  decide +kernel

theorem exists_sent_sample :
    ∃ sent, (sampleSession.sign .epoch sampleHead .empty .fields .empty).1 = .ok sent := by
  have hrequest : Request.ofHead sampleHead .empty = .ok sampleRequest := by
    rw [Request.ofHead, query_sampleHead]
    rfl
  obtain ⟨s, hs⟩ : ∃ s, RequestSigner.sampleSigner.sign .epoch sampleRequest
      RequestSigner.sampleIdentity .fields = .ok s :=
    RequestSigner.exists_sign ⟨_, rfl, ⟨_, rfl⟩, _, rfl, _, rfl, by decide, by decide⟩
  obtain ⟨uri, huri⟩ : ∃ uri, sampleRequest.uri = .ok uri := ⟨_, rfl⟩
  rw [← RequestSigner.uri_of_sign hs rfl] at huri
  refine ⟨⟨s.request.method, uri, s.request.fields⟩, (sign_eq_ok_iff rfl).mpr
    ⟨sampleRequest, s, hrequest, hs, ?_⟩⟩
  exact Outcome.map_eq_ok_iff.mpr ⟨uri, huri, rfl⟩

/-! ### What is sent -/

/-- **What a session of a signer sends has the canonical form that was signed**, when it is read by
whoever receives it, provided that no parameter of the request is empty altogether. -/
theorem ofRequest_of_sent
    (hidentity : ((signer.session clock provider).identity wall cache).1 = .ok (some identity))
    (h : ((signer.session clock provider).sign wall head body mode cache).1 = .ok sent)
    (hparams : (⟨"", ""⟩ : Param) ∉ (head.uri.target.query.map Form.decode).getD [])
    (body' : Body) :
    ∃ request s received, Request.ofHead head body = .ok request ∧
      signer.sign (clock.now wall) request identity mode = .ok s ∧
      s.request.head = .ok sent ∧ Request.ofHead sent body' = .ok received ∧
      CanonicalRequest.ofRequest (received.withoutSignature mode) signer.config
        s.canonical.payloadHash = .ok s.canonical := by
  obtain ⟨request, s, hrequest, hs, hhead⟩ := (sign_eq_ok_iff hidentity).mp h
  rw [← query_of_ofHead hrequest] at hparams
  have hreceived := ofHead_of_head hrequest hparams hs hhead body'
  have hpath := CanonicalPath.ofPath_of_sent signer.config.doubleEncode
    signer.config.normalizePath s.request.path
  exact ⟨request, s, _, hrequest, hs, hhead, hreceived,
    RequestSigner.ofRequest_of_received hs rfl hpath rfl rfl⟩

/-- The space in a parameter is written in one way, read, and written in another. -/
theorem ofRequest_of_sent_sample :
    ∃ sent, (sampleSession.sign .epoch sampleHead .empty .fields .empty).1 = .ok sent ∧
      ∃ request s received, Request.ofHead sampleHead .empty = .ok request ∧
        RequestSigner.sampleSigner.sign .epoch request RequestSigner.sampleIdentity .fields =
          .ok s ∧
        s.request.head = .ok sent ∧ Request.ofHead sent .empty = .ok received ∧
        CanonicalRequest.ofRequest (received.withoutSignature .fields)
          RequestSigner.sampleSigner.config s.canonical.payloadHash = .ok s.canonical := by
  obtain ⟨sent, hsent⟩ := exists_sent_sample
  have hparams : (⟨"", ""⟩ : Param) ∉
      (sampleHead.uri.target.query.map Form.decode).getD [] := by
    rw [query_sampleHead]
    decide
  exact ⟨sent, hsent, ofRequest_of_sent rfl hsent hparams .empty⟩

end Session

end SigV4
