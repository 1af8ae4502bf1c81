import SigV4.Proofs.Session

/-!
# What becomes of a query that nothing is added to

A session takes the query of a head apart and writes it again, also where it has nothing to
add: when the signature goes into the fields, or when there is no identity to sign with. The
other spelling does not matter as long as it stands for the same octets
(`SigV4.Http.Uri.paramOctets`).

Authority and path come through whatever they hold, and the octets of a path are kept even
where they are no text. A query is kept as texts in between. Octets that are no text are
replaced when they are read, and it is the replacement that is written
(`SigV4.Octets.replaced`). A parameter that is empty altogether is not written at all. This is
everything that can happen to a query (`SigV4.Session.paramOctets_of_sent`), and it happens
without an error: a name with the octet `FF` is sent as a name with the octets `EF BF BD`, and
it is this name that is signed.
-/

namespace SigV4

/-! ### Octets that are no text -/

namespace Octets

/-- **Whether octets are UTF-8.** -/
def IsUtf8 (bs : Octets) : Prop :=
  ∃ s, ofText s = bs

/-- Octets that were read as a text and written again. -/
def replaced (bs : Octets) : Octets :=
  ofText (Unicode.decodeText bs)

/-- **Octets come through unchanged** exactly if they are UTF-8. -/
theorem replaced_eq_self_iff {bs : Octets} : replaced bs = bs ↔ IsUtf8 bs := by
  constructor
  · exact fun h => ⟨_, h⟩
  · rintro ⟨s, rfl⟩
    rw [replaced, Unicode.decodeText_ofText]

instance (bs : Octets) : Decidable (IsUtf8 bs) :=
  decidable_of_iff _ replaced_eq_self_iff

end Octets

/-- Only nothing is read as nothing. -/
theorem Unicode.decodeText_eq_empty_iff {bs : Octets} : decodeText bs = "" ↔ bs = [] := by
  constructor
  · intro h
    have hnil : decode bs = [] := String.ofList_injective (h.trans String.ofList_nil.symm)
    cases bs with
    | nil => rfl
    | cons b bs =>
      rw [decode] at hnil
      split at hnil <;> cases hnil
  · rintro rfl
    rw [decodeText, decode, String.ofList_nil]

/-! ### Parameters as octets -/

namespace Form

/-- A parameter read as texts and written again. -/
def replacedParam (pair : Octets × Octets) : Octets × Octets :=
  (pair.1.replaced, pair.2.replaced)

theorem readParam_eq_empty_iff {pair : Octets × Octets} :
    readParam pair = ⟨"", ""⟩ ↔ pair = ([], []) := by
  rw [readParam, Param.mk.injEq, Unicode.decodeText_eq_empty_iff, Unicode.decodeText_eq_empty_iff,
    ← Prod.mk.injEq]

/-- What is left of parameters that are read and written. -/
theorem filter_map_readParam (pairs : List (Octets × Octets)) :
    ((pairs.map readParam).filter (· ≠ ⟨"", ""⟩)).map paramOctets =
      (pairs.filter (· ≠ ([], []))).map replacedParam := by
  have hfilter : (pairs.filter ((fun p : Param => decide (p ≠ ⟨"", ""⟩)) ∘ readParam)) =
      pairs.filter (· ≠ ([], [])) :=
    List.filter_congr fun pair _ => decide_eq_decide.mpr (not_congr readParam_eq_empty_iff)
  rw [List.filter_map, hfilter, List.map_map]
  rfl

end Form

/-- **The octets of the parameters** of a URI. -/
def Http.Uri.paramOctets (uri : Http.Uri) : List (Octets × Octets) :=
  (uri.target.query.map fun query => Form.decodeOctets query.toList).getD []

theorem Session.query_eq_map {head : Http.Head} {body : Body} {request : Request}
    (h : Request.ofHead head body = .ok request) :
    request.query = head.uri.paramOctets.map Form.readParam := by
  rw [query_of_ofHead h, Http.Uri.paramOctets]
  cases head.uri.target.query <;> rfl

/-- The octets of the parameters that are written into a URI. -/
theorem Request.paramOctets_of_uri {r : Request} {uri : Http.Uri}
    (hpath : Http.isPath r.path.toList = true) (h : r.uri = .ok uri) :
    uri.paramOctets = (r.query.filter (· ≠ ⟨"", ""⟩)).map Form.paramOctets := by
  obtain ⟨-, -, -, hquery⟩ := target_of_uri hpath h
  rw [Http.Uri.paramOctets, hquery]
  split
  · next hnil => rw [hnil]; rfl
  · exact Form.decodeOctets_encode r.query

/-- **What is written of the parameters that were read**: those that are not empty altogether,
with replacement of what is no text. So nothing changes exactly if all names and values are
UTF-8, and none is empty together with its value. -/
theorem Form.map_replacedParam_eq_self_iff {pairs : List (Octets × Octets)} :
    (pairs.filter (· ≠ ([], []))).map replacedParam = pairs ↔
      ∀ pair ∈ pairs, pair ≠ ([], []) ∧ pair.1.IsUtf8 ∧ pair.2.IsUtf8 := by
  have hpair : ∀ pair : Octets × Octets,
      replacedParam pair = pair ↔ pair.1.IsUtf8 ∧ pair.2.IsUtf8 := by
    intro pair
    rw [← Octets.replaced_eq_self_iff, ← Octets.replaced_eq_self_iff]
    exact Prod.ext_iff
  have hmap : pairs.map replacedParam = pairs ↔ ∀ pair ∈ pairs, replacedParam pair = pair := by
    simpa using List.map_eq_map_iff (f := replacedParam) (g := id) (l := pairs)
  constructor
  · intro h
    -- Nothing may be left out, or the length would be another one.
    have hall : pairs.filter (· ≠ ([], [])) = pairs := by
      refine List.filter_sublist.eq_of_length ?_
      rw [← List.length_map replacedParam, h]
    rw [hall, hmap] at h
    intro pair hmem
    exact ⟨of_decide_eq_true (List.filter_eq_self.mp hall pair hmem),
      (hpair pair).mp (h pair hmem)⟩
  · intro h
    have hall : pairs.filter (· ≠ ([], [])) = pairs :=
      List.filter_eq_self.mpr fun pair hmem => decide_eq_true (h pair hmem).1
    rw [hall, hmap]
    exact fun pair hmem => (hpair pair).mpr (h pair hmem).2

/-! ### What is sent -/

/-- Where nothing is added to the query the URI stays as it is. -/
theorem RequestSigner.uri_of_signWith {signer : RequestSigner} {now : Instant}
    {request signed : Request} {identity : Option Identity} {mode : Mode}
    (h : signer.signWith now request identity mode = .ok signed)
    (hmode : mode.isQuery = false ∨ identity = none) : signed.uri = request.uri := by
  cases identity with
  | none =>
    obtain rfl := Except.ok.inj h
    rfl
  | some identity =>
    obtain ⟨s, hs, rfl⟩ := Outcome.map_eq_ok_iff.mp h
    exact uri_of_sign hs (hmode.resolve_right (Option.some_ne_none _))

namespace Session

variable {signer : RequestSigner} {clock : Clock} {provider : Provider Identity}
  {wall : Instant} {head sent : Http.Head} {body : Body} {mode : Mode} {cache : Cache Identity}

/-- The URI that is sent is that of the request, if nothing is added to the query. -/
theorem exists_uri_of_sign
    (hquery : mode.isQuery = false ∨
      ((signer.session clock provider).identity wall cache).1 = .ok none)
    (h : ((signer.session clock provider).sign wall head body mode cache).1 = .ok sent) :
    ∃ request, Request.ofHead head body = .ok request ∧ request.uri = .ok sent.uri := by
  obtain ⟨identity, request, signed, hidentity, hrequest, hsigned, hhead⟩ :=
    sign_eq_ok_iff_exists.mp h
  obtain ⟨uri, huri, rfl⟩ := Outcome.map_eq_ok_iff.mp hhead
  have hmode : mode.isQuery = false ∨ identity = none :=
    hquery.imp_right fun hnone => Except.ok.inj (hidentity.symm.trans hnone)
  rw [RequestSigner.uri_of_signWith hsigned hmode] at huri
  exact ⟨request, hrequest, huri⟩

/-- **What is sent of a query that nothing is added to**: its parameters in their order, but
for those that are empty altogether, and with replacement of what is no text. So a head that
is sent stands for the resource it stood for, with the same authority, the same path and the
same octets in the same parameters, exactly if all its parameters are UTF-8 and none is empty
altogether. -/
theorem paramOctets_of_sent
    (hquery : mode.isQuery = false ∨
      ((signer.session clock provider).identity wall cache).1 = .ok none)
    (h : ((signer.session clock provider).sign wall head body mode cache).1 = .ok sent) :
    sent.uri.authority = head.uri.authority ∧
      sent.uri.path = (if head.uri.path = "" then "/" else head.uri.path) ∧
      sent.uri.paramOctets =
        (head.uri.paramOctets.filter (· ≠ ([], []))).map Form.replacedParam ∧
      (sent.uri.paramOctets = head.uri.paramOctets ↔
        ∀ pair ∈ head.uri.paramOctets, pair ≠ ([], []) ∧ pair.1.IsUtf8 ∧ pair.2.IsUtf8) := by
  obtain ⟨request, hrequest, huri⟩ := exists_uri_of_sign hquery h
  have hisPath := Request.isPath_of_ofHead hrequest
  have hoctets : sent.uri.paramOctets =
      (head.uri.paramOctets.filter (· ≠ ([], []))).map Form.replacedParam := by
    rw [Request.paramOctets_of_uri hisPath huri, query_eq_map hrequest, Form.filter_map_readParam]
  obtain ⟨-, hauthority, -, -⟩ := Request.target_of_uri hisPath huri
  have hpath := Request.path_of_uri hisPath huri
  obtain ⟨authority, hhead, rfl⟩ := Request.ofHead_eq_ok_iff.mp hrequest
  refine ⟨hauthority.trans hhead.symm, hpath, hoctets, ?_⟩
  rw [hoctets, Form.map_replacedParam_eq_self_iff]

/-- A plus sign and a missing equals sign are written in another way, and stand for the same
octets. -/
theorem paramOctets_of_sent_sample :
    ∃ sent, (sampleSession.sign .epoch sampleHead .empty .fields .empty).1 = .ok sent ∧
      sent.uri.path = "/" ∧ sent.uri.paramOctets = sampleHead.uri.paramOctets := by
  obtain ⟨sent, hsent⟩ := exists_sent_sample
  obtain ⟨-, hpath, -, hoctets⟩ := paramOctets_of_sent (Or.inl rfl) hsent
  exact ⟨sent, hsent, hpath, hoctets.mpr (by decide +kernel)⟩

/-- A session of someone who has no identity. -/
def guestSession : Session Identity :=
  RequestSigner.sampleSigner.session (.fixed .epoch) ⟨fun _ => .ok none⟩

/-- A head with a parameter whose name is no text. -/
def strayHead : Http.Head where
  __ := sampleHead
  uri :=
    { Request.bareHead.uri with
      target :=
        { Request.bareHead.uri.target with
          query := some "%FF"
          isQueryChar_query := by decide } }

/-- The request of that head. -/
def strayRequest : Request where
  __ := sampleRequest
  query := [⟨"\uFFFD", ""⟩]

/-- **Another parameter is sent** than the one that was there, and nobody is told. -/
theorem paramOctets_ne_of_sent :
    (∀ pair ∈ strayHead.uri.paramOctets, pair ≠ ([], [])) ∧
      ∃ sent, (guestSession.sign .epoch strayHead .empty .fields .empty).1 = .ok sent ∧
        sent.uri.paramOctets ≠ strayHead.uri.paramOctets := by
  have hread : (strayHead.uri.target.query.map Form.decode).getD [] = strayRequest.query := by
    decide +kernel
  have hrequest : Request.ofHead strayHead .empty = .ok strayRequest := by
    rw [Request.ofHead, hread]
    rfl
  obtain ⟨uri, huri⟩ : ∃ uri, strayRequest.uri = .ok uri := ⟨_, rfl⟩
  have hsent : (guestSession.sign .epoch strayHead .empty .fields .empty).1 =
      .ok ⟨strayRequest.method, uri, strayRequest.fields⟩ :=
    sign_eq_ok_iff_exists.mpr ⟨none, strayRequest, strayRequest, rfl, hrequest, rfl,
      Outcome.map_eq_ok_iff.mpr ⟨uri, huri, rfl⟩⟩
  refine ⟨by decide +kernel, _, hsent, ?_⟩
  rw [Request.paramOctets_of_uri (Request.isPath_of_ofHead hrequest) huri]
  decide +kernel

end Session

end SigV4
