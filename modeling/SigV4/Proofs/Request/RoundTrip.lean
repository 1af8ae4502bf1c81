import SigV4.Proofs.Canonical.Text
import SigV4.Proofs.Form.RoundTrip
import SigV4.Proofs.Http.Target
import SigV4.Request

/-!
# A request that is sent is the request that arrives

A request is signed as a list of parameters and is sent as a URI. Whoever receives it
takes the URI apart again, and this file shows what they find: the scheme, the authority,
the path and the list of parameters (`SigV4.Request.ofHead_of_uri`). The path has to be
one that a URI can have. An empty path arrives as `/`.

## What does not arrive

A parameter with neither a name nor a value can be read, from a lone `=`, and it is signed
as one. Written again it is nothing at all, so it is missing from what arrives, whose
canonical query is then another one (`SigV4.Request.query_of_received`). The writer leaves
out the `=` of a value that is empty, and here alone it would have been needed.
-/

namespace SigV4

/-- The path of a URI is one, or nothing. -/
theorem Http.Uri.isPath_path (uri : Http.Uri) : Http.isPath uri.path.toList = true := by
  unfold Http.Uri.path
  split
  · split <;> decide
  · exact uri.target.isPath_path

namespace Request

theorem toList_targetText (r : Request) :
    r.targetText.toList =
      Http.Target.chars (if r.path = "" then "/" else r.path).toList
        (if r.query = [] then none else some (Form.encode r.query).toList) := by
  unfold targetText
  dsimp only
  by_cases hq : r.query = []
  · rw [if_pos hq, if_pos hq]
    rfl
  · rw [if_neg hq, if_neg hq, String.toList_append, String.toList_append, List.append_assoc]
    rfl

/-- A head can be taken apart if it has an authority. -/
theorem ofHead_eq_ok_iff {head : Http.Head} {body : Body} {r : Request} :
    ofHead head body = .ok r ↔
      ∃ authority, head.uri.authority = some authority ∧
        r =
          { method := head.method
            scheme := head.uri.scheme.getD .http
            authority
            path := head.uri.path
            query := (head.uri.target.query.map Form.decode).getD []
            fields := head.fields
            body } := by
  unfold ofHead
  cases head.uri.authority with
  | none => exact iff_of_false nofun nofun
  | some authority => simp [eq_comm]

/-- The path of a request that was taken apart is one, or nothing. -/
theorem isPath_of_ofHead {head : Http.Head} {body : Body} {r : Request}
    (h : ofHead head body = .ok r) : Http.isPath r.path.toList = true := by
  obtain ⟨authority, -, rfl⟩ := ofHead_eq_ok_iff.mp h
  exact head.uri.isPath_path

/-- What the URI of a request holds. -/
theorem target_of_uri {r : Request} {uri : Http.Uri} (hpath : Http.isPath r.path.toList = true)
    (h : r.uri = .ok uri) :
    uri.scheme = some r.scheme ∧ uri.authority = some r.authority ∧
      uri.target.path = (if r.path = "" then "/" else r.path) ∧
      uri.target.query = if r.query = [] then none else some (Form.encode r.query) := by
  unfold Request.uri at h
  split at h
  · cases h
  · next target htarget =>
    obtain rfl := Except.ok.inj h
    have hslash : Http.isPath (if r.path = "" then "/" else r.path).toList = true := by
      split
      · decide
      · exact hpath
    have hne : (if r.path = "" then "/" else r.path).toList ≠ [] := by
      split
      · decide
      · next hp => exact fun he => hp (String.toList_eq_nil_iff.mp he)
    -- Behind a `#` the reader does not look.
    have hhash : ∀ cs ∈ (if r.query = [] then none else some (Form.encode r.query).toList),
        '#' ∉ cs := by
      intro cs hcs
      split at hcs
      · cases hcs
      · obtain rfl := Option.some.inj hcs
        exact Form.not_mem_encode (by decide) (by decide) (by decide) (by decide) _
    rw [Http.Target.ofText, toList_targetText] at htarget
    obtain ⟨htpath, htquery⟩ := Http.Target.eq_of_ofChars hslash hne hhash htarget
    refine ⟨rfl, rfl, htpath.trans String.ofList_toList, htquery.trans ?_⟩
    split
    · rfl
    · exact congrArg some String.ofList_toList

/-- The path of the URI of a request. -/
theorem path_of_uri {r : Request} {uri : Http.Uri} (hpath : Http.isPath r.path.toList = true)
    (h : r.uri = .ok uri) : uri.path = if r.path = "" then "/" else r.path := by
  obtain ⟨-, -, htpath, -⟩ := target_of_uri hpath h
  rw [Http.Uri.path, htpath, if_neg]
  split
  · decide
  · assumption

/-- **A request that is sent is the request that arrives**: taking apart a head with the
URI of a request gives the same scheme, authority, path and parameters, but for the
parameters that are empty altogether. -/
theorem ofHead_of_uri {r : Request} {uri : Http.Uri} (hpath : Http.isPath r.path.toList = true)
    (h : r.uri = .ok uri) (method : Http.Method) (fields : Http.Fields) (body : Body) :
    ofHead ⟨method, uri, fields⟩ body =
      .ok { r with
        method, fields, body
        path := if r.path = "" then "/" else r.path
        query := r.query.filter (· ≠ ⟨"", ""⟩) } := by
  obtain ⟨hscheme, hauthority, -, htquery⟩ := target_of_uri hpath h
  have hquery' : (uri.target.query.map Form.decode).getD [] =
      r.query.filter (· ≠ ⟨"", ""⟩) := by
    rw [htquery]
    split
    · next hnil => rw [hnil]; rfl
    · exact Form.decode_encode r.query
  unfold ofHead
  simp only [hscheme, hauthority, path_of_uri hpath h, hquery', Option.getD_some]

/-! ### What does not arrive -/

/-- Without the parameters that are empty altogether, a list is the same up to order only if
there are none. -/
theorem perm_filter_iff {params : List Param} :
    (params.filter (· ≠ ⟨"", ""⟩)).Perm params ↔ (⟨"", ""⟩ : Param) ∉ params := by
  constructor
  · intro hperm hmem
    exact of_decide_eq_true (List.mem_filter.mp (hperm.mem_iff.mpr hmem)).2 rfl
  · intro hnot
    rw [List.filter_eq_self.mpr fun p hp => decide_eq_true (ne_of_mem_of_not_mem hp hnot)]

/-- **What arrives of a request**: the scheme, the authority and the path that it was sent
with, and its parameters in their order, but for those that are empty altogether. So what
arrives has the parameters and the canonical query that were signed exactly if there were
none of these. -/
theorem query_of_received {origin uri : Http.Uri} {r : Request} (hpath : r.path = origin.path)
    (h : r.uri = .ok uri) (method : Http.Method) (fields : Http.Fields) (body : Body) :
    ∃ received, ofHead ⟨method, uri, fields⟩ body = .ok received ∧
      received.scheme = r.scheme ∧ received.authority = r.authority ∧
      received.path = (if r.path = "" then "/" else r.path) ∧
      received.query = r.query.filter (· ≠ ⟨"", ""⟩) ∧
      (received.query = r.query ↔ (⟨"", ""⟩ : Param) ∉ r.query) ∧
      (CanonicalQuery.ofParams received.query = CanonicalQuery.ofParams r.query ↔
        (⟨"", ""⟩ : Param) ∉ r.query) := by
  have hofHead := ofHead_of_uri (hpath ▸ origin.isPath_path) h method fields body
  refine ⟨_, hofHead, rfl, rfl, rfl, rfl, ?_, ?_⟩
  · rw [← perm_filter_iff]
    constructor
    · exact List.Perm.of_eq
    · intro hperm
      exact List.filter_sublist.eq_of_length hperm.length_eq
  · rw [CanonicalQuery.ofParams_eq_iff_perm, perm_filter_iff]

/-- A head whose query is a lone `=`. -/
def bareHead : Http.Head where
  method := .get
  uri :=
    { scheme := some .http
      authority := some CanonicalRequest.sampleAuthority
      target := ⟨"/", some "=", by decide, by decide⟩ }
  fields := .empty

/-- The request of that head, whose one parameter is empty altogether. -/
def bare : Request where
  method := .get
  scheme := .http
  authority := CanonicalRequest.sampleAuthority
  path := "/"
  query := [⟨"", ""⟩]
  fields := .empty
  body := .empty

/-- That request with parameters around the empty one that lack a value or a name. -/
def crowded : Request where
  __ := bare
  query := [⟨"a", "1 2"⟩, ⟨"", ""⟩, ⟨"b", ""⟩, ⟨"", "&="⟩]

/-- The parameters around the empty one arrive. -/
theorem query_of_received_crowded :
    crowded.path = bareHead.uri.path ∧ ∃ uri, crowded.uri = .ok uri ∧
      ∃ received, ofHead ⟨.get, uri, .empty⟩ .empty = .ok received ∧
        received.scheme = crowded.scheme ∧ received.authority = crowded.authority ∧
        received.path = (if crowded.path = "" then "/" else crowded.path) ∧
        received.query = crowded.query.filter (· ≠ ⟨"", ""⟩) ∧
        (received.query = crowded.query ↔ (⟨"", ""⟩ : Param) ∉ crowded.query) ∧
        (CanonicalQuery.ofParams received.query = CanonicalQuery.ofParams crowded.query ↔
          (⟨"", ""⟩ : Param) ∉ crowded.query) := by
  have hpath : crowded.path = bareHead.uri.path := rfl
  obtain ⟨uri, huri⟩ : ∃ uri, crowded.uri = .ok uri := ⟨_, rfl⟩
  exact ⟨hpath, uri, huri, query_of_received hpath huri .get .empty .empty⟩

/-- **The empty parameter is lost**: a head can be read, and written again, and what arrives
then has not the parameter that was signed. -/
theorem query_ne_of_received_bare :
    ofHead bareHead .empty = .ok bare ∧ ∃ uri, bare.uri = .ok uri ∧
      ∃ received, ofHead ⟨.get, uri, .empty⟩ .empty = .ok received ∧
        received.query ≠ bare.query ∧
        CanonicalQuery.ofParams received.query ≠ CanonicalQuery.ofParams bare.query := by
  have hread : (bareHead.uri.target.query.map Form.decode).getD [] = bare.query := by
    decide +kernel
  have hbare : ofHead bareHead .empty = .ok bare := by
    rw [ofHead, hread]
    rfl
  obtain ⟨uri, huri⟩ : ∃ uri, bare.uri = .ok uri := ⟨_, rfl⟩
  refine ⟨hbare, uri, huri, _, ofHead_of_uri (by decide) huri .get .empty .empty, ?_, ?_⟩ <;>
    decide +kernel

end Request

end SigV4
