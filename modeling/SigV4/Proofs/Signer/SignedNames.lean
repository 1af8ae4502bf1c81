import SigV4.Proofs.Canonical.Listing
import SigV4.Proofs.Signer.Again
import SigV4.Proofs.Signer.Kept

/-!
# Which names a signature lists

Whoever checks a signature is told which fields are signed, and looks at these and no others.
So the list that is told has to be the list that was signed, and it has to be complete: a
field that is missing in it could be changed on the way.

| signature | where the list is told | which list it is |
|---|---|---|
| in the query | a parameter, written before there are lines | the names alone, sorted |
| in the fields | a part of the field of the signature | the names of the lines |

Both are the list of the signed fields of the request as it comes out
(`SigV4.RequestSigner.listing_of_sign`). This could fail in two ways. Fields may be written
after the list was made; but what comes behind the lines is the signature alone, in a field
that is not signed. And what is told might be read in another way than it was meant, as a key
id may hold commas, even a whole list of names. So the field of the signature is read from its
end (`SigV4.Announcement.signedList?`), where there is nothing that anyone has chosen: a
signature is hexadecimal text, and a name holds no comma.
-/

namespace SigV4

open Http

/-! ### Reading the field of a signature -/

/-- **The list of names in the field of a signature**: the last of its parts but one, behind a
label. -/
def Announcement.signedList? (value : FieldValue) : Option String :=
  match ((Unicode.decodeText value.octets).toList.splitOn ',').reverse with
  | _ :: part :: _ => (" SignedHeaders=".toList.isPrefixOf? part).map String.ofList
  | _ => none

/-- The last two parts of a text between separators. -/
theorem Joined.reverse_splitOn_append {α : Type} [BEq α] [LawfulBEq α] {sep : α}
    {first last : List α} (front : List α) (hfirst : sep ∉ first) (hlast : sep ∉ last) :
    ∃ rest, ((front ++ sep :: first ++ sep :: last).splitOn sep).reverse =
      last :: first :: rest := by
  have hend : (first ++ sep :: last).splitOn sep = [first, last] := by
    rw [List.splitOn_append_cons_self_of_not_mem hfirst, List.splitOn_eq_singleton hlast]
  refine ⟨(front.splitOn sep).reverse, ?_⟩
  rw [List.append_assoc, List.cons_append, List.splitOn_append_cons_self, hend,
    List.reverse_append]
  rfl

namespace RequestSigner

variable {signer : RequestSigner} {now : Instant} {request : Request} {identity : Identity}
  {mode : Mode} {s : Signed}

/-- **The list of names is read back** from the field of a signature, whatever the key id is. -/
theorem signedList?_of_authorization {scope : Scope} {canonical : CanonicalRequest}
    {signature : Octets} {value : FieldValue}
    (hvalue : value.octets =
      Octets.ofText (authorization scope identity canonical (Hex.encode signature)))
    (hcomma : ',' ∉ canonical.signedFields.toList) :
    Announcement.signedList? value = some canonical.signedFields := by
  have hlast : ',' ∉ (" Signature=" ++ Hex.encode signature).toList := by
    rw [String.toList_append, List.mem_append]
    rintro (hlabel | hhex)
    · exact absurd hlabel (by decide)
    · obtain ⟨n, hn, heq⟩ := Hex.isHex_encode signature _ hhex
      exact absurd heq (by revert n; decide)
  have hfirst : ',' ∉ (" SignedHeaders=" ++ canonical.signedFields).toList := by
    rw [String.toList_append, List.mem_append]
    rintro (hlabel | hnames)
    · exact absurd hlabel (by decide)
    · exact hcomma hnames
  obtain ⟨rest, hparts⟩ := Joined.reverse_splitOn_append
    (scope.algorithm.text ++ " Credential=" ++ Announcement.credential scope identity).toList
    hfirst hlast
  have htext : (authorization scope identity canonical (Hex.encode signature)).toList =
      (scope.algorithm.text ++ " Credential=" ++
        Announcement.credential scope identity).toList ++
      ',' :: (" SignedHeaders=" ++ canonical.signedFields).toList ++
      ',' :: (" Signature=" ++ Hex.encode signature).toList := by
    simp [authorization]
  rw [Announcement.signedList?, hvalue, Unicode.decodeText_ofText, htext, hparts]
  simp [List.isPrefixOf?_eq_some_iff_append_eq]

/-- **The field of a signature** holds one value, from which the list of names is read back. -/
theorem exists_signedList? (h : signer.sign now request identity .fields = .ok s)
    (hcomma : ',' ∉ s.canonical.signedFields.toList) :
    ∃ value, s.request.fields.values Vocabulary.authorization = [value] ∧
      Announcement.signedList? value = some s.canonical.signedFields := by
  obtain ⟨plan, announced, hplan, -, -, hsignature, hattach, -⟩ := sign_eq_ok_iff.mp h
  obtain ⟨-, hlifetime, -, -⟩ := plan_eq_ok_iff.mp hplan
  rw [attach, Mode.lifetime_eq_none hlifetime rfl] at hattach
  obtain ⟨value, hvalues, hvalue⟩ :=
    List.map_eq_singleton_iff.mp (Announcement.values_setField hattach)
  obtain ⟨octets, hhex, -⟩ := SigningKey.exists_hex_of_sign hsignature
  rw [hhex] at hvalue
  exact ⟨value, hvalues, signedList?_of_authorization hvalue hcomma⟩

/-! ### The fields that are there -/

/-- **The time is in its field**, and nothing else is, when a signature has been announced in
fields. -/
theorem values_date_of_sign (h : signer.sign now request identity .fields = .ok s) :
    (s.request.fields.values Vocabulary.date).map (·.octets) = [Octets.ofText now.timestamp] := by
  obtain ⟨plan, hosted, announced, value, hplan, -, hinFields, hsigned, -, -⟩ := exists_hosted h
  obtain ⟨hscope, -, -, -⟩ := plan_eq_ok_iff.mp hplan
  obtain ⟨dated, placed, held, cut, hdate, hregion, htoken, hchunks, hdigest⟩ :=
    Announcement.inFields_eq_ok_iff.mp hinFields
  have hkept : s.request.fields.values Vocabulary.date = dated.fields.values Vocabulary.date := by
    have hcut : Vocabulary.date ∉ Announcement.chunkFields plan.payload :=
      fun hmem => absurd (Announcement.chunkFields_subset _ hmem) (by decide)
    rw [hsigned, Fields.values_insert, if_neg (by decide),
      Announcement.values_setOptional_of_ne hdigest (by decide),
      Announcement.values_withChunks_of_notMem hchunks hcut,
      Announcement.values_setOptional_of_ne htoken (by decide),
      Announcement.values_setOptional_of_ne hregion (by decide)]
  rw [hkept, Announcement.values_setField hdate, Scope.timestamp, Scope.time_of_make hscope]

theorem contains_date_of_sign (h : signer.sign now request identity .fields = .ok s) :
    s.request.fields.contains Vocabulary.date = true := by
  rw [CanonicalFields.contains_iff]
  intro hnil
  have hvalues := values_date_of_sign h
  rw [hnil] at hvalues
  cases hvalues

/-- **The host is named** in a signed request. -/
theorem contains_host_of_sign (h : signer.sign now request identity mode = .ok s) :
    s.request.fields.contains Vocabulary.host = true := by
  obtain ⟨hosted, hhost, hvalues⟩ := exists_withHost h
  have hcontains := Announcement.contains_withHost hhost
  rw [CanonicalFields.contains_iff] at hcontains ⊢
  rwa [hvalues]

/-! ### Both lists -/

/-- The lines that were signed are those of the request as it comes out, since the field of the
signature has none. -/
theorem lines_of_sign (h : signer.sign now request identity mode = .ok s) :
    CanonicalFields.lines s.request.fields = .ok s.canonical.fields ∧
      s.canonical.signedFields = ";".intercalate (s.canonical.fields.map (·.1)) := by
  have hreread := ofRequest_of_received h rfl rfl rfl rfl
  obtain ⟨hlines, -, -, -, hsigned, -⟩ := CanonicalRequest.ofRequest_eq_ok_iff.mp hreread
  have hfields : (s.request.withoutSignature mode).fields = s.request.fields := by
    rw [Request.withoutSignature]
    split <;> rfl
  rw [hfields] at hlines
  exact ⟨hlines, hsigned⟩

/-- The canonical form that is signed is the one that the steps before lead to. -/
theorem canonical_eq_of_sign (h : signer.sign now request identity mode = .ok s) {plan : Plan}
    {announced : Request} {canonical : CanonicalRequest}
    (hplan : signer.plan now request identity mode = .ok plan)
    (hannounce : signer.announce plan request identity = .ok announced)
    (hcanonical : CanonicalRequest.ofRequest announced signer.config
      (plan.payload.text plan.scope) = .ok canonical) : s.canonical = canonical := by
  obtain ⟨plan', announced', hplan', hannounce', hcanonical', -⟩ := sign_eq_ok_iff.mp h
  obtain rfl := Except.ok.inj (hplan.symm.trans hplan')
  obtain rfl := Except.ok.inj (hannounce.symm.trans hannounce')
  exact Except.ok.inj (hcanonical'.symm.trans hcanonical)

/-- A request with a field that has two values and another one between them, and with a field that
is not signed. -/
def scattered : Request where
  __ := sample
  fields := (((Fields.empty.append ⟨"x-b", by decide⟩ sampleValue).append
    ⟨"connection", by decide⟩ sampleValue).append ⟨"a", by decide⟩ sampleValue).append
      ⟨"x-b", by decide⟩ sampleValue

/-- **The list of names that is told is the list that was signed, and it is complete.** The names
of the signed lines are, in strict order of their octets, those names of the request as it comes
out that are signed, and the host is among them. What a link says of its signed fields is this
list, behind what the request said under that name; and what is read from the field of a
signature is this list, which holds the name of the field of the time as well. -/
theorem listing_of_sign (h : signer.sign now request identity mode = .ok s) :
    CanonicalFields.Listing s.request.fields (s.canonical.fields.map (·.1)) ∧
      CanonicalFields.lines s.request.fields = .ok s.canonical.fields ∧
      CanonicalFields.signedNames s.request.fields = s.canonical.fields.map (·.1) ∧
      CanonicalFields.readNames s.canonical.signedFields = s.canonical.fields.map (·.1) ∧
      Vocabulary.host.text ∈ s.canonical.fields.map (·.1) ∧
      (mode.isQuery = true →
        Param.valuesOf s.request.query Vocabulary.signedHeadersParam =
          Param.valuesOf request.query Vocabulary.signedHeadersParam ++
            [s.canonical.signedFields]) ∧
      (mode.isQuery = false →
        Vocabulary.date.text ∈ s.canonical.fields.map (·.1) ∧
          ∃ value, s.request.fields.values Vocabulary.authorization = [value] ∧
            Announcement.signedList? value = some s.canonical.signedFields) := by
  obtain ⟨hlines, htext⟩ := lines_of_sign h
  have hlisting := CanonicalFields.listing_lines hlines
  have hnames := CanonicalFields.signedNames_eq_of_lines hlines
  have hhost : Vocabulary.host.text ∈ s.canonical.fields.map (·.1) :=
    (hlisting.mem_iff _).mpr ⟨_, by decide, contains_host_of_sign h, rfl⟩
  refine ⟨hlisting, hlines, hnames, ?_, hhost, fun hmode => ?_, fun hmode => ?_⟩
  · rw [htext]
    exact hlisting.readNames_intercalate (List.ne_nil_of_mem hhost)
  · obtain ⟨scope, lifetime, -, -, hvalues⟩ := exists_valuesOf h hmode
    have hsigned := hvalues (Vocabulary.signedHeadersParam, some s.canonical.signedFields) (by
      rw [htext, ← hnames]
      simp [Terms.withSignature, Terms.entries, Terms.make, CanonicalFields.signedNamesText])
    exact hsigned
  · obtain rfl := Mode.eq_fields hmode
    refine ⟨(hlisting.mem_iff _).mpr ⟨_, by decide, contains_date_of_sign h, rfl⟩, ?_⟩
    refine exists_signedList? h ?_
    rw [htext]
    exact hlisting.not_mem_intercalate (by decide) (by decide)

/-- Fields in any order, in both places: the names that are told are sorted, and complete. -/
theorem listing_of_sign_scattered :
    (∃ s value, sampleSigner.sign .epoch scattered sampleIdentity .fields = .ok s ∧
      s.canonical.fields.map (·.1) = ["a", "host", "x-amz-date", "x-b"] ∧
      s.request.fields.values Vocabulary.authorization = [value] ∧
      Announcement.signedList? value = some "a;host;x-amz-date;x-b") ∧
    ∃ s, sampleSigner.sign .epoch scattered sampleIdentity sampleMode = .ok s ∧
      s.canonical.fields.map (·.1) = ["a", "host", "x-b"] ∧
      Param.valuesOf s.request.query Vocabulary.signedHeadersParam = ["a;host;x-b"] := by
  obtain ⟨s, hs⟩ : ∃ s, sampleSigner.sign .epoch scattered sampleIdentity .fields = .ok s :=
    exists_sign ⟨_, rfl, ⟨_, rfl⟩, _, rfl, _, rfl, by decide, by decide⟩
  obtain ⟨s', hs'⟩ : ∃ s, sampleSigner.sign .epoch scattered sampleIdentity sampleMode = .ok s :=
    exists_sign ⟨_, rfl, ⟨_, rfl⟩, _, rfl, _, rfl, by decide, by decide⟩
  have htext : s.canonical.signedFields = "a;host;x-amz-date;x-b" := by
    rw [canonical_eq_of_sign hs rfl rfl rfl]
    rfl
  have htext' : s'.canonical.signedFields = "a;host;x-b" := by
    rw [canonical_eq_of_sign hs' rfl rfl rfl]
    rfl
  obtain ⟨-, -, -, hnames, -, -, hfields⟩ := listing_of_sign hs
  obtain ⟨-, value, hvalues, hlist⟩ := hfields rfl
  obtain ⟨-, -, -, hnames', -, hquery, -⟩ := listing_of_sign hs'
  rw [htext] at hnames hlist
  rw [htext'] at hnames' hquery
  exact ⟨⟨s, value, hs, hnames.symm, hvalues, hlist⟩, s', hs', hnames'.symm, hquery rfl⟩

end RequestSigner

end SigV4
