import Mathlib.Data.List.DropRight
import SigV4.Proofs.Signer.SignedNames

/-!
# Which host is signed

A request that does not name its host has it named by the signer, and what is named is the
authority of the request. An authority is more than a host: in front of its last `@` there may be
user information (`SigV4.Http.Authority.userInfo?`), a name and a password, which no client sends
along with the host. The signer does not take it off
(`SigV4.RequestSigner.host_of_sign`).

This has two consequences. A password that stands there goes into a field, into the canonical
form and into what is signed, and the field is not marked as one to be kept secret. And two
requests to the same host and port that differ in their user information are signed differently,
without exception: the canonical form shows all of the authority, since none of it is blank.
-/

namespace SigV4

open Http

/-! ### The pieces of an authority -/

namespace Http.Authority

/-- **The host and the port**: what stands behind the last `@`. -/
def hostPort (authority : Authority) : String :=
  String.ofList (authority.text.toList.rtakeWhile (· != '@'))

/-- **The user information**: what stands in front of the last `@`, if there is one. -/
def userInfo? (authority : Authority) : Option String :=
  if '@' ∈ authority.text.toList then
    some (String.ofList (authority.text.toList.rdropWhile (· != '@')).dropLast)
  else none

variable {authority authority' : Authority}

theorem at_not_mem_hostPort (authority : Authority) : '@' ∉ authority.hostPort.toList := by
  rw [hostPort, String.toList_ofList]
  exact fun hmem => absurd (List.mem_rtakeWhile_imp hmem) (by decide)

/-- An authority without user information is host and port. -/
theorem text_eq_of_userInfo?_eq_none (h : authority.userInfo? = none) :
    authority.text = authority.hostPort := by
  unfold userInfo? at h
  split at h
  · cases h
  · next hat =>
    have hall : ∀ c ∈ authority.text.toList, (c != '@') = true := by
      intro c hc
      rw [bne_iff_ne]
      rintro rfl
      exact hat hc
    rw [hostPort, List.rtakeWhile_eq_self_iff.mpr hall, String.ofList_toList]

/-- An authority with user information has it in front of host and port, and an `@` between. -/
theorem text_eq_of_userInfo?_eq_some {userInfo : String}
    (h : authority.userInfo? = some userInfo) :
    authority.text = userInfo ++ "@" ++ authority.hostPort := by
  unfold userInfo? at h
  split at h
  · next hat =>
    obtain rfl := Option.some.inj h
    have hne : authority.text.toList.rdropWhile (· != '@') ≠ [] := by
      rw [Ne, List.rdropWhile_eq_nil_iff]
      exact fun hall => absurd (hall _ hat) (by decide)
    have hlast : (authority.text.toList.rdropWhile (· != '@')).getLast hne = '@' := by
      simpa using List.rdropWhile_last_not (· != '@') authority.text.toList hne
    have hfront := List.dropLast_append_getLast hne
    rw [hlast] at hfront
    have hchars := List.rdropWhile_append_rtakeWhile
      (p := (· != '@')) (l := authority.text.toList)
    rw [← hfront] at hchars
    refine String.toList_injective ?_
    simp only [String.toList_append, hostPort, String.toList_ofList]
    exact hchars.symm
  · cases h

theorem text_eq_hostPort_iff : authority.text = authority.hostPort ↔ authority.userInfo? = none := by
  refine ⟨fun h => ?_, text_eq_of_userInfo?_eq_none⟩
  rw [userInfo?, if_neg (h ▸ authority.at_not_mem_hostPort)]

/-- **The pieces make the authority.** -/
theorem text_eq_iff : authority.text = authority'.text ↔
    authority.userInfo? = authority'.userInfo? ∧ authority.hostPort = authority'.hostPort := by
  constructor
  · intro h
    rw [userInfo?, userInfo?, hostPort, hostPort, h]
    exact ⟨rfl, rfl⟩
  · rintro ⟨huser, hhost⟩
    cases hinfo : authority.userInfo? with
    | none =>
      rw [text_eq_of_userInfo?_eq_none hinfo, hhost,
        ← text_eq_of_userInfo?_eq_none (huser ▸ hinfo)]
    | some userInfo =>
      rw [text_eq_of_userInfo?_eq_some hinfo, hhost,
        ← text_eq_of_userInfo?_eq_some (huser ▸ hinfo)]

theorem text_injective : Function.Injective text := by
  rintro ⟨text, hcheck, hne⟩ ⟨text', hcheck', hne'⟩ h
  obtain rfl : text = text' := h
  rfl

theorem isBlank_of_mem (authority : Authority) :
    ∀ c ∈ authority.text.toList, Blank.isBlank c = false := by
  intro c hc
  have hchar := authority.isAuthorityChar_of_mem_text c hc
  have htable : Blank.table.all (!isAuthorityChar ·) = true := by decide
  rw [Blank.isBlank, Bool.eq_false_iff, Ne, List.contains_iff_mem]
  intro hmem
  have hnot := List.all_eq_true.mp htable c hmem
  rw [hchar] at hnot
  cases hnot

end Http.Authority

/-- The request to another authority. -/
def Request.withAuthority (request : Request) (authority : Authority) : Request :=
  { request with authority }

/-! ### The line of the host -/

/-- Where nothing is blank, there is nothing to squeeze. -/
theorem CanonicalFields.squeeze_eq_self {cs : List Char} (hne : cs ≠ [])
    (h : ∀ c ∈ cs, Blank.isBlank c = false) : squeeze cs = cs := by
  rw [squeeze, words, List.splitOnP_eq_singleton h, List.filter_cons_of_pos (by simpa using hne)]
  exact List.intercalate_singleton

namespace RequestSigner

variable {signer : RequestSigner} {now : Instant} {request : Request} {identity : Identity}
  {mode : Mode} {s : Signed}

/-- **The host that is named** by the signer: all of the authority, in the open. -/
theorem exists_value_host (hunnamed : request.fields.contains Vocabulary.host = false)
    (h : signer.sign now request identity mode = .ok s) :
    ∃ value, s.request.fields.values Vocabulary.host = [value] ∧
      FieldValue.ofText request.authority.text = .ok value := by
  obtain ⟨hosted, hhost, hvalues⟩ := exists_withHost h
  rw [Announcement.withHost, hunnamed] at hhost
  obtain ⟨value, hvalue, rfl⟩ := Announcement.setField_eq_ok_iff.mp hhost
  refine ⟨value, ?_, hvalue⟩
  rw [hvalues, Fields.values_insert, if_pos rfl]
  rfl

/-- **The line of that host** shows all of the authority. -/
theorem joined_host (hunnamed : request.fields.contains Vocabulary.host = false)
    (h : signer.sign now request identity mode = .ok s) :
    CanonicalFields.joined s.request.fields Vocabulary.host = request.authority.text.toList := by
  obtain ⟨value, hvalues, hvalue⟩ := exists_value_host hunnamed h
  have htext := FieldValue.text_of_ofText request.authority.isVisible_text hvalue
  rw [CanonicalFields.joined, hvalues, List.map_singleton, List.intercalate_singleton,
    CanonicalFields.shown_of_text htext,
    CanonicalFields.squeeze_eq_self request.authority.text_ne_nil request.authority.isBlank_of_mem]

/-! ### Two authorities -/

variable {authority : Authority} {s' : Signed}

/-- **What is signed shows the authority**: the canonical forms of a request with two authorities
are the same only if the authorities are, and the fields are. -/
theorem authority_eq_of_sign (hunnamed : request.fields.contains Vocabulary.host = false)
    (h : signer.sign now request identity mode = .ok s)
    (h' : signer.sign now (request.withAuthority authority) identity mode = .ok s')
    (heq : s'.canonical = s.canonical ∨ s'.request.fields = s.request.fields) :
    authority = request.authority := by
  have hunnamed' : (request.withAuthority authority).fields.contains Vocabulary.host = false :=
    hunnamed
  have hjoined : CanonicalFields.joined s'.request.fields Vocabulary.host =
      CanonicalFields.joined s.request.fields Vocabulary.host := by
    rcases heq with hcanonical | hfields
    · have hlines := (lines_of_sign h').1
      rw [hcanonical] at hlines
      exact (CanonicalFields.of_mem_lines hlines (lines_of_sign h).1 (by decide)
        (contains_host_of_sign h')).2
    · rw [hfields]
  rw [joined_host hunnamed h, joined_host hunnamed' h'] at hjoined
  exact Authority.text_injective (String.toList_injective hjoined)

/-- **The host that is signed** for a request that does not name one is the whole authority, with
its user information, in a field that is not marked as one to be kept secret and in a line of the
canonical form. It is the host with its port exactly if there is no user information. A request
to the same host and port with other user information is signed differently: the signed request,
the text that is signed, and the fields are the same exactly if the user information is. -/
theorem host_of_sign (hunnamed : request.fields.contains Vocabulary.host = false)
    (h : signer.sign now request identity mode = .ok s) :
    (∃ value, s.request.fields.values Vocabulary.host = [value] ∧ value.sensitive = false ∧
      value.octets = Octets.ofText request.authority.text) ∧
    (Vocabulary.host.text, request.authority.text) ∈ s.canonical.fields ∧
    (request.authority.text = request.authority.hostPort ↔ request.authority.userInfo? = none) ∧
    (∀ userInfo, request.authority.userInfo? = some userInfo →
      request.authority.text = userInfo ++ "@" ++ request.authority.hostPort) ∧
    ∀ (authority : Authority) (s' : Signed),
      signer.sign now (request.withAuthority authority) identity mode = .ok s' →
      authority.hostPort = request.authority.hostPort →
      (s' = s ↔ authority.userInfo? = request.authority.userInfo?) ∧
      (s'.canonical.text = s.canonical.text ↔
        authority.userInfo? = request.authority.userInfo?) ∧
      (s'.request.fields = s.request.fields ↔
        authority.userInfo? = request.authority.userInfo?) := by
  refine ⟨?_, ?_, Authority.text_eq_hostPort_iff,
    fun _ => Authority.text_eq_of_userInfo?_eq_some, ?_⟩
  · obtain ⟨value, hvalues, hvalue⟩ := exists_value_host hunnamed h
    obtain ⟨hoctets, hsensitive⟩ := FieldValue.ofText_eq_ok_iff.mp hvalue
    exact ⟨value, hvalues, hsensitive, hoctets⟩
  · have hline := (CanonicalFields.mem_lines_iff (lines_of_sign h).1).mpr
      ⟨Vocabulary.host, by decide, contains_host_of_sign h, rfl⟩
    rwa [CanonicalFields.lineOf, joined_host hunnamed h, String.ofList_toList] at hline
  · intro authority s' h' hhost
    have hsame : authority.userInfo? = request.authority.userInfo? → s' = s := by
      intro huser
      have htext : authority.text = request.authority.text :=
        Authority.text_eq_iff.mpr ⟨huser, hhost⟩
      obtain rfl := Authority.text_injective htext
      exact Except.ok.inj (h'.symm.trans h)
    have huser : s'.canonical = s.canonical ∨ s'.request.fields = s.request.fields →
        authority.userInfo? = request.authority.userInfo? :=
      fun heq => congrArg _ (authority_eq_of_sign hunnamed h h' heq)
    refine ⟨⟨fun heq => huser (Or.inl (congrArg _ heq)), hsame⟩,
      ⟨fun heq => huser (Or.inl ?_), fun hu => by rw [hsame hu]⟩,
      ⟨fun heq => huser (Or.inr heq), fun hu => by rw [hsame hu]⟩⟩
    exact CanonicalRequest.text_inj (legible_of_sign h') (legible_of_sign h) heq

/-- The authority of a sample with a name and a password in front of it. -/
def sampleGuarded : Authority := ⟨"user:pass@example.com", rfl, by decide⟩

theorem exists_sign_sampleGuarded : ∃ s, sampleSigner.sign .epoch
    (sample.withAuthority sampleGuarded) sampleIdentity .fields = .ok s :=
  exists_sign ⟨_, rfl, ⟨_, rfl⟩, _, rfl, _, rfl, by decide, by decide⟩

/-- A password is in the field of the host, and in its line. -/
theorem host_of_sign_sampleGuarded :
    ∃ s value, sampleSigner.sign .epoch (sample.withAuthority sampleGuarded) sampleIdentity
        .fields = .ok s ∧
      s.request.fields.values Vocabulary.host = [value] ∧ value.sensitive = false ∧
      value.octets = Octets.ofText "user:pass@example.com" ∧
      ("host", "user:pass@example.com") ∈ s.canonical.fields := by
  obtain ⟨s, hs⟩ := exists_sign_sampleGuarded
  obtain ⟨⟨value, hvalues, hsensitive, hoctets⟩, hline, -⟩ := host_of_sign (by decide) hs
  exact ⟨s, value, hs, hvalues, hsensitive, hoctets, hline⟩

/-- **The same request with a password and without one** goes to the same host, and is not signed
in the same way. -/
theorem host_ne_of_sign :
    ∃ s s', sampleSigner.sign .epoch sample sampleIdentity .fields = .ok s ∧
      sampleSigner.sign .epoch (sample.withAuthority sampleGuarded) sampleIdentity .fields =
        .ok s' ∧
      sample.fields.contains Vocabulary.host = false ∧
      sampleGuarded.userInfo? = some "user:pass" ∧ sample.authority.userInfo? = none ∧
      sampleGuarded.hostPort = sample.authority.hostPort ∧
      ¬s'.canonical.text = s.canonical.text ∧ ¬s'.request.fields = s.request.fields := by
  obtain ⟨s, hs⟩ := exists_sign (signable_sample (Or.inl rfl))
  obtain ⟨s', hs'⟩ := exists_sign_sampleGuarded
  have hne : ¬(s'.canonical = s.canonical ∨ s'.request.fields = s.request.fields) :=
    fun heq => absurd (authority_eq_of_sign (by decide) hs hs' heq) (by decide)
  refine ⟨s, s', hs, hs', by decide, by decide +kernel, by decide +kernel, by decide +kernel,
    fun htext => hne (Or.inl ?_), fun hfields => hne (Or.inr hfields)⟩
  exact CanonicalRequest.text_inj (legible_of_sign hs') (legible_of_sign hs) htext

end RequestSigner

end SigV4
