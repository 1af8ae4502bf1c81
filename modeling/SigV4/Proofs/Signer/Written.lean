import SigV4.Proofs.Signer.Reread

/-!
# What a signature in the fields writes

A signature that goes into the fields is announced by setting fields, and which fields
these are is known before the first of them is set (`SigV4.Announcement.written`). A field
that is set holds what is announced in it and nothing else, whatever the request had under
its name; every other field keeps the values that the request had
(`SigV4.Announcement.values_inFields_of_notMem`). Both halves together are
`SigV4.Http.Fields.SetTo`, and session token, region set and digest are told in this way
(`SigV4.RequestSigner.setTo_of_sign`).

Nothing is ever taken away. So what a request brings along in these three fields is
replaced only if the signature has something to say in the same place. A request with
someone's session token that is signed by someone who has none is sent with that token, and
the signature covers it (`SigV4.RequestSigner.leftOver_of_sign`).
-/

namespace SigV4

/-- The names of a region set, where there is one. -/
def Region.names? : Region → Option String
  | .single _ => none
  | .set names => some names

namespace Http.Fields

/-- **Whether a field was set** to a text, if there is one to set it to. It holds the text and
nothing else then; without a text it holds what it held before. -/
def SetTo (before after : Fields) (name : FieldName) : Option String → Prop
  | some text => (after.values name).map (·.octets) = [Octets.ofText text]
  | none => after.values name = before.values name

/-- What happened to other fields makes no difference. -/
theorem SetTo.congr {before before' after after' : Fields} {name : FieldName}
    {text : Option String} (h : before.SetTo after name text)
    (hbefore : before.values name = before'.values name)
    (hafter : after'.values name = after.values name) : before'.SetTo after' name text := by
  cases text with
  | none => exact hafter.trans (h.trans hbefore)
  | some text => exact (congrArg _ hafter).trans h

end Http.Fields

namespace Announcement

open Http

variable {request request' : Request} {name : FieldName} {sensitive : Bool} {config : Config}
  {scope : Scope} {identity : Identity} {payload : Payload}

theorem regionSet_eq_names? (scope : Scope) : regionSet scope = scope.region.names? := by
  rw [regionSet]
  cases scope.region <;> rfl

/-! ### The fields that are set -/

/-- The name of a field that is set only if there is something to set it to. -/
def ifSome (name : FieldName) (text : Option String) : List FieldName :=
  if text.isSome then [name] else []

/-- The fields that announce chunks, if a body is signed in chunks. -/
def chunkFields : Payload → List FieldName
  | .chunked (some _) _ =>
    [Vocabulary.contentEncoding, Vocabulary.decodedContentLength, Vocabulary.contentLength]
  | .chunked none _ => [Vocabulary.contentEncoding]
  | _ => []

/-- What is said about the body in a field of its own, if it is. -/
def digest? (config : Config) (scope : Scope) (payload : Payload) : Option String :=
  if showsDigest config payload then some (payload.text scope) else none

/-- **The fields that announce a signature.** -/
def written (config : Config) (scope : Scope) (identity : Identity) (payload : Payload) :
    List FieldName :=
  Vocabulary.date :: (ifSome Vocabulary.regionSet (regionSet scope) ++
    (ifSome Vocabulary.securityToken identity.sessionToken ++
      (chunkFields payload ++ ifSome Vocabulary.contentSha256 (digest? config scope payload))))

theorem chunkFields_subset (payload : Payload) : chunkFields payload ⊆
    [Vocabulary.contentEncoding, Vocabulary.decodedContentLength, Vocabulary.contentLength] := by
  intro name hname
  unfold chunkFields at hname
  split at hname
  · exact hname
  · rw [List.mem_singleton.mp hname]
    exact List.mem_cons_self
  · cases hname

theorem mem_ifSome_iff {name other : FieldName} {text : Option String} :
    other ∈ ifSome name text ↔ text.isSome = true ∧ other = name := by
  cases text <;> simp [ifSome]

theorem isSome_digest? (config : Config) (scope : Scope) (payload : Payload) :
    (digest? config scope payload).isSome = showsDigest config payload := by
  rw [digest?]
  split
  · next h => exact h.symm
  · next h => exact (Bool.not_eq_true _ ▸ h).symm

/-- The fields that may be written at all. -/
theorem written_subset : written config scope identity payload ⊆
    [Vocabulary.date, Vocabulary.regionSet, Vocabulary.securityToken, Vocabulary.contentEncoding,
      Vocabulary.decodedContentLength, Vocabulary.contentLength, Vocabulary.contentSha256] := by
  intro name hname
  simp only [written, List.mem_cons, List.mem_append, mem_ifSome_iff] at hname
  rcases hname with rfl | ⟨-, rfl⟩ | ⟨-, rfl⟩ | hchunks | ⟨-, rfl⟩
  · decide
  · decide
  · decide
  · have hmem := chunkFields_subset payload hchunks
    simp only [List.mem_cons, List.not_mem_nil, or_false] at hmem ⊢
    tauto
  · decide

/-- The host is not named once more when a signature is announced. -/
theorem host_notMem_written : Vocabulary.host ∉ written config scope identity payload :=
  fun h => absurd (written_subset h) (by decide)

/-! ### The fields that keep their values -/

theorem values_setOptional_of_notMem {text : Option String}
    (h : setOptional request name text sensitive = .ok request') {other : FieldName}
    (hother : other ∉ ifSome name text) :
    request'.fields.values other = request.fields.values other := by
  cases text with
  | none =>
    obtain rfl := Except.ok.inj h
    rfl
  | some text => exact values_setField_of_ne h fun heq => hother (List.mem_singleton.mpr heq.symm)

theorem values_withChunks_of_notMem (h : withChunks request scope payload = .ok request')
    (hname : name ∉ chunkFields payload) :
    request'.fields.values name = request.fields.values name := by
  cases payload with
  | hashed digest =>
    obtain rfl := Except.ok.inj h
    rfl
  | unsigned =>
    obtain rfl := Except.ok.inj h
    rfl
  | chunked length chunkSize =>
    obtain ⟨codings, -, h⟩ := Outcome.bind_eq_ok_iff.mp h
    obtain ⟨coded, hcodings, hlengths⟩ := Outcome.bind_eq_ok_iff.mp h
    cases length with
    | none =>
      obtain rfl := Except.ok.inj hlengths
      exact values_setField_of_ne hcodings fun heq => hname (List.mem_singleton.mpr heq.symm)
    | some length =>
      obtain ⟨between, hdecoded, hlength⟩ := Outcome.bind_eq_ok_iff.mp hlengths
      simp only [chunkFields, List.mem_cons, List.not_mem_nil, or_false, not_or] at hname
      obtain ⟨hencoding, hdecodedName, hlengthName⟩ := hname
      rw [values_setField_of_ne hlength (Ne.symm hlengthName),
        values_setField_of_ne hdecoded (Ne.symm hdecodedName),
        values_setField_of_ne hcodings (Ne.symm hencoding)]

/-- **A field that announces nothing** keeps its values. -/
theorem values_inFields_of_notMem
    (h : inFields request config scope identity payload = .ok request')
    (hname : name ∉ written config scope identity payload) :
    request'.fields.values name = request.fields.values name := by
  obtain ⟨dated, placed, held, cut, hdate, hregion, htoken, hchunks, hdigest⟩ :=
    inFields_eq_ok_iff.mp h
  simp only [written, List.mem_cons, List.mem_append, not_or] at hname
  obtain ⟨hdateName, hregionName, htokenName, hchunkName, hdigestName⟩ := hname
  rw [values_setOptional_of_notMem hdigest hdigestName,
    values_withChunks_of_notMem hchunks hchunkName,
    values_setOptional_of_notMem htoken htokenName,
    values_setOptional_of_notMem hregion hregionName,
    values_setField_of_ne hdate (Ne.symm hdateName)]

theorem values_withHost_of_ne (h : withHost request = .ok request')
    (hname : Vocabulary.host ≠ name) :
    request'.fields.values name = request.fields.values name := by
  unfold withHost at h
  split at h
  · obtain rfl := Except.ok.inj h
    rfl
  · exact values_setField_of_ne h hname

/-! ### What the fields hold that are set -/

theorem setTo_setOptional {text : Option String}
    (h : setOptional request name text sensitive = .ok request') :
    request.fields.SetTo request'.fields name text := by
  cases text with
  | none =>
    obtain rfl := Except.ok.inj h
    exact rfl
  | some text => exact values_setField h

/-- **Token, region set and digest** are what is announced in their fields, if anything is. -/
theorem setTo_inFields (h : inFields request config scope identity payload = .ok request') :
    request.fields.SetTo request'.fields Vocabulary.securityToken identity.sessionToken ∧
      request.fields.SetTo request'.fields Vocabulary.regionSet (regionSet scope) ∧
      request.fields.SetTo request'.fields Vocabulary.contentSha256
        (digest? config scope payload) := by
  obtain ⟨dated, placed, held, cut, hdate, hregion, htoken, hchunks, hdigest⟩ :=
    inFields_eq_ok_iff.mp h
  have hcut : ∀ name, name ∉ [Vocabulary.contentEncoding, Vocabulary.decodedContentLength,
      Vocabulary.contentLength] → cut.fields.values name = held.fields.values name :=
    fun name hname => values_withChunks_of_notMem hchunks fun hmem =>
      hname (chunkFields_subset payload hmem)
  -- Each of the three is set once, and the steps before and behind set other fields.
  refine ⟨(setTo_setOptional htoken).congr ?_ ?_, (setTo_setOptional hregion).congr ?_ ?_,
    (setTo_setOptional hdigest).congr ?_ rfl⟩
  · rw [values_setOptional_of_ne hregion (by decide), values_setField_of_ne hdate (by decide)]
  · rw [values_setOptional_of_ne hdigest (by decide), hcut _ (by decide)]
  · rw [values_setField_of_ne hdate (by decide)]
  · rw [values_setOptional_of_ne hdigest (by decide), hcut _ (by decide),
      values_setOptional_of_ne htoken (by decide)]
  · rw [hcut _ (by decide), values_setOptional_of_ne htoken (by decide),
      values_setOptional_of_ne hregion (by decide), values_setField_of_ne hdate (by decide)]

end Announcement

namespace RequestSigner

variable {signer : RequestSigner} {now : Instant} {request : Request} {identity : Identity}
  {s : Signed}

/-! ### Signing -/

theorem isSome_chunkSigner? (plan : Plan) (signature : String) :
    (chunkSigner? plan signature).isSome = plan.payload.isChunked := by
  rw [chunkSigner?]
  cases plan.payload <;> rfl

/-- **The fields of a request that is signed in its fields**: the host is named in them, then
the signature is announced, and then it is put beside the announcement. -/
theorem exists_hosted (h : signer.sign now request identity .fields = .ok s) :
    ∃ plan hosted announced value, signer.plan now request identity .fields = .ok plan ∧
      Announcement.withHost request = .ok hosted ∧
      Announcement.inFields hosted signer.config plan.scope identity plan.payload =
        .ok announced ∧
      s.request =
        { announced with fields := announced.fields.insert Vocabulary.authorization value } ∧
      s.canonical.payloadHash = plan.payload.text plan.scope ∧
      s.chunkSigner = chunkSigner? plan s.signature := by
  obtain ⟨plan, announced, hplan, hannounce, hcanonical, -, hattach, hchunks⟩ :=
    sign_eq_ok_iff.mp h
  obtain ⟨-, hlifetime, -, -⟩ := plan_eq_ok_iff.mp hplan
  have hnone := Mode.lifetime_eq_none hlifetime rfl
  obtain ⟨hosted, hhost, hinFields⟩ := Outcome.bind_eq_ok_iff.mp hannounce
  rw [hnone] at hinFields
  obtain ⟨value, hsigned⟩ := attach_of_lifetime_none hnone hattach
  obtain ⟨-, -, -, -, -, hhash⟩ := CanonicalRequest.ofRequest_eq_ok_iff.mp hcanonical
  exact ⟨plan, hosted, announced, value, hplan, hhost, hinFields, hsigned, hhash, hchunks⟩

/-- How a signature with this plan sets token, region set and digest. -/
theorem exists_setTo (h : signer.sign now request identity .fields = .ok s) :
    ∃ plan, signer.plan now request identity .fields = .ok plan ∧
      s.canonical.payloadHash = plan.payload.text plan.scope ∧
      s.chunkSigner.isSome = plan.payload.isChunked ∧
      request.fields.SetTo s.request.fields Vocabulary.securityToken identity.sessionToken ∧
      request.fields.SetTo s.request.fields Vocabulary.regionSet plan.scope.region.names? ∧
      request.fields.SetTo s.request.fields Vocabulary.contentSha256
        (Announcement.digest? signer.config plan.scope plan.payload) := by
  obtain ⟨plan, hosted, announced, value, hplan, hhost, hinFields, hsigned, hhash, hchunks⟩ :=
    exists_hosted h
  obtain ⟨htoken, hregion, hdigest⟩ := Announcement.setTo_inFields hinFields
  rw [Announcement.regionSet_eq_names?] at hregion
  -- Neither the host nor the signature itself goes into one of the three fields.
  have hbefore : ∀ name, Vocabulary.host ≠ name →
      hosted.fields.values name = request.fields.values name :=
    fun name hname => Announcement.values_withHost_of_ne hhost hname
  have hafter : ∀ name, Vocabulary.authorization ≠ name →
      s.request.fields.values name = announced.fields.values name := by
    intro name hname
    rw [hsigned, Http.Fields.values_insert, if_neg hname]
  refine ⟨plan, hplan, hhash, ?_, htoken.congr (hbefore _ (by decide)) (hafter _ (by decide)),
    hregion.congr (hbefore _ (by decide)) (hafter _ (by decide)),
    hdigest.congr (hbefore _ (by decide)) (hafter _ (by decide))⟩
  rw [hchunks, isSome_chunkSigner?]

/-! ### A request that brings along what others left -/

/-- A request with a token, a region set and a digest of another signature. -/
def leftOver : Request where
  __ := sample
  fields := ((Http.Fields.empty.append Vocabulary.securityToken sampleValue).append
    Vocabulary.regionSet ⟨[0x62], false, rfl⟩).append Vocabulary.contentSha256
      ⟨[0x63], false, rfl⟩
  body := .precomputed "d"

/-- Someone with a token. -/
def sampleGuest : Identity :=
  .symmetric { accessKeyId := "id", secretAccessKey := "secret", sessionToken := some "token" }

theorem exists_sign_leftOver {identity : Identity}
    (h : identity = sampleIdentity ∨ identity = sampleGuest) :
    ∃ s, sampleSigner.sign .epoch leftOver identity .fields = .ok s := by
  rcases h with rfl | rfl
  · exact exists_sign ⟨_, rfl, ⟨_, rfl⟩, _, rfl, _, rfl, by decide, by decide⟩
  · exact exists_sign ⟨_, rfl, ⟨_, rfl⟩, _, rfl, _, rfl, by decide, by decide⟩

/-! ### What is said in the fields -/

/-- **What token, region set and digest say** in a request that is signed in its fields: the
token of whoever signs, the region set of the signer, and what the canonical request says
about the body. Where there is no token, no region set, or no digest to be shown, the request
keeps what it had in the field. -/
theorem setTo_of_sign (h : signer.sign now request identity .fields = .ok s) :
    request.fields.SetTo s.request.fields Vocabulary.securityToken identity.sessionToken ∧
      request.fields.SetTo s.request.fields Vocabulary.regionSet signer.region.names? ∧
      request.fields.SetTo s.request.fields Vocabulary.contentSha256
        (if s.chunkSigner.isSome || signer.config.bodyHeader == .addIfSigned then
          some s.canonical.payloadHash else none) := by
  obtain ⟨plan, hplan, hhash, hchunks, htoken, hregion, hdigest⟩ := exists_setTo h
  obtain ⟨hscope, -, -, -⟩ := plan_eq_ok_iff.mp hplan
  rw [Scope.region_of_make hscope] at hregion
  rw [Announcement.digest?, Announcement.showsDigest, ← hchunks, ← hhash] at hdigest
  exact ⟨htoken, hregion, hdigest⟩

/-- A token takes the place of the one that was left over. -/
theorem setTo_of_sign_sampleGuest :
    ∃ s, sampleSigner.sign .epoch leftOver sampleGuest .fields = .ok s ∧
      (s.request.fields.values Vocabulary.securityToken).map (·.octets) =
        [Octets.ofText "token"] ∧
      s.request.fields.values Vocabulary.regionSet =
        leftOver.fields.values Vocabulary.regionSet := by
  obtain ⟨s, hs⟩ := exists_sign_leftOver (Or.inr rfl)
  obtain ⟨htoken, hregion, -⟩ := setTo_of_sign hs
  exact ⟨s, hs, htoken, hregion⟩

/-- **What was left over stays**, where the signature has nothing to say: no token of whoever
signs, no region set of the signer, and a digest that is not to be shown. Then the fields say
what the signature does not mean. -/
theorem leftOver_of_sign :
    ∃ s, sampleSigner.sign .epoch leftOver sampleIdentity .fields = .ok s ∧
      ¬(s.request.fields.contains Vocabulary.securityToken = true ↔
        sampleIdentity.sessionToken.isSome = true) ∧
      ¬(s.request.fields.contains Vocabulary.regionSet = true ↔
        sampleSigner.region.isSet = true) ∧
      ¬(∀ value ∈ s.request.fields.values Vocabulary.contentSha256,
        value.octets = Octets.ofText s.canonical.payloadHash) := by
  obtain ⟨s, hs⟩ := exists_sign_leftOver (Or.inl rfl)
  obtain ⟨plan, hplan, hhash, -, htoken, hregion, hdigest⟩ := exists_setTo hs
  obtain ⟨hscope, -, hpayload, -⟩ := plan_eq_ok_iff.mp hplan
  obtain hpayload : plan.payload = .hashed "d" := (Except.ok.inj hpayload).symm
  rw [Scope.region_of_make hscope] at hregion
  rw [hpayload] at hdigest hhash
  refine ⟨s, hs, ?_, ?_, ?_⟩
  · rw [CanonicalFields.contains_iff, htoken]
    decide
  · rw [CanonicalFields.contains_iff, hregion]
    decide
  · rw [hdigest, hhash, Payload.text]
    decide

end RequestSigner

end SigV4
