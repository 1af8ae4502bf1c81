import SigV4.Proofs.Http.Visible
import SigV4.Proofs.Signer.Codings

/-!
# What has to be text in a request

A value of a signed field has to be visible ASCII, or there is no canonical request. Which
values this concerns is not to be seen at once, since a value that the request brings along
does not count if it is replaced on the way, and a value that is put in its place does. This
file answers the question for the request as it comes
(`SigV4.Announcement.gives_inFields_iff`), by going through the announcement from its end: what
has to be text behind a step is told in terms of what is there in front of it.

A request in front of a step is ready if its signed fields can be read, but for those that are
going to be replaced (`SigV4.Http.Fields.Ready`). A step that sets a field adds its name to
these and asks for a visible text (`SigV4.Announcement.gives_setField_iff`). Only the codings are
replaced by something that depends on what was there, so until they are, the first of their
values has to be readable as well.

Most of what is announced is visible whatever the request is: times, lengths, and the host. What
is left is what others have chosen: the region set, the token, and a digest that was computed
elsewhere.
-/

namespace SigV4

open Http

/-! ### Readable fields -/

/-- **Whether a value is readable**: visible ASCII, and so a text. -/
def Http.FieldValue.IsReadable (value : FieldValue) : Prop :=
  value.octets.all isVisibleOctet = true

instance (value : FieldValue) : Decidable value.IsReadable :=
  inferInstanceAs (Decidable (_ = _))

theorem Http.FieldValue.isReadable_iff {s : String} {value : FieldValue}
    (h : value.octets = Octets.ofText s) : value.IsReadable ↔ IsVisible s := by
  rw [IsReadable, h, isVisible_iff]

namespace Http.Fields

/-- **Whether the signed fields are readable**, but for those of some names. -/
def Readable (fields : Fields) (but : List FieldName) : Prop :=
  ∀ field ∈ fields.toList, Vocabulary.isSigned field.1 = true → field.1 ∉ but →
    field.2.IsReadable

instance (fields : Fields) (but : List FieldName) : Decidable (fields.Readable but) :=
  inferInstanceAs (Decidable (∀ field ∈ fields.toList, _))

theorem readable_iff {fields : Fields} {but : List FieldName} :
    fields.Readable but ↔ ∀ name, Vocabulary.isSigned name = true → name ∉ but →
      ∀ value ∈ fields.values name, value.IsReadable := by
  constructor
  · intro h name hname hbut value hvalue
    exact h (name, value) (CanonicalFields.mem_values_iff.mp hvalue) hname hbut
  · rintro h ⟨name, value⟩ hmem hname hbut
    exact h name hname hbut value (CanonicalFields.mem_values_iff.mpr hmem)

/-- **There are canonical lines** exactly of fields that are readable without exception. -/
theorem exists_lines_iff_readable {fields : Fields} :
    (∃ ls, CanonicalFields.lines fields = .ok ls) ↔ fields.Readable [] := by
  rw [CanonicalFields.exists_lines_iff, readable_iff]
  simp only [FieldValue.exists_text_iff, List.not_mem_nil, not_false_iff, true_implies,
    FieldValue.IsReadable]

/-- Whether a name is left out makes a difference only if it is signed and occurs. -/
theorem readable_congr {fields : Fields} {but but' : List FieldName}
    (h : ∀ name, Vocabulary.isSigned name = true → fields.contains name = true →
      (name ∈ but ↔ name ∈ but')) : fields.Readable but ↔ fields.Readable but' := by
  refine forall₂_congr fun field hfield => forall_congr' fun hsigned => ?_
  have hcontains : fields.contains field.1 = true :=
    List.any_eq_true.mpr ⟨field, hfield, decide_eq_true rfl⟩
  rw [h field.1 hsigned hcontains]

/-- **Whether fields are ready** for what is still to be set: the signed fields are readable but
for those to be set, and so is the first of the codings, as long as it is to be looked at. -/
structure Ready (fields : Fields) (toSet : List FieldName) (coded : Bool) : Prop where
  /-- The signed fields are readable but for those to be set. -/
  readable : fields.Readable toSet
  /-- The first of the codings is readable. -/
  coding : coded = true → ∀ value ∈ fields.get? Vocabulary.contentEncoding, value.IsReadable

variable {fields : Fields} {toSet : List FieldName} {coded : Bool} {name : FieldName}
  {value : FieldValue}

theorem ready_iff : fields.Ready toSet coded ↔ fields.Readable toSet ∧
    (coded = true → ∀ value ∈ fields.get? Vocabulary.contentEncoding, value.IsReadable) :=
  ⟨fun h => ⟨h.readable, h.coding⟩, fun h => ⟨h.1, h.2⟩⟩

theorem ready_false_iff : fields.Ready toSet false ↔ fields.Readable toSet :=
  ⟨Ready.readable, fun h => ⟨h, fun hcoded => nomatch hcoded⟩⟩

/-- **A field that is set** was to be set before, and is to be readable now. -/
theorem ready_insert_iff (hsigned : Vocabulary.isSigned name = true) (hname : name ∉ toSet)
    (hcoded : name = Vocabulary.contentEncoding → coded = false) :
    (fields.insert name value).Ready toSet coded ↔
      value.IsReadable ∧ fields.Ready (name :: toSet) coded := by
  have hcoding : coded = true → (fields.insert name value).get? Vocabulary.contentEncoding =
      fields.get? Vocabulary.contentEncoding := by
    intro h
    have hne : name ≠ Vocabulary.contentEncoding := by
      intro heq
      rw [hcoded heq] at h
      cases h
    rw [get?, get?, values_insert, if_neg hne]
  constructor
  · rintro ⟨hreadable, hfirst⟩
    rw [readable_iff] at hreadable
    refine ⟨hreadable name hsigned hname value ?_, readable_iff.mpr ?_, fun h => ?_⟩
    · rw [values_insert, if_pos rfl]
      exact List.mem_singleton_self value
    · intro other hother hbut v hv
      rw [List.mem_cons, not_or] at hbut
      refine hreadable other hother hbut.2 v ?_
      rwa [values_insert, if_neg (Ne.symm hbut.1)]
    · rw [← hcoding h]
      exact hfirst h
  · rintro ⟨hvalue, hreadable, hfirst⟩
    rw [readable_iff] at hreadable
    refine ⟨readable_iff.mpr fun other hother hbut v hv => ?_, fun h => ?_⟩
    · rw [values_insert] at hv
      split at hv
      · rwa [List.mem_singleton.mp hv]
      · next hne =>
        refine hreadable other hother ?_ v hv
        rw [List.mem_cons, not_or]
        exact ⟨Ne.symm hne, hbut⟩
    · rw [hcoding h]
      exact hfirst h

end Http.Fields

namespace Announcement

variable {request : Request} {name : FieldName} {sensitive : Bool} {toSet : List FieldName}
  {coded : Bool} {scope : Scope} {config : Config} {identity : Identity} {payload : Payload}

/-! ### Setting fields -/

/-- **Setting a field** asks for a visible text, and for a request that is ready for it. -/
theorem gives_setField_iff {text : String} (hsigned : Vocabulary.isSigned name = true)
    (hname : name ∉ toSet) (hcoded : name = Vocabulary.contentEncoding → coded = false) :
    Outcome.Gives (setField request name text sensitive) (·.fields.Ready toSet coded) ↔
      FieldValue.IsVisible text ∧ request.fields.Ready (name :: toSet) coded := by
  constructor
  · rintro ⟨request', h, hready⟩
    obtain ⟨value, hvalue, rfl⟩ := setField_eq_ok_iff.mp h
    obtain ⟨hreadable, hbefore⟩ := (Fields.ready_insert_iff hsigned hname hcoded).mp hready
    refine ⟨(FieldValue.isReadable_iff ?_).mp hreadable, hbefore⟩
    rw [← (FieldValue.ofText_eq_ok_iff.mp hvalue).1]
    split <;> rfl
  · rintro ⟨hvisible, hready⟩
    obtain ⟨value, hvalue⟩ := FieldValue.exists_ofText hvisible.isText
    refine ⟨_, setField_eq_ok_iff.mpr ⟨value, hvalue, rfl⟩, ?_⟩
    refine (Fields.ready_insert_iff hsigned hname hcoded).mpr ⟨?_, hready⟩
    refine (FieldValue.isReadable_iff ?_).mpr hvisible
    rw [← (FieldValue.ofText_eq_ok_iff.mp hvalue).1]
    split <;> rfl

theorem gives_setOptional_iff {text : Option String} (hsigned : Vocabulary.isSigned name = true)
    (hname : name ∉ toSet) (hcoded : name = Vocabulary.contentEncoding → coded = false) :
    Outcome.Gives (setOptional request name text sensitive) (·.fields.Ready toSet coded) ↔
      (∀ t ∈ text, FieldValue.IsVisible t) ∧
        request.fields.Ready (ifSome name text ++ toSet) coded := by
  cases text with
  | none => simp [setOptional, Outcome.gives_ok_iff, ifSome]
  | some text =>
    simpa [setOptional, ifSome] using gives_setField_iff hsigned hname hcoded

/-- **Setting a field in front of other steps** adds to what these ask for. -/
theorem gives_setOptional_bind_iff (request : Request) (text : Option String) (sensitive : Bool)
    {f : Request → Except Error Request} {P : Prop} {Q : Request → Prop}
    (hsigned : Vocabulary.isSigned name = true)
    (hname : name ∉ toSet) (hcoded : name = Vocabulary.contentEncoding → coded = false)
    (h : ∀ r, Outcome.Gives (f r) Q ↔ P ∧ r.fields.Ready toSet coded) :
    Outcome.Gives (setOptional request name text sensitive >>= f) Q ↔
      ((∀ t ∈ text, FieldValue.IsVisible t) ∧ P) ∧
        request.fields.Ready (ifSome name text ++ toSet) coded := by
  rw [Outcome.gives_bind_iff]
  simp only [h]
  rw [Outcome.gives_and_iff, gives_setOptional_iff hsigned hname hcoded, and_left_comm, and_assoc]

/-- **Naming the host** asks for nothing, as a host is visible. -/
theorem gives_withHost_iff (hname : Vocabulary.host ∉ toSet) :
    Outcome.Gives (withHost request) (·.fields.Ready toSet coded) ↔
      request.fields.Ready toSet coded := by
  rw [withHost]
  split
  · exact Outcome.gives_ok_iff
  · next hnamed =>
    have hsame : request.fields.Readable (Vocabulary.host :: toSet) ↔
        request.fields.Readable toSet := by
      refine Fields.readable_congr fun name _ hcontains => ?_
      rw [List.mem_cons, or_iff_right]
      rintro rfl
      exact hnamed hcontains
    rw [gives_setField_iff (by decide) hname fun h => absurd h (by decide),
      and_iff_right request.authority.isVisible_text]
    exact ⟨fun h => ⟨hsame.mp h.readable, h.coding⟩, fun h => ⟨hsame.mpr h.readable, h.coding⟩⟩

/-! ### Chunks -/

/-- There are codings if the first of those that are there can be read. -/
theorem exists_codings_iff {first : Option FieldValue} :
    (∃ text, codings first = .ok text) ↔ ∀ value ∈ first, value.IsReadable := by
  cases first with
  | none => simp [codings]
  | some value =>
    have htext : (∀ v ∈ some value, v.IsReadable) ↔ ∃ text, value.text = .ok text := by
      rw [FieldValue.exists_text_iff]
      simp [FieldValue.IsReadable]
    rw [htext, codings]
    cases value.text with
    | error fault => simp
    | ok text =>
      refine iff_of_true ?_ ⟨text, rfl⟩
      dsimp only
      split
      · exact ⟨_, rfl⟩
      · exact ⟨_, rfl⟩

theorem gives_withLengths_iff {chunkSize length : Nat}
    (hdecoded : Vocabulary.decodedContentLength ∉ Vocabulary.contentLength :: toSet)
    (hlength : Vocabulary.contentLength ∉ toSet) :
    Outcome.Gives (withLengths request scope chunkSize (some length))
        (·.fields.Ready toSet false) ↔
      request.fields.Ready
        (Vocabulary.decodedContentLength :: Vocabulary.contentLength :: toSet) false := by
  have hlast : ∀ r : Request, Outcome.Gives (setField r Vocabulary.contentLength
      (toString (Frame.encodedLength length chunkSize scope.algorithm.signatureLength)) false)
      (·.fields.Ready toSet false) ↔
        r.fields.Ready (Vocabulary.contentLength :: toSet) false := by
    intro r
    rw [gives_setField_iff (by decide) hlength fun _ => rfl,
      and_iff_right (Decimal.isVisible_toString _)]
  rw [withLengths, Outcome.gives_bind_iff]
  simp only [hlast]
  rw [gives_setField_iff (by decide) hdecoded fun _ => rfl,
    and_iff_right (Decimal.isVisible_toString _)]

/-- Announcing the codings of a body in chunks asks for the first of those that are there. -/
theorem gives_codings_iff (hname : Vocabulary.contentEncoding ∉ toSet) :
    (Outcome.Gives (codings (request.fields.get? Vocabulary.contentEncoding)) fun text =>
        Outcome.Gives (setField request Vocabulary.contentEncoding text false)
          (·.fields.Ready toSet false)) ↔
      request.fields.Ready (Vocabulary.contentEncoding :: toSet) true := by
  constructor
  · rintro ⟨text, hcodings, h⟩
    obtain ⟨-, hready⟩ := (gives_setField_iff (by decide) hname fun _ => rfl).mp h
    exact ⟨hready.readable, fun _ => exists_codings_iff.mp ⟨text, hcodings⟩⟩
  · rintro ⟨hreadable, hfirst⟩
    obtain ⟨text, hcodings⟩ := exists_codings_iff.mpr (hfirst rfl)
    refine ⟨text, hcodings, (gives_setField_iff (by decide) hname fun _ => rfl).mpr ?_⟩
    exact ⟨(of_codings hcodings).1, hreadable, fun h => nomatch h⟩

/-- **Announcing chunks** asks for the first of the codings, and replaces the fields that announce
them. -/
theorem gives_withChunks_iff (hnames : ∀ name ∈ [Vocabulary.contentEncoding,
      Vocabulary.decodedContentLength, Vocabulary.contentLength], name ∉ toSet) :
    Outcome.Gives (withChunks request scope payload) (·.fields.Ready toSet false) ↔
      request.fields.Ready (chunkFields payload ++ toSet) payload.isChunked := by
  simp only [List.forall_mem_cons, List.not_mem_nil, false_implies, implies_true,
    and_true] at hnames
  obtain ⟨hcoding, hdecoded, hlength⟩ := hnames
  cases payload with
  | hashed digest => exact Outcome.gives_ok_iff
  | unsigned => exact Outcome.gives_ok_iff
  | chunked length chunkSize =>
    rw [withChunks, Outcome.gives_bind_iff]
    simp only [Outcome.gives_bind_iff]
    cases length with
    | none =>
      simp only [withLengths, Outcome.gives_ok_iff]
      exact gives_codings_iff hcoding
    | some length =>
      have hdecoded' : Vocabulary.decodedContentLength ∉ Vocabulary.contentLength :: toSet :=
        List.not_mem_cons_of_ne_of_not_mem (by decide) hdecoded
      simp only [gives_withLengths_iff hdecoded' hlength]
      refine gives_codings_iff (List.not_mem_cons_of_ne_of_not_mem (by decide) ?_)
      exact List.not_mem_cons_of_ne_of_not_mem (by decide) hcoding

/-! ### The whole announcement -/

/-- **No field is set twice**: none of the first three is among those that are set after it. -/
theorem notMem_set_after (config : Config) (scope : Scope) (identity : Identity)
    (payload : Payload) :
    Vocabulary.securityToken ∉ chunkFields payload ++
        ifSome Vocabulary.contentSha256 (digest? config scope payload) ∧
      Vocabulary.regionSet ∉ ifSome Vocabulary.securityToken identity.sessionToken ++
        (chunkFields payload ++
          ifSome Vocabulary.contentSha256 (digest? config scope payload)) ∧
      Vocabulary.date ∉ ifSome Vocabulary.regionSet (regionSet scope) ++
        (ifSome Vocabulary.securityToken identity.sessionToken ++ (chunkFields payload ++
          ifSome Vocabulary.contentSha256 (digest? config scope payload))) := by
  have hchunks : ∀ name ∈ [Vocabulary.date, Vocabulary.regionSet, Vocabulary.securityToken],
      name ∉ chunkFields payload := by
    intro name hname hmem
    have hall : ∀ name ∈ [Vocabulary.date, Vocabulary.regionSet, Vocabulary.securityToken],
        name ∉ [Vocabulary.contentEncoding, Vocabulary.decodedContentLength,
          Vocabulary.contentLength] := by decide
    exact hall name hname (chunkFields_subset payload hmem)
  simp only [List.forall_mem_cons, List.not_mem_nil, false_implies, implies_true,
    and_true] at hchunks
  obtain ⟨hdate, hregion, htoken⟩ := hchunks
  have hne : ∀ {name other : FieldName} {text : Option String}, name ≠ other →
      name ∉ ifSome other text := fun hne hmem => hne (mem_ifSome_iff.mp hmem).2
  simp only [List.mem_append, not_or]
  exact ⟨⟨htoken, hne (by decide)⟩, ⟨hne (by decide), hregion, hne (by decide)⟩,
    hne (by decide), hne (by decide), hdate, hne (by decide)⟩

/-- **Announcing in fields** asks for visible texts to be announced, and for a request that is
ready for it: one that can be read where it is not overwritten. -/
theorem gives_inFields_iff :
    Outcome.Gives (inFields request config scope identity payload) (·.fields.Ready [] false) ↔
      (∀ names ∈ regionSet scope, FieldValue.IsVisible names) ∧
        (∀ token ∈ identity.sessionToken, FieldValue.IsVisible token) ∧
        (∀ digest ∈ digest? config scope payload, FieldValue.IsVisible digest) ∧
        request.fields.Ready (written config scope identity payload) payload.isChunked := by
  obtain ⟨htokenName, hregionName, hdateName⟩ := notMem_set_after config scope identity payload
  -- The last two steps: the chunks, and the digest.
  have hdigest : ∀ r : Request, Outcome.Gives (setOptional r Vocabulary.contentSha256
      (digest? config scope payload) false) (·.fields.Ready [] false) ↔
        (∀ digest ∈ digest? config scope payload, FieldValue.IsVisible digest) ∧
          r.fields.Ready (ifSome Vocabulary.contentSha256 (digest? config scope payload))
            false := by
    intro r
    rw [gives_setOptional_iff (by decide) List.not_mem_nil fun _ => rfl, List.append_nil]
  have hchunks : ∀ r : Request, Outcome.Gives (withChunks r scope payload >>= fun r =>
      setOptional r Vocabulary.contentSha256 (digest? config scope payload) false)
        (·.fields.Ready [] false) ↔
      (∀ digest ∈ digest? config scope payload, FieldValue.IsVisible digest) ∧
        r.fields.Ready (chunkFields payload ++
          ifSome Vocabulary.contentSha256 (digest? config scope payload)) payload.isChunked := by
    intro r
    rw [Outcome.gives_bind_iff]
    simp only [hdigest]
    rw [Outcome.gives_and_iff, gives_withChunks_iff]
    intro name hname hmem
    rw [(mem_ifSome_iff.mp hmem).2] at hname
    exact absurd hname (by decide)
  -- The steps in front of them set one field each, and the first has something to set it to.
  have hsteps : inFields request config scope identity payload =
      setOptional request Vocabulary.date (some scope.timestamp) false >>= fun r =>
      setOptional r Vocabulary.regionSet (regionSet scope) false >>= fun r =>
      setOptional r Vocabulary.securityToken identity.sessionToken true >>= fun r =>
      withChunks r scope payload >>= fun r =>
      setOptional r Vocabulary.contentSha256 (digest? config scope payload) false := rfl
  have hwritten : written config scope identity payload =
      ifSome Vocabulary.date (some scope.timestamp) ++
        (ifSome Vocabulary.regionSet (regionSet scope) ++
          (ifSome Vocabulary.securityToken identity.sessionToken ++ (chunkFields payload ++
            ifSome Vocabulary.contentSha256 (digest? config scope payload)))) := rfl
  have htime : ∀ time ∈ some scope.timestamp, FieldValue.IsVisible time := by
    intro time htime
    obtain rfl := Option.some.inj htime
    exact scope.time.isVisible_timestamp
  have htoken := fun placed => gives_setOptional_bind_iff placed identity.sessionToken true
    (by decide) htokenName (fun h => absurd h (by decide)) hchunks
  have hregion := fun dated => gives_setOptional_bind_iff dated (regionSet scope) false
    (by decide) hregionName (fun h => absurd h (by decide)) htoken
  have hdate := gives_setOptional_bind_iff request (some scope.timestamp) false
    (by decide) hdateName (fun h => absurd h (by decide)) hregion
  rw [hsteps, hdate, ← hwritten, and_iff_right htime, and_assoc, and_assoc]

end Announcement

end SigV4
