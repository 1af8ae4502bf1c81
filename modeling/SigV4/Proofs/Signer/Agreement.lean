import Mathlib.Data.Set.Insert
import SigV4.Proofs.Signer.Codings

/-!
# Two announcements of one signature

Two runs of the same steps, on two requests that have something in common. Whatever it is
that they have in common, each step that sets a field should leave it so, and fail for one of
the requests only if it fails for the other, in the same way. All but one of the steps write
without looking. The exception is the list of codings, which depends on the codings that are
there. So a relation of requests is kept up by a whole announcement if it is kept up by setting
one field, and if related requests lead to the same codings
(`SigV4.Announcement.Follows.inFields`).

A relation may also grow on the way, with each name whose field has been set. Requests that
agree in some of their fields (`SigV4.Request.AgreeOn`) agree in all that has been written once
a signature is announced in both.
-/

namespace SigV4

open Http

/-! ### Relations that follow an announcement -/

/-- **Whether a relation follows an announcement**: requests that are related as to some names
are related as to one more when its field is set in both, and they lead to the same codings. -/
structure Announcement.Follows (R : Set FieldName → Request → Request → Prop) : Prop where
  /-- To be related as to some names is to be related as to fewer. -/
  mono {names names' : Set FieldName} {r r' : Request} (h : R names r r')
    (hnames : names' ⊆ names) : R names' r r'
  /-- A field that is set in both is one more. -/
  insert {names : Set FieldName} {r r' : Request} (h : R names r r') (name : FieldName)
    (value : FieldValue) : R (Insert.insert name names)
      { r with fields := r.fields.insert name value }
      { r' with fields := r'.fields.insert name value }
  /-- Related requests lead to the same codings. -/
  codingsOf {names : Set FieldName} {r r' : Request} (h : R names r r') :
    Announcement.codingsOf r.fields = Announcement.codingsOf r'.fields

namespace Announcement.Follows

variable {R : Set FieldName → Request → Request → Prop} {names : Set FieldName} {r r' : Request}

theorem setField (hR : Follows R) (h : R names r r') (name : FieldName) (text : String)
    (sensitive : Bool) :
    Outcome.Same (R (Insert.insert name names))
      (Announcement.setField r name text sensitive)
      (Announcement.setField r' name text sensitive) := by
  rw [Announcement.setField, Announcement.setField]
  cases FieldValue.ofText text with
  | ok value => exact .ok (hR.insert h name _)
  | error fault => exact .error _

theorem setOptional (hR : Follows R) (h : R names r r') (name : FieldName)
    (text : Option String) (sensitive : Bool) :
    Outcome.Same (R (names ∪ {n | n ∈ ifSome name text}))
      (Announcement.setOptional r name text sensitive)
      (Announcement.setOptional r' name text sensitive) := by
  cases text with
  | none => exact .ok (hR.mono h fun n hn => hn.resolve_right List.not_mem_nil)
  | some text =>
    refine (hR.setField h name text sensitive).mono fun a b hab => hR.mono hab fun n hn => ?_
    exact hn.symm.imp_left List.mem_singleton.mp

theorem withLengths (hR : Follows R) (h : R names r r') (scope : Scope)
    (chunkSize length : Nat) :
    Outcome.Same
      (R (Insert.insert Vocabulary.contentLength
        (Insert.insert Vocabulary.decodedContentLength names)))
      (Announcement.withLengths r scope chunkSize (some length))
      (Announcement.withLengths r' scope chunkSize (some length)) :=
  (hR.setField h _ _ _).bind fun _ _ hdecoded => hR.setField hdecoded _ _ _

theorem withChunks (hR : Follows R) (h : R names r r') (scope : Scope) (payload : Payload) :
    Outcome.Same (R (names ∪ {n | n ∈ chunkFields payload}))
      (Announcement.withChunks r scope payload) (Announcement.withChunks r' scope payload) := by
  cases payload with
  | hashed digest => exact .ok (hR.mono h fun n hn => hn.resolve_right List.not_mem_nil)
  | unsigned => exact .ok (hR.mono h fun n hn => hn.resolve_right List.not_mem_nil)
  | chunked length chunkSize =>
    have hcodings := hR.codingsOf h
    rw [Announcement.codingsOf, Announcement.codingsOf] at hcodings
    rw [Announcement.withChunks, Announcement.withChunks, hcodings]
    refine .common _ fun codings _ => (hR.setField h _ codings _).bind fun a b hcoded => ?_
    cases length with
    | none =>
      refine .ok (hR.mono hcoded fun n hn => ?_)
      exact hn.symm.imp_left List.mem_singleton.mp
    | some length =>
      refine (hR.withLengths hcoded scope chunkSize length).mono fun a b hab => hR.mono hab ?_
      intro n hn
      simp only [chunkFields, Set.mem_union, Set.mem_ofPred_eq, List.mem_cons,
        List.not_mem_nil, or_false] at hn
      simp only [Set.mem_insert_iff]
      tauto

/-- **Announcing in fields** relates two requests as to the fields that it writes. -/
theorem inFields (hR : Follows R) (h : R names r r') (config : Config) (scope : Scope)
    (identity : Identity) (payload : Payload) :
    Outcome.Same (R (names ∪ {n | n ∈ written config scope identity payload}))
      (Announcement.inFields r config scope identity payload)
      (Announcement.inFields r' config scope identity payload) := by
  refine (hR.setField h _ _ _).bind fun _ _ hdate => ?_
  refine (hR.setOptional hdate _ _ _).bind fun _ _ hregion => ?_
  refine (hR.setOptional hregion _ _ _).bind fun _ _ htoken => ?_
  refine (hR.withChunks htoken _ _).bind fun _ _ hchunks => ?_
  refine (hR.setOptional hchunks _ _ _).mono fun _ _ hdigest => hR.mono hdigest fun n hn => ?_
  simp only [written, digest?, Set.mem_union, Set.mem_ofPred_eq, List.mem_cons,
    List.mem_append] at hn
  simp only [Set.mem_union, Set.mem_insert_iff, Set.mem_ofPred_eq]
  tauto

end Announcement.Follows

/-! ### Requests that agree in some of their fields -/

/-- **Whether two requests agree** in the fields of some names. They are the same in everything
else that is signed, and lead to the same codings. -/
structure Request.AgreeOn (names : Set FieldName) (r r' : Request) : Prop where
  /-- They are the same but for their fields. -/
  sameButFields : r.SameButFields r'
  /-- They have the same values of the names. -/
  values : ∀ name ∈ names, r.fields.values name = r'.fields.values name
  /-- They lead to the same codings. -/
  codingsOf : Announcement.codingsOf r.fields = Announcement.codingsOf r'.fields

namespace Request.AgreeOn

variable {names : Set FieldName} {r r' : Request}

theorem mono (h : r.AgreeOn names r') {names' : Set FieldName} (hnames : names' ⊆ names) :
    r.AgreeOn names' r' :=
  ⟨h.sameButFields, fun name hname => h.values name (hnames hname), h.codingsOf⟩

/-- **A field that is set in both** is one more that they agree in. -/
theorem insert (h : r.AgreeOn names r') (name : FieldName) (value : FieldValue) :
    AgreeOn (Insert.insert name names) { r with fields := r.fields.insert name value }
      { r' with fields := r'.fields.insert name value } := by
  have hvalues : ∀ other, (name ≠ other → r.fields.values other = r'.fields.values other) →
      (r.fields.insert name value).values other = (r'.fields.insert name value).values other := by
    intro other hother
    rw [Fields.values_insert, Fields.values_insert]
    split
    · rfl
    · next hne => exact hother hne
  refine ⟨?_, fun other hother => hvalues other fun hne => ?_, ?_⟩
  · rw [h.sameButFields]
    rfl
  · rcases Set.mem_insert_iff.mp hother with rfl | hmem
    · exact absurd rfl hne
    · exact h.values other hmem
  · by_cases heq : name = Vocabulary.contentEncoding
    · exact Announcement.codingsOf_congr (hvalues _ fun hne => absurd heq hne)
    · have hkept : ∀ fields : Fields, Announcement.codingsOf (fields.insert name value) =
          Announcement.codingsOf fields := by
        intro fields
        exact Announcement.codingsOf_congr ((Fields.values_insert _ _ _ _).trans (if_neg heq))
      rw [hkept, hkept]
      exact h.codingsOf

/-- A field that is set in one of them only is one less. -/
theorem insert_right (h : r.AgreeOn names r') (name : FieldName)
    (hname : name ≠ Vocabulary.contentEncoding) (value : FieldValue) :
    r.AgreeOn (names \ {name}) { r' with fields := r'.fields.insert name value } := by
  have hkept : ∀ other, name ≠ other →
      (r'.fields.insert name value).values other = r'.fields.values other :=
    fun other hne => (Fields.values_insert _ _ _ _).trans (if_neg hne)
  refine ⟨?_, fun other hother => ?_, ?_⟩
  · rw [h.sameButFields]
    rfl
  · rw [hkept other fun heq => hother.2 heq.symm]
    exact h.values other hother.1
  · rw [Announcement.codingsOf_congr (hkept _ hname)]
    exact h.codingsOf

theorem follows : Announcement.Follows AgreeOn :=
  ⟨fun h hnames => h.mono hnames, fun h name value => h.insert name value, fun h => h.codingsOf⟩

/-! ### The canonical form -/

/-- Requests that agree in all signed fields have the same canonical form. -/
theorem ofRequest_eq (h : r.AgreeOn names r')
    (hnames : ∀ name, Vocabulary.isSigned name = true → name ∈ names) (config : Config)
    (payloadHash : String) :
    CanonicalRequest.ofRequest r config payloadHash =
      CanonicalRequest.ofRequest r' config payloadHash := by
  have hlines := CanonicalFields.lines_congr fun name hname => h.values name (hnames name hname)
  refine CanonicalRequest.ofRequest_congr ?_ ?_ ?_ hlines payloadHash
  all_goals rw [h.sameButFields]

end Request.AgreeOn

end SigV4
