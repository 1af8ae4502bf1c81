import SigV4.Proofs.Signer.Codings
import SigV4.Proofs.Upload.Length

/-!
# Codings in more than one line

The codings of a body are a list, and a list in the fields may be spread over several lines: it
is that of all values of the name, one behind the other (`SigV4.Announcement.listed`). A body
that is signed in chunks needs the chunks in this list, in front of the others unless they are
there already (`SigV4.Announcement.withChunkedFirst`).

What signing does is right for a list in one line. The chunks are looked for in the first
line, wherever they stand in it, and nothing that the line names is lost, repeated or moved.
But the one line that comes out replaces all the lines that there were, so the codings of the
second line and of those behind it are lost, and whether they name the chunks does not matter
(`SigV4.RequestSigner.listed_of_sign`). A line always names something, if only a coding without
a name. So the codings are the right ones exactly if there was no second line.
-/

namespace SigV4

namespace Announcement

open Http

/-! ### Lists of codings -/

/-- The codings that a value names, in their order. -/
def codingsIn (value : FieldValue) : List (List Char) :=
  ((value.octets.map fun b => Char.ofNat b.toNat).splitOn ',').map Blank.trim

/-- **The codings that are listed** in several lines. -/
def listed (values : List FieldValue) : List (List Char) :=
  values.flatMap codingsIn

/-- **A list of codings with the chunks in front**, unless they are in it already. -/
def withChunkedFirst (codings : List (List Char)) : List (List Char) :=
  if Vocabulary.chunkedCoding.toList ∈ codings then codings
  else Vocabulary.chunkedCoding.toList :: codings

theorem codingsIn_ne_nil (value : FieldValue) : codingsIn value ≠ [] :=
  mt List.map_eq_nil_iff.mp (List.splitOn_ne_nil _ _)

theorem listed_eq_nil_iff {values : List FieldValue} : listed values = [] ↔ values = [] := by
  cases values with
  | nil => exact iff_of_true rfl rfl
  | cons value values =>
    rw [listed, List.flatMap_cons, List.append_eq_nil_iff]
    exact iff_of_false (fun h => codingsIn_ne_nil value h.1) (List.cons_ne_nil _ _)

theorem codingsIn_of_text {value : FieldValue} {text : List Char} (h : value.text = .ok text) :
    codingsIn value = (text.splitOn ',').map Blank.trim := by
  unfold FieldValue.text at h
  split at h
  · obtain rfl := Except.ok.inj h
    rfl
  · cases h

theorem namesChunks_iff {text : List Char} :
    NamesChunks text ↔ Vocabulary.chunkedCoding.toList ∈ (text.splitOn ',').map Blank.trim := by
  rw [NamesChunks, List.any_eq_true, List.mem_map]
  simp only [beq_iff_eq]

/-- What follows a list that names something is seen, whether or not there are chunks in it. -/
theorem withChunkedFirst_append_iff {codings codings' : List (List Char)} (hne : codings ≠ []) :
    withChunkedFirst codings = withChunkedFirst (codings ++ codings') ↔ codings' = [] := by
  constructor
  · intro h
    unfold withChunkedFirst at h
    by_cases hmem : Vocabulary.chunkedCoding.toList ∈ codings
    · rw [if_pos hmem, if_pos (List.mem_append_left _ hmem)] at h
      exact List.self_eq_append_right.mp h
    · rw [if_neg hmem] at h
      split at h
      · -- The chunks would be the first coding of a list that does not name them.
        obtain ⟨coding, rest, rfl⟩ := List.exists_cons_of_ne_nil hne
        rw [List.cons_append, List.cons.injEq] at h
        exact absurd (h.1 ▸ List.mem_cons_self) hmem
      · exact List.self_eq_append_right.mp (List.cons.inj h).2
  · rintro rfl
    rw [List.append_nil]

/-! ### One line -/

/-- **The codings that are announced** are those of the first line, with the chunks in front. -/
theorem codingsIn_of_codings {first : Option FieldValue} {text : String} {value : FieldValue}
    (h : codings first = .ok text) (hvalue : FieldValue.ofText text = .ok value) :
    codingsIn value = withChunkedFirst (listed first.toList) := by
  obtain ⟨hvisible, -⟩ := of_codings h
  rw [codingsIn_of_text (FieldValue.text_of_ofText hvisible hvalue)]
  unfold codings at h
  split at h
  · obtain rfl := Except.ok.inj h
    decide
  · next own =>
    split at h
    · cases h
    · next chars hchars =>
      have hlisted : listed (some own).toList = (chars.splitOn ',').map Blank.trim := by
        rw [← codingsIn_of_text hchars]
        exact List.append_nil _
      rw [hlisted]
      split at h
      · next hnames =>
        obtain rfl := Except.ok.inj h
        rw [withChunkedFirst, if_pos (namesChunks_iff.mp hnames), String.toList_ofList]
      · next hnames =>
        obtain rfl := Except.ok.inj h
        rw [withChunkedFirst, if_neg (mt namesChunks_iff.mpr hnames), String.toList_append,
          String.toList_append, String.toList_ofList, String.toList_ofList, List.append_assoc,
          List.singleton_append, List.splitOn_append_cons_self_of_not_mem (by decide),
          List.map_cons]
        congr 1

variable {request request' : Request} {config : Config} {scope : Scope} {identity : Identity}

/-- The one line of codings that is announced. -/
theorem exists_value_inFields {length : Option Nat} {chunkSize : Nat}
    (h : inFields request config scope identity (.chunked length chunkSize) = .ok request') :
    ∃ value, request'.fields.values Vocabulary.contentEncoding = [value] ∧
      codingsIn value = withChunkedFirst
        (listed ((request.fields.values Vocabulary.contentEncoding).take 1)) := by
  obtain ⟨dated, placed, held, cut, hdate, hregion, htoken, hchunks, hdigest⟩ :=
    inFields_eq_ok_iff.mp h
  obtain ⟨text, value, hcodings, hvalue, hkept⟩ := exists_value_withChunks hchunks
  have hbefore : held.fields.values Vocabulary.contentEncoding =
      request.fields.values Vocabulary.contentEncoding := by
    rw [values_setOptional_of_ne htoken (by decide), values_setOptional_of_ne hregion (by decide),
      values_setField_of_ne hdate (by decide)]
  refine ⟨value, ?_, ?_⟩
  · rw [values_setOptional_of_ne hdigest (by decide), hkept]
  · rw [codingsIn_of_codings hcodings hvalue, Fields.get?, hbefore]
    cases request.fields.values Vocabulary.contentEncoding <;> rfl

end Announcement

namespace RequestSigner

open Announcement

variable {signer : RequestSigner} {now : Instant} {request : Request} {identity : Identity}
  {mode : Mode} {s : Signed}

/-! ### All lines -/

/-- A body is signed in chunks only where the signature goes into the fields. -/
theorem eq_fields_of_chunkSigner (h : signer.sign now request identity mode = .ok s)
    (hchunks : s.chunkSigner.isSome = true) : mode = .fields := by
  obtain ⟨plan, announced, hplan, -, -, -, -, hsigner⟩ := sign_eq_ok_iff.mp h
  obtain ⟨-, -, hpayload, -⟩ := plan_eq_ok_iff.mp hplan
  obtain ⟨chunks, hsome⟩ := Option.isSome_iff_exists.mp hchunks
  obtain ⟨length, chunkSize, hchunked, -⟩ := of_chunkSigner? (hsigner.symm.trans hsome)
  rw [hchunked] at hpayload
  obtain ⟨-, hmode, -⟩ := Payload.of_resolve_chunked hpayload
  cases mode with
  | fields => rfl
  | query lifetime => cases hmode
  | queryUntil stop => cases hmode

/-- **The one line of codings** in a request that is signed. -/
theorem exists_value_of_sign (h : signer.sign now request identity mode = .ok s)
    (hchunks : s.chunkSigner.isSome = true) :
    ∃ value, s.request.fields.values Vocabulary.contentEncoding = [value] ∧
      codingsIn value = withChunkedFirst
        (listed ((request.fields.values Vocabulary.contentEncoding).take 1)) := by
  obtain rfl := eq_fields_of_chunkSigner h hchunks
  obtain ⟨plan, hosted, announced, value, -, hhost, hinFields, hsigned, -, hsigner⟩ :=
    exists_hosted h
  obtain ⟨chunks, hsome⟩ := Option.isSome_iff_exists.mp hchunks
  obtain ⟨length, chunkSize, hchunked, -⟩ := of_chunkSigner? (hsigner.symm.trans hsome)
  rw [hchunked] at hinFields
  -- Neither the host nor the signature is a coding.
  rw [← values_withHost_of_ne hhost (by decide), hsigned, Http.Fields.values_insert,
    if_neg (by decide)]
  exact exists_value_inFields hinFields

/-- **The codings of a body that is signed in chunks** are listed in one line: those of the
first line that there was, in their order, with the chunks in front unless they are among
them. So they are those of all lines, with the chunks in front unless they are among them,
exactly if there was no second line. -/
theorem listed_of_sign (h : signer.sign now request identity mode = .ok s)
    (hchunks : s.chunkSigner.isSome = true) :
    (s.request.fields.values Vocabulary.contentEncoding).length = 1 ∧
      listed (s.request.fields.values Vocabulary.contentEncoding) = withChunkedFirst
        (listed ((request.fields.values Vocabulary.contentEncoding).take 1)) ∧
      (listed (s.request.fields.values Vocabulary.contentEncoding) =
          withChunkedFirst (listed (request.fields.values Vocabulary.contentEncoding)) ↔
        (request.fields.values Vocabulary.contentEncoding).length ≤ 1) := by
  obtain ⟨value, hvalues, hcodings⟩ := exists_value_of_sign h hchunks
  have hlisted : listed (s.request.fields.values Vocabulary.contentEncoding) = withChunkedFirst
      (listed ((request.fields.values Vocabulary.contentEncoding).take 1)) := by
    rw [hvalues, ← hcodings]
    exact List.append_nil _
  refine ⟨by rw [hvalues]; rfl, hlisted, ?_⟩
  rw [hlisted]
  cases hlines : request.fields.values Vocabulary.contentEncoding with
  | nil => exact iff_of_true rfl (by decide)
  | cons line lines =>
    have hall : listed (line :: lines) = listed ((line :: lines).take 1) ++ listed lines := by
      rw [listed, listed, listed, ← List.flatMap_append]
      rfl
    have hne : listed ((line :: lines).take 1) ≠ [] :=
      mt listed_eq_nil_iff.mp (List.cons_ne_nil _ _)
    rw [hall, withChunkedFirst_append_iff hne, listed_eq_nil_iff]
    simp

/-- A body that was compressed twice, with both codings in one line. -/
def compressedTwice : Request where
  __ := sampleUpload
  fields := Http.Fields.empty.append Vocabulary.contentEncoding
    ⟨Octets.ofText "gzip, br", false, by decide⟩

/-- A line of two codings is kept behind the chunks. -/
theorem listed_of_sign_compressedTwice :
    ∃ s, sampleChunked.sign .epoch compressedTwice sampleIdentity .fields = .ok s ∧
      s.chunkSigner.isSome = true ∧
      listed (s.request.fields.values Vocabulary.contentEncoding) =
        ["aws-chunked".toList, "gzip".toList, "br".toList] := by
  obtain ⟨s, hs⟩ :
      ∃ s, sampleChunked.sign .epoch compressedTwice sampleIdentity .fields = .ok s :=
    exists_sign ⟨_, rfl, ⟨_, rfl⟩, _, rfl, _, rfl, by decide, by decide⟩
  obtain ⟨chunks, hchunks⟩ := exists_chunkSigner hs rfl
  have hsome : s.chunkSigner.isSome = true := by rw [hchunks, Option.isSome_some]
  obtain ⟨-, hlisted, -⟩ := listed_of_sign hs hsome
  exact ⟨s, hs, hsome, hlisted.trans (by decide)⟩

/-- The same body, with a line for each coding. -/
def compressedLines : Request where
  __ := sampleUpload
  fields := (Http.Fields.empty.append Vocabulary.contentEncoding
    ⟨Octets.ofText "gzip", false, by decide⟩).append Vocabulary.contentEncoding
      ⟨Octets.ofText "br", false, by decide⟩

/-- The coding of the second line is lost. -/
theorem listed_ne_of_sign :
    ∃ s, sampleChunked.sign .epoch compressedLines sampleIdentity .fields = .ok s ∧
      s.chunkSigner.isSome = true ∧
      listed (s.request.fields.values Vocabulary.contentEncoding) ≠
        withChunkedFirst
          (listed (compressedLines.fields.values Vocabulary.contentEncoding)) := by
  obtain ⟨s, hs⟩ :
      ∃ s, sampleChunked.sign .epoch compressedLines sampleIdentity .fields = .ok s :=
    exists_sign ⟨_, rfl, ⟨_, rfl⟩, _, rfl, _, rfl, by decide, by decide⟩
  obtain ⟨chunks, hchunks⟩ := exists_chunkSigner hs rfl
  have hsome : s.chunkSigner.isSome = true := by rw [hchunks, Option.isSome_some]
  obtain ⟨value, hvalues, hcodings⟩ := exists_value_of_sign hs hsome
  have hlisted : listed [value] = ["aws-chunked".toList, "gzip".toList] := by
    rw [listed, List.flatMap_singleton, hcodings]
    decide
  refine ⟨s, hs, hsome, ?_⟩
  rw [hvalues, hlisted]
  decide

end RequestSigner

end SigV4
