import SigV4.Proofs.Signer.Written
import SigV4.Proofs.Text.Joined

/-!
# The codings of a body in chunks

A body that is signed in chunks has the chunks among its codings, and they are put in front
of the codings that the request names unless they are there already
(`SigV4.Announcement.of_codings`). So whoever announces the codings of a request once more,
when they have been written into their field, comes to the same text
(`SigV4.Announcement.codings_of_codings`), and a request leads to the same codings before and
after a signature is announced in it (`SigV4.Announcement.codingsOf_inFields`).
-/

namespace SigV4

namespace Announcement

open Http

/-- **Whether a list of codings names the chunks.** -/
def NamesChunks (text : List Char) : Prop :=
  ((text.splitOn ',').any fun coding => Blank.trim coding == Vocabulary.chunkedCoding.toList) =
    true

instance (text : List Char) : Decidable (NamesChunks text) :=
  inferInstanceAs (Decidable (_ = _))

theorem namesChunks_chunkedCoding : NamesChunks Vocabulary.chunkedCoding.toList := by
  decide

/-- A list that starts with the chunks names them, whatever follows. -/
theorem namesChunks_append (text : List Char) :
    NamesChunks (Vocabulary.chunkedCoding.toList ++ ',' :: text) := by
  rw [NamesChunks, List.splitOn_append_cons_self_of_not_mem (by decide), List.any_cons,
    Bool.or_eq_true]
  exact Or.inl (by decide)

theorem isVisible_chunkedCoding : FieldValue.IsVisible Vocabulary.chunkedCoding :=
  ⟨Octets.ofText Vocabulary.chunkedCoding, by decide, by decide⟩

/-- **The codings of a body in chunks** can be read back, and name the chunks. -/
theorem of_codings {first : Option FieldValue} {text : String} (h : codings first = .ok text) :
    FieldValue.IsVisible text ∧ NamesChunks text.toList := by
  unfold codings at h
  split at h
  · obtain rfl := Except.ok.inj h
    exact ⟨isVisible_chunkedCoding, namesChunks_chunkedCoding⟩
  · split at h
    · cases h
    · next own hown =>
      have hvisible := FieldValue.isVisible_of_text hown
      split at h
      · next hnames =>
        obtain rfl := Except.ok.inj h
        exact ⟨hvisible, by rwa [NamesChunks, String.toList_ofList]⟩
      · obtain rfl := Except.ok.inj h
        have hcomma : FieldValue.IsVisible "," := ⟨[0x2C], by decide, by decide⟩
        refine ⟨(isVisible_chunkedCoding.append hcomma).append hvisible, ?_⟩
        rw [String.toList_append, String.toList_append, String.toList_ofList, List.append_assoc]
        exact namesChunks_append own

/-- **Announcing the codings again** gives the same text. -/
theorem codings_of_codings {first : Option FieldValue} {text : String} {value : FieldValue}
    (h : codings first = .ok text) (hvalue : FieldValue.ofText text = .ok value) :
    codings (some value) = .ok text := by
  obtain ⟨hvisible, hnames⟩ := of_codings h
  rw [codings, FieldValue.text_of_ofText hvisible hvalue]
  exact (if_pos hnames).trans (congrArg Except.ok String.ofList_toList)

/-! ### The codings that a request leads to -/

/-- The codings that would be announced, given the fields of a request. -/
def codingsOf (fields : Fields) : Except Error String :=
  codings (fields.get? Vocabulary.contentEncoding)

theorem codingsOf_congr {fields fields' : Fields}
    (h : fields.values Vocabulary.contentEncoding = fields'.values Vocabulary.contentEncoding) :
    codingsOf fields = codingsOf fields' := by
  rw [codingsOf, codingsOf, Fields.get?, Fields.get?, h]

variable {request request' : Request} {config : Config} {scope : Scope} {identity : Identity}
  {payload : Payload}

/-- **The one value that names the codings** of a body in chunks, and the text in it. -/
theorem exists_value_withChunks {length : Option Nat} {chunkSize : Nat}
    (h : withChunks request scope (.chunked length chunkSize) = .ok request') :
    ∃ text value, codingsOf request.fields = .ok text ∧ FieldValue.ofText text = .ok value ∧
      request'.fields.values Vocabulary.contentEncoding = [value] := by
  obtain ⟨text, hcodings, h⟩ := Outcome.bind_eq_ok_iff.mp h
  obtain ⟨coded, hcoded, hlengths⟩ := Outcome.bind_eq_ok_iff.mp h
  obtain ⟨value, hvalue, rfl⟩ := setField_eq_ok_iff.mp hcoded
  refine ⟨text, value, hcodings, hvalue, ?_⟩
  cases length with
  | none =>
    obtain rfl := Except.ok.inj hlengths
    exact (Fields.values_insert _ _ _ _).trans (if_pos rfl)
  | some length =>
    obtain ⟨between, hdecoded, hlength⟩ := Outcome.bind_eq_ok_iff.mp hlengths
    rw [values_setField_of_ne hlength (by decide), values_setField_of_ne hdecoded (by decide)]
    exact (Fields.values_insert _ _ _ _).trans (if_pos rfl)

/-- **The codings that were announced** lead to themselves. -/
theorem codingsOf_withChunks (h : withChunks request scope payload = .ok request') :
    codingsOf request'.fields = codingsOf request.fields := by
  cases payload with
  | hashed digest => exact codingsOf_congr (values_withChunks_of_notMem h List.not_mem_nil)
  | unsigned => exact codingsOf_congr (values_withChunks_of_notMem h List.not_mem_nil)
  | chunked length chunkSize =>
    obtain ⟨text, value, hcodings, hvalue, hkept⟩ := exists_value_withChunks h
    rw [hcodings, codingsOf, Fields.get?, hkept]
    exact codings_of_codings hcodings hvalue

theorem codingsOf_inFields (h : inFields request config scope identity payload = .ok request') :
    codingsOf request'.fields = codingsOf request.fields := by
  obtain ⟨dated, placed, held, cut, hdate, hregion, htoken, hchunks, hdigest⟩ :=
    inFields_eq_ok_iff.mp h
  calc codingsOf request'.fields
      = codingsOf cut.fields := codingsOf_congr (values_setOptional_of_ne hdigest (by decide))
    _ = codingsOf held.fields := codingsOf_withChunks hchunks
    _ = codingsOf placed.fields := codingsOf_congr (values_setOptional_of_ne htoken (by decide))
    _ = codingsOf dated.fields := codingsOf_congr (values_setOptional_of_ne hregion (by decide))
    _ = codingsOf request.fields := codingsOf_congr (values_setField_of_ne hdate (by decide))

end Announcement

end SigV4
