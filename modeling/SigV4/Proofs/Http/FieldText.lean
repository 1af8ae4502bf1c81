import SigV4.Http.FieldValue
import SigV4.Octets.Hex
import SigV4.Proofs.Octets.Utf8

/-!
# Texts that are field values

A text is a field value unless it holds a control character
(`SigV4.Http.FieldValue.IsText`), and then the octets of the value are those of the text
(`SigV4.Http.FieldValue.ofText_eq_ok_iff`). What is written into fields is put together
from pieces, so the first question is asked piece by piece.

The way back from a field value to a text is open to visible ASCII only, and a text of that
kind comes back as it was written (`SigV4.Http.FieldValue.text_of_ofText`).
-/

namespace SigV4

namespace Http

namespace FieldValue

/-- Whether a text is a field value. -/
def IsText (s : String) : Prop :=
  (Octets.ofText s).all isFieldOctet = true

instance (s : String) : Decidable (IsText s) :=
  inferInstanceAs (Decidable (_ = _))

theorem ofText_eq_ok_iff {s : String} {value : FieldValue} :
    ofText s = .ok value ↔ value.octets = Octets.ofText s ∧ value.sensitive = false := by
  rw [ofText, ofOctets]
  constructor
  · intro h
    split at h
    · obtain rfl := Except.ok.inj h
      exact ⟨rfl, rfl⟩
    · cases h
  · rintro ⟨hoctets, hsensitive⟩
    obtain ⟨octets, sensitive, hall⟩ := value
    obtain rfl : octets = Octets.ofText s := hoctets
    obtain rfl : sensitive = false := hsensitive
    exact dif_pos hall

theorem exists_ofText {s : String} (h : IsText s) : ∃ value, ofText s = .ok value :=
  ⟨⟨Octets.ofText s, false, h⟩, ofText_eq_ok_iff.mpr ⟨rfl, rfl⟩⟩

theorem isText_append_iff {s t : String} : IsText (s ++ t) ↔ IsText s ∧ IsText t := by
  rw [IsText, IsText, IsText, Octets.ofText_append, List.all_append, Bool.and_eq_true]

theorem IsText.append {s t : String} (hs : IsText s) (ht : IsText t) : IsText (s ++ t) :=
  isText_append_iff.mpr ⟨hs, ht⟩

/-! ### Visible texts -/

/-- Exactly visible octets have a text. -/
theorem exists_text_iff {value : FieldValue} :
    (∃ text, value.text = .ok text) ↔ value.octets.all isVisibleOctet = true := by
  rw [FieldValue.text]
  split
  · next hall => exact ⟨fun _ => hall, fun _ => ⟨_, rfl⟩⟩
  · next hall => exact ⟨fun ⟨_, h⟩ => (by cases h), fun h => absurd h hall⟩

theorem utf8EncodeChar_of_isVisibleOctet {b : UInt8} (h : isVisibleOctet b = true) :
    String.utf8EncodeChar (Char.ofNat b.toNat) = [b] := by
  have all : ∀ n < 256, isVisibleOctet (UInt8.ofNat n) = true →
      String.utf8EncodeChar (Char.ofNat n) = [UInt8.ofNat n] := by decide +kernel
  simpa using all b.toNat b.toNat_lt (by simpa using h)

/-- **The text of visible octets**, one character for each. -/
def ofVisible (bs : Octets) : String :=
  String.ofList (bs.map fun b => Char.ofNat b.toNat)

/-- The octets of a visible text are those it was made of. -/
theorem ofText_ofVisible {bs : Octets} (h : bs.all isVisibleOctet = true) :
    Octets.ofText (ofVisible bs) = bs := by
  rw [Octets.ofText, ofVisible, String.toList_ofList, List.flatMap_map]
  induction bs with
  | nil => rfl
  | cons b bs ih =>
    rw [List.all_cons, Bool.and_eq_true] at h
    rw [List.flatMap_cons, utf8EncodeChar_of_isVisibleOctet h.1, ih h.2, List.singleton_append]

/-- Whether all characters of a text are visible ASCII, blanks or tabs. -/
def IsVisible (s : String) : Prop :=
  ∃ bs : Octets, bs.all isVisibleOctet = true ∧ s = ofVisible bs

/-- A text is visible if its octets are. -/
theorem isVisible_iff {s : String} :
    IsVisible s ↔ (Octets.ofText s).all isVisibleOctet = true := by
  constructor
  · rintro ⟨bs, hbs, rfl⟩
    rwa [ofText_ofVisible hbs]
  · intro hall
    exact ⟨Octets.ofText s, hall, Octets.ofText_injective (ofText_ofVisible hall).symm⟩

instance (s : String) : Decidable (IsVisible s) :=
  decidable_of_iff _ isVisible_iff.symm

/-- A visible text is a field value. -/
theorem IsVisible.isText {s : String} (h : IsVisible s) : IsText s := by
  rw [isVisible_iff, List.all_eq_true] at h
  rw [IsText, List.all_eq_true]
  intro b hb
  have hvisible := h b hb
  simp only [isVisibleOctet, isFieldOctet, Bool.or_eq_true, Bool.and_eq_true, bne_iff_ne] at *
  rcases hvisible with ⟨hlow, hhigh⟩ | htab
  · refine Or.inl ⟨hlow, ?_⟩
    rintro rfl
    exact absurd hhigh (by decide)
  · exact Or.inr htab

/-- Whether a character is visible ASCII or a blank. -/
def isVisibleChar (c : Char) : Bool :=
  0x20 ≤ c.toNat && c.toNat < 0x7F

theorem all_utf8EncodeChar {c : Char} (h : isVisibleChar c = true) :
    (String.utf8EncodeChar c).all isVisibleOctet = true := by
  have hall : ∀ n < 0x7F, isVisibleChar (Char.ofNat n) = true →
      (String.utf8EncodeChar (Char.ofNat n)).all isVisibleOctet = true := by decide +kernel
  have hlt : c.toNat < 0x7F := of_decide_eq_true (Bool.and_eq_true _ _ ▸ h).2
  rw [← Char.ofNat_toNat c] at h ⊢
  exact hall c.toNat hlt h

theorem isVisible_of_forall {s : String} (h : ∀ c ∈ s.toList, isVisibleChar c = true) :
    IsVisible s := by
  rw [isVisible_iff, Octets.ofText, List.all_flatMap, List.all_eq_true]
  exact fun c hc => all_utf8EncodeChar (h c hc)

/-- Hexadecimal text is visible. -/
theorem isVisible_hex (bs : Octets) : IsVisible (Hex.encode bs) := by
  have hdigit : ∀ n < 16, isVisibleChar (Hex.digit n) = true := by decide
  refine isVisible_of_forall fun c hc => ?_
  rw [Hex.encode, String.toList_ofList, Hex.digits, List.mem_flatMap] at hc
  obtain ⟨b, -, hc⟩ := hc
  have hb := b.toNat_lt
  rw [Hex.pair, List.mem_cons, List.mem_singleton] at hc
  rcases hc with rfl | rfl
  · exact hdigit _ (by omega)
  · exact hdigit _ (by omega)

theorem isText_hex (bs : Octets) : IsText (Hex.encode bs) :=
  (isVisible_hex bs).isText

theorem isVisible_of_text {value : FieldValue} {text : List Char} (h : value.text = .ok text) :
    IsVisible (String.ofList text) := by
  unfold FieldValue.text at h
  split at h
  · next hall =>
    obtain rfl := Except.ok.inj h
    exact ⟨value.octets, hall, rfl⟩
  · cases h

theorem IsVisible.append {s t : String} (hs : IsVisible s) (ht : IsVisible t) :
    IsVisible (s ++ t) := by
  obtain ⟨bs, hbs, rfl⟩ := hs
  obtain ⟨bs', hbs', rfl⟩ := ht
  refine ⟨bs ++ bs', by rw [List.all_append, hbs, hbs', Bool.and_true], ?_⟩
  rw [ofVisible, ofVisible, ofVisible, List.map_append, String.ofList_append]

/-- **A visible text that was written into a field** is read back. -/
theorem text_of_ofText {s : String} (hs : IsVisible s) {value : FieldValue}
    (h : ofText s = .ok value) : value.text = .ok s.toList := by
  obtain ⟨bs, hbs, rfl⟩ := hs
  obtain ⟨hoctets, -⟩ := ofText_eq_ok_iff.mp h
  rw [ofText_ofVisible hbs] at hoctets
  rw [FieldValue.text, hoctets, if_pos hbs, ofVisible, String.toList_ofList]

end FieldValue

end Http

end SigV4
