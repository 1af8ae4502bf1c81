import SigV4.Proofs.Canonical.Text
import SigV4.Proofs.Http.Visible
import SigV4.Proofs.Text.Order

/-!
# Two lists of the signed fields

The names of the signed fields are listed twice. One list is made from the names alone, before
anything is read; the other comes with the canonical lines. The first sorts names without
repetitions, the second puts each value into its group, and nothing in the two ways of doing it
is the same. What they make is: the signed names that occur, each of them once, in the order of
their octets (`SigV4.CanonicalFields.Listing`). There is only one such list
(`SigV4.CanonicalFields.Listing.eq`), so it does not matter which of the two is announced and
which is signed (`SigV4.CanonicalFields.signedNames_eq_of_lines`).

A list that is announced is one text, with semicolons between the names, and no name holds
one, so the names are read back (`SigV4.CanonicalFields.Listing.readNames_intercalate`).
-/

namespace SigV4

namespace CanonicalFields

open Http

variable {fields : Fields} {names names' : List String}

/-! ### What a list of the signed fields is -/

/-- **Whether names list the signed fields**: in strict order of their octets, those names that
are signed and occur, and no others. -/
structure Listing (fields : Fields) (names : List String) : Prop where
  /-- The names are in strict order of their octets, so none is there twice. -/
  pairwise : names.Pairwise (Octets.ofText · < Octets.ofText ·)
  /-- The names are those of the signed fields that occur. -/
  mem_iff : ∀ text, text ∈ names ↔
    ∃ name, Vocabulary.isSigned name = true ∧ fields.contains name = true ∧ name.text = text

namespace Listing

theorem nodup (h : Listing fields names) : names.Nodup :=
  h.pairwise.imp fun {a b} hlt heq => by
    rw [heq] at hlt
    exact List.lt_irrefl _ hlt

/-- **There is one list only.** -/
theorem eq (h : Listing fields names) (h' : Listing fields names') : names = names' := by
  have hperm : names.Perm names' :=
    (List.perm_ext_iff_of_nodup h.nodup h'.nodup).mpr fun text =>
      (h.mem_iff text).trans (h'.mem_iff text).symm
  refine hperm.eq_of_pairwise (fun a b _ _ hab hba => ?_) h.pairwise h'.pairwise
  exact absurd hba (List.lt_asymm hab)

/-- Names that are in strict order as texts are in strict order of their octets. -/
theorem of_pairwise (hsorted : names.Pairwise (· < ·))
    (hmem : ∀ text, text ∈ names ↔ ∃ name, Vocabulary.isSigned name = true ∧
      fields.contains name = true ∧ name.text = text) : Listing fields names := by
  refine ⟨hsorted.imp_of_mem fun {a b} ha hb hlt => ?_, hmem⟩
  obtain ⟨name, -, -, rfl⟩ := (hmem a).mp ha
  obtain ⟨name', -, -, rfl⟩ := (hmem b).mp hb
  exact (Octets.ofText_lt_ofText_iff name.isVisible_text name'.isVisible_text).mpr hlt

end Listing

/-! ### The two lists -/

theorem nodup_signedNames (fields : Fields) : (signedNames fields).Nodup := by
  have hnames : ((fields.names.filter Vocabulary.isSigned).map (·.text)).Nodup :=
    ((nodup_eraseDups _).filter _).map FieldName.text_injective
  exact (List.mergeSort_perm _ _).nodup_iff.mpr hnames

/-- The list that is made from the names alone. -/
theorem listing_signedNames (fields : Fields) : Listing fields (signedNames fields) := by
  refine .of_pairwise ?_ fun text => ?_
  · refine ((pairwise_signedNames fields).and (nodup_signedNames fields)).imp ?_
    rintro a b ⟨hle, hne⟩
    exact String.not_le.mp fun hge => hne (String.le_antisymm (of_decide_eq_true hle) hge)
  · rw [signedNames, (List.mergeSort_perm _ _).mem_iff, List.mem_map]
    refine exists_congr fun name => ?_
    rw [List.mem_filter, mem_names_iff, and_comm (a := fields.contains name = true), and_assoc]

/-- The list that comes with the lines. -/
theorem listing_lines {ls : List (String × String)} (h : lines fields = .ok ls) :
    Listing fields (ls.map (·.1)) := by
  refine .of_pairwise (List.pairwise_map.mpr (pairwise_lines h)) fun text => ?_
  rw [List.mem_map]
  constructor
  · rintro ⟨line, hline, rfl⟩
    obtain ⟨name, hsigned, hcontains, rfl⟩ := (mem_lines_iff h).mp hline
    exact ⟨name, hsigned, hcontains, rfl⟩
  · rintro ⟨name, hsigned, hcontains, rfl⟩
    exact ⟨_, (mem_lines_iff h).mpr ⟨name, hsigned, hcontains, rfl⟩, rfl⟩

/-- **The two lists are the same**, if there are lines at all. -/
theorem signedNames_eq_of_lines {ls : List (String × String)} (h : lines fields = .ok ls) :
    signedNames fields = ls.map (·.1) :=
  (listing_signedNames fields).eq (listing_lines h)

/-! ### The announced text -/

/-- **The names in a list** as it is announced. -/
def readNames (text : String) : List String :=
  (text.toList.splitOn ';').map String.ofList

namespace Listing

/-- A name in a list is made of the characters of names. -/
theorem not_mem_of_mem (h : Listing fields names) {text : String} (htext : text ∈ names) {c : Char}
    (hc : isTokenChar c = false) : c ∉ text.toList := by
  obtain ⟨name, -, -, rfl⟩ := (h.mem_iff text).mp htext
  exact fun hmem => Http.ne_of_isTokenChar (name.isTokenChar_of_mem hmem) hc rfl

/-- Nothing but semicolons and the characters of names is in an announced list. -/
theorem not_mem_intercalate (h : Listing fields names) {c : Char} (hc : isTokenChar c = false)
    (hsemicolon : c ≠ ';') : c ∉ (";".intercalate names).toList := by
  rw [String.toList_intercalate]
  refine Joined.not_mem_intercalate hsemicolon fun cs hcs => ?_
  obtain ⟨text, htext, rfl⟩ := List.mem_map.mp hcs
  exact h.not_mem_of_mem htext hc

/-- **An announced list is read back.** Of an empty list this could not be said, as there is an
empty name in an empty text. -/
theorem readNames_intercalate (h : Listing fields names) (hne : names ≠ []) :
    readNames (";".intercalate names) = names := by
  have hsemicolon : ∀ cs ∈ names.map String.toList, ';' ∉ cs := by
    intro cs hcs
    obtain ⟨text, htext, rfl⟩ := List.mem_map.mp hcs
    exact h.not_mem_of_mem htext (by decide)
  have hnames : names.map String.toList ≠ [] := by rwa [Ne, List.map_eq_nil_iff]
  rw [readNames, String.toList_intercalate]
  change (([';'].intercalate _).splitOn ';').map _ = _
  rw [List.splitOn_intercalate _ hsemicolon hnames, List.map_map]
  exact (List.map_congr_left fun _ _ => String.ofList_toList).trans (List.map_id _)

end Listing

end CanonicalFields

end SigV4
