import Mathlib.Data.String.Basic
import SigV4.Proofs.Http.FieldText

/-!
# The order of texts is the order of their octets

Names and parameters are sorted as texts, character by character, and whoever checks a
signature may sort octets. For visible ASCII there is no difference
(`SigV4.Octets.ofText_lt_ofText_iff`): a character is one octet, and characters are compared
by their numbers.
-/

namespace SigV4

open Http.FieldValue

namespace Octets

variable {s t : String}

/-- The character of an octet has its number, so it keeps its place. -/
theorem ofNat_lt_ofNat {b b' : UInt8} (h : b < b') :
    Char.ofNat b.toNat < Char.ofNat b'.toNat := by
  have hnumber : ∀ n < 256, (Char.ofNat n).toNat = n := by decide +kernel
  rw [Char.lt_def, UInt32.lt_iff_toNat_lt, Char.toNat_val, Char.toNat_val,
    hnumber _ b.toNat_lt, hnumber _ b'.toNat_lt]
  exact UInt8.lt_iff_toNat_lt.mp h

/-- **Visible texts are in the order of their octets.** -/
theorem ofText_lt_ofText_iff (hs : IsVisible s) (ht : IsVisible t) :
    ofText s < ofText t ↔ s < t := by
  obtain ⟨bs, hbs, rfl⟩ := hs
  obtain ⟨bs', hbs', rfl⟩ := ht
  rw [ofText_ofVisible hbs, ofText_ofVisible hbs', String.lt_iff_toList_lt, ofVisible, ofVisible,
    String.toList_ofList, String.toList_ofList]
  constructor
  · exact List.map_lt fun _ _ => ofNat_lt_ofNat
  · intro h
    by_contra hge
    have hmap := List.map_le (fun _ _ => ofNat_lt_ofNat) (List.not_lt.mp hge)
    exact List.not_lt.mpr hmap h

theorem ofText_le_ofText_iff (hs : IsVisible s) (ht : IsVisible t) :
    ofText s ≤ ofText t ↔ s ≤ t := by
  rw [← List.not_lt, ofText_lt_ofText_iff ht hs, String.not_lt]

end Octets

end SigV4
