import SigV4.Http.Authority
import SigV4.Http.Token
import SigV4.Proofs.Http.FieldText
import SigV4.Proofs.Outcome
import SigV4.Proofs.Time.Timestamp

/-!
# Texts that are always visible

Much of what is written into fields is visible ASCII whoever asks for it: numbers, times,
hexadecimal text, names of fields and hosts. All of them are made of letters, digits and a few
other characters, so for each of them it is enough to look at its characters
(`SigV4.Http.FieldValue.isVisible_of_forall`).

Only of a host this is not a part of the type. Its characters are looked at while it is read,
so a host that can be read has passed the test character by character
(`SigV4.Http.Authority.isAuthorityChar_of_mem`).
-/

namespace SigV4

open Http FieldValue

/-! ### Letters and digits -/

theorem Http.FieldValue.isVisibleChar_of_isAlphanum {c : Char} (h : c.isAlphanum = true) :
    isVisibleChar c = true := by
  rw [isVisibleChar, Bool.and_eq_true, decide_eq_true_iff, decide_eq_true_iff]
  rcases (Bool.or_eq_true _ _).mp h with hletter | hdigit
  · rcases (Bool.or_eq_true _ _).mp hletter with hupper | hlower
    · obtain ⟨hfrom, hto⟩ := of_decide_eq_true hupper
      have h65 : 65 ≤ c.toNat := UInt32.le_iff_toNat_le.mp hfrom
      have h90 : c.toNat ≤ 90 := UInt32.le_iff_toNat_le.mp hto
      omega
    · obtain ⟨hfrom, hto⟩ := (Bool.and_eq_true _ _).mp hlower
      have h97 : 97 ≤ c.toNat := UInt32.le_iff_toNat_le.mp (of_decide_eq_true hfrom)
      have h122 : c.toNat ≤ 122 := UInt32.le_iff_toNat_le.mp (of_decide_eq_true hto)
      omega
  · obtain ⟨h48, h57⟩ : 48 ≤ c.toNat ∧ c.toNat ≤ 57 := Char.isDigit_iff_toNat.mp hdigit
    omega

theorem Http.FieldValue.isVisibleChar_of_isDigit {c : Char} (h : c.isDigit = true) :
    isVisibleChar c = true :=
  isVisibleChar_of_isAlphanum ((Bool.or_eq_true _ _).mpr (Or.inr h))

/-- A class of letters, digits and some other characters is visible if the others are. -/
theorem Http.FieldValue.isVisibleChar_of_or {c : Char} {others : List Char}
    (h : (c.isAlphanum || others.contains c) = true)
    (hothers : others.all isVisibleChar = true) : isVisibleChar c = true := by
  rw [Bool.or_eq_true, List.contains_iff_mem] at h
  rcases h with halphanum | hmem
  · exact isVisibleChar_of_isAlphanum halphanum
  · exact List.all_eq_true.mp hothers c hmem

/-! ### Tokens and hosts -/

theorem Http.isVisibleChar_of_isTokenChar {c : Char} (h : isTokenChar c = true) :
    isVisibleChar c = true :=
  isVisibleChar_of_or h (by decide)

theorem Http.FieldName.isVisible_text (name : FieldName) : IsVisible name.text := by
  have htoken : isToken name.text.toList = true := by
    have hname := name.isFieldName_text
    rw [isFieldName, Bool.and_eq_true, Bool.and_eq_true] at hname
    exact hname.1.1
  rw [isToken, Bool.and_eq_true, List.all_eq_true] at htoken
  exact isVisible_of_forall fun c hc => isVisibleChar_of_isTokenChar (htoken.2 c hc)

namespace Http.Authority

theorem isAuthorityChar_of_step {s s' : Scan} {c : Char} (h : s.step c = .ok s') :
    isAuthorityChar c = true := by
  unfold Scan.step at h
  dsimp only at h
  split at h
  · cases h
  · next hchar => simpa using hchar

/-- **Each character of a host** has been looked at. -/
theorem isAuthorityChar_of_mem {cs : List Char} {s s' : Scan}
    (h : cs.foldlM Scan.step s = .ok s') : ∀ c ∈ cs, isAuthorityChar c = true := by
  induction cs generalizing s with
  | nil => exact fun c hc => absurd hc List.not_mem_nil
  | cons d cs ih =>
    rw [List.foldlM_cons] at h
    obtain ⟨between, hstep, hrest⟩ := Outcome.bind_eq_ok_iff.mp h
    exact List.forall_mem_cons.mpr ⟨isAuthorityChar_of_step hstep, ih hrest⟩

theorem isAuthorityChar_of_mem_text (authority : Authority) :
    ∀ c ∈ authority.text.toList, isAuthorityChar c = true := by
  obtain ⟨scan, hscan, -⟩ := Outcome.bind_eq_ok_iff.mp authority.check_text
  exact isAuthorityChar_of_mem hscan

theorem isVisible_text (authority : Authority) : IsVisible authority.text :=
  isVisible_of_forall fun c hc =>
    isVisibleChar_of_or (authority.isAuthorityChar_of_mem_text c hc) (by decide)

end Http.Authority

/-! ### Numbers and times -/

theorem Decimal.isVisible_toString (n : Nat) : IsVisible (toString n) := by
  refine isVisible_of_forall fun c hc => ?_
  rw [Nat.toString_eq_ofList_toDigits, String.toList_ofList] at hc
  exact isVisibleChar_of_isDigit (Nat.isDigit_of_mem_toDigits (by decide) (by decide) hc)

theorem Date.isVisibleChar_of_mem_basic {d : Date} {c : Char} (h : c ∈ d.basic) :
    isVisibleChar c = true := by
  rcases isDigit_or_eq_sign_of_mem_basic h with hdigit | rfl
  · exact isVisibleChar_of_isDigit hdigit
  · unfold sign
    split <;> decide

namespace Instant

theorem isVisible_dateStamp (t : Instant) : IsVisible t.dateStamp := by
  refine isVisible_of_forall fun c hc => ?_
  rw [dateStamp, String.toList_ofList] at hc
  exact Date.isVisibleChar_of_mem_basic hc

theorem isVisible_timestamp (t : Instant) : IsVisible t.timestamp := by
  refine isVisible_of_forall fun c hc => ?_
  simp only [timestamp, String.toList_ofList, List.mem_append, List.mem_cons, List.not_mem_nil,
    or_false] at hc
  rcases hc with (hdate | rfl | htime) | rfl
  · exact Date.isVisibleChar_of_mem_basic hdate
  · decide
  · exact isVisibleChar_of_isDigit (isDigit_of_mem_timeOfDay htime)
  · decide

end Instant

end SigV4
