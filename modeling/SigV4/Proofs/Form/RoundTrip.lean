import Mathlib.Data.List.TakeWhile
import SigV4.Form
import SigV4.Proofs.Octets.Escapes
import SigV4.Proofs.Text.Joined

/-!
# A written query is read back

`SigV4.Form.encode` and `SigV4.Form.decode` are written apart and must agree, since
what is signed is a list of parameters and what is sent is a text. The reader has
more to say than the writer: it knows `+` for a blank, it takes undecodable octets, it
skips empty pieces. None of this is in the way, because the writer escapes whatever the
reader could take for something else.

* `SigV4.Form.splitParam_encodeParam` – one parameter, with its value or without;
* `SigV4.Form.decode_encode` – the whole list, less what cannot come back.

A parameter that is empty altogether does not come back: it is written as nothing, and
nothing is no parameter. All others do, whatever stands between them.
-/

namespace SigV4

namespace Form

/-! ### One parameter -/

/-- A parameter whose name and value are octets, read as texts. -/
def readParam (pair : Octets × Octets) : Param :=
  { name := Unicode.decodeText pair.1, value := Unicode.decodeText pair.2 }

/-- The octets of a parameter. -/
def paramOctets (param : Param) : Octets × Octets :=
  (Octets.ofText param.name, Octets.ofText param.value)

/-- The octets of a parameter are read as the parameter. -/
theorem readParam_paramOctets (p : Param) : readParam (paramOctets p) = p := by
  rw [readParam, paramOctets, Unicode.decodeText_ofText, Unicode.decodeText_ofText]

theorem octets_encode (bs : Octets) : octets (Percent.encode bs) = bs := by
  -- The reader takes a plus sign for a blank, and the writer has none.
  have hplus : (Percent.encode bs).map (fun c => if c = '+' then ' ' else c) =
      (Percent.encode bs).map id := by
    refine List.map_congr_left fun c hc => if_neg ?_
    rintro rfl
    exact Percent.not_mem_encode (by decide) (by decide) _ hc
  rw [octets, hplus, List.map_id, Percent.decode_encode]

theorem toList_encodeParam (p : Param) :
    (encodeParam p).toList = Percent.encode (Octets.ofText p.name) ++
      if p.value = "" then [] else '=' :: Percent.encode (Octets.ofText p.value) := by
  unfold encodeParam
  split
  · rw [Percent.toList_encodeText, List.append_nil]
  · rw [String.toList_append, String.toList_append, Percent.toList_encodeText,
      Percent.toList_encodeText, List.append_assoc]
    rfl

/-- **A written parameter is read back**, as octets. -/
theorem splitParam_encodeParam (p : Param) :
    splitParam (encodeParam p).toList = (Octets.ofText p.name, Octets.ofText p.value) := by
  have hname : ∀ c ∈ Percent.encode (Octets.ofText p.name), (c != '=') = true := by
    intro c hc
    rw [bne_iff_ne]
    rintro rfl
    exact Percent.not_mem_encode (by decide) (by decide) _ hc
  rw [toList_encodeParam, splitParam]
  split
  · next hv =>
    rw [List.append_nil, List.takeWhile_eq_self_iff.mpr hname,
      List.drop_eq_nil_of_le (Nat.le_succ _), octets_encode, hv]
    rfl
  · rw [List.takeWhile_append_of_pos hname, List.takeWhile_cons_of_neg (by decide),
      List.append_nil, octets_encode, ← List.drop_drop, List.drop_left, List.drop_one,
      List.tail_cons, octets_encode]

/-- A separator that is not the equals sign never stands in a written parameter. -/
theorem not_mem_encodeParam {c : Char} (hu : Percent.isUnreserved c = false) (hc : c ≠ '%')
    (heq : c ≠ '=') (p : Param) : c ∉ (encodeParam p).toList := by
  rw [toList_encodeParam, List.mem_append, not_or]
  refine ⟨Percent.not_mem_encode hu hc _, ?_⟩
  split
  · exact List.not_mem_nil
  · rw [List.mem_cons, not_or]
    exact ⟨heq, Percent.not_mem_encode hu hc _⟩

/-- Only the parameter that is empty altogether is written as nothing. -/
theorem toList_encodeParam_eq_nil_iff {p : Param} :
    (encodeParam p).toList = [] ↔ p = ⟨"", ""⟩ := by
  constructor
  · intro hnil
    rw [toList_encodeParam, List.append_eq_nil_iff, Percent.encode_eq_nil_iff] at hnil
    obtain ⟨hname, hvalue⟩ := hnil
    split at hvalue
    · next hv =>
      obtain ⟨name, value⟩ := p
      obtain rfl : name = "" := Octets.ofText_injective hname
      exact congrArg (Param.mk "") hv
    · exact absurd hvalue (List.cons_ne_nil _ _)
  · rintro rfl
    rfl

/-! ### All parameters -/

theorem toList_encode (params : List Param) :
    (encode params).toList = ['&'].intercalate (params.map fun p => (encodeParam p).toList) := by
  rw [encode, String.toList_intercalate, List.map_map]
  rfl

/-- A separator that is neither `&` nor `=` never stands in a written query. -/
theorem not_mem_encode {c : Char} (hu : Percent.isUnreserved c = false) (hc : c ≠ '%')
    (heq : c ≠ '=') (hamp : c ≠ '&') (params : List Param) : c ∉ (encode params).toList := by
  rw [toList_encode]
  refine Joined.not_mem_intercalate hamp fun cs hcs => ?_
  obtain ⟨p, -, rfl⟩ := List.mem_map.mp hcs
  exact not_mem_encodeParam hu hc heq p

/-- **The octets of a written query** are those of the names and values. -/
theorem decodeOctets_encode (params : List Param) :
    decodeOctets (encode params).toList =
      (params.filter (· ≠ ⟨"", ""⟩)).map fun p => (Octets.ofText p.name, Octets.ofText p.value) := by
  rcases eq_or_ne params [] with rfl | hne
  · rfl
  · have hamp : ∀ cs ∈ params.map fun p => (encodeParam p).toList, '&' ∉ cs := by
      rintro cs hcs
      obtain ⟨p, -, rfl⟩ := List.mem_map.mp hcs
      exact not_mem_encodeParam (by decide) (by decide) (by decide) p
    -- The reader skips what is empty, which is what had nothing to be written.
    have hkept : ∀ p ∈ params, (!(encodeParam p).toList.isEmpty) = decide (p ≠ ⟨"", ""⟩) := by
      intro p _
      rw [Bool.eq_iff_iff, Bool.not_eq_true', List.isEmpty_eq_false_iff, decide_eq_true_iff]
      exact not_congr toList_encodeParam_eq_nil_iff
    rw [decodeOctets, toList_encode, List.splitOn_intercalate _ hamp (by simpa using hne),
      List.filter_map, List.map_map]
    have hfilter : params.filter ((fun cs : List Char => !cs.isEmpty) ∘ fun p =>
        (encodeParam p).toList) = params.filter (· ≠ ⟨"", ""⟩) :=
      List.filter_congr hkept
    rw [hfilter]
    exact List.map_congr_left fun p _ => splitParam_encodeParam p

/-- **A written query is read back**, but for the parameters that are empty altogether. -/
theorem decode_encode (params : List Param) :
    decode (encode params) = params.filter (· ≠ ⟨"", ""⟩) := by
  rw [decode, decodeOctets_encode, List.map_map]
  exact (List.map_congr_left fun p _ => readParam_paramOctets p).trans (List.map_id _)

end Form

end SigV4
