import Mathlib.Data.List.Perm.Basic
import SigV4.Canonical.Query
import SigV4.Proofs.Octets.Escapes
import SigV4.Proofs.Text.Joined

/-!
# What a canonical query says

A canonical query says which parameters there are, and how often, and nothing else: two
lists of parameters have the same one exactly when one is a rearrangement of the other
(`SigV4.CanonicalQuery.ofParams_eq_iff_perm`).

One half is that sorting forgets the order and only the order, which needs the comparison
of parameters to be a linear order. The other half is that the text determines the sorted
list. Names and values are escaped, so neither can hold the `&` that ends a parameter or
the `=` that ends a name; and a parameter always has its `=`, so one parameter that is
empty altogether is not the same as none.
-/

namespace SigV4

namespace CanonicalQuery

/-! ### The order -/

theorem le_iff {p q : Param} :
    le p q = true ↔ p.name < q.name ∨ (p.name = q.name ∧ p.value ≤ q.value) := by
  rw [le, Bool.or_eq_true, Bool.and_eq_true, decide_eq_true_iff, decide_eq_true_iff, beq_iff_eq]

theorem le_trans {p q r : Param} (h : le p q = true) (h' : le q r = true) : le p r = true := by
  rw [le_iff] at h h' ⊢
  rcases h with hlt | ⟨heq, hle⟩
  · rcases h' with hlt' | ⟨heq', -⟩
    · exact Or.inl (String.lt_trans hlt hlt')
    · exact Or.inl (heq' ▸ hlt)
  · rcases h' with hlt' | ⟨heq', hle'⟩
    · exact Or.inl (heq ▸ hlt')
    · exact Or.inr ⟨heq.trans heq', String.le_trans hle hle'⟩

theorem le_total (p q : Param) : le p q = true ∨ le q p = true := by
  rw [le_iff, le_iff]
  by_cases heq : p.name = q.name
  · rcases String.le_total p.value q.value with hle | hle
    · exact Or.inl (Or.inr ⟨heq, hle⟩)
    · exact Or.inr (Or.inr ⟨heq.symm, hle⟩)
  · by_cases hlt : p.name < q.name
    · exact Or.inl (Or.inl hlt)
    · have hle := String.not_lt.mp hlt
      exact Or.inr (Or.inl (String.not_le.mp fun hle' => heq (String.le_antisymm hle' hle)))

theorem le_antisymm {p q : Param} (h : le p q = true) (h' : le q p = true) : p = q := by
  rw [le_iff] at h h'
  rcases h with hlt | ⟨heq, hle⟩
  · rcases h' with hlt' | ⟨heq', -⟩
    · exact absurd hlt' (String.lt_asymm hlt)
    · exact absurd heq'.symm (String.ne_of_lt hlt)
  · rcases h' with hlt' | ⟨-, hle'⟩
    · exact absurd heq.symm (String.ne_of_lt hlt')
    · obtain ⟨name, value⟩ := p
      obtain ⟨name', value'⟩ := q
      obtain rfl : name = name' := heq
      obtain rfl : value = value' := String.le_antisymm hle hle'
      rfl

/-! ### Sorting -/

theorem escape_injective : Function.Injective escape := by
  rintro ⟨name, value⟩ ⟨name', value'⟩ h
  obtain rfl : name = name' := Percent.encodeText_injective (congrArg Param.name h)
  obtain rfl : value = value' := Percent.encodeText_injective (congrArg Param.value h)
  rfl

theorem pairwise_sorted (query : List Param) :
    (sorted query).Pairwise fun p q => le p q = true := by
  have htrans : ∀ p q r : Param, le p q = true → le q r = true → le p r = true :=
    fun _ _ _ h h' => le_trans h h'
  have htotal : ∀ p q : Param, (le p q || le q p) = true :=
    fun p q => (Bool.or_eq_true _ _).mpr (le_total p q)
  rw [sorted]
  exact List.pairwise_mergeSort htrans htotal _

theorem sorted_perm (query : List Param) : (sorted query).Perm (query.map escape) :=
  List.mergeSort_perm _ _

/-- **Sorting forgets the order**, and only the order. -/
theorem sorted_eq_iff_perm {query query' : List Param} :
    sorted query = sorted query' ↔ query.Perm query' := by
  constructor
  · intro h
    have hperm := (sorted_perm query).symm.trans (h ▸ sorted_perm query')
    exact (List.map_perm_map_iff escape_injective).mp hperm
  · intro h
    have hperm : (sorted query).Perm (sorted query') :=
      (sorted_perm query).trans ((h.map escape).trans (sorted_perm query').symm)
    exact hperm.eq_of_pairwise (fun _ _ _ _ => le_antisymm) (pairwise_sorted query)
      (pairwise_sorted query')

/-! ### The text -/

/-- The characters of a parameter in a canonical query. -/
def piece (param : Param) : List Char :=
  param.name.toList ++ '=' :: param.value.toList

theorem toList_ofParams (query : List Param) :
    (ofParams query).toList = ['&'].intercalate ((sorted query).map piece) := by
  rw [ofParams, String.toList_intercalate, List.map_map]
  refine congrArg _ (List.map_congr_left fun param _ => ?_)
  rw [Function.comp_apply, String.toList_append, String.toList_append, List.append_assoc]
  rfl

theorem exists_escape_of_mem_sorted {query : List Param} {param : Param}
    (h : param ∈ sorted query) : ∃ p, param = escape p := by
  obtain ⟨p, -, rfl⟩ := List.mem_map.mp ((sorted_perm query).mem_iff.mp h)
  exact ⟨p, rfl⟩

/-- A separator other than `=` does not stand in an escaped parameter. -/
theorem not_mem_piece {c : Char} (hu : Percent.isUnreserved c = false) (hc : c ≠ '%')
    (heq : c ≠ '=') (p : Param) : c ∉ piece (escape p) := by
  rw [piece, escape, Percent.toList_encodeText, Percent.toList_encodeText, List.mem_append,
    List.mem_cons]
  rintro (h | h | h)
  · exact Percent.not_mem_encode hu hc _ h
  · exact heq h
  · exact Percent.not_mem_encode hu hc _ h

/-- An ampersand of a canonical query is never that of a parameter. -/
theorem amp_not_mem_of_mem_pieces {query : List Param} {cs : List Char}
    (h : cs ∈ (sorted query).map piece) : '&' ∉ cs := by
  obtain ⟨param, hparam, rfl⟩ := List.mem_map.mp h
  obtain ⟨p, rfl⟩ := exists_escape_of_mem_sorted hparam
  exact not_mem_piece (by decide) (by decide) (by decide) p

theorem not_mem_ofParams {c : Char} (hu : Percent.isUnreserved c = false) (hc : c ≠ '%')
    (heq : c ≠ '=') (hamp : c ≠ '&') (query : List Param) : c ∉ (ofParams query).toList := by
  rw [toList_ofParams]
  refine Joined.not_mem_intercalate hamp fun cs hcs => ?_
  obtain ⟨param, hparam, rfl⟩ := List.mem_map.mp hcs
  obtain ⟨p, rfl⟩ := exists_escape_of_mem_sorted hparam
  exact not_mem_piece hu hc heq p

theorem piece_inj {p q : Param} (h : piece (escape p) = piece (escape q)) :
    escape p = escape q := by
  have hname : ∀ s, '=' ∉ (Percent.encodeText s).toList := by
    intro s
    rw [Percent.toList_encodeText]
    exact Percent.not_mem_encode (by decide) (by decide) _
  obtain ⟨hn, hv⟩ := Joined.pair_inj (hname p.name) (hname q.name) h
  exact congrArg₂ Param.mk (String.toList_injective hn) (String.toList_injective hv)

theorem eq_of_map_piece : ∀ {params params' : List Param},
    (∀ param ∈ params, ∃ p, param = escape p) → (∀ param ∈ params', ∃ p, param = escape p) →
    params.map piece = params'.map piece → params = params'
  | [], [], _, _, _ => rfl
  | [], _ :: _, _, _, h => by cases h
  | _ :: _, [], _, _, h => by cases h
  | param :: params, param' :: params', hp, hp', h => by
    obtain ⟨p, rfl⟩ := hp param List.mem_cons_self
    obtain ⟨p', rfl⟩ := hp' param' List.mem_cons_self
    obtain ⟨hfirst, hrest⟩ := List.cons.inj h
    rw [piece_inj hfirst, eq_of_map_piece (fun q hq => hp q (List.mem_cons_of_mem _ hq))
      (fun q hq => hp' q (List.mem_cons_of_mem _ hq)) hrest]

/-- No parameters at all are told from any others. -/
theorem sorted_eq_nil {query : List Param} (h : (ofParams query).toList = []) :
    sorted query = [] := by
  rw [toList_ofParams] at h
  cases hs : sorted query with
  | nil => rfl
  | cons p rest =>
    rw [hs, List.map_cons] at h
    have hne : piece p ≠ [] := List.append_ne_nil_of_right_ne_nil _ (List.cons_ne_nil _ _)
    rcases eq_or_ne (rest.map piece) [] with hnil | hcons
    · rw [hnil, List.intercalate_singleton] at h
      exact absurd h hne
    · rw [List.intercalate_cons_of_ne_nil hcons, List.append_assoc] at h
      exact absurd (List.append_eq_nil_iff.mp h).1 hne

/-- **A canonical query says which parameters there are**, and nothing about their order. -/
theorem ofParams_eq_iff_perm {query query' : List Param} :
    ofParams query = ofParams query' ↔ query.Perm query' := by
  rw [← sorted_eq_iff_perm]
  constructor
  · intro h
    have hchars := congrArg String.toList h
    -- Without parameters there is no piece, and the empty text has one piece, which is empty.
    by_cases hnil : sorted query = []
    · rw [toList_ofParams, hnil] at hchars
      rw [hnil, sorted_eq_nil hchars.symm]
    by_cases hnil' : sorted query' = []
    · rw [toList_ofParams query', hnil'] at hchars
      rw [hnil', sorted_eq_nil hchars]
    rw [toList_ofParams, toList_ofParams] at hchars
    have hpieces := Joined.intercalate_inj (by simpa using hnil) (by simpa using hnil')
      (fun _ => amp_not_mem_of_mem_pieces) (fun _ => amp_not_mem_of_mem_pieces) hchars
    exact eq_of_map_piece (fun _ => exists_escape_of_mem_sorted)
      (fun _ => exists_escape_of_mem_sorted) hpieces
  · intro h
    rw [ofParams, ofParams, h]

end CanonicalQuery

end SigV4
