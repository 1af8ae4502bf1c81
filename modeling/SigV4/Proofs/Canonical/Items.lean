import SigV4.Proofs.Canonical.Query
import SigV4.Proofs.Form.RoundTrip
import SigV4.Proofs.Http.Visible
import SigV4.Proofs.Text.Order

/-!
# A canonical query is read item by item

Whoever receives a canonical query can take it apart at its ampersands, and each item at its
first equals sign (`SigV4.CanonicalQuery.items`). What comes out are the escaped parameters in
the order of their octets, by name and then by value (`SigV4.CanonicalQuery.items_ofParams`).
This is not the order of the items as texts: `=` comes behind `-`, `.`, `%` and the digits, so
`a-=` is in front of `a=` as a text, and behind it as a parameter.

The reader of queries gets back the parameters themselves
(`SigV4.CanonicalQuery.perm_decode_ofParams`). It skips empty pieces, and there are none, since
a parameter has its `=` even where name and value are empty. So nothing is lost here that was
in the list, other than in a query that is written to be sent
(`SigV4.Form.decode_encode`).
-/

namespace SigV4

namespace CanonicalQuery

open Http.FieldValue

/-! ### Reading -/

/-- An item split at its first equals sign. -/
def splitItem (item : List Char) : Octets × Octets :=
  let name := item.takeWhile (· != '=')
  (Octets.ofText (String.ofList name),
    Octets.ofText (String.ofList (item.drop (name.length + 1))))

/-- **The items of a query**: what stands between its ampersands, split into names and values.
An empty text has none. -/
def items (text : String) : List (Octets × Octets) :=
  if text = "" then [] else (text.toList.splitOn '&').map splitItem

theorem sorted_eq_nil_iff {query : List Param} : sorted query = [] ↔ query = [] := by
  rw [← List.length_eq_zero_iff, (sorted_perm query).length_eq, List.length_map,
    List.length_eq_zero_iff]

theorem ofParams_eq_empty_iff {query : List Param} : ofParams query = "" ↔ query = [] := by
  rw [← sorted_eq_nil_iff]
  constructor
  · exact fun h => sorted_eq_nil (congrArg String.toList h)
  · intro h
    rw [ofParams, h]
    rfl

/-- **The ampersands of a canonical query** are those between its parameters. -/
theorem splitOn_ofParams {query : List Param} (h : query ≠ []) :
    (ofParams query).toList.splitOn '&' = (sorted query).map piece := by
  have hne : (sorted query).map piece ≠ [] := by
    rwa [Ne, List.map_eq_nil_iff, sorted_eq_nil_iff]
  rw [toList_ofParams, List.splitOn_intercalate _ (fun _ => amp_not_mem_of_mem_pieces) hne]

theorem takeWhile_piece (p : Param) :
    (piece (escape p)).takeWhile (· != '=') = (escape p).name.toList := by
  have hname : ∀ c ∈ (escape p).name.toList, (c != '=') = true := by
    intro c hc
    rw [escape, Percent.toList_encodeText] at hc
    rw [bne_iff_ne]
    rintro rfl
    exact Percent.not_mem_encode (by decide) (by decide) _ hc
  rw [piece, List.takeWhile_append_of_pos hname, List.takeWhile_cons_of_neg (by decide),
    List.append_nil]

theorem drop_piece (param : Param) :
    (piece param).drop (param.name.toList.length + 1) = param.value.toList := by
  rw [piece, ← List.drop_drop, List.drop_left, List.drop_one, List.tail_cons]

theorem splitItem_piece (p : Param) :
    splitItem (piece (escape p)) = Form.paramOctets (escape p) := by
  rw [splitItem, takeWhile_piece, drop_piece, String.ofList_toList, String.ofList_toList]
  rfl

/-- **What is read item by item** are the escaped parameters in order. -/
theorem items_ofParams (query : List Param) :
    items (ofParams query) = (sorted query).map Form.paramOctets := by
  rw [items]
  split
  · next hempty =>
    rw [sorted_eq_nil_iff.mpr (ofParams_eq_empty_iff.mp hempty), List.map_nil]
  · next hne =>
    rw [splitOn_ofParams (mt ofParams_eq_empty_iff.mpr hne), List.map_map]
    refine List.map_congr_left fun param hparam => ?_
    obtain ⟨p, rfl⟩ := exists_escape_of_mem_sorted hparam
    exact splitItem_piece p

/-! ### The order -/

theorem isVisible_encodeText (s : String) : IsVisible (Percent.encodeText s) := by
  refine isVisible_of_forall fun c hc => ?_
  rw [Percent.toList_encodeText] at hc
  by_cases hpercent : c = '%'
  · rw [hpercent]
    decide
  · have hunreserved := Percent.isUnreserved_of_mem_encode hc hpercent
    rw [Percent.isUnreserved, Bool.or_assoc, Bool.or_assoc, Bool.or_assoc] at hunreserved
    exact @isVisibleChar_of_or c ['-', '.', '_', '~'] (by simpa using hunreserved) (by decide)

/-- **Escaped parameters are in the order of their octets.** -/
theorem le_escape_iff {p q : Param} :
    le (escape p) (escape q) = true ↔
      Prod.Lex (· < ·) (· ≤ ·) (Form.paramOctets (escape p)) (Form.paramOctets (escape q)) := by
  have hname := fun p : Param => isVisible_encodeText p.name
  have hvalue := fun p : Param => isVisible_encodeText p.value
  rw [le_iff, Prod.lex_iff, escape, escape, Form.paramOctets, Form.paramOctets,
    Octets.ofText_lt_ofText_iff (hname p) (hname q), Octets.ofText_injective.eq_iff,
    Octets.ofText_le_ofText_iff (hvalue p) (hvalue q)]

theorem pairwise_items (query : List Param) :
    (items (ofParams query)).Pairwise (Prod.Lex (· < ·) (· ≤ ·)) := by
  rw [items_ofParams, List.pairwise_map]
  refine (pairwise_sorted query).imp_of_mem fun {param param'} hparam hparam' hle => ?_
  obtain ⟨p, rfl⟩ := exists_escape_of_mem_sorted hparam
  obtain ⟨q, rfl⟩ := exists_escape_of_mem_sorted hparam'
  exact le_escape_iff.mp hle

/-- The shorter name is first, although its `=` comes behind the `-` of the longer one. -/
example : ofParams [⟨"a-", ""⟩, ⟨"a", ""⟩] = "a=&a-=" := by cbv

theorem perm_items (query : List Param) :
    (items (ofParams query)).Perm (query.map fun p => Form.paramOctets (escape p)) := by
  have hmap := (sorted_perm query).map Form.paramOctets
  rwa [List.map_map, ← items_ofParams] at hmap

/-! ### Decoding -/

theorem splitParam_piece (p : Param) :
    Form.splitParam (piece (escape p)) = Form.paramOctets p := by
  rw [Form.splitParam, takeWhile_piece, drop_piece, escape, Percent.toList_encodeText,
    Percent.toList_encodeText, Form.octets_encode, Form.octets_encode]
  rfl

theorem decode_ofParams {query : List Param} (h : query ≠ []) :
    Form.decode (ofParams query) =
      (sorted query).map fun param => Form.readParam (Form.splitParam (piece param)) := by
  -- A piece has its equals sign, so the reader skips none.
  have hall : ((sorted query).map piece).filter (!·.isEmpty) = (sorted query).map piece := by
    refine List.filter_eq_self.mpr fun cs hcs => ?_
    obtain ⟨param, -, rfl⟩ := List.mem_map.mp hcs
    rw [Bool.not_eq_true', List.isEmpty_eq_false_iff]
    exact List.append_ne_nil_of_right_ne_nil _ (List.cons_ne_nil _ _)
  rw [Form.decode, Form.decodeOctets, splitOn_ofParams h, hall, List.map_map, List.map_map]
  rfl

/-- **The parameters are read back**, up to their order. -/
theorem perm_decode_ofParams (query : List Param) :
    (Form.decode (ofParams query)).Perm query := by
  rcases eq_or_ne query [] with rfl | hne
  · rw [ofParams_eq_empty_iff.mpr rfl]
    exact List.Perm.refl _
  · rw [decode_ofParams hne]
    refine ((sorted_perm query).map _).trans (List.Perm.of_eq ?_)
    rw [List.map_map]
    refine (List.map_congr_left fun p _ => ?_).trans (List.map_id _)
    rw [Function.comp_apply, splitParam_piece, Form.readParam_paramOctets]
    rfl

/-- **A canonical query is faithful.** It is the same for any order of the parameters, and only
then; its items are the escaped parameters in the order of their octets, by name and then by
value; and it is read as the parameters, each as often as it is there, up to their order. -/
theorem pairwise_items_and_perm (query : List Param) :
    (∀ query', ofParams query = ofParams query' ↔ query.Perm query') ∧
      (items (ofParams query)).Perm (query.map fun p => Form.paramOctets (escape p)) ∧
      (items (ofParams query)).Pairwise (Prod.Lex (· < ·) (· ≤ ·)) ∧
      (Form.decode (ofParams query)).Perm query :=
  ⟨fun _ => ofParams_eq_iff_perm, perm_items query, pairwise_items query,
    perm_decode_ofParams query⟩

end CanonicalQuery

end SigV4
