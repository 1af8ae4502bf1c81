import SigV4.Proofs.Canonical.Path
import SigV4.Proofs.Canonical.Survivors

/-!
# Resolving a path once and again

What is left of a path are segments that stand for themselves (`SigV4.CanonicalPath.IsPlain`),
and they are laid out with a slash in front of each of them, and perhaps one at the end
(`SigV4.CanonicalPath.Layout`). To resolve what is laid out changes nothing
(`SigV4.CanonicalPath.layout_chars`).

The canonical form is another matter, since escapes are resolved only afterwards. A dot is
unreserved and need not be escaped, but it may be, and then a dot segment is not seen as one
(`SigV4.CanonicalPath.HidesDots`) and comes out of its escapes when the path has already been
resolved.

| | canonical form | canonical form of it |
|---|---|---|
| `/a/../b` | `/b` | `/b` |
| `/a/%2e%2e/b` | `/a/../b` | `/b` |

This is the only way in which a canonical form can have another canonical form than itself
(`SigV4.CanonicalPath.ofPath_ofPath_iff`), and it cannot happen twice: there is no escaped dot
in a canonical form. Where paths are not resolved it cannot happen at all.
-/

namespace SigV4

namespace CanonicalPath

variable {segment : List Char}

/-! ### Layouts -/

/-- **The layout of a path**: segments that are not empty, each with a slash in front of it,
and perhaps a slash behind them. A path without segments is a slash. -/
@[ext] structure Layout where
  /-- The segments. -/
  names : List (List Char)
  /-- Whether a slash follows them. -/
  slash : Bool
  /-- No segment is empty. -/
  ne_nil : ∀ name ∈ names, name ≠ []
  /-- No segment holds a slash. -/
  slash_not_mem : ∀ name ∈ names, '/' ∉ name
  /-- There is a slash if there is no segment. -/
  slash_of_nil : names = [] → slash = true

namespace Layout

/-- All segments of the path, those included that are in front of the first slash and behind
the last one. -/
def segments (l : Layout) : List (List Char) :=
  [] :: (l.names ++ if l.slash then [[]] else [])

/-- The path. -/
def chars (l : Layout) : List Char :=
  ['/'].intercalate l.segments

variable {l l' : Layout}

theorem slash_not_mem_segments : ∀ segment ∈ l.segments, '/' ∉ segment := by
  intro segment hsegment
  rcases List.mem_cons.mp hsegment with rfl | hsegment
  · exact List.not_mem_nil
  rcases List.mem_append.mp hsegment with hname | hlast
  · exact l.slash_not_mem segment hname
  · split at hlast
    · rw [List.mem_singleton.mp hlast]
      exact List.not_mem_nil
    · cases hlast

theorem splitOn_chars (l : Layout) : l.chars.splitOn '/' = l.segments :=
  List.splitOn_intercalate '/' slash_not_mem_segments (List.cons_ne_nil _ _)

theorem head?_chars (l : Layout) : l.chars.head? = some '/' := by
  rw [chars, Joined.head?_intercalate_iff slash_not_mem_segments]
  refine ⟨rfl, fun hnil => ?_⟩
  obtain ⟨hnames, hlast⟩ := List.append_eq_nil_iff.mp hnil
  rw [l.slash_of_nil hnames] at hlast
  cases hlast

theorem chars_eq (l : Layout) :
    l.chars = l.names.flatMap ('/' :: ·) ++ if l.slash then ['/'] else [] := by
  rw [chars, segments, Joined.intercalate_cons_eq, List.nil_append, List.flatMap_append]
  split <;> rfl

/-- The last character tells whether there is a slash behind the segments. -/
theorem getLast?_chars (l : Layout) : l.chars.getLast? = some '/' ↔ l.slash = true := by
  rw [chars_eq]
  cases hslash : l.slash with
  | true => simp
  | false =>
    have hnames : l.names ≠ [] := by
      intro hnil
      rw [l.slash_of_nil hnil] at hslash
      cases hslash
    obtain ⟨front, name, hconcat⟩ := (List.eq_nil_or_concat l.names).resolve_left hnames
    have hmem : name ∈ l.names := by simp [hconcat]
    have hne := l.ne_nil name hmem
    have hend : name.getLast hne ≠ '/' := fun he =>
      l.slash_not_mem name hmem (he ▸ List.getLast_mem hne)
    simp [hconcat, List.getLast?_cons, List.getLast?_eq_some_getLast hne, hend]

/-- The segments are those of the path that are not empty. -/
theorem names_eq_filter (l : Layout) : l.names = l.segments.filter (!·.isEmpty) := by
  have hkept : l.names.filter (!·.isEmpty) = l.names := by
    refine List.filter_eq_self.mpr fun name hname => ?_
    rw [Bool.not_eq_true', List.isEmpty_eq_false_iff]
    exact l.ne_nil name hname
  rw [segments, List.filter_cons_of_neg (by decide), List.filter_append, hkept]
  split <;> simp

/-- **A path has one layout.** -/
theorem chars_injective : Function.Injective chars := by
  intro l l' h
  have hsegments : l.segments = l'.segments := by rw [← splitOn_chars, h, splitOn_chars]
  refine Layout.ext ?_ ?_
  · rw [names_eq_filter, hsegments, names_eq_filter]
  · rw [Bool.eq_iff_iff, ← getLast?_chars, h, getLast?_chars]

/-- Nothing is empty between the first slash and the last one. -/
theorem nil_not_mem_between (l : Layout) : [] ∉ l.segments.tail.dropLast := by
  intro h
  rw [segments, List.tail_cons] at h
  refine l.ne_nil [] ?_ rfl
  split at h
  · rwa [List.dropLast_concat] at h
  · rw [List.append_nil] at h
    exact List.dropLast_subset _ h

/-- The empty segments at both ends have no part in what is left of a path. -/
theorem resolve_segments (l : Layout) : resolve l.segments = resolve l.names := by
  have hempty : ∀ stack, visit stack [] = stack := fun _ => rfl
  rw [segments, resolve, List.foldl_cons, hempty, List.foldl_append]
  split
  · rw [List.foldl_cons, hempty]
    rfl
  · rfl

end Layout

/-! ### Resolving what is resolved -/

/-- **The layout of what is left** of a path. -/
def layout (path : List Char) : Layout where
  names := resolve (path.splitOn '/')
  slash := resolve (path.splitOn '/') = [] || path.getLast? = some '/'
  ne_nil _ hname := (of_mem_resolve hname).2.1
  slash_not_mem _ hname := Joined.not_mem_of_mem_splitOn (of_mem_resolve hname).1
  slash_of_nil hnil := by rw [hnil, decide_eq_true rfl, Bool.true_or]

theorem slash_layout_iff {path : List Char} :
    (layout path).slash = true ↔ (layout path).names = [] ∨ path.getLast? = some '/' := by
  rw [layout, Bool.or_eq_true, decide_eq_true_iff, decide_eq_true_iff]

theorem normalize_eq (path : List Char) : normalize path = (layout path).chars := by
  rw [Layout.chars_eq, normalize, layout]
  simp only [Bool.or_eq_true, decide_eq_true_iff]

theorem isPlain_of_mem_layout {path : List Char} : ∀ name ∈ (layout path).names, IsPlain name :=
  fun _ hname => (of_mem_resolve hname).2

/-- What is left of a path that is laid out. -/
theorem names_layout_chars (l : Layout) : (layout l.chars).names = resolve l.names := by
  rw [← l.resolve_segments, ← l.splitOn_chars]
  rfl

/-- **To resolve what is resolved** changes nothing. -/
theorem layout_chars {l : Layout} (h : ∀ name ∈ l.names, IsPlain name) :
    layout l.chars = l := by
  have hnames : (layout l.chars).names = l.names := by
    rw [names_layout_chars, resolve_eq_self_iff.mpr h]
  refine Layout.ext hnames ?_
  rw [Bool.eq_iff_iff, slash_layout_iff, hnames, l.getLast?_chars]
  exact or_iff_right_of_imp l.slash_of_nil

/-! ### Escapes in a resolved path -/

/-- The layout of a path with the escapes in its segments resolved and written again. -/
def Layout.escaped (l : Layout) : Layout where
  names := l.names.map (encodeSegment false)
  slash := l.slash
  ne_nil name hname := by
    obtain ⟨segment, hsegment, rfl⟩ := List.mem_map.mp hname
    exact mt encodeSegment_eq_nil_iff.mp (l.ne_nil segment hsegment)
  slash_not_mem := slash_not_mem_map
  slash_of_nil hnil := l.slash_of_nil (List.map_eq_nil_iff.mp hnil)

theorem Layout.encode_chars (l : Layout) : encode false l.chars = l.escaped.chars := by
  rw [encode_eq, CanonicalPath.segments_of_head? l.head?_chars, l.splitOn_chars, Layout.chars,
    Layout.segments, Layout.segments, List.map_cons, List.map_append]
  congr 3
  rw [Layout.escaped]
  split <;> rfl

/-- What was escaped is not changed by escaping it. -/
theorem Layout.escaped_escaped (l : Layout) : l.escaped.escaped = l.escaped := by
  refine Layout.ext ?_ rfl
  change (l.names.map (encodeSegment false)).map (encodeSegment false) = _
  rw [List.map_map]
  exact List.map_congr_left fun segment _ => encodeSegment_encodeSegment segment

theorem toList_ofPath_true (path : String) :
    (ofPath false true path).toList = (layout path.toList).escaped.chars := by
  rw [toList_ofPath, if_pos rfl, normalize_eq, Layout.encode_chars]

/-- Escapes that were resolved and written again stay as they are in the whole path. -/
theorem encode_encode (path : List Char) :
    encode false (encode false path) = encode false path := by
  rw [encode_eq (encode false path), segments_encode, encode_eq, List.map_map]
  congr 1
  exact List.map_congr_left fun segment _ => encodeSegment_encodeSegment segment

/-! ### Dots behind escapes -/

/-- **Whether a path hides a dot segment** behind escapes: among the segments that are left
of it, one has the octets of a dot segment. -/
def HidesDots (path : String) : Prop :=
  ∃ segment ∈ (layout path.toList).names,
    Percent.decode segment = [0x2E] ∨ Percent.decode segment = [0x2E, 0x2E]

theorem isDots_encodeSegment_iff :
    IsDots (encodeSegment false segment) ↔
      Percent.decode segment = [0x2E] ∨ Percent.decode segment = [0x2E, 0x2E] :=
  or_congr (Percent.encode_injective.eq_iff' rfl) (Percent.encode_injective.eq_iff' rfl)

/-- Dot segments are looked for where there is something. -/
theorem Layout.exists_isDots_iff (l : Layout) :
    (∃ segment ∈ l.segments, IsDots segment) ↔ ∃ name ∈ l.names, IsDots name := by
  have hempty : ¬IsDots [] := by simp [IsDots]
  rw [Layout.segments]
  split <;> simp [hempty]

theorem exists_isDots_escaped_iff {path : String} :
    (∃ name ∈ (layout path.toList).escaped.names, IsDots name) ↔ HidesDots path := by
  rw [HidesDots, Layout.escaped]
  simp only [List.mem_map, exists_exists_and_eq_and, isDots_encodeSegment_iff]

theorem isPlain_escaped_iff {path : String} :
    (∀ name ∈ (layout path.toList).escaped.names, IsPlain name) ↔ ¬HidesDots path := by
  rw [← exists_isDots_escaped_iff]
  push Not
  exact forall₂_congr fun name hname => and_iff_right (Layout.ne_nil _ name hname)

/-- What is left of escaped segments is escaped. -/
theorem Layout.escaped_layout_chars (l : Layout) :
    (layout l.escaped.chars).escaped.names = (layout l.escaped.chars).names := by
  refine (List.map_congr_left fun name hname => ?_).trans (List.map_id _)
  rw [names_layout_chars] at hname
  obtain ⟨segment, -, rfl⟩ := List.mem_map.mp (of_mem_resolve hname).1
  exact encodeSegment_encodeSegment segment

/-- **A canonical form is its own canonical form** exactly if the path hides no dots. -/
theorem ofPath_true_ofPath_iff {path : String} :
    ofPath false true (ofPath false true path) = ofPath false true path ↔ ¬HidesDots path := by
  rw [← String.toList_inj, toList_ofPath_true, toList_ofPath_true, Layout.chars_injective.eq_iff,
    ← isPlain_escaped_iff]
  constructor
  · intro h
    rw [← resolve_eq_self_iff, ← names_layout_chars, ← Layout.escaped_layout_chars, h]
  · intro h
    rw [layout_chars h, Layout.escaped_escaped]

/-- A canonical form hides no dots, even if it has some. -/
theorem not_hidesDots_ofPath (path : String) : ¬HidesDots (ofPath false true path) := by
  rw [← isPlain_escaped_iff, toList_ofPath_true, Layout.escaped_layout_chars]
  exact isPlain_of_mem_layout

/-- **The canonical form of a canonical form**. Where paths are not resolved it is the same
canonical form. Where they are resolved, nothing is empty between the first slash and the last
one, and there is a dot segment exactly if the path hides one. In that case, and in no other,
the canonical form has another one, which is its own canonical form. -/
theorem ofPath_ofPath_iff (path : String) :
    ofPath false false (ofPath false false path) = ofPath false false path ∧
      [] ∉ (segments (ofPath false true path).toList).tail.dropLast ∧
      ((∃ segment ∈ segments (ofPath false true path).toList, IsDots segment) ↔
        HidesDots path) ∧
      (ofPath false true (ofPath false true path) = ofPath false true path ↔ ¬HidesDots path) ∧
      ofPath false true (ofPath false true (ofPath false true path)) =
        ofPath false true (ofPath false true path) := by
  have hsegments : segments (ofPath false true path).toList =
      (layout path.toList).escaped.segments := by
    rw [toList_ofPath_true, segments_of_head? (Layout.head?_chars _), Layout.splitOn_chars]
  refine ⟨?_, ?_, ?_, ofPath_true_ofPath_iff,
    ofPath_true_ofPath_iff.mpr (not_hidesDots_ofPath path)⟩
  · rw [← String.toList_inj, toList_ofPath, toList_ofPath]
    exact encode_encode _
  · rw [hsegments]
    exact Layout.nil_not_mem_between _
  · rw [hsegments, Layout.exists_isDots_iff, exists_isDots_escaped_iff]

/-- **A dot segment comes out of its escapes** when the path has been resolved. -/
theorem ofPath_ofPath_ne :
    ['.', '.'] ∈ segments (ofPath false true "/a/%2e%2e/b").toList ∧
      ofPath false true (ofPath false true "/a/%2e%2e/b") ≠
        ofPath false true "/a/%2e%2e/b" := by
  decide +kernel

end CanonicalPath

end SigV4
