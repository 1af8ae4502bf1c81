import SigV4.Canonical.Path
import SigV4.Proofs.Octets.Escapes
import SigV4.Proofs.Text.Joined

/-!
# What a canonical path tells of a path

Two paths have the same canonical form exactly when they are the same path to whoever
receives them, and what that means depends on how segments are treated
(`SigV4.CanonicalPath.ofPath_eq_ofPath_iff`).

* If the wire form is escaped once more, nothing is lost, and only equal paths have equal
  canonical forms.
* If escapes are resolved first, the canonical form holds the octets of each segment and no
  more. An escaped slash is an octet of its segment; a slash that separates segments is not.

In both cases a path is completed beforehand (`SigV4.CanonicalPath.complete`): a slash is put
in front of it unless it has one, and so nothing becomes a slash. The canonical form is
completed after it was escaped, and the order makes no difference, because a segment is
escaped as nothing only if it is nothing (`SigV4.CanonicalPath.encode_eq`).
-/

namespace SigV4

/-- Only nothing is decoded to nothing. -/
theorem Percent.decode_eq_nil_iff {cs : List Char} : decode cs = [] ↔ cs = [] := by
  have hne : ∀ c, String.utf8EncodeChar c ≠ [] := by
    intro c hc
    have hread := Unicode.decode_utf8EncodeChar_append c []
    rw [hc, List.nil_append, Unicode.decode] at hread
    cases hread
  constructor
  · intro h
    unfold decode at h
    split at h
    · rfl
    · split at h
      · cases h
      · exact absurd (List.append_eq_nil_iff.mp h).1 (hne _)
    · exact absurd (List.append_eq_nil_iff.mp h).1 (hne _)
  · rintro rfl
    rfl

namespace CanonicalPath

/-! ### Completed paths -/

/-- **A path completed**: nothing is taken for a slash, and a slash that is missing in front
is put there. -/
def complete (path : String) : String :=
  String.ofList (rooted path.toList)

/-- The segments of a completed path. The first of them is empty, since nothing is in front
of the first slash. -/
def segments (path : List Char) : List (List Char) :=
  (rooted path).splitOn '/'

/-- **The octets of the segments** of a completed path, with escapes resolved. -/
def segmentOctets (path : String) : List Octets :=
  (segments path.toList).map Percent.decode

theorem head?_rooted (path : List Char) : (rooted path).head? = some '/' := by
  rw [rooted]
  split
  · assumption
  · rfl

theorem rooted_of_head? {path : List Char} (h : path.head? = some '/') : rooted path = path :=
  if_pos h

theorem rooted_of_ne {path : List Char} (h : path.head? ≠ some '/') :
    rooted path = '/' :: path :=
  if_neg h

theorem segments_rooted (path : List Char) : segments (rooted path) = segments path := by
  rw [segments, rooted_of_head? (head?_rooted path), segments]

theorem segments_of_head? {path : List Char} (h : path.head? = some '/') :
    segments path = path.splitOn '/' := by
  rw [segments, rooted_of_head? h]

theorem segments_of_ne {path : List Char} (h : path.head? ≠ some '/') :
    segments path = [] :: path.splitOn '/' := by
  rw [segments, rooted_of_ne h, List.splitOn_cons_eq_if_modifyHead, if_pos (by decide)]

theorem map_segments_ne_nil {α : Type} (f : List Char → α) (path : List Char) :
    (segments path).map f ≠ [] :=
  mt List.map_eq_nil_iff.mp (List.splitOn_ne_nil _ _)

theorem complete_eq_complete_iff {path path' : String} :
    complete path = complete path' ↔ segments path.toList = segments path'.toList := by
  rw [complete, complete, segments, segments]
  constructor
  · exact fun h => congrArg (List.splitOn '/') (String.ofList_injective h)
  · intro h
    have hjoined := congrArg ['/'].intercalate h
    rw [List.intercalate_splitOn, List.intercalate_splitOn] at hjoined
    rw [hjoined]

/-! ### Escaped segments -/

variable {doubleEncode : Bool}

theorem encodeSegment_true (segment : List Char) :
    encodeSegment true segment = Percent.encode (Octets.ofText (String.ofList segment)) := by
  rw [encodeSegment, if_pos rfl, Octets.ofText, String.toList_ofList]

theorem encodeSegment_false (segment : List Char) :
    encodeSegment false segment = Percent.encode (Percent.decode segment) :=
  rfl

theorem encodeSegment_true_injective : Function.Injective (encodeSegment true) := by
  intro segment segment' h
  rw [encodeSegment_true, encodeSegment_true] at h
  exact String.ofList_injective (Octets.ofText_injective (Percent.encode_injective h))

/-- Escapes that were resolved and written again stay as they are. -/
theorem encodeSegment_encodeSegment (segment : List Char) :
    encodeSegment false (encodeSegment false segment) = encodeSegment false segment := by
  rw [encodeSegment_false, encodeSegment_false, Percent.decode_encode]

theorem encodeSegment_eq_nil_iff {segment : List Char} :
    encodeSegment doubleEncode segment = [] ↔ segment = [] := by
  cases doubleEncode with
  | false => rw [encodeSegment_false, Percent.encode_eq_nil_iff, Percent.decode_eq_nil_iff]
  | true => exact encodeSegment_true_injective.eq_iff' rfl

theorem slash_not_mem_encodeSegment (segment : List Char) :
    '/' ∉ encodeSegment doubleEncode segment :=
  Percent.not_mem_encode (by decide) (by decide) _

theorem slash_not_mem_map {pieces : List (List Char)} :
    ∀ piece ∈ pieces.map (encodeSegment doubleEncode), '/' ∉ piece := by
  intro piece hpiece
  obtain ⟨segment, -, rfl⟩ := List.mem_map.mp hpiece
  exact slash_not_mem_encodeSegment segment

/-! ### Escaped paths -/

/-- **Completing and escaping** can be done in either order. -/
theorem encode_eq (path : List Char) :
    encode doubleEncode path =
      ['/'].intercalate ((segments path).map (encodeSegment doubleEncode)) := by
  have hne : (path.splitOn '/').map (encodeSegment doubleEncode) ≠ [] :=
    mt List.map_eq_nil_iff.mp (List.splitOn_ne_nil _ _)
  -- A segment is escaped as nothing only if it is nothing, so escaping does not show in front.
  have hhead : (['/'].intercalate ((path.splitOn '/').map (encodeSegment doubleEncode))).head? =
      some '/' ↔ path.head? = some '/' := by
    rw [Joined.head?_intercalate_iff slash_not_mem_map, List.head?_map, Option.map_eq_some_iff,
      ← List.map_tail, ne_eq, List.map_eq_nil_iff]
    simp only [encodeSegment_eq_nil_iff, exists_eq_right]
    rw [← Joined.head?_intercalate_iff fun _ => Joined.not_mem_of_mem_splitOn,
      List.intercalate_splitOn]
  rw [encode]
  by_cases h : path.head? = some '/'
  · rw [rooted_of_head? (hhead.mpr h), segments_of_head? h]
  · rw [rooted_of_ne (mt hhead.mp h), segments_of_ne h, List.map_cons,
      encodeSegment_eq_nil_iff.mpr rfl, List.intercalate_cons_of_ne_nil hne]
    rfl

/-- Escaped paths are the same if their escaped segments are. -/
theorem encode_eq_encode_iff {path path' : List Char} :
    encode doubleEncode path = encode doubleEncode path' ↔
      (segments path).map (encodeSegment doubleEncode) =
        (segments path').map (encodeSegment doubleEncode) := by
  rw [encode_eq, encode_eq]
  constructor
  · exact Joined.intercalate_inj (map_segments_ne_nil _ path) (map_segments_ne_nil _ path')
      slash_not_mem_map slash_not_mem_map
  · exact congrArg _

/-- The segments of an escaped path. -/
theorem segments_encode (path : List Char) :
    segments (encode doubleEncode path) = (segments path).map (encodeSegment doubleEncode) := by
  have hhead : (encode doubleEncode path).head? = some '/' := head?_rooted _
  rw [segments_of_head? hhead, encode_eq]
  exact List.splitOn_intercalate '/' slash_not_mem_map (map_segments_ne_nil _ path)

/-- The paths that are looked at first are no exception. -/
theorem toList_ofPath (doubleEncode normalizePath : Bool) (path : String) :
    (ofPath doubleEncode normalizePath path).toList =
      encode doubleEncode (if normalizePath then normalize path.toList else path.toList) := by
  unfold ofPath
  split
  · next h =>
    rcases h with rfl | rfl
    · cases doubleEncode <;> cases normalizePath <;> rfl
    · cases doubleEncode <;> cases normalizePath <;> rfl
  · rw [String.toList_ofList]

/-! ### What a canonical path is made of -/

/-- A character that is neither unreserved nor `%` nor a slash does not stand in a
canonical path. -/
theorem not_mem_ofPath {c : Char} (hu : Percent.isUnreserved c = false) (hc : c ≠ '%')
    (hslash : c ≠ '/') (doubleEncode normalizePath : Bool) (path : String) :
    c ∉ (ofPath doubleEncode normalizePath path).toList := by
  rw [toList_ofPath, encode_eq]
  refine Joined.not_mem_intercalate hslash fun piece hpiece => ?_
  obtain ⟨segment, -, rfl⟩ := List.mem_map.mp hpiece
  exact Percent.not_mem_encode hu hc _

/-- Whether a character is a hexadecimal digit, and no lower-case letter. -/
def isUpperDigit (c : Char) : Bool :=
  c.isDigit || ('A' ≤ c && c ≤ 'F')

/-- **Whether a text is escaped throughout**: it is made of unreserved characters, slashes
and escapes in upper case. -/
def isEscaped : List Char → Bool
  | [] => true
  | '%' :: high :: low :: rest => isUpperDigit high && isUpperDigit low && isEscaped rest
  | c :: rest => (Percent.isUnreserved c || c == '/') && isEscaped rest

theorem isEscaped_cons {c : Char} (hc : c ≠ '%') (rest : List Char) :
    isEscaped (c :: rest) = ((Percent.isUnreserved c || c == '/') && isEscaped rest) := by
  rw [isEscaped]
  intro _ _ _ he
  exact absurd he hc

/-- One written octet is escaped, whatever follows it. -/
theorem isEscaped_escape_append (b : UInt8) (rest : List Char) :
    isEscaped (Percent.escape b ++ rest) = isEscaped rest := by
  have hb : b.toNat < 256 := b.toNat_lt
  have hdigit : ∀ n < 16, isUpperDigit (Hex.upperDigit n) = true := by decide
  unfold Percent.escape
  split
  · next h =>
    rw [List.singleton_append, isEscaped_cons (Percent.ne_percent_of_isUnreserved h), h,
      Bool.true_or, Bool.true_and]
  · change isEscaped ('%' :: Hex.upperDigit (b.toNat / 16) :: Hex.upperDigit (b.toNat % 16) ::
      rest) = _
    rw [isEscaped, hdigit _ (by omega), hdigit _ (by omega), Bool.true_and, Bool.true_and]

theorem isEscaped_encode_append (bs : Octets) (rest : List Char) :
    isEscaped (Percent.encode bs ++ rest) = isEscaped rest := by
  induction bs with
  | nil => rfl
  | cons b bs ih =>
    rw [Percent.encode, List.flatMap_cons, List.append_assoc, isEscaped_escape_append]
    exact ih

theorem isEscaped_intercalate (pieces : List Octets) :
    isEscaped (['/'].intercalate (pieces.map Percent.encode)) = true := by
  induction pieces with
  | nil => rfl
  | cons bs pieces ih =>
    rcases eq_or_ne pieces [] with rfl | hne
    · rw [List.map_singleton, List.intercalate_singleton, ← List.append_nil (Percent.encode bs),
        isEscaped_encode_append]
      rfl
    · rw [List.map_cons, List.intercalate_cons_of_ne_nil (mt List.map_eq_nil_iff.mp hne),
        List.append_assoc, isEscaped_encode_append, List.singleton_append,
        isEscaped_cons (by decide), ih]
      rfl

theorem isEscaped_encode (path : List Char) : isEscaped (encode doubleEncode path) = true := by
  rw [encode_eq]
  have hmap : (segments path).map (encodeSegment doubleEncode) =
      ((segments path).map fun segment =>
        if doubleEncode then segment.flatMap String.utf8EncodeChar
        else Percent.decode segment).map Percent.encode := by
    rw [List.map_map]
    rfl
  rw [hmap]
  exact isEscaped_intercalate _

/-! ### Equal canonical forms -/

/-- A path may be completed beforehand. -/
theorem ofPath_complete (doubleEncode : Bool) (path : String) :
    ofPath doubleEncode false (complete path) = ofPath doubleEncode false path := by
  rw [← String.toList_inj, toList_ofPath, toList_ofPath, complete]
  simp only [Bool.false_eq_true, if_false, String.toList_ofList]
  rw [encode_eq, segments_rooted, encode_eq]

/-- **Paths with the same canonical form**: the completed paths are equal, if their wire form
is escaped once more, and the segments of the completed paths have the same octets, if
escapes are resolved. Whatever is done to a path, its canonical form starts with a slash and
is escaped throughout. -/
theorem ofPath_eq_ofPath_iff (path path' : String) :
    (∀ doubleEncode,
        ofPath doubleEncode false (complete path) = ofPath doubleEncode false path) ∧
      (ofPath true false path = ofPath true false path' ↔ complete path = complete path') ∧
      (ofPath false false path = ofPath false false path' ↔
        segmentOctets path = segmentOctets path') ∧
      ∀ doubleEncode normalizePath,
        (ofPath doubleEncode normalizePath path).toList.head? = some '/' ∧
          isEscaped (ofPath doubleEncode normalizePath path).toList = true := by
  refine ⟨fun doubleEncode => ofPath_complete doubleEncode path, ?_, ?_,
    fun doubleEncode normalizePath => ?_⟩
  · rw [← String.toList_inj, toList_ofPath, toList_ofPath, encode_eq_encode_iff,
      complete_eq_complete_iff]
    exact (List.map_injective_iff.mpr encodeSegment_true_injective).eq_iff
  · have hoctets : ∀ path, (segments path).map (encodeSegment false) =
        ((segments path).map Percent.decode).map Percent.encode := by
      intro path
      rw [List.map_map]
      rfl
    rw [← String.toList_inj, toList_ofPath, toList_ofPath, encode_eq_encode_iff]
    simp only [Bool.false_eq_true, if_false]
    rw [hoctets, hoctets, (List.map_injective_iff.mpr Percent.encode_injective).eq_iff]
    rfl
  · rw [toList_ofPath]
    exact ⟨head?_rooted _, isEscaped_encode _⟩

example : ofPath false false "a%2fb%" = "/a%2Fb%25" := by decide +kernel

end CanonicalPath

end SigV4
