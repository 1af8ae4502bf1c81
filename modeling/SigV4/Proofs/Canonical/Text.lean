import SigV4.Canonical.Request
import SigV4.Proofs.Canonical.Fields
import SigV4.Proofs.Canonical.Path
import SigV4.Proofs.Canonical.Query

/-!
# A canonical request can be read in one way

The text of a canonical request quotes nothing, and the number of its lines varies. This
file shows that it can be read all the same: the text determines every piece of the
canonical request (`SigV4.CanonicalRequest.text_inj`), so no content of one piece can be
taken for another piece.

Reading goes from the front. Method, path and query end at the first line break, since
none of them holds one; the field lines end at the first empty line, since each of them
has a colon; within a line the name ends at the first colon; and what stands behind the
names of the signed fields is the payload hash, whatever it holds. What the pieces must
not contain for this is `SigV4.CanonicalRequest.Legible`, and every canonical form of a
request is legible (`SigV4.CanonicalRequest.legible_of_ofRequest`).

What it means for two requests to have the same text then follows from what each piece
says (`SigV4.CanonicalRequest.text_eq_text_iff`).
-/

namespace SigV4

/-! ### Pieces without line breaks -/

theorem Http.ne_of_isTokenChar {c d : Char} (h : isTokenChar c = true)
    (hd : isTokenChar d = false) : c ≠ d := by
  rintro rfl
  rw [h] at hd
  cases hd

theorem Http.isTokenChar_of_mem {cs : List Char} (h : isToken cs = true) {c : Char}
    (hc : c ∈ cs) : isTokenChar c = true :=
  List.all_eq_true.mp (Bool.and_eq_true_iff.mp h).2 c hc

theorem Http.FieldName.isTokenChar_of_mem (name : FieldName) {c : Char}
    (hc : c ∈ name.text.toList) : isTokenChar c = true := by
  have hname := name.isFieldName_text
  rw [isFieldName, Bool.and_eq_true, Bool.and_eq_true] at hname
  exact Http.isTokenChar_of_mem hname.1.1 hc

theorem toUpper_ne_lineBreak {c : Char} (h : c ≠ '\n') : c.toUpper ≠ '\n' := by
  unfold Char.toUpper
  split
  · next hlower =>
    intro heq
    -- The upper case of a letter is 32 below it, far above a line break.
    have hval : (c.val + ('A'.val - 'a'.val)).toNat = '\n'.val.toNat :=
      congrArg (fun d => d.val.toNat) heq
    have hge := UInt32.le_iff_toNat_le.mp hlower.1
    have hle := UInt32.le_iff_toNat_le.mp hlower.2
    simp at hval hge hle
    omega
  · exact h

theorem Http.Method.lineBreak_not_mem_toUpper (method : Method) :
    '\n' ∉ method.text.toUpper.toList := by
  rw [String.toUpper, String.toList_map, List.mem_map]
  rintro ⟨c, hc, heq⟩
  have htoken := Http.isTokenChar_of_mem method.isToken_text hc
  exact toUpper_ne_lineBreak (Http.ne_of_isTokenChar htoken (by decide)) heq

namespace CanonicalFields

open Http

theorem not_mem_squeeze {cs : List Char} {c : Char} (h : c ≠ ' ')
    (hblank : Blank.isBlank c = true) : c ∉ squeeze cs := by
  refine Joined.not_mem_intercalate h fun word hword hc => ?_
  have hnot := Joined.not_of_mem_splitOnP (List.mem_filter.mp hword).1 hc
  rw [hblank] at hnot
  cases hnot

/-- No line break stands in what a line shows. -/
theorem lineBreak_not_mem_joined (fields : Fields) (name : FieldName) :
    '\n' ∉ joined fields name := by
  refine Joined.not_mem_intercalate (by decide) fun value hvalue => ?_
  obtain ⟨value, -, rfl⟩ := List.mem_map.mp hvalue
  exact not_mem_squeeze (by decide) (by decide)

end CanonicalFields

namespace CanonicalRequest

/-! ### The characters of the text -/

/-- The characters of a field line. -/
def lineChars (line : String × String) : List Char :=
  line.1.toList ++ ':' :: (line.2.toList ++ ['\n'])

theorem toList_lines (fields : List (String × String)) :
    ("".intercalate (fields.map fun (name, value) => name ++ ":" ++ value ++ "\n")).toList =
      fields.flatMap lineChars := by
  have hlines : (fields.map fun (name, value) => name ++ ":" ++ value ++ "\n").map
      String.toList = fields.map lineChars := by
    rw [List.map_map]
    refine List.map_congr_left fun line _ => ?_
    simp [lineChars]
  have hflatten : ∀ pieces : List (List Char), [].intercalate pieces = pieces.flatten := by
    intro pieces
    induction pieces with
    | nil => rfl
    | cons piece pieces ih =>
      rcases eq_or_ne pieces [] with rfl | hne
      · simp
      · rw [List.intercalate_cons_of_ne_nil hne, ih, List.append_nil, List.flatten_cons]
  rw [String.toList_intercalate, hlines, String.toList_empty, hflatten, List.flatMap_def]

theorem toList_text (c : CanonicalRequest) :
    c.text.toList =
      c.method.toList ++ '\n' :: (c.path.toList ++ '\n' :: (c.query.toList ++ '\n' ::
        (c.fields.flatMap lineChars ++ '\n' :: (c.signedFields.toList ++ '\n' ::
          c.payloadHash.toList)))) := by
  have hbreak : "\n".toList = ['\n'] := rfl
  simp only [text, String.toList_append, toList_lines, hbreak, List.append_assoc,
    List.cons_append, List.nil_append]

/-! ### Reading the text -/

/-- **What a canonical request must not contain** to be read in one way. -/
structure Legible (c : CanonicalRequest) : Prop where
  /-- The method is one line. -/
  method : '\n' ∉ c.method.toList
  /-- The path is one line. -/
  path : '\n' ∉ c.path.toList
  /-- The query is one line. -/
  query : '\n' ∉ c.query.toList
  /-- The name of a field is one line and has no colon. -/
  name : ∀ line ∈ c.fields, '\n' ∉ line.1.toList ∧ ':' ∉ line.1.toList
  /-- What a field shows is one line. -/
  value : ∀ line ∈ c.fields, '\n' ∉ line.2.toList
  /-- The names of the signed fields are one line. -/
  signedFields : '\n' ∉ c.signedFields.toList

theorem lineChars_append_ne {line : String × String} (h : '\n' ∉ line.1.toList)
    (rest rest' : List Char) : lineChars line ++ rest ≠ '\n' :: rest' := by
  intro heq
  rw [lineChars] at heq
  cases hname : line.1.toList with
  | nil =>
    rw [hname] at heq
    cases heq
  | cons c cs =>
    rw [hname] at heq h
    obtain ⟨rfl, -⟩ := List.cons.inj heq
    exact h List.mem_cons_self

theorem lineChars_inj {line line' : String × String} {rest rest' : List Char}
    (hname : ':' ∉ line.1.toList) (hname' : ':' ∉ line'.1.toList)
    (hvalue : '\n' ∉ line.2.toList) (hvalue' : '\n' ∉ line'.2.toList)
    (h : lineChars line ++ rest = lineChars line' ++ rest') : line = line' ∧ rest = rest' := by
  have hchars : ∀ (line : String × String) (rest : List Char), lineChars line ++ rest =
      line.1.toList ++ ':' :: (line.2.toList ++ '\n' :: rest) := by
    intro line rest
    simp [lineChars]
  rw [hchars, hchars] at h
  obtain ⟨hfirst, h⟩ := Joined.pair_inj hname hname' h
  obtain ⟨hsecond, h⟩ := Joined.pair_inj hvalue hvalue' h
  exact ⟨Prod.ext (String.toList_injective hfirst) (String.toList_injective hsecond), h⟩

/-- **The field lines end at the first empty line.** -/
theorem fields_inj : ∀ {fields fields' : List (String × String)} {rest rest' : List Char},
    (∀ line ∈ fields, '\n' ∉ line.1.toList ∧ ':' ∉ line.1.toList) →
    (∀ line ∈ fields', '\n' ∉ line.1.toList ∧ ':' ∉ line.1.toList) →
    (∀ line ∈ fields, '\n' ∉ line.2.toList) → (∀ line ∈ fields', '\n' ∉ line.2.toList) →
    fields.flatMap lineChars ++ '\n' :: rest = fields'.flatMap lineChars ++ '\n' :: rest' →
    fields = fields' ∧ rest = rest'
  | [], [], _, _, _, _, _, _, h => ⟨rfl, (List.cons.inj h).2⟩
  -- A line has a colon in front of its line break, so it is not the empty line.
  | [], line :: lines, _, _, _, hname, _, _, h => by
    rw [List.flatMap_cons, List.append_assoc] at h
    exact absurd h.symm (lineChars_append_ne (hname line List.mem_cons_self).1 _ _)
  | line :: lines, [], _, _, hname, _, _, _, h => by
    rw [List.flatMap_cons, List.append_assoc] at h
    exact absurd h (lineChars_append_ne (hname line List.mem_cons_self).1 _ _)
  | line :: lines, line' :: lines', _, _, hname, hname', hvalue, hvalue', h => by
    rw [List.flatMap_cons, List.flatMap_cons, List.append_assoc, List.append_assoc] at h
    obtain ⟨rfl, hlines⟩ := lineChars_inj (hname line List.mem_cons_self).2
      (hname' line' List.mem_cons_self).2 (hvalue line List.mem_cons_self)
      (hvalue' line' List.mem_cons_self) h
    obtain ⟨rfl, hrest⟩ := fields_inj (fun l hl => hname l (List.mem_cons_of_mem _ hl))
      (fun l hl => hname' l (List.mem_cons_of_mem _ hl))
      (fun l hl => hvalue l (List.mem_cons_of_mem _ hl))
      (fun l hl => hvalue' l (List.mem_cons_of_mem _ hl)) hlines
    exact ⟨rfl, hrest⟩

/-- **The text determines the canonical request.** -/
theorem text_inj {c d : CanonicalRequest} (hc : c.Legible) (hd : d.Legible)
    (h : c.text = d.text) : c = d := by
  have hchars := congrArg String.toList h
  rw [toList_text, toList_text] at hchars
  obtain ⟨hmethod, hchars⟩ := Joined.pair_inj hc.method hd.method hchars
  obtain ⟨hpath, hchars⟩ := Joined.pair_inj hc.path hd.path hchars
  obtain ⟨hquery, hchars⟩ := Joined.pair_inj hc.query hd.query hchars
  obtain ⟨hfields, hchars⟩ := fields_inj hc.name hd.name hc.value hd.value hchars
  obtain ⟨hsigned, hhash⟩ := Joined.pair_inj hc.signedFields hd.signedFields hchars
  obtain ⟨method, path, query, fields, signedFields, payloadHash⟩ := c
  obtain rfl := String.toList_injective hmethod
  obtain rfl := String.toList_injective hpath
  obtain rfl := String.toList_injective hquery
  obtain rfl := hfields
  obtain rfl := String.toList_injective hsigned
  obtain rfl := String.toList_injective hhash
  rfl

/-! ### Canonical forms -/

/-- What the canonical form of a request is made of. -/
theorem ofRequest_eq_ok_iff {request : Request} {config : Config} {payloadHash : String}
    {c : CanonicalRequest} :
    ofRequest request config payloadHash = .ok c ↔
      CanonicalFields.lines request.fields = .ok c.fields ∧
        c.method = request.method.text.toUpper ∧
        c.path = CanonicalPath.ofPath config.doubleEncode config.normalizePath request.path ∧
        c.query = CanonicalQuery.ofParams request.query ∧
        c.signedFields = ";".intercalate (c.fields.map (·.1)) ∧ c.payloadHash = payloadHash := by
  rw [ofRequest, Outcome.bind_eq_ok_iff]
  constructor
  · rintro ⟨fields, hfields, h⟩
    obtain rfl := Except.ok.inj h
    exact ⟨hfields, rfl, rfl, rfl, rfl, rfl⟩
  · rintro ⟨hfields, hmethod, hpath, hquery, hsigned, hhash⟩
    refine ⟨c.fields, hfields, ?_⟩
    rw [← hmethod, ← hpath, ← hquery, ← hsigned, ← hhash]
    rfl

/-- What of a request its canonical form looks at. -/
theorem ofRequest_congr {request request' : Request} {config : Config}
    (hmethod : request.method = request'.method)
    (hpath : CanonicalPath.ofPath config.doubleEncode config.normalizePath request.path =
      CanonicalPath.ofPath config.doubleEncode config.normalizePath request'.path)
    (hquery : request.query = request'.query)
    (hfields : CanonicalFields.lines request.fields = CanonicalFields.lines request'.fields)
    (payloadHash : String) :
    ofRequest request config payloadHash = ofRequest request' config payloadHash := by
  rw [ofRequest, ofRequest, hmethod, hpath, hquery, hfields]

/-- **Every canonical form is legible.** -/
theorem legible_of_ofRequest {request : Request} {config : Config} {payloadHash : String}
    {c : CanonicalRequest} (h : ofRequest request config payloadHash = .ok c) : c.Legible := by
  obtain ⟨hfields, hmethod, hpath, hquery, hsigned, -⟩ := ofRequest_eq_ok_iff.mp h
  have hname : ∀ line ∈ c.fields, ∀ d, Http.isTokenChar d = false → d ∉ line.1.toList := by
    intro line hline d hd hmem
    obtain ⟨name, -, -, rfl⟩ := (CanonicalFields.mem_lines_iff hfields).mp hline
    exact Http.ne_of_isTokenChar (name.isTokenChar_of_mem hmem) hd rfl
  refine ⟨?_, ?_, ?_, fun line hline => ⟨?_, ?_⟩, fun line hline => ?_, ?_⟩
  · rw [hmethod]
    exact request.method.lineBreak_not_mem_toUpper
  · rw [hpath]
    exact CanonicalPath.not_mem_ofPath (by decide) (by decide) (by decide) _ _ _
  · rw [hquery]
    exact CanonicalQuery.not_mem_ofParams (by decide) (by decide) (by decide) (by decide) _
  · exact hname line hline _ (by decide)
  · exact hname line hline _ (by decide)
  · obtain ⟨name, -, -, rfl⟩ := (CanonicalFields.mem_lines_iff hfields).mp hline
    rw [CanonicalFields.lineOf, String.toList_ofList]
    exact CanonicalFields.lineBreak_not_mem_joined _ _
  · rw [hsigned, String.toList_intercalate]
    refine Joined.not_mem_intercalate (by decide) fun cs hcs => ?_
    simp only [List.map_map, List.mem_map, Function.comp_apply] at hcs
    obtain ⟨line, hline, rfl⟩ := hcs
    exact hname line hline _ (by decide)

/-- **Two canonical requests have the same text** exactly when the requests agree in what
each of its pieces says: the method up to case, the canonical path, the parameters up to
their order, the signed fields that occur and what each of them shows, and what is said
about the body. No content of one piece can be taken for another. -/
theorem text_eq_text_iff {request request' : Request} {config config' : Config}
    {payloadHash payloadHash' : String} {c c' : CanonicalRequest}
    (h : ofRequest request config payloadHash = .ok c)
    (h' : ofRequest request' config' payloadHash' = .ok c') :
    c.text = c'.text ↔
      request.method.text.toUpper = request'.method.text.toUpper ∧
      CanonicalPath.ofPath config.doubleEncode config.normalizePath request.path =
        CanonicalPath.ofPath config'.doubleEncode config'.normalizePath request'.path ∧
      request.query.Perm request'.query ∧
      (∀ name, Vocabulary.isSigned name = true →
        request.fields.contains name = request'.fields.contains name ∧
        CanonicalFields.joined request.fields name = CanonicalFields.joined request'.fields name) ∧
      payloadHash = payloadHash' := by
  obtain ⟨hfields, hmethod, hpath, hquery, hsigned, hhash⟩ := ofRequest_eq_ok_iff.mp h
  obtain ⟨hfields', hmethod', hpath', hquery', hsigned', hhash'⟩ := ofRequest_eq_ok_iff.mp h'
  rw [← CanonicalFields.lines_eq_iff hfields hfields', ← CanonicalQuery.ofParams_eq_iff_perm,
    ← hmethod, ← hmethod', ← hpath, ← hpath', ← hquery, ← hquery', ← hhash, ← hhash']
  constructor
  · intro htext
    rw [text_inj (legible_of_ofRequest h) (legible_of_ofRequest h') htext]
    exact ⟨rfl, rfl, rfl, rfl, rfl⟩
  · rintro ⟨hm, hp, hq, hf, hh⟩
    rw [text, text, hsigned, hsigned', hm, hp, hq, hf, hh]

/-- Where the requests of the examples go to. -/
def sampleAuthority : Http.Authority := ⟨"example.com", rfl, by decide⟩

/-- A request with two parameters. -/
def sample : Request where
  method := .get
  scheme := .http
  authority := sampleAuthority
  path := "/"
  query := [⟨"a", "1"⟩, ⟨"b", ""⟩]
  fields := Http.Fields.empty.append Vocabulary.host ⟨[0x61, 0x20, 0x20, 0x62], false, rfl⟩
  body := .empty

/-- The request with its parameters in another order and one blank less in its host. -/
def respelled : Request where
  __ := sample
  query := [⟨"b", ""⟩, ⟨"a", "1"⟩]
  fields := Http.Fields.empty.append Vocabulary.host ⟨[0x61, 0x20, 0x62], false, rfl⟩

/-- The order of parameters and the number of blanks make no difference, also where what is
said about the body holds a line break. -/
theorem text_respelled_eq :
    ∃ c c', ofRequest sample .standard "x\ny" = .ok c ∧
      ofRequest respelled .standard "x\ny" = .ok c' ∧ c.text = c'.text := by
  obtain ⟨c, h⟩ : ∃ c, ofRequest sample .standard "x\ny" = .ok c := ⟨_, rfl⟩
  obtain ⟨c', h'⟩ : ∃ c, ofRequest respelled .standard "x\ny" = .ok c := ⟨_, rfl⟩
  refine ⟨c, c', h, h', (text_eq_text_iff h h').mpr ⟨rfl, rfl, ?_, ?_, rfl⟩⟩
  · exact List.Perm.swap _ _ _
  · intro name hname
    by_cases heq : Vocabulary.host = name
    · subst heq
      decide
    · simp [sample, respelled, CanonicalFields.joined, Http.Fields.contains,
        Http.Fields.append, Http.Fields.empty, Http.Fields.values, heq]

end CanonicalRequest

end SigV4
