import Mathlib.Data.List.Induction
import Mathlib.Data.List.Nodup
import SigV4.Canonical.Fields
import SigV4.Proofs.Http.FieldText
import SigV4.Proofs.Outcome
import SigV4.Proofs.Text.Joined

/-!
# What the canonical lines of the fields say

The lines are built by walking through the fields and putting each into its group. What
comes out does not depend on the walk, and this file says what it is without one: there is
a line for each name that is signed and occurs (`SigV4.CanonicalFields.mem_lines_iff`), it
shows the values of that name (`SigV4.CanonicalFields.joined`), and the lines are in
strict order of their names (`SigV4.CanonicalFields.pairwise_lines`).

The invariant of the walk is `SigV4.CanonicalFields.Grouped`. It follows the values of
each name in the groups, as `SigV4.Http.Fields.values` follows them in the fields, and one
step of the walk does to both what putting a value behind the others does.
-/

namespace SigV4

theorem Http.FieldName.text_injective : Function.Injective Http.FieldName.text := by
  rintro ⟨text, h⟩ ⟨text', h'⟩ heq
  obtain rfl : text = text' := heq
  rfl

namespace CanonicalFields

open Http

/-! ### What a line shows -/

/-- A value as its line shows it: its characters, squeezed. -/
def shown (value : FieldValue) : List Char :=
  squeeze (value.octets.map fun b => Char.ofNat b.toNat)

/-- **What the line of a name shows**: its values, in order, with commas between them. -/
def joined (fields : Fields) (name : FieldName) : List Char :=
  [','].intercalate ((fields.values name).map shown)

theorem shown_of_text {value : FieldValue} {text : List Char} (h : value.text = .ok text) :
    shown value = squeeze text := by
  unfold FieldValue.text at h
  split at h
  · obtain rfl := Except.ok.inj h
    rfl
  · cases h

/-! ### Groups -/

/-- The values of a name in groups. -/
def valuesAt : Groups → (name : String) → List (List Char)
  | [], _ => []
  | (other, values) :: rest, name => if other = name then values else valuesAt rest name

theorem valuesAt_eq_nil_of_lt {groups : Groups} {name : String}
    (h : ∀ group ∈ groups, name < group.1) : valuesAt groups name = [] := by
  induction groups with
  | nil => rfl
  | cons group rest ih =>
    have hlt := h group List.mem_cons_self
    have hne : group.1 ≠ name := fun he => String.lt_irrefl name (he ▸ hlt)
    rw [valuesAt, if_neg hne]
    exact ih fun other hother => h other (List.mem_cons_of_mem _ hother)

theorem mem_iff_valuesAt {groups : Groups} (hsorted : groups.Pairwise (·.1 < ·.1))
    (hne : ∀ group ∈ groups, group.2 ≠ []) {name : String} {values : List (List Char)} :
    (name, values) ∈ groups ↔ valuesAt groups name = values ∧ values ≠ [] := by
  induction groups with
  | nil =>
    constructor
    · intro h
      cases h
    · rintro ⟨rfl, h⟩
      exact absurd rfl h
  | cons group rest ih =>
    obtain ⟨hlt, hrest⟩ := List.pairwise_cons.mp hsorted
    have ih := ih hrest fun other hother => hne other (List.mem_cons_of_mem _ hother)
    obtain ⟨other, values'⟩ := group
    rw [valuesAt, List.mem_cons, Prod.mk.injEq]
    split
    · next heq =>
      subst heq
      constructor
      · rintro (⟨-, rfl⟩ | hmem)
        · exact ⟨rfl, hne _ List.mem_cons_self⟩
        · exact absurd (hlt _ hmem) (String.lt_irrefl _)
      · rintro ⟨rfl, -⟩
        exact Or.inl ⟨rfl, rfl⟩
    · next hother =>
      rw [← ih]
      constructor
      · rintro (⟨rfl, -⟩ | hmem)
        · exact absurd rfl hother
        · exact hmem
      · exact Or.inr

/-- **Putting a value into the groups** puts it behind the values of its name, and leaves
those of the other names alone. -/
theorem valuesAt_place {groups : Groups} (hsorted : groups.Pairwise (·.1 < ·.1))
    (name other : String) (value : List Char) :
    valuesAt (place name value groups) other =
      valuesAt groups other ++ if name = other then [value] else [] := by
  induction groups with
  | nil => rfl
  | cons group rest ih =>
    obtain ⟨first, values⟩ := group
    obtain ⟨hlt, hrest⟩ := List.pairwise_cons.mp hsorted
    rw [place]
    split
    · next heq =>
      subst heq
      rw [valuesAt, valuesAt]
      split
      · rfl
      · rw [List.append_nil]
    split
    · next hne hbefore =>
      rw [valuesAt]
      split
      · next heq =>
        subst heq
        rw [valuesAt_eq_nil_of_lt, List.nil_append]
        rintro group (_ | ⟨_, hmem⟩)
        · exact hbefore
        · exact String.lt_trans hbefore (hlt group hmem)
      · rw [List.append_nil]
    · next hne hbefore =>
      rw [valuesAt, valuesAt]
      split
      · next heq => rw [if_neg fun he => hne (he.trans heq.symm), List.append_nil]
      · exact ih hrest

theorem mem_place {groups : Groups} {name : String} {value : List Char}
    {group : String × List (List Char)} (h : group ∈ place name value groups) :
    group.1 = name ∨ group ∈ groups := by
  induction groups with
  | nil => exact Or.inl (by rw [List.mem_singleton.mp h])
  | cons first rest ih =>
    rw [place] at h
    split at h
    · next heq =>
      rcases List.mem_cons.mp h with rfl | hmem
      · exact Or.inl heq.symm
      · exact Or.inr (List.mem_cons_of_mem _ hmem)
    split at h
    · rcases List.mem_cons.mp h with rfl | hmem
      · exact Or.inl rfl
      · exact Or.inr hmem
    · rcases List.mem_cons.mp h with rfl | hmem
      · exact Or.inr List.mem_cons_self
      · exact (ih hmem).imp_right (List.mem_cons_of_mem _)

theorem pairwise_place {groups : Groups} (hsorted : groups.Pairwise (·.1 < ·.1))
    (name : String) (value : List Char) :
    (place name value groups).Pairwise (·.1 < ·.1) := by
  induction groups with
  | nil => exact List.pairwise_singleton _ _
  | cons first rest ih =>
    obtain ⟨hlt, hrest⟩ := List.pairwise_cons.mp hsorted
    rw [place]
    split
    · exact List.pairwise_cons.mpr ⟨hlt, hrest⟩
    split
    · next hne hbefore =>
      refine List.pairwise_cons.mpr ⟨?_, hsorted⟩
      rintro group (_ | ⟨_, hmem⟩)
      · exact hbefore
      · exact String.lt_trans hbefore (hlt group hmem)
    · next hne hbefore =>
      refine List.pairwise_cons.mpr ⟨fun group hmem => ?_, ih hrest⟩
      rcases mem_place hmem with hname | hmem
      · rw [hname]
        exact String.not_le.mp fun hle => hne (String.le_antisymm hle (String.not_lt.mp hbefore))
      · exact hlt group hmem

theorem ne_nil_of_mem_place {groups : Groups} (hne : ∀ group ∈ groups, group.2 ≠ [])
    {name : String} {value : List Char} {group : String × List (List Char)}
    (h : group ∈ place name value groups) : group.2 ≠ [] := by
  induction groups with
  | nil =>
    obtain rfl := List.mem_singleton.mp h
    exact List.cons_ne_nil _ _
  | cons first rest ih =>
    have hrest := fun other hother => hne other (List.mem_cons_of_mem first hother)
    rw [place] at h
    split at h
    · rcases List.mem_cons.mp h with rfl | hmem
      · exact List.append_ne_nil_of_right_ne_nil _ (List.cons_ne_nil _ _)
      · exact hrest group hmem
    split at h
    · rcases List.mem_cons.mp h with rfl | hmem
      · exact List.cons_ne_nil _ _
      · exact hne group hmem
    · rcases List.mem_cons.mp h with rfl | hmem
      · exact hne first List.mem_cons_self
      · exact ih hrest hmem

/-! ### The walk through the fields -/

/-- **The invariant of the walk**: the groups are in strict order of their names, none of
them is empty, each is that of a signed name, and a signed name has in them the values that
it has in the fields seen so far. -/
structure Grouped (fields : Fields) (groups : Groups) : Prop where
  /-- The groups are in strict order of their names. -/
  sorted : groups.Pairwise (·.1 < ·.1)
  /-- No group is empty. -/
  ne_nil : ∀ group ∈ groups, group.2 ≠ []
  /-- The groups are those of signed names. -/
  signed : ∀ group ∈ groups,
    ∃ name : FieldName, Vocabulary.isSigned name = true ∧ name.text = group.1
  /-- A signed name has the values that it has in the fields. -/
  valuesAt_eq : ∀ name : FieldName, Vocabulary.isSigned name = true →
    valuesAt groups name.text = (fields.values name).map shown

theorem grouped_empty : Grouped .empty [] where
  sorted := List.Pairwise.nil
  ne_nil := by simp
  signed := by simp
  valuesAt_eq := fun _ _ => rfl

/-- **One step of the walk.** -/
theorem Grouped.gather {fields : Fields} {groups groups' : Groups}
    {field : FieldName × FieldValue} (h : Grouped fields groups)
    (hstep : CanonicalFields.gather groups field = .ok groups') :
    Grouped (fields.append field.1 field.2) groups' := by
  obtain ⟨first, value⟩ := field
  unfold CanonicalFields.gather at hstep
  split at hstep
  · next hsigned =>
    split at hstep
    · next text htext =>
      obtain rfl := Except.ok.inj hstep
      refine ⟨pairwise_place h.sorted _ _, fun group hmem => ?_, fun group hmem => ?_,
        fun name hname => ?_⟩
      · exact ne_nil_of_mem_place h.ne_nil hmem
      · rcases mem_place hmem with hfirst | hmem
        · exact ⟨first, hsigned, hfirst.symm⟩
        · exact h.signed group hmem
      · rw [valuesAt_place h.sorted, h.valuesAt_eq name hname, Fields.values_append,
          List.map_append, ← shown_of_text htext]
        congr 1
        by_cases heq : first = name
        · rw [if_pos (congrArg FieldName.text heq), if_pos heq]
          rfl
        · rw [if_neg fun he => heq (FieldName.text_injective he), if_neg heq]
          rfl
    · cases hstep
  · next hunsigned =>
    obtain rfl := Except.ok.inj hstep
    refine ⟨h.sorted, h.ne_nil, h.signed, fun name hname => ?_⟩
    -- A field that is not signed is in no group, and the invariant does not ask for its values.
    have hne : first ≠ name := by
      rintro rfl
      exact hunsigned hname
    rw [h.valuesAt_eq name hname, Fields.values_append, if_neg hne, List.append_nil]

/-- **A whole walk.** -/
theorem Grouped.foldlM {rest : List (FieldName × FieldValue)} {fields : Fields}
    {groups groups' : Groups} (h : Grouped fields groups)
    (hwalk : rest.foldlM CanonicalFields.gather groups = .ok groups') :
    Grouped ⟨fields.toList ++ rest⟩ groups' := by
  induction rest generalizing fields groups with
  | nil =>
    obtain rfl := Except.ok.inj hwalk
    rwa [List.append_nil]
  | cons field rest ih =>
    rw [List.foldlM_cons] at hwalk
    obtain ⟨between, hstep, hwalk⟩ := Outcome.bind_eq_ok_iff.mp hwalk
    have hrest := ih (h.gather hstep) hwalk
    rwa [Fields.append, List.append_assoc] at hrest

/-! ### The lines -/

/-- The line of a name. -/
def lineOf (fields : Fields) (name : FieldName) : String × String :=
  (name.text, String.ofList (joined fields name))

theorem exists_grouped {fields : Fields} {ls : List (String × String)}
    (h : lines fields = .ok ls) :
    ∃ groups, Grouped fields groups ∧
      ls = groups.map fun group => (group.1, String.ofList ([','].intercalate group.2)) := by
  obtain ⟨groups, hwalk, rfl⟩ := Outcome.map_eq_ok_iff.mp h
  exact ⟨groups, grouped_empty.foldlM hwalk, rfl⟩

theorem contains_iff {fields : Fields} {name : FieldName} :
    fields.contains name = true ↔ fields.values name ≠ [] := by
  simp [Fields.contains, Fields.values]

/-- **The lines are those of the signed names that occur.** -/
theorem mem_lines_iff {fields : Fields} {ls : List (String × String)}
    (h : lines fields = .ok ls) {line : String × String} :
    line ∈ ls ↔ ∃ name, Vocabulary.isSigned name = true ∧ fields.contains name = true ∧
      line = lineOf fields name := by
  obtain ⟨groups, hgroups, rfl⟩ := exists_grouped h
  have hmem := fun name values =>
    @mem_iff_valuesAt groups hgroups.sorted hgroups.ne_nil name values
  rw [List.mem_map]
  constructor
  · rintro ⟨⟨text, values⟩, hgroup, rfl⟩
    obtain ⟨name, hname, rfl⟩ := hgroups.signed _ hgroup
    obtain ⟨rfl, hne⟩ := (hmem _ _).mp hgroup
    rw [hgroups.valuesAt_eq name hname] at hne ⊢
    refine ⟨name, hname, contains_iff.mpr fun hnil => hne ?_, rfl⟩
    rw [hnil, List.map_nil]
  · rintro ⟨name, hname, hcontains, rfl⟩
    have hne : (fields.values name).map shown ≠ [] := by
      rw [Ne, List.map_eq_nil_iff]
      exact contains_iff.mp hcontains
    exact ⟨(name.text, (fields.values name).map shown),
      (hmem _ _).mpr ⟨hgroups.valuesAt_eq name hname, hne⟩, rfl⟩

/-- **The lines are in strict order of their names.** -/
theorem pairwise_lines {fields : Fields} {ls : List (String × String)}
    (h : lines fields = .ok ls) : ls.Pairwise (·.1 < ·.1) := by
  obtain ⟨groups, hgroups, rfl⟩ := exists_grouped h
  exact List.pairwise_map.mpr hgroups.sorted

theorem nodup_lines {fields : Fields} {ls : List (String × String)}
    (h : lines fields = .ok ls) : ls.Nodup := by
  refine (pairwise_lines h).imp fun {line line'} hlt heq => ?_
  exact String.lt_irrefl line.1 (by rwa [← heq] at hlt)

theorem joined_eq_nil {fields : Fields} {name : FieldName} (h : ¬fields.contains name = true) :
    joined fields name = [] := by
  rw [contains_iff, not_not] at h
  rw [joined, h]
  rfl

/-- A line that two requests have in common is that of one name, and shows the same in
both. -/
theorem of_mem_lines {fields fields' : Fields} {ls : List (String × String)}
    (h : lines fields = .ok ls) (h' : lines fields' = .ok ls) {name : FieldName}
    (hname : Vocabulary.isSigned name = true) (hcontains : fields.contains name = true) :
    fields'.contains name = true ∧ joined fields name = joined fields' name := by
  have hmem := (mem_lines_iff h).mpr ⟨name, hname, hcontains, rfl⟩
  obtain ⟨name', -, hcontains', heq⟩ := (mem_lines_iff h').mp hmem
  obtain ⟨htext, hjoined⟩ := Prod.mk.inj heq
  obtain rfl := FieldName.text_injective htext
  exact ⟨hcontains', String.ofList_injective hjoined⟩

/-- **The lines of two requests are the same** exactly when the same signed names occur in
both and each name shows the same. -/
theorem lines_eq_iff {fields fields' : Fields} {ls ls' : List (String × String)}
    (h : lines fields = .ok ls) (h' : lines fields' = .ok ls') :
    ls = ls' ↔ ∀ name, Vocabulary.isSigned name = true →
      fields.contains name = fields'.contains name ∧ joined fields name = joined fields' name := by
  constructor
  · rintro rfl name hname
    by_cases hc : fields.contains name = true
    · obtain ⟨hc', hjoined⟩ := of_mem_lines h h' hname hc
      exact ⟨hc.trans hc'.symm, hjoined⟩
    · have hc' : ¬fields'.contains name = true := fun hc' => hc (of_mem_lines h' h hname hc').1
      rw [Bool.not_eq_true] at hc hc'
      rw [joined_eq_nil (by simp [hc]), joined_eq_nil (by simp [hc']), hc, hc']
      exact ⟨rfl, rfl⟩
  · intro heq
    -- Both are in strict order, so it is enough that the same lines are in both.
    have hperm : ls.Perm ls' := by
      refine (List.perm_ext_iff_of_nodup (nodup_lines h) (nodup_lines h')).mpr fun line => ?_
      rw [mem_lines_iff h, mem_lines_iff h']
      refine exists_congr fun name => and_congr_right fun hname => ?_
      rw [lineOf, lineOf, (heq name hname).1, (heq name hname).2]
    refine hperm.eq_of_pairwise (fun line line' _ _ hlt hlt' => ?_) (pairwise_lines h)
      (pairwise_lines h')
    exact absurd hlt' (String.lt_asymm hlt)

/-! ### When there are lines -/

theorem mem_values_iff {fields : Fields} {name : FieldName} {value : FieldValue} :
    value ∈ fields.values name ↔ (name, value) ∈ fields.toList := by
  simp [Fields.values]

theorem exists_gather_iff (groups : Groups) {field : FieldName × FieldValue} :
    (∃ groups', gather groups field = .ok groups') ↔
      (Vocabulary.isSigned field.1 = true → ∃ text, field.2.text = .ok text) := by
  rw [gather]
  split
  · next hsigned =>
    cases htext : field.2.text with
    | ok text => exact ⟨fun _ _ => ⟨text, rfl⟩, fun _ => ⟨_, rfl⟩⟩
    | error fault =>
      constructor
      · rintro ⟨_, h⟩
        cases h
      · intro h
        obtain ⟨_, h⟩ := h hsigned
        cases h
  · next hunsigned => exact ⟨fun _ hsigned => absurd hsigned hunsigned, fun _ => ⟨_, rfl⟩⟩

theorem exists_foldlM_gather_iff {rest : List (FieldName × FieldValue)} {groups : Groups} :
    (∃ groups', rest.foldlM gather groups = .ok groups') ↔
      ∀ field ∈ rest, Vocabulary.isSigned field.1 = true → ∃ text, field.2.text = .ok text := by
  induction rest generalizing groups with
  | nil => exact ⟨fun _ _ hmem => absurd hmem List.not_mem_nil, fun _ => ⟨groups, rfl⟩⟩
  | cons field rest ih =>
    rw [List.forall_mem_cons, ← exists_gather_iff groups, List.foldlM_cons]
    constructor
    · rintro ⟨groups', h⟩
      obtain ⟨between, hstep, hwalk⟩ := Outcome.bind_eq_ok_iff.mp h
      exact ⟨⟨between, hstep⟩, ih.mp ⟨groups', hwalk⟩⟩
    · rintro ⟨⟨between, hstep⟩, hrest⟩
      obtain ⟨groups', hwalk⟩ := ih.mpr hrest
      exact ⟨groups', Outcome.bind_eq_ok_iff.mpr ⟨between, hstep, hwalk⟩⟩

/-- **There are lines** exactly if every value of a signed name is visible ASCII. -/
theorem exists_lines_iff {fields : Fields} :
    (∃ ls, lines fields = .ok ls) ↔ ∀ name, Vocabulary.isSigned name = true →
      ∀ value ∈ fields.values name, ∃ text, value.text = .ok text := by
  have hwalk : (∃ ls, lines fields = .ok ls) ↔
      ∃ groups, fields.toList.foldlM gather [] = .ok groups := by
    constructor
    · rintro ⟨ls, h⟩
      obtain ⟨groups, hgroups, -⟩ := Outcome.map_eq_ok_iff.mp h
      exact ⟨groups, hgroups⟩
    · rintro ⟨groups, hgroups⟩
      exact ⟨_, Outcome.map_eq_ok_iff.mpr ⟨groups, hgroups, rfl⟩⟩
  rw [hwalk, exists_foldlM_gather_iff]
  constructor
  · intro h name hname value hvalue
    exact h (name, value) (mem_values_iff.mp hvalue) hname
  · rintro h ⟨name, value⟩ hmem hname
    exact h name hname value (mem_values_iff.mpr hmem)

theorem eq_of_foldlM_gather_eq_error {rest : List (FieldName × FieldValue)} {groups : Groups}
    {e : Error} (h : rest.foldlM gather groups = .error e) : e = .http .fieldText := by
  induction rest generalizing groups with
  | nil => cases h
  | cons field rest ih =>
    rw [List.foldlM_cons] at h
    cases hstep : gather groups field with
    | ok between =>
      rw [hstep] at h
      exact ih h
    | error e' =>
      rw [hstep] at h
      obtain rfl := Except.error.inj h
      unfold gather FieldValue.text at hstep
      split at hstep
      · split at hstep
        · cases hstep
        · next hfault =>
          split at hfault
          · cases hfault
          · obtain rfl := Except.error.inj hfault
            exact (Except.error.inj hstep).symm
      · cases hstep

/-- Whichever value is in the way of the lines, the error is the same. -/
theorem eq_of_lines_eq_error {fields : Fields} {e : Error} (h : lines fields = .error e) :
    e = .http .fieldText := by
  rw [lines] at h
  cases hwalk : fields.toList.foldlM gather [] with
  | ok groups =>
    rw [hwalk] at h
    cases h
  | error e' =>
    rw [hwalk] at h
    obtain rfl := Except.error.inj h
    exact eq_of_foldlM_gather_eq_error hwalk

/-! ### What the lines depend on -/

/-- Which values a name has is told by their octets, as far as the lines are concerned. -/
theorem joined_congr {fields fields' : Fields} {name : FieldName}
    (h : (fields.values name).map (·.octets) = (fields'.values name).map (·.octets)) :
    fields.contains name = fields'.contains name ∧
      joined fields name = joined fields' name := by
  constructor
  · rw [Bool.eq_iff_iff, contains_iff, contains_iff, Ne, Ne,
      ← List.map_eq_nil_iff (f := (·.octets)), h, List.map_eq_nil_iff]
  · have hshown : shown = (fun bs : Octets => squeeze (bs.map fun b => Char.ofNat b.toNat)) ∘
        FieldValue.octets := rfl
    rw [joined, joined, hshown, ← List.map_map, ← List.map_map, h]

/-- **The lines depend on the values of the signed names**, and of these on the octets, but
not on the order in which different names are given. -/
theorem lines_congr_octets {fields fields' : Fields}
    (h : ∀ name, Vocabulary.isSigned name = true →
      (fields.values name).map (·.octets) = (fields'.values name).map (·.octets)) :
    lines fields = lines fields' := by
  have hreadable : ∀ (fields : Fields) (name : FieldName),
      (∀ value ∈ fields.values name, ∃ text, value.text = .ok text) ↔
        ∀ octets ∈ (fields.values name).map (·.octets), octets.all isVisibleOctet = true := by
    intro fields name
    rw [List.forall_mem_map]
    exact forall₂_congr fun value _ => FieldValue.exists_text_iff
  have hexists : (∃ ls, lines fields = .ok ls) ↔ ∃ ls, lines fields' = .ok ls := by
    rw [exists_lines_iff, exists_lines_iff]
    exact forall₂_congr fun name hname => by rw [hreadable, hreadable, h name hname]
  cases hlines : lines fields with
  | ok ls =>
    obtain ⟨ls', hlines'⟩ := hexists.mp ⟨ls, hlines⟩
    rw [hlines', (lines_eq_iff hlines hlines').mpr fun name hname => joined_congr (h name hname)]
  | error e =>
    cases hlines' : lines fields' with
    | ok ls' =>
      obtain ⟨ls, hls⟩ := hexists.mpr ⟨ls', hlines'⟩
      rw [hlines] at hls
      cases hls
    | error e' => rw [eq_of_lines_eq_error hlines, eq_of_lines_eq_error hlines']

theorem lines_congr {fields fields' : Fields}
    (h : ∀ name, Vocabulary.isSigned name = true → fields.values name = fields'.values name) :
    lines fields = lines fields' :=
  lines_congr_octets fun name hname => congrArg _ (h name hname)

/-- **Setting a field that is not signed** leaves the lines alone. -/
theorem lines_insert {name : FieldName} (h : Vocabulary.isSigned name = false) (fields : Fields)
    (value : FieldValue) : lines (fields.insert name value) = lines fields := by
  refine lines_congr fun other hother => ?_
  have hne : name ≠ other := by
    rintro rfl
    rw [h] at hother
    cases hother
  rw [Fields.values_insert, if_neg hne]

/-! ### The names alone -/

theorem nodup_eraseDups {α : Type} [DecidableEq α] (l : List α) : l.eraseDups.Nodup := by
  induction l using List.reverseRecOn with
  | nil => exact List.nodup_nil
  | append_singleton l a ih =>
    rw [List.eraseDups_append]
    by_cases hmem : a ∈ l
    · simpa [List.removeAll, hmem] using ih
    · have hnotMem : a ∉ l.eraseDups := fun h => hmem (List.mem_eraseDups.mp h)
      simpa [List.removeAll, hmem, List.eraseDups_cons] using List.Nodup.concat hnotMem ih

theorem mem_names_iff {fields : Fields} {name : FieldName} :
    name ∈ fields.names ↔ fields.contains name = true := by
  simp [Fields.names, Fields.contains]

theorem pairwise_signedNames (fields : Fields) :
    (signedNames fields).Pairwise fun a b => decide (a ≤ b) = true := by
  have htrans : ∀ a b c : String, decide (a ≤ b) = true → decide (b ≤ c) = true →
      decide (a ≤ c) = true := by
    simp only [decide_eq_true_iff]
    exact fun a b c => String.le_trans
  have htotal : ∀ a b : String, (decide (a ≤ b) || decide (b ≤ a)) = true := by
    simp only [Bool.or_eq_true, decide_eq_true_iff]
    exact String.le_total
  exact List.pairwise_mergeSort htrans htotal _

/-- **Which names are announced** depends on which signed names occur. -/
theorem signedNames_congr {fields fields' : Fields}
    (h : ∀ name, Vocabulary.isSigned name = true →
      fields.contains name = fields'.contains name) :
    signedNames fields = signedNames fields' := by
  have hnodup : ∀ fields : Fields, (fields.names.filter Vocabulary.isSigned).Nodup :=
    fun fields => (nodup_eraseDups _).filter _
  have hnames : (fields.names.filter Vocabulary.isSigned).Perm
      (fields'.names.filter Vocabulary.isSigned) := by
    refine (List.perm_ext_iff_of_nodup (hnodup fields) (hnodup fields')).mpr fun name => ?_
    rw [List.mem_filter, List.mem_filter, mem_names_iff, mem_names_iff]
    exact and_congr_left fun hname => by rw [h name hname]
  have hperm : (signedNames fields).Perm (signedNames fields') :=
    (List.mergeSort_perm _ _).trans ((hnames.map _).trans (List.mergeSort_perm _ _).symm)
  refine hperm.eq_of_pairwise (fun a b _ _ hab hba => ?_) (pairwise_signedNames fields)
    (pairwise_signedNames fields')
  exact String.le_antisymm (of_decide_eq_true hab) (of_decide_eq_true hba)

end CanonicalFields

end SigV4
