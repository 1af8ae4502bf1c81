import Mathlib.Data.List.DropRight
import Mathlib.Data.List.Infix
import SigV4.Canonical.Path

/-!
# The segments that are left of a path

A path is resolved by a stack of segments, and a segment stays on the stack only if it stands
for itself (`SigV4.CanonicalPath.IsPlain`): it is neither empty nor a dot segment. To follow
segments from a place is to go one place down at each of these and one up at each `..`, and to
stay at the others.

Segments may climb above the place from which they are followed, and all that matters of this
is how far (`SigV4.CanonicalPath.climb`): so many segments of the place are gone in the end,
and what is left of those that were followed comes behind the others. One equation says so for
every stack (`SigV4.CanonicalPath.foldl_visit_eq`), and what a resolved path looks like is read
off the two sides of it.

| followed from `/a/b` | how far it climbs | place |
|---|---|---|
| `c/../d` | 0 | `/a/b/d` |
| `c/../../d` | 1 | `/a/d` |
| `../../../d` | 3 | `/d` |

Which segments are left can be told without a stack. A segment survives
(`SigV4.CanonicalPath.survivors`) if it stands for itself and what is behind it keeps below it
(`SigV4.CanonicalPath.KeepsBelow`), and that is a matter of counting: nowhere behind it have
there been more `..` than segments that stand for themselves.
-/

namespace SigV4

namespace CanonicalPath

/-! ### Segments -/

/-- Whether a segment is a dot segment. -/
def IsDots (segment : List Char) : Prop :=
  segment = ['.'] ∨ segment = ['.', '.']

instance : DecidablePred IsDots := fun segment =>
  inferInstanceAs (Decidable (segment = ['.'] ∨ segment = ['.', '.']))

/-- **Whether a segment stands for itself**: it is neither empty nor a dot segment. -/
def IsPlain (segment : List Char) : Prop :=
  segment ≠ [] ∧ ¬IsDots segment

instance : DecidablePred IsPlain := fun segment =>
  inferInstanceAs (Decidable (segment ≠ [] ∧ ¬IsDots segment))

variable {stack pieces : List (List Char)} {segment : List Char}

theorem visit_of_isPlain (h : IsPlain segment) : visit stack segment = segment :: stack := by
  obtain ⟨hne, hdots⟩ := h
  obtain ⟨hone, htwo⟩ := not_or.mp hdots
  rw [visit, if_neg (not_or.mpr ⟨hne, hone⟩), if_neg htwo]

theorem not_isPlain_parent : ¬IsPlain ['.', '.'] := by
  decide

/-- A segment that does not stand for itself and is not `..` is skipped. -/
theorem visit_of_skipped (h : ¬IsPlain segment) (hparent : segment ≠ ['.', '.']) :
    visit stack segment = stack := by
  rw [visit, if_pos]
  by_contra hkept
  obtain ⟨hne, hdot⟩ := not_or.mp hkept
  exact h ⟨hne, not_or.mpr ⟨hdot, hparent⟩⟩

/-! ### Up and down -/

/-- **Whether segments keep below the place** from which they are followed: in no front part of
them are there more `..` than segments that stand for themselves. -/
def KeepsBelow (pieces : List (List Char)) : Prop :=
  ∀ front ∈ pieces.inits, front.count ['.', '.'] ≤ front.countP (IsPlain ·)

instance : DecidablePred KeepsBelow := fun pieces =>
  inferInstanceAs
    (Decidable (∀ front ∈ pieces.inits, front.count ['.', '.'] ≤ front.countP (IsPlain ·)))

/-- **The segments that survive**: those that stand for themselves, if what is behind them
keeps below them. -/
def survivors : List (List Char) → List (List Char)
  | [] => []
  | segment :: rest =>
    if IsPlain segment ∧ KeepsBelow rest then segment :: survivors rest else survivors rest

/-- **How far segments climb** above the place from which they are followed. A segment that
stands for itself is a place to come up to before that. -/
def climb : List (List Char) → Nat
  | [] => 0
  | segment :: rest =>
    if IsPlain segment then climb rest - 1
    else if segment = ['.', '.'] then climb rest + 1
    else climb rest

/-- **How far segments climb** is by how many `..` there are too many in the worst of their
front parts. -/
theorem climb_le_iff {n : Nat} :
    climb pieces ≤ n ↔
      ∀ front ∈ pieces.inits, front.count ['.', '.'] ≤ front.countP (IsPlain ·) + n := by
  induction pieces generalizing n with
  | nil => simp [climb]
  | cons segment rest ih =>
    have hfronts : (∀ front ∈ (segment :: rest).inits,
          front.count ['.', '.'] ≤ front.countP (IsPlain ·) + n) ↔
        ∀ front ∈ rest.inits, (segment :: front).count ['.', '.'] ≤
          (segment :: front).countP (IsPlain ·) + n := by
      simp
    rw [hfronts, climb]
    by_cases hplain : IsPlain segment
    · have hparent : segment ≠ ['.', '.'] := by
        rintro rfl
        exact not_isPlain_parent hplain
      rw [if_pos hplain, Nat.sub_le_iff_le_add, ih]
      refine forall₂_congr fun front _ => ?_
      rw [List.count_cons_of_ne hparent, List.countP_cons_of_pos (by simpa using hplain)]
      omega
    rw [if_neg hplain]
    have hcountP : ∀ front : List (List Char),
        (segment :: front).countP (IsPlain ·) = front.countP (IsPlain ·) :=
      fun front => List.countP_cons_of_neg (by simpa using hplain)
    by_cases hparent : segment = ['.', '.']
    · subst hparent
      rw [if_pos rfl]
      cases n with
      | zero =>
        -- With nothing to spare, the first `..` is already one too many.
        refine iff_of_false (by omega) fun h => ?_
        have hfirst := h [] (by simp)
        rw [hcountP, List.count_cons_self] at hfirst
        simp at hfirst
      | succ n =>
        rw [Nat.add_le_add_iff_right, ih]
        refine forall₂_congr fun front _ => ?_
        rw [hcountP, List.count_cons_self]
        omega
    · rw [if_neg hparent, ih]
      refine forall₂_congr fun front _ => ?_
      rw [hcountP, List.count_cons_of_ne hparent]

theorem climb_eq_zero_iff : climb pieces = 0 ↔ KeepsBelow pieces := by
  rw [← Nat.le_zero, climb_le_iff]
  rfl

/-- Segments that stand for themselves do not climb. -/
theorem climb_of_isPlain (h : ∀ segment ∈ pieces, IsPlain segment) : climb pieces = 0 := by
  induction pieces with
  | nil => rfl
  | cons segment rest ih =>
    rw [climb, if_pos (h segment List.mem_cons_self),
      ih fun other hother => h other (List.mem_cons_of_mem _ hother)]

/-! ### What is left of segments that are followed -/

/-- **Following segments from a place** takes as many segments of the place along as they
climb, and puts those that survive on the others. -/
theorem foldl_visit_eq :
    pieces.foldl visit stack = (survivors pieces).reverse ++ stack.drop (climb pieces) := by
  induction pieces generalizing stack with
  | nil => rfl
  | cons segment rest ih =>
    rw [List.foldl_cons, ih, survivors, climb]
    by_cases hplain : IsPlain segment
    · rw [visit_of_isPlain hplain, if_pos hplain]
      -- The segment is on top of the stack, so it is the first to go.
      by_cases hbelow : KeepsBelow rest
      · rw [if_pos ⟨hplain, hbelow⟩, climb_eq_zero_iff.mpr hbelow, List.reverse_cons,
          List.append_assoc]
        rfl
      · obtain ⟨n, hn⟩ := Nat.exists_eq_succ_of_ne_zero (mt climb_eq_zero_iff.mp hbelow)
        rw [if_neg (hbelow ·.2), hn, List.drop_succ_cons, Nat.succ_sub_one]
    · rw [if_neg (hplain ·.1), if_neg hplain]
      by_cases hparent : segment = ['.', '.']
      · have hvisit : visit stack ['.', '.'] = stack.tail := rfl
        rw [if_pos hparent, hparent, hvisit, List.drop_tail]
      · rw [if_neg hparent, visit_of_skipped hplain hparent]

/-- **What is left** of segments are those that survive. -/
theorem resolve_eq_survivors (pieces : List (List Char)) : resolve pieces = survivors pieces := by
  rw [resolve, foldl_visit_eq, List.drop_nil, List.append_nil, List.reverse_reverse]

/-- What is left of segments with others behind them. -/
theorem resolve_append (pieces others : List (List Char)) :
    resolve (pieces ++ others) = (resolve pieces).rdrop (climb others) ++ resolve others := by
  rw [resolve_eq_survivors others, List.rdrop_eq_reverse_drop_reverse, resolve, resolve,
    List.foldl_append, foldl_visit_eq, List.reverse_append, List.reverse_reverse,
    List.reverse_reverse]

/-- Segments survive unchanged and in order. -/
theorem survivors_sublist (pieces : List (List Char)) :
    (survivors pieces).Sublist pieces := by
  induction pieces with
  | nil => exact List.Sublist.slnil
  | cons segment rest ih =>
    rw [survivors]
    split
    · exact ih.cons_cons segment
    · exact ih.cons segment

theorem isPlain_of_mem_survivors (h : segment ∈ survivors pieces) : IsPlain segment := by
  induction pieces with
  | nil => cases h
  | cons piece rest ih =>
    rw [survivors] at h
    split at h
    · next hkept =>
      rcases List.mem_cons.mp h with rfl | h
      · exact hkept.1
      · exact ih h
    · exact ih h

theorem of_mem_resolve (h : segment ∈ resolve pieces) : segment ∈ pieces ∧ IsPlain segment := by
  rw [resolve_eq_survivors] at h
  exact ⟨(survivors_sublist pieces).subset h, isPlain_of_mem_survivors h⟩

/-- **Nothing is lost** exactly of segments that stand for themselves. -/
theorem resolve_eq_self_iff :
    resolve pieces = pieces ↔ ∀ segment ∈ pieces, IsPlain segment := by
  constructor
  · intro h segment hsegment
    rw [← h] at hsegment
    exact (of_mem_resolve hsegment).2
  · intro h
    rw [resolve_eq_survivors]
    induction pieces with
    | nil => rfl
    | cons segment rest ih =>
      have hrest : ∀ other ∈ rest, IsPlain other := fun other hother =>
        h other (List.mem_cons_of_mem _ hother)
      have hbelow := climb_eq_zero_iff.mp (climb_of_isPlain hrest)
      rw [survivors, if_pos ⟨h segment List.mem_cons_self, hbelow⟩, ih hrest]

end CanonicalPath

end SigV4
