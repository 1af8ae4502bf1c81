import Mathlib.Data.List.Basic

/-!
# Joined pieces

Most texts here are pieces with a separator between them, and no piece is quoted. Such
a text can be read in one way only as long as no piece holds the separator. This file
says so once, for lists of anything, so that each format has to show no more than what
its pieces are made of:

* `SigV4.Joined.not_mem_intercalate` – what stands neither in a piece nor between two of
  them does not stand in the joined text;
* `SigV4.Joined.intercalate_inj` – the joined text determines the pieces, if there are
  any;
* `SigV4.Joined.pair_inj` – a piece ends at the first separator;
* `SigV4.Joined.head?_intercalate_iff` – the joined text starts with a separator if the first
  piece is empty and not the only one.
-/

namespace SigV4

namespace Joined

variable {α : Type} {sep : α}

theorem not_mem_intercalate {a : α} {pieces : List (List α)} (hsep : a ≠ sep)
    (h : ∀ piece ∈ pieces, a ∉ piece) : a ∉ [sep].intercalate pieces := by
  induction pieces with
  | nil => exact List.not_mem_nil
  | cons piece pieces ih =>
    have hpiece := h piece List.mem_cons_self
    have hrest := ih fun other hother => h other (List.mem_cons_of_mem _ hother)
    rcases eq_or_ne pieces [] with rfl | hne
    · rwa [List.intercalate_singleton]
    · rw [List.intercalate_cons_of_ne_nil hne, List.mem_append, List.mem_append,
        List.mem_singleton]
      rintro ((hmem | rfl) | hmem)
      · exact hpiece hmem
      · exact hsep rfl
      · exact hrest hmem

/-- **The joined text determines the pieces**, if there are any and none of them holds the
separator. -/
theorem intercalate_inj [BEq α] [LawfulBEq α] {pieces pieces' : List (List α)}
    (hne : pieces ≠ []) (hne' : pieces' ≠ []) (h : ∀ piece ∈ pieces, sep ∉ piece)
    (h' : ∀ piece ∈ pieces', sep ∉ piece)
    (heq : [sep].intercalate pieces = [sep].intercalate pieces') : pieces = pieces' := by
  rw [← List.splitOn_intercalate sep h hne, heq, List.splitOn_intercalate sep h' hne']

/-- **A piece ends at the first separator**, so it can be told from what follows it. -/
theorem pair_inj [BEq α] [LawfulBEq α] {piece piece' rest rest' : List α} (h : sep ∉ piece)
    (h' : sep ∉ piece') (heq : piece ++ sep :: rest = piece' ++ sep :: rest') :
    piece = piece' ∧ rest = rest' := by
  have hsplit := congrArg (List.splitOn sep) heq
  rw [List.splitOn_append_cons_self_of_not_mem h,
    List.splitOn_append_cons_self_of_not_mem h'] at hsplit
  obtain ⟨rfl, -⟩ := List.cons.inj hsplit
  exact ⟨rfl, (List.cons.inj (List.append_cancel_left heq)).2⟩

/-- What a text is split at does not stand in the pieces. -/
theorem not_of_mem_splitOnP {p : α → Bool} {a : α} {as piece : List α}
    (h : piece ∈ as.splitOnP p) (ha : a ∈ piece) : p a = false := by
  induction as generalizing piece with
  | nil =>
    obtain rfl := List.mem_singleton.mp h
    cases ha
  | cons b bs ih =>
    rw [List.splitOnP_cons_eq_if_modifyHead] at h
    split at h
    · rcases List.mem_cons.mp h with rfl | h
      · cases ha
      · exact ih h ha
    · next hb =>
      cases hs : bs.splitOnP p with
      | nil => exact absurd hs (List.splitOnP_ne_nil p bs)
      | cons first rest =>
        rw [hs, List.modifyHead_cons] at h
        rw [hs] at ih
        rcases List.mem_cons.mp h with rfl | h
        · rcases List.mem_cons.mp ha with rfl | ha
          · exact Bool.not_eq_true _ ▸ hb
          · exact ih List.mem_cons_self ha
        · exact ih (List.mem_cons_of_mem _ h) ha

theorem not_mem_of_mem_splitOn [BEq α] [LawfulBEq α] {as piece : List α}
    (h : piece ∈ as.splitOn sep) : sep ∉ piece := by
  intro hsep
  rw [List.splitOn_eq_splitOnP] at h
  exact absurd (not_of_mem_splitOnP h hsep) (by simp)

/-- Behind the first piece, each piece follows a separator. -/
theorem intercalate_cons_eq (piece : List α) (pieces : List (List α)) :
    [sep].intercalate (piece :: pieces) = piece ++ pieces.flatMap (sep :: ·) := by
  induction pieces generalizing piece with
  | nil => rw [List.intercalate_singleton, List.flatMap_nil, List.append_nil]
  | cons other pieces ih =>
    rw [List.intercalate_cons_cons, ih, List.flatMap_cons, List.append_assoc]
    rfl

/-- **Joined pieces start with a separator** if the first of them is empty and not the only
one. -/
theorem head?_intercalate_iff {pieces : List (List α)} (h : ∀ piece ∈ pieces, sep ∉ piece) :
    ([sep].intercalate pieces).head? = some sep ↔ pieces.head? = some [] ∧ pieces.tail ≠ [] := by
  cases pieces with
  | nil => simp
  | cons piece pieces =>
    rw [intercalate_cons_eq]
    cases piece with
    | nil => cases pieces <;> simp
    | cons a as =>
      have ha : a ≠ sep := fun he => h _ List.mem_cons_self (he ▸ List.mem_cons_self)
      simp [ha]

end Joined

end SigV4
