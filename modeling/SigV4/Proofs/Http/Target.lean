import Mathlib.Data.List.TakeWhile
import SigV4.Http.Target

/-!
# A written target is read back

A path that is one, and perhaps a query, written one after the other with a question mark
between them (`SigV4.Http.Target.chars`), are read back as they were, provided that they
are accepted at all – they may be too long – and that the query holds no `#`, behind which
the reader does not look (`SigV4.Http.Target.eq_of_ofChars`).

The lone asterisk is a path as well. It is read back when nothing follows it and refused
when a query does.
-/

namespace SigV4

namespace Http

/-! ### Paths -/

theorem isPath_cases {path : List Char} (h : isPath path = true) :
    path = [] ∨ path = ['*'] ∨ ∃ cs, path = '/' :: cs ∧ ∀ c ∈ cs, isPathChar c = true := by
  unfold isPath at h
  split at h
  · exact Or.inl rfl
  · exact Or.inr (Or.inl rfl)
  · next cs => exact Or.inr (Or.inr ⟨cs, rfl, List.all_eq_true.mp h⟩)
  · cases h

theorem bne_of_isPathChar {c : Char} (h : isPathChar c = true) :
    (c != '?' && c != '#') = true := by
  rw [Bool.and_eq_true, bne_iff_ne, bne_iff_ne]
  constructor <;> rintro rfl <;> exact absurd h (by decide)

namespace Target

/-! ### Reading what was written -/

/-- The characters of a path and of a query, which may be missing. -/
def chars (path : List Char) : (query : Option (List Char)) → List Char
  | none => path
  | some query => path ++ '?' :: query

theorem eq_of_ofPieces {path : List Char} {query : Option (List Char)} {target : Target}
    (h : ofPieces path query = .ok target) :
    target.path = String.ofList path ∧ target.query = query.map String.ofList := by
  unfold ofPieces at h
  split at h
  · split at h
    · obtain rfl := Except.ok.inj h
      exact ⟨rfl, rfl⟩
    · cases h
  · cases h

/-- What is left to do for characters that start with a slash, once they have passed the
checks. -/
theorem ofPieces_of_ofChars {cs path rest : List Char} {target : Target}
    (hpath : ('/' :: cs).takeWhile (fun c => c != '?' && c != '#') = path)
    (hrest : ('/' :: cs).drop path.length = rest) (h : ofChars ('/' :: cs) = .ok target) :
    (match rest with
      | '?' :: rest => ofPieces path (some (rest.takeWhile (· != '#')))
      | _ => ofPieces path none) = .ok target := by
  unfold ofChars at h
  rw [if_neg (List.cons_ne_nil _ _)] at h
  split at h
  · cases h
  · rw [if_neg (by simp), if_neg (by simp [startsWell])] at h
    dsimp only at h
    rwa [hpath, hrest] at h

theorem ofChars_asterisk_ne_ok (query : List Char) (target : Target) :
    ofChars ('*' :: '?' :: query) ≠ .ok target := by
  intro h
  unfold ofChars at h
  rw [if_neg (List.cons_ne_nil _ _)] at h
  split at h
  · cases h
  · rw [if_neg (by simp), if_pos (by simp [startsWell])] at h
    cases h

/-- **A written path and query are read back.** -/
theorem eq_of_ofChars {path : List Char} {query : Option (List Char)} {target : Target}
    (hpath : isPath path = true) (hne : path ≠ []) (hquery : ∀ cs ∈ query, '#' ∉ cs)
    (h : ofChars (chars path query) = .ok target) :
    target.path = String.ofList path ∧ target.query = query.map String.ofList := by
  rcases isPath_cases hpath with rfl | rfl | ⟨cs, rfl, hcs⟩
  · exact absurd rfl hne
  · cases query with
    | none => exact eq_of_ofPieces h
    | some query => exact absurd h (ofChars_asterisk_ne_ok query target)
  · have hfront : ∀ c ∈ '/' :: cs, (c != '?' && c != '#') = true := by
      rintro c (_ | ⟨_, hc⟩)
      · decide
      · exact bne_of_isPathChar (hcs c hc)
    cases query with
    | none =>
      have htake := List.takeWhile_eq_self_iff.mpr hfront
      have hrest := List.drop_eq_nil_of_le (Nat.le_refl ('/' :: cs).length)
      exact eq_of_ofPieces (ofPieces_of_ofChars htake hrest h)
    | some query =>
      have htake : ('/' :: (cs ++ '?' :: query)).takeWhile (fun c => c != '?' && c != '#') =
          '/' :: cs := by
        rw [← List.cons_append, List.takeWhile_append_of_pos hfront,
          List.takeWhile_cons_of_neg (by decide), List.append_nil]
      have hwhole : query.takeWhile (· != '#') = query := by
        refine List.takeWhile_eq_self_iff.mpr fun c hc => ?_
        rw [bne_iff_ne]
        rintro rfl
        exact hquery query rfl hc
      have hpieces := ofPieces_of_ofChars htake List.drop_left h
      simp only [hwhole] at hpieces
      exact eq_of_ofPieces hpieces

end Target

end Http

end SigV4
