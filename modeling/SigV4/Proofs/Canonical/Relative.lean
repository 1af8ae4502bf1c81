import SigV4.Proofs.Canonical.Resolved

/-!
# Paths that are followed from other paths

Resolving a path is following it down from the root, and a path with another one behind it is
that other one followed from the place to which the first one leads.

* The first path can be resolved beforehand, since all that the second one can see of it are
  the names that are left (`SigV4.CanonicalPath.layout_normalize_append`).
* As many names of the first path go as the second one climbs, and if there are fewer, they all
  go (`SigV4.CanonicalPath.names_normalize_append`). Nothing is above the root, and a `..` that
  is followed from there leads nowhere else.

So the names along a resolved path are the segments that survive, and it is the slash behind
them that needs a word of its own: it is there if the path had one at its end, or if there is
no name in front of it (`SigV4.CanonicalPath.getLast?_normalize`). What stands in front of the
last slash of a path has no part in that.
-/

namespace SigV4

namespace CanonicalPath

/-! ### Places -/

/-- **The names along a path**: its segments that are not empty. -/
def names (path : List Char) : List (List Char) :=
  (path.splitOn '/').filter (!·.isEmpty)

theorem Layout.names_chars (l : Layout) : CanonicalPath.names l.chars = l.names := by
  rw [CanonicalPath.names, splitOn_chars, ← names_eq_filter]

/-- The root is the only place without a name. -/
theorem Layout.chars_eq_root_iff {l : Layout} : l.chars = ['/'] ↔ l.names = [] := by
  constructor
  · intro h
    rw [← l.names_chars, h]
    decide
  · intro h
    rw [chars_eq, h, l.slash_of_nil h]
    rfl

theorem names_normalize (path : List Char) :
    names (normalize path) = resolve (path.splitOn '/') := by
  rw [normalize_eq, Layout.names_chars]
  rfl

/-- What a path ends with depends on what is behind its last slash. -/
theorem getLast?_append_slash (path path' rest : List Char) :
    (path ++ '/' :: rest).getLast? = (path' ++ '/' :: rest).getLast? := by
  rw [List.getLast?_append_cons, List.getLast?_append_cons]

/-- **Following a path from a place**: as many names go as the path climbs, all of them if
there are fewer, and what is left of the path comes behind the others. -/
theorem names_normalize_append (path rest : List Char) :
    names (normalize (path ++ '/' :: rest)) =
      (names (normalize path)).rdrop (climb (rest.splitOn '/')) ++ names (normalize rest) := by
  rw [names_normalize, names_normalize, names_normalize, List.splitOn_append_cons_self,
    resolve_append]

/-- Resolving a path twice is resolving it once. -/
theorem normalize_normalize (path : List Char) : normalize (normalize path) = normalize path := by
  rw [normalize_eq path, normalize_eq, layout_chars isPlain_of_mem_layout]

/-- The path that is followed by another one can be resolved beforehand. -/
theorem layout_normalize_append (path rest : List Char) :
    layout (normalize path ++ '/' :: rest) = layout (path ++ '/' :: rest) := by
  have hnames : (layout (normalize path ++ '/' :: rest)).names =
      (layout (path ++ '/' :: rest)).names := by
    rw [← Layout.names_chars, ← normalize_eq, ← Layout.names_chars, ← normalize_eq,
      names_normalize_append, names_normalize_append, normalize_normalize]
  refine Layout.ext hnames ?_
  rw [Bool.eq_iff_iff, slash_layout_iff, slash_layout_iff, hnames, getLast?_append_slash _ path]

/-- **Each `..` behind a path** takes one name along, as long as there is one. -/
theorem names_normalize_parents (path : List Char) (n : Nat) :
    names (normalize (path ++ (List.replicate n ['/', '.', '.']).flatten)) =
      (names (normalize path)).rdrop n := by
  induction n generalizing path with
  | zero => rw [List.replicate_zero, List.flatten_nil, List.append_nil, List.rdrop_zero]
  | succ n ih =>
    have hstep : names (normalize (path ++ ['/', '.', '.'])) = (names (normalize path)).rdrop 1 :=
      (names_normalize_append path ['.', '.']).trans (List.append_nil _)
    rw [List.replicate_succ, List.flatten_cons, ← List.append_assoc, ih, hstep]
    simp only [List.rdrop_eq_reverse_drop_reverse, List.reverse_reverse, List.drop_drop]
    rw [Nat.add_comm]

/-! ### Resolved paths -/

/-- A resolved path ends with a slash if it is the root or did so before. -/
theorem getLast?_normalize (path : List Char) :
    (normalize path).getLast? = some '/' ↔
      normalize path = ['/'] ∨ path.getLast? = some '/' := by
  rw [normalize_eq, Layout.getLast?_chars, Layout.chars_eq_root_iff, slash_layout_iff]

/-- **Resolving is following from the root.** A path that is followed by another one can be
resolved beforehand, and a resolved path is not changed by resolving it. It starts with a slash,
has no dot segment, and nothing in it is empty between the first slash and the last one. The
names along it are the segments that survive, unchanged and in order. Each `..` behind it takes
one of them along, and none where none is left, so there is no way up from the root. It ends
with a slash exactly if it is the root or the path it comes from does. -/
theorem normalize_normalize_append (path rest : List Char) :
    normalize (path ++ '/' :: rest) = normalize (normalize path ++ '/' :: rest) ∧
      normalize (normalize path) = normalize path ∧
      (normalize path).head? = some '/' ∧
      (¬∃ segment ∈ (normalize path).splitOn '/', IsDots segment) ∧
      [] ∉ ((normalize path).splitOn '/').tail.dropLast ∧
      names (normalize path) = survivors (path.splitOn '/') ∧
      (survivors (path.splitOn '/')).Sublist (path.splitOn '/') ∧
      (∀ n, names (normalize (path ++ (List.replicate n ['/', '.', '.']).flatten)) =
        (names (normalize path)).rdrop n) ∧
      ((normalize path).getLast? = some '/' ↔
        normalize path = ['/'] ∨ path.getLast? = some '/') := by
  refine ⟨?_, normalize_normalize path, ?_, ?_, ?_, ?_, survivors_sublist _,
    names_normalize_parents path, getLast?_normalize path⟩
  · rw [normalize_eq (normalize path ++ _), layout_normalize_append, normalize_eq]
  · rw [normalize_eq]
    exact Layout.head?_chars _
  · rw [normalize_eq, Layout.splitOn_chars, Layout.exists_isDots_iff]
    rintro ⟨name, hname, hdots⟩
    exact (isPlain_of_mem_layout name hname).2 hdots
  · rw [normalize_eq, Layout.splitOn_chars]
    exact Layout.nil_not_mem_between _
  · rw [names_normalize, resolve_eq_survivors]

example : normalize "/a/../../b/./c//".toList = "/b/c/".toList := by decide

end CanonicalPath

end SigV4
