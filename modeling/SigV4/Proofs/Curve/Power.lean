import SigV4.Curve.Power

/-!
# What the binary power computes

The binary power applies an operation by the digits of an exponent, and it is to be the
base combined with itself as often as the exponent says. What “combined with itself `n`
times” means depends on where the operation comes from – a product of residues, a sum of
points – so it is a predicate here, `Q n a` for *`a` is an `n`-fold combination of the
base*, and all that is asked of it is that the operation adds up the counts
(`SigV4.Power.power_induction`). Nothing is asked of the operation itself: it need not be
associative, and it may be defined on more than the predicate knows.
-/

namespace SigV4

namespace Power

variable {α : Type} {op : α → α → α} {one base : α} {Q : Nat → α → Prop}

/-- The lowest `k` digits of an exponent are its last digit behind the others. -/
theorem reverse_map_testBit_succ (e k : Nat) :
    (List.range (k + 1)).reverse.map e.testBit =
      (List.range k).reverse.map (e / 2).testBit ++ [e.testBit 0] := by
  rw [List.range_succ_eq_map, List.reverse_cons, List.map_append, ← List.map_reverse,
    List.map_map, List.map_singleton]
  refine congrArg (· ++ _) (List.map_congr_left fun i _ => ?_)
  exact Nat.testBit_succ e i

/-- One digit doubles the count, and adds one if it is set. -/
theorem step_induction (hone : Q 1 base)
    (hop : ∀ m n a b, Q m a → Q n b → Q (m + n) (op a b)) {n : Nat} {a : α} (h : Q n a)
    (digit : Bool) : Q (2 * n + digit.toNat) (step op base a digit) := by
  have hdouble : Q (2 * n) (op a a) := by
    rw [Nat.two_mul]
    exact hop n n a a h h
  cases digit with
  | false => exact hdouble
  | true => exact hop (2 * n) 1 _ _ hdouble hone

/-- **The binary power** is the base combined with itself as often as the exponent says. -/
theorem power_induction (hzero : Q 0 one) (hone : Q 1 base)
    (hop : ∀ m n a b, Q m a → Q n b → Q (m + n) (op a b)) (e : Nat) :
    Q e (power op one base e) := by
  -- The digits that have been read are those of the exponent without its lowest digits, so
  -- the induction peels the digit that is read last.
  have hlow : ∀ k e, Q (e % 2 ^ k)
      (((List.range k).reverse.map e.testBit).foldl (step op base) one) := by
    intro k
    induction k with
    | zero =>
      intro e
      rw [Nat.pow_zero, Nat.mod_one]
      exact hzero
    | succ k ih =>
      intro e
      have hdigit : e % 2 ^ (k + 1) = 2 * (e / 2 % 2 ^ k) + (e.testBit 0).toNat := by
        rw [Nat.pow_succ', Nat.mod_mul, Nat.toNat_testBit, Nat.pow_zero, Nat.div_one]
        omega
      rw [reverse_map_testBit_succ, List.foldl_append, List.foldl_cons, List.foldl_nil, hdigit]
      exact step_induction hone hop (ih (e / 2)) _
  have hall := hlow (e.log2 + 1) e
  rwa [Nat.mod_eq_of_lt Nat.lt_log2_self] at hall

end Power

end SigV4
