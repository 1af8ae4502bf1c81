import Mathlib.AlgebraicGeometry.EllipticCurve.Affine.Point
import Mathlib.Tactic.FieldSimp
import SigV4.Proofs.Curve.Residue

/-!
# The points of the curve as a group

Chord and tangent make a group of the points of a curve, and this is the one thing about
the curve that signatures depend on: a multiple of a multiple is a multiple, and two
multiples of a point add up. Associativity is a theorem about curves over any field, and it
is not proved again here. What is to be said of this curve is that its points, which are
pairs of reduced numbers, stand for points over the field of residues
(`SigV4.P256.Represents`), and that their sums and multiples stand for sums and multiples
(`SigV4.P256.Represents.add`, `SigV4.P256.Represents.multiple`).

Points off the curve stand for nothing, so no statement below speaks of them.

The order of the base point is the only fact that has to be computed
(`SigV4.P256.Represents.order_nsmul`): it takes as many additions as a signature takes.
-/

namespace SigV4

namespace P256

open WeierstrassCurve.Affine

/-! ### The curve over the field of residues -/

/-- **The curve**, by the coefficients of its equation. -/
def curve : WeierstrassCurve.Affine (ZMod prime) :=
  { a₁ := 0, a₂ := 0, a₃ := 0, a₄ := -3, a₆ := residue b }

theorem residue_three : residue (3 : Coordinate) = 3 :=
  (residue_ofNat 3).trans Nat.cast_ofNat

theorem residue_two : residue (2 : Coordinate) = 2 :=
  (residue_ofNat 2).trans Nat.cast_ofNat

/-- The curve has no singular point. -/
theorem discriminant_ne_zero : curve.Δ ≠ 0 := by
  have hcomputed : curve.Δ = residue (Fin.ofNat prime 432 * (Fin.ofNat prime 4 - b * b)) := by
    simp only [WeierstrassCurve.Δ, WeierstrassCurve.b₂, WeierstrassCurve.b₄,
      WeierstrassCurve.b₆, WeierstrassCurve.b₈, curve, residue_mul, residue_sub, residue_ofNat]
    push_cast
    ring
  rw [hcomputed, Ne, residue_eq_zero_iff]
  decide +kernel

theorem equation_iff_onCurve {x y : Coordinate} :
    curve.Equation (residue x) (residue y) ↔ Point.OnCurve x y := by
  rw [equation_iff, Point.OnCurve, ← residue_injective.eq_iff]
  simp only [residue_add, residue_sub, residue_mul, residue_three, curve]
  constructor
  · intro h
    linear_combination h
  · intro h
    linear_combination h

theorem nonsingular_of_onCurve {x y : Coordinate} (h : Point.OnCurve x y) :
    curve.Nonsingular (residue x) (residue y) :=
  (equation_iff_nonsingular_of_Δ_ne_zero discriminant_ne_zero).mp (equation_iff_onCurve.mpr h)

theorem residue_eq_negY_iff {x y₁ y₂ : Coordinate} :
    residue y₁ = curve.negY (residue x) (residue y₂) ↔ y₁ + y₂ = 0 := by
  rw [← residue_eq_zero_iff, residue_add, ← eq_neg_iff_add_eq_zero]
  simp only [negY, curve, zero_mul, sub_zero]

/-! ### Points that stand for points -/

/-- **Whether a point stands for an element of the group.** -/
inductive Represents : Point → curve.Point → Prop where
  /-- The point at infinity is the neutral element. -/
  | infinity : Represents .infinity .zero
  /-- Any other point is the one with its coordinates. -/
  | affine {x y : Coordinate} (h : curve.Nonsingular (residue x) (residue y)) :
    Represents (.affine x y) (.some _ _ h)

namespace Represents

variable {p q : Point} {P Q : curve.Point}

theorem of_residue {x y : Coordinate} {X Y : ZMod prime} (h : curve.Nonsingular X Y)
    (hx : residue x = X) (hy : residue y = Y) : Represents (.affine x y) (.some X Y h) := by
  subst hx hy
  exact .affine h

/-- Two points that stand for the same element are the same. -/
theorem unique (hp : Represents p P) (hq : Represents q P) : p = q := by
  cases hp with
  | infinity =>
    cases hq with
    | infinity => rfl
  | affine h =>
    generalize hP : WeierstrassCurve.Affine.Point.some _ _ h = P at hq
    cases hq with
    | infinity => cases hP
    | affine h' =>
      obtain ⟨hx, hy⟩ := (WeierstrassCurve.Affine.Point.some.injEq _ _ _ _ _ _).mp hP
      rw [residue_injective hx, residue_injective hy]

theorem third {slope x₁ y₁ x₂ y₂ : Coordinate}
    {h₁ : curve.Nonsingular (residue x₁) (residue y₁)}
    {h₂ : curve.Nonsingular (residue x₂) (residue y₂)}
    (hxy : ¬(residue x₁ = residue x₂ ∧ residue y₁ = curve.negY (residue x₂) (residue y₂)))
    (hslope : residue slope =
      curve.slope (residue x₁) (residue x₂) (residue y₁) (residue y₂)) :
    Represents (Point.third slope x₁ y₁ x₂) (.some _ _ h₁ + .some _ _ h₂) := by
  rw [WeierstrassCurve.Affine.Point.add_some hxy]
  refine of_residue _ ?_ ?_
  · rw [residue_sub, residue_sub, residue_mul, hslope]
    simp only [addX, curve]
    ring
  · rw [residue_sub, residue_mul, residue_sub, residue_sub, residue_sub, residue_mul, hslope]
    simp only [addY, negAddY, addX, negY, curve]
    ring

/-- **A sum stands for the sum.** -/
theorem add (hp : Represents p P) (hq : Represents q Q) : Represents (p.add q) (P + Q) := by
  cases hp with
  | infinity =>
    rw [← WeierstrassCurve.Affine.Point.zero_def, zero_add]
    exact hq
  | @affine x₁ y₁ h₁ =>
    cases hq with
    | infinity =>
      rw [← WeierstrassCurve.Affine.Point.zero_def, add_zero]
      exact .affine h₁
    | @affine x₂ y₂ h₂ =>
      by_cases hx : x₁ = x₂
      · subst hx
        by_cases hy : y₁ + y₂ = 0
        · rw [Point.add, if_pos rfl, if_pos hy,
            WeierstrassCurve.Affine.Point.add_of_Y_eq rfl (residue_eq_negY_iff.mpr hy)]
          exact .infinity
        · have hne : residue y₁ ≠ curve.negY (residue x₁) (residue y₂) :=
            mt residue_eq_negY_iff.mp hy
          rw [Point.add, if_pos rfl, if_neg hy]
          refine third (fun h => hne h.2) ?_
          rw [slope_of_Y_ne rfl hne, residue_mul, Coordinate.residue_inverse, residue_sub,
            residue_mul, residue_mul, residue_mul, residue_two, residue_three, ← div_eq_mul_inv]
          refine congrArg₂ (· / ·) ?_ ?_
          · simp only [curve]
            ring
          · simp only [negY, curve]
            ring
      · have hne : residue x₁ ≠ residue x₂ := fun h => hx (residue_injective h)
        rw [Point.add, if_neg hx]
        refine third (fun h => hne h.1) ?_
        rw [slope_of_X_ne hne, residue_mul, Coordinate.residue_inverse, residue_sub, residue_sub,
          ← div_eq_mul_inv, ← neg_div_neg_eq, neg_sub, neg_sub]

/-- **A multiple stands for the multiple**, for every number that multiplies. -/
theorem power (h : Represents p P) (n : Nat) :
    Represents (Power.power Point.add .infinity p n) (n • P) := by
  refine Power.power_induction (Q := fun n a => Represents a (n • P)) ?_ ?_ ?_ n
  · rw [zero_nsmul]
    exact .infinity
  · rw [one_nsmul]
    exact h
  · intro j k a b ha hb
    rw [add_nsmul]
    exact ha.add hb

/-- A multiple by a scalar. -/
theorem multiple (h : Represents p P) (k : Scalar) :
    Represents (Point.multiple k p) (k.val • P) :=
  h.power k.val

end Represents

/-! ### The base point -/

variable {G : curve.Point}

/-- The base point lies on the curve. -/
theorem exists_represents_base : ∃ G, Represents Point.base G :=
  ⟨_, .affine (nonsingular_of_onCurve (by decide +kernel))⟩

/-- **The base point has the order of the group.** -/
theorem Represents.order_nsmul (h : Represents Point.base G) : order • G = 0 := by
  have hcomputed : Power.power Point.add .infinity Point.base order = .infinity := by
    decide +kernel
  have horder := h.power order
  rw [hcomputed] at horder
  generalize order • G = P at horder
  cases horder
  rfl

/-- A multiple of the base point depends on the residue of the number only. -/
theorem Represents.nsmul_eq (h : Represents Point.base G) {m n : Nat}
    (hmn : (m : ZMod order) = n) : m • G = n • G := by
  rw [ZMod.natCast_eq_natCast_iff'] at hmn
  rw [nsmul_eq_mod_nsmul m h.order_nsmul, nsmul_eq_mod_nsmul n h.order_nsmul, hmn]

end P256

end SigV4
