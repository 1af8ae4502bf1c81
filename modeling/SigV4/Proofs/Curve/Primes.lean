import Mathlib.Data.List.Prime
import Mathlib.FieldTheory.Finite.Basic
import Mathlib.Tactic.NormNum.Prime
import SigV4.Curve.P256
import SigV4.Proofs.Curve.Power

/-!
# The two primes of the curve are primes

Everything that is proved about the curve needs inverses, and they are there because the
two moduli are primes. Trial division is out of the question for numbers of 256 bits, so
they come with certificates (`SigV4.PrimeCertificate`): enough prime factors of the number
less one, and a base whose powers show that each of these factors divides the order of a
unit. Then the product of the factors is below every prime factor of the number
(`SigV4.PrimeCertificate.prod_lt`), and a number that is less than the square of that
product has no room for two of them.

The factors are certified in the same way, down to primes that are small enough for trial
division.
-/

namespace SigV4

/-! ### Powers modulo a number -/

namespace Power

/-- A power of a number modulo another one. -/
def modPower (m base e : Nat) : Nat := power (fun x y => x * y % m) 1 base e

theorem cast_modPower {m r : Nat} (h : r ∣ m) (base e : Nat) :
    (modPower m base e : ZMod r) = (base : ZMod r) ^ e := by
  refine power_induction (Q := fun n (a : Nat) => (a : ZMod r) = (base : ZMod r) ^ n)
    ?_ ?_ (fun j k a b ha hb => ?_) e
  · rw [Nat.cast_one, pow_zero]
  · rw [pow_one]
  · have hmod : ((a * b % m : Nat) : ZMod r) = ((a * b : Nat) : ZMod r) :=
      (ZMod.natCast_eq_natCast_iff _ _ _).mpr ((Nat.mod_modEq _ m).of_dvd h)
    rw [hmod, Nat.cast_mul, ha, hb, pow_add]

end Power

/-! ### Certificates -/

/-- **A certificate** that a number is prime. -/
structure PrimeCertificate where
  /-- The number. -/
  number : Nat
  /-- The base of the powers. -/
  base : Nat
  /-- Prime factors of the number less one, all different. -/
  factors : List Nat

namespace PrimeCertificate

open Power

/-- **Whether a certificate is valid**, apart from its factors being prime: the product of
the factors divides the number less one and is more than its root, the base to the number
less one is one, and to the same without one of the factors it differs from one modulo
every divisor of the number. -/
def IsValid (c : PrimeCertificate) : Prop :=
  1 < c.number ∧ c.factors.prod ∣ c.number - 1 ∧ c.number < c.factors.prod * c.factors.prod ∧
    modPower c.number c.base (c.number - 1) = 1 ∧
    ∀ q ∈ c.factors, Nat.Coprime (modPower c.number c.base ((c.number - 1) / q) - 1) c.number

instance : DecidablePred IsValid := fun _ => inferInstanceAs (Decidable (_ ∧ _ ∧ _ ∧ _ ∧ _))

variable {c : PrimeCertificate} {r : Nat}

/-- A power of the base without one of the factors is not one modulo a prime factor. -/
theorem pow_div_ne_one (h : c.IsValid) (hr : r.Prime) (hdvd : r ∣ c.number) {q : Nat}
    (hq : q ∈ c.factors) : (c.base : ZMod r) ^ ((c.number - 1) / q) ≠ 1 := by
  obtain ⟨-, -, -, -, hcoprime⟩ := h
  intro hone
  rw [← cast_modPower hdvd] at hone
  have hmod := (ZMod.natCast_eq_natCast_iff _ 1 r).mp (hone.trans Nat.cast_one.symm)
  have hless : r ∣ modPower c.number c.base ((c.number - 1) / q) - 1 := by
    rcases Nat.eq_zero_or_pos (modPower c.number c.base ((c.number - 1) / q)) with hzero | hpos
    · rw [hzero]
      exact dvd_zero r
    · exact (Nat.modEq_iff_dvd' hpos).mp hmod.symm
  exact hr.one_lt.ne' (Nat.eq_one_of_dvd_coprimes (hcoprime q hq) hless hdvd)

/-- **The product of the factors** is less than every prime factor of the number: it is the
order of a unit. -/
theorem prod_lt (h : c.IsValid) (hfactors : ∀ q ∈ c.factors, q.Prime) (hr : r.Prime)
    (hdvd : r ∣ c.number) : c.factors.prod < r := by
  have hfact : Fact r.Prime := ⟨hr⟩
  obtain ⟨hone, ⟨t, ht⟩, -, hpow, -⟩ := id h
  have hpos : 0 < c.factors.prod := Nat.pos_of_ne_zero fun hzero => by
    rw [hzero, Nat.zero_mul] at ht
    omega
  have hwhole : ((c.base : ZMod r) ^ t) ^ c.factors.prod = 1 := by
    rw [← pow_mul, Nat.mul_comm t, ← ht, ← cast_modPower hdvd, hpow, Nat.cast_one]
  have horder : orderOf ((c.base : ZMod r) ^ t) = c.factors.prod := by
    refine orderOf_eq_of_pow_and_pow_div_prime hpos hwhole fun q hq hqdvd => ?_
    obtain ⟨q', hmem, hqq'⟩ := (Prime.dvd_prod_iff hq.prime).mp hqdvd
    obtain rfl := (Nat.prime_dvd_prime_iff_eq hq (hfactors q' hmem)).mp hqq'
    obtain ⟨u, hu⟩ := hqdvd
    have hexponent : t * (c.factors.prod / q) = (c.number - 1) / q := by
      rw [ht, hu, Nat.mul_div_cancel_left _ hq.pos, Nat.mul_assoc,
        Nat.mul_div_cancel_left _ hq.pos, Nat.mul_comm]
    rw [← pow_mul, hexponent]
    exact pow_div_ne_one h hr hdvd hmem
  have hne : (c.base : ZMod r) ^ t ≠ 0 := by
    intro hzero
    rw [hzero, zero_pow hpos.ne'] at hwhole
    exact zero_ne_one hwhole
  have hdvd' : c.factors.prod ∣ r - 1 := horder ▸ ZMod.orderOf_dvd_card_sub_one hne
  have hle := Nat.le_of_dvd (Nat.sub_pos_of_lt hr.one_lt) hdvd'
  have hr1 := hr.one_lt
  omega

/-- **A certified number is prime**: it is less than the product of two of its prime
factors would be. -/
theorem prime_of_isValid (h : c.IsValid) (hfactors : ∀ q ∈ c.factors, q.Prime) : c.number.Prime := by
  obtain ⟨hone, -, hlt, -, -⟩ := id h
  by_contra hnot
  have hmin := Nat.minFac_prime hone.ne'
  have hless := prod_lt h hfactors hmin (Nat.minFac_dvd c.number)
  have hsq := Nat.minFac_sq_le_self (Nat.zero_lt_of_lt hone) hnot
  rw [Nat.pow_two] at hsq
  have hmul := Nat.mul_lt_mul'' hless hless
  omega

end PrimeCertificate

/-! ### The primes of the curve -/

namespace P256

open PrimeCertificate

/-- The prime of the coordinate field. -/
theorem prime_prime : prime.Prime := by
  have h₃₆ : Nat.Prime 66417393611 :=
    prime_of_isValid (c := ⟨_, 6, [173, 197, 3677]⟩) (by decide +kernel) (by norm_num)
  have h₄₄ : Nat.Prime 11290956913871 :=
    prime_of_isValid (c := ⟨_, 13, [66417393611]⟩) (by decide +kernel) (by simpa using h₃₆)
  have h₅₆ : Nat.Prime 46076956964474543 :=
    prime_of_isValid (c := ⟨_, 5, [78283, 704251]⟩) (by decide +kernel) (by norm_num)
  have h₁₅₀ : Nat.Prime 774023187263532362759620327192479577272145303 :=
    prime_of_isValid (c := ⟨_, 3, [11290956913871, 46076956964474543]⟩) (by decide +kernel)
      (by simpa using ⟨h₄₄, h₅₆⟩)
  have h₁₆₀ : Nat.Prime 835945042244614951780389953367877943453916927241 :=
    prime_of_isValid (c := ⟨_, 11, [774023187263532362759620327192479577272145303]⟩) (by decide +kernel)
      (by simpa using h₁₅₀)
  exact prime_of_isValid (c := ⟨prime, 6, [835945042244614951780389953367877943453916927241]⟩)
    (by decide +kernel) (by simpa using h₁₆₀)

/-- The order of the group. -/
theorem prime_order : order.Prime := by
  have h₂₈ : Nat.Prime 191039911 :=
    prime_of_isValid (c := ⟨_, 3, [155317]⟩) (by decide +kernel) (by norm_num)
  have h₅₈ : Nat.Prime 208150935158385979 :=
    prime_of_isValid (c := ⟨_, 2, [3023, 191039911]⟩) (by decide +kernel) (by simpa using ⟨by norm_num, h₂₈⟩)
  have h₉₂ : Nat.Prime 2624747550333869278416773953 :=
    prime_of_isValid (c := ⟨_, 7, [208150935158385979]⟩) (by decide +kernel) (by simpa using h₅₈)
  have h₄₀ : Nat.Prime 1002328039319 :=
    prime_of_isValid (c := ⟨_, 19, [3969899]⟩) (by decide +kernel) (by norm_num)
  exact prime_of_isValid (c := ⟨order, 7, [1002328039319, 2624747550333869278416773953]⟩)
    (by decide +kernel) (by simpa using ⟨h₄₀, h₉₂⟩)

end P256

end SigV4
