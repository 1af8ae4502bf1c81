import Mathlib.Algebra.Group.Nat.Defs
import Mathlib.Data.List.Induction
import SigV4.Octets

/-!
# Octets and the numbers they write

A number is written in a width, and reading it back forgets the width: zeros in front do not
count (`SigV4.Octets.toNat_replicate_append`). That is all that is forgotten. Octets of one
length are told apart by the number they write (`SigV4.Octets.ofNat_toNat`), which is why a
format of fixed width has one text for each number, and a format of free width must say how
many zeros it takes.
-/

namespace SigV4

namespace Octets

/-! ### Reading -/

/-- Octets behind others write the lower digits of the number. -/
theorem toNat_append (front back : Octets) :
    toNat (front ++ back) = toNat front * 256 ^ back.length + toNat back := by
  induction back using List.reverseRecOn with
  | nil => rw [List.append_nil, List.length_nil, Nat.pow_zero, Nat.mul_one]; rfl
  | append_singleton back b ih =>
    rw [← List.append_assoc, toNat_append_singleton, ih, toNat_append_singleton,
      List.length_append, List.length_singleton, Nat.pow_succ, Nat.add_mul, Nat.mul_assoc,
      Nat.add_assoc]

theorem toNat_cons (b : UInt8) (bs : Octets) :
    toNat (b :: bs) = b.toNat * 256 ^ bs.length + toNat bs := by
  rw [← List.singleton_append, toNat_append]
  simp [toNat]

/-- **Zeros in front** do not count. -/
theorem toNat_replicate_append (count : Nat) (bs : Octets) :
    toNat (List.replicate count 0 ++ bs) = toNat bs := by
  induction count with
  | zero => rfl
  | succ count ih =>
    rw [List.replicate_succ, List.cons_append, toNat_cons, ih, UInt8.toNat_zero, Nat.zero_mul,
      Nat.zero_add]

/-- Octets are zeros, and then those without zeros in front. -/
theorem exists_replicate_append_dropWhile (bs : Octets) :
    ∃ count, bs = List.replicate count 0 ++ bs.dropWhile (· = 0) := by
  induction bs with
  | nil => exact ⟨0, rfl⟩
  | cons b bs ih =>
    by_cases hb : b = 0
    · obtain ⟨count, hcount⟩ := ih
      refine ⟨count + 1, ?_⟩
      subst hb
      exact congrArg (0 :: ·) hcount
    · exact ⟨0, by simp [hb]⟩

theorem ne_zero_of_dropWhile {bs rest : Octets} {b : UInt8}
    (h : bs.dropWhile (· = 0) = b :: rest) : b ≠ 0 := by
  have hhead := List.head?_dropWhile_not (· = 0) bs
  rw [h] at hhead
  simpa using hhead

/-- A number has as many digits as there are octets, at most. -/
theorem toNat_lt (bs : Octets) : toNat bs < 256 ^ bs.length := by
  induction bs with
  | nil => decide
  | cons b bs ih =>
    have hb : b.toNat + 1 ≤ 256 := b.toNat_lt
    rw [toNat_cons, List.length_cons, Nat.pow_succ']
    calc b.toNat * 256 ^ bs.length + toNat bs
        < b.toNat * 256 ^ bs.length + 256 ^ bs.length := Nat.add_lt_add_left ih _
      _ = (b.toNat + 1) * 256 ^ bs.length := (Nat.succ_mul _ _).symm
      _ ≤ 256 * 256 ^ bs.length := Nat.mul_le_mul_right _ hb

/-! ### Writing what was read -/

/-- **Octets are what is written** of their number in their width. -/
theorem ofNat_toNat (bs : Octets) : ofNat bs.length (toNat bs) = bs := by
  induction bs using List.reverseRecOn with
  | nil => rfl
  | append_singleton bs b ih =>
    have hb := b.toNat_lt
    rw [List.length_append, List.length_singleton, toNat_append_singleton, ofNat,
      show (toNat bs * 256 + b.toNat) / 256 = toNat bs by omega, ih]
    refine congrArg (bs ++ [·]) (UInt8.toNat_inj.mp ?_)
    rw [UInt8.toNat_ofNat']
    omega

/-- In a greater width there are zeros in front. -/
theorem ofNat_toNat_of_le {bs : Octets} {width : Nat} (h : bs.length ≤ width) :
    ofNat width (toNat bs) = List.replicate (width - bs.length) 0 ++ bs := by
  have hpadded := ofNat_toNat (List.replicate (width - bs.length) 0 ++ bs)
  rwa [toNat_replicate_append, List.length_append, List.length_replicate,
    Nat.sub_add_cancel h] at hpadded

/-- A number that fits a width is read back. -/
theorem toNat_ofNat_of_lt {width n : Nat} (h : n < 256 ^ width) : toNat (ofNat width n) = n := by
  rw [toNat_ofNat]
  exact Nat.mod_eq_of_lt h

end Octets

end SigV4
