import Mathlib.Logic.Function.Basic
import SigV4.Octets.Hex

/-!
# Hexadecimal text of either case

The reader of hexadecimal text takes letters of either case. So the texts that are read as
some octets are those that become what the writer writes when their letters are lowered
(`SigV4.Hex.decode?_eq_some_iff`), and no others: a text of odd length, with a character too
many or with one that is no digit, is not the hexadecimal text of anything.

Nothing is gained by looking at a digit through its three ranges, so digits are compared
with those of the writer, one ASCII character after another. Beyond ASCII there are neither
digits nor letters that lowering would change.
-/

namespace SigV4

namespace Hex

variable {c high low : Char} {cs : List Char} {n : Nat} {b : UInt8} {bs : Octets} {s : String}

/-! ### Digits -/

theorem digitValue?_of_not_ascii (h : ¬c.toNat < 128) : digitValue? c = none := by
  have hbeyond {top : Char} (htop : top.toNat < 128) : ¬c ≤ top := fun hle =>
    h (Nat.lt_of_le_of_lt (Char.le_def.mp hle) htop)
  rw [digitValue?, if_neg fun hd => hbeyond (by decide) hd.2,
    if_neg fun hd => hbeyond (by decide) hd.2, if_neg fun hd => hbeyond (by decide) hd.2]

theorem toLower_of_not_ascii (h : ¬c.toNat < 128) : c.toLower = c := by
  have htop : ¬c.val ≤ 'Z'.val := fun hle =>
    h (Nat.lt_of_le_of_lt (UInt32.le_iff_toNat_le.mp hle) (by decide))
  exact dif_neg fun hletter => htop hletter.2

theorem digitValue?_eq_some_iff_of_ascii :
    ∀ k < 128, (∀ n ∈ digitValue? (Char.ofNat k), n < 16) ∧
      ∀ n < 16, digitValue? (Char.ofNat k) = some n ↔ (Char.ofNat k).toLower = digit n := by
  decide +kernel

/-- **A character has a value** exactly if it is the digit of that value when it is lowered. -/
theorem digitValue?_eq_some_iff : digitValue? c = some n ↔ n < 16 ∧ c.toLower = digit n := by
  by_cases hc : c.toNat < 128
  · obtain ⟨hlt, hiff⟩ := digitValue?_eq_some_iff_of_ascii c.toNat hc
    rw [Char.ofNat_toNat] at hlt hiff
    constructor
    · intro h
      have hn := hlt n h
      exact ⟨hn, (hiff n hn).mp h⟩
    · rintro ⟨hn, h⟩
      exact (hiff n hn).mpr h
  · rw [digitValue?_of_not_ascii hc, toLower_of_not_ascii hc]
    refine ⟨nofun, ?_⟩
    rintro ⟨hn, rfl⟩
    have hdigit : ∀ n < 16, (digit n).toNat < 128 := by decide
    exact absurd (hdigit n hn) hc

/-! ### Octets -/

/-- Two characters are read as an octet exactly if they are its digits when they are
lowered. -/
theorem octet?_eq_some_iff : octet? high low = some b ↔ [high.toLower, low.toLower] = pair b := by
  have hb : b.toNat < 256 := b.toNat_lt
  rw [pair, List.cons.injEq, List.cons.injEq, and_iff_left rfl]
  constructor
  · intro h
    rw [octet?] at h
    split at h
    · next x y hhigh hlow =>
      obtain ⟨hx, hhigh⟩ := digitValue?_eq_some_iff.mp hhigh
      obtain ⟨hy, hlow⟩ := digitValue?_eq_some_iff.mp hlow
      obtain rfl := Option.some.inj h
      have hvalue : (UInt8.ofNat (x * 16 + y)).toNat = x * 16 + y := by
        rw [UInt8.toNat_ofNat']
        omega
      rw [hvalue, hhigh, hlow]
      exact ⟨congrArg digit (by omega), congrArg digit (by omega)⟩
    · cases h
  · rintro ⟨hhigh, hlow⟩
    rw [octet?, digitValue?_eq_some_iff.mpr ⟨by omega, hhigh⟩,
      digitValue?_eq_some_iff.mpr ⟨by omega, hlow⟩]
    exact congrArg some (by rw [show b.toNat / 16 * 16 + b.toNat % 16 = b.toNat by omega,
      UInt8.ofNat_toNat])

theorem digits_cons (b : UInt8) (bs : Octets) : digits (b :: bs) = pair b ++ digits bs :=
  List.flatMap_cons

theorem octets?_cons_cons_eq_some_iff :
    octets? (high :: low :: cs) = some bs ↔
      ∃ b rest, octet? high low = some b ∧ octets? cs = some rest ∧ bs = b :: rest := by
  rw [octets?]
  constructor
  · intro h
    split at h
    · next b rest hb hrest => exact ⟨b, rest, hb, hrest, (Option.some.inj h).symm⟩
    · cases h
  · rintro ⟨b, rest, hb, hrest, rfl⟩
    rw [hb, hrest]

theorem octets?_eq_some_iff : octets? cs = some bs ↔ cs.map Char.toLower = digits bs := by
  induction bs generalizing cs with
  | nil =>
    match cs with
    | [] => exact ⟨fun _ => rfl, fun _ => rfl⟩
    | [c] => exact ⟨nofun, nofun⟩
    | high :: low :: cs =>
      rw [octets?_cons_cons_eq_some_iff]
      exact ⟨nofun, nofun⟩
  | cons b bs ih =>
    match cs with
    | [] => exact ⟨nofun, nofun⟩
    | [c] => simp [octets?, digits_cons, pair]
    | high :: low :: cs =>
      have hmap : (high :: low :: cs).map Char.toLower =
        [high.toLower, low.toLower] ++ cs.map Char.toLower := rfl
      rw [octets?_cons_cons_eq_some_iff, digits_cons, hmap]
      constructor
      · rintro ⟨_, _, hb, hrest, h⟩
        obtain ⟨rfl, rfl⟩ := List.cons.inj h
        rw [octet?_eq_some_iff.mp hb, ih.mp hrest]
      · intro h
        obtain ⟨hb, hrest⟩ := List.append_inj h rfl
        exact ⟨b, bs, octet?_eq_some_iff.mpr hb, ih.mpr hrest, rfl⟩

/-- **A text is read as octets** exactly if it is their hexadecimal text up to the case of its
letters. -/
theorem decode?_eq_some_iff : decode? s = some bs ↔ s.toLower = encode bs := by
  have hlower : s.toLower.toList = s.toList.map Char.toLower := String.toList_map
  rw [decode?, octets?_eq_some_iff, encode, ← String.toList_inj, hlower, String.toList_ofList]

/-- What the writer writes is in lower case. -/
theorem toLower_encode (bs : Octets) : (encode bs).toLower = encode bs :=
  decode?_eq_some_iff.mp (decode?_encode bs)

theorem encode_injective : Function.Injective encode := by
  intro bs bs' h
  have hdecode := congrArg decode? h
  rw [decode?_encode, decode?_encode] at hdecode
  exact Option.some.inj hdecode

end Hex

end SigV4
