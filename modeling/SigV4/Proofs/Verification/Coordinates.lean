import SigV4.Identity
import SigV4.Proofs.Ecdsa.PublicKey
import SigV4.Proofs.Octets.HexCase
import SigV4.Proofs.Octets.Numbers
import SigV4.Proofs.Signer.Kinds
import SigV4.Verification

/-!
# Public keys by their coordinates

A public key is published as two texts of 64 hexadecimal digits. Whoever reads them must get a
point of the curve or an error about keys, and never a point that is not on the curve, since
multiples of such a point give away more than they should.

* A text is a coordinate if it has 64 digits, of either case, and the number that they write is
  below the prime. No number has two texts but for the case of the letters, so the coordinates of
  the point that is read are the texts that were given, with their letters lowered
  (`SigV4.Verification.hex_eq_toLower_iff`).
* Two coordinates are a point if they satisfy the equation of the curve. The public key of a private
  key does (`SigV4.Ecdsa.PrivateKey.exists_publicKey`), so it is read back from what was published.
-/

namespace SigV4

open Outcome P256

/-! ### Hexadecimal numbers -/

namespace Hex

variable {high low : Char} {cs : List Char} {b : UInt8} {bs : Octets} {s : String} {n : Nat}

/-- The number that hexadecimal digits write, behind others that write `n`. -/
def valueFrom (n : Nat) (cs : List Char) : Nat :=
  cs.foldl (fun n c => n * 16 + (digitValue? c).getD 0) n

/-- **The number that a hexadecimal text writes.** -/
def value (s : String) : Nat := valueFrom 0 s.toList

/-- Two digits are one octet. -/
theorem valueFrom_of_octet? (h : octet? high low = some b) :
    valueFrom n (high :: low :: cs) = valueFrom (n * 256 + b.toNat) cs := by
  rw [octet?] at h
  split at h
  · next x y hhigh hlow =>
    have hx := (digitValue?_eq_some_iff.mp hhigh).1
    have hy := (digitValue?_eq_some_iff.mp hlow).1
    obtain rfl := Option.some.inj h
    rw [valueFrom, List.foldl_cons, List.foldl_cons, hhigh, hlow, Option.getD_some,
      Option.getD_some, ← valueFrom, UInt8.toNat_ofNat',
      show (n * 16 + x) * 16 + y = n * 256 + (x * 16 + y) % 2 ^ 8 by omega]
  · cases h

theorem valueFrom_of_octets? (h : octets? cs = some bs) :
    valueFrom n cs = bs.foldl (fun n b => n * 256 + b.toNat) n := by
  induction bs generalizing cs n with
  | nil =>
    match cs with
    | [] => rfl
    | [c] => cases h
    | high :: low :: cs =>
      obtain ⟨_, _, -, -, h⟩ := octets?_cons_cons_eq_some_iff.mp h
      cases h
  | cons b bs ih =>
    match cs with
    | [] => cases h
    | [c] => cases h
    | high :: low :: cs =>
      obtain ⟨_, _, hb, hrest, h⟩ := octets?_cons_cons_eq_some_iff.mp h
      obtain ⟨rfl, rfl⟩ := List.cons.inj h
      rw [valueFrom_of_octet? hb, List.foldl_cons, ih hrest]

/-- **The octets of a text write its number.** -/
theorem toNat_of_decode? (h : decode? s = some bs) : bs.toNat = value s :=
  (valueFrom_of_octets? h).symm

/-- Two digits are those of an octet. -/
theorem exists_pair {i j : Nat} (hi : i < 16) (hj : j < 16) : ∃ b, [digit i, digit j] = pair b := by
  refine ⟨UInt8.ofNat (i * 16 + j), ?_⟩
  rw [pair, UInt8.toNat_ofNat', show (i * 16 + j) % 2 ^ 8 / 16 = i by omega,
    show (i * 16 + j) % 2 ^ 8 % 16 = j by omega]

/-- Digits, in pairs, are those of octets. -/
theorem exists_digits (hlength : cs.length = 2 * n) (h : ∀ c ∈ cs, ∃ k < 16, c = digit k) :
    ∃ bs, cs = digits bs ∧ bs.length = n := by
  induction n generalizing cs with
  | zero =>
    obtain rfl := List.eq_nil_of_length_eq_zero hlength
    exact ⟨[], rfl, rfl⟩
  | succ n ih =>
    match cs with
    | high :: low :: cs =>
      obtain ⟨i, hi, rfl⟩ := h high (by simp)
      obtain ⟨j, hj, rfl⟩ := h low (by simp)
      obtain ⟨b, hb⟩ := exists_pair hi hj
      obtain ⟨bs, rfl, hbs⟩ := ih (by simpa [Nat.mul_succ] using hlength) fun c hc =>
        h c (List.mem_cons_of_mem _ (List.mem_cons_of_mem _ hc))
      refine ⟨b :: bs, ?_, congrArg (· + 1) hbs⟩
      rw [digits_cons, ← hb]
      rfl

/-- **A text is that of some octets** if it has two digits for each of them, of either case. -/
theorem exists_decode?_iff :
    (∃ bs, decode? s = some bs ∧ bs.length = n) ↔ s.length = 2 * n ∧ IsHex s.toLower := by
  have hlower : s.toLower.length = s.length := String.length_map
  simp only [decode?_eq_some_iff]
  constructor
  · rintro ⟨bs, hbs, rfl⟩
    rw [← hlower, hbs]
    exact ⟨length_encode bs, isHex_encode bs⟩
  · rintro ⟨hlength, hhex⟩
    obtain ⟨bs, hbs, hn⟩ := exists_digits (by rw [String.length_toList, hlower, hlength]) hhex
    exact ⟨bs, by rw [encode, ← hbs, String.ofList_toList], hn⟩

end Hex

/-- **A coordinate as text**: its 64 digits in lower case. -/
def P256.Coordinate.hex (x : Coordinate) : String := Hex.encode (Octets.ofNat 32 x.val)

namespace Verification

variable {x y s : String} {X Y : Coordinate} {p : Point} {n : Nat}

/-! ### One coordinate -/

/-- **Whether a text has the digits of a coordinate**: 64 of them, of either case. -/
def HasCoordinateDigits (s : String) : Prop := s.length = 64 ∧ Hex.IsHex s.toLower

theorem coordinate_eq_ok_iff : coordinate s = .ok n ↔ HasCoordinateDigits s ∧ Hex.value s = n := by
  rw [HasCoordinateDigits, show 64 = 2 * 32 from rfl, ← Hex.exists_decode?_iff, coordinate]
  constructor
  · intro h
    split at h
    · cases h
    · next bs hbs =>
      split at h
      · next hlength =>
        exact ⟨⟨bs, hbs, hlength⟩, (Hex.toNat_of_decode? hbs).symm.trans (Except.ok.inj h)⟩
      · cases h
  · rintro ⟨⟨bs, hbs, hlength⟩, rfl⟩
    rw [hbs, ← Hex.toNat_of_decode? hbs]
    exact if_pos hlength

/-- **A coordinate is a text** up to the case of its letters exactly if the text has its digits and
writes its number. -/
theorem hex_eq_toLower_iff : X.hex = s.toLower ↔ HasCoordinateDigits s ∧ Hex.value s = X.val := by
  rw [Coordinate.hex, eq_comm, ← Hex.decode?_eq_some_iff, HasCoordinateDigits,
    show 64 = 2 * 32 from rfl, ← Hex.exists_decode?_iff]
  constructor
  · intro h
    have hX : X.val < 256 ^ 32 := Nat.lt_trans X.isLt (by decide)
    rw [← Hex.toNat_of_decode? h, Octets.toNat_ofNat_of_lt hX, and_iff_left rfl]
    exact ⟨_, h, Octets.length_ofNat 32 X.val⟩
  · rintro ⟨⟨bs, hbs, hlength⟩, hvalue⟩
    rw [hbs, ← hvalue, ← Hex.toNat_of_decode? hbs, ← hlength, Octets.ofNat_toNat]

theorem failsAs_coordinate (s : String) : FailsAs .invalidKey (coordinate s) := by
  intro e h
  rw [coordinate] at h
  split at h
  · obtain rfl := Except.error.inj h
    rfl
  · split at h
    · cases h
    · obtain rfl := Except.error.inj h
      rfl

/-! ### Two coordinates -/

theorem ofCoordinates?_eq_some_iff :
    Point.ofCoordinates? X Y = some p ↔ Point.OnCurve X Y ∧ p = .affine X Y := by
  rw [Point.ofCoordinates?, Option.ite_none_right_eq_some, Option.some_inj, eq_comm]

/-- **The steps of reading a public key.** -/
theorem publicKey_eq_ok_iff :
    publicKey x y = .ok p ↔ ∃ X Y, coordinate x = .ok X.val ∧ coordinate y = .ok Y.val ∧
      Point.OnCurve X Y ∧ p = .affine X Y := by
  rw [publicKey]
  constructor
  · intro h
    obtain ⟨m, hx, h⟩ := bind_eq_ok_iff.mp h
    obtain ⟨n, hy, h⟩ := bind_eq_ok_iff.mp h
    split at h
    · next X Y hX hY =>
      split at h
      · next q hq =>
        obtain ⟨_, hX⟩ := Option.dite_none_right_eq_some.mp hX
        obtain ⟨_, hY⟩ := Option.dite_none_right_eq_some.mp hY
        obtain rfl := Option.some.inj hX
        obtain rfl := Option.some.inj hY
        obtain rfl := Except.ok.inj h
        exact ⟨_, _, hx, hy, ofCoordinates?_eq_some_iff.mp hq⟩
      · cases h
    · cases h
  · rintro ⟨X, Y, hx, hy, hcurve⟩
    refine bind_eq_ok_iff.mpr ⟨_, hx, bind_eq_ok_iff.mpr ⟨_, hy, ?_⟩⟩
    rw [Coordinate.ofNat?, dif_pos X.isLt, Coordinate.ofNat?, dif_pos Y.isLt]
    simp only [ofCoordinates?_eq_some_iff.mpr hcurve]
    rfl

/-- **Every failure is about keys.** -/
theorem failsAs_publicKey (x y : String) : FailsAs .invalidKey (publicKey x y) := by
  have hcurve : FailsAs .invalidKey (throw .offCurve : Except Error Point) := by
    intro e h
    obtain rfl := Except.error.inj h
    rfl
  refine (failsAs_coordinate x).bind fun m => (failsAs_coordinate y).bind fun n => ?_
  split
  · split
    · exact failsAs_ok _
    · exact hcurve
  · exact hcurve

/-- **The point that is read** has the coordinates that were given, with their letters lowered. -/
theorem publicKey_eq_ok_iff_hex :
    publicKey x y = .ok p ↔ ∃ X Y : Coordinate, X.hex = x.toLower ∧ Y.hex = y.toLower ∧
      Point.OnCurve X Y ∧ p = .affine X Y := by
  simp only [publicKey_eq_ok_iff, coordinate_eq_ok_iff, hex_eq_toLower_iff]

/-- **Whether a point is read.** -/
theorem exists_publicKey_iff :
    (∃ p, publicKey x y = .ok p) ↔ HasCoordinateDigits x ∧ HasCoordinateDigits y ∧
      ∃ (hx : Hex.value x < prime) (hy : Hex.value y < prime),
        Point.OnCurve ⟨Hex.value x, hx⟩ ⟨Hex.value y, hy⟩ := by
  simp only [publicKey_eq_ok_iff, coordinate_eq_ok_iff]
  constructor
  · rintro ⟨_, X, Y, ⟨hdigitsX, hx⟩, ⟨hdigitsY, hy⟩, hcurve, -⟩
    refine ⟨hdigitsX, hdigitsY, hx ▸ X.isLt, hy ▸ Y.isLt, ?_⟩
    rwa [show (⟨Hex.value x, hx ▸ X.isLt⟩ : Coordinate) = X from Fin.ext hx,
      show (⟨Hex.value y, hy ▸ Y.isLt⟩ : Coordinate) = Y from Fin.ext hy]
  · rintro ⟨hdigitsX, hdigitsY, hx, hy, hcurve⟩
    exact ⟨_, _, _, ⟨hdigitsX, rfl⟩, ⟨hdigitsY, rfl⟩, hcurve, rfl⟩

/-- A published public key is read back. -/
theorem publicKey_hex (h : Point.OnCurve X Y) : publicKey X.hex Y.hex = .ok (.affine X Y) := by
  have hlower (Z : Coordinate) : Z.hex = Z.hex.toLower := (Hex.toLower_encode _).symm
  exact publicKey_eq_ok_iff_hex.mpr ⟨X, Y, hlower X, hlower Y, h, rfl⟩

/-- **Which texts are a public key**: two coordinates of which the numbers satisfy the equation of
the curve. The key has these coordinates, every other pair of texts is refused with an error about
keys, and the public key of every asymmetric credential is among those that are read. -/
theorem publicKey_decides :
    (∀ x y : String,
      ((∃ p, publicKey x y = .ok p) ↔ HasCoordinateDigits x ∧ HasCoordinateDigits y ∧
        ∃ (hx : Hex.value x < prime) (hy : Hex.value y < prime),
          Point.OnCurve ⟨Hex.value x, hx⟩ ⟨Hex.value y, hy⟩) ∧
      (∀ p, publicKey x y = .ok p ↔ ∃ X Y : Coordinate, X.hex = x.toLower ∧ Y.hex = y.toLower ∧
        Point.OnCurve X Y ∧ p = .affine X Y) ∧
      FailsAs .invalidKey (publicKey x y)) ∧
    ∀ c : AsymmetricCredential, ∃ X Y : Coordinate, c.key.publicKey = .affine X Y ∧
      publicKey X.hex Y.hex = .ok c.key.publicKey := by
  refine ⟨fun x y => ⟨exists_publicKey_iff, fun _ => publicKey_eq_ok_iff_hex,
    failsAs_publicKey x y⟩, fun c => ?_⟩
  obtain ⟨X, Y, hkey, hcurve⟩ := c.key.exists_publicKey
  exact ⟨X, Y, hkey, hkey ▸ publicKey_hex hcurve⟩

-- Letters of either case.
example : (publicKey
    "6B17D1F2E12C4247F8BCE6E563A440F277037D812DEB33A0F4A13945D898C296"
    "4fe342e2fe1a7f9b8ee7eb4a7c0f9e162bce33576b315ececbb6406837bf51f5").toOption =
      some Point.base := by
  decide +kernel

end Verification

end SigV4
