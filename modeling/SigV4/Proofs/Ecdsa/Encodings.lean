import Mathlib.Data.Nat.Size
import SigV4.Proofs.Ecdsa.Signature
import SigV4.Proofs.Octets.Numbers

/-!
# Two encodings, one text of each

A signature has one text of fixed width and one in DER, and the readers accept these two and
nothing else (`SigV4.Ecdsa.Signature.ofOctets?_eq_some_iff`,
`SigV4.Ecdsa.Signature.ofDer?_eq_some_iff`). For the fixed width this is a matter of the width:
as many octets as a scalar takes write one number only. DER has no width, and so every length
could be written in more than one way, and every integer with more zeros in front. The reader
is strict about all of it, and `SigV4.Ecdsa.Signature.eq_integerContent_iff` says that being
strict about the first two octets of an integer is enough.

An integer takes an octet for eight of its digits and one more for what is left, since a digit
is needed for the sign (`SigV4.Ecdsa.Signature.length_integerContent`). So the length of a
signature in DER tells how long its scalars are together
(`SigV4.Ecdsa.Signature.length_der`), and it is anything from 8 octets to 72.
-/

namespace SigV4

namespace Ecdsa

open P256

namespace Signature

variable {sig : Signature} {bs content rest : Octets} {tag b : UInt8} {n r s : Nat}

/-! ### Fixed width -/

theorem lt_of_scalar (k : Scalar) : k.val < 256 ^ 32 :=
  Nat.lt_trans k.isLt (by decide)

/-- **Two numbers are a signature** exactly if they are its scalars. -/
theorem ofNats?_eq_some_iff : ofNats? r s = some sig ↔ sig.r.val = r ∧ sig.s.val = s := by
  constructor
  · intro h
    unfold ofNats? Scalar.ofNat? at h
    split at h
    · next k l hk hl =>
      obtain ⟨hr, hs⟩ := ofScalars?_eq_some_iff.mp h
      obtain ⟨_, hk⟩ := Option.dite_none_right_eq_some.mp hk
      obtain ⟨_, hl⟩ := Option.dite_none_right_eq_some.mp hl
      rw [hr, hs, ← Option.some.inj hk, ← Option.some.inj hl]
      exact ⟨rfl, rfl⟩
    · cases h
  · rintro ⟨rfl, rfl⟩
    rw [ofNats?, scalar_ofNat?_val, scalar_ofNat?_val]
    exact ofScalars?_eq_some_iff.mpr ⟨rfl, rfl⟩

/-- **The reader of the fixed width** accepts what is written in it and nothing else. -/
theorem ofOctets?_eq_some_iff : ofOctets? bs = some sig ↔ bs = sig.octets := by
  constructor
  · intro h
    unfold ofOctets? at h
    split at h
    · next hlength =>
      obtain ⟨hr, hs⟩ := ofNats?_eq_some_iff.mp h
      have hfront : (bs.take 32).length = 32 := by rw [List.length_take, hlength]; rfl
      have hback : (bs.drop 32).length = 32 := by rw [List.length_drop, hlength]
      have hwritten := Octets.ofNat_toNat (bs.take 32)
      have hwritten' := Octets.ofNat_toNat (bs.drop 32)
      rw [hfront, ← hr] at hwritten
      rw [hback, ← hs] at hwritten'
      rw [octets, hwritten, hwritten', List.take_append_drop]
    · cases h
  · intro h
    rw [h]
    exact ofOctets?_octets sig

/-! ### Integers -/

theorem toNat_magnitude (h : n < 256 ^ 32) : (magnitude n).toNat = n := by
  obtain ⟨count, heq⟩ := Octets.exists_replicate_append_dropWhile (Octets.ofNat 32 n)
  have hread := Octets.toNat_ofNat_of_lt h
  rwa [heq, Octets.toNat_replicate_append] at hread

theorem toNat_pos (hb : b ≠ 0) : 0 < b.toNat :=
  Nat.pos_of_ne_zero fun hzero => hb (UInt8.toNat_inj.mp hzero)

/-- The first octet bounds a number from both sides. -/
theorem toNat_cons_bounds (b : UInt8) (bs : Octets) :
    b.toNat * 256 ^ bs.length ≤ Octets.toNat (b :: bs) ∧
      Octets.toNat (b :: bs) < (b.toNat + 1) * 256 ^ bs.length := by
  rw [Octets.toNat_cons, Nat.succ_mul]
  exact ⟨Nat.le_add_right _ _, Nat.add_lt_add_left (Octets.toNat_lt bs) _⟩

/-- Octets that do not begin with zero are the magnitude of their number. -/
theorem magnitude_toNat (hb : b ≠ 0) (h : Octets.toNat (b :: bs) < 256 ^ 32) :
    magnitude (Octets.toNat (b :: bs)) = b :: bs := by
  have hpos := toNat_pos hb
  have hpow : 256 ^ bs.length < 256 ^ 32 :=
    calc 256 ^ bs.length ≤ b.toNat * 256 ^ bs.length := Nat.le_mul_of_pos_left _ hpos
      _ ≤ Octets.toNat (b :: bs) := (toNat_cons_bounds b bs).1
      _ < 256 ^ 32 := h
  have hlength : (b :: bs).length ≤ 32 := (Nat.pow_lt_pow_iff_right (by decide)).mp hpow
  rw [magnitude, Octets.ofNat_toNat_of_le hlength, List.dropWhile_append_of_pos,
    List.dropWhile_cons_of_neg (by simpa using hb)]
  intro zero hzero
  exact decide_eq_true (List.eq_of_mem_replicate hzero)

/-- **The content of an integer** is the one that is as short as it can be. -/
theorem eq_integerContent_iff (h : n < 256 ^ 32) :
    content = integerContent n ↔ IsIntegerContent content ∧ content.toNat = n := by
  constructor
  · intro hcontent
    rw [hcontent]
    have hnumber := toNat_magnitude h
    unfold integerContent
    split
    · next hzero =>
      rw [hzero] at hnumber
      exact ⟨by decide, hnumber⟩
    · next b bs hcons =>
      have hb := Octets.ne_zero_of_dropWhile hcons
      rw [hcons] at hnumber
      split
      · next hsign =>
        refine ⟨?_, hnumber⟩
        cases bs with
        | nil => exact hsign
        | cons c bs => exact ⟨hsign, fun hzero => absurd hzero hb⟩
      · next hsign =>
        refine ⟨⟨by decide, fun _ => UInt8.not_lt.mp hsign⟩, ?_⟩
        rw [← hnumber]
        exact Octets.toNat_replicate_append 1 (b :: bs)
  · rintro ⟨hcontent, rfl⟩
    -- A leading zero is there for the sign, or it is the number zero itself.
    cases content with
    | nil => exact absurd hcontent id
    | cons b bs =>
      cases bs with
      | nil =>
        by_cases hb : b = 0
        · subst hb
          decide +kernel
        · rw [integerContent, magnitude_toNat hb h]
          exact (if_pos hcontent).symm
      | cons c bs =>
        obtain ⟨hsign, hzero⟩ := hcontent
        by_cases hb : b = 0
        · subst hb
          have hc := hzero rfl
          have hnumber : Octets.toNat (0 :: c :: bs) = Octets.toNat (c :: bs) :=
            Octets.toNat_replicate_append 1 (c :: bs)
          have hc0 : c ≠ 0 := by
            rintro rfl
            exact absurd hc (by decide)
          rw [hnumber] at h ⊢
          rw [integerContent, magnitude_toNat hc0 h]
          exact (if_neg (UInt8.not_lt.mpr hc)).symm
        · rw [integerContent, magnitude_toNat hb h]
          exact (if_pos hsign).symm

/-- An integer of more than one octet needs all of them, the first at least for its sign. -/
theorem le_toNat_of_isIntegerContent {c : UInt8} (h : IsIntegerContent (b :: c :: bs)) :
    128 * 256 ^ bs.length ≤ Octets.toNat (b :: c :: bs) := by
  obtain ⟨-, hzero⟩ := h
  by_cases hb : b = 0
  · have hc : 128 ≤ c.toNat := UInt8.le_iff_toNat_le.mp (hzero hb)
    calc 128 * 256 ^ bs.length ≤ c.toNat * 256 ^ bs.length := Nat.mul_le_mul_right _ hc
      _ ≤ Octets.toNat (c :: bs) := (toNat_cons_bounds c bs).1
      _ ≤ Octets.toNat (b :: c :: bs) := by
        rw [Octets.toNat_cons b]
        exact Nat.le_add_left _ _
  · have hpos := toNat_pos hb
    calc 128 * 256 ^ bs.length ≤ 256 * 256 ^ bs.length := Nat.mul_le_mul_right _ (by decide)
      _ = 256 ^ (c :: bs).length := (Nat.pow_succ' ..).symm
      _ ≤ b.toNat * 256 ^ (c :: bs).length := Nat.le_mul_of_pos_left _ hpos
      _ ≤ Octets.toNat (b :: c :: bs) := (toNat_cons_bounds b (c :: bs)).1

/-- The binary digits of an integer fill its octets but for the sign, and but for less than one
octet. -/
theorem size_bounds (h : IsIntegerContent (b :: bs)) :
    8 * bs.length ≤ (Octets.toNat (b :: bs)).size ∧
      (Octets.toNat (b :: bs)).size ≤ 8 * bs.length + 7 := by
  have hsign : b.toNat < 128 := by
    cases bs with
    | nil => exact UInt8.lt_iff_toNat_lt.mp h
    | cons c bs => exact UInt8.lt_iff_toNat_lt.mp h.1
  have hpow : 256 ^ bs.length = 2 ^ (8 * bs.length) := by rw [Nat.pow_mul]
  constructor
  · cases bs with
    | nil => exact Nat.zero_le _
    | cons c bs =>
      have hlower := le_toNat_of_isIntegerContent h
      rw [show 128 * 256 ^ bs.length = 2 ^ (8 * bs.length + 7) by
        rw [Nat.pow_add, Nat.pow_mul, Nat.mul_comm]] at hlower
      have hsize := Nat.lt_size.mpr hlower
      rw [List.length_cons]
      omega
  · rw [Nat.size_le, Nat.pow_add, ← hpow]
    calc Octets.toNat (b :: bs) < (b.toNat + 1) * 256 ^ bs.length := (toNat_cons_bounds b bs).2
      _ ≤ 128 * 256 ^ bs.length := Nat.mul_le_mul_right _ hsign
      _ = 256 ^ bs.length * 2 ^ 7 := Nat.mul_comm _ _

/-- **How long an integer is**: an octet for eight of its digits, and one for the others and the
sign. -/
theorem length_of_isIntegerContent (h : IsIntegerContent content) :
    content.length = content.toNat.size / 8 + 1 := by
  cases content with
  | nil => exact absurd h id
  | cons b bs =>
    obtain ⟨hlower, hupper⟩ := size_bounds h
    rw [List.length_cons]
    omega

theorem size_le_of_lt (h : n < 256 ^ 32) : n.size ≤ 256 :=
  Nat.size_le.mpr h

theorem length_integerContent (h : n < 256 ^ 32) :
    (integerContent n).length = n.size / 8 + 1 := by
  generalize hcontent : integerContent n = content
  obtain ⟨hshort, hnumber⟩ := (eq_integerContent_iff h).mp hcontent.symm
  rw [length_of_isIntegerContent hshort, hnumber]

/-! ### Elements -/

/-- **The reader of an element** accepts an element of its tag, whatever follows. -/
theorem element?_eq_some_iff :
    element? tag bs = some (content, rest) ↔
      content.length < 0x80 ∧ bs = element tag content ++ rest := by
  constructor
  · intro h
    unfold element? at h
    split at h
    · next t n tail =>
      split at h
      · next hcheck =>
        obtain ⟨rfl, hshort, hlong⟩ := hcheck
        obtain ⟨rfl, rfl⟩ := Prod.mk.inj (Option.some.inj h)
        have hlength : (tail.take n.toNat).length = n.toNat := by
          rw [List.length_take, Nat.min_eq_left hlong]
        refine ⟨?_, ?_⟩
        · rw [hlength]
          exact UInt8.lt_iff_toNat_lt.mp hshort
        · rw [element, hlength, UInt8.ofNat_toNat, List.cons_append, List.cons_append,
            List.take_append_drop]
      · cases h
    · cases h
  · rintro ⟨hshort, rfl⟩
    have hlength : (UInt8.ofNat content.length).toNat = content.length := by
      rw [UInt8.toNat_ofNat']
      omega
    rw [element, List.cons_append, List.cons_append, element?, hlength, if_pos, List.take_left,
      List.drop_left]
    refine ⟨rfl, ?_, ?_⟩
    · rw [UInt8.lt_iff_toNat_lt, hlength]
      exact hshort
    · rw [List.length_append]
      exact Nat.le_add_right _ _

/-- **The reader of an integer** accepts the one content that it has. -/
theorem integer?_eq_some_iff (h : n < 256 ^ 32) :
    integer? bs = some (n, rest) ↔ bs = element 0x02 (integerContent n) ++ rest := by
  rw [integer?, Option.bind_eq_bind, Option.bind_eq_some_iff]
  constructor
  · rintro ⟨⟨content, rest'⟩, helement, hread⟩
    obtain ⟨hshort, hread⟩ := Option.ite_none_right_eq_some.mp hread
    obtain ⟨hnumber, rfl⟩ := Prod.mk.inj (Option.some.inj hread)
    rw [← (eq_integerContent_iff h).mpr ⟨hshort, hnumber⟩]
    exact (element?_eq_some_iff.mp helement).2
  · intro hbs
    have hlength : (integerContent n).length < 0x80 := by
      have hsize := size_le_of_lt h
      rw [length_integerContent h]
      omega
    generalize hcontent : integerContent n = content at hbs hlength
    obtain ⟨hshort, hnumber⟩ := (eq_integerContent_iff h).mp hcontent.symm
    refine ⟨(content, rest), element?_eq_some_iff.mpr ⟨hlength, hbs⟩, ?_⟩
    dsimp only
    rw [if_pos hshort, hnumber]

/-! ### Signatures -/

/-- The content of a signature in DER: its two integers. -/
def integers (sig : Signature) : Octets :=
  element 0x02 (integerContent sig.r.val) ++ element 0x02 (integerContent sig.s.val)

theorem length_element (tag : UInt8) (content : Octets) :
    (element tag content).length = content.length + 2 := rfl

theorem length_integers (sig : Signature) :
    sig.integers.length = 6 + sig.r.val.size / 8 + sig.s.val.size / 8 := by
  rw [integers, List.length_append, length_element, length_element,
    length_integerContent (lt_of_scalar sig.r), length_integerContent (lt_of_scalar sig.s)]
  omega

/-- **How long a signature is in DER**, by the binary digits of its scalars. -/
theorem length_der (sig : Signature) :
    sig.der.length = 8 + sig.r.val.size / 8 + sig.s.val.size / 8 := by
  have hder : sig.der = element 0x30 sig.integers := rfl
  rw [hder, length_element, length_integers]
  omega

/-- What the reader of DER goes through. -/
theorem ofDer?_eq_some_iff_exists :
    ofDer? bs = some sig ↔ ∃ content rest r s, element? 0x30 bs = some (content, []) ∧
      integer? content = some (r, rest) ∧ integer? rest = some (s, []) ∧
      ofNats? r s = some sig := by
  rw [ofDer?, Option.bind_eq_bind, Option.bind_eq_some_iff]
  constructor
  · rintro ⟨⟨content, behind⟩, helement, h⟩
    dsimp only at h
    split at h
    · next content' heq =>
      obtain ⟨rfl, rfl⟩ := Prod.mk.inj heq
      obtain ⟨⟨r, rest⟩, hr, h⟩ := Option.bind_eq_some_iff.mp h
      obtain ⟨⟨s, behind⟩, hs, h⟩ := Option.bind_eq_some_iff.mp h
      dsimp only at h
      split at h
      · next s' heq =>
        obtain ⟨rfl, rfl⟩ := Prod.mk.inj heq
        exact ⟨content, rest, r, s, helement, hr, hs, h⟩
      · cases h
    · cases h
  · rintro ⟨content, rest, r, s, helement, hr, hs, h⟩
    refine ⟨(content, []), helement, ?_⟩
    dsimp only
    rw [hr, Option.bind_eq_bind, Option.bind_some]
    dsimp only
    rw [hs, Option.bind_some]
    exact h

/-- **The reader of DER** accepts what is written in it and nothing else. -/
theorem ofDer?_eq_some_iff : ofDer? bs = some sig ↔ bs = sig.der := by
  have hlength : sig.integers.length < 0x80 := by
    have hr := size_le_of_lt (lt_of_scalar sig.r)
    have hs := size_le_of_lt (lt_of_scalar sig.s)
    rw [length_integers]
    omega
  rw [ofDer?_eq_some_iff_exists]
  constructor
  · rintro ⟨content, rest, r, s, helement, hr, hs, h⟩
    obtain ⟨rfl, rfl⟩ := ofNats?_eq_some_iff.mp h
    rw [integer?_eq_some_iff (lt_of_scalar sig.r)] at hr
    rw [integer?_eq_some_iff (lt_of_scalar sig.s), List.append_nil] at hs
    obtain ⟨-, hbs⟩ := element?_eq_some_iff.mp helement
    rw [hbs, List.append_nil, hr, hs, der]
  · intro hbs
    refine ⟨sig.integers, element 0x02 (integerContent sig.s.val), sig.r.val, sig.s.val,
      element?_eq_some_iff.mpr ⟨hlength, ?_⟩, ?_, ?_, ofNats?_eq_some_iff.mpr ⟨rfl, rfl⟩⟩
    · rw [hbs, List.append_nil]
      rfl
    · exact (integer?_eq_some_iff (lt_of_scalar sig.r)).mpr rfl
    · exact (integer?_eq_some_iff (lt_of_scalar sig.s)).mpr (List.append_nil _).symm

/-! ### The two encodings differ -/

/-- A number that begins with the tag of a sequence fills its width, and it is the content of an
integer as it is. -/
theorem of_ofNat_eq_cons (h : n < 256 ^ 32) (hhead : Octets.ofNat 32 n = 0x30 :: bs) :
    n.size / 8 = 31 ∧ integerContent n = 0x30 :: bs := by
  have hlength : bs.length = 31 := by
    have hwidth := Octets.length_ofNat 32 n
    rw [hhead] at hwidth
    exact Nat.succ.inj hwidth
  have hcontent : IsIntegerContent (0x30 :: bs) := by
    cases bs with
    | nil => decide
    | cons c bs => exact ⟨by decide, fun hzero => absurd hzero (by decide)⟩
  have hnumber : Octets.toNat (0x30 :: bs) = n := by
    rw [← hhead, Octets.toNat_ofNat_of_lt h]
  refine ⟨?_, ((eq_integerContent_iff h).mpr ⟨hcontent, hnumber⟩).symm⟩
  have hsize := length_of_isIntegerContent hcontent
  rw [hnumber, List.length_cons, hlength] at hsize
  omega

/-- Octets that are their own continuation four places behind begin again with the same octet every
four places. -/
theorem head?_of_overlap {front back behind : Octets} {c d e : UInt8} (hlength : front.length = 32)
    (h : b :: c :: d :: e :: (front ++ behind) = front ++ back) : back.head? = some b := by
  have hfront : ∀ i < 32, (front ++ back)[i]? = front[i]? := fun i hi =>
    List.getElem?_append_left (by omega)
  have hbehind : ∀ i < 32, (front ++ back)[i + 4]? = front[i]? := by
    intro i hi
    rw [← h]
    exact List.getElem?_append_left (by omega)
  have hall : ∀ k ≤ 8, (front ++ back)[4 * k]? = some b := by
    intro k hk
    induction k with
    | zero =>
      rw [← h]
      rfl
    | succ k ih =>
      rw [Nat.mul_succ, hbehind _ (by omega), ← hfront _ (by omega)]
      exact ih (by omega)
  have hlast := hall 8 (by decide)
  rw [List.getElem?_append_right (by omega), hlength] at hlast
  rw [List.head?_eq_getElem?]
  exact hlast

/-- **No signature has the same octets in both encodings.** If it had, then the tag of the sequence
would be the first octet of the first scalar, hence of the integer four places behind, and so on,
until it is the first octet of the second scalar. But two scalars that fill their widths are too
long together. -/
theorem der_ne_octets (sig : Signature) : sig.der ≠ sig.octets := by
  intro heq
  have hlength := sig.length_der
  rw [heq, sig.length_octets] at hlength
  have hwidth := Octets.length_ofNat 32 sig.r.val
  have hoverlap : 0x30 :: UInt8.ofNat sig.integers.length :: 0x02 ::
      UInt8.ofNat (integerContent sig.r.val).length ::
        (integerContent sig.r.val ++ element 0x02 (integerContent sig.s.val)) =
      Octets.ofNat 32 sig.r.val ++ Octets.ofNat 32 sig.s.val := heq
  obtain ⟨front, hr⟩ : ∃ front, Octets.ofNat 32 sig.r.val = 0x30 :: front := by
    cases hwritten : Octets.ofNat 32 sig.r.val with
    | nil =>
      rw [hwritten] at hwidth
      cases hwidth
    | cons b front =>
      rw [hwritten] at hoverlap
      exact ⟨front, congrArg (· :: front) (List.cons.inj hoverlap).1.symm⟩
  obtain ⟨hsize, hcontent⟩ := of_ofNat_eq_cons (lt_of_scalar sig.r) hr
  rw [hcontent, ← hr] at hoverlap
  obtain ⟨back, hs⟩ := List.head?_eq_some_iff.mp (head?_of_overlap hwidth hoverlap)
  obtain ⟨hsize', -⟩ := of_ofNat_eq_cons (lt_of_scalar sig.s) hs
  omega

end Signature

end Ecdsa

end SigV4
