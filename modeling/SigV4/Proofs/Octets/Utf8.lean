import Mathlib.Logic.Function.Basic
import Mathlib.Tactic.IntervalCases
import SigV4.Octets.Unicode

/-!
# Texts survive as octets

A text goes out as UTF-8 octets and comes back through a reader that replaces what
it cannot read. This file shows that the reader never replaces anything that was
written: `SigV4.Unicode.decodeText_ofText` gives the text back, whatever its
characters, and so two texts with the same octets are the same text
(`SigV4.Octets.ofText_injective`).

The proof follows the reader. The first octet of a character fixes what
`SigV4.Unicode.lead?` promises, one lemma for each number of octets, and every
further octet adds six bits (`SigV4.Unicode.continuation_ofNat`). The bounds on the
second octet are where it matters that a character is no surrogate and is not
beyond the last plane; everywhere else the arithmetic is that of base 64.
-/

namespace SigV4

namespace Unicode

/-! ### One octet -/

/-- A further octet adds the six bits it carries, if it is within the bounds. -/
theorem continuation_ofNat (bits : Nat) {low high : UInt8} (count n : Nat) (bs : Octets)
    (hlow : low.toNat ≤ n % 64 + 0x80) (hhigh : n % 64 + 0x80 ≤ high.toNat) :
    continuation bits low high (count + 1) (UInt8.ofNat (n % 64 + 0x80) :: bs) =
      continuation (bits * 64 + n % 64) 0x80 0xBF count bs := by
  have hn : (UInt8.ofNat (n % 64 + 0x80)).toNat = n % 64 + 0x80 := by
    rw [UInt8.toNat_ofNat']
    omega
  have hle : low ≤ UInt8.ofNat (n % 64 + 0x80) := UInt8.le_iff_toNat_le.mpr (hn.symm ▸ hlow)
  have hle' : UInt8.ofNat (n % 64 + 0x80) ≤ high := UInt8.le_iff_toNat_le.mpr (hn.symm ▸ hhigh)
  rw [continuation, if_pos ⟨hle, hle'⟩, hn, show (n % 64 + 0x80) % 64 = n % 64 by omega]

theorem lead?_one {n : Nat} (h : n ≤ 0x7F) :
    lead? (UInt8.ofNat n) = some { bits := n, count := 0 } := by
  interval_cases n <;> rfl

theorem lead?_two {n : Nat} (h : 2 ≤ n) (h' : n < 32) :
    lead? (UInt8.ofNat (n + 0xC0)) = some { bits := n, count := 1 } := by
  interval_cases n <;> rfl

theorem lead?_three {n : Nat} (h : n < 16) :
    lead? (UInt8.ofNat (n + 0xE0)) =
      some { bits := n, count := 2, low := if n = 0 then 0xA0 else 0x80,
             high := if n = 0xD then 0x9F else 0xBF } := by
  interval_cases n <;> rfl

theorem lead?_four {n : Nat} (h : n ≤ 4) :
    lead? (UInt8.ofNat (n + 0xF0)) =
      some { bits := n, count := 3, low := if n = 0 then 0x90 else 0x80,
             high := if n = 4 then 0x8F else 0xBF } := by
  interval_cases n <;> rfl

/-! ### One character -/

/-- A character whose promise is kept is read. -/
theorem decode_cons_of_lead {b low high : UInt8} {bits count n : Nat} {bs rest : Octets}
    (hlead : lead? b = some { bits, count, low, high })
    (hnext : continuation bits low high count bs = (some n, rest)) :
    decode (b :: bs) = Char.ofNat n :: decode rest := by
  rw [decode, hlead]
  simp only [hnext, Option.map_some, Option.getD_some]

theorem decode_two {n : Nat} (hn : 0x80 ≤ n) (hn' : n ≤ 0x7FF) (rest : Octets) :
    decode (UInt8.ofNat (n / 64 % 32 + 0xC0) :: UInt8.ofNat (n % 64 + 0x80) :: rest) =
      Char.ofNat n :: decode rest := by
  refine decode_cons_of_lead (lead?_two (by omega) (by omega)) ?_
  rw [continuation_ofNat _ _ _ _ (by simp) (by simp; omega), continuation,
    show n / 64 % 32 * 64 + n % 64 = n by omega]

theorem decode_three {n : Nat} (hn : 0x800 ≤ n) (hn' : n ≤ 0xFFFF)
    (hscalar : n < 0xD800 ∨ 0xDFFF < n) (rest : Octets) :
    decode (UInt8.ofNat (n / 4096 % 16 + 0xE0) :: UInt8.ofNat (n / 64 % 64 + 0x80) ::
      UInt8.ofNat (n % 64 + 0x80) :: rest) = Char.ofNat n :: decode rest := by
  refine decode_cons_of_lead (lead?_three (by omega)) ?_
  rw [continuation_ofNat, continuation_ofNat _ _ _ _ (by simp) (by simp; omega), continuation,
    show (n / 4096 % 16 * 64 + n / 64 % 64) * 64 + n % 64 = n by omega]
  -- No overlong form below, no surrogate above.
  · split <;> simp only [UInt8.reduceToNat] <;> omega
  · split <;> simp only [UInt8.reduceToNat] <;> omega

theorem decode_four {n : Nat} (hn : 0x10000 ≤ n) (hn' : n < 0x110000) (rest : Octets) :
    decode (UInt8.ofNat (n / 262144 % 8 + 0xF0) :: UInt8.ofNat (n / 4096 % 64 + 0x80) ::
      UInt8.ofNat (n / 64 % 64 + 0x80) :: UInt8.ofNat (n % 64 + 0x80) :: rest) =
      Char.ofNat n :: decode rest := by
  refine decode_cons_of_lead (lead?_four (by omega)) ?_
  rw [continuation_ofNat, continuation_ofNat _ _ _ _ (by simp) (by simp; omega),
    continuation_ofNat _ _ _ _ (by simp) (by simp; omega), continuation,
    show ((n / 262144 % 8 * 64 + n / 4096 % 64) * 64 + n / 64 % 64) * 64 + n % 64 = n by omega]
  -- Nothing that three octets could hold, and nothing beyond the last plane.
  · split <;> simp only [UInt8.reduceToNat] <;> omega
  · split <;> simp only [UInt8.reduceToNat] <;> omega

/-- **A written character is read back**, whatever follows it. -/
theorem decode_utf8EncodeChar_append (c : Char) (rest : Octets) :
    decode (String.utf8EncodeChar c ++ rest) = c :: decode rest := by
  have hscalar : c.val.toNat < 0xD800 ∨ (0xDFFF < c.val.toNat ∧ c.val.toNat < 0x110000) :=
    c.valid
  have hc : Char.ofNat c.val.toNat = c := Char.ofNat_toNat c
  -- The writer goes by the size of the character, and the reader finds the same size from the
  -- lead octet.
  rw [String.utf8EncodeChar]
  split
  · next h1 => exact (decode_cons_of_lead (lead?_one h1) rfl).trans (by rw [hc]; rfl)
  split
  · next h1 h2 => exact (decode_two (by omega) h2 rest).trans (by rw [hc])
  split
  · next h1 h2 h3 => exact (decode_three (by omega) h3 (by omega) rest).trans (by rw [hc])
  · next h1 h2 h3 => exact (decode_four (by omega) (by omega) rest).trans (by rw [hc])

/-! ### Texts -/

theorem decode_ofText (s : String) : decode (Octets.ofText s) = s.toList := by
  rw [Octets.ofText]
  induction s.toList with
  | nil => rw [List.flatMap_nil, decode]
  | cons c cs ih => rw [List.flatMap_cons, decode_utf8EncodeChar_append, ih]

/-- **A written text is read back.** -/
theorem decodeText_ofText (s : String) : decodeText (Octets.ofText s) = s := by
  rw [decodeText, decode_ofText, String.ofList_toList]

end Unicode

/-- **Texts with the same octets are the same text.** -/
theorem Octets.ofText_injective : Function.Injective Octets.ofText :=
  Function.LeftInverse.injective Unicode.decodeText_ofText

end SigV4
