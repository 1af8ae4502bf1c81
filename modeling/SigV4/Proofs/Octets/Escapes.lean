import Mathlib.Logic.Function.Basic
import SigV4.Octets.Percent
import SigV4.Proofs.Octets.Utf8

/-!
# What escaped text is made of

Escaped text holds unreserved characters and percent signs, and nothing else
(`SigV4.Percent.isUnreserved_of_mem_encode`). Whatever a format uses to separate its
pieces – a slash, an ampersand, an equals sign, a line break – is neither, so pieces
that are escaped first can be joined by it and told apart again
(`SigV4.Percent.not_mem_encode`). Together with the fact that escapes are resolved to
what was escaped, this is all that the formats built on top of it need.
-/

namespace SigV4

namespace Percent

/-! ### The characters -/

theorem isUnreserved_upperDigit {n : Nat} (h : n < 16) :
    isUnreserved (Hex.upperDigit n) = true := by
  revert n
  decide

theorem isUnreserved_of_mem_escape {b : UInt8} {c : Char} (h : c ∈ escape b) (hc : c ≠ '%') :
    isUnreserved c = true := by
  have hb : b.toNat < 256 := b.toNat_lt
  unfold escape at h
  split at h
  · next hu =>
    obtain rfl := List.mem_singleton.mp h
    exact hu
  · simp only [List.mem_cons, List.not_mem_nil, or_false] at h
    rcases h with rfl | rfl | rfl
    · exact absurd rfl hc
    · exact isUnreserved_upperDigit (by omega)
    · exact isUnreserved_upperDigit (by omega)

/-- **The alphabet of escaped text.** -/
theorem isUnreserved_of_mem_encode {bs : Octets} {c : Char} (h : c ∈ encode bs) (hc : c ≠ '%') :
    isUnreserved c = true := by
  obtain ⟨b, -, hb⟩ := List.mem_flatMap.mp h
  exact isUnreserved_of_mem_escape hb hc

/-- A separator never stands in escaped text. -/
theorem not_mem_encode {c : Char} (hu : isUnreserved c = false) (hc : c ≠ '%') (bs : Octets) :
    c ∉ encode bs := by
  intro h
  rw [isUnreserved_of_mem_encode h hc] at hu
  cases hu

/-! ### Escaping loses nothing -/

theorem encode_injective : Function.Injective encode :=
  Function.LeftInverse.injective decode_encode

theorem encode_eq_nil_iff {bs : Octets} : encode bs = [] ↔ bs = [] :=
  encode_injective.eq_iff' rfl

theorem toList_encodeText (s : String) : (encodeText s).toList = encode (Octets.ofText s) := by
  rw [encodeText, String.toList_ofList]

theorem encodeText_injective : Function.Injective encodeText := by
  intro s t h
  refine Octets.ofText_injective (encode_injective ?_)
  rw [← toList_encodeText, h, toList_encodeText]

end Percent

end SigV4
