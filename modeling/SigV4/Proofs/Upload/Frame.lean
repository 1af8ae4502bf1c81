import Mathlib.Algebra.Group.Nat.Defs
import SigV4.Upload.Frame

/-!
# How long a frame is

A frame is written in octets and announced in numbers. That they agree is a matter of
what a frame is made of: its length and its signature are hexadecimal text, so each of
their characters is one octet, and nothing else in a frame varies but the chunk
(`SigV4.Hex.IsHex.ofText`, `SigV4.Frame.length_octets`).

The length of all frames of a body is a formula with a quotient and a remainder, and the
frames come one after another. `SigV4.Frame.encodedLength_of_pos` is the step between the
two: the first frame takes a chunk off the body, a full one or all that is left.

A frame is longer than its chunk by a number that hardly depends on the chunk, and chunks have
a least size. So all frames together are not much longer than the body, and their length is a
word of 64 bits where that of the body is one of 63 (`SigV4.Frame.encodedLength_lt`).
-/

namespace SigV4

/-! ### Hexadecimal text as octets -/

namespace Hex

/-- Whether a text consists of hexadecimal digits in lower case. -/
def IsHex (s : String) : Prop := ∀ c ∈ s.toList, ∃ n < 16, c = digit n

theorem isHex_encode (bs : Octets) : IsHex (encode bs) := by
  intro c h
  rw [encode, String.toList_ofList, digits, List.mem_flatMap] at h
  obtain ⟨b, -, hc⟩ := h
  have hb := b.toNat_lt
  rw [pair, List.mem_cons, List.mem_singleton] at hc
  rcases hc with rfl | rfl
  · exact ⟨b.toNat / 16, by omega, rfl⟩
  · exact ⟨b.toNat % 16, by omega, rfl⟩

theorem isHex_ofNat (n : Nat) : IsHex (ofNat n) := by
  rw [IsHex, ofNat, String.toList_ofList]
  induction n using Nat.strongRecOn with
  | ind n ih =>
    intro c h
    rw [Nat.toDigits_eq_if (by decide)] at h
    split at h
    · next hlt => exact ⟨n, hlt, List.mem_singleton.mp h⟩
    · next hge =>
      rcases List.mem_append.mp h with h | h
      · exact ih (n / 16) (by omega) c h
      · exact ⟨n % 16, Nat.mod_lt n (by decide), List.mem_singleton.mp h⟩

/-- The octet of a digit. -/
def digitOctet (c : Char) : UInt8 := UInt8.ofNat c.toNat

theorem utf8EncodeChar_digit {n : Nat} (h : n < 16) :
    String.utf8EncodeChar (digit n) = [digitOctet (digit n)] := by
  revert n
  decide

/-- **Each digit is one octet.** -/
theorem IsHex.ofText {s : String} (h : IsHex s) :
    Octets.ofText s = s.toList.map digitOctet := by
  rw [Octets.ofText]
  rw [IsHex] at h
  generalize s.toList = cs at h ⊢
  induction cs with
  | nil => rfl
  | cons c cs ih =>
    obtain ⟨⟨n, hn, rfl⟩, hcs⟩ := List.forall_mem_cons.mp h
    rw [List.flatMap_cons, ih hcs, utf8EncodeChar_digit hn, List.map_cons, List.singleton_append]

theorem IsHex.length_ofText {s : String} (h : IsHex s) : (Octets.ofText s).length = s.length := by
  rw [h.ofText, List.length_map, String.length_toList]

end Hex

/-! ### Frames -/

namespace Frame

/-- **The length of a frame** is that which is announced for its chunk. -/
theorem length_octets {frame : Frame} (h : Hex.IsHex frame.signature) :
    frame.octets.length = frameLength frame.signature.length frame.chunk.length := by
  have hmark : (Octets.ofText signatureMark).length = signatureMark.length := by decide
  simp only [octets, header, Octets.ofText_append, List.length_append,
    (Hex.isHex_ofNat _).length_ofText, h.length_ofText, hmark, frameLength]
  omega

theorem encodedLength_zero {chunkSize : Nat} (signatureLength : Nat) :
    encodedLength 0 chunkSize signatureLength = frameLength signatureLength 0 := by
  simp [encodedLength]

/-- **The first frame** takes a chunk off the body, a full one or all that is left. -/
theorem encodedLength_of_pos {length chunkSize : Nat} (hsize : Error.leastChunkSize ≤ chunkSize)
    (hpos : 0 < length) (signatureLength : Nat) :
    encodedLength length chunkSize signatureLength =
      frameLength signatureLength (min chunkSize length) +
        encodedLength (length - chunkSize) chunkSize signatureLength := by
  have hsize0 : 0 < chunkSize := Nat.lt_of_lt_of_le (by decide) hsize
  simp only [encodedLength, Nat.max_eq_left hsize]
  -- How long a frame is does not matter, only how many there are of each length.
  generalize frameLength signatureLength = f
  rcases Nat.lt_or_ge length chunkSize with hlt | hge
  · -- All that is left is one frame, and the empty chunk follows.
    have hle := Nat.le_of_lt hlt
    rw [Nat.sub_eq_zero_of_le hle, Nat.min_eq_right hle, Nat.div_eq_of_lt hlt,
      Nat.mod_eq_of_lt hlt, if_neg (Nat.ne_of_gt hpos), Nat.zero_div, Nat.zero_mod, if_pos rfl]
    omega
  · -- A full chunk is one less in the quotient, and nothing in the remainder.
    rw [Nat.min_eq_left hge, Nat.div_eq_sub_div hsize0 hge, Nat.mod_eq_sub_mod hge,
      Nat.add_mul, Nat.one_mul]
    split <;> omega

/-! ### Frames and words -/

/-- A frame is hardly longer than its chunk. -/
theorem frameLength_le {signatureLength length : Nat} (hsignature : signatureLength ≤ 128)
    (hlength : length < 2 ^ 64) : frameLength signatureLength length ≤ length + 165 := by
  have hdigits : (Hex.ofNat length).length ≤ 16 := by
    rw [Hex.ofNat, String.length_ofList]
    exact (Nat.length_toDigits_le_iff (by decide) (by decide)).mpr hlength
  have hmark : signatureMark.length = 17 := by decide
  have hbreak : lineBreak.length = 2 := rfl
  rw [frameLength]
  omega

/-- **The length of all frames is a word**, if the length of the body is less than half of the
greatest. -/
theorem encodedLength_lt {length chunkSize signatureLength : Nat} (hlength : length < 2 ^ 63)
    (hsize : chunkSize < 2 ^ 64) (hsignature : signatureLength ≤ 128) :
    encodedLength length chunkSize signatureLength < 2 ^ 64 := by
  rw [encodedLength]
  generalize hfull : max chunkSize Error.leastChunkSize = size
  have hleast : 8192 ≤ size := hfull ▸ Nat.le_max_right _ _
  have hword : size < 2 ^ 64 := hfull ▸ Nat.max_lt.mpr ⟨hsize, by decide⟩
  have hrest : length % size ≤ length := Nat.mod_le _ _
  have hsum : size * (length / size) + length % size = length := Nat.div_add_mod _ _
  have hcount : length / size ≤ length / 8192 := Nat.div_le_div_left hleast (by decide)
  have hfulls : length / size * frameLength signatureLength size ≤
      size * (length / size) + length / size * 165 :=
    calc length / size * frameLength signatureLength size
        ≤ length / size * (size + 165) :=
          Nat.mul_le_mul_left _ (frameLength_le hsignature hword)
      _ = size * (length / size) + length / size * 165 := by
          rw [Nat.mul_add, Nat.mul_comm]
  have hlast : frameLength signatureLength 0 ≤ 0 + 165 := frameLength_le hsignature (by decide)
  have hpart : frameLength signatureLength (length % size) ≤ length % size + 165 :=
    frameLength_le hsignature (by omega)
  split <;> omega

end Frame

end SigV4
