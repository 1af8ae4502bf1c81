import SigV4.Octets.Hex

/-!
# Percent-encoding

A text that has to stand inside a URI, or inside a canonical request, is written
octet by octet: the unreserved characters – letters, digits and `-._~` – stand
for themselves, and every other octet becomes `%` and two upper-case hexadecimal
digits. Signing knows only this one set, for paths and queries alike, so there is
one encoder here and no set to pass around.

Reading is more liberal than writing. A `%` that two digits of either case follow
is an escape; any other `%` stands for itself, and so does every other character,
by its UTF-8 octets. What was written is read back whole
(`SigV4.Percent.decode_encode`), which is what lets a canonical form be compared
by comparing texts.
-/

namespace SigV4

namespace Percent

/-- Whether a character is unreserved: an ASCII letter, a digit or one of
`-._~`. -/
def isUnreserved (c : Char) : Bool :=
  c.isAlphanum || c == '-' || c == '.' || c == '_' || c == '~'

/-- The written form of one octet. -/
def escape (b : UInt8) : List Char :=
  if isUnreserved (Char.ofNat b.toNat) then [Char.ofNat b.toNat]
  else ['%', Hex.upperDigit (b.toNat / 16), Hex.upperDigit (b.toNat % 16)]

/-- **The percent-encoding** of a list of octets. -/
def encode (bs : Octets) : List Char :=
  bs.flatMap escape

/-- The percent-encoding of the UTF-8 octets of a text. -/
def encodeText (s : String) : String :=
  String.ofList (encode (Octets.ofText s))

/-- **The octets that a percent-encoded text stands for.** An incomplete escape is
no escape: its `%` stands for itself. -/
def decode : List Char → Octets
  | [] => []
  | '%' :: high :: low :: rest =>
    match Hex.octet? high low with
    | some b => b :: decode rest
    | none => String.utf8EncodeChar '%' ++ decode (high :: low :: rest)
  | c :: rest => String.utf8EncodeChar c ++ decode rest

/-! ### Reading what was written -/

theorem decode_cons_of_ne {c : Char} (h : c ≠ '%') (rest : List Char) :
    decode (c :: rest) = String.utf8EncodeChar c ++ decode rest := by
  rw [decode]
  intro _ _ _ hc
  exact absurd hc h

theorem utf8EncodeChar_ofNat_of_isUnreserved {b : UInt8}
    (h : isUnreserved (Char.ofNat b.toNat) = true) :
    String.utf8EncodeChar (Char.ofNat b.toNat) = [b] := by
  have all : ∀ n < 256, isUnreserved (Char.ofNat n) = true →
      String.utf8EncodeChar (Char.ofNat n) = [UInt8.ofNat n] := by decide +kernel
  simpa using all b.toNat b.toNat_lt h

theorem ne_percent_of_isUnreserved {c : Char} (h : isUnreserved c = true) : c ≠ '%' := by
  rintro rfl
  exact absurd h (by decide)

/-- One written octet is read back, whatever follows it. -/
theorem decode_escape_append (b : UInt8) (rest : List Char) :
    decode (escape b ++ rest) = b :: decode rest := by
  unfold escape
  split
  · next h =>
    rw [List.singleton_append, decode_cons_of_ne (ne_percent_of_isUnreserved h),
      utf8EncodeChar_ofNat_of_isUnreserved h, List.singleton_append]
  · simp [decode, Hex.octet?_upperDigit]

theorem decode_encode_append (bs : Octets) (rest : List Char) :
    decode (encode bs ++ rest) = bs ++ decode rest := by
  induction bs with
  | nil => rfl
  | cons b bs ih =>
    rw [encode, List.flatMap_cons, List.append_assoc, decode_escape_append]
    exact congrArg (b :: ·) ih

/-- **What was written is read back.** -/
theorem decode_encode (bs : Octets) : decode (encode bs) = bs := by
  simpa [decode] using decode_encode_append bs []

end Percent

end SigV4
