import SigV4.Http.Fault
import SigV4.Octets

/-!
# Field values

A field value is a list of octets without control characters, the tab excepted. It
need not be text: octets above the ASCII range are carried along as they are. Only
a value that is signed has to be read as text, and then it must be visible ASCII.

A value may be marked as sensitive, for those who log requests. The mark does not
change what is sent.
-/

namespace SigV4

namespace Http

/-- Whether an octet may stand in a field value: no control character but the
tab. -/
def isFieldOctet (b : UInt8) : Bool :=
  (0x20 ≤ b && b != 0x7F) || b == 0x09

/-- Whether an octet is a visible ASCII character, a blank or a tab. -/
def isVisibleOctet (b : UInt8) : Bool :=
  (0x20 ≤ b && b < 0x7F) || b == 0x09

/-- **A field value.** -/
structure FieldValue where
  /-- The octets of the value. -/
  octets : Octets
  /-- Whether the value is to be kept out of logs. -/
  sensitive : Bool
  /-- The octets hold no control character. -/
  isFieldOctet_octets : octets.all isFieldOctet = true
deriving DecidableEq

namespace FieldValue

/-- The field value of a list of octets. -/
def ofOctets (bs : Octets) : Except Fault FieldValue :=
  if h : bs.all isFieldOctet = true then .ok ⟨bs, false, h⟩ else .error .fieldValue

/-- The field value of a text, by its UTF-8 octets. -/
def ofText (s : String) : Except Fault FieldValue :=
  ofOctets (Octets.ofText s)

/-- The field value marked as sensitive. -/
def asSensitive (v : FieldValue) : FieldValue :=
  { v with sensitive := true }

/-- **The text of a field value**, which exists only for visible ASCII. -/
def text (v : FieldValue) : Except Fault (List Char) :=
  if v.octets.all isVisibleOctet then .ok (v.octets.map fun b => Char.ofNat b.toNat)
  else .error .fieldText

end FieldValue

end Http

end SigV4
