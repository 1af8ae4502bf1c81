import SigV4.Upload

/-!
# One buffer for all chunks

A body is read into one buffer of the chunk size, and every chunk is read over the one
before it. A short chunk overwrites the front of the buffer only, and what an earlier chunk
left behind it stays there. This file is the loop in that form: one read of a source
(`SigV4.Source.read`), a buffer that is filled read after read
(`SigV4.Source.fillInPlace`), and a body that goes through it (`SigV4.Upload.Buffered`).

Nothing of this shows: the answers are those of `SigV4.Upload.next`, where every chunk is a
list of its own. What is left behind in the buffer is never sent, since a frame is made from
as many octets as were read.

There is a buffer of any size here. A machine that has none of the size that is asked for
gives up before the first read, and sends nothing.
-/

namespace SigV4

/-! ### One read -/

/-- **What one read gives.** -/
inductive ReadResult where
  /-- Octets, or none at the end. -/
  | delivered (part : Octets)
  /-- An interruption. -/
  | interrupted
  /-- A failure, for a reason. -/
  | failed (reason : String)

namespace Source

/-- **Reads once**, into a buffer with some room. -/
def read (source : Source) (room : Nat) : ReadResult × Source :=
  match source with
  | ⟨[], data⟩ => (.delivered (data.take room), ⟨[], data.drop room⟩)
  | ⟨.upTo count :: events, data⟩ =>
    (.delivered (data.take (min count room)), ⟨events, data.drop (min count room)⟩)
  | ⟨.interrupted :: events, data⟩ => (.interrupted, ⟨events, data⟩)
  | ⟨.failed reason :: events, data⟩ => (.failed reason, ⟨events, data⟩)

/-- How often a source can still be read before it is exhausted. -/
def reads (source : Source) : Nat := source.events.length + source.data.length

theorem reads_of_delivered {source rest : Source} {room : Nat} {b : UInt8} {bs : Octets}
    (h : source.read room = (.delivered (b :: bs), rest)) : rest.reads < source.reads := by
  unfold read at h
  split at h
  · next data =>
    obtain ⟨hpart, rfl⟩ := Prod.mk.inj h
    have hlength := congrArg List.length (ReadResult.delivered.inj hpart)
    simp only [List.length_take, List.length_cons] at hlength
    simp only [reads, List.length_nil, List.length_drop]
    omega
  · obtain ⟨-, rfl⟩ := Prod.mk.inj h
    simp only [reads, List.length_cons, List.length_drop]
    omega
  · cases h
  · cases h

theorem reads_of_interrupted {source rest : Source} {room : Nat}
    (h : source.read room = (.interrupted, rest)) : rest.reads < source.reads := by
  unfold read at h
  split at h
  · cases h
  · cases h
  · obtain ⟨-, rfl⟩ := Prod.mk.inj h
    simp only [reads, List.length_cons]
    omega
  · cases h

/-! ### A buffer -/

/-- Puts octets into a buffer, from a place on. -/
def overwrite (buffer : Octets) (place : Nat) (part : Octets) : Octets :=
  buffer.take place ++ part ++ buffer.drop (place + part.length)

/-- **Fills a buffer** from a place on, read after read. The answer is the number of octets
in front that are new, or the reason of a failure, and the buffer and the source
afterwards. -/
def fillInPlace (source : Source) (buffer : Octets) (filled : Nat) :
    Except String Nat × Octets × Source :=
  if filled < buffer.length then
    match _h : source.read (buffer.length - filled) with
    | (.delivered [], rest) => (.ok filled, buffer, rest)
    | (.delivered (b :: bs), rest) =>
      fillInPlace rest (overwrite buffer filled (b :: bs)) (filled + (b :: bs).length)
    | (.interrupted, rest) => fillInPlace rest buffer filled
    | (.failed reason, rest) => (.error reason, buffer, rest)
  else (.ok filled, buffer, source)
termination_by source.reads
decreasing_by
  · exact reads_of_delivered _h
  · exact reads_of_interrupted _h

end Source

/-! ### A body -/

namespace Upload

/-- **A body under way, and its buffer.** -/
structure Buffered where
  /-- The body. -/
  upload : Upload
  /-- The buffer that every chunk is read into. -/
  buffer : Octets

namespace Buffered

/-- A body that is to be sent through a buffer of zeros. -/
def start (signer : ChunkSigner) (source : Source) : Buffered :=
  { upload := .start signer source, buffer := List.replicate signer.chunkSize 0 }

/-- **The next frame**, made from the octets in front of the buffer that are new. -/
def next (body : Buffered) : Option (Except Error Octets) × Buffered :=
  if body.upload.done then (none, body)
  else
    match body.upload.source.fillInPlace body.buffer 0 with
    | (.error reason, buffer, source) =>
      (some (.error (.outside reason)),
        { upload := { body.upload with source, done := true }, buffer })
    | (.ok filled, buffer, source) =>
      match body.upload.signer.frame (buffer.take filled) with
      | .error e =>
        (some (.error e), { upload := { body.upload with source, done := true }, buffer })
      | .ok (frame, signer) =>
        (some (.ok frame), { upload := { signer, source, done := filled == 0 }, buffer })

end Buffered

end Upload

end SigV4
