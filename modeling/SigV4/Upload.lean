import SigV4.Upload.ChunkSigner
import SigV4.Upload.Source

/-!
# Sending a body in chunks

A body is cut into chunks as it is read: a buffer of the chunk size is filled, and what
is in it is signed and framed. The chunk that turns out empty ends the body and is framed
too. A failure ends it as well, but without the empty chunk, so the other side does not
take the body for complete.

* `SigV4.Upload.next` is one step: the next frame, or the failure, or nothing;
* `SigV4.Upload.frames` is all of them.

Every frame but the last takes something from the source
(`SigV4.Source.fill_append`), and that is why the frames come to an end.
-/

namespace SigV4

/-- **A body under way.** -/
structure Upload where
  /-- The signer of the next chunk. -/
  signer : ChunkSigner
  /-- The source of the body. -/
  source : Source
  /-- Whether nothing more is sent. -/
  done : Bool

namespace Upload

/-- A body that is to be sent with the given signer. -/
def start (signer : ChunkSigner) (source : Source) : Upload :=
  { signer, source, done := false }

/-- **The next frame**, and the body behind it. There is none when the body has been
sent, or has failed. -/
def next (upload : Upload) : Option (Except Error Octets) × Upload :=
  if upload.done then (none, upload)
  else
    match upload.source.fill upload.signer.chunkSize with
    | (.error reason, source) => (some (.error (.outside reason)), { upload with source, done := true })
    | (.ok chunk, source) =>
      match upload.signer.frame chunk with
      | .error e => (some (.error e), { upload with source, done := true })
      | .ok (frame, signer) => (some (.ok frame), { signer, source, done := chunk.isEmpty })

/-- How much can still be sent: one more than the octets that are left, or nothing. -/
def remaining (upload : Upload) : Nat :=
  if upload.done then 0 else upload.source.data.length + 1

theorem remaining_next_lt {upload : Upload} {item : Except Error Octets}
    (h : upload.next.1 = some item) : upload.next.2.remaining < upload.remaining := by
  have hd : upload.done = false := by
    cases hd : upload.done with
    | false => rfl
    | true => simp [next, hd] at h
  have hr : upload.remaining = upload.source.data.length + 1 := by simp [remaining, hd]
  rw [hr, next, if_neg (by simp [hd])]
  split
  · simp [remaining]
  · next chunk source hfill =>
    have hdata : chunk ++ source.data = upload.source.data := by
      have happend := @Source.fill_append upload.source upload.signer.chunkSize chunk
        (by rw [hfill])
      rwa [hfill] at happend
    split
    · simp [remaining]
    · rw [← hdata]
      cases chunk with
      | nil => simp [remaining]
      | cons b bs =>
        have hlt : source.data.length + 1 < (b :: bs ++ source.data).length + 1 := by
          simp only [List.cons_append, List.length_cons, List.length_append]
          omega
        exact hlt

/-- **All the frames** of a body, and perhaps a failure at the end. -/
def frames (upload : Upload) : List (Except Error Octets) :=
  match _h : upload.next.1 with
  | none => []
  | some item => item :: frames upload.next.2
termination_by upload.remaining
decreasing_by exact remaining_next_lt _h

end Upload

end SigV4
