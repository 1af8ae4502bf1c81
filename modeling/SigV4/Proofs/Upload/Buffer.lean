import SigV4.Proofs.Upload.Calls
import SigV4.Upload.Buffer

/-!
# What is left in a buffer is never sent

A body that goes through one buffer gives what a body gives whose chunks are lists of their
own (`SigV4.Upload.Buffered.next_after_eq`). The buffer is overwritten from the front
(`SigV4.Source.fillInPlace_eq`), and a frame is made from the part that was overwritten; so
of what an earlier chunk left behind nothing can be seen.

The loop that fills the buffer and the recursion that fills a list go by the same reads, and
`SigV4.Source.fill_eq` is the step that they share.
-/

namespace SigV4

namespace Source

/-! ### Overwriting -/

theorem length_overwrite {buffer part : Octets} {place : Nat}
    (h : place + part.length ≤ buffer.length) :
    (overwrite buffer place part).length = buffer.length := by
  rw [overwrite, List.length_append, List.length_append, List.length_take, List.length_drop]
  omega

theorem overwrite_nil (buffer : Octets) (place : Nat) : overwrite buffer place [] = buffer := by
  rw [overwrite, List.append_nil, List.length_nil, Nat.add_zero, List.take_append_drop]

/-- Two parts that are put one behind the other. -/
theorem overwrite_overwrite {buffer part : Octets} {place : Nat} (h : place ≤ buffer.length)
    (part' : Octets) :
    overwrite (overwrite buffer place part) (place + part.length) part' =
      overwrite buffer place (part ++ part') := by
  have hfront : (buffer.take place ++ part).length = place + part.length := by
    rw [List.length_append, List.length_take, Nat.min_eq_left h]
  have hbehind : (overwrite buffer place part).drop (place + part.length + part'.length) =
      buffer.drop (place + part.length + part'.length) := by
    rw [← List.drop_drop, overwrite, List.drop_left' hfront, List.drop_drop]
  rw [overwrite, hbehind, overwrite, List.take_left' hfront, overwrite, List.length_append,
    Nat.add_assoc, List.append_assoc _ part part']

theorem take_overwrite (buffer part : Octets) :
    (overwrite buffer 0 part).take part.length = part := by
  rw [overwrite, List.take_zero, List.nil_append, List.take_left]

/-! ### Read after read -/

theorem length_read_le {source rest : Source} {room : Nat} {part : Octets}
    (h : source.read room = (.delivered part, rest)) : part.length ≤ room := by
  unfold read at h
  split at h
  · obtain rfl := ReadResult.delivered.inj (Prod.mk.inj h).1
    exact List.length_take_le _ _
  · obtain rfl := ReadResult.delivered.inj (Prod.mk.inj h).1
    exact Nat.le_trans (List.length_take_le _ _) (Nat.min_le_right _ _)
  · cases h
  · cases h

theorem fill_zero (source : Source) : source.fill 0 = (.ok [], source) := by
  rcases source with ⟨_ | ⟨event, events⟩, data⟩
  · rfl
  · rw [fill]
    unfold fillFrom
    exact if_pos rfl

/-- **Filling a buffer begins with one read.** -/
theorem fill_eq {source : Source} {room : Nat} (h : 0 < room) :
    source.fill room =
      match source.read room with
      | (.delivered [], rest) => (.ok [], rest)
      | (.delivered (b :: bs), rest) =>
        ((rest.fill (room - (b :: bs).length)).1.map ((b :: bs) ++ ·),
          (rest.fill (room - (b :: bs).length)).2)
      | (.interrupted, rest) => rest.fill room
      | (.failed reason, rest) => (.error reason, rest) := by
  have hroom : ¬room = 0 := Nat.ne_of_gt h
  rcases source with ⟨_ | ⟨count | _ | reason, events⟩, data⟩
  · -- Behind the last event all there is room for is delivered, and nothing is left to be read.
    have htake := take_append_take_drop data (Nat.le_refl room)
    have hdrop := drop_drop_of_read data (Nat.le_refl room)
    rw [fill, fillFrom, read]
    cases hpart : data.take room with
    | nil => rfl
    | cons b bs =>
      rw [hpart] at htake hdrop
      dsimp only [fill, fillFrom, Except.map]
      rw [htake, hdrop]
  · rw [fill, fillFrom, if_neg hroom, read]
    cases hpart : data.take (min count room) with
    | nil =>
      -- An empty read takes nothing.
      have hdrop : data.drop (min count room) = data := by
        have happend := List.take_append_drop (min count room) data
        rwa [hpart] at happend
      simp only [hdrop, if_true]
    | cons b bs =>
      simp only [if_neg (List.cons_ne_nil b bs)]
      rfl
  · rw [fill, fillFrom, if_neg hroom]
    rfl
  · rw [fill, fillFrom, if_neg hroom]
    rfl

/-- **Filling a buffer** puts what is filled in behind what is there, and reads the same. -/
theorem fillInPlace_eq {source : Source} {buffer : Octets} {filled : Nat}
    (h : filled ≤ buffer.length) :
    (source.fillInPlace buffer filled).1 =
        (source.fill (buffer.length - filled)).1.map (filled + ·.length) ∧
      (source.fillInPlace buffer filled).2.2 = (source.fill (buffer.length - filled)).2 ∧
      ∀ chunk, (source.fill (buffer.length - filled)).1 = .ok chunk →
        (source.fillInPlace buffer filled).2.1 = overwrite buffer filled chunk := by
  fun_induction fillInPlace source buffer filled with
  | case1 source buffer filled hlt rest hread =>
    rw [fill_eq (Nat.sub_pos_of_lt hlt), hread]
    refine ⟨rfl, rfl, fun chunk hchunk => ?_⟩
    obtain rfl := Except.ok.inj hchunk
    exact (overwrite_nil buffer filled).symm
  | case2 source buffer filled hlt b bs rest hread ih =>
    have hpart := length_read_le hread
    have hroom : filled + (b :: bs).length ≤ buffer.length := by omega
    have hlength := length_overwrite hroom
    rw [hlength, ← Nat.sub_sub] at ih
    obtain ⟨hresult, hrest, hbuffer⟩ := ih hroom
    rw [fill_eq (Nat.sub_pos_of_lt hlt), hread]
    dsimp only
    refine ⟨?_, hrest, fun chunk hchunk => ?_⟩
    · rw [hresult]
      cases (rest.fill (buffer.length - filled - (b :: bs).length)).1 with
      | error reason => rfl
      | ok more => rw [Except.map, Except.map, Except.map, List.length_append, Nat.add_assoc]
    · obtain ⟨more, hmore, rfl⟩ := Outcome.map_eq_ok_iff.mp hchunk
      rw [hbuffer more hmore, overwrite_overwrite h]
  | case3 source buffer filled hlt rest hread ih =>
    rw [fill_eq (Nat.sub_pos_of_lt hlt), hread]
    exact ih h
  | case4 source buffer filled hlt reason rest hread =>
    rw [fill_eq (Nat.sub_pos_of_lt hlt), hread]
    exact ⟨rfl, rfl, fun chunk hchunk => by cases hchunk⟩
  | case5 source buffer filled hge =>
    have hroom : buffer.length - filled = 0 := Nat.sub_eq_zero_of_le (Nat.le_of_not_lt hge)
    rw [hroom, fill_zero]
    refine ⟨rfl, rfl, fun chunk hchunk => ?_⟩
    obtain rfl := Except.ok.inj hchunk
    exact (overwrite_nil buffer filled).symm

end Source

namespace Upload

namespace Buffered

/-! ### One call -/

/-- **The body after a number of calls.** -/
def after (body : Buffered) : Nat → Buffered
  | 0 => body
  | n + 1 => body.next.2.after n

/-- Whether the buffer has room for one chunk, as long as there is one to come. -/
def Fits (body : Buffered) : Prop :=
  body.upload.done = true ∨ body.buffer.length = body.upload.signer.chunkSize

theorem fits_start (signer : ChunkSigner) (source : Source) : (start signer source).Fits :=
  Or.inr List.length_replicate

/-- **One call** gives the same with the buffer as without, and leaves a buffer that fits. -/
theorem next_eq {body : Buffered} (h : body.Fits) :
    body.next.1 = body.upload.next.1 ∧ body.next.2.upload = body.upload.next.2 ∧
      body.next.2.Fits := by
  rcases hdone : body.upload.done with _ | _
  · have hlength := h.resolve_left (by rw [hdone]; exact Bool.false_ne_true)
    have hgoes : ¬body.upload.done = true := by
      rw [hdone]
      exact Bool.false_ne_true
    obtain ⟨hresult, hrest, hbuffer⟩ :=
      @Source.fillInPlace_eq body.upload.source body.buffer 0 (Nat.zero_le _)
    rw [Nat.sub_zero, hlength] at hresult hrest hbuffer
    rw [next, if_neg hgoes, Upload.next, if_neg hgoes]
    rcases hplace : body.upload.source.fillInPlace body.buffer 0 with ⟨result, buffer, source⟩
    rcases hfill : body.upload.source.fill body.upload.signer.chunkSize with ⟨reason | chunk, rest⟩
    · rw [hplace, hfill] at hresult hrest
      obtain rfl : result = .error reason := hresult
      obtain rfl : source = rest := hrest
      exact ⟨rfl, rfl, Or.inl rfl⟩
    · rw [hplace, hfill] at hresult hrest hbuffer
      obtain rfl : result = .ok (0 + chunk.length) := hresult
      obtain rfl : source = rest := hrest
      obtain rfl : buffer = Source.overwrite body.buffer 0 chunk := hbuffer chunk rfl
      -- The front of the buffer is what was read, and the rest of it is not looked at.
      have hfront : (Source.overwrite body.buffer 0 chunk).take (0 + chunk.length) = chunk := by
        rw [Nat.zero_add, Source.take_overwrite]
      have hempty : (0 + chunk.length == 0) = chunk.isEmpty := by
        cases chunk <;> simp
      have hsize : (Source.overwrite body.buffer 0 chunk).length =
          body.upload.signer.chunkSize := by
        rw [← hlength]
        refine Source.length_overwrite ?_
        rw [Nat.zero_add, hlength]
        exact Source.length_fill_le (by rw [hfill])
      dsimp only
      rw [hfront, hempty, ChunkSigner.frame_eq_map]
      cases hsign : body.upload.signer.sign chunk with
      | error e => exact ⟨rfl, rfl, Or.inl rfl⟩
      | ok signed =>
        obtain ⟨signature, signer⟩ := signed
        obtain ⟨-, -, rfl⟩ := ChunkSigner.sign_eq_ok_iff.mp hsign
        exact ⟨rfl, rfl, Or.inr hsize⟩
  · rw [next, if_pos hdone, next_of_done hdone]
    exact ⟨rfl, rfl, Or.inl hdone⟩

/-! ### All calls -/

/-- **All calls** give the same with the buffer as without. -/
theorem next_after_eq {body : Buffered} (h : body.Fits) (n : Nat) :
    (body.after n).next.1 = (body.upload.after n).next.1 := by
  induction n generalizing body with
  | zero => exact (next_eq h).1
  | succ n ih =>
    obtain ⟨-, hupload, hfits⟩ := next_eq h
    rw [after, Upload.after, ih hfits, hupload]

end Buffered

/-- **Every body comes to its end in good order**, whatever its source does: the calls give
frames of chunks from the front of the data, then one last item, a failure or the empty
chunk, and then nothing. If the chunks are read into one buffer, over what earlier ones left
there, the calls give the same. -/
theorem exists_run (signer : ChunkSigner) (source : Source) :
    ∃ parts last, Run (start signer source) parts last ∧
      ∀ n, ((Buffered.start signer source).after n).next.1 =
        ((start signer source).after n).next.1 := by
  obtain ⟨parts, last, hrun⟩ := @exists_run_of_done_eq_false (start signer source) rfl
  exact ⟨parts, last, hrun, Buffered.next_after_eq (Buffered.fits_start signer source)⟩

end Upload

end SigV4
