import SigV4.Proofs.Upload.Chain
import SigV4.Proofs.Upload.Filling
import SigV4.Proofs.Upload.Reading

/-!
# Calling for frames, whatever the source does

A body is sent by calling for the next frame again and again, and a source may do on the way
what it likes. This file says what the calls give (`SigV4.Upload.Run`): frames of
chunks that are not empty, then one last item, which is the frame of the empty chunk or a
failure, and then nothing any more. The chunks are the data of the source from the front,
each octet once; and where the source fails there is no empty chunk, so what has been cut
short is not taken for complete.

One call is `SigV4.Upload.next_cases`. It ends the body or takes a chunk off the source
(`SigV4.Upload.Run.last_of_next`, `SigV4.Upload.Run.cons_of_next`), and a whole run is an
induction on what is left.
-/

namespace SigV4

namespace Upload

/-! ### Calls and frames -/

/-- **The body after a number of calls.** -/
def after (upload : Upload) : Nat → Upload
  | 0 => upload
  | n + 1 => upload.next.2.after n

theorem frames_of_next {upload : Upload} {item : Except Error Octets}
    (h : upload.next.1 = some item) : upload.frames = item :: upload.next.2.frames := by
  rw [frames]
  split
  · next hnone =>
    rw [hnone] at h
    cases h
  · next item' hitem =>
    rw [hitem] at h
    obtain rfl := Option.some.inj h
    rfl

theorem frames_of_done {upload : Upload} (h : upload.done = true) : upload.frames = [] := by
  rw [frames]
  split
  · rfl
  · next item hitem =>
    rw [next, if_pos h] at hitem
    cases hitem

theorem next_of_done {upload : Upload} (h : upload.done = true) : upload.next = (none, upload) := by
  rw [next, if_pos h]

theorem after_of_done {upload : Upload} (h : upload.done = true) (n : Nat) :
    upload.after n = upload := by
  induction n with
  | zero => rfl
  | succ n ih => rw [after, next_of_done h, ih]

theorem done_of_next_eq_none {upload : Upload} (h : upload.next.1 = none) :
    upload.done = true := by
  cases hdone : upload.done with
  | true => rfl
  | false =>
    rw [next, if_neg (by rw [hdone]; exact Bool.false_ne_true)] at h
    split at h
    · cases h
    · split at h <;> cases h

/-- **What the calls give** is the frames, and nothing behind them. -/
theorem next_after (upload : Upload) (n : Nat) :
    (upload.after n).next.1 = upload.frames[n]? := by
  induction n generalizing upload with
  | zero =>
    rw [after]
    cases h : upload.next.1 with
    | none => rw [frames_of_done (done_of_next_eq_none h)]; rfl
    | some item => rw [frames_of_next h]; rfl
  | succ n ih =>
    rw [after, ih]
    cases h : upload.next.1 with
    | none =>
      have hdone := done_of_next_eq_none h
      rw [next_of_done hdone, frames_of_done hdone]
      rfl
    | some item => rw [frames_of_next h]; rfl

/-! ### One call -/

/-- A call that has read a chunk frames it. -/
theorem next_of_fill {upload : Upload} {chunk : Octets} {rest : Source} (h : upload.done = false)
    (hfill : upload.source.fill upload.signer.chunkSize = (.ok chunk, rest)) :
    upload.next =
      match upload.signer.frame chunk with
      | .error e => (some (.error e), { upload with source := rest, done := true })
      | .ok (frame, signer) =>
        (some (.ok frame), { signer, source := rest, done := chunk.isEmpty }) := by
  have hgoes : ¬upload.done = true := by
    rw [h]
    exact Bool.false_ne_true
  rw [next, if_neg hgoes]
  cases hframe : upload.signer.frame chunk with
  | error e => simp only [hfill, hframe]
  | ok framed => simp only [hfill, hframe]

/-- **One call**: the frame of what was read, which ends the body if it is the empty chunk; or
a failure, of the source or in signing, which ends it. -/
theorem next_cases {upload : Upload} (h : upload.done = false) :
    (∃ (part : Frame) (signer : ChunkSigner) (source : Source),
        Hex.IsHex part.signature ∧ signer.chunkSize = upload.signer.chunkSize ∧
          upload.source.fill upload.signer.chunkSize = (.ok part.chunk, source) ∧
          upload.next =
            (some (.ok part.octets), { signer, source, done := part.chunk.isEmpty })) ∨
      ∃ (e : Error) (source : Source),
        (upload.source.fill upload.signer.chunkSize).2 = source ∧
          (∀ reason, (upload.source.fill upload.signer.chunkSize).1 = .error reason →
            e = .outside reason) ∧
          upload.next = (some (.error e), { upload with source, done := true }) := by
  rcases hfill : upload.source.fill upload.signer.chunkSize with ⟨_ | chunk, source⟩
  · next reason =>
    refine Or.inr ⟨.outside reason, source, rfl, fun reason' hreason => ?_, ?_⟩
    · rw [Except.error.inj hreason]
    · rw [next, if_neg (by rw [h]; exact Bool.false_ne_true), hfill]
  · rw [next_of_fill h hfill]
    rcases hsign : upload.signer.sign chunk with e | ⟨signature, signer⟩
    · refine Or.inr ⟨e, source, rfl, fun reason hreason => (by cases hreason), ?_⟩
      simp only [ChunkSigner.frame_eq_map, hsign, Except.map]
    · obtain ⟨-, -, hsigner⟩ := ChunkSigner.sign_eq_ok_iff.mp hsign
      obtain ⟨hhex, -⟩ := ChunkSigner.isHex_and_length_of_sign hsign
      refine Or.inl ⟨⟨signature, chunk⟩, signer, source, hhex, ?_, rfl, ?_⟩
      · rw [hsigner]
      · simp only [ChunkSigner.frame_eq_map, hsign, Except.map]

/-! ### A whole run -/

/-- **What a body gives**, from where it is to its end: frames, and one last item. -/
structure Run (upload : Upload) (parts : List Frame) (last : Except Error Frame) : Prop where
  /-- The calls give the frames and the last item in order, and nothing from then on. -/
  items : ∀ n, (upload.after n).next.1 =
    ((parts.map Except.ok ++ [last]).map (Except.map Frame.octets))[n]?
  /-- The frames are those of chunks that are not empty and fit the buffer, and can be read
  back. -/
  framed : ∀ part ∈ parts, part.chunk ≠ [] ∧ part.chunk.length ≤ upload.signer.chunkSize ∧
    ∀ rest, Frame.read? (part.octets ++ rest) = some (part, rest)
  /-- The last item is a failure or the frame of the empty chunk. -/
  ending : ∀ part, last = .ok part →
    part.chunk = [] ∧ ∀ rest, Frame.read? (part.octets ++ rest) = some (part, rest)
  /-- At any time the chunks that were framed are a front of what the source delivered. -/
  front : ∀ n, ∃ delivered, delivered ++ (upload.after n).source.data = upload.source.data ∧
    (parts.take n).flatMap (·.chunk) <+: delivered
  /-- If the last item is the empty chunk, they are all of it. -/
  complete : ∀ part, last = .ok part → ∀ n,
    (parts.take n).flatMap (·.chunk) ++ (upload.after n).source.data = upload.source.data
  /-- If the source fails, then this failure is the last item. -/
  failed : ∀ n reason, (upload.after n).done = false →
    ((upload.after n).source.fill (upload.after n).signer.chunkSize).1 = .error reason →
    n = parts.length ∧ last = .error (.outside reason)

/-- A call that ends the body is the whole run. -/
theorem Run.last_of_next {upload next : Upload} {last : Except Error Frame}
    (h : upload.next = (some (last.map Frame.octets), next)) (hdone : next.done = true)
    (hlast : ∀ part, last = .ok part → part.chunk = [] ∧ Hex.IsHex part.signature ∧
      next.source.data = upload.source.data)
    (hdata : next.source.data <:+ upload.source.data)
    (hfailed : ∀ reason, (upload.source.fill upload.signer.chunkSize).1 = .error reason →
      last = .error (.outside reason)) : Run upload [] last := by
  have hafter : ∀ n, upload.after (n + 1) = next := by
    intro n
    rw [after, h]
    exact after_of_done hdone n
  refine ⟨fun n => ?_, fun part hpart => (by cases hpart), fun part hpart => ?_, fun n => ?_,
    fun part hpart n => ?_, fun n reason hgoes hreason => ?_⟩
  · cases n with
    | zero => rw [after, h]; rfl
    | succ n => rw [hafter, next_of_done hdone]; rfl
  · obtain ⟨hchunk, hhex, -⟩ := hlast part hpart
    exact ⟨hchunk, Frame.read?_octets_append hhex⟩
  · cases n with
    | zero => exact ⟨[], rfl, List.prefix_refl _⟩
    | succ n =>
      obtain ⟨delivered, hdelivered⟩ := hdata
      rw [hafter]
      exact ⟨delivered, hdelivered, List.nil_prefix⟩
  · cases n with
    | zero => rfl
    | succ n =>
      rw [hafter]
      exact (hlast part hpart).2.2
  · cases n with
    | zero => exact ⟨rfl, hfailed reason hreason⟩
    | succ n =>
      rw [hafter, hdone] at hgoes
      cases hgoes

/-- A call that gives the frame of a chunk is the beginning of a run. -/
theorem Run.cons_of_next {upload next : Upload} {part : Frame} {parts : List Frame}
    {last : Except Error Frame} (h : upload.next = (some (.ok part.octets), next))
    (hhex : Hex.IsHex part.signature) (hchunk : part.chunk ≠ [])
    (hfill : (upload.source.fill upload.signer.chunkSize) = (.ok part.chunk, next.source))
    (hsize : next.signer.chunkSize = upload.signer.chunkSize) (hrun : Run next parts last) :
    Run upload (part :: parts) last := by
  have hdata := Source.append_of_fill_eq hfill
  have hafter : ∀ n, upload.after (n + 1) = next.after n := by
    intro n
    rw [after, h]
  refine ⟨fun n => ?_, fun other hother => ?_, hrun.ending, fun n => ?_, fun part' hpart n => ?_,
    fun n reason hgoes hreason => ?_⟩
  · cases n with
    | zero => rw [after, h]; rfl
    | succ n => rw [hafter, hrun.items]; rfl
  · rcases List.mem_cons.mp hother with rfl | hother
    · exact ⟨hchunk, Source.length_fill_le (by rw [hfill]), Frame.read?_octets_append hhex⟩
    · rw [← hsize]
      exact hrun.framed other hother
  · cases n with
    | zero => exact ⟨[], rfl, List.prefix_refl _⟩
    | succ n =>
      obtain ⟨delivered, hdelivered, hfront⟩ := hrun.front n
      refine ⟨part.chunk ++ delivered, ?_, ?_⟩
      · rw [hafter, List.append_assoc, hdelivered, hdata]
      · rw [List.take_succ_cons, List.flatMap_cons]
        exact (List.prefix_append_right_inj _).mpr hfront
  · cases n with
    | zero => rfl
    | succ n =>
      rw [hafter, List.take_succ_cons, List.flatMap_cons, List.append_assoc,
        hrun.complete part' hpart, hdata]
  · cases n with
    | zero =>
      rw [after, hfill] at hreason
      cases hreason
    | succ n =>
      rw [hafter] at hgoes hreason
      obtain ⟨rfl, hlast⟩ := hrun.failed n reason hgoes hreason
      exact ⟨rfl, hlast⟩

/-- **Every body comes to its end**, whatever its source does. -/
theorem exists_run_of_done_eq_false {upload : Upload} (h : upload.done = false) :
    ∃ parts last, Run upload parts last := by
  -- Every chunk that is not empty takes something off the data.
  induction hn : upload.source.data.length using Nat.strongRecOn generalizing upload with
  | ind n ih =>
    rcases next_cases h with
      ⟨part, signer, source, hhex, hsize, hfill, hnext⟩ | ⟨e, source, hsource, hreason, hnext⟩
    · have hdata := Source.append_of_fill_eq hfill
      by_cases hchunk : part.chunk = []
      · refine ⟨[], .ok part, Run.last_of_next hnext (List.isEmpty_iff.mpr hchunk) ?_ ?_ ?_⟩
        · rintro part' hpart
          obtain rfl := Except.ok.inj hpart
          exact ⟨hchunk, hhex, by rw [← hdata, hchunk]; rfl⟩
        · exact ⟨part.chunk, hdata⟩
        · intro reason hreason
          rw [hfill] at hreason
          cases hreason
      · have hlt : source.data.length < n := by
          have hpos := List.length_pos_iff.mpr hchunk
          rw [← hn, ← hdata, List.length_append]
          omega
        obtain ⟨parts, last, hrun⟩ := @ih _ hlt
          { signer, source, done := part.chunk.isEmpty } (List.isEmpty_eq_false_iff.mpr hchunk) rfl
        exact ⟨part :: parts, last, Run.cons_of_next hnext hhex hchunk hfill hsize hrun⟩
    · refine ⟨[], .error e, Run.last_of_next hnext rfl (fun part hpart => (by cases hpart)) ?_ ?_⟩
      · rw [← hsource]
        exact Source.fill_suffix _ _
      · intro reason hfailed
        rw [hreason reason hfailed]

end Upload

end SigV4
