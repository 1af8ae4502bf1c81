import SigV4.Proofs.Upload.Buffer
import SigV4.Proofs.Upload.Reading

/-!
# A body and its slices

A source that goes on may deliver its data in any pieces, and its body is sent as if it had
arrived in one (`SigV4.Upload.frames_eq_frameEach`): the data is cut into slices of the chunk
size, and these and the empty chunk are framed one after another.

The other side reads the frames back, and puts the data together again from the chunks. What
stands in the chunks is of no matter to it, be it line breaks or what looks like a frame.

The calls and the slices meet in an induction on what is left of the data, since a call takes
one slice off its front. The frames and what is read back meet in the parts of the frames,
which are the chunks beside their signatures (`SigV4.ChunkSigner.exists_parts_of_signAll`).
-/

namespace SigV4

/-! ### Slices -/

/-- **The slices** that data is cut into: all of one size, only the last may be shorter. -/
def Octets.slices (size : Nat) (data : Octets) : List Octets :=
  if 0 < size ∧ data ≠ [] then data.take size :: slices size (data.drop size) else []
termination_by data.length
decreasing_by
  next h =>
    have hpos := List.length_pos_iff.mpr h.2
    rw [List.length_drop]
    omega

namespace Octets

variable {size : Nat} {data : Octets}

theorem slices_nil (size : Nat) : slices size [] = [] := by
  rw [slices, if_neg fun h => h.2 rfl]

theorem slices_of_ne_nil (hsize : 0 < size) (hdata : data ≠ []) :
    slices size data = data.take size :: slices size (data.drop size) := by
  rw [slices, if_pos ⟨hsize, hdata⟩]

example : slices 2 [1, 2, 3] = [[1, 2], [3]] := by cbv

theorem take_ne_nil (hsize : 0 < size) (hdata : data ≠ []) : data.take size ≠ [] := by
  intro h
  rcases List.take_eq_nil_iff.mp h with hzero | hnil
  · exact Nat.ne_of_gt hsize hzero
  · exact hdata hnil

/-- **The slices are the data**, put together again. -/
theorem flatten_slices (hsize : 0 < size) (data : Octets) : (slices size data).flatten = data := by
  fun_induction slices size data with
  | case1 data h ih => rw [List.flatten_cons, ih, List.take_append_drop]
  | case2 data h =>
    obtain rfl : data = [] := Decidable.not_not.mp fun hdata => h ⟨hsize, hdata⟩
    rfl

/-- No slice is empty. -/
theorem nil_notMem_slices (size : Nat) (data : Octets) : [] ∉ slices size data := by
  fun_induction slices size data with
  | case1 data h ih =>
    rw [List.mem_cons, not_or]
    exact ⟨(take_ne_nil h.1 h.2).symm, ih⟩
  | case2 data h => exact List.not_mem_nil

end Octets

/-! ### Frames of given chunks -/

namespace ChunkSigner

/-- **The chunks of a body**: the slices of its data, and the empty chunk that closes it. -/
def chunksOf (signer : ChunkSigner) (data : Octets) : List Octets :=
  Octets.slices signer.chunkSize data ++ [[]]

/-- **Frames chunks one after another**, up to the first that there is no frame for. -/
def frameEach (signer : ChunkSigner) : List Octets → List (Except Error Octets)
  | [] => []
  | chunk :: chunks =>
    match signer.frame chunk with
    | .error e => [.error e]
    | .ok (frame, next) => .ok frame :: next.frameEach chunks

variable {signer next last : ChunkSigner} {chunk : Octets} {chunks : List Octets}
  {signature : String} {signatures : List String}

theorem frameEach_of_sign_eq_ok (h : signer.sign chunk = .ok (signature, next))
    (chunks : List Octets) :
    signer.frameEach (chunk :: chunks) =
      .ok (Frame.octets ⟨signature, chunk⟩) :: next.frameEach chunks := by
  rw [frameEach, frame_eq_map, h]
  rfl

theorem frameEach_of_sign_eq_error {e : Error} (h : signer.sign chunk = .error e)
    (chunks : List Octets) : signer.frameEach (chunk :: chunks) = [.error e] := by
  rw [frameEach, frame_eq_map, h]
  rfl

/-- **The parts of the frames** of chunks that are all signed: the chunks beside their
signatures. -/
theorem exists_parts_of_signAll (h : signer.signAll chunks = .ok (signatures, last)) :
    ∃ parts : List Frame, parts.map (·.signature) = signatures ∧ parts.map (·.chunk) = chunks ∧
      (∀ part ∈ parts,
        Hex.IsHex part.signature ∧ part.signature.length = signer.key.signatureLength) ∧
      signer.frameEach chunks = (parts.map Frame.octets).map .ok := by
  induction chunks generalizing signer signatures with
  | nil =>
    obtain ⟨rfl, -⟩ := Prod.mk.inj (Except.ok.inj h)
    exact ⟨[], rfl, rfl, fun part hpart => absurd hpart List.not_mem_nil, rfl⟩
  | cons chunk chunks ih =>
    obtain ⟨signature, next, rest, hsign, hrest, rfl⟩ := signAll_cons_eq_ok_iff.mp h
    obtain ⟨-, -, hnext⟩ := sign_eq_ok_iff.mp hsign
    obtain ⟨parts, rfl, rfl, hhex, hframes⟩ := ih hrest
    refine ⟨⟨signature, chunk⟩ :: parts, rfl, rfl, ?_, ?_⟩
    · rw [hnext] at hhex
      exact List.forall_mem_cons.mpr ⟨isHex_and_length_of_sign hsign, hhex⟩
    · rw [frameEach_of_sign_eq_ok hsign, hframes]
      rfl

/-- **All chunks and the empty one are signed**, unless the curve has no signature for one of
them, and then there is a frame for each chunk before it. -/
theorem signAll_or_fails (hfinished : signer.finished = false) (hchunks : [] ∉ chunks) :
    (∃ signatures last, signer.signAll (chunks ++ [[]]) = .ok (signatures, last)) ∨
      signer.key.Fails ∧ ∃ frames : List Octets,
        signer.frameEach (chunks ++ [[]]) = frames.map .ok ++ [.error .ecdsa] := by
  induction chunks generalizing signer with
  | nil =>
    rcases sign_cases hfinished [] with ⟨signature, hsign⟩ | ⟨hfails, herror⟩
    · exact Or.inl ⟨_, _, signAll_cons_eq_ok_iff.mpr ⟨_, _, [], hsign, rfl, rfl⟩⟩
    · exact Or.inr ⟨hfails, [], frameEach_of_sign_eq_error herror []⟩
  | cons chunk chunks ih =>
    obtain ⟨hchunk, hrest⟩ := List.ne_and_not_mem_of_not_mem_cons hchunks
    rcases sign_cases hfinished chunk with ⟨signature, hsign⟩ | ⟨hfails, herror⟩
    · -- The chunk is not empty, so the chain goes on behind it, and with the same key.
      have hgoes : chunk.isEmpty = false := List.isEmpty_eq_false_iff.mpr (Ne.symm hchunk)
      rcases @ih { signer with previous := signature, finished := chunk.isEmpty } hgoes hrest with
        ⟨signatures, last, hall⟩ | ⟨hfails, frames, hframes⟩
      · exact Or.inl ⟨_, last, signAll_cons_eq_ok_iff.mpr ⟨_, _, signatures, hsign, hall, rfl⟩⟩
      · refine Or.inr ⟨hfails, Frame.octets ⟨signature, chunk⟩ :: frames, ?_⟩
        rw [List.cons_append, frameEach_of_sign_eq_ok hsign, hframes]
        rfl
    · exact Or.inr ⟨hfails, [], frameEach_of_sign_eq_error herror _⟩

end ChunkSigner

namespace Upload

variable {signer : ChunkSigner} {source : Source}

/-! ### One call -/

/-- A call that has read a chunk frames it, and the rest of the body follows unless the chunk
is empty. -/
theorem frames_of_fill {chunk : Octets} {rest : Source}
    (h : source.fill signer.chunkSize = (.ok chunk, rest)) :
    (start signer source).frames =
      match signer.frame chunk with
      | .error e => [.error e]
      | .ok (frame, next) => .ok frame :: if chunk = [] then [] else (start next rest).frames := by
  have hnext := @next_of_fill (start signer source) chunk rest rfl h
  rcases hframe : signer.frame chunk with e | ⟨frame, signer'⟩
  · have hfailed : (start signer source).next =
        (some (.error e), { signer, source := rest, done := true }) := by
      rw [hnext, start, hframe]
    rw [frames_of_next (congrArg Prod.fst hfailed), hfailed, frames_of_done rfl]
  · have hframed : (start signer source).next =
        (some (.ok frame), { signer := signer', source := rest, done := chunk.isEmpty }) := by
      rw [hnext, start, hframe]
    rw [frames_of_next (congrArg Prod.fst hframed), hframed]
    dsimp only
    by_cases hchunk : chunk = []
    · rw [if_pos hchunk, frames_of_done (List.isEmpty_iff.mpr hchunk)]
    · rw [if_neg hchunk, start, List.isEmpty_eq_false_iff.mpr hchunk]

/-! ### A whole run -/

/-- **The frames of a body** whose source goes on are those of its chunks. -/
theorem frames_eq_frameEach (hsize : 0 < signer.chunkSize) (hsteady : source.IsSteady) :
    (start signer source).frames = signer.frameEach (signer.chunksOf source.data) := by
  rw [ChunkSigner.chunksOf]
  -- Each call takes one slice off, so the induction is on what is left of the data.
  induction hn : source.data.length using Nat.strongRecOn generalizing signer source with
  | ind n ih =>
    obtain ⟨rest, hrest, hdata, hfill⟩ := Source.fill_of_isSteady hsteady signer.chunkSize
    rw [frames_of_fill hfill]
    by_cases hempty : source.data = []
    · rw [hempty, Octets.slices_nil, List.take_nil, List.nil_append, ChunkSigner.frameEach]
      rfl
    · have hlt : rest.data.length < n := by
        have hpos := List.length_pos_iff.mpr hempty
        rw [hdata, List.length_drop]
        omega
      rw [Octets.slices_of_ne_nil hsize hempty, List.cons_append, ChunkSigner.frameEach]
      cases hsign : signer.sign (source.data.take signer.chunkSize) with
      | error e => rw [ChunkSigner.frame_eq_map, hsign]; rfl
      | ok signed =>
        obtain ⟨signature, next⟩ := signed
        obtain ⟨-, -, hnext⟩ := ChunkSigner.sign_eq_ok_iff.mp hsign
        have hchunkSize : next.chunkSize = signer.chunkSize := by rw [hnext]
        have hframes := ih _ hlt (hchunkSize ▸ hsize) hrest rfl
        rw [hchunkSize, hdata] at hframes
        rw [ChunkSigner.frame_eq_map, hsign]
        dsimp only [Except.map]
        rw [if_neg (Octets.take_ne_nil hsize hempty), hframes]

/-- **A body does not depend on how its source delivers it.** As long as the source goes on,
the calls give the frames of the slices of the data and of the empty chunk, and nothing
behind them, also if one buffer is used for all chunks. The frames are read back to the end:
their chunks are the data, and beside each stands its signature. For a region set the curve
may have no signature for a chunk, and then the body breaks off there. -/
theorem next_after_of_isSteady (hfinished : signer.finished = false)
    (hsize : 0 < signer.chunkSize) (hsteady : source.IsSteady) :
    (∀ n, ((start signer source).after n).next.1 =
          (signer.frameEach (signer.chunksOf source.data))[n]? ∧
        ((Buffered.start signer source).after n).next.1 =
          (signer.frameEach (signer.chunksOf source.data))[n]?) ∧
      ((∃ signatures last, ∃ parts : List Frame,
          signer.signAll (signer.chunksOf source.data) = .ok (signatures, last) ∧
          signer.frameEach (signer.chunksOf source.data) = (parts.map Frame.octets).map .ok ∧
          Frame.readBody? (parts.map Frame.octets).flatten = some (parts, []) ∧
          parts.map (·.signature) = signatures ∧
          parts.map (·.chunk) = signer.chunksOf source.data ∧
          parts.flatMap (·.chunk) = source.data) ∨
        signer.key.Fails ∧ ∃ frames : List Octets,
          signer.frameEach (signer.chunksOf source.data) =
            frames.map .ok ++ [.error .ecdsa]) := by
  have hframes := frames_eq_frameEach hsize hsteady
  have hnil := Octets.nil_notMem_slices signer.chunkSize source.data
  refine ⟨fun n => ⟨?_, ?_⟩, (ChunkSigner.signAll_or_fails hfinished hnil).imp_left ?_⟩
  · rw [next_after, hframes]
  · rw [Buffered.next_after_eq (Buffered.fits_start signer source), ← hframes]
    exact next_after (start signer source) n
  · rintro ⟨signatures, last, hall⟩
    obtain ⟨parts, hsignatures, hchunks, hhex, hparts⟩ := ChunkSigner.exists_parts_of_signAll hall
    have hread := Frame.readBody?_of_map_chunk (fun part hpart => (hhex part hpart).1) hnil hchunks
    have hdata : parts.flatMap (·.chunk) = source.data := by
      rw [List.flatMap_def, hchunks, List.flatten_append, Octets.flatten_slices hsize,
        List.flatten_singleton, List.append_nil]
    exact ⟨signatures, last, parts, hall, hparts, hread, hsignatures, hchunks, hdata⟩

/-- A body that holds line breaks and what looks like the last frame, delivered in pieces. -/
def sampleFrames : Source where
  events := Source.sampleEvents
  data := Octets.ofText "\r\n0;chunk-signature=61\r\n\r\n"

/-- Slices of two octets of such a body. -/
theorem next_after_sampleFrames :
    ∃ parts : List Frame,
      (∀ n, ((start (.start ChunkSigner.sampleScope (.hmac [0x6B]) "61" 2) sampleFrames).after
        n).next.1 = ((parts.map Frame.octets).map .ok)[n]?) ∧
      Frame.readBody? (parts.map Frame.octets).flatten = some (parts, []) ∧
      parts.flatMap (·.chunk) = Octets.ofText "\r\n0;chunk-signature=61\r\n\r\n" := by
  obtain ⟨hcalls, ⟨signatures, last, parts, -, hparts, hread, -, -, hdata⟩ | ⟨hfails, -⟩⟩ :=
    next_after_of_isSteady
      (show (ChunkSigner.start ChunkSigner.sampleScope (.hmac [0x6B]) "61" 2).finished = false
        from rfl) (Nat.succ_pos 1) (Source.isSteady_sampleEvents sampleFrames.data)
  · refine ⟨parts, fun n => ?_, hread, hdata⟩
    exact (hcalls n).1.trans (by rw [← hparts])
  · obtain ⟨k, text, hkey, -⟩ := hfails
    cases hkey

end Upload

end SigV4
