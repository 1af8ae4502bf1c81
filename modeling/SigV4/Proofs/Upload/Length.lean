import SigV4.Proofs.Signer.Reread
import SigV4.Proofs.Upload.Slices

/-!
# The announced length of a body in chunks

The length of the frames of a body is announced before the first of them is made, from a
formula; the frames are made by reading. This file shows that the two agree
(`SigV4.RequestSigner.contentLength_of_sign`), whatever the source does on the way, as
long as it goes on.

The frames are those of the slices of the body and of the empty chunk, so their lengths are
added up slice by slice (`SigV4.Frame.sum_frameLength_slices`). A run breaks off only where
the curve has no signature (`SigV4.Upload.frames_of_isSteady`).
-/

namespace SigV4

/-! ### The length of a body -/

/-- **The frames of the slices and of the empty chunk** have the length that is announced. -/
theorem Frame.sum_frameLength_slices {size : Nat} (hsize : Error.leastChunkSize ≤ size)
    (signatureLength : Nat) (data : Octets) :
    ((Octets.slices size data ++ [[]]).map
        fun chunk : Octets => frameLength signatureLength chunk.length).sum =
      encodedLength data.length size signatureLength := by
  fun_induction Octets.slices size data with
  | case1 data h ih =>
    have hpos := List.length_pos_iff.mpr h.2
    rw [List.cons_append, List.map_cons, List.sum_cons, ih, List.length_take, List.length_drop,
      encodedLength_of_pos hsize hpos]
  | case2 data h =>
    have hsize0 : 0 < size := Nat.lt_of_lt_of_le (by decide) hsize
    obtain rfl : data = [] := Decidable.not_not.mp fun hdata => h ⟨hsize0, hdata⟩
    rw [List.nil_append, List.map_singleton, List.sum_singleton, List.length_nil,
      encodedLength_zero]

namespace Upload

variable {chunks : ChunkSigner} {source : Source}

/-- **A whole run**: the frames have the length that was announced for the body, unless the
curve has no signature for one of the chunks, which ends the run. -/
theorem frames_of_isSteady (hfinished : chunks.finished = false)
    (hsize : Error.leastChunkSize ≤ chunks.chunkSize) (hsteady : source.IsSteady) :
    ∃ frames : List Octets,
      (start chunks source).frames = frames.map .ok ∧
        (frames.map List.length).sum = Frame.encodedLength source.data.length chunks.chunkSize
          chunks.key.signatureLength ∨
      chunks.key.Fails ∧ (start chunks source).frames = frames.map .ok ++ [.error .ecdsa] := by
  have hpos : 0 < chunks.chunkSize := Nat.lt_of_lt_of_le (by decide) hsize
  have hnil := Octets.nil_notMem_slices chunks.chunkSize source.data
  rw [frames_eq_frameEach hpos hsteady]
  rcases ChunkSigner.signAll_or_fails hfinished hnil with
    ⟨signatures, last, hall⟩ | ⟨hfails, frames, hframes⟩
  · obtain ⟨parts, -, hchunks, hsigned, hframes⟩ := ChunkSigner.exists_parts_of_signAll hall
    refine ⟨parts.map Frame.octets, Or.inl ⟨hframes, ?_⟩⟩
    have hlengths : (parts.map Frame.octets).map List.length = (parts.map (·.chunk)).map
        fun chunk : Octets => Frame.frameLength chunks.key.signatureLength chunk.length := by
      rw [List.map_map, List.map_map]
      refine List.map_congr_left fun part hpart => ?_
      obtain ⟨hhex, hlength⟩ := hsigned part hpart
      rw [Function.comp_apply, Function.comp_apply, Frame.length_octets hhex, hlength]
    rw [hlengths, hchunks, Frame.sum_frameLength_slices hsize]
  · exact ⟨frames, Or.inr ⟨hfails, hframes⟩⟩

end Upload

/-! ### Bodies that are signed in chunks -/

namespace Payload

variable {config : Config} {mode : Mode} {length : Option Nat} {chunkSize : Nat}

theorem of_ofStream_chunked {scheme : Http.Scheme} {length' : Option Nat}
    (h : ofStream config scheme mode length' = .ok (.chunked length chunkSize)) :
    length' = length ∧ mode.isQuery = false ∧ Error.leastChunkSize ≤ chunkSize := by
  unfold ofStream at h
  split at h
  · split at h <;> cases h
  split at h
  · cases h
  split at h
  · cases h
  split at h
  · cases h
  · next hquery _ hsize =>
    cases h
    exact ⟨rfl, Bool.not_eq_true _ ▸ hquery, Nat.le_of_not_lt hsize⟩

/-- **When a body is signed in chunks**: it arrives piece by piece, the signature goes into
the fields, and the chunks are not too small. -/
theorem of_resolve_chunked {request : Request}
    (h : resolve config request mode = .ok (.chunked length chunkSize)) :
    request.body = .streaming length ∧ mode.isQuery = false ∧
      Error.leastChunkSize ≤ chunkSize := by
  unfold resolve at h
  split at h
  · cases h
  split at h
  · cases h
  split at h
  · next hbody =>
    obtain ⟨rfl, hrest⟩ := of_ofStream_chunked h
    exact ⟨hbody, hrest⟩
  · split at h
    · cases h
    · split at h <;> cases h

end Payload

namespace RequestSigner

variable {signer : RequestSigner} {now : Instant} {request : Request} {identity : Identity}
  {mode : Mode} {s : Signed} {chunks : ChunkSigner} {source : Source}

theorem of_chunkSigner? {plan : Plan} {signature : String}
    (h : chunkSigner? plan signature = some chunks) :
    ∃ length chunkSize, plan.payload = .chunked length chunkSize ∧
      chunks = ChunkSigner.start plan.scope plan.key signature chunkSize := by
  unfold chunkSigner? at h
  split at h
  · next length chunkSize hpayload => exact ⟨length, chunkSize, hpayload, (Option.some.inj h).symm⟩
  · cases h

/-- **What a request announces of a body in chunks**, and what its chunks are signed with. -/
theorem announced_lengths {n : Nat} (hbody : request.body = .streaming (some n))
    (h : signer.sign now request identity mode = .ok s) (hchunks : s.chunkSigner = some chunks) :
    chunks.finished = false ∧ Error.leastChunkSize ≤ chunks.chunkSize ∧
      (chunks.key.Fails → signer.region.isSet = true) ∧
      (s.request.fields.values Vocabulary.decodedContentLength).map (·.octets) =
        [Octets.ofText (toString n)] ∧
      (s.request.fields.values Vocabulary.contentLength).map (·.octets) =
        [Octets.ofText (toString
          (Frame.encodedLength n chunks.chunkSize chunks.key.signatureLength))] := by
  obtain ⟨plan, announced, hplan, hannounce, -, -, hattach, hsigner⟩ := sign_eq_ok_iff.mp h
  obtain ⟨hscope, hlifetime, hresolve, hkey⟩ := plan_eq_ok_iff.mp hplan
  obtain ⟨length, chunkSize, hpayload, rfl⟩ := of_chunkSigner? (hsigner.symm.trans hchunks)
  rw [hpayload] at hresolve
  obtain ⟨hstreaming, hmode, hsize⟩ := Payload.of_resolve_chunked hresolve
  obtain rfl : some n = length := by
    rw [hbody] at hstreaming
    exact Body.streaming.inj hstreaming
  have hnone := Mode.lifetime_eq_none hlifetime hmode
  obtain ⟨hosted, -, hinFields⟩ := Outcome.bind_eq_ok_iff.mp hannounce
  rw [hnone, hpayload] at hinFields
  obtain ⟨hdecoded, hcontent⟩ := Announcement.values_inFields hinFields
  -- The signature has a field of its own, so the lengths stay as they were announced.
  obtain ⟨value, hsigned⟩ := attach_of_lifetime_none hnone hattach
  refine ⟨rfl, hsize, ?_, ?_, ?_⟩
  · intro hfails
    rw [← Scope.region_of_make hscope]
    exact SigningKey.isSet_of_fails hkey hfails
  · rw [hsigned, Http.Fields.values_insert, if_neg (by decide)]
    exact hdecoded
  · rw [hsigned, Http.Fields.values_insert, if_neg (by decide), ChunkSigner.start,
      SigningKey.signatureLength_of_resolve hkey]
    exact hcontent

theorem exists_chunkSigner {length : Option Nat} {chunkSize : Nat}
    (h : signer.sign now request identity mode = .ok s)
    (hresolve : Payload.resolve signer.config request mode = .ok (.chunked length chunkSize)) :
    ∃ chunks, s.chunkSigner = some chunks := by
  obtain ⟨plan, announced, hplan, -, -, -, -, hsigner⟩ := sign_eq_ok_iff.mp h
  obtain ⟨-, -, hpayload, -⟩ := plan_eq_ok_iff.mp hplan
  have hchunked := Except.ok.inj (hpayload.symm.trans hresolve)
  rw [hsigner, chunkSigner?, hchunked]
  exact ⟨_, rfl⟩

/-! ### A body that can be sent -/

/-- A signer that signs bodies in chunks. -/
def sampleChunked : RequestSigner where
  service := "service"
  region := .single "region"
  config := { chunked := true }

/-- A request with a body of three octets. -/
def sampleUpload : Request where
  method := .get
  scheme := .http
  authority := CanonicalRequest.sampleAuthority
  path := "/"
  query := []
  fields := .empty
  body := .streaming (some 3)

/-- Three octets that arrive in pieces. -/
def sampleSource : Source where
  events := [.upTo 1, .interrupted, .upTo 5]
  data := [0x61, 0x62, 0x63]

theorem isSteady_sampleSource : sampleSource.IsSteady :=
  Source.isSteady_sampleEvents sampleSource.data

theorem exists_sign_sampleUpload :
    ∃ s chunks, sampleChunked.sign .epoch sampleUpload sampleIdentity .fields = .ok s ∧
      s.chunkSigner = some chunks := by
  obtain ⟨s, hs⟩ : ∃ s, sampleChunked.sign .epoch sampleUpload sampleIdentity .fields = .ok s :=
    exists_sign ⟨_, rfl, ⟨_, rfl⟩, _, rfl, _, rfl, by decide, by decide⟩
  obtain ⟨chunks, hchunks⟩ := exists_chunkSigner hs rfl
  exact ⟨s, chunks, hs, hchunks⟩

/-! ### The announced length -/

/-- **A body in chunks is as long as was announced**, for every source that goes on and
delivers as many octets as it should; and the announced length before it was cut is that of
the body. For a region set the curve may have no signature for a chunk, and then the body
is not sent to its end. -/
theorem contentLength_of_sign {n : Nat} (hbody : request.body = .streaming (some n))
    (h : signer.sign now request identity .fields = .ok s) (hchunks : s.chunkSigner = some chunks)
    (hsteady : source.IsSteady) (hlength : source.data.length = n) :
    (s.request.fields.values Vocabulary.decodedContentLength).map (·.octets) =
        [Octets.ofText (toString n)] ∧
      ∃ frames : List Octets,
        (Upload.start chunks source).frames = frames.map .ok ∧
          (s.request.fields.values Vocabulary.contentLength).map (·.octets) =
            [Octets.ofText (toString (frames.map List.length).sum)] ∨
        signer.region.isSet = true ∧ chunks.key.Fails ∧
          (Upload.start chunks source).frames = frames.map .ok ++ [.error .ecdsa] := by
  obtain ⟨hfinished, hsize, hregion, hdecoded, hcontent⟩ := announced_lengths hbody h hchunks
  refine ⟨hdecoded, ?_⟩
  obtain ⟨frames, ⟨hrun, hsum⟩ | ⟨hfails, hrun⟩⟩ :=
    Upload.frames_of_isSteady hfinished hsize hsteady
  · refine ⟨frames, Or.inl ⟨hrun, ?_⟩⟩
    rw [hsum, hlength, hcontent]
  · exact ⟨frames, Or.inr ⟨hregion hfails, hfails, hrun⟩⟩

/-- Three octets, in pieces, for a single region. -/
theorem contentLength_sampleUpload :
    ∃ s chunks, sampleChunked.sign .epoch sampleUpload sampleIdentity .fields = .ok s ∧
      s.chunkSigner = some chunks ∧
      (s.request.fields.values Vocabulary.decodedContentLength).map (·.octets) =
        [Octets.ofText (toString 3)] ∧
      ∃ frames : List Octets,
        (Upload.start chunks sampleSource).frames = frames.map .ok ∧
        (s.request.fields.values Vocabulary.contentLength).map (·.octets) =
          [Octets.ofText (toString (frames.map List.length).sum)] := by
  obtain ⟨s, chunks, hs, hchunks⟩ := exists_sign_sampleUpload
  obtain ⟨hdecoded, frames, ⟨hrun, hcontent⟩ | ⟨hset, -⟩⟩ :=
    contentLength_of_sign rfl hs hchunks isSteady_sampleSource rfl
  · exact ⟨s, chunks, hs, hchunks, hdecoded, frames, hrun, hcontent⟩
  · cases hset

end RequestSigner

end SigV4
