import SigV4.Proofs.Key.Signing
import SigV4.Proofs.Upload.Frame
import SigV4.Upload.ChunkSigner

/-!
# The chain of signatures

A chunk is signed together with the signature before it, and this file says once what
comes of that. One link is `SigV4.ChunkSigner.sign_eq_ok_iff`: when a chunk is signed, what
its signature is, and what the next link is. Signing in place comes to the same, and leaves the
link as it was if nothing is signed (`SigV4.ChunkSigner.InPlace.run_sign_of_ok`,
`SigV4.ChunkSigner.InPlace.run_sign_of_error`). A whole chain is
`SigV4.ChunkSigner.of_signAll`: each signature is that of its chunk and of the signature
before it, and of all that happened the last link keeps two things, the last signature and
whether the empty chunk has been signed.

A chain breaks off in two ways only. The empty chunk has been signed, or the key fails; as
long as neither happens there is a next signature (`SigV4.ChunkSigner.exists_signAll`).
-/

namespace SigV4

/-- **The texts that are signed** along a chain, given the signature before the first chunk
and the signatures of the chunks: each chunk stands beside the signature before it. -/
def Scope.chunkTexts (scope : Scope) (seed : String) (signatures : List String)
    (chunks : List Octets) : List String :=
  List.zipWith scope.chunkStringToSign (seed :: signatures) chunks

/-- Whether a key has a signature for every text. -/
def SigningKey.IsTotal (key : SigningKey) : Prop :=
  ∀ text, ∃ signature, key.sign text = .ok signature

theorem SigningKey.isTotal_hmac (key : Octets) : (SigningKey.hmac key).IsTotal :=
  fun _ => ⟨_, rfl⟩

/-- A key for a single region has one. -/
theorem SigningKey.isTotal_of_resolve {identity : Identity} {scope : Scope} {key : SigningKey}
    (h : resolve identity scope = .ok key) (hregion : scope.region.isSet = false) :
    key.IsTotal := by
  intro text
  rcases key.sign_cases text with ⟨signature, hsign, -⟩ | ⟨hfails, -⟩
  · exact ⟨_, hsign⟩
  · have hset := isSet_of_fails h hfails
    rw [hregion] at hset
    cases hset

namespace ChunkSigner

variable {signer next last : ChunkSigner} {chunk : Octets} {chunks : List Octets}
  {signature : String} {signatures : List String}

/-! ### One link -/

/-- **One link**: a chunk is signed unless the chain is finished or the key fails. -/
theorem sign_eq_ok_iff :
    signer.sign chunk = .ok (signature, next) ↔
      signer.finished = false ∧
        signer.key.sign (signer.scope.chunkStringToSign signer.previous chunk) = .ok signature ∧
        next = { signer with previous := signature, finished := chunk.isEmpty } := by
  rw [sign]
  constructor
  · intro h
    split at h
    · cases h
    · next hfinished =>
      obtain ⟨_, hsignature, h⟩ := Outcome.bind_eq_ok_iff.mp h
      obtain ⟨rfl, rfl⟩ := Prod.mk.inj (Except.ok.inj h)
      exact ⟨Bool.not_eq_true _ ▸ hfinished, hsignature, rfl⟩
  · rintro ⟨hfinished, hsignature, rfl⟩
    rw [if_neg (by rw [hfinished]; exact Bool.false_ne_true)]
    exact Outcome.bind_eq_ok_iff.mpr ⟨signature, hsignature, rfl⟩

/-- **Behind the empty chunk** nothing is signed. -/
theorem sign_of_finished (h : signer.finished = true) (chunk : Octets) :
    signer.sign chunk = .error .chainFinished := by
  rw [sign, if_pos h]

/-- **A chunk is signed** along an unfinished chain, unless the curve has no signature. -/
theorem sign_cases (h : signer.finished = false) (chunk : Octets) :
    (∃ signature, signer.sign chunk =
        .ok (signature, { signer with previous := signature, finished := chunk.isEmpty })) ∨
      signer.key.Fails ∧ signer.sign chunk = .error .ecdsa := by
  rcases signer.key.sign_cases (signer.scope.chunkStringToSign signer.previous chunk) with
    ⟨signature, hsignature, -⟩ | ⟨hfails, herror⟩
  · exact Or.inl ⟨_, sign_eq_ok_iff.mpr ⟨h, hsignature, rfl⟩⟩
  · refine Or.inr ⟨hfails, ?_⟩
    rw [sign, if_neg (by rw [h]; exact Bool.false_ne_true), herror]
    rfl

/-- A signature is hexadecimal text, as long as the algorithm has it. -/
theorem isHex_and_length_of_sign (h : signer.sign chunk = .ok (signature, next)) :
    Hex.IsHex signature ∧ signature.length = signer.key.signatureLength := by
  obtain ⟨-, hsignature, -⟩ := sign_eq_ok_iff.mp h
  obtain ⟨octets, rfl, hlength⟩ := SigningKey.exists_hex_of_sign hsignature
  exact ⟨Hex.isHex_encode octets, hlength⟩

/-- To frame a chunk is to sign it. -/
theorem frame_eq_map (signer : ChunkSigner) (chunk : Octets) :
    signer.frame chunk =
      (signer.sign chunk).map fun (signature, next) => (Frame.octets ⟨signature, chunk⟩, next) := by
  rw [frame]
  cases signer.sign chunk with
  | error e => rfl
  | ok signed => rfl

/-! ### In place -/

namespace InPlace

open SigV4.InPlace (run run_get run_lift_of_eq run_bind_of_ok run_bind_of_error)

variable {e : Error}

theorem run_advance (h : signer.finished = false) :
    run (advance chunk signature) signer =
      (.ok (), { signer with previous := signature, finished := chunk.isEmpty }) := by
  obtain ⟨scope, key, previous, chunkSize, finished⟩ := signer
  obtain rfl : finished = false := h
  rw [advance]
  cases chunk.isEmpty <;> rfl

/-- **A chunk that is signed in place** leaves the next link. -/
theorem run_sign_of_ok (h : signer.sign chunk = .ok (signature, next)) :
    run (sign chunk) signer = (.ok signature, next) := by
  obtain ⟨hfinished, hsignature, rfl⟩ := sign_eq_ok_iff.mp h
  rw [sign, run_bind_of_ok (run_get signer),
    if_neg (by rw [hfinished]; exact Bool.false_ne_true),
    run_bind_of_ok (run_lift_of_eq hsignature), run_bind_of_ok (run_advance hfinished)]
  rfl

/-- **A chunk that is not signed** leaves the link as it was. -/
theorem run_sign_of_error (h : signer.sign chunk = .error e) :
    run (sign chunk) signer = (.error e, signer) := by
  rw [ChunkSigner.sign] at h
  rw [sign, run_bind_of_ok (run_get signer)]
  split at h
  · next hfinished =>
    obtain rfl := Except.error.inj h
    rw [if_pos hfinished]
    rfl
  · next hfinished =>
    rw [if_neg hfinished]
    refine run_bind_of_error (run_lift_of_eq ?_)
    cases hsignature :
        signer.key.sign (signer.scope.chunkStringToSign signer.previous chunk) with
    | ok signature =>
      rw [hsignature] at h
      cases h
    | error e' =>
      rw [hsignature] at h
      exact congrArg _ (Except.error.inj h)

theorem run_frame_of_ok (h : signer.sign chunk = .ok (signature, next)) :
    run (frame chunk) signer = (.ok (Frame.octets ⟨signature, chunk⟩), next) := by
  rw [frame, run_bind_of_ok (run_sign_of_ok h)]
  rfl

theorem run_frame_of_error (h : signer.sign chunk = .error e) :
    run (frame chunk) signer = (.error e, signer) :=
  run_bind_of_error (run_sign_of_error h)

end InPlace

/-! ### A whole chain -/

/-- **Signs chunks one after another.** The answer is their signatures and the last link. -/
def signAll (signer : ChunkSigner) : List Octets → Except Error (List String × ChunkSigner)
  | [] => .ok ([], signer)
  | chunk :: chunks => do
    let (signature, next) ← signer.sign chunk
    let (signatures, last) ← next.signAll chunks
    return (signature :: signatures, last)

theorem signAll_cons_eq_ok_iff :
    signer.signAll (chunk :: chunks) = .ok (signatures, last) ↔
      ∃ signature next rest, signer.sign chunk = .ok (signature, next) ∧
        next.signAll chunks = .ok (rest, last) ∧ signatures = signature :: rest := by
  rw [signAll, Outcome.bind_eq_ok_iff]
  constructor
  · rintro ⟨⟨signature, next⟩, hsign, h⟩
    obtain ⟨⟨rest, last'⟩, hrest, h⟩ := Outcome.bind_eq_ok_iff.mp h
    obtain ⟨rfl, rfl⟩ := Prod.mk.inj (Except.ok.inj h)
    exact ⟨signature, next, rest, hsign, hrest, rfl⟩
  · rintro ⟨signature, next, rest, hsign, hrest, rfl⟩
    exact ⟨(signature, next), hsign, Outcome.bind_eq_ok_iff.mpr ⟨(rest, last), hrest, rfl⟩⟩

/-- A chain goes on where it ended. -/
theorem signAll_concat (h : signer.signAll chunks = .ok (signatures, last))
    (hsign : last.sign chunk = .ok (signature, next)) :
    signer.signAll (chunks ++ [chunk]) = .ok (signatures ++ [signature], next) := by
  induction chunks generalizing signer signatures with
  | nil =>
    obtain ⟨rfl, rfl⟩ := Prod.mk.inj (Except.ok.inj h)
    exact signAll_cons_eq_ok_iff.mpr ⟨signature, next, [], hsign, rfl, rfl⟩
  | cons first chunks ih =>
    obtain ⟨_, _, rest, hfirst, hrest, rfl⟩ := signAll_cons_eq_ok_iff.mp h
    exact signAll_cons_eq_ok_iff.mpr ⟨_, _, rest ++ [signature], hfirst, ih hrest, rfl⟩

/-- **A whole chain**: each signature is that of its chunk and of the signature before it, and
the last link knows the last signature and whether the empty chunk has been signed. -/
theorem of_signAll (h : signer.signAll chunks = .ok (signatures, last)) :
    (signer.scope.chunkTexts signer.previous signatures chunks).map signer.key.sign =
        signatures.map .ok ∧
      last = { signer with
        previous := signatures.getLastD signer.previous
        finished := signer.finished || decide ([] ∈ chunks) } := by
  induction chunks generalizing signer signatures with
  | nil =>
    obtain ⟨rfl, rfl⟩ := Prod.mk.inj (Except.ok.inj h)
    simp [Scope.chunkTexts]
  | cons chunk chunks ih =>
    obtain ⟨signature, next, rest, hsign, hrest, rfl⟩ := signAll_cons_eq_ok_iff.mp h
    obtain ⟨hfinished, hsignature, rfl⟩ := sign_eq_ok_iff.mp hsign
    obtain ⟨htexts, hlast⟩ := ih hrest
    have hempty : (chunk.isEmpty || decide ([] ∈ chunks)) = decide ([] ∈ chunk :: chunks) := by
      cases chunk <;> simp
    refine ⟨?_, ?_⟩
    · rw [Scope.chunkTexts] at htexts ⊢
      rw [List.zipWith_cons_cons, List.map_cons, List.map_cons, hsignature, htexts]
    · rw [hlast, List.getLastD_cons, hfinished, Bool.false_or, ← hempty]

/-- **There is a next signature** as long as the key does not fail and no empty chunk has
been signed. -/
theorem exists_signAll (hkey : signer.key.IsTotal) (hfinished : signer.finished = false)
    (hchunks : [] ∉ chunks.dropLast) :
    ∃ signatures last, signer.signAll chunks = .ok (signatures, last) := by
  induction chunks generalizing signer with
  | nil => exact ⟨[], signer, rfl⟩
  | cons chunk chunks ih =>
    obtain ⟨signature, hsignature⟩ :=
      hkey (signer.scope.chunkStringToSign signer.previous chunk)
    have hsign := sign_eq_ok_iff.mpr ⟨hfinished, hsignature, rfl⟩
    by_cases hne : chunks = []
    · subst hne
      exact ⟨_, _, signAll_cons_eq_ok_iff.mpr ⟨_, _, [], hsign, rfl, rfl⟩⟩
    · rw [List.dropLast_cons_of_ne_nil hne, List.mem_cons, not_or] at hchunks
      have hnext : chunk.isEmpty = false := List.isEmpty_eq_false_iff.mpr (Ne.symm hchunks.1)
      obtain ⟨rest, last, hrest⟩ :=
        @ih { signer with previous := signature, finished := chunk.isEmpty } hkey hnext hchunks.2
      exact ⟨_, last, signAll_cons_eq_ok_iff.mpr ⟨_, _, rest, hsign, hrest, rfl⟩⟩

/-- A scope to sign in. -/
def sampleScope : Scope := ⟨.epoch, .single "region", "service", by decide, by decide⟩

end ChunkSigner

end SigV4
