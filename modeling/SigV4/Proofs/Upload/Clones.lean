import Mathlib.Logic.Function.Basic
import SigV4.Proofs.Upload.Chain
import SigV4.Proofs.Upload.Length

/-!
# Signers and their clones

A signer of chunks may be cloned at any point, and original and clone go on side by side,
called in any order. This file shows that they do not notice each other. To each signer
belongs a history: the chunks that have been signed on it, and before that on what it is a
clone of. What a signer is, and what it answers, is decided by the first signer and its own
history (`SigV4.ChunkSigner.Clones.Consistent`), whatever was called in between.

A call signs in place, and puts back what it finds there, after a failure as well. One call
keeps this (`SigV4.ChunkSigner.Clones.Stem.call`), since it either signs a chunk on one signer,
which makes its history longer, or clones a signer together with its history, or fails and
changes nothing (`SigV4.ChunkSigner.Clones.call_of_sign_eq_error`). So every sequence of calls
keeps it (`SigV4.ChunkSigner.Clones.Stem.calls`).
-/

namespace SigV4

namespace ChunkSigner

/-! ### Calls -/

/-- **A call** on one of several signers, which go by numbers. -/
inductive Call where
  /-- Signs a chunk. -/
  | sign (i : Nat) (chunk : Octets)
  /-- Signs a chunk and frames it. -/
  | frame (i : Nat) (chunk : Octets)
  /-- Puts a clone of the signer `i` in the place of the signer `j`. -/
  | clone (i j : Nat)

/-- The one signer that a call may change. -/
def Call.target : Call → Nat
  | .sign i _ | .frame i _ => i
  | .clone _ j => j

/-- **What a call answers.** -/
inductive Answer where
  /-- The signature of the chunk. -/
  | signature (text : String)
  /-- The frame of the chunk. -/
  | frame (octets : Octets)
  /-- There is a clone. -/
  | cloned
  /-- Nothing was signed. -/
  | failed (error : Error)

/-- **Signers that stem from one**, and the history of each of them. -/
structure Clones where
  /-- The signers. -/
  signer : Nat → ChunkSigner
  /-- The chunks that have been signed on a signer, or before on what it is a clone of. -/
  history : Nat → List Octets

namespace Clones

/-- Before the first call every number stands for the first signer. -/
def start (first : ChunkSigner) : Clones :=
  { signer := fun _ => first, history := fun _ => [] }

/-- Puts a signer in the place of another one. -/
def set (clones : Clones) (i : Nat) (signer : ChunkSigner) (history : List Octets) : Clones :=
  { signer := Function.update clones.signer i signer
    history := Function.update clones.history i history }

/-- **One call**: what it answers, and the signers behind it. -/
def call (clones : Clones) : Call → Answer × Clones
  | .sign i chunk =>
    match InPlace.run (InPlace.sign chunk) (clones.signer i) with
    | (.ok signature, next) =>
      (.signature signature, clones.set i next (clones.history i ++ [chunk]))
    | (.error e, next) => (.failed e, clones.set i next (clones.history i))
  | .frame i chunk =>
    match InPlace.run (InPlace.frame chunk) (clones.signer i) with
    | (.ok frame, next) => (.frame frame, clones.set i next (clones.history i ++ [chunk]))
    | (.error e, next) => (.failed e, clones.set i next (clones.history i))
  | .clone i j => (.cloned, clones.set j (clones.signer i) (clones.history i))

/-- The signers behind a sequence of calls. -/
def calls (clones : Clones) (calls : List Call) : Clones :=
  calls.foldl (fun clones call => (clones.call call).2) clones

variable {first signer : ChunkSigner} {clones : Clones} {history : List Octets} {i j : Nat}
  {chunk : Octets}

theorem signer_set_self : (clones.set i signer history).signer i = signer :=
  Function.update_self _ _ _

theorem history_set_self : (clones.set i signer history).history i = history :=
  Function.update_self _ _ _

theorem signer_set_of_ne (h : j ≠ i) :
    (clones.set i signer history).signer j = clones.signer j :=
  Function.update_of_ne h _ _

theorem history_set_of_ne (h : j ≠ i) :
    (clones.set i signer history).history j = clones.history j :=
  Function.update_of_ne h _ _

theorem set_self : clones.set i (clones.signer i) (clones.history i) = clones := by
  rw [set, Function.update_eq_self, Function.update_eq_self]

/-! ### One call -/

theorem call_of_sign_eq_ok {signature : String} {next : ChunkSigner}
    (h : (clones.signer i).sign chunk = .ok (signature, next)) :
    clones.call (.sign i chunk) =
        (.signature signature, clones.set i next (clones.history i ++ [chunk])) ∧
      clones.call (.frame i chunk) = (.frame (Frame.octets ⟨signature, chunk⟩),
        clones.set i next (clones.history i ++ [chunk])) := by
  constructor
  · rw [call, InPlace.run_sign_of_ok h]
  · rw [call, InPlace.run_frame_of_ok h]

/-- **A call that fails** leaves every signer and every history as it was. -/
theorem call_of_sign_eq_error {e : Error} (h : (clones.signer i).sign chunk = .error e) :
    clones.call (.sign i chunk) = (.failed e, clones) ∧
      clones.call (.frame i chunk) = (.failed e, clones) := by
  constructor
  · rw [call, InPlace.run_sign_of_error h]
    exact congrArg (Prod.mk _) set_self
  · rw [call, InPlace.run_frame_of_error h]
    exact congrArg (Prod.mk _) set_self

/-- **What a call does**: it fails and changes nothing, or signs a chunk on its signer, or
clones a signer with its history. -/
theorem call_cases (clones : Clones) (call : Call) :
    (clones.call call).2 = clones ∨
      (∃ chunk signature next, (clones.signer call.target).sign chunk = .ok (signature, next) ∧
        (clones.call call).2 =
          clones.set call.target next (clones.history call.target ++ [chunk])) ∨
      ∃ i, (clones.call call).2 = clones.set call.target (clones.signer i) (clones.history i) := by
  cases call with
  | sign i chunk =>
    cases h : (clones.signer i).sign chunk with
    | error e => exact Or.inl (by rw [(call_of_sign_eq_error h).1])
    | ok signed =>
      exact Or.inr (Or.inl ⟨chunk, signed.1, signed.2, h, by rw [(call_of_sign_eq_ok h).1]; rfl⟩)
  | frame i chunk =>
    cases h : (clones.signer i).sign chunk with
    | error e => exact Or.inl (by rw [(call_of_sign_eq_error h).2])
    | ok signed =>
      exact Or.inr (Or.inl ⟨chunk, signed.1, signed.2, h, by rw [(call_of_sign_eq_ok h).2]; rfl⟩)
  | clone i j => exact Or.inr (Or.inr ⟨i, rfl⟩)

/-- **Calls on one signer never change another.** -/
theorem call_of_target_ne {call : Call} (h : call.target ≠ i) :
    (clones.call call).2.signer i = clones.signer i ∧
      (clones.call call).2.history i = clones.history i := by
  rcases call_cases clones call with heq | ⟨chunk, signature, next, -, heq⟩ | ⟨source, heq⟩
  · rw [heq]
    exact ⟨rfl, rfl⟩
  · rw [heq]
    exact ⟨signer_set_of_ne (Ne.symm h), history_set_of_ne (Ne.symm h)⟩
  · rw [heq]
    exact ⟨signer_set_of_ne (Ne.symm h), history_set_of_ne (Ne.symm h)⟩

/-! ### A sequence of calls -/

/-- **Whether all signers stem from the first one**: each is what the first one becomes when
the chunks of its history are signed on it alone. -/
def Stem (first : ChunkSigner) (clones : Clones) : Prop :=
  ∀ i, ∃ signatures, first.signAll (clones.history i) = .ok (signatures, clones.signer i)

theorem stem_start (first : ChunkSigner) : Stem first (start first) :=
  fun _ => ⟨[], rfl⟩

theorem Stem.set {signatures : List String} (h : Stem first clones)
    (hsigner : first.signAll history = .ok (signatures, signer)) (i : Nat) :
    Stem first (clones.set i signer history) := by
  intro j
  rcases eq_or_ne j i with rfl | hne
  · refine ⟨signatures, ?_⟩
    rw [signer_set_self, history_set_self]
    exact hsigner
  · obtain ⟨signatures, hj⟩ := h j
    refine ⟨signatures, ?_⟩
    rw [signer_set_of_ne hne, history_set_of_ne hne]
    exact hj

/-- One call keeps it so. -/
theorem Stem.call (h : Stem first clones) (call : Call) : Stem first (clones.call call).2 := by
  rcases call_cases clones call with heq | ⟨chunk, signature, next, hsign, heq⟩ | ⟨i, heq⟩
  · rw [heq]
    exact h
  · obtain ⟨signatures, htarget⟩ := h call.target
    rw [heq]
    exact h.set (signAll_concat htarget hsign) _
  · obtain ⟨signatures, hi⟩ := h i
    rw [heq]
    exact h.set hi _

/-- **Every sequence of calls** keeps it so. -/
theorem Stem.calls (h : Stem first clones) (calls : List Call) :
    Stem first (clones.calls calls) := by
  induction calls generalizing clones with
  | nil => exact h
  | cons call calls ih => exact ih (h.call call)

/-! ### What a signer is and answers -/

/-- **What is always true** of signers that stem from one. -/
structure Consistent (first : ChunkSigner) (clones : Clones) : Prop where
  /-- Each signature on a history is that of its chunk and the signature before it, and a
  signer differs from the first one in the last signature, and in being finished once the
  empty chunk is on its history. -/
  chain : ∀ i, ∃ signatures,
    (first.scope.chunkTexts first.previous signatures (clones.history i)).map first.key.sign =
        signatures.map .ok ∧
      clones.signer i = { first with
        previous := signatures.getLastD first.previous
        finished := decide ([] ∈ clones.history i) }
  /-- Signers with the same history are the same. -/
  alike : ∀ i j, clones.history i = clones.history j → clones.signer i = clones.signer j
  /-- A signer with the empty chunk on its history signs nothing any more. -/
  finished : ∀ i chunk, [] ∈ clones.history i →
    clones.call (.sign i chunk) = (.failed .chainFinished, clones) ∧
      clones.call (.frame i chunk) = (.failed .chainFinished, clones)
  /-- Every other signer signs the next chunk together with the signature before it, and
  keeps the new signature. -/
  signed : ∀ i chunk, [] ∉ clones.history i → ∃ signature next,
    first.key.sign (first.scope.chunkStringToSign (clones.signer i).previous chunk) =
        .ok signature ∧
      next.signer i = { clones.signer i with
        previous := signature, finished := chunk.isEmpty } ∧
      next.history i = clones.history i ++ [chunk] ∧
      clones.call (.sign i chunk) = (.signature signature, next) ∧
      clones.call (.frame i chunk) = (.frame (Frame.octets ⟨signature, chunk⟩), next)
  /-- A clone is what it is a clone of, and has its history. -/
  cloned : ∀ i j, (clones.call (.clone i j)).2.signer j = clones.signer i ∧
    (clones.call (.clone i j)).2.history j = clones.history i
  /-- A call changes one signer at most. -/
  others : ∀ i call, call.target ≠ i →
    (clones.call call).2.signer i = clones.signer i ∧
      (clones.call call).2.history i = clones.history i

theorem Stem.chain (h : Stem first clones) (hfinished : first.finished = false) (i : Nat) :
    ∃ signatures,
      (first.scope.chunkTexts first.previous signatures (clones.history i)).map first.key.sign =
          signatures.map .ok ∧
        clones.signer i = { first with
          previous := signatures.getLastD first.previous
          finished := decide ([] ∈ clones.history i) } := by
  obtain ⟨signatures, hi⟩ := h i
  obtain ⟨htexts, hsigner⟩ := of_signAll hi
  rw [hfinished, Bool.false_or] at hsigner
  exact ⟨signatures, htexts, hsigner⟩

/-- **Signers that stem from one** whose key never fails are consistent. -/
theorem Stem.consistent (h : Stem first clones) (hfinished : first.finished = false)
    (hkey : first.key.IsTotal) : Consistent first clones := by
  refine ⟨h.chain hfinished, fun i j hij => ?_, fun i chunk hempty => ?_, fun i chunk hempty => ?_,
    fun i j => ⟨signer_set_self, history_set_self⟩, fun i call => call_of_target_ne⟩
  · obtain ⟨signatures, hi⟩ := h i
    obtain ⟨signatures', hj⟩ := h j
    rw [hij, hj] at hi
    exact (Prod.mk.inj (Except.ok.inj hi)).2.symm
  · obtain ⟨signatures, -, hsigner⟩ := h.chain hfinished i
    have hdone : (clones.signer i).finished = true := by
      rw [hsigner]
      exact decide_eq_true hempty
    exact call_of_sign_eq_error (sign_of_finished hdone chunk)
  · obtain ⟨signatures, -, hsigner⟩ := h.chain hfinished i
    have hscope : (clones.signer i).scope = first.scope := by rw [hsigner]
    have hkeys : (clones.signer i).key = first.key := by rw [hsigner]
    have hgoes : (clones.signer i).finished = false := by
      rw [hsigner]
      exact decide_eq_false hempty
    obtain ⟨signature, hsignature⟩ :=
      hkey (first.scope.chunkStringToSign (clones.signer i).previous chunk)
    obtain ⟨hcall, hframe⟩ := call_of_sign_eq_ok
      (sign_eq_ok_iff.mpr ⟨hgoes, by rw [hscope, hkeys]; exact hsignature, rfl⟩)
    exact ⟨signature, _, hsignature, signer_set_self, history_set_self, hcall, hframe⟩

end Clones

end ChunkSigner

/-! ### Chunks of a signed request -/

namespace RequestSigner

open ChunkSigner

variable {signer : RequestSigner} {now : Instant} {request : Request} {identity : Identity}
  {mode : Mode} {s : Signed} {first : ChunkSigner}

/-- **The signer of the chunks** of a request begins with the signature of the request, in its
scope and with its key. -/
theorem chunkSigner_of_sign (h : signer.sign now request identity mode = .ok s)
    (hchunks : s.chunkSigner = some first) :
    ∃ scope key chunkSize, Scope.make now signer.region signer.service = .ok scope ∧
      SigningKey.resolve identity scope = .ok key ∧ Error.leastChunkSize ≤ chunkSize ∧
      first = ChunkSigner.start scope key s.signature chunkSize := by
  obtain ⟨plan, announced, hplan, -, -, -, -, hsigner⟩ := sign_eq_ok_iff.mp h
  obtain ⟨hscope, -, hresolve, hkey⟩ := plan_eq_ok_iff.mp hplan
  obtain ⟨length, chunkSize, hpayload, hfirst⟩ := of_chunkSigner? (hsigner.symm.trans hchunks)
  rw [hpayload] at hresolve
  obtain ⟨-, -, hsize⟩ := Payload.of_resolve_chunked hresolve
  exact ⟨plan.scope, plan.key, chunkSize, hscope, hkey, hsize, hfirst⟩

/-- **Chunks are signed in a chain**, from the signature of the request on, on the signer that
comes with it and on all its clones, whatever is called on them and in which order. -/
theorem consistent_calls (h : signer.sign now request identity mode = .ok s)
    (hchunks : s.chunkSigner = some first) (hkey : first.key.IsTotal) (calls : List Call) :
    first.previous = s.signature ∧ first.finished = false ∧ 8192 ≤ first.chunkSize ∧
      Error.kind .chainFinished = .unexpected ∧
      Clones.Consistent first ((Clones.start first).calls calls) := by
  obtain ⟨scope, key, chunkSize, -, -, hsize, rfl⟩ := chunkSigner_of_sign h hchunks
  exact ⟨rfl, rfl, hsize, rfl, ((Clones.stem_start _).calls calls).consistent rfl hkey⟩

/-- A chunk, a clone of the signer, another chunk on each of the two, the empty one on the
clone, and one too many. -/
theorem consistent_sampleUpload :
    ∃ s first, sampleChunked.sign .epoch sampleUpload sampleIdentity .fields = .ok s ∧
      s.chunkSigner = some first ∧ first.key.IsTotal ∧ first.previous = s.signature ∧
      Clones.Consistent first ((Clones.start first).calls [.sign 0 [0x61], .clone 0 1,
        .frame 1 [0x62], .sign 0 [0x63], .frame 1 [], .sign 1 [0x64]]) := by
  obtain ⟨s, first, hs, hfirst⟩ := exists_sign_sampleUpload
  obtain ⟨scope, key, chunkSize, hscope, hresolve, -, heq⟩ := chunkSigner_of_sign hs hfirst
  have hkey : first.key.IsTotal := by
    have hregion : scope.region.isSet = false := by
      rw [Scope.region_of_make hscope]
      rfl
    rw [heq]
    exact SigningKey.isTotal_of_resolve hresolve hregion
  obtain ⟨hprevious, -, -, -, hconsistent⟩ := consistent_calls hs hfirst hkey
    [.sign 0 [0x61], .clone 0 1, .frame 1 [0x62], .sign 0 [0x63], .frame 1 [], .sign 1 [0x64]]
  exact ⟨s, first, hs, hfirst, hkey, hprevious, hconsistent⟩

end RequestSigner

end SigV4
