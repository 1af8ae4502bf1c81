import SigV4.Proofs.Signer.Written
import SigV4.Proofs.Upload.Chain

/-!
# With which kind of error a step fails

Whoever signs a request and fails acts on the kind of the error, and the kind tells which of the
steps it was, or nearly so. Steps in a row fail with the kind of the first that fails
(`SigV4.Outcome.kind?_bind`), so it is enough to know of each step when it fails.

The steps before a request is touched look at four different things, and each has its own
condition: scope, lifetime, body and key. From then on there is one kind only. Everything that
can be wrong with a request shows when it is written as text or read as text, and is the
fault of the request (`SigV4.Outcome.FailsAs`). An exception would be a key that has no signature
for a text, which is as good as impossible and has to be excluded.
-/

namespace SigV4

namespace Outcome

variable {α β : Type} {x : Except Error α} {f : α → Except Error β} {kind : ErrorKind}

/-! ### Kinds -/

/-- **The kind of error** with which a computation fails, if it does. -/
def kind? : Except Error α → Option ErrorKind
  | .ok _ => none
  | .error e => some e.kind

theorem kind?_eq_none_iff : kind? x = none ↔ ∃ a, x = .ok a := by
  cases x with
  | ok a => exact iff_of_true rfl ⟨a, rfl⟩
  | error e => simp [kind?]

/-- **Steps in a row** fail with the kind of the first that fails. -/
theorem kind?_bind {first rest : Option ErrorKind} (hx : kind? x = first)
    (hf : ∀ a, x = .ok a → kind? (f a) = rest) : kind? (x >>= f) = first.or rest := by
  cases x with
  | ok a =>
    obtain rfl : none = first := hx
    exact hf a rfl
  | error e =>
    obtain rfl : some e.kind = first := hx
    rfl

/-- What a check says comes before what the steps behind it say. -/
theorem ite_some_or {P : Prop} [Decidable P] {otherwise rest : Option ErrorKind} :
    (if P then some kind else otherwise).or rest = if P then some kind else otherwise.or rest := by
  split <;> rfl

/-- **A step that checks one thing** fails if that is not as it should be, and leaves the rest to
the steps behind it. -/
theorem kind?_check_bind {P : Prop} [Decidable P] {rest : Option ErrorKind}
    (hx : kind? x = if P then some kind else none) (hf : ∀ a, x = .ok a → kind? (f a) = rest) :
    kind? (x >>= f) = if P then some kind else rest := by
  rw [kind?_bind hx hf, ite_some_or, Option.none_or]

/-- A step that never fails makes no difference. -/
theorem kind?_bind_of_ok (hf : ∀ a, ∃ b, f a = .ok b) : kind? (x >>= f) = kind? x := by
  cases x with
  | ok a =>
    obtain ⟨b, hb⟩ := hf a
    change kind? (f a) = none
    rw [hb]
    rfl
  | error e => rfl

theorem kind?_map (f : α → β) : kind? (x.map f) = kind? x := by
  cases x <;> rfl

/-! ### Computations that fail with one kind only -/

/-- **Whether a computation fails as** one kind of error, if it fails. -/
def FailsAs (kind : ErrorKind) (x : Except Error α) : Prop :=
  ∀ e, x = .error e → e.kind = kind

theorem failsAs_ok (a : α) : FailsAs kind (.ok a) := nofun

theorem FailsAs.bind (hx : FailsAs kind x) (hf : ∀ a, FailsAs kind (f a)) :
    FailsAs kind (x >>= f) := by
  intro e h
  cases x with
  | ok a => exact hf a e h
  | error e' =>
    obtain rfl := Except.error.inj h
    exact hx e' rfl

/-- It fails with that kind unless it succeeds. -/
theorem FailsAs.kind?_eq (h : FailsAs kind x) {P : Prop} [Decidable P]
    (hP : (∃ a, x = .ok a) ↔ ¬P) : kind? x = if P then some kind else none := by
  cases x with
  | ok a =>
    rw [if_neg (hP.mp ⟨a, rfl⟩)]
    rfl
  | error e =>
    have hp : P := by
      by_contra hp
      obtain ⟨a, ha⟩ := hP.mpr hp
      cases ha
    rw [if_pos hp, kind?, h e rfl]

end Outcome

open Outcome

/-! ### Before the request is touched -/

/-- **A scope** needs a service and a region. -/
theorem Scope.kind?_make (now : Instant) (region : Region) (service : String) :
    kind? (make now region service) =
      if service = "" ∨ region.text = "" then some .invalidRegionOrService else none := by
  rw [make]
  split
  · next hservice =>
    split
    · next hregion => rw [if_neg (not_or.mpr ⟨hservice, hregion⟩)]; rfl
    · next hregion =>
      rw [if_pos (Or.inr (not_not.mp hregion)), kind?]
      split <;> rfl
  · next hservice => rw [if_pos (Or.inl (not_not.mp hservice))]; rfl

namespace Mode

/-- **The lifetime of a link in whole seconds**, whatever it is. -/
def wholeSeconds (mode : Mode) (now : Instant) : Option Int :=
  match mode with
  | .fields => none
  | .query d => some d.seconds.toNat
  | .queryUntil stop => some (stop.secondsSince now)

/-- The signed number as which a word is read. -/
theorem toInt_toInt64 (n : UInt64) : n.toInt64.toInt =
    if 2 * n.toNat < 2 ^ 64 then (n.toNat : Int) else n.toNat - (2 ^ 64 : Nat) :=
  BitVec.toInt_eq_toNat_cond n.toBitVec

/-- Reading a word as a signed number changes nothing where it matters. -/
theorem toInt64_between_iff (n : UInt64) :
    (1 ≤ n.toInt64.toInt ∧ n.toInt64.toInt ≤ 604800) ↔
      1 ≤ (n.toNat : Int) ∧ (n.toNat : Int) ≤ 604800 := by
  have hlt := n.toNat_lt
  rw [toInt_toInt64]
  split <;> omega

/-- What is checked may be counted in another way, as long as the check does not notice. -/
theorem kind?_checkLifetime {seconds counted : Int}
    (h : (1 ≤ counted ∧ counted ≤ 604800) ↔ 1 ≤ seconds ∧ seconds ≤ 604800) :
    kind? (checkLifetime counted) =
      if seconds < 1 ∨ 604800 < seconds then some .unsupportedConfiguration else none := by
  rw [checkLifetime, Error.longestLifetime]
  split
  · next hin =>
    have hrange := h.mp (by exact_mod_cast hin)
    rw [if_neg (by omega)]
    rfl
  · next hout =>
    have hrange : ¬(1 ≤ seconds ∧ seconds ≤ 604800) := fun hin =>
      hout (by exact_mod_cast h.mpr hin)
    rw [if_pos (by omega)]
    rfl

/-- **A link** needs a lifetime of at least a second and at most a week. -/
theorem kind?_lifetime (mode : Mode) (now : Instant) :
    kind? (mode.lifetime now) =
      if ∃ seconds ∈ mode.wholeSeconds now, seconds < 1 ∨ 604800 < seconds then
        some .unsupportedConfiguration else none := by
  cases mode with
  | fields => simp [lifetime, wholeSeconds, kind?]
  | query d =>
    rw [lifetime, kind?_map, kind?_checkLifetime (toInt64_between_iff d.seconds)]
    simp [wholeSeconds]
  | queryUntil stop =>
    rw [lifetime, kind?_map, kind?_checkLifetime Iff.rfl]
    simp [wholeSeconds]

end Mode

/-- Whether a body arrives piece by piece. -/
def Body.isStream : Body → Bool
  | .streaming _ => true
  | _ => false

namespace Payload

variable {config : Config} {mode : Mode} {request : Request}

/-- **Whether a body cannot be signed** as it is to be: it arrives piece by piece, and it is to be
signed without chunks, or with chunks in a link, or in chunks that are too small. A link of the
storage service is out of the question, as it does not cover a body. -/
def Refused (config : Config) (request : Request) (mode : Mode) : Prop :=
  request.body.isStream = true ∧ ¬(config.s3 = true ∧ mode.isQuery = true) ∧
    (config.chunked = false ∧ config.signPayload = some true ∨
      config.chunked = true ∧ mode.isQuery = true ∨
      config.chunked = true ∧ isSigned config request.scheme = true ∧ config.chunkSize < 8192)

instance (config : Config) (request : Request) (mode : Mode) :
    Decidable (Refused config request mode) :=
  inferInstanceAs (Decidable (_ ∧ _ ∧ _))

theorem kind?_ofStream (config : Config) (scheme : Http.Scheme) (mode : Mode)
    (length : Option Nat) :
    kind? (ofStream config scheme mode length) =
      if config.chunked = false ∧ config.signPayload = some true ∨
        config.chunked = true ∧ mode.isQuery = true ∨
        config.chunked = true ∧ isSigned config scheme = true ∧ config.chunkSize < 8192 then
        some .unsupportedConfiguration else none := by
  rw [ofStream, Error.leastChunkSize]
  cases hchunked : config.chunked with
  | false =>
    by_cases hwhole : config.signPayload = some true
    · simp [hwhole, kind?, Error.kind]
    · simp [hwhole, kind?]
  | true =>
    cases hquery : mode.isQuery with
    | true => simp [kind?, Error.kind]
    | false =>
      cases hsigned : isSigned config scheme with
      | false => simp [kind?]
      | true =>
        by_cases hsize : config.chunkSize < 8192
        · simp [hsize, kind?, Error.kind]
        · simp [hsize, kind?]

/-- **A body that does not arrive piece by piece** is never refused. -/
theorem exists_resolve (h : request.body.isStream = false) :
    ∃ payload, resolve config request mode = .ok payload := by
  unfold resolve
  split
  · exact ⟨_, rfl⟩
  split
  · exact ⟨_, rfl⟩
  split
  · next hbody =>
    rw [hbody] at h
    cases h
  · split
    · exact ⟨_, rfl⟩
    · split <;> exact ⟨_, rfl⟩

/-- **What is to be signed of a body** can be told unless the body is refused. -/
theorem kind?_resolve (config : Config) (request : Request) (mode : Mode) :
    kind? (resolve config request mode) =
      if Refused config request mode then some .unsupportedConfiguration else none := by
  cases hbody : request.body with
  | streaming length =>
    have hstream : request.body.isStream = true := by rw [hbody]; rfl
    rw [resolve, hbody]
    by_cases hlink : config.s3 = true ∧ mode.isQuery = true
    · simp [Refused, hlink, kind?]
    · have hoff : ¬(config.s3 && mode.isQuery) = true := by rwa [Bool.and_eq_true]
      dsimp only
      rw [if_neg hoff, kind?_ofStream]
      simp only [Refused, hstream, hlink, not_false_iff, true_and]
  | _ =>
    have hstream : request.body.isStream = false := by rw [hbody]; rfl
    rw [kind?_eq_none_iff.mpr (exists_resolve hstream), if_neg]
    rintro ⟨h, -⟩
    rw [hstream] at h
    cases h

end Payload

/-- Whether an identity signs with a private key. -/
def Identity.isAsymmetric : Identity → Bool
  | .symmetric _ => false
  | .asymmetric _ => true

theorem Credential.kind?_check (c : Credential) :
    kind? c.check =
      if (Identity.symmetric c).isComplete = false then some .invalidCredentials else none := by
  rw [check, Identity.isComplete]
  by_cases hid : c.accessKeyId = ""
  · simp [hid, kind?, Error.kind]
  · by_cases hsecret : c.secretAccessKey = ""
    · simp [hid, hsecret, kind?, Error.kind]
    · simp [hid, hsecret, kind?]

theorem AsymmetricCredential.kind?_check (c : AsymmetricCredential) :
    kind? c.check =
      if (Identity.asymmetric c).isComplete = false then some .invalidCredentials else none := by
  rw [check, Identity.isComplete]
  by_cases hid : c.accessKeyId = ""
  · simp [hid, kind?, Error.kind]
  · simp [hid, kind?]

/-- **A key** needs an identity that goes with the region and is complete. That there is a private
key in a secret is taken for granted. -/
theorem SigningKey.kind?_resolve {identity : Identity} {scope : Scope}
    (hderived : scope.region.isSet = true → ∀ c, identity = .symmetric c →
      ∃ key, Key.asymmetric? c.accessKeyId c.secretAccessKey = some key) :
    kind? (resolve identity scope) =
      if identity.isAsymmetric = true ∧ scope.region.isSet = false then
        some .unsupportedConfiguration
      else if identity.isComplete = false then some .invalidCredentials else none := by
  unfold resolve
  cases identity with
  | symmetric c =>
    rw [if_neg (fun h => nomatch h.1)]
    cases hregion : scope.region with
    | single name => exact (kind?_bind_of_ok fun _ => ⟨_, rfl⟩).trans c.kind?_check
    | set names =>
      obtain ⟨key, hkey⟩ := hderived (by rw [hregion]; rfl) c rfl
      exact (kind?_bind_of_ok fun _ => ⟨_, by rw [hkey]; rfl⟩).trans c.kind?_check
  | asymmetric c =>
    cases hregion : scope.region with
    | single name => rfl
    | set names =>
      rw [if_neg (fun h => nomatch h.2)]
      exact (kind?_bind_of_ok fun _ => ⟨_, rfl⟩).trans c.kind?_check

/-! ### The request -/

namespace Announcement

variable {request : Request} {scope : Scope}

theorem failsAs_setField (request : Request) (name : Http.FieldName) (text : String)
    (sensitive : Bool) : FailsAs .invalidRequest (setField request name text sensitive) := by
  intro e h
  unfold setField at h
  split at h
  · cases h
  · obtain rfl := Except.error.inj h
    rfl

theorem failsAs_setOptional (request : Request) (name : Http.FieldName) (text : Option String)
    (sensitive : Bool) : FailsAs .invalidRequest (setOptional request name text sensitive) := by
  cases text with
  | none => exact failsAs_ok request
  | some text => exact failsAs_setField request name text sensitive

theorem failsAs_withHost (request : Request) : FailsAs .invalidRequest (withHost request) := by
  rw [withHost]
  split
  · exact failsAs_ok request
  · exact failsAs_setField _ _ _ _

theorem failsAs_codings (first : Option Http.FieldValue) :
    FailsAs .invalidRequest (codings first) := by
  intro e h
  unfold codings at h
  split at h
  · cases h
  · split at h
    · obtain rfl := Except.error.inj h
      rfl
    · split at h <;> cases h

theorem failsAs_withLengths (request : Request) (scope : Scope) (chunkSize : Nat)
    (length : Option Nat) :
    FailsAs .invalidRequest (withLengths request scope chunkSize length) := by
  cases length with
  | none => exact failsAs_ok request
  | some length => exact (failsAs_setField _ _ _ _).bind fun _ => failsAs_setField _ _ _ _

theorem failsAs_withChunks (request : Request) (scope : Scope) (payload : Payload) :
    FailsAs .invalidRequest (withChunks request scope payload) := by
  cases payload with
  | hashed digest => exact failsAs_ok request
  | unsigned => exact failsAs_ok request
  | chunked length chunkSize =>
    exact (failsAs_codings _).bind fun _ => (failsAs_setField _ _ _ _).bind fun _ =>
      failsAs_withLengths _ _ _ _

/-- **An announcement** that fails is the fault of the request. -/
theorem failsAs_inFields (request : Request) (config : Config) (scope : Scope)
    (identity : Identity) (payload : Payload) :
    FailsAs .invalidRequest (inFields request config scope identity payload) :=
  (failsAs_setField _ _ _ _).bind fun _ => (failsAs_setOptional _ _ _ _).bind fun _ =>
    (failsAs_setOptional _ _ _ _).bind fun _ => (failsAs_withChunks _ _ _).bind fun _ =>
      failsAs_setOptional _ _ _ _

end Announcement

/-- **A canonical form** that does not exist is the fault of the request. -/
theorem CanonicalRequest.failsAs_ofRequest (request : Request) (config : Config)
    (payloadHash : String) :
    FailsAs .invalidRequest (ofRequest request config payloadHash) := by
  have hlines : FailsAs .invalidRequest (CanonicalFields.lines request.fields) := by
    intro e h
    rw [CanonicalFields.eq_of_lines_eq_error h]
    rfl
  exact hlines.bind fun _ => failsAs_ok _

namespace RequestSigner

variable {signer : RequestSigner} {identity : Identity}

theorem failsAs_announce (signer : RequestSigner) (plan : Plan) (request : Request)
    (identity : Identity) : FailsAs .invalidRequest (signer.announce plan request identity) := by
  refine (Announcement.failsAs_withHost request).bind fun hosted => ?_
  split
  · exact Announcement.failsAs_inFields _ _ _ _ _
  · exact failsAs_ok _

theorem failsAs_attach (plan : Plan) (request : Request) (identity : Identity)
    (canonical : CanonicalRequest) (signature : String) :
    FailsAs .invalidRequest (attach plan request identity canonical signature) := by
  rw [attach]
  split
  · exact Announcement.failsAs_setField _ _ _ _
  · exact failsAs_ok _

end RequestSigner

end SigV4
