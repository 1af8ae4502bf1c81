import SigV4.Proofs.Signer.Checks
import SigV4.Proofs.Signer.Link
import SigV4.Proofs.Time.Timestamp

/-!
# How long a link lives

A link lives for a second at least and for a week at most, and says for how long. Whether its
lifetime is accepted is a question of whole seconds, and depends on nothing else that is signed
(`SigV4.RequestSigner.exists_lifetime_error_iff`). There are two ways to give the lifetime.

* As a duration. Its seconds are a word of 64 bits, which the check reads as a signed number. The
  words that are read as negative numbers are far above a week, so nothing goes wrong
  (`SigV4.Mode.toInt64_eq_of_between`).
* As the instant of its end. The link then says the difference to the time of the signature,
  with the fraction of a second dropped, and it says the time of the signature with its fraction
  dropped as well. Each of the two makes the link end early rather than late, so it never
  outlives the instant, and it ends less than two seconds before it
  (`SigV4.Instant.elapsed_bounds`).

Both together are `SigV4.RequestSigner.lifetime_of_link`.
-/

namespace SigV4

open Outcome

/-! ### Instants on one line -/

theorem nanosPerSecond_pos : 0 < nanosPerSecond := by
  decide

namespace Instant

/-- **The nanoseconds since the beginning of 1970**, in days without leap seconds. -/
def elapsed (t : Instant) : Int := t.seconds * nanosPerSecond + t.nanos

variable {t u stop : Instant}

/-- Without leap seconds, the difference of two instants is that of their nanoseconds. -/
theorem nanosSince_eq (ht : ¬t.IsLeap) (hu : ¬u.IsLeap) :
    t.nanosSince u = t.elapsed - u.elapsed := by
  have hleap : leapBetween t u = 0 := by
    rw [leapBetween, if_neg fun h => hu h.2, if_neg fun h => ht h.2]
  rw [nanosSince, hleap]
  unfold elapsed nanosPerSecond
  omega

theorem elapsed_truncate (ht : ¬t.IsLeap) : t.truncate.elapsed = t.elapsed - t.nanos := by
  unfold IsLeap nanosPerSecond at ht
  simp only [elapsed, truncate, nanosPerSecond]
  omega

/-- **Both fractions that are dropped shorten the time**: the second in which an instant is, and
the whole seconds from there to a later instant, end before that instant, but not by two
seconds. -/
theorem elapsed_bounds (ht : ¬t.IsLeap) (hstop : ¬stop.IsLeap) {seconds : Int}
    (hpos : 1 ≤ seconds) (hwhole : stop.secondsSince t = seconds) :
    t.truncate.elapsed + seconds * nanosPerSecond ≤ stop.elapsed ∧
      stop.elapsed < t.truncate.elapsed + (seconds + 2) * nanosPerSecond := by
  rw [secondsSince, nanosSince_eq hstop ht] at hwhole
  rw [elapsed_truncate ht]
  -- A difference that is negative is no whole second.
  have hnonneg : 0 ≤ stop.elapsed - t.elapsed := by
    by_contra hneg
    have hquotient := Int.tdiv_nonneg (a := -(stop.elapsed - t.elapsed)) (b := nanosPerSecond)
      (by omega) (Int.natCast_nonneg _)
    rw [Int.neg_tdiv, hwhole] at hquotient
    omega
  rw [Int.tdiv_eq_ediv_of_nonneg hnonneg] at hwhole
  unfold IsLeap at ht
  unfold nanosPerSecond at *
  omega

end Instant

/-! ### The check -/

namespace Mode

/-- What passes the check is the lifetime. -/
theorem checkLifetime_eq_ok_iff {seconds : Int} {lifetime : Nat} :
    checkLifetime seconds = .ok lifetime ↔
      (1 ≤ seconds ∧ seconds ≤ 604800) ∧ (lifetime : Int) = seconds := by
  rw [checkLifetime, Error.longestLifetime]
  split
  · next hin =>
    rw [Except.ok.injEq]
    omega
  · next hout =>
    refine iff_of_false (fun h => ?_) fun h => hout h.1
    cases h

/-- **The check fails** for less than a second, and for more than a week. -/
theorem checkLifetime_error_iff {seconds : Int} :
    (∃ refused, checkLifetime seconds = .error (.lifetime refused)) ↔
      ¬(1 ≤ seconds ∧ seconds ≤ 604800) := by
  rw [checkLifetime, Error.longestLifetime]
  split
  · next hin =>
    refine iff_of_false ?_ (not_not_intro hin)
    rintro ⟨_, h⟩
    cases h
  · next hout => exact iff_of_true ⟨_, rfl⟩ hout

/-- A word that passes the check is not read as a negative number. -/
theorem toInt64_eq_of_between {n : UInt64}
    (h : 1 ≤ n.toInt64.toInt ∧ n.toInt64.toInt ≤ 604800) : n.toInt64.toInt = n.toNat := by
  have hlt := n.toNat_lt
  rw [toInt_toInt64] at h ⊢
  split at h
  · next hsmall => rw [if_pos hsmall]
  · omega

/-- **The lifetime that is accepted** is a number of whole seconds, from one to a week. -/
theorem lifetime_eq_ok_iff {mode : Mode} {now : Instant} {lifetime : Nat} :
    mode.lifetime now = .ok (some lifetime) ↔
      1 ≤ lifetime ∧ lifetime ≤ 604800 ∧ mode.wholeSeconds now = some (lifetime : Int) := by
  cases mode with
  | fields => exact iff_of_false (fun h => nomatch h) fun h => nomatch h.2.2
  | query d =>
    rw [Mode.lifetime, map_eq_ok_iff, wholeSeconds]
    simp only [checkLifetime_eq_ok_iff, Option.some.injEq, exists_eq_right]
    constructor
    · rintro ⟨hbetween, heq⟩
      have hword := toInt64_eq_of_between hbetween
      rw [hword] at hbetween heq
      omega
    · rintro ⟨hone, hweek, heq⟩
      have hbetween := (toInt64_between_iff d.seconds).mpr (by omega)
      rw [toInt64_eq_of_between hbetween]
      omega
  | queryUntil stop =>
    rw [Mode.lifetime, map_eq_ok_iff, wholeSeconds]
    simp only [checkLifetime_eq_ok_iff, Option.some.injEq, exists_eq_right]
    omega

/-- **A lifetime is refused** if it is less than a second, or more than a week. -/
theorem exists_lifetime_error_iff {mode : Mode} {now : Instant} :
    (∃ refused, mode.lifetime now = .error (.lifetime refused)) ↔
      ∃ seconds ∈ mode.wholeSeconds now, ¬(1 ≤ seconds ∧ seconds ≤ 604800) := by
  have hmap : ∀ (x : Except Error Nat) (e : Error), x.map some = .error e ↔ x = .error e := by
    intro x e
    cases x <;> simp [Except.map]
  cases mode with
  | fields => exact iff_of_false (fun ⟨_, h⟩ => nomatch h) fun ⟨_, h, _⟩ => nomatch h
  | query d =>
    simp only [Mode.lifetime, wholeSeconds, hmap, checkLifetime_error_iff, toInt64_between_iff,
      Option.mem_def, Option.some.injEq, exists_eq_left']
  | queryUntil stop =>
    simp only [Mode.lifetime, wholeSeconds, hmap, checkLifetime_error_iff, Option.mem_def,
      Option.some.injEq, exists_eq_left']

end Mode

/-! ### Nothing else fails over a lifetime -/

namespace Outcome

variable {α β : Type} {x : Except Error α} {f : α → Except Error β}

/-- Whether a computation fails over other things only than the lifetime of a link. -/
def SparesLifetime (x : Except Error α) : Prop :=
  ∀ refused, x ≠ .error (.lifetime refused)

theorem sparesLifetime_ok (a : α) : SparesLifetime (.ok a) := nofun

theorem SparesLifetime.bind (hx : SparesLifetime x) (hf : ∀ a, SparesLifetime (f a)) :
    SparesLifetime (x >>= f) := by
  cases x with
  | ok a => exact hf a
  | error e =>
    intro refused h
    exact hx refused (congrArg _ (Except.error.inj h))

/-- What follows a step makes no difference if it spares the lifetime. -/
theorem bind_eq_lifetime_iff (hf : ∀ a, SparesLifetime (f a)) {refused : Int} :
    x >>= f = .error (.lifetime refused) ↔ x = .error (.lifetime refused) := by
  cases x with
  | ok a => exact iff_of_false (hf a refused) nofun
  | error e =>
    change Except.error e = _ ↔ _
    rw [Except.error.injEq, Except.error.injEq]

/-- A lifetime that is refused is a matter of the configuration. -/
theorem FailsAs.sparesLifetime {kind : ErrorKind} (h : FailsAs kind x)
    (hkind : kind ≠ .unsupportedConfiguration) : SparesLifetime x :=
  fun _ herror => hkind (h _ herror).symm

end Outcome

theorem Scope.sparesLifetime_make (now : Instant) (region : Region) (service : String) :
    SparesLifetime (make now region service) := by
  intro refused h
  have hkind := kind?_make now region service
  rw [h] at hkind
  split at hkind <;> cases hkind

theorem Payload.sparesLifetime_resolve (config : Config) (request : Request) (mode : Mode) :
    SparesLifetime (resolve config request mode) := by
  intro refused h
  unfold resolve at h
  split at h
  · cases h
  split at h
  · cases h
  split at h
  · unfold ofStream at h
    repeat' split at h
    all_goals cases h
  · repeat' split at h
    all_goals cases h

theorem Credential.sparesLifetime_check (c : Credential) : SparesLifetime c.check := by
  intro refused h
  unfold check at h
  repeat' split at h
  all_goals cases h

theorem AsymmetricCredential.sparesLifetime_check (c : AsymmetricCredential) :
    SparesLifetime c.check := by
  intro refused h
  unfold check at h
  split at h <;> cases h

theorem SigningKey.sparesLifetime_resolve (identity : Identity) (scope : Scope) :
    SparesLifetime (resolve identity scope) := by
  unfold resolve
  split
  · exact (Credential.sparesLifetime_check _).bind fun _ => sparesLifetime_ok _
  · refine (Credential.sparesLifetime_check _).bind fun _ => ?_
    split <;> exact nofun
  · exact (AsymmetricCredential.sparesLifetime_check _).bind fun _ => sparesLifetime_ok _
  · exact nofun

theorem SigningKey.sparesLifetime_sign (key : SigningKey) (text : String) :
    SparesLifetime (key.sign text) := by
  intro refused h
  rcases key.sign_cases text with ⟨octets, hsign, -⟩ | ⟨-, herror⟩
  · rw [hsign] at h
    cases h
  · rw [herror] at h
    cases h

namespace RequestSigner

variable {signer : RequestSigner} {now stop : Instant} {request : Request} {identity : Identity}
  {mode : Mode} {s : Signed}

/-! ### Links -/

theorem sparesLifetime_conclude (config : Config) (plan : Plan) (announced : Request)
    (identity : Identity) : SparesLifetime (conclude config plan announced identity) := by
  refine SparesLifetime.bind ?_ fun canonical => SparesLifetime.bind ?_ fun signature =>
    SparesLifetime.bind ?_ fun signed => sparesLifetime_ok _
  · exact (CanonicalRequest.failsAs_ofRequest _ _ _).sparesLifetime (by decide)
  · exact plan.key.sparesLifetime_sign _
  · exact (failsAs_attach _ _ _ _ _).sparesLifetime (by decide)

/-- **Planning fails over the lifetime** of a link if there is a scope and the lifetime is
refused. -/
theorem plan_eq_lifetime_iff {refused : Int} :
    signer.plan now request identity mode = .error (.lifetime refused) ↔
      (∃ scope, Scope.make now signer.region signer.service = .ok scope) ∧
        mode.lifetime now = .error (.lifetime refused) := by
  have hrest : ∀ scope lifetime, SparesLifetime (do
      let payload ← Payload.resolve signer.config request mode
      let key ← SigningKey.resolve identity scope
      return ({ scope, lifetime, payload, key } : Plan)) := by
    intro scope lifetime
    refine (Payload.sparesLifetime_resolve _ _ _).bind fun payload => ?_
    exact (SigningKey.sparesLifetime_resolve _ _).bind fun key => sparesLifetime_ok _
  rw [RequestSigner.plan]
  cases hscope : Scope.make now signer.region signer.service with
  | error e =>
    constructor
    · intro h
      obtain rfl := Except.error.inj h
      exact absurd hscope (Scope.sparesLifetime_make _ _ _ refused)
    · rintro ⟨⟨_, h⟩, -⟩
      cases h
  | ok scope =>
    change (mode.lifetime now >>= _) = _ ↔ _
    rw [bind_eq_lifetime_iff (hrest scope)]
    exact (and_iff_right ⟨scope, rfl⟩).symm

/-- **Signing fails over the lifetime** of a link if service and region are named and the lifetime
is refused, and in no other case. -/
theorem exists_lifetime_error_iff (signer : RequestSigner) (now : Instant) (request : Request)
    (identity : Identity) (mode : Mode) :
    (∃ refused, signer.sign now request identity mode = .error (.lifetime refused)) ↔
      (signer.service ≠ "" ∧ signer.region.text ≠ "") ∧
        ∃ seconds ∈ mode.wholeSeconds now, ¬(1 ≤ seconds ∧ seconds ≤ 604800) := by
  have hscope : (∃ scope, Scope.make now signer.region signer.service = .ok scope) ↔
      signer.service ≠ "" ∧ signer.region.text ≠ "" := by
    rw [← kind?_eq_none_iff, Scope.kind?_make]
    simp
  have hplan : ∀ refused, signer.sign now request identity mode = .error (.lifetime refused) ↔
      signer.plan now request identity mode = .error (.lifetime refused) := by
    intro refused
    rw [sign_eq_conclude]
    refine bind_eq_lifetime_iff fun plan => ?_
    exact ((failsAs_announce _ _ _ _).sparesLifetime (by decide)).bind fun announced =>
      sparesLifetime_conclude _ _ _ _
  simp only [hplan, plan_eq_lifetime_iff, exists_and_left, hscope, Mode.exists_lifetime_error_iff]

/-- **What a link says about its life**: the time of the signature, and its lifetime in whole
seconds. -/
theorem valuesOf_lifetime (h : signer.sign now request identity mode = .ok s)
    (hmode : mode.isQuery = true) :
    ∃ lifetime : Nat, 1 ≤ lifetime ∧ lifetime ≤ 604800 ∧
      mode.wholeSeconds now = some (lifetime : Int) ∧
      Param.valuesOf s.request.query Vocabulary.expiresParam =
        Param.valuesOf request.query Vocabulary.expiresParam ++ [toString lifetime] ∧
      Param.valuesOf s.request.query Vocabulary.dateParam =
        Param.valuesOf request.query Vocabulary.dateParam ++ [now.timestamp] := by
  obtain ⟨scope, lifetime, hscope, hlifetime, hvalues⟩ := exists_valuesOf h hmode
  obtain ⟨hone, hweek, hwhole⟩ := Mode.lifetime_eq_ok_iff.mp hlifetime
  have hexpires := hvalues (Vocabulary.expiresParam, some (toString lifetime))
    (by simp [Terms.withSignature, Terms.entries, Terms.make])
  have hdate := hvalues (Vocabulary.dateParam, some scope.timestamp)
    (by simp [Terms.withSignature, Terms.entries, Terms.make])
  rw [Scope.timestamp, Scope.time_of_make hscope] at hdate
  exact ⟨lifetime, hone, hweek, hwhole, hexpires, hdate⟩

/-- **How long a link lives.** A lifetime that is given as a duration is refused unless its seconds
are a number from one to a week, of all words of 64 bits, and is said by the link as it is. A
lifetime that ends with an instant is refused unless the difference to the time of the signature is
that many whole seconds, and they are what the link says; counted from the one instant that the
link names as the time of its signature, they do not end behind the instant, nor two seconds before
it. Only leap seconds are left out, since there is no counting with them. -/
theorem lifetime_of_link (signer : RequestSigner) (now : Instant) (request : Request)
    (identity : Identity) :
    (∀ d : Duration,
      ((∃ refused, signer.sign now request identity (.query d) = .error (.lifetime refused)) ↔
        (signer.service ≠ "" ∧ signer.region.text ≠ "") ∧
          ¬(1 ≤ d.seconds.toNat ∧ d.seconds.toNat ≤ 604800)) ∧
      ∀ s, signer.sign now request identity (.query d) = .ok s →
        Param.valuesOf s.request.query Vocabulary.expiresParam =
          Param.valuesOf request.query Vocabulary.expiresParam ++ [toString d.seconds.toNat]) ∧
    ∀ stop : Instant, ¬now.IsLeap → ¬stop.IsLeap →
      ((∃ refused, signer.sign now request identity (.queryUntil stop) =
          .error (.lifetime refused)) ↔
        (signer.service ≠ "" ∧ signer.region.text ≠ "") ∧
          ¬(1 ≤ (stop.elapsed - now.elapsed).tdiv nanosPerSecond ∧
            (stop.elapsed - now.elapsed).tdiv nanosPerSecond ≤ 604800)) ∧
      ∀ s, signer.sign now request identity (.queryUntil stop) = .ok s →
        ∃ (lifetime : Nat) (start : Instant),
          (lifetime : Int) = (stop.elapsed - now.elapsed).tdiv nanosPerSecond ∧
          Param.valuesOf s.request.query Vocabulary.expiresParam =
            Param.valuesOf request.query Vocabulary.expiresParam ++ [toString lifetime] ∧
          Param.valuesOf s.request.query Vocabulary.dateParam =
            Param.valuesOf request.query Vocabulary.dateParam ++ [now.timestamp] ∧
          (∀ t : Instant, t.IsNamedBy now.timestamp ↔ t = start) ∧
          start.elapsed + lifetime * nanosPerSecond ≤ stop.elapsed ∧
          stop.elapsed < start.elapsed + (lifetime + 2) * nanosPerSecond := by
  refine ⟨fun d => ⟨?_, fun s h => ?_⟩, fun stop hnow hstop => ⟨?_, fun s h => ?_⟩⟩
  · rw [exists_lifetime_error_iff]
    simp only [Mode.wholeSeconds, Option.mem_def, Option.some.injEq, exists_eq_left']
    norm_cast
  · obtain ⟨lifetime, -, -, hwhole, hexpires, -⟩ := valuesOf_lifetime h rfl
    obtain rfl : d.seconds.toNat = lifetime := Int.ofNat_inj.mp (Option.some.inj hwhole)
    exact hexpires
  · rw [exists_lifetime_error_iff, ← Instant.nanosSince_eq hstop hnow]
    simp only [Mode.wholeSeconds, Option.mem_def, Option.some.injEq, exists_eq_left']
    rfl
  · obtain ⟨lifetime, hone, -, hwhole, hexpires, hdate⟩ := valuesOf_lifetime h rfl
    have hseconds : stop.secondsSince now = lifetime := Option.some.inj hwhole
    have hshown := Instant.shown_of_isCivil (Instant.isCivil_of_not_isLeap hnow)
    refine ⟨lifetime, now.truncate, ?_, hexpires, hdate, fun t => ?_, ?_⟩
    · rw [← Instant.nanosSince_eq hstop hnow]
      exact hseconds.symm
    · rw [Instant.isNamedBy_iff, hshown]
    · exact Instant.elapsed_bounds hnow hstop (by exact_mod_cast hone) hseconds

/-- A while into the first second of 1970. -/
def sampleDawn : Instant where
  __ := Instant.epoch
  nanos := 700000000
  nanos_lt := by decide

/-- Too long by far. -/
def sampleAges : Duration := ⟨0x8000000000000000, 0, nanosPerSecond_pos⟩

/-- Almost a minute later. -/
def sampleStop : Instant := ⟨60, 500000000, by decide, by decide, by decide⟩

/-- A duration that is read as a negative number is refused. And a link that is to live for a bit
less than a minute says 59 seconds, which end a second and a half before the instant. -/
theorem lifetime_of_link_sample :
    (∃ refused, sampleSigner.sign sampleDawn sample sampleIdentity
      (.query sampleAges) = .error (.lifetime refused)) ∧
    ∃ s, sampleSigner.sign sampleDawn sample sampleIdentity (.queryUntil sampleStop) = .ok s ∧
      Param.valuesOf s.request.query Vocabulary.expiresParam = ["59"] ∧
      Param.valuesOf s.request.query Vocabulary.dateParam = ["19700101T000000Z"] := by
  obtain ⟨s, hs⟩ : ∃ s, sampleSigner.sign sampleDawn sample sampleIdentity
      (.queryUntil sampleStop) = .ok s :=
    exists_sign ⟨_, rfl, ⟨_, rfl⟩, _, rfl, _, rfl, by decide, by decide⟩
  obtain ⟨hdurations, hinstants⟩ := lifetime_of_link sampleSigner sampleDawn sample sampleIdentity
  obtain ⟨-, hlink⟩ := hinstants sampleStop (by decide) (by decide)
  obtain ⟨lifetime, start, hwhole, hexpires, hdate, -⟩ := hlink s hs
  have hseconds : lifetime = 59 := Int.ofNat_inj.mp (hwhole.trans (by decide))
  refine ⟨(hdurations _).1.mpr ⟨by decide, by decide +kernel⟩, s, hs, ?_, ?_⟩
  · rw [hexpires, hseconds]
    rfl
  · rw [hdate]
    decide +kernel

end RequestSigner

end SigV4
