import SigV4.Proofs.Signer.Agreement
import SigV4.Proofs.Upload.Length

/-!
# Signing a signed request once more

A request that was signed in its fields may be signed again: later, or by someone else, when
the first signature has expired or was refused. The second signature then comes out as if the
first had never been there (`SigV4.RequestSigner.sign_of_sign`). What the first one wrote, the
second one overwrites, and it must not be led astray by what it finds.

This is a statement about two runs of the same steps, on the signed request and on the request
before it was signed. The two requests agree in most of their fields, and each step that sets
a field makes them agree in one more (`SigV4.Request.AgreeOn`), so that in the end they differ
at most in the field of the signature, which is not signed. Two steps read what the first
signature has written. The host is named then, so it is not named again; and the codings name
the chunks then, so the chunks are not put in front of them again.

Two traces of the first signature can remain. A token that whoever signed first has left in
its field is not taken away, so whoever signs next must have a token too, unless there was
none. And the order of the names may be another, which no one can tell from the values of
each name (`SigV4.Signed.SameUpToOrder`).
-/

namespace SigV4

open Http

/-! ### What the first signature leaves behind -/

namespace Announcement

variable {request request' : Request} {config : Config} {scope : Scope} {identity : Identity}
  {payload : Payload}

theorem contains_withHost (h : withHost request = .ok request') :
    request'.fields.contains Vocabulary.host = true := by
  unfold withHost at h
  split at h
  · next hcontains =>
    obtain rfl := Except.ok.inj h
    exact hcontains
  · obtain ⟨value, -, rfl⟩ := setField_eq_ok_iff.mp h
    rw [CanonicalFields.contains_iff, Fields.values_insert, if_pos rfl]
    exact List.cons_ne_nil _ _

/-- A request that names the host is left as it is. -/
theorem withHost_of_contains (h : request.fields.contains Vocabulary.host = true) :
    withHost request = .ok request := by
  rw [withHost, if_pos h]

/-- A request agrees with itself, before and after a signature is announced in it, in the
fields that are not written. -/
theorem agreeOn_inFields (h : inFields request config scope identity payload = .ok request') :
    request.AgreeOn {name | name ∉ written config scope identity payload} request' :=
  ⟨sameButFields_inFields h, fun _ hname => (values_inFields_of_notMem h hname).symm,
    (codingsOf_inFields h).symm⟩

/-- **Whoever signs next overwrites** what was written first, if there is no token to be left
over. -/
theorem written_subset_written {scope' : Scope} {identity' : Identity}
    (hregion : scope.region = scope'.region)
    (htoken : identity'.sessionToken.isSome = true ∨ identity.sessionToken = none) :
    written config scope identity payload ⊆ written config scope' identity' payload := by
  intro name hname
  simp only [written, List.mem_cons, List.mem_append, mem_ifSome_iff, regionSet_eq_names?,
    isSome_digest?, hregion] at hname ⊢
  rcases hname with hdate | hregion | ⟨hsome, heq⟩ | hrest
  · exact Or.inl hdate
  · exact Or.inr (Or.inl hregion)
  · rcases htoken with hsome' | hnone
    · exact Or.inr (Or.inr (Or.inl ⟨hsome', heq⟩))
    · rw [hnone] at hsome
      cases hsome
  · exact Or.inr (Or.inr (Or.inr hrest))

end Announcement

/-- **The same signed request** up to the order of the names of its fields: the same signature,
of the same canonical form, with the same signer of chunks. -/
structure Signed.SameUpToOrder (s s' : Signed) : Prop where
  /-- The requests are the same but for their fields. -/
  request : s.request.SameButFields s'.request
  /-- Each name has the same values in both. -/
  values : ∀ name, s.request.fields.values name = s'.request.fields.values name
  /-- The signatures are the same. -/
  signature : s.signature = s'.signature
  /-- The canonical forms are the same. -/
  canonical : s.canonical = s'.canonical
  /-- The signers of chunks are the same. -/
  chunkSigner : s.chunkSigner = s'.chunkSigner

namespace RequestSigner

variable {signer : RequestSigner} {now now' : Instant} {request request' : Request}
  {identity identity' : Identity} {mode : Mode} {plan : Plan} {s : Signed}

/-- What is decided before a request is touched does not depend on its fields. -/
theorem plan_of_sameButFields (h : request.SameButFields request') :
    signer.plan now request identity mode = signer.plan now request' identity mode := by
  rw [h]
  rfl

theorem announce_of_withHost (hlifetime : plan.lifetime = none) {hosted : Request}
    (hhost : Announcement.withHost request = .ok hosted) :
    signer.announce plan request identity =
      Announcement.inFields hosted signer.config plan.scope identity plan.payload := by
  simp only [announce, hhost, hlifetime, bind, Except.bind]

/-- **Requests whose announcements agree** in all signed fields are signed alike, or fail alike. -/
theorem sign_of_announce (hrequest : request.SameButFields request')
    (hannounce : ∀ plan, signer.plan now request identity .fields = .ok plan →
      Outcome.Same (Request.AgreeOn {name | name ≠ Vocabulary.authorization})
        (signer.announce plan request identity) (signer.announce plan request' identity)) :
    Outcome.Same Signed.SameUpToOrder (signer.sign now request identity .fields)
      (signer.sign now request' identity .fields) := by
  rw [sign, sign, ← plan_of_sameButFields hrequest]
  refine .common _ fun plan hplan => (hannounce plan hplan).bind fun announced announced' h => ?_
  have hauthorization : ∀ name, Vocabulary.isSigned name = true →
      name ≠ Vocabulary.authorization := by
    rintro name hname rfl
    exact absurd hname (by decide)
  rw [h.ofRequest_eq hauthorization]
  refine .common _ fun canonical _ => .common _ fun signature _ => ?_
  obtain ⟨-, hlifetime, -, -⟩ := plan_eq_ok_iff.mp hplan
  rw [attach, attach, Mode.lifetime_eq_none hlifetime rfl]
  refine (Request.AgreeOn.follows.setField h _ _ _).bind fun signed signed' hsigned => .ok ?_
  -- The field of the signature was the last in which they could differ.
  have hvalues : ∀ name, signed.fields.values name = signed'.fields.values name :=
    fun name => hsigned.values name (Classical.em (name = Vocabulary.authorization))
  exact ⟨hsigned.sameButFields, hvalues, rfl, rfl, rfl⟩

/-! ### Signing again -/

/-- **What a signed request is like**: the host is named in it, and in what has not been written
it agrees with the request as it was when the host had been named. -/
theorem exists_agreeOn (h : signer.sign now request identity .fields = .ok s) :
    ∃ plan hosted, signer.plan now request identity .fields = .ok plan ∧
      Announcement.withHost request = .ok hosted ∧
      Announcement.withHost s.request = .ok s.request ∧
      hosted.AgreeOn ({name | name ∉ Announcement.written signer.config plan.scope identity
        plan.payload} \ {Vocabulary.authorization}) s.request := by
  obtain ⟨plan, hosted, announced, value, hplan, hhost, hinFields, hsigned, -, -⟩ :=
    exists_hosted h
  have hagree := (Announcement.agreeOn_inFields hinFields).insert_right Vocabulary.authorization
    (by decide) value
  rw [← hsigned] at hagree
  refine ⟨plan, hosted, hplan, hhost, Announcement.withHost_of_contains ?_, hagree⟩
  have hcontains := Announcement.contains_withHost hhost
  rw [CanonicalFields.contains_iff] at hcontains ⊢
  rwa [← hagree.values _ ⟨Announcement.host_notMem_written, by decide⟩]

/-- **Announcing a second signature** makes a signed request agree with the request before it was
signed, in all fields but that of the signature. -/
theorem announce_of_sign (h : signer.sign now request identity .fields = .ok s)
    (htoken : identity'.sessionToken.isSome = true ∨ identity.sessionToken = none)
    (hplan : signer.plan now' request identity' .fields = .ok plan) :
    Outcome.Same (Request.AgreeOn {name | name ≠ Vocabulary.authorization})
      (signer.announce plan request identity') (signer.announce plan s.request identity') := by
  obtain ⟨first, hosted, hfirst, hhost, hhosted, hagree⟩ := exists_agreeOn h
  obtain ⟨hscope, -, hpayload, -⟩ := plan_eq_ok_iff.mp hfirst
  obtain ⟨hscope', hlifetime, hpayload', -⟩ := plan_eq_ok_iff.mp hplan
  have hnone := Mode.lifetime_eq_none hlifetime rfl
  have hregion : first.scope.region = plan.scope.region :=
    (Scope.region_of_make hscope).trans (Scope.region_of_make hscope').symm
  obtain hpayload : first.payload = plan.payload := Except.ok.inj (hpayload.symm.trans hpayload')
  rw [announce_of_withHost hnone hhost, announce_of_withHost hnone hhosted]
  refine (Request.AgreeOn.follows.inFields hagree _ _ _ _).mono fun _ _ h => ?_
  refine h.mono fun name hname => ?_
  -- What the first signature has written is written again, and the rest was the same before.
  by_cases hwritten : name ∈ Announcement.written signer.config first.scope identity first.payload
  · rw [hpayload] at hwritten
    exact Or.inr (Announcement.written_subset_written hregion htoken hwritten)
  · exact Or.inl ⟨hwritten, hname⟩

/-- **A second signature overrides the first**: a signed request that is signed again fails with
the same error, or comes out as the same signed request, as the request before it was signed. -/
theorem sign_of_sign (h : signer.sign now request identity .fields = .ok s)
    (htoken : identity'.sessionToken.isSome = true ∨ identity.sessionToken = none)
    (now' : Instant) :
    Outcome.Same Signed.SameUpToOrder (signer.sign now' request identity' .fields)
      (signer.sign now' s.request identity' .fields) := by
  obtain ⟨first, hosted, -, hhost, -, hagree⟩ := exists_agreeOn h
  have hrequest := (Announcement.sameButFields_withHost hhost).trans hagree.sameButFields
  exact sign_of_announce hrequest fun plan hplan => announce_of_sign h htoken hplan

/-- A day after the beginning of 1970. -/
def sampleLater : Instant := ⟨86400, 0, Instant.epoch.nanos_lt, by decide, by decide⟩

/-- A body in chunks is signed by someone, and a day later by someone else with a token. -/
theorem sign_of_sign_sampleUpload :
    ∃ s s₁ s₂, sampleChunked.sign .epoch sampleUpload sampleIdentity .fields = .ok s ∧
      sampleChunked.sign sampleLater sampleUpload sampleGuest .fields = .ok s₁ ∧
      sampleChunked.sign sampleLater s.request sampleGuest .fields = .ok s₂ ∧
      s₁.SameUpToOrder s₂ := by
  obtain ⟨s, -, hs, -⟩ := exists_sign_sampleUpload
  obtain ⟨s₁, hs₁⟩ :
      ∃ s₁, sampleChunked.sign sampleLater sampleUpload sampleGuest .fields = .ok s₁ :=
    exists_sign ⟨_, rfl, ⟨_, rfl⟩, _, rfl, _, rfl, by decide, by decide⟩
  have htoken : sampleGuest.sessionToken.isSome = true := rfl
  have hsame := sign_of_sign hs (Or.inl htoken) sampleLater
  rw [hs₁] at hsame
  cases hs₂ : sampleChunked.sign sampleLater s.request sampleGuest .fields with
  | ok s₂ =>
    rw [hs₂] at hsame
    cases hsame with
    | ok h => exact ⟨s, s₁, s₂, hs, hs₁, hs₂, h⟩
  | error e =>
    rw [hs₂] at hsame
    cases hsame

end RequestSigner

end SigV4
