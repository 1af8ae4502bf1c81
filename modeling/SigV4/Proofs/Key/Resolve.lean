import SigV4.Key.Signing
import SigV4.Proofs.Outcome

/-!
# Which key an identity signs with

There are two kinds of identity and two kinds of region, but only two ways to a key. For a
single region the key is narrowed down from a secret
(`SigV4.SigningKey.resolve_single_eq_ok_iff`). For a region set every identity signs with a
private key. Those that have none might as well be turned into those that have one first: the
check and the derivation are the same in both places
(`SigV4.SigningKey.resolve_symmetric_set`), and what comes out has a key id, so nothing is asked
of it a second time (`SigV4.Identity.toAsymmetric`, `SigV4.SigningKey.resolve_set`).
-/

namespace SigV4

variable {c : Credential} {d : AsymmetricCredential} {identity : Identity} {scope : Scope}
  {key : SigningKey} {name names : String}

/-! ### Checks -/

theorem Credential.check_eq_ok_iff :
    c.check = .ok () ↔ c.accessKeyId ≠ "" ∧ c.secretAccessKey ≠ "" := by
  rw [check]
  split
  · next hid => exact ⟨nofun, fun h => absurd hid h.1⟩
  · next hid =>
    split
    · next hsecret => exact ⟨nofun, fun h => absurd hsecret h.2⟩
    · next hsecret => exact ⟨fun _ => ⟨hid, hsecret⟩, fun _ => rfl⟩

theorem AsymmetricCredential.check_eq_ok_iff : d.check = .ok () ↔ d.accessKeyId ≠ "" := by
  rw [check]
  split
  · next hid => exact ⟨nofun, fun h => absurd hid h⟩
  · next hid => exact ⟨fun _ => hid, fun _ => rfl⟩

/-- **What becomes of a secret** is a private key, and the rest of the credential stays. -/
theorem AsymmetricCredential.ofSymmetric_eq_ok_iff :
    ofSymmetric c = .ok d ↔
      c.check = .ok () ∧ Key.asymmetric? c.accessKeyId c.secretAccessKey = some d.key ∧
        d.accessKeyId = c.accessKeyId ∧ d.sessionToken = c.sessionToken ∧
        d.expires = c.expires := by
  rw [ofSymmetric, Outcome.bind_eq_ok_iff]
  constructor
  · rintro ⟨_, hcheck, h⟩
    split at h
    · next key hkey =>
      obtain rfl := Except.ok.inj h
      exact ⟨hcheck, hkey, rfl, rfl, rfl⟩
    · cases h
  · rintro ⟨hcheck, hkey, hid, htoken, hexpires⟩
    obtain ⟨accessKeyId, key, sessionToken, expires⟩ := d
    obtain rfl : accessKeyId = c.accessKeyId := hid
    obtain rfl : sessionToken = c.sessionToken := htoken
    obtain rfl : expires = c.expires := hexpires
    exact ⟨(), hcheck, by rw [hkey]; rfl⟩

theorem AsymmetricCredential.check_of_ofSymmetric (h : ofSymmetric c = .ok d) :
    d.check = .ok () := by
  obtain ⟨hcheck, -, hid, -, -⟩ := ofSymmetric_eq_ok_iff.mp h
  rw [check_eq_ok_iff, hid]
  exact (Credential.check_eq_ok_iff.mp hcheck).1

/-! ### Keys -/

/-- **The credential with which an identity signs for a region set.** -/
def Identity.toAsymmetric : Identity → Except Error AsymmetricCredential
  | .symmetric c => AsymmetricCredential.ofSymmetric c
  | .asymmetric c => .ok c

namespace SigningKey

/-- **For a single region** the key is narrowed down from a secret. -/
theorem resolve_single_eq_ok_iff (h : scope.region = .single name) :
    resolve (.symmetric c) scope = .ok key ↔
      c.check = .ok () ∧ key = .hmac (Key.forScope c.secretAccessKey scope) := by
  unfold resolve
  rw [h]
  constructor
  · intro hresolve
    obtain ⟨_, hcheck, hkey⟩ := Outcome.bind_eq_ok_iff.mp hresolve
    exact ⟨hcheck, (Except.ok.inj hkey).symm⟩
  · rintro ⟨hcheck, rfl⟩
    exact Outcome.bind_eq_ok_iff.mpr ⟨(), hcheck, rfl⟩

/-- **The key in a secret** is that of the asymmetric credential into which a credential is
turned, or both fail with the same error. -/
theorem resolve_symmetric_set (h : scope.region = .set names) :
    resolve (.symmetric c) scope =
      (AsymmetricCredential.ofSymmetric c).map fun d => .ecdsa d.key := by
  unfold resolve AsymmetricCredential.ofSymmetric
  rw [h]
  dsimp only
  cases c.check with
  | error e => rfl
  | ok _ => cases Key.asymmetric? c.accessKeyId c.secretAccessKey <;> rfl

/-- **For a region set** the key is private, whatever the identity is. -/
theorem resolve_set (h : scope.region = .set names) :
    resolve identity scope = do
      let d ← identity.toAsymmetric
      d.check
      return .ecdsa d.key := by
  cases identity with
  | asymmetric d =>
    unfold resolve
    rw [h]
    rfl
  | symmetric c =>
    rw [resolve_symmetric_set h, Identity.toAsymmetric]
    cases hderived : AsymmetricCredential.ofSymmetric c with
    | error e => rfl
    | ok d =>
      have hcheck := AsymmetricCredential.check_of_ofSymmetric hderived
      change Except.ok (ecdsa d.key) = d.check >>= fun _ => Except.ok (ecdsa d.key)
      rw [hcheck]
      rfl

theorem resolve_set_eq_ok_iff (h : scope.region = .set names) :
    resolve identity scope = .ok key ↔
      ∃ d, identity.toAsymmetric = .ok d ∧ d.check = .ok () ∧ key = .ecdsa d.key := by
  rw [resolve_set h, Outcome.bind_eq_ok_iff]
  refine exists_congr fun d => and_congr_right fun _ => ?_
  constructor
  · intro hresolve
    obtain ⟨_, hcheck, hkey⟩ := Outcome.bind_eq_ok_iff.mp hresolve
    exact ⟨hcheck, (Except.ok.inj hkey).symm⟩
  · rintro ⟨hcheck, rfl⟩
    exact Outcome.bind_eq_ok_iff.mpr ⟨(), hcheck, rfl⟩

/-- **The key for a scope** is one for its kind of region. -/
theorem resolve_cases (h : resolve identity scope = .ok key) :
    (∃ name octets, scope.region = .single name ∧ key = .hmac octets) ∨
      ∃ names k, scope.region = .set names ∧ key = .ecdsa k := by
  cases hregion : scope.region with
  | single name =>
    cases identity with
    | symmetric c =>
      obtain ⟨-, hkey⟩ := (resolve_single_eq_ok_iff hregion).mp h
      exact Or.inl ⟨name, _, rfl, hkey⟩
    | asymmetric d =>
      unfold resolve at h
      rw [hregion] at h
      cases h
  | set names =>
    obtain ⟨d, -, -, hkey⟩ := (resolve_set_eq_ok_iff hregion).mp h
    exact Or.inr ⟨names, d.key, rfl, hkey⟩

end SigningKey

end SigV4
