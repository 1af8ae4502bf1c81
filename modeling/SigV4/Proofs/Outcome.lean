/-!
# Steps that may fail

A computation in steps succeeds exactly when each step does, and these are the two
statements that take such a computation apart, or put it together, step by step. Nothing
in the proofs that follow looks inside a step that is none of their business.

What is asked of a result can be asked of what came before it: a computation gives a result
with a property (`SigV4.Outcome.Gives`) if its first step gives one from which the rest gives
one. So the condition for a whole computation is found by going through its steps from the
last to the first.

Two computations are compared by their outcomes (`SigV4.Outcome.Same`): both fail with the
same error, or both succeed and their results are related. Steps with related outcomes may be
put one behind the other (`SigV4.Outcome.Same.bind`).
-/

namespace SigV4

namespace Outcome

variable {ε α β γ δ : Type}

theorem bind_eq_ok_iff {x : Except ε α} {f : α → Except ε β} {b : β} :
    x >>= f = .ok b ↔ ∃ a, x = .ok a ∧ f a = .ok b := by
  constructor
  · intro h
    cases x with
    | error e => cases h
    | ok a => exact ⟨a, rfl, h⟩
  · rintro ⟨a, rfl, h⟩
    exact h

/-- What follows a step matters only where the step succeeds. -/
theorem bind_congr_of_eq_ok {x : Except ε α} {f g : α → Except ε β}
    (h : ∀ a, x = .ok a → f a = g a) : x >>= f = x >>= g := by
  cases x with
  | error e => rfl
  | ok a => exact h a rfl

theorem map_eq_ok_iff {x : Except ε α} {f : α → β} {b : β} :
    x.map f = .ok b ↔ ∃ a, x = .ok a ∧ f a = b := by
  constructor
  · intro h
    cases x with
    | error e => cases h
    | ok a => exact ⟨a, rfl, Except.ok.inj h⟩
  · rintro ⟨a, rfl, rfl⟩
    rfl

/-! ### Results with a property -/

/-- **Whether a computation gives** a result with a property: it succeeds, and its result has
the property. -/
def Gives (x : Except ε α) (Q : α → Prop) : Prop :=
  ∃ a, x = .ok a ∧ Q a

theorem gives_ok_iff {a : α} {Q : α → Prop} : Gives (Except.ok a : Except ε α) Q ↔ Q a := by
  constructor
  · rintro ⟨b, hb, hQ⟩
    obtain rfl := Except.ok.inj hb
    exact hQ
  · exact fun hQ => ⟨a, rfl, hQ⟩

/-- **From the last step to the first.** -/
theorem gives_bind_iff {x : Except ε α} {f : α → Except ε β} {Q : β → Prop} :
    Gives (x >>= f) Q ↔ Gives x fun a => Gives (f a) Q := by
  constructor
  · rintro ⟨b, h, hQ⟩
    obtain ⟨a, ha, hb⟩ := bind_eq_ok_iff.mp h
    exact ⟨a, ha, b, hb, hQ⟩
  · rintro ⟨a, ha, b, hb, hQ⟩
    exact ⟨b, bind_eq_ok_iff.mpr ⟨a, ha, hb⟩, hQ⟩

theorem exists_bind_iff {x : Except ε α} {f : α → Except ε β} :
    (∃ b, x >>= f = .ok b) ↔ Gives x fun a => ∃ b, f a = .ok b := by
  constructor
  · rintro ⟨b, h⟩
    obtain ⟨a, ha, hb⟩ := bind_eq_ok_iff.mp h
    exact ⟨a, ha, b, hb⟩
  · rintro ⟨a, ha, b, hb⟩
    exact ⟨b, bind_eq_ok_iff.mpr ⟨a, ha, hb⟩⟩

/-- What does not depend on the result may be asked beforehand. -/
theorem gives_and_iff {x : Except ε α} {P : Prop} {Q : α → Prop} :
    (Gives x fun a => P ∧ Q a) ↔ P ∧ Gives x Q := by
  constructor
  · rintro ⟨a, ha, hP, hQ⟩
    exact ⟨hP, a, ha, hQ⟩
  · rintro ⟨hP, a, ha, hQ⟩
    exact ⟨a, ha, hP, hQ⟩

/-! ### Two computations -/

/-- **The same outcome**: both computations succeed and their results are related, or both of
them fail with the same error. -/
inductive Same (R : α → β → Prop) : Except ε α → Except ε β → Prop where
  /-- Both succeed. -/
  | ok {a : α} {b : β} (h : R a b) : Same R (.ok a) (.ok b)
  /-- Both fail. -/
  | error (e : ε) : Same R (.error e) (.error e)

namespace Same

variable {R R' : α → β → Prop} {S : γ → δ → Prop} {x : Except ε α} {y : Except ε β}

/-- **Steps in a row**: what follows a step matters only for related results of it. -/
theorem bind {f : α → Except ε γ} {g : β → Except ε δ} (h : Same R x y)
    (hf : ∀ a b, R a b → Same S (f a) (g b)) : Same S (x >>= f) (y >>= g) := by
  cases h with
  | ok hab => exact hf _ _ hab
  | error e => exact .error e

theorem mono (h : Same R x y) (hR : ∀ a b, R a b → R' a b) : Same R' x y := by
  cases h with
  | ok hab => exact .ok (hR _ _ hab)
  | error e => exact .error e

/-- If one of the computations succeeds, so does the other. -/
theorem exists_of_eq_ok (h : Same R x y) {a : α} (ha : x = .ok a) : ∃ b, y = .ok b ∧ R a b := by
  cases h with
  | ok hab =>
    obtain rfl := Except.ok.inj ha
    exact ⟨_, rfl, hab⟩
  | error e => cases ha

/-- A step that both computations have in common. -/
theorem common {f : α → Except ε γ} {g : α → Except ε δ} (x : Except ε α)
    (hf : ∀ a, x = .ok a → Same S (f a) (g a)) : Same S (x >>= f) (x >>= g) := by
  cases x with
  | error e => exact .error e
  | ok a => exact hf a rfl

end Same

end Outcome

end SigV4
