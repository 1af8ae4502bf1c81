import SigV4.Proofs.Outcome
import SigV4.Upload

/-!
# Filling a buffer from a source that goes on

A source may deliver as little as it likes and may be interrupted as often as it likes. As
long as it never fails, and never delivers nothing while it has something
(`SigV4.Source.IsSteady`), none of this can be seen from outside: a buffer is filled with
the front of the data, to the end of the buffer or of the data
(`SigV4.Source.fill_of_isSteady`).

Of any source at all it can still be said that it delivers its data from the front, and no
more than there is room for (`SigV4.Source.fill_suffix`, `SigV4.Source.length_fill_le`).
-/

namespace SigV4

/-- Whether a read brings a source further, or is an interruption. -/
def ReadEvent.IsSteady : ReadEvent → Prop
  | .upTo count => 0 < count
  | .interrupted => True
  | .failed _ => False

namespace Source

/-- **Whether a source goes on** until it has delivered everything: it does not fail, and
no read is empty while there is something left. -/
def IsSteady (source : Source) : Prop :=
  ∀ event ∈ source.events, event.IsSteady

/-- A read that delivers something, and the reads behind it, take the front of the data. -/
theorem take_append_take_drop {m capacity : Nat} (data : Octets) (h : m ≤ capacity) :
    data.take m ++ (data.drop m).take (capacity - (data.take m).length) =
      data.take capacity := by
  rw [List.length_take]
  rcases Nat.le_total m data.length with hm | hm
  · rw [Nat.min_eq_left hm, ← List.take_add, Nat.add_sub_cancel' h]
  · rw [List.drop_eq_nil_of_le hm, List.take_nil, List.append_nil, List.take_of_length_le hm,
      List.take_of_length_le (Nat.le_trans hm h)]

theorem drop_drop_of_read {m capacity : Nat} (data : Octets) (h : m ≤ capacity) :
    (data.drop m).drop (capacity - (data.take m).length) = data.drop capacity := by
  rw [List.length_take, List.drop_drop]
  rcases Nat.le_total m data.length with hm | hm
  · rw [Nat.min_eq_left hm, Nat.add_sub_cancel' h]
  · rw [List.drop_eq_nil_of_le (Nat.le_trans hm h), List.drop_eq_nil_of_le (by omega)]

theorem fillFrom_of_isSteady {events : List ReadEvent} (h : ∀ event ∈ events, event.IsSteady)
    (capacity : Nat) (data : Octets) :
    ∃ rest : List ReadEvent, (∀ event ∈ rest, event.IsSteady) ∧
      fillFrom events capacity data = (.ok (data.take capacity), ⟨rest, data.drop capacity⟩) := by
  induction events generalizing capacity data with
  | nil => exact ⟨[], h, rfl⟩
  | cons event events ih =>
    obtain ⟨hevent, hevents⟩ := List.forall_mem_cons.mp h
    unfold fillFrom
    split
    · next hcapacity =>
      subst hcapacity
      exact ⟨event :: events, h, rfl⟩
    · next hcapacity =>
      cases event with
      | failed reason => exact hevent.elim
      | interrupted => exact ih hevents capacity data
      | upTo count =>
        have hle : min count capacity ≤ capacity := Nat.min_le_right _ _
        have hpos : 0 < min count capacity :=
          Nat.lt_min.mpr ⟨hevent, Nat.pos_of_ne_zero hcapacity⟩
        dsimp only
        split
        · next hnone =>
          -- A read of a positive number of octets is empty only at the end of the data.
          obtain rfl : data = [] := by
            rcases List.take_eq_nil_iff.mp hnone with hzero | hnil
            · omega
            · exact hnil
          rw [List.take_nil, List.drop_nil]
          exact ⟨events, hevents, rfl⟩
        · obtain ⟨rest, hrest, hfill⟩ := ih hevents
            (capacity - (data.take (min count capacity)).length)
            (data.drop (min count capacity))
          refine ⟨rest, hrest, ?_⟩
          rw [hfill, Except.map, take_append_take_drop data hle, drop_drop_of_read data hle]

/-- **A source that goes on fills the buffer** with the front of its data, and goes on. -/
theorem fill_of_isSteady {source : Source} (h : source.IsSteady) (capacity : Nat) :
    ∃ source' : Source, source'.IsSteady ∧ source'.data = source.data.drop capacity ∧
      source.fill capacity = (.ok (source.data.take capacity), source') := by
  obtain ⟨rest, hrest, hfill⟩ := fillFrom_of_isSteady h capacity source.data
  exact ⟨⟨rest, source.data.drop capacity⟩, hrest, rfl, hfill⟩

/-- Pieces that a body may arrive in. -/
def sampleEvents : List ReadEvent := [.upTo 1, .interrupted, .upTo 5]

theorem isSteady_sampleEvents (data : Octets) : IsSteady ⟨sampleEvents, data⟩ := by
  rintro event (_ | ⟨_, _ | ⟨_, _ | ⟨_, h⟩⟩⟩)
  · exact Nat.one_pos
  · trivial
  · exact Nat.succ_pos 4
  · cases h

/-! ### Any source -/

/-- What a source has delivered is a front of its data, also where it fails. -/
theorem fillFrom_suffix (events : List ReadEvent) (capacity : Nat) (data : Octets) :
    (fillFrom events capacity data).2.data <:+ data := by
  induction events generalizing capacity data with
  | nil => exact List.drop_suffix _ _
  | cons event events ih =>
    unfold fillFrom
    split
    · exact List.suffix_refl _
    · cases event with
      | failed reason => exact List.suffix_refl _
      | interrupted => exact ih capacity data
      | upTo count =>
        dsimp only
        split
        · exact List.suffix_refl _
        · exact (ih _ _).trans (List.drop_suffix _ _)

theorem length_fillFrom_le {events : List ReadEvent} {capacity : Nat} {data filled : Octets}
    (h : (fillFrom events capacity data).1 = .ok filled) : filled.length ≤ capacity := by
  induction events generalizing capacity data filled with
  | nil =>
    obtain rfl := Except.ok.inj h
    exact List.length_take_le _ _
  | cons event events ih =>
    unfold fillFrom at h
    split at h
    · obtain rfl := Except.ok.inj h
      exact Nat.zero_le _
    · cases event with
      | failed reason => cases h
      | interrupted => exact ih h
      | upTo count =>
        dsimp only at h
        split at h
        · obtain rfl := Except.ok.inj h
          exact Nat.zero_le _
        · obtain ⟨more, hmore, rfl⟩ := Outcome.map_eq_ok_iff.mp h
          have hpart : (data.take (min count capacity)).length ≤ capacity :=
            Nat.le_trans (List.length_take_le _ _) (Nat.min_le_right _ _)
          have hrest := ih hmore
          rw [List.length_append]
          omega

theorem append_of_fill_eq {source rest : Source} {capacity : Nat} {filled : Octets}
    (h : source.fill capacity = (.ok filled, rest)) : filled ++ rest.data = source.data := by
  have happend := @fill_append source capacity filled (by rw [h])
  rwa [h] at happend

theorem fill_suffix (source : Source) (capacity : Nat) :
    (source.fill capacity).2.data <:+ source.data :=
  fillFrom_suffix _ _ _

/-- **A chunk fits the buffer.** -/
theorem length_fill_le {source : Source} {capacity : Nat} {filled : Octets}
    (h : (source.fill capacity).1 = .ok filled) : filled.length ≤ capacity :=
  length_fillFrom_le h

end Source

end SigV4
