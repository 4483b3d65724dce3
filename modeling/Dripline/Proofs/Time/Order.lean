import Dripline.Proofs.Outcome
import Dripline.Time.Moment
import Mathlib.Data.Option.Basic

/-!
# Moments of one kind

Moments that carry an offset, and moments that carry none:

* `since_of_kind`, `atMost_of_kind`: two of the same kind compare and have a difference, and `atMost` orders
  them (`atMost_trans`). Two of different kinds have no difference (`since_of_mixed`);
* `since_of_atMost`, `since_of_before`: order and difference agree;
* `before_of_zone`: two in one zone compare as their readings do;
* `atMost_monotone`, `since_antitone`: as a clock goes on, more moments are not after it, and less is left to
  each of them;
* `eq_of_addMillis`, `since_of_later`: a later reading has the offset of the one that it is later than, and is
  so much nearer to any other moment.
-/

namespace Dripline.Moment

variable {a b c : Moment}

/-! ## 1. Order and difference -/

theorem aligned?_of_kind (h : a.isAnchored = b.isAnchored) : ∃ scale, aligned? a b = some scale := by
  unfold isAnchored at h
  unfold aligned?
  cases ha : a.offset with
  | none =>
    cases hb : b.offset with
    | none => exact ⟨_, rfl⟩
    | some q => rw [ha, hb] at h; cases h
  | some p =>
    cases hb : b.offset with
    | none => rw [ha, hb] at h; cases h
    | some q => exact ⟨_, rfl⟩

theorem since_of_kind (h : a.isAnchored = b.isAnchored) : ∃ micros, a.since b = .ok micros := by
  obtain ⟨⟨x, y⟩, hscale⟩ := aligned?_of_kind h
  unfold since
  rw [hscale]
  exact ⟨_, rfl⟩

/-- Moments of two kinds have no difference. -/
theorem since_of_mixed (h : a.isAnchored ≠ b.isAnchored) : a.since b = .error .mixedDifference := by
  unfold isAnchored at h
  unfold since aligned?
  cases ha : a.offset with
  | none =>
    cases hb : b.offset with
    | none => rw [ha, hb] at h; exact absurd rfl h
    | some q => rfl
  | some p =>
    cases hb : b.offset with
    | none => rfl
    | some q => rw [ha, hb] at h; exact absurd rfl h

theorem atMost_of_kind (h : a.isAnchored = b.isAnchored) : ∃ decision, a.atMost b = .ok decision := by
  obtain ⟨⟨x, y⟩, hscale⟩ := aligned?_of_kind h
  unfold atMost
  rw [hscale]
  exact ⟨_, rfl⟩

/-- What two moments that compare are compared by. -/
theorem atMost_iff :
    a.atMost b = .ok true ↔
      (∃ p q, a.offset = some p ∧ b.offset = some q ∧ shifted a.ticks p ≤ shifted b.ticks q) ∨
        a.offset = none ∧ b.offset = none ∧ a.ticks ≤ b.ticks := by
  unfold atMost aligned?
  cases ha : a.offset with
  | none =>
    cases hb : b.offset with
    | none => simp
    | some q => simp
  | some p =>
    cases hb : b.offset with
    | none => simp
    | some q => simp

/-- Moments that compare are of one kind. -/
theorem isAnchored_of_atMost (h : a.atMost b = .ok true) : a.isAnchored = b.isAnchored := by
  unfold isAnchored
  rcases atMost_iff.mp h with ⟨p, q, hp, hq, _⟩ | ⟨hp, hq, _⟩
  · rw [hp, hq]
    rfl
  · rw [hp, hq]

theorem atMost_trans (h : a.atMost b = .ok true) (h' : b.atMost c = .ok true) :
    a.atMost c = .ok true := by
  rw [atMost_iff] at h h' ⊢
  rcases h with ⟨p, q, hp, hq, hle⟩ | ⟨hp, hq, hle⟩
  · rcases h' with ⟨q', r, hq', hr, hle'⟩ | ⟨hq', _, _⟩
    · cases hq.symm.trans hq'
      exact .inl ⟨p, r, hp, hr, Int.le_trans hle hle'⟩
    · cases hq.symm.trans hq'
  · rcases h' with ⟨q', r, hq', _, _⟩ | ⟨_, hr, hle'⟩
    · cases hq.symm.trans hq'
    · exact .inr ⟨hp, hr, Nat.le_trans hle hle'⟩

theorem aligned?_swap (a b : Moment) : aligned? b a = (aligned? a b).map Prod.swap := by
  unfold aligned?
  cases a.offset <;> cases b.offset <;> rfl

/-- Up to a moment that is not after another, nothing is left. -/
theorem since_of_atMost (h : a.atMost b = .ok true) : ∃ micros, a.since b = .ok micros ∧ micros ≤ 0 := by
  unfold atMost at h
  unfold since
  cases haligned : aligned? a b with
  | none =>
    rw [haligned] at h
    cases h
  | some scale =>
    rw [haligned] at h
    have hle : scale.1 ≤ scale.2 := of_decide_eq_true (Except.ok.inj h)
    exact ⟨scale.1 - scale.2, rfl, by omega⟩

/-- Up to a moment that is after another, something is left. -/
theorem since_of_before (h : a.before b = .ok true) : ∃ micros, b.since a = .ok micros ∧ 0 < micros := by
  unfold before at h
  unfold since
  rw [aligned?_swap]
  cases haligned : aligned? a b with
  | none =>
    rw [haligned] at h
    cases h
  | some scale =>
    rw [haligned] at h
    have hlt : scale.1 < scale.2 := of_decide_eq_true (Except.ok.inj h)
    exact ⟨scale.2 - scale.1, rfl, by omega⟩

/-- Moments in one zone compare as their readings do. -/
theorem before_of_zone {zone : Offset} (ha : a.offset = some zone) (hb : b.offset = some zone) :
    a.before b = .ok (decide (a.ticks < b.ticks)) := by
  unfold before aligned?
  rw [ha, hb]
  refine congrArg Except.ok (decide_eq_decide.mpr ?_)
  unfold shifted
  omega

/-- A moment compares with a later clock as it does with an earlier one. -/
theorem aligned?_later (h : a.atMost b = .ok true) (c : Moment) :
    (aligned? c a = none ∧ aligned? c b = none) ∨
      ∃ x y z, aligned? c a = some (x, y) ∧ aligned? c b = some (x, z) ∧ y ≤ z := by
  unfold aligned?
  rcases atMost_iff.mp h with ⟨p, q, hp, hq, hle⟩ | ⟨hp, hq, hle⟩
  · rw [hp, hq]
    cases c.offset with
    | none => exact .inl ⟨rfl, rfl⟩
    | some r => exact .inr ⟨_, _, _, rfl, rfl, hle⟩
  · rw [hp, hq]
    cases c.offset with
    | none => exact .inr ⟨_, _, _, rfl, rfl, Int.ofNat_le.mpr hle⟩
    | some r => exact .inl ⟨rfl, rfl⟩

/-- What is not after a clock is not after a later one. -/
theorem atMost_monotone (h : a.atMost b = .ok true) (c : Moment) :
    Alike (fun early late => early = true → late = true) (c.atMost a) (c.atMost b) := by
  unfold atMost
  rcases aligned?_later h c with ⟨ha, hb⟩ | ⟨x, y, z, ha, hb, hle⟩
  · rw [ha, hb]
    exact .faults _
  · rw [ha, hb]
    refine .results fun hearly => decide_eq_true ?_
    have hxy : x ≤ y := of_decide_eq_true hearly
    exact Int.le_trans hxy hle

/-- What is left to a moment gets less. -/
theorem since_antitone (h : a.atMost b = .ok true) (c : Moment) :
    Alike (fun early late => late ≤ early) (c.since a) (c.since b) := by
  unfold since
  rcases aligned?_later h c with ⟨ha, hb⟩ | ⟨x, y, z, ha, hb, hle⟩
  · rw [ha, hb]
    exact .faults _
  · rw [ha, hb]
    exact .results (Int.sub_le_sub_left hle x)

/-! ## 2. Later readings -/

theorem eq_of_ofTicks? {ticks : Int} {offset : Option Offset} {m : Moment}
    (h : ofTicks? ticks offset = some m) : (m.ticks : Int) = ticks ∧ m.offset = offset := by
  unfold ofTicks? at h
  split at h
  · split at h
    · rename_i hpos
      cases h
      exact ⟨Int.toNat_of_nonneg hpos, rfl⟩
    · cases h
  · cases h

/-- **A later reading** is so much later, with the same offset. -/
theorem eq_of_addMillis {millis : Int} (h : a.addMillis millis = .ok b) :
    (b.ticks : Int) = a.ticks + millis * 1000 ∧ b.offset = a.offset := by
  unfold addMillis at h
  dsimp only at h
  split at h
  · cases h
  · split at h
    · cases h
    · split at h
      · rename_i later hlater
        cases h
        exact eq_of_ofTicks? hlater
      · cases h

/-- The clock moves on in moments of one kind. -/
theorem isAnchored_addMicros (m : Moment) (micros : Nat) :
    (m.addMicros micros).isAnchored = m.isAnchored := by
  unfold addMicros
  split <;> rfl

/-- A later reading carries an offset when the earlier one does. -/
theorem isAnchored_addMillis {millis : Int} (h : a.addMillis millis = .ok b) :
    b.isAnchored = a.isAnchored := by
  unfold isAnchored
  rw [(eq_of_addMillis h).2]

/-- A later reading is not before an earlier one. -/
theorem atMost_of_later {millis : Int} (hpos : 0 ≤ millis) (hticks : (b.ticks : Int) = a.ticks + millis * 1000)
    (hoffset : b.offset = a.offset) : a.atMost b = .ok true := by
  rw [atMost_iff]
  cases ha : a.offset with
  | none => exact .inr ⟨rfl, hoffset.trans ha, by omega⟩
  | some p =>
    refine .inl ⟨p, p, rfl, hoffset.trans ha, ?_⟩
    unfold shifted
    omega

/-- No time later is the same reading. -/
theorem addMillis_zero (m : Moment) : m.addMillis 0 = .ok m := by
  have hwithin : ((m.ticks : Int) + 0 * 1000).toNat < Calendar.totalDays * dayMicros := by
    simpa using m.within
  unfold addMillis ofTicks?
  rw [dif_pos hwithin]
  simp [dayMillis]

/-- What a later reading has left to a moment is what was left, less the time in between. -/
theorem since_of_later {micros millis : Int} (h : c.since a = .ok micros)
    (hticks : (b.ticks : Int) = a.ticks + millis * 1000) (hoffset : b.offset = a.offset) :
    b.since c = .ok (millis * 1000 - micros) := by
  unfold since aligned? at h ⊢
  rw [hoffset]
  cases hc : c.offset with
  | none =>
    cases ha : a.offset with
    | none =>
      rw [hc, ha] at h
      have hmicros := Except.ok.inj h
      simp only at hmicros ⊢
      congr 1
      omega
    | some p =>
      rw [hc, ha] at h
      cases h
  | some q =>
    cases ha : a.offset with
    | none =>
      rw [hc, ha] at h
      cases h
    | some p =>
      rw [hc, ha] at h
      have hmicros := Except.ok.inj h
      unfold shifted at hmicros ⊢
      simp only at hmicros ⊢
      congr 1
      omega

end Dripline.Moment
