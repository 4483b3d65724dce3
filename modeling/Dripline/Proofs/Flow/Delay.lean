import Dripline.Proofs.Flow.WellFormed
import Dripline.Proofs.Number.Order
import Dripline.Proofs.Time.Order

/-!
# The arithmetic of delays

The check bounds a delay in one way, and the step of the delay calculates it in another:

* `Moment.addMillis_of_within`, `Moment.addMillis_of_beyond`: a reading that many milliseconds later, and
  when there is none;
* `exists_millisSince`: the milliseconds between two moments are the number nearest to the exact quotient;
* `millis_of_absolute`: an absolute delay is over less than a millisecond before or after its time, since what
  is left may be rounded up to a whole millisecond;
* `millis_of_relative`: a relative delay that is accepted is over before the last moment of the calendar;
* `Delay.EndsInTime`: a clock that is not east of Greenwich, and an absolute time that does not lie in the
  last millisecond of the calendar;
* **`accepted_delay_computes`**: the milliseconds are always there, and the moment at which an accepted
  delay is over is too, unless the clock has no such reading. It has when the delay ends in time;
* `accepted_beyond_calendar`: two delays that are accepted and have no such moment, at the clock of
  universal time and at one east of it;
* **`Delay.absolute_accurate`**: an absolute delay is over at once when its time is not ahead, and else less
  than a millisecond from its time.
-/

namespace Dripline

open Double

/-! ## 1. Readings -/

namespace Moment

variable {m : Moment} {millis : Int}

theorem span_eq : span = 315537897600000000 := by decide

theorem shifted_bounds (m : Moment) (zone : Offset) :
    -86400000000 < shifted m.ticks zone ∧ shifted m.ticks zone < 315537984000000000 := by
  have hticks : m.ticks < span := m.within
  have hzone := zone.within
  rw [span_eq] at hticks
  unfold shifted secondMicros
  omega

/-- Spans up to twice the calendar have a day count that fits. -/
theorem fdiv_days_bounds (hpos : 0 ≤ millis) (hspan : millis * 1000 ≤ 2 * span) :
    ¬ 2147483647 < Int.fdiv millis dayMillis ∧ ¬ Int.fdiv millis dayMillis < -2147483648 ∧
      ¬ 999999999 < (Int.fdiv millis dayMillis).natAbs := by
  rw [span_eq] at hspan
  have hdiv : Int.fdiv millis dayMillis = millis / 86400000 := Int.fdiv_eq_ediv_of_nonneg _ (by decide)
  rw [hdiv]
  omega

theorem addMillis_eq (hpos : 0 ≤ millis) (hspan : millis * 1000 ≤ 2 * span) :
    m.addMillis millis = match ofTicks? (m.ticks + millis * 1000) m.offset with
      | some later => .ok later
      | none => .error .dateOutOfRange := by
  obtain ⟨hupper, hlower, hdays⟩ := fdiv_days_bounds hpos hspan
  unfold addMillis
  dsimp only
  rw [if_neg (by simp only [Bool.or_eq_true, decide_eq_true_eq]; omega)]
  exact if_neg hdays

/-- **A later reading**, when the calendar has it. -/
theorem addMillis_of_within (hpos : 0 ≤ millis) (hwithin : m.ticks + millis * 1000 < span) :
    ∃ later : Moment, m.addMillis millis = .ok later ∧ later.ticks = m.ticks + millis * 1000 ∧
      later.offset = m.offset := by
  have hticks : (m.ticks + millis * 1000).toNat < Calendar.totalDays * dayMicros := by
    show _ < span
    omega
  rw [addMillis_eq hpos (by omega)]
  unfold ofTicks?
  rw [dif_pos hticks, if_pos (by omega)]
  exact ⟨_, rfl, Int.toNat_of_nonneg (by omega), rfl⟩

/-- No later reading beyond the calendar. -/
theorem addMillis_of_beyond (hpos : 0 ≤ millis) (hspan : millis * 1000 ≤ 2 * span)
    (hbeyond : span ≤ m.ticks + millis * 1000) : m.addMillis millis = .error .dateOutOfRange := by
  have hticks : ¬ (m.ticks + millis * 1000).toNat < Calendar.totalDays * dayMicros := by
    show ¬ _ < span
    omega
  rw [addMillis_eq hpos hspan]
  unfold ofTicks?
  rw [dif_neg hticks]

/-- The last reading of the calendar that is a whole number of milliseconds, in universal time. -/
def lastMilli : Moment := ⟨Calendar.totalDays * dayMicros - 1000, some .utc, by decide⟩

theorem exists_offset (h : m.isAnchored = true) : ∃ zone, m.offset = some zone :=
  Option.isSome_iff_exists.mp h

end Moment

/-! ## 2. Milliseconds -/

namespace Delay

open Moment

variable {d : Delay} {now t : Moment} {zone zone' : Offset}

theorem resumeTime_of_millis {millis : Int} (h : d.millis now = .ok millis) :
    d.resumeTime now = now.addMillis millis := by
  unfold resumeTime
  rw [h]
  rfl

theorem nonneg_of_cut {whole : Except ArithFault Int} {millis : Int} (h : whole.map (max 0) = .ok millis) :
    0 ≤ millis := by
  obtain ⟨n, _, rfl⟩ := map_eq_ok h
  exact Int.le_max_left _ _

/-- No delay waits for less than nothing. -/
theorem millis_nonneg {millis : Int} (h : d.millis now = .ok millis) : 0 ≤ millis := by
  have hnone : ∀ {n : Int}, (.ok 0 : Except ArithFault Int) = .ok n → 0 ≤ n := fun h => by
    cases h
    exact Int.le_refl 0
  unfold Delay.millis at h
  split at h
  · split at h
    · exact hnone h
    · obtain ⟨left, _, hcut⟩ := bind_eq_ok h
      exact nonneg_of_cut hcut
  · split at h
    · split at h
      · split at h
        · exact hnone h
        · exact nonneg_of_cut h
      · exact hnone h
    · exact hnone h

theorem since_of_offsets (ht : t.offset = some zone') (hnow : now.offset = some zone) :
    t.since now = .ok (shifted t.ticks zone' - shifted now.ticks zone) := by
  unfold since aligned?
  rw [ht, hnow]

theorem since_bounds {micros : Int} (h : t.since now = .ok micros) : micros.natAbs ≤ 2 * span := by
  have hspan := span_eq
  have ht : t.ticks < span := t.within
  have hnow : now.ticks < span := now.within
  unfold since at h
  split at h
  · rename_i x y haligned
    have hmicros : x - y = micros := Except.ok.inj h
    unfold aligned? at haligned
    split at haligned
    · rename_i p q _ _
      have hhigh := t.shifted_bounds p
      have hlow := now.shifted_bounds q
      cases haligned
      omega
    · cases haligned
      omega
    · cases haligned
  · cases h

/-- **Milliseconds between two moments**: the number nearest to the exact quotient. -/
theorem exists_millisSince {micros : Int} (h : t.since now = .ok micros) :
    ∃ units : Units, t.millisSince now = .ok (.finite (micros < 0) units) ∧
      IsNearest units ((micros.natAbs * one : Nat) / (1000 : Nat)) := by
  have hbounds := since_bounds h
  have hspan := span_eq
  obtain ⟨units, hunits, hnearest⟩ :=
    exists_ofQuotient micros (by decide : 0 < 1000) (by omega)
  refine ⟨units, ?_, hnearest⟩
  unfold millisSince
  rw [h, Except.map, hunits]

/-- **An absolute delay** waits for nothing when its time is not ahead, and else for what is left, up to less
    than a millisecond. -/
theorem millis_of_absolute {micros : Int} (hmode : d.mode = some "absolute") (htime : d.time = some t)
    (h : t.since now = .ok micros) :
    ∃ (units : Units) (millis : Int), IsNearest units ((micros.natAbs * one : Nat) / (1000 : Nat)) ∧
      millis = max 0 (truncUnits (micros < 0) units) ∧ d.millis now = .ok millis ∧
      (micros ≤ 0 → millis = 0) ∧
      (0 < micros → millis * 1000 < micros + 1000 ∧ micros < millis * 1000 + 1000) := by
  obtain ⟨units, hmillis, hnearest⟩ := exists_millisSince h
  have hbounds := since_bounds h
  have hspan := span_eq
  obtain ⟨hless, hmore⟩ := whole_near hnearest (by decide) (by omega)
  refine ⟨units, _, hnearest, rfl, ?_, fun hpast => ?_, fun hahead => ?_⟩
  · unfold millis
    simp only [hmode, if_true, htime]
    rw [hmillis]
    rfl
  · unfold truncUnits signedUnits
    split
    · omega
    · have hnone : micros = 0 := by
        simp only [decide_eq_true_eq] at *
        omega
      rw [hnone] at hmore
      omega
  · unfold truncUnits signedUnits
    rw [decide_eq_false (by omega), if_neg (by decide)]
    omega

/-- **A relative delay** that fits is over before the last moment of the calendar. -/
theorem millis_of_relative {amount left : Double} {name : String} {unit : DelayUnit}
    (hmode : d.mode = some "relative") (hamount : d.amount = some amount)
    (hfinite : amount.isFinite = true) (hpositive : amount.isPositive = true)
    (hname : d.unit = some name) (hunit : DelayUnit.ofText? name = some unit)
    (hleft : Moment.last.millisSince now = .ok left)
    (hlt : (amount.times unit.millis).lt left = true) (hnow : now.offset = some zone) :
    ∃ millis, d.millis now = .ok millis ∧ 0 ≤ millis ∧
      shifted now.ticks zone + millis * 1000 < shifted Moment.last.ticks .utc := by
  obtain ⟨units, htimes⟩ := exists_times_of_lt hfinite hpositive hlt
  have hsince := since_of_offsets (t := Moment.last) rfl hnow
  obtain ⟨bound, hmillis, hnearest⟩ := exists_millisSince hsince
  have hbounds := since_bounds hsince
  have hspan := span_eq
  generalize hmicros : shifted Moment.last.ticks .utc - shifted now.ticks zone = micros at *
  cases hleft.symm.trans hmillis
  rw [htimes] at hlt
  -- what is left cannot be negative, since the product is below it
  obtain ⟨hsign, hless⟩ := count_lt_of_lt hlt
  have hpos : 0 ≤ micros := Int.not_lt.mp (of_decide_eq_false hsign)
  obtain ⟨n, hn⟩ : ∃ n, n = (micros.natAbs + 999) / 1000 := ⟨_, rfl⟩
  have hcount := count_le_whole hnearest (by decide) (by omega) (by omega : micros.natAbs ≤ n * 1000)
  have hwhole : units.count / one < n :=
    (Nat.div_lt_iff_lt_mul Double.one_pos).mpr (Nat.lt_of_lt_of_le hless hcount)
  have hzero : amount.isZero = false := by
    obtain ⟨count, rfl, hcount⟩ := exists_of_isPositive hfinite hpositive
    exact beq_eq_false_iff_ne.mpr (Nat.ne_of_gt hcount)
  refine ⟨max 0 (units.count / one : Nat), ?_, Int.le_max_left _ _, ?_⟩
  · unfold millis
    simp only [hmode, hname, hamount, Option.getD_some, hunit, htimes, hzero, Bool.false_eq_true,
      if_false, if_true, Option.some.injEq, String.reduceEq]
    rfl
  · rw [Int.max_eq_right (Int.natCast_nonneg _)]
    omega

/-! ## 3. Accepted delays -/

/-- What keeps the end of a delay in the calendar: a clock that is not east of Greenwich, and an absolute
    time that is not in the last millisecond. -/
structure EndsInTime (d : Delay) (now : Moment) : Prop where
  notEast : ∀ zone, now.offset = some zone → zone.seconds ≤ 0
  notLate : d.mode = some "absolute" → ∀ t, d.time = some t → t.atMost Moment.lastMilli = .ok true

theorem offset_of_before (h : now.before t = .ok true) (hnow : now.offset = some zone) :
    ∃ zone', t.offset = some zone' ∧ shifted now.ticks zone < shifted t.ticks zone' := by
  unfold before aligned? at h
  rw [hnow] at h
  cases ht : t.offset with
  | none =>
    rw [ht] at h
    cases h
  | some zone' =>
    rw [ht] at h
    exact ⟨zone', rfl, of_decide_eq_true (Except.ok.inj h)⟩

theorem shifted_le_lastMilli (h : t.atMost lastMilli = .ok true) (ht : t.offset = some zone') :
    shifted t.ticks zone' + 1000 ≤ span := by
  rcases atMost_iff.mp h with ⟨p, q, hp, hq, hle⟩ | ⟨hnone, _⟩
  · cases ht.symm.trans hp
    cases Option.some.inj hq
    have hlast : shifted lastMilli.ticks .utc + 1000 = span := by decide
    omega
  · cases ht.symm.trans hnone

/-- **The milliseconds of a complete delay.** Up to a day beyond the calendar, they are fewer than spans
    may have. -/
theorem IsComplete.exists_millis (h : d.IsComplete now) (hnow : now.offset = some zone) :
    ∃ millis, d.millis now = .ok millis ∧ 0 ≤ millis ∧ millis * 1000 ≤ 2 * span ∧
      (d.EndsInTime now → shifted now.ticks zone + millis * 1000 < span) := by
  have hlow := now.shifted_bounds zone
  have hspan := span_eq
  rcases h with ⟨hmode, t, htime, hbefore⟩ |
    ⟨hmode, amount, name, unit, left, hamount, hfinite, hpositive, hname, hunit, hleft, hlt⟩
  · obtain ⟨zone', ht, hless⟩ := offset_of_before hbefore hnow
    obtain ⟨_, millis, _, _, hmillis, _, hnear⟩ :=
      millis_of_absolute hmode htime (since_of_offsets ht hnow)
    have hover := hnear (by omega)
    have hhigh := t.shifted_bounds zone'
    refine ⟨millis, hmillis, by omega, by omega, fun hends => ?_⟩
    have hlate := shifted_le_lastMilli (hends.notLate hmode t htime) ht
    omega
  · obtain ⟨millis, hmillis, hpos, hover⟩ :=
      millis_of_relative hmode hamount hfinite hpositive hname hunit hleft hlt hnow
    have hlast : shifted Moment.last.ticks .utc + 1 = span := by decide
    exact ⟨millis, hmillis, hpos, by omega, fun _ => by omega⟩

end Delay

/-- **Accepted delays can be calculated.** At the moment at which a flow is accepted, every delay of it has
    its milliseconds, none of them negative, and a moment at which it is over, not before that moment. Only
    a reading that the calendar does not have stands in the way, and when the delay ends in time none does. -/
theorem accepted_delay_computes {f : Flow} {now : Moment} {n : Node} (hnow : now.isAnchored = true)
    (haccepted : f.problems now = .ok []) (hn : n ∈ f.nodes) (hkind : n.kind = .delay) :
    ∃ d millis, n.data = .delay d ∧ d.millis now = .ok millis ∧ 0 ≤ millis ∧
      (∀ fault, d.resumeTime now = .error fault →
        fault = .dateOutOfRange ∧ Moment.span ≤ now.ticks + millis * 1000) ∧
      (∀ later, d.resumeTime now = .ok later → now.atMost later = .ok true) ∧
      (d.EndsInTime now →
        ∃ later, d.resumeTime now = .ok later ∧ later.atMost Moment.last = .ok true) := by
  have hcomplete := (Check.isWellFormed_of_problems haccepted).complete n hn
  unfold Node.IsComplete at hcomplete
  rw [hkind] at hcomplete
  obtain ⟨d, hdata, hd⟩ := hcomplete
  obtain ⟨zone, hzone⟩ := Moment.exists_offset hnow
  obtain ⟨millis, hmillis, hpos, hspan, hends⟩ := hd.exists_millis hzone
  have hresume := Delay.resumeTime_of_millis hmillis
  refine ⟨d, millis, hdata, hmillis, hpos, ?_⟩
  rw [hresume]
  by_cases hwithin : now.ticks + millis * 1000 < Moment.span
  · obtain ⟨later, hlater, hticks, hoffset⟩ := Moment.addMillis_of_within hpos hwithin
    rw [hlater]
    refine ⟨fun _ h => (nomatch h), fun _ h => ?_, fun hd => ⟨later, rfl, ?_⟩⟩
    · cases h
      exact Moment.atMost_of_later hpos hticks hoffset
    · have hlast : Moment.shifted Moment.last.ticks .utc + 1 = Moment.span := by decide
      have hover := hends hd
      refine Moment.atMost_iff.mpr (.inl ⟨zone, .utc, hoffset.trans hzone, rfl, ?_⟩)
      unfold Moment.shifted at hover hlast ⊢
      omega
  · rw [Moment.addMillis_of_beyond hpos hspan (Int.not_lt.mp hwithin)]
    refine ⟨fun _ h => ?_, fun _ h => (nomatch h), fun hd => ?_⟩
    · cases h
      exact ⟨rfl, Int.not_lt.mp hwithin⟩
    · -- west of Greenwich a reading is not after the instant it stands for
      have hover := hends hd
      have hwest := hd.notEast zone hzone
      unfold Moment.shifted secondMicros at hover
      omega

/-- A flow with one delay. -/
def Flow.waiting (d : Delay) : Flow where
  nodes := [⟨"start", .start, .empty⟩, ⟨"wait", .delay, .delay d⟩, ⟨"end", .finish, .empty⟩]
  edges := [⟨"e1", "start", "wait", none⟩, ⟨"e2", "wait", "end", none⟩]

/-- An absolute delay. -/
def Delay.upTo (t : Moment) : Delay := ⟨some "absolute", some t, none, none⟩

/-- A relative delay of so many hours. -/
def Delay.hours (count : Nat) : Delay := ⟨some "relative", none, some (.ofInt count), some "hours"⟩

/-- The first noon of the year 2030, in universal time. -/
def noon2030 : Moment := ⟨64029096000000000, some .utc, by decide⟩

/-- Half an hour before the last midnight of the calendar, five hours east of Greenwich. -/
def lateEast : Moment := ⟨315537895800000000, some ⟨18000, by decide⟩, by decide⟩

/-- Up to the last whole millisecond of the calendar. -/
theorem accepted_delay_computes_lastMilli :
    noon2030.isAnchored = true ∧ (Flow.waiting (.upTo .lastMilli)).problems noon2030 = .ok [] ∧
      (Delay.upTo .lastMilli).EndsInTime noon2030 ∧
      ∃ later, (Delay.upTo .lastMilli).resumeTime noon2030 = .ok later ∧
        later.atMost Moment.last = .ok true := by
  have haccepted : (Flow.waiting (.upTo .lastMilli)).problems noon2030 = .ok [] := by decide +kernel
  have hends : (Delay.upTo .lastMilli).EndsInTime noon2030 := {
    notEast := fun zone hzone => by cases hzone; decide
    notLate := fun _ t ht => by cases ht; decide }
  obtain ⟨d, _, hdata, _, _, _, _, hcomputes⟩ :=
    accepted_delay_computes (n := ⟨"wait", .delay, .delay (.upTo .lastMilli)⟩) rfl haccepted
      (.tail _ (.head _)) rfl
  cases hdata
  exact ⟨rfl, haccepted, hends, hcomputes hends⟩

/-- **Accepted, and over at no moment**: what is left to the last microsecond of the calendar is rounded up
    to a millisecond that begins after it, and a clock east of Greenwich has no reading for the hours that
    universal time has left. -/
theorem accepted_beyond_calendar :
    (Flow.waiting (.upTo .last)).problems noon2030 = .ok [] ∧
      (Delay.upTo .last).resumeTime noon2030 = .error .dateOutOfRange ∧
      (Flow.waiting (.hours 3)).problems lateEast = .ok [] ∧
      (Delay.hours 3).resumeTime lateEast = .error .dateOutOfRange := by
  decide +kernel

/-! ## 4. Absolute delays -/

/-- **Absolute delays are accurate.** What is left to the time of an absolute delay, an exact number of
    microseconds, becomes the nearest number of milliseconds and is cut to a whole one. That is never
    negative, and it is zero when the time is not ahead, so that the delay is over at once. When the time is
    ahead, the moment at which the delay is over is not before the clock and less than a millisecond from
    that time. -/
theorem Delay.absolute_accurate {d : Delay} {t : Moment} (hmode : d.mode = some "absolute")
    (htime : d.time = some t) (ht : t.isAnchored = true) (now : Moment) :
    (now.isAnchored = true → ∃ (micros : Int) (units : Units), t.since now = .ok micros ∧
      IsNearest units ((micros.natAbs * one : Nat) / (1000 : Nat)) ∧
      d.millis now = .ok (max 0 (truncUnits (micros < 0) units))) ∧
    (∀ millis, d.millis now = .ok millis → 0 ≤ millis) ∧
    (t.atMost now = .ok true → d.resumeTime now = .ok now) ∧
    (now.before t = .ok true → ∀ later, d.resumeTime now = .ok later →
      now.atMost later = .ok true ∧ ∃ gap, later.since t = .ok gap ∧ gap.natAbs < 1000) := by
  refine ⟨fun hnow => ?_, fun _ hmillis => Delay.millis_nonneg hmillis, fun hpast => ?_,
    fun hahead later hlater => ?_⟩
  · obtain ⟨micros, hsince⟩ := Moment.since_of_kind (ht.trans hnow.symm)
    obtain ⟨units, _, hnearest, rfl, hmillis, _, _⟩ := Delay.millis_of_absolute hmode htime hsince
    exact ⟨micros, units, hsince, hnearest, hmillis⟩
  · obtain ⟨micros, hsince, hle⟩ := Moment.since_of_atMost hpast
    obtain ⟨_, millis, _, _, hmillis, hnone, _⟩ := Delay.millis_of_absolute hmode htime hsince
    rw [Delay.resumeTime_of_millis hmillis, hnone hle]
    exact Moment.addMillis_zero now
  · obtain ⟨micros, hsince, hlt⟩ := Moment.since_of_before hahead
    obtain ⟨_, millis, _, _, hmillis, _, hnear⟩ := Delay.millis_of_absolute hmode htime hsince
    have hpos := Delay.millis_nonneg hmillis
    rw [Delay.resumeTime_of_millis hmillis] at hlater
    obtain ⟨hticks, hoffset⟩ := Moment.eq_of_addMillis hlater
    obtain ⟨hover, hunder⟩ := hnear hlt
    exact ⟨Moment.atMost_of_later hpos hticks hoffset, _, Moment.since_of_later hsince hticks hoffset,
      by omega⟩

/-- One microsecond before the last whole millisecond of the calendar. -/
def Moment.beforeLastMilli : Moment := ⟨Calendar.totalDays * dayMicros - 1001, some .utc, by decide⟩

/-- Over the whole calendar, numbers are a sixteenth of a millisecond apart, and the last microsecond of what
    is left is rounded up. -/
theorem Delay.absolute_accurate_beforeLastMilli :
    Moment.beforeLastMilli.isAnchored = true ∧ Moment.first.before .beforeLastMilli = .ok true ∧
      (Delay.upTo .beforeLastMilli).resumeTime .first = .ok .lastMilli ∧
      Moment.first.atMost .lastMilli = .ok true ∧
      ∃ gap, Moment.lastMilli.since .beforeLastMilli = .ok gap ∧ gap.natAbs < 1000 := by
  have hahead : Moment.first.before .beforeLastMilli = .ok true := by decide +kernel
  have hlater : (Delay.upTo .beforeLastMilli).resumeTime .first = .ok .lastMilli := by decide +kernel
  obtain ⟨_, _, _, hnear⟩ :=
    Delay.absolute_accurate (d := .upTo .beforeLastMilli) rfl rfl rfl Moment.first
  obtain ⟨hnot, hgap⟩ := hnear hahead _ hlater
  exact ⟨rfl, hahead, hlater, hnot, hgap⟩

end Dripline
