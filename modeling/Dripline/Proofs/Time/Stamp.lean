import Dripline.Time.Stamp
import Dripline.Proofs.Time.Calendar
import Mathlib.Tactic.IntervalCases

/-!
# Time stamps read back

Each part of a time stamp is read from the front of a text that begins with it, and leaves the rest:

* `takeFixed_fixedDigits`: a number in a fixed number of digits;
* `takeDate_digits`, `takeTime_timeChars`, `readOffset?_offsetChars`: date, time and offset;
* `parts_chars`: the text of a moment in its parts;
* **`ofText?_render`**: a moment is read back from its text.

What is read after a time is an offset or nothing, so that the digits of a fraction end where they
were written to end.
-/

namespace Dripline

open Text

/-! ## 1. Digits -/

namespace Text

theorem isDigit_digitChar {d : Nat} (h : d < 10) : isDigit (digitChar d) = true := by
  interval_cases d <;> rfl

theorem toNat_digitChar {d : Nat} (h : d < 10) : (digitChar d).toNat - '0'.toNat = d := by
  interval_cases d <;> rfl

theorem digitValue?_digitChar {d : Nat} (h : d < 10) : digitValue? (digitChar d) = some d := by
  interval_cases d <;> rfl

theorem length_fixedDigits (w n : Nat) : (fixedDigits w n).length = w := by
  induction w generalizing n with
  | zero => rfl
  | succ w ih =>
    unfold fixedDigits
    rw [List.length_append, ih, List.length_singleton]

theorem isDigit_of_mem_fixedDigits {w n : Nat} {c : Char} (h : c ∈ fixedDigits w n) :
    isDigit c = true := by
  induction w generalizing n with
  | zero => cases h
  | succ w ih =>
    unfold fixedDigits at h
    rcases List.mem_append.mp h with h | h
    · exact ih h
    · rw [List.mem_singleton.mp h]
      exact isDigit_digitChar (Nat.mod_lt _ (by decide))

theorem readNatFrom?_append (base acc : Nat) (cs ds : List Char) :
    readNatFrom? base acc (cs ++ ds) =
      (readNatFrom? base acc cs).bind fun acc => readNatFrom? base acc ds := by
  induction cs generalizing acc with
  | nil => rfl
  | cons c cs ih =>
    rw [List.cons_append, readNatFrom?, readNatFrom?]
    cases digitValue? c with
    | none => rfl
    | some d =>
      dsimp only
      split
      · exact ih _
      · rfl

/-- The number in the last digits of a number. -/
theorem mod_pow_succ (n w : Nat) : n / 10 % 10 ^ w * 10 + n % 10 = n % 10 ^ (w + 1) := by
  rw [Nat.pow_succ', Nat.mod_mul, Nat.add_comm, Nat.mul_comm 10]

theorem readNatFrom?_fixedDigits (w acc n : Nat) :
    readNatFrom? 10 acc (fixedDigits w n) = some (acc * 10 ^ w + n % 10 ^ w) := by
  induction w generalizing n with
  | zero => simp [fixedDigits, readNatFrom?, Nat.mod_one]
  | succ w ih =>
    have hd : n % 10 < 10 := Nat.mod_lt _ (by decide)
    unfold fixedDigits
    rw [readNatFrom?_append, ih, Option.bind_some]
    rw [readNatFrom?, digitValue?_digitChar hd]
    dsimp only
    rw [if_pos hd, readNatFrom?, ← mod_pow_succ, Nat.pow_succ, Nat.add_mul, Nat.mul_assoc,
      Nat.add_assoc]

end Text

namespace Moment

/-! ## 2. Numbers at the front of a text -/

theorem takeFixed_add (v w acc : Nat) (cs : List Char) :
    takeFixed (v + w) acc cs =
      (takeFixed v acc cs).bind fun taken => takeFixed w taken.1 taken.2 := by
  induction v generalizing acc cs with
  | zero => rw [Nat.zero_add]; rfl
  | succ v ih =>
    rw [Nat.succ_add]
    cases cs with
    | nil => rfl
    | cons c cs =>
      rw [takeFixed, takeFixed]
      split
      · exact ih _ _
      · rfl

theorem takeFixed_append (w acc n : Nat) (rest : List Char) :
    takeFixed w acc (fixedDigits w n ++ rest) = some (acc * 10 ^ w + n % 10 ^ w, rest) := by
  induction w generalizing n rest with
  | zero => simp [fixedDigits, takeFixed, Nat.mod_one]
  | succ w ih =>
    have hd : n % 10 < 10 := Nat.mod_lt _ (by decide)
    unfold fixedDigits
    rw [takeFixed_add, List.append_assoc, ih, Option.bind_some]
    rw [List.singleton_append, takeFixed, if_pos (isDigit_digitChar hd), toNat_digitChar hd,
      takeFixed, ← mod_pow_succ, Nat.pow_succ, Nat.add_mul, Nat.mul_assoc, Nat.add_assoc]

/-- **A number in a fixed number of digits** is read from the front of a text. -/
theorem takeFixed_fixedDigits {w n : Nat} (h : n < 10 ^ w) (rest : List Char) :
    takeFixed w 0 (fixedDigits w n ++ rest) = some (n, rest) := by
  rw [takeFixed_append, Nat.zero_mul, Nat.zero_add, Nat.mod_eq_of_lt h]

theorem takeChar_cons (c : Char) (rest : List Char) : takeChar c (c :: rest) = some rest := by
  unfold takeChar
  exact if_pos rfl

theorem fractionMicros_fixedDigits {n : Nat} (h : n < 10 ^ 6) :
    fractionMicros (fixedDigits 6 n) = n := by
  unfold fractionMicros
  rw [List.take_left' (length_fixedDigits 6 n), readNatFrom?_fixedDigits, Nat.zero_mul, Nat.zero_add,
    Nat.mod_eq_of_lt h]
  rfl

/-! ## 3. Dates -/

theorem takeDate_digits {d : Calendar.Date} (hdate : d.IsDate) (hlast : d.year ≤ Calendar.lastYear)
    (rest : List Char) :
    takeDate (fixedDigits 4 d.year ++
        '-' :: (fixedDigits 2 d.month ++ '-' :: (fixedDigits 2 d.day ++ rest))) =
      some ((d.year, d.month, d.day), rest) := by
  obtain ⟨_, hmonth, hday⟩ := hdate
  have hlength := Calendar.daysInMonth_le d.year d.month
  unfold Calendar.lastYear at hlast
  unfold takeDate
  rw [takeFixed_fixedDigits (by omega)]
  simp only [Option.bind_eq_bind, Option.bind_some, takeChar_cons]
  rw [takeFixed_fixedDigits (by omega)]
  simp only [Option.bind_some, takeChar_cons]
  rw [takeFixed_fixedDigits (by omega)]
  rfl

/-! ## 4. Times of day -/

/-- What may follow a time of day: no digit and no point. -/
def EndsTime (rest : List Char) : Prop := ∀ c, rest.head? = some c → isDigit c = false ∧ c ≠ '.'

theorem EndsTime.takeWhile {rest : List Char} (h : EndsTime rest) : rest.takeWhile isDigit = [] := by
  cases rest with
  | nil => rfl
  | cons c cs => rw [List.takeWhile_cons_of_neg (by rw [(h c rfl).1]; exact nofun)]

theorem takeWhile_fixedDigits (w n : Nat) {rest : List Char} (h : EndsTime rest) :
    (fixedDigits w n ++ rest).takeWhile isDigit = fixedDigits w n := by
  rw [List.takeWhile_append_of_pos fun c hc => isDigit_of_mem_fixedDigits hc, h.takeWhile,
    List.append_nil]

theorem dropWhile_fixedDigits (w n : Nat) {rest : List Char} (h : EndsTime rest) :
    (fixedDigits w n ++ rest).dropWhile isDigit = rest := by
  have hsplit := List.takeWhile_append_dropWhile (p := isDigit) (l := fixedDigits w n ++ rest)
  rw [takeWhile_fixedDigits w n h] at hsplit
  exact List.append_cancel_left hsplit

theorem takeSeconds_whole {cs rest : List Char} {s : Nat} (hread : takeFixed 2 0 cs = some (s, rest))
    (h : EndsTime rest) : takeSeconds (':' :: cs) = some ((s, 0), rest) := by
  unfold takeSeconds
  simp only [hread]
  split
  · rename_i heq
    cases heq
  · rename_i heq
    cases heq
    exact absurd rfl (h '.' rfl).2
  · rename_i heq
    cases heq
    rfl

theorem takeSeconds_fraction {cs rest : List Char} {s fraction : Nat}
    (hread : takeFixed 2 0 cs = some (s, '.' :: (fixedDigits 6 fraction ++ rest)))
    (hfraction : fraction < 10 ^ 6) (h : EndsTime rest) :
    takeSeconds (':' :: cs) = some ((s, fraction), rest) := by
  have hsome : (fixedDigits 6 fraction).isEmpty = false := by
    rw [List.isEmpty_eq_false_iff_exists_mem]
    exact ⟨_, List.mem_append_right _ (List.mem_singleton_self _)⟩
  unfold takeSeconds
  simp only [hread]
  rw [takeWhile_fixedDigits 6 _ h, dropWhile_fixedDigits 6 _ h, hsome,
    fractionMicros_fixedDigits hfraction]
  rfl

/-- Seconds are read, and the fraction if there is one. -/
theorem takeSeconds_chars {s fraction : Nat} (hs : s < 60) (hfraction : fraction < 10 ^ 6)
    {rest : List Char} (h : EndsTime rest) :
    takeSeconds (':' :: (fixedDigits 2 s ++
        ((if fraction = 0 then [] else '.' :: fixedDigits 6 fraction) ++ rest))) =
      some ((s, fraction), rest) := by
  have hread := takeFixed_fixedDigits (w := 2) (n := s) (by omega)
  by_cases hzero : fraction = 0
  · rw [if_pos hzero, hzero]
    exact takeSeconds_whole (hread _) h
  · rw [if_neg hzero]
    exact takeSeconds_fraction (hread _) hfraction h

theorem takeTime_timeChars (ticks : Nat) {rest : List Char} (h : EndsTime rest) :
    takeTime (timeChars ticks ++ rest) =
      some ((ticks % dayMicros / secondMicros / 3600, ticks % dayMicros / secondMicros / 60 % 60,
        ticks % dayMicros / secondMicros % 60, ticks % secondMicros), rest) := by
  have hseconds : ticks % dayMicros / secondMicros < 86400 := by
    unfold dayMicros secondMicros
    omega
  have hfraction : ticks % secondMicros < 10 ^ 6 := Nat.mod_lt _ (by decide)
  unfold takeTime timeChars
  dsimp only
  generalize ticks % dayMicros / secondMicros = s at hseconds ⊢
  simp only [List.append_assoc, List.cons_append]
  rw [takeFixed_fixedDigits (by omega)]
  simp only [Option.bind_eq_bind, Option.bind_some, takeChar_cons]
  rw [takeFixed_fixedDigits (by omega)]
  simp only [Option.bind_some]
  rw [takeSeconds_chars (Nat.mod_lt _ (by decide)) hfraction h]
  rfl

/-! ## 5. Offsets -/

/-- The sign of an offset. -/
def signChar (o : Offset) : Char := if o.seconds < 0 then '-' else '+'

/-- Hours, minutes and seconds after a sign. The seconds are written where there are any. -/
theorem readOffset?_signed {c : Char} (hc : c = '+' ∨ c = '-') {n : Nat} (hn : n < 86400) :
    readOffset? (c :: (fixedDigits 2 (n / 3600) ++ ':' :: (fixedDigits 2 (n / 60 % 60) ++
        (if n % 60 = 0 then [] else ':' :: fixedDigits 2 (n % 60))))) =
      (Offset.ofSeconds? (if c = '-' then -(n : Int) else n)).map some := by
  have hminute : n / 60 % 60 < 60 := Nat.mod_lt _ (by decide)
  have hsecond : n % 60 < 60 := Nat.mod_lt _ (by decide)
  have hsign : (decide (c = '+') || decide (c = '-')) = true := by
    rw [Bool.or_eq_true, decide_eq_true_eq, decide_eq_true_eq]
    exact hc
  unfold readOffset?
  split
  · rename_i heq; cases heq
  · rename_i heq; cases heq
  · rename_i heq; cases heq
  · rename_i heq
    cases heq
    rw [if_pos hsign, takeFixed_fixedDigits (by omega)]
    simp only [Option.bind_eq_bind, Option.bind_some, takeChar_cons, Option.getD_some]
    rw [takeFixed_fixedDigits (by omega)]
    simp only [Option.bind_some]
    by_cases hzero : n % 60 = 0
    · have htotal : ((n / 3600 : Nat) * 60 + (n / 60 % 60 : Nat)) * 60 + (0 : Nat) = (n : Int) := by
        omega
      rw [if_pos hzero]
      dsimp only
      rw [htotal, List.isEmpty_nil, decide_eq_true hminute]
      exact (Option.map_eq_bind ..).symm
    · have htotal : ((n / 3600 : Nat) * 60 + (n / 60 % 60 : Nat)) * 60 + (n % 60 : Nat) = (n : Int) := by
        omega
      have hread := takeFixed_fixedDigits (w := 2) (n := n % 60) (by omega) []
      rw [List.append_nil] at hread
      rw [if_neg hzero]
      dsimp only
      rw [takeChar_cons, Option.bind_some, hread, Option.bind_some, htotal, List.isEmpty_nil,
        decide_eq_true hminute, decide_eq_true hsecond]
      exact (Option.map_eq_bind ..).symm

/-- **An offset is read back**, and nothing is read as no offset. -/
theorem readOffset?_offsetChars (offset : Option Offset) :
    readOffset? ((offset.map offsetChars).getD []) = some offset := by
  cases offset with
  | none => rfl
  | some o =>
    have hwithin := o.within
    have hsign : signChar o = '+' ∨ signChar o = '-' := by
      unfold signChar
      split
      · exact .inr rfl
      · exact .inl rfl
    have hseconds : (if signChar o = '-' then -(o.seconds.natAbs : Int) else o.seconds.natAbs) =
        o.seconds := by
      unfold signChar
      by_cases hnegative : o.seconds < 0
      · rw [if_pos hnegative, if_pos rfl]
        omega
      · rw [if_neg hnegative, if_neg (by decide)]
        omega
    have hread := readOffset?_signed hsign hwithin
    rw [hseconds, show Offset.ofSeconds? o.seconds = some o from dif_pos hwithin] at hread
    show readOffset? (offsetChars o) = _
    unfold offsetChars
    simp only [List.cons_append, List.append_assoc]
    exact hread

theorem endsTime_offsetChars (offset : Option Offset) :
    EndsTime ((offset.map offsetChars).getD []) := by
  intro c hc
  cases offset with
  | none => cases hc
  | some o =>
    have hsign : signChar o = c := Option.some.inj hc
    rw [← hsign]
    unfold signChar
    split <;> decide

/-! ## 6. Moments -/

/-- The fields of a reading on a date. -/
def fieldsOn (d : Calendar.Date) (ticks : Nat) : Fields where
  year := d.year
  month := d.month
  day := d.day
  hour := ticks % dayMicros / secondMicros / 3600
  minute := ticks % dayMicros / secondMicros / 60 % 60
  second := ticks % dayMicros / secondMicros % 60
  micros := ticks % secondMicros

theorem ticks_fieldsOn {d : Calendar.Date} {ticks : Nat} (h : d.days = ticks / dayMicros) :
    (fieldsOn d ticks).ticks = ticks := by
  show d.days * dayMicros + ((ticks % dayMicros / secondMicros / 3600 * 60 +
    ticks % dayMicros / secondMicros / 60 % 60) * 60 + ticks % dayMicros / secondMicros % 60) *
      secondMicros + ticks % secondMicros = ticks
  rw [h]
  unfold dayMicros secondMicros
  omega

theorem fault?_fieldsOn {d : Calendar.Date} (hdate : d.IsDate) (hlast : d.year ≤ Calendar.lastYear)
    (ticks : Nat) : (fieldsOn d ticks).fault? = none := by
  obtain ⟨hyear, hmonth, hday⟩ := hdate
  have hseconds : ticks % dayMicros / secondMicros < 86400 := by
    unfold dayMicros secondMicros
    omega
  unfold Fields.fault? fieldsOn
  simp only [Bool.or_eq_true, decide_eq_true_eq]
  rw [if_neg (by omega), if_neg (by omega), if_neg (by omega), if_neg (by omega), if_neg (by omega),
    if_neg (by omega)]

theorem ofTicks?_ticks (m : Moment) : ofTicks? m.ticks m.offset = some m := by
  unfold ofTicks?
  rw [dif_pos (show (m.ticks : Int).toNat < Calendar.totalDays * dayMicros from m.within),
    if_pos (Int.natCast_nonneg _)]
  rfl

theorem ofFields?_fieldsOn (m : Moment) {d : Calendar.Date} (hdays : d.days = m.ticks / dayMicros)
    (hdate : d.IsDate) (hlast : d.year ≤ Calendar.lastYear) :
    ofFields? (fieldsOn d m.ticks) m.offset = .ok m := by
  unfold ofFields?
  rw [fault?_fieldsOn hdate hlast, ticks_fieldsOn hdays, ofTicks?_ticks]

/-- **The text of a moment in its parts**: a date, the letter between date and time, a time of day and
    the offset, whose numbers are those of the moment. -/
theorem parts_chars (m : Moment) : ∃ (f : Fields) (time offset : List Char),
    takeDate m.chars = some ((f.year, f.month, f.day), 'T' :: time) ∧
      takeTime time = some ((f.hour, f.minute, f.second, f.micros), offset) ∧
      readOffset? offset = some m.offset ∧ ofFields? f m.offset = .ok m := by
  have hdate := Calendar.isDate_ofDays (m.ticks / dayMicros)
  have hdays := Calendar.days_ofDays (m.ticks / dayMicros)
  have hlast := Calendar.year_ofDays_le
    (Nat.div_lt_of_lt_mul (Nat.mul_comm Calendar.totalDays dayMicros ▸ m.within))
  unfold chars dateChars
  generalize Calendar.ofDays (m.ticks / dayMicros) = d at hdate hdays hlast ⊢
  simp only [List.append_assoc, List.cons_append]
  exact ⟨fieldsOn d m.ticks, _, _, takeDate_digits hdate hlast _,
    takeTime_timeChars m.ticks (endsTime_offsetChars m.offset), readOffset?_offsetChars m.offset,
    ofFields?_fieldsOn m hdays hdate hlast⟩

/-- **A moment is read back from its text.** -/
theorem ofText?_render (m : Moment) : ofText? m.render = some m := by
  obtain ⟨f, time, offset, hdate, htime, hoffset, hfields⟩ := parts_chars m
  unfold ofText? render
  simp only [String.toList_ofList, hdate, htime, hoffset, hfields, Option.bind_eq_bind, Option.bind_some]
  rfl

end Moment

end Dripline
