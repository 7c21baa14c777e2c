import SmartClock.Alarm.Clock

/-!
# `update_clock`, statement by statement

The screen thread has the higher priority and reads the clock variables wherever it finds the
alarm thread. Here the alarm thread stops at every statement of `update_clock`; the rest of a
round, which leaves the clock alone, is one step. What the statements left of an
`update_clock` do is `ClockPc.finish`, and no statement changes it (`finish_statement`), so the
rounds are those of `tick` (`tracks_afterStatements`). `ClockCourse` says what the three variables are at each statement.
-/

namespace SmartClock.Alarm

/-- The statements of `update_clock`. -/
inductive ClockPc where
  /-- `current_second++;` -/
  | increment
  /-- `if (current_second >= 60)` -/
  | testSecond
  /-- `current_second = 0;` -/
  | zeroSecond
  /-- `current_minute++;` -/
  | carryMinute
  | testMinute
  | zeroMinute
  | carryHour
  | testHour
  | zeroHour
  /-- the other functions of the round, and `k_sleep` -/
  | rest
deriving DecidableEq

/-- The alarm thread, with the rounds it has completed. -/
structure ClockRun where
  alarm : AlarmState
  pc : ClockPc
  rounds : Nat

/-- One statement. The samples are those of the round's `alarm_check_buttons`. -/
def statement (b : Samples) : ClockRun → ClockRun
  | ⟨s, .increment, n⟩ => ⟨{ s with currentSecond := s.currentSecond + 1 }, .testSecond, n⟩
  | ⟨s, .testSecond, n⟩ => ⟨s, if s.currentSecond ≥ 60 then .zeroSecond else .testMinute, n⟩
  | ⟨s, .zeroSecond, n⟩ => ⟨{ s with currentSecond := 0 }, .carryMinute, n⟩
  | ⟨s, .carryMinute, n⟩ => ⟨{ s with currentMinute := s.currentMinute + 1 }, .testMinute, n⟩
  | ⟨s, .testMinute, n⟩ => ⟨s, if s.currentMinute ≥ 60 then .zeroMinute else .testHour, n⟩
  | ⟨s, .zeroMinute, n⟩ => ⟨{ s with currentMinute := 0 }, .carryHour, n⟩
  | ⟨s, .carryHour, n⟩ => ⟨{ s with currentHour := s.currentHour + 1 }, .testHour, n⟩
  | ⟨s, .testHour, n⟩ => ⟨s, if s.currentHour ≥ 24 then .zeroHour else .rest, n⟩
  | ⟨s, .zeroHour, n⟩ => ⟨{ s with currentHour := 0 }, .rest, n⟩
  | ⟨s, .rest, n⟩ =>
    ⟨updateAutoMute (updateSnooze (checkAlarmTime (alarmCheckButtons b s))), .increment, n + 1⟩

/-- The alarm thread after some statements, behind `alarm_gpio_init`. -/
def afterStatements (samples : List Samples) : ClockRun :=
  Run.after statement ⟨alarmGpioInit initial, .increment, 0⟩ samples

/-! ## The statements make up the rounds -/

/-- `if (current_hour >= 24) { current_hour = 0; }` -/
def wrapHour (s : AlarmState) : AlarmState := if s.currentHour ≥ 24 then { s with currentHour := 0 } else s

/-- From the minute's test on. -/
def wrapMinute (s : AlarmState) : AlarmState :=
  wrapHour (if s.currentMinute ≥ 60 then
    { s with currentMinute := 0, currentHour := s.currentHour + 1 } else s)

/-- The clock when this `update_clock` is through. -/
def ClockPc.finish : ClockPc → AlarmState → AlarmState
  | increment, s => updateClock s
  | testSecond, s => wrapMinute (if s.currentSecond ≥ 60 then
      { s with currentSecond := 0, currentMinute := s.currentMinute + 1 } else s)
  | zeroSecond, s => wrapMinute { s with currentSecond := 0, currentMinute := s.currentMinute + 1 }
  | carryMinute, s => wrapMinute { s with currentMinute := s.currentMinute + 1 }
  | testMinute, s => wrapMinute s
  | zeroMinute, s => wrapHour { s with currentMinute := 0, currentHour := s.currentHour + 1 }
  | carryHour, s => wrapHour { s with currentHour := s.currentHour + 1 }
  | testHour, s => wrapHour s
  | zeroHour, s => { s with currentHour := 0 }
  | rest, s => s

/-- **The statements add up.** -/
theorem finish_statement (b : Samples) {c : ClockRun} (inside : c.pc ≠ .rest) :
    (statement b c).pc.finish (statement b c).alarm = c.pc.finish c.alarm := by
  obtain ⟨s, pc, n⟩ := c
  cases pc with
  | rest => exact absurd rfl inside
  | testSecond =>
    by_cases carry : s.currentSecond ≥ 60
    · simp only [statement, ClockPc.finish, if_pos carry]
    · simp only [statement, ClockPc.finish, if_neg carry]
  | testMinute =>
    by_cases carry : s.currentMinute ≥ 60
    · simp only [statement, ClockPc.finish, wrapMinute, if_pos carry]
    · simp only [statement, ClockPc.finish, wrapMinute, if_neg carry]
  | testHour =>
    by_cases midnight : s.currentHour ≥ 24
    · simp only [statement, ClockPc.finish, wrapHour, if_pos midnight]
    · simp only [statement, ClockPc.finish, wrapHour, if_neg midnight]
  | increment | zeroSecond | carryMinute | zeroMinute | carryHour | zeroHour => rfl

/-- The thread is in the round behind those of `tick`. -/
def ClockRun.Tracks (c : ClockRun) : Prop :=
  ∃ bs : List Samples, bs.length = c.rounds ∧
    c.pc.finish c.alarm = updateClock (Run.after tick (alarmGpioInit initial) bs) ∧
    (c.pc = .increment → c.alarm = Run.after tick (alarmGpioInit initial) bs)

theorem tracks_statement (b : Samples) (c : ClockRun) (h : c.Tracks) : (statement b c).Tracks := by
  obtain ⟨bs, count, finish, begins⟩ := h
  by_cases through : c.pc = .rest
  · obtain ⟨s, pc, n⟩ := c
    obtain rfl : pc = .rest := through
    have next : Run.after tick (alarmGpioInit initial) (bs ++ [b]) =
        updateAutoMute (updateSnooze (checkAlarmTime (alarmCheckButtons b s))) := by
      rw [Run.after, List.foldl_append]
      show tick b (Run.after tick (alarmGpioInit initial) bs) = _
      rw [tick, ← finish]
      rfl
    refine ⟨bs ++ [b], ?_, ?_, ?_⟩
    · rw [List.length_append, count]
      rfl
    · rw [next]
      rfl
    · intro _
      exact next.symm
  · refine ⟨bs, ?_, (finish_statement b through).trans finish, ?_⟩
    · rw [count]
      obtain ⟨s, pc, n⟩ := c
      cases pc with
      | rest => exact absurd rfl through
      | _ => rfl
    · intro begun
      obtain ⟨s, pc, n⟩ := c
      cases pc with
      | rest => exact absurd rfl through
      | testSecond | testMinute | testHour =>
        unfold statement at begun
        dsimp only at begun
        split at begun <;> cases begun
      | _ => cases begun

theorem tracks_afterStatements (samples : List Samples) : (afterStatements samples).Tracks :=
  Run.after_invariant ⟨[], rfl, rfl, fun _ => rfl⟩ tracks_statement samples

/-! ## The clock at each statement -/

/-- What the three variables say, in seconds. -/
def AlarmState.reading (s : AlarmState) : Int := s.currentHour * 3600 + s.currentMinute * 60 + s.currentSecond

/-- The three variables in their ranges, but for the ends given. -/
structure Ranges (s : AlarmState) (second minute hour : Int) : Prop where
  second : 0 ≤ s.currentSecond ∧ s.currentSecond ≤ second
  minute : 0 ≤ s.currentMinute ∧ s.currentMinute ≤ minute
  hour : 0 ≤ s.currentHour ∧ s.currentHour ≤ hour

/-- The clock at a statement of the update that comes to second `t` of the day. -/
inductive ClockCourse (s : AlarmState) (t : Int) : ClockPc → Prop where
  | increment (ranges : Ranges s 59 59 23) (total : s.reading + 1 = t) : ClockCourse s t .increment
  | testSecond (ranges : Ranges s 60 59 23) (total : s.reading = t) : ClockCourse s t .testSecond
  | zeroSecond (ranges : Ranges s 60 59 23) (total : s.reading = t) (wraps : s.currentSecond = 60) :
      ClockCourse s t .zeroSecond
  | carryMinute (ranges : Ranges s 0 59 23) (total : s.reading + 60 = t) : ClockCourse s t .carryMinute
  | testMinute (ranges : Ranges s 59 60 23) (total : s.reading = t)
      (carried : s.currentMinute = 60 → s.currentSecond = 0) : ClockCourse s t .testMinute
  | zeroMinute (ranges : Ranges s 0 60 23) (total : s.reading = t) (wraps : s.currentMinute = 60) :
      ClockCourse s t .zeroMinute
  | carryHour (ranges : Ranges s 0 0 23) (total : s.reading + 3600 = t) : ClockCourse s t .carryHour
  | testHour (ranges : Ranges s 59 59 24) (total : s.reading = t)
      (carried : s.currentHour = 24 → s.currentMinute = 0 ∧ s.currentSecond = 0) : ClockCourse s t .testHour
  | zeroHour (ranges : Ranges s 0 0 24) (total : s.reading = t) (wraps : s.currentHour = 24) :
      ClockCourse s t .zeroHour
  | rest (ranges : Ranges s 59 59 23) (total : s.reading = t % 86400) : ClockCourse s t .rest

theorem Ranges.mono {s : AlarmState} {second minute hour : Int} (h : Ranges s second minute hour)
    (ends : second ≤ 60 ∧ minute ≤ 60 ∧ hour ≤ 24) : Ranges s 60 60 24 := by
  obtain ⟨second', minute', hour'⟩ := h
  exact ⟨by omega, by omega, by omega⟩

theorem ClockCourse.ranges {s : AlarmState} {t : Int} {pc : ClockPc} (h : ClockCourse s t pc) :
    Ranges s 60 60 24 := by
  cases h with
  | increment ranges | testSecond ranges | zeroSecond ranges | carryMinute ranges | testMinute ranges
  | zeroMinute ranges | carryHour ranges | testHour ranges | zeroHour ranges | rest ranges =>
    exact ranges.mono (by decide)

/-- The second of the day that the round's update comes to, from 1 on. -/
def ClockRun.target (c : ClockRun) : Int := c.rounds % 86400 + 1

def ClockRun.Course (c : ClockRun) : Prop := ClockCourse c.alarm c.target c.pc

/-- The functions behind `update_clock` leave its course alone. -/
theorem course_rest (b : Samples) {s : AlarmState} {n : Nat} (h : (⟨s, .rest, n⟩ : ClockRun).Course) :
    (statement b ⟨s, .rest, n⟩).Course := by
  have same := (keepsTime_rest b).clock s
  simp only [AlarmState.clock, Prod.mk.injEq] at same
  obtain ⟨hour, minute, second⟩ := same
  cases h with
  | rest ranges total =>
    obtain ⟨second', minute', hour'⟩ := ranges
    simp only [AlarmState.reading, ClockRun.target] at total
    apply ClockCourse.increment
    · constructor <;> simp only [statement, hour, minute, second] <;> assumption
    · simp only [statement, AlarmState.reading, ClockRun.target, hour, minute, second]
      omega

/-- One statement keeps the clock in its course. -/
theorem course_statement (b : Samples) (c : ClockRun) (h : c.Course) : (statement b c).Course := by
  obtain ⟨s, pc, n⟩ := c
  have target : (1 : Int) ≤ (n : Int) % 86400 + 1 ∧ (n : Int) % 86400 + 1 ≤ 86400 := by omega
  have course : ClockCourse s (n % 86400 + 1) pc := h
  cases course with
  | rest => exact course_rest b h
  | increment ranges total =>
    obtain ⟨second, minute, hour⟩ := ranges
    simp only [AlarmState.reading] at total
    apply ClockCourse.testSecond
    · constructor <;> dsimp only [statement] <;> omega
    · simp only [statement, AlarmState.reading, ClockRun.target]
      omega
  | testSecond ranges total =>
    obtain ⟨second, minute, hour⟩ := ranges
    simp only [AlarmState.reading] at total
    unfold ClockRun.Course
    simp only [statement]
    by_cases carry : s.currentSecond ≥ 60
    · rw [if_pos carry]
      exact .zeroSecond ⟨second, minute, hour⟩ total (by omega)
    · rw [if_neg carry]
      exact .testMinute ⟨by omega, by omega, hour⟩ total (by omega)
  | zeroSecond ranges total wraps =>
    obtain ⟨second, minute, hour⟩ := ranges
    simp only [AlarmState.reading] at total
    apply ClockCourse.carryMinute
    · constructor <;> dsimp only [statement] <;> omega
    · simp only [statement, AlarmState.reading, ClockRun.target]
      omega
  | carryMinute ranges total =>
    obtain ⟨second, minute, hour⟩ := ranges
    simp only [AlarmState.reading] at total
    apply ClockCourse.testMinute
    · constructor <;> dsimp only [statement] <;> omega
    · simp only [statement, AlarmState.reading, ClockRun.target]
      omega
    · dsimp only [statement]
      omega
  | testMinute ranges total carried =>
    obtain ⟨second, minute, hour⟩ := ranges
    simp only [AlarmState.reading] at total
    unfold ClockRun.Course
    simp only [statement]
    by_cases carry : s.currentMinute ≥ 60
    · rw [if_pos carry]
      exact .zeroMinute ⟨by omega, minute, hour⟩ total (by omega)
    · rw [if_neg carry]
      exact .testHour ⟨second, by omega, by omega⟩ total (by omega)
  | zeroMinute ranges total wraps =>
    obtain ⟨second, minute, hour⟩ := ranges
    simp only [AlarmState.reading] at total
    apply ClockCourse.carryHour
    · constructor <;> dsimp only [statement] <;> omega
    · simp only [statement, AlarmState.reading, ClockRun.target]
      omega
  | carryHour ranges total =>
    obtain ⟨second, minute, hour⟩ := ranges
    simp only [AlarmState.reading] at total
    apply ClockCourse.testHour
    · constructor <;> dsimp only [statement] <;> omega
    · simp only [statement, AlarmState.reading, ClockRun.target]
      omega
    · dsimp only [statement]
      omega
  | testHour ranges total carried =>
    obtain ⟨second, minute, hour⟩ := ranges
    simp only [AlarmState.reading] at total
    unfold ClockRun.Course
    simp only [statement]
    by_cases midnight : s.currentHour ≥ 24
    · rw [if_pos midnight]
      exact .zeroHour ⟨by omega, by omega, hour⟩ total (by omega)
    · rw [if_neg midnight]
      refine .rest ⟨second, minute, by omega⟩ ?_
      simp only [AlarmState.reading, ClockRun.target]
      omega
  | zeroHour ranges total wraps =>
    obtain ⟨second, minute, hour⟩ := ranges
    simp only [AlarmState.reading] at total
    apply ClockCourse.rest
    · constructor <;> dsimp only [statement] <;> omega
    · simp only [statement, AlarmState.reading, ClockRun.target]
      omega

theorem course_afterStatements (samples : List Samples) : (afterStatements samples).Course := by
  apply Run.after_invariant
  · apply ClockCourse.increment
    · constructor <;> decide
    · rfl
  · exact course_statement

/-! ## What a reader sees -/

/-- The thread stands inside a carry: a variable is at its end, or it has been set back and
the next one has not been raised yet. -/
def ClockRun.Carrying (c : ClockRun) : Prop :=
  match c.pc with
  | .testSecond => c.alarm.currentSecond = 60
  | .testMinute => c.alarm.currentMinute = 60
  | .testHour => c.alarm.currentHour = 24
  | .increment | .rest => False
  | _ => True

/-- **The clock between two statements.** It shows the seconds of the rounds completed, or one
more, exactly outside of a carry. -/
theorem shows_iff_not_carrying {c : ClockRun} (h : c.Course) :
    (ClockShows c.alarm c.rounds ∨ ClockShows c.alarm (c.rounds + 1)) ↔ ¬ c.Carrying := by
  obtain ⟨s, pc, n⟩ := c
  have course : ClockCourse s (n % 86400 + 1) pc := h
  unfold ClockRun.Carrying
  dsimp only
  constructor
  · intro shows
    have ranges : (s.currentSecond < 60 ∧ s.currentMinute < 60 ∧ s.currentHour < 24) ∧
        (s.reading = n % 86400 ∨ s.reading = (n + 1) % 86400) := by
      rcases shows with shows | shows
      · exact ⟨⟨shows.second.2, shows.minute.2, shows.hour.2⟩, .inl shows.total⟩
      · exact ⟨⟨shows.second.2, shows.minute.2, shows.hour.2⟩, .inr shows.total⟩
    cases course with
    | increment | rest => exact id
    | testSecond | testMinute | testHour =>
      dsimp only
      omega
    | zeroSecond | carryMinute | zeroMinute | carryHour | zeroHour => omega
  · intro outside
    have shown (ranges : Ranges s 59 59 23) {t : Int} (reading : s.reading = t % 86400) : ClockShows s t := by
      obtain ⟨second, minute, hour⟩ := ranges
      exact ⟨by omega, by omega, by omega, reading⟩
    have next (ranges : Ranges s 59 59 23) (reading : s.reading = n % 86400 + 1) :
        ClockShows s (n + 1) := by
      apply shown ranges
      obtain ⟨second, minute, hour⟩ := ranges
      simp only [AlarmState.reading] at reading ⊢
      omega
    cases course with
    | increment ranges reading => exact .inl (shown ranges (by omega))
    | rest ranges reading => exact .inr (shown ranges (by omega))
    | testSecond ranges reading =>
      obtain ⟨second, minute, hour⟩ := ranges
      have seconds : s.currentSecond ≠ 60 := outside
      exact .inr (next ⟨by omega, minute, hour⟩ reading)
    | testMinute ranges reading =>
      obtain ⟨second, minute, hour⟩ := ranges
      have minutes : s.currentMinute ≠ 60 := outside
      exact .inr (next ⟨second, by omega, hour⟩ reading)
    | testHour ranges reading =>
      obtain ⟨second, minute, hour⟩ := ranges
      have hours : s.currentHour ≠ 24 := outside
      exact .inr (next ⟨second, minute, by omega⟩ reading)
    | zeroSecond | carryMinute | zeroMinute | carryHour | zeroHour => exact absurd trivial outside

/-- Inside a carry a minute ends, and the variables say a second they never should, a minute
too early, or an hour too early. -/
theorem reading_of_carrying {c : ClockRun} (h : c.Course) (carrying : c.Carrying) :
    (c.rounds + 1) % 60 = 0 ∧
      (c.alarm.reading = c.target ∨ c.alarm.reading + 60 = c.target ∨ c.alarm.reading + 3600 = c.target) := by
  obtain ⟨s, pc, n⟩ := c
  have course : ClockCourse s (n % 86400 + 1) pc := h
  unfold ClockRun.Carrying at carrying
  dsimp only [ClockRun.target] at carrying ⊢
  cases course with
  | increment | rest => exact carrying.elim
  | testSecond ranges reading | testMinute ranges reading carried | testHour ranges reading carried =>
    refine ⟨?_, .inl reading⟩
    obtain ⟨second, minute, hour⟩ := ranges
    simp only [AlarmState.reading] at reading
    dsimp only at carrying
    omega
  | zeroSecond ranges reading wraps | zeroMinute ranges reading wraps | zeroHour ranges reading wraps =>
    refine ⟨?_, .inl reading⟩
    obtain ⟨second, minute, hour⟩ := ranges
    simp only [AlarmState.reading] at reading
    omega
  | carryMinute ranges reading =>
    refine ⟨?_, .inr (.inl reading)⟩
    obtain ⟨second, minute, hour⟩ := ranges
    simp only [AlarmState.reading] at reading
    omega
  | carryHour ranges reading =>
    refine ⟨?_, .inr (.inr reading)⟩
    obtain ⟨second, minute, hour⟩ := ranges
    simp only [AlarmState.reading] at reading
    omega

end SmartClock.Alarm
