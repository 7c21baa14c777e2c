import SmartClock.Alarm.Schedule

/-!
# The daily schedule

In a run without button presses the alarm is armed, or it rings because the alarm time
was at most nineteen rounds ago (`Scheduled`). A day is longer than a ring, so every time
the clock comes to the alarm time it finds the alarm armed and starts it
(`scheduled_step`), once in any 86400 rounds in a row. All this is for every alarm time; the one
in `alarm.c` makes it the thread of the other modules (`alarmThreadAt_default`).
-/

namespace SmartClock.Alarm

/-- The alarm thread with the alarm set to `hour:minute:second` from the start. -/
def alarmThreadAt (hour minute second : Int) (buttons : Nat → Samples) (n : Nat) : AlarmState :=
  Run.stateAt tick
    (alarmGpioInit { initial with alarmHour := hour, alarmMinute := minute, alarmSecond := second })
    buttons n

theorem alarmThreadAt_default :
    alarmThreadAt defaultAlarmHour defaultAlarmMinute defaultAlarmSecond = alarmThread := rfl

/-- `check_alarm_time` starts the alarm in the round that begins in `s`. -/
def StartsFrom (b : Samples) (s : AlarmState) : Prop :=
  (alarmCheckButtons b (updateClock s)).alarmActive = false ∧
    (checkAlarmTime (alarmCheckButtons b (updateClock s))).alarmActive = true

/-- The round that begins in `s` handles no press. -/
def Unpressed (b : Samples) (s : AlarmState) : Prop :=
  presses b (updateClock s) = ⟨false, false, false⟩

/-- What an untouched alarm set for second `time` of the day may show after `n` rounds:
it waits, or it rings since the alarm time. -/
inductive Scheduled (time : Int) (n : Nat) : Phase → Prop where
  | armed : Scheduled time n .armed
  | ringing (elapsed : Elapsed) (begun : 1 ≤ elapsed.1)
      (since : (n - (elapsed.1 - 1)) % 86400 = time) : Scheduled time n (.ringing elapsed)

/-- The clock at the alarm time, in seconds of the day. -/
theorem atAlarmTime_iff_seconds {s : AlarmState} {t hour minute second : Int} (shown : ClockShows s t)
    (alarm : s.settings.1 = (hour, minute, second)) (minutes : 0 ≤ minute ∧ minute < 60)
    (seconds : 0 ≤ second ∧ second < 60) :
    s.atAlarmTime = true ↔ t % 86400 = hour * 3600 + minute * 60 + second := by
  rw [atAlarmTime_iff, alarm]
  obtain ⟨second', minute', hour', total⟩ := shown
  simp only [AlarmState.clock, Prod.mk.injEq]
  omega

/-- One round without a press: it starts the alarm if the clock comes to the alarm time,
and leaves the alarm as scheduled. -/
theorem scheduled_step {b : Samples} {s : AlarmState} {p : Phase} {time : Int} {n : Nat}
    (shown : Shows s p) (scheduled : Scheduled time n p) (unpressed : Unpressed b s)
    (due : (updateClock s).atAlarmTime = true ↔ (n + 1 : Int) % 86400 = time) :
    (StartsFrom b s ↔ (n + 1 : Int) % 86400 = time) ∧
      ∃ q, Shows (tick b s) q ∧ Scheduled time (n + 1) q := by
  have pressed := shown.updateClock.alarmCheckButtons b
  rw [unpressed, Phase.press_none] at pressed
  have same : (alarmCheckButtons b (updateClock s)).atAlarmTime = (updateClock s).atAlarmTime :=
    (keepsTime_alarmCheckButtons b).atAlarmTime _
  have checked := pressed.checkAlarmTime
  have settled := pressed.settle
  rw [same] at checked settled
  have range : alarmAutoMuteSeconds = 20 := rfl
  cases scheduled with
  | armed =>
    rw [StartsFrom, checked.active, ← due]
    cases now : (updateClock s).atAlarmTime with
    | true =>
      rw [now] at due settled
      refine ⟨⟨fun _ => rfl, fun _ => ⟨pressed.active, rfl⟩⟩, _, settled, ?_⟩
      have today := due.1 rfl
      exact .ringing ⟨1, by decide⟩ (by decide) (by push_cast; omega)
    | false =>
      rw [now] at settled
      refine ⟨⟨?_, ?_⟩, _, settled, .armed⟩
      · intro starts
        exact absurd starts.2 Bool.false_ne_true
      · intro now
        exact absurd now Bool.false_ne_true
  | ringing elapsed begun since =>
    -- the alarm time was less than a day ago, so it is not due again
    have long := elapsed.2
    have later : ¬ (n + 1 : Int) % 86400 = time := by omega
    refine ⟨⟨?_, fun now => absurd now later⟩, ?_⟩
    · intro starts
      have silent := starts.1
      rw [pressed.active] at silent; cases silent
    · rw [Phase.settle_ringing] at settled
      by_cases last : elapsed.1 + 1 ≥ alarmAutoMuteSeconds
      · rw [Phase.updateAutoMute_last last] at settled
        exact ⟨_, settled, .armed⟩
      · obtain ⟨elapsed', count, more⟩ := Phase.updateAutoMute_more elapsed last
        rw [more] at settled
        exact ⟨_, settled, .ringing elapsed' (by omega) (by push_cast; omega)⟩

section Days

variable {hour minute second : Int} {buttons : Nat → Samples}

theorem alarmThreadAt_clock (n : Nat) : ClockShows (alarmThreadAt hour minute second buttons n) n := by
  have midnight : ClockShows (alarmGpioInit initial) 0 := by constructor <;> decide
  apply stateAt_clock
  exact midnight.congr rfl

variable (minutes : 0 ≤ minute ∧ minute < 60) (seconds : 0 ≤ second ∧ second < 60)

include minutes seconds

/-- Round `n + 1` comes to the alarm time on its second of the day. -/
theorem due_iff (n : Nat) :
    (updateClock (alarmThreadAt hour minute second buttons n)).atAlarmTime = true ↔
      (n + 1 : Int) % 86400 = hour * 3600 + minute * 60 + second :=
  atAlarmTime_iff_seconds (alarmThreadAt_clock n).updateClock
    (congrArg Prod.fst ((settings_updateClock _).trans (stateAt_settings _ buttons n)))
    minutes seconds

variable (unpressed : ∀ n, Unpressed (buttons (n + 1)) (alarmThreadAt hour minute second buttons n))

include unpressed

theorem alarmThreadAt_scheduled (n : Nat) :
    ∃ p, Shows (alarmThreadAt hour minute second buttons n) p ∧
      Scheduled (hour * 3600 + minute * 60 + second) n p := by
  induction n with
  | zero => exact ⟨.armed, Shows.initial.congr rfl rfl rfl rfl rfl, .armed⟩
  | succ n ih =>
    obtain ⟨p, shown, scheduled⟩ := ih
    exact (scheduled_step shown scheduled (unpressed n) (due_iff minutes seconds n)).2

/-- The starts of an untouched alarm. -/
theorem startsFrom_iff (n : Nat) :
    StartsFrom (buttons (n + 1)) (alarmThreadAt hour minute second buttons n) ↔
      (n + 1 : Int) % 86400 = hour * 3600 + minute * 60 + second := by
  obtain ⟨p, shown, scheduled⟩ := alarmThreadAt_scheduled minutes seconds unpressed n
  exact (scheduled_step shown scheduled (unpressed n) (due_iff minutes seconds n)).1

end Days

/-- Any day of numbers has each second of the day once. -/
theorem existsUnique_second {time : Int} (range : 0 ≤ time ∧ time < 86400) (a : Nat) :
    ∃! n : Nat, (a ≤ n ∧ n < a + 86400) ∧ (n + 1 : Int) % 86400 = time := by
  refine ⟨a + ((time - (a + 1)) % 86400).toNat, ⟨by omega, by omega⟩, ?_⟩
  rintro n ⟨near, at_time⟩
  omega

/-- **The clock and the daily schedule.** Whatever the buttons do, after `n` rounds the
clock shows `n` seconds past midnight. In a run without presses the alarm starts exactly
in the rounds that come to its time, so exactly once in any day's worth of rounds. -/
theorem clock_and_schedule {hour minute second : Int} (hours : 0 ≤ hour ∧ hour < 24)
    (minutes : 0 ≤ minute ∧ minute < 60) (seconds : 0 ≤ second ∧ second < 60)
    (buttons : Nat → Samples) :
    (∀ n, ClockShows (alarmThreadAt hour minute second buttons n) n) ∧
    ((∀ n, Unpressed (buttons (n + 1)) (alarmThreadAt hour minute second buttons n)) →
      (∀ n : Nat, StartsFrom (buttons (n + 1)) (alarmThreadAt hour minute second buttons n) ↔
        (n + 1 : Int) % 86400 = hour * 3600 + minute * 60 + second) ∧
      ∀ a, ∃! n, (a ≤ n ∧ n < a + 86400) ∧
        StartsFrom (buttons (n + 1)) (alarmThreadAt hour minute second buttons n)) := by
  refine ⟨alarmThreadAt_clock, ?_⟩
  intro unpressed
  have starts := startsFrom_iff minutes seconds unpressed
  refine ⟨starts, ?_⟩
  intro a
  simp only [starts]
  exact existsUnique_second (by omega) a

/-- An untouched alarm set for 07:30:00, on its third day. -/
theorem clock_and_schedule_untouched :
    ClockShows (alarmThreadAt 7 30 0 untouched 199800) 199800 ∧
      StartsFrom (untouched 199800) (alarmThreadAt 7 30 0 untouched 199799) := by
  obtain ⟨clock, schedule⟩ := @clock_and_schedule 7 30 0 (by decide) (by decide) (by decide) untouched
  obtain ⟨starts, -⟩ := schedule fun n => presses_untouched (n + 1) _
  exact ⟨clock 199800, (starts 199799).2 (by decide)⟩

end SmartClock.Alarm
