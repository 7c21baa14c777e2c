import SmartClock.Alarm.State
import Mathlib.Tactic.Common

/-!
# The clock of the alarm loop

Only `update_clock` writes the clock, and nothing writes the alarm time. So after `n`
rounds the clock shows `n` seconds past midnight, whatever the buttons did.
-/

namespace SmartClock.Alarm

/-- The three clock variables. -/
def AlarmState.clock (s : AlarmState) : Int × Int × Int :=
  (s.currentHour, s.currentMinute, s.currentSecond)

/-- The alarm time, which no function writes, and the device pointers, which only
`alarm_gpio_init` writes. -/
def AlarmState.settings (s : AlarmState) : (Int × Int × Int) × Bool × Bool :=
  ((s.alarmHour, s.alarmMinute, s.alarmSecond), s.gpioa, s.gpiob)

theorem atAlarmTime_iff {s : AlarmState} : s.atAlarmTime = true ↔ s.clock = s.settings.1 := by
  simp [AlarmState.atAlarmTime, AlarmState.clock, AlarmState.settings, and_assoc]

/-- `f` touches neither the clock nor the settings. -/
structure KeepsTime (f : AlarmState → AlarmState) : Prop where
  clock : ∀ s, (f s).clock = s.clock
  settings : ∀ s, (f s).settings = s.settings

theorem KeepsTime.comp {f g : AlarmState → AlarmState} (hf : KeepsTime f) (hg : KeepsTime g) :
    KeepsTime (fun s => f (g s)) :=
  ⟨fun s => (hf.clock _).trans (hg.clock s), fun s => (hf.settings _).trans (hg.settings s)⟩

theorem KeepsTime.atAlarmTime {f : AlarmState → AlarmState} (hf : KeepsTime f) (s : AlarmState) :
    (f s).atAlarmTime = s.atAlarmTime := by
  rw [Bool.eq_iff_iff, atAlarmTime_iff, atAlarmTime_iff, hf.clock, hf.settings]

theorem keepsTime_checkAlarmTime : KeepsTime checkAlarmTime := by
  constructor <;> intro s <;> (unfold checkAlarmTime; repeat' split) <;> rfl

theorem keepsTime_updateSnooze : KeepsTime updateSnooze := by
  constructor <;> intro s <;> (unfold updateSnooze; dsimp only; repeat' split) <;> rfl

theorem keepsTime_updateAutoMute : KeepsTime updateAutoMute := by
  constructor <;> intro s <;> (unfold updateAutoMute; dsimp only; repeat' split) <;> rfl

theorem keepsTime_alarmSnooze : KeepsTime alarmSnooze := by
  constructor <;> intro s <;> (unfold alarmSnooze; split) <;> rfl

theorem keepsTime_alarmMute : KeepsTime alarmMute := by
  constructor <;> intro s <;> (unfold alarmMute; split) <;> rfl

theorem keepsTime_alarmToggleEnabled : KeepsTime alarmToggleEnabled := by
  constructor <;> intro s <;> (unfold alarmToggleEnabled; dsimp only; split) <;> rfl

theorem keepsTime_onPress (now last : Int) {handler : AlarmState → AlarmState}
    (h : KeepsTime handler) : KeepsTime (onPress now last handler) := by
  constructor <;> intro s <;> unfold onPress <;> split
  · exact h.clock s
  · rfl
  · exact h.settings s
  · rfl

theorem keepsTime_alarmCheckButtons (b : Samples) : KeepsTime (alarmCheckButtons b) := by
  have handled (now now' now'' last last' last'' : Int) :=
    (keepsTime_onPress now last keepsTime_alarmToggleEnabled).comp
      ((keepsTime_onPress now' last' keepsTime_alarmMute).comp
        (keepsTime_onPress now'' last'' keepsTime_alarmSnooze))
  constructor <;> intro s <;> unfold alarmCheckButtons <;> split
  · rfl
  · exact (handled _ _ _ _ _ _).clock s
  · rfl
  · exact (handled _ _ _ _ _ _).settings s

/-- A round after its `update_clock`. -/
theorem keepsTime_rest (b : Samples) :
    KeepsTime fun s => updateAutoMute (updateSnooze (checkAlarmTime (alarmCheckButtons b s))) :=
  keepsTime_updateAutoMute.comp (keepsTime_updateSnooze.comp
    (keepsTime_checkAlarmTime.comp (keepsTime_alarmCheckButtons b)))

/-- The clock shows `t` seconds past midnight. -/
structure ClockShows (s : AlarmState) (t : Int) : Prop where
  second : 0 ≤ s.currentSecond ∧ s.currentSecond < 60
  minute : 0 ≤ s.currentMinute ∧ s.currentMinute < 60
  hour : 0 ≤ s.currentHour ∧ s.currentHour < 24
  total : s.currentHour * 3600 + s.currentMinute * 60 + s.currentSecond = t % 86400

theorem ClockShows.congr {s s' : AlarmState} {t : Int} (h : ClockShows s t)
    (same : s'.clock = s.clock) : ClockShows s' t := by
  simp only [AlarmState.clock, Prod.mk.injEq] at same
  obtain ⟨hour, minute, second⟩ := same
  exact ⟨second ▸ h.second, minute ▸ h.minute, hour ▸ h.hour, by rw [hour, minute, second, h.total]⟩

/-- The three carries and the wrap at midnight add one second. -/
theorem ClockShows.updateClock {s : AlarmState} {t : Int} (h : ClockShows s t) :
    ClockShows (updateClock s) (t + 1) := by
  obtain ⟨second, minute, hour, total⟩ := h
  unfold Alarm.updateClock
  dsimp only
  by_cases carry : s.currentSecond + 1 ≥ 60
  · by_cases carry' : s.currentMinute + 1 ≥ 60
    · by_cases midnight : s.currentHour + 1 ≥ 24
      · simp only [carry, carry', midnight, if_true]
        constructor <;> dsimp only <;> omega
      · simp only [carry, carry', midnight, if_true, if_false]
        constructor <;> dsimp only <;> omega
    · have day : ¬ s.currentHour ≥ 24 := by omega
      simp only [carry, carry', day, if_true, if_false]
      constructor <;> dsimp only <;> omega
  · have noCarry : ¬ s.currentMinute ≥ 60 := by omega
    have day : ¬ s.currentHour ≥ 24 := by omega
    simp only [carry, noCarry, day, if_false]
    constructor <;> dsimp only <;> omega

theorem settings_updateClock (s : AlarmState) : (updateClock s).settings = s.settings := by
  unfold updateClock; dsimp only; repeat' split
  all_goals rfl

/-- No run changes the alarm time or the device pointers. -/
theorem stateAt_settings (start : AlarmState) (buttons : Nat → Samples) (n : Nat) :
    (Run.stateAt tick start buttons n).settings = start.settings := by
  refine Run.stateAt_invariant (P := fun s : AlarmState => s.settings = start.settings) rfl
    (fun b s h => ?_) buttons n
  exact ((keepsTime_rest b).settings _).trans ((settings_updateClock s).trans h)

/-- The alarm time stays the default one, and the device pointers stay set. -/
theorem alarmThread_settings (buttons : Nat → Samples) (n : Nat) :
    (alarmThread buttons n).settings = (alarmGpioInit initial).settings :=
  stateAt_settings _ buttons n

/-- Every run from midnight shows the seconds past midnight. -/
theorem stateAt_clock {start : AlarmState} (midnight : ClockShows start 0)
    (buttons : Nat → Samples) (n : Nat) : ClockShows (Run.stateAt tick start buttons n) n := by
  induction n with
  | zero => exact midnight
  | succ n ih =>
    have stepped := ih.updateClock.congr ((keepsTime_rest (buttons (n + 1))).clock _)
    rw [show ((n + 1 : Nat) : Int) = (n : Int) + 1 by omega]
    exact stepped

/-- After `n` rounds the clock shows `n` seconds past midnight. -/
theorem alarmThread_clock (buttons : Nat → Samples) (n : Nat) :
    ClockShows (alarmThread buttons n) n := by
  apply stateAt_clock
  constructor <;> decide

end SmartClock.Alarm
