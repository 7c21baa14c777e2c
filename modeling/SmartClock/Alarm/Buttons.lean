import SmartClock.Alarm.Schedule
import SmartClock.Run.Edges
import Mathlib.Logic.Function.Iterate

/-!
# Button presses

`alarm_check_buttons` is an edge detector for three pins. Its handler calls over a run are
the falls of the raw samples of the pin (`handlerCalls_eq`), because it stores whatever
`gpio_pin_get` returned, a negative error code too. So every press is handled exactly once
if and only if no failed read stands right between a 1 and the 0 that follows it
(`handlerCalls_iff`).
-/

namespace SmartClock.Alarm

/-- The three buttons, each on its own pin. -/
inductive Pin where
  | snooze
  | mute
  | enable
deriving DecidableEq

/-- What `gpio_pin_get` returned for the pin: `snooze_now`, `mute_now`, `enable_now`. -/
def Pin.now (b : Samples) : Pin → Int
  | snooze => b.snooze
  | mute => b.mute
  | enable => b.enable

/-- The stored level: `last_snooze`, `last_mute`, `last_enable`. -/
def Pin.last (s : AlarmState) : Pin → Int
  | snooze => s.lastSnooze
  | mute => s.lastMute
  | enable => s.lastEnable

def Pin.handler : Pin → AlarmState → AlarmState
  | snooze => alarmSnooze
  | mute => alarmMute
  | enable => alarmToggleEnabled

/-- The calls `alarm_check_buttons` makes to the handler of the pin, at most one. -/
def calls (b : Samples) (s : AlarmState) (pin : Pin) : Nat :=
  if !s.gpioa || !s.gpiob then 0 else if pin.now b = 0 ∧ pin.last s = 1 then 1 else 0

theorem onPress_eq (now last : Int) (handler : AlarmState → AlarmState) (s : AlarmState) :
    onPress now last handler s = Nat.iterate handler (if now = 0 ∧ last = 1 then 1 else 0) s := by
  unfold onPress
  split <;> rfl

/-- What some calls of the three handlers make of a state, in the order of the source, with the
samples stored as levels behind them. -/
def afterHandlers (count : Pin → Nat) (b : Samples) (s : AlarmState) : AlarmState :=
  let handled := fun pin => Nat.iterate (Pin.handler pin) (count pin)
  { handled .enable (handled .mute (handled .snooze s)) with
    lastSnooze := b.snooze, lastMute := b.mute, lastEnable := b.enable }

/-- `alarm_check_buttons` makes exactly the calls counted. -/
theorem alarmCheckButtons_calls (b : Samples) {s : AlarmState} (ready : s.gpioa = true ∧ s.gpiob = true) :
    alarmCheckButtons b s = afterHandlers (calls b s) b s := by
  have set : (!s.gpioa || !s.gpiob) = false := by simp [ready]
  -- a handler leaves the stored levels alone, so each test reads those of `s`
  have levels := levels_onPress levels_alarmSnooze b.snooze s.lastSnooze s
  have levels' := (levels_onPress levels_alarmMute b.mute s.lastMute _).trans levels
  simp only [AlarmState.levels, Prod.mk.injEq] at levels levels'
  unfold alarmCheckButtons afterHandlers calls
  simp only [set, Bool.false_eq_true, if_false, levels.2.1, levels'.2.2, Pin.now, Pin.last]
  simp only [onPress_eq]
  rfl

section Rounds

variable (buttons : Nat → Samples) (pin : Pin)

/-- The samples of the pin in rounds 1 to `n`. -/
def samples (n : Nat) : List Int := (List.range n).map fun i => pin.now (buttons (i + 1))

/-- How often the handler of the pin is called in rounds 1 to `n`. -/
def handlerCalls : Nat → Nat
  | 0 => 0
  | n + 1 => handlerCalls n + calls (buttons (n + 1)) (afterClock buttons (n + 1)) pin

theorem samples_succ (n : Nat) :
    samples buttons pin (n + 1) = samples buttons pin n ++ [pin.now (buttons (n + 1))] := by
  simp [samples, List.range_succ]

/-- A pin's stored level is one of the three levels. -/
theorem last_eq_of_levels {s : AlarmState} {levels : Int × Int × Int} (h : s.levels = levels) :
    pin.last s = match pin with
      | .snooze => levels.1
      | .mute => levels.2.1
      | .enable => levels.2.2 := by
  subst h
  cases pin <;> rfl

/-- The stored level is the last sample, an error too. -/
theorem last_alarmThread (n : Nat) :
    pin.last (alarmThread buttons n) = (samples buttons pin n).getLastD 1 := by
  cases n with
  | zero => cases pin <;> rfl
  | succ n =>
    have stored := levels_tick (buttons (n + 1)) (alarmThread_ready buttons n)
    rw [samples_succ, List.getLastD_concat]
    apply (last_eq_of_levels pin stored).trans
    cases pin <;> rfl

theorem last_afterClock (n : Nat) :
    pin.last (afterClock buttons (n + 1)) = (samples buttons pin n).getLastD 1 := by
  rw [← last_alarmThread, last_eq_of_levels pin rfl]
  exact last_eq_of_levels pin (levels_updateClock (alarmThread buttons n))

theorem afterClock_ready (n : Nat) :
    (afterClock buttons (n + 1)).gpioa = true ∧ (afterClock buttons (n + 1)).gpiob = true := by
  have settings := settings_updateClock (alarmThread buttons n)
  simp only [AlarmState.settings, Prod.mk.injEq] at settings
  rw [afterClock, Nat.add_sub_cancel, settings.2.1, settings.2.2]
  exact alarmThread_ready buttons n

/-- Round `n + 1` calls the handler if the pin falls in it. -/
theorem calls_round (n : Nat) :
    calls (buttons (n + 1)) (afterClock buttons (n + 1)) pin =
      if pin.now (buttons (n + 1)) = 0 ∧ (samples buttons pin n).getLastD 1 = 1 then 1 else 0 := by
  rw [calls, last_afterClock, (afterClock_ready buttons n).1, (afterClock_ready buttons n).2]
  rfl

/-- The handler runs once for every fall of the raw samples. -/
theorem handlerCalls_eq (n : Nat) :
    handlerCalls buttons pin n = Run.falls 1 (samples buttons pin n) := by
  induction n with
  | zero => rfl
  | succ n ih => rw [handlerCalls, samples_succ, Run.falls_append, calls_round, ih]

/-- **Every press is handled exactly once** if and only if no failed read of the pin hides
one. The calls counted are those that `alarm_check_buttons` makes in its rounds. -/
theorem handlerCalls_iff (n : Nat) :
    (∀ i, alarmCheckButtons (buttons (i + 1)) (afterClock buttons (i + 1)) =
      afterHandlers (calls (buttons (i + 1)) (afterClock buttons (i + 1))) (buttons (i + 1))
        (afterClock buttons (i + 1))) ∧
      (handlerCalls buttons pin n = Run.falls 1 (Run.good (samples buttons pin n)) ↔
        ¬ Run.Hides 1 (samples buttons pin n)) := by
  constructor
  · intro i
    exact alarmCheckButtons_calls (buttons (i + 1)) (afterClock_ready buttons i)
  · rw [handlerCalls_eq]
    exact Run.falls_good_iff 1 _

/-- The read of the mute pin fails with `-EIO` in the round before the press is sampled. -/
def failedRead (k : Nat) : Samples := if k = 2 then ⟨1, -5, 1⟩ else if k = 3 then ⟨1, 0, 1⟩ else ⟨1, 1, 1⟩

/-- The press is lost: the pin was up, then unreadable, then down. -/
theorem failedRead_loses_press :
    samples failedRead .mute 4 = [1, -5, 0, 1] ∧ handlerCalls failedRead .mute 4 = 0 ∧
      Run.falls 1 (Run.good (samples failedRead .mute 4)) = 1 := by
  refine ⟨rfl, ?_, rfl⟩
  rw [handlerCalls_eq]
  rfl

end Rounds

end SmartClock.Alarm
