import SmartClock.Alarm.Clock
import SmartClock.Alarm.Phase
import SmartClock.Run.Partial

/-!
# The speaker thread

`speaker_thread_entry` reads `alarm_active` once a round, and then sounds a whole burst or
nothing. Its statements and the functions of `alarm.c` take turns in any order: which buttons
are pressed when, and where a function of the alarm thread comes between two statements, is
the run. What a round still has to do is a list of events (`SpeakerPc.left`), and a statement
does the first of them (`SpeakerPc.left_next`). So the log of every run is that of the rounds
begun, but for the rest of the last one (`speaker_log`), and a silenced alarm is heard for the
rest of one burst at most (`silent_until_due`).
-/

namespace SmartClock.Alarm

open Run

/-- What the thread does outside its own variables: `gpio_pin_set` on the speaker pin, and
the microseconds it waits or sleeps. -/
inductive SpeakerEvent where
  | pinSet (high : Bool)
  | pass (us : Nat)
deriving DecidableEq

/-- The statements of `speaker_thread_entry`. -/
inductive SpeakerPc where
  /-- `if (alarm_active && gpiob != NULL)` -/
  | test
  /-- `i < 200` -/
  | bound (i : Nat)
  /-- `gpio_pin_set(gpiob, SPEAKER_PIN, 1);` -/
  | setHigh (i : Nat)
  | waitHigh (i : Nat)
  /-- `gpio_pin_set(gpiob, SPEAKER_PIN, 0);` -/
  | setLow (i : Nat)
  | waitLow (i : Nat)
  /-- `k_msleep(50);` -/
  | gap
  /-- `if (gpiob != NULL) gpio_pin_set(gpiob, SPEAKER_PIN, 0);` -/
  | quiet
  /-- `k_msleep(100);` -/
  | pause
deriving DecidableEq

namespace SpeakerPc

/-- One statement: the next one, and what it does. -/
def next (s : AlarmState) : SpeakerPc → SpeakerPc × List SpeakerEvent
  | test => (if s.alarmActive && s.gpiob then bound 0 else quiet, [])
  | bound i => (if i < 200 then setHigh i else gap, [])
  | setHigh i => (waitHigh i, [.pinSet true])
  | waitHigh i => (setLow i, [.pass 250])
  | setLow i => (waitLow i, [.pinSet false])
  | waitLow i => (bound (i + 1), [.pass 250])
  | gap => (test, [.pass 50000])
  | quiet => (pause, if s.gpiob then [.pinSet false] else [])
  | pause => (test, [.pass 100000])

end SpeakerPc

/-- The thread, with what it has done and what it has read of `alarm_active`. -/
structure Speaker where
  pc : SpeakerPc
  log : List SpeakerEvent
  reads : List Bool

def Speaker.next (l : Speaker) (s : AlarmState) : Speaker where
  pc := (l.pc.next s).1
  log := l.log ++ (l.pc.next s).2
  reads := if l.pc = .test then l.reads ++ [s.alarmActive] else l.reads

/-- The alarm's variables and the speaker thread, `none` when it was not created. -/
structure SoundState where
  alarm : AlarmState
  speaker : Option Speaker

/-- Behind `alarm_gpio_init`, which creates the thread if both devices are ready. -/
def soundBoot (gpioaReady gpiobReady : Bool) : SoundState where
  alarm := alarmGpioInit initial
  speaker := if !gpioaReady || !gpiobReady then none else some ⟨.test, [], []⟩

/-- A function of `alarm.c` runs, or a statement of the speaker thread. -/
inductive SoundStep where
  | alarm (op : Operation)
  | speaker
deriving DecidableEq

def soundStep (s : SoundState) : SoundStep → Option SoundState
  | .alarm op => some { s with alarm := op.run s.alarm }
  | .speaker => s.speaker.map fun l => { s with speaker := some (l.next s.alarm) }

/-! ## What is left of a round -/

/-- One half of a period, and the other. -/
def cycleEvents : List SpeakerEvent := [.pinSet true, .pass 250, .pinSet false, .pass 250]

/-- `n` cycles and the gap behind them. -/
def cyclesLeft (n : Nat) : List SpeakerEvent := (List.replicate n cycleEvents).flatten ++ [.pass 50000]

/-- A round: a burst of two hundred cycles if the alarm was active, else the pin low. -/
def roundEvents : Bool → List SpeakerEvent
  | true => cyclesLeft 200
  | false => [.pinSet false, .pass 100000]

namespace SpeakerPc

/-- What the round still does, with `gpiob` set. -/
def left : SpeakerPc → List SpeakerEvent
  | test => []
  | bound i => cyclesLeft (200 - i)
  | setHigh i => cycleEvents ++ cyclesLeft (200 - (i + 1))
  | waitHigh i => cycleEvents.drop 1 ++ cyclesLeft (200 - (i + 1))
  | setLow i => cycleEvents.drop 2 ++ cyclesLeft (200 - (i + 1))
  | waitLow i => cycleEvents.drop 3 ++ cyclesLeft (200 - (i + 1))
  | gap => cyclesLeft 0
  | quiet => [.pinSet false, .pass 100000]
  | pause => [.pass 100000]

/-- Between a `gpio_pin_set` to 1 and the next one to 0. -/
def high : SpeakerPc → Bool
  | waitHigh _ | setLow _ => true
  | _ => false

end SpeakerPc

theorem cyclesLeft_succ (n : Nat) : cyclesLeft (n + 1) = cycleEvents ++ cyclesLeft n := by
  rw [cyclesLeft, cyclesLeft, List.replicate_succ, List.flatten_cons, List.append_assoc]

/-- A statement behind the test does the first of what is left. -/
theorem SpeakerPc.left_next {pc : SpeakerPc} (begun : pc ≠ .test) {s : AlarmState} (set : s.gpiob = true) :
    (pc.next s).2 ++ (pc.next s).1.left = pc.left := by
  cases pc with
  | test => exact absurd rfl begun
  | bound i =>
    by_cases more : i < 200
    · have count : 200 - i = (200 - (i + 1)) + 1 := by omega
      rw [next, if_pos more, left, left, count, cyclesLeft_succ]
      rfl
    · have count : 200 - i = 0 := by omega
      rw [next, if_neg more, left, left, count]
      rfl
  | quiet =>
    rw [next, if_pos set]
    rfl
  | setHigh _ | waitHigh _ | setLow _ | waitLow _ | gap | pause => rfl

/-- The test begins a round. -/
theorem SpeakerPc.left_test {s : AlarmState} (set : s.gpiob = true) :
    (test.next s).2 ++ (test.next s).1.left = roundEvents s.alarmActive := by
  rw [next, set, Bool.and_true]
  cases s.alarmActive <;> rfl

/-! ## The log -/

/-- The level of the pin behind a log. It starts low. -/
def level (log : List SpeakerEvent) : Bool :=
  log.foldl (fun before event => match event with
    | .pinSet high => high
    | .pass _ => before) false

theorem level_append (log : List SpeakerEvent) (event : SpeakerEvent) :
    level (log ++ [event]) = match event with
      | .pinSet high => high
      | .pass _ => level log := by
  rw [level, List.foldl_append]
  rfl

/-- The thread's log and level, and the device pointer it has been created behind. -/
structure Speaker.Course (l : Speaker) (s : AlarmState) : Prop where
  set : s.gpiob = true
  log : l.log ++ l.pc.left = l.reads.flatMap roundEvents
  level : level l.log = l.pc.high

theorem Operation.settings_run (op : Operation) (s : AlarmState) : (op.run s).settings = s.settings := by
  cases op with
  | updateClock => exact settings_updateClock s
  | checkAlarmTime => exact keepsTime_checkAlarmTime.settings s
  | updateSnooze => exact keepsTime_updateSnooze.settings s
  | updateAutoMute => exact keepsTime_updateAutoMute.settings s
  | alarmSnooze => exact keepsTime_alarmSnooze.settings s
  | alarmMute => exact keepsTime_alarmMute.settings s
  | alarmToggleEnabled => exact keepsTime_alarmToggleEnabled.settings s

theorem Operation.gpiob_run (op : Operation) (s : AlarmState) : (op.run s).gpiob = s.gpiob :=
  congrArg (fun settings => settings.2.2) (op.settings_run s)

/-- Where the pin was low and no event sets it, it stays low; a set is heard at once. -/
theorem level_next (pc : SpeakerPc) {s : AlarmState} (set : s.gpiob = true) {log : List SpeakerEvent}
    (before : level log = pc.high) : level (log ++ (pc.next s).2) = (pc.next s).1.high := by
  cases pc with
  | test =>
    rw [SpeakerPc.next, List.append_nil, before]
    cases s.alarmActive && s.gpiob <;> rfl
  | bound i =>
    rw [SpeakerPc.next, List.append_nil, before]
    by_cases more : i < 200
    · rw [if_pos more]
      rfl
    · rw [if_neg more]
      rfl
  | quiet =>
    rw [SpeakerPc.next, if_pos set, level_append]
    rfl
  | setHigh _ | waitHigh _ | setLow _ | waitLow _ | gap | pause =>
    rw [SpeakerPc.next, level_append]
    first | rfl | exact before

theorem Speaker.Course.next {l : Speaker} {s : AlarmState} (h : l.Course s) : (l.next s).Course s where
  set := h.set
  log := by
    rw [Speaker.next, List.append_assoc]
    dsimp only
    by_cases test : l.pc = .test
    · have done := h.log
      rw [test, SpeakerPc.left, List.append_nil] at done
      rw [if_pos test, test, SpeakerPc.left_test h.set, done, List.flatMap_append, List.flatMap_singleton]
    · rw [if_neg test, SpeakerPc.left_next test h.set, h.log]
  level := level_next l.pc h.set h.level

/-- Every step of a run keeps the log in course. -/
theorem course_step (s : SoundState) (st : SoundStep) (s' : SoundState)
    (h : ∀ l, s.speaker = some l → l.Course s.alarm) (taken : soundStep s st = some s') :
    ∀ l, s'.speaker = some l → l.Course s'.alarm := by
  intro l thread
  cases st with
  | alarm op =>
    obtain rfl := Option.some.inj taken
    obtain ⟨set, log, level⟩ := h l thread
    exact ⟨(op.gpiob_run s.alarm).trans set, log, level⟩
  | speaker =>
    obtain ⟨before, was, rfl⟩ := Option.map_eq_some_iff.1 taken
    obtain rfl := Option.some.inj thread
    exact (h before was).next

theorem course_boot (gpioaReady gpiobReady : Bool) :
    ∀ l, (soundBoot gpioaReady gpiobReady).speaker = some l →
      l.Course (soundBoot gpioaReady gpiobReady).alarm := by
  intro l thread
  unfold soundBoot at thread
  dsimp only at thread
  split at thread
  · cases thread
  · obtain rfl := Option.some.inj thread
    exact ⟨rfl, rfl, rfl⟩

/-- **The speaker's log.** However the functions of `alarm.c` and the statements of the speaker
thread take turns: what the thread has done, with what is left of its round, are the rounds of
the values it read, a whole burst for each time it found the alarm active. The pin is high
exactly between the two `gpio_pin_set` of a cycle. -/
theorem speaker_log {gpioaReady gpiobReady : Bool} {steps : List SoundStep} {s : SoundState}
    (ran : run soundStep (soundBoot gpioaReady gpiobReady) steps = some s) {l : Speaker}
    (thread : s.speaker = some l) :
    l.log ++ l.pc.left = l.reads.flatMap roundEvents ∧ (level l.log = true ↔ l.pc.high = true) := by
  obtain ⟨-, log, level⟩ := run_invariant course_step (course_boot gpioaReady gpiobReady) ran l thread
  exact ⟨log, by rw [level]⟩

/-- The clock comes to the alarm time and the speaker sets its pin. -/
def untilFirstPulse : List SoundStep :=
  [.alarm .updateClock, .alarm .updateClock, .alarm .updateClock, .alarm .checkAlarmTime, .speaker, .speaker,
    .speaker]

theorem speaker_log_firstPulse :
    ∃ s l, run soundStep (soundBoot true true) untilFirstPulse = some s ∧ s.speaker = some l ∧
      l.reads = [true] ∧ l.log ++ l.pc.left = l.reads.flatMap roundEvents ∧
      (level l.log = true ↔ l.pc.high = true) :=
  ⟨_, _, rfl, rfl, rfl, @speaker_log true true untilFirstPulse _ rfl _ rfl⟩

/-! ## Silence -/

/-- How often the pin has been set high. -/
def pulses (log : List SpeakerEvent) : Nat := log.count (.pinSet true)

theorem pulses_append (log log' : List SpeakerEvent) : pulses (log ++ log') = pulses log + pulses log' :=
  List.count_append

theorem pulses_cyclesLeft (n : Nat) : pulses (cyclesLeft n) = n := by
  induction n with
  | zero => rfl
  | succ n ih =>
    rw [cyclesLeft_succ, pulses_append, ih]
    exact Nat.add_comm 1 n

/-- The pulses of a thread so far, and those left in its round. -/
def SoundState.pulses (s : SoundState) : Nat := s.speaker.elim 0 fun l => Alarm.pulses l.log

def SoundState.pulsesLeft (s : SoundState) : Nat := s.speaker.elim 0 fun l => Alarm.pulses l.pc.left

theorem pulses_left_le (pc : SpeakerPc) : Alarm.pulses pc.left ≤ 200 := by
  have behind (i : Nat) (events : List SpeakerEvent) (bound : Alarm.pulses events ≤ 1) :
      Alarm.pulses (events ++ cyclesLeft (200 - (i + 1))) ≤ 200 := by
    rw [pulses_append, pulses_cyclesLeft]
    omega
  cases pc with
  | bound i =>
    rw [SpeakerPc.left, pulses_cyclesLeft]
    omega
  | setHigh i => exact behind i _ (by decide)
  | waitHigh i => exact behind i _ (by decide)
  | setLow i => exact behind i _ (by decide)
  | waitLow i => exact behind i _ (by decide)
  | gap => exact Nat.le_trans (Nat.le_of_eq (pulses_cyclesLeft 0)) (Nat.zero_le _)
  | test | quiet | pause => decide

/-- The alarm neither rings nor will it ring again after a snooze. -/
def AlarmState.Resting (s : AlarmState) : Prop := s.alarmActive = false ∧ s.alarmSnoozed = false

theorem Shows.resting_iff {s : AlarmState} {p : Phase} (h : Shows s p) : s.Resting ↔ p = .armed ∨ p = .disabled := by
  rw [AlarmState.Resting, h.active, h.snoozed]
  cases p <;> simp

/-- Only `check_alarm_time` at the alarm time wakes a resting alarm. -/
theorem Shows.resting_run {s : AlarmState} {p : Phase} (h : Shows s p) (resting : s.Resting) {op : Operation}
    (notDue : op = .checkAlarmTime → s.atAlarmTime = false) : (op.run s).Resting := by
  have phase := h.resting_iff.1 resting
  have kept {f : Phase → Phase} (f_armed : f .armed = .armed ∨ f .armed = .disabled)
      (f_disabled : f .disabled = .armed ∨ f .disabled = .disabled) : f p = .armed ∨ f p = .disabled := by
    rcases phase with rfl | rfl
    · exact f_armed
    · exact f_disabled
  cases op with
  | updateClock => exact h.updateClock.resting_iff.2 phase
  | checkAlarmTime =>
    have checked := h.checkAlarmTime
    rw [notDue rfl] at checked
    exact checked.resting_iff.2 (@kept (Phase.checkAlarmTime false) (.inl rfl) (.inr rfl))
  | updateSnooze => exact h.updateSnooze.resting_iff.2 (kept (.inl rfl) (.inr rfl))
  | updateAutoMute => exact h.updateAutoMute.resting_iff.2 (kept (.inl rfl) (.inr rfl))
  | alarmSnooze => exact h.alarmSnooze.resting_iff.2 (kept (.inl rfl) (.inr rfl))
  | alarmMute => exact h.alarmMute.resting_iff.2 (kept (.inl rfl) (.inr rfl))
  | alarmToggleEnabled => exact h.alarmToggleEnabled.resting_iff.2 (kept (.inr rfl) (.inl rfl))

/-- What a thread has pulsed and will pulse in its round, while it finds the alarm resting. -/
theorem Speaker.pulses_next {l : Speaker} {s : AlarmState} (set : s.gpiob = true) (resting : s.Resting) :
    Alarm.pulses (l.next s).log + Alarm.pulses (l.next s).pc.left = Alarm.pulses l.log + Alarm.pulses l.pc.left := by
  rw [← pulses_append, ← pulses_append, Speaker.next]
  dsimp only
  by_cases test : l.pc = .test
  · have silent : (roundEvents s.alarmActive).count (.pinSet true) = 0 := by
      rw [resting.1]
      rfl
    rw [List.append_assoc, pulses_append, test, SpeakerPc.left_test set, pulses_append]
    exact congrArg (Alarm.pulses l.log + ·) silent
  · rw [List.append_assoc, SpeakerPc.left_next test set]

/-- What holds while nothing wakes the alarm: it rests, and the thread only finishes its round. -/
structure SoundState.Fading (total : Nat) (s : SoundState) : Prop where
  phase : ∃ p, Shows s.alarm p
  resting : s.alarm.Resting
  set : s.alarm.gpiob = true
  total : s.pulses + s.pulsesLeft = total

theorem fading_step {total : Nat} (s : SoundState) (st : SoundStep) (s' : SoundState) (h : s.Fading total)
    (notDue : st = .alarm .checkAlarmTime → s.alarm.atAlarmTime = false) (taken : soundStep s st = some s') :
    s'.Fading total := by
  obtain ⟨⟨p, shown⟩, resting, set, total⟩ := h
  cases st with
  | alarm op =>
    obtain rfl := Option.some.inj taken
    exact ⟨shown.run op, shown.resting_run resting fun check => notDue (by rw [check]),
      (op.gpiob_run s.alarm).trans set, total⟩
  | speaker =>
    obtain ⟨l, was, rfl⟩ := Option.map_eq_some_iff.1 taken
    refine ⟨⟨p, shown⟩, resting, set, ?_⟩
    rw [← total, SoundState.pulses, SoundState.pulsesLeft, SoundState.pulses, SoundState.pulsesLeft, was]
    exact Speaker.pulses_next set resting

/-- Every state of a run shows a phase and has its device pointer. -/
theorem sound_shows {gpioaReady gpiobReady : Bool} {steps : List SoundStep} {s : SoundState}
    (ran : run soundStep (soundBoot gpioaReady gpiobReady) steps = some s) :
    (∃ p, Shows s.alarm p) ∧ s.alarm.gpiob = true := by
  have booted : Shows (alarmGpioInit initial) .armed := Shows.initial.congr rfl rfl rfl rfl rfl
  have keep : ∀ (s : SoundState) (st : SoundStep) (s' : SoundState),
      ((∃ p, Shows s.alarm p) ∧ s.alarm.gpiob = true) → soundStep s st = some s' →
        (∃ p, Shows s'.alarm p) ∧ s'.alarm.gpiob = true := by
    rintro s st s' ⟨⟨p, shown⟩, set⟩ taken
    cases st with
    | alarm op =>
      obtain rfl := Option.some.inj taken
      exact ⟨shown.run op, (op.gpiob_run s.alarm).trans set⟩
    | speaker =>
      obtain ⟨l, -, rfl⟩ := Option.map_eq_some_iff.1 taken
      exact ⟨⟨p, shown⟩, set⟩
  exact run_invariant keep ⟨⟨_, booted⟩, rfl⟩ ran

/-- **Silence.** Once the alarm neither rings nor is snoozed, be it muted, disabled or
auto-muted, and until `check_alarm_time` next finds the clock at the alarm time, it keeps
resting, and the speaker gives the pulses left in its round, at most two hundred, and no
others. -/
theorem silent_until_due {gpioaReady gpiobReady : Bool} {before : List SoundStep} {s : SoundState}
    (ran : run soundStep (soundBoot gpioaReady gpiobReady) before = some s) (resting : s.alarm.Resting)
    {after : List SoundStep} {s' : SoundState} (ran' : run soundStep s after = some s')
    (notDue : Along soundStep
      (fun s st => st = .alarm .checkAlarmTime → s.alarm.atAlarmTime = false) s after) :
    s'.alarm.Resting ∧ s'.pulses + s'.pulsesLeft = s.pulses + s.pulsesLeft ∧ s.pulsesLeft ≤ 200 := by
  obtain ⟨shown, set⟩ := sound_shows ran
  obtain ⟨-, resting', -, total⟩ :=
    run_invariant_of_along fading_step notDue ⟨shown, resting, set, rfl⟩ ran'
  refine ⟨resting', total, ?_⟩
  rw [SoundState.pulsesLeft]
  cases s.speaker with
  | none => exact Nat.zero_le _
  | some l => exact pulses_left_le l.pc

/-- The mute button is pressed during the first pulse; a second goes by, and five statements. -/
theorem silent_until_due_muted :
    ∃ s s', run soundStep (soundBoot true true) (untilFirstPulse ++ [.alarm .alarmMute]) = some s ∧
      run soundStep s ([.alarm .updateClock, .alarm .checkAlarmTime] ++ List.replicate 5 .speaker) = some s' ∧
      s'.alarm.Resting ∧ s'.pulses + s'.pulsesLeft = s.pulses + s.pulsesLeft ∧ s.pulsesLeft ≤ 200 :=
  ⟨_, _, rfl, rfl, @silent_until_due true true (untilFirstPulse ++ [.alarm .alarmMute]) _ rfl ⟨rfl, rfl⟩
    ([.alarm .updateClock, .alarm .checkAlarmTime] ++ List.replicate 5 .speaker) _ rfl
    (by decide)⟩

end SmartClock.Alarm
