import SmartClock.Alarm.Phase
import SmartClock.Alarm.Clock

/-!
# Whole runs of the alarm loop

One round in its source order: `update_clock`, the buttons, `check_alarm_time`,
`update_snooze`, `update_auto_mute`. The round acts on the shown phase as `Phase.tick`
(`Shows.tick`), told which buttons were pressed and whether the clock is at the alarm
time. From this: the alarm sounds only after a scheduled start that nothing has ended
since, and what silences it keeps it silent until the next one (`active_since_start`).
-/

namespace SmartClock.Alarm

/-- Which button handlers run in a round. -/
structure Presses where
  snooze : Bool
  mute : Bool
  enable : Bool
deriving DecidableEq

/-- The presses `alarm_check_buttons` finds in `s`: a sampled 0 after a stored 1. -/
def presses (b : Samples) (s : AlarmState) : Presses where
  snooze := s.gpioa && s.gpiob && decide (b.snooze = 0 ∧ s.lastSnooze = 1)
  mute := s.gpioa && s.gpiob && decide (b.mute = 0 ∧ s.lastMute = 1)
  enable := s.gpioa && s.gpiob && decide (b.enable = 0 ∧ s.lastEnable = 1)

namespace Phase

/-- The handlers of the pressed buttons, in the order of `alarm_check_buttons`. -/
def press (x : Presses) (p : Phase) : Phase :=
  let p := if x.snooze then p.alarmSnooze else p
  let p := if x.mute then p.alarmMute else p
  if x.enable then p.alarmToggleEnabled else p

/-- A round after its button handling. -/
def settle (due : Bool) (p : Phase) : Phase :=
  ((p.checkAlarmTime due).updateSnooze).updateAutoMute

def tick (x : Presses) (due : Bool) (p : Phase) : Phase := (p.press x).settle due

/-- Ringing, or snoozed and about to ring again. -/
def live (p : Phase) : Bool := p.active || p.isSnoozed

/-- Seconds in the last second before auto-mute. -/
def lastSecond (p : Phase) : Bool := p.active && p.activeSeconds == alarmAutoMuteSeconds - 1

@[simp] theorem press_none (p : Phase) : p.press ⟨false, false, false⟩ = p := rfl

theorem live_alarmSnooze (p : Phase) : p.alarmSnooze.live = p.live := by cases p <;> rfl

theorem live_alarmMute (p : Phase) : p.alarmMute.live = false := by cases p <;> rfl

theorem live_alarmToggleEnabled (p : Phase) : p.alarmToggleEnabled.live = false := by
  cases p <;> rfl

/-- A phase is live after the buttons only if it was live before and nothing ended it. -/
theorem live_press {x : Presses} {p : Phase} (h : (p.press x).live = true) :
    p.live = true ∧ x.mute = false ∧ x.enable = false := by
  unfold press at h
  cases enable : x.enable with
  | true => simp [enable, live_alarmToggleEnabled] at h
  | false =>
    cases mute : x.mute with
    | true => simp [enable, mute, live_alarmMute] at h
    | false =>
      refine ⟨?_, rfl, rfl⟩
      cases snooze : x.snooze <;> simpa [enable, mute, snooze, live_alarmSnooze] using h

/-- The end of a round makes nothing live but a due start. -/
theorem live_settle {due : Bool} {p : Phase} (h : (p.settle due).live = true) :
    p.live = true ∨ p = armed ∧ due = true := by
  cases p with
  | disabled => exact absurd h (by simp [settle, checkAlarmTime, updateSnooze, updateAutoMute, live])
  | armed =>
    cases due with
    | true => exact .inr ⟨rfl, rfl⟩
    | false => exact absurd h (by simp [settle, checkAlarmTime, updateSnooze, updateAutoMute, live])
  | ringing _ | snoozed _ => exact .inl rfl

theorem updateSnooze_last {left : Left} (last : left.1 - 1 ≤ 0) :
    (snoozed left).updateSnooze = freshRing := dif_pos last

theorem updateSnooze_more (left : Left) (more : ¬ left.1 - 1 ≤ 0) :
    ∃ left' : Left, left'.1 = left.1 - 1 ∧ (snoozed left).updateSnooze = snoozed left' :=
  ⟨_, rfl, dif_neg more⟩

theorem updateAutoMute_last {elapsed : Elapsed} (last : elapsed.1 + 1 ≥ alarmAutoMuteSeconds) :
    (ringing elapsed).updateAutoMute = armed := dif_pos last

theorem updateAutoMute_more (elapsed : Elapsed) (more : ¬ elapsed.1 + 1 ≥ alarmAutoMuteSeconds) :
    ∃ elapsed' : Elapsed, elapsed'.1 = elapsed.1 + 1 ∧
      (ringing elapsed).updateAutoMute = ringing elapsed' :=
  ⟨_, rfl, dif_neg more⟩

theorem settle_ringing (due : Bool) (elapsed : Elapsed) :
    (ringing elapsed).settle due = (ringing elapsed).updateAutoMute := rfl

theorem settle_snoozed (due : Bool) (left : Left) :
    (snoozed left).settle due = (snoozed left).updateSnooze.updateAutoMute := rfl

/-- A fresh ring survives the round that starts it. -/
theorem updateAutoMute_freshRing : freshRing.updateAutoMute = ringing ⟨1, by decide⟩ := rfl

/-- What auto-mute silences is not snoozed either. -/
theorem live_updateAutoMute {p : Phase} (ring : p.active = true)
    (silent : p.updateAutoMute.active = false) : p.updateAutoMute.live = false := by
  cases p with
  | ringing elapsed =>
    by_cases last : elapsed.1 + 1 ≥ alarmAutoMuteSeconds
    · rw [updateAutoMute_last last]; rfl
    · obtain ⟨elapsed', -, more⟩ := updateAutoMute_more elapsed last
      rw [more] at silent; cases silent
  | disabled | armed | snoozed _ => cases ring

/-- In a due round an enabled phase ends live, unless auto-mute ends a ring in it. -/
theorem live_settle_due {p : Phase} (on : p.enabled = true) :
    (p.settle true).live = true ↔ p.lastSecond = false := by
  cases p with
  | disabled => cases on
  | armed => exact ⟨fun _ => rfl, fun _ => rfl⟩
  | ringing elapsed =>
    have range := elapsed.2
    rw [settle_ringing]
    by_cases last : elapsed.1 + 1 ≥ alarmAutoMuteSeconds
    · have now : elapsed.1 = alarmAutoMuteSeconds - 1 := by omega
      simp [updateAutoMute_last last, live, lastSecond, now]
    · have later : elapsed.1 ≠ alarmAutoMuteSeconds - 1 := by omega
      obtain ⟨elapsed', -, more⟩ := updateAutoMute_more elapsed last
      simp [more, live, lastSecond, later]
  | snoozed left =>
    refine ⟨fun _ => rfl, fun _ => ?_⟩
    rw [settle_snoozed]
    by_cases last : left.1 - 1 ≤ 0
    · rw [updateSnooze_last last]; rfl
    · obtain ⟨left', -, more⟩ := updateSnooze_more left last
      rw [more]; rfl

end Phase

/-! ## The faithful round acts on the shown phase -/

/-- The stored button levels. -/
def AlarmState.levels (s : AlarmState) : Int × Int × Int := (s.lastSnooze, s.lastMute, s.lastEnable)

theorem levels_onPress {handler : AlarmState → AlarmState} (keep : ∀ s, (handler s).levels = s.levels)
    (now last : Int) (s : AlarmState) : (onPress now last handler s).levels = s.levels := by
  unfold onPress; split
  · exact keep s
  · rfl

theorem levels_alarmSnooze (s : AlarmState) : (alarmSnooze s).levels = s.levels := by
  unfold alarmSnooze; split <;> rfl

theorem levels_alarmMute (s : AlarmState) : (alarmMute s).levels = s.levels := by
  unfold alarmMute; split <;> rfl

namespace Shows

variable {s : AlarmState} {p : Phase}

theorem onPress {handler : AlarmState → AlarmState} {f : Phase → Phase}
    (h : Shows s p) (step : Shows (handler s) (f p)) (now last : Int) :
    Shows (onPress now last handler s) (if decide (now = 0 ∧ last = 1) then f p else p) := by
  unfold Alarm.onPress
  by_cases pressed : now = 0 ∧ last = 1
  · simpa [pressed] using step
  · simpa [pressed] using h

theorem alarmCheckButtons (h : Shows s p) (b : Samples) :
    Shows (alarmCheckButtons b s) (p.press (presses b s)) := by
  unfold Alarm.alarmCheckButtons Phase.press presses
  cases ready : s.gpioa && s.gpiob with
  | false =>
    have unset : (!s.gpioa || !s.gpiob) = true := by rw [← Bool.not_and, ready]; rfl
    simpa only [unset, if_true, Bool.false_and, Bool.false_eq_true, if_false] using h
  | true =>
    have set : (!s.gpioa || !s.gpiob) = false := by rw [← Bool.not_and, ready]; rfl
    simp only [set, Bool.false_eq_true, if_false, Bool.true_and]
    -- the handlers leave the stored levels alone, so each test reads those of `s`
    have levels := levels_onPress levels_alarmSnooze b.snooze s.lastSnooze s
    have levels' := (levels_onPress levels_alarmMute b.mute s.lastMute _).trans levels
    simp only [AlarmState.levels, Prod.mk.injEq] at levels levels'
    rw [levels.2.1, levels'.2.2]
    have snoozed := h.onPress h.alarmSnooze b.snooze s.lastSnooze
    have muted := snoozed.onPress snoozed.alarmMute b.mute s.lastMute
    have toggled := muted.onPress muted.alarmToggleEnabled b.enable s.lastEnable
    exact toggled.congr rfl rfl rfl rfl rfl

/-- The end of a round, from the state the buttons leave. -/
theorem settle (h : Shows s p) :
    Shows (Alarm.updateAutoMute (Alarm.updateSnooze (Alarm.checkAlarmTime s))) (p.settle s.atAlarmTime) :=
  h.checkAlarmTime.updateSnooze.updateAutoMute

theorem tick (h : Shows s p) (b : Samples) :
    Shows (tick b s) (p.tick (presses b (Alarm.updateClock s)) (Alarm.updateClock s).atAlarmTime) := by
  have settled := (h.updateClock.alarmCheckButtons b).settle
  rw [(keepsTime_alarmCheckButtons b).atAlarmTime] at settled
  exact settled

theorem live (h : Shows s p) :
    p.live = true ↔ s.alarmActive = true ∨ s.alarmSnoozed = true := by
  rw [h.active, h.snoozed, Phase.live, Bool.or_eq_true]

theorem enabled_of_live (h : Shows s p) (on : p.live = true) : s.alarmEnabled = true := by
  rw [h.enabled]; cases p <;> simp_all [Phase.live]

end Shows

/-- Every state of a run shows a phase. -/
theorem alarmThread_shows (buttons : Nat → Samples) (n : Nat) :
    ∃ p, Shows (alarmThread buttons n) p := by
  have booted : Shows (alarmGpioInit initial) .armed := Shows.initial.congr rfl rfl rfl rfl rfl
  exact Run.stateAt_invariant (P := fun s => ∃ p, Shows s p) ⟨_, booted⟩
    (fun b _ ⟨_, h⟩ => ⟨_, h.tick b⟩) buttons n

/-! ## Rounds of a run -/

section Rounds

variable (buttons : Nat → Samples)

/-- Round `k` after its `update_clock`. -/
def afterClock (k : Nat) : AlarmState := updateClock (alarmThread buttons (k - 1))

/-- Round `k` after its button handling. -/
def afterButtons (k : Nat) : AlarmState := alarmCheckButtons (buttons k) (afterClock buttons k)

/-- `update_clock` makes the clock equal the alarm time in round `k`. -/
def ClockDue (k : Nat) : Prop := (afterClock buttons k).atAlarmTime = true

/-- `check_alarm_time` starts the alarm in round `k`. -/
def Started (k : Nat) : Prop :=
  (afterButtons buttons k).alarmActive = false ∧
    (checkAlarmTime (afterButtons buttons k)).alarmActive = true

/-- A mute press is handled in round `k`. -/
def MutePressed (k : Nat) : Prop := (presses (buttons k) (afterClock buttons k)).mute = true

/-- An enable press that disables the alarm is handled in round `k`. -/
def DisablePressed (k : Nat) : Prop :=
  (presses (buttons k) (afterClock buttons k)).enable = true ∧
    (afterClock buttons k).alarmEnabled = true

/-- `update_auto_mute` silences the alarm in round `k`. -/
def AutoMuted (k : Nat) : Prop :=
  let s := updateSnooze (checkAlarmTime (afterButtons buttons k))
  s.alarmActive = true ∧ (updateAutoMute s).alarmActive = false

/-- Enabled, and active or snoozed. -/
def AlarmState.Live (s : AlarmState) : Prop :=
  s.alarmEnabled = true ∧ (s.alarmActive = true ∨ s.alarmSnoozed = true)

variable {buttons}

theorem Shows.live_iff {s : AlarmState} {p : Phase} (h : Shows s p) : s.Live ↔ p.live = true :=
  ⟨fun l => h.live.2 l.2, fun l => ⟨h.enabled_of_live l, h.live.1 l⟩⟩

theorem alarmThread_succ (n : Nat) :
    alarmThread buttons (n + 1) =
      updateAutoMute (updateSnooze (checkAlarmTime (afterButtons buttons (n + 1)))) := rfl

/-- What the last three functions of a round do to the phase the buttons leave. -/
theorem shows_settle {n : Nat} {p : Phase} (h : Shows (afterButtons buttons (n + 1)) p) :
    Shows (alarmThread buttons (n + 1)) (p.settle (afterClock buttons (n + 1)).atAlarmTime) := by
  have settled := h.settle
  rwa [afterButtons, (keepsTime_alarmCheckButtons _).atAlarmTime] at settled

/-- From an armed phase in a due round, `check_alarm_time` starts the alarm. -/
theorem started_of_armed {k : Nat} (h : Shows (afterButtons buttons k) .armed)
    (due : ClockDue buttons k) : Started buttons k := by
  have started := h.checkAlarmTime
  rw [afterButtons, (keepsTime_alarmCheckButtons _).atAlarmTime, due] at started
  exact ⟨h.active, started.active⟩

theorem clockDue_of_started {k : Nat} (h : Started buttons k) : ClockDue buttons k := by
  obtain ⟨silent, active⟩ := h
  unfold checkAlarmTime at active
  split at active
  · rw [silent] at active; cases active
  · split at active
    · rename_i due
      rwa [afterButtons, (keepsTime_alarmCheckButtons _).atAlarmTime] at due
    · rw [silent] at active; cases active

/-- A round that ends live either starts the alarm or continues a live state that no
mute press and no disabling press touched. -/
theorem live_step {n : Nat} (h : (alarmThread buttons (n + 1)).Live) :
    Started buttons (n + 1) ∨ (alarmThread buttons n).Live ∧
      ¬ MutePressed buttons (n + 1) ∧ ¬ DisablePressed buttons (n + 1) := by
  obtain ⟨p, shown⟩ := alarmThread_shows buttons n
  have pressed : Shows (afterButtons buttons (n + 1)) _ :=
    shown.updateClock.alarmCheckButtons (buttons (n + 1))
  rcases Phase.live_settle ((shows_settle pressed).live_iff.1 h) with live | ⟨armed, due⟩
  · obtain ⟨before, mute, enable⟩ := Phase.live_press live
    refine .inr ⟨shown.live_iff.2 before, fun m => ?_, fun d => ?_⟩
    · rw [MutePressed, afterClock, Nat.add_sub_cancel, mute] at m; cases m
    · rw [DisablePressed, afterClock, Nat.add_sub_cancel, enable] at d; cases d.1
  · rw [armed] at pressed
    exact .inl (started_of_armed pressed due)

/-- A live state has been live since a scheduled start. -/
theorem live_since_start (j : Nat) (h : (alarmThread buttons j).Live) :
    ∃ k, 1 ≤ k ∧ k ≤ j ∧ Started buttons k ∧
      (∀ i, k ≤ i → i ≤ j → (alarmThread buttons i).Live) ∧
      ∀ i, k < i → i ≤ j → ¬ MutePressed buttons i ∧ ¬ DisablePressed buttons i :=
  Run.since_of_step (fun l => absurd l.2 (by simp [alarmThread, alarmGpioInit, initial]))
    (fun _ => live_step) j h

theorem live_of_active {n : Nat} (h : (alarmThread buttons n).alarmActive = true) :
    (alarmThread buttons n).Live := by
  obtain ⟨p, shown⟩ := alarmThread_shows buttons n
  exact shown.live_iff.2 (shown.live.2 (.inl h))

/-- Auto-mute leaves nothing live. -/
theorem not_live_of_autoMuted {k : Nat} (pos : 1 ≤ k) (h : AutoMuted buttons k) :
    ¬ (alarmThread buttons k).Live := by
  obtain ⟨n, rfl⟩ : ∃ n, k = n + 1 := ⟨k - 1, by omega⟩
  obtain ⟨ringing, silent⟩ := h
  obtain ⟨p, shown⟩ := alarmThread_shows buttons n
  have snoozed : Shows (updateSnooze (checkAlarmTime (afterButtons buttons (n + 1)))) _ :=
    (shown.updateClock.alarmCheckButtons (buttons (n + 1))).checkAlarmTime.updateSnooze
  rw [alarmThread_succ, snoozed.updateAutoMute.live_iff]
  rw [Phase.live_updateAutoMute (snoozed.active ▸ ringing) (snoozed.updateAutoMute.active ▸ silent)]
  exact Bool.false_ne_true

/-- **No sound without a live cause.** An active alarm was started by `check_alarm_time`
at the alarm time and has been enabled, and active or snoozed, ever since, with no mute
press and no disabling press. And once a mute press, a disabling press or auto-mute has
silenced it, it stays silent until the next scheduled start. -/
theorem active_since_start (buttons : Nat → Samples) (j : Nat) :
    ((alarmThread buttons j).alarmActive = true →
      ∃ k, 1 ≤ k ∧ k ≤ j ∧ ClockDue buttons k ∧ Started buttons k ∧
        (∀ i, k ≤ i → i ≤ j → (alarmThread buttons i).Live) ∧
        ∀ i, k < i → i ≤ j → ¬ MutePressed buttons i ∧ ¬ DisablePressed buttons i) ∧
    (∀ i, 1 ≤ i → i ≤ j →
      MutePressed buttons i ∨ DisablePressed buttons i ∨ AutoMuted buttons i →
      (∀ k, i ≤ k → k ≤ j → ¬ Started buttons k) →
      (alarmThread buttons j).alarmActive = false) := by
  constructor
  · intro active
    obtain ⟨k, pos, le, started, live, quiet⟩ := live_since_start j (live_of_active active)
    exact ⟨k, pos, le, clockDue_of_started started, started, live, quiet⟩
  · intro i pos le silenced noStart
    by_contra active
    rw [Bool.not_eq_false] at active
    obtain ⟨k, -, le', started, live, quiet⟩ := live_since_start j (live_of_active active)
    have earlier : k < i := by
      by_contra later
      exact noStart k (by omega) le' started
    obtain ⟨noMute, noDisable⟩ := quiet i earlier le
    rcases silenced with mute | disable | auto
    · exact noMute mute
    · exact noDisable disable
    · exact not_live_of_autoMuted pos auto (live i (by omega) le)

end Rounds

end SmartClock.Alarm
