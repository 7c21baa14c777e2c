import SmartClock.Alarm.Loop

/-!
# Rings, snoozes and the schedule

A ring nobody attends counts up round by round (`ringing_for`), a snooze nobody mutes
counts down (`snoozed_for`) and rings again when it ends (`snooze_ends`). With these the
one round in which a scheduled alarm is lost can be named and reached: the round that is
due and in which an older ring is in its last second (`never_swallowed_iff`). A day of
snoozes gets there (`swallowed_after_a_day`).
-/

namespace SmartClock.Alarm

section Rounds

variable {buttons : Nat → Samples}

/-- What the buttons do to the phase shown at the end of the round before. -/
theorem shows_afterButtons {n : Nat} {p : Phase} (h : Shows (alarmThread buttons n) p) :
    Shows (afterButtons buttons (n + 1))
      (p.press (presses (buttons (n + 1)) (afterClock buttons (n + 1)))) :=
  h.updateClock.alarmCheckButtons _

/-- Neither mute nor enable is pressed in round `k`. -/
def NoMuteNoEnable (buttons : Nat → Samples) (k : Nat) : Prop :=
  (presses (buttons k) (afterClock buttons k)).mute = false ∧
    (presses (buttons k) (afterClock buttons k)).enable = false

/-- No button is pressed in round `k`. -/
def NoPress (buttons : Nat → Samples) (k : Nat) : Prop :=
  presses (buttons k) (afterClock buttons k) = ⟨false, false, false⟩

theorem NoPress.noMuteNoEnable {k : Nat} (h : NoPress buttons k) : NoMuteNoEnable buttons k := by
  rw [NoPress] at h
  exact ⟨by rw [h], by rw [h]⟩

/-- A ring in a round without presses goes on, if this is not its last second. -/
theorem ringing_step {n : Nat} {elapsed : Elapsed} (h : Shows (alarmThread buttons n) (.ringing elapsed))
    (quiet : NoPress buttons (n + 1)) (more : elapsed.1 + 1 < alarmAutoMuteSeconds) :
    ∃ elapsed' : Elapsed, elapsed'.1 = elapsed.1 + 1 ∧
      Shows (alarmThread buttons (n + 1)) (.ringing elapsed') := by
  have pressed := shows_afterButtons h
  rw [quiet, Phase.press_none] at pressed
  obtain ⟨elapsed', count, step⟩ := Phase.updateAutoMute_more elapsed (Int.not_le.2 more)
  refine ⟨elapsed', count, ?_⟩
  rw [← step]
  exact shows_settle pressed

/-- An unattended ring, `m` rounds later. -/
theorem ringing_for {n : Nat} {elapsed : Elapsed} (h : Shows (alarmThread buttons n) (.ringing elapsed))
    (m : Nat) (quiet : ∀ i, n < i → i ≤ n + m → NoPress buttons i)
    (more : elapsed.1 + m < alarmAutoMuteSeconds) :
    ∃ elapsed' : Elapsed, elapsed'.1 = elapsed.1 + m ∧
      Shows (alarmThread buttons (n + m)) (.ringing elapsed') := by
  induction m with
  | zero => exact ⟨elapsed, by omega, h⟩
  | succ m ih =>
    obtain ⟨earlier, count, shown⟩ := ih (fun i lo hi => quiet i lo (by omega)) (by omega)
    obtain ⟨elapsed', count', shown'⟩ :=
      ringing_step shown (quiet (n + m + 1) (by omega) (by omega)) (by omega)
    exact ⟨elapsed', by omega, shown'⟩

/-- A snooze press during a ring starts a snooze, and the same round counts its first second. -/
theorem snooze_starts {n : Nat} {elapsed : Elapsed} (h : Shows (alarmThread buttons n) (.ringing elapsed))
    (pressed : (presses (buttons (n + 1)) (afterClock buttons (n + 1))).snooze = true)
    (quiet : NoMuteNoEnable buttons (n + 1)) :
    Shows (alarmThread buttons (n + 1)) (.snoozed ⟨snoozeSeconds - 1, by decide⟩) := by
  have handled := shows_afterButtons h
  have snoozed : (Phase.ringing elapsed).press (presses (buttons (n + 1)) (afterClock buttons (n + 1))) =
      Phase.freshSnooze := by
    simp only [Phase.press, pressed, quiet.1, quiet.2, if_true, Bool.false_eq_true, if_false]
    rfl
  rw [snoozed] at handled
  exact shows_settle handled

/-- Only mute and enable change a snooze. -/
theorem press_snoozed {n : Nat} {left : Left} (quiet : NoMuteNoEnable buttons n) :
    (Phase.snoozed left).press (presses (buttons n) (afterClock buttons n)) = .snoozed left := by
  have kept : (Phase.snoozed left).alarmSnooze = .snoozed left := rfl
  simp only [Phase.press, quiet.1, quiet.2, kept, ite_self, Bool.false_eq_true, if_false]

theorem snoozed_step {n : Nat} {left : Left} (h : Shows (alarmThread buttons n) (.snoozed left))
    (quiet : NoMuteNoEnable buttons (n + 1)) (more : 1 < left.1) :
    ∃ left' : Left, left'.1 = left.1 - 1 ∧ Shows (alarmThread buttons (n + 1)) (.snoozed left') := by
  have pressed := shows_afterButtons h
  rw [press_snoozed quiet] at pressed
  obtain ⟨left', count, step⟩ := Phase.updateSnooze_more left (by omega)
  refine ⟨left', count, ?_⟩
  have settled := shows_settle pressed
  rwa [Phase.settle_snoozed, step] at settled

/-- A snooze nobody mutes, `m` rounds later. -/
theorem snoozed_for {n : Nat} {left : Left} (h : Shows (alarmThread buttons n) (.snoozed left))
    (m : Nat) (quiet : ∀ i, n < i → i ≤ n + m → NoMuteNoEnable buttons i) (more : m < left.1) :
    ∃ left' : Left, left'.1 = left.1 - m ∧ Shows (alarmThread buttons (n + m)) (.snoozed left') := by
  induction m with
  | zero => exact ⟨left, by omega, h⟩
  | succ m ih =>
    obtain ⟨earlier, count, shown⟩ := ih (fun i lo hi => quiet i lo (by omega)) (by omega)
    obtain ⟨left', count', shown'⟩ :=
      snoozed_step shown (quiet (n + m + 1) (by omega) (by omega)) (by omega)
    exact ⟨left', by omega, shown'⟩

/-- The last second of a snooze starts a ring, and the same round counts its first second. -/
theorem snooze_ends {n : Nat} {left : Left} (h : Shows (alarmThread buttons n) (.snoozed left))
    (quiet : NoMuteNoEnable buttons (n + 1)) (last : left.1 = 1) :
    Shows (alarmThread buttons (n + 1)) (.ringing ⟨1, by decide⟩) := by
  have pressed := shows_afterButtons h
  rw [press_snoozed quiet] at pressed
  have settled := shows_settle pressed
  rwa [Phase.settle_snoozed, Phase.updateSnooze_last (by omega), Phase.updateAutoMute_freshRing]
    at settled

/-- A ring snoozed `a` rounds after it started rings again 299 rounds after the press. -/
theorem snooze_cycle {n a : Nat} (h : Shows (alarmThread buttons n) (.ringing ⟨1, by decide⟩))
    (range : 1 ≤ a ∧ (a : Int) < alarmAutoMuteSeconds)
    (pressed : (presses (buttons (n + a)) (afterClock buttons (n + a))).snooze = true)
    (quiet : ∀ i, n < i → i ≤ n + a + 299 → i ≠ n + a → NoPress buttons i)
    (alone : NoMuteNoEnable buttons (n + a)) :
    Shows (alarmThread buttons (n + a + 299)) (.ringing ⟨1, by decide⟩) := by
  obtain ⟨b, rfl⟩ : ∃ b, a = b + 1 := ⟨a - 1, by omega⟩
  obtain ⟨elapsed, -, ring⟩ := ringing_for h b (fun i lo hi => quiet i lo (by omega) (by omega))
    (by dsimp only; omega)
  have snoozed := snooze_starts ring pressed alone
  obtain ⟨left, count, waiting⟩ := snoozed_for snoozed 298
    (fun i lo hi => (quiet i (by omega) (by omega) (by omega)).noMuteNoEnable) (by decide)
  refine snooze_ends waiting (quiet _ (by omega) (by omega) (by omega)).noMuteNoEnable ?_
  rw [count]; rfl

/-! ## The scheduled alarm -/

/-- In every due round in which the alarm is enabled after the buttons, it ends active or
snoozed. -/
def NeverSwallowed (buttons : Nat → Samples) : Prop :=
  ∀ k, 1 ≤ k → ClockDue buttons k → (afterButtons buttons k).alarmEnabled = true →
    (alarmThread buttons k).alarmActive = true ∨ (alarmThread buttons k).alarmSnoozed = true

/-- A ring is in its last second before auto-mute. -/
def AlarmState.LastSecond (s : AlarmState) : Prop :=
  s.alarmActive = true ∧ s.activeSeconds = alarmAutoMuteSeconds - 1

theorem Shows.lastSecond {s : AlarmState} {p : Phase} (h : Shows s p) :
    s.LastSecond ↔ p.lastSecond = true := by
  rw [AlarmState.LastSecond, h.active, h.activeSeconds, Phase.lastSecond, Bool.and_eq_true,
    beq_iff_eq]

/-- One due round: the alarm ends active or snoozed unless a ring was in its last second. -/
theorem live_of_due_iff {k : Nat} (pos : 1 ≤ k) (due : ClockDue buttons k)
    (on : (afterButtons buttons k).alarmEnabled = true) :
    (alarmThread buttons k).alarmActive = true ∨ (alarmThread buttons k).alarmSnoozed = true ↔
      ¬ (afterButtons buttons k).LastSecond := by
  obtain ⟨n, rfl⟩ : ∃ n, k = n + 1 := ⟨k - 1, by omega⟩
  obtain ⟨p, shown⟩ := alarmThread_shows buttons n
  have pressed := shows_afterButtons shown
  have settled := shows_settle pressed
  rw [due] at settled
  rw [pressed.enabled] at on
  rw [← settled.live, Phase.live_settle_due on, pressed.lastSecond, Bool.not_eq_true]

/-- **The scheduled alarm is swallowed** exactly in a due round whose button handling
leaves an older ring in its last second: `check_alarm_time` skips the running ring, and
`update_auto_mute` ends it in the same round. -/
theorem never_swallowed_iff (buttons : Nat → Samples) :
    NeverSwallowed buttons ↔
      ∀ k, 1 ≤ k → ClockDue buttons k → (afterButtons buttons k).alarmEnabled = true →
        ¬ (afterButtons buttons k).LastSecond := by
  constructor
  · intro never k pos due on
    exact (live_of_due_iff pos due on).1 (never k pos due on)
  · intro later k pos due on
    exact (live_of_due_iff pos due on).2 (later k pos due on)

end Rounds

/-! ## An untouched clock and a day of snoozes -/

/-- Nobody touches the clock. -/
def untouched (_ : Nat) : Samples := ⟨1, 1, 1⟩

theorem presses_untouched (k : Nat) (s : AlarmState) :
    presses (untouched k) s = ⟨false, false, false⟩ := by
  simp [presses, untouched]

theorem levels_updateClock (s : AlarmState) : (updateClock s).levels = s.levels := by
  unfold updateClock; dsimp only; repeat' split
  all_goals rfl

/-- The levels an alarm round stores are the ones it sampled. -/
theorem levels_tick (b : Samples) {s : AlarmState} (ready : s.gpioa = true ∧ s.gpiob = true) :
    (tick b s).levels = (b.snooze, b.mute, b.enable) := by
  have clocked := settings_updateClock s
  simp only [AlarmState.settings, ready, Prod.mk.injEq] at clocked
  obtain ⟨-, a, b'⟩ := clocked
  have sampled : (alarmCheckButtons b (updateClock s)).levels = (b.snooze, b.mute, b.enable) := by
    rw [alarmCheckButtons, a, b']; rfl
  unfold tick updateAutoMute updateSnooze checkAlarmTime
  dsimp only
  repeat' split
  all_goals exact sampled

theorem alarmThread_ready (buttons : Nat → Samples) (n : Nat) :
    (alarmThread buttons n).gpioa = true ∧ (alarmThread buttons n).gpiob = true := by
  have settings := alarmThread_settings buttons n
  simp only [AlarmState.settings, Prod.mk.injEq] at settings
  exact settings.2

/-- From round 2 on, a press is a sampled 0 right after a sampled 1. -/
theorem presses_eq (buttons : Nat → Samples) (n : Nat) :
    presses (buttons (n + 2)) (afterClock buttons (n + 2)) =
      ⟨decide ((buttons (n + 2)).snooze = 0 ∧ (buttons (n + 1)).snooze = 1),
       decide ((buttons (n + 2)).mute = 0 ∧ (buttons (n + 1)).mute = 1),
       decide ((buttons (n + 2)).enable = 0 ∧ (buttons (n + 1)).enable = 1)⟩ := by
  have levels := (levels_updateClock _).trans
    (levels_tick (buttons (n + 1)) (alarmThread_ready buttons n))
  have settings := settings_updateClock (alarmThread buttons (n + 1))
  have ready := alarmThread_ready buttons (n + 1)
  simp only [AlarmState.levels, AlarmState.settings, Prod.mk.injEq, ready] at levels settings
  have stored : afterClock buttons (n + 2) = updateClock (tick (buttons (n + 1)) (alarmThread buttons n)) := rfl
  have pins : afterClock buttons (n + 2) = updateClock (alarmThread buttons (n + 1)) := rfl
  simp only [presses]
  rw [pins, settings.2.1, settings.2.2, ← pins, stored, levels.1, levels.2.1, levels.2.2]
  simp only [Bool.true_and]

/-- Snooze is pressed seven seconds into the first ring and then, until the evening is
over, fourteen seconds into every ring. -/
def dayOfSnoozes (k : Nat) : Samples :=
  if k = 10 ∨ (309 ≤ k ∧ k < 86384 ∧ (k - 309) % 313 = 14) then ⟨0, 1, 1⟩ else ⟨1, 1, 1⟩

theorem dayOfSnoozes_noPress {k : Nat} (big : 2 ≤ k)
    (quiet : ¬ (k = 10 ∨ (309 ≤ k ∧ k < 86384 ∧ (k - 309) % 313 = 14))) : NoPress dayOfSnoozes k := by
  obtain ⟨n, rfl⟩ : ∃ n, k = n + 2 := ⟨k - 2, by omega⟩
  rw [NoPress, presses_eq]
  have up : dayOfSnoozes (n + 2) = ⟨1, 1, 1⟩ := if_neg quiet
  simp [up]

theorem dayOfSnoozes_press {k : Nat}
    (pressed : k = 10 ∨ (309 ≤ k ∧ k < 86384 ∧ (k - 309) % 313 = 14)) :
    presses (dayOfSnoozes k) (afterClock dayOfSnoozes k) = ⟨true, false, false⟩ := by
  obtain ⟨n, rfl⟩ : ∃ n, k = n + 2 := ⟨k - 2, by omega⟩
  rw [presses_eq]
  have down : dayOfSnoozes (n + 2) = ⟨0, 1, 1⟩ := if_pos pressed
  have up : dayOfSnoozes (n + 1) = ⟨1, 1, 1⟩ := if_neg (by omega)
  simp [down, up]

/-- The first ring. -/
theorem dayOfSnoozes_first : Shows (alarmThread dayOfSnoozes 3) (.ringing ⟨1, by decide⟩) := by
  constructor <;> decide

/-- The rings after it, 313 seconds apart. -/
theorem dayOfSnoozes_rings (i : Nat) (bound : i ≤ 275) :
    Shows (alarmThread dayOfSnoozes (309 + 313 * i)) (.ringing ⟨1, by decide⟩) := by
  induction i with
  | zero =>
    have press := dayOfSnoozes_press (k := 10) (.inl rfl)
    rw [show 309 + 313 * 0 = 3 + 7 + 299 from rfl]
    exact snooze_cycle (n := 3) (a := 7) dayOfSnoozes_first (by decide) (by rw [press])
      (fun i lo hi ne => dayOfSnoozes_noPress (by omega) (by omega)) (by simp [NoMuteNoEnable, press])
  | succ i ih =>
    have press := dayOfSnoozes_press (k := 309 + 313 * i + 14) (by omega)
    rw [show 309 + 313 * (i + 1) = 309 + 313 * i + 14 + 299 by omega]
    exact snooze_cycle (a := 14) (ih (by omega)) (by decide) (by rw [press])
      (fun j lo hi ne => dayOfSnoozes_noPress (by omega) (by omega)) (by simp [NoMuteNoEnable, press])

/-- The alarm set for 00:00:03 does not ring on the second day. -/
theorem swallowed_after_a_day : ¬ NeverSwallowed dayOfSnoozes := by
  intro never
  obtain ⟨elapsed, count, ring⟩ := ringing_for (dayOfSnoozes_rings 275 (by omega)) 18
    (fun i lo hi => dayOfSnoozes_noPress (by omega) (by omega)) (by decide)
  have now : elapsed.1 = alarmAutoMuteSeconds - 1 := count.trans (by decide)
  have pressed := shows_afterButtons ring
  rw [dayOfSnoozes_noPress (by omega) (by omega), Phase.press_none] at pressed
  have clock := (alarmThread_clock dayOfSnoozes 86402).updateClock
  have alarm := (settings_updateClock _).trans (alarmThread_settings dayOfSnoozes 86402)
  have reached : afterClock dayOfSnoozes 86403 = updateClock (alarmThread dayOfSnoozes 86402) := rfl
  have due : ClockDue dayOfSnoozes 86403 := by
    rw [ClockDue, atAlarmTime_iff, reached, alarm]
    obtain ⟨second, minute, hour, total⟩ := clock
    simp only [AlarmState.clock, AlarmState.settings, alarmGpioInit, initial, defaultAlarmHour,
      defaultAlarmMinute, defaultAlarmSecond, Prod.mk.injEq]
    omega
  have live := (live_of_due_iff (by omega) due pressed.enabled).1 (never 86403 (by omega) due pressed.enabled)
  rw [pressed.lastSecond] at live
  simp [Phase.lastSecond, now] at live

end SmartClock.Alarm
