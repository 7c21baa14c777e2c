import SmartClock.Alarm.Schedule

/-!
# How long a ring and a snooze last

Both counters are loaded early in a round and moved by a later function of the same
round: `update_auto_mute` counts the round that starts a ring, and `update_snooze` counts
the round of the snooze press. No second has passed by then, so a ring that nobody
touches is one second shorter than `ALARM_AUTO_MUTE_SECONDS` (`ring_second_short`), and a
snooze is one second shorter than `SNOOZE_SECONDS` (`snooze_second_short`).
-/

namespace SmartClock.Alarm

/-- Both ways to start a ring lead to the same phase at the end of the round. -/
theorem Phase.settle_starts {due : Bool} {p : Phase} (silent : p.active = false)
    (ring : (p.checkAlarmTime due).updateSnooze.active = true) :
    p.settle due = ringing ⟨1, by decide⟩ := by
  cases p with
  | disabled => cases ring
  | ringing _ => cases silent
  | armed =>
    cases due with
    | true => exact updateAutoMute_freshRing
    | false => cases ring
  | snoozed left =>
    rw [settle_snoozed]
    by_cases last : left.1 - 1 ≤ 0
    · rw [updateSnooze_last last]; exact updateAutoMute_freshRing
    · obtain ⟨left', -, more⟩ := updateSnooze_more left last
      have silent' : (snoozed left).updateSnooze.active = true := ring
      rw [more] at silent'; cases silent'

section Rounds

variable (buttons : Nat → Samples)

/-- In round `k`, `check_alarm_time` or the end of a snooze makes the alarm active. -/
def RingStarts (k : Nat) : Prop :=
  (afterButtons buttons k).alarmActive = false ∧
    (updateSnooze (checkAlarmTime (afterButtons buttons k))).alarmActive = true

/-- Active at the end of `periods` rounds from round `k` on, and silent after the next. -/
def RingsFor (k periods : Nat) : Prop :=
  (∀ i, k ≤ i → i < k + periods → (alarmThread buttons i).alarmActive = true) ∧
    (alarmThread buttons (k + periods)).alarmActive = false

/-- `alarm_snooze` runs in round `k` while the alarm is active. -/
def SnoozePressed (k : Nat) : Prop :=
  (presses (buttons k) (afterClock buttons k)).snooze = true ∧
    (afterClock buttons k).alarmActive = true

/-- Snoozed and silent at the end of `periods` rounds from round `k` on, and active after
the next. -/
def SnoozedFor (k periods : Nat) : Prop :=
  (∀ i, k ≤ i → i < k + periods →
    (alarmThread buttons i).alarmSnoozed = true ∧ (alarmThread buttons i).alarmActive = false) ∧
    (alarmThread buttons (k + periods)).alarmActive = true

variable {buttons}

theorem RingStarts.shows {k : Nat} (pos : 1 ≤ k) (starts : RingStarts buttons k) :
    Shows (alarmThread buttons k) (.ringing ⟨1, by decide⟩) := by
  obtain ⟨n, rfl⟩ : ∃ n, k = n + 1 := ⟨k - 1, by omega⟩
  obtain ⟨silent, ring⟩ := starts
  obtain ⟨p, shown⟩ := alarmThread_shows buttons n
  have pressed := shows_afterButtons shown
  have settled := pressed.settle
  rw [Phase.settle_starts (pressed.active ▸ silent)
    (pressed.checkAlarmTime.updateSnooze.active ▸ ring)] at settled
  exact settled

/-- The last second of a ring nobody touches. -/
theorem ring_ends {n : Nat} {elapsed : Elapsed} (h : Shows (alarmThread buttons n) (.ringing elapsed))
    (quiet : NoPress buttons (n + 1)) (last : elapsed.1 + 1 ≥ alarmAutoMuteSeconds) :
    Shows (alarmThread buttons (n + 1)) .armed := by
  have pressed := shows_afterButtons h
  rw [quiet, Phase.press_none] at pressed
  rw [← Phase.updateAutoMute_last last]
  exact shows_settle pressed

/-- A ring from its first second on. -/
theorem ringsFor_of_shows {k : Nat} (h : Shows (alarmThread buttons k) (.ringing ⟨1, by decide⟩))
    (quiet : ∀ i, k < i → i ≤ k + alarmAutoMuteSeconds.toNat → NoPress buttons i) :
    RingsFor buttons k (alarmAutoMuteSeconds.toNat - 1) := by
  have positive : 1 < alarmAutoMuteSeconds := by decide
  constructor
  · intro i lo hi
    obtain ⟨m, rfl⟩ : ∃ m, i = k + m := ⟨i - k, by omega⟩
    obtain ⟨elapsed, -, shown⟩ := ringing_for h m (fun j lo hi => quiet j lo (by omega))
      (by dsimp only; omega)
    exact shown.active
  · obtain ⟨m, total⟩ : ∃ m : Nat, alarmAutoMuteSeconds = m + 2 :=
      ⟨(alarmAutoMuteSeconds - 2).toNat, by omega⟩
    obtain ⟨elapsed, count, shown⟩ := ringing_for h m (fun j lo hi => quiet j lo (by omega))
      (by dsimp only; omega)
    have ended := ring_ends shown (quiet _ (by omega) (by omega)) (by dsimp only at count; omega)
    rw [show k + (alarmAutoMuteSeconds.toNat - 1) = k + m + 1 by omega]
    exact ended.active

/-- **No ring lasts its configured time**: left alone, every ring that starts, in every
run, is silenced one round early. -/
theorem ring_second_short {k : Nat} (pos : 1 ≤ k) (starts : RingStarts buttons k)
    (quiet : ∀ i, k < i → i ≤ k + alarmAutoMuteSeconds.toNat → NoPress buttons i) :
    ¬ RingsFor buttons k alarmAutoMuteSeconds.toNat ∧
      RingsFor buttons k (alarmAutoMuteSeconds.toNat - 1) := by
  have positive : 1 < alarmAutoMuteSeconds := by decide
  have short := ringsFor_of_shows (starts.shows pos) quiet
  refine ⟨?_, short⟩
  intro full
  have active := full.1 (k + (alarmAutoMuteSeconds.toNat - 1)) (by omega) (by omega)
  rw [short.2] at active
  cases active

/-- A snooze from its press on, whatever the snooze button does meanwhile. -/
theorem snoozedFor_of_press {n : Nat} {elapsed : Elapsed}
    (h : Shows (alarmThread buttons n) (.ringing elapsed))
    (pressed : (presses (buttons (n + 1)) (afterClock buttons (n + 1))).snooze = true)
    (quiet : ∀ i, n < i → i ≤ n + 1 + snoozeSeconds.toNat → NoMuteNoEnable buttons i) :
    SnoozedFor buttons (n + 1) (snoozeSeconds.toNat - 1) := by
  have positive : 1 < snoozeSeconds := by decide
  have started := snooze_starts h pressed (quiet _ (by omega) (by omega))
  constructor
  · intro i lo hi
    obtain ⟨m, rfl⟩ : ∃ m, i = n + 1 + m := ⟨i - (n + 1), by omega⟩
    obtain ⟨left, -, waiting⟩ := snoozed_for started m (fun j lo hi => quiet j (by omega) (by omega))
      (by dsimp only; omega)
    exact ⟨waiting.snoozed, waiting.active⟩
  · obtain ⟨m, total⟩ : ∃ m : Nat, snoozeSeconds = m + 2 := ⟨(snoozeSeconds - 2).toNat, by omega⟩
    obtain ⟨left, count, waiting⟩ := snoozed_for started m
      (fun j lo hi => quiet j (by omega) (by omega)) (by dsimp only; omega)
    have ended := snooze_ends waiting (quiet _ (by omega) (by omega)) (by dsimp only at count; omega)
    rw [show n + 1 + (snoozeSeconds.toNat - 1) = n + 1 + m + 1 by omega]
    exact ended.active

theorem SnoozePressed.ringing {n : Nat} (h : SnoozePressed buttons (n + 1)) :
    ∃ elapsed, Shows (alarmThread buttons n) (.ringing elapsed) := by
  obtain ⟨p, shown⟩ := alarmThread_shows buttons n
  have active := h.2
  rw [afterClock, Nat.add_sub_cancel, shown.updateClock.active] at active
  cases p with
  | ringing elapsed => exact ⟨elapsed, shown⟩
  | disabled | armed | snoozed _ => cases active

/-- **No snooze lasts its configured time**: with no mute and no enable press, every
snooze, in every run, ends one round early. -/
theorem snooze_second_short {k : Nat} (pos : 1 ≤ k) (pressed : SnoozePressed buttons k)
    (quiet : ∀ i, k ≤ i → i ≤ k + snoozeSeconds.toNat → NoMuteNoEnable buttons i) :
    ¬ SnoozedFor buttons k snoozeSeconds.toNat ∧
      SnoozedFor buttons k (snoozeSeconds.toNat - 1) := by
  have positive : 1 < snoozeSeconds := by decide
  obtain ⟨n, rfl⟩ : ∃ n, k = n + 1 := ⟨k - 1, by omega⟩
  obtain ⟨elapsed, ring⟩ := pressed.ringing
  have short := snoozedFor_of_press ring pressed.1 (fun i lo hi => quiet i lo hi)
  refine ⟨?_, short⟩
  intro full
  have silent := (full.1 (n + 1 + (snoozeSeconds.toNat - 1)) (by omega) (by omega)).2
  rw [short.2] at silent
  cases silent

end Rounds

/-! ## Two runs -/

theorem untouched_starts : RingStarts untouched 3 := by
  constructor <;> decide

/-- The first ring of an untouched clock. -/
theorem ring_second_short_untouched :
    ¬ RingsFor untouched 3 alarmAutoMuteSeconds.toNat ∧
      RingsFor untouched 3 (alarmAutoMuteSeconds.toNat - 1) :=
  ring_second_short (by decide) untouched_starts (fun i _ _ => presses_untouched i _)

/-- It starts at 00:00:03 and is muted at 00:00:22, after nineteen seconds. -/
theorem untouched_muted_early :
    ¬ ∀ buttons k, 1 ≤ k → RingStarts buttons k →
      (∀ i, k < i → i ≤ k + alarmAutoMuteSeconds.toNat → NoPress buttons i) →
        RingsFor buttons k alarmAutoMuteSeconds.toNat := by
  intro claimed
  have full := claimed untouched 3 (by decide) untouched_starts
    (fun i _ _ => presses_untouched i _)
  have short := ringsFor_of_shows (untouched_starts.shows (by decide))
    (fun i _ _ => presses_untouched i _)
  have active := full.1 (3 + (alarmAutoMuteSeconds.toNat - 1)) (by decide) (by decide)
  rw [short.2] at active
  cases active

theorem dayOfSnoozes_noMuteNoEnable {k : Nat} (big : 2 ≤ k) : NoMuteNoEnable dayOfSnoozes k := by
  by_cases pressed : k = 10 ∨ (309 ≤ k ∧ k < 86384 ∧ (k - 309) % 313 = 14)
  · rw [NoMuteNoEnable, dayOfSnoozes_press pressed]
    exact ⟨rfl, rfl⟩
  · exact (dayOfSnoozes_noPress big pressed).noMuteNoEnable

theorem dayOfSnoozes_snoozed : SnoozePressed dayOfSnoozes 10 := by
  obtain ⟨elapsed, -, ring⟩ := ringing_for dayOfSnoozes_first 6
    (fun _ lo hi => dayOfSnoozes_noPress (by omega) (by omega)) (by decide)
  exact ⟨by rw [dayOfSnoozes_press (.inl rfl)], ring.updateClock.active⟩

/-- The first snooze of a day of snoozes. -/
theorem snooze_second_short_first :
    ¬ SnoozedFor dayOfSnoozes 10 snoozeSeconds.toNat ∧
      SnoozedFor dayOfSnoozes 10 (snoozeSeconds.toNat - 1) :=
  snooze_second_short (by decide) dayOfSnoozes_snoozed
    (fun _ lo _ => dayOfSnoozes_noMuteNoEnable (by omega))

/-- It starts at 00:00:10 and the alarm rings again at 00:05:09, after 299 seconds. -/
theorem dayOfSnoozes_rings_early :
    ¬ ∀ buttons k, 1 ≤ k → SnoozePressed buttons k →
      (∀ i, k ≤ i → i ≤ k + snoozeSeconds.toNat → NoMuteNoEnable buttons i) →
        SnoozedFor buttons k snoozeSeconds.toNat := by
  intro claimed
  have full := claimed dayOfSnoozes 10 (by decide) dayOfSnoozes_snoozed
    (fun _ lo _ => dayOfSnoozes_noMuteNoEnable (by omega))
  have silent := (full.1 309 (by decide) (by decide)).2
  have active : (alarmThread dayOfSnoozes 309).alarmActive = true :=
    (dayOfSnoozes_rings 0 (Nat.zero_le _)).active
  rw [active] at silent
  cases silent

end SmartClock.Alarm
