import SmartClock.Alarm.State
import Mathlib.Tactic.Common

/-!
# The four phases of the alarm

Three flags and two counters of `alarm.c` encode one machine with four states: disabled,
armed, ringing for some seconds, snoozed with some seconds left. `Phase` is that machine,
with the counters' ranges in their types. `Shows s p` says that the five variables of `s`
are those of phase `p`; every function of `alarm.c` moves between shown phases the way
its counterpart on `Phase` says (`Shows.checkAlarmTime` and its siblings), so every
reachable state shows a phase and the ranges hold of it.
-/

namespace SmartClock.Alarm

/-- Seconds a ring has lasted: never as many as mute it. -/
abbrev Elapsed := {n : Int // 0 ≤ n ∧ n < alarmAutoMuteSeconds}

/-- Seconds a snooze has left: at least one, at most a whole snooze. -/
abbrev Left := {n : Int // 1 ≤ n ∧ n ≤ snoozeSeconds}

inductive Phase where
  | disabled
  | armed
  | ringing (elapsed : Elapsed)
  | snoozed (left : Left)
deriving DecidableEq

namespace Phase

@[simp] def enabled : Phase → Bool
  | disabled => false
  | _ => true

@[simp] def active : Phase → Bool
  | ringing _ => true
  | _ => false

@[simp] def isSnoozed : Phase → Bool
  | snoozed _ => true
  | _ => false

@[simp] def activeSeconds : Phase → Int
  | ringing elapsed => elapsed
  | _ => 0

@[simp] def snoozeSecondsLeft : Phase → Int
  | snoozed left => left
  | _ => 0

/-- A ring that starts now. -/
def freshRing : Phase := ringing ⟨0, by decide⟩

/-- A snooze that starts now. -/
def freshSnooze : Phase := snoozed ⟨snoozeSeconds, by decide⟩

/-- `check_alarm_time`, told whether the clock shows the alarm time. -/
def checkAlarmTime (due : Bool) : Phase → Phase
  | armed => if due then freshRing else armed
  | p => p

def updateSnooze : Phase → Phase
  | snoozed left =>
    if last : left.1 - 1 ≤ 0 then freshRing
    else snoozed ⟨left.1 - 1, by have := left.2; omega⟩
  | p => p

def updateAutoMute : Phase → Phase
  | ringing elapsed =>
    if last : elapsed.1 + 1 ≥ alarmAutoMuteSeconds then armed
    else ringing ⟨elapsed.1 + 1, by have := elapsed.2; omega⟩
  | p => p

def alarmSnooze : Phase → Phase
  | ringing _ => freshSnooze
  | p => p

def alarmMute : Phase → Phase
  | disabled => disabled
  | _ => armed

def alarmToggleEnabled : Phase → Phase
  | disabled => armed
  | _ => disabled

end Phase

/-- The flags and counters of `s` are those of phase `p`. -/
structure Shows (s : AlarmState) (p : Phase) : Prop where
  enabled : s.alarmEnabled = p.enabled
  active : s.alarmActive = p.active
  snoozed : s.alarmSnoozed = p.isSnoozed
  activeSeconds : s.activeSeconds = p.activeSeconds
  snoozeSecondsLeft : s.snoozeSecondsLeft = p.snoozeSecondsLeft

namespace Shows

variable {s s' : AlarmState} {p : Phase}

/-- Only the five variables count. -/
theorem congr (h : Shows s p) (enabled : s'.alarmEnabled = s.alarmEnabled)
    (active : s'.alarmActive = s.alarmActive) (snoozed : s'.alarmSnoozed = s.alarmSnoozed)
    (activeSeconds : s'.activeSeconds = s.activeSeconds)
    (left : s'.snoozeSecondsLeft = s.snoozeSecondsLeft) : Shows s' p :=
  ⟨enabled.trans h.enabled, active.trans h.active, snoozed.trans h.snoozed,
    activeSeconds.trans h.activeSeconds, left.trans h.snoozeSecondsLeft⟩

theorem initial : Shows initial .armed := by constructor <;> rfl

theorem updateClock (h : Shows s p) : Shows (updateClock s) p := by
  apply h.congr <;> (unfold Alarm.updateClock; dsimp only; repeat' split) <;> rfl

theorem checkAlarmTime (h : Shows s p) :
    Shows (checkAlarmTime s) (p.checkAlarmTime s.atAlarmTime) := by
  cases p with
  | armed =>
    rw [Alarm.checkAlarmTime, if_neg (by simp [h.enabled, h.active, h.snoozed])]
    cases s.atAlarmTime with
    | true => exact ⟨h.enabled, rfl, h.snoozed, rfl, h.snoozeSecondsLeft⟩
    | false => exact h
  | disabled | ringing _ | snoozed _ =>
    rw [Alarm.checkAlarmTime, if_pos (by simp [h.enabled, h.active, h.snoozed])]
    exact h

theorem updateSnooze (h : Shows s p) : Shows (updateSnooze s) p.updateSnooze := by
  cases p with
  | snoozed left =>
    have counter : s.snoozeSecondsLeft = left.1 := h.snoozeSecondsLeft
    rw [Alarm.updateSnooze, if_neg (by simp [h.snoozed])]
    by_cases last : left.1 - 1 ≤ 0
    · have zero : s.snoozeSecondsLeft - 1 = 0 := by have := left.2; omega
      simp only [counter, Phase.updateSnooze, last, if_true, dif_pos]
      exact ⟨h.enabled, rfl, rfl, rfl, counter ▸ zero⟩
    · simp only [counter, Phase.updateSnooze, last, if_false, dif_neg, not_false_iff]
      exact ⟨h.enabled, h.active, h.snoozed, h.activeSeconds, rfl⟩
  | disabled | armed | ringing _ =>
    rw [Alarm.updateSnooze, if_pos (by simp [h.snoozed])]
    exact h

theorem updateAutoMute (h : Shows s p) : Shows (updateAutoMute s) p.updateAutoMute := by
  cases p with
  | ringing elapsed =>
    have counter : s.activeSeconds = elapsed.1 := h.activeSeconds
    rw [Alarm.updateAutoMute, if_neg (by simp [h.active])]
    by_cases last : elapsed.1 + 1 ≥ alarmAutoMuteSeconds
    · simp only [counter, Phase.updateAutoMute, last, if_true, dif_pos]
      exact ⟨h.enabled, rfl, h.snoozed, rfl, h.snoozeSecondsLeft⟩
    · simp only [counter, Phase.updateAutoMute, last, if_false, dif_neg, not_false_iff]
      exact ⟨h.enabled, h.active, h.snoozed, rfl, h.snoozeSecondsLeft⟩
  | disabled | armed | snoozed _ =>
    rw [Alarm.updateAutoMute, if_pos (by simp [h.active])]
    exact h

theorem alarmSnooze (h : Shows s p) : Shows (alarmSnooze s) p.alarmSnooze := by
  cases p with
  | ringing elapsed =>
    rw [Alarm.alarmSnooze, if_pos (by simp [h.active])]
    exact ⟨h.enabled, rfl, rfl, rfl, rfl⟩
  | disabled | armed | snoozed _ =>
    rw [Alarm.alarmSnooze, if_neg (by simp [h.active])]
    exact h

theorem alarmMute (h : Shows s p) : Shows (alarmMute s) p.alarmMute := by
  cases p with
  | ringing _ | snoozed _ =>
    rw [Alarm.alarmMute, if_pos (by simp [h.active, h.snoozed])]
    exact ⟨h.enabled, rfl, rfl, rfl, rfl⟩
  | disabled | armed =>
    rw [Alarm.alarmMute, if_neg (by simp [h.active, h.snoozed])]
    exact h

theorem alarmToggleEnabled (h : Shows s p) :
    Shows (alarmToggleEnabled s) p.alarmToggleEnabled := by
  cases p with
  | disabled =>
    have enabled : s.alarmEnabled = false := h.enabled
    simp only [Alarm.alarmToggleEnabled, enabled, Bool.not_false, Bool.not_true,
      Bool.false_eq_true, if_false]
    exact ⟨rfl, h.active, h.snoozed, h.activeSeconds, h.snoozeSecondsLeft⟩
  | armed | ringing _ | snoozed _ =>
    have enabled : s.alarmEnabled = true := h.enabled
    simp only [Alarm.alarmToggleEnabled, enabled, Bool.not_false, Bool.not_true, if_true]
    constructor <;> rfl

end Shows

/-! ## Any order of the operations -/

/-- The functions of `alarm.c` that write the clock, the flags or the counters. -/
inductive Operation where
  | updateClock
  | checkAlarmTime
  | updateSnooze
  | updateAutoMute
  | alarmSnooze
  | alarmMute
  | alarmToggleEnabled
deriving DecidableEq

def Operation.run : Operation → AlarmState → AlarmState
  | .updateClock => Alarm.updateClock
  | .checkAlarmTime => Alarm.checkAlarmTime
  | .updateSnooze => Alarm.updateSnooze
  | .updateAutoMute => Alarm.updateAutoMute
  | .alarmSnooze => Alarm.alarmSnooze
  | .alarmMute => Alarm.alarmMute
  | .alarmToggleEnabled => Alarm.alarmToggleEnabled

/-- How the flags and the counters hang together. -/
structure StateInvariant (s : AlarmState) : Prop where
  exclusive : ¬ (s.alarmActive = true ∧ s.alarmSnoozed = true)
  disabled : s.alarmEnabled = false → s.alarmActive = false ∧ s.alarmSnoozed = false
  snoozed : s.alarmSnoozed = true → 1 ≤ s.snoozeSecondsLeft ∧ s.snoozeSecondsLeft ≤ snoozeSeconds
  notSnoozed : s.alarmSnoozed = false → s.snoozeSecondsLeft = 0
  active : s.alarmActive = true → 0 ≤ s.activeSeconds ∧ s.activeSeconds < alarmAutoMuteSeconds
  notActive : s.alarmActive = false → s.activeSeconds = 0

/-- Every operation leaves some phase shown. -/
theorem Shows.run {s : AlarmState} {p : Phase} (h : Shows s p) (op : Operation) :
    ∃ q, Shows (op.run s) q := by
  cases op with
  | updateClock => exact ⟨_, h.updateClock⟩
  | checkAlarmTime => exact ⟨_, h.checkAlarmTime⟩
  | updateSnooze => exact ⟨_, h.updateSnooze⟩
  | updateAutoMute => exact ⟨_, h.updateAutoMute⟩
  | alarmSnooze => exact ⟨_, h.alarmSnooze⟩
  | alarmMute => exact ⟨_, h.alarmMute⟩
  | alarmToggleEnabled => exact ⟨_, h.alarmToggleEnabled⟩

/-- A shown phase is the whole invariant: the ranges are those of the phase's counters. -/
theorem Shows.invariant {s : AlarmState} {p : Phase} (h : Shows s p) : StateInvariant s where
  exclusive := by rw [h.active, h.snoozed]; cases p <;> simp
  disabled := by rw [h.enabled, h.active, h.snoozed]; cases p <;> simp
  snoozed := by
    rw [h.snoozed, h.snoozeSecondsLeft]
    cases p with
    | snoozed left => exact fun _ => left.2
    | disabled | armed | ringing _ => simp
  notSnoozed := by rw [h.snoozed, h.snoozeSecondsLeft]; cases p <;> simp
  active := by
    rw [h.active, h.activeSeconds]
    cases p with
    | ringing elapsed => exact fun _ => elapsed.2
    | disabled | armed | snoozed _ => simp
  notActive := by rw [h.active, h.activeSeconds]; cases p <;> simp

/-- **The state invariant**, after any finite sequence of the operations in any order. -/
theorem state_invariant (ops : List Operation) :
    StateInvariant (Run.after Operation.run initial ops) := by
  have shown : ∃ p, Shows (Run.after Operation.run initial ops) p :=
    Run.after_invariant (P := fun s => ∃ p, Shows s p) ⟨_, Shows.initial⟩
      (fun op _ ⟨_, h⟩ => h.run op) ops
  obtain ⟨p, h⟩ := shown
  exact h.invariant

end SmartClock.Alarm
