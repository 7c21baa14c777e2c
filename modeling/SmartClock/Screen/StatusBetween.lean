import SmartClock.Alarm.Assignments
import SmartClock.Screen.AlarmScreen

/-!
# The status text between two statements

The screen thread also reads the flags wherever it finds the alarm thread, behind some of the
assignments of a call. The status text is then that before or after the call, except where a ring
turns into a snooze or a snooze into a ring: both flags are cleared for a moment, and the text is
that of a waiting alarm (`status_between_statements`).
-/

namespace SmartClock.Screen

open Text Alarm

/-! ## The flags on the way -/

/-- The text of a waiting alarm. -/
def waitingText (s : AlarmState) : List UInt8 :=
  snprintf 17 (ascii "Alarm " ++ print02d s.alarmHour ++ [58] ++ print02d s.alarmMinute)

/-- Where a ring turns into a snooze, or a snooze into a ring, both flags are false. -/
def Turning (op : Operation) (now : List Assignment) : Prop :=
  (op = .alarmSnooze ∧ now = [.active false]) ∨ (op = .updateSnooze ∧ now = [.snoozeSecondsLeft 0, .snoozed false])

/-- What the screen thread may find behind the assignments `now` of a call. -/
structure Between (s : AlarmState) (op : Operation) (now : List Assignment) : Prop where
  exclusive : ¬ ((assign s now).alarmActive = true ∧ (assign s now).alarmSnoozed = true)
  text : alarmGetStatusText (assign s now) 17 = alarmGetStatusText s 17 ∨
    alarmGetStatusText (assign s now) 17 = alarmGetStatusText (op.run s) 17 ∨
    (Turning op now ∧ alarmGetStatusText (assign s now) 17 = waitingText s)

/-- An active alarm is enabled and not snoozed. -/
theorem active_alone {s : AlarmState} (inv : StateInvariant s) (active : s.alarmActive = true) :
    s.alarmEnabled = true ∧ s.alarmSnoozed = false := by
  refine ⟨?_, ?_⟩
  · by_contra disabled
    have inactive := (inv.disabled (by simpa using disabled)).1
    rw [active] at inactive
    cases inactive
  · have exclusive := inv.exclusive
    simpa [active] using exclusive

/-- And so is a snoozed one enabled and not active. -/
theorem snoozed_alone {s : AlarmState} (inv : StateInvariant s) (snoozed : s.alarmSnoozed = true) :
    s.alarmEnabled = true ∧ s.alarmActive = false := by
  refine ⟨?_, ?_⟩
  · by_contra disabled
    have awake := (inv.disabled (by simpa using disabled)).2
    rw [snoozed] at awake
    cases awake
  · have exclusive := inv.exclusive
    simpa [snoozed] using exclusive

theorem exclusive_of_inactive {s : AlarmState} (inactive : s.alarmActive = false) :
    ¬ (s.alarmActive = true ∧ s.alarmSnoozed = true) := by
  rw [inactive]
  exact fun both => Bool.false_ne_true both.1

section Calls

variable {s : AlarmState} {now : List Assignment}

/-- The text says nothing but the flags and the alarm's time. -/
theorem text_congr {s' : AlarmState} (enabled : s'.alarmEnabled = s.alarmEnabled)
    (active : s'.alarmActive = s.alarmActive) (snoozed : s'.alarmSnoozed = s.alarmSnoozed)
    (time : s'.alarmHour = s.alarmHour ∧ s'.alarmMinute = s.alarmMinute) :
    alarmGetStatusText s' 17 = alarmGetStatusText s 17 := by
  rw [alarmGetStatusText, enabled, active, snoozed, time.1, time.2, alarmGetStatusText]

/-- Where no flag is assigned yet. -/
theorem Between.before (inv : StateInvariant s) {op : Operation} (others : now.any Assignment.setsFlag = false) :
    Between s op now := by
  obtain ⟨enabled, active, snoozed, time⟩ := assign_others s others
  refine ⟨?_, .inl (text_congr enabled active snoozed time)⟩
  rw [active, snoozed]
  exact inv.exclusive

/-- Where all flags are assigned, told what is left. -/
theorem Between.behind {op : Operation} (inv : StateInvariant (op.run s)) {rest : List Assignment}
    (whole : script s op = now ++ rest) (others : rest.any Assignment.setsFlag = false) : Between s op now := by
  have ran : op.run s = assign (assign s now) rest := by
    rw [← assign_script, whole, assign, Run.after_append]
    rfl
  obtain ⟨enabled, active, snoozed, time⟩ := assign_others (assign s now) others
  rw [← ran] at enabled active snoozed time
  refine ⟨?_, .inr (.inl (text_congr enabled active snoozed time).symm)⟩
  rw [← active, ← snoozed]
  exact inv.exclusive

theorem clock_between (inv : StateInvariant s) (part : now <+: script s .updateClock) : Between s .updateClock now := by
  have clock : (clockScript s).any Assignment.setsFlag = false := by
    unfold clockScript
    dsimp only
    split_ifs <;> rfl
  apply Between.before inv
  rw [List.any_eq_false] at clock ⊢
  exact fun a inside => clock a (part.subset inside)

theorem checkAlarmTime_between (inv : StateInvariant s) (inv' : StateInvariant (checkAlarmTime s))
    (part : now <+: script s .checkAlarmTime) : Between s .checkAlarmTime now := by
  have nothing : Between s .checkAlarmTime [] := Between.before inv rfl
  by_cases out : (!s.alarmEnabled || s.alarmActive || s.alarmSnoozed) = true
  · rw [script, if_pos out, List.prefix_nil] at part
    rwa [part]
  · by_cases due : s.atAlarmTime = true
    · have whole : script s .checkAlarmTime = [.active true, .activeSeconds 0] := by
        rw [script, if_neg out, if_pos due]
      simp only [whole, List.prefix_cons_iff, List.prefix_nil] at part
      obtain rfl | ⟨_, rfl, rfl | ⟨_, rfl, rfl⟩⟩ := part
      · exact nothing
      · exact Between.behind inv' whole rfl
      · exact Between.behind inv' whole rfl
    · rw [script, if_neg out, if_neg due, List.prefix_nil] at part
      rwa [part]

theorem updateSnooze_between (inv : StateInvariant s) (inv' : StateInvariant (updateSnooze s))
    (part : now <+: script s .updateSnooze) : Between s .updateSnooze now := by
  have nothing : Between s .updateSnooze [] := Between.before inv rfl
  by_cases out : (!s.alarmSnoozed) = true
  · rw [script, if_pos out, List.prefix_nil] at part
    rwa [part]
  · have snoozed : s.alarmSnoozed = true := by simpa using out
    have counted (n : Int) : Between s .updateSnooze [.snoozeSecondsLeft n] :=
      Between.before inv rfl
    by_cases last : s.snoozeSecondsLeft - 1 ≤ 0
    · have zero : s.snoozeSecondsLeft - 1 = 0 := by
        have left := inv.snoozed snoozed
        omega
      have whole : script s .updateSnooze =
          [.snoozeSecondsLeft 0, .snoozed false, .active true, .activeSeconds 0] := by
        rw [script, if_neg out, if_pos last, zero]
      simp only [whole, List.prefix_cons_iff, List.prefix_nil] at part
      obtain rfl | ⟨_, rfl, rfl | ⟨_, rfl, rfl | ⟨_, rfl, rfl | ⟨_, rfl, rfl⟩⟩⟩⟩ := part
      · exact nothing
      · exact counted 0
      · -- neither flag is set
        obtain ⟨enabled, active⟩ := snoozed_alone inv snoozed
        refine ⟨exclusive_of_inactive active, .inr (.inr ⟨.inr ⟨rfl, rfl⟩, ?_⟩)⟩
        show alarmGetStatusText { s with snoozeSecondsLeft := 0, alarmSnoozed := false } 17 = _
        simp only [alarmGetStatusText, enabled, active]
        rfl
      · exact Between.behind inv' whole rfl
      · exact Between.behind inv' whole rfl
    · have whole : script s .updateSnooze = [.snoozeSecondsLeft (s.snoozeSecondsLeft - 1)] := by
        rw [script, if_neg out, if_neg last]
      simp only [whole, List.prefix_cons_iff, List.prefix_nil] at part
      obtain rfl | ⟨_, rfl, rfl⟩ := part
      · exact nothing
      · exact counted _

theorem updateAutoMute_between (inv : StateInvariant s) (inv' : StateInvariant (updateAutoMute s))
    (part : now <+: script s .updateAutoMute) : Between s .updateAutoMute now := by
  have nothing : Between s .updateAutoMute [] := Between.before inv rfl
  have counted (n : Int) : Between s .updateAutoMute [.activeSeconds n] :=
    Between.before inv rfl
  by_cases out : (!s.alarmActive) = true
  · rw [script, if_pos out, List.prefix_nil] at part
    rwa [part]
  · by_cases last : s.activeSeconds + 1 ≥ alarmAutoMuteSeconds
    · have whole : script s .updateAutoMute =
          [.activeSeconds (s.activeSeconds + 1), .active false, .activeSeconds 0] := by
        rw [script, if_neg out, if_pos last]
      simp only [whole, List.prefix_cons_iff, List.prefix_nil] at part
      obtain rfl | ⟨_, rfl, rfl | ⟨_, rfl, rfl | ⟨_, rfl, rfl⟩⟩⟩ := part
      · exact nothing
      · exact counted _
      · exact Between.behind inv' whole rfl
      · exact Between.behind inv' whole rfl
    · have whole : script s .updateAutoMute = [.activeSeconds (s.activeSeconds + 1)] := by
        rw [script, if_neg out, if_neg last]
      simp only [whole, List.prefix_cons_iff, List.prefix_nil] at part
      obtain rfl | ⟨_, rfl, rfl⟩ := part
      · exact nothing
      · exact counted _

theorem alarmSnooze_between (inv : StateInvariant s) (inv' : StateInvariant (alarmSnooze s))
    (part : now <+: script s .alarmSnooze) : Between s .alarmSnooze now := by
  have nothing : Between s .alarmSnooze [] := Between.before inv rfl
  by_cases active : s.alarmActive = true
  · have whole : script s .alarmSnooze =
        [.active false, .snoozed true, .snoozeSecondsLeft snoozeSeconds, .activeSeconds 0] := by
      rw [script, if_pos active]
    simp only [whole, List.prefix_cons_iff, List.prefix_nil] at part
    obtain rfl | ⟨_, rfl, rfl | ⟨_, rfl, rfl | ⟨_, rfl, rfl | ⟨_, rfl, rfl⟩⟩⟩⟩ := part
    · exact nothing
    · -- neither flag is set
      obtain ⟨enabled, snoozed⟩ := active_alone inv active
      refine ⟨exclusive_of_inactive rfl, .inr (.inr ⟨.inl ⟨rfl, rfl⟩, ?_⟩)⟩
      show alarmGetStatusText { s with alarmActive := false } 17 = _
      simp only [alarmGetStatusText, enabled, snoozed]
      rfl
    · exact Between.behind inv' whole rfl
    · exact Between.behind inv' whole rfl
    · exact Between.behind inv' whole rfl
  · rw [script, if_neg active, List.prefix_nil] at part
    rwa [part]

theorem alarmMute_between (inv : StateInvariant s) (inv' : StateInvariant (alarmMute s))
    (part : now <+: script s .alarmMute) : Between s .alarmMute now := by
  have nothing : Between s .alarmMute [] := Between.before inv rfl
  by_cases live : (s.alarmActive || s.alarmSnoozed) = true
  · have whole : script s .alarmMute =
        [.active false, .snoozed false, .activeSeconds 0, .snoozeSecondsLeft 0] := by
      rw [script, if_pos live]
    simp only [whole, List.prefix_cons_iff, List.prefix_nil] at part
    obtain rfl | ⟨_, rfl, rfl | ⟨_, rfl, rfl | ⟨_, rfl, rfl | ⟨_, rfl, rfl⟩⟩⟩⟩ := part
    · exact nothing
    · cases active : s.alarmActive with
      | false =>
        have same : assign s [.active false] = s := by
          rw [← active]
          rfl
        refine ⟨exclusive_of_inactive rfl, .inl ?_⟩
        rw [same]
      | true =>
        have snoozed := (active_alone inv active).2
        refine ⟨exclusive_of_inactive rfl, .inr (.inl ?_)⟩
        rw [← assign_script, whole]
        show alarmGetStatusText { s with alarmActive := false } 17 = _
        simp only [alarmGetStatusText, snoozed]
        rfl
    · exact Between.behind inv' whole rfl
    · exact Between.behind inv' whole rfl
    · exact Between.behind inv' whole rfl
  · rw [script, if_neg live, List.prefix_nil] at part
    rwa [part]

theorem alarmToggleEnabled_between (inv : StateInvariant s) (inv' : StateInvariant (alarmToggleEnabled s))
    (part : now <+: script s .alarmToggleEnabled) : Between s .alarmToggleEnabled now := by
  have nothing : Between s .alarmToggleEnabled [] := Between.before inv rfl
  cases enabled : s.alarmEnabled with
  | false =>
    have whole : script s .alarmToggleEnabled = [.enabled true] := by
      rw [script, enabled]
      rfl
    simp only [whole, List.prefix_cons_iff, List.prefix_nil] at part
    obtain rfl | ⟨_, rfl, rfl⟩ := part
    · exact nothing
    · exact Between.behind inv' whole rfl
  | true =>
    have whole : script s .alarmToggleEnabled =
        [.enabled false, .active false, .snoozed false, .activeSeconds 0, .snoozeSecondsLeft 0] := by
      rw [script, enabled]
      rfl
    -- a disabled alarm has no text, whatever its flags
    have blank : alarmGetStatusText (Operation.run .alarmToggleEnabled s) 17 =
        alarmGetStatusText (assign s [.enabled false]) 17 := by
      rw [← assign_script, whole]
      rfl
    simp only [whole, List.prefix_cons_iff, List.prefix_nil] at part
    obtain rfl | ⟨_, rfl, rfl | ⟨_, rfl, rfl | ⟨_, rfl, rfl | ⟨_, rfl, rfl | ⟨_, rfl, rfl⟩⟩⟩⟩⟩ := part
    · exact nothing
    · exact ⟨inv.exclusive, .inr (.inl blank.symm)⟩
    · exact ⟨exclusive_of_inactive rfl, .inr (.inl blank.symm)⟩
    · exact Between.behind inv' whole rfl
    · exact Between.behind inv' whole rfl
    · exact Between.behind inv' whole rfl

end Calls

/-- **The status between two statements.** After any calls of the functions of `alarm.c`, wherever
the screen thread finds the next one: the alarm is never both active and snoozed, and the status
text is that before or behind the call, or, where a ring turns into a snooze or a snooze into a
ring, for one statement that of a waiting alarm. -/
theorem status_between_statements (ops : List Operation) (op : Operation) {now : List Assignment}
    (part : now <+: script (Run.after Operation.run initial ops) op) :
    let s := Run.after Operation.run initial ops
    ¬ ((assign s now).alarmActive = true ∧ (assign s now).alarmSnoozed = true) ∧
      (alarmGetStatusText (assign s now) 17 = alarmGetStatusText s 17 ∨
        alarmGetStatusText (assign s now) 17 = alarmGetStatusText (op.run s) 17 ∨
        (Turning op now ∧ alarmGetStatusText (assign s now) 17 = waitingText s)) := by
  intro s
  obtain ⟨p, phase⟩ : ∃ p, Shows s p :=
    Run.after_invariant (P := fun s => ∃ p, Shows s p) ⟨_, Shows.initial⟩ (fun op _ ⟨_, h⟩ => h.run op) ops
  obtain ⟨q, phase'⟩ := phase.run op
  have inv := phase.invariant
  have inv' := phase'.invariant
  have between : Between s op now := by
    cases op with
    | updateClock => exact clock_between inv part
    | checkAlarmTime => exact checkAlarmTime_between inv inv' part
    | updateSnooze => exact updateSnooze_between inv inv' part
    | updateAutoMute => exact updateAutoMute_between inv inv' part
    | alarmSnooze => exact alarmSnooze_between inv inv' part
    | alarmMute => exact alarmMute_between inv inv' part
    | alarmToggleEnabled => exact alarmToggleEnabled_between inv inv' part
  exact ⟨between.exclusive, between.text⟩

/-- The alarm rings, and the snooze button's handler has cleared `alarm_active`. -/
def ringThenSnooze : List Operation := [.updateClock, .updateClock, .updateClock, .checkAlarmTime]

theorem status_between_statements_snooze :
    let s := Run.after Operation.run initial ringThenSnooze
    s.alarmActive = true ∧
      ¬ ((assign s [.active false]).alarmActive = true ∧ (assign s [.active false]).alarmSnoozed = true) ∧
      (alarmGetStatusText (assign s [.active false]) 17 = alarmGetStatusText s 17 ∨
        alarmGetStatusText (assign s [.active false]) 17 = alarmGetStatusText (Operation.alarmSnooze.run s) 17 ∨
        (Turning .alarmSnooze [.active false] ∧
          alarmGetStatusText (assign s [.active false]) 17 = waitingText s)) :=
  ⟨rfl, @status_between_statements ringThenSnooze .alarmSnooze [.active false] (by decide)⟩

end SmartClock.Screen
