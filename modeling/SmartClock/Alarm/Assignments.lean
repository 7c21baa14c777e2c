import SmartClock.Alarm.Phase
import SmartClock.Alarm.Statements

/-!
# The functions of `alarm.c` as assignments

The functions of `alarm.c` test nothing that another thread writes, so a call is a list of
assignments, which a thread with a higher priority may find done in part. `assign_script` says
that the whole list is the function. `update_clock` is embedded statement by statement too
(`statement`): `script_statements` says that the clock at each of its statements is what the
assignments up to there make of it.
-/

namespace SmartClock.Alarm

/-- An assignment to one of the variables of `alarm.c`. -/
inductive Assignment where
  | second (n : Int)
  | minute (n : Int)
  | hour (n : Int)
  | enabled (flag : Bool)
  | active (flag : Bool)
  | snoozed (flag : Bool)
  | activeSeconds (n : Int)
  | snoozeSecondsLeft (n : Int)
deriving DecidableEq

def Assignment.apply : Assignment → AlarmState → AlarmState
  | second n, s => { s with currentSecond := n }
  | minute n, s => { s with currentMinute := n }
  | hour n, s => { s with currentHour := n }
  | enabled flag, s => { s with alarmEnabled := flag }
  | active flag, s => { s with alarmActive := flag }
  | snoozed flag, s => { s with alarmSnoozed := flag }
  | activeSeconds n, s => { s with activeSeconds := n }
  | snoozeSecondsLeft n, s => { s with snoozeSecondsLeft := n }

/-- The variables after some assignments. -/
def assign (s : AlarmState) (now : List Assignment) : AlarmState := Run.after Assignment.apply s now

/-- What `update_clock` assigns. -/
def clockScript (s : AlarmState) : List Assignment :=
  let second := s.currentSecond + 1
  let minute := if second ≥ 60 then s.currentMinute + 1 else s.currentMinute
  let hour := if minute ≥ 60 then s.currentHour + 1 else s.currentHour
  .second second :: (if second ≥ 60 then [.second 0, .minute minute] else []) ++
    (if minute ≥ 60 then [.minute 0, .hour hour] else []) ++ if hour ≥ 24 then [.hour 0] else []

/-- The assignments of a call, in the order of the source. -/
def script (s : AlarmState) : Operation → List Assignment
  | .updateClock => clockScript s
  | .checkAlarmTime =>
    if !s.alarmEnabled || s.alarmActive || s.alarmSnoozed then []
    else if s.atAlarmTime then [.active true, .activeSeconds 0]
    else []
  | .updateSnooze =>
    if !s.alarmSnoozed then []
    else .snoozeSecondsLeft (s.snoozeSecondsLeft - 1) ::
      if s.snoozeSecondsLeft - 1 ≤ 0 then [.snoozed false, .active true, .activeSeconds 0] else []
  | .updateAutoMute =>
    if !s.alarmActive then []
    else .activeSeconds (s.activeSeconds + 1) ::
      if s.activeSeconds + 1 ≥ alarmAutoMuteSeconds then [.active false, .activeSeconds 0] else []
  | .alarmSnooze =>
    if s.alarmActive then [.active false, .snoozed true, .snoozeSecondsLeft snoozeSeconds, .activeSeconds 0]
    else []
  | .alarmMute =>
    if s.alarmActive || s.alarmSnoozed then
      [.active false, .snoozed false, .activeSeconds 0, .snoozeSecondsLeft 0]
    else []
  | .alarmToggleEnabled =>
    .enabled (!s.alarmEnabled) ::
      if s.alarmEnabled then [.active false, .snoozed false, .activeSeconds 0, .snoozeSecondsLeft 0] else []

/-- **The assignments make up the function.** -/
theorem assign_script (s : AlarmState) (op : Operation) : assign s (script s op) = op.run s := by
  cases op with
  | updateClock =>
    rw [script, clockScript, Operation.run, updateClock]
    dsimp only
    by_cases second : s.currentSecond + 1 ≥ 60
    · by_cases minute : s.currentMinute + 1 ≥ 60
      · by_cases hour : s.currentHour + 1 ≥ 24
        · simp only [if_pos second, if_pos minute, if_pos hour]
          rfl
        · simp only [if_pos second, if_pos minute, if_neg hour]
          rfl
      · simp only [if_pos second, if_neg minute]
        split_ifs <;> rfl
    · simp only [if_neg second]
      split_ifs <;> rfl
  | checkAlarmTime =>
    rw [script, Operation.run, checkAlarmTime]
    split_ifs <;> rfl
  | updateSnooze =>
    rw [script, Operation.run, updateSnooze]
    dsimp only
    split_ifs <;> rfl
  | updateAutoMute =>
    rw [script, Operation.run, updateAutoMute]
    dsimp only
    split_ifs <;> rfl
  | alarmSnooze =>
    rw [script, Operation.run, alarmSnooze]
    split_ifs <;> rfl
  | alarmMute =>
    rw [script, Operation.run, alarmMute]
    split_ifs <;> rfl
  | alarmToggleEnabled =>
    rw [script, Operation.run, alarmToggleEnabled]
    cases enabled : s.alarmEnabled <;> simp [assign, Run.after, Assignment.apply]

/-- The assignment is to one of the three flags. -/
def Assignment.setsFlag : Assignment → Bool
  | enabled _ | active _ | snoozed _ => true
  | _ => false

/-- The other assignments leave the flags, and nothing changes the alarm's time. -/
theorem assign_others {now : List Assignment} (s : AlarmState) (others : now.any Assignment.setsFlag = false) :
    (assign s now).alarmEnabled = s.alarmEnabled ∧ (assign s now).alarmActive = s.alarmActive ∧
      (assign s now).alarmSnoozed = s.alarmSnoozed ∧
      (assign s now).alarmHour = s.alarmHour ∧ (assign s now).alarmMinute = s.alarmMinute := by
  induction now generalizing s with
  | nil => exact ⟨rfl, rfl, rfl, rfl, rfl⟩
  | cons a now ih =>
    rw [List.any_cons, Bool.or_eq_false_iff] at others
    have later := ih (a.apply s) others.2
    cases a with
    | enabled _ | active _ | snoozed _ => cases others.1
    | _ => exact later

/-! ## The statements of `update_clock` -/

/-- What a statement assigns. -/
def ClockPc.assigns : ClockPc → AlarmState → List Assignment
  | increment, s => [.second (s.currentSecond + 1)]
  | zeroSecond, _ => [.second 0]
  | carryMinute, s => [.minute (s.currentMinute + 1)]
  | zeroMinute, _ => [.minute 0]
  | carryHour, s => [.hour (s.currentHour + 1)]
  | zeroHour, _ => [.hour 0]
  | testSecond, _ | testMinute, _ | testHour, _ | rest, _ => []

theorem statement_assigns (b : Samples) {c : ClockRun} (inside : c.pc ≠ .rest) :
    (statement b c).alarm = assign c.alarm (c.pc.assigns c.alarm) := by
  obtain ⟨s, pc, n⟩ := c
  cases pc with
  | rest => exact absurd rfl inside
  | _ => rfl

def hourAhead (s : AlarmState) : List Assignment := if s.currentHour ≥ 24 then [.hour 0] else []

/-- From the minute's test on. -/
def minuteAhead (s : AlarmState) : List Assignment :=
  if s.currentMinute ≥ 60 then
    .minute 0 :: .hour (s.currentHour + 1) ::
      hourAhead { s with currentMinute := 0, currentHour := s.currentHour + 1 }
  else hourAhead s

/-- What is left to assign when the thread stands at a statement. -/
def ClockPc.ahead : ClockPc → AlarmState → List Assignment
  | increment, s => clockScript s
  | testSecond, s =>
    if s.currentSecond ≥ 60 then
      .second 0 :: .minute (s.currentMinute + 1) ::
        minuteAhead { s with currentSecond := 0, currentMinute := s.currentMinute + 1 }
    else minuteAhead s
  | zeroSecond, s =>
    .second 0 :: .minute (s.currentMinute + 1) ::
      minuteAhead { s with currentSecond := 0, currentMinute := s.currentMinute + 1 }
  | carryMinute, s => .minute (s.currentMinute + 1) :: minuteAhead { s with currentMinute := s.currentMinute + 1 }
  | testMinute, s => minuteAhead s
  | zeroMinute, s =>
    .minute 0 :: .hour (s.currentHour + 1) ::
      hourAhead { s with currentMinute := 0, currentHour := s.currentHour + 1 }
  | carryHour, s => .hour (s.currentHour + 1) :: hourAhead { s with currentHour := s.currentHour + 1 }
  | testHour, s => hourAhead s
  | zeroHour, _ => [.hour 0]
  | rest, _ => []

/-- A statement does the first of what was left. -/
theorem ahead_statement (b : Samples) {c : ClockRun} (inside : c.pc ≠ .rest) :
    c.pc.ahead c.alarm = c.pc.assigns c.alarm ++ (statement b c).pc.ahead (statement b c).alarm := by
  obtain ⟨s, pc, n⟩ := c
  cases pc with
  | rest => exact absurd rfl inside
  | increment =>
    simp only [ClockPc.ahead, ClockPc.assigns, statement, clockScript, minuteAhead, hourAhead]
    split_ifs <;> rfl
  | testSecond =>
    by_cases carry : s.currentSecond ≥ 60
    · simp only [statement, ClockPc.ahead, ClockPc.assigns, if_pos carry, List.nil_append]
    · simp only [statement, ClockPc.ahead, ClockPc.assigns, if_neg carry, List.nil_append]
  | testMinute =>
    by_cases carry : s.currentMinute ≥ 60
    · simp only [statement, ClockPc.ahead, ClockPc.assigns, minuteAhead, if_pos carry, List.nil_append]
    · simp only [statement, ClockPc.ahead, ClockPc.assigns, minuteAhead, if_neg carry, List.nil_append]
  | testHour =>
    by_cases midnight : s.currentHour ≥ 24
    · simp only [statement, ClockPc.ahead, ClockPc.assigns, hourAhead, if_pos midnight, List.nil_append]
    · simp only [statement, ClockPc.ahead, ClockPc.assigns, hourAhead, if_neg midnight, List.nil_append]
  | zeroSecond | carryMinute | zeroMinute | carryHour | zeroHour => rfl

/-- **The two embeddings agree.** At each statement of the `update_clock` that begins in `s`, the
variables are those behind a first part of its assignments, and the others are left. -/
theorem script_statements (s : AlarmState) (n : Nat) (bs : List Samples) :
    let c := Run.after statement ⟨s, .increment, n⟩ bs
    n ≤ c.rounds ∧ (c.rounds = n →
      ∃ now, now ++ c.pc.ahead c.alarm = clockScript s ∧ c.alarm = assign s now) := by
  apply Run.after_invariant (P := fun c : ClockRun => n ≤ c.rounds ∧ (c.rounds = n →
    ∃ now, now ++ c.pc.ahead c.alarm = clockScript s ∧ c.alarm = assign s now))
  · exact ⟨Nat.le_refl n, fun _ => ⟨[], rfl, rfl⟩⟩
  · intro b c ⟨later, course⟩
    by_cases through : c.pc = .rest
    · obtain ⟨s', pc, m⟩ := c
      obtain rfl : pc = .rest := through
      refine ⟨Nat.le_succ_of_le later, fun same => ?_⟩
      have next : m + 1 = n := same
      dsimp only at later
      omega
    · have round : (statement b c).rounds = c.rounds := by
        obtain ⟨s', pc, m⟩ := c
        cases pc with
        | rest => exact absurd rfl through
        | _ => rfl
      rw [round]
      refine ⟨later, fun same => ?_⟩
      obtain ⟨now, whole, here⟩ := course same
      refine ⟨now ++ c.pc.assigns c.alarm, ?_, ?_⟩
      · rw [List.append_assoc, ← ahead_statement b through, whole]
      · rw [statement_assigns b through, assign, assign, Run.after_append]
        exact congrArg (fun s => Run.after Assignment.apply s (c.pc.assigns c.alarm)) here

end SmartClock.Alarm
