import SmartClock.Alarm.Statements
import SmartClock.Alarm.Daily
import SmartClock.Screen.Pages

/-!
# The alarm screen

`alarm_get_clock_text` and `alarm_get_status_text` as `screen_show_alarm` puts them on the
display. Between two statements of the alarm thread the clock text is the time of day but for
the carries (`clock_text_between_statements`). Behind a round, the first row is the time and
the second one says which phase the alarm is in (`alarm_screen`).
-/

namespace SmartClock.Screen

open Text Lcd Alarm

/-- `alarm_get_status_text` -/
def alarmGetStatusText (s : AlarmState) (size : Nat) : List UInt8 :=
  if !s.alarmEnabled then snprintf size (List.replicate 16 32)
  else if s.alarmActive then snprintf size (ascii "Alarm active")
  else if s.alarmSnoozed then snprintf size (ascii "Alarm snoozed")
  else snprintf size (ascii "Alarm " ++ print02d s.alarmHour ++ [58] ++ print02d s.alarmMinute)

/-- `screen_show_alarm` -/
def screenShowAlarm (s : AlarmState) : Lines := ⟨alarmGetClockText s 17, alarmGetStatusText s 17⟩

/-! ## Two digits -/

/-- `%02d` of a number of at most two digits. -/
theorem print02d_eq {n : Int} (range : 0 ≤ n ∧ n < 100) :
    print02d n = [(48 + n.toNat / 10).toUInt8, (48 + n.toNat % 10).toUInt8] := by
  have all : ∀ k : Fin 100, print02d k.val = [(48 + k.val / 10).toUInt8, (48 + k.val % 10).toUInt8] := by
    decide +kernel
  have value : ((n.toNat : Nat) : Int) = n := Int.toNat_of_nonneg range.1
  rw [← all ⟨n.toNat, by omega⟩, value]

/-- Two digits tell the number. -/
theorem print02d_inj {m n : Int} (hm : 0 ≤ m ∧ m < 100) (hn : 0 ≤ n ∧ n < 100) (same : print02d m = print02d n) :
    m = n := by
  rw [print02d_eq hm, print02d_eq hn] at same
  simp only [List.cons.injEq, and_true] at same
  have tens := congrArg UInt8.toNat same.1
  have ones := congrArg UInt8.toNat same.2
  simp only [Nat.toUInt8_eq, UInt8.toNat_ofNat'] at tens ones
  omega

/-! ## The clock text -/

/-- The time of day, `t` seconds past midnight. -/
def timeText (t : Nat) : List UInt8 :=
  clockText ((t % 86400 / 3600 : Nat) : Int) ((t / 60 % 60 : Nat) : Int) ((t % 60 : Nat) : Int)

theorem zero_not_mem_clockText (hour min sec : Int) : 0 ∉ clockText hour min sec := by
  simp only [clockText, List.mem_append, not_or]
  exact ⟨⟨⟨⟨zero_not_mem_print02d _, by decide⟩, zero_not_mem_print02d _⟩, by decide⟩, zero_not_mem_print02d _⟩

/-- A clock text of three numbers of at most two digits: its length and what it tells. -/
theorem length_clockText {h m s : Int} (hour : 0 ≤ h ∧ h < 100) (minute : 0 ≤ m ∧ m < 100)
    (second : 0 ≤ s ∧ s < 100) : (clockText h m s).length = 8 := by
  rw [clockText, print02d_eq hour, print02d_eq minute, print02d_eq second]
  rfl

theorem clockText_inj {h m s h' m' s' : Int} (hour : 0 ≤ h ∧ h < 100) (minute : 0 ≤ m ∧ m < 100)
    (second : 0 ≤ s ∧ s < 100) (hour' : 0 ≤ h' ∧ h' < 100) (minute' : 0 ≤ m' ∧ m' < 100)
    (second' : 0 ≤ s' ∧ s' < 100) (same : clockText h m s = clockText h' m' s') :
    h = h' ∧ m = m' ∧ s = s' := by
  have width {n : Int} (range : 0 ≤ n ∧ n < 100) : (print02d n).length = 2 := by rw [print02d_eq range]; rfl
  simp only [clockText, List.append_assoc] at same
  obtain ⟨hours, same⟩ := List.append_inj same ((width hour).trans (width hour').symm)
  obtain ⟨-, same⟩ := List.append_inj same rfl
  obtain ⟨minutes, same⟩ := List.append_inj same ((width minute).trans (width minute').symm)
  obtain ⟨-, seconds⟩ := List.append_inj same rfl
  exact ⟨print02d_inj hour hour' hours, print02d_inj minute minute' minutes, print02d_inj second second' seconds⟩

/-- Eight characters fit the buffer. -/
theorem alarmGetClockText_eq {s : AlarmState} (ranges : Ranges s 60 60 24) :
    alarmGetClockText s 17 = clockText s.currentHour s.currentMinute s.currentSecond ∧
      (alarmGetClockText s 17).length = 8 := by
  obtain ⟨second, minute, hour⟩ := ranges
  have long := @length_clockText s.currentHour s.currentMinute s.currentSecond (by omega) (by omega) (by omega)
  have whole : alarmGetClockText s 17 = clockText s.currentHour s.currentMinute s.currentSecond := by
    apply List.take_of_length_le
    rw [long]
    decide
  exact ⟨whole, by rw [whole, long]⟩

/-- The clock text of variables of at most two digits is the time iff they show it. -/
theorem clock_text_iff {s : AlarmState} (ranges : Ranges s 60 60 24) (t : Nat) :
    alarmGetClockText s 17 = timeText t ↔ ClockShows s t := by
  rw [(alarmGetClockText_eq ranges).1]
  obtain ⟨second, minute, hour⟩ := ranges
  constructor
  · intro same
    obtain ⟨hours, minutes, seconds⟩ :=
      clockText_inj (by omega) (by omega) (by omega) (by omega) (by omega) (by omega) same
    exact ⟨by omega, by omega, by omega, by omega⟩
  · rintro ⟨second, minute, hour, total⟩
    have hours : s.currentHour = ((t % 86400 / 3600 : Nat) : Int) := by omega
    have minutes : s.currentMinute = ((t / 60 % 60 : Nat) : Int) := by omega
    have seconds : s.currentSecond = ((t % 60 : Nat) : Int) := by omega
    rw [timeText, ← hours, ← minutes, ← seconds]

/-- **The clock between two statements.** Wherever the screen thread finds the alarm thread, the
clock text has eight characters. It is the time of the rounds completed or one second later,
except inside a carry. There a minute ends, and the text counts a sixtieth second or minute or
a twenty-fourth hour, or it is a minute or an hour too early. -/
theorem clock_text_between_statements (samples : List Samples) :
    let c := afterStatements samples
    (alarmGetClockText c.alarm 17).length = 8 ∧
      ((alarmGetClockText c.alarm 17 = timeText c.rounds ∨
        alarmGetClockText c.alarm 17 = timeText (c.rounds + 1)) ↔ ¬ c.Carrying) ∧
      (c.Carrying → (c.rounds + 1) % 60 = 0 ∧
        (c.alarm.reading = c.target ∨ c.alarm.reading + 60 = c.target ∨
          c.alarm.reading + 3600 = c.target)) := by
  intro c
  have course := course_afterStatements samples
  have ranges := course.ranges
  refine ⟨(alarmGetClockText_eq ranges).2, ?_, fun carrying => reading_of_carrying course carrying⟩
  rw [clock_text_iff ranges, clock_text_iff ranges]
  exact shows_iff_not_carrying course

/-! ## The status text -/

/-- The text for each phase. -/
def statusText (hour minute : Int) : Phase → List UInt8
  | .disabled => List.replicate 16 32
  | .ringing _ => ascii "Alarm active"
  | .snoozed _ => ascii "Alarm snoozed"
  | .armed => ascii "Alarm " ++ print02d hour ++ [58] ++ print02d minute

/-- The character that tells the phases apart. -/
def mark (row : List UInt8) : Option UInt8 := row[6]?

section Status

variable {hour minute : Int}

theorem status_text {s : AlarmState} {p : Phase} (shown : Shows s p) (hours : 0 ≤ s.alarmHour ∧ s.alarmHour < 100)
    (minutes : 0 ≤ s.alarmMinute ∧ s.alarmMinute < 100) :
    alarmGetStatusText s 17 = statusText s.alarmHour s.alarmMinute p := by
  rw [alarmGetStatusText, shown.enabled, shown.active, shown.snoozed]
  cases p with
  | armed =>
    show snprintf 17 (ascii "Alarm " ++ print02d s.alarmHour ++ [58] ++ print02d s.alarmMinute) = _
    rw [statusText, print02d_eq hours, print02d_eq minutes]
    rfl
  | disabled | ringing _ | snoozed _ => rfl

theorem zero_not_mem_statusText (p : Phase) : 0 ∉ statusText hour minute p := by
  cases p with
  | disabled => exact (by decide : (0 : UInt8) ∉ List.replicate 16 32)
  | ringing _ => exact (by decide : 0 ∉ ascii "Alarm active")
  | snoozed _ => exact (by decide : 0 ∉ ascii "Alarm snoozed")
  | armed =>
    simp only [statusText, List.mem_append, not_or]
    exact ⟨⟨⟨by decide, zero_not_mem_print02d _⟩, by decide⟩, zero_not_mem_print02d _⟩

theorem mark_armed (range : 0 ≤ hour ∧ hour < 100) :
    ∃ d, isDigit d = true ∧ mark (cells (statusText hour minute .armed)) = some d := by
  refine ⟨(48 + hour.toNat / 10).toUInt8, ?_, ?_⟩
  · have digit : ∀ k : Fin 10, isDigit (48 + k.val).toUInt8 = true := by decide
    exact digit ⟨hour.toNat / 10, by omega⟩
  · rw [statusText, print02d_eq range]
    rfl

/-- The row of a phase tells which one it is. -/
theorem status_rows (hours : 0 ≤ hour ∧ hour < 100) (p : Phase) :
    (cells (statusText hour minute p) = cells [] ↔ p.enabled = false) ∧
      (cells (statusText hour minute p) = cells (ascii "Alarm active") ↔ p.active = true) ∧
      (cells (statusText hour minute p) = cells (ascii "Alarm snoozed") ↔ p.isSnoozed = true) ∧
      (cells (statusText hour minute p) = cells (statusText hour minute .armed) ↔ p = .armed) := by
  obtain ⟨d, digit, armed⟩ := @mark_armed hour minute hours
  have marks {row row' : List UInt8} {b b' : UInt8} (here : mark row = some b) (there : mark row' = some b')
      (apart : b ≠ b') : row ≠ row' := by
    rintro rfl
    exact apart (Option.some.inj (here.symm.trans there))
  have apart (b : UInt8) (other : isDigit b = false) : d ≠ b := by
    rintro rfl
    rw [digit] at other
    cases other
  cases p with
  | disabled =>
    have blank : mark (cells (statusText hour minute .disabled)) = some 32 := rfl
    refine ⟨⟨fun _ => rfl, fun _ => rfl⟩, ⟨fun same => ?_, nofun⟩, ⟨fun same => ?_, nofun⟩, ⟨fun same => ?_, nofun⟩⟩
    · exact absurd same (marks blank rfl (by decide))
    · exact absurd same (marks blank rfl (by decide))
    · exact absurd same (marks blank armed (apart 32 rfl).symm)
  | armed =>
    refine ⟨⟨fun same => ?_, nofun⟩, ⟨fun same => ?_, nofun⟩, ⟨fun same => ?_, nofun⟩, ⟨fun _ => rfl, fun _ => rfl⟩⟩
    · exact absurd same (marks armed rfl (apart 32 rfl))
    · exact absurd same (marks armed rfl (apart 97 rfl))
    · exact absurd same (marks armed rfl (apart 115 rfl))
  | ringing elapsed =>
    have active : mark (cells (statusText hour minute (.ringing elapsed))) = some 97 := rfl
    refine ⟨⟨fun same => ?_, nofun⟩, ⟨fun _ => rfl, fun _ => rfl⟩, ⟨fun same => ?_, nofun⟩, ⟨fun same => ?_, nofun⟩⟩
    · exact absurd same (marks active rfl (by decide))
    · exact absurd same (marks active rfl (by decide))
    · exact absurd same (marks active armed (apart 97 rfl).symm)
  | snoozed left =>
    have snoozed : mark (cells (statusText hour minute (.snoozed left))) = some 115 := rfl
    refine ⟨⟨fun same => ?_, nofun⟩, ⟨fun same => ?_, nofun⟩, ⟨fun _ => rfl, fun _ => rfl⟩, ⟨fun same => ?_, nofun⟩⟩
    · exact absurd same (marks snoozed rfl (by decide))
    · exact absurd same (marks snoozed rfl (by decide))
    · exact absurd same (marks snoozed armed (apart 115 rfl).symm)

end Status

/-! ## On the display -/

/-- The alarm thread with its alarm set to some time shows a phase, the clock and that time. -/
theorem alarmThreadAt_shows (hour minute second : Int) (buttons : Nat → Samples) (n : Nat) :
    (∃ p, Shows (alarmThreadAt hour minute second buttons n) p) ∧
      ClockShows (alarmThreadAt hour minute second buttons n) n ∧
      (alarmThreadAt hour minute second buttons n).settings.1 = (hour, minute, second) := by
  refine ⟨?_, ?_, ?_⟩
  · have booted : Shows (alarmGpioInit
        { initial with alarmHour := hour, alarmMinute := minute, alarmSecond := second }) .armed :=
      Shows.initial.congr rfl rfl rfl rfl rfl
    have keep : ∀ (b : Samples) (s : AlarmState), (∃ p, Shows s p) → ∃ p, Shows (tick b s) p :=
      fun b _ ⟨_, h⟩ => ⟨_, h.tick b⟩
    exact Run.stateAt_invariant ⟨_, booted⟩ keep buttons n
  · apply stateAt_clock
    constructor <;> (simp only [alarmGpioInit, initial]; decide)
  · exact congrArg Prod.fst (stateAt_settings _ buttons n)

/-- **The alarm screen tells the time and the alarm's phase.** Whatever the alarm is set to, the
buttons did and the display showed: behind round `n` the first row is the time `n` seconds past
midnight, and the second one is blank, says active, snoozed or the alarm's time just when the
alarm is disabled, active, snoozed or waits. -/
theorem alarm_screen {hour minute second : Int} (hours : 0 ≤ hour ∧ hour < 100)
    (minutes : 0 ≤ minute ∧ minute < 100) (buttons : Nat → Samples) (n : Nat)
    (other : Write → Display → Display) (d : Display) :
    let s := alarmThreadAt hour minute second buttons n
    let shown := rows (receiveAll other (screenShowAlarm s).page.writes d)
    shown.1 = cells (timeText n) ∧
      (shown.2 = cells [] ↔ s.alarmEnabled = false) ∧
      (shown.2 = cells (ascii "Alarm active") ↔ s.alarmActive = true) ∧
      (shown.2 = cells (ascii "Alarm snoozed") ↔ s.alarmSnoozed = true) ∧
      (shown.2 = cells (ascii "Alarm " ++ print02d hour ++ [58] ++ print02d minute) ↔
        s.alarmEnabled = true ∧ s.alarmActive = false ∧ s.alarmSnoozed = false) := by
  intro s shown
  obtain ⟨⟨p, phase⟩, clock, settings⟩ := alarmThreadAt_shows hour minute second buttons n
  have ranges : Ranges s 60 60 24 := by
    obtain ⟨second, minute, hour, -⟩ := clock
    exact ⟨⟨second.1, second.2.le⟩, ⟨minute.1, minute.2.le⟩, ⟨hour.1, hour.2.le⟩⟩
  have time : alarmGetClockText s 17 = timeText n := (clock_text_iff ranges n).2 clock
  simp only [AlarmState.settings, Prod.mk.injEq] at settings
  obtain ⟨setHour, setMinute, -⟩ := settings
  have status : alarmGetStatusText s 17 = statusText hour minute p := by
    have text := status_text phase (by rw [setHour]; exact hours) (by rw [setMinute]; exact minutes)
    rwa [setHour, setMinute] at text
  have lines : shown = (cells (timeText n), cells (statusText hour minute p)) := by
    have clean : 0 ∉ (screenShowAlarm s).line1 ∧ 0 ∉ (screenShowAlarm s).line2 := by
      rw [screenShowAlarm, time, status]
      exact ⟨zero_not_mem_clockText _ _ _, zero_not_mem_statusText p⟩
    rw [show shown = _ from rows_writes other _ d, rows_lines clean, screenShowAlarm, time, status]
  obtain ⟨disabled, active, snoozed, armed⟩ := @status_rows hour minute hours p
  rw [lines, phase.enabled, phase.active, phase.snoozed]
  refine ⟨rfl, disabled, active, snoozed, armed.trans ?_⟩
  cases p <;> simp

/-- The alarm rings from round 3 on, and round 5 samples a press of the snooze button. -/
def snoozedRing (k : Nat) : Samples := if k = 5 then ⟨0, 1, 1⟩ else ⟨1, 1, 1⟩

theorem alarm_screen_snoozed :
    let shown n := rows (receiveAll (fun _ d => d) (screenShowAlarm (alarmThreadAt 0 0 3 snoozedRing n)).page.writes
      cleared)
    shown 2 = (cells (timeText 2), cells (ascii "Alarm 00:00")) ∧
      shown 4 = (cells (timeText 4), cells (ascii "Alarm active")) ∧
      shown 6 = (cells (timeText 6), cells (ascii "Alarm snoozed")) := by
  have screen n := @alarm_screen 0 0 3 (by decide) (by decide) snoozedRing n (fun _ d => d) cleared
  obtain ⟨time, -, -, -, waits⟩ := screen 2
  obtain ⟨time', -, active, -⟩ := screen 4
  obtain ⟨time'', -, -, snoozed, -⟩ := screen 6
  exact ⟨Prod.ext time (waits.2 (by decide)), Prod.ext time' (active.2 (by decide)),
    Prod.ext time'' (snoozed.2 (by decide))⟩

end SmartClock.Screen
