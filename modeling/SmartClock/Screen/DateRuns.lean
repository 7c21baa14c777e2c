import SmartClock.Screen.AlarmScreen
import SmartClock.Screen.InfoScreens

/-!
# The date screen in every run

`screen_show_datetime` on whatever `parse_info` may have stored. Its digit loop reads the front
of the epoch's text (`epochRead`): it stays inside of the member, and its 32-bit `long` holds the
number unless that is above 2147483647 (`digitLoop_field`). So in every run the screen shows the
date and time of the number read, or, without a text, the clock.
-/

namespace SmartClock.Screen

open Text Lcd Json Net Alarm Sync

/-- The number at the front of a text. -/
def epochRead (text : List UInt8) : Nat := readOn 0 (text.takeWhile isDigit)

/-- The digit loop does not look behind the first other byte. -/
theorem digitLoop_stop (long : Long) {digits : List UInt8} (all : ∀ d ∈ digits, isDigit d = true)
    {c c' : UInt8} (stop : isDigit c = false) (stop' : isDigit c' = false) (rest rest' : List UInt8)
    (n : Int) : digitLoop long (digits ++ c :: rest) n = digitLoop long (digits ++ c' :: rest') n := by
  induction digits generalizing n with
  | nil =>
    rw [List.nil_append, List.nil_append, digitLoop, digitLoop, stop, stop']
    rfl
  | cons d digits ih =>
    have digit := all d List.mem_cons_self
    have restDigits : ∀ d ∈ digits, isDigit d = true := fun d inside => all d (List.mem_cons_of_mem _ inside)
    simp only [List.cons_append, digitLoop, digit, if_pos, ih restDigits]

theorem length_text_lt {a : InfoStr} (ended : ∃ i, a.get i = 0) : a.text.length < infoStrLen := by
  have inside := zero_mem_of_ended ended
  have front : a.text.Sublist a.toList := List.takeWhile_sublist _
  have size : a.toList.length = infoStrLen := a.length_toList
  refine Nat.lt_of_le_of_ne (Nat.le_trans front.length_le (Nat.le_of_eq size)) ?_
  intro full
  have whole : a.text = a.toList := front.eq_of_length (full.trans size.symm)
  rw [← whole] at inside
  exact zero_not_mem_text a inside

/-- A field with its terminator: its digits, and the first other byte. -/
theorem digits_split {a : InfoStr} (ended : ∃ i, a.get i = 0) :
    ∃ c rest, a.toList = a.text.takeWhile isDigit ++ c :: rest ∧ isDigit c = false := by
  obtain ⟨rest, whole⟩ := CharArray.toList_eq_text (length_text_lt ended)
  have front : a.text.takeWhile isDigit ++ a.text.dropWhile isDigit = a.text :=
    List.takeWhile_append_dropWhile
  cases other : a.text.dropWhile isDigit with
  | nil =>
    rw [other, List.append_nil] at front
    refine ⟨0, rest, ?_, rfl⟩
    rw [front, whole]
  | cons c more =>
    refine ⟨c, more ++ 0 :: rest, ?_, ?_⟩
    · rw [← List.cons_append, ← List.append_assoc, ← other, front, whole]
    · have ne : a.text.dropWhile isDigit ≠ [] := by
        rw [other]
        exact List.cons_ne_nil _ _
      have stops := List.head_dropWhile_not isDigit ne
      simpa only [other, List.head_cons] using stops

/-- **The digit loop on a field** with its terminator. -/
theorem digitLoop_field {a : InfoStr} (ended : ∃ i, a.get i = 0) :
    digitLoop long32 a.toList 0 =
      if epochRead a.text ≤ 2147483647 then some (epochRead a.text : Int) else none := by
  obtain ⟨c, rest, list, stop⟩ := digits_split ended
  have all : ∀ d ∈ a.text.takeWhile isDigit, isDigit d = true := fun d inside => List.mem_takeWhile_imp inside
  rw [list, digitLoop_stop long32 all stop (by decide : isDigit 0 = false) rest []]
  exact digitLoop_long32 all [] (Nat.zero_le _)

/-- `"%.3s %d %s"` of a date -/
def dateText (t : Datetime) : List UInt8 :=
  (weekdayName t.wday).take 3 ++ [32] ++ printD t.day ++ [32] ++ monthName t.month

theorem zero_not_mem_weekdayName (wd : Int) : 0 ∉ weekdayName wd := by
  unfold weekdayName
  split
  · exact (by decide : 0 ∉ ascii "???")
  · generalize wd.toNat = n
    match n with
    | 0 | 1 | 2 | 3 | 4 | 5 | 6 => decide
    | n + 7 => exact List.not_mem_nil

theorem zero_not_mem_monthName (m : Int) : 0 ∉ monthName m := by
  unfold monthName
  split
  · exact (by decide : 0 ∉ ascii "???")
  · generalize m.toNat = n
    match n with
    | 0 | 1 | 2 | 3 | 4 | 5 | 6 | 7 | 8 | 9 | 10 | 11 | 12 => decide
    | n + 13 => exact List.not_mem_nil

theorem zero_not_mem_dateText (t : Datetime) : 0 ∉ dateText t := by
  simp only [dateText, List.mem_append, not_or]
  refine ⟨⟨⟨⟨?_, by decide⟩, zero_not_mem_printD _⟩, by decide⟩, zero_not_mem_monthName _⟩
  exact fun inside => zero_not_mem_weekdayName _ (List.mem_of_mem_take inside)

/-- `snprintf` cuts a line where the display does. -/
theorem cells_snprintf (text : List UInt8) : cells (snprintf 17 text) = cells text := by
  rw [cells, snprintf, List.take_take]
  rfl

theorem zero_not_mem_snprintf {text : List UInt8} (clean : 0 ∉ text) (size : Nat) :
    0 ∉ snprintf size text := fun inside => clean (List.mem_of_mem_take inside)

/-- The rows of a date. -/
theorem rows_date (t : Datetime) :
    (dateLines t).page.rows = (cells (dateText t), cells (clockText t.hour t.min t.sec)) := by
  have clean : 0 ∉ (dateLines t).line1 ∧ 0 ∉ (dateLines t).line2 :=
    ⟨zero_not_mem_snprintf (zero_not_mem_dateText t) 17,
      zero_not_mem_snprintf (zero_not_mem_clockText _ _ _) 17⟩
  rw [rows_lines clean, dateLines, cells_snprintf, cells_snprintf]
  rfl

/-- The rows without a date. -/
theorem rows_noDate (alarm : AlarmState) :
    (Lines.page ⟨alarmGetClockText alarm 17, ascii "No date yet"⟩).rows =
      (cells (clockText alarm.currentHour alarm.currentMinute alarm.currentSecond),
        cells (ascii "No date yet")) := by
  have clean : 0 ∉ alarmGetClockText alarm 17 ∧ 0 ∉ ascii "No date yet" :=
    ⟨zero_not_mem_snprintf (zero_not_mem_clockText _ _ _) 17, by decide⟩
  rw [rows_lines clean, alarmGetClockText, cells_snprintf]

/-- What the screen shows about a snapshot with its terminators. -/
theorem screenShowDatetime_cases {info : InfoData} (ended : info.Terminated) (alarm : AlarmState) :
    (info.unixEpoch.text = [] ∧ screenShowDatetime long32 alarm (some info) =
        some ⟨alarmGetClockText alarm 17, ascii "No date yet"⟩) ∨
      (info.unixEpoch.text ≠ [] ∧ epochRead info.unixEpoch.text ≤ 2147483647 ∧
        ∃ t, IsUtc (epochRead info.unixEpoch.text) t ∧
          screenShowDatetime long32 alarm (some info) = some (dateLines t)) ∨
      (2147483647 < epochRead info.unixEpoch.text ∧
        screenShowDatetime long32 alarm (some info) = none) := by
  have read : digitLoop long32 info.unixEpoch.toList 0 = _ := digitLoop_field (ended .unixEpoch)
  by_cases empty : info.unixEpoch.text = []
  · exact .inl ⟨empty, if_pos (head_eq_zero_iff.2 empty)⟩
  · have given : ¬ info.unixEpoch.toList.head? = some 0 := fun h => empty (head_eq_zero_iff.1 h)
    have shown : screenShowDatetime long32 alarm (some info) =
        (shownDatetime long32 info.unixEpoch).map dateLines := if_neg given
    rw [shown, shownDatetime, read]
    by_cases early : epochRead info.unixEpoch.text ≤ 2147483647
    · have fits : ∀ n : Int, 0 ≤ n → n < 47851 → long32 n = some n := fun n _ _ => if_pos (by omega)
      obtain ⟨t, run, utc⟩ := epochToDatetime_spec fits
        (show ((epochRead info.unixEpoch.text : Nat) : Int) < 4133980800 by omega)
      rw [Int.max_eq_left (by omega)] at utc
      refine .inr (.inl ⟨empty, early, t, utc, ?_⟩)
      rw [if_pos early, Option.bind_eq_bind, Option.bind_some, run]
      rfl
    · refine .inr (.inr ⟨by omega, ?_⟩)
      rw [if_neg early]
      rfl

/-- **The date screen in every run.** However the two threads take turns: for each call of
`get_info_snapshot`, the date screen that follows it overflows its 32-bit `long` exactly if the
last epoch's text then begins with a number above 2147483647. Otherwise the two rows are the date
and the time of that number in UTC, or, without a snapshot or a text, the alarm's clock and
"No date yet". -/
theorem date_screen_runs {moves : List (Program.Move InfoUser Given)} {s : sharing.State}
    (ran : Run.run sharing.step sharingBoot moves = some s) (alarm : AlarmState) :
    ∀ call ∈ (screenThread s).calls,
      let shown := screenShowDatetime long32 alarm (if call.result then some call.after else none)
      let text := call.after.unixEpoch.text
      (shown = none ↔ call.result = true ∧ 2147483647 < epochRead text) ∧
        ∀ l, shown = some l → ∀ (other : Write → Display → Display) (d : Display),
          (call.result = true ∧ text ≠ [] ∧ ∃ t, IsUtc (epochRead text) t ∧
            rows (receiveAll other l.page.writes d) =
              (cells (dateText t), cells (clockText t.hour t.min t.sec))) ∨
          ((call.result = false ∨ text = []) ∧
            rows (receiveAll other l.page.writes d) =
              (cells (clockText alarm.currentHour alarm.currentMinute alarm.currentSecond),
                cells (ascii "No date yet"))) := by
  intro call member
  cases result : call.result with
  | false =>
    refine ⟨⟨nofun, nofun⟩, ?_⟩
    intro l shown other d
    obtain rfl := Option.some.inj shown
    refine .inr ⟨.inl rfl, ?_⟩
    rw [rows_writes, rows_noDate]
  | true =>
    obtain ⟨k, -, whole⟩ := ((untorn_of_run ran).calls call member).1 result
    have ended : call.after.Terminated := whole ▸ terminated_afterCalls _
    rw [if_pos rfl]
    rcases screenShowDatetime_cases ended alarm with
      ⟨empty, screen⟩ | ⟨nonempty, early, t, utc, screen⟩ | ⟨late, screen⟩
    · rw [screen]
      refine ⟨⟨nofun, ?_⟩, ?_⟩
      · rintro ⟨-, late⟩
        rw [empty] at late
        exact absurd late (by decide)
      · intro l shown other d
        obtain rfl := Option.some.inj shown
        refine .inr ⟨.inr empty, ?_⟩
        rw [rows_writes, rows_noDate]
    · rw [screen]
      refine ⟨⟨nofun, ?_⟩, ?_⟩
      · rintro ⟨-, late⟩
        omega
      · intro l shown other d
        obtain rfl := Option.some.inj shown
        refine .inl ⟨rfl, nonempty, t, utc, ?_⟩
        rw [rows_writes, rows_date]
    · rw [screen]
      exact ⟨⟨fun _ => ⟨rfl, late⟩, fun _ => rfl⟩, nofun⟩

/-- The next body has an epoch that no 32-bit `long` holds. -/
def lateGiven : Given where
  body := ⟨ascii "\x7b\"unix_epoch\": 2147483648\x7d", by decide +kernel⟩
  out := gInfo

/-- A snapshot before it is parsed, and one after that. -/
def copiedLateCopied : List (Program.Move InfoUser Given) :=
  List.replicate 11 (.go .screen lateGiven) ++ List.replicate 23 (.go .network lateGiven) ++
    List.replicate 11 (.go .screen lateGiven)

/-- The first call finds no text, so its screen shows the clock; the screen of the second one
overflows. -/
theorem date_screen_runs_late :
    let alarm := alarmThreadAt 0 0 3 snoozedRing 6
    alarm.alarmSnoozed = true ∧
      clockText alarm.currentHour alarm.currentMinute alarm.currentSecond = ascii "00:00:06" ∧
      ∃ s, Run.run sharing.step sharingBoot copiedLateCopied = some s ∧
        (screenThread s).calls.map (fun call => (call.result, epochRead call.after.unixEpoch.text)) =
          [(true, 0), (true, 2147483648)] ∧
        ∀ call ∈ (screenThread s).calls,
          let shown := screenShowDatetime long32 alarm (if call.result then some call.after else none)
          let text := call.after.unixEpoch.text
          (shown = none ↔ call.result = true ∧ 2147483647 < epochRead text) ∧
            ∀ l, shown = some l → ∀ (other : Write → Display → Display) (d : Display),
              (call.result = true ∧ text ≠ [] ∧ ∃ t, IsUtc (epochRead text) t ∧
                rows (receiveAll other l.page.writes d) =
                  (cells (dateText t), cells (clockText t.hour t.min t.sec))) ∨
              ((call.result = false ∨ text = []) ∧
                rows (receiveAll other l.page.writes d) =
                  (cells (clockText alarm.currentHour alarm.currentMinute alarm.currentSecond),
                    cells (ascii "No date yet"))) := by
  intro alarm
  refine ⟨by decide +kernel, by decide +kernel, _, rfl, by decide +kernel, ?_⟩
  exact @date_screen_runs copiedLateCopied _ rfl alarm

end SmartClock.Screen
