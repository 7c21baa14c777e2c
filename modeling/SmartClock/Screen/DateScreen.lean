import SmartClock.Screen.Datetime
import SmartClock.Net.InfoMembers
import SmartClock.Alarm.State

/-!
# `screen.c`: from the proxy's epoch to the display

`screen_show_datetime` reads the stored epoch digit by digit into a `long` and converts it.
The digits are the proxy's (`text_unixEpoch`), so what is shown depends on the `long` alone:
a 32-bit one holds the epoch up to 2147483647, and from the next second on the loop that
reads it overflows (`digitLoop_long32`).
-/

namespace SmartClock.Screen

open Text Json Proxy Net Alarm

/-- `weekday_name` -/
def weekdayName (wd : Int) : List UInt8 :=
  let days := [ascii "Sunday", ascii "Monday", ascii "Tuesday", ascii "Wednesday", ascii "Thursday",
    ascii "Friday", ascii "Saturday"]
  if wd < 0 ∨ wd > 6 then ascii "???" else days.getD wd.toNat []

/-- `month_name` -/
def monthName (m : Int) : List UInt8 :=
  let months := [[], ascii "Jan", ascii "Feb", ascii "Mar", ascii "Apr", ascii "May", ascii "Jun",
    ascii "Jul", ascii "Aug", ascii "Sep", ascii "Oct", ascii "Nov", ascii "Dec"]
  if m < 1 ∨ m > 12 then ascii "???" else months.getD m.toNat []

/-- What a screen hands to `lcd_show`. -/
structure Lines where
  line1 : List UInt8
  line2 : List UInt8
deriving DecidableEq

/-- `"%02d:%02d:%02d"` -/
def clockText (hour min sec : Int) : List UInt8 :=
  print02d hour ++ [58] ++ print02d min ++ [58] ++ print02d sec

/-- `alarm_get_clock_text` -/
def alarmGetClockText (s : AlarmState) (size : Nat) : List UInt8 :=
  snprintf size (clockText s.currentHour s.currentMinute s.currentSecond)

/-- The two lines of a date. -/
def dateLines (t : Datetime) : Lines where
  line1 := snprintf 17 ((weekdayName t.wday).take 3 ++ [32] ++ printD t.day ++ [32] ++ monthName t.month)
  line2 := snprintf 17 (clockText t.hour t.min t.sec)

/-- The digit loop on the rest of the array; `none` is a signed overflow or a read behind
the array's end. -/
def digitLoop (long : Long) : List UInt8 → Int → Option Int
  | [], _ => none
  | c :: rest, epoch =>
    if isDigit c then do
      let tens ← long (epoch * 10)
      let epoch ← long (tens + ((c.toNat - 48 : Nat) : Int))
      digitLoop long rest epoch
    else some epoch

/-- The date and time the screen computes from the stored epoch. -/
def shownDatetime (long : Long) (unixEpoch : InfoStr) : Option Datetime := do
  let epoch ← digitLoop long unixEpoch.toList 0
  epochToDatetime long epoch

/-- `screen_show_datetime`, told what `get_info_snapshot` gives. -/
def screenShowDatetime (long : Long) (alarm : AlarmState) (snapshot : Option InfoData) : Option Lines :=
  let noDate : Lines := ⟨alarmGetClockText alarm 17, ascii "No date yet"⟩
  match snapshot with
  | none => some noDate
  | some info =>
    if info.unixEpoch.toList.head? = some 0 then some noDate
    else (shownDatetime long info.unixEpoch).map dateLines

/-! ## The digit loop -/

/-- The number a digit loop has after `digits`, from `n` on. -/
def readOn (n : Nat) (digits : List UInt8) : Nat := digits.foldl (fun n d => 10 * n + (d.toNat - 48)) n

theorem readOn_cons (n : Nat) (d : UInt8) (digits : List UInt8) :
    readOn n (d :: digits) = readOn (10 * n + (d.toNat - 48)) digits := by
  rw [readOn, readOn, List.foldl_cons]

theorem le_readOn (n : Nat) (digits : List UInt8) : n ≤ readOn n digits := by
  induction digits generalizing n with
  | nil => exact Nat.le_refl n
  | cons d digits ih =>
    have := ih (10 * n + (d.toNat - 48))
    rw [readOn_cons]
    omega

/-- A 32-bit `long` holds the number after every digit exactly when it holds the last. -/
theorem digitLoop_long32 {digits : List UInt8} (all : ∀ d ∈ digits, isDigit d = true) (rest : List UInt8)
    {n : Nat} (range : n ≤ 2147483647) :
    digitLoop long32 (digits ++ 0 :: rest) n =
      if readOn n digits ≤ 2147483647 then some (readOn n digits : Int) else none := by
  induction digits generalizing n with
  | nil =>
    have ends : isDigit 0 = false := rfl
    rw [List.nil_append, digitLoop, ends]
    exact (if_pos range).symm
  | cons d digits ih =>
    rw [List.cons_append, digitLoop, if_pos (all d List.mem_cons_self), readOn_cons]
    -- the number only grows, so an overflow in this round is one of the last number too
    have grows := le_readOn (10 * n + (d.toNat - 48)) digits
    by_cases tens : n * 10 ≤ 2147483647
    · have product : long32 (n * 10) = some ((n : Int) * 10) := if_pos (by omega)
      by_cases sum : 10 * n + (d.toNat - 48) ≤ 2147483647
      · have total : long32 (n * 10 + (d.toNat - 48 : Nat)) = some ((10 * n + (d.toNat - 48) : Nat) : Int) := by
          rw [long32, if_pos (by omega)]
          congr 1
          omega
        simp only [product, total, Option.bind_eq_bind, Option.bind_some]
        exact ih (fun d inside => all d (List.mem_cons_of_mem _ inside)) sum
      · have total : long32 (n * 10 + (d.toNat - 48 : Nat)) = none := if_neg (by omega)
        simp only [product, total, Option.bind_eq_bind, Option.bind_some, Option.bind_none]
        exact (if_neg (by omega)).symm
    · have product : long32 (n * 10) = none := if_neg (by omega)
      simp only [product, Option.bind_eq_bind, Option.bind_none]
      exact (if_neg (by omega)).symm

/-! ## The path of the epoch -/

/-- The epoch is the first member of `data`, so nothing in the other members can hide it. -/
theorem text_unixEpoch {d : InfoDict} {e : Nat} (sent : d.unixEpoch = .num (.ofNat e))
    (short : (numeral e).length < infoStrLen) (g : InfoData) :
    (parseInfo (encoded d.toValue) g).unixEpoch.text = numeral e := by
  have value : InfoField.unixEpoch.value d = .num (.ofNat e) := sent
  have nothing : ∀ m ∈ InfoField.unixEpoch.before d, m.2.isScalar = true := fun m inside => nomatch inside
  have stored := text_of_scanned (scanned_of_before nothing (by rw [value]; rfl)) g
  rw [value] at stored
  have whole : shown (.num (.ofNat e)) = numeral e := by
    show (dumps (.num (.ofNat e))).take (infoStrLen - 1) = numeral e
    rw [dumps]
    exact List.take_of_length_le (Nat.le_sub_one_of_lt short)
  exact stored.trans whole

/-- The digit loop on a field that holds a numeral. -/
theorem digitLoop_numeral {field : InfoStr} {e : Nat} (held : field.text = numeral e)
    (short : (numeral e).length < infoStrLen) :
    digitLoop long32 field.toList 0 = if e ≤ 2147483647 then some (e : Int) else none := by
  obtain ⟨rest, list⟩ := field.toList_eq_text (held ▸ short)
  have number : readOn 0 (numeral e) = e := decimal_numeral e
  rw [list, held]
  have read := digitLoop_long32 (fun d (inside : d ∈ numeral e) => isDigit_of_mem_numeral inside) rest
    (Nat.zero_le 2147483647)
  rw [number] at read
  exact read

/-- What the digit loop reads after a 200 answer, whatever was stored before. -/
theorem digitLoop_info {w : InfoWorld} (ok : (info w).status = 200) (range : w.time < 4133980800)
    (g : InfoData) :
    (parseInfo (info w).body g).unixEpoch.text = numeral w.time ∧
      digitLoop long32 (parseInfo (info w).body g).unixEpoch.toList 0 =
        if w.time ≤ 2147483647 then some (w.time : Int) else none := by
  obtain ⟨d, body, sent, -⟩ := info_ok ok
  have short : (numeral w.time).length < infoStrLen := by
    have ten : (Nat.toDigits 10 w.time).length ≤ 10 :=
      (Nat.length_toDigits_le_iff (by decide) (by decide)).2 (by omega)
    rw [numeral, List.length_map]
    exact Nat.lt_of_le_of_lt ten (by decide)
  have held := text_unixEpoch sent short g
  rw [body]
  exact ⟨held, digitLoop_numeral held short⟩

theorem shownDatetime_overflow {w : InfoWorld} (ok : (info w).status = 200) (range : w.time < 4133980800)
    (late : ¬ w.time ≤ 2147483647) (g : InfoData) :
    shownDatetime long32 (parseInfo (info w).body g).unixEpoch = none := by
  rw [shownDatetime, (digitLoop_info ok range g).2, if_neg late]
  rfl

/-- **The date screen shows the proxy's time** exactly up to 2038-01-19 03:14:07. -/
theorem shows_epoch_iff {w : InfoWorld} (ok : (info w).status = 200) (range : w.time < 4133980800)
    (g : InfoData) (alarm : AlarmState) :
    (∃ t, shownDatetime long32 (parseInfo (info w).body g).unixEpoch = some t ∧ IsUtc w.time t ∧
      screenShowDatetime long32 alarm (some (parseInfo (info w).body g)) = some (dateLines t)) ↔
      w.time ≤ 2147483647 := by
  constructor
  · rintro ⟨t, shown, -⟩
    by_contra late
    rw [shownDatetime_overflow ok range late g] at shown
    cases shown
  · intro early
    obtain ⟨held, read⟩ := digitLoop_info ok range g
    rw [if_pos early] at read
    have fits : ∀ n : Int, 0 ≤ n → n < 47851 → long32 n = some n := fun n _ _ => if_pos (by omega)
    obtain ⟨t, run, utc⟩ := epochToDatetime_spec fits (show (w.time : Int) < 4133980800 by omega)
    rw [Int.max_eq_left (by omega)] at utc
    have shown : shownDatetime long32 (parseInfo (info w).body g).unixEpoch = some t := by
      rw [shownDatetime, read, Option.bind_eq_bind, Option.bind_some, run]
    refine ⟨t, shown, utc, ?_⟩
    have dated : (parseInfo (info w).body g).unixEpoch.toList.head? ≠ some 0 :=
      CharArray.head_ne_zero (held ▸ numeral_ne_nil w.time)
    simp only [screenShowDatetime, if_neg dated, shown, Option.map_some]

/-- A client in Oslo asks at `time`. -/
def osloWorld (time : Nat) : InfoWorld where
  forwardedFor := none
  remoteAddr := some (str "192.0.2.7")
  isPrivate _ := .ok false
  ipify := .ok (.obj [(str "ip", .str (str "192.0.2.7"))])
  ipGeolocation _ := .ok (.obj [(str "latitude", .str (str "59.91273")),
    (str "longitude", .str (str "10.74609")), (str "city", .str (str "Oslo")),
    (str "country_name", .str (str "Norway"))])
  openWeather _ _ := .ok (.obj [(str "weather", .arr [.obj [(str "main", .str (str "Clouds"))]]),
    (str "main", .obj [(str "temp", .num osloDegrees)])])
  time := time
  weekday := str "Sunday"
  day := str "11"
  monthName := str "May"
  currentClock := str "23:46:40"

theorem shows_epoch_oslo :
    (∃ t, shownDatetime long32 (parseInfo (info (osloWorld 1747000000)).body gInfo).unixEpoch = some t ∧
      IsUtc 1747000000 t ∧
      screenShowDatetime long32 initial (some (parseInfo (info (osloWorld 1747000000)).body gInfo)) =
        some (dateLines t)) ↔ 1747000000 ≤ 2147483647 :=
  @shows_epoch_iff (osloWorld 1747000000) rfl (by decide) gInfo initial

/-- One second after 2038-01-19 03:14:07 the screen has no date to show. -/
theorem epoch_overflows :
    (info (osloWorld 2147483648)).status = 200 ∧ 2147483648 < 4133980800 ∧
      ¬ ∃ t, shownDatetime long32 (parseInfo (info (osloWorld 2147483648)).body gInfo).unixEpoch = some t := by
  refine ⟨rfl, by decide, ?_⟩
  rintro ⟨t, shown⟩
  rw [@shownDatetime_overflow (osloWorld 2147483648) rfl (by decide) (by decide) gInfo] at shown
  cases shown

end SmartClock.Screen
