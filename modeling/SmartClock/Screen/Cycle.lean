import SmartClock.Screen.AlarmScreen
import SmartClock.Screen.Driver
import SmartClock.Screen.InfoScreens
import SmartClock.Screen.TempHum

/-!
# The screen thread

`screen_thread_entry`: `boot`, and then the seven screens over and over. The thread is the list
of its bus writes. A page appears from its first byte to its last on a cleared display
(`appearing_take`), so wherever the thread is, the display shows a part of one page and nothing
of another one (`appearing_pages`). The backlight keeps the colour that `boot` gives it.
-/

namespace SmartClock.Screen

open Text Lcd Net Alarm

/-- What the getters and `get_info_snapshot` give to a screen. -/
structure Readings where
  alarm : AlarmState
  temHum : TemHum
  snapshot : Option InfoData

inductive CycleScreen where
  | alarm
  | tempHum
  | info (screen : InfoScreen)
  | datetime
deriving DecidableEq

/-- The page of a screen; `none` is undefined behaviour. -/
def CycleScreen.page (r : Readings) : CycleScreen → Option Page
  | alarm => some (screenShowAlarm r.alarm).page
  | tempHum => some (screenShowTempHum r.temHum).page
  | info screen => screen.page r.snapshot
  | datetime => (screenShowDatetime long32 r.alarm r.snapshot).map Lines.page

/-- The screens of the loop, in their order. -/
def cycle : List CycleScreen :=
  [.alarm, .tempHum, .info .weather, .info .epoch, .info .latlon, .info .city, .datetime]

/-- The pages of the first `n` screens of the thread. -/
def cyclePages (readings : Nat → Readings) (n : Nat) : Option (List Page) :=
  (List.range n).mapM fun k => (cycle.getD (k % cycle.length) .alarm).page (readings k)

/-- The bus writes of `screen_thread_entry` up to its `n`-th screen, on a bus that is `ready` or
not. The loop begins in both cases. -/
def screenThreadEntry (ready : Bool) (readings : Nat → Readings) (n : Nat) : Option (List BusWrite) :=
  let (lcd, booted) := boot ready zeroLcd
  if ready then (cyclePages readings n).map fun pages => booted ++ pages.flatMap fun p => toLcd lcd p.writes
  -- the first screen writes to the null device
  else if n = 0 then some booted
  else none

/-! ## A page appears -/

/-- The bytes of the two lines of a page. -/
def Page.bytes (p : Page) : List UInt8 × List UInt8 := (p.line1.str.1, p.line2.str.1)

/-- A part of a page is what the rows show: of the second line only behind the whole first one. -/
def Appearing (p : Page) (shown : List UInt8 × List UInt8) : Prop :=
  ∃ i j, (j = 0 ∨ 16 ≤ i) ∧ shown = (cells (p.bytes.1.take i), cells (p.bytes.2.take j))

theorem length_takeStr_fits (text : ObjectStr) (n : Nat) :
    (takeStr text.str n).1.length + 1 ≤ 2147483647 := by
  have shorter : (text.str.1.take n).length ≤ text.str.1.length := List.length_take_le' _ _
  have fits := text.fits
  show (text.str.1.take n).length + 1 ≤ 2147483647
  omega

/-- The first bytes of a string. -/
def ObjectStr.take (text : ObjectStr) (n : Nat) : ObjectStr := ⟨takeStr text.str n, length_takeStr_fits text n⟩

/-- The first bytes of both lines of a page, as a page. -/
def Page.part (p : Page) (i j : Nat) : Page := ⟨p.line1.take i, p.line2.take j⟩

theorem appearing_part (p : Page) {i j : Nat} (behind : j = 0 ∨ 16 ≤ i) : Appearing p (p.part i j).rows :=
  ⟨i, j, behind, rfl⟩

theorem appearing_rows (p : Page) : Appearing p p.rows := by
  refine ⟨16, 16, .inr (Nat.le_refl 16), ?_⟩
  simp only [Page.rows, Page.bytes, cells, padded, List.take_take, Nat.min_self]

/-- The data bytes of a line. -/
def ObjectStr.data (text : ObjectStr) : List Write := (text.str.1.take 16).map fun b => ⟨0x40, b⟩

theorem writes_eq (p : Page) :
    p.writes = [⟨0x80, 0x01⟩, ⟨0x80, 0x80⟩] ++ p.line1.data ++ ⟨0x80, 0xc0⟩ :: p.line2.data := by
  rw [Page.writes, lcdShow, lcdWriteString_eq, lcdWriteString_eq]
  show _ ++ _ ++ _ ++ [_] ++ _ = _
  rw [List.append_assoc _ [_] _]
  rfl

theorem writes_take (p : Page) (m : Nat) :
    p.writes.take (m + 2) =
      [⟨0x80, 0x01⟩, ⟨0x80, 0x80⟩] ++ (p.line1.data ++ ⟨0x80, 0xc0⟩ :: p.line2.data).take m := by
  rw [writes_eq, List.append_assoc]
  rfl

theorem data_take (text : ObjectStr) (m : Nat) : (text.take m).data = text.data.take m := by
  rw [ObjectStr.data, ObjectStr.data, ← List.map_take, List.take_take]
  show ((text.str.1.take m).take 16).map _ = _
  rw [List.take_take, Nat.min_comm]

section Display

variable (other : Write → Display → Display)

/-- The cursor's move to the second line changes no cell. -/
theorem rows_cursor (ws : List Write) (d : Display) :
    rows (receiveAll other (ws ++ [⟨0x80, 0xc0⟩]) d) = rows (receiveAll other ws d) := by
  rw [receiveAll_append]
  rfl

theorem rows_clear (d : Display) : rows (receiveAll other [⟨0x80, 0x01⟩] d) = (cells [], cells []) := rfl

/-- Inside the first line, and at its end. -/
theorem rows_first (p : Page) (m : Nat) (d : Display) :
    rows (receiveAll other ([⟨0x80, 0x01⟩, ⟨0x80, 0x80⟩] ++ p.line1.data.take m) d) = (p.part m 0).rows := by
  have nothing : (p.part m 0).line2.data = [] := rfl
  have same : (p.part m 0).line1.data = p.line1.data.take m := data_take p.line1 m
  rw [← rows_writes other, writes_eq, nothing, same, rows_cursor]

/-- Inside the second line. -/
theorem rows_second (p : Page) (m : Nat) (d : Display) :
    rows (receiveAll other
      ([⟨0x80, 0x01⟩, ⟨0x80, 0x80⟩] ++ p.line1.data ++ ⟨0x80, 0xc0⟩ :: p.line2.data.take m) d) =
        (p.part 16 m).rows := by
  have all : p.line1.data.take 16 = p.line1.data := by
    apply List.take_of_length_le
    rw [ObjectStr.data, List.length_map]
    exact List.length_take_le 16 _
  have first : (p.part 16 m).line1.data = p.line1.data := (data_take p.line1 16).trans all
  have second : (p.part 16 m).line2.data = p.line2.data.take m := data_take p.line2 m
  rw [← rows_writes other, writes_eq, first, second]

/-- **A page appears** byte by byte, behind the first write of its `lcd_show`. -/
theorem appearing_take (p : Page) (d : Display) {k : Nat} (begun : 0 < k) :
    Appearing p (rows (receiveAll other (p.writes.take k) d)) := by
  match k with
  | 1 =>
    have shown : rows (receiveAll other (p.writes.take 1) d) = (cells [], cells []) := rows_clear other d
    rw [shown]
    exact appearing_part p (.inl rfl : (0 : Nat) = 0 ∨ 16 ≤ 0)
  | m + 2 =>
    rw [writes_take, List.take_append]
    cases left : m - p.line1.data.length with
    | zero =>
      rw [List.take_zero, List.append_nil, rows_first]
      exact appearing_part p (.inl rfl)
    | succ j =>
      rw [List.take_succ_cons, List.take_of_length_le (show p.line1.data.length ≤ m by omega),
        ← List.append_assoc, rows_second]
      exact appearing_part p (.inr (Nat.le_refl 16))

/-- What a part of a concatenation is. -/
theorem prefix_append_cases {α : Type} {front back ws : List α} (h : ws <+: front ++ back) :
    ws <+: front ∨ ∃ ws', ws = front ++ ws' ∧ ws' <+: back := by
  have parts : ws = front.take ws.length ++ back.take (ws.length - front.length) := by
    rw [← List.take_append, ← List.prefix_iff_eq_take.1 h]
  by_cases inside : ws.length ≤ front.length
  · left
    rw [Nat.sub_eq_zero_of_le inside, List.take_zero, List.append_nil] at parts
    exact parts ▸ List.take_prefix _ _
  · right
    rw [List.take_of_length_le (by omega)] at parts
    exact ⟨_, parts, List.take_prefix _ _⟩

/-- **Of a row of pages one appears**: the one that is being written. -/
theorem appearing_pages (pages : List Page) {ws : List Write} (part : ws <+: pages.flatMap Page.writes)
    (begun : ws ≠ []) (d : Display) :
    ∃ front p rest, pages = front ++ p :: rest ∧ front.flatMap Page.writes <+: ws ∧
      ws <+: (front ++ [p]).flatMap Page.writes ∧ Appearing p (rows (receiveAll other ws d)) := by
  induction pages generalizing ws d with
  | nil => exact absurd (List.prefix_nil.1 part) begun
  | cons p pages ih =>
    rw [List.flatMap_cons] at part
    have whole : [p].flatMap Page.writes = p.writes := List.append_nil _
    rcases prefix_append_cases part with inside | ⟨later, rfl, part'⟩
    · refine ⟨[], p, pages, rfl, List.nil_prefix, ?_, ?_⟩
      · rw [List.nil_append, whole]
        exact inside
      · rw [List.prefix_iff_eq_take.1 inside]
        exact appearing_take other p d (List.length_pos_iff.2 begun)
    · by_cases last : later = []
      · subst last
        refine ⟨[], p, pages, rfl, List.nil_prefix, ?_, ?_⟩
        · rw [List.nil_append, whole, List.append_nil]
        · rw [List.append_nil, rows_writes]
          exact appearing_rows p
      · obtain ⟨front, p', rest, split, before, within, appears⟩ :=
          ih part' last (receiveAll other p.writes d)
        refine ⟨p :: front, p', rest, ?_, ?_, ?_, ?_⟩
        · rw [split]
          rfl
        · rw [List.flatMap_cons]
          exact (List.prefix_append_right_inj _).2 before
        · rw [List.cons_append, List.flatMap_cons]
          exact (List.prefix_append_right_inj _).2 within
        · rw [receiveAll_append]
          exact appears

end Display

/-! ## The thread -/

/-- The writes to the display that initialise it. -/
def initWrites : List Write :=
  List.replicate 3 ⟨0x80, 0x28⟩ ++ [⟨0x80, 0x0c⟩] ++ rgbLcd1602Clear

/-- The structure behind `boot`, and the writes up to its page. -/
def bootedLcd : RgbLcd := lcdFields zeroLcd 0x2d

def bootWrites : List BusWrite :=
  (rgbLcd1602Init zeroLcd true 0x2d).2.2 ++ (rgbLcd1602SetRgb bootedLcd 255 0 255 fun _ => 0).2

theorem toDisplay_bootWrites : toDisplay lcdAddress bootWrites = initWrites := by
  decide

/-- The colour that `boot` leaves. -/
theorem backlight_boot (registers : UInt8 → UInt8) (writes : List Write) :
    let registers := backlight 0x2d registers (bootWrites ++ toLcd bootedLcd writes)
    (registers bootedLcd.regRed, registers bootedLcd.regGreen, registers bootedLcd.regBlue) = (255, 0, 255) := by
  have apart : bootedLcd.lcdAddr ≠ 0x2d := by decide
  simp only [backlight_writes, List.filterMap_append, storedIn_toLcd apart, List.append_nil]
  rfl

theorem screenThreadEntry_eq {readings : Nat → Readings} {n : Nat} {bus : List BusWrite}
    (runs : screenThreadEntry true readings n = some bus) :
    ∃ pages, cyclePages readings n = some pages ∧
      bus = bootWrites ++ toLcd bootedLcd ((loadingPage :: pages).flatMap Page.writes) := by
  have entry : screenThreadEntry true readings n = (cyclePages readings n).map fun pages =>
      (bootWrites ++ toLcd bootedLcd loadingPage.writes) ++ pages.flatMap fun p => toLcd bootedLcd p.writes := rfl
  rw [entry] at runs
  obtain ⟨pages, shown, rfl⟩ := Option.map_eq_some_iff.1 runs
  refine ⟨pages, shown, ?_⟩
  simp only [toLcd, List.flatMap_cons, List.map_append, List.map_flatMap, List.append_assoc]

/-- **The screen thread shows one page at a time.** Whatever the display and the backlight held and
whatever the screens read, in every run without undefined behaviour (the date screen's overflow,
or a write to the null device where the bus was not ready): at every point of `boot` and of any
number of screens, either the display is still being initialised, or the rows show a part of the
page that is being written, the second line only behind the whole first one and nothing of any
other page; and the backlight has the colour of `boot`. -/
theorem screen_thread_shows_one_page {ready : Bool} {readings : Nat → Readings} {n : Nat}
    {bus : List BusWrite} (runs : screenThreadEntry ready readings n = some bus) (other : Write → Display → Display) (d : Display)
    (registers : UInt8 → UInt8) :
    ∃ pages, cyclePages readings n = some pages ∧ ∀ sent, sent <+: bus →
      toDisplay lcdAddress sent <+: initWrites ∨
        ∃ front p rest, loadingPage :: pages = front ++ p :: rest ∧
          initWrites ++ front.flatMap Page.writes <+: toDisplay lcdAddress sent ∧
          toDisplay lcdAddress sent <+: initWrites ++ (front ++ [p]).flatMap Page.writes ∧
          Appearing p (rows (receiveAll other (toDisplay lcdAddress sent) d)) ∧
          (backlight 0x2d registers sent 0x01, backlight 0x2d registers sent 0x02,
            backlight 0x2d registers sent 0x03) = (255, 0, 255) := by
  cases ready with
  | false =>
    cases n with
    | zero =>
      obtain rfl := Option.some.inj runs
      refine ⟨[], rfl, ?_⟩
      intro sent part
      rw [List.prefix_nil.1 part]
      exact .inl List.nil_prefix
    | succ n => cases runs
  | true => ?_
  obtain ⟨pages, shown, rfl⟩ := screenThreadEntry_eq runs
  refine ⟨pages, shown, ?_⟩
  intro sent part
  rcases prefix_append_cases part with booting | ⟨later, rfl, part'⟩
  · left
    obtain ⟨missing, split⟩ := booting
    refine ⟨toDisplay lcdAddress missing, ?_⟩
    rw [← toDisplay_append, split, toDisplay_bootWrites]
  · obtain ⟨ws, within, rfl⟩ : ∃ ws, ws <+: (loadingPage :: pages).flatMap Page.writes ∧ later = toLcd bootedLcd ws :=
      ⟨_, List.take_prefix later.length _, by rw [toLcd, List.map_take]; exact List.prefix_iff_eq_take.1 part'⟩
    have display : toDisplay lcdAddress (bootWrites ++ toLcd bootedLcd ws) = initWrites ++ ws := by
      rw [toDisplay_append, toDisplay_bootWrites]
      exact congrArg _ (toDisplay_toLcd bootedLcd ws)
    rw [display]
    by_cases begun : ws = []
    · left
      rw [begun, List.append_nil]
    · right
      obtain ⟨front, p, rest, split, before, inside, appears⟩ :=
        appearing_pages other _ within begun (receiveAll other initWrites d)
      refine ⟨front, p, rest, split, ?_, ?_, ?_, backlight_boot registers ws⟩
      · exact (List.prefix_append_right_inj _).2 before
      · exact (List.prefix_append_right_inj _).2 inside
      · rw [receiveAll_append]
        exact appears

/-- Nothing measured and nothing received. -/
def nothingYet : Readings := ⟨initial, temHum, none⟩

/-- Two passes of the loop. -/
theorem screen_thread_shows_one_page_nothing :
    ∃ bus pages, screenThreadEntry true (fun _ => nothingYet) 14 = some bus ∧
      cyclePages (fun _ => nothingYet) 14 = some pages ∧ ∀ sent, sent <+: bus →
        toDisplay lcdAddress sent <+: initWrites ∨
          ∃ front p rest, loadingPage :: pages = front ++ p :: rest ∧
            initWrites ++ front.flatMap Page.writes <+: toDisplay lcdAddress sent ∧
            toDisplay lcdAddress sent <+: initWrites ++ (front ++ [p]).flatMap Page.writes ∧
            Appearing p (rows (receiveAll (fun _ d => d) (toDisplay lcdAddress sent) cleared)) ∧
            (backlight 0x2d (fun _ => 0) sent 0x01, backlight 0x2d (fun _ => 0) sent 0x02,
              backlight 0x2d (fun _ => 0) sent 0x03) = (255, 0, 255) := by
  have runs : (screenThreadEntry true (fun _ => nothingYet) 14).isSome = true := rfl
  obtain ⟨bus, runs⟩ := Option.isSome_iff_exists.1 runs
  obtain ⟨pages, shown, safe⟩ := screen_thread_shows_one_page runs (fun _ d => d) cleared fun _ => 0
  exact ⟨bus, pages, runs, shown, safe⟩

end SmartClock.Screen
