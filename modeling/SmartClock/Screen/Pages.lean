import SmartClock.Screen.DateScreen
import SmartClock.Screen.LcdShow

/-!
# Pages

A page is the two strings a screen hands to `lcd_show`. Whatever the display showed before, it
then shows `Page.rows` (`rows_writes`). The strings are short formatted texts (`lineStr`) or
members of a snapshot (`fieldStr`), which are strings only if there is a NUL in them.
-/

namespace SmartClock.Screen

open Text Lcd Net

/-- Sixteen cells that show the front of a text. -/
def cells (text : List UInt8) : List UInt8 := (text.take 16).rightpad 16 32

theorem length_upToZero_le (bytes : List UInt8) : (upToZero bytes).1.length ≤ bytes.length :=
  (List.takeWhile_sublist _).length_le

theorem lineStr_fits (text : List UInt8) : (upToZero (snprintf 17 text)).1.length + 1 ≤ 2147483647 := by
  have short := length_upToZero_le (snprintf 17 text)
  have cut : (snprintf 17 text).length ≤ 16 := List.length_take_le 16 text
  omega

/-- The string that `snprintf` leaves in a `char[17]`. A literal of at most sixteen bytes is
one, too. -/
def lineStr (text : List UInt8) : ObjectStr := ⟨upToZero (snprintf 17 text), lineStr_fits text⟩

theorem padded_lineStr {text : List UInt8} (clean : 0 ∉ text) : padded (lineStr text) = cells text := by
  have clean' : 0 ∉ snprintf 17 text := fun inside => clean (List.mem_of_mem_take inside)
  rw [padded, lineStr, upToZero_of_no_zero clean', snprintf, List.take_take]
  rfl

theorem fieldStr_fits (a : InfoStr) : (upToZero a.toList).1.length + 1 ≤ 2147483647 := by
  have short := length_upToZero_le a.toList
  have size : a.toList.length = infoStrLen := a.length_toList
  have value : infoStrLen = 32 := rfl
  omega

/-- A text member as a string. Without a NUL `strlen` reads past its end. -/
def fieldStr (a : InfoStr) : Option ObjectStr :=
  if 0 ∈ a.toList then some ⟨upToZero a.toList, fieldStr_fits a⟩ else none

theorem zero_mem_of_ended {a : InfoStr} (ended : ∃ i, a.get i = 0) : 0 ∈ a.toList := by
  obtain ⟨i, nul⟩ := ended
  rw [← nul]
  exact Vector.mem_toList_iff.2 (Vector.getElem_mem i.isLt)

theorem fieldStr_ended {a : InfoStr} (ended : ∃ i, a.get i = 0) :
    ∃ text, fieldStr a = some text ∧ padded text = cells a.text :=
  ⟨_, if_pos (zero_mem_of_ended ended), rfl⟩

/-- `%.ns` of a text member, for an `n` below its size. -/
def precision (n : Nat) (a : InfoStr) : List UInt8 := (a.toList.take n).takeWhile (· != 0)

theorem precision_eq (n : Nat) (a : InfoStr) : precision n a = a.text.take n := by
  rw [precision, CharArray.text, List.take_takeWhile]

theorem zero_not_mem_text (a : InfoStr) : 0 ∉ a.text := zero_not_mem_takeWhile a.toList

/-- What a screen hands to `lcd_show`. -/
structure Page where
  line1 : ObjectStr
  line2 : ObjectStr

def Page.writes (p : Page) : List Write := lcdShow (some p.line1) (some p.line2)

/-- The two rows that show a page. -/
def Page.rows (p : Page) : List UInt8 × List UInt8 := (padded p.line1, padded p.line2)

/-- The strings of two formatted lines. -/
def Lines.page (l : Lines) : Page := ⟨lineStr l.line1, lineStr l.line2⟩

/-- The two rows of a display. -/
def rows (d : Display) : List UInt8 × List UInt8 := (row d.ram 0x00, row d.ram 0x40)

/-- **A page is what the display shows**, whatever it showed before. -/
theorem rows_writes (other : Write → Display → Display) (p : Page) (d : Display) :
    rows (receiveAll other p.writes d) = p.rows := by
  have short (text : ObjectStr) : (text.str.1.take 16).length ≤ 16 := List.length_take_le 16 _
  have first := @row_stored_of_far (stored (fun _ => 32) 0x00 (p.line1.str.1.take 16)) 0x40 0x00 _ (short p.line2)
    (by decide)
  have second := @row_stored_stored_of_far (fun _ => 32) 0x00 0x40 _ (short p.line1) (by decide)
    (p.line2.str.1.take 16)
  rw [rows, Page.writes, ram_lcdShow, first, second, row_stored _ (short p.line1), row_stored _ (short p.line2)]
  rfl

theorem rows_lines {l : Lines} (clean : 0 ∉ l.line1 ∧ 0 ∉ l.line2) : l.page.rows = (cells l.line1, cells l.line2) := by
  rw [Page.rows, Lines.page, padded_lineStr clean.1, padded_lineStr clean.2]

end SmartClock.Screen
