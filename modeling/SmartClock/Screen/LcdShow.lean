import SmartClock.Lcd.Display
import SmartClock.Text.CString

/-!
# `rgb_lcd.c` and `lcd_show`: two lines on the display

The driver functions as the two-byte writes they hand to `i2c_write`, and the two helpers
of `screen.c` that call them. Whatever stood on the display and wherever its address was,
`lcd_show` leaves the two lines in the two rows, cut to sixteen bytes and padded with
blanks (`lcdShow_rows`).
-/

namespace SmartClock.Screen

open Text Lcd

def lcdCommand : UInt8 := 0x80
def lcdData : UInt8 := 0x40
def lcdClearDisplay : UInt8 := 0x01

/-- `rgb_lcd_1602_clear` -/
def rgbLcd1602Clear : List Write := [⟨lcdCommand, lcdClearDisplay⟩]

/-- `rgb_lcd_1602_set_cursor` -/
def rgbLcd1602SetCursor (col row : UInt8) : List Write :=
  [⟨lcdCommand, if row = 0 then col ||| 0x80 else col ||| 0xc0⟩]

/-- `rgb_lcd_1602_write_char` -/
def rgbLcd1602WriteChar (data : UInt8) : List Write := [⟨lcdData, data⟩]

/-- A string in memory. With its terminator it has at most `PTRDIFF_MAX` bytes, as every
object of the 32-bit target. -/
structure ObjectStr where
  str : CStr
  fits : str.1.length + 1 ≤ 2147483647

/-- `(int)strlen(text)` -/
@[irreducible] def ObjectStr.strlen (text : ObjectStr) : Int := (text.str.1.length : Int).bmod 4294967296

/-- The loop of `lcd_write_string` from index `i` on. -/
def lcdWriteLoop (text : ObjectStr) (i : Nat) : List Write :=
  if (i : Int) < text.strlen ∧ i < 16 then
    rgbLcd1602WriteChar (text.str.1.getD i 0) ++ lcdWriteLoop text (i + 1)
  else []
termination_by 16 - i

/-- `lcd_write_string`; `none` is the null pointer. -/
def lcdWriteString : Option ObjectStr → List Write
  | none => []
  | some text => lcdWriteLoop text 0

/-- `lcd_show` -/
def lcdShow (line1 line2 : Option ObjectStr) : List Write :=
  rgbLcd1602Clear ++ rgbLcd1602SetCursor 0 0 ++ lcdWriteString line1 ++ rgbLcd1602SetCursor 0 1 ++
    lcdWriteString line2

/-- What a row should show of a line. -/
def padded (text : ObjectStr) : List UInt8 := (text.str.1.take 16).rightpad 16 32

theorem ObjectStr.strlen_eq (text : ObjectStr) : text.strlen = text.str.1.length := by
  have fits := text.fits
  unfold ObjectStr.strlen
  exact Int.bmod_eq_of_le (by omega) (by omega)

/-- The loop sends the rest of the first sixteen bytes. -/
theorem lcdWriteLoop_eq (text : ObjectStr) (i : Nat) :
    lcdWriteLoop text i = ((text.str.1.take 16).drop i).map fun b => ⟨0x40, b⟩ := by
  induction i using lcdWriteLoop.induct text with
  | case1 i more ih =>
    rw [lcdWriteLoop, if_pos more, ih]
    rw [text.strlen_eq] at more
    have inside : i < (text.str.1.take 16).length := by rw [List.length_take]; omega
    have sent : text.str.1.getD i 0 = (text.str.1.take 16)[i] := by
      rw [List.getD_eq_getElem?_getD, List.getElem?_eq_getElem (by omega), Option.getD_some, List.getElem_take]
    rw [List.drop_eq_getElem_cons inside, sent]
    rfl
  | case2 i done =>
    rw [lcdWriteLoop, if_neg done]
    rw [text.strlen_eq] at done
    have past : (text.str.1.take 16).length ≤ i := by rw [List.length_take]; omega
    rw [List.drop_eq_nil_of_le past]
    rfl

theorem lcdWriteString_eq (text : ObjectStr) :
    lcdWriteString (some text) = (text.str.1.take 16).map fun b => ⟨0x40, b⟩ :=
  lcdWriteLoop_eq text 0

section Display

variable (other : Write → Display → Display)

/-- A line behind a cursor command is one block from there on. -/
theorem receiveAll_line (text : ObjectStr) {d : Display} (up : d.increment = true) :
    receiveAll other (lcdWriteString (some text)) d =
      { d with ram := stored d.ram d.address (text.str.1.take 16),
               address := d.address + BitVec.ofNat 7 (text.str.1.take 16).length } := by
  have short : (text.str.1.take 16).length ≤ 16 := List.length_take_le 16 _
  rw [lcdWriteString_eq]
  exact receiveAll_data _ up (by omega)

/-- The memory `lcd_show` leaves: the first line from address 0 on, the second from 0x40. -/
theorem ram_lcdShow (line1 line2 : ObjectStr) (d : Display) :
    (receiveAll other (lcdShow (some line1) (some line2)) d).ram =
      stored (stored (fun _ => 32) 0x00 (line1.str.1.take 16)) 0x40 (line2.str.1.take 16) := by
  have clear : receiveAll other (rgbLcd1602Clear ++ rgbLcd1602SetCursor 0 0) d = cleared := rfl
  have second (d : Display) :
      receiveAll other (rgbLcd1602SetCursor 0 1) d = { d with address := 0x40 } := rfl
  unfold lcdShow
  rw [receiveAll_append, receiveAll_append, receiveAll_append, clear, receiveAll_line other line1 rfl,
    second, receiveAll_line other line2 rfl]
  rfl

/-- **What `lcd_show` sends is what the display shows**, for any two strings and any display
before. -/
theorem lcdShow_rows (line1 line2 : ObjectStr) (d : Display) :
    let d' := receiveAll other (lcdShow (some line1) (some line2)) d
    row d'.ram 0x00 = padded line1 ∧ row d'.ram 0x40 = padded line2 := by
  have short (text : ObjectStr) : (text.str.1.take 16).length ≤ 16 := List.length_take_le 16 _
  dsimp only
  rw [ram_lcdShow]
  constructor
  · rw [row_stored_of_far _ (short line2) (by decide), row_stored _ (short line1)]
    rfl
  · rw [row_stored_stored_of_far _ (short line1) (by decide), row_stored _ (short line2)]
    rfl

end Display

end SmartClock.Screen
