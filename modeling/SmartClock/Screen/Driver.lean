import SmartClock.Run.Machine
import SmartClock.Screen.Pages

/-!
# `rgb_lcd.c` and `boot`

The driver on its bus: the character display has one address and the chip of its backlight
another one. What the display receives is what is written to its own address (`toDisplay`), and
a register of the backlight holds the last byte written to it (`backlight_writes`).
-/

namespace SmartClock.Screen

open Text Lcd

/-- `i2c_write(dev, buf, 2, addr)` -/
structure BusWrite where
  addr : UInt8
  write : Write
deriving DecidableEq

/-- `rgb_lcd_1602_t` without its device -/
structure RgbLcd where
  cols : UInt8
  rows : UInt8
  lcdAddr : UInt8
  rgbAddr : UInt8
  regRed : UInt8
  regGreen : UInt8
  regBlue : UInt8
  control : UInt8
deriving DecidableEq

/-- `static rgb_lcd_1602_t lcd` -/
def zeroLcd : RgbLcd := ⟨0, 0, 0, 0, 0, 0, 0, 0⟩

def lcdAddress : UInt8 := (0x7c : UInt8) >>> 1

def enodev : Int := 19

/-- `lcd_function_set` -/
def lcdFunctionSet (lcd : RgbLcd) : BusWrite := ⟨lcd.lcdAddr, lcdCommand, 0x20 ||| 0x00 ||| 0x08 ||| 0x00⟩

/-- `lcd_display_control` -/
def lcdDisplayControl (lcd : RgbLcd) : BusWrite := ⟨lcd.lcdAddr, lcdCommand, 0x08 ||| lcd.control⟩

/-- `rgb_reg_write` -/
def rgbRegWrite (lcd : RgbLcd) (reg data : UInt8) : BusWrite := ⟨lcd.rgbAddr, reg, data⟩

/-- `rgb_init` -/
def rgbInit (lcd : RgbLcd) : List BusWrite :=
  if lcd.rgbAddr = (0xc0 : UInt8) >>> 1 then
    [rgbRegWrite lcd 0x00 0, rgbRegWrite lcd 0x08 0xff, rgbRegWrite lcd 0x01 0x20]
  else if lcd.rgbAddr = (0x60 : UInt8) >>> 1 then
    [rgbRegWrite lcd 0x01 0x00, rgbRegWrite lcd 0x02 0xff, rgbRegWrite lcd 0x04 0x15]
  else if lcd.rgbAddr = 0x6b then
    [rgbRegWrite lcd 0x2f 0x00, rgbRegWrite lcd 0x00 0x20, rgbRegWrite lcd 0x01 0x00,
      rgbRegWrite lcd 0x02 0x01, rgbRegWrite lcd 0x03 4]
  else []

/-- The driver's other calls as they go to the display. -/
def toLcd (lcd : RgbLcd) (writes : List Write) : List BusWrite := writes.map (BusWrite.mk lcd.lcdAddr)

/-- What `rgb_lcd_1602_init` makes of its structure. -/
def lcdFields (lcd : RgbLcd) (rgbAddr : UInt8) : RgbLcd :=
  let lcd := { lcd with cols := 16, rows := 2, control := 0x04 ||| 0x00 ||| 0x00,
                        lcdAddr := lcdAddress, rgbAddr := rgbAddr }
  if rgbAddr = 0x60 then { lcd with regRed := 0x04, regGreen := 0x03, regBlue := 0x02 }
  else if rgbAddr = (0x60 : UInt8) >>> 1 then { lcd with regRed := 0x06, regGreen := 0x07, regBlue := 0x08 }
  else if rgbAddr = 0x6b then { lcd with regRed := 0x06, regGreen := 0x05, regBlue := 0x04 }
  else if rgbAddr = 0x2d then { lcd with regRed := 0x01, regGreen := 0x02, regBlue := 0x03 }
  else lcd

/-- `rgb_lcd_1602_init` on a bus that is `ready` or not. -/
def rgbLcd1602Init (lcd : RgbLcd) (ready : Bool) (rgbAddr : UInt8) : Int × RgbLcd × List BusWrite :=
  if ready then
    let lcd := lcdFields lcd rgbAddr
    (0, lcd, List.replicate 3 (lcdFunctionSet lcd) ++ [lcdDisplayControl lcd] ++
      toLcd lcd rgbLcd1602Clear ++ rgbInit lcd)
  else (-enodev, lcd, [])

/-- `rgb_lcd_1602_set_rgb`, told what its calls of `i2c_write` return: its result, and the writes
it attempts up to the first that fails. -/
def rgbLcd1602SetRgb (lcd : RgbLcd) (r g b : UInt8) (ret : Fin 3 → Int) : Int × List BusWrite :=
  let red : BusWrite := ⟨lcd.rgbAddr, lcd.regRed, r⟩
  let green : BusWrite := ⟨lcd.rgbAddr, lcd.regGreen, g⟩
  let blue : BusWrite := ⟨lcd.rgbAddr, lcd.regBlue, b⟩
  if ret 0 ≠ 0 then (ret 0, [red])
  else if ret 1 ≠ 0 then (ret 1, [red, green])
  else (ret 2, [red, green, blue])

/-- A string literal of at most sixteen bytes -/
def literal (s : String) : ObjectStr := lineStr (ascii s)

/-- The page of `boot` -/
def loadingPage : Page := ⟨literal "System Loading", literal "Please wait..."⟩

/-- `boot` on a bus that is `ready` or not, and whose writes succeed: the structure, and what goes
over the bus. -/
def boot (ready : Bool) (lcd : RgbLcd) : RgbLcd × List BusWrite :=
  if ready then
    let (ret, lcd, init) := rgbLcd1602Init lcd ready 0x2d
    if ret ≠ 0 then (lcd, init)
    else (lcd, init ++ (rgbLcd1602SetRgb lcd 255 0 255 fun _ => 0).2 ++ toLcd lcd loadingPage.writes)
  else (lcd, [])

/-! ## The two chips on the bus -/

/-- What the display at an address receives. -/
def toDisplay (addr : UInt8) (bus : List BusWrite) : List Write :=
  (bus.filter fun w => w.addr == addr).map BusWrite.write

/-- A write reaches the backlight at an address. -/
def setRegister (addr : UInt8) (w : BusWrite) (registers : UInt8 → UInt8) : UInt8 → UInt8 :=
  if w.addr = addr then Function.update registers w.write.control w.write.byte else registers

/-- The registers of the backlight behind some writes. -/
def backlight (addr : UInt8) (registers : UInt8 → UInt8) (bus : List BusWrite) : UInt8 → UInt8 :=
  Run.after (setRegister addr) registers bus

/-- What a write stores in one register. -/
def storedIn (addr reg : UInt8) (w : BusWrite) : Option UInt8 :=
  if w.addr = addr ∧ w.write.control = reg then some w.write.byte else none

/-- **A register holds the last byte written to it.** -/
theorem backlight_writes (addr reg : UInt8) (registers : UInt8 → UInt8) (bus : List BusWrite) :
    backlight addr registers bus reg =
      (bus.filterMap (storedIn addr reg)).getLast?.getD (registers reg) := by
  have writes : ∀ (w : BusWrite) (registers : UInt8 → UInt8),
      setRegister addr w registers reg = (storedIn addr reg w).getD (registers reg) := by
    intro w registers
    unfold setRegister storedIn
    by_cases here : w.addr = addr
    · by_cases same : w.write.control = reg
      · rw [if_pos here, if_pos ⟨here, same⟩, same, Function.update_self]
        rfl
      · rw [if_pos here, if_neg (fun h => same h.2), Function.update_of_ne (Ne.symm same)]
        rfl
    · rw [if_neg here, if_neg (fun h => here h.1)]
      rfl
  exact @Run.after_last_write _ _ (setRegister addr) registers _ (fun registers => registers reg)
    (storedIn addr reg) writes bus

theorem toDisplay_append (addr : UInt8) (bus bus' : List BusWrite) :
    toDisplay addr (bus ++ bus') = toDisplay addr bus ++ toDisplay addr bus' := by
  rw [toDisplay, List.filter_append, List.map_append]
  rfl

theorem toDisplay_toLcd (lcd : RgbLcd) (writes : List Write) :
    toDisplay lcd.lcdAddr (toLcd lcd writes) = writes := by
  induction writes with
  | nil => rfl
  | cons w writes ih =>
    rw [toLcd, List.map_cons, toDisplay, List.filter_cons_of_pos (by simp), List.map_cons]
    exact congrArg (w :: ·) ih

/-- Writes to the display do not reach the backlight. -/
theorem storedIn_toLcd {lcd : RgbLcd} {addr : UInt8} (apart : lcd.lcdAddr ≠ addr) (reg : UInt8)
    (writes : List Write) : (toLcd lcd writes).filterMap (storedIn addr reg) = [] := by
  apply List.filterMap_eq_nil_iff.2
  intro w inside
  obtain ⟨write, -, rfl⟩ := List.mem_map.1 inside
  exact if_neg fun here => apart here.1

end SmartClock.Screen
