import SmartClock.Run.Machine

/-!
# `alarm.c`: the clock, the alarm and its buttons

The static variables of `alarm.c` as one record, and its functions as state
transformers. `tick` is the body of `alarm_thread_entry`'s endless loop; the console
output, the one-second sleep and the speaker thread (which only reads `alarm_active`)
are left out. C's `int` is `Int`: no counter of this file leaves the range of a 32-bit
`int`, as the invariants of `SmartClock.Alarm.Phase` and `SmartClock.Alarm.Clock` show.
-/

namespace SmartClock.Alarm

/-- 20 for testing; the source asks for 600 before final delivery. -/
def alarmAutoMuteSeconds : Int := 20
def snoozeSeconds : Int := 300

def defaultAlarmHour : Int := 0
def defaultAlarmMinute : Int := 0
def defaultAlarmSecond : Int := 3

/-- The static variables of `alarm.c`. `gpioa` and `gpiob` say whether the device
pointers are set. -/
structure AlarmState where
  currentHour : Int
  currentMinute : Int
  currentSecond : Int
  alarmHour : Int
  alarmMinute : Int
  alarmSecond : Int
  alarmEnabled : Bool
  alarmActive : Bool
  alarmSnoozed : Bool
  activeSeconds : Int
  snoozeSecondsLeft : Int
  gpioa : Bool
  gpiob : Bool
  lastSnooze : Int
  lastMute : Int
  lastEnable : Int
deriving DecidableEq, Repr

/-- The initial values of the static variables. -/
def initial : AlarmState where
  currentHour := 0
  currentMinute := 0
  currentSecond := 0
  alarmHour := defaultAlarmHour
  alarmMinute := defaultAlarmMinute
  alarmSecond := defaultAlarmSecond
  alarmEnabled := true
  alarmActive := false
  alarmSnoozed := false
  activeSeconds := 0
  snoozeSecondsLeft := 0
  gpioa := false
  gpiob := false
  lastSnooze := 1
  lastMute := 1
  lastEnable := 1

/-- `update_clock`: the three carries, each test reading what the line before it left. -/
def updateClock (s : AlarmState) : AlarmState :=
  let s := { s with currentSecond := s.currentSecond + 1 }
  let s := if s.currentSecond ≥ 60 then
    { s with currentSecond := 0, currentMinute := s.currentMinute + 1 } else s
  let s := if s.currentMinute ≥ 60 then
    { s with currentMinute := 0, currentHour := s.currentHour + 1 } else s
  if s.currentHour ≥ 24 then { s with currentHour := 0 } else s

/-- The comparison in `check_alarm_time`. -/
def AlarmState.atAlarmTime (s : AlarmState) : Bool :=
  s.currentHour == s.alarmHour && s.currentMinute == s.alarmMinute &&
    s.currentSecond == s.alarmSecond

def checkAlarmTime (s : AlarmState) : AlarmState :=
  if !s.alarmEnabled || s.alarmActive || s.alarmSnoozed then s
  else if s.atAlarmTime then { s with alarmActive := true, activeSeconds := 0 }
  else s

def updateSnooze (s : AlarmState) : AlarmState :=
  if !s.alarmSnoozed then s
  else
    let s := { s with snoozeSecondsLeft := s.snoozeSecondsLeft - 1 }
    if s.snoozeSecondsLeft ≤ 0 then
      { s with alarmSnoozed := false, alarmActive := true, activeSeconds := 0 }
    else s

def updateAutoMute (s : AlarmState) : AlarmState :=
  if !s.alarmActive then s
  else
    let s := { s with activeSeconds := s.activeSeconds + 1 }
    if s.activeSeconds ≥ alarmAutoMuteSeconds then
      { s with alarmActive := false, activeSeconds := 0 }
    else s

def alarmSnooze (s : AlarmState) : AlarmState :=
  if s.alarmActive then
    { s with alarmActive := false, alarmSnoozed := true, snoozeSecondsLeft := snoozeSeconds,
             activeSeconds := 0 }
  else s

def alarmMute (s : AlarmState) : AlarmState :=
  if s.alarmActive || s.alarmSnoozed then
    { s with alarmActive := false, alarmSnoozed := false, activeSeconds := 0,
             snoozeSecondsLeft := 0 }
  else s

def alarmToggleEnabled (s : AlarmState) : AlarmState :=
  let s := { s with alarmEnabled := !s.alarmEnabled }
  if !s.alarmEnabled then
    { s with alarmActive := false, alarmSnoozed := false, activeSeconds := 0,
             snoozeSecondsLeft := 0 }
  else s

/-- What `gpio_pin_get` returns for the three button pins in one round: the level 0 or
1, or a negative error code. -/
structure Samples where
  snooze : Int
  mute : Int
  enable : Int
deriving DecidableEq, Repr

/-- `alarm_gpio_init` stores both device pointers before it looks whether the devices are ready. -/
def alarmGpioInit (s : AlarmState) : AlarmState := { s with gpioa := true, gpiob := true }

/-- A button's handler runs on a sampled 0 after a stored 1. -/
def onPress (now last : Int) (handler : AlarmState → AlarmState) (s : AlarmState) : AlarmState :=
  if now = 0 ∧ last = 1 then handler s else s

def alarmCheckButtons (b : Samples) (s : AlarmState) : AlarmState :=
  if !s.gpioa || !s.gpiob then s
  else
    let s := onPress b.snooze s.lastSnooze alarmSnooze s
    let s := onPress b.mute s.lastMute alarmMute s
    let s := onPress b.enable s.lastEnable alarmToggleEnabled s
    { s with lastSnooze := b.snooze, lastMute := b.mute, lastEnable := b.enable }

/-- One round of `alarm_thread_entry`'s loop. -/
def tick (b : Samples) (s : AlarmState) : AlarmState :=
  updateAutoMute (updateSnooze (checkAlarmTime (alarmCheckButtons b (updateClock s))))

/-- The alarm thread after `n` rounds. Round `n` samples `buttons n`. -/
def alarmThread (buttons : Nat → Samples) (n : Nat) : AlarmState :=
  Run.stateAt tick (alarmGpioInit initial) buttons n

end SmartClock.Alarm
