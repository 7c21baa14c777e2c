import SmartClock.Text.CharArray

/-!
# `network_config.h`: the shared data

The sizes and the two records of the header. `InfoField` names the seven text members of
`info_data_t` with the keys `parse_info` looks for, in the order of its table.
-/

namespace SmartClock.Net

open Text

def infoStrLen : Nat := 32
def newsMax : Nat := 10
def newsTitleLen : Nat := 80

abbrev InfoStr := CharArray infoStrLen
abbrev NewsTitle := CharArray newsTitleLen

/-- `info_data_t` -/
structure InfoData where
  city : InfoStr
  country : InfoStr
  weather : InfoStr
  temperature : InfoStr
  latitude : InfoStr
  longitude : InfoStr
  unixEpoch : InfoStr
  ready : Bool
deriving DecidableEq

/-- `news_data_t` -/
structure NewsData where
  titles : Vector NewsTitle newsMax
  count : Nat
  ready : Bool
deriving DecidableEq

/-- `info_data_t g_info = {0}` -/
def gInfo : InfoData :=
  let zero := Vector.replicate infoStrLen 0
  ⟨zero, zero, zero, zero, zero, zero, zero, false⟩

/-- `news_data_t g_news = {0}` -/
def gNews : NewsData := ⟨Vector.replicate newsMax (Vector.replicate newsTitleLen 0), 0, false⟩

/-- The text members of `info_data_t`. -/
inductive InfoField where
  | city
  | country
  | weather
  | temperature
  | latitude
  | longitude
  | unixEpoch
deriving DecidableEq

namespace InfoField

/-- The key of a field in the response. -/
def name : InfoField → List UInt8
  | city => ascii "city"
  | country => ascii "country"
  | weather => ascii "weather"
  | temperature => ascii "temperature_celsius"
  | latitude => ascii "latitude"
  | longitude => ascii "longitude"
  | unixEpoch => ascii "unix_epoch"

def get : InfoField → InfoData → InfoStr
  | city, g => g.city
  | country, g => g.country
  | weather, g => g.weather
  | temperature, g => g.temperature
  | latitude, g => g.latitude
  | longitude, g => g.longitude
  | unixEpoch, g => g.unixEpoch

def set : InfoField → InfoStr → InfoData → InfoData
  | city, v, g => { g with city := v }
  | country, v, g => { g with country := v }
  | weather, v, g => { g with weather := v }
  | temperature, v, g => { g with temperature := v }
  | latitude, v, g => { g with latitude := v }
  | longitude, v, g => { g with longitude := v }
  | unixEpoch, v, g => { g with unixEpoch := v }

@[simp] theorem get_set_self (f : InfoField) (v : InfoStr) (g : InfoData) : f.get (f.set v g) = v := by
  cases f <;> rfl

theorem get_set_other {f f' : InfoField} (other : f ≠ f') (v : InfoStr) (g : InfoData) :
    f'.get (f.set v g) = f'.get g := by
  cases f <;> cases f' <;> first | rfl | exact absurd rfl other

@[simp] theorem ready_set (f : InfoField) (v : InfoStr) (g : InfoData) : (f.set v g).ready = g.ready := by
  cases f <;> rfl

end InfoField

/-- The record is its seven fields and its flag. -/
theorem InfoData.ext_get {g h : InfoData} (fields : ∀ f : InfoField, f.get g = f.get h)
    (ready : g.ready = h.ready) : g = h := by
  obtain ⟨city, country, weather, temperature, latitude, longitude, unixEpoch, _⟩ := g
  obtain ⟨city', country', weather', temperature', latitude', longitude', unixEpoch', _⟩ := h
  obtain rfl : city = city' := fields .city
  obtain rfl : country = country' := fields .country
  obtain rfl : weather = weather' := fields .weather
  obtain rfl : temperature = temperature' := fields .temperature
  obtain rfl : latitude = latitude' := fields .latitude
  obtain rfl : longitude = longitude' := fields .longitude
  obtain rfl : unixEpoch = unixEpoch' := fields .unixEpoch
  obtain rfl := ready
  rfl

end SmartClock.Net
