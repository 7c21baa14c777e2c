import SmartClock.Proxy.Python

/-!
# The proxy's `/info`

The handler of `proxi.py`. What it asks of the outside (the request, the three services, the
clock) is a parameter. `info_ok` says what a 200 answer is: the encoding of a dictionary with
twelve fixed keys.
-/

namespace SmartClock.Proxy

open Text Json

/-- What `info` reads of the request, the services and the clock. -/
structure InfoWorld where
  /-- `request.headers.get("X-Forwarded-For")` -/
  forwardedFor : Option Str
  /-- `request.remote_addr` -/
  remoteAddr : Option Str
  /-- `ipaddress.ip_address(ip).is_private` -/
  isPrivate : Str → Except Str Bool
  /-- The JSON answer of `api.ipify.org`. -/
  ipify : Except Str Value
  /-- The JSON answer of `IPGEOLOCATION_API` for an address. -/
  ipGeolocation : Value → Except Str Value
  /-- The JSON answer of `OPENWEATHER_API` for a latitude and a longitude. -/
  openWeather : Value → Value → Except Str Value
  /-- `int(time.time())` -/
  time : Nat
  /-- `time.strftime` of `%A`, `%d`, `%B` and `%H:%M:%S` -/
  weekday : Str
  day : Str
  monthName : Str
  currentClock : Str

def ofOption : Option Str → Value
  | none => .null
  | some s => .str s

/-- `get_client_ip` -/
def getClientIp (w : InfoWorld) : Option Str :=
  match w.forwardedFor with
  | some forwarded =>
    if forwarded.isEmpty then w.remoteAddr
    else some (strip (forwarded.takeWhile (· != 44)))
  | none => w.remoteAddr

/-- `is_private_ip` -/
def isPrivateIp (w : InfoWorld) (ip : Str) : Bool :=
  match w.isPrivate ip with
  | .ok answer => answer
  | .error _ => false

/-- `get_public_ip` -/
def getPublicIp (w : InfoWorld) : Value :=
  match w.ipify.bind fun answer => get answer (str "ip") with
  | .ok ip => ip
  | .error _ => .null

/-- `get_location_data` -/
def getLocationData (w : InfoWorld) (ip : Option Str) : Except Str Value :=
  match ip with
  | none => w.ipGeolocation (getPublicIp w)
  | some ip =>
    if ip.isEmpty || ip == str "127.0.0.1" || ip == str "::1" || isPrivateIp w ip then
      w.ipGeolocation (getPublicIp w)
    else w.ipGeolocation (.str ip)

/-- The dictionary `data` of `info`. -/
structure InfoDict where
  unixEpoch : Value
  weekday : Value
  day : Value
  month : Value
  time : Value
  ip : Value
  city : Value
  country : Value
  latitude : Value
  longitude : Value
  weather : Value
  temperatureCelsius : Value

/-- The keys of `data`, in its order. -/
def infoKeys : List Str :=
  [str "unix_epoch", str "weekday", str "day", str "month", str "time", str "ip", str "city",
    str "country", str "latitude", str "longitude", str "weather", str "temperature_celsius"]

namespace InfoDict

def values (d : InfoDict) : List Value :=
  [d.unixEpoch, d.weekday, d.day, d.month, d.time, d.ip, d.city, d.country, d.latitude, d.longitude,
    d.weather, d.temperatureCelsius]

def members (d : InfoDict) : List (Str × Value) := infoKeys.zip d.values

def toValue (d : InfoDict) : Value := .obj d.members

/-- Every member is a string, a number, a boolean or null. -/
def Flat (d : InfoDict) : Prop := ∀ v ∈ d.values, v.isScalar = true

end InfoDict

/-- The body of the `try` of `info`. -/
def tryInfo (w : InfoWorld) : Except Str Response := do
  let clientIp := getClientIp w
  let geoData ← getLocationData w clientIp
  let lat ← get geoData (str "latitude")
  let lon ← get geoData (str "longitude")
  let city ← get geoData (str "city")
  let country ← get geoData (str "country_name")
  if !truthy lat || !truthy lon then
    return respondError (str "Could not determine location") 400
  let weatherData ← w.openWeather lat lon
  if !(← contains weatherData (str "weather")) then
    return respondError (str "Weather API failed") 500
  let weather ← subscript (← first (← subscript weatherData (str "weather"))) (str "main")
  let temperature ← subscript (← subscript weatherData (str "main")) (str "temp")
  let data : InfoDict :=
    { unixEpoch := .num (.ofNat w.time), weekday := .str w.weekday, day := .str w.day
      month := .str w.monthName, time := .str w.currentClock, ip := ofOption clientIp, city, country
      latitude := lat, longitude := lon, weather, temperatureCelsius := temperature }
  return respond data.toValue 200

/-- `info` -/
def info (w : InfoWorld) : Response :=
  match tryInfo w with
  | .ok answer => answer
  | .error text => respondError text 500

/-- **A 200 answer of `info`** is the encoding of a dictionary `data`, with the epoch, the
client's address and a location in it. -/
theorem info_ok {w : InfoWorld} (ok : (info w).status = 200) :
    ∃ d : InfoDict, (info w).body = encoded d.toValue ∧ d.unixEpoch = .num (.ofNat w.time) ∧
      d.ip = ofOption (getClientIp w) ∧ truthy d.latitude = true ∧ truthy d.longitude = true := by
  unfold info at ok ⊢
  cases run : tryInfo w with
  | error text => rw [run] at ok; cases ok
  | ok answer =>
    rw [run] at ok
    obtain ⟨geoData, -, run⟩ := bind_ok run
    obtain ⟨lat, -, run⟩ := bind_ok run
    obtain ⟨lon, -, run⟩ := bind_ok run
    obtain ⟨city, -, run⟩ := bind_ok run
    obtain ⟨country, -, run⟩ := bind_ok run
    dsimp only at run
    split at run
    · cases run; cases ok
    · rename_i located
      obtain ⟨weatherData, -, run⟩ := bind_ok run
      obtain ⟨reported, -, run⟩ := bind_ok run
      split at run
      · cases run; cases ok
      · obtain ⟨reports, -, run⟩ := bind_ok run
        obtain ⟨report, -, run⟩ := bind_ok run
        obtain ⟨weather, -, run⟩ := bind_ok run
        obtain ⟨main, -, run⟩ := bind_ok run
        obtain ⟨temperature, -, run⟩ := bind_ok run
        cases run
        refine ⟨_, rfl, rfl, rfl, ?_⟩
        simpa using located

end SmartClock.Proxy
