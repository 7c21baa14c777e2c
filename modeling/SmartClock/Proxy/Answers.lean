import SmartClock.Proxy.Info

/-!
# Every answer of `/info`

Two kinds of answer leave the handler, whatever the services do: a 200 with the dictionary
`data`, or an error with a text. If the services report plain values where `info` copies
them, every member of the dictionary is one.
-/

namespace SmartClock.Proxy

open Json

/-- The members of the location that `info` reads. -/
def locationKeys : List Str := [str "latitude", str "longitude", str "city", str "country_name"]

/-- `weather_data["weather"][0]["main"]` -/
def weatherMain (weatherData : Value) : Except Str Value := do
  subscript (← first (← subscript weatherData (str "weather"))) (str "main")

/-- `weather_data["main"]["temp"]` -/
def mainTemp (weatherData : Value) : Except Str Value := do
  subscript (← subscript weatherData (str "main")) (str "temp")

/-- The services report strings, numbers, booleans or null where `info` copies them. -/
structure PlainServices (w : InfoWorld) : Prop where
  location : ∀ {ip geoData key v}, w.ipGeolocation ip = .ok geoData → key ∈ locationKeys →
    get geoData key = .ok v → v.isScalar = true
  weather : ∀ {lat lon weatherData v}, w.openWeather lat lon = .ok weatherData →
    weatherMain weatherData = .ok v → v.isScalar = true
  temperature : ∀ {lat lon weatherData v}, w.openWeather lat lon = .ok weatherData →
    mainTemp weatherData = .ok v → v.isScalar = true

theorem bind_of_ok {α β : Type} {x : Except Str α} {a : α} (h : x = .ok a) (f : α → Except Str β) :
    x >>= f = f a := by
  rw [h]
  rfl

/-- The location comes from the service, for one address or another. -/
theorem getLocationData_service (w : InfoWorld) (ip : Option Str) :
    ∃ v, getLocationData w ip = w.ipGeolocation v := by
  cases ip with
  | none => exact ⟨_, rfl⟩
  | some ip =>
    rw [getLocationData]
    split
    · exact ⟨_, rfl⟩
    · exact ⟨_, rfl⟩

theorem isScalar_ofOption (s : Option Str) : (ofOption s).isScalar = true := by
  cases s <;> rfl

/-- **The two kinds of answer.** -/
theorem info_answers {w : InfoWorld} (services : PlainServices w) :
    (∃ d : InfoDict, d.Flat ∧ d.unixEpoch = .num (.ofNat w.time) ∧ info w = respond d.toValue 200) ∨
      ∃ text status, status ≠ 200 ∧ info w = respondError text status := by
  unfold info
  cases run : tryInfo w with
  | error text => exact .inr ⟨text, 500, by decide, rfl⟩
  | ok answer =>
    obtain ⟨geoData, located, run⟩ := bind_ok run
    obtain ⟨lat, isLat, run⟩ := bind_ok run
    obtain ⟨lon, isLon, run⟩ := bind_ok run
    obtain ⟨city, isCity, run⟩ := bind_ok run
    obtain ⟨country, isCountry, run⟩ := bind_ok run
    obtain ⟨v, service⟩ := getLocationData_service w (getClientIp w)
    rw [service] at located
    dsimp only at run
    split at run
    · cases run
      exact .inr ⟨_, 400, by decide, rfl⟩
    · obtain ⟨weatherData, reported, run⟩ := bind_ok run
      obtain ⟨hasWeather, -, run⟩ := bind_ok run
      split at run
      · cases run
        exact .inr ⟨_, 500, by decide, rfl⟩
      · obtain ⟨reports, isReports, run⟩ := bind_ok run
        obtain ⟨report, isReport, run⟩ := bind_ok run
        obtain ⟨weather, isWeather, run⟩ := bind_ok run
        obtain ⟨main, isMain, run⟩ := bind_ok run
        obtain ⟨temperature, isTemperature, run⟩ := bind_ok run
        cases run
        refine .inl ⟨_, ?_, rfl, rfl⟩
        have weatherScalar : weather.isScalar = true := by
          apply services.weather reported
          rw [weatherMain, bind_of_ok isReports, bind_of_ok isReport, isWeather]
        have temperatureScalar : temperature.isScalar = true := by
          apply services.temperature reported
          rw [mainTemp, bind_of_ok isMain, isTemperature]
        intro v member
        simp only [InfoDict.values, List.mem_cons, List.not_mem_nil, or_false] at member
        rcases member with rfl | rfl | rfl | rfl | rfl | rfl | rfl | rfl | rfl | rfl | rfl | rfl
        · rfl
        · rfl
        · rfl
        · rfl
        · rfl
        · exact isScalar_ofOption _
        · exact services.location located (by decide) isCity
        · exact services.location located (by decide) isCountry
        · exact services.location located (by decide) isLat
        · exact services.location located (by decide) isLon
        · exact weatherScalar
        · exact temperatureScalar

end SmartClock.Proxy
