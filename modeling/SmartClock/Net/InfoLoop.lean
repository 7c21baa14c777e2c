import SmartClock.Net.Chunking
import SmartClock.Net.ErrorAnswer
import SmartClock.Proxy.Answers

/-!
# The loop of `network_config`

Every thirty seconds `http_request` runs, and the loop does not look at its result. What
survives in `g_info`: after an attempt that brings a whole 200 answer of the proxy, `g_info`
shows its seven members, and keeps them through any number of attempts that bring none,
because they fail, or stop in front of the body, or bring an error answer, whole or cut.
-/

namespace SmartClock.Net

open Text Json Proxy

/-- The loop, over what happens in its passes. -/
def networkConfig (g : InfoData) : List Attempt → Except Fault InfoData
  | [] => .ok g
  | attempt :: rest => (httpRequestInfo attempt g).bind fun (_, g') => networkConfig g' rest

theorem networkConfig_cons {attempt : Attempt} {g g' : InfoData} {ret : Int}
    (first : httpRequestInfo attempt g = .ok (ret, g')) (rest : List Attempt) :
    networkConfig g (attempt :: rest) = networkConfig g' rest := by
  rw [networkConfig, first]
  rfl

/-- The attempt brings the whole answer to `w`, in any chunks. -/
structure Brings (w : InfoWorld) (attempt : Attempt) : Prop where
  answer : ∃ (r : HttpResponse) (rounds : List Round), attempt = .sent rounds ∧
    r.body = (info w).body ∧ r.text.length ≤ Client.info.bufSize - 1 ∧ delivered rounds = r.text

/-- The attempt brings nothing: it fails, or its transfer stops in front of the body, or
anywhere in an error answer. -/
inductive Barren : Attempt → Prop where
  | failed (errno : Nat) (nonzero : errno ≠ 0) : Barren (.failed errno nonzero)
  | cut {r : HttpResponse} {rounds : List Round} (fits : r.text.length < Client.info.bufSize)
    (part : delivered rounds <+: r.text) (short : (delivered rounds).length < r.headerSize) :
    Barren (.sent rounds)
  | refused {r : HttpResponse} {rounds : List Round} (fits : r.text.length < Client.info.bufSize)
    (part : delivered rounds <+: r.text) {text : Str} {status : Nat}
    (body : r.body = (respondError text status).body) : Barren (.sent rounds)

/-- No part of an error answer has a key of the table. -/
theorem get_parseInfo_error_part (f : InfoField) (text : Str) (status q : Nat) (g : InfoData) :
    f.get (parseInfo (takeStr (respondError text status).body q) g) = f.get g := by
  have missing : f.located (respondError text status).body.1 = none := by
    have unscanned := scanned_error f text status
    rwa [scanned_eq, Option.map_eq_none_iff] at unscanned
  exact (get_parseInfo_missing missing q g).1

/-- The fields, and the flag once it is set, are as they were. -/
structure Keeps (g g' : InfoData) : Prop where
  fields : ∀ f : InfoField, f.get g' = f.get g
  ready : g.ready = true → g'.ready = true

theorem Keeps.refl (g : InfoData) : Keeps g g := ⟨fun _ => rfl, id⟩

theorem Keeps.trans {g g' g'' : InfoData} (h : Keeps g g') (h' : Keeps g' g'') : Keeps g g'' :=
  ⟨fun f => (h'.fields f).trans (h.fields f), fun ready => h'.ready (h.ready ready)⟩

theorem Barren.keeps {attempt : Attempt} (h : Barren attempt) (g : InfoData) :
    ∃ ret g', httpRequestInfo attempt g = .ok (ret, g') ∧ Keeps g g' := by
  cases h with
  | failed errno nonzero => exact ⟨_, g, rfl, .refl g⟩
  | cut fits part short =>
    refine ⟨_, _, infoResponse_part fits part g, ?_⟩
    rw [if_neg (by omega)]
    exact .refl g
  | @refused r rounds fits part text status body =>
    refine ⟨_, _, infoResponse_part fits part g, ?_⟩
    split
    · rw [body]
      refine ⟨fun f => get_parseInfo_error_part f text status _ g, ?_⟩
      intro _
      exact parseInfo_ready _ _
    · exact .refl g

/-- **Passes that bring nothing** leave every field as it was. -/
theorem networkConfig_barren {attempts : List Attempt} (barren : ∀ attempt ∈ attempts, Barren attempt)
    (g : InfoData) : ∃ g', networkConfig g attempts = .ok g' ∧ Keeps g g' := by
  induction attempts generalizing g with
  | nil => exact ⟨g, rfl, .refl g⟩
  | cons attempt rest ih =>
    obtain ⟨ret, mid, first, kept⟩ := (barren attempt List.mem_cons_self).keeps g
    obtain ⟨g', later, kept'⟩ := ih (fun a inside => barren a (List.mem_cons_of_mem _ inside)) mid
    refine ⟨g', ?_, kept.trans kept'⟩
    rw [networkConfig_cons first, later]

/-- A pass that brings a whole answer parses it. -/
theorem Brings.parses {w : InfoWorld} {attempt : Attempt} (h : Brings w attempt) (g : InfoData) :
    httpRequestInfo attempt g = .ok (0, parseInfo (info w).body g) := by
  obtain ⟨r, rounds, rfl, body, fits, whole⟩ := h.answer
  rw [httpRequestInfo, infoResponse_eq_fetch, HttpResponse.fetch_whole fits whole, body]

/-- **The last good answer stays**, if the services report plain values where `info` copies them.
Whatever `g_info` holds: an attempt brings the proxy's whole 200 answer, and the attempts after
it bring nothing. Then the loop goes through all of them without a fault, and `g_info` is ready
and shows the seven members of that answer, the time at which it was made among them. -/
theorem last_good_answer {w : InfoWorld} (services : PlainServices w) (good : (info w).status = 200)
    {attempt : Attempt} (brings : Brings w attempt) {rest : List Attempt}
    (barren : ∀ later ∈ rest, Barren later) (g : InfoData) :
    ∃ d : InfoDict, d.Flat ∧ info w = respond d.toValue 200 ∧ d.unixEpoch = .num (.ofNat w.time) ∧
      ∃ g', networkConfig g (attempt :: rest) = .ok g' ∧ g'.ready = true ∧
        ∀ f : InfoField, (f.get g').text = shown (f.value d) := by
  rcases info_answers services with ⟨d, flat, time, answer⟩ | ⟨text, status, other, answer⟩
  · obtain ⟨g', later, kept⟩ := networkConfig_barren barren (parseInfo (info w).body g)
    refine ⟨d, flat, answer, time, g', ?_, kept.ready (parseInfo_ready _ _), ?_⟩
    · rw [networkConfig_cons (brings.parses g), later]
    · intro f
      rw [kept.fields f, answer]
      exact text_parseInfo flat f g
  · rw [answer] at good
    exact absurd good other

/-- The services on a day in Oslo. -/
def osloServices : InfoWorld where
  forwardedFor := none
  remoteAddr := some (str "192.0.2.7")
  isPrivate _ := .ok true
  ipify := .ok (.obj [(str "ip", .str (str "158.37.1.1"))])
  ipGeolocation _ := .ok (.obj [(str "city", .str (str "Oslo")), (str "country_name", .str (str "Norway")),
    (str "latitude", .str (str "59.91273")), (str "longitude", .str (str "10.74609"))])
  openWeather _ _ := .ok (.obj [(str "weather", .arr [.obj [(str "main", .str (str "Clouds"))]]),
    (str "main", .obj [(str "temp", .num osloDegrees)])])
  time := 1747000000
  weekday := str "Sunday"
  day := str "11"
  monthName := str "May"
  currentClock := str "23:46:40"

theorem info_osloServices : info osloServices = respond oslo.toValue 200 := by rfl

theorem plainServices_osloServices : PlainServices osloServices where
  location := by
    rintro ip geoData key v ⟨⟩ member found
    simp only [locationKeys, List.mem_cons, List.not_mem_nil, or_false] at member
    rcases member with rfl | rfl | rfl | rfl <;> (cases found; rfl)
  weather := by
    rintro lat lon weatherData v ⟨⟩ found
    cases found
    rfl
  temperature := by
    rintro lat lon weatherData v ⟨⟩ found
    cases found
    rfl

theorem delivered_osloChunks : delivered osloChunks = osloResponse.text := by
  have last : osloResponse.text.drop 160 = (osloResponse.text.drop 60).drop 100 := by
    rw [List.drop_drop]
  rw [osloChunks, List.append_assoc, delivered_oneChunk_append, delivered_oneChunk_append,
    delivered_oneChunk, last, List.take_append_drop, List.take_append_drop]

theorem brings_osloChunks : Brings osloServices (.sent osloChunks) := by
  refine ⟨osloResponse, osloChunks, rfl, ?_, ?_, delivered_osloChunks⟩
  · rw [info_osloServices]
    rfl
  · rw [length_osloResponse]
    decide

/-- What the proxy sends if the weather service fails. -/
def refusedText : HttpText where
  before := ascii "HTTP/1.1 500 INTERNAL SERVER ERROR\r\nContent-Type: application/json\r\n"
  after := ascii "\r\nConnection: close"
  body := (respondError (str "Weather API failed") 500).body

theorem refusedText_clean : 0 ∉ refusedText.header := by decide +kernel

theorem refusedText_blank : find blankLine refusedText.text = some refusedText.header.length := by
  decide +kernel

theorem refusedText_length : find contentLengthKey refusedText.text = some refusedText.before.length := by
  decide +kernel

theorem refusedText_ends : ∀ c ∈ refusedText.after.head?, isDigit c = false := by decide +kernel

def refusedResponse : HttpResponse where
  toHttpText := refusedText
  clean := refusedText_clean
  blank := refusedText_blank
  length := refusedText_length
  ends := refusedText_ends

/-- It arrives up to the middle of the text. -/
def refusedCut : List Round := oneChunk (refusedResponse.text.take 130) (by decide +kernel)

theorem barren_refusedCut : Barren (.sent refusedCut) := by
  apply @Barren.refused refusedResponse refusedCut _ _ (str "Weather API failed") 500 rfl
  · decide +kernel
  · rw [refusedCut, delivered_oneChunk]
    exact List.take_prefix _ _

/-- The answer arrives in three chunks; then no connection is made, and then the weather service
fails. -/
theorem last_good_answer_oslo :
    ∃ d : InfoDict, d.Flat ∧ info osloServices = respond d.toValue 200 ∧
      d.unixEpoch = .num (.ofNat osloServices.time) ∧
      ∃ g', networkConfig gInfo [.sent osloChunks, .failed 111 (by decide), .sent refusedCut] = .ok g' ∧
        g'.ready = true ∧ ∀ f : InfoField, (f.get g').text = shown (f.value d) := by
  have good : (info osloServices).status = 200 := by rw [info_osloServices]; rfl
  refine last_good_answer plainServices_osloServices good brings_osloChunks ?_ gInfo
  intro later inside
  rcases List.mem_cons.1 inside with rfl | inside
  · exact .failed 111 (by decide)
  · obtain rfl := List.mem_singleton.1 inside
    exact barren_refusedCut

end SmartClock.Net
