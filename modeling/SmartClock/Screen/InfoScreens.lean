import SmartClock.Net.InfoLoop
import SmartClock.Net.Latest
import SmartClock.Screen.Pages

/-!
# The four information screens

`screen_show_weather`, `screen_show_epoch`, `screen_show_latlon` and `screen_show_city` are
one screen with parameters (`infoScreen`): a page about a snapshot, or "No data yet". They
hand members of the snapshot to `lcd_show` and to `snprintf`, so they rest on the members'
terminators. `info_screens_safe` is about every snapshot of every run, `answer_on_screens`
follows an answer of the proxy through the two threads to the two rows.
-/

namespace SmartClock.Screen

open Text Lcd Json Proxy Net Sync

/-- A screen about a snapshot, told what `get_info_snapshot` gives: without one, or with its
leading member empty, there is no data. `none` is a read past the end of a member. -/
def infoScreen (noData : Page) (lead : InfoField) (filled : InfoData → Option Page) :
    Option InfoData → Option Page
  | none => some noData
  | some info => if (lead.get info).toList.head? = some 0 then some noData else filled info

/-- `lcd_show(title, "No data yet")` -/
def noDataYet (title : List UInt8) : Page := ⟨lineStr title, lineStr (ascii "No data yet")⟩

/-- `screen_show_weather` -/
def screenShowWeather : Option InfoData → Option Page :=
  infoScreen (noDataYet (ascii "Weather:")) .weather fun info => do
    let line2 := lineStr (precision 13 info.temperature ++ ascii " C")
    return ⟨← fieldStr info.weather, line2⟩

/-- `screen_show_epoch` -/
def screenShowEpoch : Option InfoData → Option Page :=
  infoScreen (noDataYet (ascii "Unix epoch:")) .unixEpoch fun info => do
    return ⟨lineStr (ascii "Unix epoch:"), ← fieldStr info.unixEpoch⟩

/-- `screen_show_latlon` -/
def screenShowLatlon : Option InfoData → Option Page :=
  infoScreen (noDataYet (ascii "Lat/Lon:")) .latitude fun info =>
    some ⟨lineStr (ascii "Lat: " ++ precision 11 info.latitude),
      lineStr (ascii "Lon: " ++ precision 11 info.longitude)⟩

/-- `screen_show_city` -/
def screenShowCity : Option InfoData → Option Page :=
  infoScreen (noDataYet (ascii "City:")) .city fun info => do
    return ⟨lineStr (ascii "City:"), ← fieldStr info.city⟩

/-! ## What they show -/

inductive InfoScreen where
  | weather
  | epoch
  | latlon
  | city
deriving DecidableEq

namespace InfoScreen

def page : InfoScreen → Option InfoData → Option Page
  | weather => screenShowWeather
  | epoch => screenShowEpoch
  | latlon => screenShowLatlon
  | city => screenShowCity

def title : InfoScreen → List UInt8
  | weather => ascii "Weather:"
  | epoch => ascii "Unix epoch:"
  | latlon => ascii "Lat/Lon:"
  | city => ascii "City:"

/-- The member that must not be empty. -/
def lead : InfoScreen → InfoField
  | weather => .weather
  | epoch => .unixEpoch
  | latlon => .latitude
  | city => .city

/-- The two lines about the members' texts. -/
def lines (text : InfoField → List UInt8) : InfoScreen → List UInt8 × List UInt8
  | weather => (text .weather, (text .temperature).take 13 ++ ascii " C")
  | epoch => (ascii "Unix epoch:", text .unixEpoch)
  | latlon => (ascii "Lat: " ++ (text .latitude).take 11, ascii "Lon: " ++ (text .longitude).take 11)
  | city => (ascii "City:", text .city)

/-- The two rows the screen should show about the members' texts. -/
def rowsAbout (screen : InfoScreen) (text : InfoField → List UInt8) : List UInt8 × List UInt8 :=
  if text screen.lead = [] then (cells screen.title, cells (ascii "No data yet"))
  else (cells (screen.lines text).1, cells (screen.lines text).2)

end InfoScreen

/-- The texts of a record. -/
def texts (info : InfoData) (f : InfoField) : List UInt8 := (f.get info).text

theorem head_eq_zero_iff {a : InfoStr} : a.toList.head? = some 0 ↔ a.text = [] := by
  constructor
  · intro ended
    by_contra ne
    exact CharArray.head_ne_zero ne ended
  · intro empty
    cases list : a.toList with
    | nil =>
      have size : a.toList.length = infoStrLen := a.length_toList
      rw [list] at size
      cases size
    | cons b rest =>
      rw [CharArray.text, list, List.takeWhile_cons] at empty
      split at empty
      · cases empty
      · rename_i nul
        simpa using nul

section Lines

variable {label : List UInt8}

theorem padded_label (clean : 0 ∉ label) (n : Nat) (a : InfoStr) :
    padded (lineStr (label ++ precision n a)) = cells (label ++ a.text.take n) := by
  rw [padded_lineStr, precision_eq]
  rw [precision_eq, List.mem_append, not_or]
  exact ⟨clean, fun inside => zero_not_mem_text a (List.mem_of_mem_take inside)⟩

theorem padded_unit (clean : 0 ∉ label) (n : Nat) (a : InfoStr) :
    padded (lineStr (precision n a ++ label)) = cells (a.text.take n ++ label) := by
  rw [padded_lineStr, precision_eq]
  rw [precision_eq, List.mem_append, not_or]
  exact ⟨fun inside => zero_not_mem_text a (List.mem_of_mem_take inside), clean⟩

end Lines

theorem rows_noDataYet {title : List UInt8} (clean : 0 ∉ title) :
    (noDataYet title).rows = (cells title, cells (ascii "No data yet")) := by
  have text : 0 ∉ ascii "No data yet" := by decide
  rw [Page.rows, noDataYet, padded_lineStr text, padded_lineStr clean]

theorem InfoScreen.rows_noData (screen : InfoScreen) :
    (noDataYet screen.title).rows = (cells screen.title, cells (ascii "No data yet")) :=
  rows_noDataYet (by cases screen <;> decide)

/-- A screen about a snapshot with its terminators shows the rows it should. -/
theorem InfoScreen.page_rows (screen : InfoScreen) {info : InfoData} (ended : info.Terminated) :
    ∃ p, screen.page (some info) = some p ∧ p.rows = screen.rowsAbout (texts info) := by
  by_cases empty : (screen.lead.get info).text = []
  · have missing := head_eq_zero_iff.2 empty
    refine ⟨noDataYet screen.title, ?_, ?_⟩
    · cases screen <;> exact if_pos missing
    · rw [rows_noData]
      exact (if_pos empty).symm
  · have given : ¬ (screen.lead.get info).toList.head? = some 0 := fun h => empty (head_eq_zero_iff.1 h)
    have about : screen.rowsAbout (texts info) =
        (cells (screen.lines (texts info)).1, cells (screen.lines (texts info)).2) := if_neg empty
    rw [about]
    cases screen with
    | weather =>
      obtain ⟨text, isString, shown⟩ := fieldStr_ended (ended .weather)
      refine ⟨⟨text, lineStr (precision 13 info.temperature ++ ascii " C")⟩, ?_, ?_⟩
      · have string : fieldStr info.weather = some text := isString
        refine (if_neg given).trans ?_
        rw [string]
        rfl
      · rw [Page.rows, padded_unit (by decide), shown]
        rfl
    | epoch =>
      obtain ⟨text, isString, shown⟩ := fieldStr_ended (ended .unixEpoch)
      refine ⟨⟨lineStr (ascii "Unix epoch:"), text⟩, ?_, ?_⟩
      · have string : fieldStr info.unixEpoch = some text := isString
        refine (if_neg given).trans ?_
        rw [string]
        rfl
      · rw [Page.rows, padded_lineStr (by decide), shown]
        rfl
    | latlon =>
      refine ⟨_, if_neg given, ?_⟩
      rw [Page.rows, padded_label (by decide), padded_label (by decide)]
      rfl
    | city =>
      obtain ⟨text, isString, shown⟩ := fieldStr_ended (ended .city)
      refine ⟨⟨lineStr (ascii "City:"), text⟩, ?_, ?_⟩
      · have string : fieldStr info.city = some text := isString
        refine (if_neg given).trans ?_
        rw [string]
        rfl
      · rw [Page.rows, padded_lineStr (by decide), shown]
        rfl

/-! ## Every snapshot of every run -/

/-- The screens about what whole calls of `parse_info` have left. -/
theorem page_afterCalls (screen : InfoScreen) (bodies : List CStr) :
    ∃ p, screen.page (some (afterCalls bodies)) = some p ∧
      p.rows = screen.rowsAbout fun f => lastText f bodies := by
  obtain ⟨p, shown, about⟩ := screen.page_rows (terminated_afterCalls bodies)
  refine ⟨p, shown, about.trans ?_⟩
  have same : texts (afterCalls bodies) = fun f => lastText f bodies :=
    funext fun f => text_afterCalls bodies f
  rw [same]

/-- **The information screens read no member past its end and show one record.** In every run of
the two threads, each call of `get_info_snapshot` leads each of the four screens to a page.
Whatever the display showed before, its rows are then about the texts that the calls of
`parse_info` up to some call have left, or say that there is no data if the lock timed out. -/
theorem info_screens_safe {moves : List (Program.Move InfoUser Given)} {s : sharing.State}
    (ran : Run.run sharing.step sharingBoot moves = some s) (screen : InfoScreen) :
    ∀ call ∈ (screenThread s).calls,
      ∃ p, screen.page (if call.result then some call.after else none) = some p ∧
        ∀ (other : Write → Display → Display) (d : Display),
          rows (receiveAll other p.writes d) =
              (cells screen.title, cells (ascii "No data yet")) ∨
            ∃ k ≤ (networkThread s).bodies.length,
              rows (receiveAll other p.writes d) =
                screen.rowsAbout fun f => lastText f ((networkThread s).bodies.take k) := by
  intro call member
  cases result : call.result with
  | false =>
    refine ⟨noDataYet screen.title, ?_, ?_⟩
    · cases screen <;> rfl
    · intro other d
      rw [rows_writes, screen.rows_noData]
      exact .inl rfl
  | true =>
    obtain ⟨k, le, whole⟩ := ((untorn_of_run ran).calls call member).1 result
    obtain ⟨p, shown, about⟩ := page_afterCalls screen ((networkThread s).bodies.take k)
    refine ⟨p, ?_, ?_⟩
    · rw [if_pos rfl, whole, shown]
    · intro other d
      rw [rows_writes, about]
      exact .inr ⟨k, le, rfl⟩

theorem info_screens_safe_oslo :
    ∃ s, Run.run sharing.step sharingBoot timedOutThenCopied = some s ∧
      (screenThread s).calls.length = 2 ∧
      ∀ call ∈ (screenThread s).calls,
        ∃ p, InfoScreen.city.page (if call.result then some call.after else none) = some p ∧
          ∀ (other : Write → Display → Display) (d : Display),
            rows (receiveAll other p.writes d) =
                (cells InfoScreen.city.title, cells (ascii "No data yet")) ∨
              ∃ k ≤ (networkThread s).bodies.length,
                rows (receiveAll other p.writes d) =
                  InfoScreen.city.rowsAbout fun f => lastText f ((networkThread s).bodies.take k) :=
  ⟨_, rfl, rfl, @info_screens_safe timedOutThenCopied _ rfl .city⟩

/-! ## From the proxy to the rows -/

/-- Error answers bring no text. -/
theorem lastText_errors (f : InfoField) {bodies errors : List CStr}
    (refused : ∀ json ∈ errors, ∃ text status, json = (respondError text status).body) :
    lastText f (bodies ++ errors) = lastText f bodies := by
  have nothing : errors.filterMap (fun json => scanned f json.1) = [] := by
    apply List.filterMap_eq_nil_iff.2
    intro json member
    obtain ⟨text, status, rfl⟩ := refused json member
    exact scanned_error f text status
  rw [lastText, lastText, List.filterMap_append, nothing, List.append_nil]

theorem lastText_answer {d : InfoDict} (flat : d.Flat) (f : InfoField) (bodies : List CStr) :
    lastText f (bodies ++ [encoded d.toValue]) = shown (f.value d) := by
  have found : scanned f (encoded d.toValue).1 = some (shown (f.value d)) := scanned_dumps flat f
  have one : [encoded d.toValue].filterMap (fun json => scanned f json.1) = [shown (f.value d)] := by
    simp only [List.filterMap_cons, found, List.filterMap_nil]
  rw [lastText, List.filterMap_append, one, List.getLast?_append, List.getLast?_singleton]
  rfl

/-- **An answer reaches the screens.** A 200 answer of the proxy, whose services report plain
values, is the last body that `parse_info` has been through at some moment of a run, and only
error answers come after it.
Then every call of `get_info_snapshot` that returns true from there on leads each of the four
screens to the rows about that answer's members, however the two threads take turns and
whatever the display showed. -/
theorem answer_on_screens {before after : List (Program.Move InfoUser Given)} {s s' : sharing.State}
    (ran : Run.run sharing.step sharingBoot before = some s)
    (ran' : Run.run sharing.step s after = some s') {w : InfoWorld} (services : PlainServices w)
    (good : (info w).status = 200) (last : (networkThread s).bodies.getLast? = some (info w).body)
    (refused : ∀ json ∈ (networkThread s').bodies.drop (networkThread s).bodies.length,
      ∃ text status, json = (respondError text status).body) :
    ∃ d : InfoDict, d.Flat ∧ info w = respond d.toValue 200 ∧
      ∃ new, (screenThread s').calls = (screenThread s).calls ++ new ∧
        ∀ call ∈ new, call.result = true → ∀ screen : InfoScreen,
          ∃ p, screen.page (some call.after) = some p ∧
            ∀ (other : Write → Display → Display) (display : Display),
              rows (receiveAll other p.writes display) = screen.rowsAbout fun f => shown (f.value d) := by
  obtain ⟨⟨later, bodies⟩, new, calls, given⟩ := since_of_run ran ran'
  rcases info_answers services with ⟨d, flat, -, answer⟩ | ⟨text, status, other, answer⟩
  · refine ⟨d, flat, answer, new, calls, ?_⟩
    intro call member result screen
    obtain ⟨k, low, -, whole⟩ := given call member result
    obtain ⟨p, page, about⟩ := page_afterCalls screen ((networkThread s').bodies.take k)
    refine ⟨p, whole ▸ page, ?_⟩
    intro _ _
    obtain ⟨front, split⟩ := List.getLast?_eq_some_iff.1 last
    have errors : ∀ json ∈ later.take (k - (networkThread s).bodies.length),
        ∃ text status, json = (respondError text status).body := by
      intro json inside
      apply refused
      rw [← bodies, List.drop_left]
      exact List.mem_of_mem_take inside
    have shows : (fun f => lastText f ((networkThread s').bodies.take k)) = fun f => shown (f.value d) := by
      funext f
      rw [← bodies, List.take_append, List.take_of_length_le low, lastText_errors f errors, split, answer]
      exact lastText_answer flat f front
    rw [rows_writes, about, shows]
  · rw [answer] at good
    exact absurd good other

/-- The next body is the answer for Oslo. -/
def osloGiven : Given where
  body := (info osloServices).body
  out := gInfo

/-- The next body is an error answer. -/
def refusedGiven : Given where
  body := (respondError (str "Weather API failed") 500).body
  out := gInfo

/-- The answer is parsed. -/
def answerParsed : List (Program.Move InfoUser Given) := List.replicate 64 (.go .network osloGiven)

/-- An error answer is parsed, and a snapshot is taken. -/
def refusedThenCopied : List (Program.Move InfoUser Given) :=
  List.replicate 12 (.go .network refusedGiven) ++ List.replicate 11 (.go .screen refusedGiven)

theorem runs_oslo :
    ((Run.run sharing.step sharingBoot answerParsed).bind fun s =>
      (Run.run sharing.step s refusedThenCopied).map fun s' =>
        ((networkThread s).bodies, (networkThread s').bodies)) =
      some ([osloGiven.body], [osloGiven.body, refusedGiven.body]) := by
  decide +kernel

theorem answer_on_screens_oslo :
    ∃ s s', Run.run sharing.step sharingBoot answerParsed = some s ∧
      Run.run sharing.step s refusedThenCopied = some s' ∧
      ∃ d : InfoDict, d.Flat ∧ info osloServices = respond d.toValue 200 ∧
        ∃ new, (screenThread s').calls = (screenThread s).calls ++ new ∧
          ∀ call ∈ new, call.result = true → ∀ screen : InfoScreen,
            ∃ p, screen.page (some call.after) = some p ∧
              ∀ (other : Write → Display → Display) (display : Display),
                rows (receiveAll other p.writes display) = screen.rowsAbout fun f => shown (f.value d) := by
  obtain ⟨s, ran, later⟩ := Option.bind_eq_some_iff.1 runs_oslo
  obtain ⟨s', ran', bodies⟩ := Option.map_eq_some_iff.1 later
  obtain ⟨here, there⟩ := Prod.mk.inj bodies
  refine ⟨s, s', ran, ran', answer_on_screens ran ran' plainServices_osloServices ?_ ?_ ?_⟩
  · rw [info_osloServices]
    rfl
  · rw [here]
    rfl
  · rw [here, there]
    intro json inside
    obtain rfl := List.mem_singleton.1 inside
    exact ⟨_, 500, rfl⟩

end SmartClock.Screen
