import SmartClock.Net.InfoMembers
import SmartClock.Net.Response

/-!
# A truncated `/info` transfer

`http_request` of `network_config.c` parses whatever has arrived when the loop ends. For a
transfer that stops anywhere in a response, `all_or_nothing_iff` says when `g_info` is
nevertheless the old or the new record: when the header was cut, when what had arrived was
already stored, or when the cut missed every field that changes.
-/

namespace SmartClock.Net

open Text Json Proxy

/-- `http_request` of `network_config.c`, behind `send`. -/
def infoResponse (rounds : List Round) (g : InfoData) : Except Fault (Int × InfoData) := do
  let s ← receive (start Client.info.bufSize) rounds
  let raw ← rawText s.buf
  let g := match find blankLine raw.1 with
    | some body => parseInfo (dropStr raw (body + 4)) g
    | none => g
  return (if s.total > 0 then 0 else -1, g)

/-- `http_request` of `network_config.c` -/
def httpRequestInfo : Attempt → InfoData → Except Fault (Int × InfoData)
  | .failed errno _, g => .ok (-errno, g)
  | .sent rounds, g => infoResponse rounds g

/-- The record after a transfer that delivers a prefix of a response. -/
theorem infoResponse_part {r : HttpResponse} (fits : r.text.length < Client.info.bufSize)
    {rounds : List Round} (part : delivered rounds <+: r.text) (g : InfoData) :
    httpRequestInfo (.sent rounds) g = .ok (if (delivered rounds).length > 0 then 0 else -1,
      if r.headerSize ≤ (delivered rounds).length then
        parseInfo (takeStr r.body ((delivered rounds).length - r.headerSize)) g
      else g) := by
  have known : (start Client.info.bufSize).contentLength = r.lengthKnown ([] : List UInt8).length := by
    rw [HttpResponse.lengthKnown, if_neg (by simp [HttpResponse.headerSize])]
    rfl
  obtain ⟨s, run, received, -⟩ :=
    HttpResponse.receive_part fits (by decide) rounds (received_start _) known part
  rw [List.nil_append] at received
  have ends : Terminated Client.info.bufSize (delivered rounds) :=
    .inl (Nat.lt_of_le_of_lt part.length_le fits)
  have whole : httpRequestInfo (.sent rounds) g = .ok (if (delivered rounds).length > 0 then 0 else -1,
      match find blankLine (upToZero (delivered rounds)).1 with
      | some body => parseInfo (dropStr (upToZero (delivered rounds)) (body + 4)) g
      | none => g) := by
    rw [httpRequestInfo, infoResponse, run, ← received.total]
    show (rawText s.buf >>= _) = _
    rw [rawText_eq received ends]
    rfl
  rw [whole, HttpResponse.upToZero_part part]
  congr 2
  by_cases long : r.headerSize ≤ (delivered rounds).length
  · have body : dropStr (upToZero (delivered rounds)) (r.header.length + 4) =
        takeStr r.body ((delivered rounds).length - r.headerSize) := by
      apply Subtype.ext
      show (upToZero (delivered rounds)).1.drop r.headerSize = r.body.1.take _
      rw [HttpResponse.upToZero_part part, ← r.drop_headerSize, ← List.drop_take,
        ← List.prefix_iff_eq_take.1 part]
    rw [HttpResponse.find_blank_long part long, if_pos long]
    simp only [body]
  · rw [HttpResponse.find_blank_short part (by omega), if_neg long]

/-! ## Old, new, or mixed -/

/-- `g_info` was ready, and every field whose key has arrived holds what has arrived of its
text. -/
def Held (g : InfoData) (json : List UInt8) (q : Nat) : Prop :=
  g.ready = true ∧ ∀ (f : InfoField) (m : Located), f.located json = some m → m.keyEnd ≤ q →
    (f.get g).text = m.text.take (q - m.textStart)

/-- Every field has its whole text arrived, or not its key, and then it holds the new text. -/
def Whole (g : InfoData) (json : List UInt8) (q : Nat) : Prop :=
  ∀ (f : InfoField) (m : Located), f.located json = some m →
    (m.keyEnd ≤ q ∧ m.text.length ≤ q - m.textStart) ∨ (q < m.keyEnd ∧ (f.get g).text = m.text)

section Body

variable {json : CStr} {f : InfoField} {m : Located}

theorem located_ok (place : f.located json.1 = some m) : 0 ∉ m.text ∧ m.text.length < infoStrLen := by
  have found : scanned f json.1 = some m.text := by rw [scanned_eq, place, Option.map_some]
  exact scanned_ok json.2 found

theorem located_take_ok (place : f.located json.1 = some m) (k : Nat) :
    0 ∉ m.text.take k ∧ (m.text.take k).length < infoStrLen := by
  obtain ⟨clean, fits⟩ := located_ok place
  exact ⟨fun inside => clean (List.mem_of_mem_take inside), Nat.lt_of_le_of_lt (List.length_take_le' _ _) fits⟩

theorem get_parseInfo_missing (missing : f.located json.1 = none) (q : Nat) (g : InfoData) :
    f.get (parseInfo (takeStr json q) g) = f.get g ∧ f.get (parseInfo json g) = f.get g := by
  rw [parseInfo_get, parseInfo_get, show (takeStr json q).1 = json.1.take q from rfl, scanned_take,
    scanned_eq, missing]
  exact ⟨rfl, rfl⟩

theorem get_parseInfo_located (place : f.located json.1 = some m) (q : Nat) (g : InfoData) :
    f.get (parseInfo (takeStr json q) g) =
        (if m.keyEnd ≤ q then storeText (f.get g) (m.text.take (q - m.textStart)) else f.get g) ∧
      f.get (parseInfo json g) = storeText (f.get g) m.text := by
  rw [parseInfo_get, parseInfo_get, show (takeStr json q).1 = json.1.take q from rfl, scanned_take,
    scanned_eq, place, Option.bind_some, Option.map_some]
  refine ⟨?_, rfl⟩
  by_cases arrived : m.keyEnd ≤ q
  · rw [if_pos arrived, if_pos arrived]
  · rw [if_neg arrived, if_neg arrived]

/-- A cut body leaves a field alone iff it held what has arrived. -/
theorem field_old_iff (place : f.located json.1 = some m) (q : Nat) (g : InfoData) :
    f.get (parseInfo (takeStr json q) g) = f.get g ↔
      (m.keyEnd ≤ q → (f.get g).text = m.text.take (q - m.textStart)) := by
  obtain ⟨clean, fits⟩ := located_take_ok place (q - m.textStart)
  rw [(get_parseInfo_located place q g).1]
  by_cases arrived : m.keyEnd ≤ q
  · rw [if_pos arrived, storeText_eq_self_iff fits clean]
    exact ⟨fun held _ => held, fun held => held arrived⟩
  · rw [if_neg arrived]
    exact ⟨fun _ here => absurd here arrived, fun _ => rfl⟩

/-- A cut body gives a field what the whole one does iff the text has arrived, or was held. -/
theorem field_new_iff (place : f.located json.1 = some m) (q : Nat) (g : InfoData) :
    f.get (parseInfo (takeStr json q) g) = f.get (parseInfo json g) ↔
      (m.keyEnd ≤ q ∧ m.text.length ≤ q - m.textStart) ∨ (q < m.keyEnd ∧ (f.get g).text = m.text) := by
  obtain ⟨clean, fits⟩ := located_ok place
  obtain ⟨cleanCut, fitsCut⟩ := located_take_ok place (q - m.textStart)
  obtain ⟨cut, whole⟩ := get_parseInfo_located place q g
  rw [cut, whole]
  by_cases arrived : m.keyEnd ≤ q
  · rw [if_pos arrived, storeText_inj fitsCut fits cleanCut clean, List.take_eq_self_iff]
    omega
  · rw [if_neg arrived, eq_comm, storeText_eq_self_iff fits clean]
    constructor
    · exact fun held => .inr ⟨by omega, held⟩
    · rintro (⟨inside, -⟩ | ⟨-, held⟩)
      · exact absurd inside arrived
      · exact held

end Body

/-- A cut body changes nothing iff what has arrived was held. -/
theorem parseInfo_take_eq_old_iff (json : CStr) (q : Nat) (g : InfoData) :
    parseInfo (takeStr json q) g = g ↔ Held g json.1 q := by
  constructor
  · intro same
    exact ⟨by rw [← same, parseInfo_ready], fun f m place => (field_old_iff place q g).1 (by rw [same])⟩
  · rintro ⟨ready, held⟩
    refine InfoData.ext_get (fun f => ?_) (by rw [parseInfo_ready, ready])
    cases place : f.located json.1 with
    | none => exact (get_parseInfo_missing place q g).1
    | some m => exact (field_old_iff place q g).2 (held f m place)

/-- A cut body does what the whole one does iff it misses no field that changes. -/
theorem parseInfo_take_eq_new_iff (json : CStr) (q : Nat) (g : InfoData) :
    parseInfo (takeStr json q) g = parseInfo json g ↔ Whole g json.1 q := by
  constructor
  · intro same f m place
    exact (field_new_iff place q g).1 (by rw [same])
  · intro new
    refine InfoData.ext_get (fun f => ?_) rfl
    cases place : f.located json.1 with
    | none =>
      obtain ⟨cut, whole⟩ := get_parseInfo_missing place q g
      rw [cut, whole]
    | some m => exact (field_new_iff place q g).2 (new f m place)

/-- **All or nothing.** A transfer of a response stops at any byte. Then `g_info` is the old or
the new record iff the header was cut, or what has arrived was held, or everything that
changes has arrived. -/
theorem all_or_nothing_iff {r : HttpResponse} (fits : r.text.length < Client.info.bufSize)
    {rounds : List Round} (part : delivered rounds <+: r.text) (g : InfoData) :
    ∃ ret g', httpRequestInfo (.sent rounds) g = .ok (ret, g') ∧
      ((g' = g ∨ g' = parseInfo r.body g) ↔
        (delivered rounds).length < r.headerSize ∨
          Held g r.body.1 ((delivered rounds).length - r.headerSize) ∨
          Whole g r.body.1 ((delivered rounds).length - r.headerSize)) := by
  refine ⟨_, _, infoResponse_part fits part g, ?_⟩
  by_cases long : r.headerSize ≤ (delivered rounds).length
  · rw [if_pos long, parseInfo_take_eq_old_iff, parseInfo_take_eq_new_iff]
    have notShort : ¬ (delivered rounds).length < r.headerSize := by omega
    simp only [notShort, false_or]
  · rw [if_neg long]
    exact ⟨fun _ => .inl (by omega), fun _ => .inl rfl⟩

/-! ## An answer for Oslo, cut in the city -/

def osloResponse : HttpResponse where
  before := ascii "HTTP/1.1 200 OK\r\nContent-Type: application/json\r\n"
  after := ascii "\r\nConnection: close"
  body := encoded oslo.toValue
  clean := by decide +kernel
  blank := by decide +kernel
  length := by decide +kernel
  ends := by decide +kernel

/-- The connection closes when half of the city has arrived. -/
def osloCut : List Round :=
  [⟨1, true, some ⟨osloResponse.text.take 218, by decide +kernel, by decide +kernel⟩⟩]

theorem delivered_osloCut : delivered osloCut = osloResponse.text.take 218 :=
  List.append_nil _

theorem length_osloResponse : osloResponse.text.length = 341 := by decide +kernel

theorem all_or_nothing_oslo :
    ∃ ret g', httpRequestInfo (.sent osloCut) gInfo = .ok (ret, g') ∧
      ((g' = gInfo ∨ g' = parseInfo osloResponse.body gInfo) ↔
        (delivered osloCut).length < osloResponse.headerSize ∨
          Held gInfo osloResponse.body.1 ((delivered osloCut).length - osloResponse.headerSize) ∨
          Whole gInfo osloResponse.body.1 ((delivered osloCut).length - osloResponse.headerSize)) :=
  all_or_nothing_iff (by rw [length_osloResponse]; decide) (delivered_osloCut ▸ List.take_prefix _ _) gInfo

/-- The record then has half a city, and no country. -/
theorem oslo_cut_mixed :
    delivered osloCut <+: osloResponse.text ∧ osloResponse.text.length < Client.info.bufSize ∧
      ∃ g', httpRequestInfo (.sent osloCut) gInfo = .ok (0, g') ∧ g' ≠ gInfo ∧
        g' ≠ parseInfo osloResponse.body gInfo ∧ g'.city.text = ascii "Os" ∧ g'.country.text = [] := by
  have part : delivered osloCut <+: osloResponse.text := delivered_osloCut ▸ List.take_prefix _ _
  have fits : osloResponse.text.length < Client.info.bufSize := by rw [length_osloResponse]; decide
  have arrived : (delivered osloCut).length = 218 := by
    rw [delivered_osloCut, List.length_take, length_osloResponse]
    rfl
  have header : osloResponse.headerSize = 91 := by decide +kernel
  have ran := infoResponse_part fits part gInfo
  rw [arrived, header, if_pos (by decide), if_pos (by decide)] at ran
  exact ⟨part, fits, _, ran, by decide +kernel⟩

end SmartClock.Net
