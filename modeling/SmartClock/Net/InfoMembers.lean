import SmartClock.Net.ParseInfo
import SmartClock.Proxy.Info

/-!
# The members of the `/info` object

`parse_info` on an encoded dictionary `data`. Each field's pattern first occurs at the key of
the member it is meant for, and its scan ends inside that member's value. So the stored text
is `shown` of that value, and the other members have no part in it.
-/

namespace SmartClock.Net

open Text Json Proxy

namespace InfoField

/-- The member of `data` a field is meant for. -/
def value : InfoField → InfoDict → Value
  | city, d => d.city
  | country, d => d.country
  | weather, d => d.weather
  | temperature, d => d.temperatureCelsius
  | latitude, d => d.latitude
  | longitude, d => d.longitude
  | unixEpoch, d => d.unixEpoch

/-- The key of that member. -/
def member : InfoField → Str
  | city => str "city"
  | country => str "country"
  | weather => str "weather"
  | temperature => str "temperature_celsius"
  | latitude => str "latitude"
  | longitude => str "longitude"
  | unixEpoch => str "unix_epoch"

/-- Its place in `data`. -/
def place : InfoField → Nat
  | city => 6
  | country => 7
  | weather => 10
  | temperature => 11
  | latitude => 8
  | longitude => 9
  | unixEpoch => 0

/-- The members in front of it and behind it. -/
def before (f : InfoField) (d : InfoDict) : List (Str × Value) := d.members.take f.place
def after (f : InfoField) (d : InfoDict) : List (Str × Value) := d.members.drop (f.place + 1)

theorem members_split (f : InfoField) (d : InfoDict) :
    d.members = f.before d ++ (f.member, f.value d) :: f.after d := by
  cases f <;> rfl

theorem isName (f : InfoField) : IsName f.name := by
  cases f <;> exact ⟨by decide, by decide +kernel⟩

theorem escape_member (f : InfoField) : escape f.member = f.name := by
  cases f <;> decide

/-- No earlier key is taken for this one. -/
theorem before_keys (f : InfoField) (d : InfoDict) :
    ∀ m ∈ f.before d, escape m.1 ≠ f.name ∧ 34 ∉ escape m.1 := by
  have keys : (f.before d).map Prod.fst = infoKeys.take f.place := by cases f <;> rfl
  have apart : ∀ key ∈ infoKeys.take f.place, escape key ≠ f.name ∧ 34 ∉ escape key := by
    cases f <;> decide
  intro m inside
  exact apart m.1 (keys ▸ List.mem_map_of_mem inside)

theorem isScalar_before {d : InfoDict} (flat : d.Flat) (f : InfoField) :
    ∀ m ∈ f.before d, m.2.isScalar = true := by
  intro m inside
  have values : m.2 ∈ d.values := (List.of_mem_zip (List.mem_of_mem_take inside)).2
  exact flat m.2 values

theorem isScalar_value {d : InfoDict} (flat : d.Flat) (f : InfoField) : (f.value d).isScalar = true := by
  apply flat
  cases f <;> simp [value, InfoDict.values]

/-- The body around one member. -/
theorem dumps_split (f : InfoField) (d : InfoDict) :
    dumps d.toValue = beforeMember (f.before d) ++ f.key ++
      32 :: (dumps (f.value d) ++ dumpsMembers (f.after d)) := by
  rw [InfoDict.toValue, members_split f d, dumps_obj_split, escape_member, key]

/-- **The first hit** of a field's pattern is the key of its member, if the members in front
of it are no objects and no lists. -/
theorem find_of_before {d : InfoDict} {f : InfoField} (scalar : ∀ m ∈ f.before d, m.2.isScalar = true) :
    find f.key (dumps d.toValue) = some (beforeMember (f.before d)).length := by
  rw [InfoDict.toValue, members_split f d]
  exact find_member f.isName (fun m inside => find_scalar f.isName (scalar m inside))
    (before_keys f d) (escape_member f) _ _

theorem find_dumps {d : InfoDict} (flat : d.Flat) (f : InfoField) :
    find f.key (dumps d.toValue) = some (beforeMember (f.before d)).length :=
  find_of_before (isScalar_before flat f)

theorem drop_dumps (f : InfoField) (d : InfoDict) :
    (dumps d.toValue).drop ((beforeMember (f.before d)).length + f.key.length) =
      32 :: (dumps (f.value d) ++ dumpsMembers (f.after d)) := by
  rw [dumps_split, ← List.length_append, List.drop_left]

end InfoField

/-! ## What a value leaves in its field -/

/-- The text `parse_info` stores for a value. -/
def shown : Value → List UInt8
  | .str s => fieldText infoStrLen endsQuoted (escape s)
  | v => (dumps v).take (infoStrLen - 1)

/-- Behind a member's value comes a comma or the closing brace. -/
theorem dumpsMembers_cons (members : List (Str × Value)) :
    ∃ c rest, dumpsMembers members = c :: rest ∧ endsBare c = true := by
  cases members with
  | nil => exact ⟨_, _, rfl, by decide⟩
  | cons m members => exact ⟨_, _, rfl, by decide⟩

/-- A value other than a string is a word without blanks, quotes and stop bytes. -/
theorem dumps_bare {v : Value} (scalar : v.isScalar = true) (bare : ∀ s, v ≠ .str s) :
    dumps v ≠ [] ∧ ∀ b ∈ dumps v, b ≠ 34 ∧ b ≠ 32 ∧ b ≠ 9 ∧ endsBare b = false := by
  cases v with
  | null => decide +kernel
  | bool b => cases b <;> decide +kernel
  | num n =>
    refine ⟨by simpa [dumps] using n.nonempty, fun b inside => ?_⟩
    have outside := isNumByte_not_mem (n.bytes b (by simpa [dumps] using inside))
    simp only [List.mem_cons, List.not_mem_nil, or_false, not_or] at outside
    simp [endsBare, outside]
  | str s => exact absurd rfl (bare s)
  | arr _ | obj _ => cases scalar

/-- A string's text ends at its closing quote. -/
theorem fieldText_str (s : Str) (rest : List UInt8) :
    fieldText infoStrLen endsQuoted (escape s ++ 34 :: rest) = shown (.str s) :=
  fieldText_append_stop rfl _ _

/-- Another value's text ends in front of what follows the member. -/
theorem fieldText_bare {v : Value} (scalar : v.isScalar = true) (bare : ∀ s, v ≠ .str s)
    (members : List (Str × Value)) :
    fieldText infoStrLen endsBare (dumps v ++ dumpsMembers members) = shown v := by
  obtain ⟨-, word⟩ := dumps_bare scalar bare
  obtain ⟨c, more, next, stop⟩ := dumpsMembers_cons members
  rw [next, fieldText_append_stop stop, fieldText_whole fun b inside => (word b inside).2.2.2]
  cases v with
  | str s => exact absurd rfl (bare s)
  | _ => rfl

/-- The scan of a string member. -/
theorem scan_str (s : Str) (members : List (Str × Value)) :
    valueText (32 :: (dumps (.str s) ++ dumpsMembers members)) = shown (.str s) ∧
      dumpsMembers members <:+ valueEnd (32 :: (dumps (.str s) ++ dumpsMembers members)) := by
  have opens : skipBlanks (32 :: (dumps (.str s) ++ dumpsMembers members)) =
      34 :: (escape s ++ 34 :: dumpsMembers members) := by
    simp [skipBlanks, dumps, quote]
  obtain ⟨text, closes⟩ := valueText_quoted opens
  have short : (shown (.str s)).length ≤ (escape s).length := length_fieldText_le _ _
  rw [fieldText_str] at text closes
  rw [text, closes, List.drop_append_of_le_length short]
  exact ⟨rfl, (List.suffix_cons 34 _).trans (List.suffix_append _ _)⟩

/-- The scan of a member that is not a string. -/
theorem scan_bare {v : Value} (scalar : v.isScalar = true) (bare : ∀ s, v ≠ .str s)
    (members : List (Str × Value)) :
    valueText (32 :: (dumps v ++ dumpsMembers members)) = shown v ∧
      dumpsMembers members <:+ valueEnd (32 :: (dumps v ++ dumpsMembers members)) := by
  obtain ⟨ne, word⟩ := dumps_bare scalar bare
  obtain ⟨b, rest, eq⟩ := List.exists_cons_of_ne_nil ne
  obtain ⟨notQuote, notBlank, notTab, -⟩ := word b (eq ▸ List.mem_cons_self)
  have opens : skipBlanks (32 :: (dumps v ++ dumpsMembers members)) = dumps v ++ dumpsMembers members := by
    rw [eq]
    exact skipBlanks_cons _ ⟨notBlank, notTab⟩
  have unquoted : ∀ pos, skipBlanks (32 :: (dumps v ++ dumpsMembers members)) ≠ 34 :: pos := by
    intro pos quoted
    rw [opens, eq] at quoted
    exact notQuote (List.cons.inj quoted).1
  obtain ⟨text, closes⟩ := valueText_bare unquoted
  rw [opens, fieldText_bare scalar bare] at text closes
  have short : (shown v).length ≤ (dumps v).length := by
    cases v with
    | str s => exact absurd rfl (bare s)
    | _ => exact List.length_take_le' _ _
  rw [text, closes, List.drop_append_of_le_length short]
  exact ⟨rfl, List.suffix_append _ _⟩

/-- The scan of a member takes the text of its value and ends at or before its end. -/
theorem scan_member {v : Value} (scalar : v.isScalar = true) (members : List (Str × Value)) :
    valueText (32 :: (dumps v ++ dumpsMembers members)) = shown v ∧
      dumpsMembers members <:+ valueEnd (32 :: (dumps v ++ dumpsMembers members)) := by
  by_cases quoted : ∃ s, v = .str s
  · obtain ⟨s, rfl⟩ := quoted
    exact scan_str s members
  · exact scan_bare scalar (fun s eq => quoted ⟨s, eq⟩) members

/-! ## `parse_info` on an encoded dictionary -/

theorem scanned_of_before {d : InfoDict} {f : InfoField} (scalar : ∀ m ∈ f.before d, m.2.isScalar = true)
    (value : (f.value d).isScalar = true) :
    scanned f (dumps d.toValue) = some (shown (f.value d)) := by
  rw [scanned, InfoField.find_of_before scalar, Option.map_some, f.drop_dumps,
    (scan_member value (f.after d)).1]

theorem scanned_dumps {d : InfoDict} (flat : d.Flat) (f : InfoField) :
    scanned f (dumps d.toValue) = some (shown (f.value d)) :=
  scanned_of_before (f.isScalar_before flat) (f.isScalar_value flat)

theorem text_of_scanned {d : InfoDict} {f : InfoField}
    (found : scanned f (dumps d.toValue) = some (shown (f.value d))) (g : InfoData) :
    (f.get (parseInfo (encoded d.toValue) g)).text = shown (f.value d) := by
  obtain ⟨clean, fits⟩ := scanned_ok (zero_not_mem_dumps _) found
  rw [parseInfo_get, encoded, found]
  exact text_storeText _ fits clean

/-- **A field after `parse_info`** on an encoded dictionary. -/
theorem text_parseInfo {d : InfoDict} (flat : d.Flat) (f : InfoField) (g : InfoData) :
    (f.get (parseInfo (encoded d.toValue) g)).text = shown (f.value d) :=
  text_of_scanned (scanned_dumps flat f) g

def osloDegrees : Number := ⟨ascii "7.4", by decide, by decide +kernel⟩

/-- An answer for a client in Oslo. -/
def oslo : InfoDict where
  unixEpoch := .num (.ofNat 1747000000)
  weekday := .str (str "Sunday")
  day := .str (str "11")
  month := .str (str "May")
  time := .str (str "23:46:40")
  ip := .str (str "192.0.2.7")
  city := .str (str "Oslo")
  country := .str (str "Norway")
  latitude := .str (str "59.91273")
  longitude := .str (str "10.74609")
  weather := .str (str "Clouds")
  temperatureCelsius := .num osloDegrees

/-- The same client with a forged address. -/
def forged : InfoDict := { oslo with ip := .str (str "\", \"city\": \"Atlantis\", \"x\": \"") }

/-- **Members do not interfere.** For two dictionaries that agree on a field's member,
`parse_info` stores the same text in that field, whatever else they and the records before
hold. The first hit of the pattern is that member's key, and the scan from there does not
go past the member. -/
theorem members_isolated {f : InfoField} {d d' : InfoDict} (flat : d.Flat) (flat' : d'.Flat)
    (agree : f.value d = f.value d') (g g' : InfoData) :
    (f.get (parseInfo (encoded d.toValue) g)).text = (f.get (parseInfo (encoded d'.toValue) g')).text ∧
      find f.key (encoded d.toValue).1 = some (beforeMember (f.before d)).length ∧
      dumpsMembers (f.after d) <:+ (scanValue (f.get g)
        ((encoded d.toValue).1.drop ((beforeMember (f.before d)).length + f.key.length))).2 := by
  refine ⟨?_, f.find_dumps flat, ?_⟩
  · rw [text_parseInfo flat, text_parseInfo flat', agree]
  · rw [scanValue_eq, encoded, f.drop_dumps]
    exact (scan_member (f.isScalar_value flat) (f.after d)).2

theorem members_isolated_forged :
    (oslo.Flat ∧ forged.Flat ∧ InfoField.city.value oslo = InfoField.city.value forged) ∧
      (InfoField.city.get (parseInfo (encoded oslo.toValue) gInfo)).text =
        (InfoField.city.get (parseInfo (encoded forged.toValue) gInfo)).text :=
  have flat : oslo.Flat ∧ forged.Flat := by constructor <;> (unfold InfoDict.Flat; decide)
  ⟨⟨flat.1, flat.2, rfl⟩, (members_isolated (f := .city) flat.1 flat.2 rfl gInfo gInfo).1⟩

end SmartClock.Net
