import SmartClock.Net.InfoMembers

/-!
# `parse_info` on an error answer

The client does not look at the status, so `parse_info` also reads `{"error": text}`. No
text can hold the pattern of a field, since a quote in it is escaped: every field stays as
it was. The flag does not, because `parse_info` sets it whether or not it found a key.
-/

namespace SmartClock.Net

open Text Json Proxy

theorem InfoField.name_ne_error (f : InfoField) : escape (str "error") ≠ f.name := by
  cases f <;> decide

/-- No key of the table occurs in an error answer. -/
theorem scanned_error (f : InfoField) (text : Str) (status : Nat) :
    scanned f (respondError text status).body.1 = none := by
  have clean : 34 ∉ escape (str "error") := by decide
  have missing : find f.key (dumps (.obj [(str "error", .str text)])) = none := by
    apply find_no_member f.isName
    · intro m inside
      obtain rfl := List.mem_singleton.1 inside
      exact find_scalar f.isName rfl
    · intro m inside
      obtain rfl := List.mem_singleton.1 inside
      exact ⟨f.name_ne_error, clean⟩
  show (find f.key (dumps (.obj [(str "error", .str text)]))).map _ = none
  rw [missing]
  rfl

/-- Every field stays as it was. -/
theorem get_parseInfo_error (f : InfoField) (text : Str) (status : Nat) (g : InfoData) :
    f.get (parseInfo (respondError text status).body g) = f.get g := by
  rw [parseInfo_get, scanned_error]

/-- **An error answer leaves the information as it was** exactly if it was marked ready. -/
theorem error_unchanged_iff (text : Str) (status : Nat) (g : InfoData) :
    parseInfo (respondError text status).body g = g ↔ g.ready = true := by
  constructor
  · intro same
    rw [← same]
    exact parseInfo_ready _ _
  · intro ready
    apply InfoData.ext_get
    · intro f
      exact get_parseInfo_error f text status g
    · rw [parseInfo_ready, ready]

/-- Before the first answer, an error makes the empty record look ready. -/
theorem error_marks_ready :
    parseInfo (respondError (str "Weather API failed") 500).body gInfo = { gInfo with ready := true } ∧
      parseInfo (respondError (str "Weather API failed") 500).body gInfo ≠ gInfo := by
  have marked : parseInfo (respondError (str "Weather API failed") 500).body gInfo =
      { gInfo with ready := true } := by
    apply InfoData.ext_get
    · intro f
      rw [get_parseInfo_error]
      cases f <;> rfl
    · exact parseInfo_ready _ _
  refine ⟨marked, ?_⟩
  intro same
  rw [marked] at same
  exact absurd (congrArg InfoData.ready same) (by decide)

end SmartClock.Net
