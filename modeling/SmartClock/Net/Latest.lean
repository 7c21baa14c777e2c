import SmartClock.Net.Snapshot
import SmartClock.Run.Machine

/-!
# What a snapshot is worth

Every text member of `g_info` is a cell of its own: a call of `parse_info` that finds its key
overwrites it, one that does not leaves it. So after some calls it holds the last text found
for it (`text_afterCalls`). A snapshot is taken under the lock, so it is never older than any
call of `parse_info` completed before (`snapshots_fresh`).
-/

namespace SmartClock.Net

open Text Sync

/-- The last text found for a field in these bodies. -/
def lastText (f : InfoField) (bodies : List CStr) : List UInt8 :=
  (bodies.filterMap fun json => scanned f json.1).getLast?.getD []

/-- One call writes the text it found, or nothing. -/
theorem text_parseInfo_scanned (json : CStr) (f : InfoField) (g : InfoData) :
    (f.get (parseInfo json g)).text = (scanned f json.1).getD (f.get g).text := by
  rw [parseInfo_get]
  cases found : scanned f json.1 with
  | none => rfl
  | some text =>
    obtain ⟨clean, fits⟩ := scanned_ok json.2 found
    exact text_storeText _ fits clean

theorem text_gInfo (f : InfoField) : (f.get gInfo).text = [] := by
  cases f <;> rfl

/-- **The last text wins**, field by field. -/
theorem text_afterCalls (bodies : List CStr) (f : InfoField) :
    (f.get (afterCalls bodies)).text = lastText f bodies := by
  have cells := @Run.after_last_write _ _ (fun json g => parseInfo json g) gInfo _ (fun g => (f.get g).text)
    (fun json => scanned f json.1) (fun json g => text_parseInfo_scanned json f g) bodies
  rw [text_gInfo] at cells
  exact cells

/-! ## Freshness -/

/-- What has come since `base`: bodies, and calls of `get_info_snapshot` that give what some of
the calls of `parse_info` completed since have left. -/
structure Since (base s : sharing.State) : Prop where
  bodies : (networkThread base).bodies <+: (networkThread s).bodies
  calls : ∃ new, (screenThread s).calls = (screenThread base).calls ++ new ∧
    ∀ call ∈ new, call.result = true →
      ∃ k, (networkThread base).bodies.length ≤ k ∧ k ≤ (networkThread s).bodies.length ∧
        call.after = afterCalls ((networkThread s).bodies.take k)

theorem since_refl (s : sharing.State) : Since s s :=
  ⟨List.prefix_refl _, [], (List.append_nil _).symm, nofun⟩

section Steps

variable {base s s' : sharing.State}

/-- More bodies change no snapshot. -/
theorem Since.network (h : Since base s) {more : List CStr}
    (network : (networkThread s').bodies = (networkThread s).bodies ++ more)
    (screen : screenThread s' = screenThread s) : Since base s' := by
  obtain ⟨bodies, new, calls, given⟩ := h
  refine ⟨network ▸ bodies.trans (List.prefix_append _ _), new, screen ▸ calls, ?_⟩
  intro call member result
  obtain ⟨k, low, high, whole⟩ := given call member result
  refine ⟨k, low, ?_, ?_⟩
  · rw [network, List.length_append]
    exact Nat.le_add_right_of_le high
  · rw [network, List.take_append_of_le_length high, whole]

/-- The screen thread goes on; only its unlock completes a call. -/
theorem Since.screen (h : Since base s) (copied : (screenThread s).Copied (afterCalls (networkThread s).bodies))
    {out : InfoData} (screen : screenThread s' = (screenThread s).next out s.data)
    (network : networkThread s' = networkThread s) : Since base s' := by
  obtain ⟨bodies, new, calls, given⟩ := h
  refine ⟨network ▸ bodies, ?_⟩
  rw [screen, network]
  generalize screenThread s = l at calls copied
  obtain ⟨pc, out', before, calls'⟩ := l
  cases pc with
  | idle => exact ⟨new, calls, given⟩
  | lock => exact ⟨new, calls, given⟩
  | copy rest => cases rest <;> exact ⟨new, calls, given⟩
  | unlock =>
    obtain rfl : out' = afterCalls (networkThread s).bodies := copied
    refine ⟨new ++ [⟨before, true, afterCalls (networkThread s).bodies⟩], ?_, ?_⟩
    · rw [← List.append_assoc, ← calls]
      rfl
    · intro call member result
      rcases List.mem_append.1 member with old | now
      · exact given call old result
      · obtain rfl := List.mem_singleton.1 now
        exact ⟨(networkThread s).bodies.length, bodies.length_le, Nat.le_refl _, by rw [List.take_length]⟩

/-- A call that gives up gives nothing. -/
theorem Since.giveUp (h : Since base s) (screen : screenThread s' = (screenThread s).give false)
    (network : networkThread s' = networkThread s) : Since base s' := by
  obtain ⟨bodies, new, calls, given⟩ := h
  refine ⟨network ▸ bodies, new ++ [⟨(screenThread s).before, false, (screenThread s).out⟩], ?_, ?_⟩
  · rw [screen, ← List.append_assoc, ← calls]
    rfl
  · rw [network]
    intro call member result
    rcases List.mem_append.1 member with old | now
    · exact given call old result
    · obtain rfl := List.mem_singleton.1 now
      cases result

end Steps

theorem since_step (base s : sharing.State) (move : Program.Move InfoUser Given) (s' : sharing.State)
    (h : (Program.Owned sharingOutline s ∧ Untorn s) ∧ Since base s) (taken : sharing.step s move = some s') :
    (Program.Owned sharingOutline s' ∧ Untorn s') ∧ Since base s' := by
  obtain ⟨⟨owned, untorn⟩, since⟩ := h
  refine ⟨untorn_step s move s' ⟨owned, untorn⟩ taken, ?_⟩
  rcases Program.step_cases taken with ⟨t, o, mutexes, -, rfl⟩ | ⟨t, m, timed, rfl⟩
  · cases t with
    | network =>
      rcases Parser.bodies_next (networkThread s) o.body s.data with same | ⟨-, json, more⟩
      · exact @Since.network _ s _ since [] (same.trans (List.append_nil _).symm) rfl
      · exact @Since.network _ s _ since [json] more rfl
    | screen => exact @Since.screen _ s _ since untorn.copied o.out rfl rfl
  · cases t with
    | network => exact @Since.network _ s _ since [] (List.append_nil _).symm rfl
    | screen => exact @Since.giveUp _ s _ since rfl rfl

theorem since_of_run {before after : List (Program.Move InfoUser Given)} {s s' : sharing.State}
    (ran : Run.run sharing.step sharingBoot before = some s) (ran' : Run.run sharing.step s after = some s') :
    Since s s' := by
  have owned : Program.Owned sharingOutline sharingBoot := by
    intro t m
    cases t with
    | network => rfl
    | screen => rfl
  have there := Run.run_invariant untorn_step ⟨owned, untorn_boot⟩ ran
  exact (Run.run_invariant (since_step s) ⟨there, since_refl s⟩ ran').2

/-- **Snapshots are fresh.** Take any moment of any run of the two threads. A call of
`get_info_snapshot` that returns true after it has in each text member the last text that the
calls of `parse_info` found for it, up to some call not earlier than the last one completed at
that moment. -/
theorem snapshots_fresh {before after : List (Program.Move InfoUser Given)} {s s' : sharing.State}
    (ran : Run.run sharing.step sharingBoot before = some s) (ran' : Run.run sharing.step s after = some s') :
    (networkThread s).bodies <+: (networkThread s').bodies ∧
      ∃ new, (screenThread s').calls = (screenThread s).calls ++ new ∧
        ∀ call ∈ new, call.result = true →
          ∃ k, (networkThread s).bodies.length ≤ k ∧ k ≤ (networkThread s').bodies.length ∧
            ∀ f : InfoField, (f.get call.after).text = lastText f ((networkThread s').bodies.take k) := by
  obtain ⟨bodies, new, calls, given⟩ := since_of_run ran ran'
  refine ⟨bodies, new, calls, ?_⟩
  intro call member result
  obtain ⟨k, low, high, whole⟩ := given call member result
  refine ⟨k, low, high, fun f => ?_⟩
  rw [whole, text_afterCalls]

/-- A call of `parse_info` is completed, and then a snapshot is taken. -/
theorem snapshots_fresh_oslo :
    ∃ s s', Run.run sharing.step sharingBoot (List.replicate 17 (.go .network cityAndOld)) = some s ∧
      Run.run sharing.step s (List.replicate 11 (.go .screen cityAndOld)) = some s' ∧
      (networkThread s).bodies.length = 1 ∧
      (networkThread s).bodies <+: (networkThread s').bodies ∧
      ∃ new, (screenThread s').calls = (screenThread s).calls ++ new ∧
        ∀ call ∈ new, call.result = true →
          ∃ k, (networkThread s).bodies.length ≤ k ∧ k ≤ (networkThread s').bodies.length ∧
            ∀ f : InfoField, (f.get call.after).text = lastText f ((networkThread s').bodies.take k) :=
  ⟨_, _, rfl, rfl, rfl, @snapshots_fresh (List.replicate 17 (.go .network cityAndOld))
    (List.replicate 11 (.go .screen cityAndOld)) _ _ rfl rfl⟩

end SmartClock.Net
