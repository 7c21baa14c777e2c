import SmartClock.Net.ParseInfo
import SmartClock.Net.Threads

/-!
# Snapshots of `g_info`

`parse_info` writes `g_info` in place, a byte at a time, with each terminator last, and
`get_info_snapshot` copies it member by member, both under `info_mutex`. As a program of two
threads, with one step for each lock, write, copy and unlock. `finish` is what the rest of a
`parse_info` will have written, and no step of the loops changes it (`finish_write`), so the
bytes add up to `parseInfo`. `snapshots_never_torn` is for any number of calls of both.
-/

namespace SmartClock.Net

open Text Sync

/-! ## `parse_info`, byte by byte -/

/-- Where the network thread is in `parse_info`. -/
inductive ParsePc where
  | idle
  | lock (json : CStr)
  /-- At the head of the loop over the table, with the rows that are left. -/
  | row (json : CStr) (rest : List InfoField)
  /-- In the copy loop of a row: its stop bytes, `pos` and `j`. -/
  | copy (json : CStr) (f : InfoField) (stop : UInt8 → Bool) (pos : List UInt8) (j : Fin infoStrLen)
    (rest : List InfoField)
  | ready (json : CStr)
  | unlock (json : CStr)

/-- Behind the blanks and the quote: the stop bytes of the value, and `pos`. -/
def valueStart (pos : List UInt8) : (UInt8 → Bool) × List UInt8 :=
  match skipBlanks pos with
  | 34 :: pos => (endsQuoted, pos)
  | pos => (endsBare, pos)

/-- `fields[i].dest[j] = b;` -/
def InfoField.write (f : InfoField) (j : Fin infoStrLen) (b : UInt8) (g : InfoData) : InfoData :=
  f.set ((f.get g).set j b j.isLt) g

theorem InfoField.set_write (f : InfoField) (j : Fin infoStrLen) (b : UInt8) (v : InfoStr) (g : InfoData) :
    f.set v (f.write j b g) = f.set v g := by
  cases f <;> rfl

theorem InfoField.get_write (f : InfoField) (j : Fin infoStrLen) (b : UInt8) (g : InfoData) :
    f.get (f.write j b g) = (f.get g).set j b j.isLt := by
  rw [write, get_set_self]

theorem valueText_start (pos : List UInt8) :
    valueText pos = fieldText infoStrLen (valueStart pos).1 (valueStart pos).2 := by
  by_cases quoted : ∃ rest, skipBlanks pos = 34 :: rest
  · obtain ⟨rest, opens⟩ := quoted
    rw [(valueText_quoted opens).1]
    simp only [valueStart, opens]
  · have bare : ∀ rest, skipBlanks pos ≠ 34 :: rest := fun rest opens => quoted ⟨rest, opens⟩
    have start : valueStart pos = (endsBare, skipBlanks pos) := by
      unfold valueStart
      split
      · rename_i rest opens
        exact absurd opens (bare rest)
      · rfl
    rw [(valueText_bare bare).1, start]

theorem scanValue_start (size : 0 < infoStrLen) (dest : InfoStr) (pos : List UInt8) :
    (scanValue dest pos).1 = (copyField size (valueStart pos).1 dest (valueStart pos).2).1 := by
  rw [scanValue_eq, copyField_eq, valueText_start]

theorem infoStrLen_pos : 0 < infoStrLen := by decide

theorem room_after {stop : UInt8 → Bool} {b : UInt8} {j : Fin infoStrLen}
    (more : stop b = false ∧ j.val < infoStrLen - 1) : j.val + 1 < infoStrLen :=
  Nat.add_lt_of_lt_sub more.2

namespace ParsePc

/-- One step between the lock and the unlock, on `g_info`. -/
def write : ParsePc → InfoData → ParsePc × InfoData
  | row json (f :: rest), g =>
    match find f.key json.1 with
    | none => (row json rest, g)
    | some i =>
      let (stop, pos) := valueStart (json.1.drop (i + f.key.length))
      (copy json f stop pos ⟨0, infoStrLen_pos⟩ rest, g)
  | row json [], g => (ready json, g)
  | copy json f _ [] j rest, g => (row json rest, f.write j 0 g)
  | copy json f stop (b :: pos) j rest, g =>
    if more : stop b = false ∧ j.val < infoStrLen - 1 then
      (copy json f stop pos ⟨j.val + 1, room_after more⟩ rest, f.write j b g)
    else (row json rest, f.write j 0 g)
  | ready json, g => (unlock json, { g with ready := true })
  | pc, g => (pc, g)

/-- `g_info` when this call of `parse_info` is through. -/
def finish : ParsePc → InfoData → InfoData
  | row json rest, g => { rest.foldl (parseField json) g with ready := true }
  | copy json f stop pos j rest, g =>
    let (dest, j, _) := copyUntil stop (f.get g) j pos
    { rest.foldl (parseField json) (f.set (dest.set j 0 j.isLt) g) with ready := true }
  | ready _, g => { g with ready := true }
  | idle, g | lock _, g | unlock _, g => g

/-- A row of the table: from its key on, the copy loop will do what `parseField` does. -/
theorem finish_row (json : CStr) (f : InfoField) (rest : List InfoField) (g : InfoData) :
    ((row json (f :: rest)).write g).1.finish ((row json (f :: rest)).write g).2 =
      (row json (f :: rest)).finish g := by
  simp only [write, finish, List.foldl_cons, parseField]
  cases found : find f.key json.1 with
  | none => rfl
  | some i =>
    simp only [scanValue_start infoStrLen_pos]
    rfl

/-- One pass of the copy loop, or its terminator. -/
theorem finish_copy (json : CStr) (f : InfoField) (stop : UInt8 → Bool) (pos : List UInt8)
    (j : Fin infoStrLen) (rest : List InfoField) (g : InfoData) :
    ((copy json f stop pos j rest).write g).1.finish ((copy json f stop pos j rest).write g).2 =
      (copy json f stop pos j rest).finish g := by
  cases pos with
  | nil => rfl
  | cons b pos =>
    by_cases more : stop b = false ∧ j.val < infoStrLen - 1
    · simp only [write, dif_pos more, finish, InfoField.get_write, InfoField.set_write,
        copyUntil_cons more.1 more.2]
    · have ended : copyUntil stop (f.get g) j (b :: pos) = (f.get g, j, b :: pos) := by
        rw [copyUntil, dif_neg more]
      simp only [write, dif_neg more, finish, ended]
      rfl

/-- **The writes add up**: no step changes what the call will have written. -/
theorem finish_write (pc : ParsePc) (g : InfoData) :
    (pc.write g).1.finish (pc.write g).2 = pc.finish g := by
  cases pc with
  | row json rest =>
    cases rest with
    | nil => rfl
    | cons f rest => exact finish_row json f rest g
  | copy json f stop pos j rest => exact finish_copy json f stop pos j rest g
  | ready json => rfl
  | idle | lock _ | unlock _ => rfl

end ParsePc

/-- The network thread, with the bodies of the calls it has completed. -/
structure Parser where
  pc : ParsePc
  bodies : List CStr

/-- One step of `parse_info`; between two calls, the next one with some body. -/
def Parser.next (l : Parser) (body : CStr) (g : InfoData) : Parser × InfoData :=
  match l.pc with
  | .idle => ({ l with pc := .lock body }, g)
  | .lock json => ({ l with pc := .row json fields }, g)
  | .unlock json => ({ pc := .idle, bodies := l.bodies ++ [json] }, g)
  | pc => ({ l with pc := (pc.write g).1 }, (pc.write g).2)

def ParsePc.instr : ParsePc → Instr Mutex
  | lock _ => .lock .info
  | unlock _ => .unlock .info
  | _ => .work

/-! ## `get_info_snapshot`, member by member -/

/-- A call that has returned: the caller's structure before it, its result, the structure
after it. -/
structure Snapshot where
  before : InfoData
  result : Bool
  after : InfoData

/-- Where the screen thread is in `get_info_snapshot`. -/
inductive SnapshotPc where
  | idle
  | lock
  /-- In `*out = g_info`, with the text members that are left; `ready` is the last one. -/
  | copy (rest : List InfoField)
  | unlock

/-- The screen thread: `*out`, what it was when the call began, and the calls before. -/
structure Screen where
  pc : SnapshotPc
  out : InfoData
  before : InfoData
  calls : List Snapshot

/-- The call returns. -/
def Screen.give (l : Screen) (result : Bool) : Screen :=
  { l with pc := .idle, calls := l.calls ++ [{ before := l.before, result, after := l.out }] }

/-- One step of `get_info_snapshot`; between two calls, the next one with some structure. -/
def Screen.next (l : Screen) (out g : InfoData) : Screen :=
  match l.pc with
  | .idle => { l with pc := .lock, out, before := out }
  | .lock => { l with pc := .copy fields }
  | .copy (f :: rest) => { l with pc := .copy rest, out := f.set (f.get g) l.out }
  | .copy [] => { l with pc := .unlock, out := { l.out with ready := g.ready } }
  | .unlock => l.give true

def SnapshotPc.instr : SnapshotPc → Instr Mutex
  | lock => .timedLock .info
  | unlock => .unlock .info
  | _ => .work

/-! ## The program -/

inductive InfoUser where
  | network
  | screen
deriving DecidableEq

/-- What the next call of either is given. -/
structure Given where
  body : CStr
  out : InfoData

def userLocal : InfoUser → Type
  | .network => Parser
  | .screen => Screen

/-- The two threads that share `g_info`. -/
def sharing : Program InfoUser Mutex InfoData Given where
  Local := userLocal
  instr
    | .network, (l : Parser) => l.pc.instr
    | .screen, (l : Screen) => l.pc.instr
  next
    | .network, (l : Parser), o, g => l.next o.body g
    | .screen, (l : Screen), o, g => (l.next o.out g, g)
  giveUp
    | .network, l => l
    | .screen, (l : Screen) => l.give false

def sharingStart : (t : InfoUser) → userLocal t
  | .network => (⟨.idle, []⟩ : Parser)
  | .screen => (⟨.idle, gInfo, gInfo, []⟩ : Screen)

def sharingBoot : sharing.State where
  locals := sharingStart
  mutexes _ := none
  data := gInfo

/-- The network thread in a state. -/
def networkThread (s : sharing.State) : Parser := s.locals .network

/-- The screen thread in a state. -/
def screenThread (s : sharing.State) : Screen := s.locals .screen

/-- The value of `g_info` after these calls of `parse_info`, one after the other. -/
def afterCalls (bodies : List CStr) : InfoData := bodies.foldl (fun g json => parseInfo json g) gInfo

/-! ## What is held where -/

def ParsePc.held : ParsePc → List Mutex
  | idle | lock _ => []
  | _ => [.info]

def SnapshotPc.held : SnapshotPc → List Mutex
  | idle | lock => []
  | _ => [.info]

open Instr

/-- The body of a call between its lock and its unlock. -/
def ParsePc.locked : ParsePc → Option CStr
  | idle | lock _ => none
  | row json _ | copy json _ _ _ _ _ | ready json | unlock json => some json

theorem ParsePc.locked_write (pc : ParsePc) (g : InfoData) : (pc.write g).1.locked = pc.locked := by
  cases pc with
  | row json rest =>
    cases rest with
    | nil => rfl
    | cons f rest =>
      simp only [write]
      cases find f.key json.1 <;> rfl
  | copy json f stop pos j rest =>
    cases pos with
    | nil => rfl
    | cons b pos =>
      simp only [write]
      split <;> rfl
  | _ => rfl

theorem ParsePc.held_eq (pc : ParsePc) : pc.held = pc.locked.elim [] fun _ => [.info] := by
  cases pc <;> rfl

/-- The writes do not touch the mutex. -/
theorem ParsePc.held_write (pc : ParsePc) (g : InfoData) : (pc.write g).1.held = pc.held := by
  rw [held_eq, held_eq, locked_write]

theorem Parser.held_next (l : Parser) (body : CStr) (g : InfoData) (m : Mutex) :
    (l.next body g).1.pc.held.count m + l.pc.instr.unlocks m =
      l.pc.held.count m + l.pc.instr.locks m := by
  obtain ⟨pc, bodies⟩ := l
  cases pc with
  | idle => rfl
  | lock json => simp [next, ParsePc.held, ParsePc.instr, unlocks, locks, Mutex.count_singleton]
  | unlock json => simp [next, ParsePc.held, ParsePc.instr, unlocks, locks, Mutex.count_singleton]
  | row json rest => exact congrArg (List.count m) (ParsePc.held_write _ g)
  | copy json f stop pos j rest => exact congrArg (List.count m) (ParsePc.held_write _ g)
  | ready json => exact congrArg (List.count m) (ParsePc.held_write _ g)

theorem Screen.held_next (l : Screen) (out g : InfoData) (m : Mutex) :
    (l.next out g).pc.held.count m + l.pc.instr.unlocks m =
      l.pc.held.count m + l.pc.instr.locks m := by
  obtain ⟨pc, out', before, calls⟩ := l
  cases pc with
  | idle => rfl
  | lock => simp [next, SnapshotPc.held, SnapshotPc.instr, unlocks, locks, Mutex.count_singleton]
  | copy rest => cases rest <;> rfl
  | unlock =>
    simp [next, give, SnapshotPc.held, SnapshotPc.instr, unlocks, locks, Mutex.count_singleton]

/-- Which mutexes each thread holds at each of its steps. -/
def sharingOutline : sharing.Outline where
  holds
    | .network, (l : Parser), m => l.pc.held.count m
    | .screen, (l : Screen), m => l.pc.held.count m
  go t l o g m := by
    cases t with
    | network => exact Parser.held_next l o.body g m
    | screen => exact Screen.held_next l o.out g m
  giveUp t l m' timed m := by
    cases t with
    | network => rfl
    | screen =>
      obtain ⟨pc, out, before, calls⟩ : Screen := l
      cases pc with
      | lock => rfl
      | _ => cases timed

/-! ## The network thread's side -/

/-- What `g_info` is when the call in progress is through, from what it was before it. -/
def ParsePc.goal : ParsePc → InfoData → InfoData
  | idle, g | lock _, g => g
  | row json _, g | copy json _ _ _ _ _, g | ready json, g | unlock json, g => parseInfo json g

theorem ParsePc.goal_eq (pc : ParsePc) (g : InfoData) :
    pc.goal g = pc.locked.elim g fun json => parseInfo json g := by
  cases pc <;> rfl

theorem ParsePc.goal_write (pc : ParsePc) (g g' : InfoData) : (pc.write g).1.goal g' = pc.goal g' := by
  rw [goal_eq, goal_eq, locked_write]

/-- The bytes written so far and those to come are what the calls should make of `g_info`. -/
def Parser.OnCourse (l : Parser) (g : InfoData) : Prop := l.pc.finish g = l.pc.goal (afterCalls l.bodies)

theorem afterCalls_append (bodies : List CStr) (json : CStr) :
    afterCalls (bodies ++ [json]) = parseInfo json (afterCalls bodies) := by
  rw [afterCalls, List.foldl_append]
  rfl

theorem Parser.OnCourse.write {l : Parser} {g : InfoData} (h : l.OnCourse g) :
    Parser.OnCourse { l with pc := (l.pc.write g).1 } (l.pc.write g).2 := by
  unfold OnCourse at *
  rw [ParsePc.finish_write, ParsePc.goal_write, h]

theorem Parser.OnCourse.next {l : Parser} {g : InfoData} (h : l.OnCourse g) (body : CStr) :
    (l.next body g).1.OnCourse (l.next body g).2 := by
  obtain ⟨pc, bodies⟩ := l
  cases pc with
  | idle => exact h
  | lock json =>
    have whole : g = afterCalls bodies := h
    show parseInfo json g = parseInfo json (afterCalls bodies)
    rw [whole]
  | unlock json =>
    have whole : g = parseInfo json (afterCalls bodies) := h
    show g = afterCalls (bodies ++ [json])
    rw [whole, afterCalls_append]
  | row json rest => exact h.write
  | copy json f stop pos j rest => exact h.write
  | ready json => exact h.write

/-- Outside of the lock `g_info` is what the completed calls have made of it. -/
theorem Parser.OnCourse.whole {l : Parser} {g : InfoData} (h : l.OnCourse g) (outside : l.pc.held = []) :
    g = afterCalls l.bodies := by
  obtain ⟨pc, bodies⟩ := l
  cases pc with
  | idle => exact h
  | lock json => exact h
  | _ => cases outside

/-- A call is completed by its unlock. -/
theorem Parser.bodies_next (l : Parser) (body : CStr) (g : InfoData) :
    (l.next body g).1.bodies = l.bodies ∨
      l.pc.held = [.info] ∧ ∃ json, (l.next body g).1.bodies = l.bodies ++ [json] := by
  obtain ⟨pc, bodies⟩ := l
  cases pc with
  | unlock json => exact .inr ⟨rfl, json, rfl⟩
  | _ => exact .inl rfl

/-! ## The screen thread's side -/

/-- What the call in progress has copied is what the completed calls have made of `g_info`. -/
def Screen.Copied (l : Screen) (g : InfoData) : Prop :=
  match l.pc with
  | .idle => True
  | .lock => l.out = l.before
  | .copy rest => ∀ f : InfoField, f ∉ rest → f.get l.out = f.get g
  | .unlock => l.out = g

/-- A call gave what whole calls of `parse_info` have left, or nothing. -/
def Snapshot.Whole (bodies : List CStr) (call : Snapshot) : Prop :=
  (call.result = true → ∃ k ≤ bodies.length, call.after = afterCalls (bodies.take k)) ∧
    (call.result = false → call.after = call.before)

theorem Snapshot.Whole.append {bodies : List CStr} {call : Snapshot} (h : call.Whole bodies)
    (json : CStr) : call.Whole (bodies ++ [json]) := by
  refine ⟨?_, h.2⟩
  intro given
  obtain ⟨k, le, whole⟩ := h.1 given
  refine ⟨k, ?_, ?_⟩
  · rw [List.length_append]
    exact Nat.le_add_right_of_le le
  · rw [List.take_append_of_le_length le, whole]

theorem mem_fields (f : InfoField) : f ∈ fields := by
  cases f <;> decide

theorem Screen.Copied.next {l : Screen} {g : InfoData} (h : l.Copied g) (out : InfoData) {g' : InfoData}
    (seen : l.pc.held = [.info] → g' = g) : (l.next out g').Copied g := by
  obtain ⟨pc, out', before, calls⟩ := l
  cases pc with
  | idle => exact rfl
  | lock =>
    intro f outside
    exact absurd (mem_fields f) outside
  | copy rest =>
    obtain rfl := seen rfl
    cases rest with
    | nil =>
      apply InfoData.ext_get
      · intro f
        have copied := h f List.not_mem_nil
        cases f <;> exact copied
      · rfl
    | cons f rest =>
      intro f' outside
      by_cases same : f = f'
      · subst same
        exact InfoField.get_set_self f _ out'
      · refine (InfoField.get_set_other same _ out').trans (h f' ?_)
        intro inside
        rcases List.mem_cons.1 inside with rfl | later
        · exact same rfl
        · exact outside later
  | unlock => trivial

theorem Screen.calls_next {l : Screen} {bodies : List CStr} (h : l.Copied (afterCalls bodies))
    (calls : ∀ call ∈ l.calls, call.Whole bodies) (out g : InfoData) :
    ∀ call ∈ (l.next out g).calls, call.Whole bodies := by
  obtain ⟨pc, out', before, calls'⟩ := l
  cases pc with
  | idle => exact calls
  | lock => exact calls
  | copy rest => cases rest <;> exact calls
  | unlock =>
    intro call member
    rcases List.mem_append.1 member with old | new
    · exact calls call old
    · obtain rfl := List.mem_singleton.1 new
      refine ⟨fun _ => ⟨bodies.length, Nat.le_refl _, ?_⟩, nofun⟩
      rw [List.take_length]
      exact h

theorem Screen.calls_giveUp {l : Screen} {bodies : List CStr} {g : InfoData} (h : l.Copied g)
    (waiting : l.pc = .lock) (calls : ∀ call ∈ l.calls, call.Whole bodies) :
    ∀ call ∈ (l.give false).calls, call.Whole bodies := by
  intro call member
  rcases List.mem_append.1 member with old | new
  · exact calls call old
  · obtain rfl := List.mem_singleton.1 new
    refine ⟨nofun, ?_⟩
    intro _
    rw [Screen.Copied, waiting] at h
    exact h

theorem Screen.Copied.outside {l : Screen} {g : InfoData} (h : l.Copied g) (outside : l.pc.held = [])
    (g' : InfoData) : l.Copied g' := by
  obtain ⟨pc, out, before, calls⟩ := l
  cases pc with
  | idle => trivial
  | lock => exact h
  | _ => cases outside

/-! ## Over every run -/

theorem ParsePc.held_cases (pc : ParsePc) : pc.held = [] ∨ pc.held = [.info] := by
  cases pc with
  | idle | lock _ => exact .inl rfl
  | _ => exact .inr rfl

theorem SnapshotPc.held_cases (pc : SnapshotPc) : pc.held = [] ∨ pc.held = [.info] := by
  cases pc with
  | idle | lock => exact .inl rfl
  | _ => exact .inr rfl

/-- One of the two is outside of the lock. -/
theorem outside_or (s : sharing.State) (owned : Program.Owned sharingOutline s) :
    (networkThread s).pc.held = [] ∨ (screenThread s).pc.held = [] := by
  rcases ParsePc.held_cases (networkThread s).pc with outside | parsing
  · exact .inl outside
  rcases SnapshotPc.held_cases (screenThread s).pc with outside | copying
  · exact .inr outside
  have networkOwns : 0 < sharingOutline.holds .network (s.locals .network) .info := by
    show 0 < (networkThread s).pc.held.count .info
    rw [parsing]
    exact Nat.zero_lt_one
  have screenOwns : 0 < sharingOutline.holds .screen (s.locals .screen) .info := by
    show 0 < (screenThread s).pc.held.count .info
    rw [copying]
    exact Nat.zero_lt_one
  cases owned.exclusive networkOwns screenOwns

/-- `g_info` is on its way to what the calls make of it, the screen thread copies none of it
but what whole calls have left, and every call of its own that is over did so. -/
structure Untorn (s : sharing.State) : Prop where
  course : (networkThread s).OnCourse s.data
  copied : (screenThread s).Copied (afterCalls (networkThread s).bodies)
  calls : ∀ call ∈ (screenThread s).calls, call.Whole (networkThread s).bodies

theorem untorn_boot : Untorn sharingBoot where
  course := rfl
  copied := trivial
  calls := nofun

section Steps

variable {s s' : sharing.State}

theorem Untorn.network (h : Untorn s) (owned : Program.Owned sharingOutline s) (body : CStr)
    (network : networkThread s' = ((networkThread s).next body s.data).1)
    (data : s'.data = ((networkThread s).next body s.data).2)
    (screen : screenThread s' = screenThread s) : Untorn s' := by
  have course : (networkThread s').OnCourse s'.data := by
    rw [network, data]
    exact h.course.next body
  rcases Parser.bodies_next (networkThread s) body s.data with same | ⟨parsing, json, more⟩
  · refine ⟨course, ?_, ?_⟩
    · rw [screen, network, same]
      exact h.copied
    · rw [screen, network, same]
      exact h.calls
  · -- the unlock: the screen thread is outside
    have outside : (screenThread s).pc.held = [] := by
      apply (outside_or s owned).resolve_left
      rw [parsing]
      exact List.cons_ne_nil _ _
    refine ⟨course, ?_, ?_⟩
    · rw [screen]
      exact h.copied.outside outside _
    · rw [screen, network, more]
      intro call member
      apply Snapshot.Whole.append
      exact h.calls call member

theorem Untorn.screen (h : Untorn s) (owned : Program.Owned sharingOutline s) (out : InfoData)
    (screen : screenThread s' = (screenThread s).next out s.data) (data : s'.data = s.data)
    (network : networkThread s' = networkThread s) : Untorn s' := by
  have seen : (screenThread s).pc.held = [.info] → s.data = afterCalls (networkThread s).bodies := by
    intro copying
    apply h.course.whole
    apply (outside_or s owned).resolve_right
    rw [copying]
    exact List.cons_ne_nil _ _
  refine ⟨?_, ?_, ?_⟩
  · rw [network, data]
    exact h.course
  · rw [network, screen]
    exact h.copied.next out seen
  · rw [network, screen]
    exact Screen.calls_next h.copied h.calls out s.data

theorem Untorn.giveUp (h : Untorn s) (waiting : (screenThread s).pc = .lock)
    (screen : screenThread s' = (screenThread s).give false) (data : s'.data = s.data)
    (network : networkThread s' = networkThread s) : Untorn s' := by
  refine ⟨?_, ?_, ?_⟩
  · rw [network, data]
    exact h.course
  · rw [screen]
    trivial
  · rw [network, screen]
    exact Screen.calls_giveUp h.copied waiting h.calls

theorem untorn_step (s : sharing.State) (move : Program.Move InfoUser Given) (s' : sharing.State)
    (h : Program.Owned sharingOutline s ∧ Untorn s) (taken : sharing.step s move = some s') :
    Program.Owned sharingOutline s' ∧ Untorn s' := by
  obtain ⟨owned, untorn⟩ := h
  refine ⟨Program.owned_step s move s' owned taken, ?_⟩
  rcases Program.step_cases taken with ⟨t, o, mutexes, -, rfl⟩ | ⟨t, m, timed, rfl⟩
  · cases t with
    | network => exact untorn.network owned o.body rfl rfl rfl
    | screen => exact untorn.screen owned o.out rfl rfl rfl
  · cases t with
    | network =>
      -- `parse_info` waits forever
      have timed : (networkThread s).pc.instr = .timedLock m := timed
      cases pc : (networkThread s).pc with
      | _ =>
        rw [pc] at timed
        cases timed
    | screen =>
      have timed : (screenThread s).pc.instr = .timedLock m := timed
      have waiting : (screenThread s).pc = .lock := by
        cases pc : (screenThread s).pc with
        | lock => rfl
        | _ =>
          rw [pc] at timed
          cases timed
      exact untorn.giveUp waiting rfl rfl rfl

end Steps

theorem untorn_of_run {moves : List (Program.Move InfoUser Given)} {s : sharing.State}
    (ran : Run.run sharing.step sharingBoot moves = some s) : Untorn s := by
  have owned : Program.Owned sharingOutline sharingBoot := by
    intro t m
    cases t with
    | network => rfl
    | screen => rfl
  exact (Run.run_invariant untorn_step ⟨owned, untorn_boot⟩ ran).2

/-! ## The terminators -/

/-- Every text member has a NUL. -/
def InfoData.Terminated (g : InfoData) : Prop := ∀ f : InfoField, ∃ i, (f.get g).get i = 0

theorem terminated_gInfo : gInfo.Terminated := by
  intro f
  refine ⟨⟨0, infoStrLen_pos⟩, ?_⟩
  cases f <;> rfl

/-- `parse_info` writes no text without its terminator. -/
theorem InfoData.Terminated.parseInfo {g : InfoData} (h : g.Terminated) (json : CStr) :
    (parseInfo json g).Terminated := by
  intro f
  rw [parseInfo_get]
  cases found : scanned f json.1 with
  | none => exact h f
  | some text =>
    have fits := (scanned_ok json.2 found).2
    refine ⟨⟨text.length, fits⟩, ?_⟩
    show (storeText (f.get g) text)[text.length] = 0
    simp [storeText]

theorem terminated_afterCalls (bodies : List CStr) : (afterCalls bodies).Terminated := by
  have onward : ∀ g : InfoData, g.Terminated →
      (bodies.foldl (fun g json => parseInfo json g) g).Terminated := by
    induction bodies with
    | nil =>
      intro g h
      exact h
    | cons json bodies ih =>
      intro g h
      apply ih
      exact h.parseInfo json
  exact onward gInfo terminated_gInfo

/-- **Snapshots are whole.** However the network thread's calls of `parse_info` and the screen
thread's of `get_info_snapshot` take turns: a call that returns true gives the value `g_info`
had after some of the completed calls of `parse_info`, with a NUL in every text member, one
that returns false leaves the caller's structure as it was. -/
theorem snapshots_never_torn {moves : List (Program.Move InfoUser Given)} {s : sharing.State}
    (ran : Run.run sharing.step sharingBoot moves = some s) :
    ((networkThread s).pc = .idle → s.data = afterCalls (networkThread s).bodies) ∧
      ∀ call ∈ (screenThread s).calls,
        (call.result = true →
          (∃ k ≤ (networkThread s).bodies.length,
            call.after = afterCalls ((networkThread s).bodies.take k)) ∧
          ∀ f : InfoField, ∃ i, (f.get call.after).get i = 0) ∧
        (call.result = false → call.after = call.before) := by
  have untorn := untorn_of_run ran
  refine ⟨?_, ?_⟩
  · intro idle
    apply untorn.course.whole
    rw [idle]
    rfl
  · intro call member
    obtain ⟨given, refused⟩ := untorn.calls call member
    refine ⟨?_, refused⟩
    intro result
    obtain ⟨k, le, whole⟩ := given result
    refine ⟨⟨k, le, whole⟩, ?_⟩
    rw [whole]
    exact terminated_afterCalls _

/-- A structure of a caller's, which still holds an old snapshot, and the next body. -/
def cityAndOld : Given where
  body := ⟨ascii "\x7b\"city\": \"Oslo\"\x7d", by decide +kernel⟩
  out := { gInfo with ready := true }

/-- A snapshot that times out behind the third byte of the city, and one after the call. -/
def timedOutThenCopied : List (Program.Move InfoUser Given) :=
  List.replicate 6 (.go .network cityAndOld) ++ [.go .screen cityAndOld, .timeout .screen] ++
    List.replicate 11 (.go .network cityAndOld) ++ List.replicate 11 (.go .screen cityAndOld)

theorem snapshots_never_torn_oslo :
    ∃ s, Run.run sharing.step sharingBoot timedOutThenCopied = some s ∧
      (screenThread s).calls.map (·.result) = [false, true] ∧
      ((networkThread s).pc = .idle → s.data = afterCalls (networkThread s).bodies) ∧
      ∀ call ∈ (screenThread s).calls,
        (call.result = true →
          (∃ k ≤ (networkThread s).bodies.length,
            call.after = afterCalls ((networkThread s).bodies.take k)) ∧
          ∀ f : InfoField, ∃ i, (f.get call.after).get i = 0) ∧
        (call.result = false → call.after = call.before) :=
  ⟨_, rfl, rfl, @snapshots_never_torn timedOutThenCopied _ rfl⟩

end SmartClock.Net
