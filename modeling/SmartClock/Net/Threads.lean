import SmartClock.Sync.Locks

/-!
# The threads and their mutexes

The request cycles of the `/info` thread and of the `/news` thread, and the screen thread's
snapshots, as a program of three threads. The two copies of `http_request` lock differently:
the one of `network_config.c` runs inside `http_mutex` and takes `info_mutex` in
`parse_info`; the one of `networking_config_news.c` locks `http_mutex` itself, from `socket`
to `send`, and has released it when it takes `news_mutex`. `fetchersOutline` says what is
held where, and `openSocket` which socket is open; `lock_and_socket_discipline` follows.
-/

namespace SmartClock.Net

open Sync

/-- The threads that lock mutexes. -/
inductive Locker where
  | info
  | news
  | screen
deriving DecidableEq

instance : Finite Locker :=
  Finite.of_surjective (fun i : Fin 3 => match i with
    | 0 => Locker.info
    | 1 => Locker.news
    | 2 => Locker.screen) fun t => by
      cases t with
      | info => exact ⟨0, rfl⟩
      | news => exact ⟨1, rfl⟩
      | screen => exact ⟨2, rfl⟩

inductive Mutex where
  | http
  | info
  | news
deriving DecidableEq

/-- What a step gets from outside: the value a call returns, and the way a test of received
or shared data goes. -/
structure Outcome where
  ret : Int
  flag : Bool

inductive SocketEvent where
  | opened (sock : Int)
  | closed (sock : Int)
deriving DecidableEq

/-- The receive loop and the parser's critical section, which both copies have. -/
inductive TransferPc where
  | poll
  | recv
  | search
  | lockData
  | parse
  | unlockData
deriving DecidableEq

/-- `none` when only `close` is left. In `poll` the flag is the loop's guard with the two
tests of `r`, in `recv` it is false when all is received, in `search` it is `body != NULL`. -/
def TransferPc.next (o : Outcome) : TransferPc → Option TransferPc
  | poll => some (if o.flag then recv else search)
  | recv => some (if o.ret ≤ 0 then search else if o.flag then poll else search)
  | search => if o.flag then some lockData else none
  | lockData => some parse
  | parse => some unlockData
  | unlockData => none

def TransferPc.instr (data : Mutex) : TransferPc → Instr Mutex
  | lockData => .lock data
  | unlockData => .unlock data
  | _ => .work

/-! ## The `/info` thread -/

/-- `network_config` behind `k_sem_take`, with `http_request` and `parse_info`. -/
inductive InfoPc where
  | lockHttp
  | address
  | socket
  | connect (sock : Int)
  | send (sock : Int)
  | transfer (sock : Int) (pc : TransferPc)
  | close (sock : Int)
  | unlockHttp
  | sleeping
deriving DecidableEq

namespace InfoPc

def next (o : Outcome) : InfoPc → InfoPc × List SocketEvent
  | lockHttp => (address, [])
  | address => (if o.ret < 0 then unlockHttp else socket, [])
  | socket => if o.ret < 0 then (unlockHttp, []) else (connect o.ret, [.opened o.ret])
  | connect sock => (if o.ret < 0 then close sock else send sock, [])
  | send sock => (if o.ret < 0 then close sock else transfer sock .poll, [])
  | transfer sock pc =>
    match pc.next o with
    | some pc => (transfer sock pc, [])
    | none => (close sock, [])
  | close sock => (unlockHttp, [.closed sock])
  | unlockHttp => (sleeping, [])
  | sleeping => (lockHttp, [])

def instr : InfoPc → Instr Mutex
  | lockHttp => .lock .http
  | transfer _ pc => pc.instr .info
  | unlockHttp => .unlock .http
  | _ => .work

/-- Between the start of `socket()` and the end of `send()`. -/
def requesting : InfoPc → Bool
  | socket | connect _ | send _ => true
  | _ => false

def asleep : InfoPc → Bool
  | sleeping => true
  | _ => false

end InfoPc

/-! ## The `/news` thread -/

/-- `network_config_news` behind `k_sem_take`, with `http_request` and `parse_news_titles`. -/
inductive NewsPc where
  | address
  | lockHttp
  | socket
  | unlockNoSocket
  | connect (sock : Int)
  | send (sock : Int)
  | closeFailed (sock : Int)
  | unlockFailed
  | unlockSent (sock : Int)
  | transfer (sock : Int) (pc : TransferPc)
  | close (sock : Int)
  | sleeping
  | sleepingForever
deriving DecidableEq

namespace NewsPc

def next (o : Outcome) : NewsPc → NewsPc × List SocketEvent
  | address => (if o.ret < 0 then sleeping else lockHttp, [])
  | lockHttp => (socket, [])
  | socket => if o.ret < 0 then (unlockNoSocket, []) else (connect o.ret, [.opened o.ret])
  | unlockNoSocket => (sleeping, [])
  | connect sock => (if o.ret < 0 then closeFailed sock else send sock, [])
  | send sock => (if o.ret < 0 then closeFailed sock else unlockSent sock, [])
  | closeFailed sock => (unlockFailed, [.closed sock])
  | unlockFailed => (sleeping, [])
  | unlockSent sock => (transfer sock .poll, [])
  | transfer sock pc =>
    match pc.next o with
    | some pc => (transfer sock pc, [])
    | none => (close sock, [])
  -- the flag is `ret == 0 && g_news.ready`
  | close sock => (if o.flag then sleepingForever else sleeping, [.closed sock])
  | sleeping => (address, [])
  | sleepingForever => (sleepingForever, [])

def instr : NewsPc → Instr Mutex
  | lockHttp => .lock .http
  | unlockNoSocket | unlockFailed | unlockSent _ => .unlock .http
  | transfer _ pc => pc.instr .news
  | _ => .work

/-- Between the start of `socket()` and the end of `send()`. -/
def requesting : NewsPc → Bool
  | socket | connect _ | send _ => true
  | _ => false

def asleep : NewsPc → Bool
  | sleeping | sleepingForever => true
  | _ => false

end NewsPc

/-! ## The screen thread -/

/-- `get_info_snapshot` and `screen_show_news`, whose locks have a time limit. -/
inductive ScreenPc where
  | idle
  | lockInfo
  | copyInfo
  | unlockInfo
  | lockNews
  | copyNews
  | unlockNews
deriving DecidableEq

namespace ScreenPc

def next (o : Outcome) : ScreenPc → ScreenPc
  | idle => if o.flag then lockInfo else lockNews
  | lockInfo => copyInfo
  | copyInfo => unlockInfo
  | lockNews => copyNews
  | copyNews => unlockNews
  | unlockInfo | unlockNews => idle

def instr : ScreenPc → Instr Mutex
  | lockInfo => .timedLock .info
  | unlockInfo => .unlock .info
  | lockNews => .timedLock .news
  | unlockNews => .unlock .news
  | _ => .work

end ScreenPc

/-! ## The program -/

/-- A network thread with the sockets it opened and closed so far. -/
structure Fetcher (Pc : Type) where
  pc : Pc
  log : List SocketEvent

def threadLocal : Locker → Type
  | .info => Fetcher InfoPc
  | .news => Fetcher NewsPc
  | .screen => ScreenPc

def Fetcher.advance {Pc : Type} (l : Fetcher Pc) (next : Pc × List SocketEvent) : Fetcher Pc where
  pc := next.1
  log := l.log ++ next.2

/-- The three threads. What they share besides the mutexes is in the outcomes. -/
def fetchers : Program Locker Mutex Unit Outcome where
  Local := threadLocal
  instr
    | .info, (l : Fetcher InfoPc) => l.pc.instr
    | .news, (l : Fetcher NewsPc) => l.pc.instr
    | .screen, (pc : ScreenPc) => pc.instr
  next
    | .info, (l : Fetcher InfoPc), o, d => (l.advance (l.pc.next o), d)
    | .news, (l : Fetcher NewsPc), o, d => (l.advance (l.pc.next o), d)
    | .screen, (pc : ScreenPc), o, d => (pc.next o, d)
  giveUp
    | .info, l => l
    | .news, l => l
    | .screen, _ => ScreenPc.idle

def fetchersStart : (t : Locker) → threadLocal t
  | .info => (⟨.lockHttp, []⟩ : Fetcher InfoPc)
  | .news => (⟨.address, []⟩ : Fetcher NewsPc)
  | .screen => ScreenPc.idle

/-- Both network threads have passed their `k_sem_take`. -/
def fetchersBoot : fetchers.State where
  locals := fetchersStart
  mutexes _ := none
  data := ()

/-- The `/info` thread in a state. -/
def infoThread (s : fetchers.State) : Fetcher InfoPc := s.locals .info

/-- The `/news` thread in a state. -/
def newsThread (s : fetchers.State) : Fetcher NewsPc := s.locals .news

/-! ## What is held where -/

def TransferPc.held (data : Mutex) : TransferPc → List Mutex
  | parse | unlockData => [data]
  | _ => []

def InfoPc.held : InfoPc → List Mutex
  | sleeping | lockHttp => []
  | transfer _ pc => .http :: pc.held .info
  | _ => [.http]

def NewsPc.held : NewsPc → List Mutex
  | socket | connect _ | send _ | closeFailed _ => [.http]
  | unlockNoSocket | unlockFailed | unlockSent _ => [.http]
  | transfer _ pc => pc.held .news
  | _ => []

def ScreenPc.held : ScreenPc → List Mutex
  | copyInfo | unlockInfo => [.info]
  | copyNews | unlockNews => [.news]
  | _ => []

theorem Mutex.count_singleton (m m' : Mutex) : [m'].count m = if m = m' then 1 else 0 := by
  by_cases same : m = m'
  · subst same
    simp
  · simp [same, Ne.symm same]

open Instr

theorem TransferPc.held_next (o : Outcome) (data m : Mutex) (pc : TransferPc) :
    ((pc.next o).elim [] (held data)).count m + (pc.instr data).unlocks m =
      (pc.held data).count m + (pc.instr data).locks m := by
  cases pc with
  | poll => cases flag : o.flag <;> simp [next, held, instr, unlocks, locks, flag]
  | recv =>
    by_cases ended : o.ret ≤ 0
    · simp [next, held, instr, unlocks, locks, ended]
    · cases flag : o.flag <;> simp [next, held, instr, unlocks, locks, ended, flag]
  | search => cases flag : o.flag <;> simp [next, held, instr, unlocks, locks, flag]
  | lockData => simp [next, held, instr, unlocks, locks, Mutex.count_singleton]
  | parse => simp [next, held, instr, unlocks, locks]
  | unlockData => simp [next, held, instr, unlocks, locks, Mutex.count_singleton]

theorem InfoPc.held_next (o : Outcome) (m : Mutex) (pc : InfoPc) :
    (pc.next o).1.held.count m + pc.instr.unlocks m = pc.held.count m + pc.instr.locks m := by
  cases pc with
  | lockHttp => simp [next, held, instr, unlocks, locks, Mutex.count_singleton]
  | address | socket | connect _ | send _ =>
    by_cases failed : o.ret < 0
    · simp [next, held, instr, unlocks, locks, failed]
    · simp [next, held, instr, unlocks, locks, failed, TransferPc.held]
  | transfer sock pc =>
    have inner := TransferPc.held_next o .info m pc
    simp only [next, held, instr, List.count_cons]
    cases rest : pc.next o with
    | none =>
      rw [rest] at inner
      simp only [Option.elim_none, List.count_nil] at inner
      simp only [Mutex.count_singleton]
      grind
    | some pc' =>
      rw [rest] at inner
      simp only [Option.elim_some] at inner
      simp only [List.count_cons]
      omega
  | close _ => simp [next, held, instr, unlocks, locks]
  | unlockHttp => simp [next, held, instr, unlocks, locks, Mutex.count_singleton]
  | sleeping => simp [next, held, instr, unlocks, locks]

theorem NewsPc.held_next (o : Outcome) (m : Mutex) (pc : NewsPc) :
    (pc.next o).1.held.count m + pc.instr.unlocks m = pc.held.count m + pc.instr.locks m := by
  cases pc with
  | lockHttp => simp [next, held, instr, unlocks, locks, Mutex.count_singleton]
  | address | socket | connect _ | send _ =>
    by_cases failed : o.ret < 0
    · simp [next, held, instr, unlocks, locks, failed]
    · simp [next, held, instr, unlocks, locks, failed]
  | unlockNoSocket | unlockFailed | unlockSent _ =>
    simp [next, held, instr, unlocks, locks, Mutex.count_singleton, TransferPc.held]
  | transfer sock pc =>
    have inner := TransferPc.held_next o .news m pc
    simp only [next, held, instr]
    cases rest : pc.next o with
    | none =>
      rw [rest] at inner
      exact inner
    | some pc' =>
      rw [rest] at inner
      exact inner
  | close _ => cases flag : o.flag <;> simp [next, held, instr, unlocks, locks, flag]
  | closeFailed _ | sleeping | sleepingForever => simp [next, held, instr, unlocks, locks]

theorem ScreenPc.held_next (o : Outcome) (m : Mutex) (pc : ScreenPc) :
    (pc.next o).held.count m + pc.instr.unlocks m = pc.held.count m + pc.instr.locks m := by
  cases pc with
  | idle => cases flag : o.flag <;> simp [next, held, instr, unlocks, locks, flag]
  | _ => simp [next, held, instr, unlocks, locks, Mutex.count_singleton]

theorem ScreenPc.held_giveUp {pc : ScreenPc} {m' : Mutex} (timed : pc.instr = .timedLock m') :
    pc.held = [] := by
  cases pc with
  | lockInfo | lockNews => rfl
  | _ => cases timed

/-- Which mutexes each thread holds at each of its steps. -/
def fetchersOutline : fetchers.Outline where
  holds
    | .info, (l : Fetcher InfoPc), m => l.pc.held.count m
    | .news, (l : Fetcher NewsPc), m => l.pc.held.count m
    | .screen, (pc : ScreenPc), m => pc.held.count m
  go t l o _ m := by
    cases t with
    | info => exact InfoPc.held_next o m (Fetcher.pc l)
    | news => exact NewsPc.held_next o m (Fetcher.pc l)
    | screen => exact ScreenPc.held_next o m l
  giveUp t l m' timed m := by
    cases t with
    | info => rfl
    | news => rfl
    | screen => exact congrArg (List.count m) (ScreenPc.held_giveUp timed).symm

/-! ## The sockets -/

/-- The socket that is open at this step. -/
def InfoPc.openSocket : InfoPc → Option Int
  | connect sock | send sock | transfer sock _ | close sock => some sock
  | _ => none

def NewsPc.openSocket : NewsPc → Option Int
  | connect sock | send sock | closeFailed sock => some sock
  | unlockSent sock | transfer sock _ | close sock => some sock
  | _ => none

/-- What a step may do to the open socket. -/
inductive SocketStep : Option Int → List SocketEvent → Option Int → Prop where
  | none (sock : Option Int) : SocketStep sock [] sock
  | opens (sock : Int) : SocketStep Option.none [.opened sock] (some sock)
  | closes (sock : Int) : SocketStep (some sock) [.closed sock] Option.none

theorem SocketStep.same {sock sock' : Option Int} (same : sock' = sock) : SocketStep sock [] sock' := by
  rw [same]
  apply SocketStep.none

theorem InfoPc.next_socket (o : Outcome) (pc : InfoPc) :
    SocketStep pc.openSocket (pc.next o).2 (pc.next o).1.openSocket := by
  cases pc with
  | lockHttp | unlockHttp | sleeping => apply SocketStep.none
  | address | connect _ | send _ =>
    apply SocketStep.same
    simp only [next]
    split <;> rfl
  | socket =>
    simp only [next]
    split
    · apply SocketStep.none
    · apply SocketStep.opens
  | transfer _ pc =>
    simp only [next]
    cases pc.next o <;> apply SocketStep.none
  | close _ => apply SocketStep.closes

theorem NewsPc.next_socket (o : Outcome) (pc : NewsPc) :
    SocketStep pc.openSocket (pc.next o).2 (pc.next o).1.openSocket := by
  cases pc with
  | lockHttp | unlockNoSocket | unlockFailed | unlockSent _ => apply SocketStep.none
  | sleeping | sleepingForever => apply SocketStep.none
  | address | connect _ | send _ =>
    apply SocketStep.same
    simp only [next]
    split <;> rfl
  | socket =>
    simp only [next]
    split
    · apply SocketStep.none
    · apply SocketStep.opens
  | transfer _ pc =>
    simp only [next]
    cases pc.next o <;> apply SocketStep.none
  | closeFailed _ => apply SocketStep.closes
  | close _ =>
    simp only [next]
    split <;> apply SocketStep.closes

/-- Every socket was opened and then closed, once each. -/
def EachClosed (log : List SocketEvent) : Prop :=
  ∃ socks : List Int, log = socks.flatMap fun sock => [.opened sock, .closed sock]

/-- The same but for the socket that is open now. -/
def ClosedBut (sock : Option Int) (log : List SocketEvent) : Prop :=
  ∃ before, EachClosed before ∧ log = before ++ sock.toList.map .opened

theorem ClosedBut.step {sock sock' : Option Int} {log events : List SocketEvent}
    (h : ClosedBut sock log) (step : SocketStep sock events sock') :
    ClosedBut sock' (log ++ events) := by
  obtain ⟨before, closed, rfl⟩ := h
  cases step with
  | none => exact ⟨before, closed, List.append_nil _⟩
  | opens sock => exact ⟨before, closed, by simp⟩
  | closes sock =>
    obtain ⟨socks, rfl⟩ := closed
    refine ⟨_, ⟨socks ++ [sock], rfl⟩, ?_⟩
    simp

theorem ClosedBut.eachClosed {log : List SocketEvent} (h : ClosedBut none log) : EachClosed log := by
  obtain ⟨before, closed, rfl⟩ := h
  simpa using closed

/-- What each thread's log says about its sockets. -/
def SocketsKept : (t : Locker) → threadLocal t → Prop
  | .info, (l : Fetcher InfoPc) => ClosedBut l.pc.openSocket l.log
  | .news, (l : Fetcher NewsPc) => ClosedBut l.pc.openSocket l.log
  | .screen, _ => True

theorem socketsKept_next (t : Locker) (l : threadLocal t) (o : Outcome) (d : Unit)
    (h : SocketsKept t l) : SocketsKept t (fetchers.next t l o d).1 := by
  cases t with
  | info => exact ClosedBut.step h (InfoPc.next_socket o _)
  | news => exact ClosedBut.step h (NewsPc.next_socket o _)
  | screen => exact trivial

theorem socketsKept_giveUp (t : Locker) (l : threadLocal t) (h : SocketsKept t l) :
    SocketsKept t (fetchers.giveUp t l) := by
  cases t with
  | info => exact h
  | news => exact h
  | screen => exact trivial

/-! ## Over every run -/

section Runs

variable {moves : List (Program.Move Locker Outcome)} {s : fetchers.State}

theorem owned_of_run (ran : Run.run fetchers.step fetchersBoot moves = some s) :
    Program.Owned fetchersOutline s := by
  apply Run.run_invariant Program.owned_step _ ran
  intro t m
  cases t with
  | info => rfl
  | news => rfl
  | screen => rfl

theorem socketsKept_of_run (ran : Run.run fetchers.step fetchersBoot moves = some s) (t : Locker) :
    SocketsKept t (s.locals t) := by
  apply Run.run_invariant (Program.local_invariant socketsKept_next socketsKept_giveUp) _ ran t
  intro t
  cases t with
  | info => exact ⟨[], ⟨[], rfl⟩, rfl⟩
  | news => exact ⟨[], ⟨[], rfl⟩, rfl⟩
  | screen => exact trivial

theorem InfoPc.held_requesting {pc : InfoPc} (requesting : pc.requesting) : pc.held = [.http] := by
  cases pc with
  | socket | connect _ | send _ => rfl
  | _ => cases requesting

theorem NewsPc.held_requesting {pc : NewsPc} (requesting : pc.requesting) : pc.held = [.http] := by
  cases pc with
  | socket | connect _ | send _ => rfl
  | _ => cases requesting

theorem InfoPc.asleep_eq {pc : InfoPc} (asleep : pc.asleep) :
    pc.held = [] ∧ pc.openSocket = none := by
  cases pc with
  | sleeping => exact ⟨rfl, rfl⟩
  | _ => cases asleep

theorem NewsPc.asleep_eq {pc : NewsPc} (asleep : pc.asleep) :
    pc.held = [] ∧ pc.openSocket = none := by
  cases pc with
  | sleeping | sleepingForever => exact ⟨rfl, rfl⟩
  | _ => cases asleep

/-- `http_mutex` before the mutexes of the data. -/
def Mutex.rank : Mutex → Nat
  | http => 0
  | info | news => 1

/-- Whoever waits for a mutex without a time limit holds only mutexes of a lower rank. -/
theorem fetchers_ordered (t : Locker) (l : threadLocal t) (m : Mutex)
    (locking : fetchers.instr t l = .lock m) (m' : Mutex) (holds : 0 < fetchersOutline.holds t l m') :
    m'.rank < m.rank := by
  cases t with
  | info =>
    obtain ⟨pc, log⟩ : Fetcher InfoPc := l
    replace holds : m' ∈ pc.held := List.count_pos_iff.1 holds
    cases pc with
    | lockHttp => cases holds
    | transfer sock pc =>
      cases pc with
      | lockData =>
        obtain rfl : Mutex.info = m := Instr.lock.inj locking
        obtain rfl : m' = .http := List.mem_singleton.1 holds
        exact Nat.zero_lt_one
      | _ => cases locking
    | _ => cases locking
  | news =>
    obtain ⟨pc, log⟩ : Fetcher NewsPc := l
    replace holds : m' ∈ pc.held := List.count_pos_iff.1 holds
    cases pc with
    | lockHttp => cases holds
    | transfer sock pc =>
      cases pc with
      | lockData => cases holds
      | _ => cases locking
    | _ => cases locking
  | screen =>
    cases (l : ScreenPc) with
    | _ => cases locking

/-- Both would hold `http_mutex`. -/
theorem not_both_requesting (owned : Program.Owned fetchersOutline s) :
    ¬ ((infoThread s).pc.requesting ∧ (newsThread s).pc.requesting) := by
  rintro ⟨infoRequests, newsRequests⟩
  have infoOwns : 0 < fetchersOutline.holds .info (s.locals .info) .http := by
    show 0 < (infoThread s).pc.held.count .http
    rw [InfoPc.held_requesting infoRequests]
    exact Nat.zero_lt_one
  have newsOwns : 0 < fetchersOutline.holds .news (s.locals .news) .http := by
    show 0 < (newsThread s).pc.held.count .http
    rw [NewsPc.held_requesting newsRequests]
    exact Nat.zero_lt_one
  cases owned.exclusive infoOwns newsOwns

/-- **Locks and sockets.** However the three threads take turns and whatever their calls
return, the two network threads are never both between `socket` and `send`; one that sleeps
holds no mutex and has closed each socket it opened, once; and no threads wait for each
other forever. -/
theorem lock_and_socket_discipline
    (ran : Run.run fetchers.step fetchersBoot moves = some s) :
    ¬ ((infoThread s).pc.requesting ∧ (newsThread s).pc.requesting) ∧
      ((infoThread s).pc.asleep →
        (∀ m, lockCount Locker.info (s.mutexes m) = 0) ∧ EachClosed (infoThread s).log) ∧
      ((newsThread s).pc.asleep →
        (∀ m, lockCount Locker.news (s.mutexes m) = 0) ∧ EachClosed (newsThread s).log) ∧
      ∀ S, ¬ Program.Deadlocked s S := by
  have owned := owned_of_run ran
  have infoHolds : ∀ m, lockCount Locker.info (s.mutexes m) = (infoThread s).pc.held.count m :=
    owned .info
  have newsHolds : ∀ m, lockCount Locker.news (s.mutexes m) = (newsThread s).pc.held.count m :=
    owned .news
  have infoSockets : ClosedBut (infoThread s).pc.openSocket (infoThread s).log :=
    socketsKept_of_run ran .info
  have newsSockets : ClosedBut (newsThread s).pc.openSocket (newsThread s).log :=
    socketsKept_of_run ran .news
  refine ⟨not_both_requesting owned, ?_, ?_, owned.no_deadlock fetchers_ordered⟩
  · intro asleep
    obtain ⟨nothing, closed⟩ := InfoPc.asleep_eq asleep
    rw [closed] at infoSockets
    refine ⟨?_, infoSockets.eachClosed⟩
    intro m
    rw [infoHolds, nothing]
    rfl
  · intro asleep
    obtain ⟨nothing, closed⟩ := NewsPc.asleep_eq asleep
    rw [closed] at newsSockets
    refine ⟨?_, newsSockets.eachClosed⟩
    intro m
    rw [newsHolds, nothing]
    rfl

end Runs

/-- An `/info` cycle, with a snapshot that times out while `parse_info` writes, and a `/news`
cycle in which `connect` fails, up to the next `socket` of the `/info` thread. -/
def aCycleOfEach : List (Program.Move Locker Outcome) :=
  [.go .info ⟨0, true⟩, .go .news ⟨0, true⟩, .go .info ⟨0, true⟩, .go .info ⟨3, true⟩,
    .go .info ⟨0, true⟩, .go .info ⟨112, true⟩, .go .info ⟨1, true⟩, .go .info ⟨311, false⟩,
    .go .info ⟨0, true⟩, .go .screen ⟨0, true⟩, .go .info ⟨0, true⟩, .timeout .screen,
    .go .info ⟨0, true⟩, .go .info ⟨0, true⟩, .go .info ⟨0, true⟩, .go .info ⟨0, true⟩,
    .go .news ⟨0, true⟩, .go .info ⟨0, true⟩, .go .news ⟨3, true⟩, .go .news ⟨-1, true⟩,
    .go .news ⟨0, true⟩, .go .news ⟨0, true⟩, .go .info ⟨0, true⟩, .go .info ⟨0, true⟩]

theorem lock_and_socket_discipline_cycles :
    ∃ s, Run.run fetchers.step fetchersBoot aCycleOfEach = some s ∧
      (infoThread s).pc = .socket ∧ (newsThread s).pc = .sleeping ∧
      (newsThread s).log = [.opened 3, .closed 3] ∧
      ¬ ((infoThread s).pc.requesting ∧ (newsThread s).pc.requesting) ∧
      ((infoThread s).pc.asleep →
        (∀ m, lockCount Locker.info (s.mutexes m) = 0) ∧ EachClosed (infoThread s).log) ∧
      ((newsThread s).pc.asleep →
        (∀ m, lockCount Locker.news (s.mutexes m) = 0) ∧ EachClosed (newsThread s).log) ∧
      ∀ S, ¬ Program.Deadlocked s S :=
  ⟨_, rfl, rfl, rfl, rfl, @lock_and_socket_discipline aCycleOfEach _ rfl⟩

end SmartClock.Net
