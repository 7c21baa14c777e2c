import Mathlib.Logic.Function.Basic
import Mathlib.Data.Fintype.Defs
import Mathlib.Data.Finset.Insert
import SmartClock.Run.Partial
import SmartClock.Sync.Semaphore

/-!
# Start-up of the network threads

`wifi_ready_sem` is defined with count 0 and limit 1 and is used in two ways. The handler
of the address event gives it once to tell `wifi_connect` that there is an address, and
`wifi_connect`, after it has taken that permit, gives it twice, once for the thread that
fetches `/info` and once for the one that fetches `/news`. Both of them may be waiting on
the semaphore all the time.

The state holds where each of the three threads stands in its use of the semaphore, and
where the handler stands: its calls come one after the other from the event thread, but a
call may be interrupted between setting `ip_handled` and giving the permit. Every operation
on the semaphore is one step, and a run is any order of such steps.

The balance of permits (`Ledger`) is what an orderly start-up keeps: every permit given is
in stock or has let one thread go on, and `wifi_connect` goes on first. Three steps break
it for good (`Ordered`): the event's permit can go to a network thread because
`wifi_connect` does not wait yet, a network thread can take it from stock before
`wifi_connect` does, and the second of the two gives is lost when the first is still in
stock.
-/

namespace SmartClock.Net

open SmartClock.Run SmartClock.Sync

/-! ## The threads -/

/-- The two threads that wait for the network: `t_info_web` and `t_news_web`. -/
inductive Web where
  | info
  | news
deriving DecidableEq

instance : Fintype Web := ⟨{.info, .news}, fun w => by cases w <;> decide⟩

/-- The threads that take `wifi_ready_sem`. -/
inductive Thread where
  | wifi
  | web (w : Web)
deriving DecidableEq

/-- The priorities given to `K_THREAD_DEFINE`; the smaller number goes first. -/
def Thread.priority : Thread → Nat
  | .wifi => 1
  | .web _ => 2

/-- Where `wifi_connect` stands. -/
inductive WifiAt where
  /-- It has not issued its connect request yet. -/
  | starting
  /-- It returned because there is no interface or the request failed. -/
  | refused
  /-- The request is out; the next step is `k_sem_take`. -/
  | requested
  /-- It waits in `k_sem_take`. -/
  | waiting
  /-- `k_sem_take` returned 0. -/
  | ready
  /-- The first of the two `k_sem_give` is done. -/
  | gaveOne
  /-- Both are done. -/
  | done
  /-- `k_sem_take` timed out, and it returned. -/
  | timedOut
deriving DecidableEq

/-- Where `network_config` or `network_config_news` stands. -/
inductive WebAt where
  /-- The next step is `k_sem_take`. -/
  | starting
  /-- It waits in `k_sem_take`. -/
  | waiting
  /-- `k_sem_take` returned 0: it is in its request loop. -/
  | passed
  /-- `k_sem_take` timed out, and it returned. -/
  | timedOut
deriving DecidableEq

/-- The events `event_handler` tells apart. -/
inductive MgmtEvent where
  | wifiConnectResult (status : Int)
  | ipv4AddrAdd
  | other

/-- The state of the start-up. -/
structure StartUp where
  wifiReadySem : Sem Thread.priority 1
  ipHandled : Bool
  /-- A call of `event_handler` has set `ip_handled` and has not given the permit yet. -/
  giving : Bool
  wifi : WifiAt
  web : Web → WebAt

namespace StartUp

/-- The state at boot: `K_SEM_DEFINE(wifi_ready_sem, 0, 1)`, and no thread has run. -/
def boot : StartUp where
  wifiReadySem := Sem.init Thread.priority 1 0 (Nat.zero_le 1)
  ipHandled := false
  giving := false
  wifi := .starting
  web := fun _ => .starting

/-- `k_sem_take` of the thread returns 0. -/
def resume (s : StartUp) : Thread → StartUp
  | .wifi => { s with wifi := .ready }
  | .web w => { s with web := Function.update s.web w .passed }

/-- The thread waits in `k_sem_take`. -/
def park (s : StartUp) : Thread → StartUp
  | .wifi => { s with wifi := .waiting }
  | .web w => { s with web := Function.update s.web w .waiting }

/-- `k_sem_take` of the thread times out, and the thread returns. -/
def expire (s : StartUp) : Thread → StartUp
  | .wifi => { s with wifi := .timedOut }
  | .web w => { s with web := Function.update s.web w .timedOut }

/-- `k_sem_take(&wifi_ready_sem, …)`, called by the thread. -/
def semTake (s : StartUp) (t : Thread) : StartUp :=
  let taken := { s with wifiReadySem := (s.wifiReadySem.take t).2 }
  if (s.wifiReadySem.take t).1 then taken.resume t else taken.park t

/-- `k_sem_give(&wifi_ready_sem)`. -/
def semGive (s : StartUp) : StartUp :=
  let given := { s with wifiReadySem := s.wifiReadySem.give.2 }
  match s.wifiReadySem.give.1 with
  | some t => given.resume t
  | none => given

/-- `event_handler` up to its `k_sem_give`. A connect result is only logged. -/
def eventHandler (s : StartUp) : MgmtEvent → StartUp
  | .wifiConnectResult _ => s
  | .ipv4AddrAdd => if s.ipHandled then s else { s with ipHandled := true, giving := true }
  | .other => s

/-- `wifi_connect` up to its `k_sem_take`: whether `net_if_get_default` found an interface,
and what the connect request returned. -/
def wifiConnect (s : StartUp) (iface : Bool) (ret : Int) : StartUp :=
  if iface = false then { s with wifi := .refused }
  else if ret ≠ 0 then { s with wifi := .refused }
  else { s with wifi := .requested }

/-! ## Steps and runs -/

/-- What can happen next. -/
inductive Step where
  /-- `wifi_connect` issues its request. -/
  | connect (iface : Bool) (ret : Int)
  /-- `wifi_connect` calls `k_sem_take`. -/
  | wifiTake
  /-- `wifi_connect` calls `k_sem_give`, for the first or the second time. -/
  | wifiGive
  /-- A network thread calls `k_sem_take`. -/
  | webTake (w : Web)
  /-- The `k_sem_take` of a waiting thread times out. -/
  | timeout (t : Thread)
  /-- The event thread calls `event_handler`. -/
  | event (e : MgmtEvent)
  /-- That call comes to its `k_sem_give`. -/
  | handlerGive

/-- One step, where it can be taken. Events come once the connect request is out. -/
def step (s : StartUp) : Step → Option StartUp
  | .connect iface ret => if s.wifi = .starting then some (s.wifiConnect iface ret) else none
  | .wifiTake => if s.wifi = .requested then some (s.semTake .wifi) else none
  | .wifiGive =>
    match s.wifi with
    | .ready => some { s with wifi := .gaveOne }.semGive
    | .gaveOne => some { s with wifi := .done }.semGive
    | _ => none
  | .webTake w => if s.web w = .starting then some (s.semTake (.web w)) else none
  | .timeout t =>
    if t ∈ s.wifiReadySem.waiting then
      some ({ s with wifiReadySem := s.wifiReadySem.giveUp t }.expire t)
    else none
  | .event e =>
    if s.wifi ≠ .starting ∧ s.wifi ≠ .refused ∧ s.giving = false then some (s.eventHandler e)
    else none
  | .handlerGive => if s.giving then some { s with giving := false }.semGive else none

section Inversion

variable {s s' : StartUp}

theorem step_connect {iface : Bool} {ret : Int} :
    step s (.connect iface ret) = some s' ↔ s.wifi = .starting ∧ s' = s.wifiConnect iface ret := by
  simp only [step, Option.ite_none_right_eq_some, Option.some.injEq, eq_comm (b := s')]

theorem step_wifiTake :
    step s .wifiTake = some s' ↔ s.wifi = .requested ∧ s' = s.semTake .wifi := by
  simp only [step, Option.ite_none_right_eq_some, Option.some.injEq, eq_comm (b := s')]

theorem step_wifiGive :
    step s .wifiGive = some s' ↔
      (s.wifi = .ready ∧ s' = { s with wifi := .gaveOne }.semGive) ∨
        (s.wifi = .gaveOne ∧ s' = { s with wifi := .done }.semGive) := by
  cases stands : s.wifi <;> simp [step, stands, eq_comm (b := s')]

theorem step_webTake {w : Web} :
    step s (.webTake w) = some s' ↔ s.web w = .starting ∧ s' = s.semTake (.web w) := by
  simp only [step, Option.ite_none_right_eq_some, Option.some.injEq, eq_comm (b := s')]

theorem step_timeout {t : Thread} :
    step s (.timeout t) = some s' ↔
      t ∈ s.wifiReadySem.waiting ∧
        s' = { s with wifiReadySem := s.wifiReadySem.giveUp t }.expire t := by
  simp only [step, Option.ite_none_right_eq_some, Option.some.injEq, eq_comm (b := s')]

theorem step_event {e : MgmtEvent} :
    step s (.event e) = some s' ↔
      (s.wifi ≠ .starting ∧ s.wifi ≠ .refused ∧ s.giving = false) ∧ s' = s.eventHandler e := by
  simp only [step, Option.ite_none_right_eq_some, Option.some.injEq, eq_comm (b := s')]

theorem step_handlerGive :
    step s .handlerGive = some s' ↔
      s.giving = true ∧ s' = { s with giving := false }.semGive := by
  simp only [step, Option.ite_none_right_eq_some, Option.some.injEq, eq_comm (b := s')]

end Inversion

/-- The step is no time-out and no failed connect request. -/
def Step.Timely : Step → Prop
  | .connect iface ret => iface = true ∧ ret = 0
  | .timeout _ => False
  | _ => True

instance : DecidablePred Step.Timely
  | .connect _ _ => inferInstanceAs (Decidable (_ ∧ _))
  | .timeout _ => .isFalse id
  | .wifiTake | .wifiGive | .webTake _ | .event _ | .handlerGive => .isTrue trivial

/-- The address event has been handled. -/
def Handled (s : StartUp) : Prop := s.ipHandled = true ∧ s.giving = false

/-- None of the three threads can take a step on the semaphore. -/
def Quiet (s : StartUp) : Prop :=
  step s .wifiTake = none ∧ step s .wifiGive = none ∧ ∀ w, step s (.webTake w) = none

instance (s : StartUp) : Decidable s.Handled := inferInstanceAs (Decidable (_ ∧ _))

instance (s : StartUp) : Decidable s.Quiet := inferInstanceAs (Decidable (_ ∧ _ ∧ _))

/-- The order the start-up relies on, step by step: the event's permit finds
`wifi_connect` waiting or nobody, a network thread takes from stock only after
`wifi_connect` has, and nothing is in stock when `wifi_connect` gives its second permit. -/
def Ordered (s : StartUp) : Step → Prop
  | .handlerGive => s.wifi = .waiting ∨ ∀ w, s.web w ≠ .waiting
  | .webTake _ =>
    s.wifiReadySem.count = 0 ∨ s.wifi = .ready ∨ s.wifi = .gaveOne ∨ s.wifi = .done
  | .wifiGive => s.wifi = .gaveOne → s.wifiReadySem.count = 0
  | _ => True

instance (s : StartUp) : DecidablePred s.Ordered
  | .handlerGive => inferInstanceAs (Decidable (_ ∨ _))
  | .webTake _ => inferInstanceAs (Decidable (_ ∨ _))
  | .wifiGive => inferInstanceAs (Decidable (_ → _))
  | .connect _ _ | .wifiTake | .timeout _ | .event _ => .isTrue trivial

end StartUp

end SmartClock.Net
