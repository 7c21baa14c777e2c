import SmartClock.Net.Ledger
import SmartClock.Net.Threads
import SmartClock.Sync.Progress

/-!
# No socket without an address

What is left of the books when threads may time out and the connect request may fail. Permits
are lost then, but none is made up: nobody has more than was given (`Funded`), and
`wifi_connect` gives nothing before it has taken the event's permit. So in every run a network
thread goes on only behind the event of an address, and without the two gives of
`wifi_connect` at most one of them does (`StartUp.no_request_without_address`). With the request
cycles of `Net.Threads` behind the start-up: `no_socket_without_address`.
-/

namespace SmartClock.Net

open SmartClock.Run SmartClock.Sync

namespace StartUp

/-- The books of any start-up: time-outs and a full stock lose permits. -/
structure Funded (s : StartUp) : Prop where
  coherent : s.Coherent
  covered : s.wifiReadySem.count + s.wifi.took + passed s.web ≤ s.handed + s.wifi.gave
  signalled : s.wifi.took ≤ s.handed

theorem Ledger.funded {s : StartUp} (books : s.Ledger) : s.Funded :=
  ⟨books.coherent, Nat.le_of_eq books.balance, books.signalled⟩

theorem took_le_one (pos : WifiAt) : pos.took ≤ 1 := by cases pos <;> simp [WifiAt.took]

/-- `wifi_connect` gives only after it has taken. -/
theorem gave_le (pos : WifiAt) : pos.gave ≤ 2 * pos.took := by
  cases pos <;> simp [WifiAt.gave, WifiAt.took]

/-- Only at its end has it given more than it has taken. -/
theorem eq_done_of_took_lt {pos : WifiAt} (more : pos.took < pos.gave) : pos = .done := by
  cases pos <;> simp_all [WifiAt.gave, WifiAt.took]

/-- A permit given lets at most one thread go on. -/
theorem semGive_covered {s : StartUp} (coherent : s.Coherent) :
    s.semGive.wifiReadySem.count + s.semGive.wifi.took + passed s.semGive.web ≤
        s.wifiReadySem.count + s.wifi.took + passed s.web + 1 ∧
      s.semGive.wifi.gave = s.wifi.gave := by
  by_cases stock : s.wifiReadySem.count = 0
  · obtain ⟨total, gave⟩ := semGive_books coherent stock
    exact ⟨Nat.le_of_eq total, gave⟩
  · rcases semGive_cases coherent with
      ⟨-, count, wifi, web⟩ | ⟨-, none, -⟩ | ⟨w, -, -, none, -⟩
    · rw [count, wifi, web]
      exact ⟨by omega, rfl⟩
    · exact absurd none stock
    · exact absurd none stock

/-- `wifi_connect` goes on with a permit of its own only if there is one. -/
theorem Funded.wifiTake {s : StartUp} (books : s.Funded) (requested : s.wifi = .requested) :
    (s.semTake .wifi).Funded := by
  have covered := books.covered
  rw [requested] at covered
  simp only [WifiAt.took, WifiAt.gave] at covered
  have coherent : (s.semTake .wifi).Coherent := books.coherent.semTake (by simp [Waits, requested])
  rcases s.semTake_wifi_cases with ⟨web, ⟨count, now⟩ | ⟨none, count, now⟩⟩
  · refine ⟨coherent, ?_, ?_⟩
    · rw [semTake_handed, now, web]
      simp only [WifiAt.took, WifiAt.gave]
      omega
    · rw [semTake_handed, now]
      simp only [WifiAt.took]
      omega
  · refine ⟨coherent, ?_, ?_⟩
    · rw [semTake_handed, now, web]
      simp only [WifiAt.took, WifiAt.gave]
      omega
    · rw [now]
      exact Nat.zero_le _

/-- Each give of `wifi_connect` follows its take. -/
theorem Funded.wifiGive {s : StartUp} (books : s.Funded) {now : WifiAt}
    (coherent : ({ s with wifi := now } : StartUp).Coherent) (took : s.wifi.took = 1)
    (took' : now.took = 1) (gave' : now.gave = s.wifi.gave + 1) :
    { s with wifi := now }.semGive.Funded := by
  have covered := books.covered
  have signalled := books.signalled
  obtain ⟨total, gave⟩ := semGive_covered coherent
  refine ⟨coherent.semGive, ?_, ?_⟩
  · rw [semGive_handed, gave]
    apply Nat.le_trans total
    show s.wifiReadySem.count + now.took + passed s.web + 1 ≤ s.handed + now.gave
    omega
  · rw [semGive_handed]
    apply Nat.le_trans (took_le_one _)
    show 1 ≤ s.handed
    omega

/-- A thread that gives up waiting has taken nothing. -/
theorem Funded.giveUp {s : StartUp} (books : s.Funded) {t : Thread} (waits : s.Waits t) :
    ({ s with wifiReadySem := s.wifiReadySem.giveUp t }.expire t).Funded := by
  have covered := books.covered
  have coherent := books.coherent.giveUp t
  cases t with
  | wifi =>
    have stands : s.wifi = .waiting := waits
    rw [stands] at covered
    exact ⟨coherent, covered, Nat.zero_le _⟩
  | web w =>
    have stands : s.web w = .waiting := waits
    have moved := passed_update s.web w .timedOut
    rw [stands] at moved
    simp only [WebAt.took] at moved
    refine ⟨coherent, ?_, books.signalled⟩
    show s.wifiReadySem.count + s.wifi.took + passed (Function.update s.web w .timedOut) ≤
      s.handed + s.wifi.gave
    omega

/-- **Every step keeps the books covered**, a time-out or a failed request as well. -/
theorem funded_step {s s' : StartUp} {st : Step} (books : s.Funded) (taken : step s st = some s') :
    s'.Funded := by
  have covered := books.covered
  have signalled := books.signalled
  have coherent := coherent_step books.coherent taken
  cases st with
  | connect iface ret =>
    obtain ⟨starting, rfl⟩ := step_connect.1 taken
    rw [starting] at covered
    rw [wifiConnect] at coherent ⊢
    split_ifs at coherent ⊢
    · exact ⟨coherent, covered, Nat.zero_le _⟩
    · exact ⟨coherent, covered, Nat.zero_le _⟩
    · exact ⟨coherent, covered, Nat.zero_le _⟩
  | wifiTake =>
    obtain ⟨requested, rfl⟩ := step_wifiTake.1 taken
    exact books.wifiTake requested
  | wifiGive =>
    rcases step_wifiGive.1 taken with ⟨ready, rfl⟩ | ⟨gaveOne, rfl⟩
    · exact books.wifiGive (books.coherent.setWifi (by simp [ready]) (by simp) (by simp))
        (by rw [ready]; rfl) rfl (by rw [ready]; rfl)
    · exact books.wifiGive (books.coherent.setWifi (by simp [gaveOne]) (by simp) (by simp))
        (by rw [gaveOne]; rfl) rfl (by rw [gaveOne]; rfl)
  | webTake w =>
    obtain ⟨starting, rfl⟩ := step_webTake.1 taken
    obtain ⟨total, -⟩ := semTake_web_books starting
    have wifi := (s.semTake_web_cases w).1
    refine ⟨coherent, ?_, ?_⟩
    · rw [semTake_handed, wifi]
      omega
    · rw [semTake_handed, wifi]
      exact signalled
  | timeout t =>
    obtain ⟨waits, rfl⟩ := step_timeout.1 taken
    exact books.giveUp ((books.coherent.mem_waiting t).1 waits)
  | event e =>
    obtain ⟨-, rfl⟩ := step_event.1 taken
    cases e with
    | wifiConnectResult status => exact books
    | other => exact books
    | ipv4AddrAdd =>
      rw [eventHandler] at coherent ⊢
      split_ifs at coherent ⊢ with before
      · exact books
      · have unhanded : s.handed = 0 := by simp [handed, before]
        rw [unhanded] at covered signalled
        exact ⟨coherent, covered, signalled⟩
  | handlerGive =>
    obtain ⟨giving, rfl⟩ := step_handlerGive.1 taken
    have unhanded : s.handed = 0 := by simp [handed, giving]
    have handed' : ({ s with giving := false } : StartUp).handed = 1 := by
      simp [handed, books.coherent.handled_of_giving giving]
    obtain ⟨total, gave⟩ := semGive_covered books.coherent.handOver
    refine ⟨coherent, ?_, ?_⟩
    · rw [semGive_handed, handed', gave]
      apply Nat.le_trans total
      show s.wifiReadySem.count + s.wifi.took + passed s.web + 1 ≤ 1 + s.wifi.gave
      omega
    · rw [semGive_handed, handed']
      exact took_le_one _

theorem funded_of_run {steps : List Step} {s : StartUp} (ran : run step boot steps = some s) : s.Funded :=
  run_invariant (fun _ _ _ => funded_step) ledger_boot.funded ran

/-! ## The event in the run -/

theorem wifiConnect_ipHandled (s : StartUp) (iface : Bool) (ret : Int) :
    (s.wifiConnect iface ret).ipHandled = s.ipHandled ∧ (s.wifiConnect iface ret).giving = s.giving := by
  rw [wifiConnect]
  split_ifs <;> exact ⟨rfl, rfl⟩

/-- Only the event of an address sets `ip_handled`, and the handler's give follows it. -/
theorem step_flags {s s' : StartUp} {st : Step} (taken : step s st = some s') :
    (s'.ipHandled = s.ipHandled ∧ s'.giving = s.giving) ∨
      (st = .event .ipv4AddrAdd ∧ s'.ipHandled = true ∧ s'.giving = true) ∨
      (st = .handlerGive ∧ s.giving = true ∧ s'.ipHandled = s.ipHandled) := by
  cases st with
  | connect iface ret =>
    obtain ⟨-, rfl⟩ := step_connect.1 taken
    exact .inl (s.wifiConnect_ipHandled iface ret)
  | wifiTake =>
    obtain ⟨-, rfl⟩ := step_wifiTake.1 taken
    exact .inl ⟨s.semTake_ipHandled _, s.semTake_giving _⟩
  | wifiGive =>
    rcases step_wifiGive.1 taken with ⟨-, rfl⟩ | ⟨-, rfl⟩
    · exact .inl ⟨semGive_ipHandled _, semGive_giving _⟩
    · exact .inl ⟨semGive_ipHandled _, semGive_giving _⟩
  | webTake w =>
    obtain ⟨-, rfl⟩ := step_webTake.1 taken
    exact .inl ⟨s.semTake_ipHandled _, s.semTake_giving _⟩
  | timeout t =>
    obtain ⟨-, rfl⟩ := step_timeout.1 taken
    exact .inl ⟨expire_ipHandled _ t, expire_giving _ t⟩
  | event e =>
    obtain ⟨-, rfl⟩ := step_event.1 taken
    cases e with
    | wifiConnectResult status => exact .inl ⟨rfl, rfl⟩
    | other => exact .inl ⟨rfl, rfl⟩
    | ipv4AddrAdd =>
      rw [eventHandler]
      split_ifs
      · exact .inl ⟨rfl, rfl⟩
      · exact .inr (.inl ⟨rfl, rfl, rfl⟩)
  | handlerGive =>
    obtain ⟨giving, rfl⟩ := step_handlerGive.1 taken
    exact .inr (.inr ⟨rfl, giving, semGive_ipHandled _⟩)

/-- The step that makes `Handled` true is the handler's give. -/
theorem step_hands {s s' : StartUp} {st : Step} (taken : step s st = some s') (lacks : ¬ s.Handled)
    (holds : s'.Handled) : st = .handlerGive ∧ s.giving = true := by
  rcases step_flags taken with ⟨same, same'⟩ | ⟨-, -, giving⟩ | ⟨give, giving, -⟩
  · exact absurd ⟨same ▸ holds.1, same' ▸ holds.2⟩ lacks
  · exact absurd giving (by rw [holds.2]; exact Bool.false_ne_true)
  · exact ⟨give, giving⟩

/-- The step that sets `ip_handled` is the event of an address. -/
theorem step_handles {s s' : StartUp} {st : Step} (taken : step s st = some s')
    (lacks : ¬ s.ipHandled = true) (holds : s'.ipHandled = true) : st = .event .ipv4AddrAdd := by
  rcases step_flags taken with ⟨same, -⟩ | ⟨event, -⟩ | ⟨-, -, same⟩
  · exact absurd (same ▸ holds) lacks
  · exact event
  · exact absurd (same ▸ holds) lacks

/-- Once handled, the event stands in the run, and the handler's give behind it. -/
theorem handled_of_run {steps : List Step} {s : StartUp} (ran : run step boot steps = some s)
    (handled : s.Handled) :
    ∃ first between later, steps = first ++ .event .ipv4AddrAdd :: (between ++ .handlerGive :: later) := by
  obtain ⟨earlier, st, later, mid, mid', split, before, taken, lacks, holds⟩ :=
    run_brings (P := Handled) (by decide) ran handled
  obtain ⟨rfl, giving⟩ := step_hands taken lacks holds
  obtain ⟨first, st, between, m, m', split', -, taken', lacks', holds'⟩ :=
    run_brings (P := fun s => s.ipHandled = true) (by decide) before
      ((coherent_of_run before).handled_of_giving giving)
  obtain rfl := step_handles taken' lacks' holds'
  refine ⟨first, between, later, ?_⟩
  rw [split, split', List.append_assoc, List.cons_append]

/-- **No request without an address.** In every run, with or without time-outs: a network thread
is past its `k_sem_take` only if an address was announced and the handler has given its permit
for that; both are only if `wifi_connect` has given its two permits; and neither is if
`wifi_connect` found no interface or its request failed. -/
theorem no_request_without_address {steps : List Step} {s : StartUp} (ran : run step boot steps = some s) :
    ((∃ w, s.web w = .passed) →
      ∃ first between later, steps = first ++ .event .ipv4AddrAdd :: (between ++ .handlerGive :: later)) ∧
    ((∀ w, s.web w = .passed) → s.wifi = .done) ∧
    (s.wifi = .refused → ∀ w, s.web w ≠ .passed) := by
  obtain ⟨coherent, covered, signalled⟩ := funded_of_run ran
  have handedOne : s.handed ≤ 1 := Bool.toNat_le _
  have gave := gave_le s.wifi
  have handled (w : Web) (pass : s.web w = .passed) : s.Handled := by
    have one : 1 ≤ passed s.web := by
      have took : (s.web w).took = 1 := by rw [pass]; rfl
      cases w <;> rw [passed] <;> omega
    apply handed_eq_one_iff.1
    omega
  refine ⟨?_, ?_, ?_⟩
  · rintro ⟨w, pass⟩
    exact handled_of_run ran (handled w pass)
  · intro both
    have two : passed s.web = 2 := passed_eq_two_iff.2 both
    apply eq_done_of_took_lt
    omega
  · intro refused w pass
    exact (coherent.requested (handled w pass).1).2 refused

theorem semGive_passed {s : StartUp} (coherent : s.Coherent) {w : Web} (pass : s.web w = .passed) :
    s.semGive.web w = .passed := by
  rcases semGive_cases coherent with
    ⟨-, -, -, web⟩ | ⟨-, -, -, -, web⟩ | ⟨v, -, -, -, -, -, web⟩
  · rwa [web]
  · rwa [web]
  · rw [web]
    by_cases same : w = v
    · rw [same, Function.update_self]
    · rwa [Function.update_of_ne same]

/-- A thread that has passed stays so. -/
theorem passed_step {s s' : StartUp} {st : Step} (coherent : s.Coherent) (taken : step s st = some s') {w : Web}
    (pass : s.web w = .passed) : s'.web w = .passed := by
  have other {v : Web} {stage now : WebAt} (stands : s.web v = stage) (notPassed : stage ≠ .passed) :
      Function.update s.web v now w = .passed := by
    rw [Function.update_of_ne, pass]
    rintro rfl
    exact notPassed (stands.symm.trans pass)
  cases st with
  | connect iface ret =>
    obtain ⟨-, rfl⟩ := step_connect.1 taken
    rw [wifiConnect]
    split_ifs <;> exact pass
  | wifiTake =>
    obtain ⟨-, rfl⟩ := step_wifiTake.1 taken
    rwa [s.semTake_wifi_cases.1]
  | wifiGive =>
    rcases step_wifiGive.1 taken with ⟨ready, rfl⟩ | ⟨gaveOne, rfl⟩
    · exact semGive_passed (coherent.setWifi (by simp [ready]) (by simp) (by simp)) pass
    · exact semGive_passed (coherent.setWifi (by simp [gaveOne]) (by simp) (by simp)) pass
  | webTake v =>
    obtain ⟨starting, rfl⟩ := step_webTake.1 taken
    rcases (s.semTake_web_cases v).2 with ⟨-, web⟩ | ⟨-, -, web⟩
    · rw [web]
      exact other starting (by simp)
    · rw [web]
      exact other starting (by simp)
  | timeout t =>
    obtain ⟨queued, rfl⟩ := step_timeout.1 taken
    have waits := (coherent.mem_waiting t).1 queued
    cases t with
    | wifi => exact pass
    | web v => exact other waits (by simp)
  | event e =>
    obtain ⟨-, rfl⟩ := step_event.1 taken
    cases e with
    | wifiConnectResult status => exact pass
    | other => exact pass
    | ipv4AddrAdd =>
      rw [eventHandler]
      split_ifs <;> exact pass
  | handlerGive =>
    obtain ⟨-, rfl⟩ := step_handlerGive.1 taken
    exact semGive_passed coherent.handOver pass

end StartUp

/-! ## With the request cycles -/

/-- A network thread is in its request cycle only behind its `k_sem_take`. -/
def mayMove (s : StartUp) (move : Program.Move Locker Outcome) : Bool :=
  match move.thread with
  | .info => s.web .info = .passed
  | .news => s.web .news = .passed
  | .screen => true

/-- The start-up, and the cycles of the threads it lets go on. -/
def startedStep : StartUp × fetchers.State → StartUp.Step ⊕ Program.Move Locker Outcome →
    Option (StartUp × fetchers.State) :=
  gated StartUp.step fetchers.step mayMove

def startedBoot : StartUp × fetchers.State := (StartUp.boot, fetchersBoot)

/-- A thread that has not passed stands where its cycle begins. -/
structure Unstarted (s : StartUp × fetchers.State) : Prop where
  coherent : s.1.Coherent
  info : s.1.web .info ≠ .passed → infoThread s.2 = ⟨.lockHttp, []⟩
  news : s.1.web .news ≠ .passed → newsThread s.2 = ⟨.address, []⟩

theorem unstarted_step (s : StartUp × fetchers.State) (i : StartUp.Step ⊕ Program.Move Locker Outcome)
    (s' : StartUp × fetchers.State) (h : Unstarted s) (taken : startedStep s i = some s') : Unstarted s' := by
  rcases gated_cases taken with ⟨st, -, stepped, same⟩ | ⟨move, -, gate, moved, same⟩
  · -- the threads stay where they are
    refine ⟨StartUp.coherent_step h.coherent stepped, fun waits => ?_, fun waits => ?_⟩
    · rw [same]
      exact h.info fun pass => waits (StartUp.passed_step h.coherent stepped pass)
    · rw [same]
      exact h.news fun pass => waits (StartUp.passed_step h.coherent stepped pass)
  · refine ⟨by rw [same]; exact h.coherent, fun waits => ?_, fun waits => ?_⟩
    · rw [same] at waits
      have other : move.thread ≠ .info := by
        intro mover
        rw [mayMove, mover] at gate
        exact waits (of_decide_eq_true gate)
      exact (Program.step_other moved other).trans (h.info waits)
    · rw [same] at waits
      have other : move.thread ≠ .news := by
        intro mover
        rw [mayMove, mover] at gate
        exact waits (of_decide_eq_true gate)
      exact (Program.step_other moved other).trans (h.news waits)

theorem unstarted_of_run {steps : List (StartUp.Step ⊕ Program.Move Locker Outcome)}
    {s : StartUp × fetchers.State} (ran : run startedStep startedBoot steps = some s) : Unstarted s :=
  run_invariant unstarted_step ⟨StartUp.coherent_boot, fun _ => rfl, fun _ => rfl⟩ ran

/-- **No socket without an address.** In every run of the start-up and of the threads it lets go
on, with or without time-outs: a network thread has opened a socket only if an address was
announced and the handler has given its permit for that; both have only if `wifi_connect` has
given its two permits; and neither has if `wifi_connect` found no interface or its request
failed. -/
theorem no_socket_without_address {steps : List (StartUp.Step ⊕ Program.Move Locker Outcome)}
    {s : StartUp × fetchers.State} (ran : run startedStep startedBoot steps = some s) :
    ((infoThread s.2).log ≠ [] ∨ (newsThread s.2).log ≠ [] →
      ∃ first between later, firsts steps = first ++ .event .ipv4AddrAdd :: (between ++ .handlerGive :: later)) ∧
    ((infoThread s.2).log ≠ [] → (newsThread s.2).log ≠ [] → s.1.wifi = .done) ∧
    (s.1.wifi = .refused → (infoThread s.2).log = [] ∧ (newsThread s.2).log = []) := by
  have unstarted := unstarted_of_run ran
  have info (opened : (infoThread s.2).log ≠ []) : s.1.web .info = .passed := by
    by_contra waits
    rw [unstarted.info waits] at opened
    exact opened rfl
  have news (opened : (newsThread s.2).log ≠ []) : s.1.web .news = .passed := by
    by_contra waits
    rw [unstarted.news waits] at opened
    exact opened rfl
  obtain ⟨address, done, refused⟩ := StartUp.no_request_without_address (run_firsts ran)
  refine ⟨?_, ?_, ?_⟩
  · rintro (opened | opened)
    · exact address ⟨.info, info opened⟩
    · exact address ⟨.news, news opened⟩
  · intro infoOpened newsOpened
    apply done
    intro w
    cases w with
    | info => exact info infoOpened
    | news => exact news newsOpened
  · intro failed
    refine ⟨?_, ?_⟩
    · by_contra opened
      exact refused failed .info (info opened)
    · by_contra opened
      exact refused failed .news (news opened)

/-- The address comes after `wifi_connect` has stopped waiting for it: the handler's permit lets
one network thread go on, which opens a socket, and the other has none to wait for. -/
def late : List (StartUp.Step ⊕ Program.Move Locker Outcome) :=
  [.inl (.webTake .info), .inl (.webTake .news), .inl (.connect true 0), .inl .wifiTake, .inl (.timeout .wifi),
    .inl (.event .ipv4AddrAdd), .inl .handlerGive] ++ List.replicate 3 (.inr (.go .info ⟨0, true⟩))

theorem no_socket_without_address_late :
    ∃ s, run startedStep startedBoot late = some s ∧ (infoThread s.2).log = [.opened 0] ∧
      (newsThread s.2).log = [] := by
  have ran := (Option.some_get (by decide +kernel : (run startedStep startedBoot late).isSome)).symm
  refine ⟨_, ran, by decide +kernel, ?_⟩
  by_contra opened
  have done := (no_socket_without_address ran).2.1 (by decide +kernel) opened
  exact absurd done (by decide +kernel)

end SmartClock.Net
