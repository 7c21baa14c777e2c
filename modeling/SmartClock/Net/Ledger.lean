import SmartClock.Net.Permits

/-!
# Accounts of the start-up permits

While the start-up is `Ordered` every permit given is accounted for (`Ledger`): it is in
stock, or a thread has gone on with it, and `wifi_connect` was the first to. When the event
is handled and no thread can take another step, the books leave only one way to balance:
three permits were given, and three threads have passed.

The first step out of order makes `Lost` true, and no later step repairs it: either the
event's permit has gone to a network thread and `wifi_connect` waits for another, or both
of its gives are done with at most one permit to show for them. Hence
`both_pass_iff_ordered`: the network threads both pass exactly in the ordered runs.
-/

namespace SmartClock.Net

open SmartClock.Run SmartClock.Sync

/-- What `wifi_connect` has taken. -/
def WifiAt.took : WifiAt → Nat
  | .ready | .gaveOne | .done => 1
  | _ => 0

/-- What `wifi_connect` has given. -/
def WifiAt.gave : WifiAt → Nat
  | .gaveOne => 1
  | .done => 2
  | _ => 0

/-- What a network thread has taken. -/
def WebAt.took : WebAt → Nat
  | .passed => 1
  | _ => 0

namespace StartUp

/-- How many of the network threads have passed. -/
def passed (web : Web → WebAt) : Nat := (web .info).took + (web .news).took

/-- What the event handler has given. -/
def handed (s : StartUp) : Nat := (s.ipHandled && !s.giving).toNat

/-- Moving one network thread changes the number by what this thread has taken. -/
theorem passed_update (web : Web → WebAt) (w : Web) (now : WebAt) :
    passed (Function.update web w now) + (web w).took = passed web + now.took := by
  cases w <;> simp [passed, Function.update] <;> omega

theorem passed_eq_two_iff {web : Web → WebAt} : passed web = 2 ↔ ∀ w, web w = .passed := by
  have both : (∀ w, web w = .passed) ↔ web .info = .passed ∧ web .news = .passed :=
    ⟨fun all => ⟨all .info, all .news⟩, fun ⟨info, news⟩ w => by cases w <;> assumption⟩
  rw [both, passed]
  cases web .info <;> cases web .news <;> simp [WebAt.took]

/-- The books of an ordered start-up. -/
structure Ledger (s : StartUp) : Prop where
  coherent : s.Coherent
  balance : s.wifiReadySem.count + s.wifi.took + passed s.web = s.handed + s.wifi.gave
  wifiFirst : passed s.web = 0 ∨ s.wifi.took = 1
  signalled : s.wifi.took ≤ s.handed

/-- The books of a start-up out of order, from which it does not recover. -/
structure Lost (s : StartUp) : Prop where
  coherent : s.Coherent
  handled : s.Handled
  short : (s.wifi.took = 0 ∧ s.wifiReadySem.count = 0 ∧ passed s.web = 1) ∨
    (s.wifi = .done ∧ s.wifiReadySem.count + passed s.web ≤ 1)

theorem handed_eq_one_iff {s : StartUp} : s.handed = 1 ↔ s.Handled := by
  rw [handed, Handled]
  cases s.ipHandled <;> cases s.giving <;> simp

theorem took_eq_zero_of_not {pos : WifiAt}
    (before : ¬ (pos = .ready ∨ pos = .gaveOne ∨ pos = .done)) :
    pos.took = 0 ∧ pos.gave = 0 := by
  cases pos <;> simp_all [WifiAt.took, WifiAt.gave]

theorem ledger_boot : boot.Ledger where
  coherent := coherent_boot
  balance := rfl
  wifiFirst := .inl rfl
  signalled := Nat.le_refl 0

/-! ## What a permit given, and a permit taken, does to the books -/

/-- A permit given goes into the books unless the stock is at its limit. -/
theorem semGive_books {s : StartUp} (coherent : s.Coherent)
    (notFull : s.wifiReadySem.count = 0) :
    s.semGive.wifiReadySem.count + s.semGive.wifi.took + passed s.semGive.web =
        s.wifiReadySem.count + s.wifi.took + passed s.web + 1 ∧
      s.semGive.wifi.gave = s.wifi.gave := by
  rcases semGive_cases coherent with
    ⟨-, count, wifi, web⟩ | ⟨waits, -, count, wifi, web⟩ | ⟨w, -, waits, -, count, wifi, web⟩
  · rw [count, wifi, web, notFull]
    exact ⟨by omega, rfl⟩
  · rw [count, wifi, web, waits, notFull]
    exact ⟨by simp only [WifiAt.took]; omega, rfl⟩
  · have moved := passed_update s.web w .passed
    rw [waits] at moved
    rw [count, wifi, web, notFull]
    simp only [WebAt.took] at moved
    exact ⟨by omega, rfl⟩

/-- A network thread's take moves what it gets from the stock to the thread. -/
theorem semTake_web_books {s : StartUp} {w : Web} (starting : s.web w = .starting) :
    (s.semTake (.web w)).wifiReadySem.count + passed (s.semTake (.web w)).web =
        s.wifiReadySem.count + passed s.web ∧
      (s.wifiReadySem.count = 0 → passed (s.semTake (.web w)).web = passed s.web) ∧
      (s.wifiReadySem.count ≠ 0 → passed (s.semTake (.web w)).web = passed s.web + 1) := by
  rcases s.semTake_web_cases w with ⟨-, ⟨count, web⟩ | ⟨none, count, web⟩⟩
  · have moved := passed_update s.web w .passed
    rw [starting] at moved
    simp only [WebAt.took] at moved
    rw [web]
    omega
  · have moved := passed_update s.web w .waiting
    rw [starting] at moved
    simp only [WebAt.took] at moved
    rw [web]
    omega

/-- A take leaves what the handler has given as it was. -/
theorem semTake_handed (s : StartUp) (t : Thread) : (s.semTake t).handed = s.handed := by
  simp [handed]

theorem semGive_handed (s : StartUp) : s.semGive.handed = s.handed := by
  simp [handed]

/-! ## The books of an ordered step -/

/-- While `wifi_connect` has taken nothing and given nothing, at most the event's permit is
in the books. -/
theorem Ledger.waiting_for_event {s : StartUp} (books : s.Ledger) (took : s.wifi.took = 0)
    (gave : s.wifi.gave = 0) : s.wifiReadySem.count = s.handed ∧ passed s.web = 0 := by
  have balance := books.balance
  have none : passed s.web = 0 := books.wifiFirst.resolve_right (by omega)
  omega

theorem Ledger.wifiTake {s : StartUp} (books : s.Ledger) (requested : s.wifi = .requested) :
    (s.semTake .wifi).Ledger := by
  have took : s.wifi.took = 0 := by rw [requested]; rfl
  have gave : s.wifi.gave = 0 := by rw [requested]; rfl
  obtain ⟨stock, nonePassed⟩ := books.waiting_for_event took gave
  have coherent : (s.semTake .wifi).Coherent :=
    books.coherent.semTake (by simp [Waits, requested])
  rcases s.semTake_wifi_cases with ⟨web, ⟨count, ready⟩ | ⟨none, count, waiting⟩⟩
  · refine ⟨coherent, ?_, .inl (web ▸ nonePassed), ?_⟩
    · rw [semTake_handed, ready, web]
      simp only [WifiAt.took, WifiAt.gave]
      omega
    · rw [semTake_handed, ready]
      simp only [WifiAt.took]
      omega
  · refine ⟨coherent, ?_, .inl (web ▸ nonePassed), ?_⟩
    · rw [semTake_handed, waiting, web]
      simp only [WifiAt.took, WifiAt.gave]
      omega
    · rw [waiting]
      exact Nat.zero_le _

theorem Ledger.webTake {s : StartUp} (books : s.Ledger) {w : Web}
    (starting : s.web w = .starting) (ordered : s.wifiReadySem.count = 0 ∨ s.wifi.took = 1) :
    (s.semTake (.web w)).Ledger := by
  obtain ⟨total, noStock, -⟩ := semTake_web_books starting
  have wifi := (s.semTake_web_cases w).1
  refine ⟨books.coherent.semTake (by simp [Waits, starting]), ?_, ?_, ?_⟩
  · have balance := books.balance
    rw [semTake_handed, wifi]
    omega
  · rw [wifi]
    rcases ordered with none | took
    · rw [noStock none]
      exact books.wifiFirst
    · exact .inr took
  · rw [semTake_handed, wifi]
    exact books.signalled

/-- Giving the event's permit: `wifi_connect` gets it, or it goes into stock. -/
theorem Ledger.handlerGive {s : StartUp} (books : s.Ledger) (giving : s.giving = true)
    (ordered : s.wifi = .waiting ∨ ∀ w, s.web w ≠ .waiting) :
    { s with giving := false }.semGive.Ledger := by
  have unhanded : s.handed = 0 := by simp [handed, giving]
  have handed' : ({ s with giving := false } : StartUp).handed = 1 := by
    simp [handed, books.coherent.handled_of_giving giving]
  have coherent := books.coherent.handOver
  have balance := books.balance
  have signalled := books.signalled
  have given : s.wifi.gave = 0 := by
    cases stands : s.wifi <;> simp_all [WifiAt.took, WifiAt.gave]
  obtain ⟨total, gave⟩ := semGive_books coherent (by show s.wifiReadySem.count = 0; omega)
  refine ⟨coherent.semGive, ?_, ?_, ?_⟩
  · rw [semGive_handed, handed', total, gave]
    show s.wifiReadySem.count + s.wifi.took + passed s.web + 1 = 1 + s.wifi.gave
    omega
  · rcases semGive_cases coherent with
      ⟨-, -, -, web⟩ | ⟨-, -, -, -, web⟩ | ⟨w, notWaiting, waits, -⟩
    · left; rw [web]; show passed s.web = 0; omega
    · left; rw [web]; show passed s.web = 0; omega
    · rcases ordered with wifiWaits | nobody
      · exact absurd wifiWaits notWaiting
      · exact absurd waits (nobody w)
  · rw [semGive_handed, handed']
    cases ({ s with giving := false } : StartUp).semGive.wifi <;> simp [WifiAt.took]

/-- Each of the two gives of `wifi_connect` goes into the books if nothing is in stock. -/
theorem Ledger.wifiGive {s : StartUp} (books : s.Ledger) {now : WifiAt}
    (coherent : ({ s with wifi := now } : StartUp).Coherent) (took : s.wifi.took = 1)
    (took' : now.took = 1) (gave' : now.gave = s.wifi.gave + 1)
    (noStock : s.wifiReadySem.count = 0) : { s with wifi := now }.semGive.Ledger := by
  have balance := books.balance
  have signalled := books.signalled
  obtain ⟨total, gave⟩ := semGive_books coherent noStock
  have wifi : ({ s with wifi := now } : StartUp).semGive.wifi.took = 1 := by
    rcases semGive_cases coherent with
      ⟨-, -, now, -⟩ | ⟨-, -, -, now, -⟩ | ⟨w, -, -, -, -, now, -⟩
    · rwa [now]
    · rw [now]; rfl
    · rwa [now]
  refine ⟨coherent.semGive, ?_, .inr wifi, ?_⟩
  · rw [semGive_handed, total, gave]
    show s.wifiReadySem.count + now.took + passed s.web + 1 = s.handed + now.gave
    omega
  · rw [semGive_handed, wifi]
    show 1 ≤ s.handed
    omega

/-- **An ordered step keeps the books.** -/
theorem ledger_step {s s' : StartUp} {st : Step} (books : s.Ledger) (timely : st.Timely)
    (ordered : s.Ordered st) (taken : step s st = some s') : s'.Ledger := by
  have balance := books.balance
  cases st with
  | connect iface ret =>
    have coherent := coherent_step books.coherent taken
    obtain ⟨starting, rfl⟩ := step_connect.1 taken
    rw [wifiConnect, if_neg (by simp [timely.1]), if_neg (by simp [timely.2])] at coherent ⊢
    rw [starting] at balance
    exact ⟨coherent, balance, .inl (by simpa [starting, WifiAt.took] using books.wifiFirst),
      Nat.zero_le _⟩
  | wifiTake =>
    obtain ⟨requested, rfl⟩ := step_wifiTake.1 taken
    exact books.wifiTake requested
  | wifiGive =>
    have signalled := books.signalled
    have one : s.handed ≤ 1 := Bool.toNat_le _
    rcases step_wifiGive.1 taken with ⟨ready, rfl⟩ | ⟨gaveOne, rfl⟩
    · have noStock : s.wifiReadySem.count = 0 := by
        rw [ready] at balance
        simp only [WifiAt.took, WifiAt.gave] at balance
        omega
      exact books.wifiGive (books.coherent.setWifi (by simp [ready]) (by simp) (by simp))
        (by rw [ready]; rfl) rfl (by rw [ready]; rfl) noStock
    · exact books.wifiGive (books.coherent.setWifi (by simp [gaveOne]) (by simp) (by simp))
        (by rw [gaveOne]; rfl) rfl (by rw [gaveOne]; rfl) (ordered gaveOne)
  | webTake w =>
    obtain ⟨starting, rfl⟩ := step_webTake.1 taken
    refine books.webTake starting (ordered.imp_right fun after => ?_)
    rcases after with stands | stands | stands <;> rw [stands] <;> rfl
  | timeout t => exact timely.elim
  | event e =>
    have coherent := coherent_step books.coherent taken
    obtain ⟨-, rfl⟩ := step_event.1 taken
    cases e with
    | wifiConnectResult status => exact books
    | other => exact books
    | ipv4AddrAdd =>
      rw [eventHandler] at coherent ⊢
      split_ifs at coherent ⊢ with before
      · exact books
      · have unhanded : s.handed = 0 := by simp [handed, before]
        have signalled := books.signalled
        refine ⟨coherent, ?_, books.wifiFirst, ?_⟩
        · show s.wifiReadySem.count + s.wifi.took + passed s.web = 0 + s.wifi.gave
          omega
        · show s.wifi.took ≤ 0
          omega
  | handlerGive =>
    obtain ⟨giving, rfl⟩ := step_handlerGive.1 taken
    exact books.handlerGive giving ordered

/-! ## A step out of order, and what follows it -/

/-- The second of the two gives meets a full stock. -/
theorem Ledger.wifiGive_lost {s : StartUp} (books : s.Ledger) (gaveOne : s.wifi = .gaveOne)
    (stock : s.wifiReadySem.count ≠ 0) : { s with wifi := .done }.semGive.Lost := by
  have balance := books.balance
  have one : s.handed ≤ 1 := Bool.toNat_le _
  have stocked : s.wifiReadySem.count ≤ 1 := s.wifiReadySem.bounded
  rw [gaveOne] at balance
  simp only [WifiAt.took, WifiAt.gave] at balance
  have handled : s.Handled := handed_eq_one_iff.1 (by omega)
  have done : ({ s with wifi := .done } : StartUp).Coherent :=
    books.coherent.setWifi (by simp [gaveOne]) (by simp) (by simp)
  rcases semGive_cases done with ⟨-, count, wifi, web⟩ | ⟨-, none, -⟩ | ⟨w, -, -, none, -⟩
  · refine ⟨done.semGive, by simpa [Handled] using handled, .inr ⟨wifi, ?_⟩⟩
    rw [count, web]
    show min (s.wifiReadySem.count + 1) 1 + passed s.web ≤ 1
    omega
  · exact absurd none stock
  · exact absurd none stock

/-- A network thread takes the event's permit from the stock. -/
theorem Ledger.webTake_lost {s : StartUp} (books : s.Ledger) {w : Web} (starting : s.web w = .starting)
    (stock : s.wifiReadySem.count ≠ 0)
    (notTaken : ¬ (s.wifi = .ready ∨ s.wifi = .gaveOne ∨ s.wifi = .done)) :
    (s.semTake (.web w)).Lost := by
  have one : s.handed ≤ 1 := Bool.toNat_le _
  obtain ⟨took, gave⟩ := took_eq_zero_of_not notTaken
  obtain ⟨inStock, nonePassed⟩ := books.waiting_for_event took gave
  obtain ⟨total, -, one'⟩ := semTake_web_books starting
  have passedOne := one' stock
  have handled : s.Handled := handed_eq_one_iff.1 (by omega)
  refine ⟨books.coherent.semTake (by simp [Waits, starting]), by simpa [Handled] using handled,
    .inl ⟨?_, by omega, by omega⟩⟩
  rw [(s.semTake_web_cases w).1]
  exact took

/-- The event's permit goes to a network thread that waits. -/
theorem Ledger.handlerGive_lost {s : StartUp} (books : s.Ledger) (giving : s.giving = true)
    (notWaiting : s.wifi ≠ .waiting) {w : Web} (waits : s.web w = .waiting) :
    { s with giving := false }.semGive.Lost := by
  have signalled := books.signalled
  have unhanded : s.handed = 0 := by simp [handed, giving]
  have took : s.wifi.took = 0 := by omega
  have nonePassed : passed s.web = 0 := books.wifiFirst.resolve_right (by omega)
  have handled := books.coherent.handled_of_giving giving
  have coherent := books.coherent.handOver
  rcases semGive_cases coherent with
    ⟨nobody, -⟩ | ⟨wifiWaits, -⟩ | ⟨v, -, vWaits, -, count, wifi, web⟩
  · exact absurd waits (nobody (.web w))
  · exact absurd wifiWaits notWaiting
  · have moved := passed_update s.web v .passed
    rw [show s.web v = .waiting from vWaits] at moved
    simp only [WebAt.took] at moved
    refine ⟨coherent.semGive, by simpa [Handled] using handled, .inl ⟨?_, count, ?_⟩⟩
    · rw [wifi]
      exact took
    · rw [web]
      show passed (Function.update s.web v .passed) = 1
      omega

/-- **The first step out of order loses a permit.** -/
theorem lost_of_not_ordered {s s' : StartUp} {st : Step} (books : s.Ledger)
    (unordered : ¬ s.Ordered st) (taken : step s st = some s') : s'.Lost := by
  cases st with
  | connect | wifiTake | timeout | event => exact absurd trivial unordered
  | wifiGive =>
    obtain ⟨gaveOne, stock⟩ : s.wifi = .gaveOne ∧ s.wifiReadySem.count ≠ 0 := by
      simpa [Ordered] using unordered
    rcases step_wifiGive.1 taken with ⟨ready, -⟩ | ⟨-, rfl⟩
    · rw [gaveOne] at ready
      cases ready
    · exact books.wifiGive_lost gaveOne stock
  | webTake w =>
    obtain ⟨stock, notTaken⟩ : s.wifiReadySem.count ≠ 0 ∧
        ¬ (s.wifi = .ready ∨ s.wifi = .gaveOne ∨ s.wifi = .done) := not_or.1 unordered
    obtain ⟨starting, rfl⟩ := step_webTake.1 taken
    exact books.webTake_lost starting stock notTaken
  | handlerGive =>
    obtain ⟨notWaiting, w, waits⟩ : s.wifi ≠ .waiting ∧ ∃ w, s.web w = .waiting := by
      simpa [Ordered] using unordered
    obtain ⟨giving, rfl⟩ := step_handlerGive.1 taken
    exact books.handlerGive_lost giving notWaiting waits

/-- **Nothing makes up for a lost permit.** -/
theorem lost_step {s s' : StartUp} {st : Step} (lost : s.Lost) (timely : st.Timely)
    (taken : step s st = some s') : s'.Lost := by
  have coherent := coherent_step lost.coherent taken
  have handled := lost.handled
  cases st with
  | connect iface ret =>
    obtain ⟨starting, -⟩ := step_connect.1 taken
    exact absurd starting (lost.coherent.requested handled.1).1
  | wifiTake =>
    obtain ⟨requested, rfl⟩ := step_wifiTake.1 taken
    rcases lost.short with ⟨-, noStock, onePassed⟩ | ⟨done, -⟩
    · refine ⟨coherent, by simpa [Handled] using handled, .inl ?_⟩
      rcases s.semTake_wifi_cases with ⟨web, ⟨count, -⟩ | ⟨-, count, waiting⟩⟩
      · omega
      · exact ⟨by rw [waiting]; rfl, count, by rw [web]; exact onePassed⟩
    · rw [requested] at done
      cases done
  | wifiGive =>
    rcases step_wifiGive.1 taken with ⟨stands, -⟩ | ⟨stands, -⟩ <;>
      rcases lost.short with ⟨took, -⟩ | ⟨done, -⟩
    · rw [stands] at took; cases took
    · rw [stands] at done; cases done
    · rw [stands] at took; cases took
    · rw [stands] at done; cases done
  | webTake w =>
    obtain ⟨starting, rfl⟩ := step_webTake.1 taken
    obtain ⟨total, noStock', -⟩ := semTake_web_books starting
    have wifi := (s.semTake_web_cases w).1
    refine ⟨coherent, by simpa [Handled] using handled, ?_⟩
    rw [wifi]
    refine lost.short.imp (fun ⟨took, noStock, onePassed⟩ => ?_) (fun ⟨done, few⟩ => ?_)
    · have same := noStock' noStock
      exact ⟨took, by omega, by omega⟩
    · exact ⟨done, by omega⟩
  | timeout t => exact timely.elim
  | event e =>
    obtain ⟨-, rfl⟩ := step_event.1 taken
    cases e with
    | wifiConnectResult status => exact lost
    | other => exact lost
    | ipv4AddrAdd =>
      rw [eventHandler, if_pos handled.1]
      exact lost
  | handlerGive =>
    obtain ⟨giving, -⟩ := step_handlerGive.1 taken
    simp [handled.2] at giving

/-! ## The start-up as a whole -/

/-- No thread has returned early. -/
structure OnTime (s : StartUp) : Prop where
  coherent : s.Coherent
  accepted : s.wifi ≠ .refused
  wifi : s.wifi ≠ .timedOut
  web : ∀ w, s.web w ≠ .timedOut

theorem onTime_boot : boot.OnTime where
  coherent := coherent_boot
  accepted := by simp [boot]
  wifi := by simp [boot]
  web := by simp [boot]

theorem OnTime.update {web : Web → WebAt} (onTime : ∀ w, web w ≠ .timedOut) (w : Web)
    {now : WebAt} (other : now ≠ .timedOut) : ∀ v, Function.update web w now v ≠ .timedOut := by
  intro v
  by_cases same : v = w
  · rwa [same, Function.update_self]
  · rw [Function.update_of_ne same]
    exact onTime v

theorem OnTime.semGive {s : StartUp} (onTime : s.OnTime) : s.semGive.OnTime := by
  refine ⟨onTime.coherent.semGive, ?_, ?_, ?_⟩ <;>
    rcases semGive_cases onTime.coherent with
      ⟨-, -, wifi, web⟩ | ⟨-, -, -, wifi, web⟩ | ⟨w, -, -, -, -, wifi, web⟩ <;>
    simp only [wifi, web]
  · exact onTime.accepted
  · simp
  · exact onTime.accepted
  · exact onTime.wifi
  · simp
  · exact onTime.wifi
  · exact onTime.web
  · exact onTime.web
  · exact OnTime.update onTime.web w (by simp)

/-- A timely step sends no thread back. -/
theorem onTime_step {s s' : StartUp} {st : Step} (onTime : s.OnTime) (timely : st.Timely)
    (taken : step s st = some s') : s'.OnTime := by
  have coherent := coherent_step onTime.coherent taken
  cases st with
  | connect iface ret =>
    obtain ⟨starting, rfl⟩ := step_connect.1 taken
    rw [wifiConnect, if_neg (by simp [timely.1]), if_neg (by simp [timely.2])] at coherent ⊢
    exact ⟨coherent, by simp, by simp, onTime.web⟩
  | wifiTake =>
    obtain ⟨requested, rfl⟩ := step_wifiTake.1 taken
    obtain ⟨web, ⟨-, now⟩ | ⟨-, -, now⟩⟩ := s.semTake_wifi_cases
    · exact ⟨coherent, by simp [now], by simp [now], by rw [web]; exact onTime.web⟩
    · exact ⟨coherent, by simp [now], by simp [now], by rw [web]; exact onTime.web⟩
  | wifiGive =>
    rcases step_wifiGive.1 taken with ⟨ready, rfl⟩ | ⟨gaveOne, rfl⟩
    · have moved : ({ s with wifi := .gaveOne } : StartUp).OnTime :=
        ⟨onTime.coherent.setWifi (by simp [ready]) (by simp) (by simp), by simp, by simp,
          onTime.web⟩
      exact moved.semGive
    · have moved : ({ s with wifi := .done } : StartUp).OnTime :=
        ⟨onTime.coherent.setWifi (by simp [gaveOne]) (by simp) (by simp), by simp, by simp,
          onTime.web⟩
      exact moved.semGive
  | webTake w =>
    obtain ⟨starting, rfl⟩ := step_webTake.1 taken
    obtain ⟨wifi, now⟩ := s.semTake_web_cases w
    refine ⟨coherent, by rw [wifi]; exact onTime.accepted, by rw [wifi]; exact onTime.wifi, ?_⟩
    rcases now with ⟨-, web⟩ | ⟨-, -, web⟩ <;> rw [web]
    · exact OnTime.update onTime.web w (by simp)
    · exact OnTime.update onTime.web w (by simp)
  | timeout t => exact timely.elim
  | event e =>
    obtain ⟨-, rfl⟩ := step_event.1 taken
    cases e with
    | wifiConnectResult status => exact onTime
    | other => exact onTime
    | ipv4AddrAdd =>
      rw [eventHandler] at coherent ⊢
      split_ifs at coherent ⊢
      · exact onTime
      · exact ⟨coherent, onTime.accepted, onTime.wifi, onTime.web⟩
  | handlerGive =>
    obtain ⟨-, rfl⟩ := step_handlerGive.1 taken
    have handedOver : ({ s with giving := false } : StartUp).OnTime :=
      ⟨onTime.coherent.handOver, onTime.accepted, onTime.wifi, onTime.web⟩
    exact handedOver.semGive

/-- When no thread can take a step on the semaphore, `wifi_connect` waits or is done. -/
theorem OnTime.wifi_of_quiet {s : StartUp} (onTime : s.OnTime) (handled : s.Handled)
    (quiet : s.Quiet) : s.wifi = .waiting ∨ s.wifi = .done := by
  obtain ⟨noTake, noGive, -⟩ := quiet
  have begun := (onTime.coherent.requested handled.1).1
  cases stands : s.wifi with
  | starting => exact absurd stands begun
  | refused => exact absurd stands onTime.accepted
  | timedOut => exact absurd stands onTime.wifi
  | requested => simp [step, stands] at noTake
  | ready | gaveOne => simp [step, stands] at noGive
  | waiting => exact .inl rfl
  | done => exact .inr rfl

/-- And each network thread waits or has passed. -/
theorem OnTime.web_of_quiet {s : StartUp} (onTime : s.OnTime) (quiet : s.Quiet) (w : Web) :
    s.web w = .waiting ∨ s.web w = .passed := by
  have noTake := quiet.2.2 w
  cases stands : s.web w with
  | starting => simp [step, stands] at noTake
  | timedOut => exact absurd stands (onTime.web w)
  | waiting => exact .inl rfl
  | passed => exact .inr rfl

/-- With the books in order and nothing left to do, both network threads have passed. -/
theorem Ledger.both_pass {s : StartUp} (books : s.Ledger) (onTime : s.OnTime)
    (handled : s.Handled) (quiet : s.Quiet) : ∀ w, s.web w = .passed := by
  have balance := books.balance
  rw [handed_eq_one_iff.2 handled] at balance
  rcases onTime.wifi_of_quiet handled quiet with waiting | done
  · -- `wifi_connect` waits: the event's permit is nowhere
    have noStock : s.wifiReadySem.count = 0 :=
      Sem.count_of_mem ((books.coherent.mem_waiting .wifi).2 waiting)
    have first := books.wifiFirst
    rw [waiting] at balance first
    simp only [WifiAt.took, WifiAt.gave] at balance first
    omega
  · rw [done] at balance
    simp only [WifiAt.took, WifiAt.gave] at balance
    intro w
    rcases onTime.web_of_quiet quiet w with waits | passes
    · -- a thread waits, so nothing is in stock and the other two permits are taken
      have noStock : s.wifiReadySem.count = 0 :=
        Sem.count_of_mem ((books.coherent.mem_waiting (.web w)).2 waits)
      exact passed_eq_two_iff.1 (by omega) w
    · exact passes

/-- **The start-up permits.** In every run without a time-out whose connect request
succeeds, once the event is handled and no thread can take another step on the semaphore,
both network threads have passed if and only if every step of the run was taken in
order. -/
theorem both_pass_iff_ordered {steps : List Step} {s : StartUp}
    (ran : run step boot steps = some s) (timely : ∀ st ∈ steps, st.Timely)
    (handled : s.Handled) (quiet : s.Quiet) :
    (∀ w, s.web w = .passed) ↔ Along step Ordered boot steps := by
  have onTime : s.OnTime :=
    run_invariant_of_forall (fun _ _ _ => onTime_step) timely onTime_boot ran
  rcases along_or_left (P := Ordered) (fun _ _ _ => ledger_step)
      (fun _ _ _ books _ => lost_of_not_ordered books) (fun _ _ _ => lost_step)
      timely ledger_boot ran with ⟨ordered, books⟩ | ⟨unordered, lost⟩
  · exact iff_of_true (books.both_pass onTime handled quiet) ordered
  · refine iff_of_false (fun pass => ?_) unordered
    have both := passed_eq_two_iff.2 pass
    rcases lost.short with ⟨-, -, one⟩ | ⟨-, few⟩ <;> omega

/-- Both network threads wait, and `wifi_connect` waits when the event's permit is given. -/
def orderly : List Step :=
  [.webTake .info, .webTake .news, .connect true 0, .event .ipv4AddrAdd, .wifiTake,
    .handlerGive, .wifiGive, .event .ipv4AddrAdd, .wifiGive]

theorem both_pass_orderly :
    ∃ s, run step boot orderly = some s ∧ ∀ w, s.web w = .passed := by
  have ran := (Option.some_get (by decide +kernel : (run step boot orderly).isSome)).symm
  exact ⟨_, ran, (both_pass_iff_ordered ran (by decide +kernel) (by decide +kernel)
    (by decide +kernel)).2 (by decide +kernel)⟩

/-- The event's permit is given before `wifi_connect` comes to its `k_sem_take`. -/
def hurried : List Step :=
  [.webTake .info, .webTake .news, .connect true 0, .event .ipv4AddrAdd, .handlerGive, .wifiTake]

/-- The permit goes to the thread for `/info`, and the thread for `/news` waits for a permit
that `wifi_connect`, which waits itself, never gives. -/
theorem permit_of_event_lost :
    ∃ s, run step boot hurried = some s ∧ (∀ st ∈ hurried, st.Timely) ∧ s.Handled ∧ s.Quiet ∧
      s.web .info = .passed ∧ s.web .news = .waiting ∧ s.wifi = .waiting := by
  have ran := (Option.some_get (by decide +kernel : (run step boot hurried).isSome)).symm
  exact ⟨_, ran, by decide +kernel⟩

end StartUp

end SmartClock.Net
