import SmartClock.Net.StartUp

/-!
# The permits of the start-up

What the threads and the queue of the semaphore agree on is `Coherent`, and every step of
every run keeps it. `semGive_cases` and `semTake_wifi_cases`, `semTake_web_cases` restate
the two operations in terms of where the threads stand, and the accounts of the permits
(`Ledger`, `Lost`) are kept by these.
-/

namespace SmartClock.Net

open SmartClock.Run SmartClock.Sync

/-! ## Where a thread stands with the semaphore -/

namespace StartUp

/-- The thread waits in `k_sem_take`. -/
def Waits (s : StartUp) : Thread → Prop
  | .wifi => s.wifi = .waiting
  | .web w => s.web w = .waiting

section Moves

variable (s : StartUp) (t u : Thread)

@[simp] theorem resume_sem : (s.resume t).wifiReadySem = s.wifiReadySem := by cases t <;> rfl

@[simp] theorem park_sem : (s.park t).wifiReadySem = s.wifiReadySem := by cases t <;> rfl

@[simp] theorem expire_sem : (s.expire t).wifiReadySem = s.wifiReadySem := by cases t <;> rfl

@[simp] theorem resume_ipHandled : (s.resume t).ipHandled = s.ipHandled := by cases t <;> rfl

@[simp] theorem park_ipHandled : (s.park t).ipHandled = s.ipHandled := by cases t <;> rfl

@[simp] theorem expire_ipHandled : (s.expire t).ipHandled = s.ipHandled := by cases t <;> rfl

@[simp] theorem resume_giving : (s.resume t).giving = s.giving := by cases t <;> rfl

@[simp] theorem park_giving : (s.park t).giving = s.giving := by cases t <;> rfl

@[simp] theorem expire_giving : (s.expire t).giving = s.giving := by cases t <;> rfl

/-- A thread that goes on no longer waits; the others are as they were. -/
theorem waits_resume : (s.resume t).Waits u ↔ s.Waits u ∧ u ≠ t := by
  cases t with
  | wifi => cases u <;> simp [resume, Waits]
  | web w =>
    cases u with
    | wifi => simp [resume, Waits]
    | web v => by_cases same : v = w <;> simp [resume, Waits, Function.update, same]

/-- A thread that times out no longer waits; the others are as they were. -/
theorem waits_expire : (s.expire t).Waits u ↔ s.Waits u ∧ u ≠ t := by
  cases t with
  | wifi => cases u <;> simp [expire, Waits]
  | web w =>
    cases u with
    | wifi => simp [expire, Waits]
    | web v => by_cases same : v = w <;> simp [expire, Waits, Function.update, same]

/-- A thread that parks waits; the others are as they were. -/
theorem waits_park : (s.park t).Waits u ↔ s.Waits u ∨ u = t := by
  cases t with
  | wifi => cases u <;> simp [park, Waits]
  | web w =>
    cases u with
    | wifi => simp [park, Waits]
    | web v => by_cases same : v = w <;> simp [park, Waits, Function.update, same]

end Moves

/-- The queue of the semaphore holds the threads that wait, each once, and the handler has
run only after the connect request. -/
structure Coherent (s : StartUp) : Prop where
  mem_waiting : ∀ t, t ∈ s.wifiReadySem.waiting ↔ s.Waits t
  nodup : s.wifiReadySem.waiting.Nodup
  requested : s.ipHandled = true → s.wifi ≠ .starting ∧ s.wifi ≠ .refused
  handled_of_giving : s.giving = true → s.ipHandled = true

theorem coherent_boot : boot.Coherent where
  mem_waiting t := by cases t <;> simp [boot, Sem.init, Waits]
  nodup := List.nodup_nil
  requested h := by simp [boot] at h
  handled_of_giving h := by simp [boot] at h

/-! ## What the operations do to the threads -/

/-- Everything `k_sem_give` does: the permit goes into stock, or to `wifi_connect`, or, if
that does not wait, to a network thread. -/
theorem semGive_cases {s : StartUp} (coherent : s.Coherent) :
    ((∀ t, ¬ s.Waits t) ∧ s.semGive.wifiReadySem.count = min (s.wifiReadySem.count + 1) 1 ∧
        s.semGive.wifi = s.wifi ∧ s.semGive.web = s.web) ∨
      (s.wifi = .waiting ∧ s.wifiReadySem.count = 0 ∧ s.semGive.wifiReadySem.count = 0 ∧
        s.semGive.wifi = .ready ∧ s.semGive.web = s.web) ∨
      ∃ w, s.wifi ≠ .waiting ∧ s.web w = .waiting ∧ s.wifiReadySem.count = 0 ∧
        s.semGive.wifiReadySem.count = 0 ∧ s.semGive.wifi = s.wifi ∧
        s.semGive.web = Function.update s.web w .passed := by
  rcases s.wifiReadySem.give_cases with
    ⟨nobody, queue, -, count⟩ | ⟨t, rest, woken, queue, -, none, count⟩
  · left
    refine ⟨fun t waits => ?_, ?_⟩
    · simpa [queue] using (coherent.mem_waiting t).2 waits
    · simp [semGive, nobody, count]
  · right
    have waits : s.Waits t := (coherent.mem_waiting t).1 (by simp [queue])
    cases t with
    | wifi =>
      left
      refine ⟨waits, none, ?_⟩
      simp [semGive, woken, resume, count]
    | web w =>
      right
      refine ⟨w, fun wifiWaits => ?_, waits, none, ?_⟩
      · -- had `wifi_connect` waited, it would have been woken
        have first := Sem.give_highest woken .wifi ((coherent.mem_waiting .wifi).2 wifiWaits)
        simp [Thread.priority] at first
      · simp [semGive, woken, resume, count]

/-- Everything `k_sem_take` does when `wifi_connect` calls it. -/
theorem semTake_wifi_cases (s : StartUp) :
    (s.semTake .wifi).web = s.web ∧
      (((s.semTake .wifi).wifiReadySem.count + 1 = s.wifiReadySem.count ∧
          (s.semTake .wifi).wifi = .ready) ∨
        (s.wifiReadySem.count = 0 ∧ (s.semTake .wifi).wifiReadySem.count = 0 ∧
          (s.semTake .wifi).wifi = .waiting)) := by
  rcases s.wifiReadySem.take_cases .wifi with ⟨got, count, -⟩ | ⟨got, none, count, -⟩
  · simp [semTake, got, resume, count]
  · simp [semTake, got, park, none, count]

/-- Everything `k_sem_take` does when a network thread calls it. -/
theorem semTake_web_cases (s : StartUp) (w : Web) :
    (s.semTake (.web w)).wifi = s.wifi ∧
      (((s.semTake (.web w)).wifiReadySem.count + 1 = s.wifiReadySem.count ∧
          (s.semTake (.web w)).web = Function.update s.web w .passed) ∨
        (s.wifiReadySem.count = 0 ∧ (s.semTake (.web w)).wifiReadySem.count = 0 ∧
          (s.semTake (.web w)).web = Function.update s.web w .waiting)) := by
  rcases s.wifiReadySem.take_cases (.web w) with ⟨got, count, -⟩ | ⟨got, none, count, -⟩
  · simp [semTake, got, resume, count]
  · simp [semTake, got, park, none, count]

@[simp] theorem semTake_ipHandled (s : StartUp) (t : Thread) :
    (s.semTake t).ipHandled = s.ipHandled := by
  rw [semTake]; split <;> simp

@[simp] theorem semTake_giving (s : StartUp) (t : Thread) :
    (s.semTake t).giving = s.giving := by
  rw [semTake]; split <;> simp

@[simp] theorem semGive_ipHandled (s : StartUp) : s.semGive.ipHandled = s.ipHandled := by
  rw [semGive]; split <;> simp

@[simp] theorem semGive_giving (s : StartUp) : s.semGive.giving = s.giving := by
  rw [semGive]; split <;> simp

/-! ## Threads and queue stay coherent -/

theorem Coherent.semTake {s : StartUp} (coherent : s.Coherent) {t : Thread}
    (fresh : ¬ s.Waits t) : (s.semTake t).Coherent where
  mem_waiting u := by
    have same := coherent.mem_waiting u
    rcases s.wifiReadySem.take_cases t with ⟨got, -, queue⟩ | ⟨got, -, -, queue⟩
    · have : s.Waits u → u ≠ t := fun waits eq => fresh (eq ▸ waits)
      simp only [StartUp.semTake, got, if_true, resume_sem, queue, waits_resume]
      exact same.trans ⟨fun waits => ⟨waits, this waits⟩, fun both => both.1⟩
    · simp only [StartUp.semTake, got, Bool.false_eq_true, if_false, park_sem, queue, waits_park,
        List.mem_orderedInsert]
      exact (or_congr_right same).trans or_comm
  nodup := by
    rcases s.wifiReadySem.take_cases t with ⟨got, -, queue⟩ | ⟨got, -, -, queue⟩
    · simpa [StartUp.semTake, got, queue] using coherent.nodup
    · have notQueued : t ∉ s.wifiReadySem.waiting := fun queued =>
        fresh ((coherent.mem_waiting t).1 queued)
      simp only [StartUp.semTake, got, Bool.false_eq_true, if_false, park_sem, queue]
      exact (List.perm_orderedInsert _ t _).nodup_iff.2
        (List.nodup_cons.2 ⟨notQueued, coherent.nodup⟩)
  requested handled := by
    have before := coherent.requested (by simpa using handled)
    cases t with
    | wifi =>
      rcases s.semTake_wifi_cases.2 with ⟨-, now⟩ | ⟨-, -, now⟩ <;> simp [now]
    | web w => rwa [(s.semTake_web_cases w).1]
  handled_of_giving giving := by
    simpa using coherent.handled_of_giving (by simpa using giving)

theorem Coherent.semGive {s : StartUp} (coherent : s.Coherent) : s.semGive.Coherent where
  mem_waiting u := by
    have same := coherent.mem_waiting u
    rcases s.wifiReadySem.give_cases with
      ⟨nobody, queue, queue', -⟩ | ⟨t, rest, woken, queue, queue', -⟩
    · have unmoved : s.semGive.Waits u ↔ s.Waits u := by
        cases u <;> simp [StartUp.semGive, nobody, Waits]
      rw [unmoved, ← same, queue]
      simp [StartUp.semGive, nobody, queue']
    · have notAgain : t ∉ rest := (List.nodup_cons.1 (queue ▸ coherent.nodup)).1
      rw [queue, List.mem_cons] at same
      simp only [StartUp.semGive, woken, resume_sem, queue', waits_resume]
      constructor
      · intro later
        exact ⟨same.1 (.inr later), fun eq => notAgain (eq ▸ later)⟩
      · rintro ⟨waits, other⟩
        exact (same.2 waits).resolve_left other
  nodup := by
    rcases s.wifiReadySem.give_cases with
      ⟨nobody, queue, queue', -⟩ | ⟨t, rest, woken, queue, queue', -⟩
    · simp [StartUp.semGive, nobody, queue']
    · simpa [StartUp.semGive, woken, queue'] using (List.nodup_cons.1 (queue ▸ coherent.nodup)).2
  requested handled := by
    have before := coherent.requested (by simpa using handled)
    rcases semGive_cases coherent with ⟨-, -, now, -⟩ | ⟨-, -, -, now, -⟩ | ⟨w, -, -, -, -, now, -⟩
    · rwa [now]
    · simp [now]
    · rwa [now]
  handled_of_giving giving := by
    simpa using coherent.handled_of_giving (by simpa using giving)

/-- A thread that has gone on past its `k_sem_take` may go further without the semaphore. -/
theorem Coherent.setWifi {s : StartUp} (coherent : s.Coherent) {at' : WifiAt}
    (was : s.wifi ≠ .waiting) (now : at' ≠ .waiting)
    (past : s.ipHandled = true → at' ≠ .starting ∧ at' ≠ .refused) :
    { s with wifi := at' }.Coherent where
  mem_waiting t := by
    rw [coherent.mem_waiting t]
    cases t with
    | wifi => simp [Waits, was, now]
    | web w => rfl
  nodup := coherent.nodup
  requested := past
  handled_of_giving := coherent.handled_of_giving

/-- The handler comes to its `k_sem_give`. -/
theorem Coherent.handOver {s : StartUp} (coherent : s.Coherent) :
    ({ s with giving := false } : StartUp).Coherent where
  mem_waiting := coherent.mem_waiting
  nodup := coherent.nodup
  requested := coherent.requested
  handled_of_giving giving := by simp at giving

theorem Coherent.giveUp {s : StartUp} (coherent : s.Coherent) (t : Thread) :
    ({ s with wifiReadySem := s.wifiReadySem.giveUp t }.expire t).Coherent where
  mem_waiting u := by
    rw [expire_sem, waits_expire]
    show u ∈ s.wifiReadySem.waiting.erase t ↔ s.Waits u ∧ u ≠ t
    rw [coherent.nodup.mem_erase_iff, coherent.mem_waiting u, and_comm]
  nodup := by
    rw [expire_sem]
    exact coherent.nodup.erase t
  requested handled := by
    have before := coherent.requested (by simpa using handled)
    cases t with
    | wifi => simp [expire]
    | web w => exact before
  handled_of_giving giving := by
    simpa using coherent.handled_of_giving (by simpa using giving)

/-- Every step keeps the threads and the queue coherent. -/
theorem coherent_step {s s' : StartUp} {st : Step} (coherent : s.Coherent)
    (taken : step s st = some s') : s'.Coherent := by
  cases st with
  | connect iface ret =>
    obtain ⟨starting, rfl⟩ := step_connect.1 taken
    have unhandled : s.ipHandled ≠ true := fun handled => (coherent.requested handled).1 starting
    have moved (now : WifiAt) (other : now ≠ .waiting) : { s with wifi := now }.Coherent :=
      coherent.setWifi (by simp [starting]) other (absurd · unhandled)
    rw [wifiConnect]
    split_ifs
    · exact moved .refused (by simp)
    · exact moved .refused (by simp)
    · exact moved .requested (by simp)
  | wifiTake =>
    obtain ⟨requested, rfl⟩ := step_wifiTake.1 taken
    exact coherent.semTake (by simp [Waits, requested])
  | wifiGive =>
    rcases step_wifiGive.1 taken with ⟨ready, rfl⟩ | ⟨gaveOne, rfl⟩
    · exact (coherent.setWifi (by simp [ready]) (by simp) (by simp)).semGive
    · exact (coherent.setWifi (by simp [gaveOne]) (by simp) (by simp)).semGive
  | webTake w =>
    obtain ⟨starting, rfl⟩ := step_webTake.1 taken
    exact coherent.semTake (by simp [Waits, starting])
  | timeout t =>
    obtain ⟨-, rfl⟩ := step_timeout.1 taken
    exact coherent.giveUp t
  | event e =>
    obtain ⟨⟨begun, accepted, -⟩, rfl⟩ := step_event.1 taken
    cases e with
    | wifiConnectResult status => exact coherent
    | other => exact coherent
    | ipv4AddrAdd =>
      rw [eventHandler]
      split
      · exact coherent
      · exact ⟨coherent.mem_waiting, coherent.nodup, fun _ => ⟨begun, accepted⟩, fun _ => rfl⟩
  | handlerGive =>
    obtain ⟨-, rfl⟩ := step_handlerGive.1 taken
    exact coherent.handOver.semGive

/-- After every run the queue holds just the threads that wait. -/
theorem coherent_of_run {steps : List Step} {s : StartUp} (ran : run step boot steps = some s) :
    s.Coherent :=
  run_invariant (fun _ _ _ => coherent_step) coherent_boot ran

end StartUp

end SmartClock.Net
