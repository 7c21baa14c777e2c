import Mathlib.Data.List.Sort

/-!
# Counting semaphores with a limit and a priority queue

A semaphore keeps a count between 0 and its limit and the threads that wait for it. `take`
uses up a permit if there is one and queues the thread otherwise. `give` hands its permit to
the first thread of the queue, and raises the count, up to the limit, only if nobody waits:
at the limit the permit is lost. A smaller number is a higher priority, and threads of
equal priority are served in the order they came.

`take_cases` and `give_cases` say everything the two operations do, and the proofs about
threads that use a semaphore go through these two.
-/

namespace SmartClock.Sync

/-- Of two threads `t` goes before `u` if its priority is strictly higher. -/
def Before {T : Type} (prio : T → Nat) (t u : T) : Prop := prio t < prio u

instance {T : Type} (prio : T → Nat) : DecidableRel (Before prio) :=
  fun t u => Nat.decLt (prio t) (prio u)

/-- A semaphore: permits are in stock only while nobody waits, and the queue stands in the
order of the priorities. -/
structure Sem {T : Type} (prio : T → Nat) (limit : Nat) where
  count : Nat
  waiting : List T
  bounded : count ≤ limit
  idle : count = 0 ∨ waiting = []
  queued : waiting.Pairwise fun t u => prio t ≤ prio u

/-- A thread that queues behind its equals keeps the queue in the order of priorities. -/
theorem pairwise_orderedInsert {T : Type} {prio : T → Nat} (t : T) :
    ∀ {waiting : List T}, (waiting.Pairwise fun a b => prio a ≤ prio b) →
      (waiting.orderedInsert (Before prio) t).Pairwise fun a b => prio a ≤ prio b
  | [], _ => by simp
  | u :: rest, queued => by
    obtain ⟨first, tail⟩ := List.pairwise_cons.1 queued
    rw [List.orderedInsert_cons]
    split
    case isTrue before =>
      refine List.pairwise_cons.2 ⟨fun v inQueue => ?_, queued⟩
      rcases List.mem_cons.1 inQueue with rfl | later
      · exact Nat.le_of_lt before
      · exact Nat.le_trans (Nat.le_of_lt before) (first v later)
    case isFalse notBefore =>
      refine List.pairwise_cons.2 ⟨fun v inQueue => ?_, pairwise_orderedInsert t tail⟩
      rcases (List.mem_orderedInsert (Before prio)).1 inQueue with rfl | later
      · exact Nat.le_of_not_lt notBefore
      · exact first v later

namespace Sem

variable {T : Type} {prio : T → Nat} {limit : Nat}

/-- A semaphore with so many permits in stock and nobody waiting. -/
def init (prio : T → Nat) (limit count : Nat) (bounded : count ≤ limit) : Sem prio limit where
  count := count
  waiting := []
  bounded := bounded
  idle := .inr rfl
  queued := .nil

/-- Thread `t` asks for a permit. The flag says whether it goes on at once. -/
def take (s : Sem prio limit) (t : T) : Bool × Sem prio limit :=
  if free : 0 < s.count then
    (true,
      { s with
        count := s.count - 1
        bounded := Nat.le_trans (Nat.sub_le _ _) s.bounded
        idle := .inr (s.idle.resolve_left (Nat.pos_iff_ne_zero.1 free)) })
  else
    (false,
      { s with
        waiting := s.waiting.orderedInsert (Before prio) t
        idle := .inl (Nat.eq_zero_of_not_pos free)
        queued := pairwise_orderedInsert t s.queued })

/-- One permit is given; the result names the thread that goes on with it. -/
def give (s : Sem prio limit) : Option T × Sem prio limit :=
  match queue : s.waiting with
  | [] =>
    (none,
      { count := min (s.count + 1) limit
        waiting := []
        bounded := Nat.min_le_right _ _
        idle := .inr rfl
        queued := .nil })
  | t :: rest =>
    (some t,
      { s with
        waiting := rest
        idle := .inl (s.idle.resolve_right (by simp [queue]))
        queued := (List.pairwise_cons.1 (queue ▸ s.queued)).2 })

/-- Thread `t` gives up waiting. -/
def giveUp [DecidableEq T] (s : Sem prio limit) (t : T) : Sem prio limit :=
  { s with
    waiting := s.waiting.erase t
    idle := s.idle.imp_right fun nobody => by simp [nobody]
    queued := s.queued.sublist List.erase_sublist }

/-- While a thread waits no permit is in stock. -/
theorem count_of_mem {s : Sem prio limit} {t : T} (waits : t ∈ s.waiting) : s.count = 0 :=
  s.idle.resolve_right (List.ne_nil_of_mem waits)

/-- Everything `take` does. -/
theorem take_cases (s : Sem prio limit) (t : T) :
    ((s.take t).1 = true ∧ (s.take t).2.count + 1 = s.count ∧
        (s.take t).2.waiting = s.waiting) ∨
      ((s.take t).1 = false ∧ s.count = 0 ∧ (s.take t).2.count = 0 ∧
        (s.take t).2.waiting = s.waiting.orderedInsert (Before prio) t) := by
  by_cases free : 0 < s.count
  · left
    rw [take, dif_pos free]
    exact ⟨rfl, Nat.sub_add_cancel free, rfl⟩
  · right
    rw [take, dif_neg free]
    have none : s.count = 0 := Nat.eq_zero_of_not_pos free
    exact ⟨rfl, none, none, rfl⟩

/-- Everything `give` does. -/
theorem give_cases (s : Sem prio limit) :
    (s.give.1 = none ∧ s.waiting = [] ∧ s.give.2.waiting = [] ∧
        s.give.2.count = min (s.count + 1) limit) ∨
      ∃ t rest, s.give.1 = some t ∧ s.waiting = t :: rest ∧ s.give.2.waiting = rest ∧
        s.count = 0 ∧ s.give.2.count = 0 := by
  rw [give]
  split
  case h_1 nobody => exact .inl ⟨rfl, nobody, rfl, rfl⟩
  case h_2 t rest queue =>
    have none : s.count = 0 := count_of_mem (t := t) (by simp [queue])
    exact .inr ⟨t, rest, rfl, queue, rfl, none, none⟩

/-- No waiting thread has a higher priority than the one that is woken. -/
theorem give_highest {s : Sem prio limit} {t : T} (woken : s.give.1 = some t) :
    ∀ u ∈ s.waiting, prio t ≤ prio u := by
  rcases s.give_cases with ⟨nobody, -⟩ | ⟨t', rest, woken', queue, -⟩
  · simp [nobody] at woken
  · obtain rfl : t' = t := by simpa [woken'] using woken
    intro u inQueue
    rw [queue] at inQueue
    rcases List.mem_cons.1 inQueue with rfl | later
    · exact Nat.le_refl _
    · exact (List.pairwise_cons.1 (queue ▸ s.queued)).1 u later

end Sem

end SmartClock.Sync
