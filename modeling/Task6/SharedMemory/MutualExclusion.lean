import Task6.SharedMemory.Turn

/-!
# Mutual exclusion of the hand-off

There is never more than one turn, whoever fails midway. What the design rests
on follows from the count: one writer at a time, no reader beside a writer, no
event set twice before it is waited for. The wake-ups are followed by number: a
posted packet stands for one completed write, and no two for the same one.
-/

namespace Task6

namespace Handoff

variable {C W : Nat}

/-! ## Wake-ups -/

/-- The part of the state a wake-up travels through. -/
structure Wakeups where
  clToSv : Option Nat
  waiter : WaiterPc
  posted : List Nat
  writes : Nat

def wakeups (s : Handoff C W) : Wakeups := ⟨s.clToSv, s.waiter, s.posted, s.writes⟩

/-- A wake-up under way has the number of a completed write, larger than all
that were posted; those were posted in order. -/
structure Wakeups.Numbered (u : Wakeups) : Prop where
  sorted : u.posted.Pairwise (· < ·)
  completed : ∀ k ∈ u.posted, k < u.writes
  signalled : ∀ k, u.clToSv = some k → k < u.writes ∧ ∀ j ∈ u.posted, j < k
  posting : ∀ k, u.waiter = .posting k → k < u.writes ∧ ∀ j ∈ u.posted, j < k

variable {cfg : HandoffConfig} {s s' : Handoff C W}

/-- The workers have no part in it. -/
theorem workerStep_wakeups {w : Fin W} {e : HandoffEvent C W}
    (hs : s.workerStep cfg w e = some s') : s'.wakeups = s.wakeups := by
  unfold workerStep at hs
  split at hs
  · split at hs
    · cases hs
      rfl
    · cases hs
  · split at hs
    · obtain ⟨-, hs⟩ := Option.ite_none_right_eq_some.mp hs
      cases hs
      rfl
    · cases hs
  · split at hs
    · cases hs
      rfl
    · cases hs
  · split at hs
    · obtain ⟨-, hs⟩ := Option.ite_none_left_eq_some.mp hs
      cases hs
      rfl
    · cases hs
  · split at hs
    · cases hs
      rfl
    · obtain ⟨-, hs⟩ := Option.ite_none_left_eq_some.mp hs
      cases hs
      rfl
    · cases hs
  · -- the copy
    split at hs
    · split at hs
      · cases hs
        rfl
      · cases hs
        rfl
    · cases hs
  · split at hs
    · split at hs
      · cases hs
        rfl
      · cases hs
        rfl
    · cases hs
  · -- the event for the clients
    split at hs
    · split at hs
      · split at hs
        · cases hs
          rfl
        · cases hs
          rfl
      · cases hs
        rfl
    · cases hs
  · split at hs
    · cases hs
      rfl
    · cases hs
  · cases hs

/-- A client has one when it sets `clToSv`. -/
theorem clientStep_wakeups {i : Fin C} {e : HandoffEvent C W}
    (hs : s.clientStep cfg i e = some s') :
    s'.wakeups = s.wakeups ∨
      s'.wakeups = ⟨some s.writes, s.waiter, s.posted, s.writes + 1⟩ := by
  unfold clientStep at hs
  split at hs
  · split at hs
    · obtain ⟨-, hs⟩ := Option.ite_none_right_eq_some.mp hs
      cases hs
      exact .inl rfl
    · cases hs
      exact .inl rfl
    · cases hs
      exact .inl rfl
    · cases hs
  · split at hs
    · obtain ⟨-, hs⟩ := Option.ite_none_left_eq_some.mp hs
      split at hs <;> cases hs <;> exact .inl rfl
    · cases hs
  · split at hs
    · split at hs <;> cases hs <;> exact .inl rfl
    · cases hs
  · split at hs
    · split at hs <;> cases hs <;> exact .inl rfl
    · cases hs
  · -- only the signal of a write counts
    split at hs
    · split at hs
      · cases hs
        exact .inr rfl
      · split at hs <;> cases hs <;> exact .inl rfl
    · cases hs
  · cases hs

theorem waiterStep_wakeups {e : HandoffEvent C W} (hs : s.waiterStep cfg e = some s') :
    (∃ k, s.waiter = .waiting ∧ s.clToSv = some k ∧
        s'.wakeups = ⟨none, .posting k, s.posted, s.writes⟩) ∨
      (∃ k, s.waiter = .posting k ∧
        s'.wakeups = ⟨s.clToSv, .waiting, s.posted ++ [k], s.writes⟩) ∨
      ∃ pc, pc.holdsTurn = 0 ∧ s'.wakeups = ⟨s.clToSv, pc, s.posted, s.writes⟩ := by
  unfold waiterStep at hs
  split at hs
  · split at hs
    · rename_i k hwait hset
      cases hs
      exact .inl ⟨k, hwait, hset, rfl⟩
    · cases hs
  · split at hs
    · rename_i hwait
      split at hs <;> cases hs
      · exact .inr (.inr ⟨.waiting, rfl, by rw [wakeups, hwait]⟩)
      · exact .inr (.inr ⟨.stopped, rfl, rfl⟩)
    · cases hs
  · split at hs
    · rename_i k hpost
      split at hs
      · cases hs
        exact .inr (.inl ⟨k, hpost, rfl⟩)
      · split at hs <;> cases hs
        · exact .inr (.inr ⟨.waiting, rfl, rfl⟩)
        · exact .inr (.inr ⟨.stopped, rfl, rfl⟩)
    · cases hs
  · split at hs
    · split at hs
      · cases hs
        exact .inr (.inr ⟨.stopped, rfl, rfl⟩)
      · cases hs
    · cases hs
  · cases hs

theorem numbered_init (cfg : HandoffConfig) (C W : Nat) : (init cfg C W).wakeups.Numbered := by
  refine ⟨List.Pairwise.nil, ?_, ?_, ?_⟩
  · intro k hk
    cases hk
  · intro k hk
    cases hk
  · intro k hk
    cases hk

theorem numbered_waiter {e : HandoffEvent C W} (hone : s.turn ≤ 1) (h : s.wakeups.Numbered)
    (hs : s.waiterStep cfg e = some s') : s'.wakeups.Numbered := by
  obtain ⟨hsorted, hcompleted, hsignalled, hposting⟩ := h
  rcases waiterStep_wakeups hs with ⟨k, -, hset, hnew⟩ | ⟨k, hpost, hnew⟩ | ⟨pc, hpc, hnew⟩
  · rw [hnew]
    refine ⟨hsorted, hcompleted, fun j hj => (by cases hj), fun j hj => ?_⟩
    cases hj
    exact hsignalled k hset
  · obtain ⟨hlt, hlast⟩ := hposting k hpost
    rw [hnew]
    refine ⟨?_, ?_, fun j hj => ?_, fun j hj => by cases hj⟩
    · rw [List.pairwise_append]
      refine ⟨hsorted, List.pairwise_singleton .., fun a ha b hb => ?_⟩
      rw [List.mem_singleton.mp hb]
      exact hlast a ha
    · intro a ha
      rcases List.mem_append.mp ha with ha | ha
      · exact hcompleted a ha
      · rw [List.mem_singleton.mp ha]
        exact hlt
    · -- the waiter has the only turn, so the event is not signalled
      exfalso
      have hset : s.clToSv.isSome = true := by
        rw [show s.clToSv = some j from hj]
        rfl
      simp only [turn, hset, hpost, WaiterPc.holdsTurn, Bool.toNat_true] at hone
      omega
  · rw [hnew]
    refine ⟨hsorted, hcompleted, hsignalled, fun j hj => ?_⟩
    have hj : pc = .posting j := hj
    rw [hj] at hpc
    cases hpc

theorem numbered_step {e : HandoffEvent C W} (hone : s.turn ≤ 1) (h : s.wakeups.Numbered)
    (hs : step cfg s e = some s') : s'.wakeups.Numbered := by
  have client : ∀ i, s.clientStep cfg i e = some s' → s'.wakeups.Numbered := by
    intro i hi
    rcases clientStep_wakeups hi with hsame | hset
    · rw [hsame]
      exact h
    · -- the new number is above all earlier ones
      rw [hset]
      refine ⟨h.sorted, fun k hk => Nat.lt_succ_of_lt (h.completed k hk), ?_, ?_⟩
      · intro k hk
        cases hk
        exact ⟨Nat.lt_succ_self _, h.completed⟩
      · intro k hk
        obtain ⟨hlt, hlast⟩ := h.posting k hk
        exact ⟨Nat.lt_succ_of_lt hlt, hlast⟩
  have worker : ∀ w, s.workerStep cfg w e = some s' → s'.wakeups.Numbered := by
    intro w hw
    rw [workerStep_wakeups hw]
    exact h
  cases e with
  | writeData i _ _ | clientMap i _ | clientCopy i | clientUnmap i _ | clientSignal i _ =>
    exact client i hs
  | waiterWake | waiterFails | waiterPost _ | waiterExit =>
    exact numbered_waiter hone h (of_running hs)
  | dequeue w | handleOther w | getData w _ | getMap w _ | getCopy w | getUnmap w _
  | getSignal w _ | finish w | exit w => exact worker w (of_running hs)
  | otherPacket | stop | close =>
    cases hs
    exact h

/-! ## Mutual exclusion -/

/-- What the hand-off promises. -/
structure Exclusive (s : Handoff C W) : Prop where
  single : s.turn ≤ 1
  oneWriter : ∀ i j, (s.clients i).holdsTurn = 1 → (s.clients j).holdsTurn = 1 → i = j
  oneReader : ∀ v w, (s.workers v).holdsTurn = 1 → (s.workers w).holdsTurn = 1 → v = w
  noReaderWhileWriting : ∀ i w, (s.clients i).holdsTurn = 1 → (s.workers w).holdsTurn = 0
  clToSvUnset : ∀ i, s.clients i = .signalling → s.clToSv = none
  svToClUnset : ∀ w size sharedMemSize, s.workers w = .signalling size sharedMemSize →
    s.svToCl = false
  packets : s.posted.Pairwise (· < ·) ∧ ∀ k ∈ s.posted, k < s.writes

theorem exclusive_of_turn (hone : s.turn ≤ 1) (hnum : s.wakeups.Numbered) : Exclusive s := by
  have hclient : ∀ i, (s.clients i).holdsTurn ≤ Pool.total ClientPc.holdsTurn s.clients :=
    Pool.weight_le_total _ _
  have hworker : ∀ w, (s.workers w).holdsTurn ≤ Pool.total WorkerPc.holdsTurn s.workers :=
    Pool.weight_le_total _ _
  have hsum := hone
  unfold turn at hsum
  refine { single := hone, oneWriter := ?_, oneReader := ?_, noReaderWhileWriting := ?_,
           clToSvUnset := ?_, svToClUnset := ?_, packets := ⟨hnum.sorted, hnum.completed⟩ }
  · intro i j hi hj
    by_contra hij
    have := Pool.weight_add_le_total ClientPc.holdsTurn s.clients hij
    omega
  · intro v w hv hw
    by_contra hvw
    have := Pool.weight_add_le_total WorkerPc.holdsTurn s.workers hvw
    omega
  · intro i w hi
    have := hclient i
    have := hworker w
    omega
  · intro i hi
    have hheld : (s.clients i).holdsTurn = 1 := by rw [hi]; rfl
    have := hclient i
    cases hset : s.clToSv with
    | none => rfl
    | some k =>
      rw [hset, Option.isSome_some, Bool.toNat_true] at hsum
      omega
  · intro w size sharedMemSize hw
    have hheld : (s.workers w).holdsTurn = 1 := by rw [hw]; rfl
    have := hworker w
    cases hset : s.svToCl with
    | false => rfl
    | true =>
      rw [hset, Bool.toNat_true] at hsum
      omega

theorem turn_le_step {e : HandoffEvent C W} (hone : s.turn ≤ 1) (hs : step cfg s e = some s') :
    s'.turn ≤ 1 := by
  obtain ⟨hkept, hlost⟩ := step_turn hone hs
  by_cases hk : KeepsTurn cfg s e
  · rw [hkept hk]
    exact hone
  · have := hlost hk
    omega

/-- **Mutual exclusion of the hand-off**: for any number of clients and workers,
any build, and any schedule of their lines with any answers of Windows, every
state of the run has at most one turn, and with it what the design promises. -/
theorem handoff_exclusive (cfg : HandoffConfig) (C W : Nat) (es : List (HandoffEvent C W)) :
    (machine cfg C W).Always Exclusive (init cfg C W) es := by
  refine Machine.always_of_invariant
    (I := fun s : Handoff C W => s.turn ≤ 1 ∧ s.wakeups.Numbered)
    (fun s h => exclusive_of_turn h.1 h.2) ?_ ?_ es
  · rintro s e s' ⟨hone, hnum⟩ hs
    exact ⟨turn_le_step hone hs, numbered_step hone hnum hs⟩
  · exact ⟨Nat.le_of_eq (turn_init cfg C W), numbered_init cfg C W⟩

end Handoff

end Task6
