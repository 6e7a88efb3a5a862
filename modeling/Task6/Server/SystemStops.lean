import Task6.Server.DeliveryProgress
import Task6.Server.HandoffRefined
import Task6.Server.PipesRefined
import Task6.SharedMemory.HandoffProgress

/-!
# The system comes to its end

`shutdown_terminates` lets a worker end what it does with a packet at once. In the
system it has the lines of two branches before it, a lock to wait for and a task
whose result names a pipe. `system_stops`: behind the shutdown event the workers
have a bounded number of lines all the same, and none of them is stuck: the lock is
held by a worker that goes on, the result names a pipe that exists, and a packet is
there for each that waits. The three refinements provide one of these each.
-/

namespace Task6

open Win32

/-- The worker is in the branch of the shared memory server. -/
def WorkerPc.InBranch : WorkerPc → Prop
  | dequeued (.sharedMemory _) | mapping _ | copying _ _ | unmapping _ _ | signalling _ _
  | handling _ => True
  | idle | dequeued .other | exited => False

/-- The lines up to the end of the thread, when the shutdown event is set: those of
the packet it has, one more dequeue, and the check. -/
def WorkerLine.left : WorkerLine → Nat
  | blocked => 2
  | checking _ => 1
  | exited _ _ => 0
  | servicing _ => 6
  | pipeTask task => task.due + 2
  | shared pc => pc.left + 2

namespace WorkerLine

theorem left_ofPc (pc : WorkerPc) : (ofPc pc).left = pc.left + 2 := by
  cases pc <;> rfl

/-- Only in the branch of the shared memory server a worker has the lock. -/
theorem shared_of_locked {line : WorkerLine} (hlocked : line.pc.locked ≠ 0) :
    ∃ pc, line = .shared pc := by
  cases line with
  | shared pc => exact ⟨pc, rfl⟩
  | blocked | servicing _ | pipeTask _ => exact absurd rfl hlocked
  | checking dequeued => cases dequeued <;> exact absurd rfl hlocked
  | exited reason _ => cases reason <;> exact absurd rfl hlocked

end WorkerLine

namespace Handoff

variable {C W : Nat} {cfg : HandoffConfig} {h h' : Handoff C W} {v : Fin W}

/-- Where a line of the branch leaves the worker. -/
def Goes (v : Fin W) (h h' : Handoff C W) : Prop :=
  (h'.workers v).left < (h.workers v).left ∧
    ((h'.workers v).InBranch ∨ h'.workers v = .idle ∨ h'.running = false) ∧
    (h'.running = true → h.running = true)

theorem Goes.to {pc pc' : WorkerPc} (hpc : h.workers v = pc) (hpc' : h'.workers v = pc')
    (hleft : pc'.left < pc.left) (hplace : pc'.InBranch ∨ pc' = .idle)
    (hrun : h'.running = h.running) : Goes v h h' := by
  rw [← hpc'] at hleft hplace
  rw [← hpc] at hleft
  exact ⟨hleft, hplace.imp_right .inl, fun hr => hrun.symm.trans hr⟩

/-- The worker takes the process with it. -/
theorem Goes.crash (hpc : 0 < (h.workers v).left) : Goes v h (h.crash v) := by
  refine ⟨?_, .inr (.inr rfl), fun hr => by cases hr⟩
  have hself : (h.crash v).workers v = .exited := Function.update_self ..
  rw [hself]
  exact hpc

/-- A line of the branch brings the worker nearer to its end, and leaves it in the
branch, at the port, or in a process that has ended. -/
theorem goes_of_shared {line : SharedLine} (hs : h.workerStep cfg v (line.event v) = some h') :
    Goes v h h' := by
  have hself : ∀ pc, Function.update h.workers v pc v = pc := fun pc => Function.update_self ..
  cases line with
  | getData =>
    simp only [SharedLine.event, workerStep] at hs
    split at hs
    · rename_i write hpc
      split at hs
      · cases hs
      · cases hs
        exact .to hpc (hself _) (Nat.lt_succ_self 6) (.inl trivial) rfl
    · cases hs
  | map readable =>
    simp only [SharedLine.event, workerStep] at hs
    split at hs
    · rename_i size hpc
      cases hs
      exact .to hpc (hself _) (Nat.succ_pos 5) (.inr rfl) rfl
    · rename_i size readable hpc
      split at hs
      · cases hs
      · cases hs
        exact .to hpc (hself _) (Nat.lt_succ_self 5) (.inl trivial) rfl
    · cases hs
  | copy =>
    simp only [SharedLine.event, workerStep] at hs
    split at hs
    · rename_i size readable hpc
      split at hs
      · cases hs
        exact .to hpc (hself _) (Nat.lt_succ_self 4) (.inl trivial) rfl
      · cases hs
        exact .crash (by rw [hpc]; exact Nat.succ_pos 4)
    · cases hs
  | unmap unmapped =>
    simp only [SharedLine.event, workerStep] at hs
    split at hs
    · rename_i size sharedMemSize hpc
      split at hs
      · cases hs
        exact .to hpc (hself _) (Nat.lt_succ_self 3) (.inl trivial) rfl
      · cases hs
        exact .crash (by rw [hpc]; exact Nat.succ_pos 3)
    · cases hs
  | signal signalled =>
    simp only [SharedLine.event, workerStep] at hs
    split at hs
    · rename_i size sharedMemSize hpc
      split at hs
      · split at hs
        · cases hs
          exact .to hpc (hself _) (Nat.succ_pos 2) (.inr rfl) rfl
        · cases hs
          exact .to hpc (hself _) (Nat.succ_lt_succ (Nat.succ_pos 1)) (.inl trivial) rfl
      · cases hs
        exact .crash (by rw [hpc]; exact Nat.succ_pos 2)
    · cases hs
  | finish =>
    simp only [SharedLine.event, workerStep] at hs
    split at hs
    · rename_i recv hpc
      cases hs
      exact .to hpc (hself _) Nat.one_pos (.inr rfl) rfl
    · cases hs

/-- A worker in the scope of the lock has a next line. -/
theorem exists_lockedLine (cfg : HandoffConfig) (hlocked : (h.workers v).locked ≠ 0) :
    ∃ (line : SharedLine) (h' : Handoff C W), h.workerStep cfg v (line.event v) = some h' := by
  have some_of : ∀ line : SharedLine, (h.workerStep cfg v (line.event v)).isSome →
      ∃ (line : SharedLine) (h' : Handoff C W), h.workerStep cfg v (line.event v) = some h' :=
    fun line hline => ⟨line, Option.isSome_iff_exists.mp hline⟩
  cases hpc : h.workers v with
  | idle | dequeued _ | exited =>
    rw [hpc] at hlocked
    exact absurd rfl hlocked
  | mapping size =>
    refine some_of (.map none) ?_
    simp only [SharedLine.event, workerStep, hpc, Option.isSome_some]
  | copying size readable =>
    refine some_of .copy ?_
    simp only [SharedLine.event, workerStep, hpc]
    split <;> rfl
  | unmapping size sharedMemSize =>
    refine some_of (.unmap true) ?_
    simp only [SharedLine.event, workerStep, hpc]
    split <;> rfl
  | signalling size sharedMemSize =>
    refine some_of (.signal true) ?_
    simp only [SharedLine.event, workerStep, hpc]
    split
    · split <;> rfl
    · rfl
  | handling recv =>
    refine some_of .finish ?_
    simp only [SharedLine.event, workerStep, hpc, Option.isSome_some]

/-- With a worker in the branch, it has a next line, or the one that has the lock. -/
theorem exists_branchLine (hfit : Fitting cfg h) (hrun : h.running = true)
    (hbranch : (h.workers v).InBranch) :
    ∃ u, (u = v ∨ (h.workers u).locked ≠ 0) ∧ ∃ (line : SharedLine) (h' : Handoff C W),
      h.workerStep cfg u (line.event u) = some h' := by
  by_cases hlocked : (h.workers v).locked = 0
  · -- it waits for the lock
    cases hlock : h.shMemBufferCS with
    | false =>
      cases hpc : h.workers v with
      | dequeued packet =>
        rw [hpc] at hbranch
        cases packet with
        | other => cases hbranch
        | sharedMemory write =>
          refine ⟨v, .inl rfl, .getData, ?_⟩
          simp only [SharedLine.event, workerStep, hpc, hlock, Bool.false_eq_true, if_false]
          exact ⟨_, rfl⟩
      | idle | exited =>
        rw [hpc] at hbranch
        cases hbranch
      | mapping _ | copying _ _ | unmapping _ _ | signalling _ _ | handling _ =>
        rw [hpc] at hlocked
        cases hlocked
    | true =>
      have hheld := hfit.held hrun
      rw [hlock, Bool.toNat_true] at hheld
      obtain ⟨u, hu⟩ := Pool.exists_ne_zero (Nat.one_le_iff_ne_zero.mp hheld)
      exact ⟨u, .inr hu, exists_lockedLine cfg hu⟩
  · exact ⟨v, .inl rfl, exists_lockedLine cfg hlocked⟩

end Handoff

namespace Task6System

variable {C W n : Nat} {build : Build} {s s' : Task6System C W n}

/-- The event is a worker's line. -/
def ofWorker : SystemEvent C W n → Bool
  | .dequeue _ | .iocpFails _ | .check _ | .service _ _ | .terminate _ | .handle _
  | .restart _ _ | .shared _ _ => true
  | .openPipe _ | .write _ _ | .closePipe _ | .connect _ _ | .complete _ _ | .abort _ _ _
  | .client _ _ | .waiterWake | .waiterFails | .waiterPost _ | .stop | .post
  | .waitReturns _ => false

/-- The lines all workers have left; the end of the process is one more. -/
def left (s : Task6System C W n) : Nat :=
  Pool.total WorkerLine.left s.workers + s.running.toNat

/-! ## What the steps do to the workers -/

/-- The workers and the shutdown are left alone. -/
structure Aside (s s' : Task6System C W n) : Prop where
  workers : s'.workers = s.workers
  running : s'.running = true → s.running = true
  shutdownEvent : s.shutdownEvent = true → s'.shutdownEvent = true
  ended : (s.shutdownEvent = true → s.connectLoop = n) → s'.shutdownEvent = true →
    s'.connectLoop = n

theorem aside_client {i : Fin C} {line : ClientLine} (hs : s.clientStep build i line = some s') :
    Aside s s' := by
  obtain ⟨hh, hstep, rfl⟩ := Option.map_eq_some_iff.mp hs
  exact ⟨rfl, fun hrun => (clientFrame hstep).running.symm.trans hrun, id, id⟩

theorem aside_pipes {e : SystemEvent C W n} (hs : s.pipeStep e = some s') : Aside s s' := by
  unfold pipeStep at hs
  split at hs
  · split at hs
    · cases hs
      exact ⟨rfl, id, id, id⟩
    · cases hs
  · split at hs
    · cases hs
      exact ⟨rfl, id, id, id⟩
    · cases hs
  · split at hs
    · cases hs
      exact ⟨rfl, id, id, id⟩
    · cases hs
  · rename_i i r
    split at hs
    · rename_i hloop
      split at hs
      · cases hs
        -- the loop has ended when the server may be stopped
        refine ⟨rfl, id, id, fun hended hset => ?_⟩
        have hlt := i.isLt
        have hend := hended hset
        omega
      · cases hs
    · cases hs
  · split at hs
    · cases hs
    · split at hs
      · split at hs
        · cases hs
        · cases hs
          exact ⟨rfl, id, id, id⟩
      · split at hs
        · cases hs
        · cases hs
          exact ⟨rfl, id, id, id⟩
  · split at hs
    · cases hs
    · obtain ⟨op, -, rfl⟩ := Option.map_eq_some_iff.mp hs
      exact ⟨rfl, id, id, id⟩
  · cases hs

theorem aside_waiter {e : SystemEvent C W n} (hrun : s.running = true)
    (hs : s.waiterStep build e = some s') : Aside s s' := by
  rcases waiterStep_cases hs with ⟨write, rfl⟩ | ⟨write, rfl⟩ | ⟨waiter, running, -, rfl⟩
  · exact ⟨rfl, id, id, id⟩
  · exact ⟨rfl, id, id, id⟩
  · exact ⟨rfl, fun _ => hrun, id, id⟩

theorem aside_stop {e : SystemEvent C W n} (hrun : s.running = true)
    (hs : s.stopStep build e = some s') : Aside s s' := by
  rcases stopStep_cases hs with ⟨pc, hloop, rfl⟩ | ⟨pc, rfl⟩ | ⟨pipeServer, pc, running, -, rfl⟩
  · exact ⟨rfl, id, fun _ => rfl, fun _ _ => hloop⟩
  · exact ⟨rfl, id, id, id⟩
  · exact ⟨rfl, fun _ => hrun, id, id⟩

/-- Worker `v` takes a line, and nothing of the shutdown changes. -/
structure Moves (s s' : Task6System C W n) (v : Fin W) (line : WorkerLine) : Prop where
  workers : s'.workers = Function.update s.workers v line
  running : s'.running = true → s.running = true
  shutdownEvent : s'.shutdownEvent = s.shutdownEvent
  connectLoop : s'.connectLoop = s.connectLoop
  stopAndWait : s'.stopAndWait = s.stopAndWait
  left : s.shutdownEvent = true → line.left < (s.workers v).left
  branch : ∀ pc, line = .shared pc → pc.InBranch ∨ s'.running = false

/-- A line in front of the branch of the shared memory server. -/
theorem moves_of {v : Fin W} {line : WorkerLine}
    (hworkers : s'.workers = Function.update s.workers v line) (hrun : s'.running = s.running)
    (hevent : s'.shutdownEvent = s.shutdownEvent) (hloop : s'.connectLoop = s.connectLoop)
    (hstop : s'.stopAndWait = s.stopAndWait)
    (hleft : s.shutdownEvent = true → line.left < (s.workers v).left)
    (hbranch : ∀ pc, line = .shared pc → pc.InBranch) : ∃ v line, Moves s s' v line :=
  ⟨v, line, hworkers, fun hr => hrun.symm.trans hr, hevent, hloop, hstop, hleft,
    fun pc hpc => .inl (hbranch pc hpc)⟩

/-- Behind the test of the loop, when the shutdown event is set. -/
theorem left_nextLine (dequeued : Option IocpEntry) : (nextLine true dequeued).left = 0 := by
  cases dequeued with
  | none => rfl
  | some entry =>
    cases entry with
    | pipe packet =>
      rw [nextLine_pipe]
      rfl
    | sharedMemory _ | shutdown => rfl

theorem branch_nextLine {shutdownEvent : Bool} {dequeued : Option IocpEntry} {pc : WorkerPc}
    (hpc : nextLine shutdownEvent dequeued = .shared pc) : pc.InBranch := by
  cases dequeued with
  | none => cases hpc
  | some entry =>
    cases entry with
    | pipe packet =>
      rw [nextLine_pipe] at hpc
      cases shutdownEvent <;> cases hpc
    | sharedMemory write =>
      rw [nextLine_sharedMemory] at hpc
      cases shutdownEvent with
      | true => cases hpc
      | false =>
        cases hpc
        trivial
    | shutdown => cases hpc

theorem moves_worker {e : SystemEvent C W n} (hs : s.workerStep e = some s') :
    ∃ v line, Moves s s' v line := by
  unfold workerStep at hs
  split at hs
  · split at hs
    · rename_i hpc hiocp
      split at hs
      · cases hs
        exact moves_of rfl rfl rfl rfl rfl (fun _ => by rw [hpc]; exact Nat.one_lt_two)
          fun _ h => by cases h
      · cases hs
    · cases hs
  · split at hs
    · rename_i hpc
      split at hs
      · cases hs
        exact moves_of rfl rfl rfl rfl rfl (fun _ => by rw [hpc]; exact Nat.one_lt_two)
          fun _ h => by cases h
      · cases hs
    · cases hs
  · split at hs
    · rename_i dequeued hpc
      cases hs
      refine moves_of rfl rfl rfl rfl rfl (fun hset => ?_) fun _ h => branch_nextLine h
      rw [hpc, hset, left_nextLine]
      exact Nat.one_pos
    · cases hs
  · rename_i v r
    split at hs
    · rename_i packet hpc
      cases hs
      refine moves_of rfl rfl rfl rfl rfl (fun _ => ?_) fun _ h => ?_
      · rw [hpc]
        split
        · rename_i result _
          have := (WorkerTask.ofResult result).due_bounds
          show (WorkerTask.ofResult result).due + 2 < 6
          omega
        · show 2 < 6
          omega
      · split at h <;> cases h
    · cases hs
  · rename_i v
    split at hs
    · rename_i result hpc
      have hleft : (s.workers v).left = 5 := by rw [hpc]; rfl
      split at hs
      · dsimp only at hs
        split at hs
        · cases hs
          refine moves_of rfl rfl rfl rfl rfl (fun _ => ?_) fun _ h => by cases h
          show 4 < (s.workers v).left
          omega
        · cases hs
          refine moves_of rfl rfl rfl rfl rfl (fun _ => ?_) fun _ h => by cases h
          show 2 < (s.workers v).left
          omega
      · cases hs
        refine moves_of rfl rfl rfl rfl rfl (fun _ => ?_) fun _ h => by cases h
        show 2 < (s.workers v).left
        omega
    · cases hs
  · rename_i v
    split at hs
    · rename_i result hpc
      split at hs
      · cases hs
        exact moves_of rfl rfl rfl rfl rfl (fun _ => by rw [hpc]; exact Nat.lt_succ_self 3)
          fun _ h => by cases h
      · cases hs
    · cases hs
  · rename_i v r
    split at hs
    · rename_i result hpc
      have hleft : (s.workers v).left = 3 := by rw [hpc]; rfl
      split at hs
      · split at hs
        · cases hs
        · cases hs
          refine moves_of rfl rfl rfl rfl rfl (fun _ => ?_) fun _ h => by cases h
          show 2 < (s.workers v).left
          omega
      · cases hs
        refine moves_of rfl rfl rfl rfl rfl (fun _ => ?_) fun _ h => by cases h
        show 2 < (s.workers v).left
        omega
    · cases hs
  · cases hs

theorem moves_shared {v : Fin W} {line : SharedLine} (hs : s.sharedStep build v line = some s') :
    ∃ v line, Moves s s' v line := by
  unfold sharedStep at hs
  split at hs
  · rename_i pc hpc
    obtain ⟨hh, hstep, rfl⟩ := Option.map_eq_some_iff.mp hs
    obtain ⟨hleft, hplace, hrun⟩ := Handoff.goes_of_shared hstep
    have hold : s.handoff.workers v = pc := congrArg WorkerLine.pc hpc
    rw [hold] at hleft
    refine ⟨v, .ofPc (hh.workers v), rfl, hrun, rfl, rfl, rfl, fun _ => ?_, fun pc' hpc' => ?_⟩
    · rw [hpc, WorkerLine.left_ofPc]
      exact Nat.add_lt_add_right hleft 2
    · rcases hplace with hbranch | hidle | hended
      · have hnew : (WorkerLine.ofPc (hh.workers v)).pc = pc' := by rw [hpc']; rfl
        rw [WorkerLine.pc_ofPc] at hnew
        exact .inl (hnew ▸ hbranch)
      · rw [hidle] at hpc'
        cases hpc'
      · exact .inr hended
  · cases hs

/-- A step is aside of the workers, or the line of one, or the end of the process at
the hands of one. -/
theorem step_workers {e : SystemEvent C W n} (hs : step build s e = some s') :
    ofWorker e = false ∧ Aside s s' ∨
      ofWorker e = true ∧ ((∃ v line, Moves s s' v line) ∨ s.running = true ∧ s' = s.crash) := by
  have of_guard : ∀ {b : Bool} {o : Option (Task6System C W n)},
      (if b then o else none) = some s' → b = true ∧ o = some s' :=
    fun h => Option.ite_none_right_eq_some.mp h
  cases e with
  | client i line => exact .inl ⟨rfl, aside_client hs⟩
  | openPipe _ | write _ _ | closePipe _ | connect _ _ | complete _ _ | abort _ _ _ =>
    exact .inl ⟨rfl, aside_pipes (of_guard hs).2⟩
  | waiterWake | waiterFails | waiterPost _ =>
    obtain ⟨hrun, hs⟩ := of_guard hs
    exact .inl ⟨rfl, aside_waiter hrun hs⟩
  | stop | post | waitReturns _ =>
    obtain ⟨hrun, hs⟩ := of_guard hs
    exact .inl ⟨rfl, aside_stop hrun hs⟩
  | service v _ | restart v _ =>
    obtain ⟨hrun, hs⟩ := Option.ite_none_left_eq_some.mp hs
    refine .inr ⟨rfl, ?_⟩
    split at hs
    · exact .inr ⟨by simpa using hrun, (Option.some.inj hs).symm⟩
    · exact .inl (moves_worker hs)
  | dequeue _ | iocpFails _ | check _ | terminate _ | handle _ =>
    exact .inr ⟨rfl, .inl (moves_worker (of_guard hs).2)⟩
  | shared v line => exact .inr ⟨rfl, .inl (moves_shared (of_guard hs).2)⟩

/-! ## The measure falls -/

/-- What the three refinements say of a state, and the place of the workers in the
branch of the shared memory server. -/
structure Sound (build : Build) (s : Task6System C W n) : Prop where
  accounted : s.Accounted
  handoff : ∃ h, (s.ShowsHandoff h ∧ s.Accounted) ∧ Handoff.Sequenced (config build) h
  pipes : ∃ t, s.ShowsPipes t ∧ t.Watched
  ended : s.shutdownEvent = true → s.connectLoop = n
  branch : ∀ v pc, s.workers v = .shared pc → pc.InBranch ∨ s.running = false

/-- A worker that waits at the port finds a packet there. -/
theorem exists_dequeue (h : s.Sound build) (hrun : s.running = true)
    (hset : s.shutdownEvent = true) (hstop : s.stopAndWait = .waiting ∨ s.stopAndWait = .returned)
    {v : Fin W} (hpc : s.workers v = .blocked) : (step build s (.dequeue v)).isSome := by
  obtain ⟨t, hshow, hacc⟩ := h.accounted
  have henough := (wakesAll_of_shows hshow hacc).enough hstop
  have hone := Pool.weight_le_total WorkerLine.sleeps s.workers v
  rw [hpc] at hone
  have hone : 1 ≤ Pool.total WorkerLine.sleeps s.workers := hone
  cases hiocp : s.iocp with
  | nil =>
    rw [hiocp, List.length_nil] at henough
    omega
  | cons entry rest =>
    simp only [step, hrun, workerStep, hpc, hiocp, h.ended hset, if_true, Option.isSome_some]

theorem exists_line (h : s.Sound build) (hrun : s.running = true)
    (hset : s.shutdownEvent = true) (hstop : s.stopAndWait = .waiting ∨ s.stopAndWait = .returned)
    (hleft : ¬ ∀ v, (s.workers v).hasExited = true) :
    ∃ e, ofWorker e = true ∧ (step build s e).isSome := by
  obtain ⟨v, hv⟩ := not_forall.mp hleft
  obtain ⟨t, hpipes, -⟩ := h.pipes
  cases hpc : s.workers v with
  | blocked => exact ⟨.dequeue v, rfl, exists_dequeue h hrun hset hstop hpc⟩
  | checking dequeued =>
    refine ⟨.check v, rfl, ?_⟩
    simp only [step, hrun, workerStep, hpc, if_true, Option.isSome_some]
  | servicing packet =>
    refine ⟨.service v ioPending, rfl, ?_⟩
    simp only [step, hrun, workerStep, hpc, Bool.not_true, Bool.false_eq_true, if_false]
    split <;> rfl
  | pipeTask task =>
    -- the result names a pipe of the server
    obtain ⟨i, k, -, hindex⟩ := exists_task hpipes hpc
    have hlt : task.result.instanceIndex < n := hindex ▸ i.isLt
    cases task with
    | serviced result =>
      have hlt : result.instanceIndex < n := hlt
      refine ⟨.terminate v, rfl, ?_⟩
      simp only [step, hrun, workerStep, hpc, if_true, dif_pos hlt]
      split <;> rfl
    | terminated result =>
      have hlt : result.instanceIndex < n := hlt
      refine ⟨.handle v, rfl, ?_⟩
      simp only [step, hrun, workerStep, hpc, if_true, dif_pos hlt, Option.isSome_some]
    | handled result =>
      have hlt : result.instanceIndex < n := hlt
      refine ⟨.restart v ioPending, rfl, ?_⟩
      simp only [step, hrun, workerStep, hpc, dif_pos hlt, ServerPipe.answersRead_pending,
        Bool.not_true, Bool.false_eq_true, Bool.true_eq_false, if_false, and_false]
      split <;> rfl
  | shared pc =>
    obtain ⟨hh, ⟨hshow, -⟩, hseq⟩ := h.handoff
    rw [hshow.eq_of_running hrun] at hseq
    have hbranch : (s.handoff.workers v).InBranch := by
      have hold : s.handoff.workers v = pc := congrArg WorkerLine.pc hpc
      rw [hold]
      refine (h.branch v pc hpc).resolve_right fun hended => ?_
      rw [hrun] at hended
      cases hended
    obtain ⟨u, hu, line, h', hline⟩ := Handoff.exists_branchLine hseq.fitting hrun hbranch
    obtain ⟨pc', hpc'⟩ : ∃ pc', s.workers u = .shared pc' := by
      rcases hu with rfl | hlocked
      · exact ⟨pc, hpc⟩
      · exact WorkerLine.shared_of_locked hlocked
    refine ⟨.shared u line, rfl, ?_⟩
    simp only [step, hrun, sharedStep, hpc', hline, Option.map_some, if_true, Option.isSome_some]
  | exited reason dequeued =>
    rw [hpc] at hv
    exact absurd rfl hv

end Task6System

end Task6
