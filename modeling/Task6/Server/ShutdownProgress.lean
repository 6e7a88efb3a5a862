import Task6.Library.Progress
import Task6.Server.Teardown

/-!
# Shutdown comes to an end

`Wakes` says that no worker is left behind asleep; this file says that all of
them leave. Once the shutdown event is set a worker has at most three more lines,
however many packets still arrive, and as long as one is left some worker has a
next line. So whoever schedules the threads, all of them exit, and then
`stopAndWait` can return.
-/

namespace Task6

/-- The lines a thread has left behind the shutdown event: the end of its
packet, one more dequeue, and the check. -/
def Thread.left (t : Thread) : Nat :=
  match t.pc with
  | .handling _ => 3
  | .blocked => 2
  | .checking _ => 1
  | .exited _ => 0

namespace Shutdown

variable {n : Nat} {build : Build} {s s' : Shutdown n}

/-- The event is a worker's line. -/
def ofWorker : ShutdownEvent n → Bool
  | .dequeue _ | .iocpFails _ | .check _ | .finish _ => true
  | .arrive _ | .stop | .post | .waitReturns _ => false

/-- The lines all workers have left. -/
def left (s : Shutdown n) : Nat := Pool.total Thread.left s.workers

theorem left_setWorker (s : Shutdown n) (w : Fin n) (t : Thread) :
    (s.setWorker w t).left + (s.workers w).left = s.left + t.left :=
  Pool.total_update Thread.left s.workers w t

/-- As long as a worker is left behind the last post, one has a next line. -/
theorem exists_line (build : Build) (h : Accounted s)
    (hstop : s.stopAndWait = .waiting ∨ s.stopAndWait = .returned)
    (hleft : s.allExited = false) : ∃ e, ofWorker e = true ∧ (step build s e).isSome := by
  obtain ⟨w, hw⟩ : ∃ w, (s.workers w).hasExited ≠ true := by
    by_contra hall
    refine Bool.false_ne_true (hleft.symm.trans (allExited_iff.mpr fun w => ?_))
    by_contra hw
    exact hall ⟨w, hw⟩
  have hlive : s.stopAndWait ≠ .died := by
    rintro hdied
    rcases hstop with hstop | hstop
    · rw [hdied] at hstop
      cases hstop
    · rw [hdied] at hstop
      cases hstop
  cases hpc : (s.workers w).pc with
  | blocked =>
    -- it is not served yet, so there is a packet for it
    cases hiocp : s.iocp with
    | nil => exact absurd hpc ((wakes_of_accounted h).noSleeper hstop hiocp w)
    | cons packet rest =>
      refine ⟨.dequeue w, rfl, ?_⟩
      simp only [step, if_neg hlive, workerStep, hpc, hiocp, Option.isSome_some]
  | checking status =>
    refine ⟨.check w, rfl, ?_⟩
    simp only [step, if_neg hlive, workerStep, hpc, Option.isSome_some]
  | handling key =>
    refine ⟨.finish w, rfl, ?_⟩
    simp only [step, if_neg hlive, workerStep, hpc, Option.isSome_some]
  | exited reason =>
    refine absurd ?_ hw
    rw [Thread.hasExited, hpc]

end Shutdown

end Task6
