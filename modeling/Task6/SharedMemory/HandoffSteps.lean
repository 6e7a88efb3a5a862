import Task6.SharedMemory.Turn

/-!
# What a line of the hand-off does

`Steps` lists the lines of all parties with what they need and what they leave,
one constructor for each way a line can go. The lines that end a client, a worker
or the server's process while it has the turn are kept together: `clientDrops`
and `crashes`.
-/

namespace Task6

namespace Handoff

variable {C W : Nat}

/-- The line is one of client `i`, between its wait and its `SetEvent`. -/
def ofClient (i : Fin C) : HandoffEvent C W → Prop
  | .clientMap j _ | .clientCopy j | .clientUnmap j _ | .clientSignal j _ => j = i
  | _ => False

/-- The line is one of worker `w`, inside `getData`. -/
def ofWorker (w : Fin W) : HandoffEvent C W → Prop
  | .getCopy v | .getUnmap v _ | .getSignal v _ => v = w
  | _ => False

/-- What a step can be. -/
inductive Steps (cfg : HandoffConfig) (s : Handoff C W) :
    HandoffEvent C W → Handoff C W → Prop
  | waits {i wait data} (hpc : s.clients i = .idle) (hwait : wait ≠ .object0) :
    Steps cfg s (.writeData i wait data) s
  | takesTurn {i data} (hpc : s.clients i = .idle) (hset : s.svToCl = true) :
    Steps cfg s (.writeData i .object0 data) { s.setClient i (.mapping data) with svToCl := false }
  | mapped {i mapped data} (hpc : s.clients i = .mapping data)
    (hfit : mapped = true → data.length ≤ cfg.bufferSize) :
    Steps cfg s (.clientMap i mapped) (s.setClient i (.copying mapped data))
  | copied {i mapped data memory'} (hpc : s.clients i = .copying mapped data)
    (hcopy : memcpy mapped s.memory data = some memory') :
    Steps cfg s (.clientCopy i) { s.setClient i .unmapping with memory := memory' }
  | unmapped {i unmapped} (hpc : s.clients i = .unmapping) :
    Steps cfg s (.clientUnmap i unmapped) (s.setClient i .signalling)
  | signalled {i} (hpc : s.clients i = .signalling) :
    Steps cfg s (.clientSignal i true)
      { s.setClient i .idle with clToSv := some s.writes, writes := s.writes + 1 }
  | clientDrops {i e pc} (he : ofClient i e) (hpc : (s.clients i).holdsTurn = 1)
    (hnew : pc = .died ∨ pc = .idle)
    (hcopy : ∀ mapped data, e = .clientCopy i → s.clients i = .copying mapped data →
      memcpy mapped s.memory data = none) :
    Steps cfg s e (s.setClient i pc)
  | wakes {write} (hpc : s.waiter = .waiting) (hset : s.clToSv = some write) :
    Steps cfg s .waiterWake { s with clToSv := none, waiter := .posting write }
  | waitFails {pc running} (hpc : s.waiter = .waiting) (hnew : pc.holdsTurn = 0)
    (hrun : running = true → s.running = true ∧ pc = .waiting) :
    Steps cfg s .waiterFails { s with waiter := pc, running := running }
  | posts {write} (hpc : s.waiter = .posting write) :
    Steps cfg s (.waiterPost true)
      { s with
        waiter := .waiting
        iocp := s.iocp ++ [.sharedMemory write]
        posted := s.posted ++ [write] }
  | postFails {write pc running} (hpc : s.waiter = .posting write) (hnew : pc.holdsTurn = 0)
    (hrun : running = true → s.running = true ∧ pc = .waiting) :
    Steps cfg s (.waiterPost false) { s with waiter := pc, running := running }
  | waiterStops (hpc : s.waiter = .waiting) (hset : s.clToSv = none) (hclose : s.closing = true) :
    Steps cfg s .waiterExit { s with waiter := .stopped }
  | otherPacket : Steps cfg s .otherPacket { s with iocp := s.iocp ++ [.other] }
  | dequeues {w packet rest} (hpc : s.workers w = .idle) (hiocp : s.iocp = packet :: rest) :
    Steps cfg s (.dequeue w) { s.setWorker w (.dequeued packet) with iocp := rest }
  | exits {w packet} (hpc : s.workers w = .dequeued packet) (hstop : s.stopping = true) :
    Steps cfg s (.exit w) (s.setWorker w .exited)
  | handlesOther {w} (hpc : s.workers w = .dequeued .other) :
    Steps cfg s (.handleOther w) (s.setWorker w .idle)
  | locks {w size write} (hpc : s.workers w = .dequeued (.sharedMemory write))
    (hfree : s.shMemBufferCS = false) :
    Steps cfg s (.getData w size) { s.setWorker w (.mapping size) with shMemBufferCS := true }
  | mapFails {w size} (hpc : s.workers w = .mapping size) :
    Steps cfg s (.getMap w none) (s.release w)
  | maps {w size readable} (hpc : s.workers w = .mapping size)
    (hview : cfg.requested size ≤ readable) :
    Steps cfg s (.getMap w (some readable)) (s.setWorker w (.copying size readable))
  | copies {w size readable sharedMemSize buffer'} (hpc : s.workers w = .copying size readable)
    (hcopy : copyText cfg.build cfg.bufferSize (viewOf s.memory readable) s.sharedMemoryBuffer size
      = some (sharedMemSize, buffer')) :
    Steps cfg s (.getCopy w)
      { s.setWorker w (.unmapping size sharedMemSize) with sharedMemoryBuffer := buffer' }
  | unmaps {w size sharedMemSize unmapped} (hpc : s.workers w = .unmapping size sharedMemSize) :
    Steps cfg s (.getUnmap w unmapped) (s.setWorker w (.signalling size sharedMemSize))
  | refuses {w size sharedMemSize signalled} (hpc : s.workers w = .signalling size sharedMemSize)
    (hlong : size < sharedMemSize) :
    Steps cfg s (.getSignal w signalled)
      (release { s with svToCl := s.svToCl || signalled } w)
  | signals {w size sharedMemSize signalled} (hpc : s.workers w = .signalling size sharedMemSize)
    (hfits : sharedMemSize ≤ size) :
    Steps cfg s (.getSignal w signalled)
      (setWorker { s with svToCl := s.svToCl || signalled } w (.handling sharedMemSize))
  | crashes {w e} (he : ofWorker w e) (hpc : (s.workers w).holdsTurn = 1) :
    Steps cfg s e (s.crash w)
  | finishes {w recv} (hpc : s.workers w = .handling recv) :
    Steps cfg s (.finish w) (s.release w)
  | stop : Steps cfg s .stop { s with stopping := true }
  | close : Steps cfg s .close { s with closing := true }

variable {cfg : HandoffConfig} {s s' : Handoff C W}

theorem steps_of_client {i : Fin C} {e : HandoffEvent C W}
    (hs : s.clientStep cfg i e = some s') (hi : ∀ j wait data, e = .writeData j wait data → j = i)
    (he : (∀ j wait data, e ≠ .writeData j wait data) → ofClient i e) : Steps cfg s e s' := by
  unfold clientStep at hs
  split at hs
  · rename_i j wait data
    obtain rfl := hi _ _ _ rfl
    split at hs
    · rename_i hpc
      split at hs
      · rename_i hset
        cases hs
        exact .takesTurn hpc hset
      · cases hs
    · rename_i hpc
      cases hs
      exact .waits hpc (by simp)
    · rename_i hpc
      cases hs
      exact .waits hpc (by simp)
    · cases hs
  · obtain rfl : _ = i := he (by simp)
    split at hs
    · rename_i data hpc
      split at hs
      · cases hs
      · rename_i hfit
        split at hs
        · cases hs
          refine .mapped hpc fun hmapped => ?_
          simpa [hmapped] using hfit
        · cases hs
          exact .clientDrops rfl (by rw [hpc]; rfl) (.inl rfl) (by simp)
    · cases hs
  · obtain rfl : _ = i := he (by simp)
    split at hs
    · rename_i mapped data hpc
      split at hs
      · rename_i memory' hcopy
        cases hs
        exact .copied hpc hcopy
      · rename_i hcopy
        cases hs
        refine .clientDrops rfl (by rw [hpc]; rfl) (.inl rfl) fun _ _ _ hpc' => ?_
        cases hpc.symm.trans hpc'
        exact hcopy
    · cases hs
  · obtain rfl : _ = i := he (by simp)
    split at hs
    · rename_i hpc
      split at hs
      · cases hs
        exact .unmapped hpc
      · cases hs
        exact .clientDrops rfl (by rw [hpc]; rfl) (.inl rfl) (by simp)
    · cases hs
  · obtain rfl : _ = i := he (by simp)
    split at hs
    · rename_i hpc
      split at hs
      · rename_i hsig
        cases hs
        subst hsig
        exact .signalled hpc
      · split at hs
        · cases hs
          exact .clientDrops rfl (by rw [hpc]; rfl) (.inr rfl) (by simp)
        · cases hs
          exact .clientDrops rfl (by rw [hpc]; rfl) (.inl rfl) (by simp)
    · cases hs
  · cases hs

theorem steps_of_waiter {e : HandoffEvent C W} (hs : s.waiterStep cfg e = some s') :
    Steps cfg s e s' := by
  unfold waiterStep at hs
  split at hs
  · split at hs
    · rename_i write hpc hset
      cases hs
      exact .wakes hpc hset
    · cases hs
  · split at hs
    · rename_i hpc
      split at hs
      · obtain rfl := Option.some.inj hs
        have hsame : Steps cfg s .waiterFails { s with waiter := .waiting, running := s.running } :=
          .waitFails hpc rfl fun hrun => ⟨hrun, rfl⟩
        rwa [← hpc] at hsame
      · cases hs
        exact .waitFails hpc rfl fun hrun => (by cases hrun)
    · cases hs
  · rename_i posted
    split at hs
    · rename_i write hpc
      cases posted with
      | true =>
        cases hs
        exact .posts hpc
      | false =>
        simp only [Bool.false_eq_true, if_false] at hs
        split at hs
        · cases hs
          exact .postFails hpc rfl fun hrun => ⟨hrun, rfl⟩
        · cases hs
          exact .postFails hpc rfl fun hrun => (by cases hrun)
    · cases hs
  · split at hs
    · rename_i hpc hset
      split at hs
      · rename_i hclose
        cases hs
        exact .waiterStops hpc hset hclose
      · cases hs
    · cases hs
  · cases hs

/-- The worker that an event is about. -/
def workerOf : HandoffEvent C W → Option (Fin W)
  | .dequeue w | .exit w | .handleOther w | .getData w _ | .getMap w _ | .getCopy w
  | .getUnmap w _ | .getSignal w _ | .finish w => some w
  | _ => none

theorem steps_of_worker {w : Fin W} {e : HandoffEvent C W} (hw : workerOf e = some w)
    (hs : s.workerStep cfg w e = some s') : Steps cfg s e s' := by
  unfold workerStep at hs
  split at hs
  · cases hw
    split at hs
    · rename_i packet rest hpc hiocp
      cases hs
      exact .dequeues hpc hiocp
    · cases hs
  · cases hw
    split at hs
    · rename_i packet hpc
      split at hs
      · rename_i hstop
        cases hs
        exact .exits hpc hstop
      · cases hs
    · cases hs
  · cases hw
    split at hs
    · rename_i hpc
      cases hs
      exact .handlesOther hpc
    · cases hs
  · cases hw
    split at hs
    · rename_i write hpc
      split at hs
      · cases hs
      · rename_i hfree
        cases hs
        exact .locks hpc (Bool.eq_false_iff.mpr hfree)
    · cases hs
  · cases hw
    split at hs
    · rename_i size hpc
      cases hs
      exact .mapFails hpc
    · rename_i size readable hpc
      split at hs
      · cases hs
      · rename_i hview
        cases hs
        exact .maps hpc (Nat.not_lt.mp hview)
    · cases hs
  · cases hw
    split at hs
    · rename_i size readable hpc
      split at hs
      · rename_i sharedMemSize buffer' hcopy
        cases hs
        exact .copies hpc hcopy
      · cases hs
        exact .crashes rfl (by rw [hpc]; rfl)
    · cases hs
  · cases hw
    split at hs
    · rename_i size sharedMemSize hpc
      split at hs
      · cases hs
        exact .unmaps hpc
      · cases hs
        exact .crashes rfl (by rw [hpc]; rfl)
    · cases hs
  · cases hw
    split at hs
    · rename_i size sharedMemSize hpc
      split at hs
      · split at hs
        · rename_i hlong
          cases hs
          exact .refuses hpc hlong
        · rename_i hfits
          cases hs
          exact .signals hpc (Nat.not_lt.mp hfits)
      · cases hs
        exact .crashes rfl (by rw [hpc]; rfl)
    · cases hs
  · cases hw
    split at hs
    · rename_i recv hpc
      cases hs
      exact .finishes hpc
    · cases hs
  · cases hs

theorem steps_of_step {e : HandoffEvent C W} (hs : step cfg s e = some s') : Steps cfg s e s' := by
  cases e with
  | writeData i wait data =>
    refine steps_of_client (i := i) hs (fun j _ _ he => ?_) fun hne => absurd rfl (hne i wait data)
    cases he
    rfl
  | clientMap i mapped => exact steps_of_client (i := i) hs (by simp) fun _ => rfl
  | clientCopy i => exact steps_of_client (i := i) hs (by simp) fun _ => rfl
  | clientUnmap i unmapped => exact steps_of_client (i := i) hs (by simp) fun _ => rfl
  | clientSignal i signalled => exact steps_of_client (i := i) hs (by simp) fun _ => rfl
  | waiterWake | waiterFails | waiterPost _ | waiterExit => exact steps_of_waiter (of_running hs)
  | dequeue w | handleOther w | getData w _ | getMap w _ | getCopy w | getUnmap w _
  | getSignal w _ | finish w | exit w => exact steps_of_worker rfl (of_running hs)
  | otherPacket =>
    cases hs
    exact .otherPacket
  | stop =>
    cases hs
    exact .stop
  | close =>
    cases hs
    exact .close

end Handoff

end Task6
