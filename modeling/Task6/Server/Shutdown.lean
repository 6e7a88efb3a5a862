import Task6.CRuntime
import Task6.Library.Machine
import Task6.Library.Pool

/-!
# Shutting the server down

The worker threads of `Task6Server` around `GetQueuedCompletionStatus`, and
`stopAndWait` line by line, with the completion port between them. What a worker
does with a packet of the pipe or the shared-memory server is one line here,
`handling`, which ends when it ends. The `SetEvent` and the
`PostQueuedCompletionStatus` of `stopAndWait` are assumed to succeed, and so is a
worker's wait for the shutdown event, which answers whether it is set.
-/

namespace Task6

/-- `ULONG_PTR`, the key of a packet. -/
abbrev CompKey := Nat

def shutdownCompKey : CompKey := 0x00
def pipeServerCompKey : CompKey := 0x01
def sharedMemoryServerCompKey : CompKey := 0x02

/-- `TASK6_WORKING_THREADS` on a machine with `processors` logical processors. -/
def workingThreads (processors : Nat) : Nat := processors * 2

/-- A packet of the iocp. The pipe server's stand for operations that succeeded
or failed; the others are posted. -/
inductive IocpPacket where
  | pipeServer (success : Bool)
  | sharedMemoryServer
  | shutdown
  deriving DecidableEq

/-- What `GetQueuedCompletionStatus` answers. -/
structure QueuedStatus where
  bResult : Bool
  compKey : CompKey
  hasOverlapped : Bool
  deriving DecidableEq

def IocpPacket.status : IocpPacket → QueuedStatus
  | pipeServer success => ⟨success, pipeServerCompKey, true⟩
  | sharedMemoryServer => ⟨true, sharedMemoryServerCompKey, false⟩
  | shutdown => ⟨true, shutdownCompKey, false⟩

/-- The port itself fails: no packet is dequeued. -/
def QueuedStatus.iocpFailed : QueuedStatus := ⟨false, 0, false⟩

/-- Why a worker left its loop. -/
inductive ExitReason where
  | iocpFailed
  | shutdownPacket
  | shutdownEvent
  | invalidPacket
  deriving DecidableEq

/-- The first `if` of the worker loop, on what was dequeued and on the shutdown
event. -/
def QueuedStatus.exits (st : QueuedStatus) (shutdownEvent : Bool) : Option ExitReason :=
  if !st.bResult && !st.hasOverlapped then some .iocpFailed
  else if st.bResult && st.compKey == shutdownCompKey then some .shutdownPacket
  else if shutdownEvent then some .shutdownEvent
  else none

/-- The next line of a worker. -/
inductive ThreadPc where
  | blocked
  | checking (status : QueuedStatus)
  | handling (compKey : CompKey)
  | exited (reason : ExitReason)
  deriving DecidableEq

/-- The test of the loop and the choice of the branch: an unknown key breaks. -/
def QueuedStatus.next (st : QueuedStatus) (shutdownEvent : Bool) : ThreadPc :=
  match st.exits shutdownEvent with
  | some reason => .exited reason
  | none =>
    if st.compKey = pipeServerCompKey ∨ st.compKey = sharedMemoryServerCompKey then
      .handling st.compKey
    else .exited .invalidPacket

/-- A worker, and whether it has dequeued a packet since the shutdown event was
set. -/
structure Thread where
  pc : ThreadPc
  sinceEvent : Bool

def Thread.hasExited (t : Thread) : Bool :=
  match t.pc with
  | .exited _ => true
  | _ => false

/-- The next line of `stopAndWait`. -/
inductive StopPc where
  | notCalled
  | posting (posted : Nat)
  | waiting
  | returned
  | died
  deriving DecidableEq

namespace Win32

def maximumWaitObjects : Nat := 64

/-- When `WaitForMultipleObjects` on `n` threads, all of them, may answer
`dwResult`: `WAIT_OBJECT_0` and up when they have exited, `WAIT_TIMEOUT` when
one has not, and `WAIT_FAILED`, which is all it answers beyond
`MAXIMUM_WAIT_OBJECTS`. -/
def waitAllAnswers (n : Nat) (allExited : Bool) (dwResult : DWORD) : Bool :=
  dwResult == waitFailed ||
    (decide (n ≤ maximumWaitObjects) &&
      ((decide (dwResult < n) && allExited) || (dwResult == waitTimeout && !allExited)))

end Win32

/-- The server with the `n` threads recorded in `workerThreads`. -/
structure Shutdown (n : Nat) where
  workers : Fin n → Thread
  iocp : List IocpPacket
  shutdownEvent : Bool
  stopAndWait : StopPc
  pipeServer : Bool

/-- Who executes its next line, and the answer. -/
inductive ShutdownEvent (n : Nat) where
  | arrive (packet : IocpPacket)
  | dequeue (w : Fin n)
  | iocpFails (w : Fin n)
  | check (w : Fin n)
  | finish (w : Fin n)
  | stop
  | post
  | waitReturns (dwResult : DWORD)

namespace Shutdown

variable {n : Nat}

/-- The server runs; `iocp` is what has been queued so far. -/
def init (n : Nat) : Shutdown n where
  workers := fun _ => ⟨.blocked, false⟩
  iocp := []
  shutdownEvent := false
  stopAndWait := .notCalled
  pipeServer := true

def setWorker (s : Shutdown n) (w : Fin n) (t : Thread) : Shutdown n :=
  { s with workers := Function.update s.workers w t }

def allExited (s : Shutdown n) : Bool := decide (∀ w, (s.workers w).hasExited = true)

/-- The next line of worker `w`. -/
def workerStep (s : Shutdown n) (w : Fin n) : ShutdownEvent n → Option (Shutdown n)
  | .dequeue _ =>
    match (s.workers w).pc, s.iocp with
    | .blocked, packet :: rest =>
      some { s.setWorker w ⟨.checking packet.status, s.shutdownEvent⟩ with iocp := rest }
    | _, _ => none
  | .iocpFails _ =>
    match (s.workers w).pc with
    | .blocked => some (s.setWorker w ⟨.checking .iocpFailed, (s.workers w).sinceEvent⟩)
    | _ => none
  | .check _ =>
    match (s.workers w).pc with
    | .checking status =>
      some (s.setWorker w ⟨status.next s.shutdownEvent, (s.workers w).sinceEvent⟩)
    | _ => none
  | .finish _ =>
    -- handled, or an exception that is logged
    match (s.workers w).pc with
    | .handling _ => some (s.setWorker w ⟨.blocked, (s.workers w).sinceEvent⟩)
    | _ => none
  | _ => none

/-- The next line of `stopAndWait`, whose `SetEvent` and posts succeed. -/
def stopStep (build : Build) (s : Shutdown n) : ShutdownEvent n → Option (Shutdown n)
  | .stop =>
    match s.stopAndWait with
    | .notCalled =>
      some { s with
        shutdownEvent := true
        stopAndWait := if n = 0 then .returned else .posting 0 }
    | _ => none
  | .post =>
    match s.stopAndWait with
    | .posting posted =>
      some { s with
        iocp := s.iocp ++ [.shutdown]
        stopAndWait := if posted + 1 = n then .waiting else .posting (posted + 1) }
    | _ => none
  | .waitReturns dwResult =>
    match s.stopAndWait with
    | .waiting =>
      if Win32.waitAllAnswers n s.allExited dwResult then
        if build.asserts (decide (dwResult < n)) then
          some { s with pipeServer := false, stopAndWait := .returned }
        else some { s with stopAndWait := .died }
      else none
    | _ => none
  | _ => none

/-- One line of one thread, or a packet that arrives; nothing happens in a
process that has ended. -/
def step (build : Build) (s : Shutdown n) (e : ShutdownEvent n) : Option (Shutdown n) :=
  if s.stopAndWait = .died then none
  else match e with
    | .arrive packet =>
      -- the pipes and the shared-memory server are all that uses the port
      if packet = .shutdown then none else some { s with iocp := s.iocp ++ [packet] }
    | .dequeue w | .iocpFails w | .check w | .finish w => s.workerStep w e
    | .stop | .post | .waitReturns _ => s.stopStep build e

def machine (build : Build) (n : Nat) : Machine (Shutdown n) (ShutdownEvent n) where
  init := init n
  step := step build

end Shutdown

end Task6
