import Task6.Library.Machine
import Task6.Library.Pool
import Task6.SharedMemory.Transfer

/-!
# The shared-memory hand-off

Any number of clients in `writeData`, the waiter thread, the completion port and
any number of workers, interleaved line by line: an event names who executes its
next line and what Windows answers to it. The lines are those of `writeData` and
`getData` (`Transfer`), of `WaiterThreadProc` and of the shared-memory branch of
`WorkerThreadProc`.

- `ClientPc`, `WaiterPc`, `WorkerPc`: the line each party is about to execute,
  with the values it holds.
- `Handoff`: the two auto-reset events, the parties, the iocp, the lock and the
  two memories. Completed writes are numbered (`writes`), and the number travels
  with the wake-up it causes, up to the packet (`posted`).
- `Handoff.step`: `none` where the party is not at that line or Windows cannot
  answer so.

`getData`'s own critical section is not listed: its only caller holds
`shMemBufferCS` around the call.
-/

namespace Task6

/-- The next line of a client: the wait, then the four calls of `writeData` that
follow it. -/
inductive ClientPc where
  | idle
  | mapping (data : List Byte)
  | copying (mapped : Bool) (data : List Byte)
  | unmapping
  | signalling
  | died

/-- The next line of `WaiterThreadProc`. -/
inductive WaiterPc where
  | waiting
  | posting (write : Nat)
  | stopped

/-- A packet of the iocp: the shared-memory server's, or anybody else's. -/
inductive Completion where
  | sharedMemory (write : Nat)
  | other
  deriving DecidableEq

def Completion.isSharedMemory : Completion → Bool
  | sharedMemory _ => true
  | other => false

/-- The next line of a worker: `mapping` to `signalling` are inside `getData`,
`handling` is behind it, still under `shMemBufferCS`. -/
inductive WorkerPc where
  | idle
  | dequeued (packet : Completion)
  | mapping (size : Nat)
  | copying (size readable : Nat)
  | unmapping (size sharedMemSize : Nat)
  | signalling (size sharedMemSize : Nat)
  | handling (recv : Nat)
  | exited

/-- What does not change: the build and the size of the mapping. -/
structure HandoffConfig where
  build : Build
  bufferSize : Nat

/-- The bytes a view of `min(size, bufferSize)` covers: a view of zero bytes is
one of the whole mapping. -/
def HandoffConfig.requested (cfg : HandoffConfig) (size : Nat) : Nat :=
  if size = 0 then cfg.bufferSize else min size cfg.bufferSize

/-- The state of the hand-off between `C` clients and a server with `W`
workers. -/
structure Handoff (C W : Nat) where
  svToCl : Bool
  clToSv : Option Nat
  clients : Fin C → ClientPc
  waiter : WaiterPc
  iocp : List Completion
  workers : Fin W → WorkerPc
  shMemBufferCS : Bool
  memory : List Byte
  sharedMemoryBuffer : List Byte
  running : Bool
  stopping : Bool
  closing : Bool
  writes : Nat
  posted : List Nat

/-- Who executes its next line, and Windows' answer. `stop` is the shutdown
event of the workers, `close` that of the waiter. -/
inductive HandoffEvent (C W : Nat) where
  | writeData (i : Fin C) (wait : WaitResult) (data : List Byte)
  | clientMap (i : Fin C) (mapped : Bool)
  | clientCopy (i : Fin C)
  | clientUnmap (i : Fin C) (unmapped : Bool)
  | clientSignal (i : Fin C) (signalled : Bool)
  | waiterWake
  | waiterFails
  | waiterPost (posted : Bool)
  | waiterExit
  | otherPacket
  | dequeue (w : Fin W)
  | handleOther (w : Fin W)
  | getData (w : Fin W) (size : Nat)
  | getMap (w : Fin W) (readable : Option Nat)
  | getCopy (w : Fin W)
  | getUnmap (w : Fin W) (unmapped : Bool)
  | getSignal (w : Fin W) (signalled : Bool)
  | finish (w : Fin W)
  | exit (w : Fin W)
  | stop
  | close

namespace Handoff

variable {C W : Nat}

/-- After the constructor of `InSharedMemoryServer`: the mapping is zero and the
first client may write. -/
def init (cfg : HandoffConfig) (C W : Nat) : Handoff C W where
  svToCl := true
  clToSv := none
  clients := fun _ => .idle
  waiter := .waiting
  iocp := []
  workers := fun _ => .idle
  shMemBufferCS := false
  memory := List.replicate cfg.bufferSize 0
  sharedMemoryBuffer := List.replicate cfg.bufferSize 0
  running := true
  stopping := false
  closing := false
  writes := 0
  posted := []

def setClient (s : Handoff C W) (i : Fin C) (pc : ClientPc) : Handoff C W :=
  { s with clients := Function.update s.clients i pc }

def setWorker (s : Handoff C W) (w : Fin W) (pc : WorkerPc) : Handoff C W :=
  { s with workers := Function.update s.workers w pc }

/-- The worker leaves the scope of its lock, with the message handled or by an
exception that it logs, and turns to the iocp again. -/
def release (s : Handoff C W) (w : Fin W) : Handoff C W :=
  { s.setWorker w .idle with shMemBufferCS := false }

/-- The server's process ends while worker `w` is in `getData`. -/
def crash (s : Handoff C W) (w : Fin W) : Handoff C W :=
  { s.setWorker w .exited with running := false }

/-- The next line of client `i`. -/
def clientStep (cfg : HandoffConfig) (s : Handoff C W) (i : Fin C) :
    HandoffEvent C W → Option (Handoff C W)
  | .writeData _ wait data =>
    match s.clients i, wait with
    | .idle, .object0 =>
      if s.svToCl then some { s.setClient i (.mapping data) with svToCl := false } else none
    | .idle, .timeout => some s
    | .idle, .failed _ => some s
    | _, _ => none
  | .clientMap _ mapped =>
    match s.clients i with
    | .mapping data =>
      -- a view of more bytes than the mapping has is never granted
      if mapped && decide (cfg.bufferSize < data.length) then none
      else if cfg.build.asserts mapped then some (s.setClient i (.copying mapped data))
      else some (s.setClient i .died)
    | _ => none
  | .clientCopy _ =>
    match s.clients i with
    | .copying mapped data =>
      match memcpy mapped s.memory data with
      | some memory' => some { s.setClient i .unmapping with memory := memory' }
      | none => some (s.setClient i .died)
    | _ => none
  | .clientUnmap _ unmapped =>
    match s.clients i with
    | .unmapping =>
      if cfg.build.asserts unmapped then some (s.setClient i .signalling)
      else some (s.setClient i .died)
    | _ => none
  | .clientSignal _ signalled =>
    match s.clients i with
    | .signalling =>
      if signalled then
        some { s.setClient i .idle with clToSv := some s.writes, writes := s.writes + 1 }
      else if cfg.build.asserts false then some (s.setClient i .idle)
      else some (s.setClient i .died)
    | _ => none
  | _ => none

/-- The next line of the waiter thread. -/
def waiterStep (cfg : HandoffConfig) (s : Handoff C W) :
    HandoffEvent C W → Option (Handoff C W)
  | .waiterWake =>
    match s.waiter, s.clToSv with
    | .waiting, some write => some { s with clToSv := none, waiter := .posting write }
    | _, _ => none
  | .waiterFails =>
    match s.waiter with
    | .waiting =>
      -- the result is neither of the two events
      if cfg.build.asserts false then some s
      else some { s with waiter := .stopped, running := false }
    | _ => none
  | .waiterPost posted =>
    match s.waiter with
    | .posting write =>
      if posted then
        some { s with
          waiter := .waiting
          iocp := s.iocp ++ [.sharedMemory write]
          posted := s.posted ++ [write] }
      else if cfg.build.asserts false then some { s with waiter := .waiting }
      else some { s with waiter := .stopped, running := false }
    | _ => none
  | .waiterExit =>
    match s.waiter, s.clToSv with
    | .waiting, none => if s.closing then some { s with waiter := .stopped } else none
    | _, _ => none
  | _ => none

/-- The next line of worker `w`. -/
def workerStep (cfg : HandoffConfig) (s : Handoff C W) (w : Fin W) :
    HandoffEvent C W → Option (Handoff C W)
  | .dequeue _ =>
    match s.workers w, s.iocp with
    | .idle, packet :: rest => some { s.setWorker w (.dequeued packet) with iocp := rest }
    | _, _ => none
  | .exit _ =>
    match s.workers w with
    | .dequeued _ => if s.stopping then some (s.setWorker w .exited) else none
    | _ => none
  | .handleOther _ =>
    match s.workers w with
    | .dequeued .other => some (s.setWorker w .idle)
    | _ => none
  | .getData _ size =>
    match s.workers w with
    | .dequeued (.sharedMemory _) =>
      if s.shMemBufferCS then none
      else some { s.setWorker w (.mapping size) with shMemBufferCS := true }
    | _ => none
  | .getMap _ readable =>
    match s.workers w, readable with
    | .mapping _, none => some (s.release w)
    | .mapping size, some readable =>
      if readable < cfg.requested size then none
      else some (s.setWorker w (.copying size readable))
    | _, _ => none
  | .getCopy _ =>
    match s.workers w with
    | .copying size readable =>
      match copyText cfg.build cfg.bufferSize (viewOf s.memory readable) s.sharedMemoryBuffer
        size with
      | some (sharedMemSize, buffer') =>
        some { s.setWorker w (.unmapping size sharedMemSize) with sharedMemoryBuffer := buffer' }
      | none => some (s.crash w)
    | _ => none
  | .getUnmap _ unmapped =>
    match s.workers w with
    | .unmapping size sharedMemSize =>
      if cfg.build.asserts unmapped then some (s.setWorker w (.signalling size sharedMemSize))
      else some (s.crash w)
    | _ => none
  | .getSignal _ signalled =>
    match s.workers w with
    | .signalling size sharedMemSize =>
      if cfg.build.asserts signalled then
        let s' := { s with svToCl := s.svToCl || signalled }
        -- the exception "Buffer is too small." is logged
        if size < sharedMemSize then some (s'.release w)
        else some (s'.setWorker w (.handling sharedMemSize))
      else some (s.crash w)
    | _ => none
  | .finish _ =>
    match s.workers w with
    | .handling _ => some (s.release w)
    | _ => none
  | _ => none

/-- One line of one party. The server's threads end with its process; the events
and the mapping live on as long as a client has them open. -/
def step (cfg : HandoffConfig) (s : Handoff C W) (e : HandoffEvent C W) :
    Option (Handoff C W) :=
  match e with
  | .writeData i _ _ | .clientMap i _ | .clientCopy i | .clientUnmap i _ | .clientSignal i _ =>
    s.clientStep cfg i e
  | .waiterWake | .waiterFails | .waiterPost _ | .waiterExit =>
    if s.running then s.waiterStep cfg e else none
  | .dequeue w | .exit w | .handleOther w | .getData w _ | .getMap w _ | .getCopy w
  | .getUnmap w _ | .getSignal w _ | .finish w =>
    if s.running then s.workerStep cfg w e else none
  | .otherPacket => some { s with iocp := s.iocp ++ [.other] }
  | .stop => some { s with stopping := true }
  | .close => some { s with closing := true }

def machine (cfg : HandoffConfig) (C W : Nat) : Machine (Handoff C W) (HandoffEvent C W) where
  init := init cfg C W
  step := step cfg

/-! ## Lines that hand something on -/

variable {cfg : HandoffConfig} {s : Handoff C W}

/-- A client signals its write. -/
theorem step_signal {i : Fin C} (hpc : s.clients i = .signalling) :
    step cfg s (.clientSignal i true) =
      some { s.setClient i .idle with clToSv := some s.writes, writes := s.writes + 1 } := by
  simp only [step, clientStep, hpc, if_true]

/-- The waiter wakes up. -/
theorem step_wake (hrun : s.running = true) (hpc : s.waiter = .waiting) {write : Nat}
    (hset : s.clToSv = some write) :
    step cfg s .waiterWake = some { s with clToSv := none, waiter := .posting write } := by
  simp only [step, hrun, if_true, waiterStep, hpc, hset]

/-- A worker gets the first packet. -/
theorem step_dequeue (hrun : s.running = true) {w : Fin W} (hpc : s.workers w = .idle)
    {packet : Completion} {rest : List Completion} (hiocp : s.iocp = packet :: rest) :
    step cfg s (.dequeue w) = some { s.setWorker w (.dequeued packet) with iocp := rest } := by
  simp only [step, hrun, if_true, workerStep, hpc, hiocp]

end Handoff

end Task6
