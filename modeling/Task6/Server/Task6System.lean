import Task6.Server.ServerPipe
import Task6.Server.Shutdown
import Task6.SharedMemory.Texts

/-!
# The server as a whole

One process with one completion port: the pipes, the mapping and its waiter
thread, the worker threads with every line of `WorkerThreadProc`, and
`stopAndWait`, with the clients of both transports. What a worker does with a
packet is here told apart by the packet it has dequeued, and the port hands out
its packets in the order in which they came.

The machines of the pipes (`Task6Server`), of the hand-off (`Handoff`) and of the
shutdown (`Shutdown`) each leave the rest of this one out; `PipesRefined`,
`HandoffRefined` and `ShutdownRefined` show that they are right to.

What a worker logs is left out. As in `Shutdown` the calls of `stopAndWait` in front
of its wait are assumed to succeed, and so is a worker's wait for the shutdown event;
every other call may fail. The process starts in front of the connect loop of the
constructor, behind which the threads run; its end, by a failed assertion or an access
violation, stops all of them.
-/

namespace Task6

open Win32 NulText

/-- A packet of the port. -/
inductive IocpEntry where
  | pipe (packet : Packet)
  | sharedMemory (write : Nat)
  | shutdown
  deriving DecidableEq

namespace IocpEntry

/-- What `GetQueuedCompletionStatus` reports of it. -/
def status : IocpEntry → QueuedStatus
  | pipe packet => ⟨packet.errorCode == errorSuccess, pipeServerCompKey, true⟩
  | sharedMemory _ => ⟨true, sharedMemoryServerCompKey, false⟩
  | shutdown => ⟨true, shutdownCompKey, false⟩

end IocpEntry

/-- The next line of `WorkerThreadProc`, with the values the thread holds. No
entry is a port that failed; `shared` is within the branch of the shared memory
server. -/
inductive WorkerLine where
  | blocked
  | checking (dequeued : Option IocpEntry)
  | servicing (packet : Packet)
  | pipeTask (task : WorkerTask)
  | shared (pc : WorkerPc)
  | exited (reason : ExitReason) (dequeued : Option IocpEntry)

/-- The server with `n` pipes and `W` worker threads, and `C` clients of the
mapping. The packets of a pipe wait in `iocp`, not in its `Slot`. `traffic` is a
history. -/
structure Task6System (C W n : Nat) where
  pipes : Fin n → Slot
  chans : Fin n → Channel
  pipeSvBuffers : Fin n → List Byte
  pipeHandled : Fin n → List (List Byte)
  connectLoop : Nat
  svToCl : Bool
  clToSv : Option Nat
  clients : Fin C → ClientPc
  waiter : WaiterPc
  shMemBufferCS : Bool
  memory : List Byte
  sharedMemoryBuffer : List Byte
  writes : Nat
  posted : List Nat
  iocp : List IocpEntry
  workers : Fin W → WorkerLine
  shutdownEvent : Bool
  stopAndWait : StopPc
  pipeServer : Bool
  running : Bool
  traffic : Handoff.Traffic

/-- The lines of a client in `writeData`. -/
inductive ClientLine where
  | writeData (wait : WaitResult) (data : List Byte)
  | map (mapped : Bool)
  | copy
  | unmap (unmapped : Bool)
  | signal (signalled : Bool)

/-- The lines of a worker in the branch of the shared memory server. It passes
the whole of its buffer. -/
inductive SharedLine where
  | getData
  | map (readable : Option Nat)
  | copy
  | unmap (unmapped : Bool)
  | signal (signalled : Bool)
  | finish

/-- Who executes its next line, and the answer. -/
inductive SystemEvent (C W n : Nat) where
  | openPipe (i : Fin n)
  | write (i : Fin n) (m : ClientMessg)
  | closePipe (i : Fin n)
  | connect (i : Fin n) (r : CallResult)
  | complete (i : Fin n) (k : Nat)
  | abort (i : Fin n) (k : Nat) (errorCode : DWORD)
  | client (i : Fin C) (line : ClientLine)
  | waiterWake
  | waiterFails
  | waiterPost (posted : Bool)
  | dequeue (v : Fin W)
  | iocpFails (v : Fin W)
  | check (v : Fin W)
  | service (v : Fin W) (r : CallResult)
  | terminate (v : Fin W)
  | handle (v : Fin W)
  | restart (v : Fin W) (r : CallResult)
  | shared (v : Fin W) (line : SharedLine)
  | stop
  | post
  | waitReturns (dwResult : DWORD)

/-! ## The hand-off within the system -/

section Views

variable {C W : Nat}

def ClientLine.event (i : Fin C) : ClientLine → HandoffEvent C W
  | writeData wait data => .writeData i wait data
  | map mapped => .clientMap i mapped
  | copy => .clientCopy i
  | unmap unmapped => .clientUnmap i unmapped
  | signal signalled => .clientSignal i signalled

def SharedLine.event (v : Fin W) : SharedLine → HandoffEvent C W
  | getData => .getData v dataBufferSize
  | map readable => .getMap v readable
  | copy => .getCopy v
  | unmap unmapped => .getUnmap v unmapped
  | signal signalled => .getSignal v signalled
  | finish => .finish v

/-- What the hand-off sees of a packet. -/
def IocpEntry.completion : IocpEntry → Completion
  | sharedMemory write => .sharedMemory write
  | pipe _ | shutdown => .other

/-- And of a worker: one that holds another packet, or has found the port
failing. -/
def WorkerLine.pc : WorkerLine → WorkerPc
  | blocked | checking none | exited .iocpFailed _ => .idle
  | checking (some entry) => .dequeued entry.completion
  | servicing _ | pipeTask _ => .dequeued .other
  | shared pc => pc
  | exited _ _ => .exited

def WorkerLine.hasExited : WorkerLine → Bool
  | exited _ _ => true
  | _ => false

/-- Behind a line of the branch: the worker is in it still, or back at the port. -/
def WorkerLine.ofPc : WorkerPc → WorkerLine
  | .idle => .blocked
  | pc => .shared pc

end Views

namespace Task6System

variable {C W n : Nat}

/-- Behind the constructors of the two servers. -/
def init (C W n : Nat) : Task6System C W n where
  pipes := fun i => Slot.create i
  chans := fun _ => .create
  pipeSvBuffers := fun _ => List.replicate dataBufferSize 0
  pipeHandled := fun _ => []
  connectLoop := 0
  svToCl := true
  clToSv := none
  clients := fun _ => .idle
  waiter := .waiting
  shMemBufferCS := false
  memory := List.replicate dataBufferSize 0
  sharedMemoryBuffer := List.replicate dataBufferSize 0
  writes := 0
  posted := []
  iocp := []
  workers := fun _ => .blocked
  shutdownEvent := false
  stopAndWait := .notCalled
  pipeServer := true
  running := true
  traffic := ⟨[], []⟩

def config (build : Build) : HandoffConfig := ⟨build, dataBufferSize⟩

/-- The hand-off, its events and parties. -/
def handoff (s : Task6System C W n) : Handoff C W where
  svToCl := s.svToCl
  clToSv := s.clToSv
  clients := s.clients
  waiter := s.waiter
  iocp := s.iocp.map IocpEntry.completion
  workers := fun v => (s.workers v).pc
  shMemBufferCS := s.shMemBufferCS
  memory := s.memory
  sharedMemoryBuffer := s.sharedMemoryBuffer
  running := s.running
  stopping := s.shutdownEvent
  closing := false
  writes := s.writes
  posted := s.posted

def setWorker (s : Task6System C W n) (v : Fin W) (line : WorkerLine) : Task6System C W n :=
  { s with workers := Function.update s.workers v line }

def setChan (s : Task6System C W n) (i : Fin n) (ch : Channel) : Task6System C W n :=
  { s with chans := Function.update s.chans i ch }

/-- The process ends. -/
def crash (s : Task6System C W n) : Task6System C W n := { s with running := false }

/-- What of the hand-off a client or a worker changes. -/
def putHandoff (s : Task6System C W n) (h : Handoff C W) (traffic : Handoff.Traffic) :
    Task6System C W n :=
  { s with
    svToCl := h.svToCl
    clToSv := h.clToSv
    clients := h.clients
    shMemBufferCS := h.shMemBufferCS
    memory := h.memory
    sharedMemoryBuffer := h.sharedMemoryBuffer
    running := h.running
    writes := h.writes
    traffic := traffic }

/-- The lines of `writeData`. -/
def clientStep (build : Build) (s : Task6System C W n) (i : Fin C) (line : ClientLine) :
    Option (Task6System C W n) :=
  (s.handoff.clientStep (config build) i (line.event i)).map fun h =>
    s.putHandoff h (Handoff.traffic s.handoff (line.event i) s.traffic)

/-- The lines of the branch of the shared memory server. -/
def sharedStep (build : Build) (s : Task6System C W n) (v : Fin W) (line : SharedLine) :
    Option (Task6System C W n) :=
  match s.workers v with
  | .shared _ =>
    (s.handoff.workerStep (config build) v (line.event v)).map fun h =>
      (s.putHandoff h (Handoff.traffic s.handoff (line.event v) s.traffic)).setWorker v
        (.ofPc (h.workers v))
  | _ => none

/-! ## The pipes and the waiter thread -/

/-- A completed operation: its packet goes to the port. -/
def queuePacket (s : Task6System C W n) (i : Fin n) (k : Nat) (packet : Packet) :
    Task6System C W n :=
  let slot := s.pipes i
  { s with
    pipes := Function.update s.pipes i { slot with
      pending := slot.pending.eraseIdx k
      connected := slot.connected ||
        (packet.op.kind == .connect && packet.errorCode == errorSuccess) }
    iocp := s.iocp ++ [.pipe packet] }

/-- The clients of the pipes, and Windows; once `pipeServer` is destroyed there are
none left. -/
def pipeStep (s : Task6System C W n) : SystemEvent C W n → Option (Task6System C W n)
  | .openPipe i =>
    if (s.chans i).client = .absent then some (s.setChan i { s.chans i with client := .opened })
    else none
  | .write i m =>
    if (s.chans i).client = .opened then some (s.setChan i ((s.chans i).write m)) else none
  | .closePipe i =>
    if (s.chans i).client = .opened then some (s.setChan i { s.chans i with client := .closed })
    else none
  | .connect i r =>
    if i.val = s.connectLoop then
      match InPipeServer.connectInstance s.pipes i r with
      | (.ok _, pipes) => some { s with pipes := pipes, connectLoop := s.connectLoop + 1 }
      | (.error _, _) => none
    else none
  | .complete i k =>
    match (s.pipes i).pending[k]? with
    | none => none
    | some op =>
      match op.kind with
      | .connect =>
        if (s.chans i).client = .absent then none
        else some (s.queuePacket i k ⟨op, errorSuccess, 0⟩)
      | .read =>
        match (s.chans i).transfer op.capacity with
        | none => none
        | some (errorCode, data, ch) =>
          some { (s.setChan i ch).queuePacket i k ⟨op, errorCode, data.length⟩ with
            pipeSvBuffers :=
              Function.update s.pipeSvBuffers i (overwrite (s.pipeSvBuffers i) data) }
  | .abort i k errorCode =>
    if errorCode = errorSuccess ∨ errorCode = errorMoreData then none
    else (s.pipes i).pending[k]?.map fun op => s.queuePacket i k ⟨op, errorCode, 0⟩
  | _ => none

/-- The next line of `WaiterThreadProc`. -/
def waiterStep (build : Build) (s : Task6System C W n) :
    SystemEvent C W n → Option (Task6System C W n)
  | .waiterWake =>
    match s.waiter, s.clToSv with
    | .waiting, some write => some { s with clToSv := none, waiter := .posting write }
    | _, _ => none
  | .waiterFails =>
    match s.waiter with
    | .waiting =>
      -- the result is neither of the two events
      if build.asserts false then some s else some { s.crash with waiter := .stopped }
    | _ => none
  | .waiterPost posted =>
    match s.waiter with
    | .posting write =>
      if posted then
        some { s with
          waiter := .waiting
          iocp := s.iocp ++ [.sharedMemory write]
          posted := s.posted ++ [write] }
      else if build.asserts false then some { s with waiter := .waiting }
      else some { s.crash with waiter := .stopped }
    | _ => none
  | _ => none

/-! ## The worker threads -/

/-- The test of the loop, and the choice of the branch. -/
def nextLine (shutdownEvent : Bool) (dequeued : Option IocpEntry) : WorkerLine :=
  let status := (dequeued.map IocpEntry.status).getD .iocpFailed
  match status.exits shutdownEvent with
  | some reason => .exited reason dequeued
  | none =>
    match dequeued with
    | some (.pipe packet) => .servicing packet
    | some (.sharedMemory write) => .shared (.dequeued (.sharedMemory write))
    | _ => .exited .invalidPacket dequeued

/-- The call that starts the next operation of an instance. -/
def startNext (pipes : Fin n → Slot) (result : AsyncResult) (r : CallResult) : Fin n → Slot :=
  if result.newPipeState = PipeState.unconnected then
    (InPipeServer.connectInstance pipes result.instanceIndex r).2
  else if result.newPipeState = PipeState.connected then
    (InPipeServer.readInstance pipes result.instanceIndex readCapacity r).2
  else pipes

/-- `pipeServer` is null, and the line calls it. -/
def derefsNull (s : Task6System C W n) : WorkerLine → Bool
  | .servicing _ => !s.pipeServer
  | .pipeTask (.handled result) =>
    !s.pipeServer && (result.newPipeState == PipeState.unconnected ||
      result.newPipeState == PipeState.connected)
  | _ => false

/-- The next line of worker `v` in front of the branches and in that of the pipe
server; an exception makes it turn to the port again. -/
def workerStep (s : Task6System C W n) : SystemEvent C W n → Option (Task6System C W n)
  | .dequeue v =>
    match s.workers v, s.iocp with
    | .blocked, entry :: rest =>
      if s.connectLoop = n then some { s.setWorker v (.checking (some entry)) with iocp := rest }
      else none
    | _, _ => none
  | .iocpFails v =>
    match s.workers v with
    | .blocked => if s.connectLoop = n then some (s.setWorker v (.checking none)) else none
    | _ => none
  | .check v =>
    match s.workers v with
    | .checking dequeued => some (s.setWorker v (nextLine s.shutdownEvent dequeued))
    | _ => none
  | .service v r =>
    match s.workers v with
    | .servicing packet =>
      let out := InPipeServer.service s.pipes (some packet.op.lpOverlapped)
        packet.bytesTransferred packet.errorCode r
      some { s with
        pipes := out.2
        workers := Function.update s.workers v
          (match out.1 with
          | .ok result => .pipeTask (.ofResult result)
          | .error _ => .blocked) }
    | _ => none
  | .terminate v =>
    match s.workers v with
    | .pipeTask (.serviced result) =>
      if h : result.instanceIndex < n then
        let buff := s.pipeSvBuffers ⟨result.instanceIndex, h⟩
        if result.bytesTransferred < buff.length then
          some { s.setWorker v (.pipeTask (.terminated result)) with
            pipeSvBuffers := Function.update s.pipeSvBuffers ⟨result.instanceIndex, h⟩
              (buff.set result.bytesTransferred 0) }
        else some (s.setWorker v .blocked)
      else some (s.setWorker v .blocked)
    | _ => none
  | .handle v =>
    match s.workers v with
    | .pipeTask (.terminated result) =>
      if h : result.instanceIndex < n then
        let j : Fin n := ⟨result.instanceIndex, h⟩
        some { s.setWorker v (.pipeTask (.handled result)) with
          pipeHandled :=
            Function.update s.pipeHandled j (s.pipeHandled j ++ [text (s.pipeSvBuffers j)]) }
      else none
    | _ => none
  | .restart v r =>
    match s.workers v with
    | .pipeTask (.handled result) =>
      if h : result.instanceIndex < n then
        if result.newPipeState = PipeState.connected ∧
            (s.chans ⟨result.instanceIndex, h⟩).answersRead readCapacity r = false then none
        else some { s.setWorker v .blocked with pipes := startNext s.pipes result r }
      else some (s.setWorker v .blocked)
    | _ => none
  | _ => none

/-! ## Stopping, and the system -/

/-- The next line of `stopAndWait`, whose `SetEvent` and posts succeed. -/
def stopStep (build : Build) (s : Task6System C W n) :
    SystemEvent C W n → Option (Task6System C W n)
  | .stop =>
    match s.stopAndWait with
    | .notCalled =>
      if s.connectLoop = n then
        some { s with
          shutdownEvent := true
          stopAndWait := if W = 0 then .returned else .posting 0 }
      else none
    | _ => none
  | .post =>
    match s.stopAndWait with
    | .posting posted =>
      some { s with
        iocp := s.iocp ++ [.shutdown]
        stopAndWait := if posted + 1 = W then .waiting else .posting (posted + 1) }
    | _ => none
  | .waitReturns dwResult =>
    match s.stopAndWait with
    | .waiting =>
      if waitAllAnswers W (decide (∀ v, (s.workers v).hasExited = true)) dwResult then
        if build.asserts (decide (dwResult < W)) then
          some { s with pipeServer := false, stopAndWait := .returned }
        else some { s with stopAndWait := .died, running := false }
      else none
    | _ => none
  | _ => none

/-- One line of one thread, a client or Windows. When the process has ended only
the clients of the mapping go on. -/
def step (build : Build) (s : Task6System C W n) (e : SystemEvent C W n) :
    Option (Task6System C W n) :=
  match e with
  | .client i line => s.clientStep build i line
  | .openPipe _ | .write _ _ | .closePipe _ | .connect _ _ | .complete _ _ | .abort _ _ _ =>
    if s.running && s.pipeServer then s.pipeStep e else none
  | .waiterWake | .waiterFails | .waiterPost _ => if s.running then s.waiterStep build e else none
  | .service v _ | .restart v _ =>
    if !s.running then none
    else if s.derefsNull (s.workers v) then some s.crash
    else s.workerStep e
  | .dequeue _ | .iocpFails _ | .check _ | .terminate _ | .handle _ =>
    if s.running then s.workerStep e else none
  | .shared v line => if s.running then s.sharedStep build v line else none
  | .stop | .post | .waitReturns _ => if s.running then s.stopStep build e else none

def machine (build : Build) (C W n : Nat) :
    Machine (Task6System C W n) (SystemEvent C W n) where
  init := init C W n
  step := step build

/-- Who has taken the step: a client of the mapping, or, in a process that runs,
somebody else. -/
theorem step_cases {build : Build} {s s' : Task6System C W n} {e : SystemEvent C W n}
    (hs : step build s e = some s') :
    (∃ i line, e = .client i line ∧ s.clientStep build i line = some s') ∨
      s.running = true ∧ (s.pipeStep e = some s' ∨ s.waiterStep build e = some s' ∨
        s' = s.crash ∨ s.workerStep e = some s' ∨
        (∃ v line, e = .shared v line ∧ s.sharedStep build v line = some s') ∨
        s.stopStep build e = some s') := by
  cases e with
  | client i line => exact .inl ⟨i, line, rfl, hs⟩
  | openPipe _ | write _ _ | closePipe _ | connect _ _ | complete _ _ | abort _ _ _ =>
    obtain ⟨hrun, hs⟩ := Option.ite_none_right_eq_some.mp hs
    exact .inr ⟨(Bool.and_eq_true_iff.mp hrun).1, .inl hs⟩
  | waiterWake | waiterFails | waiterPost _ =>
    obtain ⟨hrun, hs⟩ := Option.ite_none_right_eq_some.mp hs
    exact .inr ⟨hrun, .inr (.inl hs)⟩
  | service v _ | restart v _ =>
    obtain ⟨hrun, hs⟩ := Option.ite_none_left_eq_some.mp hs
    refine .inr ⟨by simpa using hrun, .inr (.inr ?_)⟩
    split at hs
    · exact .inl (Option.some.inj hs).symm
    · exact .inr (.inl hs)
  | dequeue _ | iocpFails _ | check _ | terminate _ | handle _ =>
    obtain ⟨hrun, hs⟩ := Option.ite_none_right_eq_some.mp hs
    exact .inr ⟨hrun, .inr (.inr (.inr (.inl hs)))⟩
  | shared v line =>
    obtain ⟨hrun, hs⟩ := Option.ite_none_right_eq_some.mp hs
    exact .inr ⟨hrun, .inr (.inr (.inr (.inr (.inl ⟨v, line, rfl, hs⟩))))⟩
  | stop | post | waitReturns _ =>
    obtain ⟨hrun, hs⟩ := Option.ite_none_right_eq_some.mp hs
    exact .inr ⟨hrun, .inr (.inr (.inr (.inr (.inr hs))))⟩

/-- A line of the waiter thread: it has woken up, has posted, or has failed. -/
theorem waiterStep_cases {build : Build} {s s' : Task6System C W n} {e : SystemEvent C W n}
    (hs : s.waiterStep build e = some s') :
    (∃ write, s' = { s with clToSv := none, waiter := .posting write }) ∨
      (∃ write, s' = { s with
        waiter := .waiting
        iocp := s.iocp ++ [.sharedMemory write]
        posted := s.posted ++ [write] }) ∨
      ∃ waiter running, (running = true → s.running = true) ∧
        s' = { s with waiter := waiter, running := running } := by
  unfold waiterStep at hs
  split at hs
  · split at hs
    · cases hs
      exact .inl ⟨_, rfl⟩
    · cases hs
  · split at hs
    · split at hs
      · cases hs
        exact .inr (.inr ⟨s.waiter, s.running, id, rfl⟩)
      · cases hs
        exact .inr (.inr ⟨.stopped, false, fun hrun => (by cases hrun), rfl⟩)
    · cases hs
  · split at hs
    · split at hs
      · cases hs
        exact .inr (.inl ⟨_, rfl⟩)
      · split at hs
        · cases hs
          exact .inr (.inr ⟨.waiting, s.running, id, rfl⟩)
        · cases hs
          exact .inr (.inr ⟨.stopped, false, fun hrun => (by cases hrun), rfl⟩)
    · cases hs
  · cases hs

/-- A line of `stopAndWait`: it sets the event, posts a packet, or is behind its wait. -/
theorem stopStep_cases {build : Build} {s s' : Task6System C W n} {e : SystemEvent C W n}
    (hs : s.stopStep build e = some s') :
    (∃ pc, s.connectLoop = n ∧ s' = { s with shutdownEvent := true, stopAndWait := pc }) ∨
      (∃ pc, s' = { s with iocp := s.iocp ++ [.shutdown], stopAndWait := pc }) ∨
      ∃ pipeServer pc running, (running = true → s.running = true) ∧
        s' = { s with pipeServer := pipeServer, stopAndWait := pc, running := running } := by
  unfold stopStep at hs
  split at hs
  · split at hs
    · obtain ⟨hloop, hs⟩ := Option.ite_none_right_eq_some.mp hs
      cases hs
      exact .inl ⟨_, hloop, rfl⟩
    · cases hs
  · split at hs
    · cases hs
      exact .inr (.inl ⟨_, rfl⟩)
    · cases hs
  · split at hs
    · obtain ⟨-, hs⟩ := Option.ite_none_right_eq_some.mp hs
      split at hs
      · cases hs
        exact .inr (.inr ⟨false, .returned, s.running, id, rfl⟩)
      · cases hs
        exact .inr (.inr ⟨s.pipeServer, .died, false, fun hrun => (by cases hrun), rfl⟩)
    · cases hs
  · cases hs

/-- A buffer keeps its length when it is read into. -/
theorem length_received {data : List Byte} (h : data.length ≤ dataBufferSize) :
    (overwrite (List.replicate dataBufferSize 0) data).length = dataBufferSize := by
  rw [← List.length_replicate (n := dataBufferSize) (a := (0 : Byte))] at h
  rw [length_overwrite h, List.length_replicate]

/-- A message that fits its buffer is terminated there. -/
theorem step_terminate (build : Build) {s : Task6System C W n} {v : Fin W} {result : AsyncResult}
    (hrun : s.running = true) (hpc : s.workers v = .pipeTask (.serviced result))
    (hlt : result.instanceIndex < n)
    (hfits : result.bytesTransferred < (s.pipeSvBuffers ⟨result.instanceIndex, hlt⟩).length) :
    (machine build C W n).step s (.terminate v) =
      some { s.setWorker v (.pipeTask (.terminated result)) with
        pipeSvBuffers := Function.update s.pipeSvBuffers ⟨result.instanceIndex, hlt⟩
          ((s.pipeSvBuffers ⟨result.instanceIndex, hlt⟩).set result.bytesTransferred 0) } := by
  show step build s (.terminate v) = _
  simp only [step, hrun, workerStep, hpc, if_true, dif_pos hlt, if_pos hfits]

/-! ## The test of the loop -/

theorem exits_pipeServer (bResult shutdownEvent : Bool) :
    (⟨bResult, pipeServerCompKey, true⟩ : QueuedStatus).exits shutdownEvent =
      if shutdownEvent then some .shutdownEvent else none := by
  cases bResult <;> cases shutdownEvent <;> rfl

theorem nextLine_failed (shutdownEvent : Bool) :
    nextLine shutdownEvent none = .exited .iocpFailed none := rfl

theorem nextLine_pipe (shutdownEvent : Bool) (packet : Packet) :
    nextLine shutdownEvent (some (.pipe packet)) =
      if shutdownEvent then .exited .shutdownEvent (some (.pipe packet))
      else .servicing packet := by
  simp only [nextLine, Option.map_some, Option.getD_some, IocpEntry.status, exits_pipeServer]
  cases shutdownEvent <;> rfl

theorem nextLine_sharedMemory (shutdownEvent : Bool) (write : Nat) :
    nextLine shutdownEvent (some (.sharedMemory write)) =
      if shutdownEvent then .exited .shutdownEvent (some (.sharedMemory write))
      else .shared (.dequeued (.sharedMemory write)) := by
  cases shutdownEvent <;> rfl

theorem nextLine_shutdown (shutdownEvent : Bool) :
    nextLine shutdownEvent (some .shutdown) = .exited .shutdownPacket (some .shutdown) := rfl

/-! ## What the lines of the hand-off leave alone -/

/-- A line of `writeData` changes neither the port, nor a thread of the server, nor
its process. -/
structure ClientFrame {C W : Nat} (h h' : Handoff C W) : Prop where
  waiter : h'.waiter = h.waiter
  iocp : h'.iocp = h.iocp
  workers : h'.workers = h.workers
  shMemBufferCS : h'.shMemBufferCS = h.shMemBufferCS
  sharedMemoryBuffer : h'.sharedMemoryBuffer = h.sharedMemoryBuffer
  running : h'.running = h.running
  stopping : h'.stopping = h.stopping
  closing : h'.closing = h.closing
  posted : h'.posted = h.posted

theorem ClientFrame.refl {C W : Nat} (h : Handoff C W) : ClientFrame h h :=
  ⟨rfl, rfl, rfl, rfl, rfl, rfl, rfl, rfl, rfl⟩

theorem ClientFrame.setClient {C W : Nat} (h : Handoff C W) (i : Fin C) (pc : ClientPc) :
    ClientFrame h (h.setClient i pc) :=
  ⟨rfl, rfl, rfl, rfl, rfl, rfl, rfl, rfl, rfl⟩

theorem clientFrame {C W : Nat} {cfg : HandoffConfig} {h h' : Handoff C W} {i : Fin C}
    {e : HandoffEvent C W} (hs : h.clientStep cfg i e = some h') : ClientFrame h h' := by
  unfold Handoff.clientStep at hs
  split at hs
  · -- the wait for the event
    rename_i j wait data
    split at hs
    · obtain ⟨-, hs⟩ := Option.ite_none_right_eq_some.mp hs
      cases hs
      exact { ClientFrame.setClient h i (.mapping data) with }
    · cases hs
      exact .refl h
    · cases hs
      exact .refl h
    · cases hs
  · split at hs
    · obtain ⟨-, hs⟩ := Option.ite_none_left_eq_some.mp hs
      split at hs <;> cases hs <;> exact .setClient h i _
    · cases hs
  · -- the copy
    split at hs
    · split at hs <;> cases hs
      · exact { ClientFrame.setClient h i .unmapping with }
      · exact .setClient h i .died
    · cases hs
  · split at hs
    · split at hs <;> cases hs <;> exact .setClient h i _
    · cases hs
  · -- the event for the server
    split at hs
    · split at hs
      · cases hs
        exact { ClientFrame.setClient h i .idle with }
      · split at hs <;> cases hs <;> exact .setClient h i _
    · cases hs
  · cases hs

/-- A line of the branch changes no other worker, and the port only by the
worker's own exit from it. -/
structure SharedFrame {C W : Nat} (v : Fin W) (h h' : Handoff C W) : Prop where
  clToSv : h'.clToSv = h.clToSv
  clients : h'.clients = h.clients
  waiter : h'.waiter = h.waiter
  iocp : h'.iocp = h.iocp
  workers : ∃ pc, h'.workers = Function.update h.workers v pc
  stopping : h'.stopping = h.stopping
  closing : h'.closing = h.closing
  writes : h'.writes = h.writes
  posted : h'.posted = h.posted

theorem SharedFrame.setWorker {C W : Nat} (h : Handoff C W) (v : Fin W) (pc : WorkerPc) :
    SharedFrame v h (h.setWorker v pc) :=
  ⟨rfl, rfl, rfl, rfl, ⟨pc, rfl⟩, rfl, rfl, rfl, rfl⟩

/-- The lock, the copy of the text, the turn and the process are the branch's own. -/
theorem SharedFrame.own {C W : Nat} {v : Fin W} {h h' : Handoff C W} (hframe : SharedFrame v h h')
    (shMemBufferCS : Bool) (sharedMemoryBuffer : List Byte) (svToCl running : Bool) :
    SharedFrame v h { h' with
      shMemBufferCS := shMemBufferCS
      sharedMemoryBuffer := sharedMemoryBuffer
      svToCl := svToCl
      running := running } :=
  { hframe with }

theorem sharedFrame {C W : Nat} {cfg : HandoffConfig} {h h' : Handoff C W} {v : Fin W}
    {line : SharedLine} (hs : h.workerStep cfg v (line.event v) = some h') :
    SharedFrame v h h' := by
  have moved := SharedFrame.setWorker h v
  have released : SharedFrame v h (h.release v) := (moved .idle).own ..
  have crashed : SharedFrame v h (h.crash v) := (moved .exited).own ..
  cases line with
  | getData =>
    simp only [SharedLine.event, Handoff.workerStep] at hs
    split at hs
    · obtain ⟨-, hs⟩ := Option.ite_none_left_eq_some.mp hs
      cases hs
      exact (moved _).own ..
    · cases hs
  | map readable =>
    simp only [SharedLine.event, Handoff.workerStep] at hs
    split at hs
    · cases hs
      exact released
    · obtain ⟨-, hs⟩ := Option.ite_none_left_eq_some.mp hs
      cases hs
      exact moved _
    · cases hs
  | copy =>
    simp only [SharedLine.event, Handoff.workerStep] at hs
    split at hs
    · split at hs
      · cases hs
        exact (moved _).own ..
      · cases hs
        exact crashed
    · cases hs
  | unmap unmapped =>
    simp only [SharedLine.event, Handoff.workerStep] at hs
    split at hs
    · split at hs
      · cases hs
        exact moved _
      · cases hs
        exact crashed
    · cases hs
  | signal signalled =>
    simp only [SharedLine.event, Handoff.workerStep] at hs
    split at hs
    · split at hs
      · split at hs
        · cases hs
          exact (moved .idle).own ..
        · cases hs
          exact (moved _).own ..
      · cases hs
        exact crashed
    · cases hs
  | finish =>
    simp only [SharedLine.event, Handoff.workerStep] at hs
    split at hs
    · cases hs
      exact released
    · cases hs

end Task6System

end Task6
