import Task6.CRuntime
import Task6.ControllerOptions
import Task6.Library.Pool
import Task6.Pipes.PipeSystem

/-!
# The pipe branch of the workers

`Task6Server` over its `InPipeServer`: the connect loop of the constructor, any
number of workers in the pipe branch of `WorkerThreadProc`, and the clients at
the other ends of the pipes. The pipe server is a `PipeSystem`: what a worker
has dequeued is `taken` there, and what it does behind `service` is a
`WorkerTask`. A worker that throws has logged the exception and is idle again.

- `Channel`: the messages a client wrote, and what of them Windows still holds.
  A message-mode read moves one message, or the first `capacity` bytes of one
  that is longer, and then completes with `ERROR_MORE_DATA`.
- `Task6Server.step`: one event on pipe `index`.
-/

namespace Task6

open Win32 NulText

/-- What a worker asks to be read: a byte is reserved for the terminator. -/
def readCapacity : Nat := dataBufferSize - 1

/-- A message of a client. -/
structure ClientMessg where
  text : List Byte
  noNul : (0 : Byte) ∉ text

/-- The client's end of a pipe instance. -/
inductive ClientEnd where
  | absent
  | opened
  | closed
  deriving DecidableEq

structure Channel where
  client : ClientEnd
  written : List ClientMessg
  unread : List (List Byte)

namespace Channel

def create : Channel := ⟨.absent, [], []⟩

def write (ch : Channel) (m : ClientMessg) : Channel :=
  { ch with written := ch.written ++ [m], unread := ch.unread ++ [m.text] }

/-- What `ReadFile` may answer at once: TRUE when a message that fits is there,
`ERROR_MORE_DATA` when one that does not fit is. -/
def answersRead (ch : Channel) (capacity : Nat) (r : CallResult) : Bool :=
  match ch.unread with
  | [] => !r.bResult && r.lastError != errorMoreData
  | chunk :: _ =>
    if r.bResult then decide (chunk.length ≤ capacity)
    else r.lastError != errorMoreData || decide (capacity < chunk.length)

/-- A completing read: the error code, the bytes transferred, and what is left
unread. `none` while there is no message. -/
def transfer (ch : Channel) (capacity : Nat) : Option (DWORD × List Byte × Channel) :=
  match ch.unread with
  | [] => none
  | chunk :: rest =>
    if chunk.length ≤ capacity then some (errorSuccess, chunk, { ch with unread := rest })
    else
      some (errorMoreData, chunk.take capacity,
        { ch with unread := chunk.drop capacity :: rest })

end Channel

/-- Where a worker is behind `service`: about to terminate the message in the
buffer, about to handle it, about to start the next operation. -/
inductive WorkerTask where
  | serviced (result : AsyncResult)
  | terminated (result : AsyncResult)
  | handled (result : AsyncResult)
  deriving DecidableEq

namespace WorkerTask

def result : WorkerTask → AsyncResult
  | serviced result | terminated result | handled result => result

/-- A message was received. -/
def isMessage (result : AsyncResult) : Bool :=
  result.operation == .read && result.errorCode == errorSuccess && !result.bZombieOperation

/-- The next line behind `service`. -/
def ofResult (result : AsyncResult) : WorkerTask :=
  if isMessage result then .serviced result else .handled result

/-- The worker goes on with what `service` returned; an exception makes it
idle. -/
def ofService : Except Exn AsyncResult → List WorkerTask
  | .ok result => [.ofResult result]
  | .error _ => []

end WorkerTask

structure Task6Server (n : Nat) where
  sys : PipeSystem n
  chans : Fin n → Channel
  pipeSvBuffers : Fin n → List Byte
  tasks : Fin n → List WorkerTask
  handled : Fin n → List (List Byte)
  connectLoop : Nat

/-- What can happen on a pipe. The client opens, writes and closes; `connect` is
the constructor's; Windows completes the `k`-th operation in flight or fails it;
a worker takes the `k`-th packet of the pipe, or the `k`-th worker that is busy
with the pipe executes its next line. -/
inductive ServerCall where
  | openPipe
  | write (m : ClientMessg)
  | close
  | connect (r : CallResult)
  | complete (k : Nat)
  | abort (k : Nat) (errorCode : DWORD)
  | take (k : Nat)
  | service (k : Nat) (r : CallResult)
  | terminate (k : Nat)
  | handle (k : Nat)
  | restart (k : Nat) (r : CallResult)

structure ServerEvent (n : Nat) where
  index : Fin n
  call : ServerCall

namespace Task6Server

variable {n : Nat}

/-- The constructor in front of its connect loop. -/
def init (n : Nat) : Task6Server n where
  sys := PipeSystem.init n
  chans := fun _ => .create
  pipeSvBuffers := fun _ => List.replicate dataBufferSize 0
  tasks := fun _ => []
  handled := fun _ => []
  connectLoop := 0

/-- The workers that are busy with a packet. -/
def busy (s : Task6Server n) : Nat :=
  Pool.total (fun i => (s.sys.taken i).length + (s.tasks i).length) (fun i : Fin n => i)

def setChan (s : Task6Server n) (i : Fin n) (ch : Channel) : Task6Server n :=
  { s with chans := Function.update s.chans i ch }

def setTasks (s : Task6Server n) (i : Fin n) (tasks : List WorkerTask) : Task6Server n :=
  { s with tasks := Function.update s.tasks i tasks }

def setPipes (s : Task6Server n) (pipes : Fin n → Slot) : Task6Server n :=
  { s with sys := { s.sys with pipes := pipes } }

/-- The call that starts the next operation of an instance: its `newPipeState`
says which. -/
def startNext (s : Task6Server n) (result : AsyncResult) (r : CallResult) : Task6Server n :=
  if result.newPipeState = PipeState.unconnected then
    s.setPipes (InPipeServer.connectInstance s.sys.pipes result.instanceIndex r).2
  else if result.newPipeState = PipeState.connected then
    s.setPipes (InPipeServer.readInstance s.sys.pipes result.instanceIndex readCapacity r).2
  else s

/-- One event, with `workers` worker threads. They start when the connect loop
has ended; a constructor that throws leaves no server. -/
def step (workers : Nat) (s : Task6Server n) (e : ServerEvent n) : Option (Task6Server n) :=
  let i := e.index
  match e.call with
  | .openPipe =>
    if (s.chans i).client = .absent then some (s.setChan i { s.chans i with client := .opened })
    else none
  | .write m =>
    if (s.chans i).client = .opened then some (s.setChan i ((s.chans i).write m)) else none
  | .close =>
    if (s.chans i).client = .opened then some (s.setChan i { s.chans i with client := .closed })
    else none
  | .connect r =>
    if i.val = s.connectLoop then
      match InPipeServer.connectInstance s.sys.pipes i r with
      | (.ok _, pipes) => some { s.setPipes pipes with connectLoop := s.connectLoop + 1 }
      | (.error _, _) => none
    else none
  | .complete k =>
    match (s.sys.pipes i).pending[k]? with
    | none => none
    | some op =>
      match op.kind with
      | .connect =>
        if (s.chans i).client = .absent then none
        else (s.sys.step ⟨i, .complete k errorSuccess 0⟩).map fun sys => { s with sys := sys }
      | .read =>
        match (s.chans i).transfer op.capacity with
        | none => none
        | some (errorCode, data, ch) =>
          (s.sys.step ⟨i, .complete k errorCode data.length⟩).map fun sys =>
            { s.setChan i ch with
              sys := sys
              pipeSvBuffers :=
                Function.update s.pipeSvBuffers i (overwrite (s.pipeSvBuffers i) data) }
  | .abort k errorCode =>
    if errorCode = errorSuccess ∨ errorCode = errorMoreData then none
    else (s.sys.step ⟨i, .complete k errorCode 0⟩).map fun sys => { s with sys := sys }
  | .take k =>
    if s.connectLoop = n ∧ s.busy < workers then
      (s.sys.step ⟨i, .dequeue k⟩).map fun sys => { s with sys := sys }
    else none
  | .service k r =>
    (s.sys.taken i)[k]?.map fun packet =>
      let out := InPipeServer.service s.sys.pipes (some packet.op.lpOverlapped)
        packet.bytesTransferred packet.errorCode r
      { s.setTasks i (s.tasks i ++ WorkerTask.ofService out.1) with
        sys := ⟨out.2, Function.update s.sys.taken i ((s.sys.taken i).eraseIdx k)⟩ }
  | .terminate k =>
    match (s.tasks i)[k]? with
    | some (.serviced result) =>
      -- both `at` may throw
      if h : result.instanceIndex < n then
        let buff := s.pipeSvBuffers ⟨result.instanceIndex, h⟩
        if result.bytesTransferred < buff.length then
          some { s.setTasks i ((s.tasks i).set k (.terminated result)) with
            pipeSvBuffers := Function.update s.pipeSvBuffers ⟨result.instanceIndex, h⟩
              (buff.set result.bytesTransferred 0) }
        else some (s.setTasks i ((s.tasks i).eraseIdx k))
      else some (s.setTasks i ((s.tasks i).eraseIdx k))
    | _ => none
  | .handle k =>
    match (s.tasks i)[k]? with
    | some (.terminated result) =>
      if h : result.instanceIndex < n then
        let j : Fin n := ⟨result.instanceIndex, h⟩
        some { s.setTasks i ((s.tasks i).set k (.handled result)) with
          handled := Function.update s.handled j (s.handled j ++ [text (s.pipeSvBuffers j)]) }
      else none
    | _ => none
  | .restart k r =>
    match (s.tasks i)[k]? with
    | some (.handled result) =>
      if result.newPipeState = PipeState.connected ∧
          (s.chans i).answersRead readCapacity r = false then none
      else some ((s.setTasks i ((s.tasks i).eraseIdx k)).startNext result r)
    | _ => none

def machine (workers n : Nat) : Machine (Task6Server n) (ServerEvent n) where
  init := init n
  step := step workers

end Task6Server

end Task6
