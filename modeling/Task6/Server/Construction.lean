import Task6.CRuntime
import Task6.Library.Constructor
import Task6.Pipes.InPipeServer
import Task6.Raii.RaiiHandle

/-!
# Constructing and destroying the server

The constructors of `InPipeServer`, `InSharedMemoryServer` and `Task6Server` line by
line, the destructors and `stopAndWait`, on the handles that Windows gives out and
gets back and the threads that are started. An object is here what it owns: its
`RaiiHandle` members, and those of its members. What Windows answers to each call
is an argument.

- `Task6Server.construct`: an exception destroys the members that are there by
  then, the object behind `sharedMemServer` with its destructor.
- `Task6Server.lifetime`: a server is made, stopped any number of times and
  destroyed.

Exceptions for want of memory are left out, and so is what a thread does; it counts
as running until a wait has seen it exit.
-/

namespace Task6

open Win32

namespace Win32

def errorAlreadyExists : DWORD := 183

end Win32

/-- What a call that gives out a handle answers: `none` is its value for a failure,
NULL or `INVALID_HANDLE_VALUE`. -/
structure HandleAnswer (HANDLE : Type) where
  hResult : Option HANDLE
  lastError : DWORD

/-- The threads of a server. -/
structure ServerThreads where
  waiterStarted : Bool
  waiterRuns : Bool
  workersRun : Nat
  deriving DecidableEq

namespace ServerThreads

def notStarted : ServerThreads := ⟨false, false, 0⟩

def startWaiter (t : ServerThreads) : ServerThreads :=
  { t with waiterStarted := true, waiterRuns := true }

def startWorker (t : ServerThreads) : ServerThreads := { t with workersRun := t.workersRun + 1 }

/-- Behind `WaitForSingleObject` on the waiter thread. -/
def waiterWaited (t : ServerThreads) (dwResult : DWORD) : ServerThreads :=
  { t with waiterRuns := t.waiterRuns && dwResult != waitObject0 }

/-- Behind `WaitForMultipleObjects` on all the `count` workers. -/
def workersWaited (t : ServerThreads) (count : Nat) (dwResult : DWORD) : ServerThreads :=
  { t with workersRun := if dwResult < count then 0 else t.workersRun }

end ServerThreads

/-- What Windows has given the process and got back. `existing` are the handles of
named objects that were there already. -/
structure Win32Process (HANDLE : Type) where
  opened : List HANDLE
  existing : List HANDLE
  closed : List HANDLE
  threads : ServerThreads

namespace Win32Process

variable {HANDLE : Type}

def start : Win32Process HANDLE := ⟨[], [], [], .notStarted⟩

def gives (w : Win32Process HANDLE) (handle : HANDLE) : Win32Process HANDLE :=
  { w with opened := w.opened ++ [handle] }

def givesExisting (w : Win32Process HANDLE) (handle : HANDLE) : Win32Process HANDLE :=
  { w with opened := w.opened ++ [handle], existing := w.existing ++ [handle] }

def close (w : Win32Process HANDLE) (handles : List HANDLE) : Win32Process HANDLE :=
  { w with closed := w.closed ++ handles }

def setThreads (w : Win32Process HANDLE) (threads : ServerThreads) : Win32Process HANDLE :=
  { w with threads := threads }

end Win32Process

variable {HANDLE S : Type} {n : Nat}

/-- A function of the program on the handles of the process. -/
abbrev Ctor (HANDLE α : Type) : Type := Prog (Win32Process HANDLE) Exn α

/-- `hResult = Create…(…); if (hResult == NULL) throw SystemException(GetLastError());` -/
def createHandle (a : HandleAnswer HANDLE) : Ctor HANDLE HANDLE :=
  match a.hResult with
  | none => throw (.system a.lastError)
  | some hResult => do
    modify fun w => w.gives hResult
    pure hResult

/-- The same of a named object, which must not be there already:
`if (hResult == NULL || GetLastError() == ERROR_ALREADY_EXISTS)`. -/
def createNamed (a : HandleAnswer HANDLE) : Ctor HANDLE HANDLE :=
  match a.hResult with
  | none => throw (.system a.lastError)
  | some hResult =>
    if a.lastError = errorAlreadyExists then do
      modify fun w => w.givesExisting hResult
      throw (.system a.lastError)
    else do
      modify fun w => w.gives hResult
      pure hResult

theorem perm_of_count {α : Type} {l l' : List α}
    (h : ∀ [DecidableEq α] (a : α), l.count a = l'.count a) : l.Perm l' := by
  classical
  exact List.perm_iff_count.mpr h

theorem RaiiHandle.close_eq (handle : Option HANDLE) : RaiiHandle.close handle = handle.toList := by
  cases handle <;> rfl

/-- A `RaiiHandle` member of objects that own `handles`. -/
structure RaiiMember (HANDLE S : Type) (handles : S → List HANDLE) where
  get : S → Option HANDLE
  set : S → Option HANDLE → S
  swaps : ∀ this held,
    (handles (set this held) ++ (get this).toList).Perm (handles this ++ held.toList)

namespace RaiiMember

variable {handles : S → List HANDLE}

/-- `this->member = hResult;` -/
def assign (m : RaiiMember HANDLE S handles) (hResult : HANDLE) :
    Prog (S × Win32Process HANDLE) Exn PUnit :=
  modify fun s =>
    let moved := RaiiHandle.moveAssign false (m.get s.1) (some hResult)
    (m.set s.1 moved.this, s.2.close moved.released)

/-- A handle is created and becomes the member's. -/
def adopt (m : RaiiMember HANDLE S handles) (create : Ctor HANDLE HANDLE) :
    Prog (S × Win32Process HANDLE) Exn PUnit := do
  let hResult ← Prog.onWorld create
  m.assign hResult

end RaiiMember

/-! ## `InPipeServer` -/

/-- The instances of an `InPipeServer` with their handles, in the order of their
construction. -/
structure InPipeServerObject (HANDLE : Type) (n : Nat) where
  hPipes : List HANDLE
  pipes : Fin n → Slot

structure InPipeServerAnswers (HANDLE : Type) where
  createNamedPipe : Nat → HandleAnswer HANDLE
  /-- Whether `CreateIoCompletionPort` answers the port it was given. -/
  associate : Nat → CallResult

namespace InPipeServer

def handles (this : InPipeServerObject HANDLE n) : List HANDLE := this.hPipes

def destroy (this : InPipeServerObject HANDLE n) (w : Win32Process HANDLE) :
    Option (Win32Process HANDLE) :=
  some (w.close this.hPipes)

/-- A turn of the loop of the constructor. -/
def createInstance (os : InPipeServerAnswers HANDLE) (i : Nat) :
    Prog (InPipeServerObject HANDLE n × Win32Process HANDLE) Exn PUnit := do
  let hPipe ← Prog.onWorld (createHandle (os.createNamedPipe i))
  if (os.associate i).bResult then
    modify fun s => ({ s.1 with hPipes := s.1.hPipes ++ [hPipe] }, s.2)
  else do
    -- pipeInst owns the handle and goes with the block
    modify fun s => (s.1, s.2.close [hPipe])
    throw (.system (os.associate i).lastError)

/-- The body of the constructor. -/
def fill (os : InPipeServerAnswers HANDLE) (hCompletionPort : Option HANDLE) :
    Prog (InPipeServerObject HANDLE n × Win32Process HANDLE) Exn PUnit :=
  if n < 1 then throw (.invalidArgument "max_clients must be greater than 0.")
  else if hCompletionPort.isNone then
    throw (.invalidArgument "The completion port handle must be valid.")
  else (List.range n).forM (createInstance os)

def construct (n : Nat) (os : InPipeServerAnswers HANDLE) (hCompletionPort : Option HANDLE) :
    Ctor HANDLE (InPipeServerObject HANDLE n) :=
  Prog.constructing ⟨[], fun i => Slot.create i⟩ destroy (fill os hCompletionPort)

end InPipeServer

/-! ## `InSharedMemoryServer` -/

structure InSharedMemoryServerObject (HANDLE : Type) where
  hSharedMemory : Option HANDLE
  hSvToClEvent : Option HANDLE
  hClToSvEvent : Option HANDLE
  hShutdownEvent : Option HANDLE
  hThread : Option HANDLE

structure InSharedMemoryServerAnswers (HANDLE : Type) where
  fileMapping : HandleAnswer HANDLE
  svToClEvent : HandleAnswer HANDLE
  clToSvEvent : HandleAnswer HANDLE
  shutdownEvent : HandleAnswer HANDLE
  thread : HandleAnswer HANDLE
  /-- `SetEvent(this->hSvToClEvent)` -/
  ready : CallResult

/-- The answers to the calls of the destructor. -/
structure WaiterStop where
  setEvent : Bool
  dwResult : DWORD

namespace InSharedMemoryServer

def create : InSharedMemoryServerObject HANDLE := ⟨none, none, none, none, none⟩

def handles (this : InSharedMemoryServerObject HANDLE) : List HANDLE :=
  this.hSharedMemory.toList ++ this.hSvToClEvent.toList ++ this.hClToSvEvent.toList
    ++ this.hShutdownEvent.toList ++ this.hThread.toList

def hSharedMemory : RaiiMember HANDLE (InSharedMemoryServerObject HANDLE) handles where
  get := fun this => this.hSharedMemory
  set := fun this held => { this with hSharedMemory := held }
  swaps := fun this held => perm_of_count fun h => by
    simp only [handles, List.count_append]
    omega

def hSvToClEvent : RaiiMember HANDLE (InSharedMemoryServerObject HANDLE) handles where
  get := fun this => this.hSvToClEvent
  set := fun this held => { this with hSvToClEvent := held }
  swaps := fun this held => perm_of_count fun h => by
    simp only [handles, List.count_append]
    omega

def hClToSvEvent : RaiiMember HANDLE (InSharedMemoryServerObject HANDLE) handles where
  get := fun this => this.hClToSvEvent
  set := fun this held => { this with hClToSvEvent := held }
  swaps := fun this held => perm_of_count fun h => by
    simp only [handles, List.count_append]
    omega

def hShutdownEvent : RaiiMember HANDLE (InSharedMemoryServerObject HANDLE) handles where
  get := fun this => this.hShutdownEvent
  set := fun this held => { this with hShutdownEvent := held }
  swaps := fun this held => perm_of_count fun h => by
    simp only [handles, List.count_append]
    omega

def hThread : RaiiMember HANDLE (InSharedMemoryServerObject HANDLE) handles where
  get := fun this => this.hThread
  set := fun this held => { this with hThread := held }
  swaps := fun this held => perm_of_count fun h => by
    simp only [handles, List.count_append]
    omega

/-- The members in the reverse order of their declaration. -/
def destroyMembers (this : InSharedMemoryServerObject HANDLE) (w : Win32Process HANDLE) :
    Option (Win32Process HANDLE) :=
  some (w.close (RaiiHandle.close this.hThread ++ RaiiHandle.close this.hShutdownEvent
    ++ RaiiHandle.close this.hClToSvEvent ++ RaiiHandle.close this.hSvToClEvent
    ++ RaiiHandle.close this.hSharedMemory))

theorem destroyMembers_perm (this : InSharedMemoryServerObject HANDLE) :
    (RaiiHandle.close this.hThread ++ RaiiHandle.close this.hShutdownEvent
      ++ RaiiHandle.close this.hClToSvEvent ++ RaiiHandle.close this.hSvToClEvent
      ++ RaiiHandle.close this.hSharedMemory).Perm (handles this) := by
  refine perm_of_count fun h => ?_
  simp only [handles, RaiiHandle.close_eq, List.count_append]
  omega

def startWaiter (a : HandleAnswer HANDLE) : Ctor HANDLE HANDLE := do
  let hResult ← createHandle a
  modify fun w => w.setThreads w.threads.startWaiter
  pure hResult

/-- The body of the constructor. -/
def fill (os : InSharedMemoryServerAnswers HANDLE) (hCompPort : Option HANDLE) :
    Prog (InSharedMemoryServerObject HANDLE × Win32Process HANDLE) Exn PUnit :=
  if hCompPort.isNone then throw (.invalidArgument "The completion port is invalid.")
  else do
    hSharedMemory.adopt (createNamed os.fileMapping)
    hSvToClEvent.adopt (createNamed os.svToClEvent)
    hClToSvEvent.adopt (createNamed os.clToSvEvent)
    hShutdownEvent.adopt (createHandle os.shutdownEvent)
    hThread.adopt (startWaiter os.thread)
    if os.ready.bResult then pure ⟨⟩ else throw (.system os.ready.lastError)

def construct (os : InSharedMemoryServerAnswers HANDLE) (hCompPort : Option HANDLE) :
    Ctor HANDLE (InSharedMemoryServerObject HANDLE) :=
  Prog.constructing create destroyMembers (fill os hCompPort)

/-- `~InSharedMemoryServer()` -/
def destroy (build : Build) (os : WaiterStop) (this : InSharedMemoryServerObject HANDLE)
    (w : Win32Process HANDLE) : Option (Win32Process HANDLE) :=
  if this.hThread.isSome then
    if build.asserts os.setEvent && build.asserts (os.dwResult == waitObject0) then
      destroyMembers this (w.setThreads (w.threads.waiterWaited os.dwResult))
    else none
  else destroyMembers this w

end InSharedMemoryServer

/-! ## `Task6Server` -/

structure Task6ServerObject (HANDLE : Type) (n : Nat) where
  hCompPort : Option HANDLE
  pipeServer : Option (InPipeServerObject HANDLE n)
  sharedMemServer : Option (InSharedMemoryServerObject HANDLE)
  workerThreads : List HANDLE
  hLogSem : Option HANDLE
  hShutdownEvent : Option HANDLE

/-- The answers to the calls of `stopAndWait`, and what `GetLastError` answers
behind it. -/
structure StopAnswers where
  setEvent : Bool
  post : Nat → Bool
  dwResult : DWORD
  lastError : DWORD

structure Task6ServerAnswers (HANDLE : Type) where
  iocp : HandleAnswer HANDLE
  pipeServer : InPipeServerAnswers HANDLE
  sharedMemServer : InSharedMemoryServerAnswers HANDLE
  logSem : HandleAnswer HANDLE
  connect : Nat → CallResult
  shutdownEvent : HandleAnswer HANDLE
  workerThread : Nat → HandleAnswer HANDLE
  /-- Of the call of `stopAndWait` in the constructor. -/
  stop : StopAnswers
  waiterStop : WaiterStop

namespace Task6Server

def create : Task6ServerObject HANDLE n := ⟨none, none, none, [], none, none⟩

def pipeHandles (this : Task6ServerObject HANDLE n) : List HANDLE :=
  (this.pipeServer.map InPipeServer.handles).getD []

def sharedMemHandles (this : Task6ServerObject HANDLE n) : List HANDLE :=
  (this.sharedMemServer.map InSharedMemoryServer.handles).getD []

def handles (this : Task6ServerObject HANDLE n) : List HANDLE :=
  this.hCompPort.toList ++ pipeHandles this ++ sharedMemHandles this ++ this.workerThreads
    ++ this.hLogSem.toList ++ this.hShutdownEvent.toList

def hCompPort : RaiiMember HANDLE (Task6ServerObject HANDLE n) handles where
  get := fun this => this.hCompPort
  set := fun this held => { this with hCompPort := held }
  swaps := fun this held => perm_of_count fun h => by
    simp only [handles, pipeHandles, sharedMemHandles, List.count_append]
    omega

def hLogSem : RaiiMember HANDLE (Task6ServerObject HANDLE n) handles where
  get := fun this => this.hLogSem
  set := fun this held => { this with hLogSem := held }
  swaps := fun this held => perm_of_count fun h => by
    simp only [handles, pipeHandles, sharedMemHandles, List.count_append]
    omega

def hShutdownEvent : RaiiMember HANDLE (Task6ServerObject HANDLE n) handles where
  get := fun this => this.hShutdownEvent
  set := fun this held => { this with hShutdownEvent := held }
  swaps := fun this held => perm_of_count fun h => by
    simp only [handles, pipeHandles, sharedMemHandles, List.count_append]
    omega

/-- The destructor is that of the members, in the reverse order of their
declaration. -/
def destroy (build : Build) (os : WaiterStop) (this : Task6ServerObject HANDLE n)
    (w : Win32Process HANDLE) : Option (Win32Process HANDLE) :=
  let w := w.close (RaiiHandle.close this.hShutdownEvent ++ RaiiHandle.close this.hLogSem
    ++ this.workerThreads)
  Option.map (fun w : Win32Process HANDLE =>
      w.close (pipeHandles this ++ RaiiHandle.close this.hCompPort)) <|
    match this.sharedMemServer with
    | none => some w
    | some server => InSharedMemoryServer.destroy build os server w

/-- `stopAndWait`; nothing resets the shutdown event. -/
def stopAndWait (build : Build) (os : StopAnswers) :
    Prog (Task6ServerObject HANDLE n × Win32Process HANDLE) Exn PUnit := do
  Prog.assert (build.asserts os.setEvent)
  let s ← get
  let count := s.1.workerThreads.length
  if count = 0 then pure ⟨⟩
  else do
    (List.range count).forM fun i => Prog.assert (build.asserts (os.post i))
    modify fun s => (s.1, s.2.setThreads (s.2.threads.workersWaited count os.dwResult))
    Prog.assert (build.asserts (decide (os.dwResult < count)))
    -- this->pipeServer = nullptr;
    modify fun s => ({ s.1 with pipeServer := none }, s.2.close (pipeHandles s.1))

/-- `this->pipeServer = std::make_unique<InPipeServer>(…);` -/
def makePipeServer (os : InPipeServerAnswers HANDLE) :
    Prog (Task6ServerObject HANDLE n × Win32Process HANDLE) Exn PUnit := do
  let s ← get
  let server ← Prog.onWorld (InPipeServer.construct n os s.1.hCompPort)
  modify fun s => ({ s.1 with pipeServer := some server }, s.2)

/-- `this->sharedMemServer = std::make_unique<InSharedMemoryServer>(…);` -/
def makeSharedMemServer (os : InSharedMemoryServerAnswers HANDLE) :
    Prog (Task6ServerObject HANDLE n × Win32Process HANDLE) Exn PUnit := do
  let s ← get
  let server ← Prog.onWorld (InSharedMemoryServer.construct os s.1.hCompPort)
  modify fun s => ({ s.1 with sharedMemServer := some server }, s.2)

/-- `this->pipeServer->connectInstance(i);` -/
def connectPipe (os : Nat → CallResult) (i : Fin n) :
    Prog (Task6ServerObject HANDLE n × Win32Process HANDLE) Exn PUnit := do
  let s ← get
  match s.1.pipeServer with
  | none => Prog.died
  | some server => do
    let out := InPipeServer.connectInstance server.pipes i (os i)
    modify fun s => ({ s.1 with pipeServer := some { server with pipes := out.2 } }, s.2)
    match out.1 with
    | .ok _ => pure ⟨⟩
    | .error ex => throw ex

/-- A turn of the last loop: a thread that cannot be started stops the others. -/
def startWorker (build : Build) (os : Task6ServerAnswers HANDLE) (i : Nat) :
    Prog (Task6ServerObject HANDLE n × Win32Process HANDLE) Exn PUnit :=
  match (os.workerThread i).hResult with
  | none => do
    stopAndWait build os.stop
    throw (.system os.stop.lastError)
  | some hResult =>
    modify fun s =>
      ({ s.1 with workerThreads := s.1.workerThreads ++ [hResult] },
        (s.2.gives hResult).setThreads s.2.threads.startWorker)

/-- The body of the constructor. -/
def fill (build : Build) (W : Nat) (os : Task6ServerAnswers HANDLE) :
    Prog (Task6ServerObject HANDLE n × Win32Process HANDLE) Exn PUnit := do
  hCompPort.adopt (createHandle os.iocp)
  makePipeServer os.pipeServer
  makeSharedMemServer os.sharedMemServer
  hLogSem.adopt (createHandle os.logSem)
  (List.finRange n).forM (connectPipe os.connect)
  hShutdownEvent.adopt (createHandle os.shutdownEvent)
  (List.range W).forM (startWorker build os)

/-- A server with `n` pipes and `W` worker threads. -/
def construct (build : Build) (n W : Nat) (os : Task6ServerAnswers HANDLE) :
    Ctor HANDLE (Task6ServerObject HANDLE n) :=
  Prog.constructing create (destroy build os.waiterStop) (fill build W os)

/-- A server is made, stopped once for each of `stops`, and destroyed. -/
def lifetime (build : Build) (n W : Nat) (os : Task6ServerAnswers HANDLE)
    (stops : List StopAnswers) : Ctor HANDLE PUnit := do
  let server ← construct build n W os
  Prog.withObject server (destroy build os.waiterStop) (stops.forM (stopAndWait build))

end Task6Server

end Task6
