import Task6.Win32
import Task6.Pipes.PipeState
import Mathlib.Logic.Function.Basic

/-!
# `InPipeServer`: the functions

The member functions of `InPipeServer` as the code computes them, each call
atomic under the instance's critical section. What Windows answers is an
argument (`CallResult`); what Windows does with a call is the `Slot`'s own
bookkeeping: an operation on the instance's OVERLAPPED is first `pending`, and
once it completes its packet is `queued` on the iocp.

The instances share nothing, so a member function is written for one `Slot` and
`atIndex` (the code's `pipes.at(index)`) applies it to the instance meant.
-/

namespace Task6

open Win32

/-- `AsyncResult::Operation`. -/
inductive Operation where
  | connect
  | read
  deriving DecidableEq, Repr

/-- `RaiiIndexedOverlapped`: an OVERLAPPED, known by its address, with an index
stored behind it. A pointer to it gives access to both. -/
structure RaiiIndexedOverlapped where
  address : Nat
  index : Nat
  deriving DecidableEq, Repr

/-- `RaiiIndexedOverlapped::indexFromOverlappedLp`: the index behind the
OVERLAPPED that is pointed to. -/
def indexFromOverlappedLp (lpOverlapped : RaiiIndexedOverlapped) : Nat := lpOverlapped.index

/-- `InPipeServer::PipeInstance`, without the handle and the lock. -/
structure PipeInstance where
  state : PipeState
  connReadOverlapped : RaiiIndexedOverlapped
  deriving DecidableEq, Repr

/-- An operation started on an OVERLAPPED. `kind` and `startedAt` (how many
disconnects of the instance succeeded before it) are ghosts: neither Windows nor
the program keeps them. -/
structure AsyncOp where
  kind : Operation
  lpOverlapped : RaiiIndexedOverlapped
  capacity : Nat
  startedAt : Nat
  deriving DecidableEq, Repr

/-- A completion packet: the operation, and what
`GetQueuedCompletionStatus` reports of it. -/
structure Packet where
  op : AsyncOp
  errorCode : DWORD
  bytesTransferred : Nat
  deriving DecidableEq, Repr

/-- `InPipeServer::AsyncResult`. -/
structure AsyncResult where
  instanceIndex : Nat
  operation : Operation
  errorCode : DWORD
  bytesTransferred : Nat
  newPipeState : PipeState
  bZombieOperation : Bool
  deriving DecidableEq, Repr

/-- An instance together with what Windows holds of it: the operations in
flight, the packets on the iocp, whether a client is connected. `disconnects`
counts the calls of `disconnectInstance` that returned. -/
structure Slot where
  inst : PipeInstance
  pending : List AsyncOp
  queued : List Packet
  connected : Bool
  disconnects : Nat
  deriving DecidableEq, Repr

namespace Slot

/-- A fresh `PipeInstance(hPipe, index)`. -/
def create (index : Nat) : Slot where
  inst := ⟨PipeState.unconnected, ⟨index, index⟩⟩
  pending := []
  queued := []
  connected := false
  disconnects := 0

def setState (slot : Slot) (state : PipeState) : Slot :=
  { slot with inst := { slot.inst with state := state } }

/-! ## The calls Windows answers -/

/-- A packet will come for a call with this result. A call that returns TRUE has
completed and still queues its packet; a read that fails with the *warning*
`ERROR_MORE_DATA` has transferred a part of a message and queues one too. -/
def queuesPacket (kind : Operation) (r : CallResult) : Bool :=
  r.bResult || r.lastError == errorIoPending ||
    (kind == .read && r.lastError == errorMoreData)

/-- The operation a call starts on the instance's OVERLAPPED, if any. -/
def issued (slot : Slot) (kind : Operation) (capacity : Nat) (r : CallResult) :
    List AsyncOp :=
  if queuesPacket kind r then
    [⟨kind, slot.inst.connReadOverlapped, capacity, slot.disconnects⟩]
  else []

def issue (slot : Slot) (kind : Operation) (capacity : Nat) (r : CallResult) : Slot :=
  { slot with pending := slot.pending ++ slot.issued kind capacity r }

def connectNamedPipe (slot : Slot) (r : CallResult) : Slot :=
  { slot.issue .connect 0 r with
    connected := slot.connected || r.bResult || r.lastError == errorPipeConnected }

/-- `ReadFile(..., (DWORD)size, ...)`. -/
def readFile (slot : Slot) (size : Nat) (r : CallResult) : Slot :=
  slot.issue .read (size % 2 ^ 32) r

def disconnectNamedPipe (slot : Slot) (r : CallResult) : Slot :=
  { slot with connected := slot.connected && !r.bResult }

/-! ## The member functions -/

/-- The guard of `connectInstance`. -/
def canConnect (slot : Slot) : Bool := slot.inst.state == PipeState.unconnected

def connectInstance (slot : Slot) (r : CallResult) : Except Exn Unit × Slot :=
  if !slot.canConnect then
    (.error (.logicError
      "The selected pipe must be unconnected before you try to connect it."), slot)
  else
    let slot := slot.connectNamedPipe r
    if r.bResult || (r.lastError != errorIoPending && r.lastError != errorPipeConnected) then
      (.error (.system r.lastError), slot)
    else
      (.ok (), slot.setState PipeState.unconnectedConnecting)

/-- The guard of `readInstance`. -/
def canRead (slot : Slot) : Bool :=
  let bConnected := slot.inst.state.carries PipeState.connected
  let bReading := slot.inst.state.carries PipeState.flagReading
  bConnected && !bReading

def readInstance (slot : Slot) (size : Nat) (r : CallResult) : Except Exn Unit × Slot :=
  if !slot.canRead then
    (.error (.logicError
      "The selected pipe must be connected and not reading when you try to begin reading from it."),
      slot)
  else
    let slot := slot.readFile size r
    if !r.bResult && r.lastError != errorIoPending then
      (.error (.system r.lastError), slot)
    else
      (.ok (), slot.setState (slot.inst.state ||| PipeState.flagReading))

/-- The `switch` of `service`; `r` answers `DisconnectNamedPipe`. In the
`_DISCONNECTING_CONNECTING` case the exception follows the call whatever its
result, and the state is left as it was. -/
def serviceSwitch (slot : Slot) (index : Nat) (bytesTransferred : Nat) (errorCode : DWORD)
    (r : CallResult) : Except Exn AsyncResult × Slot :=
  let state := slot.inst.state
  if state = PipeState.unconnectedConnecting then
    (.ok ⟨index, .connect, errorCode, 0, PipeState.connected, false⟩,
      slot.setState PipeState.connected)
  else if state = PipeState.connectedReading then
    (.ok ⟨index, .read, errorCode, bytesTransferred, PipeState.connected, false⟩,
      slot.setState PipeState.connected)
  else if state = PipeState.disconnectingConnecting then
    if errorCode = errorSuccess then
      (.error (.runtimeError "Cannot disconnect pipe."), slot.disconnectNamedPipe r)
    else
      (.ok ⟨index, .read, errorCode, 0, PipeState.unconnected, true⟩,
        slot.setState PipeState.unconnected)
  else if state = PipeState.disconnectingReading then
    (.ok ⟨index, .read, errorCode, bytesTransferred, PipeState.unconnected, true⟩,
      slot.setState PipeState.unconnected)
  else
    (.error (.runtimeError "Invalid pipe state."), slot)

/-- The end of `disconnectInstance`: mark the instance as disconnecting when it
has an operation underway. -/
def markDisconnected (slot : Slot) : Slot :=
  let allFlags := PipeState.flagConnecting ||| PipeState.flagReading ||| PipeState.flagWriting
  let pipeFlags := slot.inst.state &&& allFlags
  { slot.setState
      (if pipeFlags != 0#32 then PipeState.disconnecting ||| pipeFlags
        else PipeState.unconnected) with
    disconnects := slot.disconnects + 1 }

/-- `r` answers `DisconnectNamedPipe` or `CancelIoEx`, whichever is called. -/
def disconnectInstance (slot : Slot) (r : CallResult) : Except Exn Unit × Slot :=
  if slot.inst.state.carries PipeState.connected then
    let slot := slot.disconnectNamedPipe r
    if !r.bResult then (.error (.system r.lastError), slot)
    else (.ok (), slot.markDisconnected)
  else if slot.inst.state = PipeState.unconnectedConnecting then
    if !r.bResult then (.error (.system r.lastError), slot)
    else (.ok (), slot.markDisconnected)
  else
    (.error (.logicError "The specified pipe is not connected or connecting."), slot)

/-! ## What the calls change

A call may add one operation to those in flight and change the state of the
instance; the packets and the wiring of the instance are never touched. -/

/-- Nothing differs but the state, the connection, the operations in flight and
the count of disconnects. -/
structure Frame (slot slot' : Slot) : Prop where
  queued : slot'.queued = slot.queued
  overlapped : slot'.inst.connReadOverlapped = slot.inst.connReadOverlapped

section Effects

variable (slot : Slot) (r : CallResult)

theorem connectInstance_frame : Frame slot (slot.connectInstance r).2 := by
  unfold connectInstance
  dsimp only
  repeat' split
  all_goals exact ⟨rfl, rfl⟩

theorem connectInstance_pending : (slot.connectInstance r).2.pending =
    slot.pending ++ if slot.canConnect then slot.issued .connect 0 r else [] := by
  unfold connectInstance
  cases hc : slot.canConnect with
  | false => simp
  | true =>
    simp only [Bool.not_true, Bool.false_eq_true, ↓reduceIte]
    split <;> rfl

@[simp] theorem connectInstance_disconnects :
    (slot.connectInstance r).2.disconnects = slot.disconnects := by
  unfold connectInstance
  dsimp only
  repeat' split
  all_goals rfl

theorem readInstance_frame (size : Nat) : Frame slot (slot.readInstance size r).2 := by
  unfold readInstance
  dsimp only
  repeat' split
  all_goals exact ⟨rfl, rfl⟩

theorem readInstance_pending (size : Nat) : (slot.readInstance size r).2.pending =
    slot.pending ++ if slot.canRead then slot.issued .read (size % 2 ^ 32) r else [] := by
  unfold readInstance
  cases hc : slot.canRead with
  | false => simp
  | true =>
    simp only [Bool.not_true, Bool.false_eq_true, ↓reduceIte]
    split <;> rfl

@[simp] theorem readInstance_disconnects (size : Nat) :
    (slot.readInstance size r).2.disconnects = slot.disconnects := by
  unfold readInstance
  dsimp only
  repeat' split
  all_goals rfl

theorem disconnectInstance_frame : Frame slot (slot.disconnectInstance r).2 := by
  unfold disconnectInstance
  dsimp only
  repeat' split
  all_goals exact ⟨rfl, rfl⟩

@[simp] theorem disconnectInstance_pending :
    (slot.disconnectInstance r).2.pending = slot.pending := by
  unfold disconnectInstance
  dsimp only
  repeat' split
  all_goals rfl

variable (index bytesTransferred : Nat) (errorCode : DWORD)

theorem serviceSwitch_frame :
    Frame slot (slot.serviceSwitch index bytesTransferred errorCode r).2 := by
  unfold serviceSwitch
  dsimp only
  repeat' split
  all_goals exact ⟨rfl, rfl⟩

@[simp] theorem serviceSwitch_pending :
    (slot.serviceSwitch index bytesTransferred errorCode r).2.pending = slot.pending := by
  unfold serviceSwitch
  dsimp only
  repeat' split
  all_goals rfl

/-- A result is one of the instance, and says whether it goes on as a zombie. -/
theorem serviceSwitch_cases {slot : Slot} {r : CallResult} {index bytesTransferred : Nat}
    {errorCode : DWORD} {result : AsyncResult}
    (h : (slot.serviceSwitch index bytesTransferred errorCode r).1 = .ok result) :
    (∃ op count, result = ⟨index, op, errorCode, count, PipeState.connected, false⟩) ∨
      ∃ op count, result = ⟨index, op, errorCode, count, PipeState.unconnected, true⟩ := by
  unfold serviceSwitch at h
  dsimp only at h
  split at h
  · cases h
    exact .inl ⟨_, _, rfl⟩
  · split at h
    · cases h
      exact .inl ⟨_, _, rfl⟩
    · split at h
      · split at h
        · cases h
        · cases h
          exact .inr ⟨_, _, rfl⟩
      · split at h
        · cases h
          exact .inr ⟨_, _, rfl⟩
        · cases h

end Effects

end Slot

namespace InPipeServer

variable {n : Nat}

/-- `this->pipes.at(index)`: run a body on the instance meant, or throw. -/
def atIndex {α : Type} (pipes : Fin n → Slot) (index : Nat)
    (body : Slot → Except Exn α × Slot) : Except Exn α × (Fin n → Slot) :=
  if h : index < n then
    let out := body (pipes ⟨index, h⟩)
    (out.1, Function.update pipes ⟨index, h⟩ out.2)
  else
    (.error .outOfRange, pipes)

def connectInstance (pipes : Fin n → Slot) (index : Nat) (r : CallResult) :
    Except Exn Unit × (Fin n → Slot) :=
  atIndex pipes index fun slot => slot.connectInstance r

def readInstance (pipes : Fin n → Slot) (index size : Nat) (r : CallResult) :
    Except Exn Unit × (Fin n → Slot) :=
  atIndex pipes index fun slot => slot.readInstance size r

def disconnectInstance (pipes : Fin n → Slot) (index : Nat) (r : CallResult) :
    Except Exn Unit × (Fin n → Slot) :=
  atIndex pipes index fun slot => slot.disconnectInstance r

def service (pipes : Fin n → Slot) (lpOverlapped : Option RaiiIndexedOverlapped)
    (bytesTransferred : Nat) (errorCode : DWORD) (r : CallResult) :
    Except Exn AsyncResult × (Fin n → Slot) :=
  match lpOverlapped with
  | none => (.error (.invalidArgument "'lpOverlapped' cannot be null."), pipes)
  | some lp =>
    let index := indexFromOverlappedLp lp
    atIndex pipes index fun slot =>
      if lp.address ≠ slot.inst.connReadOverlapped.address then
        (.error (.invalidArgument "The given overlapped structure is not valid."), slot)
      else slot.serviceSwitch index bytesTransferred errorCode r

end InPipeServer

end Task6
