import Task6.CRuntime
import Task6.Library.Machine
import Task6.Pipes.PipeState

/-!
# `OutPipeClient`: the functions

The member functions of `OutPipeClient` as the code computes them, each call
atomic under the client's critical section. What Windows answers is an argument;
what Windows holds is the `OutPipe`'s own bookkeeping: the writes in flight, and
the OVERLAPPED, to which every write that finishes puts its outcome and whose
event it signals. A write that was pending when its handle was closed stays in
flight.

`GetOverlappedResult` is read off the OVERLAPPED. `ResetEvent` and `CloseHandle`
are assumed to succeed.
-/

namespace Task6

open Win32

namespace PipeState

def connectedWriting : PipeState := connected ||| flagWriting

end PipeState

/-- How an operation ended. -/
structure IoOutcome where
  errorCode : DWORD
  bytesTransferred : Nat
  deriving DecidableEq, Repr

/-- An OVERLAPPED with a manual-reset event: what is recorded of the operation
(nothing while it is pending), and the event. -/
structure Overlapped where
  recorded : Option IoOutcome
  signalled : Bool
  deriving DecidableEq, Repr

namespace Overlapped

/-- `RaiiOverlapped(true)`: all zero, the event not signalled. -/
def create : Overlapped := ⟨some ⟨errorSuccess, 0⟩, false⟩

/-- What `GetOverlappedResult` answers: its result, and the byte count. -/
structure Answer where
  call : CallResult
  bytesTransferred : Nat
  deriving DecidableEq, Repr

/-- `GetOverlappedResult(hPipe, &ol, &bytesTransferred, wait)`; `none` is a call
that blocks. -/
def getOverlappedResult (ol : Overlapped) (wait : Bool) : Option Answer :=
  match ol.recorded with
  | some outcome =>
    some ⟨⟨outcome.errorCode == errorSuccess, outcome.errorCode⟩, outcome.bytesTransferred⟩
  | none => if wait then none else some ⟨⟨false, errorIoIncomplete⟩, 0⟩

end Overlapped

/-- `OutPipeClient`, without the lock; no `hPipe` is `INVALID_HANDLE_VALUE`. -/
structure OutPipeClient where
  serverName : String
  hPipe : Option Nat
  state : PipeState
  writeOverlapped : Overlapped
  deriving DecidableEq, Repr

/-- `OutPipeClient::AsyncResult`, whose operation is always `WRITE`. -/
structure WriteReport where
  errorCode : DWORD
  bytesTransferred : Nat
  deriving DecidableEq, Repr

/-- A client with what Windows holds of it. Writes are numbered as they are
started, `started` is the number of the last. `last`, how that one ended, and
`reported`, whether `service` has returned true since, are ghosts. -/
structure OutPipe where
  client : OutPipeClient
  inFlight : List Nat
  started : Nat
  last : Option IoOutcome
  reported : Bool
  deriving DecidableEq, Repr

/-- The result that describes an outcome: the byte count goes with a success. -/
def IoOutcome.report (outcome : IoOutcome) : WriteReport :=
  ⟨outcome.errorCode, if outcome.errorCode = errorSuccess then outcome.bytesTransferred else 0⟩

namespace OutPipe

def create : OutPipe where
  client := ⟨"", none, PipeState.unconnected, Overlapped.create⟩
  inFlight := []
  started := 0
  last := none
  reported := false

def setState (p : OutPipe) (state : PipeState) : OutPipe :=
  { p with client := { p.client with state := state } }

def setOverlapped (p : OutPipe) (ol : Overlapped) : OutPipe :=
  { p with client := { p.client with writeOverlapped := ol } }

def resetEvent (p : OutPipe) : OutPipe :=
  p.setOverlapped { p.client.writeOverlapped with signalled := false }

/-! ## The calls Windows answers -/

/-- Windows has taken the write. -/
def accepts (r : CallResult) : Bool := r.bResult || r.lastError == errorIoPending

/-- `WriteFile(hPipe, buffer, (DWORD)size, NULL, &ol)`: finished at once, or
pending, or refused. -/
def writeFile (p : OutPipe) (size : Nat) (r : CallResult) : OutPipe :=
  if r.bResult then
    { p.setOverlapped ⟨some ⟨errorSuccess, size % 2 ^ 32⟩, true⟩ with
      started := p.started + 1
      last := some ⟨errorSuccess, size % 2 ^ 32⟩
      reported := false }
  else if r.lastError = errorIoPending then
    { p.setOverlapped ⟨none, false⟩ with
      inFlight := p.inFlight ++ [p.started + 1]
      started := p.started + 1
      last := none
      reported := false }
  else p

/-- The write at position `k` of those in flight finishes. -/
def finish (p : OutPipe) (k : Nat) (write : Nat) (outcome : IoOutcome) : OutPipe :=
  { p.setOverlapped ⟨some outcome, true⟩ with
    inFlight := p.inFlight.eraseIdx k
    last := if write = p.started then some outcome else p.last }

/-! ## The member functions -/

def pipePrefix : String := "\\\\.\\pipe\\"

/-- `r` answers `CreateFileA`: a handle, or the error. -/
def openPipe (p : OutPipe) (pipeName : String) (r : Except DWORD Nat) :
    Except Exn Unit × OutPipe :=
  if pipeName.toList.take pipePrefix.toList.length ≠ pipePrefix.toList then
    (.error (.invalidArgument "The pipe server name has an invalid prefix."), p)
  else if p.client.state ≠ PipeState.unconnected then
    (.error (.logicError
      "The client must be unconnected before connecting to a new server."), p)
  else
    match r with
    | .error lastError => (.error (.system lastError), p)
    | .ok hPipe =>
      (.ok (), { p with
        client := { p.client with hPipe := some hPipe, state := PipeState.connected } })

/-- The guard of `write`. -/
def canWrite (p : OutPipe) : Bool :=
  let bConnected := p.client.state.carries PipeState.connected
  let bWriting := p.client.state.carries PipeState.flagWriting
  bConnected && !bWriting

def write (p : OutPipe) (size : Nat) (r : CallResult) : Except Exn Unit × OutPipe :=
  if !p.canWrite then
    (.error (.logicError
      "The client must be connected and not writing when you try writing to the server."), p)
  else
    let p := p.writeFile size r
    if !r.bResult && r.lastError != errorIoPending then (.error (.system r.lastError), p)
    else (.ok (), p.setState (p.client.state ||| PipeState.flagWriting))

/-- What `service` does to the client when it returns true. -/
def serviced (p : OutPipe) : OutPipe :=
  { (p.setState (p.client.state &&& ~~~PipeState.flagWriting)).resetEvent with reported := true }

/-- `service(wait, result)`: the result when it returns true, nothing when it
returns false; `none` is a call that blocks. The source joins the state and the
flags with `|` in its guards, and compares the error of `GetOverlappedResult`
with `ERROR_IO_PENDING`. -/
def service (build : Build) (p : OutPipe) (wait : Bool) :
    Option (Outcome (Option WriteReport) × OutPipe) :=
  let bConnected := p.client.state ||| PipeState.connected != 0#32
  let bWriting := p.client.state ||| PipeState.flagWriting != 0#32
  if !bConnected || !bWriting then some (.returned none, p)
  else
    (p.client.writeOverlapped.getOverlappedResult wait).map fun r =>
      let bPending := r.call.bResult || r.call.lastError != errorIoPending
      if !bPending then (.returned none, p)
      else if !build.asserts p.client.writeOverlapped.signalled then (.died, p)
      else if r.call.bResult then
        (.returned (some ⟨errorSuccess, r.bytesTransferred⟩), p.serviced)
      else (.returned (some ⟨r.call.lastError, 0⟩), p.serviced)

def close (p : OutPipe) : OutPipe :=
  if p.client.state = PipeState.unconnected then p
  else
    { p with
      client := { p.client with serverName := "", hPipe := none, state := PipeState.unconnected }
      }.resetEvent

end OutPipe

/-! ## The calls, phase by phase -/

/-- What an `OutPipeClient` is doing. -/
inductive LinkPhase where
  | unconnected
  | connected
  | writing
  deriving DecidableEq, Repr

def LinkPhase.bits : LinkPhase → PipeState
  | unconnected => PipeState.unconnected
  | connected => PipeState.connected
  | writing => PipeState.connectedWriting

theorem LinkPhase.bits_inj {ph q : LinkPhase} : ph.bits = q.bits ↔ ph = q := by
  constructor
  · intro h
    cases ph <;> cases q <;> first | rfl | exact absurd h (by decide)
  · rintro rfl
    rfl

namespace OutPipe

/-- The bits of the client encode `ph`. -/
def InPhase (p : OutPipe) (ph : LinkPhase) : Prop := p.client.state = ph.bits

variable {p : OutPipe} {ph : LinkPhase}

theorem InPhase.state_eq_iff (h : p.InPhase ph) (q : LinkPhase) :
    p.client.state = q.bits ↔ ph = q := by
  rw [show p.client.state = ph.bits from h]
  exact LinkPhase.bits_inj

theorem InPhase.not_writing (ph : LinkPhase) (h : p.InPhase ph) (hidle : ph ≠ .writing) :
    ¬ p.InPhase .writing := by
  intro hw
  exact hidle ((h.state_eq_iff .writing).mp hw)

theorem canWrite_iff (h : p.InPhase ph) : p.canWrite = true ↔ ph = .connected := by
  unfold canWrite
  rw [h]
  cases ph <;> decide

/-- `open` connects an unconnected client, or does nothing. -/
theorem openPipe_cases (h : p.InPhase ph) (pipeName : String) (r : Except DWORD Nat) :
    ((∃ ex, (p.openPipe pipeName r).1 = .error ex) ∧ (p.openPipe pipeName r).2 = p) ∨
      ((p.openPipe pipeName r).1 = .ok () ∧ ph = .unconnected ∧ ∃ hPipe,
        (p.openPipe pipeName r).2 = { p with
          client := { p.client with hPipe := some hPipe, state := PipeState.connected } }) := by
  unfold openPipe
  split
  · exact .inl ⟨⟨_, rfl⟩, rfl⟩
  · split
    · exact .inl ⟨⟨_, rfl⟩, rfl⟩
    · rename_i hstate
      cases r with
      | error lastError => exact .inl ⟨⟨_, rfl⟩, rfl⟩
      | ok hPipe =>
        exact .inr ⟨rfl, (h.state_eq_iff .unconnected).mp (not_not.mp hstate), hPipe, rfl⟩

theorem write_notAllowed (h : p.canWrite = false) (size : Nat) (r : CallResult) :
    p.write size r = (.error (.logicError
      "The client must be connected and not writing when you try writing to the server."), p) := by
  unfold write
  rw [h]
  rfl

theorem write_refused (h : p.InPhase .connected) (size : Nat) {r : CallResult}
    (hacc : accepts r = false) : p.write size r = (.error (.system r.lastError), p) := by
  have hb : r.bResult = false ∧ r.lastError ≠ errorIoPending := by
    simpa [accepts] using hacc
  unfold write
  rw [(canWrite_iff h).mpr rfl]
  simp [writeFile, hb.1, hb.2]

theorem write_accepted (h : p.InPhase .connected) (size : Nat) {r : CallResult}
    (hacc : accepts r = true) :
    p.write size r = (.ok (), (p.writeFile size r).setState PipeState.connectedWriting) := by
  have hstate : (p.writeFile size r).client.state = LinkPhase.connected.bits := by
    unfold writeFile
    split
    · exact h
    · split <;> exact h
  have hb : ¬ (!r.bResult && r.lastError != errorIoPending) = true := by
    simp only [accepts, Bool.or_eq_true, beq_iff_eq] at hacc
    rcases hacc with hb | hb <;> simp [hb]
  unfold write
  rw [(canWrite_iff h).mpr rfl]
  simp only [Bool.not_true, Bool.false_eq_true, ↓reduceIte]
  rw [if_neg hb, hstate]
  rfl

/-- `write` starts a write that Windows takes, or does nothing. -/
theorem write_cases (h : p.InPhase ph) (size : Nat) (r : CallResult) :
    ((∃ ex, (p.write size r).1 = .error ex) ∧ (p.write size r).2 = p ∧
        (ph = .connected → accepts r = false)) ∨
      ((p.write size r).1 = .ok () ∧ ph = .connected ∧ accepts r = true ∧
        (p.write size r).2 = (p.writeFile size r).setState PipeState.connectedWriting) := by
  cases hc : p.canWrite with
  | false =>
    rw [write_notAllowed hc]
    refine .inl ⟨⟨_, rfl⟩, rfl, fun hph => ?_⟩
    rw [(canWrite_iff h).mpr hph] at hc
    cases hc
  | true =>
    have hconn := (canWrite_iff h).mp hc
    subst hconn
    cases hacc : accepts r with
    | false =>
      rw [write_refused h size hacc]
      exact .inl ⟨⟨_, rfl⟩, rfl, fun _ => rfl⟩
    | true =>
      rw [write_accepted h size hacc]
      exact .inr ⟨rfl, rfl, rfl, rfl⟩

theorem writeFile_started {size : Nat} {r : CallResult} (hacc : accepts r = true) :
    (p.writeFile size r).started = p.started + 1 := by
  unfold writeFile
  split
  · rfl
  · split
    · rfl
    · rename_i hb hp
      simp [accepts, hb, hp] at hacc

/-- The guards of `service` always let it through: it goes by the OVERLAPPED. -/
theorem service_eq (h : p.InPhase ph) (build : Build) (wait : Bool) :
    p.service build wait =
      (p.client.writeOverlapped.getOverlappedResult wait).map fun r =>
        if r.call.bResult = false ∧ r.call.lastError = errorIoPending then (.returned none, p)
        else if build.asserts p.client.writeOverlapped.signalled = false then (.died, p)
        else if r.call.bResult then
          (.returned (some ⟨errorSuccess, r.bytesTransferred⟩), p.serviced)
        else (.returned (some ⟨r.call.lastError, 0⟩), p.serviced) := by
  unfold service
  rw [show p.client.state = ph.bits from h]
  have hguard : (!(ph.bits ||| PipeState.connected != 0#32) ||
      !(ph.bits ||| PipeState.flagWriting != 0#32)) = false := by
    cases ph <;> decide
  simp [hguard]

theorem serviced_phase (h : p.InPhase ph) :
    p.serviced.InPhase (if ph = .writing then .connected else ph) := by
  show p.client.state &&& ~~~PipeState.flagWriting = _
  rw [show p.client.state = ph.bits from h]
  cases ph <;> decide

/-- Behind `service` the flag is gone. -/
theorem serviced_not_writing (h : p.InPhase ph) : ¬ p.serviced.InPhase .writing := by
  refine InPhase.not_writing _ (serviced_phase h) ?_
  split
  · simp
  · assumption

end OutPipe

/-! ## A client under any calls -/

/-- A client in use; `reports` counts the calls of `service` that returned true.
`died` is the end of the process. -/
structure OutPipeRun where
  pipe : OutPipe
  reports : Nat
  died : Bool
  deriving DecidableEq, Repr

inductive OutPipeCall where
  | openPipe (pipeName : String) (r : Except DWORD Nat)
  | write (size : Nat) (r : CallResult)
  | service (wait : Bool)
  | close
  | finish (k : Nat) (outcome : IoOutcome)

namespace OutPipeRun

def init : OutPipeRun := ⟨OutPipe.create, 0, false⟩

/-- The outcome of a `service` call, counted. -/
def afterService (s : OutPipeRun) (out : Outcome (Option WriteReport) × OutPipe) : OutPipeRun :=
  match out.1 with
  | .returned (some _) => ⟨out.2, s.reports + 1, false⟩
  | .returned none | .threw _ => ⟨out.2, s.reports, false⟩
  | .died => ⟨out.2, s.reports, true⟩

/-- A write in flight finishes with any outcome but `ERROR_IO_PENDING`. -/
def step (build : Build) (s : OutPipeRun) (c : OutPipeCall) : Option OutPipeRun :=
  if s.died then none
  else
    match c with
    | .openPipe pipeName r => some { s with pipe := (s.pipe.openPipe pipeName r).2 }
    | .write size r => some { s with pipe := (s.pipe.write size r).2 }
    | .service wait => (s.pipe.service build wait).map s.afterService
    | .close => some { s with pipe := s.pipe.close }
    | .finish k outcome =>
      if outcome.errorCode = errorIoPending then none
      else s.pipe.inFlight[k]?.map fun w => { s with pipe := s.pipe.finish k w outcome }

def machine (build : Build) : Machine OutPipeRun OutPipeCall := ⟨init, step build⟩

/-- What a call or a completion does to a run. -/
inductive Steps (build : Build) (s s' : OutPipeRun) : OutPipeCall → Prop where
  | openPipe (pipeName : String) (r : Except DWORD Nat)
      (h : s' = { s with pipe := (s.pipe.openPipe pipeName r).2 }) :
      Steps build s s' (.openPipe pipeName r)
  | write (size : Nat) (r : CallResult) (h : s' = { s with pipe := (s.pipe.write size r).2 }) :
      Steps build s s' (.write size r)
  | service (wait : Bool) (out : Outcome (Option WriteReport) × OutPipe)
      (hout : s.pipe.service build wait = some out) (h : s' = s.afterService out) :
      Steps build s s' (.service wait)
  | close (h : s' = { s with pipe := s.pipe.close }) : Steps build s s' .close
  | finish (k : Nat) (outcome : IoOutcome) (w : Nat) (hcode : outcome.errorCode ≠ errorIoPending)
      (hk : s.pipe.inFlight[k]? = some w) (h : s' = { s with pipe := s.pipe.finish k w outcome }) :
      Steps build s s' (.finish k outcome)

/-- The inversion of `step`. -/
theorem steps_of_step {build : Build} {s s' : OutPipeRun} {c : OutPipeCall}
    (hs : (machine build).step s c = some s') : Steps build s s' c := by
  have hs : step build s c = some s' := hs
  unfold step at hs
  split at hs
  · cases hs
  · cases c with
    | openPipe pipeName r => exact .openPipe pipeName r (Option.some.inj hs).symm
    | write size r => exact .write size r (Option.some.inj hs).symm
    | close => exact .close (Option.some.inj hs).symm
    | service wait =>
      obtain ⟨out, hout, hafter⟩ := Option.map_eq_some_iff.mp hs
      exact .service wait out hout hafter.symm
    | finish k outcome =>
      dsimp only at hs
      split at hs
      · cases hs
      · rename_i hcode
        obtain ⟨w, hk, hfinish⟩ := Option.map_eq_some_iff.mp hs
        exact .finish k outcome w hcode hk hfinish.symm

end OutPipeRun

end Task6
