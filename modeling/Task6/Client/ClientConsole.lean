import Task6.Client.Announcements
import Task6.Server.ServerConsole

/-!
# `ClientConsole::run`

The console loop of the client's `wmain` and the `Task6Client` it drives: one
start, then `wait` and `popMessg` in turn. Windows may finish the write between
any two lines.

`Session` is the abstract side: what a session has come to, and what there is then
to tell. Of the output only the messages popped are modelled.
-/

namespace Task6

open Win32 NulText

/-! ## The console -/

/-- The next line of `run`; `left` is behind an exception, `died` behind the end
of the process. -/
inductive ClientConsolePc where
  | choosing
  | startingPipe
  | startingSharedMemory
  | startingTimer
  | checkingTimer (timerStart : Int)
  | waiting (timerStart : Int)
  | popping (timerStart : Int)
  | prompting
  | returned
  | left (ex : Exn)
  | died
  deriving DecidableEq, Repr

/-- `run` at work: the variable `command`, what the transport was handed, and the
messages printed. -/
structure ClientConsole where
  pc : ClientConsolePc
  command : Char
  client : Task6Client
  sent : List (List Byte)
  printed : List String
  deriving DecidableEq, Repr

/-- What decides a step: what is read as a command (nothing at the end of the
input), the clock, Windows' answers inside the calls, and a write that
finishes. -/
inductive ClientConsoleEvent where
  | command (c : Option Char)
  | startPipe (os : StartPipeAnswers)
  | startSharedMemory (os : OpenAnswers)
  | time (now : Int)
  | wait (os : WaitCallAnswers)
  | popMessg
  | finish (k : Nat) (outcome : IoOutcome)

def unknownCommand : Exn := .runtimeError "Unknown command."

namespace ClientConsole

def init : ClientConsole := ⟨.choosing, Char.ofNat 0, Task6Client.create, [], []⟩

/-- `std::cin >> command`, which leaves the variable alone when it fails. -/
def readCommand (s : ClientConsole) (c : Option Char) : ClientConsole :=
  { s with command := c.getD s.command }

def throwing (s : ClientConsole) (ex : Exn) : ClientConsole := { s with pc := .left ex }

/-- Behind the first question. -/
def choose (s : ClientConsole) : ClientConsole :=
  if s.command = '1' then { s with pc := .startingPipe }
  else if s.command = '2' then { s with pc := .startingSharedMemory }
  else s.throwing unknownCommand

def afterStart (s : ClientConsole) (r : ClientResult Unit) : ClientConsole :=
  let s := { s with client := r.client, sent := s.sent ++ r.sent }
  match r.outcome with
  | .returned _ => { s with pc := .startingTimer }
  | .threw ex => s.throwing ex
  | .died => { s with pc := .died }

def afterWait (s : ClientConsole) (timerStart : Int) (r : ClientResult Bool) : ClientConsole :=
  let s := { s with client := r.client, sent := s.sent ++ r.sent }
  match r.outcome with
  | .returned bReady => { s with pc := if bReady then .popping timerStart else .prompting }
  | .threw ex => s.throwing ex
  | .died => { s with pc := .died }

/-- One turn of the inner `while`. -/
def popOne (s : ClientConsole) (timerStart : Int) : ClientConsole :=
  match s.client.popMessg with
  | (some messg, client) => { s with client := client, printed := s.printed ++ [messg] }
  | (none, client) => { s with client := client, pc := .checkingTimer timerStart }

/-- Behind the last question. -/
def goOn (s : ClientConsole) : ClientConsole :=
  if s.command = '0' then { s with pc := .returned }
  else if s.command = '1' then { s with pc := .startingTimer }
  else s.throwing unknownCommand

/-- `run` has a line to execute. -/
def running : ClientConsolePc → Bool
  | .returned | .left _ | .died => false
  | _ => true

def step (build : Build) (s : ClientConsole) (e : ClientConsoleEvent) : Option ClientConsole :=
  match s.pc, e with
  | .choosing, .command c => some (s.readCommand c).choose
  | .startingPipe, .startPipe os => some (s.afterStart (s.client.startPipe build os))
  | .startingSharedMemory, .startSharedMemory os =>
    some (s.afterStart (s.client.startSharedMemory os))
  | .startingTimer, .time now => some { s with pc := .checkingTimer now }
  | .checkingTimer timerStart, .time now =>
    some { s with
      pc := if ServerConsole.popTimeout timerStart now < 0 then .prompting
        else .waiting timerStart }
  | .waiting timerStart, .wait os =>
    if ClientRun.mayAnswer s.client os then
      some (s.afterWait timerStart (s.client.wait build os))
    else none
  | .popping timerStart, .popMessg => some (s.popOne timerStart)
  | .prompting, .command c => some (s.readCommand c).goOn
  | pc, .finish k outcome =>
    if running pc = false ∨ outcome.errorCode = errorIoPending then none
    else
      s.client.pipeClient.bind fun pipe => pipe.inFlight[k]?.map fun w =>
        { s with client := { s.client with pipeClient := some (pipe.finish k w outcome) } }
  | _, _ => none

def machine (build : Build) : Machine ClientConsole ClientConsoleEvent := ⟨init, step build⟩

end ClientConsole

/-! ## The session -/

/-- What a session has come to. A pipe session has the single write of its start,
which ends with an outcome and is then reported; a shared memory session tries
until the message is sent. -/
inductive Session where
  | unstarted
  | pipe (outcome : Option IoOutcome) (reported : Bool)
  | sharedMemory (timeouts : Nat) (sent : Bool)
  deriving DecidableEq, Repr

namespace Session

/-- The write of a pipe session was reported, successful or not; the message of a
shared memory session was sent. -/
def announced : Session → Bool
  | unstarted => false
  | pipe _ reported => reported
  | sharedMemory _ sent => sent

/-- The line about the write of a pipe session. -/
def reportLines (outcome : Option IoOutcome) (reported : Bool) : List String :=
  if reported then (outcome.map fun outcome => Task6Client.reportText outcome.report).toList
  else []

/-- All there is to tell. -/
def lines : Session → List String
  | unstarted => []
  | pipe outcome reported =>
    "Client has started as a pipe client." :: reportLines outcome reported
  | sharedMemory timeouts sent =>
    "Client has started as a shared memory client." ::
      List.replicate timeouts
        "Timeout while trying to send the data to the shared memory server." ++
      if sent then ["Client sent the data to the shared memorey server."] else []

/-- What the transport was handed. -/
def messages : Session → List (List Byte)
  | unstarted => []
  | pipe _ _ => [helloWorld]
  | sharedMemory _ sent => if sent then [helloWorld] else []

/-- What the user has seen while the program waits or asks. -/
def seen (session : Session) : List String := if session.announced then session.lines else []

end Session

/-- The pipe client of a session. -/
def OutPipe.single (hPipe : Nat) (outcome : Option IoOutcome) (reported : Bool) : OutPipe where
  client :=
    { serverName := ""
      hPipe := some hPipe
      state := if reported then PipeState.connected else PipeState.connectedWriting
      writeOverlapped := ⟨outcome, outcome.isSome && !reported⟩ }
  inFlight := if outcome.isSome then [] else [1]
  started := 1
  last := outcome
  reported := reported

/-- The client is in the session. -/
def Session.Of : Session → Task6Client → Prop
  | .unstarted, c => c.log = []
  | .pipe outcome reported, c =>
    (∃ hPipe, c.pipeClient = some (OutPipe.single hPipe outcome reported)) ∧
      (reported = true → outcome.isSome = true) ∧
      ∀ o, outcome = some o → o.errorCode ≠ errorIoPending
  | .sharedMemory _ sent, c =>
    c.pipeClient = none ∧ c.sharedMemClient.isSome = true ∧ c.bDataSent = sent

/-! ## The single write -/

namespace OutPipe

theorem sending_eq (hPipe : Nat) {r : CallResult} (hacc : accepts r = true) :
    ∃ outcome, sending hPipe r = single hPipe outcome false ∧
      ∀ o, outcome = some o → o.errorCode ≠ errorIoPending := by
  unfold sending writeFile
  split
  · refine ⟨some ⟨errorSuccess, helloWorld.length % 2 ^ 32⟩, rfl, ?_⟩
    rintro o ⟨⟩
    exact (by decide : errorSuccess ≠ errorIoPending)
  · split
    · exact ⟨none, rfl, fun o h => by cases h⟩
    · rename_i hb hp
      simp [accepts, hb, hp] at hacc

variable {hPipe : Nat} {outcome : Option IoOutcome} {reported : Bool}

/-- Only a write in flight can finish. -/
theorem finish_single {k w : Nat} (hreported : reported = true → outcome.isSome = true)
    (hk : (single hPipe outcome reported).inFlight[k]? = some w) (o : IoOutcome) :
    outcome = none ∧ reported = false ∧
      (single hPipe outcome reported).finish k w o = single hPipe (some o) false := by
  cases outcome with
  | some o' => cases hk
  | none =>
    have hfalse : reported = false := by
      cases reported with
      | false => rfl
      | true => cases hreported rfl
    subst hfalse
    cases k with
    | succ k => cases hk
    | zero =>
      cases hk
      exact ⟨rfl, rfl, rfl⟩

/-- The event is that of a write that has finished and has not been reported. -/
theorem signalled_single :
    (single hPipe outcome reported).client.writeOverlapped.signalled = true ↔
      (∃ o, outcome = some o) ∧ reported = false := by
  cases outcome <;> cases reported <;> simp [single]

theorem service_single (build : Build) {o : IoOutcome} (hcode : o.errorCode ≠ errorIoPending) :
    (single hPipe (some o) false).service build false =
      some (.returned (some o.report), single hPipe (some o) true) := by
  have hcoherent : (single hPipe (some o) false).Coherent :=
    { phase := ⟨.writing, rfl⟩
      fresh := fun _ => rfl
      signalled := fun _ _ => rfl
      pending := fun h => by cases h
      recorded := fun o' h => by
        cases h
        exact hcode }
  have hstate : PipeState.connectedWriting &&& ~~~PipeState.flagWriting = PipeState.connected := by
    decide
  have hserviced : (single hPipe (some o) false).serviced = single hPipe (some o) true := by
    simp [serviced, single, setState, resetEvent, setOverlapped, hstate]
  have hsig : (single hPipe (some o) false).client.writeOverlapped.signalled = true := rfl
  rw [service_recorded hcoherent build false (show _ = some o from rfl), hsig,
    Build.asserts_true, if_pos rfl, hserviced]

end OutPipe

end Task6
