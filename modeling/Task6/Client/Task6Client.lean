import Task6.Client.WriteReports
import Task6.ControllerOptions
import Task6.SharedMemory.Transfer

/-!
# `Task6Client`: the functions

The member functions of `Task6Client` as the code computes them. A client that
has started holds an `OutPipeClient` or an `OutSharedMemoryClient`; what Windows
answers to the calls inside is an argument. The timeouts are not: they show in
the answers.

`stop` destroys the `OutPipeClient`, with its OVERLAPPED and its event; a write
in flight then has nobody left to tell.
-/

namespace Task6

open Win32 NulText

/-- `"Hello world!"`. -/
def helloWorld : List Byte := [72, 101, 108, 108, 111, 32, 119, 111, 114, 108, 100, 33]

/-- `OutSharedMemoryClient`, without its handles. -/
structure OutSharedMemoryClient where
  serverName : String
  svToClEventName : String
  clToSvEventName : String
  deriving DecidableEq, Repr

/-- Windows' answers to `OpenFileMappingA` and the two `OpenEventA`. -/
structure OpenAnswers where
  mapping : CallResult
  svToCl : CallResult
  clToSv : CallResult
  deriving DecidableEq, Repr

/-- The constructor of `OutSharedMemoryClient`. -/
def OutSharedMemoryClient.create (serverName svToClEventName clToSvEventName : String)
    (os : OpenAnswers) : Except Exn OutSharedMemoryClient :=
  if !os.mapping.bResult then .error (.system os.mapping.lastError)
  else if !os.svToCl.bResult then .error (.system os.svToCl.lastError)
  else if !os.clToSv.bResult then .error (.system os.clToSv.lastError)
  else .ok ⟨serverName, svToClEventName, clToSvEventName⟩

structure Task6Client where
  pipeClient : Option OutPipe
  sharedMemClient : Option OutSharedMemoryClient
  dataBuff : Option (List Byte)
  bDataSent : Bool
  log : List String
  deriving DecidableEq, Repr

/-- How a call ends, the client after it, and the messages it has handed to a
transport. -/
structure ClientResult (α : Type) where
  outcome : Outcome α
  client : Task6Client
  sent : List (List Byte)

/-- Windows' answers inside `startPipe`: to the `CreateEventA` of the
`OutPipeClient`, to `CreateFileA` and to `WriteFile`. -/
structure StartPipeAnswers where
  created : Except DWORD Unit
  opened : Except DWORD Nat
  written : CallResult

/-- Windows' answers inside `wait`: to the wait for the event of the pipe client,
or inside `writeData`, which finds `memory` in the mapping. -/
structure WaitCallAnswers where
  event : WaitResult
  write : WriteAnswers
  memory : List Byte

namespace Task6Client

def create : Task6Client := ⟨none, none, none, false, []⟩

/-- The guard of the two starts. -/
def hasStarted (c : Task6Client) : Bool := c.pipeClient.isSome || c.sharedMemClient.isSome

def pushMessg (c : Task6Client) (messg : String) : Task6Client := { c with log := c.log ++ [messg] }

/-- `getDataToSend`: the `size` bytes at `buffer`. -/
def getDataToSend (build : Build) (c : Task6Client) : Option (List Byte × Task6Client) :=
  match c.dataBuff with
  | some buff => some (text buff, c)
  | none =>
    (strcpyS build (List.replicate dataBufferSize 0) dataBufferSize (helloWorld ++ [0])).map
      fun buff => (text buff, { c with dataBuff := some buff })

def startPipe (build : Build) (os : StartPipeAnswers) (c : Task6Client) : ClientResult Unit :=
  if c.hasStarted then ⟨.threw (.runtimeError "The client has already started."), c, []⟩
  else
    match os.created with
    | .error lastError => ⟨.threw (.system lastError), c, []⟩
    | .ok _ =>
      match OutPipe.create.openPipe task6PipeServerName os.opened with
      | (.error ex, pipe) => ⟨.threw ex, { c with pipeClient := some pipe }, []⟩
      | (.ok _, pipe) =>
        match getDataToSend build { c with pipeClient := some pipe } with
        | none => ⟨.died, { c with pipeClient := some pipe }, []⟩
        | some (data, c) =>
          match pipe.write data.length os.written with
          | (.error ex, pipe) => ⟨.threw ex, { c with pipeClient := some pipe }, []⟩
          | (.ok _, pipe) =>
            ⟨.returned (), { c with pipeClient := some pipe }.pushMessg
              "Client has started as a pipe client.", [data]⟩

def startSharedMemory (os : OpenAnswers) (c : Task6Client) : ClientResult Unit :=
  if c.hasStarted then ⟨.threw (.runtimeError "The client has already started."), c, []⟩
  else
    match OutSharedMemoryClient.create task6SharedMemoryName task6SharedMemorySvToClEventName
        task6SharedMemoryClToSvEventName os with
    | .error ex => ⟨.threw ex, c, []⟩
    | .ok client =>
      ⟨.returned (), { c with sharedMemClient := some client }.pushMessg
        "Client has started as a shared memory client.", []⟩

def stop (c : Task6Client) : Task6Client := { c with pipeClient := none }

/-- The log line about a write that was reported. -/
def reportText (result : WriteReport) : String :=
  let opType := if result.errorCode = errorSuccess then "successful"
    else "failed (" ++ toString result.errorCode ++ ")"
  let bytesTr := if result.errorCode = errorSuccess
    then " with " ++ toString result.bytesTransferred ++ " bytes transferred" else ""
  "The " ++ opType ++ " write operation completed" ++ bytesTr ++ "."

/-- `wait` of a pipe client, behind `WaitForSingleObject`. -/
def waitPipe (build : Build) (c : Task6Client) (pipe : OutPipe) : ClientResult Bool :=
  match pipe.service build false with
  | none => ⟨.died, c, []⟩ -- `service(false)` does not block
  | some (.returned (some result), pipe) =>
    ⟨.returned true, { c with pipeClient := some pipe }.pushMessg (reportText result), []⟩
  | some (.returned none, pipe) =>
    ⟨.threw (.runtimeError "service method should be successful"),
      { c with pipeClient := some pipe }, []⟩
  | some (.threw ex, pipe) => ⟨.threw ex, { c with pipeClient := some pipe }, []⟩
  | some (.died, pipe) => ⟨.died, { c with pipeClient := some pipe }, []⟩

/-- `wait` of a shared memory client; with nothing to send it is a `Sleep`. -/
def waitSharedMemory (build : Build) (os : WaitCallAnswers) (c : Task6Client) :
    ClientResult Bool :=
  if c.bDataSent then ⟨.returned false, c, []⟩
  else
    match getDataToSend build c with
    | none => ⟨.died, c, []⟩
    | some (data, c) =>
      match (writeData build os.write os.memory data).outcome with
      | .returned true =>
        ⟨.returned true, { c with bDataSent := true }.pushMessg
          "Client sent the data to the shared memorey server.", [data]⟩
      | .returned false =>
        ⟨.returned false, c.pushMessg
          "Timeout while trying to send the data to the shared memory server.", []⟩
      | .threw ex => ⟨.threw ex, c, []⟩
      | .died => ⟨.died, c, []⟩

def wait (build : Build) (os : WaitCallAnswers) (c : Task6Client) : ClientResult Bool :=
  match c.pipeClient with
  | some pipe =>
    if os.event = .object0 then c.waitPipe build pipe else ⟨.returned false, c, []⟩
  | none =>
    match c.sharedMemClient with
    | some _ => waitSharedMemory build os c
    | none => ⟨.threw (.runtimeError "Client not started."), c, []⟩

/-- `popMessg(messg)`: the message, when it returns true. -/
def popMessg (c : Task6Client) : Option String × Task6Client :=
  match c.log with
  | [] => (none, c)
  | messg :: rest => (some messg, { c with log := rest })

end Task6Client

/-! ## The calls, case by case -/

/-- A cached buffer holds the text. -/
def Task6Client.DataReady (c : Task6Client) : Prop :=
  ∀ buff, c.dataBuff = some buff → text buff = helloWorld

theorem dataReady_some {buff : List Byte} (h : text buff = helloWorld) :
    ∀ b, some buff = some b → text b = helloWorld := by
  rintro b ⟨⟩
  exact h

/-- A pipe client behind a successful `open`. -/
def OutPipe.linked (hPipe : Nat) : OutPipe :=
  { OutPipe.create with
    client := ⟨"", some hPipe, PipeState.connected, Overlapped.create⟩ }

/-- A pipe client behind a successful `write`. -/
def OutPipe.sending (hPipe : Nat) (r : CallResult) : OutPipe :=
  ((OutPipe.linked hPipe).writeFile helloWorld.length r).setState PipeState.connectedWriting

theorem OutSharedMemoryClient.create_error {serverName svToClEventName clToSvEventName : String}
    {os : OpenAnswers} {ex : Exn}
    (h : create serverName svToClEventName clToSvEventName os = .error ex) :
    ∃ lastError, ex = .system lastError := by
  unfold create at h
  split at h
  · cases h
    exact ⟨_, rfl⟩
  · split at h
    · cases h
      exact ⟨_, rfl⟩
    · split at h
      · cases h
        exact ⟨_, rfl⟩
      · cases h

namespace Task6Client

variable {c : Task6Client}

theorem getDataToSend_eq (build : Build) (h : c.DataReady) :
    ∃ buff, getDataToSend build c = some (helloWorld, { c with dataBuff := some buff }) ∧
      text buff = helloWorld := by
  unfold getDataToSend
  cases hbuff : c.dataBuff with
  | some buff =>
    have htext := h buff hbuff
    refine ⟨buff, ?_, htext⟩
    dsimp only
    rw [htext, ← hbuff]
  | none =>
    have hnul : (0 : Byte) ∉ helloWorld := by decide
    have hcopy := @strcpyS_terminated helloWorld [] hnul dataBufferSize (by decide) build
      (List.replicate dataBufferSize 0)
    have htext := text_append_zero hnul
      (build.strcpyRest (List.replicate dataBufferSize 0) dataBufferSize (helloWorld.length + 1))
    refine ⟨_, ?_, htext⟩
    dsimp only
    rw [hcopy, Option.map_some, htext]

theorem openPipe_create (r : Except DWORD Nat) :
    OutPipe.create.openPipe task6PipeServerName r = match r with
      | .error lastError => (.error (.system lastError), OutPipe.create)
      | .ok hPipe => (.ok (), OutPipe.linked hPipe) := by
  cases r <;> rfl

/-- `startPipe` of a client that has not started. It is the `pipeClient` that
says so, and it is there from the constructor on. -/
theorem startPipe_spec (build : Build) (os : StartPipeAnswers) (hdata : c.DataReady)
    (hstarted : c.hasStarted = false) :
    ∃ buff, text buff = helloWorld ∧ c.startPipe build os =
      match os.created, os.opened with
      | .error lastError, _ => ⟨.threw (.system lastError), c, []⟩
      | .ok _, .error lastError =>
        ⟨.threw (.system lastError), { c with pipeClient := some OutPipe.create }, []⟩
      | .ok _, .ok hPipe =>
        if OutPipe.accepts os.written then
          ⟨.returned (), { c with
              pipeClient := some (OutPipe.sending hPipe os.written)
              dataBuff := some buff }.pushMessg "Client has started as a pipe client.",
            [helloWorld]⟩
        else
          ⟨.threw (.system os.written.lastError), { c with
              pipeClient := some (OutPipe.linked hPipe)
              dataBuff := some buff }, []⟩ := by
  have hdata' : ∀ pipe, ({ c with pipeClient := pipe } : Task6Client).DataReady :=
    fun _ => hdata
  cases hcreated : os.created with
  | error lastError =>
    obtain ⟨buff, -, htext⟩ := getDataToSend_eq build hdata
    refine ⟨buff, htext, ?_⟩
    unfold startPipe
    rw [if_neg (by simp [hstarted]), hcreated]
  | ok u =>
    cases hopened : os.opened with
    | error lastError =>
      obtain ⟨buff, -, htext⟩ := getDataToSend_eq build hdata
      refine ⟨buff, htext, ?_⟩
      unfold startPipe
      rw [if_neg (by simp [hstarted]), hcreated, openPipe_create, hopened]
    | ok hPipe =>
      obtain ⟨buff, hget, htext⟩ := getDataToSend_eq build (hdata' (some (OutPipe.linked hPipe)))
      refine ⟨buff, htext, ?_⟩
      unfold startPipe
      rw [if_neg (by simp [hstarted]), hcreated, openPipe_create, hopened]
      dsimp only
      rw [hget]
      dsimp only
      cases hacc : OutPipe.accepts os.written with
      | false =>
        rw [OutPipe.write_refused (p := OutPipe.linked hPipe) rfl _ hacc]
        rfl
      | true =>
        rw [OutPipe.write_accepted (p := OutPipe.linked hPipe) rfl _ hacc]
        rfl

/-- `startSharedMemory` of a client that has not started. -/
theorem startSharedMemory_spec (os : OpenAnswers) (hstarted : c.hasStarted = false) :
    c.startSharedMemory os =
      match OutSharedMemoryClient.create task6SharedMemoryName task6SharedMemorySvToClEventName
          task6SharedMemoryClToSvEventName os with
      | .error ex => ⟨.threw ex, c, []⟩
      | .ok client =>
        ⟨.returned (), { c with sharedMemClient := some client }.pushMessg
          "Client has started as a shared memory client.", []⟩ := by
  unfold startSharedMemory
  rw [if_neg (by simp [hstarted])]

/-- A start of a client that has started. -/
theorem startPipe_refused (build : Build) (os : StartPipeAnswers)
    (hstarted : c.hasStarted = true) :
    c.startPipe build os =
      ⟨.threw (.runtimeError "The client has already started."), c, []⟩ := by
  unfold startPipe
  rw [if_pos hstarted]

theorem startSharedMemory_refused (os : OpenAnswers) (hstarted : c.hasStarted = true) :
    c.startSharedMemory os =
      ⟨.threw (.runtimeError "The client has already started."), c, []⟩ := by
  unfold startSharedMemory
  rw [if_pos hstarted]

theorem wait_pipe (build : Build) (os : WaitCallAnswers) {pipe : OutPipe}
    (hpipe : c.pipeClient = some pipe) :
    c.wait build os =
      if os.event = .object0 then c.waitPipe build pipe else ⟨.returned false, c, []⟩ := by
  unfold wait
  rw [hpipe]

theorem wait_sharedMemory (build : Build) (os : WaitCallAnswers)
    {client : OutSharedMemoryClient} (hpipe : c.pipeClient = none)
    (hshared : c.sharedMemClient = some client) :
    c.wait build os = waitSharedMemory build os c := by
  unfold wait
  rw [hpipe, hshared]

/-- `wait` of a pipe client touches the pipe client and the log, and sends
nothing. -/
theorem wait_pipe_client (build : Build) (os : WaitCallAnswers) {pipe : OutPipe}
    (hpipe : c.pipeClient = some pipe) :
    ∃ pipe' log, (c.wait build os).client = { c with pipeClient := some pipe', log := log } ∧
      (c.wait build os).sent = [] := by
  have hsame : c = { c with pipeClient := some pipe } := by rw [← hpipe]
  rw [wait_pipe build os hpipe]
  split
  · unfold waitPipe
    split
    · exact ⟨pipe, c.log, hsame, rfl⟩
    · exact ⟨_, _, rfl, rfl⟩
    · exact ⟨_, _, rfl, rfl⟩
    · exact ⟨_, _, rfl, rfl⟩
    · exact ⟨_, _, rfl, rfl⟩
  · exact ⟨pipe, c.log, hsame, rfl⟩

/-- `wait` of a shared memory client that still has its message to send. -/
theorem waitSharedMemory_spec (build : Build) (os : WaitCallAnswers) (hdata : c.DataReady)
    (hsent : c.bDataSent = false) :
    ∃ buff, text buff = helloWorld ∧ waitSharedMemory build os c =
      match (writeData build os.write os.memory helloWorld).outcome with
      | .returned true =>
        ⟨.returned true, { c with dataBuff := some buff, bDataSent := true }.pushMessg
          "Client sent the data to the shared memorey server.", [helloWorld]⟩
      | .returned false =>
        ⟨.returned false, { c with dataBuff := some buff }.pushMessg
          "Timeout while trying to send the data to the shared memory server.", []⟩
      | .threw ex => ⟨.threw ex, { c with dataBuff := some buff }, []⟩
      | .died => ⟨.died, { c with dataBuff := some buff }, []⟩ := by
  obtain ⟨buff, hget, htext⟩ := getDataToSend_eq build hdata
  refine ⟨buff, htext, ?_⟩
  unfold waitSharedMemory
  rw [if_neg (by simp [hsent]), hget]

/-- `wait` of a shared memory client touches the buffer, the flag and the log. -/
theorem wait_sharedMemory_client (build : Build) (os : WaitCallAnswers) (hdata : c.DataReady)
    {client : OutSharedMemoryClient} (hpipe : c.pipeClient = none)
    (hshared : c.sharedMemClient = some client) :
    ∃ buff sent log, (∀ b, buff = some b → text b = helloWorld) ∧
      (c.wait build os).client = { c with dataBuff := buff, bDataSent := sent, log := log } := by
  rw [wait_sharedMemory build os hpipe hshared]
  cases hsent : c.bDataSent with
  | true =>
    unfold waitSharedMemory
    rw [if_pos hsent]
    exact ⟨c.dataBuff, true, c.log, hdata, by rw [← hsent]⟩
  | false =>
    obtain ⟨buff, htext, heq⟩ := waitSharedMemory_spec build os hdata hsent
    have hready := dataReady_some htext
    rw [heq]
    split
    · exact ⟨_, _, _, hready, rfl⟩
    · exact ⟨_, _, _, hready, rfl⟩
    · exact ⟨_, _, _, hready, rfl⟩
    · exact ⟨_, _, _, hready, rfl⟩

theorem popMessg_client (c : Task6Client) : ∃ log, c.popMessg.2 = { c with log := log } := by
  unfold popMessg
  split
  · exact ⟨_, rfl⟩
  · exact ⟨_, rfl⟩

/-- `wait` of a client that has not started. -/
theorem wait_notStarted (build : Build) (os : WaitCallAnswers) (hstarted : c.hasStarted = false) :
    c.wait build os = ⟨.threw (.runtimeError "Client not started."), c, []⟩ := by
  obtain ⟨hpipe, hshared⟩ := Bool.or_eq_false_iff.mp hstarted
  unfold wait
  rw [Option.isSome_eq_false_iff.mp hpipe |> Option.isNone_iff_eq_none.mp,
    Option.isSome_eq_false_iff.mp hshared |> Option.isNone_iff_eq_none.mp]

end Task6Client

/-! ## A client under any calls -/

inductive ClientEvent where
  | startPipe (os : StartPipeAnswers)
  | startSharedMemory (os : OpenAnswers)
  | stop
  | wait (os : WaitCallAnswers)
  | popMessg
  | finish (k : Nat) (outcome : IoOutcome)

/-- A client in use. `starts` counts the starts that returned, `announced` the
calls of `wait` that returned true; `died` is the end of the process. -/
structure ClientRun where
  client : Task6Client
  starts : Nat
  announced : Nat
  died : Bool

namespace ClientRun

def init : ClientRun := ⟨Task6Client.create, 0, 0, false⟩

def afterStart (s : ClientRun) (r : ClientResult Unit) : ClientRun :=
  match r.outcome with
  | .returned _ => { s with client := r.client, starts := s.starts + 1 }
  | .threw _ => { s with client := r.client }
  | .died => { s with client := r.client, died := true }

def afterWait (s : ClientRun) (r : ClientResult Bool) : ClientRun :=
  match r.outcome with
  | .returned true => { s with client := r.client, announced := s.announced + 1 }
  | .returned false | .threw _ => { s with client := r.client }
  | .died => { s with client := r.client, died := true }

/-- The wait for the event of a pipe client is satisfied only when the event is
signalled. -/
def mayAnswer (c : Task6Client) (os : WaitCallAnswers) : Bool :=
  match c.pipeClient with
  | some pipe => decide (os.event ≠ .object0) || pipe.client.writeOverlapped.signalled
  | none => true

def step (build : Build) (s : ClientRun) (e : ClientEvent) : Option ClientRun :=
  if s.died then none
  else
    match e with
    | .startPipe os => some (s.afterStart (s.client.startPipe build os))
    | .startSharedMemory os => some (s.afterStart (s.client.startSharedMemory os))
    | .stop => some { s with client := s.client.stop }
    | .wait os =>
      if mayAnswer s.client os then some (s.afterWait (s.client.wait build os)) else none
    | .popMessg => some { s with client := s.client.popMessg.2 }
    | .finish k outcome =>
      if outcome.errorCode = errorIoPending then none
      else
        s.client.pipeClient.bind fun pipe => pipe.inFlight[k]?.map fun w =>
          { s with client := { s.client with pipeClient := some (pipe.finish k w outcome) } }

def machine (build : Build) : Machine ClientRun ClientEvent := ⟨init, step build⟩

/-- What an event does to a run. -/
inductive Steps (build : Build) (s s' : ClientRun) : ClientEvent → Prop where
  | startPipe (os : StartPipeAnswers) (h : s' = s.afterStart (s.client.startPipe build os)) :
      Steps build s s' (.startPipe os)
  | startSharedMemory (os : OpenAnswers) (h : s' = s.afterStart (s.client.startSharedMemory os)) :
      Steps build s s' (.startSharedMemory os)
  | stop (h : s' = { s with client := s.client.stop }) : Steps build s s' .stop
  | wait (os : WaitCallAnswers) (hmay : mayAnswer s.client os = true)
      (h : s' = s.afterWait (s.client.wait build os)) : Steps build s s' (.wait os)
  | popMessg (h : s' = { s with client := s.client.popMessg.2 }) : Steps build s s' .popMessg
  | finish (k : Nat) (outcome : IoOutcome) (pipe : OutPipe) (w : Nat)
      (hcode : outcome.errorCode ≠ errorIoPending) (hpipe : s.client.pipeClient = some pipe)
      (hk : pipe.inFlight[k]? = some w)
      (h : s' = { s with
        client := { s.client with pipeClient := some (pipe.finish k w outcome) } }) :
      Steps build s s' (.finish k outcome)

/-- The inversion of `step`: the process is alive, and the event does its part. -/
theorem steps_of_step {build : Build} {s s' : ClientRun} {e : ClientEvent}
    (hs : (machine build).step s e = some s') : s.died = false ∧ Steps build s s' e := by
  have hs : step build s e = some s' := hs
  unfold step at hs
  split at hs
  · cases hs
  · rename_i hdied
    refine ⟨Bool.eq_false_iff.mpr hdied, ?_⟩
    cases e with
    | startPipe os => exact .startPipe os (Option.some.inj hs).symm
    | startSharedMemory os => exact .startSharedMemory os (Option.some.inj hs).symm
    | stop => exact .stop (Option.some.inj hs).symm
    | popMessg => exact .popMessg (Option.some.inj hs).symm
    | wait os =>
      dsimp only at hs
      split at hs
      · rename_i hmay
        exact .wait os hmay (Option.some.inj hs).symm
      · cases hs
    | finish k outcome =>
      dsimp only at hs
      split at hs
      · cases hs
      · rename_i hcode
        obtain ⟨pipe, hpipe, hw⟩ := Option.bind_eq_some_iff.mp hs
        obtain ⟨w, hk, hfinish⟩ := Option.map_eq_some_iff.mp hw
        exact .finish k outcome pipe w hcode hpipe hk hfinish.symm

end ClientRun

end Task6
