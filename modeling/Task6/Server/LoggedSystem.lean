import Task6.Server.MessageLog
import Task6.Server.Task6System
import Task6.Server.WorkerLog

/-!
# The server with its log

The whole server, with what its workers put into the log and the console takes out.
A line of `WorkerThreadProc` may leave its thread something to say; the thread does
nothing else before it has said it, and every call of `pushMessg` is made of the
lines of the `MessageLog`, so whatever the other threads do may come in between.

The text of a message is the content of the buffer when `pushMessg` is called, not
when the message was received. The last words of a worker come in front of its
`return`: a worker that has exited has said them.
-/

namespace Task6

open Win32 NulText

/-- The system's texts, and the numbers of the worker threads. -/
structure LogTexts (W : Nat) extends SystemTexts where
  threadId : Fin W → DWORD

namespace WorkerNews

/-- The arguments of `pushMessg` are evaluated: the buffer is read. -/
def evaluated {n : Nat} (pipeSvBuffers : Fin n → List Byte) : WorkerNews → WorkerNews
  | message index messg =>
    message index (if h : index < n then NulText.text (pipeSvBuffers ⟨index, h⟩) else messg)
  | news => news

end WorkerNews

/-- Why a worker leaves its loop. -/
def ExitReason.news (texts : SystemTexts) (lastError : DWORD) : ExitReason → List WorkerNews
  | .iocpFailed => [.iocpFailed ((Exn.system lastError).what texts), .shutdown]
  | .shutdownPacket | .shutdownEvent => [.shutdown]
  | .invalidPacket => [.invalidPacket]

/-- What comes of `service`. -/
def serviceNews (texts : SystemTexts) : Except Exn AsyncResult → WorkerNews
  | .ok result =>
    .operation result.errorCode result.bZombieOperation result.operation result.instanceIndex
  | .error ex => .caught (ex.what texts)

/-- What comes of `connectInstance` or `readInstance`. -/
def startNews (texts : SystemTexts) (began : WorkerNews) : Except Exn Unit → WorkerNews
  | .ok _ => began
  | .error ex => .caught (ex.what texts)

/-- The worker whose line it is. -/
def SystemEvent.worker {C W n : Nat} : SystemEvent C W n → Option (Fin W)
  | .dequeue v | .iocpFails v | .check v | .service v _ | .terminate v | .handle v
  | .restart v _ | .shared v _ => some v
  | .openPipe _ | .write _ _ | .closePipe _ | .connect _ _ | .complete _ _ | .abort _ _ _
  | .client _ _ | .waiterWake | .waiterFails | .waiterPost _ | .stop | .post
  | .waitReturns _ => none

namespace Task6System

variable {C W n : Nat}

/-- What the line leaves the worker to say. -/
def tells (texts : SystemTexts) (s : Task6System C W n) (lastError : DWORD) :
    SystemEvent C W n → List WorkerNews
  | .check v =>
    match s.workers v with
    | .checking dequeued =>
      match nextLine s.shutdownEvent dequeued with
      | .shared _ => [.sharedMemory]
      | _ => []
    | _ => []
  | .service v r =>
    match s.workers v with
    | .servicing packet =>
      [serviceNews texts (InPipeServer.service s.pipes (some packet.op.lpOverlapped)
        packet.bytesTransferred packet.errorCode r).1]
    | _ => []
  | .terminate v =>
    match s.workers v with
    | .pipeTask (.serviced result) =>
      if h : result.instanceIndex < n then
        if result.bytesTransferred < (s.pipeSvBuffers ⟨result.instanceIndex, h⟩).length then
          [.message result.instanceIndex []]
        else [.caught (Exn.outOfRange.what texts)]
      else [.caught (Exn.outOfRange.what texts)]
    | _ => []
  | .restart v r =>
    match s.workers v with
    | .pipeTask (.handled result) =>
      -- where there is no such buffer, there is no such instance either
      if result.newPipeState = PipeState.unconnected then
        [startNews texts (.reconnecting result.instanceIndex)
          (InPipeServer.connectInstance s.pipes result.instanceIndex r).1]
      else if result.newPipeState = PipeState.connected then
        [startNews texts (.reading result.instanceIndex)
          (InPipeServer.readInstance s.pipes result.instanceIndex readCapacity r).1]
      else []
    | _ => []
  | .shared _ (.map none) => [.caught ((Exn.system lastError).what texts)]
  | .shared v (.signal _) =>
    match s.workers v with
    | .shared (.signalling size sharedMemSize) =>
      if size < sharedMemSize then
        [.caught ((Exn.invalidArgument "Buffer is too small.").what texts)]
      else []
    | _ => []
  | _ => []

/-- The worker is about to leave its loop. -/
def leavesFor (s : Task6System C W n) (v : Fin W) : Option ExitReason :=
  match s.workers v with
  | .checking dequeued =>
    match nextLine s.shutdownEvent dequeued with
    | .exited reason _ => some reason
    | _ => none
  | _ => none

end Task6System

/-- The threads of the log are the workers and, last, that of the console. `saying`
is what a worker has yet to say, first of all what it is saying now; `leaving` says
that it is leaving its loop. `said` is a history: what has been put into the log,
by whom. -/
structure LoggedSystem (C W n : Nat) where
  system : Task6System C W n
  log : MessageLog (W + 1)
  saying : Fin W → List WorkerNews
  leaving : Fin W → Bool
  said : List (Fin W × WorkerNews)

/-- Whose line is next: one of the system, with what `GetLastError` answers in it,
one of a worker in `pushMessg`, or one of the console in `popMessg`. -/
inductive LoggedEvent (C W n : Nat) where
  | line (e : SystemEvent C W n) (lastError : DWORD)
  | leave (v : Fin W) (lastError : DWORD)
  | pushMessg (v : Fin W)
  | emplace (v : Fin W)
  | releaseSemaphore (v : Fin W)
  | popMessg (messg : String)
  | wait (dwResult lastError : DWORD)
  | pop

namespace LoggedSystem

variable {C W n : Nat}

def init (C W n : Nat) : LoggedSystem C W n where
  system := Task6System.init C W n
  log := MessageLog.init (W + 1)
  saying := fun _ => [.started]
  leaving := fun _ => false
  said := []

/-- The process runs. -/
def alive (s : LoggedSystem C W n) : Bool :=
  s.system.running && decide (∀ i, s.log.threads i ≠ .failed)

/-- The worker is not in `pushMessg`, and has nothing to push. -/
def silent (s : LoggedSystem C W n) (v : Fin W) : Bool :=
  (s.log.threads v.castSucc).isFree && (s.saying v).isEmpty

/-- The worker executes its next line; one that leaves its loop says so before. -/
def goesOn (s : LoggedSystem C W n) (v : Fin W) : Bool :=
  s.silent v && (s.leaving v || (s.system.leavesFor v).isNone)

/-- The thread of the line is there; that of the console waits in `popMessg` or stops
the server. -/
def ready (s : LoggedSystem C W n) : SystemEvent C W n → Bool
  | .client _ _ => true
  | .stop => s.alive && (s.log.threads (Fin.last W)).isFree
  | e => s.alive && e.worker.all s.goesOn

/-- A line of the log. -/
def logStep (build : Build) (s : LoggedSystem C W n) (e : LogEvent (W + 1)) :
    Option (LoggedSystem C W n) :=
  if s.alive then (s.log.step build e).map fun log => { s with log := log } else none

def setSaying (s : LoggedSystem C W n) (v : Fin W) (saying : List WorkerNews) :
    LoggedSystem C W n :=
  { s with saying := Function.update s.saying v saying }

/-- Behind its line the worker has something to say, unless the line was the last of
the process. -/
def behind (s : LoggedSystem C W n) (system : Task6System C W n) (e : SystemEvent C W n)
    (saying : List WorkerNews) : LoggedSystem C W n :=
  match e.worker with
  | some v => if system.running then { s.setSaying v saying with system := system }
    else { s with system := system }
  | none => { s with system := system }

def step (build : Build) (texts : LogTexts W) (s : LoggedSystem C W n) :
    LoggedEvent C W n → Option (LoggedSystem C W n)
  | .line e lastError =>
    if s.ready e then
      (s.system.step build e).map fun system =>
        s.behind system e (s.system.tells texts.toSystemTexts lastError e)
    else none
  | .leave v lastError =>
    if s.alive && s.silent v && !s.leaving v then
      (s.system.leavesFor v).map fun reason =>
        { s.setSaying v (reason.news texts.toSystemTexts lastError) with
          leaving := Function.update s.leaving v true }
    else none
  | .pushMessg v =>
    match s.saying v with
    | [] => none
    | news :: rest =>
      -- the threads are started behind the connect loop
      if s.system.connectLoop = n then
        let news := news.evaluated s.system.pipeSvBuffers
        (s.logStep build ⟨v.castSucc, .pushMessg (news.text (texts.threadId v))⟩).map fun s =>
          s.setSaying v (news :: rest)
      else none
  | .emplace v =>
    match s.saying v with
    | [] => none
    | news :: rest =>
      (s.logStep build ⟨v.castSucc, .emplace⟩).map fun s =>
        { s.setSaying v rest with said := s.said ++ [(v, news)] }
  | .releaseSemaphore v => s.logStep build ⟨v.castSucc, .releaseSemaphore⟩
  | .popMessg messg =>
    if s.system.connectLoop = n ∧
        (s.system.stopAndWait = .notCalled ∨ s.system.stopAndWait = .returned) then
      s.logStep build ⟨Fin.last W, .popMessg messg⟩
    else none
  | .wait dwResult lastError => s.logStep build ⟨Fin.last W, .wait dwResult lastError⟩
  | .pop => s.logStep build ⟨Fin.last W, .pop⟩

def machine (build : Build) (texts : LogTexts W) (C n : Nat) :
    Machine (LoggedSystem C W n) (LoggedEvent C W n) where
  init := init C W n
  step := step build texts

/-! ## What a step can be -/

/-- The action puts something into the log. -/
def pushes : LogAction → Bool
  | .pushMessg _ | .emplace => true
  | .releaseSemaphore | .popMessg _ | .wait _ _ | .pop => false

theorem logStep_some {build : Build} {s s' : LoggedSystem C W n} {e : LogEvent (W + 1)}
    (hs : s.logStep build e = some s') :
    ∃ log, s.log.step build e = some log ∧ s' = { s with log := log } := by
  obtain ⟨-, hs⟩ := Option.ite_none_right_eq_some.mp hs
  obtain ⟨log, hlog, rfl⟩ := Option.map_eq_some_iff.mp hs
  exact ⟨log, hlog, rfl⟩

theorem step_cases {build : Build} {texts : LogTexts W} {s s' : LoggedSystem C W n}
    {e : LoggedEvent C W n} (hs : step build texts s e = some s') :
    (∃ e' lastError system, s.ready e' = true ∧ s.system.step build e' = some system ∧
        s' = s.behind system e' (s.system.tells texts.toSystemTexts lastError e')) ∨
      (∃ v lastError reason, s.silent v = true ∧ s.leaving v = false ∧
        s.system.leavesFor v = some reason ∧
        s' = { s.setSaying v (reason.news texts.toSystemTexts lastError) with
          leaving := Function.update s.leaving v true }) ∨
      (∃ v news rest log, s.saying v = news :: rest ∧
        s.log.step build ⟨v.castSucc,
          .pushMessg ((news.evaluated s.system.pipeSvBuffers).text (texts.threadId v))⟩ =
            some log ∧
        s' = { s.setSaying v (news.evaluated s.system.pipeSvBuffers :: rest) with log := log }) ∨
      (∃ v news rest log, s.saying v = news :: rest ∧
        s.log.step build ⟨v.castSucc, .emplace⟩ = some log ∧
        s' = { s.setSaying v rest with log := log, said := s.said ++ [(v, news)] }) ∨
      ∃ e' log, pushes e'.action = false ∧ s.log.step build e' = some log ∧
        s' = { s with log := log } := by
  cases e with
  | line e lastError =>
    obtain ⟨hready, hs⟩ := Option.ite_none_right_eq_some.mp hs
    obtain ⟨system, hsystem, rfl⟩ := Option.map_eq_some_iff.mp hs
    exact .inl ⟨e, lastError, system, hready, hsystem, rfl⟩
  | leave v lastError =>
    obtain ⟨hguard, hs⟩ := Option.ite_none_right_eq_some.mp hs
    obtain ⟨reason, hreason, rfl⟩ := Option.map_eq_some_iff.mp hs
    simp only [Bool.and_eq_true, Bool.not_eq_true'] at hguard
    exact .inr (.inl ⟨v, lastError, reason, hguard.1.2, hguard.2, hreason, rfl⟩)
  | pushMessg v =>
    simp only [step] at hs
    split at hs
    · cases hs
    · rename_i news rest hsaying
      obtain ⟨-, hs⟩ := Option.ite_none_right_eq_some.mp hs
      obtain ⟨t, ht, rfl⟩ := Option.map_eq_some_iff.mp hs
      obtain ⟨log, hlog, rfl⟩ := logStep_some ht
      exact .inr (.inr (.inl ⟨v, news, rest, log, hsaying, hlog, rfl⟩))
  | emplace v =>
    simp only [step] at hs
    split at hs
    · cases hs
    · rename_i news rest hsaying
      obtain ⟨t, ht, rfl⟩ := Option.map_eq_some_iff.mp hs
      obtain ⟨log, hlog, rfl⟩ := logStep_some ht
      exact .inr (.inr (.inr (.inl ⟨v, news, rest, log, hsaying, hlog, rfl⟩)))
  | releaseSemaphore v =>
    obtain ⟨log, hlog, rfl⟩ := logStep_some hs
    exact .inr (.inr (.inr (.inr ⟨_, log, rfl, hlog, rfl⟩)))
  | popMessg messg =>
    obtain ⟨-, hs⟩ := Option.ite_none_right_eq_some.mp hs
    obtain ⟨log, hlog, rfl⟩ := logStep_some hs
    exact .inr (.inr (.inr (.inr ⟨_, log, rfl, hlog, rfl⟩)))
  | wait dwResult lastError =>
    obtain ⟨log, hlog, rfl⟩ := logStep_some hs
    exact .inr (.inr (.inr (.inr ⟨_, log, rfl, hlog, rfl⟩)))
  | pop =>
    obtain ⟨log, hlog, rfl⟩ := logStep_some hs
    exact .inr (.inr (.inr (.inr ⟨_, log, rfl, hlog, rfl⟩)))

/-- Behind a line of the system: the worker whose line it was has something to say, or
nobody has anything more. -/
theorem behind_cases (s : LoggedSystem C W n) (system : Task6System C W n)
    (e : SystemEvent C W n) (saying : List WorkerNews) :
    (e.worker = none ∨ system.running = false) ∧ s.behind system e saying =
        { s with system := system } ∨
      ∃ v, e.worker = some v ∧ system.running = true ∧ s.behind system e saying =
        { s.setSaying v saying with system := system } := by
  unfold behind
  cases e.worker with
  | none => exact .inl ⟨.inl rfl, rfl⟩
  | some v =>
    cases hrun : system.running with
    | false => exact .inl ⟨.inr rfl, by simp⟩
    | true => exact .inr ⟨v, rfl, rfl, by simp⟩

/-- A worker whose line is taken has nothing to say, and has said that it leaves its
loop if it does. -/
theorem goesOn_of_ready {s : LoggedSystem C W n} {e : SystemEvent C W n} {v : Fin W}
    (h : s.ready e = true) (he : e.worker = some v) : s.alive = true ∧ s.goesOn v = true := by
  have hguard : (s.alive && e.worker.all s.goesOn) = true := by
    cases e <;> first | (cases he; done) | exact h
  rw [he] at hguard
  exact Bool.and_eq_true_iff.mp hguard

end LoggedSystem

end Task6
