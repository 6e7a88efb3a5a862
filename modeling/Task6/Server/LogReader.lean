import Task6.Server.LoggedSystem

/-!
# Reading what a worker has said

Somebody who reads the lines of one worker thread in the log knows where the thread
is: `ThreadLog.reader` follows them, and gets stuck at a line that no thread puts
there. `Turn` is what a line of `WorkerThreadProc` makes of its worker together with
what it leaves it to say (`worker_turn`), and `reads_turn` that the reader keeps up.
-/

namespace Task6

open Win32

/-- What the lines of a worker show of it. -/
inductive ThreadLog where
  | fresh
  | atPort
  | reported (errorCode : DWORD) (zombie : Bool) (op : Operation) (index : Nat)
  | received (index : Nat)
  | failing
  | ended
  deriving DecidableEq

namespace ThreadLog

/-- The operation was the receipt of a message. -/
def hasMessage (errorCode : DWORD) (zombie : Bool) (op : Operation) : Bool :=
  op == .read && errorCode == errorSuccess && !zombie

/-- One more line. Behind the report of an operation comes the message, if it was
one, and then the start of the next operation of the same pipe, a connect behind a
zombie and a read behind any other; or an exception. -/
def next : ThreadLog → WorkerNews → Option ThreadLog
  | fresh, .started => some atPort
  | atPort, .operation errorCode zombie op index => some (reported errorCode zombie op index)
  | atPort, .sharedMemory => some atPort
  | atPort, .caught _ => some atPort
  | atPort, .iocpFailed _ => some failing
  | atPort, .shutdown => some ended
  | atPort, .invalidPacket => some ended
  | failing, .shutdown => some ended
  | reported errorCode zombie op index, .message index' _ =>
    if index' = index ∧ hasMessage errorCode zombie op = true then some (received index) else none
  | reported _ zombie _ index, .reconnecting index' =>
    if index' = index ∧ zombie = true then some atPort else none
  | reported errorCode zombie op index, .reading index' =>
    if index' = index ∧ zombie = false ∧ hasMessage errorCode zombie op = false then some atPort
    else none
  | reported _ _ _ _, .caught _ => some atPort
  | received index, .reading index' => if index' = index then some atPort else none
  | received _, .caught _ => some atPort
  | _, _ => none

def reader : Machine ThreadLog WorkerNews where
  init := fresh
  step := next

/-- The text of a message is not looked at. -/
theorem next_evaluated {n : Nat} (q : ThreadLog) (news : WorkerNews)
    (pipeSvBuffers : Fin n → List Byte) : q.next (news.evaluated pipeSvBuffers) = q.next news := by
  cases news <;> cases q <;> rfl

/-- Behind the last line there is none. -/
theorem exec_ended {news : List WorkerNews} {q : ThreadLog} (h : reader.exec ended news = some q) :
    news = [] ∧ q = ended := by
  cases news with
  | nil => exact ⟨rfl, (Option.some.inj h).symm⟩
  | cons first rest =>
    obtain ⟨q', hq', -⟩ := Machine.exec_cons_some.mp h
    cases first <;> cases hq'

end ThreadLog

/-! ## What a line leaves to say -/

/-- The result tells how the pipe goes on: a zombie is to be connected, any other to
be read from. -/
def AsyncResult.Coherent (result : AsyncResult) : Prop :=
  result.newPipeState =
    if result.bZombieOperation then PipeState.unconnected else PipeState.connected

theorem AsyncResult.Coherent.zombie_iff {result : AsyncResult} (hc : result.Coherent) :
    result.newPipeState = PipeState.unconnected ↔ result.bZombieOperation = true := by
  constructor
  · intro hstate
    by_contra hz
    exact absurd (hstate.symm.trans (hc.trans (if_neg hz))) (by decide)
  · intro hz
    exact hc.trans (if_pos hz)

theorem AsyncResult.Coherent.normal_iff {result : AsyncResult} (hc : result.Coherent) :
    result.newPipeState = PipeState.connected ↔ result.bZombieOperation = false := by
  constructor
  · intro hstate
    by_contra hz
    exact absurd (hstate.symm.trans (hc.trans (if_pos (by simpa using hz)))) (by decide)
  · intro hz
    exact hc.trans (if_neg (by simp [hz]))

theorem Slot.serviceSwitch_coherent {slot : Slot} {index bytesTransferred : Nat}
    {errorCode : DWORD} {r : CallResult} {result : AsyncResult}
    (h : (slot.serviceSwitch index bytesTransferred errorCode r).1 = .ok result) :
    result.Coherent := by
  rcases serviceSwitch_cases h with ⟨op, count, rfl⟩ | ⟨op, count, rfl⟩
  · rfl
  · rfl

theorem InPipeServer.service_coherent {n : Nat} {pipes : Fin n → Slot}
    {lp : Option RaiiIndexedOverlapped} {bytesTransferred : Nat} {errorCode : DWORD}
    {r : CallResult} {result : AsyncResult}
    (h : (service pipes lp bytesTransferred errorCode r).1 = .ok result) : result.Coherent := by
  unfold service at h
  split at h
  · cases h
  · dsimp only [atIndex] at h
    split at h
    · split at h
      · cases h
      · exact Slot.serviceSwitch_coherent h
    · cases h

/-- What a line makes of its worker, and what it leaves it to say. -/
inductive Turn (texts : SystemTexts) (shutdownEvent : Bool) :
    WorkerLine → List WorkerNews → WorkerLine → Prop
  | dequeue (dequeued : Option IocpEntry) :
    Turn texts shutdownEvent .blocked [] (.checking dequeued)
  | check (dequeued : Option IocpEntry) :
    Turn texts shutdownEvent (.checking dequeued)
      (match Task6System.nextLine shutdownEvent dequeued with
        | .shared _ => [.sharedMemory]
        | _ => [])
      (Task6System.nextLine shutdownEvent dequeued)
  | serviced (packet : Packet) {result : AsyncResult} (h : result.Coherent) :
    Turn texts shutdownEvent (.servicing packet) [serviceNews texts (.ok result)]
      (.pipeTask (.ofResult result))
  | threw (packet : Packet) (ex : Exn) :
    Turn texts shutdownEvent (.servicing packet) [serviceNews texts (.error ex)] .blocked
  | terminated (result : AsyncResult) :
    Turn texts shutdownEvent (.pipeTask (.serviced result)) [.message result.instanceIndex []]
      (.pipeTask (.terminated result))
  | outOfRange (result : AsyncResult) :
    Turn texts shutdownEvent (.pipeTask (.serviced result)) [.caught (Exn.outOfRange.what texts)]
      .blocked
  | handled (result : AsyncResult) :
    Turn texts shutdownEvent (.pipeTask (.terminated result)) [] (.pipeTask (.handled result))
  | reconnecting {result : AsyncResult} (h : result.newPipeState = PipeState.unconnected)
      (out : Except Exn Unit) :
    Turn texts shutdownEvent (.pipeTask (.handled result))
      [startNews texts (.reconnecting result.instanceIndex) out] .blocked
  | reading {result : AsyncResult} (h : result.newPipeState = PipeState.connected)
      (out : Except Exn Unit) :
    Turn texts shutdownEvent (.pipeTask (.handled result))
      [startNews texts (.reading result.instanceIndex) out] .blocked
  | idle {result : AsyncResult} (hu : result.newPipeState ≠ PipeState.unconnected)
      (hc : result.newPipeState ≠ PipeState.connected) :
    Turn texts shutdownEvent (.pipeTask (.handled result)) [] .blocked
  | branch (pc pc' : WorkerPc) : Turn texts shutdownEvent (.shared pc) [] (.ofPc pc')
  | branchThrew (pc pc' : WorkerPc) (what : String) :
    Turn texts shutdownEvent (.shared pc) [.caught what] (.ofPc pc')

section Turns

variable {texts : SystemTexts} {shutdownEvent : Bool} {line line' : WorkerLine}
  {saying : List WorkerNews}

/-- Only the test of the loop leads out of it, and with nothing more to say. -/
theorem Turn.of_exited (h : Turn texts shutdownEvent line saying line') {reason : ExitReason}
    {dequeued : Option IocpEntry} (hexit : line' = .exited reason dequeued) :
    ∃ dequeued', line = .checking dequeued' ∧
      Task6System.nextLine shutdownEvent dequeued' = .exited reason dequeued ∧ saying = [] := by
  cases h with
  | check dequeued' =>
    refine ⟨dequeued', rfl, hexit, ?_⟩
    rw [hexit]
  | branch pc pc' | branchThrew pc pc' what => cases pc' <;> cases hexit
  | dequeue _ | serviced _ _ | threw _ _ | terminated _ | outOfRange _ | handled _
  | reconnecting _ _ | reading _ _ | idle _ _ => cases hexit

/-- What the test of the loop leads to. -/
theorem Turn.of_checking {dequeued : Option IocpEntry}
    (h : Turn texts shutdownEvent (.checking dequeued) saying line') :
    line' = Task6System.nextLine shutdownEvent dequeued := by
  cases h
  rfl

/-- A worker that has exited has no next line. -/
theorem Turn.not_exited (h : Turn texts shutdownEvent line saying line') :
    line.hasExited = false := by
  cases h <;> rfl

end Turns

namespace Task6System

variable {C W n : Nat} {build : Build} {texts : SystemTexts} {s s' : Task6System C W n}

/-- The worker takes its turn; the process ends with it only in the branch of the
shared memory server. -/
structure TakesTurn (texts : SystemTexts) (s s' : Task6System C W n) (v : Fin W)
    (saying : List WorkerNews) (line : WorkerLine) : Prop where
  workers : s'.workers = Function.update s.workers v line
  shutdownEvent : s'.shutdownEvent = s.shutdownEvent
  turn : Turn texts s.shutdownEvent (s.workers v) saying line
  running : s'.running = s.running ∨ ∃ pc pc', s.workers v = .shared pc ∧ line = .ofPc pc'

theorem TakesTurn.of_eq {v : Fin W} {saying : List WorkerNews} {line line' : WorkerLine}
    (hline : s.workers v = line) (ht : Turn texts s.shutdownEvent line saying line')
    (hworkers : s'.workers = Function.update s.workers v line')
    (hevent : s'.shutdownEvent = s.shutdownEvent) (hrun : s'.running = s.running) :
    TakesTurn texts s s' v saying line' :=
  ⟨hworkers, hevent, hline ▸ ht, .inl hrun⟩

theorem turn_worker {v : Fin W} {e : SystemEvent C W n} (he : e.worker = some v)
    (hs : s.workerStep e = some s') (lastError : DWORD) :
    ∃ line, TakesTurn texts s s' v (s.tells texts lastError e) line := by
  cases e with
  | dequeue u =>
    cases he
    simp only [workerStep] at hs
    split at hs
    · rename_i hpc hiocp
      obtain ⟨-, hs⟩ := Option.ite_none_right_eq_some.mp hs
      cases hs
      exact ⟨_, .of_eq hpc (.dequeue _) rfl rfl rfl⟩
    · cases hs
  | iocpFails u =>
    cases he
    simp only [workerStep] at hs
    split at hs
    · rename_i hpc
      obtain ⟨-, hs⟩ := Option.ite_none_right_eq_some.mp hs
      cases hs
      exact ⟨_, .of_eq hpc (.dequeue _) rfl rfl rfl⟩
    · cases hs
  | check u =>
    cases he
    simp only [workerStep] at hs
    split at hs
    · rename_i dequeued hpc
      cases hs
      simp only [tells, hpc]
      exact ⟨_, .of_eq hpc (.check dequeued) rfl rfl rfl⟩
    · cases hs
  | service u r =>
    cases he
    simp only [workerStep] at hs
    split at hs
    · rename_i packet hpc
      cases hs
      simp only [tells, hpc]
      cases hout : (InPipeServer.service s.pipes (some packet.op.lpOverlapped)
          packet.bytesTransferred packet.errorCode r).1 with
      | ok result =>
        exact ⟨_, .of_eq hpc (.serviced packet (InPipeServer.service_coherent hout)) rfl rfl rfl⟩
      | error ex => exact ⟨_, .of_eq hpc (.threw packet ex) rfl rfl rfl⟩
    · cases hs
  | terminate u =>
    cases he
    simp only [workerStep] at hs
    split at hs
    · rename_i result hpc
      simp only [tells, hpc]
      split at hs
      · rename_i hlt
        rw [dif_pos hlt]
        split at hs
        · rename_i hroom
          rw [if_pos hroom]
          cases hs
          exact ⟨_, .of_eq hpc (.terminated result) rfl rfl rfl⟩
        · rename_i hroom
          rw [if_neg hroom]
          cases hs
          exact ⟨_, .of_eq hpc (.outOfRange result) rfl rfl rfl⟩
      · rename_i hlt
        rw [dif_neg hlt]
        cases hs
        exact ⟨_, .of_eq hpc (.outOfRange result) rfl rfl rfl⟩
    · cases hs
  | handle u =>
    cases he
    simp only [workerStep] at hs
    split at hs
    · rename_i result hpc
      split at hs
      · cases hs
        exact ⟨_, .of_eq hpc (.handled result) rfl rfl rfl⟩
      · cases hs
    · cases hs
  | restart u r =>
    cases he
    simp only [workerStep] at hs
    split at hs
    · rename_i result hpc
      have hblocked : s'.workers = Function.update s.workers v .blocked ∧
          s'.shutdownEvent = s.shutdownEvent ∧ s'.running = s.running := by
        split at hs
        · obtain ⟨-, hs⟩ := Option.ite_none_left_eq_some.mp hs
          cases hs
          exact ⟨rfl, rfl, rfl⟩
        · cases hs
          exact ⟨rfl, rfl, rfl⟩
      obtain ⟨hworkers, hevent, hrun⟩ := hblocked
      simp only [tells, hpc]
      refine ⟨.blocked, .of_eq hpc ?_ hworkers hevent hrun⟩
      split_ifs with hu hc
      · exact .reconnecting hu _
      · exact .reading hc _
      · exact .idle hu hc
    · cases hs
  | shared u line => cases hs
  | openPipe _ | write _ _ | closePipe _ | connect _ _ | complete _ _ | abort _ _ _ | client _ _
  | waiterWake | waiterFails | waiterPost _ | stop | post | waitReturns _ => cases he

theorem turn_shared {v : Fin W} {line : SharedLine} (hs : s.sharedStep build v line = some s')
    (lastError : DWORD) :
    ∃ line', TakesTurn texts s s' v (s.tells texts lastError (.shared v line)) line' := by
  unfold sharedStep at hs
  split at hs
  · rename_i pc hpc
    obtain ⟨hh, hstep, rfl⟩ := Option.map_eq_some_iff.mp hs
    have htells : s.tells texts lastError (.shared v line) = [] ∨
        ∃ what, s.tells texts lastError (.shared v line) = [.caught what] := by
      cases line with
      | map readable =>
        cases readable with
        | none => exact .inr ⟨_, rfl⟩
        | some readable => exact .inl rfl
      | signal signalled =>
        simp only [tells]
        split
        · split
          · exact .inr ⟨_, rfl⟩
          · exact .inl rfl
        · exact .inl rfl
      | getData | copy | unmap _ | finish => exact .inl rfl
    refine ⟨.ofPc (hh.workers v), rfl, rfl, ?_, .inr ⟨pc, _, hpc, rfl⟩⟩
    rw [hpc]
    rcases htells with htells | ⟨what, htells⟩
    · rw [htells]
      exact .branch pc _
    · rw [htells]
      exact .branchThrew pc _ what
  · cases hs

/-- **What a worker's line does**: the worker takes its turn, or the process ends. -/
theorem worker_turn (texts : SystemTexts) {v : Fin W} {e : SystemEvent C W n}
    (he : e.worker = some v) (hs : step build s e = some s') (lastError : DWORD) :
    s' = s.crash ∨ ∃ line, TakesTurn texts s s' v (s.tells texts lastError e) line := by
  rcases step_cases hs with ⟨i, line, rfl, -⟩ | ⟨-, hs | hs | rfl | hs | ⟨u, line, rfl, hline⟩ | hs⟩
  · cases he
  · cases e <;> first | (cases he; done) | cases hs
  · cases e <;> first | (cases he; done) | cases hs
  · exact .inl rfl
  · exact .inr (turn_worker he hs lastError)
  · cases he
    exact .inr (turn_shared hline lastError)
  · cases e <;> first | (cases he; done) | cases hs

end Task6System

/-! ## The reader keeps up -/

/-- Nothing of it is the text of a message. -/
def NoMessage (saying : List WorkerNews) : Prop :=
  ∀ news ∈ saying, ∀ index messg, news ≠ .message index messg

/-- Where the reader is when it has read all that the worker has said and is about to
say. -/
inductive Reads : WorkerLine → Bool → List WorkerNews → ThreadLog → Prop
  | blocked {saying : List WorkerNews} (h : NoMessage saying) : Reads .blocked false saying .atPort
  | checking (dequeued : Option IocpEntry) : Reads (.checking dequeued) false [] .atPort
  | servicing (packet : Packet) : Reads (.servicing packet) false [] .atPort
  | shared (pc : WorkerPc) {saying : List WorkerNews} (h : NoMessage saying) :
    Reads (.shared pc) false saying .atPort
  | leaving (dequeued : Option IocpEntry) {saying : List WorkerNews} (h : NoMessage saying) :
    Reads (.checking dequeued) true saying .ended
  | exited (reason : ExitReason) (dequeued : Option IocpEntry) :
    Reads (.exited reason dequeued) true [] .ended
  | serviced {result : AsyncResult} {saying : List WorkerNews} (hc : result.Coherent)
      (hm : WorkerTask.isMessage result = true) (h : NoMessage saying) :
    Reads (.pipeTask (.serviced result)) false saying
      (.reported result.errorCode result.bZombieOperation result.operation result.instanceIndex)
  | terminated {result : AsyncResult} {saying : List WorkerNews} (hc : result.Coherent)
      (hm : WorkerTask.isMessage result = true)
      (h : saying = [] ∨ ∃ messg, saying = [.message result.instanceIndex messg]) :
    Reads (.pipeTask (.terminated result)) false saying (.received result.instanceIndex)
  | handled {result : AsyncResult} (hc : result.Coherent)
      (hm : WorkerTask.isMessage result = true) :
    Reads (.pipeTask (.handled result)) false [] (.received result.instanceIndex)
  | notHandled {result : AsyncResult} {saying : List WorkerNews} (hc : result.Coherent)
      (hm : WorkerTask.isMessage result = false) (h : NoMessage saying) :
    Reads (.pipeTask (.handled result)) false saying
      (.reported result.errorCode result.bZombieOperation result.operation result.instanceIndex)

theorem NoMessage.nil : NoMessage [] := fun _ h => absurd h List.not_mem_nil

theorem NoMessage.of_cons {news : WorkerNews} {rest : List WorkerNews}
    (h : NoMessage (news :: rest)) : NoMessage rest :=
  fun other hother => h other (List.mem_cons_of_mem _ hother)

theorem NoMessage.evaluated {n : Nat} {news : WorkerNews} {rest : List WorkerNews}
    (h : NoMessage (news :: rest)) (pipeSvBuffers : Fin n → List Byte) :
    NoMessage (news.evaluated pipeSvBuffers :: rest) := by
  cases news with
  | message index messg => exact absurd rfl (h _ (List.mem_cons_self ..) index messg)
  | started | iocpFailed _ | shutdown | operation _ _ _ _ | reconnecting _ | reading _
  | sharedMemory | invalidPacket | caught _ => exact h

/-- What is said comes off what is about to be. -/
theorem Reads.said {line : WorkerLine} {leaving : Bool} {news : WorkerNews}
    {rest : List WorkerNews} {q : ThreadLog} (h : Reads line leaving (news :: rest) q) :
    Reads line leaving rest q := by
  cases h with
  | blocked h => exact .blocked h.of_cons
  | shared pc h => exact .shared pc h.of_cons
  | leaving dequeued h => exact .leaving dequeued h.of_cons
  | serviced hc hm h => exact .serviced hc hm h.of_cons
  | terminated hc hm h =>
    refine .terminated hc hm (.inl ?_)
    rcases h with h | ⟨messg, h⟩ <;> cases h
    rfl
  | notHandled hc hm h => exact .notHandled hc hm h.of_cons

theorem Reads.evaluated {n : Nat} {line : WorkerLine} {leaving : Bool} {news : WorkerNews}
    {rest : List WorkerNews} {q : ThreadLog} (h : Reads line leaving (news :: rest) q)
    (pipeSvBuffers : Fin n → List Byte) :
    Reads line leaving (news.evaluated pipeSvBuffers :: rest) q := by
  cases h with
  | blocked h => exact .blocked (h.evaluated _)
  | shared pc h => exact .shared pc (h.evaluated _)
  | leaving dequeued h => exact .leaving dequeued (h.evaluated _)
  | serviced hc hm h => exact .serviced hc hm (h.evaluated _)
  | terminated hc hm h =>
    refine .terminated hc hm (.inr ?_)
    rcases h with h | ⟨messg, h⟩ <;> cases h
    exact ⟨_, rfl⟩
  | notHandled hc hm h => exact .notHandled hc hm (h.evaluated _)

/-- A worker that has said that it leaves stands in front of its `return`, or has
returned. -/
theorem Reads.ended_iff {line : WorkerLine} {leaving : Bool} {saying : List WorkerNews}
    {q : ThreadLog} (h : Reads line leaving saying q) : q = .ended ↔ leaving = true := by
  cases h <;> simp

theorem noMessage_startNews (texts : SystemTexts) {began : WorkerNews}
    (h : ∀ index messg, began ≠ .message index messg) (out : Except Exn Unit) :
    NoMessage [startNews texts began out] := by
  intro news hnews index messg
  rw [List.mem_singleton.mp hnews]
  cases out with
  | ok u => exact h index messg
  | error ex => simp [startNews]

theorem WorkerTask.not_zombie {result : AsyncResult} (hm : WorkerTask.isMessage result = true) :
    result.bZombieOperation = false := by
  simp only [WorkerTask.isMessage, Bool.and_eq_true, Bool.not_eq_true'] at hm
  exact hm.2

/-- Behind the test of the loop. -/
theorem reads_nextLine {shutdownEvent : Bool} {dequeued : Option IocpEntry}
    (h : ∀ reason dequeued', Task6System.nextLine shutdownEvent dequeued
      ≠ .exited reason dequeued') :
    ∃ q, ThreadLog.reader.exec .atPort
        (match Task6System.nextLine shutdownEvent dequeued with
          | .shared _ => [.sharedMemory]
          | _ => []) = some q ∧
      Reads (Task6System.nextLine shutdownEvent dequeued) false
        (match Task6System.nextLine shutdownEvent dequeued with
          | .shared _ => [.sharedMemory]
          | _ => []) q := by
  cases dequeued with
  | none => exact absurd (Task6System.nextLine_failed _) (h _ _)
  | some entry =>
    cases entry with
    | pipe packet =>
      have hline := Task6System.nextLine_pipe shutdownEvent packet
      cases shutdownEvent with
      | true => exact absurd hline (h _ _)
      | false =>
        rw [hline]
        exact ⟨_, rfl, .servicing packet⟩
    | sharedMemory write =>
      have hline := Task6System.nextLine_sharedMemory shutdownEvent write
      cases shutdownEvent with
      | true => exact absurd hline (h _ _)
      | false =>
        rw [hline]
        exact ⟨_, rfl, .shared _ (by simp [NoMessage])⟩
    | shutdown => exact absurd (Task6System.nextLine_shutdown _) (h _ _)

/-- **The reader keeps up with a turn** of a worker that stays in its loop. -/
theorem reads_turn {texts : SystemTexts} {shutdownEvent : Bool} {line line' : WorkerLine}
    {saying : List WorkerNews} {q : ThreadLog} (h : Reads line false [] q)
    (ht : Turn texts shutdownEvent line saying line')
    (hexit : ∀ reason dequeued, line' ≠ .exited reason dequeued) :
    ∃ q', ThreadLog.reader.exec q saying = some q' ∧ Reads line' false saying q' := by
  cases ht with
  | dequeue dequeued =>
    cases h
    exact ⟨_, rfl, .checking dequeued⟩
  | check dequeued =>
    cases h
    exact reads_nextLine hexit
  | @serviced packet result hc =>
    cases h
    cases hm : WorkerTask.isMessage result with
    | true =>
      refine ⟨_, rfl, ?_⟩
      rw [WorkerTask.ofResult, if_pos hm]
      exact .serviced hc hm (by simp [NoMessage, serviceNews])
    | false =>
      refine ⟨_, rfl, ?_⟩
      rw [WorkerTask.ofResult, if_neg (by simp [hm])]
      exact .notHandled hc hm (by simp [NoMessage, serviceNews])
  | threw packet ex =>
    cases h
    exact ⟨_, rfl, .blocked (by simp [NoMessage, serviceNews])⟩
  | terminated result =>
    cases h with
    | serviced hc hm h =>
      refine ⟨.received result.instanceIndex, ?_, .terminated hc hm (.inr ⟨_, rfl⟩)⟩
      have hnext : ThreadLog.next (.reported result.errorCode result.bZombieOperation
          result.operation result.instanceIndex) (.message result.instanceIndex [])
            = some (.received result.instanceIndex) := if_pos ⟨rfl, hm⟩
      exact Machine.exec_cons_some.mpr ⟨_, hnext, rfl⟩
  | outOfRange result =>
    cases h with
    | serviced hc hm h => exact ⟨_, rfl, .blocked (by simp [NoMessage])⟩
  | handled result =>
    cases h with
    | terminated hc hm h => exact ⟨_, rfl, .handled hc hm⟩
  | @reconnecting result hstate out =>
    refine ⟨.atPort, ?_, .blocked (noMessage_startNews texts (by simp) out)⟩
    cases h with
    | handled hc hm =>
      -- a message is no zombie
      exact absurd (hc.zombie_iff.mp hstate) (by simp [WorkerTask.not_zombie hm])
    | notHandled hc hm h =>
      cases out with
      | error ex => rfl
      | ok u => exact Machine.exec_cons_some.mpr ⟨_, if_pos ⟨rfl, hc.zombie_iff.mp hstate⟩, rfl⟩
  | @reading result hstate out =>
    refine ⟨.atPort, ?_, .blocked (noMessage_startNews texts (by simp) out)⟩
    cases h with
    | handled hc hm =>
      cases out with
      | error ex => rfl
      | ok u => exact Machine.exec_cons_some.mpr ⟨_, if_pos rfl, rfl⟩
    | notHandled hc hm h =>
      cases out with
      | error ex => rfl
      | ok u =>
        exact Machine.exec_cons_some.mpr ⟨_, if_pos ⟨rfl, hc.normal_iff.mp hstate, hm⟩, rfl⟩
  | @idle result hu hc' =>
    -- a pipe is connected again or read from
    have hcoherent : ¬ result.Coherent := by
      intro hc
      cases hz : result.bZombieOperation with
      | true => exact hu (hc.zombie_iff.mpr hz)
      | false => exact hc' (hc.normal_iff.mpr hz)
    cases h with
    | handled hc hm => exact absurd hc hcoherent
    | notHandled hc hm h => exact absurd hc hcoherent
  | branch pc pc' =>
    cases h
    refine ⟨_, rfl, ?_⟩
    cases pc' <;> first | exact .blocked .nil | exact .shared _ .nil
  | branchThrew pc pc' what =>
    cases h
    refine ⟨_, rfl, ?_⟩
    cases pc' <;> first
      | exact .blocked (by simp [NoMessage])
      | exact .shared _ (by simp [NoMessage])

end Task6
