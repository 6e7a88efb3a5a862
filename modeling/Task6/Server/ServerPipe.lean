import Task6.Server.PipeWorkers
import Task6.Pipes.SlotPhase

/-!
# One pipe of the server

A pipe with its client, its buffer and the workers that are busy with it, alone.
`Task6Server.step_eq`: in a wired server (every OVERLAPPED and every result
carries the index of its pipe) an event is the step of the pipe it names, and
two guards decide whether it may happen now: the order of the connect loop, and
a free worker.
-/

namespace Task6

open Win32 NulText

/-- The pipe, the client's end, the entry of `pipeSvBuffers`, the busy workers
and the texts handled. -/
structure ServerPipe where
  pipe : Pipe
  chan : Channel
  buffer : List Byte
  tasks : List WorkerTask
  handled : List (List Byte)

namespace ServerPipe

def create (index : Nat) : ServerPipe :=
  ⟨Pipe.create index, .create, List.replicate dataBufferSize 0, [], []⟩

/-- The call that starts the next operation. -/
def startNext (slot : Slot) (result : AsyncResult) (r : CallResult) : Slot :=
  if result.newPipeState = PipeState.unconnected then (slot.connectInstance r).2
  else if result.newPipeState = PipeState.connected then (slot.readInstance readCapacity r).2
  else slot

def step (p : ServerPipe) : ServerCall → Option ServerPipe
  | .openPipe =>
    if p.chan.client = .absent then some { p with chan := { p.chan with client := .opened } }
    else none
  | .write m => if p.chan.client = .opened then some { p with chan := p.chan.write m } else none
  | .close =>
    if p.chan.client = .opened then some { p with chan := { p.chan with client := .closed } }
    else none
  | .connect r =>
    match p.pipe.slot.connectInstance r with
    | (.ok _, slot) => some { p with pipe := { p.pipe with slot := slot } }
    | (.error _, _) => none
  | .complete k =>
    match p.pipe.slot.pending[k]? with
    | none => none
    | some op =>
      match op.kind with
      | .connect =>
        if p.chan.client = .absent then none
        else (p.pipe.step (.complete k errorSuccess 0)).map fun pipe => { p with pipe := pipe }
      | .read =>
        match p.chan.transfer op.capacity with
        | none => none
        | some (errorCode, data, ch) =>
          (p.pipe.step (.complete k errorCode data.length)).map fun pipe =>
            { p with pipe := pipe, chan := ch, buffer := overwrite p.buffer data }
  | .abort k errorCode =>
    if errorCode = errorSuccess ∨ errorCode = errorMoreData then none
    else (p.pipe.step (.complete k errorCode 0)).map fun pipe => { p with pipe := pipe }
  | .take k => (p.pipe.step (.dequeue k)).map fun pipe => { p with pipe := pipe }
  | .service k r =>
    p.pipe.taken[k]?.map fun packet =>
      let out := p.pipe.slot.serviceSwitch p.pipe.slot.inst.connReadOverlapped.index
        packet.bytesTransferred packet.errorCode r
      { p with
        pipe := ⟨out.2, p.pipe.taken.eraseIdx k⟩
        tasks := p.tasks ++ WorkerTask.ofService out.1 }
  | .terminate k =>
    match p.tasks[k]? with
    | some (.serviced result) =>
      if result.bytesTransferred < p.buffer.length then
        some { p with
          buffer := p.buffer.set result.bytesTransferred 0
          tasks := p.tasks.set k (.terminated result) }
      else some { p with tasks := p.tasks.eraseIdx k }
    | _ => none
  | .handle k =>
    match p.tasks[k]? with
    | some (.terminated result) =>
      some { p with
        handled := p.handled ++ [text p.buffer]
        tasks := p.tasks.set k (.handled result) }
    | _ => none
  | .restart k r =>
    match p.tasks[k]? with
    | some (.handled result) =>
      if result.newPipeState = PipeState.connected ∧
          p.chan.answersRead readCapacity r = false then none
      else some { p with
        pipe := { p.pipe with slot := startNext p.pipe.slot result r }
        tasks := p.tasks.eraseIdx k }
    | _ => none

end ServerPipe

/-- The result of `service` is one of the instance it was called on. -/
theorem Slot.serviceSwitch_index {slot : Slot} {index bytesTransferred : Nat}
    {errorCode : DWORD} {r : CallResult} {result : AsyncResult}
    (h : (slot.serviceSwitch index bytesTransferred errorCode r).1 = .ok result) :
    result.instanceIndex = index := by
  rcases serviceSwitch_cases h with ⟨op, count, rfl⟩ | ⟨op, count, rfl⟩
  · rfl
  · rfl

namespace ServerPipe

/-- The pipe's OVERLAPPED, operations and results carry its index. -/
def WiredAt (p : ServerPipe) (index : Nat) : Prop :=
  p.pipe.WiredAt ⟨index, index⟩ ∧ ∀ t ∈ p.tasks, t.result.instanceIndex = index

/-- A task that goes on is one of the same pipe. -/
theorem wired_setTask {index k : Nat} {tasks : List WorkerTask} {result : AsyncResult}
    {task task' : WorkerTask} (htasks : ∀ t ∈ tasks, t.result.instanceIndex = index)
    (hk : tasks[k]? = some task) (htask : task.result = result) (htask' : task'.result = result) :
    ∀ t ∈ tasks.set k task', t.result.instanceIndex = index := by
  have hold : result.instanceIndex = index := htask ▸ htasks _ (List.mem_of_getElem? hk)
  intro t ht
  rcases List.mem_or_eq_of_mem_set ht with ht | rfl
  · exact htasks t ht
  · rw [htask', hold]

theorem step_wired {p p' : ServerPipe} {c : ServerCall} {index : Nat} (hw : p.WiredAt index)
    (hs : p.step c = some p') : p'.WiredAt index := by
  obtain ⟨hpipe, htasks⟩ := hw
  cases c with
  | openPipe | write m | close =>
    simp only [step] at hs
    split at hs
    · cases hs
      exact ⟨hpipe, htasks⟩
    · cases hs
  | connect r =>
    simp only [step] at hs
    split at hs
    · rename_i slot hcall
      cases hs
      refine ⟨Pipe.step_wired (c := .connect r) hpipe ?_, htasks⟩
      simp [Pipe.step, hcall]
    · cases hs
  | complete k =>
    simp only [step] at hs
    split at hs
    · cases hs
    · split at hs
      · split at hs
        · cases hs
        · obtain ⟨q, hq, rfl⟩ := Option.map_eq_some_iff.mp hs
          exact ⟨Pipe.step_wired hpipe hq, htasks⟩
      · split at hs
        · cases hs
        · obtain ⟨q, hq, rfl⟩ := Option.map_eq_some_iff.mp hs
          exact ⟨Pipe.step_wired hpipe hq, htasks⟩
  | abort k errorCode =>
    simp only [step] at hs
    split at hs
    · cases hs
    · obtain ⟨q, hq, rfl⟩ := Option.map_eq_some_iff.mp hs
      exact ⟨Pipe.step_wired hpipe hq, htasks⟩
  | take k =>
    obtain ⟨q, hq, rfl⟩ := Option.map_eq_some_iff.mp hs
    exact ⟨Pipe.step_wired hpipe hq, htasks⟩
  | service k r =>
    obtain ⟨packet, hk, rfl⟩ := Option.map_eq_some_iff.mp hs
    constructor
    · refine Pipe.step_wired (c := .service k r) hpipe ?_
      simp [Pipe.step, hk]
    · intro t ht
      rcases List.mem_append.mp ht with ht | ht
      · exact htasks t ht
      · cases hres : (p.pipe.slot.serviceSwitch p.pipe.slot.inst.connReadOverlapped.index
            packet.bytesTransferred packet.errorCode r).1 with
        | error ex =>
          rw [hres] at ht
          cases ht
        | ok result =>
          rw [hres] at ht
          have hindex := Slot.serviceSwitch_index hres
          have hresult : t.result = result := by
            rw [List.mem_singleton.mp ht]
            unfold WorkerTask.ofResult
            split <;> rfl
          rw [hresult, hindex, hpipe.1]
  | terminate k =>
    simp only [step] at hs
    split at hs
    · rename_i result hk
      split at hs
      · cases hs
        exact ⟨hpipe, wired_setTask htasks hk rfl rfl⟩
      · cases hs
        exact ⟨hpipe, fun t ht => htasks t (List.mem_of_mem_eraseIdx ht)⟩
    · cases hs
  | handle k =>
    simp only [step] at hs
    split at hs
    · rename_i result hk
      cases hs
      exact ⟨hpipe, wired_setTask htasks hk rfl rfl⟩
    · cases hs
  | restart k r =>
    simp only [step] at hs
    split at hs
    · rename_i result hk
      split at hs
      · cases hs
      · cases hs
        constructor
        · -- the next operation is a connect, a read or none
          unfold startNext
          split
          · exact Pipe.step_wired (c := .connect r) hpipe rfl
          · split
            · exact Pipe.step_wired (c := .read readCapacity r) hpipe rfl
            · exact hpipe
        · intro t ht
          exact htasks t (List.mem_of_mem_eraseIdx ht)
    · cases hs

end ServerPipe

namespace Task6Server

variable {n : Nat}

/-- The view of one pipe. -/
def pipe (s : Task6Server n) (i : Fin n) : ServerPipe :=
  ⟨s.sys.pipe i, s.chans i, s.pipeSvBuffers i, s.tasks i, s.handled i⟩

/-- Exchange one pipe. -/
def put (s : Task6Server n) (i : Fin n) (p : ServerPipe) : Task6Server n where
  sys := ⟨Function.update s.sys.pipes i p.pipe.slot, Function.update s.sys.taken i p.pipe.taken⟩
  chans := Function.update s.chans i p.chan
  pipeSvBuffers := Function.update s.pipeSvBuffers i p.buffer
  tasks := Function.update s.tasks i p.tasks
  handled := Function.update s.handled i p.handled
  connectLoop := s.connectLoop

@[simp] theorem pipe_put_self (s : Task6Server n) (i : Fin n) (p : ServerPipe) :
    (s.put i p).pipe i = p := by
  simp [pipe, put, PipeSystem.pipe]

theorem pipe_put_other (s : Task6Server n) {i j : Fin n} (hj : j ≠ i) (p : ServerPipe) :
    (s.put i p).pipe j = s.pipe j := by
  simp [pipe, put, PipeSystem.pipe, hj]

/-- Every OVERLAPPED, operation and result carries the index of its pipe. -/
def Wired (s : Task6Server n) : Prop :=
  s.sys.Wired ∧ ∀ i : Fin n, ∀ t ∈ s.tasks i, t.result.instanceIndex = i

/-- What the rest of the server says to an event on pipe `i`. -/
def permits (s : Task6Server n) (workers : Nat) (i : Fin n) : ServerCall → Bool
  | .connect _ => decide (i.val = s.connectLoop)
  | .take _ => decide (s.connectLoop = n ∧ s.busy < workers)
  | _ => true

/-- The connect loop moves on with its call. -/
def loopStep : ServerCall → Nat
  | .connect _ => 1
  | _ => 0

/-- Either the loop stays, or it connects the pipe that it has reached. -/
theorem loopStep_cases {s : Task6Server n} {workers : Nat} {i : Fin n} {c : ServerCall}
    (hpermit : s.permits workers i c = true) :
    loopStep c = 0 ∨ loopStep c = 1 ∧ i.val = s.connectLoop := by
  cases c with
  | connect r => exact .inr ⟨rfl, of_decide_eq_true hpermit⟩
  | openPipe | write _ | close | complete _ | abort _ _ | take _ | service _ _
  | terminate _ | handle _ | restart _ _ => exact .inl rfl

/-- An event of the pipe server is one of the pipe. -/
theorem sys_step_eq {s : Task6Server n} (hw : Wired s) (i : Fin n) (c : PipeCall) :
    ((s.sys.step ⟨i, c⟩).map fun sys => { s with sys := sys })
      = ((s.pipe i).pipe.step c).map fun p => s.put i { s.pipe i with pipe := p } := by
  rw [PipeSystem.step_eq hw.1, Option.map_map]
  refine congrArg (Option.map · _) (funext fun p => ?_)
  simp [put, pipe]

/-! ## The server is its pipes, call by call -/

section Calls

variable {s : Task6Server n} (workers : Nat) (i : Fin n)

theorem complete_eq (hw : Wired s) (k : Nat) :
    step workers s ⟨i, .complete k⟩ = ((s.pipe i).step (.complete k)).map (s.put i) := by
  simp only [step, ServerPipe.step]
  have hslot : (s.pipe i).pipe.slot = s.sys.pipes i := rfl
  rw [hslot]
  cases hop : (s.sys.pipes i).pending[k]? with
  | none => rfl
  | some op =>
    dsimp only
    cases hkind : op.kind with
    | connect =>
      by_cases hc : (s.chans i).client = .absent
      · simp [hc, pipe]
      · simp only [hc, pipe, if_false, sys_step_eq hw, Option.map_map]
        rfl
    | read =>
      have hchan : (s.pipe i).chan = s.chans i := rfl
      rw [hchan]
      cases ht : (s.chans i).transfer op.capacity with
      | none => rfl
      | some out =>
        obtain ⟨errorCode, data, ch⟩ := out
        dsimp only
        rw [PipeSystem.step_eq hw.1, Option.map_map, Option.map_map]
        refine congrArg (Option.map · _) (funext fun p => ?_)
        simp [put, pipe, setChan]

/-- The OVERLAPPED of the packet leads `service` to the pipe. -/
theorem service_eq (hw : Wired s) (k : Nat) (r : CallResult) :
    step workers s ⟨i, .service k r⟩ = ((s.pipe i).step (.service k r)).map (s.put i) := by
  simp only [step, ServerPipe.step, Option.map_map]
  have htaken : (s.pipe i).pipe.taken = s.sys.taken i := rfl
  rw [htaken]
  cases hk : (s.sys.taken i)[k]? with
  | none => rfl
  | some packet =>
    have hmem : packet.op ∈ (s.sys.pipe i).outstanding :=
      List.mem_append_right _ (List.mem_map_of_mem (List.mem_of_getElem? hk))
    have hroute := InPipeServer.service_of_wired (hw.1 i).1 ((hw.1 i).2 _ hmem)
      packet.bytesTransferred packet.errorCode r
    have hindex : (s.sys.pipes i).inst.connReadOverlapped.index = i :=
      congrArg RaiiIndexedOverlapped.index (hw.1 i).1
    simp [hroute, hindex, put, setTasks, pipe, PipeSystem.pipe]

theorem terminate_eq (hw : Wired s) (k : Nat) :
    step workers s ⟨i, .terminate k⟩ = ((s.pipe i).step (.terminate k)).map (s.put i) := by
  simp only [step, ServerPipe.step]
  have htasks : (s.pipe i).tasks = s.tasks i := rfl
  rw [htasks]
  cases hk : (s.tasks i)[k]? with
  | none => rfl
  | some t =>
    cases t with
    | serviced result =>
      have hindex : result.instanceIndex = i := hw.2 i _ (List.mem_of_getElem? hk)
      by_cases hb : result.bytesTransferred < (s.pipeSvBuffers i).length
      · simp [hindex, hb, put, setTasks, pipe, PipeSystem.pipe]
      · simp [hindex, hb, put, setTasks, pipe, PipeSystem.pipe]
    | terminated result => rfl
    | handled result => rfl

theorem handle_eq (hw : Wired s) (k : Nat) :
    step workers s ⟨i, .handle k⟩ = ((s.pipe i).step (.handle k)).map (s.put i) := by
  simp only [step, ServerPipe.step]
  have htasks : (s.pipe i).tasks = s.tasks i := rfl
  rw [htasks]
  cases hk : (s.tasks i)[k]? with
  | none => rfl
  | some t =>
    cases t with
    | serviced result => rfl
    | terminated result =>
      have hindex : result.instanceIndex = i := hw.2 i _ (List.mem_of_getElem? hk)
      simp [hindex, put, setTasks, pipe, PipeSystem.pipe]
    | handled result => rfl

/-- What follows the handling of a result reaches the pipe the result names. -/
theorem startNext_eq {result : AsyncResult} (hindex : result.instanceIndex = i)
    (tasks : List WorkerTask) (r : CallResult) :
    (s.setTasks i tasks).startNext result r
      = s.put i { s.pipe i with
          pipe := { (s.pipe i).pipe with slot := ServerPipe.startNext (s.sys.pipes i) result r }
          tasks := tasks } := by
  unfold startNext ServerPipe.startNext
  by_cases hu : result.newPipeState = PipeState.unconnected
  · rw [if_pos hu, if_pos hu, hindex]
    simp [put, setTasks, setPipes, pipe, PipeSystem.pipe, InPipeServer.connectInstance,
      InPipeServer.atIndex_of_lt]
  · rw [if_neg hu, if_neg hu]
    by_cases hc : result.newPipeState = PipeState.connected
    · rw [if_pos hc, if_pos hc, hindex]
      simp [put, setTasks, setPipes, pipe, PipeSystem.pipe, InPipeServer.readInstance,
        InPipeServer.atIndex_of_lt]
    · rw [if_neg hc, if_neg hc]
      simp [put, setTasks, pipe, PipeSystem.pipe]

theorem restart_eq (hw : Wired s) (k : Nat) (r : CallResult) :
    step workers s ⟨i, .restart k r⟩ = ((s.pipe i).step (.restart k r)).map (s.put i) := by
  simp only [step, ServerPipe.step]
  have htasks : (s.pipe i).tasks = s.tasks i := rfl
  have hchan : (s.pipe i).chan = s.chans i := rfl
  rw [htasks, hchan]
  cases hk : (s.tasks i)[k]? with
  | none => rfl
  | some t =>
    cases t with
    | serviced result => rfl
    | terminated result => rfl
    | handled result =>
      have hindex : result.instanceIndex = i := hw.2 i _ (List.mem_of_getElem? hk)
      dsimp only
      by_cases hno : result.newPipeState = PipeState.connected ∧
          (s.chans i).answersRead readCapacity r = false
      · rw [if_pos hno, if_pos hno]
        rfl
      · rw [if_neg hno, if_neg hno, startNext_eq i hindex]
        rfl

/-- The client's calls and those of Windows touch the pipe they name alone. -/
theorem abort_eq (hw : Wired s) (k : Nat) (errorCode : DWORD) :
    step workers s ⟨i, .abort k errorCode⟩
      = ((s.pipe i).step (.abort k errorCode)).map (s.put i) := by
  by_cases hcode : errorCode = errorSuccess ∨ errorCode = errorMoreData
  · simp [step, ServerPipe.step, hcode]
  · simp only [step, ServerPipe.step, hcode, if_false, sys_step_eq hw, Option.map_map]
    rfl

theorem client_eq {c : ServerCall} (hc : c = .openPipe ∨ (∃ m, c = .write m) ∨ c = .close) :
    step workers s ⟨i, c⟩ = ((s.pipe i).step c).map (s.put i) := by
  rcases hc with rfl | ⟨m, rfl⟩ | rfl
  · by_cases hc : (s.chans i).client = .absent
    · simp [step, ServerPipe.step, pipe, put, setChan, PipeSystem.pipe, hc]
    · simp [step, ServerPipe.step, pipe, hc]
  · by_cases hc : (s.chans i).client = .opened
    · simp [step, ServerPipe.step, pipe, put, setChan, PipeSystem.pipe, hc]
    · simp [step, ServerPipe.step, pipe, hc]
  · by_cases hc : (s.chans i).client = .opened
    · simp [step, ServerPipe.step, pipe, put, setChan, PipeSystem.pipe, hc]
    · simp [step, ServerPipe.step, pipe, hc]

end Calls

/-- **The server is its pipes**: an event is the step of the pipe it names, when
the rest of the server permits it. -/
theorem step_eq {s : Task6Server n} (hw : Wired s) (workers : Nat) (i : Fin n) (c : ServerCall) :
    step workers s ⟨i, c⟩ =
      if s.permits workers i c then
        ((s.pipe i).step c).map fun p =>
          { s.put i p with connectLoop := s.connectLoop + loopStep c }
      else none := by
  cases c with
  | openPipe => exact client_eq workers i (.inl rfl)
  | write m => exact client_eq workers i (.inr (.inl ⟨m, rfl⟩))
  | close => exact client_eq workers i (.inr (.inr rfl))
  | connect r =>
    -- the call of the loop is the one it has come to
    by_cases hi : i.val = s.connectLoop
    · simp only [step, permits, hi, decide_true, if_true, InPipeServer.connectInstance,
        ServerPipe.step, pipe]
      rw [← hi, InPipeServer.atIndex_of_lt]
      cases hc : (s.sys.pipes i).connectInstance r with
      | mk out slot =>
        cases out with
        | ok u => simp [put, setPipes, loopStep, PipeSystem.pipe, hc, hi]
        | error ex => simp [PipeSystem.pipe, hc]
    · simp [step, permits, hi]
  | complete k => exact complete_eq workers i hw k
  | abort k errorCode => exact abort_eq workers i hw k errorCode
  | take k =>
    by_cases hfree : s.connectLoop = n ∧ s.busy < workers
    · have hpermit : s.permits workers i (.take k) = true := decide_eq_true hfree
      rw [if_pos hpermit]
      simp only [step, ServerPipe.step]
      rw [if_pos hfree, sys_step_eq hw, Option.map_map]
      rfl
    · have hpermit : s.permits workers i (.take k) = false := decide_eq_false hfree
      rw [hpermit]
      simp only [step]
      rw [if_neg hfree]
      rfl
  | service k r => exact service_eq workers i hw k r
  | terminate k => exact terminate_eq workers i hw k
  | handle k => exact handle_eq workers i hw k
  | restart k r => exact restart_eq workers i hw k r

theorem step_some {s s' : Task6Server n} (hw : Wired s) {workers : Nat} {e : ServerEvent n}
    (h : step workers s e = some s') :
    s.permits workers e.index e.call = true ∧ ∃ p, (s.pipe e.index).step e.call = some p ∧
      s' = { s.put e.index p with connectLoop := s.connectLoop + loopStep e.call } := by
  obtain ⟨i, c⟩ := e
  rw [step_eq hw] at h
  split at h
  · rename_i hpermit
    obtain ⟨p, hp, rfl⟩ := Option.map_eq_some_iff.mp h
    exact ⟨hpermit, p, hp, rfl⟩
  · cases h

theorem step_wired {s s' : Task6Server n} (hw : Wired s) {workers : Nat} {e : ServerEvent n}
    (h : step workers s e = some s') : Wired s' := by
  obtain ⟨-, p, hp, rfl⟩ := step_some hw h
  have hnew : p.WiredAt e.index := ServerPipe.step_wired ⟨hw.1 e.index, hw.2 e.index⟩ hp
  constructor
  · intro j
    by_cases hj : j = e.index
    · subst hj
      have : (s.put e.index p).sys.pipe e.index = p.pipe :=
        congrArg ServerPipe.pipe (pipe_put_self s e.index p)
      show ((s.put e.index p).sys.pipe e.index).WiredAt _
      rw [this]
      exact hnew.1
    · have : (s.put e.index p).sys.pipe j = s.sys.pipe j :=
        congrArg ServerPipe.pipe (pipe_put_other s hj p)
      show ((s.put e.index p).sys.pipe j).WiredAt _
      rw [this]
      exact hw.1 j
  · intro j t ht
    have ht : t ∈ Function.update s.tasks e.index p.tasks j := ht
    by_cases hj : j = e.index
    · subst hj
      rw [Function.update_self] at ht
      exact hnew.2 t ht
    · rw [Function.update_of_ne hj] at ht
      exact hw.2 j t ht

theorem wired_init (n : Nat) : Wired (init n) :=
  ⟨PipeSystem.wired_init, fun _ _ h => by cases h⟩

end Task6Server

end Task6
