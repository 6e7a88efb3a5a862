import Task6.Server.Delivery
import Task6.Server.Task6System
import Task6.Library.Refinement

/-!
# The pipes within the system

The machine of the pipes keeps the packets and the busy workers pipe by pipe;
in the system the packets of all pipes wait in one queue, among those of the
mapping and of `stopAndWait`, and a worker may be with any pipe or with none.
`pipes_refined`: the system refines it, item by item: what the one has on the port
and in the hands of the workers the other has on its pipes. So the messages of the
pipes are delivered (`system_delivered`).
-/

namespace Task6

open Win32 NulText

/-! ## What is queued makes no difference -/

namespace Slot

/-- The instance, with other packets on the port. -/
def withQueued (slot : Slot) (queued : List Packet) : Slot := { slot with queued := queued }

variable (slot : Slot) (queued : List Packet) (r : CallResult)

theorem connectInstance_withQueued : (slot.withQueued queued).connectInstance r =
    ((slot.connectInstance r).1, (slot.connectInstance r).2.withQueued queued) := by
  have hcan : (slot.withQueued queued).canConnect = slot.canConnect := rfl
  unfold connectInstance
  simp only [hcan]
  split_ifs <;> rfl

theorem readInstance_withQueued (size : Nat) : (slot.withQueued queued).readInstance size r =
    ((slot.readInstance size r).1, (slot.readInstance size r).2.withQueued queued) := by
  have hcan : (slot.withQueued queued).canRead = slot.canRead := rfl
  unfold readInstance
  simp only [hcan]
  split_ifs <;> rfl

theorem serviceSwitch_withQueued (index bytesTransferred : Nat) (errorCode : DWORD) :
    (slot.withQueued queued).serviceSwitch index bytesTransferred errorCode r =
      ((slot.serviceSwitch index bytesTransferred errorCode r).1,
        (slot.serviceSwitch index bytesTransferred errorCode r).2.withQueued queued) := by
  have hstate : (slot.withQueued queued).inst.state = slot.inst.state := rfl
  unfold serviceSwitch
  simp only [hstate]
  split_ifs <;> rfl

end Slot

/-! ## What the workers hold -/

/-- The packet of a pipe. -/
def IocpEntry.packet : IocpEntry → Option Packet
  | pipe packet => some packet
  | sharedMemory _ | shutdown => none

namespace WorkerLine

/-- The packet the worker has, not yet serviced. -/
def packets : WorkerLine → Multiset Packet
  | checking (some entry) | exited _ (some entry) => (entry.packet.toList : List Packet)
  | servicing packet => {packet}
  | blocked | checking none | exited _ none | pipeTask _ | shared _ => 0

/-- What it is at behind `service`. -/
def tasks : WorkerLine → Multiset WorkerTask
  | pipeTask task => {task}
  | blocked | checking _ | servicing _ | shared _ | exited _ _ => 0

theorem packets_ofPc (pc : WorkerPc) : (ofPc pc).packets = 0 := by
  cases pc <;> rfl

theorem tasks_ofPc (pc : WorkerPc) : (ofPc pc).tasks = 0 := by
  cases pc <;> rfl

/-- At most one thing at a time. -/
theorem card_le_one (line : WorkerLine) : line.packets.card + line.tasks.card ≤ 1 := by
  cases line with
  | checking dequeued | exited _ dequeued =>
    cases dequeued with
    | none => exact Nat.zero_le _
    | some entry => cases entry <;> simp [packets, tasks, IocpEntry.packet]
  | blocked | servicing _ | pipeTask _ | shared _ => simp [packets, tasks]

end WorkerLine

namespace Task6System

variable {C W n : Nat}

theorem packets_nextLine (shutdownEvent : Bool) (dequeued : Option IocpEntry) :
    (nextLine shutdownEvent dequeued).packets = (WorkerLine.checking dequeued).packets := by
  cases dequeued with
  | none => rfl
  | some entry =>
    cases entry with
    | pipe packet =>
      rw [nextLine_pipe]
      cases shutdownEvent <;> rfl
    | sharedMemory write =>
      rw [nextLine_sharedMemory]
      cases shutdownEvent <;> rfl
    | shutdown => rfl

theorem tasks_nextLine (shutdownEvent : Bool) (dequeued : Option IocpEntry) :
    (nextLine shutdownEvent dequeued).tasks = 0 := by
  cases dequeued with
  | none => rfl
  | some entry =>
    cases entry with
    | pipe packet =>
      rw [nextLine_pipe]
      cases shutdownEvent <;> rfl
    | sharedMemory write =>
      rw [nextLine_sharedMemory]
      cases shutdownEvent <;> rfl
    | shutdown => rfl

/-! ## The refinement -/

/-- The packets of the pipes on the port. -/
def packets (s : Task6System C W n) : Multiset Packet :=
  (s.iocp.filterMap IocpEntry.packet : List Packet)

theorem packets_concat (s : Task6System C W n) (entry : IocpEntry) (hentry : entry.packet = none) :
    (({ s with iocp := s.iocp ++ [entry] } : Task6System C W n)).packets = s.packets := by
  simp only [packets, List.filterMap_append, List.filterMap_cons, hentry, List.filterMap_nil,
    List.append_nil]

/-- One pipe of the system, as the machine of the pipes has it. -/
structure ShowsPipe (s : Task6System C W n) (i : Fin n) (p : ServerPipe) : Prop where
  slot : p.pipe.slot = (s.pipes i).withQueued p.pipe.slot.queued
  chan : p.chan = s.chans i
  buffer : p.buffer = s.pipeSvBuffers i
  handled : p.handled = s.pipeHandled i

/-- The system as the machine of the pipes sees it: its pipes, and together their
packets and busy workers. -/
structure ShowsPipes (s : Task6System C W n) (t : Task6Server n) : Prop where
  wired : t.Wired
  pipe : ∀ i, s.ShowsPipe i (t.pipe i)
  connectLoop : t.connectLoop = s.connectLoop
  queued : Pool.gathered (fun slot : Slot => (slot.queued : Multiset Packet)) t.sys.pipes =
    s.packets
  taken : Pool.gathered (fun packets : List Packet => (packets : Multiset Packet)) t.sys.taken =
    Pool.gathered WorkerLine.packets s.workers
  tasks : Pool.gathered (fun tasks : List WorkerTask => (tasks : Multiset WorkerTask)) t.tasks =
    Pool.gathered WorkerLine.tasks s.workers

theorem shows_pipes_init (C W n : Nat) : (init C W n).ShowsPipes (Task6Server.init n) where
  wired := Task6Server.wired_init n
  pipe := fun _ => ⟨rfl, rfl, rfl, rfl⟩
  connectLoop := rfl
  queued := Finset.sum_eq_zero fun _ _ => rfl
  taken := by
    have hleft : Pool.gathered (fun packets : List Packet => (packets : Multiset Packet))
        (Task6Server.init n).sys.taken = 0 := Finset.sum_eq_zero fun _ _ => rfl
    have hright : Pool.gathered WorkerLine.packets (init C W n).workers = 0 :=
      Finset.sum_eq_zero fun _ _ => rfl
    rw [hleft, hright]
  tasks := by
    have hleft : Pool.gathered (fun tasks : List WorkerTask => (tasks : Multiset WorkerTask))
        (Task6Server.init n).tasks = 0 := Finset.sum_eq_zero fun _ _ => rfl
    have hright : Pool.gathered WorkerLine.tasks (init C W n).workers = 0 :=
      Finset.sum_eq_zero fun _ _ => rfl
    rw [hleft, hright]

/-- The step is matched by steps of the machine of the pipes. -/
def MatchedPipes (W : Nat) (t : Task6Server n) (s' : Task6System C W n) : Prop :=
  ∃ fs t', (Task6Server.machine W n).exec t fs = some t' ∧ s'.ShowsPipes t' ∧ ∀ f ∈ fs, True

section Matching

variable {s s' : Task6System C W n} {t : Task6Server n}

/-- A step that the pipes do not see. -/
theorem pipes_same (h : s.ShowsPipes t) (hpipes : s'.pipes = s.pipes) (hchans : s'.chans = s.chans)
    (hbuffers : s'.pipeSvBuffers = s.pipeSvBuffers) (hhandled : s'.pipeHandled = s.pipeHandled)
    (hloop : s'.connectLoop = s.connectLoop) (hqueued : s'.packets = s.packets)
    (htaken : Pool.gathered WorkerLine.packets s'.workers =
      Pool.gathered WorkerLine.packets s.workers)
    (htasks : Pool.gathered WorkerLine.tasks s'.workers =
      Pool.gathered WorkerLine.tasks s.workers) : MatchedPipes W t s' :=
  Machine.matched_stutter
    { wired := h.wired
      pipe := fun i => by
        obtain ⟨hslot, hchan, hbuffer, hdone⟩ := h.pipe i
        exact ⟨by rw [hpipes]; exact hslot, by rw [hchans]; exact hchan,
          by rw [hbuffers]; exact hbuffer, by rw [hhandled]; exact hdone⟩
      connectLoop := h.connectLoop.trans hloop.symm
      queued := h.queued.trans hqueued.symm
      taken := h.taken.trans htaken.symm
      tasks := h.tasks.trans htasks.symm }

/-- A worker that has nothing of a pipe, before and behind, or still has the
same. -/
theorem pipes_worker_same (h : s.ShowsPipes t) {v : Fin W} {line : WorkerLine}
    (hpipes : s'.pipes = s.pipes) (hchans : s'.chans = s.chans)
    (hbuffers : s'.pipeSvBuffers = s.pipeSvBuffers) (hhandled : s'.pipeHandled = s.pipeHandled)
    (hloop : s'.connectLoop = s.connectLoop) (hqueued : s'.packets = s.packets)
    (hworkers : s'.workers = Function.update s.workers v line)
    (hpackets : line.packets = (s.workers v).packets) (htasks : line.tasks = (s.workers v).tasks) :
    MatchedPipes W t s' := by
  refine pipes_same h hpipes hchans hbuffers hhandled hloop hqueued ?_ ?_
  · rw [hworkers]
    exact Pool.gathered_update_eq rfl (by rw [hpackets])
  · rw [hworkers]
    exact Pool.gathered_update_eq rfl (by rw [htasks])

/-- A call on pipe `i`. The system changes no other pipe, and the packets and the
busy workers of the two stay the same together. -/
theorem pipes_call (h : s.ShowsPipes t) {i : Fin n} {c : ServerCall} {p : ServerPipe}
    (hp : (t.pipe i).step c = some p) (hpermit : t.permits W i c = true)
    (hothers : ∀ j, j ≠ i → s'.pipes j = s.pipes j ∧ s'.chans j = s.chans j ∧
      s'.pipeSvBuffers j = s.pipeSvBuffers j ∧ s'.pipeHandled j = s.pipeHandled j)
    (hshow : s'.ShowsPipe i p)
    (hloop : s'.connectLoop = s.connectLoop + Task6Server.loopStep c)
    (hqueued : (p.pipe.slot.queued : Multiset Packet) + s.packets =
      (t.pipe i).pipe.slot.queued + s'.packets)
    (htaken : (p.pipe.taken : Multiset Packet) + Pool.gathered WorkerLine.packets s.workers =
      (t.pipe i).pipe.taken + Pool.gathered WorkerLine.packets s'.workers)
    (htasks : (p.tasks : Multiset WorkerTask) + Pool.gathered WorkerLine.tasks s.workers =
      (t.pipe i).tasks + Pool.gathered WorkerLine.tasks s'.workers) : MatchedPipes W t s' := by
  have hstep : (Task6Server.machine W n).step t ⟨i, c⟩ =
      some { t.put i p with connectLoop := t.connectLoop + Task6Server.loopStep c } := by
    show Task6Server.step W t ⟨i, c⟩ = _
    rw [Task6Server.step_eq h.wired, if_pos hpermit, hp]
    rfl
  refine Machine.matched_step hstep ?_ trivial
  exact
    { wired := Task6Server.step_wired h.wired hstep
      pipe := fun j => by
        by_cases hj : j = i
        · subst hj
          have hself : ({ t.put j p with connectLoop := t.connectLoop + Task6Server.loopStep c } :
              Task6Server n).pipe j = p := Task6Server.pipe_put_self t j p
          rw [hself]
          exact hshow
        · have hother : ({ t.put i p with connectLoop := t.connectLoop + Task6Server.loopStep c } :
              Task6Server n).pipe j = t.pipe j := Task6Server.pipe_put_other t hj p
          obtain ⟨hpipe, hchan, hbuffer, hhandled⟩ := hothers j hj
          obtain ⟨hslot, hchan', hbuffer', hhandled'⟩ := h.pipe j
          rw [hother]
          exact ⟨by rw [hpipe]; exact hslot, hchan'.trans hchan.symm,
            hbuffer'.trans hbuffer.symm, hhandled'.trans hhandled.symm⟩
      connectLoop := by
        rw [hloop, ← h.connectLoop]
      queued := Pool.gathered_update_eq h.queued hqueued
      taken := Pool.gathered_update_eq h.taken htaken
      tasks := Pool.gathered_update_eq h.tasks htasks }

/-! ### The clients and Windows -/

/-- A call of the client: its end of the pipe moves. -/
theorem pipes_chan (h : s.ShowsPipes t) {i : Fin n} {c : ServerCall} {ch : Channel}
    (hp : (t.pipe i).step c = some { t.pipe i with chan := ch }) (hpermit : t.permits W i c = true)
    (hloop : Task6Server.loopStep c = 0) : MatchedPipes W t (s.setChan i ch) := by
  obtain ⟨hslot, -, hbuffer, hhandled⟩ := h.pipe i
  refine pipes_call h hp hpermit (fun j hj => ⟨rfl, ?_, rfl, rfl⟩) ⟨hslot, ?_, hbuffer, hhandled⟩
    (by rw [hloop]; rfl) rfl rfl rfl
  · simp [setChan, hj]
  · simp [setChan]

/-- A completed operation: its packet is queued here and there. -/
theorem pipes_queue (h : s.ShowsPipes t) {i : Fin n} {k : Nat} {packet : Packet} {c : ServerCall}
    {ch : Channel} {buffer : List Byte}
    (hp : (t.pipe i).step c = some { t.pipe i with
      pipe := { (t.pipe i).pipe with slot := (t.pipe i).pipe.slot.complete k packet }
      chan := ch
      buffer := buffer })
    (hpermit : t.permits W i c = true) (hloop : Task6Server.loopStep c = 0) :
    MatchedPipes W t { (s.setChan i ch).queuePacket i k packet with
      pipeSvBuffers := Function.update s.pipeSvBuffers i buffer } := by
  obtain ⟨hslot, -, -, hhandled⟩ := h.pipe i
  refine pipes_call h hp hpermit (fun j hj => ⟨?_, ?_, ?_, rfl⟩) ⟨?_, ?_, ?_, hhandled⟩
    (by rw [hloop]; rfl) ?_ rfl rfl
  · simp [queuePacket, setChan, hj]
  · simp [queuePacket, setChan, hj]
  · simp [hj]
  · dsimp only
    rw [hslot]
    simp [queuePacket, setChan, Slot.complete, Slot.withQueued]
  · simp [queuePacket, setChan]
  · simp
  · simp only [Slot.complete, packets, queuePacket, setChan, List.filterMap_append,
      List.filterMap_cons, List.filterMap_nil, IocpEntry.packet, ← Multiset.coe_add]
    abel

theorem pipes_complete (h : s.ShowsPipes t) {i : Fin n} {k : Nat}
    (hs : s.pipeStep (.complete i k) = some s') : MatchedPipes W t s' := by
  obtain ⟨hslot, hchan, hbuffer, -⟩ := h.pipe i
  have hpending : (t.pipe i).pipe.slot.pending = (s.pipes i).pending := by
    rw [hslot]
    rfl
  simp only [pipeStep] at hs
  split at hs
  · cases hs
  · rename_i op hop
    rw [← hpending] at hop
    split at hs
    · rename_i hkind
      split at hs
      · cases hs
      · rename_i hopen
        cases hs
        have hp : (t.pipe i).step (.complete k) = some { t.pipe i with
            pipe := { (t.pipe i).pipe with
              slot := (t.pipe i).pipe.slot.complete k ⟨op, errorSuccess, 0⟩ }
            chan := s.chans i
            buffer := s.pipeSvBuffers i } := by
          simp only [ServerPipe.step, hop, hkind, hchan, if_neg hopen, Pipe.step, Option.map_some]
          rw [← hchan, ← hbuffer]
        have hsame := pipes_queue h hp rfl rfl
        simpa [setChan, queuePacket, Function.update_eq_self] using hsame
    · rename_i hkind
      split at hs
      · cases hs
      · rename_i errorCode data ch htransfer
        cases hs
        have hp : (t.pipe i).step (.complete k) = some { t.pipe i with
            pipe := { (t.pipe i).pipe with
              slot := (t.pipe i).pipe.slot.complete k ⟨op, errorCode, data.length⟩ }
            chan := ch
            buffer := overwrite (s.pipeSvBuffers i) data } := by
          simp only [ServerPipe.step, hop, hkind, hchan, htransfer, Pipe.step, Option.map_some,
            hbuffer]
        exact pipes_queue h hp rfl rfl

theorem pipes_abort (h : s.ShowsPipes t) {i : Fin n} {k : Nat} {errorCode : DWORD}
    (hs : s.pipeStep (.abort i k errorCode) = some s') : MatchedPipes W t s' := by
  obtain ⟨hslot, hchan, hbuffer, -⟩ := h.pipe i
  have hpending : (t.pipe i).pipe.slot.pending = (s.pipes i).pending := by
    rw [hslot]
    rfl
  simp only [pipeStep] at hs
  split at hs
  · cases hs
  · rename_i hcode
    obtain ⟨op, hop, rfl⟩ := Option.map_eq_some_iff.mp hs
    rw [← hpending] at hop
    have hp : (t.pipe i).step (.abort k errorCode) = some { t.pipe i with
        pipe := { (t.pipe i).pipe with
          slot := (t.pipe i).pipe.slot.complete k ⟨op, errorCode, 0⟩ }
        chan := s.chans i
        buffer := s.pipeSvBuffers i } := by
      simp only [ServerPipe.step, if_neg hcode, Pipe.step, hop, Option.map_some]
      rw [← hchan, ← hbuffer]
    have hsame := pipes_queue h hp rfl rfl
    simpa [setChan, queuePacket, Function.update_eq_self] using hsame

theorem pipes_connect (h : s.ShowsPipes t) {i : Fin n} {r : CallResult}
    (hs : s.pipeStep (.connect i r) = some s') : MatchedPipes W t s' := by
  obtain ⟨hslot, hchan, hbuffer, hhandled⟩ := h.pipe i
  simp only [pipeStep] at hs
  split at hs
  · rename_i hloop
    rw [InPipeServer.connectInstance, InPipeServer.atIndex_of_lt] at hs
    have hcall := (s.pipes i).connectInstance_withQueued (t.pipe i).pipe.slot.queued r
    rw [← hslot] at hcall
    cases hout : (s.pipes i).connectInstance r with
    | mk out slot =>
      rw [hout] at hs hcall
      cases out with
      | error ex => cases hs
      | ok u =>
        cases hs
        have hp : (t.pipe i).step (.connect r) = some { t.pipe i with
            pipe := { (t.pipe i).pipe with
              slot := slot.withQueued (t.pipe i).pipe.slot.queued } } := by
          simp only [ServerPipe.step, hcall]
        refine pipes_call h hp (decide_eq_true (hloop.trans h.connectLoop.symm))
          (fun j hj => ⟨?_, rfl, rfl, rfl⟩) ⟨?_, hchan, hbuffer, hhandled⟩ rfl rfl rfl rfl
        · simp [hj]
        · simp [Slot.withQueued]
  · cases hs

theorem pipes_pipes (h : s.ShowsPipes t) {e : SystemEvent C W n} (hs : s.pipeStep e = some s') :
    MatchedPipes W t s' := by
  cases e with
  | openPipe i =>
    obtain ⟨-, hchan, -, -⟩ := h.pipe i
    obtain ⟨hopen, hs⟩ := Option.ite_none_right_eq_some.mp hs
    cases hs
    refine pipes_chan h (c := .openPipe) ?_ rfl rfl
    simp only [ServerPipe.step, hchan, if_pos hopen]
  | write i m =>
    obtain ⟨-, hchan, -, -⟩ := h.pipe i
    obtain ⟨hopen, hs⟩ := Option.ite_none_right_eq_some.mp hs
    cases hs
    refine pipes_chan h (c := .write m) ?_ rfl rfl
    simp only [ServerPipe.step, hchan, if_pos hopen]
  | closePipe i =>
    obtain ⟨-, hchan, -, -⟩ := h.pipe i
    obtain ⟨hopen, hs⟩ := Option.ite_none_right_eq_some.mp hs
    cases hs
    refine pipes_chan h (c := .close) ?_ rfl rfl
    simp only [ServerPipe.step, hchan, if_pos hopen]
  | connect i r => exact pipes_connect h hs
  | complete i k => exact pipes_complete h hs
  | abort i k errorCode => exact pipes_abort h hs
  | client _ _ | waiterWake | waiterFails | waiterPost _ | dequeue _ | iocpFails _ | check _
  | service _ _ | terminate _ | handle _ | restart _ _ | shared _ _ | stop | post
  | waitReturns _ => cases hs

/-! ### The workers -/

/-- A line of a worker that is with pipe `i`. -/
theorem pipes_line (h : s.ShowsPipes t) {v : Fin W} {i : Fin n} {c : ServerCall} {p : ServerPipe}
    {line : WorkerLine} (hp : (t.pipe i).step c = some p) (hpermit : t.permits W i c = true)
    (hloop : Task6Server.loopStep c = 0)
    (hothers : ∀ j, j ≠ i → s'.pipes j = s.pipes j ∧ s'.chans j = s.chans j ∧
      s'.pipeSvBuffers j = s.pipeSvBuffers j ∧ s'.pipeHandled j = s.pipeHandled j)
    (hshow : s'.ShowsPipe i p) (hloop' : s'.connectLoop = s.connectLoop)
    (hworkers : s'.workers = Function.update s.workers v line)
    (hqueued : (p.pipe.slot.queued : Multiset Packet) + s.packets =
      (t.pipe i).pipe.slot.queued + s'.packets)
    (htaken : (p.pipe.taken : Multiset Packet) + (s.workers v).packets =
      (t.pipe i).pipe.taken + line.packets)
    (htasks : (p.tasks : Multiset WorkerTask) + (s.workers v).tasks =
      (t.pipe i).tasks + line.tasks) : MatchedPipes W t s' := by
  refine pipes_call h hp hpermit hothers hshow (by rw [hloop, hloop', Nat.add_zero]) hqueued ?_ ?_
  · rw [hworkers]
    exact Pool.gathered_balance htaken
  · rw [hworkers]
    exact Pool.gathered_balance htasks

/-- A blocked worker is with no pipe. -/
theorem busy_lt (h : s.ShowsPipes t) {v : Fin W} (hpc : s.workers v = .blocked) : t.busy < W := by
  have htaken := congrArg Multiset.card h.taken
  have htasks := congrArg Multiset.card h.tasks
  simp only [Pool.card_gathered] at htaken htasks
  have hbusy : t.busy = Pool.total (fun line : WorkerLine => line.packets.card + line.tasks.card)
      s.workers := by
    rw [Pool.total_add, ← htaken, ← htasks, Task6Server.busy, Pool.total_add]
    rfl
  rw [hbusy]
  exact Pool.total_lt_card (fun u => (s.workers u).card_le_one) (i := v) (by rw [hpc]; rfl)

theorem pipes_dequeue (h : s.ShowsPipes t) {v : Fin W} {entry : IocpEntry}
    {rest : List IocpEntry} (hpc : s.workers v = .blocked) (hiocp : s.iocp = entry :: rest)
    (hloop : s.connectLoop = n) :
    MatchedPipes W t { s.setWorker v (.checking (some entry)) with iocp := rest } := by
  cases hentry : entry.packet with
  | none =>
    have hqueued : s.packets = (rest.filterMap IocpEntry.packet : List Packet) := by
      rw [packets, hiocp, List.filterMap_cons, hentry]
    refine pipes_worker_same h rfl rfl rfl rfl rfl hqueued.symm rfl ?_ ?_
    · simp [WorkerLine.packets, hentry, hpc]
    · rw [hpc]
      rfl
  | some packet =>
    have hqueued : s.packets = {packet} + (rest.filterMap IocpEntry.packet : List Packet) := by
      rw [packets, hiocp, List.filterMap_cons, hentry]
      rfl
    -- the packet is one of a pipe
    have hmem : packet ∈ Pool.gathered (fun slot : Slot => (slot.queued : Multiset Packet))
        t.sys.pipes := by
      rw [h.queued, hqueued]
      exact Multiset.mem_add.mpr (.inl (Multiset.mem_singleton_self packet))
    obtain ⟨i, hi⟩ := Pool.mem_gathered.mp hmem
    obtain ⟨k, hk⟩ := List.mem_iff_getElem?.mp (Multiset.mem_coe.mp hi)
    obtain ⟨hslot, hchan, hbuffer, hhandled⟩ := h.pipe i
    have hp : (t.pipe i).step (.take k) = some { t.pipe i with
        pipe := ⟨(t.pipe i).pipe.slot.dequeue k, (t.pipe i).pipe.taken ++ [packet]⟩ } := by
      have hk' : (t.pipe i).pipe.slot.queued[k]? = some packet := hk
      simp only [ServerPipe.step, Pipe.step, hk', Option.map_some]
    refine pipes_line h hp (decide_eq_true ⟨h.connectLoop.trans hloop, busy_lt h hpc⟩) rfl
      (fun j hj => ⟨rfl, rfl, rfl, rfl⟩) ⟨?_, hchan, hbuffer, hhandled⟩ rfl rfl ?_ ?_ ?_
    · dsimp only
      rw [hslot]
      rfl
    · rw [hqueued, ← add_assoc]
      exact congrArg (· + _) (Pool.coe_eraseIdx_add hk)
    · rw [hpc, ← Multiset.coe_add]
      simp [WorkerLine.packets, hentry]
    · rw [hpc]
      rfl

/-- The packet a worker has is one of a pipe, taken there. -/
theorem exists_taken (h : s.ShowsPipes t) {v : Fin W} {packet : Packet}
    (hpc : packet ∈ (s.workers v).packets) :
    ∃ (i : Fin n) (k : Nat), (t.pipe i).pipe.taken[k]? = some packet := by
  have hmem : packet ∈ Pool.gathered (fun packets : List Packet => (packets : Multiset Packet))
      t.sys.taken := by
    rw [h.taken]
    exact Pool.mem_gathered.mpr ⟨v, hpc⟩
  obtain ⟨i, hi⟩ := Pool.mem_gathered.mp hmem
  obtain ⟨k, hk⟩ := List.mem_iff_getElem?.mp (Multiset.mem_coe.mp hi)
  exact ⟨i, k, hk⟩

/-- And where it is behind `service`: the result is one of that pipe. -/
theorem exists_task (h : s.ShowsPipes t) {v : Fin W} {task : WorkerTask}
    (hpc : s.workers v = .pipeTask task) :
    ∃ (i : Fin n) (k : Nat), (t.pipe i).tasks[k]? = some task ∧ task.result.instanceIndex = i := by
  have hmem : task ∈ Pool.gathered (fun tasks : List WorkerTask => (tasks : Multiset WorkerTask))
      t.tasks := by
    rw [h.tasks]
    refine Pool.mem_gathered.mpr ⟨v, ?_⟩
    rw [hpc]
    exact Multiset.mem_singleton_self task
  obtain ⟨i, hi⟩ := Pool.mem_gathered.mp hmem
  obtain ⟨k, hk⟩ := List.mem_iff_getElem?.mp (Multiset.mem_coe.mp hi)
  exact ⟨i, k, hk, h.wired.2 i task hi⟩

theorem pipes_service (h : s.ShowsPipes t) {v : Fin W} {packet : Packet} {r : CallResult}
    (hpc : s.workers v = .servicing packet)
    (hs : s.workerStep (.service v r) = some s') : MatchedPipes W t s' := by
  have hmem : packet ∈ (s.workers v).packets := by
    rw [hpc]
    exact Multiset.mem_singleton_self packet
  obtain ⟨i, k, hk⟩ := exists_taken h hmem
  obtain ⟨hslot, hchan, hbuffer, hhandled⟩ := h.pipe i
  -- the OVERLAPPED of the packet leads to the pipe it was taken from
  have hinst : (t.pipe i).pipe.slot.inst.connReadOverlapped = ⟨i, i⟩ := (h.wired.1 i).1
  have hlp : packet.op.lpOverlapped = ⟨i, i⟩ :=
    (h.wired.1 i).2 _ (List.mem_append_right _ (List.mem_map_of_mem (List.mem_of_getElem? hk)))
  have hinst' : (s.pipes i).inst.connReadOverlapped = ⟨i, i⟩ := by
    rw [← hinst, hslot]
    rfl
  have hroute := InPipeServer.service_of_wired hinst' hlp packet.bytesTransferred
    packet.errorCode r
  have hout := (s.pipes i).serviceSwitch_withQueued (t.pipe i).pipe.slot.queued r i
    packet.bytesTransferred packet.errorCode
  rw [← hslot] at hout
  simp only [workerStep, hpc, hroute, Option.some.injEq] at hs
  subst hs
  have hp : (t.pipe i).step (.service k r) = some { t.pipe i with
      pipe := ⟨((s.pipes i).serviceSwitch i packet.bytesTransferred packet.errorCode
        r).2.withQueued (t.pipe i).pipe.slot.queued, (t.pipe i).pipe.taken.eraseIdx k⟩
      tasks := (t.pipe i).tasks ++ WorkerTask.ofService ((s.pipes i).serviceSwitch i
        packet.bytesTransferred packet.errorCode r).1 } := by
    simp only [ServerPipe.step, hk, Option.map_some, hinst, hout]
  refine pipes_line h hp rfl rfl (fun j hj => ⟨?_, rfl, rfl, rfl⟩) ⟨?_, hchan, hbuffer, hhandled⟩
    rfl rfl rfl ?_ ?_
  · simp [hj]
  · simp [Slot.withQueued]
  · rw [hpc]
    refine (Pool.coe_eraseIdx_add hk).trans ?_
    cases ((s.pipes i).serviceSwitch i packet.bytesTransferred packet.errorCode r).1 with
    | ok result => exact (add_zero _).symm
    | error ex => exact (add_zero _).symm
  · rw [hpc, ← Multiset.coe_add]
    cases ((s.pipes i).serviceSwitch i packet.bytesTransferred packet.errorCode r).1 with
    | ok result => exact add_zero _
    | error ex => exact add_zero _

theorem pipes_terminate (h : s.ShowsPipes t) {v : Fin W} {result : AsyncResult}
    (hpc : s.workers v = .pipeTask (.serviced result))
    (hs : s.workerStep (.terminate v) = some s') : MatchedPipes W t s' := by
  obtain ⟨i, k, hk, hindex⟩ := exists_task h hpc
  obtain ⟨hslot, hchan, hbuffer, hhandled⟩ := h.pipe i
  have hindex : result.instanceIndex = i := hindex
  have hlt : result.instanceIndex < n := hindex ▸ i.isLt
  have hi : (⟨result.instanceIndex, hlt⟩ : Fin n) = i := Fin.ext hindex
  simp only [workerStep, hpc, dif_pos hlt, hi] at hs
  split at hs
  · rename_i hroom
    cases hs
    have hp : (t.pipe i).step (.terminate k) = some { t.pipe i with
        buffer := (s.pipeSvBuffers i).set result.bytesTransferred 0
        tasks := (t.pipe i).tasks.set k (.terminated result) } := by
      simp only [ServerPipe.step, hk, hbuffer, if_pos hroom]
    refine pipes_line h hp rfl rfl (fun j hj => ⟨rfl, rfl, ?_, rfl⟩) ⟨hslot, hchan, ?_, hhandled⟩
      rfl rfl rfl ?_ ?_
    · simp [hj]
    · simp
    · rw [hpc]
      rfl
    · rw [hpc]
      exact Pool.coe_set_add hk _
  · rename_i hroom
    cases hs
    have hp : (t.pipe i).step (.terminate k) =
        some { t.pipe i with tasks := (t.pipe i).tasks.eraseIdx k } := by
      simp only [ServerPipe.step, hk, hbuffer, if_neg hroom]
    refine pipes_line h hp rfl rfl (fun j hj => ⟨rfl, rfl, rfl, rfl⟩)
      ⟨hslot, hchan, hbuffer, hhandled⟩ rfl rfl rfl ?_ ?_
    · rw [hpc]
      rfl
    · rw [hpc]
      exact (Pool.coe_eraseIdx_add hk).trans (add_zero _).symm

theorem pipes_handle (h : s.ShowsPipes t) {v : Fin W} {result : AsyncResult}
    (hpc : s.workers v = .pipeTask (.terminated result))
    (hs : s.workerStep (.handle v) = some s') : MatchedPipes W t s' := by
  obtain ⟨i, k, hk, hindex⟩ := exists_task h hpc
  obtain ⟨hslot, hchan, hbuffer, hhandled⟩ := h.pipe i
  have hindex : result.instanceIndex = i := hindex
  have hlt : result.instanceIndex < n := hindex ▸ i.isLt
  have hi : (⟨result.instanceIndex, hlt⟩ : Fin n) = i := Fin.ext hindex
  simp only [workerStep, hpc, dif_pos hlt, hi] at hs
  cases hs
  have hp : (t.pipe i).step (.handle k) = some { t.pipe i with
      handled := s.pipeHandled i ++ [text (s.pipeSvBuffers i)]
      tasks := (t.pipe i).tasks.set k (.handled result) } := by
    simp only [ServerPipe.step, hk, hbuffer, hhandled]
  refine pipes_line h hp rfl rfl (fun j hj => ⟨rfl, rfl, rfl, ?_⟩) ⟨hslot, hchan, hbuffer, ?_⟩
    rfl rfl rfl ?_ ?_
  · simp [hj]
  · simp
  · rw [hpc]
    rfl
  · rw [hpc]
    exact Pool.coe_set_add hk _

/-- The call that starts the next operation reaches the pipe of the result, and
does not look at the port. -/
theorem startNext_eq {pipes : Fin n → Slot} {result : AsyncResult} {i : Fin n}
    (hindex : result.instanceIndex = i) (r : CallResult) :
    startNext pipes result r =
      Function.update pipes i (ServerPipe.startNext (pipes i) result r) := by
  unfold startNext ServerPipe.startNext
  rw [hindex]
  by_cases hu : result.newPipeState = PipeState.unconnected
  · rw [if_pos hu, if_pos hu, InPipeServer.connectInstance, InPipeServer.atIndex_of_lt]
  · rw [if_neg hu, if_neg hu]
    by_cases hc : result.newPipeState = PipeState.connected
    · rw [if_pos hc, if_pos hc, InPipeServer.readInstance, InPipeServer.atIndex_of_lt]
    · rw [if_neg hc, if_neg hc, Function.update_eq_self]

theorem startNext_withQueued (slot : Slot) (queued : List Packet) (result : AsyncResult)
    (r : CallResult) : ServerPipe.startNext (slot.withQueued queued) result r =
      (ServerPipe.startNext slot result r).withQueued queued := by
  unfold ServerPipe.startNext
  rw [Slot.connectInstance_withQueued, Slot.readInstance_withQueued]
  split_ifs <;> rfl

theorem pipes_restart (h : s.ShowsPipes t) {v : Fin W} {result : AsyncResult} {r : CallResult}
    (hpc : s.workers v = .pipeTask (.handled result))
    (hs : s.workerStep (.restart v r) = some s') : MatchedPipes W t s' := by
  obtain ⟨i, k, hk, hindex⟩ := exists_task h hpc
  obtain ⟨hslot, hchan, hbuffer, hhandled⟩ := h.pipe i
  have hindex : result.instanceIndex = i := hindex
  have hlt : result.instanceIndex < n := hindex ▸ i.isLt
  have hi : (⟨result.instanceIndex, hlt⟩ : Fin n) = i := Fin.ext hindex
  simp only [workerStep, hpc, dif_pos hlt, hi] at hs
  split at hs
  · cases hs
  · rename_i hanswers
    cases hs
    have hp : (t.pipe i).step (.restart k r) = some { t.pipe i with
        pipe := { (t.pipe i).pipe with
          slot := (ServerPipe.startNext (s.pipes i) result r).withQueued
            (t.pipe i).pipe.slot.queued }
        tasks := (t.pipe i).tasks.eraseIdx k } := by
      simp only [ServerPipe.step, hk, hchan, if_neg hanswers]
      rw [← startNext_withQueued, ← hslot]
    refine pipes_line h hp rfl rfl (fun j hj => ⟨?_, rfl, rfl, rfl⟩)
      ⟨?_, hchan, hbuffer, hhandled⟩ rfl rfl rfl ?_ ?_
    · rw [startNext_eq hindex]
      simp [hj]
    · rw [startNext_eq hindex]
      simp [Slot.withQueued]
    · rw [hpc]
      rfl
    · rw [hpc]
      exact (Pool.coe_eraseIdx_add hk).trans (add_zero _).symm

theorem pipes_worker (h : s.ShowsPipes t) {e : SystemEvent C W n}
    (hs : s.workerStep e = some s') : MatchedPipes W t s' := by
  unfold workerStep at hs
  split at hs
  · split at hs
    · rename_i hpc hiocp
      split at hs
      · rename_i hloop
        cases hs
        exact pipes_dequeue h hpc hiocp hloop
      · cases hs
    · cases hs
  · split at hs
    · rename_i hpc
      split at hs
      · cases hs
        exact pipes_worker_same h rfl rfl rfl rfl rfl rfl rfl (by rw [hpc]; rfl) (by rw [hpc]; rfl)
      · cases hs
    · cases hs
  · split at hs
    · rename_i hpc
      cases hs
      refine pipes_worker_same h rfl rfl rfl rfl rfl rfl rfl ?_ ?_
      · rw [packets_nextLine, hpc]
      · rw [tasks_nextLine, hpc]
        rfl
    · cases hs
  · rename_i v r
    split at hs
    · rename_i packet hpc
      refine pipes_service h hpc (r := r) ?_
      simp only [workerStep, hpc]
      exact hs
    · cases hs
  · rename_i v
    split at hs
    · rename_i result hpc
      refine pipes_terminate h hpc ?_
      simp only [workerStep, hpc]
      exact hs
    · cases hs
  · rename_i v
    split at hs
    · rename_i result hpc
      refine pipes_handle h hpc ?_
      simp only [workerStep, hpc]
      exact hs
    · cases hs
  · rename_i v r
    split at hs
    · rename_i result hpc
      refine pipes_restart h hpc (r := r) ?_
      simp only [workerStep, hpc]
      exact hs
    · cases hs
  · cases hs

/-- The waiter posts no packet of a pipe. -/
theorem pipes_waiter {build : Build} (h : s.ShowsPipes t) {e : SystemEvent C W n}
    (hs : s.waiterStep build e = some s') : MatchedPipes W t s' := by
  rcases waiterStep_cases hs with ⟨write, rfl⟩ | ⟨write, rfl⟩ | ⟨waiter, running, -, rfl⟩
  · exact pipes_same h rfl rfl rfl rfl rfl rfl rfl rfl
  · exact pipes_same h rfl rfl rfl rfl rfl (packets_concat s (.sharedMemory _) rfl) rfl rfl
  · exact pipes_same h rfl rfl rfl rfl rfl rfl rfl rfl

theorem pipes_shared {build : Build} (h : s.ShowsPipes t) {v : Fin W} {line : SharedLine}
    (hs : s.sharedStep build v line = some s') : MatchedPipes W t s' := by
  unfold sharedStep at hs
  split at hs
  · rename_i pc hpc
    obtain ⟨hh, -, rfl⟩ := Option.map_eq_some_iff.mp hs
    refine pipes_worker_same h rfl rfl rfl rfl rfl rfl rfl ?_ ?_
    · rw [WorkerLine.packets_ofPc, hpc]
      rfl
    · rw [WorkerLine.tasks_ofPc, hpc]
      rfl
  · cases hs

theorem pipes_stop {build : Build} (h : s.ShowsPipes t) {e : SystemEvent C W n}
    (hs : s.stopStep build e = some s') : MatchedPipes W t s' := by
  rcases stopStep_cases hs with ⟨pc, -, rfl⟩ | ⟨pc, rfl⟩ | ⟨pipeServer, pc, running, -, rfl⟩
  · exact pipes_same h rfl rfl rfl rfl rfl rfl rfl rfl
  · exact pipes_same h rfl rfl rfl rfl rfl (packets_concat s .shutdown rfl) rfl rfl
  · exact pipes_same h rfl rfl rfl rfl rfl rfl rfl rfl

theorem matched_pipeServer {build : Build} (h : s.ShowsPipes t) {e : SystemEvent C W n}
    (hs : step build s e = some s') : MatchedPipes W t s' := by
  rcases step_cases hs with ⟨i, line, -, hs⟩ |
    ⟨-, hs | hs | rfl | hs | ⟨v, line, -, hs⟩ | hs⟩
  · obtain ⟨hh, -, rfl⟩ := Option.map_eq_some_iff.mp hs
    exact pipes_same h rfl rfl rfl rfl rfl rfl rfl rfl
  · exact pipes_pipes h hs
  · exact pipes_waiter h hs
  · exact pipes_same h rfl rfl rfl rfl rfl rfl rfl rfl
  · exact pipes_worker h hs
  · exact pipes_shared h hs
  · exact pipes_stop h hs

end Matching

/-- The system refines the pipes and their workers. -/
theorem pipes_refined (build : Build) (C W n : Nat) :
    (machine build C W n).Simulates (Task6Server.machine W n) ShowsPipes fun _ => True where
  init := shows_pipes_init C W n
  step _ _ _ _ h hs := matched_pipeServer h hs

/-! ## What the clients of the pipes rely on -/

/-- The packet is one of pipe `index`. -/
def ofPipe (index : Nat) (packet : Packet) : Prop :=
  indexFromOverlappedLp packet.op.lpOverlapped = index

instance (index : Nat) : DecidablePred (ofPipe index) := fun _ =>
  inferInstanceAs (Decidable (_ = _))

/-- The packets of pipe `i` that workers have. -/
def takenAt (s : Task6System C W n) (i : Fin n) : Nat :=
  (Pool.gathered WorkerLine.packets s.workers).countP (ofPipe i)

/-- The workers that are at its buffer. -/
def busyAt (s : Task6System C W n) (i : Fin n) : Nat :=
  (Pool.gathered WorkerLine.tasks s.workers).countP fun task => task.result.instanceIndex = i.val

/-- Pipe `i` within the system: it is in one hand at most, of Windows, of the port or
of one worker; the terminator has its place in the buffer; and what fits a read
comes whole, once and in order. -/
structure PipeDelivered (s : Task6System C W n) (i : Fin n) : Prop where
  oneHand : (s.pipes i).pending.length + s.packets.countP (ofPipe i) + s.takenAt i + s.busyAt i ≤ 1
  inBounds : ∀ v task, s.workers v = .pipeTask task → task.result.instanceIndex = i →
    task.result.bytesTransferred < (s.pipeSvBuffers i).length
  inOrder : (∀ m ∈ (s.chans i).written, m.text.length ≤ readCapacity) →
    s.pipeHandled i <+: (s.chans i).written.map ClientMessg.text

end Task6System

theorem ServerPipe.At.length_le_one {p : ServerPipe} {h : Holder} (hat : p.At h) :
    p.pipe.slot.pending.length + p.pipe.slot.queued.length + p.pipe.taken.length
      + p.tasks.length ≤ 1 := by
  rw [hat.pending, hat.queued, hat.taken, hat.tasks]
  cases h <;> simp

namespace Task6System

variable {C W n : Nat} {s : Task6System C W n} {t : Task6Server n}

/-- The packets of other pipes carry other indices. -/
theorem countP_wired {P Q : Type} {w : P → Multiset Q} {f : Fin n → P} {index : Q → Nat}
    (hw : ∀ j, ∀ q ∈ w (f j), index q = j) (i : Fin n) :
    (Pool.gathered w f).countP (fun q => index q = i.val) ≤ (w (f i)).card := by
  rw [Pool.countP_gathered, Pool.total_eq_single (i := i)]
  · exact Multiset.countP_le_card _ _
  · intro j hj
    refine Multiset.countP_eq_zero.mpr fun q hq hindex => hj ?_
    exact Fin.ext ((hw j q hq).symm.trans hindex)

theorem oneHand_of_shows (h : s.ShowsPipes t) (hw : t.Watched) (i : Fin n) :
    (s.pipes i).pending.length + s.packets.countP (ofPipe i) + s.takenAt i + s.busyAt i ≤ 1 := by
  obtain ⟨holder, ph, hl, -⟩ := hw.life i
  have hone := hl.held.length_le_one
  have hpending : (t.pipe i).pipe.slot.pending = (s.pipes i).pending := by
    rw [(h.pipe i).slot]
    rfl
  have hwired : ∀ j, ∀ op ∈ (t.pipe j).pipe.outstanding,
      indexFromOverlappedLp op.lpOverlapped = j := fun j op hop =>
    congrArg RaiiIndexedOverlapped.index ((hw.wired.1 j).2 op hop)
  have hqueued : s.packets.countP (ofPipe i) ≤ (t.pipe i).pipe.slot.queued.length := by
    rw [← h.queued]
    refine countP_wired (fun j packet hmem => hwired j packet.op ?_) i
    exact List.mem_append_left _ (List.mem_append_right _
      (List.mem_map_of_mem (Multiset.mem_coe.mp hmem)))
  have htaken : s.takenAt i ≤ (t.pipe i).pipe.taken.length := by
    rw [takenAt, ← h.taken]
    refine countP_wired (fun j packet hmem => hwired j packet.op ?_) i
    exact List.mem_append_right _ (List.mem_map_of_mem (Multiset.mem_coe.mp hmem))
  have htasks : s.busyAt i ≤ (t.pipe i).tasks.length := by
    rw [busyAt, ← h.tasks]
    exact countP_wired (fun j task hmem => hw.wired.2 j task (Multiset.mem_coe.mp hmem)) i
  rw [hpending] at hone
  omega

theorem delivered_of_shows (h : s.ShowsPipes t) (hw : t.Watched) (i : Fin n) :
    s.PipeDelivered i := by
  obtain ⟨-, hchan, hbuffer, hhandled⟩ := h.pipe i
  obtain ⟨holder, ph, hl, -⟩ := hw.life i
  refine ⟨oneHand_of_shows h hw i, fun v task hpc hindex => ?_, fun hshort => ?_⟩
  · -- a worker at the buffer is the one whose hand the pipe is in
    obtain ⟨j, k, hk, hj⟩ := exists_task h hpc
    obtain rfl : j = i := Fin.ext (hj.symm.trans hindex)
    obtain rfl := hl.held.of_mem_tasks (List.mem_of_getElem? hk)
    rw [← hbuffer]
    exact hl.room
  · rw [← hhandled, ← hchan]
    refine hl.handled_prefix fun m hm => hshort m ?_
    rw [← hchan]
    exact hm

/-- Every state shows a state of the pipes in which they are watched over. -/
theorem watched_always (build : Build) (C W n : Nat) (es : List (SystemEvent C W n)) :
    (machine build C W n).Always (fun s => ∃ t, s.ShowsPipes t ∧ t.Watched) (init C W n) es := by
  refine (pipes_refined build C W n).always (P := Task6Server.Watched) (fun fs _ => ?_)
    (fun s t h hw => ⟨t, h, hw⟩) es
  exact Machine.always_of_invariant (I := Task6Server.Watched) (fun _ h => h)
    (fun _ _ _ => Task6Server.watched_step) (Task6Server.watched_init n) fs

/-- **The pipes are delivered in the system**: whatever goes on at the other pipes
and at the mapping, in whatever order the packets of all of them come to the port,
and whenever the server is stopped. -/
theorem system_delivered (build : Build) (C W n : Nat) (es : List (SystemEvent C W n)) :
    (machine build C W n).Always (fun s => ∀ i, s.PipeDelivered i) (init C W n) es :=
  (watched_always build C W n es).mono fun _ ⟨_, h, hw⟩ i => delivered_of_shows h hw i

end Task6System

end Task6
