import Task6.Pipes.ServiceResult

/-!
# Disconnecting a pipe that is connecting

`disconnectInstance` on a pipe that is `_UNCONNECTED_CONNECTING` races with the
client: the connect operation may still be pending, or have completed already.
A `DisconnectRace` is a run through this race, from any reachable state in which
the pipe is connecting to the service call for the connect packet, with
anything in between. `resolved_iff` says which races the pair of functions
resolves.
-/

namespace Task6

open Win32

/-- `CancelIoEx` on the OVERLAPPED of an instance finds the operations pending on
it. -/
structure Slot.CancelAnswer (slot : Slot) (r : CallResult) : Prop where
  found : slot.pending ≠ [] → r.bResult = true
  notFound : slot.pending = [] → r = ⟨false, errorNotFound⟩

open PipeSystem in
/-- A run through the race: `before` is the state in which instance `index` is
disconnected, `after` the one in which the packet of its connect operation is
serviced. `cancel` answers `CancelIoEx`, `answer` answers the
`DisconnectNamedPipe` of `service`. -/
structure DisconnectRace (n : Nat) where
  index : Fin n
  first : List PipeEvent
  before : PipeSystem n
  reached : (machine n).exec (init n) first = some before
  connecting : (before.pipes index).inst.state = PipeState.unconnectedConnecting
  op : AsyncOp
  owed : op ∈ (before.pipe index).outstanding
  isConnect : op.kind = .connect
  cancel : CallResult
  cancelAnswer : (before.pipes index).CancelAnswer cancel
  between : List PipeEvent
  after : PipeSystem n
  ran : (machine n).exec before (⟨index, .disconnect cancel⟩ :: between) = some after
  packet : Packet
  taken : packet ∈ after.taken index
  ofConnect : packet.op = op
  answer : CallResult

/-! ## One instance -/

namespace Slot

variable {slot : Slot}

theorem disconnectInstance_connecting (h : slot.InPhase .connecting) (r : CallResult) :
    ((slot.disconnectInstance r).1 = .ok () ↔ r.bResult = true) ∧
      (r.bResult = true → (slot.disconnectInstance r).2.InPhase .disconnectingConnecting) := by
  have hstate : slot.inst.state = Phase.connecting.bits := h
  unfold disconnectInstance
  rw [hstate, if_neg (by decide), if_pos (by decide)]
  cases hr : r.bResult with
  | false => simp
  | true =>
    refine ⟨by simp, fun _ => ?_⟩
    show (slot.markDisconnected).inst.state = _
    unfold markDisconnected
    rw [hstate]
    rfl

/-- `service` lets a connection go by in `_DISCONNECTING_READING`. -/
theorem serviceSwitch_connected_of_reading (h : slot.InPhase .disconnectingReading)
    (index bytesTransferred : Nat) (errorCode : DWORD) (r : CallResult) :
    (slot.serviceSwitch index bytesTransferred errorCode r).2.connected = slot.connected := by
  unfold serviceSwitch
  simp only [show slot.inst.state = Phase.disconnectingReading.bits from h]
  rw [if_neg (by decide), if_neg (by decide), if_neg (by decide), if_pos (by decide)]
  rfl

theorem canConnect_iff {ph : Phase} (h : slot.InPhase ph) :
    slot.canConnect = true ↔ ph = .unconnected := by
  rw [canConnect_eq h, decide_eq_true_iff]

end Slot

/-- `service` reports a zombie and an unconnected pipe. -/
theorem Phase.serviceResult_zombie {ph : Phase} {index bytesTransferred : Nat}
    {errorCode : DWORD} :
    (∃ result, ph.serviceResult index bytesTransferred errorCode = .ok result ∧
        result.bZombieOperation = true ∧ result.newPipeState = PipeState.unconnected) ↔
      ph = .disconnectingConnecting ∧ errorCode ≠ errorSuccess ∨ ph = .disconnectingReading := by
  cases ph with
  | unconnected | connected | connecting | reading => simp [serviceResult]
  | disconnectingReading => simp [serviceResult]
  | disconnectingConnecting =>
    by_cases hs : errorCode = errorSuccess
    · simp [serviceResult, hs]
    · simp [serviceResult, hs]

namespace Pipe

variable {p p' : Pipe}

/-! ## Operations and the disconnects before them -/

/-- Every operation outstanding was started before now. -/
def StartedBefore (p : Pipe) : Prop := ∀ op ∈ p.outstanding, op.startedAt ≤ p.slot.disconnects

theorem disconnects_le {c : PipeCall} (h : ∃ ph, p.slot.InPhase ph) (hs : p.step c = some p') :
    p.slot.disconnects ≤ p'.slot.disconnects := by
  obtain ⟨ph, hph⟩ := h
  cases c with
  | connect r =>
    cases hs
    exact Nat.le_of_eq (Slot.connectInstance_disconnects ..).symm
  | read size r =>
    cases hs
    exact Nat.le_of_eq (Slot.readInstance_disconnects ..).symm
  | disconnect r =>
    cases hs
    rcases Slot.disconnectInstance_phase hph r with ⟨-, -, -, -, hcount⟩ | ⟨-, hcount⟩
    · exact hcount ▸ Nat.le_succ _
    · exact Nat.le_of_eq hcount.symm
  | complete k errorCode bytesTransferred =>
    obtain ⟨op, -, rfl⟩ := Option.map_eq_some_iff.mp hs
    exact Nat.le_refl _
  | dequeue k =>
    obtain ⟨packet, -, rfl⟩ := Option.map_eq_some_iff.mp hs
    exact Nat.le_refl _
  | service k r =>
    obtain ⟨packet, -, rfl⟩ := Option.map_eq_some_iff.mp hs
    exact Nat.le_of_eq (Slot.serviceSwitch_phase hph _ _ _ r).2.2.symm

theorem issued_startedAt {slot : Slot} {kind : Operation} {capacity : Nat} {r : CallResult}
    {op : AsyncOp} (h : op ∈ slot.issued kind capacity r) : op.startedAt = slot.disconnects := by
  unfold Slot.issued at h
  split at h
  · rw [List.mem_singleton.mp h]
  · cases h

/-- An operation outstanding behind a step was outstanding before it, or was
started by it. -/
theorem mem_outstanding_step {c : PipeCall} (hs : p.step c = some p') {op : AsyncOp}
    (hop : op ∈ p'.outstanding) : op ∈ p.outstanding ∨ op.startedAt = p.slot.disconnects := by
  cases c with
  | connect r =>
    have hmem := (outstanding_connect hs).mem_iff.mp hop
    rcases List.mem_append.mp hmem with hold | hnew
    · exact .inl hold
    · split at hnew
      · exact .inr (issued_startedAt hnew)
      · cases hnew
  | read size r =>
    have hmem := (outstanding_read hs).mem_iff.mp hop
    rcases List.mem_append.mp hmem with hold | hnew
    · exact .inl hold
    · split at hnew
      · exact .inr (issued_startedAt hnew)
      · cases hnew
  | disconnect r => exact .inl (outstanding_disconnect hs ▸ hop)
  | complete k errorCode bytesTransferred => exact .inl ((outstanding_complete hs).mem_iff.mp hop)
  | dequeue k => exact .inl ((outstanding_dequeue hs).mem_iff.mp hop)
  | service k r =>
    obtain ⟨packet, -, hperm⟩ := outstanding_service hs
    exact .inl (hperm.mem_iff.mp (List.mem_cons_of_mem _ hop))

theorem startedBefore_step {c : PipeCall} (hph : ∃ ph, p.slot.InPhase ph)
    (h : p.StartedBefore) (hs : p.step c = some p') : p'.StartedBefore := by
  intro op hop
  have hle := disconnects_le hph hs
  rcases mem_outstanding_step hs hop with hold | hnew
  · exact (h op hold).trans hle
  · rw [hnew]
    exact hle

/-! ## An instance that waits for one connect packet -/

/-- The instance waits for the packet of `op`, or has seen it: what is
outstanding then was started later, at the count `d` of disconnects or above. -/
def AwaitsConnect (op : AsyncOp) (d : Nat) (p : Pipe) : Prop :=
  d ≤ p.slot.disconnects ∧ ((p.slot.InPhase .disconnectingConnecting ∧ p.outstanding = [op]) ∨
    ∀ o ∈ p.outstanding, d ≤ o.startedAt)

/-- In `_DISCONNECTING_CONNECTING` every call but `service` is refused. -/
theorem step_disconnectingConnecting {c : PipeCall} {op : AsyncOp}
    (hph : p.slot.InPhase .disconnectingConnecting) (hout : p.outstanding = [op])
    (hs : p.step c = some p') :
    p'.slot.InPhase .disconnectingConnecting ∧ p'.outstanding = [op] ∨ p'.outstanding = [] := by
  cases c with
  | connect r =>
    have hperm := outstanding_connect hs
    rw [Slot.canConnect_eq hph, hout] at hperm
    cases hs
    exact .inl ⟨Slot.connectInstance_phase hph r, List.perm_singleton.mp (by simpa using hperm)⟩
  | read size r =>
    have hperm := outstanding_read hs
    rw [Slot.canRead_eq hph, hout] at hperm
    cases hs
    exact .inl ⟨Slot.readInstance_phase hph size r, List.perm_singleton.mp (by simpa using hperm)⟩
  | disconnect r =>
    have hsame := outstanding_disconnect hs
    cases hs
    rcases Slot.disconnectInstance_phase hph r with ⟨-, q, hq, -, -⟩ | ⟨hphase, -⟩
    · cases hq
    · exact .inl ⟨hphase, hsame.trans hout⟩
  | complete k errorCode bytesTransferred =>
    have hperm := outstanding_complete hs
    obtain ⟨o, -, rfl⟩ := Option.map_eq_some_iff.mp hs
    rw [hout] at hperm
    exact .inl ⟨hph, List.perm_singleton.mp hperm⟩
  | dequeue k =>
    have hperm := outstanding_dequeue hs
    obtain ⟨packet, -, rfl⟩ := Option.map_eq_some_iff.mp hs
    rw [hout] at hperm
    exact .inl ⟨hph, List.perm_singleton.mp hperm⟩
  | service k r =>
    obtain ⟨packet, -, hperm⟩ := outstanding_service hs
    rw [hout] at hperm
    have hlen : _ + 1 = 0 + 1 := hperm.length_eq
    exact .inr (List.eq_nil_of_length_eq_zero (Nat.succ.inj hlen))

theorem awaitsConnect_step {op : AsyncOp} {d : Nat} {c : PipeCall}
    (hph : ∃ ph, p.slot.InPhase ph) (h : p.AwaitsConnect op d) (hs : p.step c = some p') :
    p'.AwaitsConnect op d := by
  obtain ⟨hd, hcases⟩ := h
  refine ⟨hd.trans (disconnects_le hph hs), ?_⟩
  rcases hcases with ⟨hdc, hout⟩ | hlater
  · rcases step_disconnectingConnecting hdc hout hs with hstay | hnil
    · exact .inl hstay
    · refine .inr fun o ho => ?_
      rw [hnil] at ho
      cases ho
  · refine .inr fun o ho => ?_
    rcases mem_outstanding_step hs ho with hold | hnew
    · exact hlater o hold
    · rw [hnew]
      exact hd

end Pipe

/-! ## The race -/

namespace DisconnectRace

open PipeSystem

variable {n : Nat}

/-- What `disconnectInstance` and `service` owe the instance: neither throws, a
connection that came about is ended, and the instance can be connected again. -/
structure Resolved (race : DisconnectRace n) : Prop where
  returns : (InPipeServer.disconnectInstance race.before.pipes race.index race.cancel).1 = .ok ()
  marks : ((InPipeServer.disconnectInstance race.before.pipes race.index race.cancel).2
    race.index).inst.state = PipeState.disconnectingConnecting
  serviced : ∃ result, (race.after.served race.packet race.answer).1 = .ok result ∧
    result.bZombieOperation = true ∧ result.newPipeState = PipeState.unconnected
  disconnected : race.packet.errorCode = errorSuccess →
    ((race.after.served race.packet race.answer).2 race.index).connected = false
  reconnectable : ((race.after.served race.packet race.answer).2 race.index).canConnect = true

/-- The state in which the packet is serviced lets `service` end the operation
of a disconnected instance. -/
def ServiceEnds (race : DisconnectRace n) : Prop :=
  let slot := race.after.pipes race.index
  slot.inst.state = PipeState.disconnectingConnecting ∧ race.packet.errorCode ≠ errorSuccess ∨
    slot.inst.state = PipeState.disconnectingReading ∧
      (race.packet.errorCode = errorSuccess → slot.connected = false)

section

variable (race : DisconnectRace n)

theorem phased_before : Phased race.before :=
  Machine.exec_invariant phased_step phased_init race.reached

theorem phased_after : Phased race.after :=
  Machine.exec_invariant phased_step race.phased_before race.ran

theorem inPhase_before : (race.before.pipes race.index).InPhase .connecting := race.connecting

/-- `disconnectInstance` does its part when `CancelIoEx` finds an operation. -/
theorem disconnect_iff :
    ((InPipeServer.disconnectInstance race.before.pipes race.index race.cancel).1 = .ok () ∧
      ((InPipeServer.disconnectInstance race.before.pipes race.index race.cancel).2
        race.index).inst.state = PipeState.disconnectingConnecting) ↔
      (race.before.pipes race.index).pending ≠ [] := by
  obtain ⟨hok, hphase⟩ :=
    Slot.disconnectInstance_connecting race.inPhase_before race.cancel
  unfold InPipeServer.disconnectInstance
  rw [InPipeServer.atIndex_of_lt, hok]
  simp only [Function.update_self]
  constructor
  · rintro ⟨hr, -⟩ hnil
    rw [race.cancelAnswer.notFound hnil] at hr
    cases hr
  · intro hpending
    have hr := race.cancelAnswer.found hpending
    exact ⟨hr, hphase hr⟩

/-- `service` does its part in the right state. -/
theorem service_iff :
    ((∃ result, (race.after.served race.packet race.answer).1 = .ok result ∧
        result.bZombieOperation = true ∧ result.newPipeState = PipeState.unconnected) ∧
      (race.packet.errorCode = errorSuccess →
        ((race.after.served race.packet race.answer).2 race.index).connected = false) ∧
      ((race.after.served race.packet race.answer).2 race.index).canConnect = true) ↔
      race.ServiceEnds := by
  obtain ⟨ph, hphase⟩ := race.phased_after.phase race.index
  have hph : (race.after.pipes race.index).InPhase ph := hphase
  have hres : (race.after.served race.packet race.answer).1 = _ :=
    service_phase race.phased_after.wired hph race.taken race.answer
  have hnext := (Slot.serviceSwitch_phase hph race.index race.packet.bytesTransferred
    race.packet.errorCode race.answer).2.1
  rw [hres, served_self race.phased_after.wired race.taken, Phase.serviceResult_zombie,
    Slot.canConnect_iff hnext]
  unfold ServiceEnds
  dsimp only
  rw [show PipeState.disconnectingConnecting = Phase.disconnectingConnecting.bits from rfl,
    show PipeState.disconnectingReading = Phase.disconnectingReading.bits from rfl,
    hph.state_eq_iff, hph.state_eq_iff]
  constructor
  · rintro ⟨⟨hdc, hfail⟩ | rfl, hclosed, -⟩
    · exact .inl ⟨hdc, hfail⟩
    · rw [Slot.serviceSwitch_connected_of_reading hph] at hclosed
      exact .inr ⟨rfl, hclosed⟩
  · rintro (⟨rfl, hfail⟩ | ⟨rfl, hclosed⟩)
    · exact ⟨.inl ⟨rfl, hfail⟩, fun hs => absurd hs hfail, if_neg hfail⟩
    · refine ⟨.inr rfl, ?_, rfl⟩
      rw [Slot.serviceSwitch_connected_of_reading hph]
      exact hclosed

theorem startedBefore_before : (race.before.pipe race.index).StartedBefore := by
  have hinv : Phased race.before ∧ ∀ i, (race.before.pipe i).StartedBefore := by
    refine Machine.exec_invariant (I := fun s => Phased s ∧ ∀ i, (s.pipe i).StartedBefore)
      ?_ ⟨phased_init, fun i op hop => by cases hop⟩ race.reached
    rintro s e s' ⟨hph, hbefore⟩ hs
    refine ⟨phased_step s e s' hph hs, fun i => ?_⟩
    obtain ⟨hself, hother⟩ := step_local hph.wired hs
    by_cases hi : i.val = e.index
    · exact Pipe.startedBefore_step (hph.phase i) (hbefore i) (hself i hi)
    · rw [hother i hi]
      exact hbefore i
  exact hinv.2 race.index

/-- With nothing but the connect outstanding, and `CancelIoEx` successful, the
instance stays `_DISCONNECTING_CONNECTING` until the packet is serviced, in
whatever order things happen. -/
theorem disconnecting_after (hpending : (race.before.pipes race.index).pending ≠ [])
    (honly : (race.before.pipe race.index).outstanding = [race.op]) :
    (race.after.pipes race.index).InPhase .disconnectingConnecting := by
  have hbefore := race.startedBefore_before race.op race.owed
  have hr := race.cancelAnswer.found hpending
  obtain ⟨s₁, hexec, hrest⟩ := Machine.exec_cons_some.mp race.ran
  have hs₁ : step race.before ⟨race.index, .disconnect race.cancel⟩ = some s₁ := hexec
  have hstep := (step_local race.phased_before.wired hs₁).1 race.index rfl
  -- behind the disconnect the instance waits for the packet
  have hawaits : (s₁.pipe race.index).AwaitsConnect race.op (race.op.startedAt + 1) := by
    have hout := (Pipe.outstanding_disconnect hstep).trans honly
    have hslot := congrArg Pipe.slot (Option.some.inj hstep)
    rcases Slot.disconnectInstance_phase race.inPhase_before race.cancel with
      ⟨-, q, hq, hphase, hcount⟩ | ⟨hphase, -⟩
    · cases hq
      refine ⟨?_, .inl ⟨hslot ▸ hphase, hout⟩⟩
      rw [← hslot]
      exact hcount ▸ Nat.succ_le_succ hbefore
    · have hdc := (Slot.disconnectInstance_connecting race.inPhase_before race.cancel).2 hr
      cases Phase.bits_inj.mp (hphase.symm.trans hdc)
  have hinv : Phased race.after ∧
      (race.after.pipe race.index).AwaitsConnect race.op (race.op.startedAt + 1) := by
    refine Machine.exec_invariant (I := fun s => Phased s ∧
      (s.pipe race.index).AwaitsConnect race.op (race.op.startedAt + 1)) ?_
      ⟨phased_step _ _ _ race.phased_before hs₁, hawaits⟩ hrest
    rintro s e s' ⟨hph, haw⟩ hs
    refine ⟨phased_step s e s' hph hs, ?_⟩
    obtain ⟨hself, hother⟩ := step_local hph.wired hs
    by_cases hi : race.index.val = e.index
    · exact Pipe.awaitsConnect_step (hph.phase race.index) haw (hself race.index hi)
    · rw [hother race.index hi]
      exact haw
  rcases hinv.2.2 with ⟨hdc, -⟩ | hlater
  · exact hdc
  · -- the packet is still there, so its operation was not started later
    have hle := hlater race.packet.op (mem_outstanding_of_taken race.taken)
    rw [race.ofConnect] at hle
    exact absurd hle (Nat.not_succ_le_self _)

end

/-- **The race, exactly.** A race is resolved if and only if `CancelIoEx` still
finds an operation pending and the packet is serviced in a state that ends it.
Where the connect is the only operation outstanding on the instance, that is to
say: it had not completed when it was cancelled, and it did not complete
successfully afterwards. -/
theorem resolved_iff (race : DisconnectRace n) :
    (race.Resolved ↔ (race.before.pipes race.index).pending ≠ [] ∧ race.ServiceEnds) ∧
      ((race.before.pipe race.index).outstanding = [race.op] →
        (race.Resolved ↔ (race.before.pipes race.index).pending ≠ [] ∧
          race.packet.errorCode ≠ errorSuccess)) := by
  have hall : race.Resolved ↔
      (race.before.pipes race.index).pending ≠ [] ∧ race.ServiceEnds := by
    rw [← race.disconnect_iff, ← race.service_iff]
    constructor
    · intro h
      exact ⟨⟨h.returns, h.marks⟩, h.serviced, h.disconnected, h.reconnectable⟩
    · rintro ⟨⟨hret, hmark⟩, hserv, hdis, hrec⟩
      exact ⟨hret, hmark, hserv, hdis, hrec⟩
  refine ⟨hall, fun honly => ?_⟩
  rw [hall]
  refine and_congr_right fun hpending => ?_
  have hstate : (race.after.pipes race.index).inst.state = PipeState.disconnectingConnecting :=
    race.disconnecting_after hpending honly
  unfold ServiceEnds
  dsimp only
  rw [hstate]
  constructor
  · rintro (⟨-, hfail⟩ | ⟨hbad, -⟩)
    · exact hfail
    · cases Phase.bits_inj (p := .disconnectingConnecting) (q := .disconnectingReading) |>.mp hbad
  · intro hfail
    exact .inl ⟨rfl, hfail⟩

/-! ## Two races that are not resolved -/

/-- The client connected before the disconnect: `CancelIoEx` finds nothing. -/
def clientBeforeCancel : DisconnectRace 1 where
  index := ⟨0, Nat.zero_lt_one⟩
  first := [⟨0, .connect ⟨false, errorIoPending⟩⟩, ⟨0, .complete 0 errorSuccess 0⟩]
  before := _
  reached := rfl
  connecting := rfl
  op := ⟨.connect, ⟨0, 0⟩, 0, 0⟩
  owed := by decide
  isConnect := rfl
  cancel := ⟨false, errorNotFound⟩
  cancelAnswer := ⟨fun h => absurd rfl h, fun _ => rfl⟩
  between := [⟨0, .dequeue 0⟩]
  after := _
  ran := rfl
  packet := ⟨⟨.connect, ⟨0, 0⟩, 0, 0⟩, errorSuccess, 0⟩
  taken := by decide
  ofConnect := rfl
  answer := ⟨true, 0⟩

/-- The client connects although `CancelIoEx` succeeded. -/
def clientDespiteCancel : DisconnectRace 1 where
  index := ⟨0, Nat.zero_lt_one⟩
  first := [⟨0, .connect ⟨false, errorIoPending⟩⟩]
  before := _
  reached := rfl
  connecting := rfl
  op := ⟨.connect, ⟨0, 0⟩, 0, 0⟩
  owed := by decide
  isConnect := rfl
  cancel := ⟨true, 0⟩
  cancelAnswer := ⟨fun _ => rfl, fun h => by cases h⟩
  between := [⟨0, .complete 0 errorSuccess 0⟩, ⟨0, .dequeue 0⟩]
  after := _
  ran := rfl
  packet := ⟨⟨.connect, ⟨0, 0⟩, 0, 0⟩, errorSuccess, 0⟩
  taken := by decide
  ofConnect := rfl
  answer := ⟨true, 0⟩

/-- In the first race `disconnectInstance` throws, in the second `service`. -/
theorem resolved_broken : ¬ clientBeforeCancel.Resolved ∧ ¬ clientDespiteCancel.Resolved := by
  constructor
  · intro h
    cases h.returns
  · intro h
    obtain ⟨result, hok, -, -⟩ := h.serviced
    cases hok

end DisconnectRace

end Task6
