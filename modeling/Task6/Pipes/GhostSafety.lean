import Task6.Pipes.PipeSystem
import Task6.Pipes.SlotPhase

/-!
# Ghost operations

`InPipeServer` uses one OVERLAPPED per instance for connecting and for reading,
and tells an operation of a closed connection (a ghost) from a live one by the
DISCONNECTING states alone. `GhostSafe` is what that design promises of an
instance; `ghostSafe_iff` says exactly when a run keeps the promise: it is lost
by a start that throws although Windows queues its packet, and by nothing else.
For `ReadFile` this is the immediate failure with the warning `ERROR_MORE_DATA`
(a message longer than the buffer was already waiting).

The invariant is `Pipe.Tracked`: the bits encode a phase, and the only operation
outstanding is the one the phase expects, a ghost exactly when the phase says
so.
-/

namespace Task6

open Win32

namespace Phase

/-- The operation that may be underway in a phase: its kind, and whether it is a
ghost. -/
def expects : Phase → Option (Operation × Bool)
  | unconnected | connected => none
  | connecting => some (.connect, false)
  | reading => some (.read, false)
  | disconnectingConnecting => some (.connect, true)
  | disconnectingReading => some (.read, true)

theorem expects_eq_none {ph : Phase} : ph.expects = none ↔ ph.flagged = false := by
  cases ph <;> simp [expects, flagged]

/-- A disconnect turns the operation underway into a ghost. -/
theorem expects_afterDisconnect {ph q : Phase} (h : ph.afterDisconnect = some q) :
    q.expects = ph.expects.map fun o => (o.1, true) := by
  cases ph <;> cases h <;> rfl

end Phase

namespace Pipe

/-- A start that throws although Windows queues its packet: the operation is in
flight and the state does not say so. -/
def LeavesStray (p : Pipe) : PipeCall → Prop
  | .connect r => p.slot.canConnect = true ∧ r.bResult = true
  | .read _ r => p.slot.canRead = true ∧ r.bResult = false ∧ r.lastError = errorMoreData
  | _ => False

/-- The invariant of one instance. -/
def Tracked (p : Pipe) : Prop :=
  ∃ ph, p.slot.InPhase ph ∧ p.outstanding.length ≤ 1 ∧
    ∀ op ∈ p.outstanding, op.startedAt ≤ p.slot.disconnects ∧
      ph.expects = some (op.kind, decide (op.startedAt < p.slot.disconnects))

theorem tracked_create (index : Nat) : Tracked (create index) :=
  ⟨.unconnected, rfl, Nat.zero_le _, fun _ h => by cases h⟩

/-- An instance whose phase expects nothing has nothing outstanding. -/
theorem outstanding_nil_of_expects {p : Pipe} {ph : Phase}
    (hops : ∀ op ∈ p.outstanding, op.startedAt ≤ p.slot.disconnects ∧
      ph.expects = some (op.kind, decide (op.startedAt < p.slot.disconnects)))
    (hnone : ph.expects = none) : p.outstanding = [] := by
  refine List.eq_nil_iff_forall_not_mem.mpr fun op hop => ?_
  have := (hops op hop).2
  rw [hnone] at this
  cases this

/-- Adding nothing and staying in the phase keeps an instance tracked. -/
theorem Tracked.of_perm {p p' : Pipe} {ph : Phase} (hph : p'.slot.InPhase ph)
    (hlen : p.outstanding.length ≤ 1)
    (hops : ∀ op ∈ p.outstanding, op.startedAt ≤ p.slot.disconnects ∧
      ph.expects = some (op.kind, decide (op.startedAt < p.slot.disconnects)))
    (hperm : p'.outstanding.Perm p.outstanding)
    (hdis : p'.slot.disconnects = p.slot.disconnects) : Tracked p' := by
  refine ⟨ph, hph, hperm.length_eq ▸ hlen, fun op hop => ?_⟩
  rw [hdis]
  exact hops op (hperm.mem_iff.mp hop)

/-- A call whose guard lets it through, on an instance with nothing outstanding,
is tracked when the phase it leaves expects what it issues. -/
theorem Tracked.of_issued {p p' : Pipe} {ph : Phase} {kind : Operation} {capacity : Nat}
    {r : CallResult} (hph : p'.slot.InPhase ph) (hnil : p.outstanding = [])
    (hperm : p'.outstanding.Perm (p.outstanding ++ p.slot.issued kind capacity r))
    (hdis : p'.slot.disconnects = p.slot.disconnects)
    (hexp : Slot.queuesPacket kind r = true → ph.expects = some (kind, false)) :
    Tracked p' := by
  rw [hnil, List.nil_append] at hperm
  refine ⟨ph, hph, ?_, fun op hop => ?_⟩
  · rw [hperm.length_eq]
    unfold Slot.issued
    split <;> simp
  · have hmem := hperm.mem_iff.mp hop
    unfold Slot.issued at hmem
    split at hmem
    · rename_i hq
      rw [List.mem_singleton.mp hmem, hdis, hexp hq]
      simp
    · cases hmem

theorem tracked_connect {p p' : Pipe} {r : CallResult} (h : p.Tracked)
    (hs : p.step (.connect r) = some p') (hok : ¬ p.LeavesStray (.connect r)) :
    p'.Tracked := by
  obtain ⟨ph, hph, hlen, hops⟩ := h
  have hperm := outstanding_connect hs
  have hguard := Slot.canConnect_eq hph
  have hnext := Slot.connectInstance_phase hph r
  cases hs
  by_cases hu : ph = .unconnected
  · subst hu
    have hcan : p.slot.canConnect = true := by rw [hguard]; rfl
    have hfalse : r.bResult = false := by
      cases hb : r.bResult with
      | false => rfl
      | true => exact absurd ⟨hcan, hb⟩ hok
    rw [hcan, if_pos rfl] at hperm
    refine Tracked.of_issued hnext (outstanding_nil_of_expects hops rfl) hperm
      (Slot.connectInstance_disconnects _ _) fun hq => ?_
    -- without TRUE, a packet is queued for `ERROR_IO_PENDING` only, and then
    -- the call does not throw
    have hpend : r.lastError = errorIoPending := by
      simpa [Slot.queuesPacket, hfalse] using hq
    rw [if_pos ⟨rfl, by simp [Slot.connectThrows, hfalse, hpend]⟩]
    rfl
  · rw [hguard, decide_eq_false hu] at hperm
    rw [if_neg (fun hc => hu hc.1)] at hnext
    exact Tracked.of_perm hnext hlen hops (by simpa using hperm)
      (Slot.connectInstance_disconnects _ _)

theorem tracked_read {p p' : Pipe} {size : Nat} {r : CallResult} (h : p.Tracked)
    (hs : p.step (.read size r) = some p') (hok : ¬ p.LeavesStray (.read size r)) :
    p'.Tracked := by
  obtain ⟨ph, hph, hlen, hops⟩ := h
  have hperm := outstanding_read hs
  have hguard := Slot.canRead_eq hph
  have hnext := Slot.readInstance_phase hph size r
  cases hs
  by_cases hc : ph = .connected
  · subst hc
    have hcan : p.slot.canRead = true := by rw [hguard]; rfl
    rw [hcan, if_pos rfl] at hperm
    refine Tracked.of_issued hnext (outstanding_nil_of_expects hops rfl) hperm
      (Slot.readInstance_disconnects _ _ _) fun hq => ?_
    -- the only queued packet whose call throws is that of `ERROR_MORE_DATA`
    have hnot : Slot.readThrows r = false := by
      cases hb : r.bResult with
      | true => simp [Slot.readThrows, hb]
      | false =>
        have hmore : r.lastError ≠ errorMoreData := fun hm => hok ⟨hcan, hb, hm⟩
        simp only [Slot.queuesPacket, hb, Bool.false_or, Bool.or_eq_true, beq_iff_eq,
          beq_self_eq_true, Bool.true_and, hmore, or_false] at hq
        simp [Slot.readThrows, hq]
    rw [if_pos ⟨rfl, hnot⟩]
    rfl
  · rw [hguard, decide_eq_false hc] at hperm
    rw [if_neg (fun h => hc h.1)] at hnext
    exact Tracked.of_perm hnext hlen hops (by simpa using hperm)
      (Slot.readInstance_disconnects _ _ _)

theorem tracked_disconnect {p p' : Pipe} {r : CallResult} (h : p.Tracked)
    (hs : p.step (.disconnect r) = some p') : p'.Tracked := by
  obtain ⟨ph, hph, hlen, hops⟩ := h
  have hout := outstanding_disconnect hs
  have hnext := Slot.disconnectInstance_phase hph r
  cases hs
  rcases hnext with ⟨-, q, hq, hphase, hcount⟩ | ⟨hphase, hcount⟩
  · refine ⟨q, hphase, hout ▸ hlen, fun op hop => ?_⟩
    rw [hout] at hop
    obtain ⟨hle, hexp⟩ := hops op hop
    have hlt : op.startedAt < p.slot.disconnects + 1 := Nat.lt_succ_of_le hle
    show op.startedAt ≤ (p.slot.disconnectInstance r).2.disconnects ∧ _ =
      some (op.kind, decide (op.startedAt < (p.slot.disconnectInstance r).2.disconnects))
    rw [hcount, Phase.expects_afterDisconnect hq, hexp]
    exact ⟨Nat.le_of_lt hlt, by simp [hlt]⟩
  · exact Tracked.of_perm hphase hlen hops (hout ▸ List.Perm.refl _) hcount

theorem tracked_service {p p' : Pipe} {k : Nat} {r : CallResult} (h : p.Tracked)
    (hs : p.step (.service k r) = some p') : p'.Tracked := by
  obtain ⟨ph, hph, hlen, hops⟩ := h
  obtain ⟨packet, hpacket, hperm⟩ := outstanding_service hs
  obtain ⟨packet', hpacket', rfl⟩ := Option.map_eq_some_iff.mp hs
  cases hpacket.symm.trans hpacket'
  obtain ⟨-, hphase, -⟩ := Slot.serviceSwitch_phase hph
    p.slot.inst.connReadOverlapped.index packet.bytesTransferred packet.errorCode r
  have hnil := List.eq_nil_of_length_eq_zero
    (Nat.le_zero.mp (Nat.le_of_succ_le_succ (hperm.length_eq ▸ hlen)))
  refine ⟨_, hphase, ?_, ?_⟩
  · rw [hnil]
    exact Nat.zero_le _
  · rw [hnil]
    intro _ h
    cases h

/-- Every step but one that leaves a stray packet keeps an instance tracked. -/
theorem tracked_step (p : Pipe) (c : PipeCall) (p' : Pipe) (h : p.Tracked)
    (hs : p.step c = some p') (hok : ¬ p.LeavesStray c) : p'.Tracked := by
  cases c with
  | connect r => exact tracked_connect h hs hok
  | read size r => exact tracked_read h hs hok
  | disconnect r => exact tracked_disconnect h hs
  | complete k errorCode bytesTransferred =>
    obtain ⟨ph, hph, hlen, hops⟩ := h
    have hperm := outstanding_complete hs
    obtain ⟨op, -, rfl⟩ := Option.map_eq_some_iff.mp hs
    exact Tracked.of_perm (show Slot.InPhase _ ph from hph) hlen hops hperm rfl
  | dequeue k =>
    obtain ⟨ph, hph, hlen, hops⟩ := h
    have hperm := outstanding_dequeue hs
    obtain ⟨packet, -, rfl⟩ := Option.map_eq_some_iff.mp hs
    exact Tracked.of_perm (show Slot.InPhase _ ph from hph) hlen hops hperm rfl
  | service k r => exact tracked_service h hs

end Pipe

/-! ## The promise, over whole runs -/

namespace PipeSystem

variable {n : Nat}

/-- What the design promises of instance `i`: its OVERLAPPED carries at most one
operation, and none that the state does not show; a call that Windows is asked
to start never finds it in use; `service` never meets a state it does not
expect, and calls an operation a zombie exactly when a disconnect of the
instance succeeded after it was started. -/
structure GhostSafe (s : PipeSystem n) (i : Fin n) : Prop where
  single : (s.pipe i).outstanding.length ≤ 1
  quiet : (s.pipes i).inst.state.carries PipeState.flagConnecting = false →
    (s.pipes i).inst.state.carries PipeState.flagReading = false →
      (s.pipe i).outstanding = []
  unused : (s.pipes i).canConnect = true ∨ (s.pipes i).canRead = true →
    (s.pipe i).outstanding = []
  valid : ∀ packet ∈ s.taken i, ∀ r,
    (InPipeServer.service s.pipes (some packet.op.lpOverlapped) packet.bytesTransferred
      packet.errorCode r).1 ≠ .error (.runtimeError "Invalid pipe state.")
  zombie : ∀ packet ∈ s.taken i, ∀ r result,
    (InPipeServer.service s.pipes (some packet.op.lpOverlapped) packet.bytesTransferred
      packet.errorCode r).1 = .ok result →
        (result.bZombieOperation = true ↔ packet.op.startedAt < (s.pipes i).disconnects)

theorem mem_outstanding_of_taken {s : PipeSystem n} {i : Fin n} {packet : Packet}
    (h : packet ∈ s.taken i) : packet.op ∈ (s.pipe i).outstanding :=
  List.mem_append_right _ (List.mem_map_of_mem h)

/-- `service` for a packet of an instance in phase `ph`. -/
theorem service_phase {s : PipeSystem n} (hw : Wired s) {i : Fin n} {ph : Phase}
    (hph : (s.pipes i).InPhase ph) {packet : Packet} (hmem : packet ∈ s.taken i)
    (r : CallResult) :
    (InPipeServer.service s.pipes (some packet.op.lpOverlapped) packet.bytesTransferred
      packet.errorCode r).1
      = ph.serviceResult i packet.bytesTransferred packet.errorCode := by
  rw [InPipeServer.service_of_wired (hw i).1 ((hw i).2 _ (mem_outstanding_of_taken hmem))]
  exact (Slot.serviceSwitch_phase hph i _ _ r).1

theorem ghostSafe_of_tracked (s : PipeSystem n) (i : Fin n) (hw : Wired s)
    (h : (s.pipe i).Tracked) : GhostSafe s i := by
  obtain ⟨ph, hphase, hlen, hops⟩ := h
  have hph : (s.pipes i).InPhase ph := hphase
  have hstate : (s.pipes i).inst.state = ph.bits := hph
  refine { single := hlen, quiet := ?_, unused := ?_, valid := ?_, zombie := ?_ }
  · intro hc hr
    refine Pipe.outstanding_nil_of_expects hops (Phase.expects_eq_none.mpr ?_)
    rw [← ph.carries_flags, ← hstate, hc, hr]
    rfl
  · intro hcan
    rw [Slot.canConnect_eq hph, Slot.canRead_eq hph, decide_eq_true_iff,
      decide_eq_true_iff] at hcan
    rcases hcan with rfl | rfl
    · exact Pipe.outstanding_nil_of_expects hops rfl
    · exact Pipe.outstanding_nil_of_expects hops rfl
  · intro packet hmem r
    have hexp := (hops _ (mem_outstanding_of_taken hmem)).2
    rw [service_phase hw hph hmem r]
    cases ph with
    | unconnected | connected => cases hexp
    | connecting | reading | disconnectingReading => simp [Phase.serviceResult]
    | disconnectingConnecting =>
      simp only [Phase.serviceResult]
      split <;> simp
  · intro packet hmem r result hres
    -- both sides are read off the phase: what it expects, and what it answers
    have hexp := (hops _ (mem_outstanding_of_taken hmem)).2
    rw [service_phase hw hph hmem r] at hres
    have hghost : ph.expects.map Prod.snd = some result.bZombieOperation := by
      cases ph with
      | unconnected | connected => cases hres
      | connecting | reading | disconnectingReading =>
        cases hres
        rfl
      | disconnectingConnecting =>
        simp only [Phase.serviceResult] at hres
        split at hres
        · cases hres
        · cases hres
          rfl
    rw [hexp] at hghost
    rw [← Option.some.inj hghost, decide_eq_true_iff]
    rfl

/-- After a start that leaves a stray packet the promise is broken. -/
theorem not_ghostSafe_of_stray (p : Pipe) (c : PipeCall) (s' : PipeSystem n) (i : Fin n)
    (h : p.Tracked) (hs : p.step c = some (s'.pipe i)) (hstray : ¬ ¬ p.LeavesStray c) :
    ¬ GhostSafe s' i := by
  obtain ⟨ph, hph, -, -⟩ := h
  have hstray := not_not.mp hstray
  intro hsafe
  cases c with
  | connect r =>
    obtain ⟨hcan, hr⟩ := hstray
    -- the state carries no flag, but the packet is to come
    have hu : ph = .unconnected := by simpa [Slot.canConnect_eq hph] using hcan
    subst hu
    have hperm := Pipe.outstanding_connect hs
    have hnext := Slot.connectInstance_phase hph r
    rw [if_neg (by simp [Slot.connectThrows, hr])] at hnext
    have hslot : (p.slot.connectInstance r).2 = s'.pipes i :=
      congrArg Pipe.slot (Option.some.inj hs)
    have hstate : (s'.pipes i).inst.state = Phase.unconnected.bits := hslot ▸ hnext
    rw [hsafe.quiet (by rw [hstate]; decide) (by rw [hstate]; decide), if_pos hcan] at hperm
    simpa [Slot.issued, Slot.queuesPacket, hr] using hperm.length_eq
  | read size r =>
    obtain ⟨hcan, hr, hmore⟩ := hstray
    have hc : ph = .connected := by simpa [Slot.canRead_eq hph] using hcan
    subst hc
    have hperm := Pipe.outstanding_read hs
    have hnext := Slot.readInstance_phase hph size r
    rw [if_neg (by simp [Slot.readThrows, hr, hmore, errorMoreData, errorIoPending])] at hnext
    have hslot : (p.slot.readInstance size r).2 = s'.pipes i :=
      congrArg Pipe.slot (Option.some.inj hs)
    have hstate : (s'.pipes i).inst.state = Phase.connected.bits := hslot ▸ hnext
    rw [hsafe.quiet (by rw [hstate]; decide) (by rw [hstate]; decide), if_pos hcan] at hperm
    simpa [Slot.issued, Slot.queuesPacket, hr, hmore] using hperm.length_eq
  | disconnect r => exact hstray
  | complete k errorCode bytesTransferred => exact hstray
  | dequeue k => exact hstray
  | service k r => exact hstray

/-- **Ghost-operation safety, exactly**: for any number of instances and any
schedule of calls, Windows' answers and completions, every instance is ghost
safe throughout the run if and only if no start of the run throws while its
packet is queued. -/
theorem ghostSafe_iff (n : Nat) (es : List PipeEvent) :
    (machine n).Always (fun s => ∀ i, GhostSafe s i) (init n) es ↔
      (machine n).EachStep
        (fun s e => ∀ i : Fin n, i.val = e.index → ¬ (s.pipe i).LeavesStray e.call)
        (init n) es :=
  always_iff_of_local (Q := fun p c => ¬ p.LeavesStray c) Pipe.tracked_create
    ghostSafe_of_tracked Pipe.tracked_step not_ghostSafe_of_stray es

/-- A client writes 65536 bytes before the server reads: `ReadFile` fails at
once with `ERROR_MORE_DATA`, its packet is queued, `readInstance` throws. -/
def longMessageWaiting : List PipeEvent :=
  [⟨0, .connect ⟨false, errorIoPending⟩⟩, ⟨0, .complete 0 errorSuccess 0⟩, ⟨0, .dequeue 0⟩,
    ⟨0, .service 0 ⟨true, 0⟩⟩, ⟨0, .read 65535 ⟨false, errorMoreData⟩⟩]

/-- The promise is not kept by every run. -/
theorem ghostSafe_broken :
    ¬ (machine 1).Always (fun s => ∀ i, GhostSafe s i) (init 1) longMessageWaiting := by
  obtain ⟨s, hs, hstate, hone⟩ : ∃ s, (machine 1).exec (init 1) longMessageWaiting = some s ∧
      (s.pipes 0).inst.state = PipeState.connected ∧ (s.pipe 0).outstanding.length = 1 :=
    ⟨_, rfl, by decide, by decide⟩
  refine Machine.not_always_of_exec hs fun hsafe => ?_
  rw [(hsafe 0).quiet (by rw [hstate]; decide) (by rw [hstate]; decide)] at hone
  cases hone

end PipeSystem

end Task6
