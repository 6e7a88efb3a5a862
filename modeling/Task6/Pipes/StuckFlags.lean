import Task6.Pipes.GhostSafety

/-!
# Flags that nothing will clear

`FLAG_CONNECTING` and `FLAG_READING` are cleared by `service` alone, so an
instance that carries one without a packet to come is stuck for ever.
`flagOwed_iff` says exactly which steps of a run lead there: a `connectInstance`
answered `ERROR_PIPE_CONNECTED` (a client was faster than the call, and Windows
queues nothing), the late success of a connect that is being disconnected
(`service` throws and leaves the state), and a start on top of a stray packet.
-/

namespace Task6

open Win32

namespace Slot

/-- The state shows an operation underway. -/
def isFlagged (slot : Slot) : Bool :=
  slot.inst.state.carries PipeState.flagConnecting ||
    slot.inst.state.carries PipeState.flagReading

theorem isFlagged_eq {slot : Slot} {ph : Phase} (h : slot.InPhase ph) :
    slot.isFlagged = ph.flagged := by
  unfold isFlagged
  rw [h]
  exact ph.carries_flags

end Slot

namespace Pipe

/-- A flag stands for exactly one packet pending in Windows, queued, or taken
and not yet serviced. -/
def FlagOwed (p : Pipe) : Prop :=
  p.slot.isFlagged = true → p.outstanding.length = 1

/-- The steps that leave no flag without its packet. -/
def KeepsFlagOwed (p : Pipe) : PipeCall → Prop
  | .connect r => p.slot.canConnect = true → r.bResult = false →
      (r.lastError = errorIoPending → p.outstanding.length = 0) ∧
        (r.lastError = errorPipeConnected → p.outstanding.length = 1)
  | .read _ r => p.slot.canRead = true → r.bResult = true ∨ r.lastError = errorIoPending →
      p.outstanding.length = 0
  | .service k _ => ∀ packet, p.taken[k]? = some packet →
      p.slot.inst.state = PipeState.disconnectingConnecting →
        packet.errorCode ≠ errorSuccess
  | _ => True

/-- The bits encode a phase, and a flag stands for one packet. -/
def Owes (p : Pipe) : Prop := (∃ ph, p.slot.InPhase ph) ∧ p.FlagOwed

theorem step_inPhase {p p' : Pipe} {c : PipeCall} (h : ∃ ph, p.slot.InPhase ph)
    (hs : p.step c = some p') : ∃ ph, p'.slot.InPhase ph := by
  obtain ⟨ph, hph⟩ := h
  cases c with
  | connect r =>
    cases hs
    exact ⟨_, Slot.connectInstance_phase hph r⟩
  | read size r =>
    cases hs
    exact ⟨_, Slot.readInstance_phase hph size r⟩
  | disconnect r =>
    cases hs
    rcases Slot.disconnectInstance_phase hph r with ⟨-, q, -, hq, -⟩ | ⟨hq, -⟩
    · exact ⟨q, hq⟩
    · exact ⟨ph, hq⟩
  | complete k errorCode bytesTransferred =>
    obtain ⟨op, -, rfl⟩ := Option.map_eq_some_iff.mp hs
    exact ⟨ph, hph⟩
  | dequeue k =>
    obtain ⟨packet, -, rfl⟩ := Option.map_eq_some_iff.mp hs
    exact ⟨ph, hph⟩
  | service k r =>
    obtain ⟨packet, -, rfl⟩ := Option.map_eq_some_iff.mp hs
    exact ⟨_, (Slot.serviceSwitch_phase hph _ _ _ r).2.1⟩

theorem issued_length (slot : Slot) (kind : Operation) (capacity : Nat) (r : CallResult) :
    (slot.issued kind capacity r).length = if Slot.queuesPacket kind r then 1 else 0 := by
  unfold Slot.issued
  split <;> rfl

theorem flagOwed_connect {p p' : Pipe} {r : CallResult} (h : p.Owes)
    (hs : p.step (.connect r) = some p') :
    p'.FlagOwed ↔ p.KeepsFlagOwed (.connect r) := by
  obtain ⟨⟨ph, hph⟩, howed⟩ := h
  have hlen := (outstanding_connect hs).length_eq
  have hflag := Slot.isFlagged_eq (Slot.connectInstance_phase hph r)
  have hcan := Slot.canConnect_eq hph
  have hold := Slot.isFlagged_eq hph
  cases hs
  simp only [FlagOwed, KeepsFlagOwed] at howed ⊢
  rw [hflag]
  by_cases hu : ph = .unconnected
  · subst hu
    rw [hcan, decide_eq_true rfl, if_pos rfl, List.length_append, issued_length] at hlen
    rw [hcan, hlen]
    cases hb : r.bResult with
    | true => simp [Slot.connectThrows, hb, Phase.flagged]
    | false =>
      -- the flag is set for the two codes that do not throw; one queues
      by_cases hp : r.lastError = errorIoPending
      · simp [Slot.connectThrows, Slot.queuesPacket, hb, hp, Phase.flagged, errorIoPending,
          errorPipeConnected]
      · by_cases hc : r.lastError = errorPipeConnected
        · simp [Slot.connectThrows, Slot.queuesPacket, hb, hc, Phase.flagged, errorIoPending,
            errorPipeConnected]
        · simp [Slot.connectThrows, hb, hp, hc, Phase.flagged]
  · rw [hcan, decide_eq_false hu, List.length_append] at hlen
    rw [if_neg (fun hc => hu hc.1), ← hold, hcan, decide_eq_false hu, hlen]
    simpa using howed

theorem flagOwed_read {p p' : Pipe} {size : Nat} {r : CallResult} (h : p.Owes)
    (hs : p.step (.read size r) = some p') :
    p'.FlagOwed ↔ p.KeepsFlagOwed (.read size r) := by
  obtain ⟨⟨ph, hph⟩, howed⟩ := h
  have hlen := (outstanding_read hs).length_eq
  have hflag := Slot.isFlagged_eq (Slot.readInstance_phase hph size r)
  have hcan := Slot.canRead_eq hph
  have hold := Slot.isFlagged_eq hph
  cases hs
  simp only [FlagOwed, KeepsFlagOwed] at howed ⊢
  rw [hflag]
  by_cases hc : ph = .connected
  · subst hc
    rw [hcan, decide_eq_true rfl, if_pos rfl, List.length_append, issued_length] at hlen
    rw [hcan, hlen]
    cases hb : r.bResult with
    | true => simp [Slot.readThrows, Slot.queuesPacket, hb, Phase.flagged]
    | false =>
      by_cases hp : r.lastError = errorIoPending
      · simp [Slot.readThrows, Slot.queuesPacket, hb, hp, Phase.flagged]
      · simp [Slot.readThrows, hb, hp, Phase.flagged]
  · rw [hcan, decide_eq_false hc, List.length_append] at hlen
    rw [if_neg (fun h => hc h.1), ← hold, hcan, decide_eq_false hc, hlen]
    simpa using howed

theorem flagOwed_disconnect {p p' : Pipe} {r : CallResult} (h : p.Owes)
    (hs : p.step (.disconnect r) = some p') : p'.FlagOwed := by
  obtain ⟨⟨ph, hph⟩, howed⟩ := h
  have hout := outstanding_disconnect hs
  unfold FlagOwed at howed ⊢
  rw [hout]
  rw [Slot.isFlagged_eq hph] at howed
  have hnext := Slot.disconnectInstance_phase hph r
  cases hs
  rcases hnext with ⟨-, q, hq, hphase, -⟩ | ⟨hphase, -⟩
  · rw [Slot.isFlagged_eq hphase]
    cases ph <;> cases hq <;> exact howed
  · rw [Slot.isFlagged_eq hphase]
    exact howed

theorem flagOwed_service {p p' : Pipe} {k : Nat} {r : CallResult} (h : p.Owes)
    (hs : p.step (.service k r) = some p') :
    p'.FlagOwed ↔ p.KeepsFlagOwed (.service k r) := by
  obtain ⟨⟨ph, hph⟩, howed⟩ := h
  obtain ⟨packet, hpacket, hperm⟩ := outstanding_service hs
  obtain ⟨packet', hpacket', rfl⟩ := Option.map_eq_some_iff.mp hs
  cases hpacket.symm.trans hpacket'
  have hlen : _ + 1 = p.outstanding.length := hperm.length_eq
  have hflag := Slot.isFlagged_eq (Slot.serviceSwitch_phase hph
    p.slot.inst.connReadOverlapped.index packet.bytesTransferred packet.errorCode r).2.1
  have hstate : p.slot.inst.state = ph.bits := hph
  simp only [FlagOwed, KeepsFlagOwed] at howed ⊢
  rw [Slot.isFlagged_eq hph] at howed
  rw [hflag, hstate, hpacket]
  simp only [Option.some.injEq, forall_eq']
  cases ph with
  | unconnected | connecting | connected | reading | disconnectingReading =>
    simp [Phase.afterService, Phase.flagged, Phase.bits, PipeState.unconnected,
      PipeState.connected, PipeState.disconnecting, PipeState.unconnectedConnecting,
      PipeState.connectedReading, PipeState.disconnectingConnecting,
      PipeState.disconnectingReading, PipeState.flagConnecting, PipeState.flagReading]
  | disconnectingConnecting =>
    have hone := howed rfl
    by_cases hsucc : packet.errorCode = errorSuccess
    · rw [show Phase.disconnectingConnecting.afterService packet.errorCode
        = .disconnectingConnecting from if_pos hsucc]
      constructor
      · intro hbad
        have := hbad rfl
        omega
      · intro hbad
        exact absurd hsucc (hbad rfl)
    · simp [Phase.afterService, hsucc, Phase.flagged]

theorem owes_create (index : Nat) : Owes (create index) := by
  have hph : (create index).slot.InPhase .unconnected := rfl
  refine ⟨⟨.unconnected, hph⟩, fun hflag => ?_⟩
  rw [Slot.isFlagged_eq hph] at hflag
  cases hflag

/-- Whether the flags stay owed is decided by the step alone. -/
theorem flagOwed_step {p p' : Pipe} {c : PipeCall} (h : p.Owes) (hs : p.step c = some p') :
    p'.FlagOwed ↔ p.KeepsFlagOwed c := by
  cases c with
  | connect r => exact flagOwed_connect h hs
  | read size r => exact flagOwed_read h hs
  | disconnect r => exact iff_of_true (flagOwed_disconnect h hs) trivial
  | complete k errorCode bytesTransferred =>
    refine iff_of_true (fun hf => ?_) trivial
    rw [(outstanding_complete hs).length_eq]
    obtain ⟨op, -, rfl⟩ := Option.map_eq_some_iff.mp hs
    exact h.2 hf
  | dequeue k =>
    refine iff_of_true (fun hf => ?_) trivial
    rw [(outstanding_dequeue hs).length_eq]
    obtain ⟨packet, -, rfl⟩ := Option.map_eq_some_iff.mp hs
    exact h.2 hf
  | service k r => exact flagOwed_service h hs

end Pipe

namespace PipeSystem

/-- **No stuck flag, exactly**: for any number of instances and any schedule, a
flag stands for exactly one packet to come in every state of the run, of every
instance, if and only if each step of the run keeps it so. -/
theorem flagOwed_iff (n : Nat) (es : List PipeEvent) :
    (machine n).Always (fun s => ∀ i, (s.pipe i).FlagOwed) (init n) es ↔
      (machine n).EachStep
        (fun s e => ∀ i : Fin n, i.val = e.index → (s.pipe i).KeepsFlagOwed e.call)
        (init n) es :=
  always_iff_of_local (I := Pipe.Owes)
    Pipe.owes_create
    (fun _ _ _ h => h.2)
    (fun _ _ _ h hs hQ => ⟨Pipe.step_inPhase h.1 hs, (Pipe.flagOwed_step h hs).mpr hQ⟩)
    (fun _ _ _ _ h hs hQ hbad => hQ ((Pipe.flagOwed_step h hs).mp hbad)) es

/-- A client opens the instance before `ConnectNamedPipe` is called. -/
def clientBeforeConnect : List PipeEvent :=
  [⟨0, .connect ⟨false, errorPipeConnected⟩⟩]

theorem flagOwed_broken :
    ¬ (machine 1).Always (fun s => ∀ i, (s.pipe i).FlagOwed) (init 1) clientBeforeConnect := by
  rintro ⟨-, h⟩
  have hstuck := h _ rfl 0
  exact absurd (hstuck (by decide)) (by decide)

end PipeSystem

end Task6
