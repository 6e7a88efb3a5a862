import Task6.Pipes.InPipeServer

/-!
# The member functions of `InPipeServer`, phase by phase

What each call does to an instance whose bits encode a phase: the phase it
leaves, the result it gives, and when its guard lets it through. Later modules
work from these specifications and never unfold the calls.
-/

namespace Task6

open Win32

namespace Phase

/-- The phase `service` leaves. -/
def afterService : Phase → DWORD → Phase
  | unconnected, _ => unconnected
  | connecting, _ => connected
  | connected, _ => connected
  | reading, _ => connected
  | disconnectingConnecting, errorCode =>
    if errorCode = errorSuccess then disconnectingConnecting else unconnected
  | disconnectingReading, _ => unconnected

/-- What `service` returns or throws. -/
def serviceResult : Phase → Nat → Nat → DWORD → Except Exn AsyncResult
  | unconnected, _, _, _ | connected, _, _, _ => .error (.runtimeError "Invalid pipe state.")
  | connecting, index, _, errorCode =>
    .ok ⟨index, .connect, errorCode, 0, PipeState.connected, false⟩
  | reading, index, bytesTransferred, errorCode =>
    .ok ⟨index, .read, errorCode, bytesTransferred, PipeState.connected, false⟩
  | disconnectingConnecting, index, _, errorCode =>
    if errorCode = errorSuccess then .error (.runtimeError "Cannot disconnect pipe.")
    else .ok ⟨index, .read, errorCode, 0, PipeState.unconnected, true⟩
  | disconnectingReading, index, bytesTransferred, errorCode =>
    .ok ⟨index, .read, errorCode, bytesTransferred, PipeState.unconnected, true⟩

/-- The phase a successful `disconnectInstance` leaves, when its guard lets the
call through. -/
def afterDisconnect : Phase → Option Phase
  | connected => some unconnected
  | connecting => some disconnectingConnecting
  | reading => some disconnectingReading
  | unconnected | disconnectingConnecting | disconnectingReading => none

end Phase

namespace Slot

/-- The bits of the instance encode `ph`. -/
def InPhase (slot : Slot) (ph : Phase) : Prop := slot.inst.state = ph.bits

@[simp] theorem setState_state (slot : Slot) (state : PipeState) :
    (slot.setState state).inst.state = state := rfl

variable {slot : Slot} {ph : Phase}

theorem canConnect_eq (h : slot.InPhase ph) : slot.canConnect = decide (ph = .unconnected) := by
  unfold canConnect
  rw [h]
  cases ph <;> decide

theorem canRead_eq (h : slot.InPhase ph) : slot.canRead = decide (ph = .connected) := by
  unfold canRead
  rw [h]
  cases ph <;> decide

/-- `connectInstance` throws after its call, leaving the state alone. -/
def connectThrows (r : CallResult) : Bool :=
  r.bResult || (r.lastError != errorIoPending && r.lastError != errorPipeConnected)

/-- `readInstance` throws after its call, leaving the state alone. -/
def readThrows (r : CallResult) : Bool :=
  !r.bResult && r.lastError != errorIoPending

/-- `connectInstance` returns when its guard holds and its call does not throw. -/
theorem connectInstance_ok {r : CallResult} {u : Unit}
    (h : (slot.connectInstance r).1 = .ok u) :
    slot.canConnect = true ∧ connectThrows r = false := by
  unfold connectInstance at h
  cases hc : slot.canConnect with
  | false =>
    rw [hc] at h
    cases h
  | true =>
    refine ⟨rfl, ?_⟩
    rw [hc] at h
    cases ht : connectThrows r with
    | false => rfl
    | true =>
      unfold connectThrows at ht
      simp only [Bool.not_true, Bool.false_eq_true, if_false] at h
      rw [if_pos ht] at h
      cases h

theorem connectInstance_phase (h : slot.InPhase ph) (r : CallResult) :
    (slot.connectInstance r).2.InPhase
      (if ph = .unconnected ∧ connectThrows r = false then .connecting else ph) := by
  unfold connectInstance
  rw [canConnect_eq h]
  by_cases hu : ph = .unconnected
  · subst hu
    simp only [decide_true, Bool.not_true, Bool.false_eq_true, ↓reduceIte, true_and]
    cases ht : connectThrows r with
    | true =>
      rw [if_pos (by simpa [connectThrows] using ht), if_neg (by simp)]
      exact h
    | false =>
      rw [if_neg (by simpa [connectThrows] using ht), if_pos rfl]
      exact setState_state _ _
  · simpa [hu] using h

theorem readInstance_phase (h : slot.InPhase ph) (size : Nat) (r : CallResult) :
    (slot.readInstance size r).2.InPhase
      (if ph = .connected ∧ readThrows r = false then .reading else ph) := by
  unfold readInstance
  rw [canRead_eq h]
  by_cases hc : ph = .connected
  · subst hc
    simp only [decide_true, Bool.not_true, Bool.false_eq_true, ↓reduceIte, true_and]
    cases ht : readThrows r with
    | true =>
      rw [if_pos (by simpa [readThrows] using ht), if_neg (by simp)]
      exact h
    | false =>
      rw [if_neg (by simpa [readThrows] using ht), if_pos rfl]
      show _ ||| _ = _
      rw [show (slot.readFile size r).inst.state = Phase.connected.bits from h]
      rfl
  · simpa [hc] using h

/-- `service` on an instance in a phase: its result, and what it leaves. -/
theorem serviceSwitch_phase (h : slot.InPhase ph) (index bytesTransferred : Nat)
    (errorCode : DWORD) (r : CallResult) :
    (slot.serviceSwitch index bytesTransferred errorCode r).1
        = ph.serviceResult index bytesTransferred errorCode ∧
      (slot.serviceSwitch index bytesTransferred errorCode r).2.InPhase
        (ph.afterService errorCode) ∧
      (slot.serviceSwitch index bytesTransferred errorCode r).2.disconnects
        = slot.disconnects := by
  unfold serviceSwitch
  simp only [show slot.inst.state = ph.bits from h]
  cases ph with
  | unconnected => exact ⟨rfl, h, rfl⟩
  | connecting => exact ⟨rfl, rfl, rfl⟩
  | connected => exact ⟨rfl, h, rfl⟩
  | reading => exact ⟨rfl, rfl, rfl⟩
  | disconnectingConnecting =>
    simp only [Phase.serviceResult, Phase.afterService]
    rw [if_neg (by decide), if_neg (by decide), if_pos (by decide)]
    by_cases hs : errorCode = errorSuccess
    · rw [if_pos hs, if_pos hs, if_pos hs]
      exact ⟨rfl, h, rfl⟩
    · rw [if_neg hs, if_neg hs, if_neg hs]
      exact ⟨rfl, rfl, rfl⟩
  | disconnectingReading => exact ⟨rfl, rfl, rfl⟩

/-- `disconnectInstance` either succeeds and moves the instance on, or throws
and leaves phase and count as they were. -/
theorem disconnectInstance_phase (h : slot.InPhase ph) (r : CallResult) :
    (r.bResult = true ∧ ∃ q, ph.afterDisconnect = some q ∧
      (slot.disconnectInstance r).2.InPhase q ∧
      (slot.disconnectInstance r).2.disconnects = slot.disconnects + 1) ∨
    ((slot.disconnectInstance r).2.InPhase ph ∧
      (slot.disconnectInstance r).2.disconnects = slot.disconnects) := by
  have hstate : slot.inst.state = ph.bits := h
  unfold disconnectInstance
  rw [hstate]
  cases hr : r.bResult with
  | false =>
    refine .inr ?_
    cases ph <;> exact ⟨h, rfl⟩
  | true =>
    cases ph with
    | unconnected => exact .inr ⟨h, rfl⟩
    | connecting =>
      refine .inl ⟨rfl, _, rfl, ?_, rfl⟩
      show (slot.markDisconnected).inst.state = _
      unfold markDisconnected
      rw [hstate]
      rfl
    | connected =>
      refine .inl ⟨rfl, _, rfl, ?_, rfl⟩
      show ((slot.disconnectNamedPipe r).markDisconnected).inst.state = _
      unfold markDisconnected
      rw [show (slot.disconnectNamedPipe r).inst.state = Phase.connected.bits from hstate]
      rfl
    | reading =>
      refine .inl ⟨rfl, _, rfl, ?_, rfl⟩
      show ((slot.disconnectNamedPipe r).markDisconnected).inst.state = _
      unfold markDisconnected
      rw [show (slot.disconnectNamedPipe r).inst.state = Phase.reading.bits from hstate]
      rfl
    | disconnectingConnecting => exact .inr ⟨h, rfl⟩
    | disconnectingReading => exact .inr ⟨h, rfl⟩

end Slot

end Task6
