import Task6.Pipes.ServiceResult

/-!
# What the CONNECTED bit stands for

`service` sets an instance that was `_UNCONNECTED_CONNECTING` to `CONNECTED`
whatever the error code of the packet, and its callers go by the state. Beside
the system runs a history variable: what became of the connect operation started
last on each instance, and whether it has been disconnected since.
`connectedTruly_iff` says when the bit tells the truth.
-/

namespace Task6

open Win32

/-- What became of the connect operation started last: it is the one at
`position` among the operations pending, or it has completed. -/
inductive LastConnect where
  | never
  | pending (position : Nat)
  | completed (errorCode : DWORD)
  deriving DecidableEq, Repr

/-- The history of one instance; `disconnected` says that a disconnect succeeded
since the connect operation was started. -/
structure Watch where
  last : LastConnect
  disconnected : Bool
  deriving DecidableEq, Repr

namespace Watch

def start : Watch := ⟨.never, false⟩

/-- A client came, and is there. -/
def Truly (w : Watch) : Prop := w.last = .completed errorSuccess ∧ w.disconnected = false

/-- The operation at position `k` completes. -/
def complete (w : Watch) (k : Nat) (errorCode : DWORD) : Watch :=
  { w with
    last := match w.last with
      | .pending position =>
        if k = position then .completed errorCode
        else .pending (if k < position then position - 1 else position)
      | .never => .never
      | .completed code => .completed code }

/-- `ConnectNamedPipe` was called. A connect that fails at once has started
nothing; with `ERROR_PIPE_CONNECTED` it is over at once. -/
def connect (w : Watch) (slot : Slot) (r : CallResult) : Watch :=
  if Slot.queuesPacket .connect r then ⟨.pending slot.pending.length, false⟩
  else if r.lastError = errorPipeConnected then ⟨.completed errorPipeConnected, false⟩
  else w

def record (p : Pipe) (c : PipeCall) (w : Watch) : Watch :=
  match c with
  | .connect r => if p.slot.canConnect then w.connect p.slot r else w
  | .disconnect r =>
    if (p.slot.disconnectInstance r).1 = .ok () then { w with disconnected := true } else w
  | .complete k errorCode _ => w.complete k errorCode
  | .read _ _ | .dequeue _ | .service _ _ => w

/-- A completion changes the history of a connect that is pending only. -/
theorem Truly.complete {w : Watch} (h : w.Truly) (k : Nat) (errorCode : DWORD) :
    (w.complete k errorCode).Truly := by
  obtain ⟨hlast, hdis⟩ := h
  refine ⟨?_, hdis⟩
  unfold Watch.complete
  rw [hlast]

end Watch

namespace Slot

/-- The CONNECTED bit is set. -/
def isConnected (slot : Slot) : Bool := slot.inst.state.carries PipeState.connected

variable {slot : Slot} {ph : Phase}

theorem isConnected_iff (h : slot.InPhase ph) :
    slot.isConnected = true ↔ ph = .connected ∨ ph = .reading := by
  unfold isConnected
  rw [show slot.inst.state = ph.bits from h]
  cases ph <;> decide

/-- `disconnectInstance` returns exactly when it counts. -/
theorem disconnectInstance_ok_iff (slot : Slot) (r : CallResult) :
    (slot.disconnectInstance r).1 = .ok () ↔
      (slot.disconnectInstance r).2.disconnects = slot.disconnects + 1 := by
  unfold disconnectInstance
  dsimp only
  split
  · split
    · simp [disconnectNamedPipe]
    · simp [markDisconnected, disconnectNamedPipe]
  · split
    · split
      · simp
      · simp [markDisconnected]
    · simp

/-- A disconnect that returns leaves no CONNECTED bit, one that throws leaves the
phase. -/
theorem disconnectInstance_result (h : slot.InPhase ph) (r : CallResult) :
    ((slot.disconnectInstance r).1 = .ok () ∧ ∃ q, ph.afterDisconnect = some q ∧
        (slot.disconnectInstance r).2.InPhase q) ∨
      ((slot.disconnectInstance r).1 ≠ .ok () ∧ (slot.disconnectInstance r).2.InPhase ph) := by
  rcases disconnectInstance_phase h r with ⟨-, q, hq, hphase, hcount⟩ | ⟨hphase, hcount⟩
  · exact .inl ⟨(disconnectInstance_ok_iff slot r).mpr hcount, q, hq, hphase⟩
  · refine .inr ⟨fun hok => ?_, hphase⟩
    rw [disconnectInstance_ok_iff, hcount] at hok
    exact absurd hok (Nat.ne_of_lt (Nat.lt_succ_self _))

end Slot

/-! ## One instance and its history -/

/-- `service` reports an instance as connected exactly from two states. -/
theorem Phase.serviceResult_connected (ph : Phase) (index bytesTransferred : Nat)
    (errorCode : DWORD) :
    (∀ result, ph.serviceResult index bytesTransferred errorCode = .ok result →
        result.newPipeState ≠ PipeState.connected) ↔ ph ≠ .connecting ∧ ph ≠ .reading := by
  constructor
  · intro h
    constructor
    · rintro rfl
      exact h _ rfl rfl
    · rintro rfl
      exact h _ rfl rfl
  · rintro ⟨hc, hr⟩ result hok
    obtain ⟨-, -, hnew, hcases⟩ := serviceResult_ok hok
    rw [hnew]
    rcases hcases with ⟨hconn, -⟩ | ⟨hread | rfl, -⟩ | ⟨rfl, hfail, -⟩
    · exact absurd hconn hc
    · exact absurd hread hr
    · show Phase.unconnected.bits ≠ _
      decide
    · rw [show Phase.disconnectingConnecting.afterService errorCode = .unconnected from
        if_neg hfail]
      decide

namespace Pipe

/-- The CONNECTED bit is set for a client that came and is there. -/
def ConnectedTruly (p : Pipe) (w : Watch) : Prop := p.slot.isConnected = true → w.Truly

/-- A packet that is serviced while the instance is connecting comes after the
success of its connect operation. -/
def ServicedConnected (p : Pipe) (c : PipeCall) (w : Watch) : Prop :=
  match c with
  | .service k _ => ∀ packet, p.taken[k]? = some packet →
      p.slot.inst.state = PipeState.unconnectedConnecting → w.last = .completed errorSuccess
  | _ => True

/-- The invariant: the phase, and what the history says in it. -/
def Watched (p : Pipe) (w : Watch) : Prop :=
  ∃ ph, p.slot.InPhase ph ∧ (ph = .connected ∨ ph = .reading → w.Truly) ∧
    (ph = .connecting → w.disconnected = false)

variable {p p' : Pipe} {c : PipeCall} {w : Watch}

theorem Watched.connectedTruly (h : p.Watched w) : p.ConnectedTruly w := by
  obtain ⟨ph, hph, htruly, -⟩ := h
  intro hbit
  exact htruly ((Slot.isConnected_iff hph).mp hbit)

theorem watched_connect {r : CallResult} (h : p.Watched w)
    (hs : p.step (.connect r) = some p') : p'.Watched (Watch.record p (.connect r) w) := by
  obtain ⟨ph, hph, htruly, hfresh⟩ := h
  have hnext := Slot.connectInstance_phase hph r
  have hguard := Slot.canConnect_eq hph
  cases hs
  simp only [Watch.record]
  by_cases hu : ph = .unconnected
  · subst hu
    rw [hguard, decide_eq_true rfl, if_pos rfl]
    cases ht : Slot.connectThrows r with
    | true =>
      rw [if_neg (by simp [ht])] at hnext
      exact ⟨_, hnext, fun hc => by cases hc <;> contradiction, fun hc => by cases hc⟩
    | false =>
      rw [if_pos ⟨rfl, ht⟩] at hnext
      refine ⟨_, hnext, fun hc => by cases hc <;> contradiction, fun _ => ?_⟩
      -- the call returned: either its packet will come, or a client was there
      have hcode : r.lastError = errorIoPending ∨ r.lastError = errorPipeConnected := by
        simp only [Slot.connectThrows, Bool.or_eq_false_iff, Bool.and_eq_false_iff,
          bne_eq_false_iff_eq] at ht
        exact ht.2
      unfold Watch.connect
      split
      · rfl
      · rename_i hq
        rcases hcode with hpend | hconn
        · simp [Slot.queuesPacket, hpend] at hq
        · rw [if_pos hconn]
  · rw [hguard, decide_eq_false hu, if_neg (by decide)]
    rw [if_neg (fun hc => hu hc.1)] at hnext
    exact ⟨ph, hnext, htruly, hfresh⟩

theorem watched_disconnect {r : CallResult} (h : p.Watched w)
    (hs : p.step (.disconnect r) = some p') :
    p'.Watched (Watch.record p (.disconnect r) w) := by
  obtain ⟨ph, hph, htruly, hfresh⟩ := h
  have hresult := Slot.disconnectInstance_result hph r
  cases hs
  simp only [Watch.record]
  rcases hresult with ⟨hok, q, hq, hphase⟩ | ⟨hthrew, hphase⟩
  · rw [if_pos hok]
    refine ⟨q, hphase, fun hc => ?_, fun hc => ?_⟩
    · rcases hc with rfl | rfl <;> cases ph <;> cases hq
    · subst hc
      cases ph <;> cases hq
  · rw [if_neg hthrew]
    exact ⟨ph, hphase, htruly, hfresh⟩

theorem watched_service {k : Nat} {r : CallResult} (h : p.Watched w)
    (hs : p.step (.service k r) = some p') (hok : p.ServicedConnected (.service k r) w) :
    p'.Watched w := by
  obtain ⟨ph, hph, htruly, hfresh⟩ := h
  obtain ⟨packet, hpacket, rfl⟩ := Option.map_eq_some_iff.mp hs
  refine ⟨_, (Slot.serviceSwitch_phase hph _ _ _ r).2.1, ?_, ?_⟩
  · intro hafter
    cases ph with
    | unconnected | disconnectingReading => cases hafter <;> contradiction
    | connected => exact htruly (.inl rfl)
    | reading => exact htruly (.inr rfl)
    | connecting => exact ⟨hok packet hpacket hph, hfresh rfl⟩
    | disconnectingConnecting =>
      simp only [Phase.afterService] at hafter
      split at hafter <;> cases hafter <;> contradiction
  · intro hafter
    cases ph with
    | unconnected | connected | reading | connecting | disconnectingReading => cases hafter
    | disconnectingConnecting =>
      simp only [Phase.afterService] at hafter
      split at hafter <;> cases hafter

theorem watched_step (h : p.Watched w) (hs : p.step c = some p')
    (hok : p.ServicedConnected c w) : p'.Watched (Watch.record p c w) := by
  cases c with
  | connect r => exact watched_connect h hs
  | read size r =>
    obtain ⟨ph, hph, htruly, hfresh⟩ := h
    cases hs
    refine ⟨_, Slot.readInstance_phase hph size r, ?_, ?_⟩
    · intro hafter
      split at hafter
      · rename_i hc
        exact htruly (.inl hc.1)
      · exact htruly hafter
    · intro hafter
      split at hafter
      · cases hafter
      · exact hfresh hafter
  | disconnect r => exact watched_disconnect h hs
  | complete k errorCode bytesTransferred =>
    obtain ⟨ph, hph, htruly, hfresh⟩ := h
    obtain ⟨op, -, rfl⟩ := Option.map_eq_some_iff.mp hs
    exact ⟨ph, hph, fun hc => (htruly hc).complete k errorCode, hfresh⟩
  | dequeue k =>
    obtain ⟨ph, hph, htruly, hfresh⟩ := h
    obtain ⟨packet, -, rfl⟩ := Option.map_eq_some_iff.mp hs
    exact ⟨ph, hph, htruly, hfresh⟩
  | service k r => exact watched_service h hs hok

/-- A packet serviced too early sets the bit without a client. -/
theorem not_connectedTruly_step (h : p.Watched w) (hs : p.step c = some p')
    (hbad : ¬ p.ServicedConnected c w) : ¬ p'.ConnectedTruly (Watch.record p c w) := by
  cases c with
  | service k r =>
    obtain ⟨ph, hph, -, -⟩ := h
    simp only [ServicedConnected, not_forall] at hbad
    obtain ⟨packet, hpacket, hstate, hlast⟩ := hbad
    obtain ⟨packet', hpacket', rfl⟩ := Option.map_eq_some_iff.mp hs
    have hconn : ph = .connecting := (hph.state_eq_iff .connecting).mp hstate
    subst hconn
    intro htruly
    have hafter := (Slot.serviceSwitch_phase hph p.slot.inst.connReadOverlapped.index
      packet'.bytesTransferred packet'.errorCode r).2.1
    exact hlast (htruly ((Slot.isConnected_iff hafter).mpr (.inl rfl))).1
  | connect r | read size r | disconnect r | complete k errorCode bytesTransferred | dequeue k =>
    exact absurd trivial hbad

end Pipe

/-! ## Whole runs -/

namespace PipeSystem

variable {n : Nat}

/-- The history of the instance a step is about goes on, the others stay. -/
def watch (s : PipeSystem n) (e : PipeEvent) (g : Fin n → Watch) : Fin n → Watch :=
  fun i => if i.val = e.index then Watch.record (s.pipe i) e.call (g i) else g i

/-- The instances with their histories. -/
def watched (n : Nat) : Machine (PipeSystem n × (Fin n → Watch)) PipeEvent :=
  (machine n).observed (fun _ => Watch.start) watch

/-- The bit tells the truth about every instance. -/
def ConnectedTruly (s : PipeSystem n × (Fin n → Watch)) : Prop :=
  ∀ i, (s.1.pipe i).ConnectedTruly (s.2 i)

/-- If `e` services the packet of a failed connect, `service` does not report the
instance as connected. -/
def FailureReported (s : PipeSystem n) (e : PipeEvent) : Prop :=
  ∀ (i : Fin n) k r packet result, e = ⟨i, .service k r⟩ → (s.taken i)[k]? = some packet →
    packet.op.kind = .connect → packet.errorCode ≠ errorSuccess →
      (s.served packet r).1 = .ok result → result.newPipeState ≠ PipeState.connected

/-- If `e` services a packet of an instance that is connecting, the connect
operation started last on it has completed with `ERROR_SUCCESS`. -/
def ServicedConnected (s : PipeSystem n × (Fin n → Watch)) (e : PipeEvent) : Prop :=
  ∀ i : Fin n, i.val = e.index → (s.1.pipe i).ServicedConnected e.call (s.2 i)

/-- If `e` services the packet of a failed connect, its instance is neither
connecting nor reading. -/
def FailureOutside (s : PipeSystem n) (e : PipeEvent) : Prop :=
  ∀ (i : Fin n) k r packet, e = ⟨i, .service k r⟩ → (s.taken i)[k]? = some packet →
    packet.op.kind = .connect → packet.errorCode ≠ errorSuccess →
      (s.pipes i).inst.state ≠ PipeState.unconnectedConnecting ∧
        (s.pipes i).inst.state ≠ PipeState.connectedReading

theorem watched_step {s s' : PipeSystem n × (Fin n → Watch)} {e : PipeEvent} (hw : Wired s.1)
    (hs : (watched n).step s e = some s') :
    (∀ i : Fin n, i.val = e.index → (s.1.pipe i).step e.call = some (s'.1.pipe i) ∧
        s'.2 i = Watch.record (s.1.pipe i) e.call (s.2 i)) ∧
      ∀ j : Fin n, j.val ≠ e.index → s'.1.pipe j = s.1.pipe j ∧ s'.2 j = s.2 j := by
  obtain ⟨hstep, hrec⟩ := Machine.observed_step.mp hs
  obtain ⟨hself, hother⟩ := step_local hw hstep
  rw [hrec]
  constructor
  · intro i hi
    exact ⟨hself i hi, if_pos hi⟩
  · intro j hj
    exact ⟨hother j hj, if_neg hj⟩

/-- The CONNECTED bit tells the truth throughout a run exactly when no packet is
serviced on a connecting instance before its connect has succeeded. -/
theorem connectedTruly_iff_serviced (n : Nat) (es : List PipeEvent) :
    (watched n).Always ConnectedTruly (watched n).init es ↔
      (watched n).EachStep ServicedConnected (watched n).init es := by
  refine Machine.always_iff_eachStep
    (I := fun s => Wired s.1 ∧ ∀ i, (s.1.pipe i).Watched (s.2 i)) ?_ ?_ ?_ ⟨wired_init, ?_⟩ es
  · rintro s ⟨-, hwatched⟩ i
    exact (hwatched i).connectedTruly
  · rintro s e s' ⟨hw, hwatched⟩ hs hQ
    refine ⟨step_wired hw (Machine.observed_step.mp hs).1, fun i => ?_⟩
    obtain ⟨hself, hother⟩ := watched_step hw hs
    by_cases hi : i.val = e.index
    · obtain ⟨hstep, hrec⟩ := hself i hi
      rw [hrec]
      exact Pipe.watched_step (hwatched i) hstep (hQ i hi)
    · obtain ⟨hpipe, hrec⟩ := hother i hi
      rw [hpipe, hrec]
      exact hwatched i
  · rintro s e s' ⟨hw, hwatched⟩ hs hQ htruly
    simp only [ServicedConnected, not_forall] at hQ
    obtain ⟨i, hi, hbad⟩ := hQ
    obtain ⟨hstep, hrec⟩ := (watched_step hw hs).1 i hi
    have hbit := htruly i
    rw [hrec] at hbit
    exact Pipe.not_connectedTruly_step (hwatched i) hstep hbad hbit
  · intro i
    exact ⟨.unconnected, rfl, fun hc => by cases hc <;> contradiction, fun hc => by cases hc⟩

theorem failureReported_iff {s : PipeSystem n} (h : Phased s) (e : PipeEvent) :
    FailureReported s e ↔ FailureOutside s e := by
  refine forall_congr' fun i => forall_congr' fun k => forall_congr' fun r =>
    forall_congr' fun packet => ?_
  obtain ⟨ph, hphase⟩ := h.phase i
  have hph : (s.pipes i).InPhase ph := hphase
  have hstates : ((s.pipes i).inst.state ≠ PipeState.unconnectedConnecting ∧
      (s.pipes i).inst.state ≠ PipeState.connectedReading) ↔ ph ≠ .connecting ∧ ph ≠ .reading :=
    and_congr (not_congr (hph.state_eq_iff .connecting)) (not_congr (hph.state_eq_iff .reading))
  rw [hstates]
  constructor
  · intro hrep he hpacket hkind hfail
    refine (ph.serviceResult_connected i packet.bytesTransferred packet.errorCode).mp
      fun result hok => ?_
    refine hrep result he hpacket hkind hfail ?_
    exact (service_phase h.wired hph (List.mem_of_getElem? hpacket) r).trans hok
  · intro hout result he hpacket hkind hfail hok
    refine (ph.serviceResult_connected i packet.bytesTransferred packet.errorCode).mpr
      (hout he hpacket hkind hfail) result ?_
    exact (service_phase h.wired hph (List.mem_of_getElem? hpacket) r).symm.trans hok

/-- **CONNECTED, exactly**: for any number of instances and any run, the bit
stands for a client that came and is there in every state, and no failed connect
is reported as a connection, if and only if packets are serviced on a connecting
instance only once its connect has succeeded, and those of failed connects never
on one that is connecting or reading. -/
theorem connectedTruly_iff (n : Nat) (es : List PipeEvent) :
    ((watched n).Always ConnectedTruly (watched n).init es ∧
        (watched n).EachStep (fun s e => FailureReported s.1 e) (watched n).init es) ↔
      (watched n).EachStep (fun s e => ServicedConnected s e ∧ FailureOutside s.1 e)
        (watched n).init es := by
  rw [Machine.eachStep_and, connectedTruly_iff_serviced]
  refine and_congr_right fun _ => ?_
  refine Machine.eachStep_congr (I := fun s => Phased s.1) ?_ ?_ phased_init es
  · intro s e s' h hs
    exact phased_step _ _ _ h (Machine.observed_step.mp hs).1
  · intro s e _ h _
    exact failureReported_iff h e

/-- A connect is answered `ERROR_IO_PENDING` and fails: the client went away. -/
def failedConnect : List PipeEvent :=
  [⟨0, .connect ⟨false, errorIoPending⟩⟩, ⟨0, .complete 0 errorBrokenPipe 0⟩, ⟨0, .dequeue 0⟩,
    ⟨0, .service 0 ⟨true, 0⟩⟩]

/-- The pipe is CONNECTED all the same. -/
theorem connectedTruly_broken :
    ¬ (watched 1).Always ConnectedTruly (watched 1).init failedConnect := by
  obtain ⟨s, hs, hbit, hlast⟩ : ∃ s, (watched 1).exec (watched 1).init failedConnect = some s ∧
      (s.1.pipe 0).slot.isConnected = true ∧ (s.2 0).last = .completed errorBrokenPipe :=
    ⟨_, rfl, by decide, by decide⟩
  refine Machine.not_always_of_exec hs fun htruly => ?_
  have hsucc := (htruly 0 hbit).1
  rw [hlast] at hsucc
  exact absurd hsucc (by decide)

end PipeSystem

end Task6
