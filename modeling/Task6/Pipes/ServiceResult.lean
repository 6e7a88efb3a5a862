import Task6.Pipes.StuckFlags

/-!
# What `service` reports

Windows does not say which kind of operation a packet ends: `service` guesses it
from the state of the instance. `serviceDescribes_iff` says when the guess is
right. The phases `_UNCONNECTED_CONNECTING`, `_CONNECTED_READING` and
`_DISCONNECTING_READING` name the operation that put the instance into them; in
`_DISCONNECTING_CONNECTING` the source writes `READ` for an operation that
`connectInstance` started.

Where every start that throws has started nothing, the invariant `Pipe.Tracked`
leads from the start of an operation to its packet, and only a connect that was
disconnected underway and comes back with an error is misdescribed.
-/

namespace Task6

open Win32

/-- The count that goes with the operation: a connect transfers nothing. -/
def Packet.count (packet : Packet) : Nat :=
  if packet.op.kind = .read then packet.bytesTransferred else 0

/-- The operation `service` will name is the one the packet ends. -/
structure Slot.TellsOperation (slot : Slot) (packet : Packet) : Prop where
  connecting : slot.inst.state = PipeState.unconnectedConnecting → packet.op.kind = .connect
  reading : slot.inst.state = PipeState.connectedReading → packet.op.kind = .read
  disconnectingReading : slot.inst.state = PipeState.disconnectingReading →
    packet.op.kind = .read
  disconnectingConnecting : slot.inst.state = PipeState.disconnectingConnecting →
    packet.errorCode ≠ errorSuccess → packet.op.kind = .read ∧ packet.bytesTransferred = 0

namespace Phase

theorem bits_inj {p q : Phase} : p.bits = q.bits ↔ p = q := by
  constructor
  · intro h
    cases p <;> cases q <;> first | rfl | exact absurd h (by decide)
  · rintro rfl
    rfl

/-- What a result of `service` says, phase by phase: the operation and the count
are read off the phase, the rest off the packet. -/
theorem serviceResult_ok {ph : Phase} {index bytesTransferred : Nat} {errorCode : DWORD}
    {result : AsyncResult} (h : ph.serviceResult index bytesTransferred errorCode = .ok result) :
    result.instanceIndex = index ∧ result.errorCode = errorCode ∧
      result.newPipeState = (ph.afterService errorCode).bits ∧
      (ph = .connecting ∧ result.operation = .connect ∧ result.bytesTransferred = 0 ∨
        (ph = .reading ∨ ph = .disconnectingReading) ∧ result.operation = .read ∧
          result.bytesTransferred = bytesTransferred ∨
        ph = .disconnectingConnecting ∧ errorCode ≠ errorSuccess ∧ result.operation = .read ∧
          result.bytesTransferred = 0) := by
  cases ph with
  | unconnected | connected => cases h
  | connecting =>
    cases h
    exact ⟨rfl, rfl, rfl, .inl ⟨rfl, rfl, rfl⟩⟩
  | reading =>
    cases h
    exact ⟨rfl, rfl, rfl, .inr (.inl ⟨.inl rfl, rfl, rfl⟩)⟩
  | disconnectingReading =>
    cases h
    exact ⟨rfl, rfl, rfl, .inr (.inl ⟨.inr rfl, rfl, rfl⟩)⟩
  | disconnectingConnecting =>
    simp only [serviceResult] at h
    split at h
    · cases h
    · rename_i hfail
      cases h
      rw [show disconnectingConnecting.afterService errorCode = .unconnected from if_neg hfail]
      exact ⟨rfl, rfl, rfl, .inr (.inr ⟨rfl, hfail, rfl, rfl⟩)⟩

/-- `service` returns a result in a phase in which an operation is underway,
unless it finds a connect that was to be cancelled complete. -/
theorem exists_serviceResult {ph : Phase} {index bytesTransferred : Nat} {errorCode : DWORD}
    (hflag : ph.flagged = true)
    (hlate : ph = .disconnectingConnecting → errorCode ≠ errorSuccess) :
    ∃ result, ph.serviceResult index bytesTransferred errorCode = .ok result := by
  cases ph with
  | unconnected | connected => cases hflag
  | connecting | reading | disconnectingReading => exact ⟨_, rfl⟩
  | disconnectingConnecting => exact ⟨_, if_neg (hlate rfl)⟩

end Phase

theorem Slot.InPhase.state_eq_iff {slot : Slot} {ph : Phase} (h : slot.InPhase ph) (q : Phase) :
    slot.inst.state = q.bits ↔ ph = q := by
  rw [show slot.inst.state = ph.bits from h]
  exact Phase.bits_inj

namespace PipeSystem

variable {n : Nat}

/-- `service` called with what `GetQueuedCompletionStatus` gave. -/
def served (s : PipeSystem n) (packet : Packet) (r : CallResult) :
    Except Exn AsyncResult × (Fin n → Slot) :=
  InPipeServer.service s.pipes (some packet.op.lpOverlapped) packet.bytesTransferred
    packet.errorCode r

/-- The result of `service` for a packet of instance `i` is true of the
operation and of what the call did. -/
structure Describes (s : PipeSystem n) (i : Fin n) (packet : Packet) (r : CallResult)
    (result : AsyncResult) : Prop where
  instanceIndex : result.instanceIndex = i
  behindOverlapped : indexFromOverlappedLp packet.op.lpOverlapped = i
  operation : result.operation = packet.op.kind
  errorCode : result.errorCode = packet.errorCode
  bytesTransferred : result.bytesTransferred = packet.count
  newPipeState : result.newPipeState = ((s.served packet r).2 i).inst.state
  others : ∀ j, j ≠ i → (s.served packet r).2 j = s.pipes j

/-- If `e` services a packet and `service` returns, the result describes it. -/
def ServiceDescribes (s : PipeSystem n) (e : PipeEvent) : Prop :=
  ∀ (i : Fin n) k r packet result, e = ⟨i, .service k r⟩ → (s.taken i)[k]? = some packet →
    (s.served packet r).1 = .ok result → s.Describes i packet r result

/-- If `e` services a packet, the state of its instance tells the operation. -/
def ServiceTold (s : PipeSystem n) (e : PipeEvent) : Prop :=
  ∀ (i : Fin n) k r packet, e = ⟨i, .service k r⟩ → (s.taken i)[k]? = some packet →
    (s.pipes i).TellsOperation packet

/-- If `e` services the packet of a connect that was disconnected after it was
started, the connect has succeeded all the same. -/
def NoneCancelled (s : PipeSystem n) (e : PipeEvent) : Prop :=
  ∀ (i : Fin n) k r packet, e = ⟨i, .service k r⟩ → (s.taken i)[k]? = some packet →
    packet.op.kind = .connect → packet.op.startedAt < (s.pipes i).disconnects →
      packet.errorCode = errorSuccess

/-! ## Systems whose bits encode phases -/

/-- The calls are routed to the instances meant, whose bits encode phases. -/
structure Phased (s : PipeSystem n) : Prop where
  wired : Wired s
  phase : ∀ i, ∃ ph, (s.pipe i).slot.InPhase ph

theorem phased_init : Phased (init n) :=
  ⟨wired_init, fun _ => ⟨.unconnected, rfl⟩⟩

theorem phased_step (s : PipeSystem n) (e : PipeEvent) (s' : PipeSystem n) (h : Phased s)
    (hs : step s e = some s') : Phased s' := by
  refine ⟨step_wired h.wired hs, fun i => ?_⟩
  obtain ⟨hself, hother⟩ := step_local h.wired hs
  by_cases hi : i.val = e.index
  · exact Pipe.step_inPhase (h.phase i) (hself i hi)
  · rw [hother i hi]
    exact h.phase i

section Served

variable {s : PipeSystem n} {i : Fin n} {packet : Packet}

/-- `service` for a packet that was taken from instance `i` is the `switch` of
that instance. -/
theorem served_eq (hw : Wired s) (hmem : packet ∈ s.taken i) (r : CallResult) :
    s.served packet r =
      (((s.pipes i).serviceSwitch i packet.bytesTransferred packet.errorCode r).1,
        Function.update s.pipes i
          ((s.pipes i).serviceSwitch i packet.bytesTransferred packet.errorCode r).2) :=
  InPipeServer.service_of_wired (hw i).1 ((hw i).2 _ (mem_outstanding_of_taken hmem)) _ _ r

theorem served_self (hw : Wired s) (hmem : packet ∈ s.taken i) (r : CallResult) :
    (s.served packet r).2 i =
      ((s.pipes i).serviceSwitch i packet.bytesTransferred packet.errorCode r).2 := by
  rw [served_eq hw hmem]
  exact Function.update_self ..

theorem served_other (hw : Wired s) (hmem : packet ∈ s.taken i) (r : CallResult) {j : Fin n}
    (hj : j ≠ i) : (s.served packet r).2 j = s.pipes j := by
  rw [served_eq hw hmem]
  exact Function.update_of_ne hj ..

end Served

/-! ## When the result is right -/

/-- A packet of a phased system is described exactly when the state tells its
operation. -/
theorem describes_iff {s : PipeSystem n} (h : Phased s) {i : Fin n} {packet : Packet}
    (hmem : packet ∈ s.taken i) (r : CallResult) :
    (∀ result, (s.served packet r).1 = .ok result → s.Describes i packet r result) ↔
      (s.pipes i).TellsOperation packet := by
  obtain ⟨ph, hphase⟩ := h.phase i
  have hph : (s.pipes i).InPhase ph := hphase
  have hserved : (s.served packet r).1 =
      ph.serviceResult i packet.bytesTransferred packet.errorCode :=
    service_phase h.wired hph hmem r
  constructor
  · intro hall
    -- in a phase with an operation underway there is a result to compare with
    have hop : ∀ q, ph = q → q.flagged = true →
        (q = .disconnectingConnecting → packet.errorCode ≠ errorSuccess) →
        ∃ result, q.serviceResult i packet.bytesTransferred packet.errorCode = .ok result ∧
          result.operation = packet.op.kind ∧ result.bytesTransferred = packet.count := by
      rintro q rfl hflag hlate
      obtain ⟨result, hok⟩ := Phase.exists_serviceResult hflag hlate
      have hdesc := hall result (by rw [hserved]; exact hok)
      exact ⟨result, hok, hdesc.operation, hdesc.bytesTransferred⟩
    refine { connecting := ?_, reading := ?_, disconnectingReading := ?_,
             disconnectingConnecting := ?_ }
    · intro hstate
      obtain ⟨result, hok, hkind, -⟩ := hop .connecting ((hph.state_eq_iff _).mp hstate) rfl
        (fun hq => by cases hq)
      cases hok
      exact hkind.symm
    · intro hstate
      obtain ⟨result, hok, hkind, -⟩ := hop .reading ((hph.state_eq_iff _).mp hstate) rfl
        (fun hq => by cases hq)
      cases hok
      exact hkind.symm
    · intro hstate
      obtain ⟨result, hok, hkind, -⟩ := hop .disconnectingReading
        ((hph.state_eq_iff _).mp hstate) rfl (fun hq => by cases hq)
      cases hok
      exact hkind.symm
    · intro hstate hfail
      obtain ⟨result, hok, hkind, hcount⟩ := hop .disconnectingConnecting
        ((hph.state_eq_iff _).mp hstate) rfl (fun _ => hfail)
      rw [show Phase.disconnectingConnecting.serviceResult i packet.bytesTransferred
        packet.errorCode = _ from if_neg hfail] at hok
      cases hok
      refine ⟨hkind.symm, ?_⟩
      rw [Packet.count, if_pos hkind.symm] at hcount
      exact hcount.symm
  · intro htold result hok
    rw [hserved] at hok
    obtain ⟨hindex, hcode, hnew, hcases⟩ := Phase.serviceResult_ok hok
    have hkind : result.operation = packet.op.kind ∧ result.bytesTransferred = packet.count := by
      rcases hcases with ⟨rfl, hop, hbytes⟩ | ⟨hread, hop, hbytes⟩ | ⟨rfl, hfail, hop, hbytes⟩
      · have hk := htold.connecting hph
        rw [hop, hbytes, Packet.count, hk]
        exact ⟨rfl, rfl⟩
      · have hk : packet.op.kind = .read := by
          rcases hread with rfl | rfl
          · exact htold.reading hph
          · exact htold.disconnectingReading hph
        rw [hop, hbytes, Packet.count, hk]
        exact ⟨rfl, rfl⟩
      · obtain ⟨hk, hzero⟩ := htold.disconnectingConnecting hph hfail
        rw [hop, hbytes, Packet.count, hk, hzero]
        exact ⟨rfl, rfl⟩
    refine { instanceIndex := hindex, behindOverlapped := ?_, operation := hkind.1,
             errorCode := hcode, bytesTransferred := hkind.2, newPipeState := ?_,
             others := fun j hj => served_other h.wired hmem r hj }
    · rw [(h.wired i).2 _ (mem_outstanding_of_taken hmem)]
      rfl
    · rw [hnew, served_self h.wired hmem]
      exact (Slot.serviceSwitch_phase hph i packet.bytesTransferred packet.errorCode r).2.1.symm

/-- Where no stray packet is about, only the packet of a connect that was
cancelled is misdescribed. -/
theorem tellsOperation_iff_of_tracked {p : Pipe} (h : p.Tracked) {packet : Packet}
    (hmem : packet ∈ p.taken) :
    p.slot.TellsOperation packet ↔
      (p.slot.inst.state = PipeState.disconnectingConnecting →
        packet.errorCode = errorSuccess) := by
  obtain ⟨ph, hph, -, hops⟩ := h
  have hexp := (hops packet.op (List.mem_append_right _ (List.mem_map_of_mem hmem))).2
  constructor
  · intro htold hstate
    have hdc := (hph.state_eq_iff .disconnectingConnecting).mp hstate
    subst hdc
    by_contra hfail
    -- the phase expects a connect, and is told of a read
    have hkind := (htold.disconnectingConnecting hstate hfail).1
    rw [hkind] at hexp
    cases hexp
  · intro hlate
    have hkind : ∀ (q : Phase) kind b, q.expects = some (kind, b) → p.slot.inst.state = q.bits →
        packet.op.kind = kind := by
      intro q kind b hq hstate
      rw [(hph.state_eq_iff q).mp hstate, hq] at hexp
      cases hexp
      rfl
    exact { connecting := hkind .connecting _ _ rfl
            reading := hkind .reading _ _ rfl
            disconnectingReading := hkind .disconnectingReading _ _ rfl
            disconnectingConnecting := fun hstate hfail => absurd (hlate hstate) hfail }

/-- The phase in which a connect comes back that was disconnected underway. -/
theorem disconnectingConnecting_iff_of_tracked {p : Pipe} (h : p.Tracked) {packet : Packet}
    (hmem : packet ∈ p.taken) :
    p.slot.inst.state = PipeState.disconnectingConnecting ↔
      packet.op.kind = .connect ∧ packet.op.startedAt < p.slot.disconnects := by
  obtain ⟨ph, hph, -, hops⟩ := h
  have hexp := (hops packet.op (List.mem_append_right _ (List.mem_map_of_mem hmem))).2
  rw [show PipeState.disconnectingConnecting = Phase.disconnectingConnecting.bits from rfl,
    hph.state_eq_iff]
  constructor
  · rintro rfl
    obtain ⟨hkind, hghost⟩ := Prod.mk.inj (Option.some.inj hexp)
    exact ⟨hkind.symm, decide_eq_true_iff.mp hghost.symm⟩
  · rintro ⟨hkind, hlt⟩
    rw [hkind, decide_eq_true hlt] at hexp
    cases ph with
    | disconnectingConnecting => rfl
    | unconnected | connected | connecting | reading | disconnectingReading => cases hexp

/-- The invariant of the runs without stray packets. -/
structure Strayless (s : PipeSystem n) : Prop extends Phased s where
  tracked : ∀ i, (s.pipe i).Tracked

theorem strayless_init : Strayless (init n) :=
  ⟨phased_init, fun i => Pipe.tracked_create i⟩

theorem strayless_step (s : PipeSystem n) (e : PipeEvent) (s' : PipeSystem n) (h : Strayless s)
    (hs : step s e = some s')
    (hstray : ∀ i : Fin n, i.val = e.index → ¬ (s.pipe i).LeavesStray e.call) : Strayless s' := by
  refine ⟨phased_step s e s' h.toPhased hs, fun i => ?_⟩
  obtain ⟨hself, hother⟩ := step_local h.wired hs
  by_cases hi : i.val = e.index
  · exact Pipe.tracked_step _ _ _ (h.tracked i) (hself i hi) (hstray i hi)
  · rw [hother i hi]
    exact h.tracked i

theorem told_iff_noneCancelled {s : PipeSystem n} (h : Strayless s) (e : PipeEvent) :
    ServiceTold s e ↔ NoneCancelled s e := by
  have hone : ∀ (i : Fin n) packet, packet ∈ s.taken i →
      ((s.pipes i).TellsOperation packet ↔ (packet.op.kind = .connect →
        packet.op.startedAt < (s.pipes i).disconnects → packet.errorCode = errorSuccess)) := by
    intro i packet hmem
    have htells : (s.pipes i).TellsOperation packet ↔ _ :=
      tellsOperation_iff_of_tracked (h.tracked i) hmem
    have hstate : (s.pipes i).inst.state = PipeState.disconnectingConnecting ↔
        packet.op.kind = .connect ∧ packet.op.startedAt < (s.pipes i).disconnects :=
      disconnectingConnecting_iff_of_tracked (h.tracked i) hmem
    exact htells.trans ((imp_congr_left hstate).trans and_imp)
  constructor
  · intro htold i k r packet he hpacket
    exact (hone i packet (List.mem_of_getElem? hpacket)).mp (htold i k r packet he hpacket)
  · intro hnone i k r packet he hpacket
    exact (hone i packet (List.mem_of_getElem? hpacket)).mpr (hnone i k r packet he hpacket)

theorem serviceDescribes_iff_told {s : PipeSystem n} (h : Phased s) (e : PipeEvent) :
    ServiceDescribes s e ↔ ServiceTold s e := by
  constructor
  · intro hdesc i k r packet he hpacket
    refine (describes_iff h (List.mem_of_getElem? hpacket) r).mp fun result hok => ?_
    exact hdesc i k r packet result he hpacket hok
  · intro htold i k r packet result he hpacket
    exact (describes_iff h (List.mem_of_getElem? hpacket) r).mpr
      (htold i k r packet he hpacket) result

/-- **What `service` reports, exactly**: for any number of instances and any run,
every result that `service` returns describes the operation its packet ends if
and only if the state told that operation whenever a packet was serviced. In a run
in which no start throws while its packet is queued, that is to say: no connect
that was disconnected underway came back with an error. -/
theorem serviceDescribes_iff (n : Nat) (es : List PipeEvent) :
    ((machine n).EachStep ServiceDescribes (init n) es ↔
        (machine n).EachStep ServiceTold (init n) es) ∧
      ((machine n).EachStep
          (fun s e => ∀ i : Fin n, i.val = e.index → ¬ (s.pipe i).LeavesStray e.call)
          (init n) es →
        ((machine n).EachStep ServiceDescribes (init n) es ↔
          (machine n).EachStep NoneCancelled (init n) es)) := by
  constructor
  · refine Machine.eachStep_congr phased_step ?_ phased_init es
    intro s e _ h _
    exact serviceDescribes_iff_told h e
  · intro hstray
    refine Machine.eachStep_congr_of_eachStep strayless_step (fun s e _ h _ _ => ?_)
      strayless_init hstray
    exact (serviceDescribes_iff_told h.toPhased e).trans (told_iff_noneCancelled h e)

/-- A connect is disconnected before any client came: `CancelIoEx` ends it. -/
def cancelledConnect : List PipeEvent :=
  [⟨0, .connect ⟨false, errorIoPending⟩⟩, ⟨0, .disconnect ⟨true, 0⟩⟩,
    ⟨0, .complete 0 errorOperationAborted 0⟩, ⟨0, .dequeue 0⟩, ⟨0, .service 0 ⟨true, 0⟩⟩]

/-- `service` reports the cancelled connect as a read. -/
theorem serviceDescribes_broken :
    ¬ (machine 1).EachStep ServiceDescribes (init 1) cancelledConnect := by
  intro h
  have hlast := ((((h _ rfl).2 _ rfl).2 _ rfl).2 _ rfl).2 _ rfl
  have hop := (hlast.1 0 0 ⟨true, 0⟩ _ _ rfl rfl rfl).operation
  cases hop

end PipeSystem

end Task6
