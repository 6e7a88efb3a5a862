import Task6.Library.Machine
import Task6.Pipes.InPipeServer
import Mathlib.Data.List.Perm.Basic

/-!
# `InPipeServer` under arbitrary callers

Any number of threads call `connectInstance`, `readInstance`,
`disconnectInstance` and `service` in any order, Windows answers each call as it
likes and completes operations whenever it likes, and a packet is serviced once
by the thread that took it from the iocp.

- `PipeSystem.machine n`: the machine of `n` instances, through the member
  functions of `Pipes/InPipeServer.lean`.
- `Pipe.step`: one instance alone, with its operations and packets.
- `step_pipe`: `Wired` systems (every OVERLAPPED carries its own index, every
  packet its own OVERLAPPED) route each call to the instance meant, so a system
  is `n` independent instances; `always_iff_of_local` turns an exact invariant
  of one instance into one of the system.
-/

namespace Task6

open Win32

/-! ## What Windows does on its own -/

namespace Slot

/-- The `k`-th operation in flight completes: its packet goes to the iocp. -/
def complete (slot : Slot) (k : Nat) (packet : Packet) : Slot :=
  { slot with
    pending := slot.pending.eraseIdx k
    queued := slot.queued ++ [packet]
    connected := slot.connected ||
      (packet.op.kind == .connect && packet.errorCode == errorSuccess) }

/-- The `k`-th packet leaves the iocp. -/
def dequeue (slot : Slot) (k : Nat) : Slot :=
  { slot with queued := slot.queued.eraseIdx k }

end Slot

/-! ## The system -/

/-- The instances, and for each its packets that a thread has taken from the
iocp and not yet serviced. -/
structure PipeSystem (n : Nat) where
  pipes : Fin n → Slot
  taken : Fin n → List Packet

/-- What can happen to an instance. Positions count within the instance's
operations in flight, packets queued and packets taken. -/
inductive PipeCall where
  | connect (r : CallResult)
  | read (size : Nat) (r : CallResult)
  | disconnect (r : CallResult)
  | complete (k : Nat) (errorCode : DWORD) (bytesTransferred : Nat)
  | dequeue (k : Nat)
  | service (k : Nat) (r : CallResult)
  deriving DecidableEq, Repr

structure PipeEvent where
  index : Nat
  call : PipeCall
  deriving DecidableEq, Repr

namespace PipeSystem

variable {n : Nat}

def init (n : Nat) : PipeSystem n := ⟨fun i => Slot.create i, fun _ => []⟩

def step (s : PipeSystem n) (e : PipeEvent) : Option (PipeSystem n) :=
  match e.call with
  | .connect r => some { s with pipes := (InPipeServer.connectInstance s.pipes e.index r).2 }
  | .read size r => some { s with pipes := (InPipeServer.readInstance s.pipes e.index size r).2 }
  | .disconnect r => some { s with pipes := (InPipeServer.disconnectInstance s.pipes e.index r).2 }
  | .complete k errorCode bytesTransferred =>
    if h : e.index < n then
      let i : Fin n := ⟨e.index, h⟩
      (s.pipes i).pending[k]?.map fun op =>
        { s with
          pipes := Function.update s.pipes i
            ((s.pipes i).complete k ⟨op, errorCode, bytesTransferred⟩) }
    else none
  | .dequeue k =>
    if h : e.index < n then
      let i : Fin n := ⟨e.index, h⟩
      (s.pipes i).queued[k]?.map fun packet =>
        { pipes := Function.update s.pipes i ((s.pipes i).dequeue k)
          taken := Function.update s.taken i (s.taken i ++ [packet]) }
    else none
  | .service k r =>
    if h : e.index < n then
      let i : Fin n := ⟨e.index, h⟩
      (s.taken i)[k]?.map fun packet =>
        { pipes := (InPipeServer.service s.pipes (some packet.op.lpOverlapped)
            packet.bytesTransferred packet.errorCode r).2
          taken := Function.update s.taken i ((s.taken i).eraseIdx k) }
    else none

def machine (n : Nat) : Machine (PipeSystem n) PipeEvent := ⟨init n, step⟩

end PipeSystem

/-! ## One instance alone -/

/-- An instance with its packets that threads have taken. -/
structure Pipe where
  slot : Slot
  taken : List Packet

namespace Pipe

def create (index : Nat) : Pipe := ⟨Slot.create index, []⟩

/-- The operations whose packet is still to come or to be serviced: pending in
Windows, queued on the iocp, or taken by a thread. -/
def outstanding (p : Pipe) : List AsyncOp :=
  p.slot.pending ++ p.slot.queued.map Packet.op ++ p.taken.map Packet.op

def step (p : Pipe) : PipeCall → Option Pipe
  | .connect r => some { p with slot := (p.slot.connectInstance r).2 }
  | .read size r => some { p with slot := (p.slot.readInstance size r).2 }
  | .disconnect r => some { p with slot := (p.slot.disconnectInstance r).2 }
  | .complete k errorCode bytesTransferred =>
    p.slot.pending[k]?.map fun op =>
      { p with slot := p.slot.complete k ⟨op, errorCode, bytesTransferred⟩ }
  | .dequeue k =>
    p.slot.queued[k]?.map fun packet => ⟨p.slot.dequeue k, p.taken ++ [packet]⟩
  | .service k r =>
    p.taken[k]?.map fun packet =>
      ⟨(p.slot.serviceSwitch p.slot.inst.connReadOverlapped.index
          packet.bytesTransferred packet.errorCode r).2, p.taken.eraseIdx k⟩

/-! ## The operations outstanding, call by call -/

section Outstanding

variable {p p' : Pipe}

theorem map_op_perm {packets : List Packet} {k : Nat} {packet : Packet}
    (hk : packets[k]? = some packet) :
    (packet.op :: (packets.eraseIdx k).map Packet.op).Perm (packets.map Packet.op) := by
  obtain ⟨hlt, rfl⟩ := List.getElem?_eq_some_iff.mp hk
  exact (List.getElem_cons_eraseIdx_perm hlt).map Packet.op

/-- A start adds the operation it issues, when its guard lets it through. -/
theorem outstanding_connect {r : CallResult} (h : p.step (.connect r) = some p') :
    p'.outstanding.Perm
      (p.outstanding ++ if p.slot.canConnect then p.slot.issued .connect 0 r else []) := by
  cases h
  unfold outstanding
  rw [Slot.connectInstance_pending, (Slot.connectInstance_frame _ _).queued]
  simp only [List.append_assoc]
  exact (List.Perm.append_left _ List.perm_append_comm).trans (by simp)

theorem outstanding_read {size : Nat} {r : CallResult} (h : p.step (.read size r) = some p') :
    p'.outstanding.Perm
      (p.outstanding ++ if p.slot.canRead then p.slot.issued .read (size % 2 ^ 32) r else []) := by
  cases h
  unfold outstanding
  rw [Slot.readInstance_pending, (Slot.readInstance_frame _ _ _).queued]
  simp only [List.append_assoc]
  exact (List.Perm.append_left _ List.perm_append_comm).trans (by simp)

theorem outstanding_disconnect {r : CallResult} (h : p.step (.disconnect r) = some p') :
    p'.outstanding = p.outstanding := by
  cases h
  simp [outstanding, (Slot.disconnectInstance_frame _ _).queued]

/-- A completion and a dequeue move an operation along. -/
theorem outstanding_complete {k : Nat} {errorCode : DWORD} {bytesTransferred : Nat}
    (h : p.step (.complete k errorCode bytesTransferred) = some p') :
    p'.outstanding.Perm p.outstanding := by
  obtain ⟨op, hop, rfl⟩ := Option.map_eq_some_iff.mp h
  obtain ⟨hlt, rfl⟩ := List.getElem?_eq_some_iff.mp hop
  have hperm := List.getElem_cons_eraseIdx_perm hlt
  simp only [outstanding, Slot.complete, List.map_append, List.map_cons, List.map_nil]
  refine List.Perm.append_right _ ?_
  rw [← List.append_assoc]
  refine (List.perm_append_singleton _ _).trans ?_
  rw [← List.cons_append]
  exact hperm.append_right _

theorem outstanding_dequeue {k : Nat} (h : p.step (.dequeue k) = some p') :
    p'.outstanding.Perm p.outstanding := by
  obtain ⟨packet, hpacket, rfl⟩ := Option.map_eq_some_iff.mp h
  simp only [outstanding, Slot.dequeue, List.map_append, List.map_cons, List.map_nil,
    List.append_assoc]
  refine List.Perm.append_left _ ?_
  rw [← List.append_assoc]
  refine (List.perm_append_singleton _ _).trans ?_
  rw [← List.cons_append]
  exact (map_op_perm hpacket).append_right _

/-- `service` ends the operation of the packet it is called for. -/
theorem outstanding_service {k : Nat} {r : CallResult}
    (h : p.step (.service k r) = some p') :
    ∃ packet, p.taken[k]? = some packet ∧
      (packet.op :: p'.outstanding).Perm p.outstanding := by
  obtain ⟨packet, hpacket, rfl⟩ := Option.map_eq_some_iff.mp h
  refine ⟨packet, hpacket, ?_⟩
  simp only [outstanding, Slot.serviceSwitch_pending, (Slot.serviceSwitch_frame _ _ _ _ _).queued]
  refine List.perm_middle.symm.trans ?_
  exact List.Perm.append_left _ (map_op_perm hpacket)

theorem issued_overlapped {slot : Slot} {kind : Operation} {capacity : Nat} {r : CallResult}
    {op : AsyncOp} (h : op ∈ slot.issued kind capacity r) :
    op.lpOverlapped = slot.inst.connReadOverlapped := by
  unfold Slot.issued at h
  split at h
  · rw [List.mem_singleton.mp h]
  · cases h

/-- The instance owns the OVERLAPPED `lp`, and its operations run on it. -/
def WiredAt (p : Pipe) (lp : RaiiIndexedOverlapped) : Prop :=
  p.slot.inst.connReadOverlapped = lp ∧ ∀ op ∈ p.outstanding, op.lpOverlapped = lp

theorem step_wired {lp : RaiiIndexedOverlapped} {c : PipeCall} (hw : p.WiredAt lp)
    (h : p.step c = some p') : p'.WiredAt lp := by
  obtain ⟨hinst, hops⟩ := hw
  -- a new operation runs on the instance's own OVERLAPPED
  have hadd : ∀ {kind capacity r}, ∀ op ∈ p.outstanding ++ p.slot.issued kind capacity r,
      op.lpOverlapped = lp := by
    intro kind capacity r op hop
    rcases List.mem_append.mp hop with hop | hop
    · exact hops op hop
    · rw [issued_overlapped hop, hinst]
  cases c with
  | connect r =>
    constructor
    · cases h
      rw [(Slot.connectInstance_frame _ _).overlapped, hinst]
    · intro op hop
      have hmem := (outstanding_connect h).mem_iff.mp hop
      split at hmem
      · exact hadd op hmem
      · exact hops op (by simpa using hmem)
  | read size r =>
    constructor
    · cases h
      rw [(Slot.readInstance_frame _ _ _).overlapped, hinst]
    · intro op hop
      have hmem := (outstanding_read h).mem_iff.mp hop
      split at hmem
      · exact hadd op hmem
      · exact hops op (by simpa using hmem)
  | disconnect r =>
    constructor
    · cases h
      rw [(Slot.disconnectInstance_frame _ _).overlapped, hinst]
    · intro op hop
      exact hops op (outstanding_disconnect h ▸ hop)
  | complete k errorCode bytesTransferred =>
    constructor
    · obtain ⟨op, -, rfl⟩ := Option.map_eq_some_iff.mp h
      exact hinst
    · intro op hop
      exact hops op ((outstanding_complete h).mem_iff.mp hop)
  | dequeue k =>
    constructor
    · obtain ⟨packet, -, rfl⟩ := Option.map_eq_some_iff.mp h
      exact hinst
    · intro op hop
      exact hops op ((outstanding_dequeue h).mem_iff.mp hop)
  | service k r =>
    obtain ⟨packet, -, hperm⟩ := outstanding_service h
    constructor
    · obtain ⟨packet, -, rfl⟩ := Option.map_eq_some_iff.mp h
      rw [(Slot.serviceSwitch_frame _ _ _ _ _).overlapped, hinst]
    · intro op hop
      exact hops op (hperm.mem_iff.mp (List.mem_cons_of_mem _ hop))

end Outstanding

end Pipe

namespace PipeSystem

variable {n : Nat}

/-- The view of one instance. -/
def pipe (s : PipeSystem n) (i : Fin n) : Pipe := ⟨s.pipes i, s.taken i⟩

/-- Every OVERLAPPED carries the index of its instance, and every operation was
started on the OVERLAPPED of its instance. -/
def Wired (s : PipeSystem n) : Prop := ∀ i : Fin n, (s.pipe i).WiredAt ⟨i, i⟩

theorem wired_init : Wired (init n) :=
  fun _ => ⟨rfl, fun _ h => by cases h⟩

end PipeSystem

/-! ## Calls are routed to the instance meant -/

namespace InPipeServer

variable {n : Nat} {α : Type}

theorem atIndex_of_lt (pipes : Fin n → Slot) (i : Fin n)
    (body : Slot → Except Exn α × Slot) :
    atIndex pipes i body = ((body (pipes i)).1, Function.update pipes i (body (pipes i)).2) := by
  simp [atIndex]

/-- For a genuine packet of instance `i`, `service` is its `switch` on that
instance. -/
theorem service_of_wired {pipes : Fin n → Slot} {i : Fin n} {lp : RaiiIndexedOverlapped}
    (hinst : (pipes i).inst.connReadOverlapped = ⟨i, i⟩) (hlp : lp = ⟨i, i⟩)
    (bytesTransferred : Nat) (errorCode : DWORD) (r : CallResult) :
    service pipes (some lp) bytesTransferred errorCode r =
      (((pipes i).serviceSwitch i bytesTransferred errorCode r).1,
        Function.update pipes i ((pipes i).serviceSwitch i bytesTransferred errorCode r).2) := by
  subst hlp
  unfold service
  simp only [indexFromOverlappedLp]
  rw [atIndex_of_lt]
  simp [hinst]

end InPipeServer

namespace PipeSystem

variable {n : Nat}

theorem pipe_update_self (s : PipeSystem n) (i : Fin n) (slot : Slot) (taken : List Packet) :
    pipe ⟨Function.update s.pipes i slot, Function.update s.taken i taken⟩ i = ⟨slot, taken⟩ := by
  simp [pipe]

theorem pipe_update_other (s : PipeSystem n) {i j : Fin n} (hj : j ≠ i) (slot : Slot)
    (taken : List Packet) :
    pipe ⟨Function.update s.pipes i slot, Function.update s.taken i taken⟩ j = s.pipe j := by
  simp [pipe, hj]

/-- A step on instance `i` is that instance's own step, and nothing else
changes. -/
theorem step_eq {s : PipeSystem n} (hw : Wired s) (i : Fin n) (c : PipeCall) :
    step s ⟨i, c⟩ = ((s.pipe i).step c).map fun p =>
      ⟨Function.update s.pipes i p.slot, Function.update s.taken i p.taken⟩ := by
  cases c with
  | connect r =>
    simp [step, Pipe.step, pipe, InPipeServer.connectInstance, InPipeServer.atIndex_of_lt]
  | read size r =>
    simp [step, Pipe.step, pipe, InPipeServer.readInstance, InPipeServer.atIndex_of_lt]
  | disconnect r =>
    simp [step, Pipe.step, pipe, InPipeServer.disconnectInstance, InPipeServer.atIndex_of_lt]
  | complete k errorCode bytesTransferred =>
    simp [step, Pipe.step, pipe, Option.map_map, Function.comp_def]
  | dequeue k =>
    simp [step, Pipe.step, pipe, Option.map_map, Function.comp_def]
  | service k r =>
    simp only [step, Pipe.step, pipe, i.isLt, ↓reduceDIte, Fin.eta, Option.map_map]
    cases hk : (s.taken i)[k]? with
    | none => rfl
    | some packet =>
      have hmem : packet.op ∈ (s.pipe i).outstanding :=
        List.mem_append_right _ (List.mem_map_of_mem (List.mem_of_getElem? hk))
      have hroute := InPipeServer.service_of_wired (hw i).1 ((hw i).2 _ hmem)
        packet.bytesTransferred packet.errorCode r
      have hindex : (s.pipes i).inst.connReadOverlapped.index = i :=
        congrArg RaiiIndexedOverlapped.index (hw i).1
      simp [hroute, hindex]

/-- **A system is independent instances**: a step is a step of the instance
whose index it names (of none, when the index is out of range), and the others
do not change. -/
theorem step_local {s s' : PipeSystem n} (hw : Wired s) {e : PipeEvent}
    (h : step s e = some s') :
    (∀ i : Fin n, i.val = e.index → (s.pipe i).step e.call = some (s'.pipe i)) ∧
      ∀ j : Fin n, j.val ≠ e.index → s'.pipe j = s.pipe j := by
  obtain ⟨index, c⟩ := e
  by_cases hi : index < n
  · rw [show (⟨index, c⟩ : PipeEvent) = ⟨(⟨index, hi⟩ : Fin n).val, c⟩ from rfl,
      step_eq hw] at h
    obtain ⟨p, hp, rfl⟩ := Option.map_eq_some_iff.mp h
    constructor
    · rintro i rfl
      rw [hp, pipe_update_self]
    · intro j hj
      exact pipe_update_other s (fun h => hj (congrArg Fin.val h)) p.slot p.taken
  · -- `at` throws for the calls; the other events do not exist
    have hs : s' = s := by
      cases c <;> simp [step, InPipeServer.connectInstance, InPipeServer.readInstance,
        InPipeServer.disconnectInstance, InPipeServer.atIndex, hi] at h <;> exact h.symm
    subst hs
    refine ⟨fun i hindex => absurd i.isLt ?_, fun _ _ => rfl⟩
    rw [hindex]
    exact hi

theorem step_wired {s s' : PipeSystem n} (hw : Wired s) {e : PipeEvent}
    (h : step s e = some s') : Wired s' := by
  intro i
  obtain ⟨hself, hother⟩ := step_local hw h
  by_cases hi : i.val = e.index
  · exact Pipe.step_wired (hw i) (hself i hi)
  · rw [hother i hi]
    exact hw i

/-- **From one instance to the system.** Let `I` be an exact invariant of one
instance: kept by its steps that meet `Q`, entailing `P`, with `P` broken by any
step that does not meet `Q`. Then a run of the system has `P` of every instance
throughout exactly when each of its steps meets `Q`. -/
theorem always_iff_of_local {I : Pipe → Prop} {Q : Pipe → PipeCall → Prop}
    {P : PipeSystem n → Fin n → Prop}
    (hinit : ∀ index, I (Pipe.create index))
    (hP : ∀ s i, Wired s → I (s.pipe i) → P s i)
    (hkeep : ∀ p c p', I p → p.step c = some p' → Q p c → I p')
    (hbreak : ∀ p c s' i, I p → p.step c = some (s'.pipe i) → ¬ Q p c → ¬ P s' i)
    (es : List PipeEvent) :
    (machine n).Always (fun s => ∀ i, P s i) (init n) es ↔
      (machine n).EachStep (fun s e => ∀ i : Fin n, i.val = e.index → Q (s.pipe i) e.call)
        (init n) es := by
  refine Machine.always_iff_eachStep (I := fun s => Wired s ∧ ∀ i, I (s.pipe i))
    ?_ ?_ ?_ ⟨wired_init, fun i => hinit i⟩ es
  · rintro s ⟨hw, hI⟩ i
    exact hP s i hw (hI i)
  · rintro s e s' ⟨hw, hI⟩ hs hQ
    refine ⟨step_wired hw hs, fun i => ?_⟩
    obtain ⟨hself, hother⟩ := step_local hw hs
    by_cases hi : i.val = e.index
    · exact hkeep _ _ _ (hI i) (hself i hi) (hQ i hi)
    · rw [hother i hi]
      exact hI i
  · rintro s e s' ⟨hw, hI⟩ hs hQ hall
    -- the instance whose step does not meet `Q` breaks `P` of the system
    push Not at hQ
    obtain ⟨i, hi, hnot⟩ := hQ
    exact hbreak _ _ s' i (hI i) ((step_local hw hs).1 i hi) hnot (hall i)

end PipeSystem

end Task6
