import Task6.Pipes.SlotPhase
import Task6.Pipes.PipeSystem
import Mathlib.Data.List.InsertIdx

/-!
# Starts that throw

A `connectInstance` or `readInstance` that throws is to have started nothing.
Beside the system runs a history variable: whether the call that started each
operation pending, queued or taken has returned. `readInstance` takes the warning
`ERROR_MORE_DATA` for a failure although Windows queues a packet with it, so the
packet of a call that threw is serviced later. `failedStarts_iff` says which runs
are free of that.
-/

namespace Task6

open Win32

namespace Slot

/-- Nothing was started: the state, the operations in flight and the packets are
what they were. -/
structure Unstarted (slot slot' : Slot) : Prop where
  state : slot'.inst.state = slot.inst.state
  pending : slot'.pending = slot.pending
  queued : slot'.queued = slot.queued

theorem Unstarted.refl (slot : Slot) : Unstarted slot slot := ⟨rfl, rfl, rfl⟩

variable (slot : Slot)

theorem issue_unstarted_iff (kind : Operation) (capacity : Nat) (r : CallResult) :
    Unstarted slot (slot.issue kind capacity r) ↔ queuesPacket kind r = false := by
  constructor
  · intro h
    by_contra hq
    have hpending := h.pending
    simp [issue, issued, hq] at hpending
  · intro hq
    exact ⟨rfl, by simp [issue, issued, hq], rfl⟩

/-- A connect that throws has started nothing, unless `ConnectNamedPipe` returned
TRUE. -/
theorem connectInstance_clean {r : CallResult} (hr : r.bResult = false) {ex : Exn}
    (hthrew : (slot.connectInstance r).1 = .error ex) :
    Unstarted slot (slot.connectInstance r).2 := by
  unfold connectInstance at hthrew ⊢
  cases hc : slot.canConnect with
  | false => exact .refl slot
  | true =>
    simp only [hc, Bool.not_true, Bool.false_eq_true, ↓reduceIte] at hthrew ⊢
    split
    · rename_i ht
      simp only [hr, Bool.false_or, Bool.and_eq_true, bne_iff_ne, ne_eq] at ht
      have hq : queuesPacket .connect r = false := by
        simp [queuesPacket, hr, ht.1]
      obtain ⟨hstate, hpending, hqueued⟩ := (slot.issue_unstarted_iff .connect 0 r).mpr hq
      exact ⟨hstate, hpending, hqueued⟩
    · rename_i ht
      rw [if_neg ht] at hthrew
      cases hthrew

/-- A read that throws has started nothing, exactly when `ReadFile` did not fail
with `ERROR_MORE_DATA`. -/
theorem readInstance_clean_iff (size : Nat) (r : CallResult) :
    (∀ ex, (slot.readInstance size r).1 = .error ex →
        Unstarted slot (slot.readInstance size r).2) ↔
      (slot.canRead = true → r.bResult = false → r.lastError ≠ errorMoreData) := by
  unfold readInstance
  cases hc : slot.canRead with
  | false =>
    refine iff_of_true (fun ex _ => .refl slot) fun h => ?_
    cases h
  | true =>
    simp only [Bool.not_true, Bool.false_eq_true, ↓reduceIte]
    split
    · rename_i ht
      simp only [Bool.and_eq_true, Bool.not_eq_true', bne_iff_ne, ne_eq] at ht
      have hq : queuesPacket .read r = false ↔ r.lastError ≠ errorMoreData := by
        simp [queuesPacket, ht.1, ht.2]
      constructor
      · intro h _ _
        exact hq.mp ((slot.issue_unstarted_iff .read (size % 2 ^ 32) r).mp (h _ rfl))
      · intro h ex _
        exact (slot.issue_unstarted_iff .read (size % 2 ^ 32) r).mpr (hq.mpr (h trivial ht.1))
    · rename_i ht
      refine iff_of_true (fun ex h => by cases h) fun _ hr hmore => ht ?_
      rw [hr, hmore]
      rfl

end Slot

/-! ## Where packets come from -/

/-- For each operation of an instance that is pending, queued or taken, in the
order of these lists: the call that started it returned. -/
structure Origins where
  pending : List Bool
  queued : List Bool
  taken : List Bool
  deriving DecidableEq, Repr

namespace Origins

def start : Origins := ⟨[], [], []⟩

/-- A call of `connectInstance` or `readInstance` ended with `out`. -/
def issue (g : Origins) (slot : Slot) (out : Except Exn Unit × Slot) : Origins :=
  { g with
    pending := g.pending ++ (out.2.pending.drop slot.pending.length).map fun _ => out.1.isOk }

def record (p : Pipe) (c : PipeCall) (g : Origins) : Origins :=
  match c with
  | .connect r => g.issue p.slot (p.slot.connectInstance r)
  | .read size r => g.issue p.slot (p.slot.readInstance size r)
  | .complete k _ _ =>
    { g with
      pending := g.pending.eraseIdx k
      queued := g.queued ++ g.pending[k]?.toList }
  | .dequeue k =>
    { g with
      queued := g.queued.eraseIdx k
      taken := g.taken ++ g.queued[k]?.toList }
  | .service k _ => { g with taken := g.taken.eraseIdx k }
  | .disconnect _ => g

end Origins

namespace Pipe

/-- Every operation was started by a call that returned. -/
structure AllReturned (p : Pipe) (g : Origins) : Prop where
  pending : g.pending = p.slot.pending.map fun _ => true
  queued : g.queued = p.slot.queued.map fun _ => true
  taken : g.taken = p.taken.map fun _ => true

/-- If `c` is a start that throws, it has started nothing. -/
def StartsClean (p : Pipe) : PipeCall → Prop
  | .connect r => ∀ ex, (p.slot.connectInstance r).1 = .error ex →
    Slot.Unstarted p.slot (p.slot.connectInstance r).2
  | .read size r => ∀ ex, (p.slot.readInstance size r).1 = .error ex →
    Slot.Unstarted p.slot (p.slot.readInstance size r).2
  | .disconnect _ | .complete _ _ _ | .dequeue _ | .service _ _ => True

variable {p p' : Pipe} {g : Origins} {c : PipeCall}

/-- A start that returns marks what it started, one that throws starts nothing. -/
theorem AllReturned.issue (h : p.AllReturned g) (out : Except Exn Unit × Slot)
    {ops : List AsyncOp} (hpending : out.2.pending = p.slot.pending ++ ops)
    (hqueued : out.2.queued = p.slot.queued)
    (hclean : ∀ ex, out.1 = .error ex → Slot.Unstarted p.slot out.2) :
    AllReturned { p with slot := out.2 } (g.issue p.slot out) where
  pending := by
    have hnew : out.2.pending.drop p.slot.pending.length = ops := by
      rw [hpending, List.drop_left]
    rw [Origins.issue, hnew, h.pending]
    cases hout : out.1 with
    | ok _ => exact (hpending ▸ (List.map_append).symm)
    | error ex =>
      have hnone : ops = [] := by
        have hsame := (hclean ex hout).pending
        rw [hpending] at hsame
        exact List.self_eq_append_right.mp hsame.symm
      simp [hpending, hnone]
  queued := h.queued.trans (congrArg _ hqueued.symm)
  taken := h.taken

theorem allReturned_step (h : p.AllReturned g) (hs : p.step c = some p')
    (hclean : p.StartsClean c) : p'.AllReturned (Origins.record p c g) := by
  cases c with
  | connect r =>
    cases hs
    exact h.issue _ (Slot.connectInstance_pending _ _) (Slot.connectInstance_frame _ _).queued
      hclean
  | read size r =>
    cases hs
    exact h.issue _ (Slot.readInstance_pending _ _ _) (Slot.readInstance_frame _ _ _).queued hclean
  | disconnect r =>
    cases hs
    refine ⟨?_, ?_, h.taken⟩
    · rw [Slot.disconnectInstance_pending]
      exact h.pending
    · rw [(Slot.disconnectInstance_frame _ _).queued]
      exact h.queued
  | complete k errorCode bytesTransferred =>
    obtain ⟨op, hop, rfl⟩ := Option.map_eq_some_iff.mp hs
    refine ⟨?_, ?_, h.taken⟩
    · simp only [Origins.record, Slot.complete, h.pending, List.eraseIdx_map]
    · simp only [Origins.record, Slot.complete, h.pending, h.queued, List.getElem?_map, hop,
        Option.map_some, Option.toList_some, List.map_append, List.map_cons, List.map_nil]
  | dequeue k =>
    obtain ⟨packet, hpacket, rfl⟩ := Option.map_eq_some_iff.mp hs
    refine ⟨h.pending, ?_, ?_⟩
    · simp only [Origins.record, Slot.dequeue, h.queued, List.eraseIdx_map]
    · simp only [Origins.record, h.queued, h.taken, List.getElem?_map, hpacket,
        Option.map_some, Option.toList_some, List.map_append, List.map_cons, List.map_nil]
  | service k r =>
    obtain ⟨packet, hpacket, rfl⟩ := Option.map_eq_some_iff.mp hs
    refine ⟨?_, ?_, ?_⟩
    · rw [Slot.serviceSwitch_pending]
      exact h.pending
    · rw [(Slot.serviceSwitch_frame _ _ _ _ _).queued]
      exact h.queued
    · simp only [Origins.record, h.taken, List.eraseIdx_map]

/-- A packet that is serviced belongs to a call that returned. -/
theorem AllReturned.serviced (h : p.AllReturned g) {k : Nat} {r : CallResult}
    (hs : p.step (.service k r) = some p') : g.taken[k]? = some true := by
  obtain ⟨packet, hpacket, -⟩ := Option.map_eq_some_iff.mp hs
  rw [h.taken, List.getElem?_map, hpacket]
  rfl

end Pipe

/-! ## Whole runs -/

namespace PipeSystem

variable {n : Nat}

/-- The history of the instance a step is about goes on, the others stay. -/
def trackOrigins (s : PipeSystem n) (e : PipeEvent) (g : Fin n → Origins) : Fin n → Origins :=
  fun i => if i.val = e.index then Origins.record (s.pipe i) e.call (g i) else g i

/-- The instances, with where their packets come from. -/
def traced (n : Nat) : Machine (PipeSystem n × (Fin n → Origins)) PipeEvent :=
  (machine n).observed (fun _ => Origins.start) trackOrigins

/-- If `e` is a start that throws, nothing was started on any instance. -/
def StartsClean (s : PipeSystem n) (e : PipeEvent) : Prop :=
  match e.call with
  | .connect r => ∀ ex, (InPipeServer.connectInstance s.pipes e.index r).1 = .error ex →
    ∀ i, Slot.Unstarted (s.pipes i) ((InPipeServer.connectInstance s.pipes e.index r).2 i)
  | .read size r => ∀ ex, (InPipeServer.readInstance s.pipes e.index size r).1 = .error ex →
    ∀ i, Slot.Unstarted (s.pipes i) ((InPipeServer.readInstance s.pipes e.index size r).2 i)
  | .disconnect _ | .complete _ _ _ | .dequeue _ | .service _ _ => True

/-- If `e` services a packet, the call that started its operation returned. -/
def ServicedReturned (s : PipeSystem n × (Fin n → Origins)) (e : PipeEvent) : Prop :=
  ∀ (i : Fin n) k r, e = ⟨i, .service k r⟩ → (s.2 i).taken[k]? = some true

/-- What is assumed of Windows: `ConnectNamedPipe` does not return TRUE. -/
def ConnectsOverlapped (e : PipeEvent) : Prop := ∀ r, e.call = .connect r → r.bResult = false

/-- If `e` gets `ReadFile` called, it does not fail with `ERROR_MORE_DATA`: no
message longer than the buffer is already waiting. -/
def NoLongMessage (s : PipeSystem n) (e : PipeEvent) : Prop :=
  ∀ (i : Fin n) size r, i.val = e.index → e.call = .read size r →
    (s.pipes i).canRead = true → r.bResult = false → r.lastError ≠ errorMoreData

/-- A body that throws is clean on all instances when it is on the one it runs
on; `at` throws before it runs. -/
theorem clean_atIndex_iff {α : Type} (pipes : Fin n → Slot) (index : Nat)
    (body : Slot → Except Exn α × Slot) :
    (∀ ex, (InPipeServer.atIndex pipes index body).1 = .error ex →
        ∀ j, Slot.Unstarted (pipes j) ((InPipeServer.atIndex pipes index body).2 j)) ↔
      ∀ i : Fin n, i.val = index → ∀ ex, (body (pipes i)).1 = .error ex →
        Slot.Unstarted (pipes i) (body (pipes i)).2 := by
  constructor
  · rintro h i rfl ex hex
    rw [InPipeServer.atIndex_of_lt] at h
    simpa using h ex hex i
  · intro h ex hex j
    by_cases hindex : index < n
    · have hbody := h ⟨index, hindex⟩ rfl ex
      rw [show index = (⟨index, hindex⟩ : Fin n).val from rfl, InPipeServer.atIndex_of_lt]
        at hex ⊢
      by_cases hj : j = ⟨index, hindex⟩
      · subst hj
        simpa using hbody hex
      · simpa [hj] using Slot.Unstarted.refl (pipes j)
    · rw [InPipeServer.atIndex, dif_neg hindex]
      exact .refl _

/-- The starts of a system are those of its instances. -/
theorem startsClean_iff_pipe (s : PipeSystem n) (e : PipeEvent) :
    StartsClean s e ↔ ∀ i : Fin n, i.val = e.index → (s.pipe i).StartsClean e.call := by
  obtain ⟨index, c⟩ := e
  cases c with
  | connect r => exact clean_atIndex_iff s.pipes index _
  | read size r => exact clean_atIndex_iff s.pipes index _
  | disconnect | complete | dequeue | service =>
    exact iff_of_true trivial fun _ _ => trivial

theorem startsClean_iff {e : PipeEvent} (s : PipeSystem n) (he : ConnectsOverlapped e) :
    StartsClean s e ↔ NoLongMessage s e := by
  rw [startsClean_iff_pipe]
  obtain ⟨index, c⟩ := e
  constructor
  · rintro h i size r hi rfl
    exact (Slot.readInstance_clean_iff _ size r).mp (h i hi)
  · intro h i hi
    cases c with
    | connect r =>
      intro ex hex
      exact Slot.connectInstance_clean _ (he r rfl) hex
    | read size r => exact (Slot.readInstance_clean_iff _ size r).mpr (h i size r hi rfl)
    | disconnect | complete | dequeue | service => trivial

/-- The invariant of the runs whose starts are clean. -/
structure Traced (s : PipeSystem n × (Fin n → Origins)) : Prop where
  wired : Wired s.1
  returned : ∀ i, (s.1.pipe i).AllReturned (s.2 i)

theorem traced_init : Traced (traced n).init where
  wired := wired_init
  returned := fun _ => ⟨rfl, rfl, rfl⟩

theorem traced_step (s : PipeSystem n × (Fin n → Origins)) (e : PipeEvent)
    (s' : PipeSystem n × (Fin n → Origins)) (h : Traced s)
    (hs : (traced n).step s e = some s') (hclean : StartsClean s.1 e) : Traced s' := by
  obtain ⟨hstep, hrec⟩ := Machine.observed_step.mp hs
  obtain ⟨hself, hother⟩ := step_local h.wired hstep
  refine ⟨step_wired h.wired hstep, fun i => ?_⟩
  rw [hrec]
  by_cases hi : i.val = e.index
  · rw [trackOrigins, if_pos hi]
    exact Pipe.allReturned_step (h.returned i) (hself i hi)
      ((startsClean_iff_pipe s.1 e).mp hclean i hi)
  · rw [trackOrigins, if_neg hi, hother i hi]
    exact h.returned i

theorem Traced.servicedReturned {s s' : PipeSystem n × (Fin n → Origins)} {e : PipeEvent}
    (h : Traced s) (hs : (traced n).step s e = some s') : ServicedReturned s e := by
  rintro i k r rfl
  have hstep : step s.1 ⟨i, .service k r⟩ = some s'.1 := (Machine.observed_step.mp hs).1
  obtain ⟨hself, -⟩ := step_local h.wired hstep
  exact (h.returned i).serviced (hself i rfl)

/-- **Failed starts, exactly**: for any number of instances and any run in which
`ConnectNamedPipe` never returns TRUE, every start that throws has started
nothing, and every packet serviced belongs to a call that returned, if and only
if no `ReadFile` of the run fails with `ERROR_MORE_DATA`. -/
theorem failedStarts_iff (n : Nat) (es : List PipeEvent)
    (hwindows : ∀ e ∈ es, ConnectsOverlapped e) :
    (traced n).EachStep (fun s e => StartsClean s.1 e ∧ ServicedReturned s e) (traced n).init es ↔
      (traced n).EachStep (fun s e => NoLongMessage s.1 e) (traced n).init es := by
  have hconnects : (traced n).EachStep (fun _ e => ConnectsOverlapped e) (traced n).init es :=
    Machine.eachStep_of_forall_mem hwindows
  constructor
  · intro h
    refine Machine.eachStep_of_eachStep (I := fun _ => True) (fun _ _ _ _ _ _ => trivial) ?_ trivial
      (Machine.eachStep_and.mpr ⟨h, hconnects⟩)
    rintro s e s' - - ⟨⟨hclean, -⟩, hconnect⟩
    exact (startsClean_iff s.1 hconnect).mp hclean
  · intro h
    refine Machine.eachStep_of_eachStep (I := Traced) ?_ ?_ traced_init
      (Machine.eachStep_and.mpr ⟨h, hconnects⟩)
    · rintro s e s' htraced hs ⟨hshort, hconnect⟩
      exact traced_step s e s' htraced hs ((startsClean_iff s.1 hconnect).mpr hshort)
    · rintro s e s' htraced hs ⟨hshort, hconnect⟩
      exact ⟨(startsClean_iff s.1 hconnect).mpr hshort, htraced.servicedReturned hs⟩

/-- A client connects and its first message is longer than the buffer: the read
fails with `ERROR_MORE_DATA`, and its packet is serviced. -/
def longMessage : List PipeEvent :=
  [⟨0, .connect ⟨false, errorIoPending⟩⟩, ⟨0, .complete 0 errorSuccess 0⟩, ⟨0, .dequeue 0⟩,
    ⟨0, .service 0 ⟨true, 0⟩⟩, ⟨0, .read 512 ⟨false, errorMoreData⟩⟩,
    ⟨0, .complete 0 errorMoreData 512⟩, ⟨0, .dequeue 0⟩, ⟨0, .service 0 ⟨true, 0⟩⟩]

/-- The packet of the read that threw is serviced, which throws as well. -/
theorem failedStarts_broken :
    ¬ (traced 1).EachStep (fun s e => StartsClean s.1 e ∧ ServicedReturned s e) (traced 1).init
      longMessage := by
  intro h
  -- the read is the fifth step
  have hread := ((((h _ rfl).2 _ rfl).2 _ rfl).2 _ rfl).2 _ rfl
  have hpending := (hread.1.1 _ rfl 0).pending
  exact absurd (congrArg List.length hpending) (by decide)

/-- A client connects and a read of its first message is pending. -/
def shortMessage : List PipeEvent :=
  [⟨0, .connect ⟨false, errorIoPending⟩⟩, ⟨0, .complete 0 errorSuccess 0⟩, ⟨0, .dequeue 0⟩,
    ⟨0, .service 0 ⟨true, 0⟩⟩, ⟨0, .read 512 ⟨false, errorIoPending⟩⟩]

theorem failedStarts_shortMessage :
    (traced 1).EachStep (fun s e => StartsClean s.1 e ∧ ServicedReturned s e) (traced 1).init
      shortMessage := by
  refine (failedStarts_iff 1 shortMessage ?_).mpr ?_
  · simp [shortMessage, ConnectsOverlapped]
  · intro _ _
    refine ⟨fun i size r _ h => (by cases h), fun _ _ => ?_⟩
    refine ⟨fun i size r _ h => (by cases h), fun _ _ => ?_⟩
    refine ⟨fun i size r _ h => (by cases h), fun _ _ => ?_⟩
    refine ⟨fun i size r _ h => (by cases h), fun _ _ => ⟨fun i size r _ h _ _ => ?_, trivial⟩⟩
    cases h
    decide

end PipeSystem

end Task6
