import Task6.Server.ShutdownRefined
import Task6.SharedMemory.MutualExclusion
import Task6.SharedMemory.Sequential

/-!
# The hand-off within the system

The machine of the hand-off takes the packets of the pipes and of `stopAndWait`
for one kind, and a worker that has one for a worker that does nothing.
`handoff_refined`: the system refines it, with its texts. So the mutual exclusion
of the hand-off and the order of its texts are not disturbed by the pipes, nor by
the shutdown (`system_handoff`).
-/

namespace Task6

open NulText

namespace WorkerLine

@[simp] theorem pc_ofPc (pc : WorkerPc) : (ofPc pc).pc = pc := by
  cases pc <;> rfl

end WorkerLine

namespace Handoff

variable {C W : Nat} {cfg : HandoffConfig} {s s' : Handoff C W}

/-- A client does not notice whether the server runs. -/
theorem clientStep_running (s : Handoff C W) (i : Fin C) (e : HandoffEvent C W)
    (running : Bool) : ({ s with running := running } : Handoff C W).clientStep cfg i e =
      (s.clientStep cfg i e).map fun s' => { s' with running := running } := by
  cases e with
  | writeData j wait data =>
    simp only [clientStep]
    split
    · split <;> rfl
    · rfl
    · rfl
    · rfl
  | clientMap j mapped =>
    simp only [clientStep]
    split
    · split
      · rfl
      · split <;> rfl
    · rfl
  | clientCopy j =>
    simp only [clientStep]
    split
    · split <;> rfl
    · rfl
  | clientUnmap j unmapped =>
    simp only [clientStep]
    split
    · split <;> rfl
    · rfl
  | clientSignal j signalled =>
    simp only [clientStep]
    split
    · split
      · rfl
      · split <;> rfl
    · rfl
  | _ => rfl

theorem traffic_running (running : Bool) (e : HandoffEvent C W) (g : Traffic) :
    traffic { s with running := running } e g = traffic s e g := by
  cases e <;> rfl

theorem step_client (s : Handoff C W) (i : Fin C) (line : ClientLine) :
    (machine cfg C W).step s (line.event i) = s.clientStep cfg i (line.event i) := by
  cases line <;> rfl

theorem step_shared (s : Handoff C W) (v : Fin W) (line : SharedLine) :
    (machine cfg C W).step s (line.event v) =
      if s.running then s.workerStep cfg v (line.event v) else none := by
  cases line <;> rfl

end Handoff

theorem fullBuffer_client {C W : Nat} {cfg : HandoffConfig} (i : Fin C) (line : ClientLine) :
    Handoff.FullBuffer cfg (line.event i : HandoffEvent C W) := by
  intro v size h
  cases line <;> cases h

/-- The server passes the whole of its buffer. -/
theorem fullBuffer_shared {C W : Nat} {build : Build} (v : Fin W) (line : SharedLine) :
    Handoff.FullBuffer (Task6System.config build) (line.event v : HandoffEvent C W) := by
  intro u size h
  cases line <;> cases h
  rfl

namespace Task6System

variable {C W n : Nat}

theorem handoff_setWorker (s : Task6System C W n) (v : Fin W) (line : WorkerLine) :
    (s.setWorker v line).handoff = s.handoff.setWorker v line.pc := by
  have hworkers : (fun u => (Function.update s.workers v line u).pc) =
      Function.update (fun u => (s.workers u).pc) v line.pc := by
    funext u
    by_cases hu : u = v
    · subst hu
      simp
    · simp [hu]
  simp only [handoff, setWorker, Handoff.setWorker, hworkers]

theorem handoff_setWorker_of_eq {s : Task6System C W n} {v : Fin W} {line : WorkerLine}
    (h : line.pc = (s.workers v).pc) : (s.setWorker v line).handoff = s.handoff := by
  rw [handoff_setWorker, h]
  have hself : Function.update s.handoff.workers v (s.workers v).pc = s.handoff.workers :=
    Function.update_eq_self v s.handoff.workers
  simp only [Handoff.setWorker, hself]

/-- Behind the test of the loop: the worker has the packet still, or has left with
it. -/
theorem pc_nextLine (shutdownEvent : Bool) (dequeued : Option IocpEntry) :
    (nextLine shutdownEvent dequeued).pc = (WorkerLine.checking dequeued).pc ∨
      (nextLine shutdownEvent dequeued).pc = .exited ∧
        ∃ entry, dequeued = some entry ∧ (entry = .shutdown ∨ shutdownEvent = true) := by
  cases dequeued with
  | none => exact .inl rfl
  | some entry =>
    cases entry with
    | pipe packet =>
      rw [nextLine_pipe]
      cases shutdownEvent with
      | true => exact .inr ⟨rfl, _, rfl, .inr rfl⟩
      | false => exact .inl rfl
    | sharedMemory write =>
      rw [nextLine_sharedMemory]
      cases shutdownEvent with
      | true => exact .inr ⟨rfl, _, rfl, .inr rfl⟩
      | false => exact .inl rfl
    | shutdown => exact .inr ⟨rfl, _, rfl, .inl rfl⟩

/-! ## The refinement -/

/-- The system as the hand-off sees it, which does not notice the end of the
process when another part of the server causes it. -/
structure ShowsHandoff (s : Task6System C W n) (h : Handoff C W × Handoff.Traffic) : Prop where
  handoff : ∃ running, (s.running = true → running = true) ∧
    h.1 = { s.handoff with running := running }
  traffic : h.2 = s.traffic

/-- The step is matched by steps of the hand-off. -/
def MatchedHandoff (build : Build) (h : Handoff C W × Handoff.Traffic) (s' : Task6System C W n) :
    Prop :=
  ∃ fs h', (Handoff.recorded (config build) C W).exec h fs = some h' ∧ s'.ShowsHandoff h' ∧
    ∀ f ∈ fs, Handoff.FullBuffer (config build) f

theorem ShowsHandoff.eq_of_running {s : Task6System C W n} {h : Handoff C W × Handoff.Traffic}
    (hshow : s.ShowsHandoff h) (hrun : s.running = true) : h = (s.handoff, s.traffic) := by
  obtain ⟨running, himp, hh⟩ := hshow.handoff
  refine Prod.ext ?_ hshow.traffic
  rw [hh, himp hrun, ← hrun]
  rfl

theorem shows_handoff (s : Task6System C W n) : s.ShowsHandoff (s.handoff, s.traffic) :=
  ⟨⟨s.running, id, rfl⟩, rfl⟩

section Matching

variable {build : Build} {s s' : Task6System C W n} {h : Handoff C W × Handoff.Traffic}

/-- A step that the hand-off does not see. -/
theorem handoff_same (hshow : s.ShowsHandoff h)
    (hh : s'.handoff = { s.handoff with running := s'.running }) (htraffic : s'.traffic = s.traffic)
    (hrun : s'.running = true → s.running = true) : MatchedHandoff build h s' := by
  obtain ⟨running, himp, hh₁⟩ := hshow.handoff
  refine Machine.matched_stutter ⟨⟨running, fun hr => himp (hrun hr), ?_⟩, ?_⟩
  · rw [hh₁, hh]
  · rw [hshow.traffic, htraffic]

/-- A step of the hand-off, in a process that runs. -/
theorem handoff_event (hshow : s.ShowsHandoff h) (hrun : s.running = true)
    {f : HandoffEvent C W} (hf : (Handoff.machine (config build) C W).step s.handoff f =
      some s'.handoff) (htraffic : Handoff.traffic s.handoff f s.traffic = s'.traffic)
    (hfull : Handoff.FullBuffer (config build) f) : MatchedHandoff build h s' := by
  rw [hshow.eq_of_running hrun]
  have hstep : (Handoff.recorded (config build) C W).step (s.handoff, s.traffic) f =
      some (s'.handoff, s'.traffic) := Machine.observed_step.mpr ⟨hf, htraffic.symm⟩
  exact Machine.matched_step hstep (shows_handoff s') hfull

/-- A packet that is not the hand-off's. -/
theorem handoff_otherPacket (hshow : s.ShowsHandoff h) (hrun : s.running = true)
    (entry : IocpEntry) (hentry : entry.completion = .other)
    (hh : s'.handoff = { s.handoff with iocp := s.handoff.iocp ++ [entry.completion] })
    (htraffic : s'.traffic = s.traffic) : MatchedHandoff build h s' := by
  have hf : (Handoff.machine (config build) C W).step s.handoff .otherPacket =
      some s'.handoff := by
    rw [hh, hentry]
    rfl
  exact handoff_event hshow hrun hf htraffic.symm fun _ _ he => by cases he

/-- A worker outside the branch of the shared memory server. -/
theorem handoff_line (hshow : s.ShowsHandoff h) (hrun : s.running = true) {v : Fin W}
    {line : WorkerLine} (hold : (s.workers v).pc = .dequeued .other)
    (hnew : line.pc = .dequeued .other ∨ line.pc = .idle)
    (hh : s'.handoff = (s.setWorker v line).handoff) (htraffic : s'.traffic = s.traffic) :
    MatchedHandoff build h s' := by
  rcases hnew with hnew | hnew
  · rw [handoff_setWorker_of_eq (hnew.trans hold.symm)] at hh
    have hsame : s'.running = s.running := congrArg Handoff.running hh
    refine handoff_same hshow ?_ htraffic fun hr => hrun
    rw [hh, hsame]
    rfl
  · have hf : (Handoff.machine (config build) C W).step s.handoff (.handleOther v) =
        some s'.handoff := by
      have hpc : s.handoff.workers v = .dequeued .other := hold
      have hrunning : s.handoff.running = true := hrun
      simp only [Handoff.machine, Handoff.step, hrunning, if_true, Handoff.workerStep, hpc, hh,
        handoff_setWorker, hnew]
    exact handoff_event hshow hrun hf htraffic.symm fun _ _ he => by cases he

theorem handoff_client (hshow : s.ShowsHandoff h) {i : Fin C} {line : ClientLine}
    (hs : s.clientStep build i line = some s') : MatchedHandoff build h s' := by
  obtain ⟨hh, hstep, rfl⟩ := Option.map_eq_some_iff.mp hs
  obtain ⟨running, himp, hrunning⟩ := hshow.handoff
  obtain ⟨hwaiter, hiocp, hworkers, -, -, hrun, hstop, hclose, hposted⟩ := clientFrame hstep
  have hf : (Handoff.recorded (config build) C W).step h (line.event i) =
      some ({ hh with running := running },
        Handoff.traffic s.handoff (line.event i) s.traffic) := by
    refine Machine.observed_step.mpr ⟨?_, ?_⟩
    · rw [hrunning, Handoff.step_client, Handoff.clientStep_running, hstep, Option.map_some]
    · rw [hrunning, hshow.traffic]
      exact (Handoff.traffic_running running (line.event i) s.traffic).symm
  refine Machine.matched_step hf ⟨⟨running, fun hr => ?_, ?_⟩, rfl⟩ (fullBuffer_client i line)
  · exact himp (hrun.symm.trans hr)
  · simp only [handoff, putHandoff] at hwaiter hiocp hworkers hstop hclose hposted ⊢
    rw [← hwaiter, ← hiocp, ← hworkers, ← hstop, ← hclose, ← hposted]

theorem handoff_pipes (hshow : s.ShowsHandoff h) (hrun : s.running = true)
    {e : SystemEvent C W n} (hs : s.pipeStep e = some s') : MatchedHandoff build h s' := by
  have hpacket : ∀ (packet : Packet) (r : Task6System C W n),
      r.handoff = ({ s with iocp := s.iocp ++ [.pipe packet] } : Task6System C W n).handoff →
        r.traffic = s.traffic → MatchedHandoff build h r := by
    intro packet r hh htraffic
    refine handoff_otherPacket hshow hrun (.pipe packet) rfl (hh.trans ?_) htraffic
    simp only [handoff, List.map_append, List.map_cons, List.map_nil]
  unfold pipeStep at hs
  split at hs
  · split at hs
    · cases hs
      exact handoff_same hshow rfl rfl id
    · cases hs
  · split at hs
    · cases hs
      exact handoff_same hshow rfl rfl id
    · cases hs
  · split at hs
    · cases hs
      exact handoff_same hshow rfl rfl id
    · cases hs
  · split at hs
    · split at hs
      · cases hs
        exact handoff_same hshow rfl rfl id
      · cases hs
    · cases hs
  · split at hs
    · cases hs
    · split at hs
      · split at hs
        · cases hs
        · cases hs
          exact hpacket _ _ rfl rfl
      · split at hs
        · cases hs
        · cases hs
          exact hpacket _ _ rfl rfl
  · split at hs
    · cases hs
    · obtain ⟨op, -, rfl⟩ := Option.map_eq_some_iff.mp hs
      exact hpacket _ _ rfl rfl
  · cases hs

theorem handoff_waiter (hshow : s.ShowsHandoff h) (hrun : s.running = true)
    {e : SystemEvent C W n} (hs : s.waiterStep build e = some s') :
    MatchedHandoff build h s' := by
  have hrunning : s.handoff.running = true := hrun
  unfold waiterStep at hs
  split at hs
  · split at hs
    · rename_i write hwaiter hset
      cases hs
      have hf : (Handoff.machine (config build) C W).step s.handoff .waiterWake =
          some { s.handoff with clToSv := none, waiter := .posting write } :=
        Handoff.step_wake hrunning hwaiter hset
      exact handoff_event hshow hrun hf rfl fun _ _ he => by cases he
    · cases hs
  · split at hs
    · rename_i hwaiter
      have hwaiter' : s.handoff.waiter = .waiting := hwaiter
      have hf : (Handoff.machine (config build) C W).step s.handoff .waiterFails =
          if build.asserts false then some s.handoff
          else some { s.handoff with waiter := .stopped, running := false } := by
        simp only [Handoff.machine, Handoff.step, hrunning, if_true, Handoff.waiterStep, hwaiter']
        rfl
      split at hs
      · rename_i hassert
        cases hs
        rw [if_pos hassert] at hf
        exact handoff_event hshow hrun hf rfl fun _ _ he => by cases he
      · rename_i hassert
        cases hs
        rw [if_neg hassert] at hf
        exact handoff_event hshow hrun hf rfl fun _ _ he => by cases he
    · cases hs
  · rename_i posted
    split at hs
    · rename_i write hwaiter
      have hwaiter' : s.handoff.waiter = .posting write := hwaiter
      have hf : (Handoff.machine (config build) C W).step s.handoff (.waiterPost posted) =
          if posted then
            some { s.handoff with
              waiter := .waiting
              iocp := s.handoff.iocp ++ [.sharedMemory write]
              posted := s.handoff.posted ++ [write] }
          else if build.asserts false then some { s.handoff with waiter := .waiting }
          else some { s.handoff with waiter := .stopped, running := false } := by
        simp only [Handoff.machine, Handoff.step, hrunning, if_true, Handoff.waiterStep, hwaiter']
        rfl
      split at hs
      · rename_i hposted
        cases hs
        rw [if_pos hposted] at hf
        refine handoff_event hshow hrun (hf.trans ?_) rfl fun _ _ he => by cases he
        simp only [handoff, List.map_append, List.map_cons, List.map_nil, IocpEntry.completion]
      · rename_i hposted
        rw [if_neg hposted] at hf
        split at hs
        · rename_i hassert
          cases hs
          rw [if_pos hassert] at hf
          exact handoff_event hshow hrun hf rfl fun _ _ he => by cases he
        · rename_i hassert
          cases hs
          rw [if_neg hassert] at hf
          exact handoff_event hshow hrun hf rfl fun _ _ he => by cases he
    · cases hs
  · cases hs

theorem handoff_dequeue (hshow : s.ShowsHandoff h) (hrun : s.running = true) {v : Fin W}
    {entry : IocpEntry} {rest : List IocpEntry} (hpc : s.workers v = .blocked)
    (hiocp : s.iocp = entry :: rest) :
    MatchedHandoff build h { s.setWorker v (.checking (some entry)) with iocp := rest } := by
  have hf : (Handoff.machine (config build) C W).step s.handoff (.dequeue v) =
      some { s.handoff.setWorker v (.dequeued entry.completion) with
        iocp := rest.map IocpEntry.completion } := by
    have hidle : s.handoff.workers v = .idle := congrArg WorkerLine.pc hpc
    have hqueue : s.handoff.iocp = entry.completion :: rest.map IocpEntry.completion :=
      congrArg (List.map IocpEntry.completion) hiocp
    exact Handoff.step_dequeue hrun hidle hqueue
  refine handoff_event hshow hrun (hf.trans ?_) rfl fun _ _ he => by cases he
  have hset := handoff_setWorker s v (.checking (some entry))
  have hpc : (WorkerLine.checking (some entry)).pc = .dequeued entry.completion := rfl
  rw [← hpc, ← hset]
  rfl

theorem handoff_check (hshow : s.ShowsHandoff h) (hrun : s.running = true) (hacc : s.Accounted)
    {v : Fin W} {dequeued : Option IocpEntry} (hpc : s.workers v = .checking dequeued) :
    MatchedHandoff build h (s.setWorker v (nextLine s.shutdownEvent dequeued)) := by
  rcases pc_nextLine s.shutdownEvent dequeued with hsame | ⟨hexited, entry, rfl, hentry⟩
  · refine handoff_same hshow ?_ rfl id
    rw [handoff_setWorker_of_eq (hsame.trans (congrArg WorkerLine.pc hpc).symm)]
    rfl
  · -- a shutdown packet is posted behind the event
    have hevent : s.handoff.stopping = true := by
      rcases hentry with rfl | hevent
      · exact hacc.event_of_checking hpc
      · exact hevent
    have hf : (Handoff.machine (config build) C W).step s.handoff (.exit v) =
        some (s.handoff.setWorker v .exited) := by
      have hheld : s.handoff.workers v = .dequeued entry.completion :=
        congrArg WorkerLine.pc hpc
      have hrunning : s.handoff.running = true := hrun
      simp only [Handoff.machine, Handoff.step, hrunning, if_true, Handoff.workerStep, hheld,
        hevent]
    refine handoff_event hshow hrun (hf.trans ?_) rfl fun _ _ he => by cases he
    rw [handoff_setWorker, hexited]

theorem handoff_worker (hshow : s.ShowsHandoff h) (hrun : s.running = true) (hacc : s.Accounted)
    {e : SystemEvent C W n} (hs : s.workerStep e = some s') : MatchedHandoff build h s' := by
  unfold workerStep at hs
  split at hs
  · split at hs
    · rename_i hpc hiocp
      split at hs
      · cases hs
        exact handoff_dequeue hshow hrun hpc hiocp
      · cases hs
    · cases hs
  · split at hs
    · rename_i hpc
      split at hs
      · cases hs
        refine handoff_same hshow ?_ rfl id
        rw [handoff_setWorker_of_eq (by rw [hpc]; rfl)]
        rfl
      · cases hs
    · cases hs
  · split at hs
    · rename_i hpc
      cases hs
      exact handoff_check hshow hrun hacc hpc
    · cases hs
  · split at hs
    · rename_i packet hpc
      cases hs
      refine handoff_line hshow hrun (by rw [hpc]; rfl) ?_ rfl rfl
      split
      · exact .inl rfl
      · exact .inr rfl
    · cases hs
  · rename_i v
    split at hs
    · rename_i result hpc
      have hold : (s.workers v).pc = .dequeued .other := by rw [hpc]; rfl
      split at hs
      · dsimp only at hs
        split at hs
        · cases hs
          exact handoff_line hshow hrun hold (.inl rfl) rfl rfl
        · cases hs
          exact handoff_line hshow hrun hold (.inr rfl) rfl rfl
      · cases hs
        exact handoff_line hshow hrun hold (.inr rfl) rfl rfl
    · cases hs
  · rename_i v
    split at hs
    · rename_i result hpc
      have hold : (s.workers v).pc = .dequeued .other := by rw [hpc]; rfl
      split at hs
      · cases hs
        exact handoff_line hshow hrun hold (.inl rfl) rfl rfl
      · cases hs
    · cases hs
  · rename_i v r
    split at hs
    · rename_i result hpc
      have hold : (s.workers v).pc = .dequeued .other := by rw [hpc]; rfl
      split at hs
      · split at hs
        · cases hs
        · cases hs
          exact handoff_line hshow hrun hold (.inr rfl) rfl rfl
      · cases hs
        exact handoff_line hshow hrun hold (.inr rfl) rfl rfl
    · cases hs
  · cases hs

theorem handoff_shared (hshow : s.ShowsHandoff h) (hrun : s.running = true) {v : Fin W}
    {line : SharedLine} (hs : s.sharedStep build v line = some s') :
    MatchedHandoff build h s' := by
  unfold sharedStep at hs
  split at hs
  · obtain ⟨hh, hstep, rfl⟩ := Option.map_eq_some_iff.mp hs
    have hf : (Handoff.machine (config build) C W).step s.handoff (line.event v) = some hh := by
      have hrunning : s.handoff.running = true := hrun
      rw [Handoff.step_shared, if_pos hrunning]
      exact hstep
    obtain ⟨-, -, hwaiter, hiocp, ⟨pc, hworkers⟩, hstop, hclose, -, hposted⟩ := sharedFrame hstep
    refine handoff_event hshow hrun (hf.trans (congrArg some ?_)) rfl (fullBuffer_shared v line)
    have hpc : hh.workers v = pc := by rw [hworkers, Function.update_self]
    rw [handoff_setWorker, WorkerLine.pc_ofPc, hpc]
    simp only [handoff, putHandoff, Handoff.setWorker]
      at hwaiter hiocp hworkers hstop hclose hposted ⊢
    rw [← hwaiter, ← hiocp, ← hworkers, ← hstop, ← hclose, ← hposted]
  · cases hs

theorem handoff_stop (hshow : s.ShowsHandoff h) (hrun : s.running = true)
    {e : SystemEvent C W n} (hs : s.stopStep build e = some s') : MatchedHandoff build h s' := by
  unfold stopStep at hs
  split at hs
  · split at hs
    · split at hs
      · cases hs
        have hf : (Handoff.machine (config build) C W).step s.handoff .stop =
            some { s.handoff with stopping := true } := rfl
        exact handoff_event hshow hrun hf rfl fun _ _ he => by cases he
      · cases hs
    · cases hs
  · split at hs
    · cases hs
      refine handoff_otherPacket hshow hrun .shutdown rfl ?_ rfl
      simp only [handoff, List.map_append, List.map_cons, List.map_nil]
    · cases hs
  · split at hs
    · split at hs
      · split at hs
        · cases hs
          exact handoff_same hshow rfl rfl id
        · cases hs
          exact handoff_same hshow rfl rfl fun hr => by cases hr
      · cases hs
    · cases hs
  · cases hs

theorem matched_handoff (hshow : s.ShowsHandoff h) (hacc : s.Accounted) {e : SystemEvent C W n}
    (hs : step build s e = some s') : MatchedHandoff build h s' := by
  rcases step_cases hs with ⟨i, line, -, hs⟩ |
    ⟨hrun, hs | hs | rfl | hs | ⟨v, line, -, hs⟩ | hs⟩
  · exact handoff_client hshow hs
  · exact handoff_pipes hshow hrun hs
  · exact handoff_waiter hshow hrun hs
  · exact handoff_same hshow rfl rfl fun hr => by cases hr
  · exact handoff_worker hshow hrun hacc hs
  · exact handoff_shared hshow hrun hs
  · exact handoff_stop hshow hrun hs

end Matching

/-- The system refines the hand-off with its history, whose workers pass the whole
of their buffer. -/
theorem handoff_refined (build : Build) (C W n : Nat) :
    (machine build C W n).Simulates (Handoff.recorded (config build) C W)
      (fun s h => s.ShowsHandoff h ∧ s.Accounted) (Handoff.FullBuffer (config build)) where
  init := ⟨shows_handoff (init C W n), accounted_init C W n⟩
  step s h e s' hR hs := by
    obtain ⟨fs, h', hexec, hshow, hfull⟩ := matched_handoff hR.1 hR.2 hs
    exact ⟨fs, h', hexec, ⟨hshow, accounted_step hR.2 hs⟩, hfull⟩

/-! ## What the clients of the mapping rely on -/

/-- The invariants of the hand-off over its runs. -/
theorem sequenced_always {cfg : HandoffConfig} {fs : List (HandoffEvent C W)}
    (hfull : ∀ f ∈ fs, Handoff.FullBuffer cfg f) :
    (Handoff.recorded cfg C W).Always
      (fun h => h.1.wakeups.Numbered ∧ Handoff.Sequenced cfg h)
      (Handoff.init cfg C W, ⟨[], []⟩) fs := by
  refine Machine.always_of_eachStep (Q := fun _ f => Handoff.FullBuffer cfg f)
    (fun _ h => h) ?_ ⟨Handoff.numbered_init cfg C W, Handoff.sequenced_init cfg C W⟩
    (Machine.eachStep_of_forall_mem hfull)
  rintro h f h' ⟨hnum, hseq⟩ hf hfull
  exact ⟨Handoff.numbered_step hseq.single hnum (Machine.observed_step.mp hf).1,
    Handoff.sequenced_step hseq hfull hf⟩

/-- The fate of the process is no part of the mutual exclusion. -/
theorem exclusive_always (build : Build) (C W n : Nat) (es : List (SystemEvent C W n)) :
    (machine build C W n).Always (fun s => s.handoff.Exclusive) (init C W n) es := by
  refine (handoff_refined build C W n).always (fun fs hfull => sequenced_always hfull) ?_ es
  rintro s ⟨h, g⟩ ⟨hshow, -⟩ ⟨hnum, hseq⟩
  obtain ⟨running, -, hh⟩ := hshow.handoff
  obtain rfl : h = { s.handoff with running := running } := hh
  obtain ⟨hsingle, hone, htwo, hthree, hfour, hfive, hpackets⟩ :=
    Handoff.exclusive_of_turn hseq.single hnum
  exact ⟨hsingle, hone, htwo, hthree, hfour, hfive, hpackets⟩

/-- And none of the order of the texts. -/
theorem sequential_always (build : Build) (C W n : Nat) (es : List (SystemEvent C W n)) :
    (machine build C W n).Always
      (fun s => Handoff.Sequential (config build) (s.handoff, s.traffic)) (init C W n) es := by
  refine (handoff_refined build C W n).always (fun fs hfull => sequenced_always hfull) ?_ es
  rintro s ⟨h, g⟩ ⟨hshow, -⟩ ⟨-, hseq⟩
  obtain ⟨running, -, hh⟩ := hshow.handoff
  obtain rfl : g = s.traffic := hshow.traffic
  obtain rfl : h = { s.handoff with running := running } := hh
  obtain ⟨hmemory, horder, hunder, hnone⟩ :=
    Handoff.sequential_of_located hseq.fitting hseq.located
  exact ⟨hmemory, horder, hunder, hnone⟩

/-- **The hand-off holds in the system**: whatever goes on at the pipes, whatever
packets of other kinds stand between its own at the port, and whenever the server
is stopped, there is one turn at most, and the texts handled are those that a
single reader finds behind the writes, in their order. -/
theorem system_handoff (build : Build) (C W n : Nat) (es : List (SystemEvent C W n)) :
    (machine build C W n).Always
      (fun s => s.handoff.Exclusive ∧ Handoff.Sequential (config build) (s.handoff, s.traffic))
      (init C W n) es :=
  (exclusive_always build C W n es).and (sequential_always build C W n es)

end Task6System

end Task6
