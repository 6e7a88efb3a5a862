import Task6.Library.Refinement
import Task6.Server.ShutdownWakes
import Task6.Server.Task6System

/-!
# The shutdown within the system

The machine of the shutdown takes what a worker does with a packet for one line.
`shutdown_refined`: the system, in which that is a branch of many lines and the
packets have contents, refines it; so its workers are woken too
(`system_wakes`).
-/

namespace Task6

open Win32

/-- What the shutdown sees of a packet. -/
def IocpEntry.kind : IocpEntry → IocpPacket
  | pipe packet => .pipeServer (packet.errorCode == errorSuccess)
  | sharedMemory _ => .sharedMemoryServer
  | shutdown => .shutdown

theorem IocpEntry.status_kind (entry : IocpEntry) : entry.kind.status = entry.status := by
  cases entry <;> rfl

namespace WorkerLine

/-- And of a worker. -/
def threadPc : WorkerLine → ThreadPc
  | blocked => .blocked
  | checking dequeued => .checking ((dequeued.map IocpEntry.status).getD .iocpFailed)
  | servicing _ | pipeTask _ => .handling pipeServerCompKey
  | shared _ => .handling sharedMemoryServerCompKey
  | exited reason _ => .exited reason

/-- The worker waits at the port. -/
def sleeps : WorkerLine → Nat
  | blocked => 1
  | _ => 0

theorem threadPc_exited (line : WorkerLine) (t : Thread) (h : t.pc = line.threadPc) :
    t.hasExited = line.hasExited := by
  unfold Thread.hasExited
  rw [h]
  cases line <;> rfl

/-- Within the branch of the shared memory server, or back at the port. -/
theorem threadPc_ofPc (pc : WorkerPc) : (ofPc pc).threadPc = .blocked ∨
    (ofPc pc).threadPc = .handling sharedMemoryServerCompKey := by
  cases pc with
  | idle => exact .inl rfl
  | dequeued _ | mapping _ | copying _ _ | unmapping _ _ | signalling _ _ | handling _ | exited =>
    exact .inr rfl

end WorkerLine

namespace Task6System

variable {C W n : Nat}

/-- The test of the loop is that of the machine of the shutdown. -/
theorem threadPc_nextLine (shutdownEvent : Bool) (dequeued : Option IocpEntry) :
    (nextLine shutdownEvent dequeued).threadPc =
      ((dequeued.map IocpEntry.status).getD .iocpFailed).next shutdownEvent := by
  cases dequeued with
  | none => rfl
  | some entry =>
    cases entry with
    | pipe packet =>
      rw [nextLine_pipe, Option.map_some, Option.getD_some, IocpEntry.status, QueuedStatus.next,
        exits_pipeServer]
      cases shutdownEvent <;> rfl
    | sharedMemory write => cases shutdownEvent <;> rfl
    | shutdown => rfl

/-! ## The refinement -/

/-- The system as the machine of the shutdown sees it. -/
structure ShowsShutdown (s : Task6System C W n) (t : Shutdown W) : Prop where
  workers : ∀ v, (t.workers v).pc = (s.workers v).threadPc
  iocp : t.iocp = s.iocp.map IocpEntry.kind
  shutdownEvent : t.shutdownEvent = s.shutdownEvent
  stopAndWait : t.stopAndWait = s.stopAndWait
  pipeServer : t.pipeServer = s.pipeServer
  alive : s.running = true → s.stopAndWait ≠ .died

theorem shows_init (C W n : Nat) : (init C W n).ShowsShutdown (Shutdown.init W) :=
  ⟨fun _ => rfl, rfl, rfl, rfl, rfl, fun _ => by simp [init]⟩

/-- The step is matched by steps of the machine of the shutdown. -/
def MatchedShutdown (build : Build) (t : Shutdown W) (s' : Task6System C W n) : Prop :=
  ∃ fs t', (Shutdown.machine build W).exec t fs = some t' ∧ s'.ShowsShutdown t' ∧
    ∀ f ∈ fs, True

section Matching

variable {build : Build} {s s' : Task6System C W n} {t : Shutdown W}

/-- In a process that has not ended. -/
theorem machine_step (halive : t.stopAndWait ≠ .died) (e : ShutdownEvent W) :
    (Shutdown.machine build W).step t e =
      match e with
      | .arrive packet =>
        if packet = .shutdown then none else some { t with iocp := t.iocp ++ [packet] }
      | .dequeue w | .iocpFails w | .check w | .finish w => t.workerStep w e
      | .stop | .post | .waitReturns _ => t.stopStep build e :=
  if_neg halive

/-- A packet that comes to the port. -/
theorem matched_arrive (h : s.ShowsShutdown t) (hrun : s.running = true) (entry : IocpEntry)
    (hentry : entry.kind ≠ .shutdown) (hworkers : s'.workers = s.workers)
    (hiocp : s'.iocp = s.iocp ++ [entry]) (hevent : s'.shutdownEvent = s.shutdownEvent)
    (hstop : s'.stopAndWait = s.stopAndWait) (hpipe : s'.pipeServer = s.pipeServer) :
    MatchedShutdown build t s' := by
  have halive := h.alive hrun
  have hstep : (Shutdown.machine build W).step t (.arrive entry.kind) =
      some { t with iocp := t.iocp ++ [entry.kind] } := by
    rw [machine_step (h.stopAndWait ▸ halive)]
    exact if_neg hentry
  refine Machine.matched_step hstep ?_ trivial
  exact
    { workers := fun v => by rw [hworkers]; exact h.workers v
      iocp := by
        rw [hiocp, List.map_append, ← h.iocp]
        rfl
      shutdownEvent := h.shutdownEvent.trans hevent.symm
      stopAndWait := h.stopAndWait.trans hstop.symm
      pipeServer := h.pipeServer.trans hpipe.symm
      alive := fun _ => hstop ▸ halive }

/-- A worker moves, and with it its thread. -/
theorem ShowsShutdown.setWorker (h : s.ShowsShutdown t) {v : Fin W} {line : WorkerLine}
    {th : Thread} (hpc : th.pc = line.threadPc) :
    (s.setWorker v line).ShowsShutdown (t.setWorker v th) := by
  refine ⟨fun u => ?_, h.iocp, h.shutdownEvent, h.stopAndWait, h.pipeServer, h.alive⟩
  by_cases hu : u = v
  · subst hu
    simpa [Task6System.setWorker, Shutdown.setWorker] using hpc
  · simpa [Task6System.setWorker, Shutdown.setWorker, hu] using h.workers u

/-- A line of a branch: the thread is in it still, or back at the port. -/
theorem matched_line (h : s.ShowsShutdown t) (hrun : s.running = true) {v : Fin W} {key : CompKey}
    {line : WorkerLine} (hold : (s.workers v).threadPc = .handling key)
    (hnew : line.threadPc = .handling key ∨ line.threadPc = .blocked)
    (hworkers : s'.workers = Function.update s.workers v line) (hiocp : s'.iocp = s.iocp)
    (hevent : s'.shutdownEvent = s.shutdownEvent) (hstop : s'.stopAndWait = s.stopAndWait)
    (hpipe : s'.pipeServer = s.pipeServer) : MatchedShutdown build t s' := by
  have halive := h.alive hrun
  have hview : ∀ {t' : Shutdown W}, (s.setWorker v line).ShowsShutdown t' →
      s'.ShowsShutdown t' := by
    intro t' hshow
    exact
      { workers := fun u => (hshow.workers u).trans (by rw [hworkers]; rfl)
        iocp := hshow.iocp.trans (by rw [hiocp]; rfl)
        shutdownEvent := hshow.shutdownEvent.trans hevent.symm
        stopAndWait := hshow.stopAndWait.trans hstop.symm
        pipeServer := hshow.pipeServer.trans hpipe.symm
        alive := fun _ => hstop ▸ halive }
  have hpc : (t.workers v).pc = .handling key := (h.workers v).trans hold
  rcases hnew with hnew | hnew
  · refine Machine.matched_stutter (hview ?_)
    have hset : t.setWorker v (t.workers v) = t := by
      simp [Shutdown.setWorker]
    rw [← hset]
    exact h.setWorker (hpc.trans hnew.symm)
  · have hstep : (Shutdown.machine build W).step t (.finish v) =
        some (t.setWorker v ⟨.blocked, (t.workers v).sinceEvent⟩) := by
      rw [machine_step (h.stopAndWait ▸ halive)]
      simp only [Shutdown.workerStep, hpc]
    exact Machine.matched_step hstep (hview (h.setWorker hnew.symm)) trivial

/-- A step that the shutdown does not see. -/
theorem matched_same (h : s.ShowsShutdown t) (hworkers : s'.workers = s.workers)
    (hiocp : s'.iocp = s.iocp) (hevent : s'.shutdownEvent = s.shutdownEvent)
    (hstop : s'.stopAndWait = s.stopAndWait) (hpipe : s'.pipeServer = s.pipeServer)
    (hrun : s'.running = true → s.running = true) : MatchedShutdown build t s' :=
  Machine.matched_stutter
    { workers := fun v => by rw [hworkers]; exact h.workers v
      iocp := by rw [hiocp]; exact h.iocp
      shutdownEvent := h.shutdownEvent.trans hevent.symm
      stopAndWait := h.stopAndWait.trans hstop.symm
      pipeServer := h.pipeServer.trans hpipe.symm
      alive := fun hr => hstop ▸ h.alive (hrun hr) }

theorem matched_client (h : s.ShowsShutdown t) {i : Fin C} {line : ClientLine}
    (hs : s.clientStep build i line = some s') : MatchedShutdown build t s' := by
  obtain ⟨hh, hstep, rfl⟩ := Option.map_eq_some_iff.mp hs
  refine matched_same h rfl rfl rfl rfl rfl fun hrun => ?_
  exact (clientFrame hstep).running.symm.trans hrun

/-- The clients of the pipes and Windows: at most a packet comes. -/
theorem matched_pipes (h : s.ShowsShutdown t) (hrun : s.running = true)
    {e : SystemEvent C W n} (hs : s.pipeStep e = some s') : MatchedShutdown build t s' := by
  have hkind : ∀ packet : Packet, (IocpEntry.pipe packet).kind ≠ .shutdown := fun _ => by
    simp [IocpEntry.kind]
  unfold pipeStep at hs
  split at hs
  · split at hs
    · cases hs
      exact matched_same h rfl rfl rfl rfl rfl id
    · cases hs
  · split at hs
    · cases hs
      exact matched_same h rfl rfl rfl rfl rfl id
    · cases hs
  · split at hs
    · cases hs
      exact matched_same h rfl rfl rfl rfl rfl id
    · cases hs
  · split at hs
    · split at hs
      · cases hs
        exact matched_same h rfl rfl rfl rfl rfl id
      · cases hs
    · cases hs
  · split at hs
    · cases hs
    · split at hs
      · split at hs
        · cases hs
        · cases hs
          exact matched_arrive h hrun _ (hkind _) rfl rfl rfl rfl rfl
      · split at hs
        · cases hs
        · cases hs
          exact matched_arrive h hrun _ (hkind _) rfl rfl rfl rfl rfl
  · split at hs
    · cases hs
    · obtain ⟨op, -, rfl⟩ := Option.map_eq_some_iff.mp hs
      exact matched_arrive h hrun _ (hkind _) rfl rfl rfl rfl rfl
  · cases hs

theorem matched_waiter (h : s.ShowsShutdown t) (hrun : s.running = true)
    {e : SystemEvent C W n} (hs : s.waiterStep build e = some s') :
    MatchedShutdown build t s' := by
  rcases waiterStep_cases hs with ⟨write, rfl⟩ | ⟨write, rfl⟩ | ⟨waiter, running, -, rfl⟩
  · exact matched_same h rfl rfl rfl rfl rfl id
  · exact matched_arrive h hrun (.sharedMemory _) (by simp [IocpEntry.kind]) rfl rfl rfl rfl rfl
  · exact matched_same h rfl rfl rfl rfl rfl fun _ => hrun

theorem matched_dequeue (h : s.ShowsShutdown t) (hrun : s.running = true) {v : Fin W}
    {entry : IocpEntry} {rest : List IocpEntry} (hpc : s.workers v = .blocked)
    (hiocp : s.iocp = entry :: rest) :
    MatchedShutdown build t { s.setWorker v (.checking (some entry)) with iocp := rest } := by
  have hpc' : (t.workers v).pc = .blocked := (h.workers v).trans (by rw [hpc]; rfl)
  have hiocp' : t.iocp = entry.kind :: rest.map IocpEntry.kind := by
    rw [h.iocp, hiocp, List.map_cons]
  have hstep : (Shutdown.machine build W).step t (.dequeue v) =
      some { t.setWorker v ⟨.checking entry.kind.status, t.shutdownEvent⟩ with
        iocp := rest.map IocpEntry.kind } := by
    rw [machine_step (h.stopAndWait ▸ h.alive hrun)]
    simp only [Shutdown.workerStep, hpc', hiocp']
  have hshow : (s.setWorker v (.checking (some entry))).ShowsShutdown
      (t.setWorker v ⟨.checking entry.kind.status, t.shutdownEvent⟩) :=
    h.setWorker (congrArg ThreadPc.checking entry.status_kind)
  exact Machine.matched_step hstep
    ⟨hshow.workers, rfl, hshow.shutdownEvent, hshow.stopAndWait, hshow.pipeServer, hshow.alive⟩
    trivial

theorem matched_iocpFails (h : s.ShowsShutdown t) (hrun : s.running = true) {v : Fin W}
    (hpc : s.workers v = .blocked) :
    MatchedShutdown build t (s.setWorker v (.checking none)) := by
  have hpc' : (t.workers v).pc = .blocked := (h.workers v).trans (by rw [hpc]; rfl)
  have hstep : (Shutdown.machine build W).step t (.iocpFails v) =
      some (t.setWorker v ⟨.checking .iocpFailed, (t.workers v).sinceEvent⟩) := by
    rw [machine_step (h.stopAndWait ▸ h.alive hrun)]
    simp only [Shutdown.workerStep, hpc']
  exact Machine.matched_step hstep (h.setWorker rfl) trivial

theorem matched_check (h : s.ShowsShutdown t) (hrun : s.running = true) {v : Fin W}
    {dequeued : Option IocpEntry} (hpc : s.workers v = .checking dequeued) :
    MatchedShutdown build t (s.setWorker v (nextLine s.shutdownEvent dequeued)) := by
  have hpc' : (t.workers v).pc =
      .checking ((dequeued.map IocpEntry.status).getD .iocpFailed) :=
    (h.workers v).trans (by rw [hpc]; rfl)
  have hstep : (Shutdown.machine build W).step t (.check v) =
      some (t.setWorker v ⟨((dequeued.map IocpEntry.status).getD .iocpFailed).next t.shutdownEvent,
        (t.workers v).sinceEvent⟩) := by
    rw [machine_step (h.stopAndWait ▸ h.alive hrun)]
    simp only [Shutdown.workerStep, hpc']
  refine Machine.matched_step hstep (h.setWorker ?_) trivial
  rw [threadPc_nextLine, h.shutdownEvent]

theorem matched_worker (h : s.ShowsShutdown t) (hrun : s.running = true)
    {e : SystemEvent C W n} (hs : s.workerStep e = some s') : MatchedShutdown build t s' := by
  unfold workerStep at hs
  split at hs
  · split at hs
    · rename_i hpc hiocp
      split at hs
      · cases hs
        exact matched_dequeue h hrun hpc hiocp
      · cases hs
    · cases hs
  · split at hs
    · rename_i hpc
      split at hs
      · cases hs
        exact matched_iocpFails h hrun hpc
      · cases hs
    · cases hs
  · split at hs
    · rename_i hpc
      cases hs
      exact matched_check h hrun hpc
    · cases hs
  · split at hs
    · rename_i packet hpc
      cases hs
      refine matched_line h hrun (by rw [hpc]; rfl) ?_ rfl rfl rfl rfl rfl
      split
      · exact .inl rfl
      · exact .inr rfl
    · cases hs
  · rename_i v
    split at hs
    · rename_i result hpc
      have hold : (s.workers v).threadPc = .handling pipeServerCompKey := by rw [hpc]; rfl
      split at hs
      · dsimp only at hs
        split at hs
        · cases hs
          exact matched_line h hrun hold (.inl rfl) rfl rfl rfl rfl rfl
        · cases hs
          exact matched_line h hrun hold (.inr rfl) rfl rfl rfl rfl rfl
      · cases hs
        exact matched_line h hrun hold (.inr rfl) rfl rfl rfl rfl rfl
    · cases hs
  · rename_i v
    split at hs
    · rename_i result hpc
      have hold : (s.workers v).threadPc = .handling pipeServerCompKey := by rw [hpc]; rfl
      split at hs
      · cases hs
        exact matched_line h hrun hold (.inl rfl) rfl rfl rfl rfl rfl
      · cases hs
    · cases hs
  · rename_i v r
    split at hs
    · rename_i result hpc
      have hold : (s.workers v).threadPc = .handling pipeServerCompKey := by rw [hpc]; rfl
      split at hs
      · split at hs
        · cases hs
        · cases hs
          exact matched_line h hrun hold (.inr rfl) rfl rfl rfl rfl rfl
      · cases hs
        exact matched_line h hrun hold (.inr rfl) rfl rfl rfl rfl rfl
    · cases hs
  · cases hs

theorem matched_shared (h : s.ShowsShutdown t) (hrun : s.running = true) {v : Fin W}
    {line : SharedLine} (hs : s.sharedStep build v line = some s') :
    MatchedShutdown build t s' := by
  unfold sharedStep at hs
  split at hs
  · rename_i pc hpc
    obtain ⟨hh, -, rfl⟩ := Option.map_eq_some_iff.mp hs
    exact matched_line h hrun (by rw [hpc]; rfl)
      (WorkerLine.threadPc_ofPc (hh.workers v)).symm rfl rfl rfl rfl rfl
  · cases hs

theorem matched_stop (h : s.ShowsShutdown t) (hrun : s.running = true)
    {e : SystemEvent C W n} (hs : s.stopStep build e = some s') : MatchedShutdown build t s' := by
  have halive : t.stopAndWait ≠ .died := h.stopAndWait ▸ h.alive hrun
  have hexited : t.allExited = decide (∀ v, (s.workers v).hasExited = true) := by
    unfold Shutdown.allExited
    simp only [WorkerLine.threadPc_exited _ _ (h.workers _)]
  unfold stopStep at hs
  split at hs
  · split at hs
    · rename_i hstop
      split at hs
      · cases hs
        have hstep : (Shutdown.machine build W).step t .stop = some { t with
            shutdownEvent := true
            stopAndWait := if W = 0 then .returned else .posting 0 } := by
          rw [machine_step halive]
          simp only [Shutdown.stopStep, h.stopAndWait.trans hstop]
        refine Machine.matched_step hstep ⟨h.workers, h.iocp, rfl, rfl, h.pipeServer, ?_⟩ trivial
        intro _
        dsimp only
        split <;> simp
      · cases hs
    · cases hs
  · split at hs
    · rename_i posted hstop
      cases hs
      have hstep : (Shutdown.machine build W).step t .post = some { t with
          iocp := t.iocp ++ [.shutdown]
          stopAndWait := if posted + 1 = W then .waiting else .posting (posted + 1) } := by
        rw [machine_step halive]
        simp only [Shutdown.stopStep, h.stopAndWait.trans hstop]
      refine Machine.matched_step hstep
        ⟨h.workers, ?_, h.shutdownEvent, rfl, h.pipeServer, ?_⟩ trivial
      · rw [List.map_append, ← h.iocp]
        rfl
      · intro _
        dsimp only
        split <;> simp
    · cases hs
  · rename_i dwResult
    split at hs
    · rename_i hstop
      split at hs
      · rename_i hanswers
        have hstep : (Shutdown.machine build W).step t (.waitReturns dwResult) =
            if build.asserts (decide (dwResult < W)) then
              some { t with pipeServer := false, stopAndWait := .returned }
            else some { t with stopAndWait := .died } := by
          rw [machine_step halive]
          simp only [Shutdown.stopStep, h.stopAndWait.trans hstop, hexited]
          rw [if_pos hanswers]
        split at hs
        · rename_i hassert
          cases hs
          rw [if_pos hassert] at hstep
          exact Machine.matched_step hstep
            ⟨h.workers, h.iocp, h.shutdownEvent, rfl, rfl, fun _ => by simp⟩ trivial
        · rename_i hassert
          cases hs
          rw [if_neg hassert] at hstep
          exact Machine.matched_step hstep
            ⟨h.workers, h.iocp, h.shutdownEvent, rfl, h.pipeServer, fun hr => by cases hr⟩ trivial
      · cases hs
    · cases hs
  · cases hs

theorem matched_shows (h : s.ShowsShutdown t) {e : SystemEvent C W n}
    (hs : step build s e = some s') : MatchedShutdown build t s' := by
  rcases step_cases hs with ⟨i, line, -, hs⟩ |
    ⟨hrun, hs | hs | rfl | hs | ⟨v, line, -, hs⟩ | hs⟩
  · exact matched_client h hs
  · exact matched_pipes h hrun hs
  · exact matched_waiter h hrun hs
  · exact matched_same h rfl rfl rfl rfl rfl fun _ => hrun
  · exact matched_worker h hrun hs
  · exact matched_shared h hrun hs
  · exact matched_stop h hrun hs

end Matching

/-- The system refines the machine of the shutdown. -/
theorem shutdown_refined (build : Build) (C W n : Nat) :
    (machine build C W n).Simulates (Shutdown.machine build W) ShowsShutdown fun _ => True where
  init := shows_init C W n
  step _ _ _ _ h hs := matched_shows h hs

/-! ## Every worker is woken -/

/-- The accounts of the shutdown are right. -/
def Accounted (s : Task6System C W n) : Prop := ∃ t, s.ShowsShutdown t ∧ t.Accounted

theorem accounted_init (C W n : Nat) : (init C W n).Accounted :=
  ⟨Shutdown.init W, shows_init C W n, Shutdown.accounted_init W⟩

theorem accounted_step {build : Build} {s s' : Task6System C W n} {e : SystemEvent C W n}
    (h : s.Accounted) (hs : step build s e = some s') : s'.Accounted :=
  (shutdown_refined build C W n).keeps (fun _ _ _ hacc _ => Shutdown.accounted_step hacc) h hs

/-- A shutdown packet is dequeued behind the shutdown event. -/
theorem Accounted.event_of_checking {s : Task6System C W n} (h : s.Accounted) {v : Fin W}
    (hline : s.workers v = .checking (some .shutdown)) : s.shutdownEvent = true := by
  obtain ⟨t, hshow, hacc⟩ := h
  rw [← hshow.shutdownEvent, hacc.event]
  intro hstop
  have hloop := hacc.loops hstop v
  have hpc : (t.workers v).pc = .checking IocpPacket.shutdown.status := by
    rw [hshow.workers v, hline]
    rfl
  have hnext : IocpPacket.shutdown.status.next false = .exited .shutdownPacket := rfl
  simp only [Thread.Loops, hpc, hnext] at hloop
  rcases hloop with hloop | ⟨key, hloop⟩
  · cases hloop
  · cases hloop

/-- The shutdown within the system: behind the last post there are packets for all
workers that wait at the port, and before it only a failing port ends a loop. -/
structure WakesAll (s : Task6System C W n) : Prop where
  enough : s.stopAndWait = .waiting ∨ s.stopAndWait = .returned →
    Pool.total WorkerLine.sleeps s.workers ≤ s.iocp.length
  loops : s.stopAndWait = .notCalled → ∀ v reason dequeued,
    s.workers v = .exited reason dequeued → reason = .iocpFailed

theorem sleeps_le {t : Shutdown W} {s : Task6System C W n} (h : s.ShowsShutdown t)
    (hacc : t.Accounted) (v : Fin W) : (s.workers v).sleeps ≤ (t.workers v).unserved := by
  cases hline : s.workers v with
  | blocked =>
    have hpc : (t.workers v).pc = .blocked := (h.workers v).trans (by rw [hline]; rfl)
    have hserved := hacc.unserved_of_blocked hpc
    simp [WorkerLine.sleeps, Thread.unserved, Thread.hasExited, hpc, hserved]
  | checking _ | servicing _ | pipeTask _ | shared _ | exited _ _ => exact Nat.zero_le _

theorem wakesAll_of_shows {t : Shutdown W} {s : Task6System C W n} (h : s.ShowsShutdown t)
    (hacc : t.Accounted) : s.WakesAll := by
  have hwakes := Shutdown.wakes_of_accounted hacc
  refine ⟨fun hstop => ?_, fun hstop v reason dequeued hline => ?_⟩
  · have henough := hwakes.enough (h.stopAndWait ▸ hstop)
    rw [h.iocp, List.length_map] at henough
    exact (Pool.total_le_of_le (sleeps_le h hacc)).trans henough
  · refine hwakes.loops (h.stopAndWait.trans hstop) v reason ((h.workers v).trans ?_)
    rw [hline]
    rfl

/-- **The system wakes its workers**: whatever the pipes, the mapping and its
clients do before and during the shutdown, for any number of workers and any
schedule. -/
theorem system_wakes (build : Build) (C W n : Nat) (es : List (SystemEvent C W n)) :
    (machine build C W n).Always WakesAll (init C W n) es := by
  refine (shutdown_refined build C W n).always (P := Shutdown.Accounted) (fun fs _ => ?_)
    (fun s t h hacc => wakesAll_of_shows h hacc) es
  exact Machine.always_of_invariant (I := Shutdown.Accounted) (fun _ h => h)
    (fun _ _ _ => Shutdown.accounted_step) (Shutdown.accounted_init W) fs

end Task6System

end Task6
