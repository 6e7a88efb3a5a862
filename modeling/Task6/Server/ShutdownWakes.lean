import Task6.Server.Shutdown

/-!
# Shutdown wakes every worker

Shutdown packets carry no name, and workers take client packets as well. The
count that carries the argument: what is queued, together with the workers that
have taken a packet since the event was set, covers the packets posted. Every
such worker leaves, so it takes no second one, and those that still need a
packet find it.
-/

namespace Task6

namespace Thread

/-- The thread has taken a packet since the event was set. -/
def served (t : Thread) : Nat := t.sinceEvent.toNat

/-- The thread is alive and has not. -/
def unserved (t : Thread) : Nat := (!t.hasExited && !t.sinceEvent).toNat

theorem unserved_add_served_le (t : Thread) : t.unserved + t.served ≤ 1 := by
  obtain ⟨pc, sinceEvent⟩ := t
  cases sinceEvent with
  | true => simp [unserved, served]
  | false =>
    have := Bool.toNat_le (!hasExited ⟨pc, false⟩ && !false)
    simpa [unserved, served] using this

/-- Past the check, or about to make it. -/
def Leaving (t : Thread) : Prop :=
  (∃ status, t.pc = .checking status) ∨ ∃ reason, t.pc = .exited reason

/-- Before the shutdown: the thread is in its loop, or the port failed. -/
def Loops (t : Thread) : Prop :=
  match t.pc with
  | .exited reason => reason = .iocpFailed
  | .checking status =>
    status.next false = .exited .iocpFailed ∨ ∃ key, status.next false = .handling key
  | _ => True

end Thread

theorem QueuedStatus.next_true (st : QueuedStatus) : ∃ reason, st.next true = .exited reason := by
  unfold next exits
  by_cases hfail : (!st.bResult && !st.hasOverlapped) = true
  · exact ⟨.iocpFailed, by rw [if_pos hfail]⟩
  · by_cases hkey : (st.bResult && st.compKey == shutdownCompKey) = true
    · exact ⟨.shutdownPacket, by rw [if_neg hfail, if_pos hkey]⟩
    · exact ⟨.shutdownEvent, by rw [if_neg hfail, if_neg hkey, if_pos rfl]⟩

/-- A packet of the two servers is handled. -/
theorem IocpPacket.next_status {packet : IocpPacket} (h : packet ≠ .shutdown) :
    ∃ key, packet.status.next false = .handling key := by
  cases packet with
  | pipeServer success => cases success <;> exact ⟨pipeServerCompKey, by decide⟩
  | sharedMemoryServer => exact ⟨sharedMemoryServerCompKey, by decide⟩
  | shutdown => exact absurd rfl h

namespace Shutdown

variable {n : Nat} {build : Build} {s s' : Shutdown n}

/-- The shutdown packets posted so far. -/
def posted (s : Shutdown n) : Nat :=
  match s.stopAndWait with
  | .notCalled => 0
  | .posting k => k
  | .waiting | .returned | .died => n

/-- All that a worker can do with one line. -/
theorem workerStep_cases {w : Fin n} {e : ShutdownEvent n} (hs : s.workerStep w e = some s') :
    (∃ packet rest, (s.workers w).pc = .blocked ∧ s.iocp = packet :: rest ∧
        s' = { s.setWorker w ⟨.checking packet.status, s.shutdownEvent⟩ with iocp := rest }) ∨
      ∃ pc, s' = s.setWorker w ⟨pc, (s.workers w).sinceEvent⟩ ∧
        ((s.workers w).pc = .blocked ∧ pc = .checking .iocpFailed ∨
          (∃ status, (s.workers w).pc = .checking status ∧ pc = status.next s.shutdownEvent) ∨
          ∃ key, (s.workers w).pc = .handling key ∧ pc = .blocked) := by
  unfold workerStep at hs
  split at hs
  · split at hs
    · rename_i packet rest hpc hq
      cases hs
      exact .inl ⟨packet, rest, hpc, hq, rfl⟩
    · cases hs
  · split at hs
    · rename_i hpc
      cases hs
      exact .inr ⟨_, rfl, .inl ⟨hpc, rfl⟩⟩
    · cases hs
  · split at hs
    · rename_i status hpc
      cases hs
      exact .inr ⟨_, rfl, .inr (.inl ⟨status, hpc, rfl⟩)⟩
    · cases hs
  · split at hs
    · rename_i key hpc
      cases hs
      exact .inr ⟨_, rfl, .inr (.inr ⟨key, hpc, rfl⟩)⟩
    · cases hs
  · cases hs

/-- All that `stopAndWait` can do with one line. -/
theorem stopStep_cases {e : ShutdownEvent n} (hs : s.stopStep build e = some s') :
    (e = .stop ∧ s.stopAndWait = .notCalled ∧ s' = { s with
        shutdownEvent := true, stopAndWait := if n = 0 then .returned else .posting 0 }) ∨
      (∃ k, e = .post ∧ s.stopAndWait = .posting k ∧ s' = { s with
        iocp := s.iocp ++ [.shutdown],
        stopAndWait := if k + 1 = n then .waiting else .posting (k + 1) }) ∨
      s.stopAndWait = .waiting ∧ ∃ dwResult, e = .waitReturns dwResult ∧
        Win32.waitAllAnswers n s.allExited dwResult = true ∧
        ((build.asserts (decide (dwResult < n)) = true ∧
            s' = { s with pipeServer := false, stopAndWait := .returned }) ∨
          build.asserts (decide (dwResult < n)) = false ∧
            s' = { s with stopAndWait := .died }) := by
  unfold stopStep at hs
  split at hs
  · split at hs
    · rename_i hstop
      cases hs
      exact .inl ⟨rfl, hstop, rfl⟩
    · cases hs
  · split at hs
    · rename_i k hstop
      cases hs
      exact .inr (.inl ⟨k, rfl, hstop, rfl⟩)
    · cases hs
  · rename_i dwResult
    split at hs
    · rename_i hstop
      split at hs
      · rename_i hanswer
        split at hs
        · rename_i ha
          cases hs
          exact .inr (.inr ⟨hstop, dwResult, rfl, hanswer, .inl ⟨ha, rfl⟩⟩)
        · rename_i ha
          cases hs
          exact .inr (.inr ⟨hstop, dwResult, rfl, hanswer, .inr ⟨Bool.eq_false_iff.mpr ha, rfl⟩⟩)
      · cases hs
    · cases hs
  · cases hs

/-! ## The invariant -/

/-- The accounting of the shutdown, and the loop before it. -/
structure Accounted (s : Shutdown n) : Prop where
  event : s.shutdownEvent = true ↔ s.stopAndWait ≠ .notCalled
  leaving : ∀ w, (s.workers w).sinceEvent = true →
    s.shutdownEvent = true ∧ (s.workers w).Leaving
  covered : s.posted ≤ s.iocp.length + Pool.total Thread.served s.workers
  clientPackets : s.stopAndWait = .notCalled → IocpPacket.shutdown ∉ s.iocp
  loops : s.stopAndWait = .notCalled → ∀ w, (s.workers w).Loops

/-- A blocked worker has not been served: those that have are leaving. -/
theorem Accounted.unserved_of_blocked (h : Accounted s) {w : Fin n}
    (hpc : (s.workers w).pc = .blocked) : (s.workers w).sinceEvent = false := by
  cases hse : (s.workers w).sinceEvent with
  | false => rfl
  | true =>
    rcases (h.leaving w hse).2 with ⟨status, hc⟩ | ⟨reason, hc⟩
    · rw [hpc] at hc
      cases hc
    · rw [hpc] at hc
      cases hc

theorem accounted_init (n : Nat) : Accounted (init n) := by
  refine { event := ?_, leaving := ?_, covered := Nat.zero_le _, clientPackets := ?_, loops := ?_ }
  · exact iff_of_false Bool.false_ne_true fun h => h rfl
  · intro w hw
    cases hw
  · intro _ hmem
    cases hmem
  · intro _ w
    trivial

theorem posted_setWorker (w : Fin n) (t : Thread) : (s.setWorker w t).posted = s.posted := rfl

/-- A line that dequeues nothing. -/
theorem accounted_setWorker {w : Fin n} {pc : ThreadPc} (h : Accounted s)
    (hleaving : (s.workers w).sinceEvent = true →
      Thread.Leaving ⟨pc, (s.workers w).sinceEvent⟩)
    (hloops : s.stopAndWait = .notCalled → Thread.Loops ⟨pc, (s.workers w).sinceEvent⟩) :
    Accounted (s.setWorker w ⟨pc, (s.workers w).sinceEvent⟩) := by
  obtain ⟨hevent, hleave, hcovered, hclient, hloop⟩ := h
  refine { event := hevent, leaving := ?_, covered := ?_, clientPackets := hclient, loops := ?_ }
  · intro v hv
    by_cases hvw : v = w
    · subst hvw
      simp only [setWorker, Function.update_self] at hv ⊢
      exact ⟨(hleave v hv).1, hleaving hv⟩
    · simp only [setWorker, Function.update_of_ne hvw] at hv ⊢
      exact hleave v hv
  · rw [posted_setWorker]
    have hsame : Pool.total Thread.served
        (s.setWorker w ⟨pc, (s.workers w).sinceEvent⟩).workers
          = Pool.total Thread.served s.workers := Pool.total_update_of_eq rfl
    rw [hsame]
    exact hcovered
  · intro hstop v
    by_cases hvw : v = w
    · subst hvw
      simp only [setWorker, Function.update_self]
      exact hloops hstop
    · simp only [setWorker, Function.update_of_ne hvw]
      exact hloop hstop v

/-- Taking a packet: before the event nothing is owed, after it the worker counts
as served in the packet's place. -/
theorem accounted_dequeue {w : Fin n} {packet : IocpPacket} {rest : List IocpPacket}
    (h : Accounted s) (hpc : (s.workers w).pc = .blocked) (hq : s.iocp = packet :: rest) :
    Accounted { s.setWorker w ⟨.checking packet.status, s.shutdownEvent⟩ with iocp := rest } := by
  have hunserved := h.unserved_of_blocked hpc
  obtain ⟨hevent, hleave, hcovered, hclient, hloop⟩ := h
  refine { event := hevent, leaving := ?_, covered := ?_, clientPackets := ?_, loops := ?_ }
  · intro v hv
    by_cases hvw : v = w
    · subst hvw
      simp only [setWorker, Function.update_self] at hv ⊢
      exact ⟨hv, .inl ⟨_, rfl⟩⟩
    · simp only [setWorker, Function.update_of_ne hvw] at hv ⊢
      exact hleave v hv
  · have hacc := Pool.total_update Thread.served s.workers w
      ⟨.checking packet.status, s.shutdownEvent⟩
    have hold : Thread.served (s.workers w) = 0 := by rw [Thread.served, hunserved]; rfl
    rw [hq, List.length_cons] at hcovered
    show s.posted ≤ rest.length + Pool.total Thread.served (Function.update s.workers w _)
    cases hset : s.shutdownEvent with
    | true =>
      rw [hset] at hacc
      have hnew : Thread.served ⟨.checking packet.status, true⟩ = 1 := rfl
      omega
    | false =>
      have hstop : s.stopAndWait = .notCalled := by
        by_contra hne
        rw [hevent.mpr hne] at hset
        cases hset
      rw [posted, hstop]
      exact Nat.zero_le _
  · intro hstop hmem
    exact hclient hstop (hq ▸ List.mem_cons_of_mem _ hmem)
  · intro hstop v
    by_cases hvw : v = w
    · subst hvw
      have hne : packet ≠ .shutdown := by
        rintro rfl
        exact hclient hstop (hq ▸ List.mem_cons_self ..)
      simp only [setWorker, Function.update_self]
      exact .inr (IocpPacket.next_status hne)
    · simp only [setWorker, Function.update_of_ne hvw]
      exact hloop hstop v

theorem accounted_worker {w : Fin n} {e : ShutdownEvent n} (h : Accounted s)
    (hs : s.workerStep w e = some s') : Accounted s' := by
  rcases workerStep_cases hs with ⟨packet, rest, hpc, hq, rfl⟩ | ⟨pc, rfl, hmove⟩
  · exact accounted_dequeue h hpc hq
  · refine accounted_setWorker h ?_ ?_
    · intro hse
      obtain ⟨hset, hleave⟩ := h.leaving w hse
      rcases hmove with ⟨hpc, rfl⟩ | ⟨status, hpc, rfl⟩ | ⟨key, hpc, rfl⟩
      · exact .inl ⟨_, rfl⟩
      · obtain ⟨reason, hnext⟩ := status.next_true
        rw [hset, hnext]
        exact .inr ⟨reason, rfl⟩
      · -- a served worker is not handling anything
        rcases hleave with ⟨status, hc⟩ | ⟨reason, hc⟩
        · rw [hpc] at hc
          cases hc
        · rw [hpc] at hc
          cases hc
    · intro hstop
      have hunset : s.shutdownEvent = false := by
        cases hset : s.shutdownEvent with
        | false => rfl
        | true => exact absurd hstop (h.event.mp hset)
      rcases hmove with ⟨hpc, rfl⟩ | ⟨status, hpc, rfl⟩ | ⟨key, hpc, rfl⟩
      · exact .inl rfl
      · have hloop := h.loops hstop w
        rw [Thread.Loops, hpc] at hloop
        rw [hunset]
        rcases hloop with hnext | ⟨key, hnext⟩
        · rw [hnext]
          rfl
        · rw [hnext]
          trivial
      · trivial

/-- The wait is over, or the process. -/
theorem accounted_ended {pc : StopPc} (h : Accounted s) (hstop : s.stopAndWait = .waiting)
    (hpc : pc = .returned ∨ pc = .died) (pipeServer : Bool) :
    Accounted { s with stopAndWait := pc, pipeServer := pipeServer } := by
  have hset : s.shutdownEvent = true := by
    refine h.event.mpr fun hc => ?_
    rw [hstop] at hc
    cases hc
  have hcalled : pc ≠ .notCalled := by
    rintro rfl
    rcases hpc with hc | hc
    · cases hc
    · cases hc
  have hold : s.posted = n := by rw [posted, hstop]
  have hnew : posted { s with stopAndWait := pc, pipeServer := pipeServer } = n := by
    rcases hpc with rfl | rfl
    · rfl
    · rfl
  refine { event := iff_of_true hset hcalled, leaving := h.leaving, covered := ?_,
           clientPackets := fun hc => absurd hc hcalled, loops := fun hc => absurd hc hcalled }
  exact Nat.le_trans (Nat.le_of_eq (hnew.trans hold.symm)) h.covered

theorem accounted_stop {e : ShutdownEvent n} (h : Accounted s)
    (hs : s.stopStep build e = some s') : Accounted s' := by
  obtain ⟨hevent, hleave, hcovered, hclient, hloop⟩ := h
  rcases stopStep_cases hs with ⟨-, hstop, rfl⟩ | ⟨k, -, hstop, rfl⟩ |
    ⟨hstop, dwResult, -, -, ⟨-, rfl⟩ | ⟨-, rfl⟩⟩
  · have hcalled : (if n = 0 then StopPc.returned else .posting 0) ≠ .notCalled := by
      split
      all_goals
        intro hc
        cases hc
    refine { event := iff_of_true rfl hcalled, leaving := fun w hw => ⟨rfl, (hleave w hw).2⟩,
             covered := ?_, clientPackets := fun hc => absurd hc hcalled,
             loops := fun hc => absurd hc hcalled }
    show posted { s with shutdownEvent := true, stopAndWait := _ } ≤ _
    by_cases hn : n = 0
    · simp [posted, hn]
    · simp [posted, hn]
  · have hcalled : (if k + 1 = n then StopPc.waiting else .posting (k + 1)) ≠ .notCalled := by
      split
      all_goals
        intro hc
        cases hc
    have hset : s.shutdownEvent = true := hevent.mpr (by simp [hstop])
    refine { event := iff_of_true hset hcalled, leaving := hleave, covered := ?_,
             clientPackets := fun hc => absurd hc hcalled, loops := fun hc => absurd hc hcalled }
    have hposted : posted { s with
        iocp := s.iocp ++ [.shutdown],
        stopAndWait := if k + 1 = n then .waiting else .posting (k + 1) } = k + 1 := by
      by_cases hk : k + 1 = n
      · simp [posted, hk]
      · simp [posted, hk]
    rw [hposted, List.length_append, List.length_singleton]
    have hold : s.posted = k := by rw [posted, hstop]
    rw [hold] at hcovered
    show k + 1 ≤ s.iocp.length + 1 + Pool.total Thread.served s.workers
    omega
  · exact accounted_ended ⟨hevent, hleave, hcovered, hclient, hloop⟩ hstop (.inl rfl) false
  · exact accounted_ended ⟨hevent, hleave, hcovered, hclient, hloop⟩ hstop (.inr rfl) s.pipeServer

theorem accounted_step {e : ShutdownEvent n} (h : Accounted s) (hs : step build s e = some s') :
    Accounted s' := by
  unfold step at hs
  split at hs
  · cases hs
  · cases e with
    | arrive packet =>
      simp only at hs
      split at hs
      · cases hs
      · rename_i hne
        cases hs
        refine { event := h.event, leaving := h.leaving, covered := ?_, clientPackets := ?_,
                 loops := h.loops }
        · have hcovered := h.covered
          show s.posted ≤ (s.iocp ++ [packet]).length + Pool.total Thread.served s.workers
          rw [List.length_append]
          omega
        · intro hstop hmem
          rcases List.mem_append.mp hmem with hmem | hmem
          · exact h.clientPackets hstop hmem
          · exact hne (List.mem_singleton.mp hmem).symm
    | dequeue w | iocpFails w | check w | finish w => exact accounted_worker h hs
    | stop | post | waitReturns dwResult => exact accounted_stop h hs

/-! ## The promise -/

/-- Every live worker that has not taken a packet since the event finds one;
none is left blocked on an empty port; and before the shutdown only a failing
port ends a loop. -/
structure Wakes (s : Shutdown n) : Prop where
  enough : s.stopAndWait = .waiting ∨ s.stopAndWait = .returned →
    Pool.total Thread.unserved s.workers ≤ s.iocp.length
  noSleeper : s.stopAndWait = .waiting ∨ s.stopAndWait = .returned → s.iocp = [] →
    ∀ w, (s.workers w).pc ≠ .blocked
  loops : s.stopAndWait = .notCalled → ∀ w reason, (s.workers w).pc = .exited reason →
    reason = .iocpFailed

theorem wakes_of_accounted (h : Accounted s) : Wakes s := by
  have henough : s.stopAndWait = .waiting ∨ s.stopAndWait = .returned →
      Pool.total Thread.unserved s.workers ≤ s.iocp.length := by
    intro hstop
    have hposted : s.posted = n := by
      rcases hstop with hstop | hstop
      · rw [posted, hstop]
      · rw [posted, hstop]
    -- a worker counts on one side at most, and the posted packets are one each
    have hcard : Pool.total (fun t => t.unserved + t.served) s.workers ≤ n :=
      Pool.total_le_card fun i => (s.workers i).unserved_add_served_le
    rw [Pool.total_add] at hcard
    have hcovered := h.covered
    omega
  refine { enough := henough, noSleeper := ?_, loops := ?_ }
  · intro hstop hempty w hpc
    have hle := henough hstop
    have hone : Thread.unserved (s.workers w) ≤ Pool.total Thread.unserved s.workers :=
      Pool.weight_le_total _ _ _
    rw [hempty, List.length_nil] at hle
    have hunserved := h.unserved_of_blocked hpc
    have hlive : Thread.unserved (s.workers w) = 1 := by
      simp [Thread.unserved, Thread.hasExited, hpc, hunserved]
    omega
  · intro hstop w reason hpc
    have hloop := h.loops hstop w
    rw [Thread.Loops, hpc] at hloop
    exact hloop

/-- **Shutdown wakes every worker**: for any number of workers, any packets
queued before or during the shutdown, and any schedule. -/
theorem shutdown_wakes (build : Build) (n : Nat) (es : List (ShutdownEvent n)) :
    (machine build n).Always Wakes (init n) es := by
  refine Machine.always_of_invariant (I := Accounted) (fun s h => wakes_of_accounted h) ?_
    (accounted_init n) es
  intro s e s' h hs
  exact accounted_step h hs

end Shutdown

end Task6
