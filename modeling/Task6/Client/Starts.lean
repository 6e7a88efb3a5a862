import Task6.Client.Task6Client

/-!
# Starting a `Task6Client`

A start that throws should leave a client that can be started again.
`startSharedMemory` assigns `sharedMemClient` when nothing can fail any more;
`startPipe` assigns `pipeClient` before it opens the pipe and writes.
`allOrNothing_iff` says which runs never notice.
-/

namespace Task6

open Win32 NulText

namespace Task6Client

/-! ## What every client keeps -/

/-- The invariant of a client, however it is used. -/
structure Coherent (c : Task6Client) : Prop where
  dataReady : c.DataReady
  single : c.pipeClient = none ∨ c.sharedMemClient = none
  unsent : c.sharedMemClient = none → c.bDataSent = false

variable {c : Task6Client} {build : Build}

theorem coherent_create : create.Coherent where
  dataReady := fun buff h => by cases h
  single := .inl rfl
  unsent := fun _ => rfl

theorem hasStarted_eq_false : c.hasStarted = false ↔
    c.pipeClient = none ∧ c.sharedMemClient = none := by
  simp [hasStarted, Option.isSome_eq_false_iff]

/-- `wait` throws for a client without a transport. -/
theorem wait_noTransport (build : Build) (os : WaitCallAnswers) (hpipe : c.pipeClient = none)
    (hshared : c.sharedMemClient = none) :
    c.wait build os = ⟨.threw (.runtimeError "Client not started."), c, []⟩ :=
  wait_notStarted build os (hasStarted_eq_false.mpr ⟨hpipe, hshared⟩)

theorem Coherent.noSharedMemory (h : c.Coherent) {pipe : OutPipe}
    (hpipe : c.pipeClient = some pipe) : c.sharedMemClient = none := by
  rcases h.single with hnone | hnone
  · rw [hpipe] at hnone
    cases hnone
  · exact hnone

theorem Coherent.pushMessg (h : c.Coherent) (messg : String) : (c.pushMessg messg).Coherent :=
  ⟨h.dataReady, h.single, h.unsent⟩

/-- A pipe client for a client without a transport. -/
theorem Coherent.withPipe (h : c.Coherent) (hstarted : c.hasStarted = false) (pipe : OutPipe)
    {buff : List Byte} (hbuff : text buff = helloWorld) :
    { c with pipeClient := some pipe, dataBuff := some buff : Task6Client }.Coherent where
  dataReady := dataReady_some hbuff
  single := .inr (hasStarted_eq_false.mp hstarted).2
  unsent := h.unsent

theorem coherent_startPipe (h : c.Coherent) (os : StartPipeAnswers) :
    (c.startPipe build os).client.Coherent := by
  cases hstarted : c.hasStarted with
  | true =>
    rw [startPipe_refused build os hstarted]
    exact h
  | false =>
    obtain ⟨buff, htext, heq⟩ := startPipe_spec build os h.dataReady hstarted
    rw [heq]
    split
    · exact h
    · exact ⟨h.dataReady, .inr (hasStarted_eq_false.mp hstarted).2, h.unsent⟩
    · split
      · exact (h.withPipe hstarted _ htext).pushMessg _
      · exact h.withPipe hstarted _ htext

theorem coherent_startSharedMemory (h : c.Coherent) (os : OpenAnswers) :
    (c.startSharedMemory os).client.Coherent := by
  cases hstarted : c.hasStarted with
  | true =>
    rw [startSharedMemory_refused os hstarted]
    exact h
  | false =>
    rw [startSharedMemory_spec os hstarted]
    split
    · exact h
    · exact ⟨h.dataReady, .inl (hasStarted_eq_false.mp hstarted).1, fun hnone => by cases hnone⟩

theorem coherent_stop (h : c.Coherent) : c.stop.Coherent :=
  ⟨h.dataReady, .inl rfl, h.unsent⟩

theorem coherent_wait (h : c.Coherent) (os : WaitCallAnswers) :
    (c.wait build os).client.Coherent := by
  cases hpipe : c.pipeClient with
  | some pipe =>
    obtain ⟨pipe', log, heq, -⟩ := wait_pipe_client build os hpipe
    rw [heq]
    exact ⟨h.dataReady, .inr (h.noSharedMemory hpipe), h.unsent⟩
  | none =>
    cases hshared : c.sharedMemClient with
    | none =>
      rw [wait_noTransport build os hpipe hshared]
      exact h
    | some client =>
      obtain ⟨buff, sent, log, htext, heq⟩ :=
        wait_sharedMemory_client build os h.dataReady hpipe hshared
      rw [heq]
      refine ⟨htext, .inl hpipe, fun hnone => ?_⟩
      rw [hshared] at hnone
      cases hnone

theorem coherent_popMessg (h : c.Coherent) : c.popMessg.2.Coherent := by
  obtain ⟨log, hlog⟩ := popMessg_client c
  rw [hlog]
  exact ⟨h.dataReady, h.single, h.unsent⟩

/-! ## Clients that have not started -/

/-- A client that behaves as one that has not started: `wait` says so, and either
start is accepted and can succeed. -/
structure Unstarted (build : Build) (c : Task6Client) : Prop where
  waits : ∀ os, (c.wait build os).outcome = .threw (.runtimeError "Client not started.")
  waitSends : ∀ os, (c.wait build os).sent = []
  acceptsPipe : ∀ os, (c.startPipe build os).outcome ≠
    .threw (.runtimeError "The client has already started.")
  acceptsSharedMemory : ∀ os, (c.startSharedMemory os).outcome ≠
    .threw (.runtimeError "The client has already started.")
  canStartPipe : ∃ os, (c.startPipe build os).outcome = .returned ()
  canStartSharedMemory : ∃ os, (c.startSharedMemory os).outcome = .returned ()

theorem startPipe_accepted (h : c.Coherent) (hstarted : c.hasStarted = false)
    (os : StartPipeAnswers) : (c.startPipe build os).outcome ≠
      .threw (.runtimeError "The client has already started.") := by
  obtain ⟨buff, -, heq⟩ := startPipe_spec build os h.dataReady hstarted
  rw [heq]
  split
  · simp
  · simp
  · split <;> simp

theorem startSharedMemory_accepted (hstarted : c.hasStarted = false) (os : OpenAnswers) :
    (c.startSharedMemory os).outcome ≠
      .threw (.runtimeError "The client has already started.") := by
  rw [startSharedMemory_spec os hstarted]
  split
  · rename_i ex hex
    obtain ⟨lastError, rfl⟩ := OutSharedMemoryClient.create_error hex
    simp
  · simp

/-- Every call of Windows succeeds. -/
def allOk : StartPipeAnswers := ⟨.ok (), .ok 1, ⟨true, errorSuccess⟩⟩

theorem unstarted_iff (h : c.Coherent) : c.Unstarted build ↔ c.hasStarted = false := by
  constructor
  · intro hun
    cases hstarted : c.hasStarted with
    | false => rfl
    | true =>
      refine absurd ?_ (hun.acceptsPipe allOk)
      rw [startPipe_refused build allOk hstarted]
  · intro hstarted
    refine ⟨fun os => ?_, fun os => ?_, startPipe_accepted h hstarted,
      startSharedMemory_accepted hstarted, ⟨allOk, ?_⟩,
      ⟨⟨⟨true, 0⟩, ⟨true, 0⟩, ⟨true, 0⟩⟩, ?_⟩⟩
    · rw [wait_notStarted build os hstarted]
    · rw [wait_notStarted build os hstarted]
    · obtain ⟨buff, -, heq⟩ := startPipe_spec build allOk h.dataReady hstarted
      rw [heq]
      rfl
    · rw [startSharedMemory_spec _ hstarted]
      rfl

end Task6Client

/-! ## Whole runs -/

namespace ClientRun

variable {build : Build}

theorem afterStart_client (s : ClientRun) (r : ClientResult Unit) :
    (s.afterStart r).client = r.client := by
  unfold afterStart
  split <;> rfl

theorem afterWait_client (s : ClientRun) (r : ClientResult Bool) :
    (s.afterWait r).client = r.client := by
  unfold afterWait
  split <;> rfl

theorem coherent_step (s : ClientRun) (e : ClientEvent) (s' : ClientRun)
    (h : s.client.Coherent) (hs : (machine build).step s e = some s') :
    s'.client.Coherent := by
  cases (steps_of_step hs).2 with
  | startPipe os hnext =>
    rw [hnext, afterStart_client]
    exact Task6Client.coherent_startPipe h os
  | startSharedMemory os hnext =>
    rw [hnext, afterStart_client]
    exact Task6Client.coherent_startSharedMemory h os
  | stop hnext =>
    rw [hnext]
    exact Task6Client.coherent_stop h
  | wait os _ hnext =>
    rw [hnext, afterWait_client]
    exact Task6Client.coherent_wait h os
  | popMessg hnext =>
    rw [hnext]
    exact Task6Client.coherent_popMessg h
  | finish k outcome pipe w _ hpipe _ hnext =>
    rw [hnext]
    exact ⟨h.dataReady, .inr (h.noSharedMemory hpipe), h.unsent⟩

/-- A start of a client that has not started leaves it so when it throws. -/
def AllOrNothing (build : Build) (s : ClientRun) : ClientEvent → Prop
  | .startPipe os => s.client.hasStarted = false →
    ∀ ex, (s.client.startPipe build os).outcome = .threw ex →
      (s.client.startPipe build os).client.Unstarted build
  | .startSharedMemory os => s.client.hasStarted = false →
    ∀ ex, (s.client.startSharedMemory os).outcome = .threw ex →
      (s.client.startSharedMemory os).client.Unstarted build
  | _ => True

/-- Behind the constructor of `OutPipeClient` nothing fails: the pipe opens, and
Windows takes the write. -/
def OpensAndWrites (s : ClientRun) : ClientEvent → Prop
  | .startPipe os => s.client.hasStarted = false →
    (∃ lastError, os.created = .error lastError) ∨
      (∃ hPipe, os.opened = .ok hPipe) ∧ OutPipe.accepts os.written = true
  | _ => True

theorem allOrNothing_iff_opensAndWrites {s : ClientRun} (h : s.client.Coherent)
    (e : ClientEvent) : AllOrNothing build s e ↔ OpensAndWrites s e := by
  cases e with
  | startPipe os =>
    refine forall_congr' fun hstarted => ?_
    have hcoherent : (s.client.startPipe build os).client.Coherent :=
      Task6Client.coherent_startPipe h os
    simp only [Task6Client.unstarted_iff hcoherent]
    obtain ⟨buff, -, heq⟩ := Task6Client.startPipe_spec build os h.dataReady hstarted
    rw [heq]
    cases hcreated : os.created with
    | error lastError => simp [hstarted]
    | ok u =>
      cases hopened : os.opened with
      | error lastError => simp [Task6Client.hasStarted]
      | ok hPipe =>
        cases hacc : OutPipe.accepts os.written with
        | false => simp [Task6Client.hasStarted]
        | true => simp
  | startSharedMemory os =>
    refine iff_of_true (fun hstarted ex hthrew => ?_) trivial
    have hcoherent := Task6Client.coherent_startSharedMemory h os
    rw [Task6Client.unstarted_iff hcoherent]
    rw [Task6Client.startSharedMemory_spec os hstarted] at hthrew ⊢
    split at hthrew
    · exact hstarted
    · cases hthrew
  | stop => exact Iff.rfl
  | wait os => exact Iff.rfl
  | popMessg => exact Iff.rfl
  | finish k outcome => exact Iff.rfl

/-- **All or nothing, exactly**: along any run, every start that throws leaves a
client that has not started, if and only if no `startPipe` fails behind the
constructor of its `OutPipeClient`. -/
theorem allOrNothing_iff (build : Build) (es : List ClientEvent) :
    (machine build).EachStep (AllOrNothing build) init es ↔
      (machine build).EachStep OpensAndWrites init es :=
  Machine.eachStep_congr coherent_step
    (fun _ e _ h _ => allOrNothing_iff_opensAndWrites h e) Task6Client.coherent_create es

/-- There is no server: the pipe does not open. -/
def noServer : List ClientEvent :=
  [.startPipe ⟨.ok (), .error errorFileNotFound, ⟨true, errorSuccess⟩⟩]

/-- The retry is refused. -/
theorem noServer_breaks (build : Build) :
    ¬ (machine build).EachStep (AllOrNothing build) init noServer := by
  intro h
  have hun := (h _ rfl).1 rfl _ rfl
  exact hun.acceptsPipe Task6Client.allOk rfl

theorem allOrNothing_broken :
    ¬ (machine .release).EachStep (AllOrNothing .release) init noServer ∧
      ¬ (machine .debug).EachStep (AllOrNothing .debug) init noServer :=
  ⟨noServer_breaks .release, noServer_breaks .debug⟩

end ClientRun

end Task6
