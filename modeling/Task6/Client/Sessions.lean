import Task6.Client.Starts

/-!
# The sessions of a `Task6Client`

`stop` should leave a client that is as good as new. It drops the pipe client
and neither the shared memory client nor the flag that says the message was sent.
Two clients that differ in the log and in the cached buffer only cannot be told
apart by what their calls do (`trace_alike`); `stopEnds_iff` says of which
clients `stop` leaves nothing else.
-/

namespace Task6

open Win32 NulText

/-- The messages a call has logged; `before` is the client before it. -/
def ClientResult.logged {α : Type} (r : ClientResult α) (before : Task6Client) : List String :=
  r.client.log.drop before.log.length

/-! ## Clients that cannot be told apart -/

namespace Task6Client

/-- Two clients that differ in the log and in the cached buffer only. -/
structure Alike (c d : Task6Client) : Prop where
  pipeClient : c.pipeClient = d.pipeClient
  sharedMemClient : c.sharedMemClient = d.sharedMemClient
  bDataSent : c.bDataSent = d.bDataSent
  dataReady : c.DataReady ∧ d.DataReady

/-- Calls that do the same: on `c` with the result `r`, and on `d`. -/
structure SameResult {α : Type} (c d : Task6Client) (r r' : ClientResult α) : Prop where
  outcome : r.outcome = r'.outcome
  sent : r.sent = r'.sent
  logged : r.logged c = r'.logged d
  alike : Alike r.client r'.client

variable {c d : Task6Client} {build : Build}

theorem SameResult.of_logged {α : Type} {outcome : Outcome α} {c' d' : Task6Client}
    {sent : List (List Byte)} (messgs : List String) (hc : c'.log = c.log ++ messgs)
    (hd : d'.log = d.log ++ messgs) (h : Alike c' d') :
    SameResult c d ⟨outcome, c', sent⟩ ⟨outcome, d', sent⟩ where
  outcome := rfl
  sent := rfl
  logged := by
    show c'.log.drop c.log.length = d'.log.drop d.log.length
    rw [hc, hd, List.drop_left, List.drop_left]
  alike := h

theorem SameResult.of_silent {α : Type} {outcome : Outcome α} {c' d' : Task6Client}
    {sent : List (List Byte)} (hc : c'.log = c.log) (hd : d'.log = d.log) (h : Alike c' d') :
    SameResult c d ⟨outcome, c', sent⟩ ⟨outcome, d', sent⟩ :=
  .of_logged [] (by rw [hc, List.append_nil]) (by rw [hd, List.append_nil]) h

theorem Alike.hasStarted (h : Alike c d) : c.hasStarted = d.hasStarted := by
  unfold Task6Client.hasStarted
  rw [h.pipeClient, h.sharedMemClient]

theorem Alike.pushMessg (h : Alike c d) (messg : String) :
    Alike (c.pushMessg messg) (d.pushMessg messg) :=
  ⟨h.pipeClient, h.sharedMemClient, h.bDataSent, h.dataReady⟩

/-- The same pipe client for both, and a cached buffer each. -/
theorem Alike.withPipe (h : Alike c d) (pipe : OutPipe) {buff buff' : List Byte}
    (hbuff : text buff = helloWorld) (hbuff' : text buff' = helloWorld) :
    Alike { c with pipeClient := some pipe, dataBuff := some buff }
      { d with pipeClient := some pipe, dataBuff := some buff' } where
  pipeClient := rfl
  sharedMemClient := h.sharedMemClient
  bDataSent := h.bDataSent
  dataReady := ⟨dataReady_some hbuff, dataReady_some hbuff'⟩

theorem alike_startPipe (h : Alike c d) (os : StartPipeAnswers) :
    SameResult c d (c.startPipe build os) (d.startPipe build os) := by
  cases hc : c.hasStarted with
  | true =>
    rw [startPipe_refused build os hc, startPipe_refused build os (h.hasStarted ▸ hc)]
    exact .of_silent rfl rfl h
  | false =>
    obtain ⟨buff, hbuff, heq⟩ := startPipe_spec build os h.dataReady.1 hc
    obtain ⟨buff', hbuff', heq'⟩ := startPipe_spec build os h.dataReady.2 (h.hasStarted ▸ hc)
    rw [heq, heq']
    cases os.created with
    | error lastError => exact .of_silent rfl rfl h
    | ok u =>
      cases os.opened with
      | error lastError =>
        exact .of_silent rfl rfl ⟨rfl, h.sharedMemClient, h.bDataSent, h.dataReady⟩
      | ok hPipe =>
        cases hacc : OutPipe.accepts os.written with
        | false => exact .of_silent rfl rfl (h.withPipe _ hbuff hbuff')
        | true => exact .of_logged [_] rfl rfl ((h.withPipe _ hbuff hbuff').pushMessg _)

theorem alike_startSharedMemory (h : Alike c d) (os : OpenAnswers) :
    SameResult c d (c.startSharedMemory os) (d.startSharedMemory os) := by
  cases hc : c.hasStarted with
  | true =>
    rw [startSharedMemory_refused os hc, startSharedMemory_refused os (h.hasStarted ▸ hc)]
    exact .of_silent rfl rfl h
  | false =>
    rw [startSharedMemory_spec os hc, startSharedMemory_spec os (h.hasStarted ▸ hc)]
    split
    · exact .of_silent rfl rfl h
    · exact .of_logged [_] rfl rfl ⟨h.pipeClient, rfl, h.bDataSent, h.dataReady⟩

/-- A `wait` that has a pipe client goes by the pipe client alone. -/
theorem alike_waitPipe (h : Alike c d) (pipe : OutPipe) :
    SameResult c d (c.waitPipe build pipe) (d.waitPipe build pipe) := by
  have halike : ∀ pipe', Alike { c with pipeClient := some pipe' }
      { d with pipeClient := some pipe' } :=
    fun _ => ⟨rfl, h.sharedMemClient, h.bDataSent, h.dataReady⟩
  unfold waitPipe
  cases pipe.service build false with
  | none => exact .of_silent rfl rfl h
  | some out =>
    obtain ⟨outcome, pipe'⟩ := out
    cases outcome with
    | returned result =>
      cases result with
      | none => exact .of_silent rfl rfl (halike pipe')
      | some result => exact .of_logged [_] rfl rfl ((halike pipe').pushMessg _)
    | threw ex => exact .of_silent rfl rfl (halike pipe')
    | died => exact .of_silent rfl rfl (halike pipe')

theorem alike_waitSharedMemory (h : Alike c d) (os : WaitCallAnswers) :
    SameResult c d (c.waitSharedMemory build os) (d.waitSharedMemory build os) := by
  cases hsent : c.bDataSent with
  | true =>
    have hsent' : d.bDataSent = true := h.bDataSent ▸ hsent
    unfold waitSharedMemory
    rw [if_pos hsent, if_pos hsent']
    exact .of_silent rfl rfl h
  | false =>
    obtain ⟨buff, hbuff, heq⟩ := waitSharedMemory_spec build os h.dataReady.1 hsent
    obtain ⟨buff', hbuff', heq'⟩ :=
      waitSharedMemory_spec build os h.dataReady.2 (h.bDataSent ▸ hsent)
    have hready := And.intro (dataReady_some hbuff) (dataReady_some hbuff')
    rw [heq, heq']
    split
    · exact .of_logged [_] rfl rfl ⟨h.pipeClient, h.sharedMemClient, rfl, hready⟩
    · exact .of_logged [_] rfl rfl ⟨h.pipeClient, h.sharedMemClient, h.bDataSent, hready⟩
    · exact .of_silent rfl rfl ⟨h.pipeClient, h.sharedMemClient, h.bDataSent, hready⟩
    · exact .of_silent rfl rfl ⟨h.pipeClient, h.sharedMemClient, h.bDataSent, hready⟩

theorem alike_wait (h : Alike c d) (os : WaitCallAnswers) :
    SameResult c d (c.wait build os) (d.wait build os) := by
  cases hpipe : c.pipeClient with
  | some pipe =>
    rw [wait_pipe build os hpipe, wait_pipe build os (h.pipeClient ▸ hpipe)]
    split
    · exact alike_waitPipe h pipe
    · exact .of_silent rfl rfl h
  | none =>
    cases hshared : c.sharedMemClient with
    | some client =>
      rw [wait_sharedMemory build os hpipe hshared,
        wait_sharedMemory build os (h.pipeClient ▸ hpipe) (h.sharedMemClient ▸ hshared)]
      exact alike_waitSharedMemory h os
    | none =>
      rw [wait_noTransport build os hpipe hshared,
        wait_noTransport build os (h.pipeClient ▸ hpipe) (h.sharedMemClient ▸ hshared)]
      exact .of_silent rfl rfl h

/-- A client without a shared memory client is like new behind `stop`. -/
theorem alike_stop_create (h : c.Coherent) (hshared : c.sharedMemClient = none) :
    Alike c.stop create where
  pipeClient := rfl
  sharedMemClient := hshared
  bDataSent := h.unsent hshared
  dataReady := ⟨h.dataReady, coherent_create.dataReady⟩

end Task6Client

/-! ## What a run shows -/

/-- What an event shows: how the call ends, what it hands to a transport and what
it logs. The messages that `popMessg` takes were logged before. -/
inductive Seen where
  | start (outcome : Outcome Unit) (sent : List (List Byte)) (logged : List String)
  | wait (outcome : Outcome Bool) (sent : List (List Byte)) (logged : List String)
  | silent
  deriving DecidableEq, Repr

namespace Seen

def sent : Seen → List (List Byte)
  | start _ sent _ => sent
  | wait _ sent _ => sent
  | silent => []

def ofStart (before : Task6Client) (r : ClientResult Unit) : Seen :=
  .start r.outcome r.sent (r.logged before)

def ofWait (before : Task6Client) (r : ClientResult Bool) : Seen :=
  .wait r.outcome r.sent (r.logged before)

variable {c d : Task6Client}

theorem ofStart_same {r r' : ClientResult Unit} (h : c.SameResult d r r') :
    ofStart c r = ofStart d r' := by
  unfold ofStart
  rw [h.outcome, h.sent, h.logged]

theorem ofWait_same {r r' : ClientResult Bool} (h : c.SameResult d r r') :
    ofWait c r = ofWait d r' := by
  unfold ofWait
  rw [h.outcome, h.sent, h.logged]

end Seen

namespace ClientRun

variable {build : Build}

def seen (build : Build) (s : ClientRun) : ClientEvent → Seen
  | .startPipe os => .ofStart s.client (s.client.startPipe build os)
  | .startSharedMemory os => .ofStart s.client (s.client.startSharedMemory os)
  | .wait os => .ofWait s.client (s.client.wait build os)
  | .stop | .popMessg | .finish _ _ => .silent

/-- Runs of clients that cannot be told apart. -/
structure Alike (s t : ClientRun) : Prop where
  client : s.client.Alike t.client
  died : s.died = t.died

theorem seen_alike (s t : ClientRun) (e : ClientEvent) (h : Alike s t) :
    seen build s e = seen build t e := by
  cases e with
  | startPipe os => exact Seen.ofStart_same (Task6Client.alike_startPipe h.client os)
  | startSharedMemory os =>
    exact Seen.ofStart_same (Task6Client.alike_startSharedMemory h.client os)
  | wait os => exact Seen.ofWait_same (Task6Client.alike_wait h.client os)
  | stop => rfl
  | popMessg => rfl
  | finish k outcome => rfl

theorem afterStart_alike {s t : ClientRun} {r r' : ClientResult Unit} (h : Alike s t)
    (hsame : Task6Client.SameResult s.client t.client r r') :
    Alike (s.afterStart r) (t.afterStart r') := by
  unfold afterStart
  rw [← hsame.outcome]
  split
  · exact ⟨hsame.alike, h.died⟩
  · exact ⟨hsame.alike, h.died⟩
  · exact ⟨hsame.alike, rfl⟩

theorem afterWait_alike {s t : ClientRun} {r r' : ClientResult Bool} (h : Alike s t)
    (hsame : Task6Client.SameResult s.client t.client r r') :
    Alike (s.afterWait r) (t.afterWait r') := by
  unfold afterWait
  rw [← hsame.outcome]
  split
  · exact ⟨hsame.alike, h.died⟩
  · exact ⟨hsame.alike, h.died⟩
  · exact ⟨hsame.alike, h.died⟩
  · exact ⟨hsame.alike, rfl⟩

theorem step_alike (s t : ClientRun) (e : ClientEvent) (h : Alike s t) :
    Option.Rel Alike (step build s e) (step build t e) := by
  unfold step
  rw [← h.died]
  cases hdied : s.died with
  | true => exact .none
  | false =>
    simp only [Bool.false_eq_true, ↓reduceIte]
    cases e with
    | startPipe os =>
      exact .some (afterStart_alike h (Task6Client.alike_startPipe h.client os))
    | startSharedMemory os =>
      exact .some (afterStart_alike h (Task6Client.alike_startSharedMemory h.client os))
    | stop =>
      exact .some ⟨⟨rfl, h.client.sharedMemClient, h.client.bDataSent, h.client.dataReady⟩, rfl⟩
    | wait os =>
      have hmay : mayAnswer t.client os = mayAnswer s.client os := by
        unfold mayAnswer
        rw [h.client.pipeClient]
      dsimp only
      rw [hmay]
      split
      · exact .some (afterWait_alike h (Task6Client.alike_wait h.client os))
      · exact .none
    | popMessg =>
      obtain ⟨log, hlog⟩ := Task6Client.popMessg_client s.client
      obtain ⟨log', hlog'⟩ := Task6Client.popMessg_client t.client
      dsimp only
      rw [hlog, hlog']
      exact .some ⟨⟨h.client.pipeClient, h.client.sharedMemClient, h.client.bDataSent,
        h.client.dataReady⟩, rfl⟩
    | finish k outcome =>
      dsimp only
      rw [← h.client.pipeClient]
      split
      · exact .none
      · cases s.client.pipeClient with
        | none => exact .none
        | some pipe =>
          simp only [Option.bind_some]
          cases pipe.inFlight[k]? with
          | none => exact .none
          | some w =>
            exact .some ⟨⟨rfl, h.client.sharedMemClient, h.client.bDataSent,
              h.client.dataReady⟩, rfl⟩

theorem trace_alike {s t : ClientRun} (h : Alike s t) (es : List ClientEvent) :
    (machine build).trace (seen build) s es = (machine build).trace (seen build) t es :=
  Machine.trace_eq_of_bisim seen_alike step_alike h es

/-! ## At most one message a session -/

/-- The messages that a client can still send before it is stopped. -/
def messgsLeft (c : Task6Client) : Nat :=
  if c.pipeClient = none ∧ c.bDataSent = false then 1 else 0

theorem messgsLeft_startPipe {c : Task6Client} (h : c.Coherent) (os : StartPipeAnswers) :
    (c.startPipe build os).sent.length + messgsLeft (c.startPipe build os).client
      ≤ messgsLeft c := by
  cases hstarted : c.hasStarted with
  | true =>
    rw [Task6Client.startPipe_refused build os hstarted]
    simp
  | false =>
    obtain ⟨hpipe, hshared⟩ := Task6Client.hasStarted_eq_false.mp hstarted
    have hone : messgsLeft c = 1 := if_pos ⟨hpipe, h.unsent hshared⟩
    obtain ⟨buff, -, heq⟩ := Task6Client.startPipe_spec build os h.dataReady hstarted
    rw [heq, hone]
    split
    · simp [hone]
    · simp [messgsLeft]
    · split <;> simp [messgsLeft, Task6Client.pushMessg]

theorem messgsLeft_startSharedMemory (c : Task6Client) (os : OpenAnswers) :
    (c.startSharedMemory os).sent.length + messgsLeft (c.startSharedMemory os).client
      ≤ messgsLeft c := by
  cases hstarted : c.hasStarted with
  | true =>
    rw [Task6Client.startSharedMemory_refused os hstarted]
    simp
  | false =>
    rw [Task6Client.startSharedMemory_spec os hstarted]
    split
    · simp
    · exact Nat.le_of_eq (Nat.zero_add _)

theorem messgsLeft_wait {c : Task6Client} (h : c.Coherent) (os : WaitCallAnswers) :
    (c.wait build os).sent.length + messgsLeft (c.wait build os).client ≤ messgsLeft c := by
  cases hpipe : c.pipeClient with
  | some pipe =>
    obtain ⟨pipe', log, heq, hsent⟩ := Task6Client.wait_pipe_client build os hpipe
    rw [hsent, heq]
    simp [messgsLeft]
  | none =>
    cases hshared : c.sharedMemClient with
    | none =>
      rw [Task6Client.wait_noTransport build os hpipe hshared]
      simp
    | some client =>
      rw [Task6Client.wait_sharedMemory build os hpipe hshared]
      cases hsent : c.bDataSent with
      | true =>
        unfold Task6Client.waitSharedMemory
        rw [if_pos hsent]
        simp
      | false =>
        obtain ⟨buff, -, heq⟩ :=
          Task6Client.waitSharedMemory_spec build os h.dataReady hsent
        rw [heq]
        split <;> simp [messgsLeft, Task6Client.pushMessg, hpipe, hsent]

/-- Without a `stop` no event sends more than the client has left to send. -/
theorem messgsLeft_step {s s' : ClientRun} {e : ClientEvent} (h : s.client.Coherent)
    (hs : (machine build).step s e = some s') (hstop : e ≠ .stop) :
    (seen build s e).sent.length + messgsLeft s'.client ≤ messgsLeft s.client := by
  cases (steps_of_step hs).2 with
  | startPipe os hnext =>
    rw [hnext, afterStart_client]
    exact messgsLeft_startPipe h os
  | startSharedMemory os hnext =>
    rw [hnext, afterStart_client]
    exact messgsLeft_startSharedMemory s.client os
  | stop _ => exact absurd rfl hstop
  | wait os _ hnext =>
    rw [hnext, afterWait_client]
    exact messgsLeft_wait h os
  | popMessg hnext =>
    obtain ⟨log, hlog⟩ := Task6Client.popMessg_client s.client
    rw [hnext, hlog]
    exact Nat.le_of_eq (Nat.zero_add _)
  | finish k outcome pipe w _ hpipe _ hnext =>
    rw [hnext]
    simp [messgsLeft, seen, Seen.sent]

/-- The messages that a run hands to a transport. -/
def messgsSent (build : Build) (s : ClientRun) (es : List ClientEvent) : List (List Byte) :=
  ((machine build).trace (seen build) s es).flatMap Seen.sent

theorem messgsSent_length_le {s : ClientRun} (h : s.client.Coherent) {es : List ClientEvent}
    (hes : ∀ e ∈ es, e ≠ .stop) : (messgsSent build s es).length ≤ messgsLeft s.client := by
  induction es generalizing s with
  | nil => exact Nat.zero_le _
  | cons e es ih =>
    unfold messgsSent
    cases hs : (machine build).step s e with
    | none =>
      rw [Machine.trace_cons_none hs]
      exact Nat.zero_le _
    | some s' =>
      rw [Machine.trace_cons_some hs, List.flatMap_cons, List.length_append]
      have hone := messgsLeft_step h hs (hes e (List.mem_cons_self ..))
      have hrest := ih (coherent_step s e s' h hs) fun e' he' =>
        hes e' (List.mem_cons_of_mem _ he')
      unfold messgsSent at hrest
      omega

/-! ## What `stop` ends -/

/-- The session is over: the client has not started, and what it does from now on
is what a new one does; up to the next `stop` it sends at most one message. -/
structure SessionOver (build : Build) (s : ClientRun) : Prop where
  unstarted : s.client.Unstarted build
  likeNew : ∀ es, (machine build).trace (seen build) s es =
    (machine build).trace (seen build) init es
  sendsOnce : ∀ es, (∀ e ∈ es, e ≠ .stop) → (messgsSent build s es).length ≤ 1

/-- `stop` ends the session. -/
def StopEnds (build : Build) (s : ClientRun) : ClientEvent → Prop
  | .stop => SessionOver build { s with client := s.client.stop }
  | _ => True

/-- `stop` finds no shared memory client. -/
def StopsPipe (s : ClientRun) : ClientEvent → Prop
  | .stop => s.client.sharedMemClient = none
  | _ => True

theorem sessionOver_of_alike {s : ClientRun} (h : Alike s init) (hcoherent : s.client.Coherent) :
    SessionOver build s where
  unstarted := by
    rw [Task6Client.unstarted_iff hcoherent, h.client.hasStarted]
    rfl
  likeNew := fun es => trace_alike h es
  sendsOnce := by
    intro es hes
    refine (messgsSent_length_le hcoherent hes).trans ?_
    unfold messgsLeft
    split
    · exact Nat.le_refl 1
    · exact Nat.zero_le 1

theorem stopEnds_iff_stopsPipe {s s' : ClientRun} {e : ClientEvent} (h : s.client.Coherent)
    (hs : (machine build).step s e = some s') : StopEnds build s e ↔ StopsPipe s e := by
  cases e with
  | stop =>
    have hcoherent := Task6Client.coherent_stop h
    constructor
    · intro hover
      have hstarted := (Task6Client.unstarted_iff hcoherent).mp hover.unstarted
      exact (Task6Client.hasStarted_eq_false.mp hstarted).2
    · intro hshared
      have hdied := (steps_of_step hs).1
      exact sessionOver_of_alike ⟨Task6Client.alike_stop_create h hshared, hdied⟩ hcoherent
  | startPipe os => exact Iff.rfl
  | startSharedMemory os => exact Iff.rfl
  | wait os => exact Iff.rfl
  | popMessg => exact Iff.rfl
  | finish k outcome => exact Iff.rfl

/-- **Stopping, exactly**: along any run every `stop` ends the session, if and
only if no `stop` finds a shared memory client. -/
theorem stopEnds_iff (build : Build) (es : List ClientEvent) :
    (machine build).EachStep (StopEnds build) init es ↔
      (machine build).EachStep StopsPipe init es := by
  refine Machine.eachStep_congr (I := fun s => s.client.Coherent) coherent_step ?_
    Task6Client.coherent_create es
  intro s e s' h hs
  exact stopEnds_iff_stopsPipe h hs

/-- A shared memory session is stopped. -/
def stopSharedMemory : List ClientEvent :=
  [.startSharedMemory ⟨⟨true, errorSuccess⟩, ⟨true, errorSuccess⟩, ⟨true, errorSuccess⟩⟩, .stop]

/-- The client is still started. -/
theorem stopSharedMemory_breaks (build : Build) :
    ¬ (machine build).EachStep (StopEnds build) init stopSharedMemory := by
  intro h
  have hover := ((h _ rfl).2 _ rfl).1
  exact hover.unstarted.acceptsPipe Task6Client.allOk rfl

theorem stopEnds_broken :
    ¬ (machine .release).EachStep (StopEnds .release) init stopSharedMemory ∧
      ¬ (machine .debug).EachStep (StopEnds .debug) init stopSharedMemory :=
  ⟨stopSharedMemory_breaks .release, stopSharedMemory_breaks .debug⟩

end ClientRun

end Task6
