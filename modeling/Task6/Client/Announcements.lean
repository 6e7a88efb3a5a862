import Task6.Client.Starts

/-!
# What `Task6Client::wait` announces

`wait` returns true when the message of the session is out: in a pipe session
when the event of its single write is signalled, in a shared memory session when
`writeData` has written it. A history variable beside the run counts the calls
that returned true since the last start that did.

In a pipe session the flag, the event and what Windows has in flight stay
together (`PipeSession`), so that `service` is never called when it is wrong to.
-/

namespace Task6

open Win32 NulText

/-- The single write of a pipe session has finished. -/
def OutPipe.WriteFinished (p : OutPipe) : Prop :=
  p.started = 1 ∧ p.inFlight = [] ∧ p.last.isSome = true

/-- How far the single write of a pipe session is; `idle` is before it (the start
has failed) or behind its report. -/
inductive PipeSession (p : OutPipe) : Prop where
  | idle (hphase : ¬ p.InPhase .writing) (hfly : p.inFlight = [])
      (hsig : p.client.writeOverlapped.signalled = false)
  | pending (hphase : p.InPhase .writing) (hstarted : p.started = 1) (hfly : p.inFlight = [1])
      (hsig : p.client.writeOverlapped.signalled = false)
  | finished (outcome : IoOutcome) (hphase : p.InPhase .writing) (hdone : p.WriteFinished)
      (hrec : p.client.writeOverlapped.recorded = some outcome)
      (hsig : p.client.writeOverlapped.signalled = true)

namespace PipeSession

variable {p : OutPipe}

theorem create : PipeSession OutPipe.create :=
  .idle (OutPipe.InPhase.not_writing .unconnected rfl (by simp)) rfl rfl

theorem linked (hPipe : Nat) : PipeSession (OutPipe.linked hPipe) :=
  .idle (OutPipe.InPhase.not_writing .connected rfl (by simp)) rfl rfl

theorem sending (hPipe : Nat) {r : CallResult} (hacc : OutPipe.accepts r = true) :
    PipeSession (OutPipe.sending hPipe r) := by
  unfold OutPipe.sending OutPipe.writeFile
  split
  · exact .finished _ rfl ⟨rfl, rfl, rfl⟩ rfl rfl
  · split
    · exact .pending rfl rfl rfl rfl
    · rename_i hb hp
      simp [OutPipe.accepts, hb, hp] at hacc

/-- A write that finishes is the one of the session. -/
theorem finish (h : PipeSession p) {k w : Nat} (hk : p.inFlight[k]? = some w)
    (outcome : IoOutcome) : PipeSession (p.finish k w outcome) := by
  cases h with
  | idle hphase hfly hsig =>
    rw [hfly] at hk
    cases hk
  | pending hphase hstarted hfly hsig =>
    rw [hfly] at hk
    cases k with
    | zero =>
      cases hk
      refine .finished outcome hphase ⟨hstarted, ?_, ?_⟩ rfl rfl
      · show p.inFlight.eraseIdx 0 = []
        rw [hfly]
        rfl
      · show (if 1 = p.started then some outcome else p.last).isSome = true
        rw [if_pos hstarted.symm]
        rfl
    | succ k => cases hk
  | finished recorded hphase hdone hrec hsig =>
    rw [hdone.2.1] at hk
    cases hk

/-- An event that is signalled is that of a finished write, and `service` reports
it. -/
theorem service_signalled (h : PipeSession p) (hcoherent : p.Coherent) (build : Build)
    (hsig : p.client.writeOverlapped.signalled = true) :
    p.InPhase .writing ∧ p.WriteFinished ∧
      ∃ report, p.service build false = some (.returned (some report), p.serviced) := by
  cases h with
  | idle hphase hfly hsig' => cases hsig'.symm.trans hsig
  | pending hphase hstarted hfly hsig' => cases hsig'.symm.trans hsig
  | finished outcome hphase hdone hrec _ =>
    refine ⟨hphase, hdone, outcome.report, ?_⟩
    rw [OutPipe.service_recorded hcoherent build false hrec, hsig, Build.asserts_true,
      if_pos rfl]

theorem serviced (hphase : p.InPhase .writing) (hdone : p.WriteFinished) :
    PipeSession p.serviced :=
  .idle (OutPipe.serviced_not_writing hphase) hdone.2.1 rfl

end PipeSession

namespace ClientRun

variable {build : Build}

/-- The count behind a start that ended in `r`: a start that returns begins a
session. -/
def countStart (r : ClientResult Unit) (n : Nat) : Nat :=
  match r.outcome with
  | .returned _ => 0
  | .threw _ | .died => n

/-- The count behind a `wait` that ended in `r`. -/
def countWait (r : ClientResult Bool) (n : Nat) : Nat :=
  match r.outcome with
  | .returned true => n + 1
  | .returned false | .threw _ | .died => n

/-- The calls of `wait` that returned true since the last start that returned. -/
def announcedSince (build : Build) (s : ClientRun) (e : ClientEvent) (n : Nat) : Nat :=
  match e with
  | .startPipe os => countStart (s.client.startPipe build os) n
  | .startSharedMemory os => countStart (s.client.startSharedMemory os) n
  | .wait os => countWait (s.client.wait build os) n
  | .stop | .popMessg | .finish _ _ => n

/-- A client in use, with the announcements of its session. -/
def announcing (build : Build) : Machine (ClientRun × Nat) ClientEvent :=
  (machine build).observed 0 (announcedSince build)

/-- No more announcements than starts, and at most one a session. -/
def AnnouncedOnce (s : ClientRun × Nat) : Prop :=
  s.1.announced ≤ s.1.starts ∧ s.2 ≤ 1

/-- If `e` is a `wait` that announces the message, the message is out; in a pipe
session `service` is not caught being unsuccessful. -/
def OnlyWhenOut (build : Build) (s : ClientRun × Nat) : ClientEvent → Prop
  | .wait os =>
    (∀ pipe, s.1.client.pipeClient = some pipe →
      ((s.1.client.wait build os).outcome = .returned true → pipe.WriteFinished) ∧
        (s.1.client.wait build os).outcome ≠
          .threw (.runtimeError "service method should be successful")) ∧
    (s.1.client.pipeClient = none → (s.1.client.wait build os).outcome = .returned true →
      (s.1.client.wait build os).sent = [helloWorld] ∧
        (writeData build os.write os.memory helloWorld).outcome = .returned true ∧
        (writeData build os.write os.memory helloWorld).memory
          = overwrite os.memory helloWorld)
  | _ => True

/-- The announcements that the session can still make. -/
def owed (c : Task6Client) : Nat :=
  match c.pipeClient with
  | some pipe => if pipe.client.state = PipeState.connectedWriting then 1 else 0
  | none => if c.sharedMemClient.isSome && !c.bDataSent then 1 else 0

theorem owed_noPipe {c : Task6Client} (h : c.pipeClient = none) :
    owed c = if c.sharedMemClient.isSome && !c.bDataSent then 1 else 0 := by
  unfold owed
  rw [h]

theorem owed_le_one (c : Task6Client) : owed c ≤ 1 := by
  unfold owed
  split
  · split
    · exact Nat.le_refl 1
    · exact Nat.zero_le 1
  · split
    · exact Nat.le_refl 1
    · exact Nat.zero_le 1

/-- The pipe client, if there is one, is in a pipe session. -/
def InSession (c : Task6Client) : Prop :=
  ∀ pipe, c.pipeClient = some pipe → pipe.Coherent ∧ PipeSession pipe

/-- The invariant: what the session owes is covered by its start. -/
structure Covered (s : ClientRun × Nat) : Prop where
  coherent : s.1.client.Coherent
  session : InSession s.1.client
  bounded : s.1.announced + owed s.1.client ≤ s.1.starts
  once : s.2 + owed s.1.client ≤ 1

theorem covered_init : Covered (init, 0) where
  coherent := Task6Client.coherent_create
  session := fun pipe h => by cases h
  bounded := Nat.le_refl 0
  once := Nat.zero_le 1

variable {s : ClientRun × Nat}

/-- A step that counts nothing. -/
theorem Covered.of_owed {client : Task6Client} {died : Bool} (h : Covered s)
    (hcoherent : client.Coherent) (hsession : InSession client)
    (howed : owed client ≤ owed s.1.client) :
    Covered ({ s.1 with client := client, died := died }, s.2) where
  coherent := hcoherent
  session := hsession
  bounded := (Nat.add_le_add_left howed _).trans h.bounded
  once := (Nat.add_le_add_left howed _).trans h.once

/-- A start: if it returns it covers what the session owes, else there is nothing
more to cover. -/
theorem Covered.afterStart {r : ClientResult Unit} (h : Covered s)
    (hcoherent : r.client.Coherent) (hsession : InSession r.client)
    (howed : r.outcome ≠ .returned () → owed r.client ≤ owed s.1.client) :
    Covered (s.1.afterStart r, countStart r s.2) := by
  unfold ClientRun.afterStart countStart
  cases houtcome : r.outcome with
  | returned u =>
    have hone := owed_le_one r.client
    have hbounded := h.bounded
    refine ⟨hcoherent, hsession, ?_, ?_⟩
    · show s.1.announced + owed r.client ≤ s.1.starts + 1
      omega
    · show 0 + owed r.client ≤ 1
      omega
  | threw ex => exact h.of_owed hcoherent hsession (howed (by simp [houtcome]))
  | died => exact h.of_owed hcoherent hsession (howed (by simp [houtcome]))

/-- A `wait`: an announcement is taken from what the session owes. -/
theorem Covered.afterWait {r : ClientResult Bool} (h : Covered s)
    (hcoherent : r.client.Coherent) (hsession : InSession r.client)
    (howed : owed r.client ≤ owed s.1.client)
    (hann : r.outcome = .returned true → owed r.client + 1 ≤ owed s.1.client) :
    Covered (s.1.afterWait r, countWait r s.2) := by
  unfold ClientRun.afterWait countWait
  cases houtcome : r.outcome with
  | returned b =>
    cases b with
    | true =>
      have hless := hann houtcome
      have hbounded := h.bounded
      have honce := h.once
      refine ⟨hcoherent, hsession, ?_, ?_⟩
      · show s.1.announced + 1 + owed r.client ≤ s.1.starts
        omega
      · show s.2 + 1 + owed r.client ≤ 1
        omega
    | false => exact h.of_owed hcoherent hsession howed
  | threw ex => exact h.of_owed hcoherent hsession howed
  | died => exact h.of_owed hcoherent hsession howed

/-! ## One step -/

section Steps

variable {c : Task6Client}

theorem inSession_startPipe (h : c.Coherent) (hsession : InSession c) (os : StartPipeAnswers) :
    InSession (c.startPipe build os).client := by
  cases hstarted : c.hasStarted with
  | true =>
    rw [Task6Client.startPipe_refused build os hstarted]
    exact hsession
  | false =>
    obtain ⟨buff, -, heq⟩ := Task6Client.startPipe_spec build os h.dataReady hstarted
    rw [heq]
    split
    · exact hsession
    · rintro pipe ⟨⟩
      exact ⟨OutPipe.coherent_create, .create⟩
    · rename_i hPipe _ _
      have hlinked : (OutPipe.linked hPipe).Coherent :=
        OutPipe.coherent_openPipe OutPipe.coherent_create task6PipeServerName (.ok hPipe)
      have hphase : (OutPipe.linked hPipe).InPhase .connected := rfl
      split
      · rename_i hacc
        have hsending := OutPipe.coherent_write hlinked helloWorld.length os.written
        rw [OutPipe.write_accepted hphase _ hacc] at hsending
        rintro pipe ⟨⟩
        exact ⟨hsending, .sending hPipe hacc⟩
      · rintro pipe ⟨⟩
        exact ⟨hlinked, .linked hPipe⟩

/-- A `startPipe` that throws leaves no write behind. -/
theorem owed_startPipe (h : c.Coherent) (os : StartPipeAnswers)
    (hthrew : (c.startPipe build os).outcome ≠ .returned ()) :
    owed (c.startPipe build os).client ≤ owed c := by
  cases hstarted : c.hasStarted with
  | true =>
    rw [Task6Client.startPipe_refused build os hstarted]
  | false =>
    obtain ⟨buff, -, heq⟩ := Task6Client.startPipe_spec build os h.dataReady hstarted
    revert hthrew
    rw [heq]
    cases os.created with
    | error lastError => exact fun _ => Nat.le_refl _
    | ok u =>
      cases os.opened with
      | error lastError => exact fun _ => Nat.zero_le _
      | ok hPipe =>
        cases OutPipe.accepts os.written with
        | false => exact fun _ => Nat.zero_le _
        | true => exact fun hthrew => absurd rfl hthrew

theorem owed_startSharedMemory (os : OpenAnswers)
    (hthrew : (c.startSharedMemory os).outcome ≠ .returned ()) :
    owed (c.startSharedMemory os).client ≤ owed c := by
  cases hstarted : c.hasStarted with
  | true => rw [Task6Client.startSharedMemory_refused os hstarted]
  | false =>
    revert hthrew
    rw [Task6Client.startSharedMemory_spec os hstarted]
    split
    · exact fun _ => Nat.le_refl _
    · exact fun hthrew => absurd rfl hthrew

theorem inSession_startSharedMemory (hsession : InSession c) (os : OpenAnswers) :
    InSession (c.startSharedMemory os).client := by
  cases hstarted : c.hasStarted with
  | true =>
    rw [Task6Client.startSharedMemory_refused os hstarted]
    exact hsession
  | false =>
    rw [Task6Client.startSharedMemory_spec os hstarted]
    split
    · exact hsession
    · exact hsession

/-- `stop` owes nothing more than before: a client with a pipe has no shared
memory client that could still announce anything. -/
theorem owed_stop (h : c.Coherent) : owed c.stop ≤ owed c := by
  cases hpipe : c.pipeClient with
  | none =>
    have hsame : c.stop = c := by
      show { c with pipeClient := none } = c
      rw [← hpipe]
    rw [hsame]
  | some pipe =>
    have hzero : owed c.stop = 0 := by
      show (if c.sharedMemClient.isSome && !c.bDataSent then 1 else 0) = 0
      rw [h.noSharedMemory hpipe]
      rfl
    rw [hzero]
    exact Nat.zero_le _

/-- What a `wait` that the event of the pipe client let through does. -/
theorem wait_signalled (build : Build) {pipe : OutPipe} (hsession : InSession c)
    (hpipe : c.pipeClient = some pipe) (os : WaitCallAnswers) (hmay : mayAnswer c os = true)
    (hevent : os.event = .object0) :
    pipe.InPhase .writing ∧ pipe.WriteFinished ∧ ∃ log, c.wait build os =
      ⟨.returned true, { c with pipeClient := some pipe.serviced, log := log }, []⟩ := by
  obtain ⟨hcoherent, hpipeSession⟩ := hsession pipe hpipe
  have hsig : pipe.client.writeOverlapped.signalled = true := by
    unfold mayAnswer at hmay
    rw [hpipe] at hmay
    simpa [hevent] using hmay
  obtain ⟨hphase, hdone, report, hservice⟩ :=
    hpipeSession.service_signalled hcoherent build hsig
  refine ⟨hphase, hdone, c.log ++ [Task6Client.reportText report], ?_⟩
  rw [Task6Client.wait_pipe build os hpipe, if_pos hevent]
  unfold Task6Client.waitPipe
  rw [hservice]
  rfl

/-- What a `wait` that the event did not let through does. -/
theorem wait_unsignalled {pipe : OutPipe} (hpipe : c.pipeClient = some pipe)
    (os : WaitCallAnswers) (hevent : os.event ≠ .object0) :
    c.wait build os = ⟨.returned false, c, []⟩ := by
  rw [Task6Client.wait_pipe build os hpipe, if_neg hevent]

theorem waitSharedMemory_written (hdata : c.DataReady) (os : WaitCallAnswers)
    (hreturned : (c.waitSharedMemory build os).outcome = .returned true) :
    c.bDataSent = false ∧ (c.waitSharedMemory build os).client.bDataSent = true ∧
      (c.waitSharedMemory build os).sent = [helloWorld] ∧
      (writeData build os.write os.memory helloWorld).outcome = .returned true := by
  cases hsent : c.bDataSent with
  | true =>
    unfold Task6Client.waitSharedMemory at hreturned
    rw [if_pos hsent] at hreturned
    cases hreturned
  | false =>
    revert hreturned
    obtain ⟨buff, -, heq⟩ := Task6Client.waitSharedMemory_spec build os hdata hsent
    rw [heq]
    split
    · rename_i hwritten
      exact fun _ => ⟨rfl, rfl, rfl, hwritten⟩
    · intro hfalse
      cases hfalse
    · intro hthrew
      cases hthrew
    · intro hdied
      cases hdied

theorem wait_noPipe (build : Build) (h : c.Coherent) (hpipe : c.pipeClient = none)
    (os : WaitCallAnswers) : (c.wait build os).client.pipeClient = none := by
  cases hshared : c.sharedMemClient with
  | none =>
    rw [Task6Client.wait_noTransport build os hpipe hshared]
    exact hpipe
  | some client =>
    obtain ⟨buff, sent, log, -, hclient⟩ :=
      Task6Client.wait_sharedMemory_client build os h.dataReady hpipe hshared
    rw [hclient]
    exact hpipe

/-- `wait` of a client without a pipe owes nothing more than before, and less
when it returns true. -/
theorem owed_wait (build : Build) (h : c.Coherent) (hpipe : c.pipeClient = none)
    (os : WaitCallAnswers) :
    owed (c.wait build os).client ≤ owed c ∧
      ((c.wait build os).outcome = .returned true →
        owed (c.wait build os).client + 1 ≤ owed c) := by
  cases hshared : c.sharedMemClient with
  | none =>
    rw [Task6Client.wait_noTransport build os hpipe hshared]
    refine ⟨Nat.le_refl _, fun hthrew => ?_⟩
    cases hthrew
  | some client =>
    have hwait := Task6Client.wait_sharedMemory build os hpipe hshared
    cases hsent : c.bDataSent with
    | true =>
      rw [hwait]
      unfold Task6Client.waitSharedMemory
      rw [if_pos hsent]
      refine ⟨Nat.le_refl _, fun hfalse => ?_⟩
      cases hfalse
    | false =>
      have hone : owed c = 1 := by
        rw [owed_noPipe hpipe, hshared, hsent]
        rfl
      rw [hone]
      refine ⟨owed_le_one _, fun hreturned => ?_⟩
      obtain ⟨buff, sent, log, -, hclient⟩ :=
        Task6Client.wait_sharedMemory_client build os h.dataReady hpipe hshared
      rw [hwait] at hreturned
      have hflag := (waitSharedMemory_written h.dataReady os hreturned).2.1
      rw [← hwait, hclient] at hflag
      have hflag : sent = true := hflag
      have hzero : owed { c with dataBuff := buff, bDataSent := sent, log := log } = 0 := by
        rw [owed_noPipe (show { c with dataBuff := buff, bDataSent := sent, log := log
          }.pipeClient = none from hpipe), hflag]
        exact if_neg (by simp)
      rw [hclient, hzero]

end Steps

theorem covered_wait (h : Covered s) (os : WaitCallAnswers)
    (hmay : mayAnswer s.1.client os = true) :
    Covered (s.1.afterWait (s.1.client.wait build os),
      countWait (s.1.client.wait build os) s.2) := by
  have hcoherent : (s.1.client.wait build os).client.Coherent :=
    Task6Client.coherent_wait h.coherent os
  cases hpipe : s.1.client.pipeClient with
  | none =>
    obtain ⟨howed, hann⟩ := owed_wait build h.coherent hpipe os
    refine h.afterWait hcoherent (fun pipe hsome => ?_) howed hann
    rw [wait_noPipe build h.coherent hpipe os] at hsome
    cases hsome
  | some pipe =>
    by_cases hevent : os.event = .object0
    · obtain ⟨hphase, hdone, log, heq⟩ :=
        wait_signalled build h.session hpipe os hmay hevent
      have hnext := OutPipe.serviced_not_writing hphase
      have hone : owed s.1.client = 1 := by
        unfold owed
        rw [hpipe]
        exact if_pos hphase
      have hzero : owed { s.1.client with pipeClient := some pipe.serviced, log := log } = 0 :=
        if_neg hnext
      rw [heq] at hcoherent ⊢
      refine h.afterWait hcoherent ?_ ?_ fun _ => ?_
      · rintro pipe' ⟨⟩
        exact ⟨OutPipe.coherent_serviced (h.session pipe hpipe).1, .serviced hphase hdone⟩
      · show owed { s.1.client with pipeClient := some pipe.serviced, log := log } ≤ _
        rw [hzero]
        exact Nat.zero_le _
      · show owed { s.1.client with pipeClient := some pipe.serviced, log := log } + 1 ≤ _
        rw [hzero, hone]
    · rw [wait_unsignalled hpipe os hevent]
      refine h.afterWait h.coherent h.session (Nat.le_refl _) fun hfalse => ?_
      cases hfalse

theorem covered_step (s : ClientRun × Nat) (e : ClientEvent) (s' : ClientRun × Nat)
    (h : Covered s) (hs : (announcing build).step s e = some s') : Covered s' := by
  obtain ⟨t, n⟩ := s'
  obtain ⟨hstep, hcount⟩ : (machine build).step s.1 e = some t ∧
    n = announcedSince build s.1 e s.2 := Machine.observed_step.mp hs
  have hcoherent := coherent_step s.1 e t h.coherent hstep
  subst hcount
  cases (steps_of_step hstep).2 with
  | startPipe os hnext =>
    subst hnext
    exact h.afterStart (Task6Client.coherent_startPipe h.coherent os)
      (inSession_startPipe h.coherent h.session os) (owed_startPipe h.coherent os)
  | startSharedMemory os hnext =>
    subst hnext
    exact h.afterStart (Task6Client.coherent_startSharedMemory h.coherent os)
      (inSession_startSharedMemory h.session os) (owed_startSharedMemory os)
  | stop hnext =>
    subst hnext
    exact h.of_owed hcoherent (fun pipe hsome => by cases hsome) (owed_stop h.coherent)
  | wait os hmay hnext =>
    subst hnext
    exact covered_wait h os hmay
  | popMessg hnext =>
    obtain ⟨log, hlog⟩ := Task6Client.popMessg_client s.1.client
    rw [hlog] at hnext
    subst hnext
    exact h.of_owed hcoherent h.session (Nat.le_refl _)
  | finish k outcome pipe w hcode hpipe hk hnext =>
    subst hnext
    obtain ⟨hpipeCoherent, hsession⟩ := h.session pipe hpipe
    refine h.of_owed hcoherent ?_ ?_
    · rintro pipe' ⟨⟩
      exact ⟨OutPipe.coherent_finish hpipeCoherent k w hcode, hsession.finish hk outcome⟩
    · unfold owed
      rw [hpipe]
      exact Nat.le_refl _

/-- In every run each announcement is made when the message is out. -/
theorem onlyWhenOut_step (s : ClientRun × Nat) (e : ClientEvent) (s' : ClientRun × Nat)
    (h : Covered s) (hs : (announcing build).step s e = some s') : OnlyWhenOut build s e := by
  cases e with
  | wait os =>
    have hmay : mayAnswer s.1.client os = true := by
      cases (steps_of_step (Machine.observed_step.mp hs).1).2 with
      | wait os hmay _ => exact hmay
    constructor
    · intro pipe hpipe
      by_cases hevent : os.event = .object0
      · obtain ⟨-, hdone, log, heq⟩ := wait_signalled build h.session hpipe os hmay hevent
        rw [heq]
        exact ⟨fun _ => hdone, by simp⟩
      · rw [wait_unsignalled hpipe os hevent]
        refine ⟨fun hfalse => ?_, by simp⟩
        cases hfalse
    · intro hpipe hreturned
      cases hshared : s.1.client.sharedMemClient with
      | none =>
        rw [Task6Client.wait_noTransport build os hpipe hshared] at hreturned
        cases hreturned
      | some client =>
        rw [Task6Client.wait_sharedMemory build os hpipe hshared] at hreturned ⊢
        obtain ⟨-, -, hsent, hwritten⟩ :=
          waitSharedMemory_written h.coherent.dataReady os hreturned
        exact ⟨hsent, hwritten, writeData_written hwritten⟩
  | startPipe os => trivial
  | startSharedMemory os => trivial
  | stop => trivial
  | popMessg => trivial
  | finish k outcome => trivial

/-- **Announcing**: in every run `wait` announces the message of a session at most
once, and only when it is out. -/
theorem announces_onlyWhenOut (build : Build) (es : List ClientEvent) :
    (announcing build).Always AnnouncedOnce (announcing build).init es ∧
      (announcing build).EachStep (OnlyWhenOut build) (announcing build).init es := by
  constructor
  · refine Machine.always_of_invariant (fun s h => ?_) covered_step covered_init es
    exact ⟨(Nat.le_add_right _ _).trans h.bounded, (Nat.le_add_right _ _).trans h.once⟩
  · exact Machine.eachStep_of_invariant covered_step onlyWhenOut_step covered_init es

end ClientRun

end Task6
