import Task6.Client.ClientConsole

/-!
# What the client's console shows

In every run the user has seen nothing until the write was reported or the message
sent, and all there is to tell from then on; no exception but that of a call of
Windows or of an unknown command leaves `run` (`console_shows`). The session of the
invariant says what each `wait` adds (`WaitEffect`), and popping only moves it.
-/

namespace Task6

open Win32 NulText

/-- It is the wait that throws. -/
theorem writeData_threw {build : Build} {os : WriteAnswers} {memory data : List Byte} {ex : Exn}
    (h : (writeData build os memory data).outcome = .threw ex) :
    ∃ lastError, ex = .system lastError := by
  unfold writeData at h
  split at h
  · cases h
  · cases h
    exact ⟨_, rfl⟩
  · split at h
    · split at h
      · cases h
      · split at h <;> cases h
    · cases h

namespace ClientConsole

/-! ## The invariant -/

/-- What `run` may throw. -/
def Thrown (ex : Exn) : Prop := (∃ errorCode, ex = .system errorCode) ∨ ex = unknownCommand

/-- `run` has not come to the loop. -/
def beforeLoop : ClientConsolePc → Bool
  | .choosing | .startingPipe | .startingSharedMemory => true
  | _ => false

def inLoop : ClientConsolePc → Bool
  | .startingTimer | .checkingTimer _ | .waiting _ | .popping _ | .prompting | .returned => true
  | _ => false

theorem running_cases {pc : ClientConsolePc} (h : running pc = true) :
    beforeLoop pc = true ∨ inLoop pc = true := by
  cases pc <;> simp_all [running, beforeLoop, inLoop]

def atPop : ClientConsolePc → Bool
  | .popping _ => true
  | _ => false

/-- What the console shows when its session is `session`: the message handed over
once at most, what is printed and still queued is all there is to tell, and the
user has seen it, but for what is being printed. -/
structure ShowsSession (s : ClientConsole) (session : Session) : Prop where
  session_of : session.Of s.client
  started : inLoop s.pc = true → session ≠ .unstarted
  messages : s.sent = session.messages
  told : s.printed ++ s.client.log = session.lines
  popping : atPop s.pc = true → session.announced = true
  seen : atPop s.pc = false → s.printed = session.seen
  thrown : ∀ ex, s.pc = .left ex → Thrown ex

/-- The invariant. -/
structure Follows (s : ClientConsole) (session : Session) : Prop extends
    ShowsSession s session where
  coherent : s.client.Coherent
  before : beforeLoop s.pc = true → s.client.hasStarted = false ∧ session = .unstarted

theorem follows_init : init.Follows .unstarted where
  session_of := rfl
  started := fun h => by cases h
  messages := rfl
  told := rfl
  popping := fun h => by cases h
  seen := fun _ => rfl
  thrown := fun ex h => by cases h
  coherent := Task6Client.coherent_create
  before := fun _ => ⟨rfl, rfl⟩

variable {build : Build} {s : ClientConsole} {session : Session}

/-- A step that does not touch the client. -/
theorem Follows.of_pc {pc : ClientConsolePc} {command : Char} (h : s.Follows session)
    (hpop : atPop s.pc = false) (hpop' : atPop pc = false)
    (hloop : inLoop pc = true → session ≠ .unstarted)
    (hbefore : beforeLoop pc = true → s.client.hasStarted = false ∧ session = .unstarted)
    (hthrown : ∀ ex, pc = .left ex → Thrown ex) :
    Follows { s with pc := pc, command := command } session where
  session_of := h.session_of
  started := hloop
  messages := h.messages
  told := h.told
  popping := fun hat => by
    rw [show atPop pc = true from hat] at hpop'
    cases hpop'
  seen := fun _ => h.seen hpop
  thrown := hthrown
  coherent := h.coherent
  before := hbefore

/-! ## Starting -/

/-- A start that throws leaves nothing to tell. -/
theorem Follows.start_threw (h : s.Follows .unstarted) {client : Task6Client} {ex : Exn}
    (hcoherent : client.Coherent) (hlog : client.log = s.client.log) (hex : Thrown ex) :
    Follows { s with pc := .left ex, client := client, sent := s.sent ++ [] } .unstarted where
  session_of := hlog.trans h.session_of
  started := fun hloop => by cases hloop
  messages := by rw [List.append_nil, h.messages]
  told := by rw [hlog, h.told]
  popping := fun hat => by cases hat
  seen := fun _ => by
    have htold := h.told
    rw [h.session_of, List.append_nil] at htold
    exact htold
  thrown := fun ex' heq => by
    cases heq
    exact hex
  coherent := hcoherent
  before := fun hbefore => by cases hbefore

/-- A start that returns begins a session that has nothing announced. -/
theorem Follows.start_returned (h : s.Follows .unstarted) {client : Task6Client}
    {sent : List (List Byte)} (hcoherent : client.Coherent) (hof : session.Of client)
    (hstarted : session ≠ .unstarted) (hann : session.announced = false)
    (hsent : sent = session.messages) (hlog : client.log = session.lines) :
    Follows { s with pc := .startingTimer, client := client, sent := s.sent ++ sent }
      session := by
  have hprinted : s.printed = [] := by
    have htold := h.told
    rw [h.session_of, List.append_nil] at htold
    exact htold
  exact
    { session_of := hof
      started := fun _ => hstarted
      messages := by rw [h.messages, hsent]; rfl
      told := by rw [hprinted, hlog]; rfl
      popping := fun hat => by cases hat
      seen := fun _ => by
        rw [Session.seen, hann]
        exact hprinted
      thrown := fun ex heq => by cases heq
      coherent := hcoherent
      before := fun hbefore => by cases hbefore }

theorem follows_startPipe (h : s.Follows .unstarted) (hstarted : s.client.hasStarted = false)
    (os : StartPipeAnswers) :
    ∃ session', (s.afterStart (s.client.startPipe build os)).Follows session' := by
  have hcoherent : (s.client.startPipe build os).client.Coherent :=
    Task6Client.coherent_startPipe h.coherent os
  obtain ⟨buff, -, heq⟩ := Task6Client.startPipe_spec build os h.coherent.dataReady hstarted
  rw [heq] at hcoherent ⊢
  cases hcreated : os.created with
  | error lastError =>
    exact ⟨.unstarted, h.start_threw h.coherent rfl (.inl ⟨_, rfl⟩)⟩
  | ok u =>
    cases hopened : os.opened with
    | error lastError =>
      rw [hcreated, hopened] at hcoherent
      exact ⟨.unstarted, h.start_threw hcoherent rfl (.inl ⟨_, rfl⟩)⟩
    | ok hPipe =>
      rw [hcreated, hopened] at hcoherent
      dsimp only at hcoherent ⊢
      cases hacc : OutPipe.accepts os.written with
      | false =>
        rw [hacc] at hcoherent
        exact ⟨.unstarted, h.start_threw hcoherent rfl (.inl ⟨_, rfl⟩)⟩
      | true =>
        obtain ⟨outcome, hsending, hcode⟩ := OutPipe.sending_eq hPipe hacc
        have hlog : s.client.log = [] := h.session_of
        rw [hacc] at hcoherent
        refine ⟨.pipe outcome false, h.start_returned hcoherent ⟨⟨hPipe, ?_⟩, ?_, hcode⟩
          (by simp) rfl rfl ?_⟩
        · exact congrArg some hsending
        · exact fun hfalse => by cases hfalse
        · show s.client.log ++ _ = _
          rw [hlog]
          rfl

theorem follows_startSharedMemory (h : s.Follows .unstarted)
    (hstarted : s.client.hasStarted = false) (os : OpenAnswers) :
    ∃ session', (s.afterStart (s.client.startSharedMemory os)).Follows session' := by
  have hcoherent := Task6Client.coherent_startSharedMemory h.coherent os
  obtain ⟨hpipe, hshared⟩ := Task6Client.hasStarted_eq_false.mp hstarted
  rw [Task6Client.startSharedMemory_spec os hstarted] at hcoherent ⊢
  cases hcreate : OutSharedMemoryClient.create task6SharedMemoryName
    task6SharedMemorySvToClEventName task6SharedMemoryClToSvEventName os with
  | error ex =>
    have hthrown := OutSharedMemoryClient.create_error hcreate
    exact ⟨.unstarted, h.start_threw h.coherent rfl (.inl hthrown)⟩
  | ok client =>
    have hlog : s.client.log = [] := h.session_of
    rw [hcreate] at hcoherent
    refine ⟨.sharedMemory 0 false, h.start_returned hcoherent
      ⟨hpipe, rfl, h.coherent.unsent hshared⟩ (by simp) rfl rfl ?_⟩
    show s.client.log ++ _ = _
    rw [hlog]
    rfl

/-! ## Waiting -/

/-- What a `wait` within the loop can do to the client and its session. -/
inductive WaitEffect (c : Task6Client) (session : Session) : ClientResult Bool → Session → Prop
  | nothing : WaitEffect c session ⟨.returned false, c, []⟩ session
  | ended {c' : Task6Client} {out : Outcome Bool} (hlog : c'.log = c.log) (hof : session.Of c')
    (hout : ∀ b, out ≠ .returned b)
    (hthrown : ∀ ex, out = .threw ex → ∃ errorCode, ex = .system errorCode) :
    WaitEffect c session ⟨out, c', []⟩ session
  | timedOut {c' : Task6Client} {session' : Session} {messg : String}
    (hlog : c'.log = c.log ++ [messg]) (hof : session'.Of c') (hstarted : session' ≠ .unstarted)
    (hlines : session'.lines = session.lines ++ [messg]) (hann : session.announced = false)
    (hann' : session'.announced = false) (hmessages : session'.messages = session.messages) :
    WaitEffect c session ⟨.returned false, c', []⟩ session'
  | announced {c' : Task6Client} {session' : Session} {messg : String} {sent : List (List Byte)}
    (hlog : c'.log = c.log ++ [messg]) (hof : session'.Of c') (hstarted : session' ≠ .unstarted)
    (hlines : session'.lines = session.lines ++ [messg]) (hann' : session'.announced = true)
    (hmessages : session'.messages = session.messages ++ sent) :
    WaitEffect c session ⟨.returned true, c', sent⟩ session'

theorem wait_effect {c : Task6Client} (hcoherent : c.Coherent) (hof : session.Of c)
    (hstarted : session ≠ .unstarted) (os : WaitCallAnswers)
    (hmay : ClientRun.mayAnswer c os = true) :
    ∃ session', WaitEffect c session (c.wait build os) session' := by
  cases session with
  | unstarted => exact absurd rfl hstarted
  | pipe outcome reported =>
    obtain ⟨⟨hPipe, hpipe⟩, hreported, hcode⟩ := hof
    rw [Task6Client.wait_pipe build os hpipe]
    by_cases hevent : os.event = .object0
    · -- the event is signalled, so the write has finished and was not reported
      have hsig : (OutPipe.single hPipe outcome reported).client.writeOverlapped.signalled =
          true := by
        unfold ClientRun.mayAnswer at hmay
        rw [hpipe] at hmay
        simpa [hevent] using hmay
      obtain ⟨⟨o, rfl⟩, rfl⟩ := OutPipe.signalled_single.mp hsig
      refine ⟨.pipe (some o) true, ?_⟩
      rw [if_pos hevent, Task6Client.waitPipe, OutPipe.service_single build (hcode o rfl)]
      exact .announced rfl ⟨⟨hPipe, rfl⟩, fun _ => rfl, hcode⟩ (by simp) rfl rfl rfl
    · rw [if_neg hevent]
      exact ⟨_, .nothing⟩
  | sharedMemory timeouts sent =>
    obtain ⟨hpipe, hshared, hsent⟩ := hof
    obtain ⟨client, hclient⟩ := Option.isSome_iff_exists.mp hshared
    rw [Task6Client.wait_sharedMemory build os hpipe hclient]
    cases sent with
    | true =>
      unfold Task6Client.waitSharedMemory
      rw [if_pos hsent]
      exact ⟨_, .nothing⟩
    | false =>
      obtain ⟨buff, -, heq⟩ :=
        Task6Client.waitSharedMemory_spec build os hcoherent.dataReady hsent
      rw [heq]
      split
      · refine ⟨.sharedMemory timeouts true, ?_⟩
        exact .announced rfl ⟨hpipe, hshared, rfl⟩ (by simp) (by simp [Session.lines]) rfl rfl
      · refine ⟨.sharedMemory (timeouts + 1) false, ?_⟩
        refine .timedOut rfl ⟨hpipe, hshared, hsent⟩ (by simp) ?_ rfl rfl rfl
        simp [Session.lines, List.replicate_succ']
      · rename_i ex hthrew
        refine ⟨_, .ended rfl ⟨hpipe, hshared, hsent⟩ (by simp) ?_⟩
        rintro ex' ⟨⟩
        exact writeData_threw hthrew
      · exact ⟨_, .ended rfl ⟨hpipe, hshared, hsent⟩ (by simp) (by simp)⟩

theorem follows_wait {timerStart : Int} (h : s.Follows session) (hpop : atPop s.pc = false)
    (hstarted : session ≠ .unstarted) (os : WaitCallAnswers)
    (hmay : ClientRun.mayAnswer s.client os = true) :
    ∃ session', (s.afterWait timerStart (s.client.wait build os)).Follows session' := by
  have hcoherent : (s.client.wait build os).client.Coherent :=
    Task6Client.coherent_wait h.coherent os
  have hprinted := h.seen hpop
  have htold := h.told
  have hsent := h.messages
  obtain ⟨session', heffect⟩ : ∃ session', WaitEffect s.client session (s.client.wait build os)
    session' := wait_effect h.coherent h.session_of hstarted os hmay
  refine ⟨session', ?_⟩
  generalize s.client.wait build os = r at hcoherent heffect
  cases heffect with
  | nothing =>
    exact
      { session_of := h.session_of
        started := fun _ => hstarted
        messages := (List.append_nil _).trans hsent
        told := htold
        popping := fun hat => by cases hat
        seen := fun _ => hprinted
        thrown := fun ex heq => by cases heq
        coherent := hcoherent
        before := fun hbefore => by cases hbefore }
  | ended hlog hof hout hthrown =>
    rename_i c' out
    -- the end of the process, or an exception
    have hfinal : Follows { s with client := c', sent := s.sent ++ [], pc := .died } session :=
      { session_of := hof
        started := fun _ => hstarted
        messages := (List.append_nil _).trans hsent
        told := by rw [hlog, htold]
        popping := fun hat => by cases hat
        seen := fun _ => hprinted
        thrown := fun ex heq => by cases heq
        coherent := hcoherent
        before := fun hbefore => by cases hbefore }
    cases out with
    | returned b => exact absurd rfl (hout b)
    | died => exact hfinal
    | threw ex =>
      refine { hfinal with
        started := fun _ => hstarted
        popping := fun hat => by cases hat
        seen := fun _ => hprinted
        thrown := fun ex' heq => ?_
        before := fun hbefore => by cases hbefore }
      cases heq
      exact .inl (hthrown ex rfl)
  | timedOut hlog hof hstarted' hlines hann hann' hmessages =>
    rename_i c' messg
    have htold' : s.printed ++ c'.log = session'.lines := by
      rw [hlog, hlines, ← htold, List.append_assoc]
    exact
      { session_of := hof
        started := fun _ => hstarted'
        messages := (List.append_nil _).trans (hsent.trans hmessages.symm)
        told := htold'
        popping := fun hat => by cases hat
        seen := fun _ => by
          rw [Session.seen, hann, if_neg (by decide)] at hprinted
          rw [Session.seen, hann', if_neg (by decide)]
          exact hprinted
        thrown := fun ex heq => by cases heq
        coherent := hcoherent
        before := fun hbefore => by cases hbefore }
  | announced hlog hof hstarted' hlines hann' hmessages =>
    rename_i c' messg sent
    have hsent' : s.sent ++ sent = session'.messages := by rw [hsent, hmessages]
    have htold' : s.printed ++ c'.log = session'.lines := by
      rw [hlog, hlines, ← htold, List.append_assoc]
    exact
      { session_of := hof
        started := fun _ => hstarted'
        messages := hsent'
        told := htold'
        popping := fun _ => hann'
        seen := fun hat => by cases hat
        thrown := fun ex heq => by cases heq
        coherent := hcoherent
        before := fun hbefore => by cases hbefore }

/-- When the queue is empty the user has seen all there is to tell. -/
theorem follows_popOne {timerStart : Int} (h : s.Follows session) (hpc : s.pc = .popping timerStart)
    (timerStart' : Int) : (s.popOne timerStart').Follows session := by
  have hann := h.popping (by rw [hpc]; rfl)
  have hstarted := h.started (by rw [hpc]; rfl)
  have htold := h.told
  have hcoherent := Task6Client.coherent_popMessg h.coherent
  unfold popOne
  cases hlog : s.client.log with
  | nil =>
    have hpopped : s.client.popMessg = (none, s.client) := by
      unfold Task6Client.popMessg
      rw [hlog]
    rw [hpopped]
    exact
      { session_of := h.session_of
        started := fun _ => hstarted
        messages := h.messages
        told := htold
        popping := fun hat => by cases hat
        seen := fun _ => by
          rw [hlog, List.append_nil] at htold
          rw [Session.seen, if_pos hann]
          exact htold
        thrown := fun ex heq => by cases heq
        coherent := h.coherent
        before := fun hbefore => by cases hbefore }
  | cons messg rest =>
    have hpopped : s.client.popMessg = (some messg, { s.client with log := rest }) := by
      unfold Task6Client.popMessg
      rw [hlog]
    rw [hpopped] at hcoherent ⊢
    have hof : session.Of { s.client with log := rest } := by
      cases session with
      | unstarted => exact absurd rfl hstarted
      | pipe outcome reported => exact h.session_of
      | sharedMemory timeouts sent => exact h.session_of
    exact
      { session_of := hof
        started := fun _ => hstarted
        messages := h.messages
        told := by
          rw [hlog] at htold
          rw [List.append_assoc, ← htold]
          rfl
        popping := fun _ => hann
        seen := fun hat => by
          rw [show s.pc = .popping timerStart from hpc] at hat
          cases hat
        thrown := h.thrown
        coherent := hcoherent
        before := h.before }

/-! ## One step -/

/-- The write of the session finishes. -/
theorem follows_finish (h : s.Follows session) {k w : Nat} {outcome : IoOutcome} {pipe : OutPipe}
    (hcode : outcome.errorCode ≠ errorIoPending) (hpipe : s.client.pipeClient = some pipe)
    (hk : pipe.inFlight[k]? = some w) (hrunning : running s.pc = true) :
    ∃ session', Follows
      { s with client := { s.client with pipeClient := some (pipe.finish k w outcome) } }
      session' := by
  have hcoherent : ({ s.client with pipeClient := some (pipe.finish k w outcome) } :
      Task6Client).Coherent :=
    ⟨h.coherent.dataReady, .inr (h.coherent.noSharedMemory hpipe), h.coherent.unsent⟩
  have hof := h.session_of
  cases session with
  | unstarted =>
    rcases running_cases hrunning with hbefore | hloop
    · rw [(Task6Client.hasStarted_eq_false.mp (h.before hbefore).1).1] at hpipe
      cases hpipe
    · exact absurd rfl (h.started hloop)
  | sharedMemory timeouts sent =>
    obtain ⟨hnone, -⟩ := hof
    rw [hpipe] at hnone
    cases hnone
  | pipe outcome' reported =>
    obtain ⟨⟨hPipe, hsome⟩, hreported, -⟩ := hof
    cases hpipe.symm.trans hsome
    obtain ⟨rfl, rfl, hfinish⟩ := OutPipe.finish_single hreported hk outcome
    have hcode' : ∀ o, some outcome = some o → o.errorCode ≠ errorIoPending := by
      rintro o ⟨⟩
      exact hcode
    refine ⟨.pipe (some outcome) false, ?_⟩
    exact
      { session_of := ⟨⟨hPipe, congrArg some hfinish⟩, fun hfalse => (by cases hfalse), hcode'⟩
        started := fun _ => by simp
        messages := h.messages
        told := h.told
        popping := h.popping
        seen := h.seen
        thrown := h.thrown
        coherent := hcoherent
        before := fun hbefore => absurd (h.before hbefore).2 (by simp) }

theorem follows_choose (h : s.Follows .unstarted) (hstarted : s.client.hasStarted = false)
    (hpc : s.pc = .choosing) (c : Option Char) : (s.readCommand c).choose.Follows .unstarted := by
  have hpop : atPop s.pc = false := by rw [hpc]; rfl
  unfold choose
  split
  · exact h.of_pc hpop rfl (fun hloop => by cases hloop) (fun _ => ⟨hstarted, rfl⟩)
      fun ex heq => by cases heq
  · split
    · exact h.of_pc hpop rfl (fun hloop => by cases hloop) (fun _ => ⟨hstarted, rfl⟩)
        fun ex heq => by cases heq
    · refine h.of_pc hpop rfl (fun hloop => by cases hloop) (fun hbefore => by cases hbefore) ?_
      rintro ex ⟨⟩
      exact .inr rfl

theorem follows_goOn (h : s.Follows session) (hstarted : session ≠ .unstarted)
    (hpc : s.pc = .prompting) (c : Option Char) : (s.readCommand c).goOn.Follows session := by
  have hpop : atPop s.pc = false := by rw [hpc]; rfl
  unfold goOn
  split
  · exact h.of_pc hpop rfl (fun _ => hstarted) (fun hbefore => by cases hbefore)
      fun ex heq => by cases heq
  · split
    · exact h.of_pc hpop rfl (fun _ => hstarted) (fun hbefore => by cases hbefore)
        fun ex heq => by cases heq
    · refine h.of_pc hpop rfl (fun hloop => by cases hloop) (fun hbefore => by cases hbefore) ?_
      rintro ex ⟨⟩
      exact .inr rfl

theorem follows_step (s : ClientConsole) (e : ClientConsoleEvent) (s' : ClientConsole)
    (h : ∃ session, s.Follows session) (hs : (machine build).step s e = some s') :
    ∃ session, s'.Follows session := by
  obtain ⟨session, h⟩ := h
  change step build s e = some s' at hs
  unfold step at hs
  split at hs
  · rename_i c hpc
    cases hs
    obtain ⟨hstarted, rfl⟩ := h.before (by rw [hpc]; rfl)
    exact ⟨_, follows_choose h hstarted hpc c⟩
  · rename_i os hpc
    cases hs
    obtain ⟨hstarted, rfl⟩ := h.before (by rw [hpc]; rfl)
    exact follows_startPipe h hstarted os
  · rename_i os hpc
    cases hs
    obtain ⟨hstarted, rfl⟩ := h.before (by rw [hpc]; rfl)
    exact follows_startSharedMemory h hstarted os
  · rename_i now hpc
    cases hs
    exact ⟨_, h.of_pc (by rw [hpc]; rfl) rfl (fun _ => h.started (by rw [hpc]; rfl))
      (fun hbefore => by cases hbefore) fun ex heq => by cases heq⟩
  · rename_i timerStart now hpc
    cases hs
    have hstarted := h.started (by rw [hpc]; rfl)
    have hpop : atPop s.pc = false := by rw [hpc]; rfl
    refine ⟨session, ?_⟩
    split
    · exact h.of_pc hpop rfl (fun _ => hstarted) (fun hbefore => by cases hbefore)
        fun ex heq => by cases heq
    · exact h.of_pc hpop rfl (fun _ => hstarted) (fun hbefore => by cases hbefore)
        fun ex heq => by cases heq
  · rename_i timerStart os hpc
    split at hs
    · rename_i hmay
      cases hs
      exact follows_wait h (by rw [hpc]; rfl) (h.started (by rw [hpc]; rfl)) os hmay
    · cases hs
  · rename_i timerStart hpc
    cases hs
    exact ⟨_, follows_popOne h hpc timerStart⟩
  · rename_i c hpc
    cases hs
    exact ⟨_, follows_goOn h (h.started (by rw [hpc]; rfl)) hpc c⟩
  · rename_i k outcome
    split at hs
    · cases hs
    · rename_i hcond
      obtain ⟨hrunning, hcode⟩ := not_or.mp hcond
      obtain ⟨pipe, hpipe, hw⟩ := Option.bind_eq_some_iff.mp hs
      obtain ⟨w, hk, rfl⟩ := Option.map_eq_some_iff.mp hw
      exact follows_finish h hcode hpipe hk (Bool.eq_true_of_not_eq_false hrunning)
  · cases hs

end ClientConsole

end Task6
