import Task6.Client.ConsoleSession

/-!
# The client's console at the end of its input

`command` is declared in front of the loop, and it keeps the answer to the first
question when nothing can be read: behind the end of the input the console of a pipe
client that has started goes on for ever, and a shared memory client's ends in an
exception at its first question, if not before (`console_endOfInput`).
-/

namespace Task6

open Win32

namespace ClientConsole

variable {build : Build} {s : ClientConsole} {session : Session}

/-- Nothing is read any more. -/
def AtEndOfInput : ClientConsoleEvent → Prop
  | .command c => c = none
  | _ => True

/-- It is the program that goes on, and not Windows with a write. -/
def ofRun : ClientConsoleEvent → Bool
  | .finish _ _ => false
  | .command _ | .startPipe _ | .startSharedMemory _ | .time _ | .wait _ | .popMessg => true

/-- What becomes of a console whose first question was answered with `c` and that
reads nothing more: it does not return, and at its last question it goes on as if
`c` had been the answer. That of a pipe client ends only with an error of Windows, and
only before its message was handed over; whoever runs has a next line. -/
structure Unanswered (build : Build) (c : Char) (s : ClientConsole) : Prop where
  goesOn : s.pc ≠ .returned
  asks : s.pc = .prompting → step build s (.command none) =
    some (if c = '1' then { s with pc := .startingTimer } else s.throwing unknownCommand)
  unknown : s.pc = .left unknownCommand → c ≠ '1'
  endless : c = '1' → running s.pc = true ∨
    s.sent = [] ∧ ∃ errorCode, s.pc = .left (.system errorCode)
  other : c ≠ '1' → c ≠ '2' → s.pc = .left unknownCommand
  line : running s.pc = true →
    ∃ e, AtEndOfInput e ∧ ofRun e = true ∧ (step build s e).isSome = true

/-- Where the console of a pipe client is: at the start, out of it again without a
message handed over, or in its loop. -/
def OfPipe (s : ClientConsole) : Prop :=
  s.sent = [] ∧ (s.pc = .startingPipe ∨ ∃ errorCode, s.pc = .left (.system errorCode)) ∨
    inLoop s.pc = true ∧ s.client.pipeClient.isSome = true

/-- The invariant behind the first answer. -/
structure Answered (c : Char) (s : ClientConsole) : Prop where
  follows : ∃ session, s.Follows session
  command : s.command = c
  chosen : s.pc ≠ .choosing
  offered : running s.pc = true → c = '1' ∨ c = '2'
  goesOn : s.pc ≠ .returned
  unknown : s.pc = .left unknownCommand → c ≠ '1'
  ofPipe : c = '1' → s.OfPipe
  other : c ≠ '1' → c ≠ '2' → s.pc = .left unknownCommand

/-- In the loop, and not behind it. -/
theorem running_of_inLoop {pc : ClientConsolePc} (hloop : inLoop pc = true) (hne : pc ≠ .returned) :
    running pc = true := by
  cases pc with
  | returned => exact absurd rfl hne
  | startingTimer | checkingTimer _ | waiting _ | popping _ | prompting => rfl
  | choosing | startingPipe | startingSharedMemory | left _ | died => cases hloop

/-- The program has a line wherever it runs, whether or not the write finishes. -/
theorem exists_line (build : Build) (h : running s.pc = true) :
    ∃ e, AtEndOfInput e ∧ ofRun e = true ∧ (step build s e).isSome = true := by
  cases hpc : s.pc with
  | choosing | prompting => exact ⟨.command none, rfl, rfl, by simp [step, hpc]⟩
  | startingPipe =>
    exact ⟨.startPipe ⟨.ok (), .ok 0, ⟨true, errorSuccess⟩⟩, trivial, rfl, by simp [step, hpc]⟩
  | startingSharedMemory =>
    exact ⟨.startSharedMemory ⟨⟨true, 0⟩, ⟨true, 0⟩, ⟨true, 0⟩⟩, trivial, rfl,
      by simp [step, hpc]⟩
  | startingTimer | checkingTimer _ => exact ⟨.time 0, trivial, rfl, by simp [step, hpc]⟩
  | waiting timerStart =>
    -- no wait has to be satisfied
    have hmay : ClientRun.mayAnswer s.client ⟨.timeout, ⟨.timeout, true, true, true⟩, []⟩ =
        true := by
      unfold ClientRun.mayAnswer
      cases s.client.pipeClient <;> rfl
    exact ⟨.wait ⟨.timeout, ⟨.timeout, true, true, true⟩, []⟩, trivial, rfl,
      by simp [step, hpc, hmay]⟩
  | popping timerStart => exact ⟨.popMessg, trivial, rfl, by simp [step, hpc]⟩
  | returned | left _ | died =>
    rw [hpc] at h
    cases h

theorem Answered.unanswered {c : Char} (h : s.Answered c) : s.Unanswered build c where
  goesOn := h.goesOn
  asks := fun hpc => by
    have hstep : step build s (.command none) = some s.goOn := by
      unfold step
      rw [hpc]
      rfl
    have hzero : ¬ s.command = '0' := by
      rw [h.command]
      rcases h.offered (by rw [hpc]; rfl) with rfl | rfl <;> decide
    rw [hstep, goOn, if_neg hzero, h.command]
  unknown := h.unknown
  endless := by
    intro hone
    rcases h.ofPipe hone with ⟨hnone, hpc | hleft⟩ | ⟨hloop, -⟩
    · exact .inl (by rw [hpc]; rfl)
    · exact .inr ⟨hnone, hleft⟩
    · exact .inl (running_of_inLoop hloop h.goesOn)
  other := h.other
  line := exists_line build

/-- A start of a pipe client hands its message over and returns, or throws. -/
theorem startPipe_outcome (build : Build) {c : Task6Client} (hdata : c.DataReady)
    (hstarted : c.hasStarted = false) (os : StartPipeAnswers) :
    (c.startPipe build os).outcome = .returned () ∧
        (c.startPipe build os).client.pipeClient.isSome = true ∨
      ∃ errorCode, (c.startPipe build os).outcome = .threw (.system errorCode) ∧
        (c.startPipe build os).sent = [] := by
  obtain ⟨buff, -, heq⟩ := Task6Client.startPipe_spec build os hdata hstarted
  rw [heq]
  split
  · exact .inr ⟨_, rfl, rfl⟩
  · exact .inr ⟨_, rfl, rfl⟩
  · split
    · exact .inl ⟨rfl, rfl⟩
    · exact .inr ⟨_, rfl, rfl⟩

theorem startSharedMemory_threw {c : Task6Client} (hstarted : c.hasStarted = false)
    {os : OpenAnswers} {ex : Exn} (h : (c.startSharedMemory os).outcome = .threw ex) :
    ∃ errorCode, ex = .system errorCode := by
  rw [Task6Client.startSharedMemory_spec os hstarted] at h
  split at h
  · rename_i hcreate
    cases h
    exact OutSharedMemoryClient.create_error hcreate
  · cases h

theorem wait_threw {c : Task6Client} (hcoherent : c.Coherent) (hof : session.Of c)
    (hstarted : session ≠ .unstarted) {os : WaitCallAnswers}
    (hmay : ClientRun.mayAnswer c os = true) {ex : Exn}
    (h : (c.wait build os).outcome = .threw ex) : ∃ errorCode, ex = .system errorCode := by
  obtain ⟨session', heffect⟩ : ∃ session', WaitEffect c session (c.wait build os) session' :=
    wait_effect hcoherent hof hstarted os hmay
  generalize c.wait build os = r at h heffect
  cases heffect with
  | nothing => cases h
  | ended hlog hof' hout hthrown => exact hthrown ex h
  | timedOut => cases h
  | announced => cases h

/-- The `wait` of a pipe client returns: its event is signalled only when the write
can be reported. -/
theorem wait_ofPipe (build : Build) {c : Task6Client} (hcoherent : c.Coherent) (hof : session.Of c)
    (hstarted : session ≠ .unstarted) (hpipe : c.pipeClient.isSome = true)
    {os : WaitCallAnswers} (hmay : ClientRun.mayAnswer c os = true) :
    (∃ b, (c.wait build os).outcome = .returned b) ∧
      (c.wait build os).client.pipeClient.isSome = true := by
  obtain ⟨session', heffect⟩ : ∃ session', WaitEffect c session (c.wait build os) session' :=
    wait_effect hcoherent hof hstarted os hmay
  cases session with
  | unstarted => exact absurd rfl hstarted
  | sharedMemory timeouts sent =>
    rw [hof.1] at hpipe
    cases hpipe
  | pipe outcome reported =>
    obtain ⟨⟨hPipe, hsome⟩, -, hcode⟩ := hof
    rw [Task6Client.wait_pipe build os hsome]
    by_cases hevent : os.event = .object0
    · have hsig : (OutPipe.single hPipe outcome reported).client.writeOverlapped.signalled =
          true := by
        unfold ClientRun.mayAnswer at hmay
        rw [hsome] at hmay
        simpa [hevent] using hmay
      obtain ⟨⟨o, rfl⟩, rfl⟩ := OutPipe.signalled_single.mp hsig
      rw [if_pos hevent, Task6Client.waitPipe, OutPipe.service_single build (hcode o rfl)]
      exact ⟨⟨true, rfl⟩, rfl⟩
    · rw [if_neg hevent]
      exact ⟨⟨false, rfl⟩, hpipe⟩

/-- A step to a line of the loop, or out of it by an error of Windows. -/
theorem Answered.of_pc {c : Char} {s' : ClientConsole} (h : s.Answered c)
    (hrunning : running s.pc = true) (hfollows : ∃ session, s'.Follows session)
    (hcommand : s'.command = s.command)
    (hpc : inLoop s'.pc = true ∧ s'.pc ≠ .returned ∨
      (∃ errorCode, s'.pc = .left (.system errorCode)) ∨ s'.pc = .died)
    (hpipe : c = '1' → s'.OfPipe) : s'.Answered c where
  follows := hfollows
  command := hcommand.trans h.command
  chosen := by
    rcases hpc with ⟨hloop, -⟩ | ⟨errorCode, hleft⟩ | hdied
    · intro hchoosing
      rw [hchoosing] at hloop
      cases hloop
    · simp [hleft]
    · simp [hdied]
  offered := fun _ => h.offered hrunning
  goesOn := by
    rcases hpc with ⟨-, hne⟩ | ⟨errorCode, hleft⟩ | hdied
    · exact hne
    · simp [hleft]
    · simp [hdied]
  unknown := by
    rcases hpc with ⟨hloop, -⟩ | ⟨errorCode, hleft⟩ | hdied
    · intro hunknown
      rw [hunknown] at hloop
      cases hloop
    · simp [hleft, unknownCommand]
    · simp [hdied]
  ofPipe := hpipe
  other := fun hone htwo => absurd (h.offered hrunning) (not_or.mpr ⟨hone, htwo⟩)

/-- In the loop a console of a pipe client has its client. -/
theorem Answered.pipeClient {c : Char} (h : s.Answered c) (hloop : inLoop s.pc = true)
    (hone : c = '1') : s.client.pipeClient.isSome = true := by
  rcases h.ofPipe hone with ⟨-, hpc | ⟨errorCode, hpc⟩⟩ | ⟨-, hpipe⟩
  · rw [hpc] at hloop
    cases hloop
  · rw [hpc] at hloop
    cases hloop
  · exact hpipe

theorem Answered.startPipe {c : Char} (h : s.Answered c) (hpc : s.pc = .startingPipe)
    (os : StartPipeAnswers)
    (hfollows : ∃ session, (s.afterStart (s.client.startPipe build os)).Follows session) :
    (s.afterStart (s.client.startPipe build os)).Answered c := by
  obtain ⟨session, hsession⟩ := h.follows
  obtain ⟨hstarted, rfl⟩ := hsession.before (by rw [hpc]; rfl)
  have hrunning : running s.pc = true := by rw [hpc]; rfl
  have hnone : s.sent = [] := hsession.messages
  have hcommand : (s.afterStart (s.client.startPipe build os)).command = s.command := by
    unfold afterStart
    split <;> rfl
  rcases startPipe_outcome build hsession.coherent.dataReady hstarted os with
    ⟨hret, hpipe⟩ | ⟨errorCode, hthrew, hsent⟩
  · have hstep : (s.afterStart (s.client.startPipe build os)).pc = .startingTimer := by
      simp only [afterStart, hret]
    refine h.of_pc hrunning hfollows hcommand (.inl ?_) fun _ => .inr ⟨?_, ?_⟩
    · rw [hstep]
      exact ⟨rfl, by simp⟩
    · rw [hstep]
      rfl
    · simp only [afterStart, hret]
      exact hpipe
  · have hstep : (s.afterStart (s.client.startPipe build os)).pc = .left (.system errorCode) := by
      simp only [afterStart, hthrew, throwing]
    refine h.of_pc hrunning hfollows hcommand (.inr (.inl ⟨_, hstep⟩))
      fun _ => .inl ⟨?_, .inr ⟨_, hstep⟩⟩
    simp only [afterStart, hthrew, throwing, hsent, hnone, List.append_nil]

theorem Answered.startSharedMemory {c : Char} (h : s.Answered c)
    (hpc : s.pc = .startingSharedMemory) (os : OpenAnswers)
    (hfollows : ∃ session, (s.afterStart (s.client.startSharedMemory os)).Follows session) :
    (s.afterStart (s.client.startSharedMemory os)).Answered c := by
  obtain ⟨session, hsession⟩ := h.follows
  have hbefore := hsession.before (by rw [hpc]; rfl)
  refine h.of_pc (by rw [hpc]; rfl) hfollows ?_ ?_ fun hone => ?_
  · unfold afterStart
    split <;> rfl
  · unfold afterStart
    split
    · exact .inl ⟨rfl, by simp⟩
    · rename_i ex hthrew
      obtain ⟨errorCode, rfl⟩ := startSharedMemory_threw hbefore.1 hthrew
      exact .inr (.inl ⟨errorCode, rfl⟩)
    · exact .inr (.inr rfl)
  · -- the answer was not that of a pipe client
    rcases h.ofPipe hone with ⟨-, hline | ⟨errorCode, hline⟩⟩ | ⟨hloop, -⟩
    · rw [hpc] at hline
      cases hline
    · rw [hpc] at hline
      cases hline
    · rw [hpc] at hloop
      cases hloop

theorem Answered.wait {c : Char} (h : s.Answered c) {timerStart : Int}
    (hpc : s.pc = .waiting timerStart) {os : WaitCallAnswers}
    (hmay : ClientRun.mayAnswer s.client os = true)
    (hfollows : ∃ session, (s.afterWait timerStart (s.client.wait build os)).Follows session) :
    (s.afterWait timerStart (s.client.wait build os)).Answered c := by
  obtain ⟨session, hsession⟩ := h.follows
  have hloop : inLoop s.pc = true := by rw [hpc]; rfl
  have hstarted := hsession.started hloop
  refine h.of_pc (by rw [hpc]; rfl) hfollows ?_ ?_ fun hone => ?_
  · unfold afterWait
    split <;> rfl
  · unfold afterWait
    split
    · refine .inl ?_
      dsimp only
      split
      · exact ⟨rfl, by simp⟩
      · exact ⟨rfl, by simp⟩
    · rename_i ex hthrew
      obtain ⟨errorCode, rfl⟩ :=
        wait_threw hsession.coherent hsession.session_of hstarted hmay hthrew
      exact .inr (.inl ⟨errorCode, rfl⟩)
    · exact .inr (.inr rfl)
  · obtain ⟨⟨b, hret⟩, hpipe⟩ := wait_ofPipe build hsession.coherent
      hsession.session_of hstarted (h.pipeClient hloop hone) hmay
    refine .inr ⟨?_, ?_⟩
    · simp only [afterWait, hret]
      cases b <;> rfl
    · simp only [afterWait, hret]
      exact hpipe

/-- The last question: `command` holds what it held. -/
theorem Answered.goOn {c : Char} (h : s.Answered c) (hpc : s.pc = .prompting)
    (hfollows : ∃ session, s.goOn.Follows session) : s.goOn.Answered c := by
  have hrunning : running s.pc = true := by rw [hpc]; rfl
  have hzero : ¬ s.command = '0' := by
    rw [h.command]
    rcases h.offered hrunning with rfl | rfl <;> decide
  unfold ClientConsole.goOn at hfollows ⊢
  rw [if_neg hzero, h.command] at hfollows ⊢
  by_cases hone : c = '1'
  · rw [if_pos hone] at hfollows ⊢
    refine h.of_pc hrunning hfollows h.command.symm (.inl ⟨rfl, by simp⟩)
      fun _ => .inr ⟨rfl, ?_⟩
    exact h.pipeClient (by rw [hpc]; rfl) hone
  · rw [if_neg hone] at hfollows ⊢
    exact
      { follows := hfollows
        command := h.command
        chosen := by simp [throwing]
        offered := fun hrunning => by cases hrunning
        goesOn := by simp [throwing]
        unknown := fun _ => hone
        ofPipe := fun h => absurd h hone
        other := fun _ _ => rfl }

theorem answered_step {c : Char} (s : ClientConsole) (e : ClientConsoleEvent) (s' : ClientConsole)
    (h : s.Answered c) (hs : (machine build).step s e = some s') (he : AtEndOfInput e) :
    s'.Answered c := by
  have hfollows := follows_step s e s' h.follows hs
  change step build s e = some s' at hs
  unfold step at hs
  split at hs
  · rename_i hpc
    exact absurd hpc h.chosen
  · rename_i os hpc
    cases hs
    exact h.startPipe hpc os hfollows
  · rename_i os hpc
    cases hs
    exact h.startSharedMemory hpc os hfollows
  · rename_i now hpc
    cases hs
    exact h.of_pc (by rw [hpc]; rfl) hfollows rfl (.inl ⟨rfl, by simp⟩)
      fun hone => .inr ⟨rfl, h.pipeClient (by rw [hpc]; rfl) hone⟩
  · rename_i timerStart now hpc
    cases hs
    refine h.of_pc (by rw [hpc]; rfl) hfollows rfl (.inl ?_) fun hone => .inr ⟨?_, ?_⟩
    · dsimp only
      split
      · exact ⟨rfl, by simp⟩
      · exact ⟨rfl, by simp⟩
    · dsimp only
      split <;> rfl
    · exact h.pipeClient (by rw [hpc]; rfl) hone
  · rename_i timerStart os hpc
    split at hs
    · rename_i hmay
      cases hs
      exact h.wait hpc hmay hfollows
    · cases hs
  · rename_i timerStart hpc
    cases hs
    refine h.of_pc (by rw [hpc]; rfl) hfollows ?_ (.inl ?_) fun hone => .inr ⟨?_, ?_⟩
    · unfold popOne
      split <;> rfl
    · unfold popOne
      split
      · simp [hpc, inLoop]
      · exact ⟨rfl, by simp⟩
    · unfold popOne
      split
      · rw [hpc]
        rfl
      · rfl
    · have hpipe := h.pipeClient (by rw [hpc]; rfl) hone
      unfold popOne Task6Client.popMessg
      cases s.client.log <;> exact hpipe
  · rename_i hpc
    cases hs
    cases he
    exact h.goOn hpc hfollows
  · rename_i k outcome
    split at hs
    · cases hs
    · obtain ⟨pipe, -, hw⟩ := Option.bind_eq_some_iff.mp hs
      obtain ⟨w, -, rfl⟩ := Option.map_eq_some_iff.mp hw
      refine ⟨hfollows, h.command, h.chosen, h.offered, h.goesOn, h.unknown, fun hone => ?_,
        h.other⟩
      rcases h.ofPipe hone with hbefore | ⟨hloop, -⟩
      · exact .inl hbefore
      · exact .inr ⟨hloop, rfl⟩
  · cases hs

/-- **The end of the input**: in every run that reads one character and then
nothing, whatever else happens, `run` does not return. If the character was `1` its
last question is answered with it again each time, and once the pipe client was
handed its message nothing ends it: it has a next line wherever it is. If it was `2`
the first of these questions ends it with an unknown command, and any other character
has done so at once. -/
theorem console_endOfInput (build : Build) (c : Char) (es : List ClientConsoleEvent)
    (hes : ∀ e ∈ es, AtEndOfInput e) (s : ClientConsole)
    (hs : step build init (.command (some c)) = some s) :
    (machine build).Always (Unanswered build c) s es := by
  have hanswered : s.Answered c := by
    have hstep : (machine build).step init (.command (some c)) = some s := hs
    have hfollows := follows_step init (.command (some c)) s ⟨_, follows_init⟩ hstep
    clear hstep
    cases hs
    have hread : (init.readCommand (some c)).command = c := rfl
    unfold choose at hfollows ⊢
    rw [hread] at hfollows ⊢
    by_cases hone : c = '1'
    · rw [if_pos hone] at hfollows ⊢
      exact ⟨hfollows, rfl, by simp, fun _ => .inl hone, by simp, by simp,
        fun _ => .inl ⟨rfl, .inl rfl⟩, fun h => absurd hone h⟩
    · rw [if_neg hone] at hfollows ⊢
      by_cases htwo : c = '2'
      · rw [if_pos htwo] at hfollows ⊢
        exact ⟨hfollows, rfl, by simp, fun _ => .inr htwo, by simp, by simp,
          fun h => absurd h hone, fun _ h => absurd htwo h⟩
      · rw [if_neg htwo] at hfollows ⊢
        exact ⟨hfollows, rfl, by simp [throwing], fun hrunning => (by cases hrunning),
          by simp [throwing], fun _ => hone, fun h => absurd h hone, fun _ _ => rfl⟩
  exact Machine.always_of_eachStep (fun _ h => h.unanswered) answered_step hanswered
    (Machine.eachStep_of_forall_mem hes)

/-- A pipe client whose write stays pending; the input ends behind the choice. -/
def pendingWrite : List ClientConsoleEvent :=
  [.startPipe ⟨.ok (), .ok 1, ⟨false, errorIoPending⟩⟩, .time 0, .time 0,
    .wait ⟨.timeout, ⟨.timeout, true, true, true⟩, []⟩, .command none]

theorem console_endOfInput_pendingWrite :
    ((machine .release).exec ⟨.startingPipe, '1', Task6Client.create, [], []⟩ pendingWrite).map
        (fun s => (s.pc, s.sent)) = some (.startingTimer, [helloWorld]) ∧
      (machine .release).Always (Unanswered .release '1')
        ⟨.startingPipe, '1', Task6Client.create, [], []⟩ pendingWrite :=
  ⟨rfl, console_endOfInput .release '1' pendingWrite (by simp [pendingWrite, AtEndOfInput]) _ rfl⟩

end ClientConsole

end Task6
