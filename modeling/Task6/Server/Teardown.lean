import Task6.Server.ShutdownWakes

/-!
# Destroying the pipe server

`stopAndWait` destroys the pipe server behind `WaitForMultipleObjects`, and only
an assertion looks at the answer. In a debug build no worker is left running; in
a release build this is up to the answer, and `teardown_iff` says which ones are
harmless.
-/

namespace Task6

/-- The logical processors of the machine; twice their number is an `int`. -/
structure Processors where
  count : Nat
  fits : workingThreads count < 2 ^ 31

namespace Shutdown

variable {n : Nat} {build : Build} {s s' : Shutdown n}

/-- The pipe server is there as long as a worker runs. -/
def Sheltered (s : Shutdown n) : Prop := s.pipeServer = false → s.allExited = true

/-- The answers of the wait that a release build may meet: not a timeout, and no
failure unless all the workers have exited anyway. -/
def HarmlessAnswer (build : Build) (s : Shutdown n) : ShutdownEvent n → Prop
  | .waitReturns dwResult => build = .release →
      dwResult ≠ Win32.waitTimeout ∧ (dwResult = Win32.waitFailed → s.allExited = true)
  | _ => True

theorem allExited_iff : s.allExited = true ↔ ∀ w, (s.workers w).hasExited = true :=
  decide_eq_true_iff

/-- A thread that has exited has no next line. -/
theorem allExited_worker {w : Fin n} {e : ShutdownEvent n} (hall : s.allExited = true)
    (hs : s.workerStep w e = some s') : False := by
  have hw := allExited_iff.mp hall w
  unfold Thread.hasExited at hw
  rcases workerStep_cases hs with ⟨packet, rest, hpc, -, -⟩ | ⟨pc, -, hmove⟩
  · rw [hpc] at hw
    cases hw
  · rcases hmove with ⟨hpc, -⟩ | ⟨status, hpc, -⟩ | ⟨key, hpc, -⟩
    · rw [hpc] at hw
      cases hw
    · rw [hpc] at hw
      cases hw
    · rw [hpc] at hw
      cases hw

/-- The workers leave the pipe server alone. -/
theorem worker_pipeServer {w : Fin n} {e : ShutdownEvent n} (hs : s.workerStep w e = some s') :
    s'.pipeServer = s.pipeServer := by
  rcases workerStep_cases hs with ⟨packet, rest, -, -, rfl⟩ | ⟨pc, rfl, -⟩
  · rfl
  · rfl

/-- What the answer says about the workers. -/
theorem waitAllAnswers_spec {allExited : Bool} {dwResult : Nat}
    (h : Win32.waitAllAnswers n allExited dwResult = true) :
    dwResult = Win32.waitFailed ∨
      (dwResult ≠ Win32.waitTimeout ∧ allExited = true) ∨
      dwResult = Win32.waitTimeout ∧ n ≤ dwResult ∧ allExited = false := by
  unfold Win32.waitAllAnswers at h
  rcases Bool.or_eq_true_iff.mp h with hfailed | hrest
  · exact .inl (beq_iff_eq.mp hfailed)
  · obtain ⟨hn, hrest⟩ := Bool.and_eq_true_iff.mp hrest
    have hn : n ≤ 64 := of_decide_eq_true hn
    rcases Bool.or_eq_true_iff.mp hrest with hobject | htimeout
    · obtain ⟨hlt, hall⟩ := Bool.and_eq_true_iff.mp hobject
      have hlt : dwResult < n := of_decide_eq_true hlt
      refine .inr (.inl ⟨fun ht => ?_, hall⟩)
      have ht : dwResult = 258 := ht
      omega
    · obtain ⟨hr, hnot⟩ := Bool.and_eq_true_iff.mp htimeout
      have hr : dwResult = 258 := beq_iff_eq.mp hr
      refine .inr (.inr ⟨hr, by omega, ?_⟩)
      simpa using hnot

theorem sheltered_wait {p : Processors} {s s' : Shutdown (workingThreads p.count)}
    {dwResult : Nat} (h : Sheltered s)
    (hs : s.stopStep build (.waitReturns dwResult) = some s') :
    (HarmlessAnswer build s (.waitReturns dwResult) → Sheltered s') ∧
      (¬ HarmlessAnswer build s (.waitReturns dwResult) → ¬ Sheltered s') := by
  have hsize := p.fits
  rcases stopStep_cases hs with ⟨he, -⟩ | ⟨k, he, -⟩ | ⟨-, r, hr, hanswer, hcase⟩
  · cases he
  · cases he
  · cases hr
    have hspec := waitAllAnswers_spec hanswer
    rcases hcase with ⟨ha, rfl⟩ | ⟨ha, rfl⟩
    · show (HarmlessAnswer build s (.waitReturns dwResult) → false = false → s.allExited = true) ∧
        (¬ HarmlessAnswer build s (.waitReturns dwResult) →
          ¬ (false = false → s.allExited = true))
      cases build with
      | debug =>
        -- the assertion has let the answer through: all have exited
        have hlt : dwResult < workingThreads p.count := of_decide_eq_true ha
        have hall : s.allExited = true := by
          rcases hspec with hf | ⟨-, hall⟩ | ⟨-, hn, -⟩
          · have hf : dwResult = 0xFFFFFFFF := hf
            omega
          · exact hall
          · omega
        exact ⟨fun _ _ => hall, fun hharm => absurd (fun hb => by cases hb) hharm⟩
      | release =>
        constructor
        · intro hok _
          obtain ⟨hnt, hfail⟩ := hok rfl
          rcases hspec with hf | ⟨-, hall⟩ | ⟨ht, -, -⟩
          · exact hfail hf
          · exact hall
          · exact absurd ht hnt
        · intro hharm hsafe
          have hall := hsafe rfl
          refine hharm fun _ => ⟨?_, fun _ => hall⟩
          rintro rfl
          rcases hspec with hf | ⟨hnt, -⟩ | ⟨-, -, hnot⟩
          · cases hf
          · exact hnt rfl
          · rw [hall] at hnot
            cases hnot
    · refine ⟨fun _ => h, fun hharm => absurd ?_ hharm⟩
      rintro rfl
      cases ha

theorem sheltered_step {p : Processors} {s s' : Shutdown (workingThreads p.count)}
    {e : ShutdownEvent (workingThreads p.count)} (h : Sheltered s)
    (hs : step build s e = some s') :
    (HarmlessAnswer build s e → Sheltered s') ∧
      (¬ HarmlessAnswer build s e → ¬ Sheltered s') := by
  have worker : ∀ w, s.workerStep w e = some s' → Sheltered s' := by
    intro w hw hgone
    rw [worker_pipeServer hw] at hgone
    exact (allExited_worker (h hgone) hw).elim
  unfold step at hs
  split at hs
  · cases hs
  · cases e with
    | arrive packet =>
      simp only at hs
      split at hs
      · cases hs
      · cases hs
        exact ⟨fun _ => h, fun hharm => absurd trivial hharm⟩
    | dequeue w | iocpFails w | check w | finish w =>
      exact ⟨fun _ => worker w hs, fun hharm => absurd trivial hharm⟩
    | stop | post =>
      refine ⟨fun _ => ?_, fun hharm => absurd trivial hharm⟩
      rcases stopStep_cases hs with ⟨-, -, rfl⟩ | ⟨k, -, -, rfl⟩ | ⟨-, r, hr, -⟩
      · exact h
      · exact h
      · cases hr
    | waitReturns dwResult => exact sheltered_wait h hs

/-- **The teardown, exactly**: for any number of processors, both builds, any
state of the workers and any answer, along any schedule the pipe server is gone
only when all workers have exited if and only if each answer is harmless. -/
theorem teardown_iff (build : Build) (p : Processors)
    (es : List (ShutdownEvent (workingThreads p.count))) :
    (machine build (workingThreads p.count)).Always Sheltered (init _) es ↔
      (machine build (workingThreads p.count)).EachStep (HarmlessAnswer build) (init _) es := by
  refine Machine.always_iff_eachStep (I := Sheltered) (fun _ h => h) ?_ ?_ ?_ es
  · intro s e s' h hs hok
    exact (sheltered_step h hs).1 hok
  · intro s e s' h hs hharm
    exact (sheltered_step h hs).2 hharm
  · intro hgone
    cases hgone

/-- One processor, so two workers; one of them is in the middle of a packet when
`TASK6_SHUTDOWN_TIMEOUT` is over. -/
def busyWorker : List (ShutdownEvent 2) :=
  [.arrive (.pipeServer true), .dequeue 0, .check 0, .stop, .post, .post,
    .waitReturns Win32.waitTimeout]

/-- A release build destroys the pipe server the worker is using. -/
theorem teardown_broken :
    ¬ (machine .release (workingThreads 1)).Always Sheltered (init _) busyWorker := by
  obtain ⟨s, hs, hgone, hleft⟩ : ∃ s, (machine .release (workingThreads 1)).exec (init _)
      busyWorker = some s ∧ s.pipeServer = false ∧ s.allExited = false :=
    ⟨_, rfl, by decide, by decide⟩
  refine Machine.not_always_of_exec hs fun hsafe => ?_
  have hall := hsafe hgone
  rw [hleft] at hall
  cases hall

end Shutdown

end Task6
