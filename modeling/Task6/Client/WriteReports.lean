import Task6.Client.OutPipeClient

/-!
# What `OutPipeClient::service` reports

`service` is to return true exactly once for each write, when it has finished,
and false at all other times. Its guards let every state through, and it takes an
unfinished write for a finished one (`GetOverlappedResult` says
`ERROR_IO_INCOMPLETE` of it, the source compares with `ERROR_IO_PENDING`): it
never returns false. `reportsWrites_iff` says which sequences of calls do not
notice.
-/

namespace Task6

open Win32

namespace OutPipe

/-- The write started last has finished and has not been reported. -/
def Unreported (p : OutPipe) (outcome : IoOutcome) : Prop :=
  p.client.state = PipeState.connectedWriting ∧ p.last = some outcome ∧ p.reported = false

/-- A call of `service` that ends is right: it returns the result of the write
that is to be reported, and when there is none it returns false and changes
nothing. -/
structure ServiceRight (build : Build) (p : OutPipe) (wait : Bool) : Prop where
  reports : ∀ out outcome, p.service build wait = some out → p.Unreported outcome →
    out.1 = .returned (some outcome.report)
  nothing : ∀ out, p.service build wait = some out → (∀ outcome, ¬ p.Unreported outcome) →
    out = (.returned none, p)

/-- The client is CONNECTED with FLAG_WRITING, the write started last has
finished, and its outcome is what the OVERLAPPED records. -/
def ReportDue (p : OutPipe) : Prop :=
  p.client.state = PipeState.connectedWriting ∧ ∃ outcome recorded, p.last = some outcome ∧
    p.client.writeOverlapped.recorded = some recorded ∧ recorded.report = outcome.report

/-! ## What holds whatever is called -/

/-- The invariant of a client: its bits encode a phase, a write in progress has
not been reported, its event is signalled once it has finished, and an OVERLAPPED
that records nothing is that of the write started last. -/
structure Coherent (p : OutPipe) : Prop where
  phase : ∃ ph, p.InPhase ph
  fresh : p.InPhase .writing → p.reported = false
  signalled : p.InPhase .writing → p.last.isSome = true →
    p.client.writeOverlapped.signalled = true
  pending : p.client.writeOverlapped.recorded = none → p.last = none
  recorded : ∀ outcome, p.client.writeOverlapped.recorded = some outcome →
    outcome.errorCode ≠ errorIoPending

theorem coherent_create : create.Coherent where
  phase := ⟨.unconnected, rfl⟩
  fresh := fun h => absurd h (InPhase.not_writing .unconnected rfl (by simp))
  signalled := fun h => absurd h (InPhase.not_writing .unconnected rfl (by simp))
  pending := fun h => by cases h
  recorded := fun outcome h => by
    cases h
    decide

variable {p : OutPipe}

/-- What leaves the OVERLAPPED and the writes alone and is not writing is
coherent. -/
theorem Coherent.of_idle {q : OutPipe} (h : p.Coherent) (ph : LinkPhase) (hph : q.InPhase ph)
    (hidle : ph ≠ .writing) (hlast : q.last = p.last)
    (hrec : q.client.writeOverlapped.recorded = p.client.writeOverlapped.recorded) :
    q.Coherent where
  phase := ⟨ph, hph⟩
  fresh := fun hw => absurd hw (hph.not_writing ph hidle)
  signalled := fun hw => absurd hw (hph.not_writing ph hidle)
  pending := fun hnone => hlast.trans (h.pending (hrec.symm.trans hnone))
  recorded := fun outcome hsome => h.recorded outcome (hrec.symm.trans hsome)

theorem coherent_openPipe (h : p.Coherent) (pipeName : String) (r : Except DWORD Nat) :
    (p.openPipe pipeName r).2.Coherent := by
  obtain ⟨ph, hph⟩ := h.phase
  rcases openPipe_cases hph pipeName r with ⟨-, hsame⟩ | ⟨-, -, hPipe, hconn⟩
  · rw [hsame]
    exact h
  · rw [hconn]
    exact h.of_idle .connected rfl (by simp) rfl rfl

theorem coherent_write (h : p.Coherent) (size : Nat) (r : CallResult) :
    (p.write size r).2.Coherent := by
  obtain ⟨ph, hph⟩ := h.phase
  rcases write_cases hph size r with ⟨-, hsame, -⟩ | ⟨-, -, hacc, hwrite⟩
  · rw [hsame]
    exact h
  · rw [hwrite]
    unfold writeFile
    split
    · -- finished at once
      exact { phase := ⟨.writing, rfl⟩
              fresh := fun _ => rfl
              signalled := fun _ _ => rfl
              pending := fun hnone => by cases hnone
              recorded := fun outcome hsome => by
                cases hsome
                show errorSuccess ≠ errorIoPending
                decide }
    · split
      · exact { phase := ⟨.writing, rfl⟩
                fresh := fun _ => rfl
                signalled := fun _ hlast => by cases hlast
                pending := fun _ => rfl
                recorded := fun outcome hsome => by cases hsome }
      · rename_i hb hp
        simp [accepts, hb, hp] at hacc

theorem coherent_serviced (h : p.Coherent) : p.serviced.Coherent := by
  obtain ⟨ph, hph⟩ := h.phase
  refine h.of_idle _ (serviced_phase hph) ?_ rfl rfl
  split
  · simp
  · assumption

theorem coherent_close (h : p.Coherent) : p.close.Coherent := by
  unfold close
  split
  · exact h
  · exact h.of_idle .unconnected rfl (by simp) rfl rfl

theorem coherent_finish (h : p.Coherent) (k w : Nat) {outcome : IoOutcome}
    (hcode : outcome.errorCode ≠ errorIoPending) : (p.finish k w outcome).Coherent where
  phase := h.phase
  fresh := h.fresh
  signalled := fun _ _ => rfl
  pending := fun hnone => by cases hnone
  recorded := fun o hsome => by
    cases hsome
    exact hcode

/-- A call of `service` on a coherent client, by what the OVERLAPPED records. -/
theorem service_recorded (h : p.Coherent) (build : Build) (wait : Bool) {recorded : IoOutcome}
    (hrec : p.client.writeOverlapped.recorded = some recorded) :
    p.service build wait = some
      (if build.asserts p.client.writeOverlapped.signalled then
        (.returned (some recorded.report), p.serviced) else (.died, p)) := by
  obtain ⟨ph, hph⟩ := h.phase
  rw [service_eq hph, Overlapped.getOverlappedResult, hrec]
  have hcode := h.recorded recorded hrec
  simp only [Option.map_some]
  rw [if_neg (fun hc => hcode hc.2)]
  cases build.asserts p.client.writeOverlapped.signalled with
  | false => rfl
  | true =>
    by_cases hs : recorded.errorCode = errorSuccess
    · simp [IoOutcome.report, hs]
    · simp [IoOutcome.report, hs]

/-- On an unfinished write `service` blocks, or takes `ERROR_IO_INCOMPLETE` for
the end of the write. -/
theorem service_pending (h : p.Coherent) (build : Build) (wait : Bool)
    (hrec : p.client.writeOverlapped.recorded = none) :
    p.service build wait =
      if wait then none
      else some (if build.asserts p.client.writeOverlapped.signalled then
        (.returned (some ⟨errorIoIncomplete, 0⟩), p.serviced) else (.died, p)) := by
  obtain ⟨ph, hph⟩ := h.phase
  rw [service_eq hph, Overlapped.getOverlappedResult, hrec]
  cases wait with
  | true => rfl
  | false =>
    simp only [Bool.false_eq_true, ↓reduceIte, Option.map_some]
    rw [if_neg (by decide)]
    cases build.asserts p.client.writeOverlapped.signalled with
    | false => rfl
    | true => rfl

/-- A call of `service` that ends leaves the client alone or takes the flag
away. -/
theorem service_pipe (h : p.Coherent) {build : Build} {wait : Bool}
    {out : Outcome (Option WriteReport) × OutPipe} (hs : p.service build wait = some out) :
    out.2 = p ∨ out.2 = p.serviced := by
  cases hrec : p.client.writeOverlapped.recorded with
  | none =>
    rw [service_pending h build wait hrec] at hs
    split at hs
    · cases hs
    · cases hs
      split
      · exact .inr rfl
      · exact .inl rfl
  | some recorded =>
    rw [service_recorded h build wait hrec] at hs
    cases hs
    split
    · exact .inr rfl
    · exact .inl rfl

/-- `service` never returns false. -/
theorem service_ne_false (h : p.Coherent) {build : Build} {wait : Bool}
    {out : Outcome (Option WriteReport) × OutPipe} (hs : p.service build wait = some out) :
    out.1 ≠ .returned none := by
  cases hrec : p.client.writeOverlapped.recorded with
  | none =>
    rw [service_pending h build wait hrec] at hs
    split at hs
    · cases hs
    · cases hs
      split <;> simp
  | some recorded =>
    rw [service_recorded h build wait hrec] at hs
    cases hs
    split <;> simp

/-- A `service` call that ends is right exactly when a report is due. -/
theorem serviceRight_iff (h : p.Coherent) {build : Build} {wait : Bool}
    {out : Outcome (Option WriteReport) × OutPipe} (hs : p.service build wait = some out) :
    p.ServiceRight build wait ↔ p.ReportDue := by
  constructor
  · intro hright
    -- false is never returned, so a write was to be reported
    obtain ⟨outcome, hwriting, hlast, hfresh⟩ : ∃ outcome, p.Unreported outcome := by
      by_contra hnone
      have hnothing := hright.nothing out hs (not_exists.mp hnone)
      rw [hnothing] at hs
      exact service_ne_false h hs rfl
    have hout := hright.reports out outcome hs ⟨hwriting, hlast, hfresh⟩
    refine ⟨hwriting, outcome, ?_⟩
    cases hrec : p.client.writeOverlapped.recorded with
    | none =>
      rw [h.pending hrec] at hlast
      cases hlast
    | some recorded =>
      refine ⟨recorded, hlast, rfl, ?_⟩
      rw [service_recorded h build wait hrec] at hs
      cases hs
      split at hout
      · exact Option.some.inj (Outcome.returned.inj hout)
      · cases hout
  · rintro ⟨hwriting, outcome, recorded, hlast, hrec, hreport⟩
    have hsig : p.client.writeOverlapped.signalled = true :=
      h.signalled hwriting (by rw [hlast]; rfl)
    have hunreported : p.Unreported outcome := ⟨hwriting, hlast, h.fresh hwriting⟩
    have hreturns := service_recorded h build wait hrec
    rw [hsig, Build.asserts_true, if_pos rfl, hreport] at hreturns
    constructor
    · rintro out' outcome' hs' ⟨-, hlast', -⟩
      cases hlast.symm.trans hlast'
      cases hreturns.symm.trans hs'
      rfl
    · intro out' _ hnone
      exact absurd hunreported (hnone outcome)

end OutPipe

/-! ## Whole runs -/

namespace OutPipeRun

variable {build : Build}

theorem afterService_pipe (s : OutPipeRun) (out : Outcome (Option WriteReport) × OutPipe) :
    (s.afterService out).pipe = out.2 := by
  unfold afterService
  split <;> rfl

theorem coherent_step (s : OutPipeRun) (c : OutPipeCall) (s' : OutPipeRun)
    (h : s.pipe.Coherent) (hs : step build s c = some s') : s'.pipe.Coherent := by
  cases steps_of_step hs with
  | openPipe pipeName r hnext =>
    subst hnext
    exact OutPipe.coherent_openPipe h pipeName r
  | write size r hnext =>
    subst hnext
    exact OutPipe.coherent_write h size r
  | close hnext =>
    subst hnext
    exact OutPipe.coherent_close h
  | finish k outcome w hcode _ hnext =>
    subst hnext
    exact OutPipe.coherent_finish h k w hcode
  | service wait out hout hnext =>
    subst hnext
    rw [afterService_pipe]
    rcases OutPipe.service_pipe h hout with hsame | hserviced
    · rw [hsame]
      exact h
    · rw [hserviced]
      exact OutPipe.coherent_serviced h

/-- If `c` is a call of `service`, it is right. -/
def ServiceRight (build : Build) (s : OutPipeRun) (c : OutPipeCall) : Prop :=
  ∀ wait, c = .service wait → s.pipe.ServiceRight build wait

/-- `service` is called only when a report is due. -/
def ReportDue (s : OutPipeRun) (c : OutPipeCall) : Prop :=
  ∀ wait, c = .service wait → s.pipe.ReportDue

/-- There are no more reports than writes. -/
def ReportsBounded (s : OutPipeRun) : Prop := s.reports ≤ s.pipe.started

/-- The invariant of the runs that call `service` when a report is due: the write
in progress is still to be counted. -/
structure Counted (s : OutPipeRun) : Prop where
  coherent : s.pipe.Coherent
  bounded : s.reports ≤ s.pipe.started
  owed : s.pipe.InPhase .writing → s.reports < s.pipe.started

theorem counted_init : init.Counted where
  coherent := OutPipe.coherent_create
  bounded := Nat.le_refl 0
  owed := fun h => absurd h (OutPipe.InPhase.not_writing .unconnected rfl (by simp))

theorem counted_step (s : OutPipeRun) (c : OutPipeCall) (s' : OutPipeRun) (h : s.Counted)
    (hs : step build s c = some s') (hdue : s.ReportDue c) : s'.Counted := by
  have hcoherent := coherent_step s c s' h.coherent hs
  obtain ⟨ph, hph⟩ := h.coherent.phase
  cases steps_of_step hs with
  | openPipe pipeName r hnext =>
    subst hnext
    rcases OutPipe.openPipe_cases hph pipeName r with ⟨-, hsame⟩ | ⟨-, -, hPipe, hconn⟩
    · refine ⟨hcoherent, ?_, ?_⟩ <;> dsimp only <;> rw [hsame]
      · exact h.bounded
      · exact h.owed
    · refine ⟨hcoherent, ?_, ?_⟩ <;> dsimp only <;> rw [hconn]
      · exact h.bounded
      · intro hw
        exact absurd hw (OutPipe.InPhase.not_writing .connected rfl (by simp))
  | write size r hnext =>
    subst hnext
    rcases OutPipe.write_cases hph size r with ⟨-, hsame, -⟩ | ⟨-, -, hacc, hwrite⟩
    · refine ⟨hcoherent, ?_, ?_⟩ <;> dsimp only <;> rw [hsame]
      · exact h.bounded
      · exact h.owed
    · -- one more write, still to be reported
      have hstarted : (s.pipe.write size r).2.started = s.pipe.started + 1 := by
        rw [hwrite]
        exact OutPipe.writeFile_started hacc
      refine ⟨hcoherent, ?_, fun _ => ?_⟩ <;> dsimp only <;> rw [hstarted]
      · exact Nat.le_succ_of_le h.bounded
      · exact Nat.lt_succ_of_le h.bounded
  | close hnext =>
    subst hnext
    refine ⟨hcoherent, ?_, ?_⟩ <;> dsimp only <;> unfold OutPipe.close <;> split
    · exact h.bounded
    · exact h.bounded
    · exact h.owed
    · intro hw
      exact absurd hw (OutPipe.InPhase.not_writing .unconnected rfl (by simp))
  | finish k outcome w _ _ hnext =>
    subst hnext
    exact ⟨hcoherent, h.bounded, h.owed⟩
  | service wait out hout hnext =>
    obtain ⟨hwriting, outcome, recorded, hlast, hrec, -⟩ := hdue wait rfl
    have hsig := h.coherent.signalled hwriting (by rw [hlast]; rfl)
    rw [OutPipe.service_recorded h.coherent build wait hrec, hsig, Build.asserts_true,
      if_pos rfl] at hout
    cases hout
    subst hnext
    have hflag := OutPipe.serviced_not_writing hph
    exact ⟨hcoherent, Nat.succ_le_of_lt (h.owed hwriting), fun hw => absurd hw hflag⟩

/-- **Reporting writes, exactly**: along any run of calls and completions, every
call of `service` that ends is right, and there are no more reports than writes,
if and only if `service` is only called when the client is CONNECTED with
FLAG_WRITING, the write started last has finished, and the OVERLAPPED holds its
outcome. -/
theorem reportsWrites_iff (build : Build) (cs : List OutPipeCall) :
    ((machine build).EachStep (ServiceRight build) init cs ∧
        (machine build).Always ReportsBounded init cs) ↔
      (machine build).EachStep ReportDue init cs := by
  have hsteps : (machine build).EachStep (ServiceRight build) init cs ↔
      (machine build).EachStep ReportDue init cs := by
    refine Machine.eachStep_congr (I := fun s => s.pipe.Coherent) coherent_step ?_
      OutPipe.coherent_create cs
    intro s c s' h hs
    refine forall_congr' fun wait => forall_congr' fun hc => ?_
    subst hc
    cases steps_of_step hs with
    | service wait out hout _ => exact OutPipe.serviceRight_iff h hout
  rw [hsteps]
  refine ⟨And.left, fun h => ⟨h, ?_⟩⟩
  exact Machine.always_of_eachStep (fun _ h => h.bounded) counted_step counted_init h

/-- `service(false)` is called while the only write is unfinished. -/
def serviceTooEarly : List OutPipeCall :=
  [.openPipe "\\\\.\\pipe\\task6_pipe_server" (.ok 1),
    .write 12 ⟨false, errorIoPending⟩, .service false]

/-- A release build reports the write as failed, a debug build dies. -/
theorem reportsWrites_broken :
    ¬ (machine .release).EachStep (ServiceRight .release) init serviceTooEarly ∧
      ¬ (machine .debug).EachStep (ServiceRight .debug) init serviceTooEarly := by
  constructor
  · intro h
    have hright := (((h _ rfl).2 _ rfl).2 _ rfl).1 false rfl
    have hfalse := hright.nothing _ rfl (by rintro outcome ⟨-, hlast, -⟩; cases hlast)
    cases hfalse
  · intro h
    have hright := (((h _ rfl).2 _ rfl).2 _ rfl).1 false rfl
    have hfalse := hright.nothing _ rfl (by rintro outcome ⟨-, hlast, -⟩; cases hlast)
    cases hfalse

end OutPipeRun

end Task6
