import Task6.Client.WriteReports

/-!
# The connection that `OutPipeClient` describes

The fields `state`, `hPipe` and `serverName` are to describe one connection: the
one that the last successful `open` made, until `close`. The history variable is
that connection. Nothing but `close` ever assigns `serverName`, so `getServerName`
returns an empty name; the rest is right in every run.

- `handleRight_always`: state and handle are those of the connection.
- `describesConnection_iff`: with the name, that is so exactly when no `open` of
  the run succeeds.
-/

namespace Task6

open Win32

/-- A connection: its handle, and the name given to `open`. -/
structure PipeLink where
  hPipe : Nat
  pipeName : String
  deriving DecidableEq, Repr

theorem PipeState.connected_ne : PipeState.connected ≠ PipeState.unconnected := by decide

namespace OutPipe

def getServerName (p : OutPipe) : Except Exn String :=
  if p.client.state = PipeState.unconnected then
    .error (.logicError "Cannot get the server name. The client is unconnected.")
  else .ok p.client.serverName

/-- `state` and `hPipe` are those of the connection; without one there is no name
either. -/
structure HandleRight (p : OutPipe) (link : Option PipeLink) : Prop where
  phase : ∃ ph, p.InPhase ph
  unconnected : p.client.state = PipeState.unconnected →
    p.client.hPipe = none ∧ p.client.serverName = ""
  connected : p.client.state ≠ PipeState.unconnected →
    ∃ l, link = some l ∧ p.client.hPipe = some l.hPipe

/-- All the fields describe the connection. -/
structure DescribesConnection (p : OutPipe) (link : Option PipeLink) : Prop where
  state : p.client.state = PipeState.unconnected ∨ p.client.state = PipeState.connected ∨
    p.client.state = PipeState.connectedWriting
  unconnected : p.client.state = PipeState.unconnected →
    p.client.hPipe = none ∧ p.client.serverName = ""
  connected : p.client.state ≠ PipeState.unconnected →
    ∃ l, link = some l ∧ p.client.hPipe = some l.hPipe ∧ p.getServerName = .ok l.pipeName

/-- The fields of two clients describe the same connection in the same state. -/
structure SameFields (p q : OutPipe) : Prop where
  state : q.client.state = p.client.state
  hPipe : q.client.hPipe = p.client.hPipe
  serverName : q.client.serverName = p.client.serverName

variable {p q : OutPipe} {link : Option PipeLink}

theorem SameFields.refl (p : OutPipe) : SameFields p p := ⟨rfl, rfl, rfl⟩

theorem HandleRight.of_same (h : p.HandleRight link) (hsame : SameFields p q) :
    q.HandleRight link where
  phase := by
    obtain ⟨ph, hph⟩ := h.phase
    exact ⟨ph, hsame.state.trans hph⟩
  unconnected := by
    rw [hsame.state, hsame.hPipe, hsame.serverName]
    exact h.unconnected
  connected := by
    rw [hsame.state, hsame.hPipe]
    exact h.connected

/-- What only goes between CONNECTED and CONNECTED with FLAG_WRITING. -/
theorem HandleRight.of_flag (h : p.HandleRight link) {ph : LinkPhase} (hph : q.InPhase ph)
    (hopen : p.client.state ≠ PipeState.unconnected) (hidle : ph ≠ .unconnected)
    (hhandle : q.client.hPipe = p.client.hPipe) : q.HandleRight link where
  phase := ⟨ph, hph⟩
  unconnected := fun hun => absurd ((hph.state_eq_iff .unconnected).mp hun) hidle
  connected := fun _ => by
    rw [hhandle]
    exact h.connected hopen

/-- An `open` that returns has a handle of a pipe for a client that had none. -/
theorem openPipe_returned {pipeName : String} {r : Except DWORD Nat}
    (h : (p.openPipe pipeName r).1 = .ok ()) :
    ∃ hPipe, r = .ok hPipe ∧
      pipeName.toList.take pipePrefix.toList.length = pipePrefix.toList ∧
      p.client.state = PipeState.unconnected ∧
      (p.openPipe pipeName r).2 = { p with
        client := { p.client with hPipe := some hPipe, state := PipeState.connected } } := by
  unfold openPipe at h ⊢
  split
  · simp_all
  · rename_i hname
    split
    · simp_all
    · rename_i hstate
      cases r with
      | error lastError => simp_all
      | ok hPipe => exact ⟨hPipe, rfl, not_not.mp hname, not_not.mp hstate, rfl⟩

/-- With a handle of a pipe an unconnected client is connected. -/
theorem openPipe_ok {pipeName : String}
    (hname : pipeName.toList.take pipePrefix.toList.length = pipePrefix.toList)
    (hstate : p.client.state = PipeState.unconnected) (hPipe : Nat) :
    p.openPipe pipeName (.ok hPipe) = (.ok (), { p with
      client := { p.client with hPipe := some hPipe, state := PipeState.connected } }) := by
  rw [openPipe, if_neg (not_not.mpr hname), if_neg (not_not.mpr hstate)]

theorem openPipe_threw {pipeName : String} {r : Except DWORD Nat} {ex : Exn}
    (h : (p.openPipe pipeName r).1 = .error ex) : (p.openPipe pipeName r).2 = p := by
  unfold openPipe at h ⊢
  split
  · rfl
  · split
    · rfl
    · cases r with
      | error lastError => rfl
      | ok hPipe => simp_all

theorem write_threw {size : Nat} {r : CallResult} {ex : Exn}
    (h : (p.write size r).1 = .error ex) : (p.write size r).2 = p := by
  unfold write at h ⊢
  split
  · rfl
  · split
    · rename_i hrefused
      simp only [Bool.and_eq_true, Bool.not_eq_true', bne_iff_ne, ne_eq] at hrefused
      simp [writeFile, hrefused.1, hrefused.2]
    · simp_all

theorem service_ne_threw {build : Build} {wait : Bool} {ex : Exn} :
    p.service build wait ≠ some (.threw ex, q) := by
  intro h
  unfold service at h
  dsimp only at h
  split at h
  · cases h
  · obtain ⟨r, -, hr⟩ := Option.map_eq_some_iff.mp h
    split at hr
    · cases hr
    · split at hr
      · cases hr
      · split at hr <;> cases hr

theorem getServerName_open (h : p.client.state ≠ PipeState.unconnected) :
    p.getServerName = .ok p.client.serverName := if_neg h

end OutPipe

/-! ## Whole runs -/

namespace OutPipeRun

variable {build : Build}

/-- A successful `open` makes the connection, `close` ends it. -/
def link (s : OutPipeRun) (c : OutPipeCall) (l : Option PipeLink) : Option PipeLink :=
  match c with
  | .openPipe pipeName r =>
    match (s.pipe.openPipe pipeName r).1, r with
    | .ok (), .ok hPipe => some ⟨hPipe, pipeName⟩
    | _, _ => l
  | .close => none
  | .write _ _ | .service _ | .finish _ _ => l

/-- A client in use, with the connection it has. -/
def linked (build : Build) : Machine (OutPipeRun × Option PipeLink) OutPipeCall :=
  (machine build).observed none link

/-- The call throws. -/
def Throws (build : Build) (s : OutPipeRun) : OutPipeCall → Prop
  | .openPipe pipeName r => ∃ ex, (s.pipe.openPipe pipeName r).1 = .error ex
  | .write size r => ∃ ex, (s.pipe.write size r).1 = .error ex
  | .service wait => ∃ ex p, s.pipe.service build wait = some (.threw ex, p)
  | .close | .finish _ _ => False

def HandleRight (s : OutPipeRun × Option PipeLink) : Prop := s.1.pipe.HandleRight s.2

def DescribesConnection (s : OutPipeRun × Option PipeLink) : Prop :=
  s.1.pipe.DescribesConnection s.2

/-- If `c` throws, it leaves the fields as they are. -/
def ThrowKeeps (build : Build) (s : OutPipeRun × Option PipeLink) (c : OutPipeCall) : Prop :=
  Throws build s.1 c → ∀ s', (linked build).step s c = some s' →
    OutPipe.SameFields s.1.pipe s'.1.pipe

/-- If `c` is an `open` of a pipe, `CreateFileA` fails. -/
def OpenFails (c : OutPipeCall) : Prop :=
  ∀ pipeName r, c = .openPipe pipeName r →
    pipeName.toList.take OutPipe.pipePrefix.toList.length = OutPipe.pipePrefix.toList →
      ∃ lastError, r = .error lastError

/-- The invariant of all runs. -/
structure Tracked (s : OutPipeRun × Option PipeLink) : Prop where
  coherent : s.1.pipe.Coherent
  handle : HandleRight s

theorem tracked_init : Tracked (init, none) where
  coherent := OutPipe.coherent_create
  handle := ⟨⟨.unconnected, rfl⟩, fun _ => ⟨rfl, rfl⟩, fun h => absurd rfl h⟩

variable {s s' : OutPipeRun × Option PipeLink} {c : OutPipeCall}

theorem link_threw {pipeName : String} {r : Except DWORD Nat} {ex : Exn}
    (h : (s.1.pipe.openPipe pipeName r).1 = .error ex) :
    link s.1 (.openPipe pipeName r) s.2 = s.2 := by
  simp only [link, h]

theorem link_returned {pipeName : String} {hPipe : Nat}
    (h : (s.1.pipe.openPipe pipeName (.ok hPipe)).1 = .ok ()) :
    link s.1 (.openPipe pipeName (.ok hPipe)) s.2 = some ⟨hPipe, pipeName⟩ := by
  simp only [link, h]

theorem handleRight_openPipe (h : HandleRight s) (pipeName : String) (r : Except DWORD Nat) :
    (s.1.pipe.openPipe pipeName r).2.HandleRight (link s.1 (.openPipe pipeName r) s.2) := by
  cases hopen : (s.1.pipe.openPipe pipeName r).1 with
  | error ex =>
    rw [OutPipe.openPipe_threw hopen, link_threw hopen]
    exact h
  | ok _ =>
    obtain ⟨hPipe, rfl, -, -, hconn⟩ := OutPipe.openPipe_returned hopen
    rw [hconn, link_returned hopen]
    exact ⟨⟨.connected, rfl⟩, fun hun => absurd hun PipeState.connected_ne,
      fun _ => ⟨_, rfl, rfl⟩⟩

theorem handleRight_write (h : HandleRight s) (size : Nat) (r : CallResult) :
    (s.1.pipe.write size r).2.HandleRight s.2 := by
  obtain ⟨ph, hph⟩ := h.phase
  rcases OutPipe.write_cases hph size r with ⟨-, hsame, -⟩ | ⟨-, hconn, -, hwrite⟩
  · rw [hsame]
    exact h
  · have hwriting : ((s.1.pipe.writeFile size r).setState PipeState.connectedWriting).InPhase
        .writing := rfl
    rw [hwrite]
    refine h.of_flag hwriting ?_ (by simp) ?_
    · intro hun
      rw [(hph.state_eq_iff .unconnected).mp hun] at hconn
      cases hconn
    · show (s.1.pipe.writeFile size r).client.hPipe = s.1.pipe.client.hPipe
      unfold OutPipe.writeFile
      split
      · rfl
      · split <;> rfl

theorem handleRight_serviced (h : HandleRight s) : s.1.pipe.serviced.HandleRight s.2 := by
  obtain ⟨ph, hph⟩ := h.phase
  have hserviced := OutPipe.serviced_phase hph
  cases ph with
  | unconnected => exact h.of_same ⟨hserviced.trans hph.symm, rfl, rfl⟩
  | connected | writing =>
    refine h.of_flag hserviced (fun hun => ?_) (by simp) rfl
    have hcontra := (hph.state_eq_iff .unconnected).mp hun
    cases hcontra

theorem handleRight_close (h : HandleRight s) (l : Option PipeLink) :
    s.1.pipe.close.HandleRight l := by
  unfold OutPipe.close
  split
  · rename_i hun
    exact ⟨h.phase, h.unconnected, fun hne => absurd hun hne⟩
  · exact ⟨⟨.unconnected, rfl⟩, fun _ => ⟨rfl, rfl⟩, fun hne => absurd rfl hne⟩

/-- State and handle stay those of the connection. -/
theorem tracked_step (s : OutPipeRun × Option PipeLink) (c : OutPipeCall)
    (s' : OutPipeRun × Option PipeLink) (h : Tracked s)
    (hs : (linked build).step s c = some s') : Tracked s' := by
  obtain ⟨t', l'⟩ := s'
  obtain ⟨ht, rfl⟩ := Machine.observed_step.mp hs
  refine ⟨coherent_step s.1 c t' h.coherent ht, ?_⟩
  cases steps_of_step ht with
  | openPipe pipeName r hnext =>
    subst hnext
    exact handleRight_openPipe h.handle pipeName r
  | write size r hnext =>
    subst hnext
    exact handleRight_write h.handle size r
  | close hnext =>
    subst hnext
    exact handleRight_close h.handle _
  | finish k outcome w _ _ hnext =>
    subst hnext
    exact h.handle.of_same ⟨rfl, rfl, rfl⟩
  | service wait out hout hnext =>
    subst hnext
    rw [HandleRight, afterService_pipe]
    rcases OutPipe.service_pipe h.coherent hout with hsame | hserviced
    · rw [hsame]
      exact h.handle
    · rw [hserviced]
      exact handleRight_serviced h.handle

/-- In every run the state is one of three and tells whether there is a
connection, and `hPipe` is its handle. -/
theorem handleRight_always (build : Build) (cs : List OutPipeCall) :
    (linked build).Always HandleRight (linked build).init cs :=
  Machine.always_of_invariant (fun _ h => h.handle) tracked_step tracked_init cs

/-- A call that throws changes nothing. -/
theorem throwKeeps_step (s : OutPipeRun × Option PipeLink) (c : OutPipeCall) :
    ThrowKeeps build s c := by
  rintro hthrows ⟨t', l'⟩ hs
  obtain ⟨ht, -⟩ := Machine.observed_step.mp hs
  cases steps_of_step ht with
  | openPipe pipeName r hnext =>
    obtain ⟨ex, hex⟩ := hthrows
    subst hnext
    dsimp only
    rw [OutPipe.openPipe_threw hex]
    exact .refl _
  | write size r hnext =>
    obtain ⟨ex, hex⟩ := hthrows
    subst hnext
    dsimp only
    rw [OutPipe.write_threw hex]
    exact .refl _
  | service wait out hout _ =>
    obtain ⟨ex, p, hex⟩ := hthrows
    exact absurd hex OutPipe.service_ne_threw
  | close => cases hthrows
  | finish => cases hthrows

/-! ## The name -/

/-- The invariant of the runs in which no `open` succeeds. -/
structure NeverOpened (s : OutPipeRun × Option PipeLink) : Prop where
  tracked : Tracked s
  unconnected : s.1.pipe.client.state = PipeState.unconnected

theorem NeverOpened.describesConnection (h : NeverOpened s) : DescribesConnection s where
  state := .inl h.unconnected
  unconnected := h.tracked.handle.unconnected
  connected := fun hne => absurd h.unconnected hne

theorem neverOpened_step (s : OutPipeRun × Option PipeLink) (c : OutPipeCall)
    (s' : OutPipeRun × Option PipeLink) (h : NeverOpened s)
    (hs : (linked build).step s c = some s') (hfails : OpenFails c) : NeverOpened s' := by
  have htracked := tracked_step s c s' h.tracked hs
  have hph : s.1.pipe.InPhase .unconnected := h.unconnected
  obtain ⟨t', l'⟩ := s'
  obtain ⟨ht, -⟩ := Machine.observed_step.mp hs
  refine ⟨htracked, ?_⟩
  cases steps_of_step ht with
  | openPipe pipeName r hnext =>
    subst hnext
    cases hopen : (s.1.pipe.openPipe pipeName r).1 with
    | error ex =>
      dsimp only
      rw [OutPipe.openPipe_threw hopen]
      exact h.unconnected
    | ok _ =>
      -- it would have had a handle
      obtain ⟨hPipe, rfl, hname, -, -⟩ := OutPipe.openPipe_returned hopen
      obtain ⟨lastError, hr⟩ := hfails pipeName _ rfl hname
      cases hr
  | write size r hnext =>
    subst hnext
    rcases OutPipe.write_cases hph size r with ⟨-, hsame, -⟩ | ⟨-, hconn, -, -⟩
    · dsimp only
      rw [hsame]
      exact h.unconnected
    · cases hconn
  | close hnext =>
    subst hnext
    dsimp only
    rw [OutPipe.close, if_pos h.unconnected]
    exact h.unconnected
  | finish k outcome w _ _ hnext =>
    subst hnext
    exact h.unconnected
  | service wait out hout hnext =>
    subst hnext
    dsimp only
    rw [afterService_pipe]
    rcases OutPipe.service_pipe h.tracked.coherent hout with hsame | hserviced
    · rw [hsame]
      exact h.unconnected
    · rw [hserviced]
      exact OutPipe.serviced_phase hph

/-- A name that `open` takes is not empty. -/
theorem ne_empty_of_take {pipeName : String}
    (hname : pipeName.toList.take OutPipe.pipePrefix.toList.length = OutPipe.pipePrefix.toList) :
    pipeName ≠ "" := by
  rintro rfl
  cases hname

/-- The first `open` that succeeds leaves `getServerName` with an empty name. -/
theorem not_describesConnection (h : NeverOpened s) (hs : (linked build).step s c = some s')
    (hopens : ¬ OpenFails c) : ¬ DescribesConnection s' := by
  obtain ⟨t', l'⟩ := s'
  obtain ⟨ht, hl⟩ := Machine.observed_step.mp hs
  simp only [OpenFails, not_forall] at hopens
  obtain ⟨pipeName, r, rfl, hname, hr⟩ := hopens
  cases r with
  | error lastError => exact absurd ⟨lastError, rfl⟩ hr
  | ok hPipe =>
    have hopen := OutPipe.openPipe_ok hname h.unconnected hPipe
    have hlink : l' = some ⟨hPipe, pipeName⟩ := by
      rw [show l' = _ from hl]
      exact link_returned (by rw [hopen])
    cases steps_of_step ht with
    | openPipe _ _ hnext =>
      subst hnext
      intro hdescribes
      rw [DescribesConnection, hlink] at hdescribes
      dsimp only at hdescribes
      rw [hopen] at hdescribes
      obtain ⟨l, hl, -, hserver⟩ := hdescribes.connected PipeState.connected_ne
      cases hl
      rw [OutPipe.getServerName_open PipeState.connected_ne] at hserver
      dsimp only at hserver
      rw [(h.tracked.handle.unconnected h.unconnected).2] at hserver
      exact ne_empty_of_take hname (Except.ok.inj hserver).symm

/-- **One connection, exactly**: in every state of a run the fields describe the
connection, and calls that throw leave them as they are, if and only if
`CreateFileA` fails for every `open` of a pipe. -/
theorem describesConnection_iff (build : Build) (cs : List OutPipeCall) :
    ((linked build).Always DescribesConnection (linked build).init cs ∧
        (linked build).EachStep (ThrowKeeps build) (linked build).init cs) ↔
      (linked build).EachStep (fun _ c => OpenFails c) (linked build).init cs := by
  have hthrow : (linked build).EachStep (ThrowKeeps build) (linked build).init cs :=
    Machine.eachStep_of_invariant (I := fun _ => True) (fun _ _ _ _ _ => trivial)
      (fun s c _ _ _ => throwKeeps_step s c) trivial cs
  rw [and_iff_left hthrow]
  exact Machine.always_iff_eachStep (I := NeverOpened) (fun _ h => h.describesConnection)
    neverOpened_step (fun _ _ _ h hs hopens => not_describesConnection h hs hopens)
    ⟨tracked_init, rfl⟩ cs

/-- A client opens the pipe of the server. -/
def openServer : List OutPipeCall := [.openPipe "\\\\.\\pipe\\task6_pipe_server" (.ok 1)]

theorem openServer_breaks (build : Build) :
    ¬ (linked build).Always DescribesConnection (linked build).init openServer := by
  refine Machine.not_always_of_exec rfl fun h => ?_
  obtain ⟨l, hl, -, hserver⟩ := h.connected PipeState.connected_ne
  cases hl
  have hempty := (OutPipe.getServerName_open PipeState.connected_ne).symm.trans hserver
  have hname : "" = "\\\\.\\pipe\\task6_pipe_server" := Except.ok.inj hempty
  exact absurd hname (by decide)

/-- The client is connected and has no server name. -/
theorem describesConnection_broken :
    ¬ (linked .release).Always DescribesConnection (linked .release).init openServer ∧
      ¬ (linked .debug).Always DescribesConnection (linked .debug).init openServer :=
  ⟨openServer_breaks .release, openServer_breaks .debug⟩

end OutPipeRun

end Task6
