import Task6.Server.Construction
import Task6.Server.Task6System

/-!
# The lifetime of the server

The handles and threads of a server from its constructor to its destructor, whatever
Windows answers. The books say where each handle is that was given out: an owner has
it, it was closed, or it is the handle of a named object that was there already and
nobody has it (`Books`). Each line of a constructor keeps them, also when it throws.

- `Task6Server.construct_allOrNothing`: what is there when the constructor has
  returned, and what is left when it has thrown.
- `Task6Server.lifetime_settles`: with `stopAndWait` or without it, and with the
  destructor.
-/

namespace Task6

open Win32 Prog

variable {HANDLE S : Type} [DecidableEq HANDLE] {n : Nat} {D : Prop}

/-! ## The books -/

/-- Every handle that was given out is closed, owned or that of an object which was
there already, as often as it was given out. -/
def Books (owned : List HANDLE) (w : Win32Process HANDLE) : Prop :=
  ∀ h, w.opened.count h = w.closed.count h + owned.count h + w.existing.count h

/-- Behind what has worked so far. -/
structure Clean (owned : List HANDLE) (t : ServerThreads) (w : Win32Process HANDLE) : Prop where
  books : Books owned w
  existing : w.existing = []
  threads : w.threads = t

/-- Behind an exception: a named object may have been there. -/
structure Thrown (owned : List HANDLE) (T : ServerThreads → Prop) (ex : Exn)
    (w : Win32Process HANDLE) : Prop where
  books : Books owned w
  existing : w.existing = [] ∨ ex = .system errorAlreadyExists ∧ ∃ h, w.existing = [h]
  threads : T w.threads

theorem Books.of_count {owned owned' : List HANDLE} {w : Win32Process HANDLE} (h : Books owned w)
    (hcount : ∀ x, owned.count x = owned'.count x) : Books owned' w := fun x => by
  rw [h x, hcount x]

/-- What is closed was owned. -/
theorem Books.close {owned handles : List HANDLE} {w : Win32Process HANDLE}
    (h : Books (owned ++ handles) w) : Books owned (w.close handles) := by
  intro x
  have hx := h x
  simp only [Win32Process.close, List.count_append] at hx ⊢
  omega

theorem Books.gives {owned : List HANDLE} {w : Win32Process HANDLE} (h : Books owned w)
    (handle : HANDLE) : Books (owned ++ [handle]) (w.gives handle) := by
  intro x
  have hx := h x
  simp only [Win32Process.gives, List.count_append] at hx ⊢
  omega

theorem Books.givesExisting {owned : List HANDLE} {w : Win32Process HANDLE} (h : Books owned w)
    (handle : HANDLE) : Books owned (w.givesExisting handle) := by
  intro x
  have hx := h x
  simp only [Win32Process.givesExisting, List.count_append] at hx ⊢
  omega

theorem Books.setThreads {owned : List HANDLE} {w : Win32Process HANDLE} (h : Books owned w)
    (t : ServerThreads) : Books owned (w.setThreads t) := h

/-- In front of a failing line. -/
theorem Clean.thrown {owned : List HANDLE} {t : ServerThreads} {w : Win32Process HANDLE}
    (h : Clean owned t w) {T : ServerThreads → Prop} (ht : T t) (ex : Exn) :
    Thrown owned T ex w where
  books := h.books
  existing := .inl h.existing
  threads := h.threads ▸ ht

theorem Thrown.mono {owned : List HANDLE} {T U : ServerThreads → Prop} {ex : Exn}
    {w : Win32Process HANDLE} (h : Thrown owned T ex w) (ht : ∀ t, T t → U t) :
    Thrown owned U ex w :=
  ⟨h.books, h.existing, ht _ h.threads⟩

/-! ## Handles that are created -/

/-- A function that creates a handle, or throws. -/
def Creates (create : Ctor HANDLE HANDLE) (t t' : ServerThreads) (D : Prop) : Prop :=
  ∀ owned, Triple (Clean owned t) create
    ⟨fun h => Clean (owned ++ [h]) t', Thrown owned (· = t), D⟩

theorem createHandle_spec (a : HandleAnswer HANDLE) (t : ServerThreads) :
    Creates (createHandle a) t t D := by
  intro owned
  unfold createHandle
  split
  · exact Triple.throws fun w hw => hw.thrown (T := (· = t)) rfl _
  · rename_i hResult _
    refine Triple.bind (Triple.modifies fun w hw => ?_) fun _ => Triple.ret fun w hw => hw
    exact ⟨hw.books.gives hResult, hw.existing, hw.threads⟩

theorem createNamed_spec (a : HandleAnswer HANDLE) (t : ServerThreads) :
    Creates (createNamed a) t t D := by
  intro owned
  unfold createNamed
  split
  · exact Triple.throws fun w hw => hw.thrown (T := (· = t)) rfl _
  · rename_i hResult _
    split
    · rename_i hexists
      refine Triple.bind (R := fun _ => Thrown owned (· = t) (.system a.lastError))
        (Triple.modifies fun w hw => ?_) fun _ => Triple.throws fun w hw => hw
      refine ⟨hw.books.givesExisting hResult, .inr ⟨congrArg _ hexists, hResult, ?_⟩, hw.threads⟩
      show w.existing ++ [hResult] = _
      rw [hw.existing, List.nil_append]
    · refine Triple.bind (Triple.modifies fun w hw => ?_) fun _ => Triple.ret fun w hw => hw
      exact ⟨hw.books.gives hResult, hw.existing, hw.threads⟩

theorem startWaiter_spec (a : HandleAnswer HANDLE) (t : ServerThreads) :
    Creates (InSharedMemoryServer.startWaiter a) t t.startWaiter D := by
  intro owned
  unfold InSharedMemoryServer.startWaiter
  refine Triple.bind (createHandle_spec a t owned) fun h => ?_
  refine Triple.bind (Triple.modifies fun w hw => ?_) fun _ => Triple.ret fun w hw => hw
  exact ⟨hw.books.setThreads _, hw.existing, congrArg ServerThreads.startWaiter hw.threads⟩

section Members

variable {handles : S → List HANDLE} {outer : List HANDLE} {t t' : ServerThreads}

/-- An object under construction, of a function that owns `outer`. -/
def Building (handles : S → List HANDLE) (outer : List HANDLE) (t : ServerThreads)
    (J : S → Prop) (s : S × Win32Process HANDLE) : Prop :=
  Clean (outer ++ handles s.1) t s.2 ∧ J s.1

/-- A member function of it has thrown. -/
def Failing (handles : S → List HANDLE) (outer : List HANDLE) (T : S → ServerThreads → Prop)
    (ex : Exn) (s : S × Win32Process HANDLE) : Prop :=
  Thrown (outer ++ handles s.1) (T s.1) ex s.2

/-- A function of the process that the object's constructor calls. -/
theorem onWorld_spec {α : Type} {c : Ctor HANDLE α} {Q : α → Win32Process HANDLE → Prop}
    {T : ServerThreads → Prop} {U : S → ServerThreads → Prop} {this : S}
    {w : Win32Process HANDLE} (hw : Clean (outer ++ handles this) t w)
    (hc : Triple (Clean (outer ++ handles this) t) c
      ⟨Q, Thrown (outer ++ handles this) T, D⟩) (hU : ∀ u, T u → U this u) :
    Triple (fun s => s = (this, w)) (Prog.onWorld c)
      ⟨fun a s => s.1 = this ∧ Q a s.2, Failing handles outer U, D⟩ := by
  refine Triple.conseq (Triple.onWorld hc this) (fun s hs => ?_) (fun _ _ h => h)
    (fun ex s hs => ?_) id
  · subst hs
    exact ⟨rfl, hw⟩
  · obtain ⟨rfl, hthrown⟩ := hs
    exact hthrown.mono hU

/-- The handle is in the hands of `this` once it is assigned, or nobody has it. -/
theorem adopt_spec (m : RaiiMember HANDLE S handles) {create : Ctor HANDLE HANDLE}
    (hcreate : Creates create t t' D) {J K : S → Prop}
    (hJ : ∀ this h, J this → K (m.set this (some h))) :
    Triple (Building handles outer t J) (m.adopt create)
      ⟨fun _ => Building handles outer t' K, Failing handles outer fun this u => u = t ∧ J this,
        D⟩ := by
  unfold RaiiMember.adopt
  refine Triple.of_state fun s hs => ?_
  obtain ⟨this, w⟩ := s
  refine Triple.bind (onWorld_spec hs.1 (hcreate (outer ++ handles this))
    fun u hu => ⟨hu, hs.2⟩) fun h => Triple.modifies fun s hs' => ?_
  obtain ⟨hthis, hw⟩ := hs'
  refine ⟨⟨fun x => ?_, hw.existing, hw.threads⟩, ?_⟩
  · -- what the member held before is closed
    have hx := hw.books x
    have hswap := (m.swaps s.1 (some h)).count_eq x
    rw [← hthis] at hx
    simp only [RaiiHandle.moveAssign, RaiiHandle.close_eq, Win32Process.close, List.count_append,
      Bool.false_eq_true, if_false, Option.toList_some] at hx hswap ⊢
    omega
  · rw [hthis]
    exact hJ this h hs.2

/-- Members that own nothing yet. -/
theorem Building.of_init {init : S} {J : S → Prop} {w : Win32Process HANDLE}
    (hinit : handles init = []) (hJ : J init) (hw : Clean outer t w) :
    Building handles outer t J (init, w) := by
  refine ⟨?_, hJ⟩
  show Clean (outer ++ handles init) t w
  rwa [hinit, List.append_nil]

/-- The members of an object whose constructor threw are destroyed. -/
theorem destroys_of_closes {destroyMembers : S → Win32Process HANDLE → Option (Win32Process HANDLE)}
    {T : ServerThreads → Prop} {ex : Exn}
    (hcloses : ∀ this w, ∃ closed, destroyMembers this w = some (w.close closed) ∧
      closed.Perm (handles this)) :
    Destroys destroyMembers (fun this w => Thrown (outer ++ handles this) T ex w)
      (Thrown outer T ex) D := by
  intro this w hw
  obtain ⟨closed, hd, hperm⟩ := hcloses this w
  rw [hd]
  refine ⟨Books.close (hw.books.of_count fun x => ?_), hw.existing, hw.threads⟩
  rw [List.count_append, List.count_append, hperm.count_eq x]

end Members

/-! ## The constructors of the two servers -/

namespace InPipeServer

variable {outer : List HANDLE} {t : ServerThreads}

/-- `k` instances are there. -/
def Made (k : Nat) (this : InPipeServerObject HANDLE n) : Prop :=
  this.hPipes.length = k ∧ this.pipes = fun i : Fin n => Slot.create i

theorem createInstance_spec (os : InPipeServerAnswers HANDLE) (i k : Nat) :
    Triple (Building (handles (n := n)) outer t (Made k)) (createInstance os i)
      ⟨fun _ => Building handles outer t (Made (k + 1)), Failing handles outer fun _ u => u = t,
        D⟩ := by
  unfold createInstance
  refine Triple.of_state fun s hs => ?_
  obtain ⟨this, w⟩ := s
  obtain ⟨hclean, hmade, hpipes⟩ := hs
  refine Triple.bind (onWorld_spec hclean
    (createHandle_spec (os.createNamedPipe i) t (outer ++ handles this)) fun _ hu => hu)
    fun hPipe => ?_
  split
  · refine Triple.modifies fun s hs' => ?_
    obtain ⟨rfl, hw⟩ := hs'
    refine ⟨⟨hw.books.of_count fun x => ?_, hw.existing, hw.threads⟩, ?_, hpipes⟩
    · simp only [handles, List.append_assoc]
    · rw [List.length_append, hmade]
      rfl
  · refine Triple.bind (R := fun _ => Failing handles outer (fun _ u => u = t)
      (.system (os.associate i).lastError)) (Triple.modifies fun s hs' => ?_)
      fun _ => Triple.throws fun s hs' => hs'
    obtain ⟨rfl, hw⟩ := hs'
    exact ⟨hw.books.close, .inl hw.existing, hw.threads⟩

theorem fill_spec (os : InPipeServerAnswers HANDLE) (hCompletionPort : Option HANDLE) :
    Triple (Building (handles (n := n)) outer t (Made 0)) (fill os hCompletionPort)
      ⟨fun _ => Building handles outer t (Made n), Failing handles outer fun _ u => u = t, D⟩ := by
  unfold fill
  split
  · exact Triple.throws fun s hs => hs.1.thrown (T := (· = t)) rfl _
  · split
    · exact Triple.throws fun s hs => hs.1.thrown (T := (· = t)) rfl _
    · refine Triple.conseq (Triple.forM (l := List.range n)
        (I := fun before => Building handles outer t (Made before.length))
        fun before i after _ => ?_) (fun _ h => h) (fun _ s hs => ?_) (fun _ _ h => h) id
      · rw [List.length_append]
        exact createInstance_spec os i before.length
      · rwa [List.length_range] at hs

theorem construct_spec (os : InPipeServerAnswers HANDLE) (hCompletionPort : Option HANDLE) :
    Triple (Clean outer t) (construct n os hCompletionPort)
      ⟨fun server w => Clean (outer ++ handles server) t w ∧ Made n server,
        Thrown outer (· = t), D⟩ := by
  refine Triple.constructing ((fill_spec os hCompletionPort).pre ?_)
    fun ex => destroys_of_closes fun this w => ⟨handles this, rfl, .refl _⟩
  rintro ⟨this, w⟩ ⟨rfl, hw⟩
  exact Building.of_init rfl ⟨rfl, rfl⟩ hw

end InPipeServer

namespace InSharedMemoryServer

variable {outer : List HANDLE} {k : Nat}

/-- The threads behind a constructor that throws: only the call behind the start of
the waiter thread can fail with it running. -/
def ThreadsThrown (os : InSharedMemoryServerAnswers HANDLE) (k : Nat) (t : ServerThreads) : Prop :=
  t = ⟨false, false, k⟩ ∨ t = ⟨true, true, k⟩ ∧ os.ready.bResult = false

/-- A line of the constructor, up to the start of the thread. -/
theorem adopt_line {os : InSharedMemoryServerAnswers HANDLE}
    {m : RaiiMember HANDLE (InSharedMemoryServerObject HANDLE) handles}
    {create : Ctor HANDLE HANDLE} {t : ServerThreads}
    {J K : InSharedMemoryServerObject HANDLE → Prop}
    (hcreate : Creates create ⟨false, false, k⟩ t D)
    (hJ : ∀ this h, J this → K (m.set this (some h))) :
    Triple (Building handles outer ⟨false, false, k⟩ J) (m.adopt create)
      ⟨fun _ => Building handles outer t K, Failing handles outer fun _ => ThreadsThrown os k, D⟩ :=
  Triple.conseq (adopt_spec m hcreate hJ) (fun _ h => h) (fun _ _ h => h)
    (fun _ _ h => Thrown.mono h fun _ hu => .inl hu.1) id

theorem fill_spec (os : InSharedMemoryServerAnswers HANDLE) (hCompPort : Option HANDLE) :
    Triple (Building handles outer ⟨false, false, k⟩ fun _ => True) (fill os hCompPort)
      ⟨fun _ => Building handles outer ⟨true, true, k⟩ fun this =>
          this.hThread.isSome = true ∧ os.ready.bResult = true,
        Failing handles outer fun _ => ThreadsThrown os k, D⟩ := by
  have hnamed (m : RaiiMember HANDLE (InSharedMemoryServerObject HANDLE) handles)
      (a : HandleAnswer HANDLE) :
      Triple (Building handles outer ⟨false, false, k⟩ fun _ => True) (m.adopt (createNamed a))
        ⟨fun _ => Building handles outer ⟨false, false, k⟩ fun _ => True,
          Failing handles outer fun _ => ThreadsThrown os k, D⟩ :=
    adopt_line (createNamed_spec a ⟨false, false, k⟩) fun _ _ h => h
  unfold fill
  split
  · exact Triple.throws fun s hs => hs.1.thrown (.inl rfl) _
  · refine Triple.bind (hnamed _ _) fun _ => ?_
    refine Triple.bind (hnamed _ _) fun _ => ?_
    refine Triple.bind (hnamed _ _) fun _ => ?_
    refine Triple.bind (adopt_line (K := fun _ => True) (createHandle_spec _ _) fun _ _ h => h)
      fun _ => ?_
    refine Triple.bind (adopt_line (K := fun this => this.hThread.isSome = true)
      (startWaiter_spec _ _) fun _ _ _ => rfl) fun _ => ?_
    split
    · rename_i hready
      exact Triple.ret fun s hs => ⟨hs.1, hs.2, hready⟩
    · rename_i hready
      exact Triple.throws fun s hs => hs.1.thrown (.inr ⟨rfl, by simpa using hready⟩) _

theorem construct_spec (os : InSharedMemoryServerAnswers HANDLE) (hCompPort : Option HANDLE) :
    Triple (Clean outer ⟨false, false, k⟩) (construct os hCompPort)
      ⟨fun server w => Clean (outer ++ handles server) ⟨true, true, k⟩ w ∧
          server.hThread.isSome = true ∧ os.ready.bResult = true,
        Thrown outer (ThreadsThrown os k), D⟩ := by
  refine Triple.constructing ((fill_spec os hCompPort).pre ?_)
    fun ex => destroys_of_closes fun this w => ⟨_, rfl, destroyMembers_perm this⟩
  rintro ⟨this, w⟩ ⟨rfl, hw⟩
  exact Building.of_init rfl trivial hw

omit [DecidableEq HANDLE] in
/-- The destructor of an object with its thread: the members are closed, and in a
debug build the thread was seen to exit. -/
theorem destroy_cases (build : Build) (os : WaiterStop) {this : InSharedMemoryServerObject HANDLE}
    (hthread : this.hThread.isSome = true) (w : Win32Process HANDLE) :
    destroy build os this w = none ∧ build = .debug ∨
      ∃ closed, destroy build os this w
          = some ((w.setThreads (w.threads.waiterWaited os.dwResult)).close closed) ∧
        closed.Perm (handles this) ∧ (build = .debug → os.dwResult = waitObject0) := by
  unfold destroy
  rw [if_pos hthread]
  split
  · rename_i hasserts
    refine .inr ⟨_, rfl, destroyMembers_perm this, fun hbuild => ?_⟩
    subst hbuild
    simpa [Build.asserts] using (Bool.and_eq_true_iff.mp hasserts).2
  · rename_i hasserts
    refine .inl ⟨rfl, ?_⟩
    cases build with
    | debug => rfl
    | release => exact absurd rfl hasserts

end InSharedMemoryServer

/-! ## `Task6Server` -/

namespace Task6Server

variable {outer : List HANDLE} {t : ServerThreads} {build : Build} {os : Task6ServerAnswers HANDLE}

/-- In a release build nothing looks at the answers of the waits, which say that the
threads have exited. -/
def Harmless (build : Build) (dwResult : DWORD) : Prop :=
  build = .release → dwResult = waitObject0

/-- The object in front of `sharedMemServer`. -/
structure Unshared (this : Task6ServerObject HANDLE n) : Prop where
  workerThreads : this.workerThreads = []
  sharedMemServer : this.sharedMemServer = none

/-- The object behind it, with `count` worker threads. -/
structure Staffed (os : Task6ServerAnswers HANDLE) (count : Nat)
    (this : Task6ServerObject HANDLE n) : Prop where
  workerThreads : this.workerThreads.length = count
  waiter : ∃ server, this.sharedMemServer = some server ∧ server.hThread.isSome = true
  ready : os.sharedMemServer.ready.bResult = true

omit [DecidableEq HANDLE] in
theorem Staffed.hasThread {count : Nat} {this : Task6ServerObject HANDLE n}
    (h : Staffed os count this) (server : InSharedMemoryServerObject HANDLE)
    (hserver : this.sharedMemServer = some server) : server.hThread.isSome = true := by
  obtain ⟨server', hserver', hthread⟩ := h.waiter
  cases hserver.symm.trans hserver'
  exact hthread

omit [DecidableEq HANDLE] in
theorem Staffed.isShared {count : Nat} {this : Task6ServerObject HANDLE n}
    (h : Staffed os count this) : this.sharedMemServer ≠ none := by
  obtain ⟨server, hserver, -⟩ := h.waiter
  rw [hserver]
  exact Option.some_ne_none server

/-- An answer that was looked at, or is known to be harmless. -/
theorem Harmless.exited {dwResult : DWORD} (h : Harmless build dwResult)
    (hdebug : build = .debug → dwResult = waitObject0) : dwResult = waitObject0 := by
  cases build with
  | debug => exact hdebug rfl
  | release => exact h rfl

/-- The threads that an exception leaves to the destructors of the members. -/
def LeftBehind (build : Build) (os : Task6ServerAnswers HANDLE) (this : Task6ServerObject HANDLE n)
    (t : ServerThreads) : Prop :=
  Unshared this ∧ InSharedMemoryServer.ThreadsThrown os.sharedMemServer 0 t ∨
    (∃ count, Staffed os count this) ∧ (Harmless build os.stop.dwResult → t.workersRun = 0)

/-- The threads behind the destructors: all have exited, but for a waiter thread
whose server was not completed. -/
def Settled (build : Build) (os : Task6ServerAnswers HANDLE) (t : ServerThreads) : Prop :=
  Harmless build os.stop.dwResult → Harmless build os.waiterStop.dwResult →
    t.workersRun = 0 ∧ t.waiterRuns = (t.waiterStarted && !os.sharedMemServer.ready.bResult)

/-- The destructor closes what the server owns, and waits for the waiter thread. -/
theorem destroy_cases (build : Build) (os : WaiterStop) {this : Task6ServerObject HANDLE n}
    (hthread : ∀ server, this.sharedMemServer = some server → server.hThread.isSome = true)
    (w : Win32Process HANDLE) :
    destroy build os this w = none ∧ build = .debug ∨
      ∃ closed t, destroy build os this w = some ((w.setThreads t).close closed) ∧
        closed.Perm (handles this) ∧
        (this.sharedMemServer = none → t = w.threads) ∧
        (this.sharedMemServer ≠ none → t = w.threads.waiterWaited os.dwResult ∧
          (build = .debug → os.dwResult = waitObject0)) := by
  have hcount (h : HANDLE) : (handles this).count h =
      ((RaiiHandle.close this.hShutdownEvent ++ RaiiHandle.close this.hLogSem
        ++ this.workerThreads) ++ sharedMemHandles this
        ++ (pipeHandles this ++ RaiiHandle.close this.hCompPort)).count h := by
    simp only [handles, RaiiHandle.close_eq, List.count_append]
    omega
  unfold destroy
  generalize RaiiHandle.close this.hShutdownEvent ++ RaiiHandle.close this.hLogSem
    ++ this.workerThreads = front at hcount ⊢
  generalize pipeHandles this ++ RaiiHandle.close this.hCompPort = back at hcount ⊢
  cases hserver : this.sharedMemServer with
  | none =>
    refine .inr ⟨front ++ back, w.threads, ?_, List.perm_iff_count.mpr fun h => ?_, fun _ => rfl,
      fun h => absurd rfl h⟩
    · simp only [Option.map_some, Win32Process.close, Win32Process.setThreads, List.append_assoc]
    · simp only [hcount, sharedMemHandles, hserver, Option.map_none, Option.getD_none,
        List.append_nil]
  | some server =>
    rcases InSharedMemoryServer.destroy_cases build os (hthread server hserver) (w.close front) with
      ⟨hd, hbuild⟩ | ⟨closed, hd, hperm, hdebug⟩
    · refine .inl ⟨?_, hbuild⟩
      simp only [hd, Option.map_none]
    · refine .inr ⟨front ++ closed ++ back, w.threads.waiterWaited os.dwResult, ?_,
        List.perm_iff_count.mpr fun h => ?_, fun h => absurd h (Option.some_ne_none server),
        fun _ => ⟨rfl, hdebug⟩⟩
      · show (InSharedMemoryServer.destroy build os server (w.close front)).map _ = _
        rw [hd]
        simp only [Option.map_some, Win32Process.close, Win32Process.setThreads, List.append_assoc]
      · simp only [hcount, sharedMemHandles, hserver, Option.map_some, Option.getD_some,
          List.count_append, hperm.count_eq h]

/-- `stopAndWait` gives the pipes back. In a debug build it has seen the threads
exit, if there are any. -/
theorem stopAndWait_spec (a : StopAnswers) {count : Nat} :
    Triple (Building (handles (n := n)) outer t (Staffed os count)) (stopAndWait build a)
      ⟨fun _ s => Building handles outer (t.workersWaited count a.dwResult) (Staffed os count) s ∧
          (build = .debug → count = 0 ∨ a.dwResult < count),
        fun _ _ => False, build = .debug⟩ := by
  have hdebug {b : Bool} (hb : build.asserts b = false) : build = .debug := by
    cases build with
    | debug => rfl
    | release => cases hb
  unfold stopAndWait
  refine Triple.bind (R := fun _ => Building handles outer t (Staffed os count))
    (Triple.asserts (fun s hs _ => hs) hdebug) fun _ => Triple.gets fun s hs => ?_
  obtain ⟨hclean, hstaffed⟩ := hs
  dsimp only
  rw [hstaffed.workerThreads]
  split
  · rename_i hcount
    subst hcount
    refine Triple.ret fun s' hs' => ?_
    subst hs'
    exact ⟨⟨hclean, hstaffed⟩, fun _ => .inl rfl⟩
  · refine Triple.bind (R := fun _ s' => s' = s) ?_ fun _ => ?_
    · exact Triple.forM (I := fun _ s' => s' = s) fun _ _ _ _ =>
        Triple.asserts (fun s' hs' _ => hs') hdebug
    refine Triple.bind (R := fun _ => Building handles outer (t.workersWaited count a.dwResult)
      (Staffed os count)) (Triple.modifies fun s' hs' => ?_) fun _ => ?_
    · subst hs'
      exact ⟨⟨hclean.books.setThreads _, hclean.existing, congrArg (fun t : ServerThreads =>
        t.workersWaited count a.dwResult) hclean.threads⟩, hstaffed⟩
    refine Triple.bind (R := fun _ s' => Building handles outer (t.workersWaited count a.dwResult)
      (Staffed os count) s' ∧ (build = .debug → count = 0 ∨ a.dwResult < count))
      (Triple.asserts (fun s' hs' hb => ⟨hs', fun hbuild => ?_⟩) hdebug) fun _ =>
      Triple.modifies fun s' hs' => ⟨⟨⟨?_, hs'.1.1.existing, hs'.1.1.threads⟩, ?_⟩, hs'.2⟩
    · subst hbuild
      exact .inr (of_decide_eq_true hb)
    · -- what the pipes owned is closed
      refine Books.close (hs'.1.1.books.of_count fun h => ?_)
      simp only [handles, pipeHandles, sharedMemHandles, List.count_append, Option.map_none,
        Option.getD_none, List.count_nil]
      omega
    · exact ⟨hs'.1.2.workerThreads, hs'.1.2.waiter, hs'.1.2.ready⟩

/-! ## Its constructor -/

/-- The pipes as the constructor of the pipe server has left them. -/
def HasPipes (this : Task6ServerObject HANDLE n) : Prop :=
  ∃ server, this.pipeServer = some server ∧ InPipeServer.Made n server

/-- Behind the turns `is` of the connect loop the pipes are those of the system
behind its lines for them. -/
def Connected (build : Build) (C W : Nat) (os : Task6ServerAnswers HANDLE) (is : List (Fin n))
    (this : Task6ServerObject HANDLE n) : Prop :=
  ∃ server s, this.pipeServer = some server ∧ server.hPipes.length = n ∧
    (Task6System.machine build C W n).exec (Task6System.init C W n)
      (is.map fun i => .connect i (os.connect i)) = some s ∧
    s.pipes = server.pipes ∧ s.connectLoop = is.length ∧ s.running = true ∧ s.pipeServer = true

theorem makePipeServer_spec :
    Triple (Building (handles (n := n)) outer ⟨false, false, 0⟩ fun this =>
        Unshared this ∧ this.pipeServer = none) (makePipeServer os.pipeServer)
      ⟨fun _ => Building handles outer ⟨false, false, 0⟩ fun this => Unshared this ∧ HasPipes this,
        Failing handles outer (LeftBehind build os), D⟩ := by
  unfold makePipeServer
  refine Triple.gets fun s hs => ?_
  obtain ⟨this, w⟩ := s
  obtain ⟨hclean, hunshared, hpipes⟩ :
    Clean (outer ++ handles this) _ w ∧ Unshared this ∧ this.pipeServer = none := hs
  refine Triple.bind (onWorld_spec hclean (InPipeServer.construct_spec os.pipeServer this.hCompPort)
    fun u hu => .inl ⟨hunshared, .inl hu⟩) fun server => Triple.modifies fun s hs => ?_
  obtain ⟨rfl, hw, hmade⟩ := hs
  refine ⟨⟨hw.books.of_count fun h => ?_, hw.existing, hw.threads⟩,
    ⟨hunshared.workerThreads, hunshared.sharedMemServer⟩, server, rfl, hmade⟩
  simp only [handles, pipeHandles, sharedMemHandles, hpipes, List.count_append, Option.map_none,
    Option.map_some, Option.getD_none, Option.getD_some, List.count_nil]
  omega

theorem makeSharedMemServer_spec :
    Triple (Building (handles (n := n)) outer ⟨false, false, 0⟩ fun this =>
        Unshared this ∧ HasPipes this) (makeSharedMemServer os.sharedMemServer)
      ⟨fun _ => Building handles outer ⟨true, true, 0⟩ fun this =>
          Staffed os 0 this ∧ HasPipes this,
        Failing handles outer (LeftBehind build os), D⟩ := by
  unfold makeSharedMemServer
  refine Triple.gets fun s hs => ?_
  obtain ⟨this, w⟩ := s
  obtain ⟨hclean, hunshared, hpipes⟩ :
    Clean (outer ++ handles this) _ w ∧ Unshared this ∧ HasPipes this := hs
  have hmem := hunshared.sharedMemServer
  refine Triple.bind (onWorld_spec hclean (InSharedMemoryServer.construct_spec
    os.sharedMemServer this.hCompPort) fun u hu => .inl ⟨hunshared, hu⟩)
    fun server => Triple.modifies fun s hs => ?_
  obtain ⟨rfl, hw, hthread, hready⟩ := hs
  refine ⟨⟨hw.books.of_count fun h => ?_, hw.existing, hw.threads⟩,
    ⟨congrArg List.length hunshared.workerThreads, ⟨server, rfl, hthread⟩, hready⟩, hpipes⟩
  simp only [handles, pipeHandles, sharedMemHandles, hmem, List.count_append, Option.map_none,
    Option.map_some, Option.getD_none, Option.getD_some, List.count_nil]
  omega

/-- A turn of the connect loop is the system's line for the pipe. -/
theorem connectPipe_spec {C W : Nat} {i : Fin n} {is : List (Fin n)} (hi : i.val = is.length) :
    Triple (Building handles outer ⟨true, true, 0⟩ fun this =>
        Staffed os 0 this ∧ Connected build C W os is this) (connectPipe os.connect i)
      ⟨fun _ => Building handles outer ⟨true, true, 0⟩ fun this =>
          Staffed os 0 this ∧ Connected build C W os (is ++ [i]) this,
        Failing handles outer (LeftBehind build os), D⟩ := by
  unfold connectPipe
  refine Triple.gets fun s hs => ?_
  obtain ⟨this, w⟩ := s
  obtain ⟨hclean, hstaffed, server, sys, hserver, hlength, hexec, hpipes, hloop, hrun, hthere⟩ :
    Clean (outer ++ handles this) _ w ∧ Staffed os 0 this ∧ Connected build C W os is this := hs
  dsimp only
  rw [hserver]
  dsimp only
  generalize hout : InPipeServer.connectInstance server.pipes i (os.connect i) = out
  -- the handles are not touched
  have hkept : Building (handles (n := n)) outer ⟨true, true, 0⟩ (Staffed os 0)
      ({ this with pipeServer := some { server with pipes := out.2 } }, w) := by
    refine ⟨⟨hclean.books.of_count fun h => ?_, hclean.existing, hclean.threads⟩,
      hstaffed.workerThreads, hstaffed.waiter, hstaffed.ready⟩
    simp only [handles, pipeHandles, sharedMemHandles, hserver, Option.map_some, Option.getD_some]
    rfl
  refine Triple.bind (R := fun _ s => s = ({ this with
    pipeServer := some { server with pipes := out.2 } }, w))
    (Triple.modifies fun s hs => by rw [hs]) fun _ => ?_
  obtain ⟨r, pipes⟩ := out
  cases r with
  | error ex =>
    refine Triple.throws fun s hs => ?_
    subst hs
    exact hkept.1.thrown (T := LeftBehind build os _) (.inr ⟨⟨0, hkept.2⟩, fun _ => rfl⟩) ex
  | ok =>
    refine Triple.ret fun s hs => ?_
    subst hs
    refine ⟨hkept.1, hkept.2, { server with pipes := pipes },
      { sys with pipes := pipes, connectLoop := sys.connectLoop + 1 }, rfl, hlength, ?_, rfl, ?_,
      hrun, hthere⟩
    · rw [List.map_append]
      refine Machine.exec_trans hexec (Machine.exec_cons_some.mpr ⟨_, ?_, rfl⟩)
      show (if sys.running && sys.pipeServer then sys.pipeStep (.connect i (os.connect i))
        else none) = _
      rw [if_pos (Bool.and_eq_true_iff.mpr ⟨hrun, hthere⟩)]
      simp only [Task6System.pipeStep, if_pos (hi.trans hloop.symm), hpipes, hout]
    · rw [hloop, List.length_append]
      rfl

/-- Once a wait has seen them exit, no workers are left. -/
theorem workersRun_workersWaited {count : Nat} {dwResult : DWORD} (hcount : t.workersRun ≤ count)
    (hdebug : build = .debug → count = 0 ∨ dwResult < count) (hwait : Harmless build dwResult) :
    (t.workersWaited count dwResult).workersRun = 0 := by
  have hexited : count = 0 ∨ dwResult < count := by
    cases build with
    | debug => exact hdebug rfl
    | release =>
      exact (Nat.eq_zero_or_pos count).imp_right fun hpos => lt_of_eq_of_lt (hwait rfl) hpos
  rcases hexited with rfl | hlt
  · show (if dwResult < 0 then 0 else t.workersRun) = 0
    rw [Nat.le_zero.mp hcount, ite_self]
  · exact if_pos hlt

/-- A turn of the loop: one more worker, or none is left. -/
theorem startWorker_spec {C W k i : Nat} {is : List (Fin n)} :
    Triple (Building handles outer ⟨true, true, k⟩ fun this =>
        Staffed os k this ∧ Connected build C W os is this) (startWorker build os i)
      ⟨fun _ => Building handles outer ⟨true, true, k + 1⟩ fun this =>
          Staffed os (k + 1) this ∧ Connected build C W os is this,
        Failing handles outer (LeftBehind build os), build = .debug⟩ := by
  unfold startWorker
  split
  · refine Triple.bind (Triple.conseq (stopAndWait_spec os.stop) (fun s hs => ⟨hs.1, hs.2.1⟩)
      (fun _ _ h => h) (fun _ _ h => h.elim) id) fun _ => Triple.throws fun s hs => ?_
    obtain ⟨hbuilding, hdebug⟩ := hs
    exact hbuilding.1.thrown (T := LeftBehind build os s.1)
      (.inr ⟨⟨k, hbuilding.2⟩, workersRun_workersWaited (Nat.le_refl k) hdebug⟩) _
  · rename_i hResult _
    refine Triple.modifies fun s hs => ?_
    obtain ⟨hclean, hstaffed, hconnected⟩ := hs
    refine ⟨⟨((hclean.books.gives hResult).setThreads _).of_count fun h => ?_, hclean.existing,
      congrArg ServerThreads.startWorker hclean.threads⟩,
      ⟨?_, hstaffed.waiter, hstaffed.ready⟩, hconnected⟩
    · simp only [handles, pipeHandles, sharedMemHandles, List.count_append]
      omega
    · rw [List.length_append, hstaffed.workerThreads]
      rfl

/-- A line of the constructor that creates a handle: `J` says which members are there
and in front of which of the threads. -/
theorem adopt_line {m : RaiiMember HANDLE (Task6ServerObject HANDLE n) handles}
    {a : HandleAnswer HANDLE} {J : Task6ServerObject HANDLE n → Prop}
    (hleft : ∀ this, J this → LeftBehind build os this t)
    (hJ : ∀ this h, J this → J (m.set this (some h))) :
    Triple (Building handles outer t J) (m.adopt (createHandle a))
      ⟨fun _ => Building handles outer t J, Failing handles outer (LeftBehind build os), D⟩ :=
  Triple.conseq (adopt_spec m (createHandle_spec a t) hJ) (fun _ h => h) (fun _ _ h => h)
    (fun _ _ h => Thrown.mono h fun _ hu => hu.1 ▸ hleft _ hu.2) id

theorem fill_spec (C W : Nat) :
    Triple (Building (handles (n := n)) outer ⟨false, false, 0⟩ fun this =>
        Unshared this ∧ this.pipeServer = none) (fill build W os)
      ⟨fun _ => Building handles outer ⟨true, true, W⟩ fun this =>
          Staffed os W this ∧ Connected build C W os (List.finRange n) this,
        Failing handles outer (LeftBehind build os), build = .debug⟩ := by
  unfold fill
  refine Triple.bind (adopt_line (fun this h => .inl ⟨h.1, .inl rfl⟩) fun this h hJ =>
    ⟨⟨hJ.1.1, hJ.1.2⟩, hJ.2⟩) fun _ => ?_
  refine Triple.bind makePipeServer_spec fun _ => ?_
  refine Triple.bind makeSharedMemServer_spec fun _ => ?_
  refine Triple.bind (adopt_line (fun this h => .inr ⟨⟨0, h.1⟩, fun _ => rfl⟩) fun this h hJ =>
    ⟨⟨hJ.1.1, hJ.1.2, hJ.1.3⟩, hJ.2⟩) fun _ => ?_
  refine Triple.bind (R := fun _ => Building handles outer ⟨true, true, 0⟩ fun this =>
    Staffed os 0 this ∧ Connected build C W os (List.finRange n) this) ?_ fun _ => ?_
  · refine Triple.pre (Triple.forM (I := fun is =>
      Building handles outer ⟨true, true, 0⟩ fun this =>
        Staffed os 0 this ∧ Connected build C W os is this) fun before i after hl => ?_)
      fun s hs => ?_
    · -- the turns are those of the indices, in order
      refine connectPipe_spec ?_
      have hi : (List.finRange n)[before.length]? = some i := by simp [hl]
      simpa using (congrArg Fin.val (List.getElem?_eq_some_iff.mp hi).2).symm
    · obtain ⟨hclean, hstaffed, server, hserver, hlength, hpipes⟩ := hs
      exact ⟨hclean, hstaffed, server, Task6System.init C W n, hserver, hlength, rfl, hpipes.symm,
        rfl, rfl, rfl⟩
  refine Triple.bind (adopt_line (fun this h => .inr ⟨⟨0, h.1⟩, fun _ => rfl⟩) fun this h hJ =>
    ⟨⟨hJ.1.1, hJ.1.2, hJ.1.3⟩, hJ.2⟩) fun _ => ?_
  refine Triple.conseq (Triple.forM (l := List.range W)
    (I := fun before => Building handles outer ⟨true, true, before.length⟩ fun this =>
      Staffed os before.length this ∧ Connected build C W os (List.finRange n) this)
    fun before i after _ => ?_) (fun _ h => h) (fun _ s hs => ?_) (fun _ _ h => h) id
  · rw [List.length_append]
    exact startWorker_spec
  · rwa [List.length_range] at hs

/-- What was left behind an exception is settled by the destructors. -/
theorem destroys_leftBehind (ex : Exn) :
    Prog.Destroys (destroy (n := n) build os.waiterStop)
      (fun this w => Thrown (outer ++ handles this) (LeftBehind build os this) ex w)
      (Thrown outer (Settled build os) ex) (build = .debug) := by
  intro this w hw
  have hthread : ∀ server, this.sharedMemServer = some server → server.hThread.isSome = true := by
    intro server hserver
    rcases hw.threads with ⟨hunshared, -⟩ | ⟨⟨count, hstaffed⟩, -⟩
    · rw [hunshared.sharedMemServer] at hserver
      cases hserver
    · exact hstaffed.hasThread server hserver
  rcases destroy_cases build os.waiterStop hthread w with
    ⟨hd, hbuild⟩ | ⟨closed, t', hd, hperm, hnone, hsome⟩
  · rw [hd]
    exact hbuild
  · rw [hd]
    refine ⟨Books.close ((hw.books.setThreads t').of_count fun h => ?_), hw.existing, ?_⟩
    · rw [List.count_append, List.count_append, hperm.count_eq h]
    · intro hstop hwaiter
      show t'.workersRun = 0 ∧
        t'.waiterRuns = (t'.waiterStarted && !os.sharedMemServer.ready.bResult)
      rcases hw.threads with ⟨hunshared, hthreads⟩ | ⟨⟨count, hstaffed⟩, hworkers⟩
      · rw [hnone hunshared.sharedMemServer]
        rcases hthreads with ht | ⟨ht, hready⟩
        · rw [ht]
          exact ⟨rfl, rfl⟩
        · rw [ht, hready]
          exact ⟨rfl, rfl⟩
      · obtain ⟨ht', hdebug⟩ := hsome hstaffed.isShared
        rw [ht', hstaffed.ready, hwaiter.exited hdebug]
        exact ⟨hworkers hstop, by simp [ServerThreads.waiterWaited]⟩

/-- Behind the constructor. -/
theorem construct_spec (outer : List HANDLE) (C W : Nat) :
    Triple (Clean outer ⟨false, false, 0⟩) (construct build n W os)
      ⟨fun server w => Clean (outer ++ handles server) ⟨true, true, W⟩ w ∧ Staffed os W server ∧
          Connected build C W os (List.finRange n) server,
        Thrown outer (Settled build os), build = .debug⟩ := by
  refine Triple.constructing ((fill_spec C W).pre ?_) fun ex => destroys_leftBehind ex
  rintro ⟨this, w⟩ ⟨rfl, hw⟩
  exact Building.of_init rfl ⟨⟨rfl, rfl⟩, rfl⟩ hw

/-! ## Its lifetime -/

/-- The workers that run behind some calls of `stopAndWait`. -/
def AfterStops (build : Build) (W : Nat) (stops : List StopAnswers) (t : ServerThreads) : Prop :=
  t.waiterStarted = true ∧ t.workersRun ≤ W ∧
    ((∀ a ∈ stops, Harmless build a.dwResult) → t.workersRun = if stops = [] then W else 0)

theorem stops_spec (outer : List HANDLE) (os : Task6ServerAnswers HANDLE) (W : Nat)
    (stops : List StopAnswers) :
    Triple (Building (handles (n := n)) outer ⟨true, true, W⟩ (Staffed os W))
      (stops.forM (stopAndWait build))
      ⟨fun _ s => Building handles outer s.2.threads (Staffed os W) s ∧
          AfterStops build W stops s.2.threads,
        fun _ _ => False, build = .debug⟩ := by
  refine Triple.pre (Triple.forM (I := fun before s =>
    Building handles outer s.2.threads (Staffed os W) s ∧ AfterStops build W before s.2.threads)
    fun before a after _ => ?_) fun s hs => ?_
  · refine Triple.of_state fun s₀ hs₀ => ?_
    obtain ⟨hbuilding, hstarted, hle, -⟩ := hs₀
    refine Triple.conseq (stopAndWait_spec (t := s₀.2.threads) a)
      (fun s hs => by rw [hs]; exact hbuilding) (fun _ s hs => ?_) (fun _ _ h => h) id
    obtain ⟨⟨hclean, hstaffed⟩, hdebug⟩ := hs
    rw [hclean.threads]
    refine ⟨⟨hclean, hstaffed⟩, hstarted, ?_, fun hharmless => ?_⟩
    · show (if a.dwResult < W then 0 else s₀.2.threads.workersRun) ≤ W
      split
      · exact Nat.zero_le W
      · exact hle
    · rw [if_neg (by simp)]
      exact workersRun_workersWaited hle hdebug (hharmless a (by simp))
  · rw [hs.1.threads]
    exact ⟨hs, rfl, Nat.le_refl W, fun _ => rfl⟩

/-- The destructor behind them. -/
theorem destroys_stopped {W : Nat} {stops : List StopAnswers} :
    Prog.Destroys (destroy (n := n) build os.waiterStop)
      (fun this w => Building handles outer w.threads (Staffed os W) (this, w) ∧
        AfterStops build W stops w.threads)
      (fun w => Books outer w ∧ w.existing = [] ∧
        ((∀ a ∈ stops, Harmless build a.dwResult) → Harmless build os.waiterStop.dwResult →
          w.threads = ⟨true, false, if stops = [] then W else 0⟩))
      (build = .debug) := by
  rintro this w ⟨⟨hclean, hstaffed⟩, hstarted, -, hworkers⟩
  rcases destroy_cases build os.waiterStop hstaffed.hasThread w with
    ⟨hd, hbuild⟩ | ⟨closed, t', hd, hperm, -, hsome⟩
  · rw [hd]
    exact hbuild
  · rw [hd]
    refine ⟨Books.close ((hclean.books.setThreads t').of_count fun h => ?_), hclean.existing, ?_⟩
    · rw [List.count_append, List.count_append, hperm.count_eq h]
    · intro hstops hwaiter
      obtain ⟨ht', hdebug⟩ := hsome hstaffed.isShared
      show t' = _
      rw [ht', hwaiter.exited hdebug, ← hworkers hstops, ← hstarted]
      simp [ServerThreads.waiterWaited]

theorem clean_start : Clean [] ⟨false, false, 0⟩ (.start : Win32Process HANDLE) :=
  ⟨fun _ => rfl, rfl, rfl⟩

/-- **The lifetime of a server.** Whether it ends as it should or the constructor
throws, what Windows gave is given back, each handle as often as it was given, but for
a named object that was there already and made the constructor throw; a failed
assertion, which only a debug build has, ends the process before that. Where the waits
see the threads exit the waiter thread has exited, and so have the workers if
`stopAndWait` was called. If it was not, nobody has asked them to, and `workersRun`
still counts them. -/
theorem lifetime_settles (build : Build) (n W : Nat) (os : Task6ServerAnswers HANDLE)
    (stops : List StopAnswers) :
    Triple (fun w => w = .start) (lifetime build n W os stops)
      ⟨fun _ w => Books [] w ∧ w.existing = [] ∧
          ((∀ a ∈ stops, Harmless build a.dwResult) → Harmless build os.waiterStop.dwResult →
            w.threads = ⟨true, false, if stops = [] then W else 0⟩),
        Thrown [] (Settled build os), build = .debug⟩ := by
  unfold lifetime
  refine Triple.bind (Triple.conseq (construct_spec [] 0 W)
    (fun _ hw => hw ▸ clean_start) (fun _ _ hw => hw) (fun _ _ hw => hw) id) fun server => ?_
  refine Triple.withObject (Triple.conseq (stops_spec [] os W stops)
    (fun s hs => ?_) (fun _ s hs => hs) (fun _ _ h => h.elim) id) (fun _ => destroys_stopped)
    fun _ _ _ h => False.elim h
  obtain ⟨rfl, hclean, hstaffed, -⟩ := hs
  exact ⟨hclean, hstaffed⟩

/-- Another process has the mapping: the handle of it that the constructor is given
is not closed. -/
example : (lifetime .release 1 0
    { iocp := ⟨some 1, 0⟩
      pipeServer := ⟨fun _ => ⟨some 2, 0⟩, fun _ => ⟨true, 0⟩⟩
      sharedMemServer := ⟨⟨some 3, errorAlreadyExists⟩, ⟨some 4, 0⟩, ⟨some 5, 0⟩, ⟨some 6, 0⟩,
        ⟨some 7, 0⟩, ⟨true, 0⟩⟩
      logSem := ⟨some 8, 0⟩
      connect := fun _ => ⟨false, errorIoPending⟩
      shutdownEvent := ⟨some 9, 0⟩
      workerThread := fun _ => ⟨none, 0⟩
      stop := ⟨true, fun _ => true, 0, 0⟩
      waiterStop := ⟨true, 0⟩ } []).exec .start
    = some (.error (.system errorAlreadyExists), ⟨[1, 2, 3], [3], [2, 1], ⟨false, false, 0⟩⟩) :=
  rfl

end Task6Server

end Task6
