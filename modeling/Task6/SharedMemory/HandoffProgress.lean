import Task6.Library.Progress
import Task6.SharedMemory.Sequential

/-!
# The hand-off does not get stuck

The turn is never doubled, and a few failures lose it. As long as it is not lost
it comes back to `svToCl`: from every such state the parties can bring each text
to its handler and let the next client write, in any build and with any number of
workers, provided that messages leave room for a terminator. The measure counts
the lines up to there, over all the places a text passes.
-/

namespace Task6

open NulText

/-! ## The measure -/

def ClientPc.left : ClientPc → Nat
  | mapping _ => 14
  | copying _ _ => 13
  | unmapping => 12
  | signalling => 11
  | idle | died => 0

def WaiterPc.left : WaiterPc → Nat
  | posting _ => 9
  | waiting | stopped => 0

def Completion.left : Completion → Nat
  | sharedMemory _ => 8
  | other => 2

def WorkerPc.left : WorkerPc → Nat
  | dequeued (.sharedMemory _) => 7
  | mapping _ => 6
  | copying _ _ => 5
  | unmapping _ _ => 4
  | signalling _ _ => 3
  | dequeued .other | handling _ => 1
  | idle | exited => 0

namespace Handoff

variable {C W : Nat} {cfg : HandoffConfig} {s s' : Handoff C W}

/-- The lines up to the handlers, and to the next turn. -/
def left (s : Handoff C W) : Nat :=
  Pool.total ClientPc.left s.clients + 10 * s.clToSv.isSome.toNat + s.waiter.left
    + (s.iocp.map Completion.left).sum + Pool.total WorkerPc.left s.workers

theorem left_setClient (s : Handoff C W) (i : Fin C) (pc : ClientPc) :
    (s.setClient i pc).left + (s.clients i).left = s.left + pc.left := by
  have hacc := Pool.total_update ClientPc.left s.clients i pc
  simp only [left, Handoff.setClient]
  omega

theorem left_setWorker (s : Handoff C W) (w : Fin W) (pc : WorkerPc) :
    (s.setWorker w pc).left + (s.workers w).left = s.left + pc.left := by
  have hacc := Pool.total_update WorkerPc.left s.workers w pc
  simp only [left, Handoff.setWorker]
  omega

/-! ## The lines that go well -/

/-- The next line of a party, and no call in it fails. -/
def GoesWell (cfg : HandoffConfig) : HandoffEvent C W → Prop
  | .clientMap _ mapped => mapped = true
  | .clientUnmap _ unmapped => unmapped = true
  | .clientSignal _ signalled => signalled = true
  | .waiterPost posted => posted = true
  | .getData _ size => size = cfg.bufferSize
  | .getMap _ readable => readable ≠ none
  | .getUnmap _ unmapped => unmapped = true
  | .getSignal _ signalled => signalled = true
  | .clientCopy _ | .waiterWake | .dequeue _ | .handleOther _ | .getCopy _ | .finish _ => True
  | .writeData _ _ _ | .waiterFails | .waiterExit | .otherPacket | .exit _ | .stop | .close =>
    False

/-- A message leaves room for its terminator. -/
def ClientPc.LeavesRoom (bufferSize : Nat) : ClientPc → Prop
  | .mapping data => data.length < bufferSize
  | .copying mapped data => mapped = true ∧ data.length < bufferSize
  | .idle | .unmapping | .signalling | .died => True

/-- The turn is there, the server is up, and no client is about to copy a message
without a view of the mapping, or one that fills it. -/
structure Calm (cfg : HandoffConfig) (s : Handoff C W) : Prop where
  turn : s.turn = 1
  running : s.running = true
  waiter : s.waiter ≠ .stopped
  workers : ∀ w, s.workers w ≠ .exited
  clients : ∀ i, ClientPc.LeavesRoom cfg.bufferSize (s.clients i)
  terminated : s.memory.getLast? = some 0

theorem getLast?_overwrite {memory data : List Byte} (h : data.length < memory.length) :
    (overwrite memory data).getLast? = memory.getLast? := by
  rw [overwrite, List.getLast?_append, List.getLast?_drop, if_neg (by omega)]
  cases hlast : memory.getLast? with
  | none =>
    rw [List.getLast?_eq_none_iff.mp hlast] at h
    cases h
  | some b => rfl

/-- With a NUL at its end the whole mapping can be copied. -/
theorem copies_of_terminated {readable : Nat} {memory : List Byte}
    (hlast : memory.getLast? = some 0) (hview : memory.length ≤ readable) :
    Copies memory.length memory.length (viewOf memory readable) := by
  have hmem : (0 : Byte) ∈ memory := List.mem_of_getLast? hlast
  have htake : (viewOf memory readable).take memory.length = memory := by
    rw [viewOf_of_le hview, List.take_left']
    rfl
  have hin : (0 : Byte) ∈ (viewOf memory readable).take memory.length := by
    rw [htake]
    exact hmem
  unfold Copies
  rw [if_pos hin]
  have hlt := (zero_mem_take_iff (List.mem_of_mem_take hin) memory.length).mp hin
  omega

theorem Calm.keepsTurn {e : HandoffEvent C W} (h : Calm cfg s) (hfit : Fitting cfg s)
    (he : GoesWell cfg e) : KeepsTurn cfg s e := by
  cases e with
  | clientMap i mapped => exact .inr he
  | clientCopy i =>
    intro data hpc
    have hroom := h.clients i
    rw [hpc] at hroom
    cases hroom.1
  | clientUnmap i unmapped => exact .inr he
  | clientSignal i signalled => exact he
  | waiterPost posted => exact he
  | getMap w readable => exact he
  | getCopy w =>
    intro size readable hpc
    have hsize := hfit.workers w
    rw [hpc] at hsize
    obtain ⟨rfl, hview⟩ : size = cfg.bufferSize ∧ cfg.bufferSize ≤ readable := hsize
    rw [← hfit.memory] at hview ⊢
    exact copies_of_terminated h.terminated hview
  | getUnmap w unmapped => exact .inr he
  | getSignal w signalled => exact he
  | exit w => cases he
  | writeData _ _ _ | waiterWake | waiterFails | waiterExit | otherPacket | dequeue _
  | handleOther _ | getData _ _ | finish _ | stop | close => trivial

theorem Calm.setClient (h : Calm cfg s) {i : Fin C} (pc : ClientPc)
    (hpc : ClientPc.LeavesRoom cfg.bufferSize pc) :
    ∀ j, ClientPc.LeavesRoom cfg.bufferSize ((s.setClient i pc).clients j) :=
  (Function.forall_update_iff _ fun _ (pc : ClientPc) =>
    ClientPc.LeavesRoom cfg.bufferSize pc).mpr ⟨hpc, fun j _ => h.clients j⟩

theorem Calm.setWorker (h : Calm cfg s) {w : Fin W} (pc : WorkerPc) (hpc : pc ≠ .exited) :
    ∀ v, (s.setWorker w pc).workers v ≠ .exited :=
  (Function.forall_update_iff _ fun _ (pc : WorkerPc) => pc ≠ .exited).mpr
    ⟨hpc, fun v _ => h.workers v⟩

/-- Every such line brings the turn nearer to `svToCl`, and the texts to their
handlers. -/
theorem calm_step {e : HandoffEvent C W} (h : Calm cfg s) (hfit : Fitting cfg s)
    (he : GoesWell cfg e) (hs : step cfg s e = some s') : Calm cfg s' ∧ s'.left < s.left := by
  have hturn : s'.turn = 1 :=
    ((step_turn (Nat.le_of_eq h.turn) hs).1 (h.keepsTurn hfit he)).trans h.turn
  cases steps_of_step hs with
  | waits | takesTurn | waiterStops | otherPacket | exits | stop | close => cases he
  | waitFails | postFails => cases he
  | mapFails => exact absurd rfl he
  | @mapped i mapped data hpc hfits =>
    have hroom := h.clients i
    rw [hpc] at hroom
    have hacc := left_setClient s i (.copying mapped data)
    rw [hpc] at hacc
    exact ⟨⟨hturn, h.running, h.waiter, h.workers, h.setClient _ ⟨he, hroom⟩, h.terminated⟩, by
      simp only [ClientPc.left] at hacc
      omega⟩
  | @copied i mapped data memory' hpc hcopy =>
    have hroom := h.clients i
    rw [hpc] at hroom
    have hacc := left_setClient s i .unmapping
    rw [hpc] at hacc
    refine ⟨⟨hturn, h.running, h.waiter, h.workers, h.setClient .unmapping trivial, ?_⟩, ?_⟩
    · show memory'.getLast? = some 0
      rw [memcpy_written hcopy, getLast?_overwrite (by rw [hfit.memory]; exact hroom.2)]
      exact h.terminated
    · show (s.setClient i .unmapping).left < s.left
      simp only [ClientPc.left] at hacc
      omega
  | @unmapped i unmapped hpc =>
    have hacc := left_setClient s i .signalling
    rw [hpc] at hacc
    exact ⟨⟨hturn, h.running, h.waiter, h.workers, h.setClient _ trivial, h.terminated⟩, by
      simp only [ClientPc.left] at hacc
      omega⟩
  | @signalled i hpc =>
    have hacc := left_setClient s i .idle
    rw [hpc] at hacc
    refine ⟨⟨hturn, h.running, h.waiter, h.workers, h.setClient .idle trivial,
      h.terminated⟩, ?_⟩
    simp only [left, Handoff.setClient, ClientPc.left, Option.isSome_some, Bool.toNat_true]
      at hacc ⊢
    omega
  | clientDrops hof hpc hnew hcopy =>
    -- the turn would be lost
    rcases hnew with rfl | rfl
    · have hlost : (s.setClient _ .died).turn + 1 = s.turn := turn_dropClient hpc rfl
      have := h.turn
      omega
    · have hlost : (s.setClient _ .idle).turn + 1 = s.turn := turn_dropClient hpc rfl
      have := h.turn
      omega
  | @wakes write hpc hset =>
    refine ⟨⟨hturn, h.running, by simp, h.workers, h.clients, h.terminated⟩, ?_⟩
    simp only [left, hpc, hset, WaiterPc.left, Option.isSome_some, Option.isSome_none,
      Bool.toNat_true, Bool.toNat_false]
    omega
  | @posts write hpc =>
    refine ⟨⟨hturn, h.running, by simp, h.workers, h.clients, h.terminated⟩, ?_⟩
    simp only [left, hpc, WaiterPc.left, List.map_append, List.sum_append, List.map_cons,
      List.map_nil, List.sum_cons, List.sum_nil, Completion.left]
    omega
  | @dequeues w packet rest hpc hiocp =>
    have hacc := left_setWorker s w (.dequeued packet)
    rw [hpc] at hacc
    refine ⟨⟨hturn, h.running, h.waiter, h.setWorker (.dequeued packet) (by simp), h.clients,
      h.terminated⟩, ?_⟩
    cases packet with
    | sharedMemory write =>
      simp only [left, Handoff.setWorker, hiocp, List.map_cons, List.sum_cons, Completion.left,
        WorkerPc.left] at hacc ⊢
      omega
    | other =>
      simp only [left, Handoff.setWorker, hiocp, List.map_cons, List.sum_cons, Completion.left,
        WorkerPc.left] at hacc ⊢
      omega
  | @handlesOther w hpc =>
    have hacc := left_setWorker s w .idle
    rw [hpc] at hacc
    exact ⟨⟨hturn, h.running, h.waiter, h.setWorker _ (by simp), h.clients, h.terminated⟩, by
      simp only [WorkerPc.left] at hacc
      omega⟩
  | @locks w size write hpc hfree =>
    have hacc := left_setWorker s w (.mapping size)
    rw [hpc] at hacc
    refine ⟨⟨hturn, h.running, h.waiter, h.setWorker (.mapping size) (by simp), h.clients,
      h.terminated⟩, ?_⟩
    show (s.setWorker w (.mapping size)).left < s.left
    simp only [WorkerPc.left] at hacc
    omega
  | @maps w size readable hpc hview =>
    have hacc := left_setWorker s w (.copying size readable)
    rw [hpc] at hacc
    exact ⟨⟨hturn, h.running, h.waiter, h.setWorker _ (by simp), h.clients, h.terminated⟩, by
      simp only [WorkerPc.left] at hacc
      omega⟩
  | @copies w size readable sharedMemSize buffer' hpc hcopy =>
    have hacc := left_setWorker s w (.unmapping size sharedMemSize)
    rw [hpc] at hacc
    refine ⟨⟨hturn, h.running, h.waiter, h.setWorker (.unmapping size sharedMemSize)
      (by simp), h.clients, h.terminated⟩, ?_⟩
    show (s.setWorker w (.unmapping size sharedMemSize)).left < s.left
    simp only [WorkerPc.left] at hacc
    omega
  | @unmaps w size sharedMemSize unmapped hpc =>
    have hacc := left_setWorker s w (.signalling size sharedMemSize)
    rw [hpc] at hacc
    exact ⟨⟨hturn, h.running, h.waiter, h.setWorker _ (by simp), h.clients, h.terminated⟩, by
      simp only [WorkerPc.left] at hacc
      omega⟩
  | @refuses w size sharedMemSize signalled hpc hlong =>
    have hsize := hfit.workers w
    rw [hpc] at hsize
    exact absurd hlong (Nat.not_lt.mpr hsize)
  | @signals w size sharedMemSize signalled hpc hfits =>
    have hacc := left_setWorker s w (.handling sharedMemSize)
    rw [hpc] at hacc
    refine ⟨⟨hturn, h.running, h.waiter, h.setWorker (.handling sharedMemSize) (by simp),
      h.clients, h.terminated⟩, ?_⟩
    show (s.setWorker w (.handling sharedMemSize)).left < s.left
    simp only [WorkerPc.left] at hacc
    omega
  | @crashes w e hof hpc =>
    have hlost : (s.setWorker w .exited).turn + 1 = s.turn := turn_dropWorker hpc rfl
    have hlost : (s.crash w).turn + 1 = s.turn := hlost
    have := h.turn
    omega
  | @finishes w recv hpc =>
    have hacc := left_setWorker s w .idle
    rw [hpc] at hacc
    refine ⟨⟨hturn, h.running, h.waiter, h.setWorker .idle (by simp), h.clients,
      h.terminated⟩, ?_⟩
    show (s.setWorker w .idle).left < s.left
    simp only [WorkerPc.left] at hacc
    omega

/-! ## A line is due -/

/-- A client with the turn has a next line. -/
theorem exists_clientLine (h : Calm cfg s) {i : Fin C} (hpc : (s.clients i).holdsTurn ≠ 0) :
    ∃ e, GoesWell cfg e ∧ (step cfg s e).isSome := by
  have hroom := h.clients i
  cases hc : s.clients i with
  | idle | died =>
    rw [hc] at hpc
    exact absurd rfl hpc
  | mapping data =>
    rw [hc] at hroom
    have hroom : data.length < cfg.bufferSize := hroom
    have hnot : ¬ (true && decide (cfg.bufferSize < data.length)) = true := by simp; omega
    refine ⟨.clientMap i true, rfl, ?_⟩
    simp only [step, clientStep, hc, if_neg hnot, Build.asserts_true, if_true, Option.isSome_some]
  | copying mapped data =>
    rw [hc] at hroom
    obtain ⟨rfl, -⟩ := hroom
    refine ⟨.clientCopy i, trivial, ?_⟩
    simp only [step, clientStep, hc, memcpy, if_true, Option.isSome_some]
  | unmapping =>
    refine ⟨.clientUnmap i true, rfl, ?_⟩
    simp only [step, clientStep, hc, Build.asserts_true, if_true, Option.isSome_some]
  | signalling =>
    refine ⟨.clientSignal i true, rfl, ?_⟩
    rw [step_signal hc, Option.isSome_some]

/-- A worker that is neither idle nor waiting for the lock has one. -/
theorem exists_workerLine (h : Calm cfg s) (hfit : Fitting cfg s) {w : Fin W}
    (hidle : s.workers w ≠ .idle)
    (hlock : ∀ write, s.workers w = .dequeued (.sharedMemory write) → s.shMemBufferCS = false) :
    ∃ e, GoesWell cfg e ∧ (step cfg s e).isSome := by
  have hrun := h.running
  cases hw : s.workers w with
  | idle => exact absurd hw hidle
  | exited => exact absurd hw (h.workers w)
  | dequeued packet =>
    cases packet with
    | sharedMemory write =>
      have hfree := hlock write hw
      refine ⟨.getData w cfg.bufferSize, rfl, ?_⟩
      simp [step, hrun, workerStep, hw, hfree]
    | other =>
      refine ⟨.handleOther w, trivial, ?_⟩
      simp only [step, hrun, workerStep, hw, if_true, Option.isSome_some]
  | mapping size =>
    refine ⟨.getMap w (some (cfg.requested size)), Option.some_ne_none _, ?_⟩
    simp [step, hrun, workerStep, hw]
  | copying size readable =>
    have hcopies := h.keepsTurn (e := .getCopy w) hfit trivial size readable hw
    have hsome : (copyText cfg.build cfg.bufferSize (viewOf s.memory readable)
        s.sharedMemoryBuffer size).isSome := copyText_isSome_iff.mpr hcopies
    refine ⟨.getCopy w, trivial, ?_⟩
    obtain ⟨⟨sharedMemSize, buffer'⟩, hcopy⟩ := Option.isSome_iff_exists.mp hsome
    simp only [step, hrun, workerStep, hw, hcopy, if_true, Option.isSome_some]
  | unmapping size sharedMemSize =>
    refine ⟨.getUnmap w true, rfl, ?_⟩
    simp only [step, hrun, workerStep, hw, Build.asserts_true, if_true, Option.isSome_some]
  | signalling size sharedMemSize =>
    have hsize := hfit.workers w
    rw [hw] at hsize
    have hfits : ¬ size < sharedMemSize := Nat.not_lt.mpr hsize
    refine ⟨.getSignal w true, rfl, ?_⟩
    simp only [step, hrun, workerStep, hw, Build.asserts_true, if_true, if_neg hfits,
      Option.isSome_some]
  | handling recv =>
    refine ⟨.finish w, trivial, ?_⟩
    simp only [step, hrun, workerStep, hw, if_true, Option.isSome_some]

/-- The turn is back at `svToCl`, and all texts are handled. -/
def Settled (s : Handoff C W) : Prop := s.svToCl = true ∧ s.inHand = 0

theorem exists_line (h : Calm cfg s) (hfit : Fitting cfg s) (hworkers : 0 < W)
    (hnot : ¬ Settled s) : ∃ e, GoesWell cfg e ∧ (step cfg s e).isSome := by
  have hrun := h.running
  by_cases hidle : ∀ w, s.workers w = .idle
  · -- nobody has a text in hand, so the turn is on its way to the workers
    have hworkerTurn : Pool.total WorkerPc.holdsTurn s.workers = 0 :=
      Pool.total_eq_zero fun w => by rw [hidle w]; rfl
    have hinHand : s.inHand = 0 := Pool.total_eq_zero fun w => by rw [hidle w]; rfl
    have hturn := h.turn
    unfold turn at hturn
    cases hiocp : s.iocp with
    | cons packet rest =>
      refine ⟨.dequeue ⟨0, hworkers⟩, trivial, ?_⟩
      rw [step_dequeue hrun (hidle _) hiocp, Option.isSome_some]
    | nil =>
      cases hwaiter : s.waiter with
      | stopped => exact absurd hwaiter h.waiter
      | posting write =>
        refine ⟨.waiterPost true, rfl, ?_⟩
        simp only [step, hrun, waiterStep, hwaiter, if_true, Option.isSome_some]
      | waiting =>
        cases hset : s.clToSv with
        | some write =>
          refine ⟨.waiterWake, trivial, ?_⟩
          rw [step_wake hrun hwaiter hset, Option.isSome_some]
        | none =>
          have hsv : s.svToCl = false := by
            cases hsv : s.svToCl with
            | true => exact absurd ⟨hsv, hinHand⟩ hnot
            | false => rfl
          simp only [hworkerTurn, hiocp, hwaiter, hset, hsv, WaiterPc.holdsTurn,
            Option.isSome_none, Bool.toNat_false, List.countP_nil] at hturn
          obtain ⟨i, hi⟩ := Pool.exists_ne_zero
            (show Pool.total ClientPc.holdsTurn s.clients ≠ 0 by omega)
          exact exists_clientLine h hi
  · obtain ⟨w, hw⟩ := not_forall.mp hidle
    by_cases hlock : s.shMemBufferCS = true
    · -- the one that has the lock
      have hheld := hfit.held hrun
      rw [hlock, Bool.toNat_true] at hheld
      obtain ⟨v, hv⟩ := Pool.exists_ne_zero
        (show Pool.total WorkerPc.locked s.workers ≠ 0 by omega)
      refine exists_workerLine h hfit (w := v) ?_ ?_
      · intro hpc
        rw [hpc] at hv
        exact hv rfl
      · intro write hpc
        rw [hpc] at hv
        exact absurd rfl hv
    · exact exists_workerLine h hfit hw fun _ _ => Bool.eq_false_iff.mpr hlock

/-! ## The threads that are gone -/

/-- A worker has exited, and the waiter has, only where they were told to or the
process has ended. -/
structure Staffed (s : Handoff C W) : Prop where
  workers : ∀ w, s.workers w = .exited → s.stopping = true ∨ s.running = false
  waiter : s.waiter = .stopped → s.closing = true ∨ s.running = false

theorem Staffed.setWorker (h : Staffed s) {w : Fin W} (pc : WorkerPc) (hpc : pc ≠ .exited) :
    ∀ v, (s.setWorker w pc).workers v = .exited → s.stopping = true ∨ s.running = false :=
  (Function.forall_update_iff _ fun _ (pc : WorkerPc) =>
    pc = .exited → s.stopping = true ∨ s.running = false).mpr
      ⟨fun h => absurd h hpc, fun v _ => h.workers v⟩

theorem staffed_init (cfg : HandoffConfig) (C W : Nat) : Staffed (init cfg C W) where
  workers := fun _ h => (by cases h)
  waiter := fun h => (by cases h)

theorem staffed_step {e : HandoffEvent C W} (h : Staffed s) (hs : Steps cfg s e s') :
    Staffed s' := by
  cases hs with
  | waits | takesTurn | mapped | copied | unmapped | signalled | clientDrops | otherPacket =>
    exact { h with }
  | wakes => exact { h with waiter := fun hc => (by cases hc) }
  | posts => exact { h with waiter := fun hc => (by cases hc) }
  | @waitFails pc running hpc hnew hrun | @postFails write pc running hpc hnew hrun =>
    cases running with
    | false => exact ⟨fun _ _ => .inr rfl, fun _ => .inr rfl⟩
    | true =>
      obtain ⟨hup, rfl⟩ := hrun rfl
      refine ⟨fun w hw => (h.workers w hw).imp_right fun hdown => ?_, fun hc => (by cases hc)⟩
      rw [hup] at hdown
      cases hdown
  | waiterStops hpc hset hclose => exact { h with waiter := fun _ => .inl hclose }
  | dequeues => exact ⟨h.setWorker (.dequeued _) (by simp), h.waiter⟩
  | @exits w packet hpc hstop => exact ⟨fun _ _ => .inl hstop, h.waiter⟩
  | handlesOther => exact ⟨h.setWorker _ (by simp), h.waiter⟩
  | locks => exact ⟨h.setWorker (.mapping _) (by simp), h.waiter⟩
  | mapFails => exact ⟨h.setWorker .idle (by simp), h.waiter⟩
  | maps => exact ⟨h.setWorker _ (by simp), h.waiter⟩
  | copies => exact ⟨h.setWorker (.unmapping _ _) (by simp), h.waiter⟩
  | unmaps => exact ⟨h.setWorker _ (by simp), h.waiter⟩
  | refuses => exact ⟨h.setWorker .idle (by simp), h.waiter⟩
  | signals => exact ⟨h.setWorker (.handling _) (by simp), h.waiter⟩
  | crashes => exact ⟨fun _ _ => .inr rfl, fun _ => .inr rfl⟩
  | finishes => exact ⟨h.setWorker .idle (by simp), h.waiter⟩
  | stop => exact ⟨fun _ _ => .inl rfl, h.waiter⟩
  | close => exact ⟨h.workers, fun _ => .inl rfl⟩

/-! ## The way back -/

/-- What is known of every run whose messages leave room for a terminator. -/
structure Roomy (cfg : HandoffConfig) (s : Handoff C W × Traffic) : Prop where
  sequenced : Sequenced cfg s
  staffed : Staffed s.1
  clients : ∀ i, (s.1.clients i).Carries fun data => data.length < cfg.bufferSize
  terminated : s.1.memory.getLast? = some 0

theorem roomy_init (hpos : 0 < cfg.bufferSize) : Roomy cfg (init cfg C W, ⟨[], []⟩) := by
  refine ⟨sequenced_init cfg C W, staffed_init cfg C W, fun _ => trivial, ?_⟩
  show (List.replicate cfg.bufferSize (0 : Byte)).getLast? = some 0
  rw [List.getLast?_replicate, if_neg (by omega)]

/-- The last byte of the mapping stays as it is. -/
theorem terminated_step {e : HandoffEvent C W} (hfit : Fitting cfg s)
    (hclients : ∀ i, (s.clients i).Carries fun data => data.length < cfg.bufferSize)
    (h : s.memory.getLast? = some 0) (hs : Steps cfg s e s') : s'.memory.getLast? = some 0 := by
  cases hs with
  | @copied i mapped data memory' hpc hcopy =>
    have hdata := hclients i
    rw [hpc] at hdata
    have hdata : data.length < cfg.bufferSize := hdata
    show memory'.getLast? = some 0
    rw [memcpy_written hcopy, getLast?_overwrite (by rw [hfit.memory]; exact hdata)]
    exact h
  | _ => exact h

theorem roomy_step {s s' : Handoff C W × Traffic} {e : HandoffEvent C W} (h : Roomy cfg s)
    (hfull : FullBuffer cfg e) (hwrites : Writes (fun data => data.length < cfg.bufferSize) e)
    (hs : (recorded cfg C W).step s e = some s') : Roomy cfg s' := by
  have hsteps := steps_of_step (Machine.observed_step.mp hs).1
  exact ⟨sequenced_step h.sequenced hfull hs, staffed_step h.staffed hsteps,
    carries_step h.clients hwrites hsteps,
    terminated_step h.sequenced.fitting h.clients h.terminated hsteps⟩

theorem roomy_exec {es : List (HandoffEvent C W)} {s : Handoff C W × Traffic}
    (hpos : 0 < cfg.bufferSize) (hfull : ∀ e ∈ es, FullBuffer cfg e)
    (hwrites : ∀ e ∈ es, Writes (fun data => data.length < cfg.bufferSize) e)
    (hs : (recorded cfg C W).exec (init cfg C W, ⟨[], []⟩) es = some s) : Roomy cfg s := by
  have halways : (recorded cfg C W).Always (Roomy cfg) (init cfg C W, ⟨[], []⟩) es :=
    Machine.always_of_eachStep (I := Roomy cfg)
      (Q := fun _ e =>
        FullBuffer cfg e ∧ Writes (fun data => data.length < cfg.bufferSize) e)
      (fun _ h => h) (fun _ _ _ h hs hQ => roomy_step h hQ.1 hQ.2 hs) (roomy_init hpos)
      (Machine.eachStep_of_forall_mem fun e he => ⟨hfull e he, hwrites e he⟩)
  exact Machine.always_iff.mp halways es s (List.prefix_refl _) hs

theorem calm_of_roomy {s : Handoff C W × Traffic} (h : Roomy cfg s) (hturn : s.1.turn = 1)
    (hrun : s.1.running = true) (hstop : s.1.stopping = false) (hclose : s.1.closing = false)
    (hview : ∀ i data, s.1.clients i ≠ .copying false data) : Calm cfg s.1 := by
  refine ⟨hturn, hrun, fun hw => ?_, fun w hw => ?_, fun i => ?_, h.terminated⟩
  · rcases h.staffed.waiter hw with hc | hc
    · rw [hclose] at hc
      cases hc
    · rw [hrun] at hc
      cases hc
  · rcases h.staffed.workers w hw with hc | hc
    · rw [hstop] at hc
      cases hc
    · rw [hrun] at hc
      cases hc
  · have hdata := h.clients i
    cases hpc : s.1.clients i with
    | copying mapped data =>
      rw [hpc] at hdata
      cases mapped with
      | true => exact ⟨rfl, hdata⟩
      | false => exact absurd hpc (hview i data)
    | mapping data =>
      rw [hpc] at hdata
      exact hdata
    | idle | unmapping | signalling | died => trivial

/-- A line that goes well is one with the whole buffer, and no new message. -/
theorem GoesWell.fullBuffer {e : HandoffEvent C W} (he : GoesWell cfg e) : FullBuffer cfg e := by
  rintro w size rfl
  exact he

theorem written_extends (s : Handoff C W) (e : HandoffEvent C W) (g : Traffic) :
    g.written <+: (traffic s e g).written := by
  unfold traffic
  split
  · split
    · split
      · exact List.prefix_append _ _
      · exact List.prefix_refl _
    · exact List.prefix_refl _
  · exact List.prefix_refl _
  · exact List.prefix_refl _

theorem handled_of_settled {s : Handoff C W × Traffic} (h : Sequenced cfg s)
    (hturn : s.1.turn = 1) (hsettled : Settled s.1) :
    s.2.handled = textsAfter (zeros cfg) s.2.written := by
  obtain ⟨missing, htexts, hmissing⟩ := h.located.texts
  have hbound := unread_le_turn s.1
  rw [hsettled.1, Bool.toNat_true, hturn] at hbound
  have hnone : missing = [] := List.eq_nil_of_length_eq_zero (by omega)
  have hunread : s.1.unread = 0 := by omega
  rw [hsettled.2, hunread, hnone] at htexts
  simpa using htexts

/-- **The turn always finds its way back**: in every run whose workers pass their
whole buffer and whose messages leave room for a terminator, from every state in
which the turn is not lost, the server is up and no client is about to write
without a view, lines that go well lead to a state in which the next client may
write and every text that was written is handled, those of the clients in
`writeData` included. -/
theorem handoff_settles {cfg : HandoffConfig} {C W : Nat} (hpos : 0 < cfg.bufferSize)
    (hworkers : 0 < W) {es : List (HandoffEvent C W)} (hfull : ∀ e ∈ es, FullBuffer cfg e)
    (hwrites : ∀ e ∈ es, Writes (fun data => data.length < cfg.bufferSize) e)
    {s : Handoff C W × Traffic}
    (hs : (recorded cfg C W).exec (init cfg C W, ⟨[], []⟩) es = some s)
    (hturn : s.1.turn = 1) (hrun : s.1.running = true) (hstop : s.1.stopping = false)
    (hclose : s.1.closing = false) (hview : ∀ i data, s.1.clients i ≠ .copying false data) :
    ∃ fs t, (recorded cfg C W).exec s fs = some t ∧ (∀ e ∈ fs, GoesWell cfg e) ∧
      t.1.svToCl = true ∧ s.2.written <+: t.2.written ∧
      t.2.handled = textsAfter (zeros cfg) t.2.written := by
  have hroomy := roomy_exec hpos hfull hwrites hs
  have hprog : ∀ t : Handoff C W × Traffic,
      Sequenced cfg t ∧ Calm cfg t.1 ∧ s.2.written <+: t.2.written → ¬ Settled t.1 →
      ∃ e t', GoesWell cfg e ∧ (recorded cfg C W).step t e = some t' ∧
        (Sequenced cfg t' ∧ Calm cfg t'.1 ∧ s.2.written <+: t'.2.written) ∧
        t'.1.left < t.1.left := by
    rintro t ⟨hseq, hcalm, hprefix⟩ hnot
    obtain ⟨e, he, hsome⟩ := exists_line hcalm hseq.fitting hworkers hnot
    obtain ⟨t', ht'⟩ := Option.isSome_iff_exists.mp hsome
    obtain ⟨hcalm', hlt⟩ := calm_step hcalm hseq.fitting he ht'
    have hstep : (recorded cfg C W).step t e = some (t', traffic t.1 e t.2) :=
      Machine.observed_step.mpr ⟨ht', rfl⟩
    exact ⟨e, (t', traffic t.1 e t.2), he, hstep,
      ⟨sequenced_step hseq he.fullBuffer hstep, hcalm',
        hprefix.trans (written_extends t.1 e t.2)⟩, hlt⟩
  obtain ⟨fs, t, hexec, ⟨hseq, hcalm, hprefix⟩, hsettled, hwell, -⟩ :=
    Machine.exists_exec_of_measure hprog
      ⟨hroomy.sequenced, calm_of_roomy hroomy hturn hrun hstop hclose hview, List.prefix_refl _⟩
  exact ⟨fs, t, hexec, hwell, hsettled.1, hprefix,
    handled_of_settled hseq hcalm.turn hsettled⟩

/-- A client has written `"ab"` and is about to tell the server. -/
def halfway : List (HandoffEvent 1 2) :=
  [.writeData ⟨0, Nat.zero_lt_one⟩ .object0 [97, 98], .clientMap ⟨0, Nat.zero_lt_one⟩ true,
    .clientCopy ⟨0, Nat.zero_lt_one⟩, .clientUnmap ⟨0, Nat.zero_lt_one⟩ true]

theorem handoff_settles_halfway :
    ∃ s fs t, (recorded ⟨.debug, 4⟩ 1 2).exec (init ⟨.debug, 4⟩ 1 2, ⟨[], []⟩) halfway = some s ∧
      (recorded ⟨.debug, 4⟩ 1 2).exec s fs = some t ∧ t.1.svToCl = true ∧
      t.2.handled = textsAfter (zeros ⟨.debug, 4⟩) t.2.written := by
  obtain ⟨s, hs, hturn, hrun, hstop, hclose, hpc⟩ : ∃ s,
      (recorded ⟨.debug, 4⟩ 1 2).exec (init ⟨.debug, 4⟩ 1 2, ⟨[], []⟩) halfway = some s ∧
      s.1.turn = 1 ∧ s.1.running = true ∧ s.1.stopping = false ∧ s.1.closing = false ∧
      s.1.clients 0 = .signalling := ⟨_, rfl, by decide, rfl, rfl, rfl, rfl⟩
  have hfull : ∀ e ∈ halfway, FullBuffer ⟨.debug, 4⟩ e := by
    rintro e he w size rfl
    simp [halfway] at he
  have hwrites : ∀ e ∈ halfway, Writes (fun data => data.length < 4) e := by
    rintro e he i wait data rfl
    have hdata : i = 0 ∧ wait = .object0 ∧ data = [97, 98] := by simpa [halfway] using he
    rw [hdata.2.2]
    decide
  have hview : ∀ i data, s.1.clients i ≠ .copying false data := by
    intro i data hc
    rw [Fin.eq_zero i, hpc] at hc
    cases hc
  obtain ⟨fs, t, ht, -, hset, -, hhandled⟩ := handoff_settles (W := 2)
    (by decide) (by decide) hfull hwrites hs hturn hrun hstop hclose hview
  exact ⟨s, fs, t, hs, ht, hset, hhandled⟩

end Handoff

end Task6
