import Task6.SharedMemory.Handoff

/-!
# Where the turn is

One logical token circulates: `svToCl`, a client that writes, `clToSv`, the
waiter, a packet of the iocp, a worker that reads. `turn` counts it over all
these places; a step moves it or, where it does not meet `KeepsTurn`, loses it
(`step_turn`).
-/

namespace Task6

open NulText

/-- Between the successful wait on `svToCl` and `SetEvent(clToSv)`. -/
def ClientPc.holdsTurn : ClientPc → Nat
  | idle | died => 0
  | mapping _ | copying _ _ | unmapping | signalling => 1

/-- Between the wait and `PostQueuedCompletionStatus`. -/
def WaiterPc.holdsTurn : WaiterPc → Nat
  | waiting | stopped => 0
  | posting _ => 1

/-- Between dequeuing a shared-memory packet and `SetEvent(svToCl)`. -/
def WorkerPc.holdsTurn : WorkerPc → Nat
  | idle | dequeued .other | handling _ | exited => 0
  | dequeued (.sharedMemory _) | mapping _ | copying _ _ | unmapping _ _ | signalling _ _ => 1

/-- The text is found inside the view and, when `getData` copies it, fits: its
length is anything but the size of the buffer. Without a NUL in the mapping the
copy runs on to one behind it. -/
def Copies (bufferSize size : Nat) (view : List Byte) : Prop :=
  if 0 ∈ view.take bufferSize then (text view).length ≠ size
  else bufferSize ≤ view.length ∧ (size < bufferSize ∨ 0 ∈ view.take size)

theorem zero_mem_take_iff {view : List Byte} (h : 0 ∈ view) (n : Nat) :
    0 ∈ view.take n ↔ (text view).length < n := by
  obtain ⟨rest, hrest⟩ := eq_text_append h
  constructor
  · intro hz
    rw [hrest] at hz
    exact (zero_mem_take_terminated (zero_not_mem_text view) n).mp hz
  · intro hlt
    rw [hrest]
    exact (zero_mem_take_terminated (zero_not_mem_text view) n).mpr hlt

theorem copyText_isSome_iff {build : Build} {bufferSize size : Nat} {view buffer : List Byte} :
    (copyText build bufferSize view buffer size).isSome ↔ Copies bufferSize size view := by
  unfold copyText strnlenS Copies
  by_cases hz : 0 ∈ view.take bufferSize
  · rw [if_pos hz, if_pos hz]
    have hfit := zero_mem_take_iff (List.mem_of_mem_take hz) size
    show Option.isSome (if (text view).length ≤ size then _ else _) = true ↔ _
    by_cases hle : (text view).length ≤ size
    · rw [if_pos hle, Option.isSome_map, strcpyS]
      by_cases hs : 0 ∈ view.take size
      · rw [if_pos hs]
        have := hfit.mp hs
        exact iff_of_true rfl (by omega)
      · rw [if_neg hs]
        have hnot := mt hfit.mpr hs
        exact iff_of_false (by simp) (by omega)
    · rw [if_neg hle]
      exact iff_of_true rfl (by omega)
  · rw [if_neg hz, if_neg hz]
    by_cases hview : bufferSize ≤ view.length
    · rw [if_pos hview]
      show Option.isSome (if bufferSize ≤ size then _ else _) = true ↔ _
      by_cases hle : bufferSize ≤ size
      · rw [if_pos hle, Option.isSome_map, strcpyS]
        by_cases hs : 0 ∈ view.take size
        · rw [if_pos hs]
          exact iff_of_true rfl ⟨hview, .inr hs⟩
        · rw [if_neg hs]
          refine iff_of_false (by simp) ?_
          rintro ⟨-, hlt | hmem⟩
          · omega
          · exact hs hmem
      · rw [if_neg hle]
        exact iff_of_true rfl ⟨hview, .inl (by omega)⟩
    · rw [if_neg hview]
      exact iff_of_false (by simp) fun h => hview h.1

namespace Handoff

variable {C W : Nat}

/-- Where the turn is, counted over all the places it can be at. -/
def turn (s : Handoff C W) : Nat :=
  s.svToCl.toNat + Pool.total ClientPc.holdsTurn s.clients + s.clToSv.isSome.toNat
    + s.waiter.holdsTurn + s.iocp.countP Completion.isSharedMemory
    + Pool.total WorkerPc.holdsTurn s.workers

/-- The steps that lose no turn, by what Windows answers and what is in the
memory: no call that an assertion guards fails, no `SetEvent` and no post fails,
the server's view is granted, the text fits its copy, and no worker leaves with
a packet in hand. -/
def KeepsTurn (cfg : HandoffConfig) (s : Handoff C W) : HandoffEvent C W → Prop
  | .clientMap _ mapped => cfg.build = .release ∨ mapped = true
  | .clientCopy i => ∀ data, s.clients i = .copying false data → data = []
  | .clientUnmap _ unmapped => cfg.build = .release ∨ unmapped = true
  | .clientSignal _ signalled => signalled = true
  | .waiterPost posted => posted = true
  | .getMap _ readable => readable ≠ none
  | .getCopy w => ∀ size readable, s.workers w = .copying size readable →
      Copies cfg.bufferSize size (viewOf s.memory readable)
  | .getUnmap _ unmapped => cfg.build = .release ∨ unmapped = true
  | .getSignal _ signalled => signalled = true
  | .exit w => ∀ write, s.workers w ≠ .dequeued (.sharedMemory write)
  | _ => True

theorem asserts_iff {build : Build} {b : Bool} :
    build.asserts b = true ↔ build = .release ∨ b = true := by
  cases build <;> simp [Build.asserts]

theorem total_setClient (s : Handoff C W) (i : Fin C) (pc : ClientPc) :
    Pool.total ClientPc.holdsTurn (Function.update s.clients i pc)
        + (s.clients i).holdsTurn
      = Pool.total ClientPc.holdsTurn s.clients + pc.holdsTurn :=
  Pool.total_update _ _ _ _

theorem total_setWorker (s : Handoff C W) (w : Fin W) (pc : WorkerPc) :
    Pool.total WorkerPc.holdsTurn (Function.update s.workers w pc)
        + (s.workers w).holdsTurn
      = Pool.total WorkerPc.holdsTurn s.workers + pc.holdsTurn :=
  Pool.total_update _ _ _ _

/-- The effect of a step on the turn: it is kept, or one is lost. -/
def Balance (s s' : Handoff C W) (kept : Prop) : Prop :=
  (kept → s'.turn = s.turn) ∧ (¬ kept → s'.turn + 1 = s.turn)

theorem Balance.kept {s s' : Handoff C W} {kept : Prop} (h : s'.turn = s.turn) (hk : kept) :
    Balance s s' kept :=
  ⟨fun _ => h, fun hn => absurd hk hn⟩

theorem Balance.lost {s s' : Handoff C W} {kept : Prop} (h : s'.turn + 1 = s.turn)
    (hk : ¬ kept) : Balance s s' kept :=
  ⟨fun hp => absurd hp hk, fun _ => h⟩

section Moves

variable {s : Handoff C W} {i : Fin C} {w : Fin W}

/-- A client moves on with what it holds. -/
theorem turn_setClient {pc : ClientPc} (h : pc.holdsTurn = (s.clients i).holdsTurn) :
    (s.setClient i pc).turn = s.turn := by
  have hacc := total_setClient s i pc
  simp only [turn, setClient]
  omega

/-- A client leaves the cycle with the turn. -/
theorem turn_dropClient {pc : ClientPc} (hold : (s.clients i).holdsTurn = 1)
    (hnew : pc.holdsTurn = 0) : (s.setClient i pc).turn + 1 = s.turn := by
  have hacc := total_setClient s i pc
  simp only [turn, setClient]
  omega

theorem turn_setWorker {pc : WorkerPc} (h : pc.holdsTurn = (s.workers w).holdsTurn) :
    (s.setWorker w pc).turn = s.turn := by
  have hacc := total_setWorker s w pc
  simp only [turn, setWorker]
  omega

theorem turn_dropWorker {pc : WorkerPc} (hold : (s.workers w).holdsTurn = 1)
    (hnew : pc.holdsTurn = 0) : (s.setWorker w pc).turn + 1 = s.turn := by
  have hacc := total_setWorker s w pc
  simp only [turn, setWorker]
  omega

end Moves

variable {cfg : HandoffConfig} {s s' : Handoff C W}

theorem writeData_balance {i : Fin C} {wait : WaitResult} {data : List Byte}
    (hs : s.clientStep cfg i (.writeData i wait data) = some s') : s'.turn = s.turn := by
  simp only [clientStep] at hs
  split at hs
  · rename_i hpc
    split at hs
    · rename_i hsv
      cases hs
      have hacc := total_setClient s i (.mapping data)
      rw [hpc] at hacc
      simp only [turn, setClient, hsv, ClientPc.holdsTurn, Bool.toNat_true, Bool.toNat_false]
        at hacc ⊢
      omega
    · cases hs
  · cases hs
    rfl
  · cases hs
    rfl
  · cases hs

theorem clientMap_balance {i : Fin C} {mapped : Bool}
    (hs : s.clientStep cfg i (.clientMap i mapped) = some s') :
    Balance s s' (KeepsTurn cfg s (.clientMap i mapped)) := by
  simp only [clientStep] at hs
  split at hs
  · rename_i data hpc
    split at hs
    · cases hs
    · split at hs
      · rename_i ha
        cases hs
        exact .kept (turn_setClient (by rw [hpc]; rfl)) (asserts_iff.mp ha)
      · rename_i ha
        cases hs
        exact .lost (turn_dropClient (by rw [hpc]; rfl) rfl) (mt asserts_iff.mpr ha)
  · cases hs

theorem clientCopy_balance {i : Fin C}
    (hs : s.clientStep cfg i (.clientCopy i) = some s') :
    Balance s s' (KeepsTurn cfg s (.clientCopy i)) := by
  simp only [clientStep] at hs
  split at hs
  · rename_i mapped data hpc
    split at hs
    · rename_i memory' hcopy
      cases hs
      have hmove : (s.setClient i .unmapping).turn = s.turn := turn_setClient (by rw [hpc]; rfl)
      refine .kept hmove fun data' hd => ?_
      -- without a view the copy of nothing is the one that goes well
      cases hpc.symm.trans hd
      by_contra hne
      simp [memcpy, hne] at hcopy
    · rename_i hcopy
      cases hs
      refine .lost (turn_dropClient (by rw [hpc]; rfl) rfl) fun hall => ?_
      cases mapped with
      | true => simp [memcpy] at hcopy
      | false => simp [memcpy, hall data hpc] at hcopy
  · cases hs

theorem clientUnmap_balance {i : Fin C} {unmapped : Bool}
    (hs : s.clientStep cfg i (.clientUnmap i unmapped) = some s') :
    Balance s s' (KeepsTurn cfg s (.clientUnmap i unmapped)) := by
  simp only [clientStep] at hs
  split at hs
  · rename_i hpc
    split at hs
    · rename_i ha
      cases hs
      exact .kept (turn_setClient (by rw [hpc]; rfl)) (asserts_iff.mp ha)
    · rename_i ha
      cases hs
      exact .lost (turn_dropClient (by rw [hpc]; rfl) rfl) (mt asserts_iff.mpr ha)
  · cases hs

/-- With one turn in the system the event that is set was not signalled, so the
wake-up is not merged with another. -/
theorem clientSignal_balance {i : Fin C} {signalled : Bool} (hone : s.turn ≤ 1)
    (hs : s.clientStep cfg i (.clientSignal i signalled) = some s') :
    Balance s s' (KeepsTurn cfg s (.clientSignal i signalled)) := by
  simp only [clientStep] at hs
  split at hs
  · rename_i hpc
    have hheld : (s.clients i).holdsTurn = 1 := by rw [hpc]; rfl
    split at hs
    · rename_i hsig
      cases hs
      refine .kept ?_ hsig
      -- the client has the one turn, so `clToSv` is not set yet
      have hacc := total_setClient s i .idle
      have hle := Pool.weight_le_total ClientPc.holdsTurn s.clients i
      have hidle : ClientPc.holdsTurn .idle = 0 := rfl
      simp only [turn, setClient, Option.isSome_some, Bool.toNat_true] at hone ⊢
      omega
    · rename_i hsig
      split at hs <;> cases hs <;> exact .lost (turn_dropClient hheld rfl) hsig
  · cases hs

theorem waiterWake_balance (hs : s.waiterStep cfg .waiterWake = some s') :
    s'.turn = s.turn := by
  simp only [waiterStep] at hs
  split at hs
  · rename_i write hwait hset
    cases hs
    simp only [turn, hwait, hset, WaiterPc.holdsTurn, Option.isSome_some, Option.isSome_none,
      Bool.toNat_true, Bool.toNat_false]
  · cases hs

theorem waiterFails_balance (hs : s.waiterStep cfg .waiterFails = some s') :
    s'.turn = s.turn := by
  simp only [waiterStep] at hs
  split at hs
  · rename_i hwait
    split at hs
    · cases hs
      rfl
    · cases hs
      simp only [turn, hwait, WaiterPc.holdsTurn]
  · cases hs

theorem waiterPost_balance {posted : Bool}
    (hs : s.waiterStep cfg (.waiterPost posted) = some s') :
    Balance s s' (KeepsTurn cfg s (.waiterPost posted)) := by
  simp only [waiterStep] at hs
  split at hs
  · rename_i write hpost
    split at hs
    · rename_i hok
      cases hs
      refine .kept ?_ hok
      simp only [turn, hpost, WaiterPc.holdsTurn, List.countP_append, List.countP_singleton,
        Completion.isSharedMemory, if_true]
      omega
    · rename_i hok
      split at hs
      · cases hs
        refine .lost ?_ hok
        simp only [turn, hpost, WaiterPc.holdsTurn]
        omega
      · cases hs
        refine .lost ?_ hok
        simp only [turn, hpost, WaiterPc.holdsTurn]
        omega
  · cases hs

theorem waiterExit_balance (hs : s.waiterStep cfg .waiterExit = some s') :
    s'.turn = s.turn := by
  simp only [waiterStep] at hs
  split at hs
  · rename_i hwait hset
    split at hs
    · cases hs
      simp only [turn, hwait, WaiterPc.holdsTurn]
    · cases hs
  · cases hs

theorem dequeue_balance {w : Fin W} (hs : s.workerStep cfg w (.dequeue w) = some s') :
    s'.turn = s.turn := by
  simp only [workerStep] at hs
  split at hs
  · rename_i packet rest hpc hq
    cases hs
    have hacc := total_setWorker s w (.dequeued packet)
    rw [hpc] at hacc
    cases packet with
    | sharedMemory write =>
      simp only [turn, setWorker, hq, WorkerPc.holdsTurn, List.countP_cons,
        Completion.isSharedMemory, if_true] at hacc ⊢
      omega
    | other =>
      simp only [turn, setWorker, hq, WorkerPc.holdsTurn, List.countP_cons,
        Completion.isSharedMemory] at hacc ⊢
      simp only [Bool.false_eq_true, if_false]
      omega
  · cases hs

theorem exit_balance {w : Fin W} (hs : s.workerStep cfg w (.exit w) = some s') :
    Balance s s' (KeepsTurn cfg s (.exit w)) := by
  simp only [workerStep] at hs
  split at hs
  · rename_i packet hpc
    split at hs
    · cases hs
      cases packet with
      | sharedMemory write =>
        exact .lost (turn_dropWorker (by rw [hpc]; rfl) rfl) fun hne => hne write hpc
      | other =>
        refine .kept (turn_setWorker (by rw [hpc]; rfl)) fun write hw => ?_
        cases hpc.symm.trans hw
    · cases hs
  · cases hs

theorem handleOther_balance {w : Fin W}
    (hs : s.workerStep cfg w (.handleOther w) = some s') : s'.turn = s.turn := by
  simp only [workerStep] at hs
  split at hs
  · rename_i hpc
    cases hs
    exact turn_setWorker (by rw [hpc]; rfl)
  · cases hs

theorem getData_balance {w : Fin W} {size : Nat}
    (hs : s.workerStep cfg w (.getData w size) = some s') : s'.turn = s.turn := by
  simp only [workerStep] at hs
  split at hs
  · rename_i write hpc
    split at hs
    · cases hs
    · cases hs
      exact turn_setWorker (s := s) (by rw [hpc]; rfl)
  · cases hs

theorem getMap_balance {w : Fin W} {readable : Option Nat}
    (hs : s.workerStep cfg w (.getMap w readable) = some s') :
    Balance s s' (KeepsTurn cfg s (.getMap w readable)) := by
  simp only [workerStep] at hs
  split at hs
  · rename_i size hpc
    cases hs
    exact .lost (turn_dropWorker (s := s) (by rw [hpc]; rfl) rfl) fun hne => hne rfl
  · rename_i size readable hpc
    split at hs
    · cases hs
    · cases hs
      exact .kept (turn_setWorker (by rw [hpc]; rfl)) (Option.some_ne_none _)
  · cases hs

theorem getCopy_balance {w : Fin W} (hs : s.workerStep cfg w (.getCopy w) = some s') :
    Balance s s' (KeepsTurn cfg s (.getCopy w)) := by
  simp only [workerStep] at hs
  split at hs
  · rename_i size readable hpc
    split at hs
    · rename_i sharedMemSize buffer' hcopy
      cases hs
      refine .kept (turn_setWorker (s := s) (by rw [hpc]; rfl)) fun size' readable' hw => ?_
      cases hpc.symm.trans hw
      exact copyText_isSome_iff.mp (by rw [hcopy]; rfl)
    · rename_i hcopy
      cases hs
      refine .lost (turn_dropWorker (s := s) (by rw [hpc]; rfl) rfl) fun hall => ?_
      have hsome : (copyText cfg.build cfg.bufferSize (viewOf s.memory readable)
          s.sharedMemoryBuffer size).isSome := copyText_isSome_iff.mpr (hall size readable hpc)
      rw [hcopy] at hsome
      cases hsome
  · cases hs

theorem getUnmap_balance {w : Fin W} {unmapped : Bool}
    (hs : s.workerStep cfg w (.getUnmap w unmapped) = some s') :
    Balance s s' (KeepsTurn cfg s (.getUnmap w unmapped)) := by
  simp only [workerStep] at hs
  split at hs
  · rename_i size sharedMemSize hpc
    split at hs
    · rename_i ha
      cases hs
      exact .kept (turn_setWorker (by rw [hpc]; rfl)) (asserts_iff.mp ha)
    · rename_i ha
      cases hs
      exact .lost (turn_dropWorker (s := s) (by rw [hpc]; rfl) rfl) (mt asserts_iff.mpr ha)
  · cases hs

/-- The same for `svToCl`. -/
theorem getSignal_balance {w : Fin W} {signalled : Bool} (hone : s.turn ≤ 1)
    (hs : s.workerStep cfg w (.getSignal w signalled) = some s') :
    Balance s s' (KeepsTurn cfg s (.getSignal w signalled)) := by
  simp only [workerStep] at hs
  split at hs
  · rename_i size sharedMemSize hpc
    have hheld : (s.workers w).holdsTurn = 1 := by rw [hpc]; rfl
    have hle := Pool.weight_le_total WorkerPc.holdsTurn s.workers w
    have hunset : s.svToCl = false := by
      cases hsv : s.svToCl with
      | false => rfl
      | true =>
        simp only [turn, hsv, Bool.toNat_true] at hone
        omega
    -- whatever line follows, the turn goes into the event or nowhere
    have hmove : ∀ pc : WorkerPc, pc.holdsTurn = 0 →
        Balance s ({ s with svToCl := s.svToCl || signalled }.setWorker w pc)
          (KeepsTurn cfg s (.getSignal w signalled)) := by
      intro pc hpc0
      have hacc := total_setWorker s w pc
      cases signalled with
      | true =>
        refine .kept ?_ rfl
        simp only [turn, setWorker, hunset, Bool.or_true, Bool.toNat_true, Bool.toNat_false]
        omega
      | false =>
        refine .lost ?_ Bool.false_ne_true
        simp only [turn, setWorker, Bool.or_false]
        omega
    split at hs
    · split at hs
      · cases hs
        exact hmove .idle rfl
      · cases hs
        exact hmove (.handling sharedMemSize) rfl
    · rename_i ha
      cases hs
      refine .lost (turn_dropWorker (s := s) hheld rfl) fun hsig => ?_
      exact ha (asserts_iff.mpr (.inr hsig))
  · cases hs

theorem finish_balance {w : Fin W} (hs : s.workerStep cfg w (.finish w) = some s') :
    s'.turn = s.turn := by
  simp only [workerStep] at hs
  split at hs
  · rename_i recv hpc
    cases hs
    exact turn_setWorker (s := s) (by rw [hpc]; rfl)
  · cases hs

/-- The step of a server thread is one of a running server. -/
theorem of_running {α : Type} {b : Bool} {o : Option α} {a : α}
    (h : (if b then o else none) = some a) : o = some a := by
  cases b with
  | true => exact h
  | false => cases h

/-- **The turn is moved or lost**, and `KeepsTurn` says which. -/
theorem step_turn {e : HandoffEvent C W} (hone : s.turn ≤ 1) (hs : step cfg s e = some s') :
    Balance s s' (KeepsTurn cfg s e) := by
  cases e with
  | writeData i wait data =>
    have hs : s.clientStep cfg i (.writeData i wait data) = some s' := hs
    exact .kept (writeData_balance hs) trivial
  | clientMap i mapped => exact clientMap_balance hs
  | clientCopy i => exact clientCopy_balance hs
  | clientUnmap i unmapped => exact clientUnmap_balance hs
  | clientSignal i signalled => exact clientSignal_balance hone hs
  | waiterWake => exact .kept (waiterWake_balance (of_running hs)) trivial
  | waiterFails => exact .kept (waiterFails_balance (of_running hs)) trivial
  | waiterPost posted => exact waiterPost_balance (of_running hs)
  | waiterExit => exact .kept (waiterExit_balance (of_running hs)) trivial
  | otherPacket =>
    cases hs
    refine .kept ?_ trivial
    simp [turn, Completion.isSharedMemory]
  | dequeue w => exact .kept (dequeue_balance (of_running hs)) trivial
  | handleOther w => exact .kept (handleOther_balance (of_running hs)) trivial
  | getData w size => exact .kept (getData_balance (of_running hs)) trivial
  | getMap w readable => exact getMap_balance (of_running hs)
  | getCopy w => exact getCopy_balance (of_running hs)
  | getUnmap w unmapped => exact getUnmap_balance (of_running hs)
  | getSignal w signalled => exact getSignal_balance hone (of_running hs)
  | finish w => exact .kept (finish_balance (of_running hs)) trivial
  | exit w => exact exit_balance (of_running hs)
  | stop =>
    cases hs
    exact .kept rfl trivial
  | close =>
    cases hs
    exact .kept rfl trivial

theorem turn_init (cfg : HandoffConfig) (C W : Nat) : (init cfg C W).turn = 1 := by
  have hclients : Pool.total ClientPc.holdsTurn (init cfg C W).clients = 0 :=
    Pool.total_eq_zero fun _ => rfl
  have hworkers : Pool.total WorkerPc.holdsTurn (init cfg C W).workers = 0 :=
    Pool.total_eq_zero fun _ => rfl
  simp only [turn, hclients, hworkers]
  rfl

end Handoff

end Task6
