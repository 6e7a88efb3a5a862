import Task6.SharedMemory.HandoffSteps

/-!
# Where the texts of the hand-off are

The turn keeps the writes apart from the reads and `shMemBufferCS` the reads from
each other, so a text is at one of three places: unread in the mapping, in hand
in `sharedMemoryBuffer`, or handled. A step moves one of them on (`Passage`,
`passage_of_steps`), and the text that is lost is the one whose turn is.

- `textsAfter`: what a reader finds that looks into the mapping behind each
  write.
- `Traffic`: the history of a run, what was copied into the mapping and what was
  handed to `handleClientMessg`.
- `Located`: the invariant, all texts at their places (`located_passage`).
-/

namespace Task6

open NulText

/-! ## The sequential transport -/

/-- What the mapping holds behind each of the writes, read up to the first
NUL. -/
def textsAfter (memory : List Byte) : List (List Byte) → List (List Byte)
  | [] => []
  | data :: rest => text (overwrite memory data) :: textsAfter (overwrite memory data) rest

/-- The mapping behind all of them. -/
def memoryAfter (memory : List Byte) (written : List (List Byte)) : List Byte :=
  written.foldl overwrite memory

theorem memoryAfter_concat (memory : List Byte) (written : List (List Byte)) (data : List Byte) :
    memoryAfter memory (written ++ [data]) = overwrite (memoryAfter memory written) data := by
  rw [memoryAfter, memoryAfter, List.foldl_append]
  rfl

theorem textsAfter_concat (memory : List Byte) (written : List (List Byte)) (data : List Byte) :
    textsAfter memory (written ++ [data])
      = textsAfter memory written ++ [text (overwrite (memoryAfter memory written) data)] := by
  induction written generalizing memory with
  | nil => rfl
  | cons d ds ih =>
    show text _ :: textsAfter (overwrite memory d) (ds ++ [data]) = _
    rw [ih]
    rfl

@[simp] theorem length_textsAfter (memory : List Byte) (written : List (List Byte)) :
    (textsAfter memory written).length = written.length := by
  induction written generalizing memory with
  | nil => rfl
  | cons d ds ih =>
    show (textsAfter (overwrite memory d) ds).length + 1 = ds.length + 1
    rw [ih]

/-! ## Where a text is -/

/-- The client has copied its data and not yet told the server. -/
def ClientPc.wrote : ClientPc → Nat
  | unmapping | signalling => 1
  | idle | mapping _ | copying _ _ | died => 0

/-- The worker has a packet, or is in `getData` before its copy. -/
def WorkerPc.reads : WorkerPc → Nat
  | dequeued (.sharedMemory _) | mapping _ | copying _ _ => 1
  | idle | dequeued .other | unmapping _ _ | signalling _ _ | handling _ | exited => 0

/-- The text is in `sharedMemoryBuffer`, and not yet handled. -/
def WorkerPc.hasText : WorkerPc → Nat
  | unmapping _ _ | signalling _ _ | handling _ => 1
  | idle | dequeued _ | mapping _ | copying _ _ | exited => 0

/-- The worker is in the scope of its lock. -/
def WorkerPc.locked : WorkerPc → Nat
  | mapping _ | copying _ _ | unmapping _ _ | signalling _ _ | handling _ => 1
  | idle | dequeued _ | exited => 0

/-- What a worker in `getData` knows of the sizes. -/
def WorkerPc.Full (bufferSize : Nat) : WorkerPc → Prop
  | mapping size => size = bufferSize
  | copying size readable => size = bufferSize ∧ bufferSize ≤ readable
  | unmapping size sharedMemSize | signalling size sharedMemSize => sharedMemSize ≤ size
  | idle | dequeued _ | handling _ | exited => True

/-- The data of a client fits the view it has. -/
def ClientPc.Fits (bufferSize : Nat) : ClientPc → Prop
  | copying true data => data.length ≤ bufferSize
  | _ => True

namespace Handoff

variable {C W : Nat}

/-- How many texts wait in the mapping. -/
def unread (s : Handoff C W) : Nat :=
  Pool.total ClientPc.wrote s.clients + s.clToSv.isSome.toNat + s.waiter.holdsTurn
    + s.iocp.countP Completion.isSharedMemory + Pool.total WorkerPc.reads s.workers

/-- How many wait in the buffer. -/
def inHand (s : Handoff C W) : Nat := Pool.total WorkerPc.hasText s.workers

/-- What was copied into the mapping, and what was handed to
`handleClientMessg`. -/
structure Traffic where
  written : List (List Byte)
  handled : List (List Byte)

def traffic (s : Handoff C W) (e : HandoffEvent C W) (g : Traffic) : Traffic :=
  match e with
  | .clientCopy i =>
    match s.clients i with
    | .copying mapped data =>
      if (memcpy mapped s.memory data).isSome then { g with written := g.written ++ [data] } else g
    | _ => g
  | .finish _ => { g with handled := g.handled ++ [text s.sharedMemoryBuffer] }
  | _ => g

/-- The hand-off with its history. -/
def recorded (cfg : HandoffConfig) (C W : Nat) :
    Machine (Handoff C W × Traffic) (HandoffEvent C W) :=
  (machine cfg C W).observed ⟨[], []⟩ traffic

/-- The mapping before the first write. -/
def zeros (cfg : HandoffConfig) : List Byte := List.replicate cfg.bufferSize 0

/-- The worker passes its whole buffer, which is as long as the mapping. -/
def FullBuffer (cfg : HandoffConfig) (e : HandoffEvent C W) : Prop :=
  ∀ w size, e = .getData w size → size = cfg.bufferSize

/-! ## What a step keeps -/

/-- The sizes agree, and one worker at a time is in the scope of the lock; as long
as the server runs, the lock is nobody else's. -/
structure Fitting (cfg : HandoffConfig) (s : Handoff C W) : Prop where
  memory : s.memory.length = cfg.bufferSize
  clients : ∀ i, (s.clients i).Fits cfg.bufferSize
  workers : ∀ w, (s.workers w).Full cfg.bufferSize
  locked : Pool.total WorkerPc.locked s.workers ≤ s.shMemBufferCS.toNat
  held : s.running = true → s.shMemBufferCS.toNat ≤ Pool.total WorkerPc.locked s.workers

variable {cfg : HandoffConfig} {s s' : Handoff C W}

theorem fitting_init (cfg : HandoffConfig) (C W : Nat) : Fitting cfg (init cfg C W) where
  memory := List.length_replicate ..
  clients := fun _ => trivial
  workers := fun _ => trivial
  locked := Nat.le_of_eq (Pool.total_eq_zero fun _ => rfl)
  held := fun _ => Nat.zero_le _

theorem Fitting.setClient (h : Fitting cfg s) (i : Fin C) (pc : ClientPc)
    (hpc : pc.Fits cfg.bufferSize) : Fitting cfg (s.setClient i pc) where
  memory := h.memory
  clients := (Function.forall_update_iff _ fun _ (pc : ClientPc) => pc.Fits cfg.bufferSize).mpr
    ⟨hpc, fun j _ => h.clients j⟩
  workers := h.workers
  locked := h.locked
  held := h.held

theorem Fitting.setWorker (h : Fitting cfg s) {w : Fin W} {pc : WorkerPc}
    (hpc : pc.Full cfg.bufferSize) (hlocked : pc.locked = (s.workers w).locked) :
    Fitting cfg (s.setWorker w pc) where
  memory := h.memory
  clients := h.clients
  workers := (Function.forall_update_iff _ fun _ (pc : WorkerPc) => pc.Full cfg.bufferSize).mpr
    ⟨hpc, fun j _ => h.workers j⟩
  locked := by
    show Pool.total WorkerPc.locked (Function.update s.workers w pc) ≤ s.shMemBufferCS.toNat
    rw [Pool.total_update_of_eq hlocked]
    exact h.locked
  held := by
    intro hrun
    show s.shMemBufferCS.toNat ≤ Pool.total WorkerPc.locked (Function.update s.workers w pc)
    rw [Pool.total_update_of_eq hlocked]
    exact h.held hrun

/-- The worker's process ends. -/
theorem Fitting.crash (h : Fitting cfg s) (w : Fin W) : Fitting cfg (s.crash w) where
  memory := h.memory
  clients := h.clients
  workers := (Function.forall_update_iff _ fun _ (pc : WorkerPc) => pc.Full cfg.bufferSize).mpr
    ⟨trivial, fun j _ => h.workers j⟩
  locked := by
    have hacc := Pool.total_update WorkerPc.locked s.workers w .exited
    have hexited : WorkerPc.locked .exited = 0 := rfl
    have := h.locked
    show Pool.total WorkerPc.locked (Function.update s.workers w .exited) ≤ s.shMemBufferCS.toNat
    omega
  held := fun hrun => (by cases hrun)

/-- The lock is given back by the one that has it. -/
theorem Fitting.release (h : Fitting cfg s) {w : Fin W} (hpc : (s.workers w).locked = 1) :
    Fitting cfg (s.release w) where
  memory := h.memory
  clients := h.clients
  workers := (Function.forall_update_iff _ fun _ (pc : WorkerPc) => pc.Full cfg.bufferSize).mpr
    ⟨trivial, fun j _ => h.workers j⟩
  locked := by
    have hacc := Pool.total_update WorkerPc.locked s.workers w .idle
    have hidle : WorkerPc.locked .idle = 0 := rfl
    have hle := Nat.le_trans h.locked (Bool.toNat_le s.shMemBufferCS)
    show Pool.total WorkerPc.locked (Function.update s.workers w .idle) ≤ 0
    omega
  held := fun _ => Nat.zero_le _

/-- A text found in the mapping with the whole buffer to copy it to. -/
theorem copyText_full {build : Build} {memory buffer buffer' : List Byte}
    {readable sharedMemSize : Nat} (hview : memory.length ≤ readable)
    (hcopy : copyText build memory.length (viewOf memory readable) buffer memory.length
      = some (sharedMemSize, buffer')) :
    sharedMemSize ≤ memory.length ∧ text buffer' = text memory := by
  have htake : (viewOf memory readable).take memory.length = memory := by
    rw [viewOf_of_le hview, List.take_left']
    rfl
  rw [copyText, strnlenS, htake] at hcopy
  by_cases hz : (0 : Byte) ∈ memory
  · -- the text ends inside the mapping, and is what is copied
    obtain ⟨rest, hrest⟩ := eq_text_append hz
    have htext : text (viewOf memory readable) = text memory := by
      rw [viewOf_of_le hview]
      conv_lhs => rw [hrest, List.append_assoc, List.cons_append]
      exact text_append_zero (zero_not_mem_text memory) _
    have hle : (text memory).length ≤ memory.length := (List.takeWhile_sublist _).length_le
    rw [if_pos hz] at hcopy
    simp only [htext, hle, if_true, strcpyS, htake, if_pos hz, Option.map_some,
      Option.some.injEq, Prod.mk.injEq] at hcopy
    obtain ⟨rfl, rfl⟩ := hcopy
    exact ⟨hle, text_append_zero (zero_not_mem_text memory) _⟩
  · -- without a NUL the copy does not end
    rw [if_neg hz] at hcopy
    split at hcopy
    · cases hcopy
    · rename_i hsize
      split at hsize
      · cases hsize
        simp [strcpyS, htake, hz] at hcopy
      · cases hsize

theorem fitting_step {e : HandoffEvent C W} (h : Fitting cfg s) (hfull : FullBuffer cfg e)
    (hs : Steps cfg s e s') : Fitting cfg s' := by
  cases hs with
  | waits | wakes | posts | waiterStops | otherPacket | stop | close => exact { h with }
  | waitFails _ _ hrun | postFails _ _ hrun =>
    exact { h with held := fun hrun' => h.held (hrun hrun').1 }
  | @takesTurn i data => exact { h.setClient i (.mapping data) trivial with }
  | @mapped i mapped data _ hfit =>
    refine h.setClient i _ ?_
    cases mapped with
    | true => exact hfit rfl
    | false => trivial
  | @copied i mapped data memory' hpc hcopy =>
    refine { h.setClient i .unmapping trivial with memory := ?_ }
    have hfits := h.clients i
    rw [hpc] at hfits
    cases mapped with
    | true =>
      rw [memcpy_written hcopy]
      exact (length_overwrite (by rw [h.memory]; exact hfits)).trans h.memory
    | false =>
      simp only [memcpy, Bool.false_eq_true, if_false] at hcopy
      split at hcopy
      · cases hcopy
        exact h.memory
      · cases hcopy
  | unmapped => exact h.setClient _ _ trivial
  | @signalled i => exact { h.setClient i .idle trivial with }
  | clientDrops he hpc hnew hcopy =>
    refine h.setClient _ _ ?_
    rcases hnew with rfl | rfl <;> trivial
  | @dequeues w packet rest hpc hiocp =>
    have hnext : Fitting cfg (s.setWorker w (.dequeued packet)) :=
      h.setWorker trivial (by rw [hpc]; rfl)
    exact { hnext with }
  | exits hpc => exact h.setWorker trivial (by rw [hpc]; rfl)
  | handlesOther hpc => exact h.setWorker trivial (by rw [hpc]; rfl)
  | @locks w size write hpc hfree =>
    refine ⟨h.memory, h.clients, ?_, ?_, ?_⟩
    · exact (Function.forall_update_iff _ fun _ (pc : WorkerPc) => pc.Full cfg.bufferSize).mpr
        ⟨hfull w size rfl, fun j _ => h.workers j⟩
    · have hacc := Pool.total_update WorkerPc.locked s.workers w (.mapping size)
      have hone : WorkerPc.locked (.mapping size) = 1 := rfl
      have hnone := h.locked
      rw [hfree, Bool.toNat_false] at hnone
      show Pool.total WorkerPc.locked (Function.update s.workers w (.mapping size)) ≤ 1
      omega
    · intro _
      have hheld := Pool.weight_le_total WorkerPc.locked
        (Function.update s.workers w (.mapping size)) w
      rw [Function.update_self] at hheld
      exact hheld
  | mapFails hpc => exact h.release (by rw [hpc]; rfl)
  | @maps w size readable hpc hview =>
    have hsize := h.workers w
    rw [hpc] at hsize
    obtain rfl : size = cfg.bufferSize := hsize
    refine h.setWorker ⟨rfl, ?_⟩ (by rw [hpc]; rfl)
    unfold HandoffConfig.requested at hview
    split at hview
    · exact hview
    · rwa [Nat.min_self] at hview
  | @copies w size readable sharedMemSize buffer' hpc hcopy =>
    have hsize := h.workers w
    rw [hpc] at hsize
    obtain ⟨rfl, hview⟩ : size = cfg.bufferSize ∧ cfg.bufferSize ≤ readable := hsize
    rw [← h.memory] at hview hcopy
    have hle : sharedMemSize ≤ cfg.bufferSize := by
      rw [← h.memory]
      exact (copyText_full hview hcopy).1
    have hnext : Fitting cfg (s.setWorker w (.unmapping cfg.bufferSize sharedMemSize)) :=
      h.setWorker hle (by rw [hpc]; rfl)
    exact { hnext with }
  | @unmaps w size sharedMemSize _ hpc =>
    have hsize := h.workers w
    rw [hpc] at hsize
    exact h.setWorker hsize (by rw [hpc]; rfl)
  | @refuses w size sharedMemSize signalled hpc hlong =>
    have hrest : Fitting cfg (s.release w) := h.release (by rw [hpc]; rfl)
    exact { hrest with }
  | @signals w size sharedMemSize signalled hpc hfits =>
    have hrest : Fitting cfg (s.setWorker w (.handling sharedMemSize)) :=
      h.setWorker trivial (by rw [hpc]; rfl)
    exact { hrest with }
  | @crashes w => exact h.crash w
  | finishes hpc => exact h.release (by rw [hpc]; rfl)

/-! ## Where a step takes the texts -/

theorem wrote_le_holdsTurn (pc : ClientPc) : pc.wrote ≤ pc.holdsTurn := by
  cases pc <;> simp [ClientPc.wrote, ClientPc.holdsTurn]

theorem reads_le_holdsTurn (pc : WorkerPc) : pc.reads ≤ pc.holdsTurn := by
  rcases pc with _ | (_ | _) | _ <;> simp [WorkerPc.reads, WorkerPc.holdsTurn]

theorem hasText_le_locked (pc : WorkerPc) : pc.hasText ≤ pc.locked := by
  cases pc <;> simp [WorkerPc.hasText, WorkerPc.locked]

/-- A text in the mapping is one whose turn it is. -/
theorem unread_le_turn (s : Handoff C W) : s.unread + s.svToCl.toNat ≤ s.turn := by
  have hclients := Pool.total_le_total wrote_le_holdsTurn s.clients
  have hworkers := Pool.total_le_total reads_le_holdsTurn s.workers
  unfold unread turn
  omega

/-- A client with the turn that has not written yet. -/
theorem unread_lt_of_client {i : Fin C} (h : (s.clients i).wrote + 1 ≤ (s.clients i).holdsTurn) :
    s.unread + 1 ≤ s.turn := by
  have hclients := Pool.total_add_le_total wrote_le_holdsTurn h
  have hworkers := Pool.total_le_total reads_le_holdsTurn s.workers
  unfold unread turn
  omega

/-- A worker with the turn that has read. -/
theorem unread_lt_of_worker {w : Fin W} (h : (s.workers w).reads + 1 ≤ (s.workers w).holdsTurn) :
    s.unread + 1 ≤ s.turn := by
  have hclients := Pool.total_le_total wrote_le_holdsTurn s.clients
  have hworkers := Pool.total_add_le_total reads_le_holdsTurn h
  unfold unread turn
  omega

theorem Fitting.inHand_le (h : Fitting cfg s) : s.inHand ≤ 1 := by
  have hle := Pool.total_le_total hasText_le_locked s.workers
  have := h.locked
  have := Bool.toNat_le s.shMemBufferCS
  unfold inHand
  omega

/-- A worker in `getData` has the lock, so no other one has a text. -/
theorem Fitting.inHand_eq_zero (h : Fitting cfg s) {w : Fin W}
    (hpc : (s.workers w).hasText + 1 ≤ (s.workers w).locked) : s.inHand = 0 := by
  have hle := Pool.total_add_le_total hasText_le_locked hpc
  have := h.locked
  have := Bool.toNat_le s.shMemBufferCS
  unfold inHand
  omega

theorem unread_setClient (s : Handoff C W) (i : Fin C) (pc : ClientPc) :
    (s.setClient i pc).unread + (s.clients i).wrote = s.unread + pc.wrote := by
  have hacc := Pool.total_update ClientPc.wrote s.clients i pc
  simp only [unread, Handoff.setClient]
  omega

theorem unread_setWorker (s : Handoff C W) (w : Fin W) (pc : WorkerPc) :
    (s.setWorker w pc).unread + (s.workers w).reads = s.unread + pc.reads := by
  have hacc := Pool.total_update WorkerPc.reads s.workers w pc
  simp only [unread, Handoff.setWorker]
  omega

theorem inHand_setWorker (s : Handoff C W) (w : Fin W) (pc : WorkerPc) :
    (s.setWorker w pc).inHand + (s.workers w).hasText = s.inHand + pc.hasText :=
  Pool.total_update WorkerPc.hasText s.workers w pc

theorem turn_le_of_step {e : HandoffEvent C W} (hone : s.turn ≤ 1)
    (hs : step cfg s e = some s') : s'.turn ≤ s.turn := by
  obtain ⟨hkept, hlost⟩ := step_turn hone hs
  by_cases hk : KeepsTurn cfg s e
  · exact Nat.le_of_eq (hkept hk)
  · have := hlost hk
    omega

/-- What a step can do to the texts: nothing, or move one of them on, or lose
the one whose turn it is. -/
inductive Passage (s : Handoff C W) (g : Traffic) (s' : Handoff C W) : Traffic → Prop
  | quiet (hunread : s'.unread = s.unread) (hinHand : s'.inHand = s.inHand)
    (hmemory : s'.memory = s.memory)
    (hbuffer : s'.sharedMemoryBuffer = s.sharedMemoryBuffer) : Passage s g s' g
  | writes {data} (hturn : s.turn = 1) (hunread : s.unread = 0) (hunread' : s'.unread = 1)
    (hinHand : s'.inHand = s.inHand) (hmemory : s'.memory = overwrite s.memory data)
    (hbuffer : s'.sharedMemoryBuffer = s.sharedMemoryBuffer) :
    Passage s g s' { g with written := g.written ++ [data] }
  | reads (hunread : s.unread = 1) (hunread' : s'.unread = 0) (hinHand : s.inHand = 0)
    (hinHand' : s'.inHand = 1) (hmemory : s'.memory = s.memory)
    (hbuffer : text s'.sharedMemoryBuffer = text s.memory) : Passage s g s' g
  | handles (hunread : s'.unread = s.unread) (hinHand : s.inHand = 1) (hinHand' : s'.inHand = 0)
    (hmemory : s'.memory = s.memory) :
    Passage s g s' { g with handled := g.handled ++ [text s.sharedMemoryBuffer] }
  | losesUnread (hturn : s'.turn + 1 = s.turn) (hunread : s.unread = 1) (hunread' : s'.unread = 0)
    (hinHand : s'.inHand = s.inHand) (hmemory : s'.memory = s.memory)
    (hbuffer : s'.sharedMemoryBuffer = s.sharedMemoryBuffer) : Passage s g s' g
  | losesText (hturn : s'.turn + 1 = s.turn) (hunread : s.unread = 0) (hunread' : s'.unread = 0)
    (hinHand : s.inHand = 1) (hinHand' : s'.inHand = 0) (hmemory : s'.memory = s.memory) :
    Passage s g s' g

section Moves

variable {g : Traffic} {i : Fin C} {w : Fin W}

/-- The lock and the fate of the process are no part of it. -/
theorem Passage.congr {s'' : Handoff C W} {g' : Traffic} (h : Passage s g s' g')
    (hunread : s''.unread = s'.unread) (hinHand : s''.inHand = s'.inHand)
    (hturn : s''.turn = s'.turn) (hmemory : s''.memory = s'.memory)
    (hbuffer : s''.sharedMemoryBuffer = s'.sharedMemoryBuffer) : Passage s g s'' g' := by
  cases h with
  | quiet h₁ h₂ h₃ h₄ =>
    exact .quiet (hunread.trans h₁) (hinHand.trans h₂) (hmemory.trans h₃) (hbuffer.trans h₄)
  | writes h₁ h₂ h₃ h₄ h₅ h₆ =>
    exact .writes h₁ h₂ (hunread.trans h₃) (hinHand.trans h₄) (hmemory.trans h₅)
      (hbuffer.trans h₆)
  | reads h₁ h₂ h₃ h₄ h₅ h₆ =>
    exact .reads h₁ (hunread.trans h₂) h₃ (hinHand.trans h₄) (hmemory.trans h₅) (hbuffer ▸ h₆)
  | handles h₁ h₂ h₃ h₄ =>
    exact .handles (hunread.trans h₁) h₂ (hinHand.trans h₃) (hmemory.trans h₄)
  | losesUnread h₁ h₂ h₃ h₄ h₅ h₆ =>
    exact .losesUnread (hturn ▸ h₁) h₂ (hunread.trans h₃) (hinHand.trans h₄) (hmemory.trans h₅)
      (hbuffer.trans h₆)
  | losesText h₁ h₂ h₃ h₄ h₅ h₆ =>
    exact .losesText (hturn ▸ h₁) h₂ (hunread.trans h₃) h₄ (hinHand.trans h₅) (hmemory.trans h₆)

theorem Passage.ofClient {pc : ClientPc} (h : pc.wrote = (s.clients i).wrote) :
    Passage s g (s.setClient i pc) g := by
  have hacc := unread_setClient s i pc
  exact .quiet (by omega) rfl rfl rfl

theorem Passage.ofWorker {pc : WorkerPc} (hreads : pc.reads = (s.workers w).reads)
    (htext : pc.hasText = (s.workers w).hasText) : Passage s g (s.setWorker w pc) g := by
  have hacc := unread_setWorker s w pc
  have hacc' := inHand_setWorker s w pc
  exact .quiet (by omega) (by omega) rfl rfl

/-- A client leaves with the turn: its data is in the mapping, or not. -/
theorem Passage.clientDrops {pc : ClientPc} (hone : s.turn ≤ 1)
    (hpc : (s.clients i).holdsTurn = 1) (hnew : pc.wrote = 0) (hturn : pc.holdsTurn = 0) :
    Passage s g (s.setClient i pc) g := by
  have hlost := turn_dropClient hpc hturn
  have hacc := unread_setClient s i pc
  have hbound := unread_le_turn s
  by_cases hwrote : (s.clients i).wrote = 0
  · exact .quiet (by omega) rfl rfl rfl
  · exact .losesUnread hlost (by omega) (by omega) rfl rfl rfl

/-- A worker leaves with the turn: the text stays in the mapping, or in the
buffer. -/
theorem Passage.workerDrops {pc : WorkerPc} (hone : s.turn ≤ 1) (h : Fitting cfg s)
    (hpc : (s.workers w).holdsTurn = 1) (hreads : pc.reads = 0) (htext : pc.hasText = 0)
    (hturn : pc.holdsTurn = 0) : Passage s g (s.setWorker w pc) g := by
  have hlost := turn_dropWorker hpc hturn
  have hacc := unread_setWorker s w pc
  have hacc' := inHand_setWorker s w pc
  have hbound := unread_le_turn s
  have hle := reads_le_holdsTurn (s.workers w)
  have hinHand := h.inHand_le
  by_cases hunread : (s.workers w).reads = 0
  · -- it has read: nobody else's text is in the mapping
    have hlt := unread_lt_of_worker (s := s) (w := w) (by omega)
    have hheld := Pool.weight_le_total WorkerPc.hasText s.workers w
    by_cases hold : (s.workers w).hasText = 0
    · exact .quiet (by omega) (by omega) rfl rfl
    · unfold inHand at hinHand hacc'
      exact .losesText hlost (by omega) (by omega) (by unfold inHand; omega)
        (by unfold inHand; omega) rfl
  · have hnone : (s.workers w).hasText = 0 := by
      revert hunread
      rcases s.workers w with _ | (_ | _) | _ <;> simp [WorkerPc.reads, WorkerPc.hasText]
    exact .losesUnread hlost (by omega) (by omega) (by omega) rfl rfl

/-- The waiter does not get its packet to the iocp. -/
theorem Passage.waiterDrops {write : Nat} {pc : WaiterPc} {running : Bool} (hone : s.turn ≤ 1)
    (hpc : s.waiter = .posting write) (hnew : pc.holdsTurn = 0) :
    Passage s g { s with waiter := pc, running := running } g := by
  have hbound := unread_le_turn s
  have hposting : s.waiter.holdsTurn = 1 := by rw [hpc]; rfl
  refine .losesUnread ?_ ?_ ?_ rfl rfl rfl
  · simp only [turn]
    omega
  · simp only [unread] at hbound ⊢
    omega
  · simp only [unread] at hbound ⊢
    omega

end Moves

theorem passage_of_steps {e : HandoffEvent C W} {g : Traffic} (hone : s.turn ≤ 1)
    (h : Fitting cfg s) (hs : Steps cfg s e s') : Passage s g s' (traffic s e g) := by
  have hbound := unread_le_turn s
  cases hs with
  | waits | stop | close => exact .quiet rfl rfl rfl rfl
  | waiterStops hpc =>
    refine .quiet ?_ rfl rfl rfl
    simp only [unread, hpc, WaiterPc.holdsTurn]
  | @waitFails pc running hpc hnew =>
    have hsame : pc.holdsTurn = s.waiter.holdsTurn := by rw [hnew, hpc]; rfl
    refine .quiet ?_ rfl rfl rfl
    simp only [unread, hsame]
  | @takesTurn i data hpc hset =>
    have hacc := unread_setClient s i (.mapping data)
    rw [hpc] at hacc
    exact .quiet hacc rfl rfl rfl
  | mapped hpc => exact .ofClient (by rw [hpc]; rfl)
  | @copied i mapped data memory' hpc hcopy =>
    have hlt := unread_lt_of_client (s := s) (i := i) (by rw [hpc]; exact Nat.le_refl 1)
    have hacc := unread_setClient s i .unmapping
    rw [hpc] at hacc
    have hnew : (s.setClient i .unmapping).unread = s.unread + 1 := hacc
    have hg : traffic s (.clientCopy i) g = { g with written := g.written ++ [data] } := by
      simp only [traffic, hpc, hcopy, Option.isSome_some, if_true]
    rw [hg]
    exact .writes (by omega) (by omega) (hnew.trans (by omega)) rfl (memcpy_written hcopy) rfl
  | unmapped hpc => exact .ofClient (by rw [hpc]; rfl)
  | @signalled i hpc =>
    -- the event was not set: the client has the turn
    have hacc := unread_setClient s i .idle
    have hheld := Pool.weight_le_total ClientPc.holdsTurn s.clients i
    have hidle : ClientPc.wrote .idle = 0 := rfl
    rw [hpc] at hacc hheld
    have hwrote : ClientPc.wrote .signalling = 1 := rfl
    have hholds : ClientPc.holdsTurn .signalling = 1 := rfl
    refine .quiet ?_ rfl rfl rfl
    unfold turn at hone
    simp only [unread, Handoff.setClient, Option.isSome_some, Bool.toNat_true] at hacc ⊢
    omega
  | clientDrops he hpc hnew hcopy =>
    have hg : traffic s e g = g := by
      cases e with
      | clientCopy j =>
        simp only [traffic]
        split
        · rename_i mapped data hdata
          obtain rfl := he
          rw [hcopy mapped data rfl hdata]
          rfl
        · rfl
      | finish => cases he
      | _ => rfl
    rw [hg]
    refine .clientDrops hone hpc ?_ ?_
    · rcases hnew with rfl | rfl <;> rfl
    · rcases hnew with rfl | rfl <;> rfl
  | @wakes write hpc hset =>
    refine .quiet ?_ rfl rfl rfl
    simp only [unread, hpc, hset, WaiterPc.holdsTurn, Option.isSome_some, Option.isSome_none,
      Bool.toNat_true, Bool.toNat_false]
  | @posts write hpc =>
    refine .quiet ?_ rfl rfl rfl
    simp only [unread, hpc, WaiterPc.holdsTurn, List.countP_append, List.countP_singleton,
      Completion.isSharedMemory, if_true]
    omega
  | @postFails write pc running hpc hnew =>
    exact .waiterDrops hone hpc hnew
  | otherPacket =>
    refine .quiet ?_ rfl rfl rfl
    simp [unread, Completion.isSharedMemory]
  | @dequeues w packet rest hpc hiocp =>
    have hacc := unread_setWorker s w (.dequeued packet)
    have hacc' := inHand_setWorker s w (.dequeued packet)
    rw [hpc] at hacc hacc'
    refine .quiet ?_ hacc' rfl rfl
    cases packet with
    | sharedMemory write =>
      simp only [unread, Handoff.setWorker, hiocp, WorkerPc.reads, List.countP_cons,
        Completion.isSharedMemory, if_true] at hacc ⊢
      omega
    | other =>
      simp only [unread, Handoff.setWorker, hiocp, WorkerPc.reads, List.countP_cons,
        Completion.isSharedMemory] at hacc ⊢
      simp only [Bool.false_eq_true, if_false]
      omega
  | @exits w packet hpc hstop =>
    cases packet with
    | sharedMemory write => exact .workerDrops hone h (by rw [hpc]; rfl) rfl rfl rfl
    | other => exact .ofWorker (by rw [hpc]; rfl) (by rw [hpc]; rfl)
  | handlesOther hpc => exact .ofWorker (by rw [hpc]; rfl) (by rw [hpc]; rfl)
  | @locks w size write hpc hfree =>
    have hquiet : Passage s g (s.setWorker w (.mapping size)) g :=
      .ofWorker (by rw [hpc]; rfl) (by rw [hpc]; rfl)
    exact hquiet.congr rfl rfl rfl rfl rfl
  | @mapFails w size hpc =>
    have hdrop : Passage s g (s.setWorker w .idle) g :=
      .workerDrops hone h (by rw [hpc]; rfl) rfl rfl rfl
    exact hdrop.congr rfl rfl rfl rfl rfl
  | maps hpc => exact .ofWorker (by rw [hpc]; rfl) (by rw [hpc]; rfl)
  | @copies w size readable sharedMemSize buffer' hpc hcopy =>
    have hsize := h.workers w
    rw [hpc] at hsize
    obtain ⟨rfl, hview⟩ : size = cfg.bufferSize ∧ cfg.bufferSize ≤ readable := hsize
    rw [← h.memory] at hview hcopy
    have hacc := unread_setWorker s w (.unmapping cfg.bufferSize sharedMemSize)
    have hacc' := inHand_setWorker s w (.unmapping cfg.bufferSize sharedMemSize)
    have hzero := h.inHand_eq_zero (w := w) (by rw [hpc]; exact Nat.le_refl 1)
    rw [hpc] at hacc hacc'
    have hunread : (s.setWorker w (.unmapping cfg.bufferSize sharedMemSize)).unread + 1
      = s.unread := hacc
    have hinHand : (s.setWorker w (.unmapping cfg.bufferSize sharedMemSize)).inHand
      = s.inHand + 1 := hacc'
    exact .reads (by omega) ((by omega :
      (s.setWorker w (.unmapping cfg.bufferSize sharedMemSize)).unread = 0)) hzero
      (hinHand.trans (by omega)) rfl (copyText_full hview hcopy).2
  | unmaps hpc => exact .ofWorker (by rw [hpc]; rfl) (by rw [hpc]; rfl)
  | @refuses w size sharedMemSize signalled hpc hlong =>
    have hsize := h.workers w
    rw [hpc] at hsize
    exact absurd hlong (Nat.not_lt.mpr hsize)
  | @signals w size sharedMemSize signalled hpc hfits =>
    have hacc := unread_setWorker s w (.handling sharedMemSize)
    have hacc' := inHand_setWorker s w (.handling sharedMemSize)
    rw [hpc] at hacc hacc'
    exact .quiet hacc (Nat.add_right_cancel hacc') rfl rfl
  | @crashes w e he hpc =>
    have hg : traffic s e g = g := by
      cases e with
      | clientCopy j => cases he
      | finish => cases he
      | _ => rfl
    rw [hg]
    have hdrop : Passage s g (s.setWorker w .exited) g := .workerDrops hone h hpc rfl rfl rfl
    exact hdrop.congr rfl rfl rfl rfl rfl
  | @finishes w recv hpc =>
    have hacc := unread_setWorker s w .idle
    have hacc' := inHand_setWorker s w .idle
    have hle := h.inHand_le
    rw [hpc] at hacc hacc'
    have hinHand : (s.setWorker w .idle).inHand + 1 = s.inHand := hacc'
    exact .handles hacc (by omega) ((by omega : (s.setWorker w .idle).inHand = 0)) rfl

/-- Where the texts of the writes are: handled, in hand, unread or, when the turn
was lost with it, missing. -/
structure Located (cfg : HandoffConfig) (s : Handoff C W) (g : Traffic) : Prop where
  memory : s.memory = memoryAfter (zeros cfg) g.written
  texts : ∃ missing, g.handled ++ (List.replicate s.inHand (text s.sharedMemoryBuffer) ++
      (List.replicate s.unread (text s.memory) ++ missing)) = textsAfter (zeros cfg) g.written ∧
    missing.length + s.turn ≤ 1

theorem located_passage {g g' : Traffic} (hone : s.turn ≤ 1) (hturn' : s'.turn ≤ s.turn)
    (h : Located cfg s g) (hp : Passage s g s' g') : Located cfg s' g' := by
  obtain ⟨hmem, missing, htexts, hmissing⟩ := h
  cases hp with
  | quiet hunread hinHand hmemory hbuffer =>
    refine ⟨hmemory.trans hmem, missing, ?_, by omega⟩
    rw [hunread, hinHand, hmemory, hbuffer]
    exact htexts
  | @writes data hturn hunread hunread' hinHand hmemory hbuffer =>
    have hnone : missing = [] := List.eq_nil_of_length_eq_zero (by omega)
    rw [hunread, hnone] at htexts
    have hmem' : s'.memory = memoryAfter (zeros cfg) (g.written ++ [data]) := by
      rw [memoryAfter_concat, hmemory, hmem]
    refine ⟨hmem', [], ?_, by simpa using Nat.le_trans hturn' hone⟩
    rw [hinHand, hunread', hbuffer, textsAfter_concat, ← htexts, ← memoryAfter_concat, ← hmem']
    simp
  | reads hunread hunread' hinHand hinHand' hmemory hbuffer =>
    refine ⟨hmemory.trans hmem, missing, ?_, by omega⟩
    rw [hunread, hinHand] at htexts
    rw [hunread', hinHand', hbuffer, ← htexts]
    simp
  | handles hunread hinHand hinHand' hmemory =>
    refine ⟨hmemory.trans hmem, missing, ?_, by omega⟩
    rw [hinHand] at htexts
    rw [hunread, hinHand', hmemory, ← htexts]
    simp
  | losesUnread hlost hunread hunread' hinHand hmemory hbuffer =>
    have hnone : missing = [] := List.eq_nil_of_length_eq_zero (by omega)
    refine ⟨hmemory.trans hmem, [text s.memory], ?_, by simp; omega⟩
    rw [hunread, hnone] at htexts
    rw [hunread', hinHand, hbuffer, ← htexts]
    simp
  | losesText hlost hunread hunread' hinHand hinHand' hmemory =>
    have hnone : missing = [] := List.eq_nil_of_length_eq_zero (by omega)
    refine ⟨hmemory.trans hmem, [text s.sharedMemoryBuffer], ?_, by simp; omega⟩
    rw [hunread, hinHand, hnone] at htexts
    rw [hunread', hinHand', ← htexts]
    simp

end Handoff

end Task6
