import Task6.Server.PipeLife

/-!
# One pipe and one worker

Runs of one pipe alone, with one worker to serve it, behind its connect call.
They are runs of any server that has a worker: the connect loop passes, and then
nothing happens on the other pipes (`exists_run_of_solo`).
-/

namespace Task6

open Win32 NulText

/-- The answer to an overlapped call that Windows has begun. -/
def ioPending : CallResult := ⟨false, errorIoPending⟩

namespace Slot

variable {slot : Slot}

/-- A `readInstance` that Windows begins. -/
theorem readInstance_ioPending (h : slot.InPhase .connected) (size : Nat) :
    slot.readInstance size ioPending =
      (.ok (), { slot with
        inst := { slot.inst with state := PipeState.connectedReading }
        pending := slot.pending ++
          [⟨.read, slot.inst.connReadOverlapped, size % 2 ^ 32, slot.disconnects⟩] }) := by
  have hstate : slot.inst.state = PipeState.connected := h
  unfold readInstance
  rw [canRead_eq h]
  simp only [decide_true, Bool.not_true, Bool.false_eq_true, if_false]
  rw [if_neg (by decide)]
  show (_, ({ slot with
    inst := { slot.inst with state := slot.inst.state ||| PipeState.flagReading }
    pending := _ } : Slot)) = _
  rw [hstate]
  rfl

end Slot

namespace ServerPipe

/-- The pipe behind the connect loop: Windows waits for a client. -/
def listening (index : Nat) : ServerPipe :=
  { create index with
    pipe := { Pipe.create index with
      slot := ((Slot.create index).connectInstance ioPending).2 } }

/-- The worker takes a packet when it is idle. -/
def soloStep (p : ServerPipe) : ServerCall → Option ServerPipe
  | .connect _ => none
  | .take k => if p.pipe.taken = [] ∧ p.tasks = [] then p.step (.take k) else none
  | c => p.step c

def solo (index : Nat) : Machine ServerPipe ServerCall := ⟨listening index, soloStep⟩

/-- What the guards of the worker leave is a step of the pipe. -/
theorem soloStep_some {p p' : ServerPipe} {c : ServerCall} (h : p.soloStep c = some p') :
    p.step c = some p' ∧ Task6Server.loopStep c = 0 ∧
      ((∃ k, c = .take k) → p.pipe.taken = [] ∧ p.tasks = []) := by
  cases c with
  | connect r => cases h
  | take k =>
    simp only [soloStep] at h
    split at h
    · rename_i hidle
      exact ⟨h, rfl, fun _ => hidle⟩
    · cases h
  | openPipe | write _ | close | complete _ | abort _ _ | service _ _ | terminate _ | handle _
  | restart _ _ =>
    refine ⟨h, rfl, ?_⟩
    rintro ⟨k, hk⟩
    cases hk

end ServerPipe

/-! ## The pieces of a run -/

/-- A read that the server starts. -/
def readOp (index : Nat) : AsyncOp := ⟨.read, ⟨index, index⟩, readCapacity, 0⟩

namespace ServerPipe

/-- A pipe with a client, in one hand. -/
def serving (index : Nat) (h : Holder) (ph : Phase) (ch : Channel) (buffer : List Byte)
    (handled : List (List Byte)) : ServerPipe where
  pipe := ⟨⟨⟨ph.bits, ⟨index, index⟩⟩, h.pending, h.onIocp, true, 0⟩, h.inService⟩
  chan := ch
  buffer := buffer
  tasks := h.tasks
  handled := handled

variable {index : Nat} {ph : Phase} {ch ch' : Channel} {buffer data : List Byte}
  {handled : List (List Byte)}

/-- A client comes, and a worker services its connection. -/
theorem exec_accept : (solo index).exec (listening index)
    [.openPipe, .complete 0, .take 0, .service 0 ioPending]
      = some (serving index
          (.busy (.handled ⟨index, .connect, errorSuccess, 0, PipeState.connected, false⟩))
          .connected ⟨.opened, [], []⟩ (List.replicate dataBufferSize 0) []) := rfl

theorem step_complete {errorCode : DWORD}
    (ht : ch.transfer readCapacity = some (errorCode, data, ch')) :
    (solo index).step (serving index (.flight (readOp index)) .reading ch buffer handled)
        (.complete 0)
      = some (serving index (.queued ⟨readOp index, errorCode, data.length⟩) .reading ch'
          (overwrite buffer data) handled) := by
  have hop : (serving index (.flight (readOp index)) .reading ch buffer
      handled).pipe.slot.pending[0]? = some (readOp index) := rfl
  have hchan : (serving index (.flight (readOp index)) .reading ch buffer handled).chan = ch := rfl
  have hkind : (readOp index).kind = .read := rfl
  have hcapacity : (readOp index).capacity = readCapacity := rfl
  show (serving index (.flight (readOp index)) .reading ch buffer handled).step (.complete 0) = _
  simp only [step, hop, hkind, hcapacity, hchan, ht]
  rfl

theorem step_take {packet : Packet} :
    (solo index).step (serving index (.queued packet) ph ch buffer handled) (.take 0)
      = some (serving index (.taken packet) ph ch buffer handled) := rfl

theorem step_service {errorCode : DWORD} {bytesTransferred : Nat} :
    (solo index).step (serving index (.taken ⟨readOp index, errorCode, bytesTransferred⟩)
        .reading ch buffer handled) (.service 0 ioPending)
      = some (serving index
          (.busy (.ofResult
            ⟨index, .read, errorCode, bytesTransferred, PipeState.connected, false⟩))
          .connected ch buffer handled) := rfl

theorem step_terminate {result : AsyncResult} (hroom : result.bytesTransferred < buffer.length) :
    (solo index).step (serving index (.busy (.serviced result)) ph ch buffer handled) (.terminate 0)
      = some (serving index (.busy (.terminated result)) ph ch
          (buffer.set result.bytesTransferred 0) handled) :=
  if_pos hroom

theorem step_handle {result : AsyncResult} :
    (solo index).step (serving index (.busy (.terminated result)) ph ch buffer handled) (.handle 0)
      = some (serving index (.busy (.handled result)) ph ch buffer
          (handled ++ [text buffer])) := rfl

theorem answersRead_pending (ch : Channel) (capacity : Nat) :
    ch.answersRead capacity ioPending = true := by
  unfold Channel.answersRead
  split <;> rfl

theorem step_restart {result : AsyncResult} (hstate : result.newPipeState = PipeState.connected) :
    (solo index).step (serving index (.busy (.handled result)) .connected ch buffer handled)
        (.restart 0 ioPending)
      = some (serving index (.flight (readOp index)) .reading ch buffer handled) := by
  -- whatever is unread, `ReadFile` may leave the read pending
  have hno : ¬ (result.newPipeState = PipeState.connected ∧
      ch.answersRead readCapacity ioPending = false) := by
    rw [answersRead_pending]
    simp
  have hstart (slot : Slot) :
      startNext slot result ioPending = (slot.readInstance readCapacity ioPending).2 := by
    unfold startNext
    rw [hstate, if_neg (by decide), if_pos rfl]
  have hphase : (serving index (.busy (.handled result)) .connected ch buffer
      handled).pipe.slot.InPhase .connected := rfl
  refine (if_neg hno).trans ?_
  rw [hstart, Slot.readInstance_ioPending hphase]
  rfl

end ServerPipe

namespace Task6Server

variable {n : Nat} {s : Task6Server n} {i : Fin n}

/-- The connect loop is over, and no worker is busy with another pipe. -/
structure Alone (s : Task6Server n) (i : Fin n) : Prop where
  wired : s.Wired
  loop : s.connectLoop = n
  idle : ∀ j, j ≠ i → s.sys.taken j = [] ∧ s.tasks j = []

theorem Alone.busy_eq_zero (ha : Alone s i) (hidle : s.sys.taken i = [] ∧ s.tasks i = []) :
    s.busy = 0 := by
  refine Pool.total_eq_zero fun j => ?_
  by_cases hj : j = i
  · subst hj
    simp [hidle]
  · simp [ha.idle j hj]

theorem step_solo (workers : Nat) {c : ServerCall} {p : ServerPipe} (ha : Alone s i)
    (hs : (s.pipe i).soloStep c = some p) :
    ∃ s', step (workers + 1) s ⟨i, c⟩ = some s' ∧ s'.pipe i = p ∧ Alone s' i := by
  obtain ⟨hp, hloop, htake⟩ := ServerPipe.soloStep_some hs
  have hpermit : s.permits (workers + 1) i c = true := by
    cases c with
    | connect r => cases hloop
    | take k =>
      refine decide_eq_true ⟨ha.loop, ?_⟩
      rw [ha.busy_eq_zero (htake ⟨k, rfl⟩)]
      exact Nat.succ_pos workers
    | openPipe | write _ | close | complete _ | abort _ _ | service _ _ | terminate _
    | handle _ | restart _ _ => rfl
  have hstep : step (workers + 1) s ⟨i, c⟩
      = some { s.put i p with connectLoop := s.connectLoop + loopStep c } := by
    rw [step_eq ha.wired, if_pos hpermit, hp]
    rfl
  refine ⟨_, hstep, pipe_put_self s i p, ?_⟩
  refine { wired := step_wired ha.wired hstep, loop := ?_, idle := fun j hj => ?_ }
  · show s.connectLoop + loopStep c = n
    rw [hloop, ha.loop, Nat.add_zero]
  · have hsame : (s.put i p).pipe j = s.pipe j := pipe_put_other s hj p
    obtain ⟨htaken, htasks⟩ := ha.idle j hj
    exact ⟨(congrArg (fun q => q.pipe.taken) hsame).trans htaken,
      (congrArg ServerPipe.tasks hsame).trans htasks⟩

theorem exec_solo (workers : Nat) {index : Nat} {cs : List ServerCall} {p : ServerPipe}
    (ha : Alone s i) (h : (ServerPipe.solo index).exec (s.pipe i) cs = some p) :
    ∃ es s', (machine (workers + 1) n).exec s es = some s' ∧ s'.pipe i = p := by
  induction cs generalizing s with
  | nil =>
    cases h
    exact ⟨[], s, rfl, rfl⟩
  | cons c cs ih =>
    obtain ⟨q, hq, hrest⟩ := Machine.exec_cons_some.mp h
    obtain ⟨s₁, hs₁, rfl, ha₁⟩ := step_solo workers ha hq
    obtain ⟨es, s', hes, hp⟩ := ih ha₁ hrest
    exact ⟨⟨i, c⟩ :: es, s', Machine.exec_cons_some.mpr ⟨s₁, hs₁, hes⟩, hp⟩

/-- The connect loop, with no client there yet. -/
theorem connect_loop (workers : Nat) {k : Nat} (hk : k ≤ n) :
    ∃ es s, (machine workers n).exec (init n) es = some s ∧ s.connectLoop = k ∧
      ∀ j, s.pipe j = if j.val < k then .listening j else .create j := by
  induction k with
  | zero => exact ⟨[], init n, rfl, rfl, fun j => rfl⟩
  | succ k ih =>
    obtain ⟨es, s, hes, hloop, hpipes⟩ := ih (Nat.le_of_succ_le hk)
    -- the loop has not reached the pipe yet, so it is a new one
    have hp : (s.pipe ⟨k, hk⟩).step (.connect ioPending) = some (.listening k) := by
      rw [hpipes, if_neg (Nat.lt_irrefl k)]
      rfl
    have hstep : step workers s ⟨⟨k, hk⟩, .connect ioPending⟩
        = some { s.put ⟨k, hk⟩ (.listening k) with connectLoop := s.connectLoop + 1 } := by
      have hpermit : s.permits workers ⟨k, hk⟩ (.connect ioPending) = true :=
        decide_eq_true hloop.symm
      rw [step_eq (watched_exec hes).wired, if_pos hpermit, hp]
      rfl
    have hlast : (machine workers n).exec s [⟨⟨k, hk⟩, .connect ioPending⟩]
        = some { s.put ⟨k, hk⟩ (.listening k) with connectLoop := s.connectLoop + 1 } :=
      Machine.exec_cons_some.mpr ⟨_, hstep, rfl⟩
    refine ⟨_, _, Machine.exec_trans hes hlast, congrArg (· + 1) hloop, fun j => ?_⟩
    show (s.put ⟨k, hk⟩ (.listening k)).pipe j = _
    by_cases hj : j = ⟨k, hk⟩
    · subst hj
      rw [pipe_put_self, if_pos (Nat.lt_succ_self k)]
    · have hne : j.val ≠ k := fun h => hj (Fin.ext h)
      rw [pipe_put_other s hj, hpipes]
      by_cases hlt : j.val < k
      · rw [if_pos hlt, if_pos (Nat.lt_succ_of_lt hlt)]
      · rw [if_neg hlt, if_neg (by omega)]

/-- **What one pipe and one worker can do alone, they can do in any server.** -/
theorem exists_run_of_solo {cs : List ServerCall} {p : ServerPipe} (workers : Nat)
    (h : (ServerPipe.solo i).exec (.listening i) cs = some p) :
    ∃ es s, (machine (workers + 1) n).exec (init n) es = some s ∧ s.pipe i = p := by
  obtain ⟨es, s, hes, hloop, hpipes⟩ := connect_loop (workers + 1) (Nat.le_refl n)
  -- behind the loop every pipe listens, and all workers are idle
  have hlisten : ∀ j, s.pipe j = .listening j := fun j => by rw [hpipes, if_pos j.isLt]
  have ha : Alone s i := by
    refine { wired := (watched_exec hes).wired, loop := hloop, idle := fun j _ => ⟨?_, ?_⟩ }
    · exact congrArg (fun q => q.pipe.taken) (hlisten j)
    · exact congrArg ServerPipe.tasks (hlisten j)
  rw [← hlisten i] at h
  obtain ⟨fs, s', hfs, hp⟩ := exec_solo workers ha h
  exact ⟨es ++ fs, s', Machine.exec_trans hes hfs, hp⟩

end Task6Server

end Task6
