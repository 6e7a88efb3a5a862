import Task6.Library.Progress
import Task6.Server.SlotLoss
import Task6.Server.SoloRun

/-!
# Delivery does not get stuck

Exact delivery says that what is handled is the beginning of what was written;
this file says that the rest can still come. As long as there is a worker, the
server and Windows can bring every message that is written on a pipe they have
not lost to its handler, whatever happened before and on the other pipes. The
measure is the number of lines that are due: six for an unread message, and the
lines that the holder of the pipe has left.
-/

namespace Task6

open Win32 NulText

/-- The lines a worker has left up to its next read. -/
def WorkerTask.due : WorkerTask → Nat
  | serviced _ => 3
  | terminated _ => 2
  | handled _ => 1

/-- The lines between the holder of the pipe and the next read in flight. -/
def Holder.due : Holder → Nat
  | nobody => 0
  | flight op => if op.kind = .connect then 6 else 0
  | queued _ => 5
  | taken _ => 4
  | busy t => t.due

theorem WorkerTask.due_bounds (t : WorkerTask) : 0 < t.due ∧ t.due < 4 := by
  cases t <;> simp [due]

namespace ServerPipe

/-- The event is one of Windows' or a worker's, and serves the pipe. -/
def ofServer : ServerCall → Bool
  | .complete _ | .take _ | .service _ _ | .terminate _ | .handle _ | .restart _ _ => true
  | .openPipe | .write _ | .close | .connect _ | .abort _ _ => false

/-- The event is one of a busy worker. -/
def ofBusy : ServerCall → Bool
  | .service _ _ | .terminate _ | .handle _ | .restart _ _ => true
  | .openPipe | .write _ | .close | .connect _ | .complete _ | .abort _ _ | .take _ => false

theorem ofServer_of_ofBusy {c : ServerCall} (hc : ofBusy c = true) : ofServer c = true := by
  cases c with
  | service k r | terminate k | handle k | restart k r => rfl
  | openPipe | write m | close | connect r | complete k | abort k errorCode | take k => cases hc

/-- The lines due on the pipe. -/
def due (p : ServerPipe) : Nat :=
  6 * p.chan.unread.length
    + 6 * p.pipe.slot.pending.countP (fun op => decide (op.kind = .connect))
    + 5 * p.pipe.slot.queued.length + 4 * p.pipe.taken.length
    + (p.tasks.map WorkerTask.due).sum

/-- Nobody has written to a pipe that no client has opened. -/
def Unopened (p : ServerPipe) : Prop := p.chan.client = .absent → p.chan.written = []

variable {p p' : ServerPipe} {h h' : Holder} {ph ph' : Phase}

theorem At.due_eq (hheld : p.At h) : p.due = 6 * p.chan.unread.length + h.due := by
  unfold due
  rw [hheld.pending, hheld.queued, hheld.taken, hheld.tasks]
  cases h with
  | flight op =>
    by_cases hkind : op.kind = .connect
    · simp [Holder.due, hkind]
    · simp [Holder.due, hkind]
  | nobody | queued packet | taken packet | busy t => simp [Holder.due]

/-! ## What the lines leave alone -/

theorem transfer_frame {ch ch' : Channel} {capacity : Nat} {errorCode : DWORD} {data : List Byte}
    (ht : ch.transfer capacity = some (errorCode, data, ch')) :
    ∃ unread, ch' = { ch with unread := unread } := by
  unfold Channel.transfer at ht
  split at ht
  · cases ht
  · split at ht
    · cases ht
      exact ⟨_, rfl⟩
    · cases ht
      exact ⟨_, rfl⟩

/-- A line of the server moves the client's end only by reading from it. -/
theorem step_chan {c : ServerCall} (hc : ofServer c = true) (hs : p.step c = some p') :
    p'.chan = p.chan ∨
      (∃ k, c = .complete k) ∧ ∃ unread, p'.chan = { p.chan with unread := unread } := by
  cases c with
  | openPipe | write m | close | connect r | abort k errorCode => cases hc
  | complete k =>
    simp only [step] at hs
    split at hs
    · cases hs
    · split at hs
      · split at hs
        · cases hs
        · obtain ⟨q, hq, rfl⟩ := Option.map_eq_some_iff.mp hs
          exact .inl rfl
      · split at hs
        · cases hs
        · rename_i ht
          obtain ⟨q, hq, rfl⟩ := Option.map_eq_some_iff.mp hs
          exact .inr ⟨⟨k, rfl⟩, transfer_frame ht⟩
  | take k =>
    obtain ⟨q, hq, rfl⟩ := Option.map_eq_some_iff.mp hs
    exact .inl rfl
  | service k r =>
    obtain ⟨packet, hpacket, rfl⟩ := Option.map_eq_some_iff.mp hs
    exact .inl rfl
  | terminate k =>
    simp only [step] at hs
    split at hs
    · split at hs
      · cases hs
        exact .inl rfl
      · cases hs
        exact .inl rfl
    · cases hs
  | handle k =>
    simp only [step] at hs
    split at hs
    · cases hs
      exact .inl rfl
    · cases hs
  | restart k r =>
    simp only [step] at hs
    split at hs
    · obtain ⟨-, hs⟩ := Option.ite_none_left_eq_some.mp hs
      cases hs
      exact .inl rfl
    · cases hs

/-- The client's end is opened before it is written to. -/
theorem step_unopened {c : ServerCall} (h : p.Unopened) (hs : p.step c = some p') :
    p'.Unopened := by
  have server : ofServer c = true → p'.Unopened := by
    intro hc
    rcases step_chan hc hs with hchan | ⟨-, unread, hchan⟩
    · unfold Unopened
      rw [hchan]
      exact h
    · unfold Unopened
      rw [hchan]
      exact h
  cases c with
  | openPipe | close =>
    simp only [step] at hs
    split at hs
    · cases hs
      intro habsent
      cases habsent
    · cases hs
  | write m =>
    simp only [step] at hs
    split at hs
    · rename_i hclient
      cases hs
      intro habsent
      exact absurd (hclient.symm.trans habsent) (by decide)
    · cases hs
  | connect r =>
    simp only [step] at hs
    split at hs
    · cases hs
      exact h
    · cases hs
  | abort k errorCode =>
    simp only [step] at hs
    split at hs
    · cases hs
    · obtain ⟨q, hq, rfl⟩ := Option.map_eq_some_iff.mp hs
      exact h
  | complete _ | take _ | service _ _ | terminate _ | handle _ | restart _ _ => exact server rfl

/-! ## A line is due -/

/-- A pipe whose packet or whose result a worker has is brought nearer to its
next read by the worker's next line. -/
theorem exists_busyLine (hl : p.LifeAt h ph)
    (hbusy : (∃ packet, h = .taken packet) ∨ ∃ t, h = .busy t) :
    ∃ c p', ofBusy c = true ∧ p.step c = some p' ∧ p'.due < p.due ∧
      (p.Short → p.KeepsSlot c) := by
  have hdue := hl.held.due_eq
  have finish : ∀ {c : ServerCall} {p' : ServerPipe} {h' : Holder}, p'.At h' →
      ofBusy c = true → p.step c = some p' → h'.due < h.due → p'.due < p.due := by
    intro c p' h' hat hc hs hlt
    have hdue' := hat.due_eq
    rcases step_chan (ofServer_of_ofBusy hc) hs with hchan | ⟨⟨k, rfl⟩, -⟩
    · rw [hchan] at hdue'
      omega
    · cases hc
  rcases hbusy with ⟨packet, rfl⟩ | ⟨t, rfl⟩
  · have htaken : p.pipe.taken = [packet] := hl.held.taken
    obtain ⟨p', hs⟩ : ∃ p', p.step (.service 0 ioPending) = some p' := by
      simp only [step, htaken, List.getElem?_cons_zero, Option.map_some]
      exact ⟨_, rfl⟩
    refine ⟨.service 0 ioPending, p', rfl, hs, ?_, fun hshort => ?_⟩
    · obtain ⟨packet', -, ⟨-, t, hnew⟩ | ⟨-, hnew⟩⟩ := life_service hl hs
      · exact finish hnew.held rfl hs t.due_bounds.2
      · exact finish hnew.held rfl hs (Nat.succ_pos 3)
    · -- the packet of short messages is the one the state shows
      have htracked := (hl.clean hshort).tracked packet.op rfl
      have hstate : p.pipe.slot.inst.state = ph.bits := hl.phase
      rcases hl.fits.1 with ⟨-, rfl⟩ | ⟨-, -, rfl | rfl⟩
      · exact .inl hstate
      · exact .inr hstate
      · exact absurd rfl htracked
  · have htasks : p.tasks = [t] := hl.held.tasks
    cases t with
    | serviced result =>
      have hroom : result.bytesTransferred < p.buffer.length := by
        have hbytes : result.bytesTransferred ≤ readCapacity := hl.fits.2.2
        rw [hl.size, dataBufferSize_eq]
        omega
      obtain ⟨p', hs⟩ : ∃ p', p.step (.terminate 0) = some p' := by
        simp only [step, htasks, List.getElem?_cons_zero, if_pos hroom]
        exact ⟨_, rfl⟩
      obtain ⟨result', -, -, hnew⟩ := life_terminate hl hs
      exact ⟨.terminate 0, p', rfl, hs, finish hnew.held rfl hs (Nat.lt_succ_self 2),
        fun _ => trivial⟩
    | terminated result =>
      obtain ⟨p', hs⟩ : ∃ p', p.step (.handle 0) = some p' := by
        simp only [step, htasks, List.getElem?_cons_zero]
        exact ⟨_, rfl⟩
      obtain ⟨result', -, hnew⟩ := life_handle hl hs
      exact ⟨.handle 0, p', rfl, hs, finish hnew.held rfl hs (Nat.lt_succ_self 1),
        fun _ => trivial⟩
    | handled result =>
      obtain ⟨rfl, hstate, -⟩ := hl.fits
      have hstate : result.newPipeState = PipeState.connected := hstate
      have hno : ¬ (result.newPipeState = PipeState.connected ∧
          p.chan.answersRead readCapacity ioPending = false) := by
        rw [answersRead_pending]
        simp
      have hstart : startNext p.pipe.slot result ioPending
          = (p.pipe.slot.readInstance readCapacity ioPending).2 := by
        unfold startNext
        rw [hstate, if_neg (by decide), if_pos rfl]
      have hs : p.step (.restart 0 ioPending) = some { p with
          pipe := { p.pipe with slot := startNext p.pipe.slot result ioPending }
          tasks := [] } := by
        simp only [step, htasks, List.getElem?_cons_zero, if_neg hno, List.eraseIdx_cons_zero]
      refine ⟨.restart 0 ioPending, _, rfl, hs, ?_, fun _ => rfl⟩
      -- the read that is now in flight owes nothing
      rw [hstart, Slot.readInstance_ioPending hl.phase, hdue]
      simp only [due, hl.held.pending, hl.held.queued, hl.held.taken, Holder.pending,
        Holder.onIocp, Holder.inService, Holder.due, WorkerTask.due, List.nil_append,
        List.length_nil, List.map_nil, List.sum_nil]
      simp

/-- All that was written is handled. -/
def Handled (p : ServerPipe) : Prop := p.handled = p.chan.written.map ClientMessg.text

theorem handled_of_clean (hc : p.Clean h ph) (hinHand : h.inHand p.buffer = [])
    (hunread : p.chan.unread = []) : p.Handled := by
  have hdelivered := hc.delivered
  rw [hinHand, hunread, List.append_nil, List.append_nil] at hdelivered
  exact hdelivered

/-- A served pipe that no worker is busy with: Windows has something to complete,
or its packet waits for a worker. -/
theorem exists_idleLine (hl : p.LifeAt h ph) (hshort : p.Short) (hopen : p.Unopened)
    (hserved : h ≠ .nobody) (hidle : p.pipe.taken = [] ∧ p.tasks = []) (hnot : ¬ p.Handled) :
    ∃ c p', (c = .complete 0 ∨ c = .take 0) ∧ p.step c = some p' ∧ p'.due < p.due := by
  have hclean := hl.clean hshort
  have hdue := hl.held.due_eq
  cases h with
  | nobody => exact absurd rfl hserved
  | taken packet =>
    have htaken : p.pipe.taken = [packet] := hl.held.taken
    rw [htaken] at hidle
    cases hidle.1
  | busy t =>
    have htasks : p.tasks = [t] := hl.held.tasks
    rw [htasks] at hidle
    cases hidle.2
  | queued packet =>
    have hqueued : p.pipe.slot.queued = [packet] := hl.held.queued
    obtain ⟨p', hs⟩ : ∃ p', p.step (.take 0) = some p' := by
      simp only [step, Pipe.step, hqueued, List.getElem?_cons_zero, Option.map_some]
      exact ⟨_, rfl⟩
    obtain ⟨packet', -, hnew⟩ := life_take hl hs
    have hdue' := hnew.held.due_eq
    refine ⟨.take 0, p', .inr rfl, hs, ?_⟩
    rcases step_chan rfl hs with hchan | ⟨⟨k, hk⟩, -⟩
    · rw [hchan] at hdue'
      have hfive : Holder.due (.queued packet) = 5 := rfl
      have hfour : Holder.due (.taken packet') = 4 := rfl
      omega
    · cases hk
  | flight op =>
    have hpending : p.pipe.slot.pending = [op] := hl.held.pending
    by_cases hkind : op.kind = .connect
    · -- a client is there, since it has written
      have hclient : p.chan.client ≠ .absent := by
        intro habsent
        have hwritten := hopen habsent
        have hdelivered := hclean.delivered
        rw [hwritten] at hdelivered
        refine hnot ?_
        unfold Handled
        rw [hwritten]
        exact (List.append_eq_nil_iff.mp (List.append_eq_nil_iff.mp hdelivered).1).1
      have hs : p.step (.complete 0) = some { p with
          pipe := ⟨p.pipe.slot.complete 0 ⟨op, errorSuccess, 0⟩, p.pipe.taken⟩ } := by
        simp only [step, Pipe.step, hpending, List.getElem?_cons_zero, hkind, if_neg hclient,
          Option.map_some]
      obtain ⟨op', packet, -, hnew⟩ := life_complete hl hs
      have hdue' := hnew.held.due_eq
      have hsix : Holder.due (.flight op) = 6 := if_pos hkind
      have hfive : Holder.due (.queued packet) = 5 := rfl
      refine ⟨.complete 0, _, .inl rfl, hs, ?_⟩
      rw [hdue', hdue, hsix, hfive]
      exact Nat.lt_succ_self _
    · -- a message is unread, since not all are handled; it fits the read
      have hread : op.kind = .read ∧ op.capacity = readCapacity := by
        have hfits : Holder.OpFits op ph := hl.fits
        rcases hfits with ⟨hconnect, -⟩ | ⟨hread, hcapacity, -⟩
        · exact absurd hconnect hkind
        · exact ⟨hread, hcapacity⟩
      cases hunread : p.chan.unread with
      | nil => exact absurd (handled_of_clean hclean rfl hunread) hnot
      | cons chunk rest =>
        have hlen : chunk.length ≤ readCapacity :=
          hclean.unread_short hshort chunk (hunread ▸ List.mem_cons_self ..)
        have htransfer : p.chan.transfer readCapacity
            = some (errorSuccess, chunk, { p.chan with unread := rest }) := by
          simp only [Channel.transfer, hunread, if_pos hlen]
        have hs : p.step (.complete 0) = some { p with
            pipe := ⟨p.pipe.slot.complete 0 ⟨op, errorSuccess, chunk.length⟩, p.pipe.taken⟩
            chan := { p.chan with unread := rest }
            buffer := overwrite p.buffer chunk } := by
          simp only [step, Pipe.step, hpending, List.getElem?_cons_zero, hread.1, hread.2,
            htransfer, Option.map_some]
        obtain ⟨op', packet, -, hnew⟩ := life_complete hl hs
        have hdue' := hnew.held.due_eq
        have hfive : Holder.due (.queued packet) = 5 := rfl
        refine ⟨.complete 0, _, .inl rfl, hs, ?_⟩
        rw [hunread, List.length_cons] at hdue
        rw [hdue', hdue, hfive]
        show 6 * rest.length + 5 < _
        omega

end ServerPipe

namespace Task6Server

variable {n : Nat} {workers : Nat} {s s' : Task6Server n}

/-- The lines due on all pipes. -/
def due (s : Task6Server n) : Nat := Pool.total ServerPipe.due s.pipe

theorem pipe_put (s : Task6Server n) (i : Fin n) (p : ServerPipe) :
    (s.put i p).pipe = Function.update s.pipe i p := by
  funext j
  by_cases hj : j = i
  · subst hj
    rw [pipe_put_self, Function.update_self]
  · rw [pipe_put_other s hj, Function.update_of_ne hj]

/-- The started server, on its way from `s₀`: no pipe that is served and has only
short messages is lost, and nothing more is written. -/
structure Underway (s₀ s : Task6Server n) : Prop where
  watched : Watched s
  started : s.connectLoop = n
  unopened : ∀ i, (s.pipe i).Unopened
  written : ∀ i, (s.pipe i).chan.written = (s₀.pipe i).chan.written
  served : ∀ i, (s₀.pipe i).Served → (s₀.pipe i).Short → (s.pipe i).Served

/-- All that was written on such a pipe is handled. -/
def AllHandled (s₀ s : Task6Server n) : Prop :=
  ∀ i, (s₀.pipe i).Served → (s₀.pipe i).Short → (s.pipe i).Handled

/-- A line of the server on one pipe, as one of the server. -/
theorem underway_put {s₀ : Task6Server n} {i : Fin n} {c : ServerCall} {p : ServerPipe}
    (h : Underway s₀ s) (hc : ServerPipe.ofServer c = true)
    (hpermit : s.permits workers i c = true) (hp : (s.pipe i).step c = some p)
    (hdue : p.due < (s.pipe i).due) (hkeeps : (s.pipe i).Short → (s.pipe i).KeepsSlot c) :
    ∃ s', step workers s ⟨i, c⟩ = some s' ∧ Underway s₀ s' ∧ s'.due < s.due := by
  have hloop : loopStep c = 0 := by
    cases c with
    | connect r => cases hc
    | _ => rfl
  have hs : step workers s ⟨i, c⟩
      = some { s.put i p with connectLoop := s.connectLoop + loopStep c } := by
    rw [step_eq h.watched.wired, if_pos hpermit, hp]
    rfl
  have hpipe : Task6Server.pipe { s.put i p with connectLoop := s.connectLoop + loopStep c }
      = Function.update s.pipe i p := pipe_put s i p
  refine ⟨_, hs, ?_, ?_⟩
  · refine { watched := watched_step h.watched hs, started := ?_, unopened := ?_, written := ?_,
             served := ?_ }
    · show s.connectLoop + loopStep c = n
      rw [hloop, h.started]
      rfl
    · rw [hpipe]
      exact (Function.forall_update_iff _ fun _ (q : ServerPipe) => q.Unopened).mpr
        ⟨ServerPipe.step_unopened (h.unopened i) hp, fun j _ => h.unopened j⟩
    · rw [hpipe]
      refine (Function.forall_update_iff _ fun j (q : ServerPipe) =>
        q.chan.written = (s₀.pipe j).chan.written).mpr ⟨?_, fun j _ => h.written j⟩
      rw [← h.written i]
      rcases ServerPipe.step_chan hc hp with hchan | ⟨-, unread, hchan⟩
      · rw [hchan]
      · rw [hchan]
    · intro j hserved hshort
      have hold := h.served j hserved hshort
      obtain ⟨hself, hother⟩ := served_step h.watched hs
      by_cases hj : j = i
      · subst hj
        refine hself.mpr ⟨.inl hold, hkeeps fun m hm => hshort m ?_⟩
        rw [← h.written j]
        exact hm
      · rw [hother j hj]
        exact hold
  · have hacc := Pool.total_update ServerPipe.due s.pipe i p
    unfold due
    rw [hpipe]
    omega

/-- No worker is busy when none has a packet or a result. -/
theorem busy_eq_zero (h : ∀ i, (s.pipe i).pipe.taken = [] ∧ (s.pipe i).tasks = []) :
    s.busy = 0 := by
  refine Pool.total_eq_zero fun i => ?_
  have htaken : s.sys.taken i = [] := (h i).1
  have htasks : s.tasks i = [] := (h i).2
  rw [htaken, htasks]
  rfl

/-- As long as something is not handled, a line is due: a busy worker's, or else
one of the pipe in question. -/
theorem exists_line {s₀ : Task6Server n} (h : Underway s₀ s) (hworkers : 0 < workers)
    (hnot : ¬ AllHandled s₀ s) :
    ∃ e s', ServerPipe.ofServer e.call = true ∧ step workers s e = some s' ∧
      Underway s₀ s' ∧ s'.due < s.due := by
  by_cases hidle : ∀ i, (s.pipe i).pipe.taken = [] ∧ (s.pipe i).tasks = []
  · obtain ⟨i, hi⟩ := not_forall.mp hnot
    obtain ⟨hserved₀, hi⟩ := Classical.not_imp.mp hi
    obtain ⟨hshort₀, hi⟩ := Classical.not_imp.mp hi
    have hserved := h.served i hserved₀ hshort₀
    have hshort : (s.pipe i).Short := by
      intro m hm
      rw [h.written i] at hm
      exact hshort₀ m hm
    obtain ⟨holder, ph, hl, -⟩ := h.watched.life i
    obtain ⟨c, p, hc, hp, hdue⟩ := ServerPipe.exists_idleLine hl hshort (h.unopened i)
      (hl.held.served_iff.mp hserved) (hidle i) hi
    rcases hc with rfl | rfl
    · have hpermit : s.permits workers i (.complete 0) = true := rfl
      obtain ⟨s', hs', hnext⟩ := underway_put h rfl hpermit hp hdue fun _ => trivial
      exact ⟨_, s', rfl, hs', hnext⟩
    · -- all workers are free
      have hpermit : s.permits workers i (.take 0) = true :=
        decide_eq_true ⟨h.started, by rw [busy_eq_zero hidle]; exact hworkers⟩
      obtain ⟨s', hs', hnext⟩ := underway_put h rfl hpermit hp hdue fun _ => trivial
      exact ⟨_, s', rfl, hs', hnext⟩
  · obtain ⟨i, hi⟩ := not_forall.mp hidle
    obtain ⟨holder, ph, hl, -⟩ := h.watched.life i
    have hbusy : (∃ packet, holder = .taken packet) ∨ ∃ t, holder = .busy t := by
      cases holder with
      | taken packet => exact .inl ⟨packet, rfl⟩
      | busy t => exact .inr ⟨t, rfl⟩
      | nobody | flight op | queued packet => exact absurd ⟨hl.held.taken, hl.held.tasks⟩ hi
    obtain ⟨c, p, hc, hp, hdue, hkeeps⟩ := ServerPipe.exists_busyLine hl hbusy
    have hserver := ServerPipe.ofServer_of_ofBusy hc
    have hpermit : s.permits workers i c = true := by
      cases c with
      | connect r | take k => cases hc
      | _ => rfl
    obtain ⟨s', hs', hnext⟩ := underway_put h hserver hpermit hp hdue hkeeps
    exact ⟨_, s', hserver, hs', hnext⟩

theorem unopened_exec {es : List (ServerEvent n)}
    (hs : (machine workers n).exec (init n) es = some s) (i : Fin n) : (s.pipe i).Unopened := by
  refine (Machine.exec_invariant (M := machine workers n)
    (I := fun s => Watched s ∧ ∀ i, (s.pipe i).Unopened) ?_ ⟨watched_init n, ?_⟩ hs).2 i
  · rintro s e s' ⟨hw, hopen⟩ hs
    refine ⟨watched_step hw hs, ?_⟩
    obtain ⟨-, p, hp, rfl⟩ := step_some hw.wired hs
    show ∀ i, ((s.put e.index p).pipe i).Unopened
    rw [pipe_put]
    exact (Function.forall_update_iff _ fun _ (q : ServerPipe) => q.Unopened).mpr
      ⟨ServerPipe.step_unopened (hopen e.index) hp, fun j _ => hopen j⟩
  · intro i _
    rfl

/-- **No message is ever stuck**: from every reachable state of a started server
with at least one worker, Windows and the workers can bring every message that is
written to its handler, on all the pipes at once that are not lost and whose
clients wrote only messages that fit a read; and those pipes are not lost on the
way. -/
theorem handled_reachable {workers n : Nat} (hworkers : 0 < workers)
    {es : List (ServerEvent n)} {s : Task6Server n}
    (hs : (machine workers n).exec (init n) es = some s) (hstarted : s.connectLoop = n) :
    ∃ fs t, (machine workers n).exec s fs = some t ∧
      (∀ e ∈ fs, ServerPipe.ofServer e.call = true) ∧
      ∀ i, (s.pipe i).Served → (∀ m ∈ (s.chans i).written, m.text.length ≤ readCapacity) →
        t.handled i = (s.chans i).written.map ClientMessg.text ∧ (t.pipe i).Served := by
  have hstart : Underway s s :=
    ⟨watched_exec hs, hstarted, unopened_exec hs, fun _ => rfl, fun _ h _ => h⟩
  have hprog : ∀ r, Underway s r → ¬ AllHandled s r →
      ∃ e r', ServerPipe.ofServer e.call = true ∧ (machine workers n).step r e = some r' ∧
        Underway s r' ∧ r'.due < r.due := fun r h hnot => exists_line h hworkers hnot
  obtain ⟨fs, t, hexec, hunder, hall, hserver, -⟩ :=
    Machine.exists_exec_of_measure (B := fun e : ServerEvent n => ServerPipe.ofServer e.call = true)
      hprog hstart
  refine ⟨fs, t, hexec, hserver, fun i hserved hshort => ⟨?_, hunder.served i hserved hshort⟩⟩
  have hwritten : (t.chans i).written = (s.chans i).written := hunder.written i
  rw [← hwritten]
  exact hall i hserved hshort

def twoChars : ClientMessg := ⟨List.replicate 2 120, by simp⟩

/-- A client opens the pipe and writes `"xx"`. -/
def oneWrite : List (ServerEvent 1) :=
  [ServerCall.connect ioPending, .openPipe, .write twoChars].map fun c => ⟨⟨0, Nat.zero_lt_one⟩, c⟩

theorem handled_reachable_oneWrite :
    ∃ s fs t, (machine 1 1).exec (init 1) oneWrite = some s ∧
      (machine 1 1).exec s fs = some t ∧ t.handled 0 = [[120, 120]] := by
  obtain ⟨s, hs, hstarted, hserved, hwritten⟩ : ∃ s, (machine 1 1).exec (init 1) oneWrite = some s ∧
      s.connectLoop = 1 ∧ (s.pipe 0).Served ∧ (s.chans 0).written = [twoChars] :=
    ⟨_, rfl, rfl, .inl (List.cons_ne_nil _ _), rfl⟩
  obtain ⟨fs, t, ht, -, hall⟩ := handled_reachable Nat.one_pos hs hstarted
  refine ⟨s, fs, t, hs, ht, ?_⟩
  have hshort : ∀ m ∈ (s.chans 0).written, m.text.length ≤ readCapacity := by
    intro m hm
    rw [hwritten] at hm
    rw [List.mem_singleton.mp hm]
    decide
  rw [(hall 0 hserved hshort).1, hwritten]
  rfl

end Task6Server

end Task6
