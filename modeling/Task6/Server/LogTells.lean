import Task6.Server.LogReader
import Task6.Server.SystemStops

/-!
# What the log tells

The log of the whole server against what the server does, in every run: whatever the
threads do between the lines of each other's `pushMessg`, and whenever the console
takes messages out.

- `Quiet`: the steps of the system that neither receive nor handle a message.
- `Heard`: the messages of a pipe in the log are the ones handled, and the one a
  worker has just put there and is about to handle.
- `Told`: the invariant. The queue comes from `MessageLog`, the reader from
  `LogReader`, and that nobody else is at the buffer of a pipe from `PipesRefined`.
-/

namespace Task6

open Win32 NulText

/-! ## The lines of the log -/

namespace MessageLog

variable {m : Nat} {build : Build} {log log' : MessageLog m} {i : Fin m}

theorem pushMessg_step {messg : String}
    (hs : log.step build ⟨i, .pushMessg messg⟩ = some log') :
    log' = log.move i (.emplacing messg) := by
  obtain ⟨-, hs⟩ := Option.ite_none_right_eq_some.mp hs
  exact (Option.some.inj hs).symm

theorem emplace_step (hs : log.step build ⟨i, .emplace⟩ = some log') :
    ∃ messg, log.threads i = .emplacing messg ∧ log' = log.emplace i messg := by
  cases hi : log.threads i <;> simp only [step, hi, reduceCtorEq, Option.some.injEq] at hs
  exact ⟨_, rfl, hs.symm⟩

/-- A line that puts nothing into the log: what is in it or was taken out of it is
still in order, and nobody begins to put anything there. -/
structure Passes (log log' : MessageLog m) : Prop where
  pushed : log'.pushed = log.pushed
  order : log'.popped ++ log'.log = log.popped ++ log.log
  uttering : ∀ j messg, log'.threads j = .emplacing messg → log.threads j = .emplacing messg

theorem passes_move {t : LogCaller} (ht : ∀ messg, t ≠ .emplacing messg) :
    Passes log (log.move i t) where
  pushed := rfl
  order := rfl
  uttering := by
    intro j messg hj
    by_cases hji : j = i
    · subst hji
      rw [move_self] at hj
      exact absurd hj (ht messg)
    · rwa [move_of_ne hji] at hj

theorem passes_of_step {e : LogEvent m} (he : LoggedSystem.pushes e.action = false)
    (hs : log.step build e = some log') : Passes log log' := by
  obtain ⟨i, action⟩ := e
  cases action with
  | pushMessg messg | emplace => cases he
  | releaseSemaphore =>
    cases hi : log.threads i <;> simp only [step, hi, reduceCtorEq, Option.some.injEq] at hs
    subst hs
    unfold releaseSemaphore
    split
    · have hmove : Passes log (log.move i .outside) := passes_move (by simp)
      exact { hmove with }
    · split <;> exact passes_move (by simp)
  | popMessg messg =>
    obtain ⟨-, hs⟩ := Option.ite_none_right_eq_some.mp hs
    cases hs
    exact passes_move (by simp)
  | wait dwResult lastError =>
    cases hi : log.threads i <;> simp only [step, hi, reduceCtorEq] at hs
    split at hs
    · obtain ⟨-, hs⟩ := Option.ite_none_right_eq_some.mp hs
      cases hs
      rename_i messg _
      have hmove : Passes log (log.move i (.popping messg)) := passes_move (by simp)
      exact { hmove with }
    · cases hs
      refine passes_move fun messg => ?_
      unfold LogCaller.afterWait
      split_ifs <;> simp
  | pop =>
    cases hi : log.threads i <;> simp only [step, hi, reduceCtorEq, Option.some.injEq] at hs
    subst hs
    unfold popFront
    split
    · exact passes_move (by simp)
    · rename_i front rest hlog
      refine ⟨rfl, ?_, (passes_move (by simp)).uttering⟩
      show (log.popped ++ [front]) ++ rest = log.popped ++ log.log
      rw [hlog, List.append_assoc, List.singleton_append]

end MessageLog

namespace Task6System

variable {C W n : Nat} {build : Build} {s s' : Task6System C W n}

/-! ## The steps that no message is received or handled in -/

/-- The messages handled stay the same, and the ones about to be; a buffer is written
to only while a read is pending on it. -/
structure Quiet (s s' : Task6System C W n) : Prop where
  handled : s'.pipeHandled = s.pipeHandled
  terminated : ∀ v result, s'.workers v = .pipeTask (.terminated result) ↔
    s.workers v = .pipeTask (.terminated result)
  buffers : ∀ i, s'.pipeSvBuffers i = s.pipeSvBuffers i ∨ (s.pipes i).pending ≠ []

theorem quiet_same (hhandled : s'.pipeHandled = s.pipeHandled) (hworkers : s'.workers = s.workers)
    (hbuffers : s'.pipeSvBuffers = s.pipeSvBuffers) : Quiet s s' :=
  ⟨hhandled, fun v result => by rw [hworkers], fun i => .inl (by rw [hbuffers])⟩

theorem quiet_line {v : Fin W} {line : WorkerLine} (hhandled : s'.pipeHandled = s.pipeHandled)
    (hbuffers : s'.pipeSvBuffers = s.pipeSvBuffers)
    (hworkers : s'.workers = Function.update s.workers v line)
    (hold : ∀ result, s.workers v ≠ .pipeTask (.terminated result))
    (hnew : ∀ result, line ≠ .pipeTask (.terminated result)) : Quiet s s' where
  handled := hhandled
  terminated := by
    intro u result
    rw [hworkers]
    by_cases hu : u = v
    · subst hu
      rw [Function.update_self]
      exact ⟨fun h => absurd h (hnew result), fun h => absurd h (hold result)⟩
    · rw [Function.update_of_ne hu]
  buffers := fun i => .inl (by rw [hbuffers])

theorem quiet_pipes {e : SystemEvent C W n} (hs : s.pipeStep e = some s') : Quiet s s' := by
  unfold pipeStep at hs
  split at hs
  · obtain ⟨-, hs⟩ := Option.ite_none_right_eq_some.mp hs
    cases hs
    exact quiet_same rfl rfl rfl
  · obtain ⟨-, hs⟩ := Option.ite_none_right_eq_some.mp hs
    cases hs
    exact quiet_same rfl rfl rfl
  · obtain ⟨-, hs⟩ := Option.ite_none_right_eq_some.mp hs
    cases hs
    exact quiet_same rfl rfl rfl
  · obtain ⟨-, hs⟩ := Option.ite_none_right_eq_some.mp hs
    split at hs
    · cases hs
      exact quiet_same rfl rfl rfl
    · cases hs
  · rename_i i k
    split at hs
    · cases hs
    · rename_i op hop
      split at hs
      · obtain ⟨-, hs⟩ := Option.ite_none_left_eq_some.mp hs
        cases hs
        exact quiet_same rfl rfl rfl
      · split at hs
        · cases hs
        · cases hs
          -- the read that completes was pending
          refine ⟨rfl, fun _ _ => Iff.rfl, fun j => ?_⟩
          by_cases hj : j = i
          · subst hj
            refine .inr fun hnil => ?_
            rw [hnil] at hop
            cases hop
          · exact .inl (Function.update_of_ne hj ..)
  · obtain ⟨-, hs⟩ := Option.ite_none_left_eq_some.mp hs
    obtain ⟨op, -, rfl⟩ := Option.map_eq_some_iff.mp hs
    exact quiet_same rfl rfl rfl
  · cases hs

theorem nextLine_ne_pipeTask (shutdownEvent : Bool) (dequeued : Option IocpEntry)
    (task : WorkerTask) : nextLine shutdownEvent dequeued ≠ .pipeTask task := by
  intro h
  have htasks := tasks_nextLine shutdownEvent dequeued
  rw [h] at htasks
  exact absurd htasks (Multiset.singleton_ne_zero task)

theorem ofPc_ne_pipeTask (pc : WorkerPc) (task : WorkerTask) :
    WorkerLine.ofPc pc ≠ .pipeTask task := by
  intro h
  have htasks := WorkerLine.tasks_ofPc pc
  rw [h] at htasks
  exact absurd htasks (Multiset.singleton_ne_zero task)

theorem quiet_worker {e : SystemEvent C W n} (hs : s.workerStep e = some s')
    (hhandle : ∀ v, e ≠ .handle v) (hterminate : ∀ v, e ≠ .terminate v) : Quiet s s' := by
  unfold workerStep at hs
  split at hs
  · split at hs
    · rename_i hpc hiocp
      obtain ⟨-, hs⟩ := Option.ite_none_right_eq_some.mp hs
      cases hs
      exact quiet_line rfl rfl rfl (by simp [hpc]) (by simp)
    · cases hs
  · split at hs
    · rename_i hpc
      obtain ⟨-, hs⟩ := Option.ite_none_right_eq_some.mp hs
      cases hs
      exact quiet_line rfl rfl rfl (by simp [hpc]) (by simp)
    · cases hs
  · split at hs
    · rename_i hpc
      cases hs
      exact quiet_line rfl rfl rfl (by simp [hpc]) fun _ => nextLine_ne_pipeTask _ _ _
    · cases hs
  · split at hs
    · rename_i packet hpc
      cases hs
      refine quiet_line rfl rfl rfl (by simp [hpc]) fun result => ?_
      split
      · unfold WorkerTask.ofResult
        split <;> simp
      · simp
    · cases hs
  · exact absurd rfl (hterminate _)
  · exact absurd rfl (hhandle _)
  · split at hs
    · rename_i result hpc
      split at hs
      · obtain ⟨-, hs⟩ := Option.ite_none_left_eq_some.mp hs
        cases hs
        exact quiet_line rfl rfl rfl (by simp [hpc]) (by simp)
      · cases hs
        exact quiet_line rfl rfl rfl (by simp [hpc]) (by simp)
    · cases hs
  · cases hs

theorem quiet_shared {v : Fin W} {line : SharedLine} (hs : s.sharedStep build v line = some s') :
    Quiet s s' := by
  unfold sharedStep at hs
  split at hs
  · rename_i pc hpc
    obtain ⟨hh, -, rfl⟩ := Option.map_eq_some_iff.mp hs
    exact quiet_line rfl rfl rfl (by simp [hpc]) fun _ => ofPc_ne_pipeTask _ _
  · cases hs

/-- The waiter thread and `stopAndWait` have nothing to do with it. -/
theorem quiet_waiter {e : SystemEvent C W n} (hs : s.waiterStep build e = some s') :
    Quiet s s' := by
  rcases waiterStep_cases hs with ⟨write, rfl⟩ | ⟨write, rfl⟩ | ⟨waiter, running, -, rfl⟩
  · exact quiet_same rfl rfl rfl
  · exact quiet_same rfl rfl rfl
  · exact quiet_same rfl rfl rfl

theorem quiet_stop {e : SystemEvent C W n} (hs : s.stopStep build e = some s') : Quiet s s' := by
  rcases stopStep_cases hs with ⟨pc, -, rfl⟩ | ⟨pc, rfl⟩ | ⟨pipeServer, pc, running, -, rfl⟩
  · exact quiet_same rfl rfl rfl
  · exact quiet_same rfl rfl rfl
  · exact quiet_same rfl rfl rfl

theorem quiet_step {e : SystemEvent C W n} (hs : step build s e = some s')
    (hhandle : ∀ v, e ≠ .handle v) (hterminate : ∀ v, e ≠ .terminate v) : Quiet s s' := by
  rcases step_cases hs with ⟨i, line, -, hs⟩ | ⟨-, hs | hs | rfl | hs | ⟨v, line, -, hs⟩ | hs⟩
  · obtain ⟨hh, -, rfl⟩ := Option.map_eq_some_iff.mp hs
    exact quiet_same rfl rfl rfl
  · exact quiet_pipes hs
  · exact quiet_waiter hs
  · exact quiet_same rfl rfl rfl
  · exact quiet_worker hs hhandle hterminate
  · exact quiet_shared hs
  · exact quiet_stop hs

/-! ## The buffer of a message -/

/-- Worker `v` has the terminated message of pipe `i` in front of it. -/
def HasMessage (s : Task6System C W n) (v : Fin W) (i : Fin n) : Prop :=
  ∃ result, s.workers v = .pipeTask (.terminated result) ∧ result.instanceIndex = i

theorem Quiet.hasMessage_iff (h : Quiet s s') (v : Fin W) (i : Fin n) :
    s'.HasMessage v i ↔ s.HasMessage v i :=
  exists_congr fun result => and_congr_left fun _ => h.terminated v result

theorem busyAt_eq (s : Task6System C W n) (i : Fin n) :
    s.busyAt i = Pool.total (fun line : WorkerLine =>
      line.tasks.countP fun task => task.result.instanceIndex = i.val) s.workers :=
  Pool.countP_gathered _ _ _

theorem countP_tasks {line : WorkerLine} {task : WorkerTask} {i : Fin n}
    (hline : line = .pipeTask task) (hindex : task.result.instanceIndex = i) :
    (line.tasks.countP fun task => task.result.instanceIndex = i.val) = 1 := by
  subst hline
  exact Multiset.countP_cons_of_pos (p := fun task : WorkerTask =>
    task.result.instanceIndex = i.val) 0 hindex

/-- A worker that is behind `service` with a pipe is the only one, and no operation is
pending there. -/
theorem only_of_oneHand {i : Fin n} (hone : (s.pipes i).pending.length +
      s.packets.countP (ofPipe i) + s.takenAt i + s.busyAt i ≤ 1) {v : Fin W} {task : WorkerTask}
    (hv : s.workers v = .pipeTask task) (hindex : task.result.instanceIndex = i) :
    (s.pipes i).pending = [] ∧ ∀ u task', s.workers u = .pipeTask task' →
      task'.result.instanceIndex = i → u = v := by
  rw [busyAt_eq] at hone
  have hone' := Pool.weight_le_total (fun line : WorkerLine =>
    line.tasks.countP fun task => task.result.instanceIndex = i.val) s.workers v
  rw [countP_tasks hv hindex] at hone'
  refine ⟨List.length_eq_zero_iff.mp (by omega), fun u task' hu hindex' => ?_⟩
  by_contra hne
  have htwo := Pool.weight_add_le_total (fun line : WorkerLine =>
    line.tasks.countP fun task => task.result.instanceIndex = i.val) s.workers hne
  rw [countP_tasks hv hindex, countP_tasks hu hindex'] at htwo
  omega

end Task6System

/-- The message of pipe `index` in the line, if there is one. -/
def WorkerNews.messageOf (index : Nat) : WorkerNews → Option (List Byte)
  | message index' messg => if index' = index then some messg else none
  | _ => none

namespace LoggedSystem

variable {C W n : Nat} {build : Build} {texts : LogTexts W} {s s' : LoggedSystem C W n}

/-! ## Readings of the log -/

/-- A line of the log. -/
def entry (texts : LogTexts W) (p : Fin W × WorkerNews) : String := p.2.text (texts.threadId p.1)

/-- What worker `v` has said. -/
def saidBy (said : List (Fin W × WorkerNews)) (v : Fin W) : List WorkerNews :=
  said.filterMap fun p => if p.1 = v then some p.2 else none

/-- The messages of a pipe. -/
def messagesOf (said : List (Fin W × WorkerNews)) (index : Nat) : List (List Byte) :=
  said.filterMap fun p => p.2.messageOf index

theorem saidBy_concat (said : List (Fin W × WorkerNews)) (u : Fin W) (news : WorkerNews)
    (v : Fin W) :
    saidBy (said ++ [(u, news)]) v = saidBy said v ++ if u = v then [news] else [] := by
  by_cases h : u = v <;> simp [saidBy, h]

theorem messagesOf_concat (said : List (Fin W × WorkerNews)) (u : Fin W) (news : WorkerNews)
    (index : Nat) :
    messagesOf (said ++ [(u, news)]) index =
      messagesOf said index ++ (news.messageOf index).toList := by
  unfold messagesOf
  rw [List.filterMap_append]
  cases h : news.messageOf index <;> simp [h]

/-- The messages of the pipe in the log: the ones handled, and the one that a worker has
put there and has in front of it. -/
def Heard (s : LoggedSystem C W n) (i : Fin n) : Prop :=
  (∃ v, s.system.HasMessage v i ∧ s.saying v = [] ∧
      messagesOf s.said i = s.system.pipeHandled i ++ [text (s.system.pipeSvBuffers i)]) ∨
    (∀ v, s.system.HasMessage v i → s.saying v ≠ []) ∧
      messagesOf s.said i = s.system.pipeHandled i

/-- The reader is where the worker is. -/
def KeptUp (s : LoggedSystem C W n) (v : Fin W) : Prop :=
  ∃ q, ThreadLog.reader.exec .fresh (saidBy s.said v ++ s.saying v) = some q ∧
    Reads (s.system.workers v) (s.leaving v) (s.saying v) q

/-- What a worker in `pushMessg` is putting into the log. -/
def Uttering (texts : LogTexts W) (s : LoggedSystem C W n) (v : Fin W) : Prop :=
  ∀ messg, s.log.threads v.castSucc = .emplacing messg → ∃ news rest,
    s.saying v = news :: rest ∧ messg = news.text (texts.threadId v) ∧
      news.evaluated s.system.pipeSvBuffers = news

theorem heard_of_same {i : Fin n} (h : s.Heard i)
    (hsaid : messagesOf s'.said i = messagesOf s.said i)
    (hhandled : s'.system.pipeHandled i = s.system.pipeHandled i)
    (hhas : ∀ v, s'.system.HasMessage v i ↔ s.system.HasMessage v i)
    (hsaying : ∀ v, s.system.HasMessage v i → (s'.saying v = [] ↔ s.saying v = []))
    (hbuffer : ∀ v, s.system.HasMessage v i →
      s'.system.pipeSvBuffers i = s.system.pipeSvBuffers i) : s'.Heard i := by
  rcases h with ⟨v, hv, hsilent, hmessages⟩ | ⟨hnone, hmessages⟩
  · refine .inl ⟨v, (hhas v).mpr hv, (hsaying v hv).mpr hsilent, ?_⟩
    rw [hsaid, hhandled, hbuffer v hv, hmessages]
  · refine .inr ⟨fun v hv hsilent => ?_, by rw [hsaid, hhandled, hmessages]⟩
    have hv' := (hhas v).mp hv
    exact hnone v hv' ((hsaying v hv').mp hsilent)

/-- A line of `v` in the log leaves the other workers where they are in it. -/
theorem threads_move {log : MessageLog (W + 1)} {u v : Fin W} (huv : u ≠ v) (t : LogCaller) :
    (log.move v.castSucc t).threads u.castSucc = log.threads u.castSucc :=
  MessageLog.move_of_ne fun heq => huv (Fin.castSucc_injective _ heq)

theorem Uttering.of_same {v : Fin W} (h : s.Uttering texts v)
    (hthread : s'.log.threads v.castSucc = s.log.threads v.castSucc)
    (hsaying : s'.saying v = s.saying v)
    (hbuffers : s'.system.pipeSvBuffers = s.system.pipeSvBuffers) : s'.Uttering texts v := by
  intro messg hmessg
  rw [hthread] at hmessg
  rw [hsaying, hbuffers]
  exact h messg hmessg

/-! ## The reader -/

theorem KeptUp.of_same {v : Fin W} (h : s.KeptUp v) (hsaid : saidBy s'.said v = saidBy s.said v)
    (hsaying : s'.saying v = s.saying v) (hleaving : s'.leaving v = s.leaving v)
    (hworkers : s'.system.workers v = s.system.workers v) : s'.KeptUp v := by
  unfold KeptUp
  rw [hsaid, hsaying, hleaving, hworkers]
  exact h

theorem silent_iff {v : Fin W} : s.silent v = true ↔
    (s.log.threads v.castSucc).isFree = true ∧ s.saying v = [] := by
  simp [silent]

/-- A worker that is leaving its loop is about to, or has. -/
def Parting (s : LoggedSystem C W n) (v : Fin W) : Prop :=
  s.leaving v = true →
    (s.system.workers v).hasExited = true ∨ (s.system.leavesFor v).isSome = true

theorem leavesFor_eq {sys : Task6System C W n} {v : Fin W} {reason : ExitReason}
    (h : sys.leavesFor v = some reason) : ∃ dequeued dequeued',
      sys.workers v = .checking dequeued ∧
        Task6System.nextLine sys.shutdownEvent dequeued = .exited reason dequeued' := by
  unfold Task6System.leavesFor at h
  split at h
  · rename_i dequeued hpc
    split at h
    · rename_i reason' dequeued' hline
      cases h
      exact ⟨dequeued, dequeued', hpc, hline⟩
    · cases h
  · cases h

/-- A turn of a worker that goes on. -/
theorem keptUp_turn {v : Fin W} {line : WorkerLine} {saying : List WorkerNews}
    {system : Task6System C W n} (h : s.KeptUp v) (hpart : s.Parting v) (hgoes : s.goesOn v = true)
    (hturn : Task6System.TakesTurn texts.toSystemTexts s.system system v saying line) :
    ({ s.setSaying v saying with system := system } : LoggedSystem C W n).KeptUp v := by
  obtain ⟨q, hq, hreads⟩ := h
  obtain ⟨hsilent, hleaves⟩ := Bool.and_eq_true_iff.mp hgoes
  have hnil := (silent_iff.mp hsilent).2
  rw [hnil, List.append_nil] at hq
  rw [hnil] at hreads
  have hworkers : system.workers v = line := by rw [hturn.workers, Function.update_self]
  have hsaying : ({ s.setSaying v saying with system := system } : LoggedSystem C W n).saying v
      = saying := Function.update_self ..
  unfold KeptUp
  rw [hsaying, hworkers]
  have hline := hturn.turn
  cases hleaving : s.leaving v with
  | false =>
    rw [hleaving] at hreads hleaves
    -- it stays in its loop
    have hstays : ∀ reason dequeued, line ≠ .exited reason dequeued := by
      intro reason dequeued hexit
      obtain ⟨dequeued', hpc, hnext, -⟩ := hline.of_exited hexit
      simp [Task6System.leavesFor, hpc, hnext] at hleaves
    obtain ⟨q', hq', hreads'⟩ := reads_turn hreads hline hstays
    refine ⟨q', Machine.exec_trans hq hq', ?_⟩
    show Reads line (s.leaving v) saying q'
    rw [hleaving]
    exact hreads'
  | true =>
    rw [hleaving] at hreads
    -- it has said so, and returns
    generalize hpc : s.system.workers v = old at hreads hline
    cases hreads with
    | exited reason dequeued => exact absurd hline.not_exited (by simp [WorkerLine.hasExited])
    | leaving dequeued _ =>
      have hexit : ∃ reason dequeued', line = .exited reason dequeued' := by
        rcases hpart hleaving with hexited | hleaves
        · rw [hpc] at hexited
          cases hexited
        · obtain ⟨reason, hreason⟩ := Option.isSome_iff_exists.mp hleaves
          obtain ⟨other, dequeued', hother, hnext⟩ := leavesFor_eq hreason
          rw [hpc] at hother
          cases hother
          exact ⟨reason, dequeued', hline.of_checking.trans hnext⟩
      obtain ⟨reason, dequeued', rfl⟩ := hexit
      obtain ⟨-, -, -, rfl⟩ := hline.of_exited rfl
      refine ⟨.ended, Machine.exec_trans hq rfl, ?_⟩
      show Reads _ (s.leaving v) [] .ended
      rw [hleaving]
      exact .exited reason dequeued'

theorem ofWorker_eq (e : SystemEvent C W n) : Task6System.ofWorker e = e.worker.isSome := by
  cases e <;> rfl

/-- Everybody else's line. -/
theorem workers_of_none {sys sys' : Task6System C W n} {e : SystemEvent C W n}
    (he : e.worker = none) (hs : sys.step build e = some sys') : sys'.workers = sys.workers := by
  rcases Task6System.step_workers hs with ⟨-, haside⟩ | ⟨hof, -⟩
  · exact haside.workers
  · rw [ofWorker_eq, he] at hof
    cases hof

theorem running_of_alive (h : s.alive = true) : s.system.running = true :=
  (Bool.and_eq_true_iff.mp h).1

theorem keptUp_line {e : SystemEvent C W n} {lastError : DWORD} {system : Task6System C W n}
    (h : ∀ v, s.KeptUp v) (hpart : ∀ v, s.Parting v) (hready : s.ready e = true)
    (hs : s.system.step build e = some system) (v : Fin W) :
    (s.behind system e (s.system.tells texts.toSystemTexts lastError e)).KeptUp v := by
  rcases behind_cases s system e (s.system.tells texts.toSystemTexts lastError e) with
    ⟨hside, heq⟩ | ⟨u, he, hrun, heq⟩
  · rw [heq]
    cases he : e.worker with
    | none => exact (h v).of_same rfl rfl rfl (congrFun (workers_of_none he hs) v)
    | some u =>
      -- the process has ended with the line
      obtain ⟨halive, hgoes⟩ := goesOn_of_ready hready he
      have hended : system.running = false := hside.resolve_left (by simp [he])
      rcases Task6System.worker_turn texts.toSystemTexts he hs lastError with
        rfl | ⟨line, hturn⟩
      · exact (h v).of_same rfl rfl rfl rfl
      · rcases hturn.running with hsame | ⟨pc, pc', hpc, rfl⟩
        · rw [hended, running_of_alive halive] at hsame
          cases hsame
        · by_cases hv : v = u
          · subst hv
            obtain ⟨q, hq, hreads⟩ := h v
            have hnil := (silent_iff.mp (Bool.and_eq_true_iff.mp hgoes).1).2
            refine ⟨q, hq, ?_⟩
            show Reads (system.workers v) (s.leaving v) (s.saying v) q
            rw [hturn.workers, Function.update_self]
            rw [hpc] at hreads
            generalize hleaving : s.leaving v = leaving at hreads
            rw [hnil] at hreads ⊢
            cases hreads
            cases pc' <;> first | exact .blocked .nil | exact .shared _ .nil
          · refine (h v).of_same rfl rfl rfl ?_
            show system.workers v = s.system.workers v
            rw [hturn.workers, Function.update_of_ne hv]
  · rw [heq]
    obtain ⟨halive, hgoes⟩ := goesOn_of_ready hready he
    rcases Task6System.worker_turn texts.toSystemTexts he hs lastError with
      rfl | ⟨line, hturn⟩
    · cases hrun
    · by_cases hv : v = u
      · subst hv
        exact keptUp_turn (h v) (hpart v) hgoes hturn
      · refine (h v).of_same rfl (Function.update_of_ne hv ..) rfl ?_
        show system.workers v = s.system.workers v
        rw [hturn.workers, Function.update_of_ne hv]

/-- The shutdown event stays set, and a worker that has to leave its loop has to. -/
theorem leavesFor_of_workers {sys sys' : Task6System C W n} {v : Fin W}
    (hworkers : sys'.workers v = sys.workers v)
    (hevent : sys.shutdownEvent = true → sys'.shutdownEvent = true)
    (h : (sys.leavesFor v).isSome = true) : (sys'.leavesFor v).isSome = true := by
  obtain ⟨reason, hreason⟩ := Option.isSome_iff_exists.mp h
  obtain ⟨dequeued, dequeued', hpc, hnext⟩ := leavesFor_eq hreason
  obtain ⟨reason', dequeued'', hnext'⟩ : ∃ reason' dequeued'',
      Task6System.nextLine sys'.shutdownEvent dequeued = .exited reason' dequeued'' := by
    cases hset : sys.shutdownEvent with
    | true =>
      rw [hset] at hnext
      rw [hevent hset]
      exact ⟨reason, dequeued', hnext⟩
    | false =>
      rw [hset] at hnext
      cases dequeued with
      | none => exact ⟨_, _, Task6System.nextLine_failed _⟩
      | some entry =>
        cases entry with
        | pipe packet =>
          rw [Task6System.nextLine_pipe] at hnext
          cases hnext
        | sharedMemory write =>
          rw [Task6System.nextLine_sharedMemory] at hnext
          cases hnext
        | shutdown => exact ⟨_, _, Task6System.nextLine_shutdown _⟩
  simp [Task6System.leavesFor, hworkers, hpc, hnext']

theorem event_stays {sys sys' : Task6System C W n} {e : SystemEvent C W n}
    (hs : sys.step build e = some sys') :
    sys.shutdownEvent = true → sys'.shutdownEvent = true := by
  rcases Task6System.step_workers hs with ⟨-, haside⟩ | ⟨-, ⟨u, line, hmove⟩ | ⟨-, rfl⟩⟩
  · exact haside.shutdownEvent
  · rw [hmove.shutdownEvent]
    exact id
  · exact id

theorem parting_line {e : SystemEvent C W n} {system : Task6System C W n}
    (hpart : ∀ v, s.Parting v) (hs : s.system.step build e = some system) (v : Fin W)
    (hleaving : s.leaving v = true) :
    (system.workers v).hasExited = true ∨ (system.leavesFor v).isSome = true := by
  have hsame : system.workers v = s.system.workers v →
      (system.workers v).hasExited = true ∨ (system.leavesFor v).isSome = true := by
    intro hworkers
    rw [hworkers]
    exact (hpart v hleaving).imp_right (leavesFor_of_workers hworkers (event_stays hs))
  cases he : e.worker with
  | none => exact hsame (congrFun (workers_of_none he hs) v)
  | some u =>
    rcases Task6System.worker_turn ⟨fun _ => none, ""⟩ he hs 0 with rfl | ⟨line, hturn⟩
    · exact hsame rfl
    · by_cases hv : v = u
      · subst hv
        rcases hpart v hleaving with hexited | hleaves
        · exact absurd hexited (by simp [hturn.turn.not_exited])
        · -- the worker returns
          obtain ⟨reason, hreason⟩ := Option.isSome_iff_exists.mp hleaves
          obtain ⟨dequeued, dequeued', hpc, hnext⟩ := leavesFor_eq hreason
          have hline := hturn.turn
          rw [hpc] at hline
          refine .inl ?_
          rw [hturn.workers, Function.update_self, hline.of_checking, hnext]
          rfl
      · exact hsame (by rw [hturn.workers, Function.update_of_ne hv])

/-! ## The messages -/

/-- Nobody but the worker whose line it is has anything else to say behind it. -/
theorem saying_behind (s : LoggedSystem C W n) (system : Task6System C W n)
    (e : SystemEvent C W n) (saying : List WorkerNews) (v : Fin W) :
    (s.behind system e saying).saying v = s.saying v ∨
      e.worker = some v ∧ (s.behind system e saying).saying v = saying := by
  rcases behind_cases s system e saying with ⟨-, heq⟩ | ⟨u, he, -, heq⟩
  · rw [heq]
    exact .inl rfl
  · rw [heq]
    by_cases hv : v = u
    · subst hv
      exact .inr ⟨he, Function.update_self ..⟩
    · exact .inl (Function.update_of_ne hv ..)

@[simp] theorem behind_system (s : LoggedSystem C W n) (system : Task6System C W n)
    (e : SystemEvent C W n) (saying : List WorkerNews) :
    (s.behind system e saying).system = system := by
  rcases behind_cases s system e saying with ⟨-, heq⟩ | ⟨u, -, -, heq⟩ <;> rw [heq]

@[simp] theorem behind_said (s : LoggedSystem C W n) (system : Task6System C W n)
    (e : SystemEvent C W n) (saying : List WorkerNews) :
    (s.behind system e saying).said = s.said := by
  rcases behind_cases s system e saying with ⟨-, heq⟩ | ⟨u, -, -, heq⟩ <;> rw [heq]
  rfl

@[simp] theorem behind_log (s : LoggedSystem C W n) (system : Task6System C W n)
    (e : SystemEvent C W n) (saying : List WorkerNews) :
    (s.behind system e saying).log = s.log := by
  rcases behind_cases s system e saying with ⟨-, heq⟩ | ⟨u, -, -, heq⟩ <;> rw [heq]
  rfl

@[simp] theorem behind_leaving (s : LoggedSystem C W n) (system : Task6System C W n)
    (e : SystemEvent C W n) (saying : List WorkerNews) :
    (s.behind system e saying).leaving = s.leaving := by
  rcases behind_cases s system e saying with ⟨-, heq⟩ | ⟨u, -, -, heq⟩ <;> rw [heq]
  rfl

theorem behind_of_running {system : Task6System C W n} {e : SystemEvent C W n} {v : Fin W}
    (he : e.worker = some v) (hrun : system.running = true) (s : LoggedSystem C W n)
    (saying : List WorkerNews) :
    s.behind system e saying = { s.setSaying v saying with system := system } := by
  simp [behind, he, hrun]

/-- Every pipe of the system is in one hand at most. -/
def OneHand (sys : Task6System C W n) : Prop :=
  ∀ i, (sys.pipes i).pending.length + sys.packets.countP (Task6System.ofPipe i) +
    sys.takenAt i + sys.busyAt i ≤ 1

theorem heard_quiet {e : SystemEvent C W n} {lastError : DWORD} {system : Task6System C W n}
    {i : Fin n} (h : s.Heard i) (hone : OneHand s.system)
    (hs : s.system.step build e = some system) (hquiet : Task6System.Quiet s.system system) :
    (s.behind system e (s.system.tells texts.toSystemTexts lastError e)).Heard i := by
  refine heard_of_same h ?_ ?_ (fun v => ?_) (fun v hv => ?_) fun v hv => ?_
  · rw [behind_said]
  · rw [behind_system, hquiet.handled]
  · rw [behind_system]
    exact hquiet.hasMessage_iff v i
  · -- a worker with a message in front of it handles it next
    rcases saying_behind s system e (s.system.tells texts.toSystemTexts lastError e) v with
      hsame | ⟨he, -⟩
    · rw [hsame]
    · obtain ⟨result, hpc, -⟩ := hv
      have hpc' := (hquiet.terminated v result).mpr hpc
      rcases Task6System.worker_turn texts.toSystemTexts he hs lastError with
        rfl | ⟨line, hturn⟩
      · rcases behind_cases s s.system.crash e
          (s.system.tells texts.toSystemTexts lastError e) with ⟨-, heq⟩ | ⟨u, -, hrun, -⟩
        · rw [heq]
        · cases hrun
      · rw [hturn.workers, Function.update_self] at hpc'
        have hline := hturn.turn
        rw [hpc, hpc'] at hline
        generalize s.system.tells texts.toSystemTexts lastError e = saying at hline
        cases hline
  · obtain ⟨result, hpc, hindex⟩ := hv
    rw [behind_system]
    refine (hquiet.buffers i).resolve_right fun hpending => hpending ?_
    exact (Task6System.only_of_oneHand (hone i) hpc hindex).1

/-- A worker that is behind `service` has not terminated its message yet. -/
theorem not_hasMessage_of_serviced {sys : Task6System C W n} {v : Fin W} {result : AsyncResult}
    (hpc : sys.workers v = .pipeTask (.serviced result)) (i : Fin n) : ¬ sys.HasMessage v i := by
  rintro ⟨result', hpc', -⟩
  rw [hpc] at hpc'
  cases hpc'

/-- An exception of `at` leaves the pipes alone. -/
theorem heard_outOfRange {u : Fin W} {result : AsyncResult} {i : Fin n} (h : s.Heard i)
    (hpc : s.system.workers u = .pipeTask (.serviced result)) (saying : List WorkerNews) :
    (s.behind (s.system.setWorker u .blocked) (.terminate u) saying).Heard i := by
  have hhas : ∀ v, (s.system.setWorker u .blocked).HasMessage v i ↔ s.system.HasMessage v i := by
    intro v
    by_cases hv : v = u
    · subst hv
      simp [Task6System.HasMessage, Task6System.setWorker, hpc]
    · simp [Task6System.HasMessage, Task6System.setWorker, hv]
  refine heard_of_same h (by rw [behind_said]) (by rw [behind_system]; rfl)
    (fun v => by rw [behind_system]; exact hhas v) (fun v hv => ?_)
    fun v hv => by rw [behind_system]; rfl
  rcases saying_behind s (s.system.setWorker u .blocked) (.terminate u) saying v with
    hsame | ⟨he, -⟩
  · rw [hsame]
  · cases he
    exact absurd hv (not_hasMessage_of_serviced hpc i)

/-- A worker that has terminated its message has yet to say what it received. -/
theorem heard_terminated {u : Fin W} {result : AsyncResult} {i : Fin n} (h : s.Heard i)
    (hone : OneHand s.system) (hpc : s.system.workers u = .pipeTask (.serviced result))
    (hlt : result.instanceIndex < n) (buff : List Byte) :
    ({ s.setSaying u [.message result.instanceIndex []] with
      system := { s.system.setWorker u (.pipeTask (.terminated result)) with
        pipeSvBuffers := Function.update s.system.pipeSvBuffers
          ⟨result.instanceIndex, hlt⟩ buff } } : LoggedSystem C W n).Heard i := by
  by_cases hi : result.instanceIndex = i
  · -- the worker is the only one at the pipe
    obtain ⟨-, honly⟩ := Task6System.only_of_oneHand (hone i) hpc hi
    refine .inr ⟨fun v hv => ?_, ?_⟩
    · by_cases hvu : v = u
      · subst hvu
        simp [setSaying]
      · obtain ⟨result', hpc', hindex⟩ := hv
        have hold : s.system.workers v = .pipeTask (.terminated result') := by
          rw [← hpc']
          exact (Function.update_of_ne hvu ..).symm
        exact absurd (honly v _ hold hindex) hvu
    · rcases h with ⟨v, ⟨result', hpc', hindex⟩, -, -⟩ | ⟨-, hmessages⟩
      · have hvu := honly v _ hpc' hindex
        subst hvu
        exact absurd ⟨result', hpc', hindex⟩ (not_hasMessage_of_serviced hpc i)
      · exact hmessages
  · have hne : i ≠ ⟨result.instanceIndex, hlt⟩ := fun heq => hi (by rw [heq])
    refine heard_of_same h rfl rfl (fun v => ?_) (fun v hv => ?_) fun v hv => ?_
    · by_cases hvu : v = u
      · subst hvu
        simp [Task6System.HasMessage, Task6System.setWorker, hpc, hi]
      · simp [Task6System.HasMessage, Task6System.setWorker, hvu]
    · have hvu : v ≠ u := by
        rintro rfl
        exact not_hasMessage_of_serviced hpc i hv
      simp [setSaying, hvu]
    · exact Function.update_of_ne hne ..

/-- The message is terminated, or does not fit. -/
theorem heard_terminate {u : Fin W} {lastError : DWORD} {system : Task6System C W n} {i : Fin n}
    (h : s.Heard i) (hone : OneHand s.system)
    (hs : s.system.step build (.terminate u) = some system) :
    (s.behind system (.terminate u)
      (s.system.tells texts.toSystemTexts lastError (.terminate u))).Heard i := by
  have hrunning := (Option.ite_none_right_eq_some.mp hs).1
  have hline := (Option.ite_none_right_eq_some.mp hs).2
  simp only [Task6System.workerStep] at hline
  split at hline
  · rename_i result hpc
    split at hline
    · rename_i hlt
      split at hline
      · rename_i hroom
        have htells : s.system.tells texts.toSystemTexts lastError (.terminate u) =
            [.message result.instanceIndex []] := by
          simp only [Task6System.tells, hpc]
          rw [dif_pos hlt, if_pos hroom]
        rw [htells]
        cases hline
        rw [behind_of_running (e := .terminate u) rfl (by exact hrunning)]
        exact heard_terminated h hone hpc hlt _
      · cases hline
        exact heard_outOfRange h hpc _
    · cases hline
      exact heard_outOfRange h hpc _
  · cases hline

/-- The message is handled: the one that was put into the log. -/
theorem heard_handle {u : Fin W} {lastError : DWORD} {system : Task6System C W n} {i : Fin n}
    (h : s.Heard i) (hone : OneHand s.system) (hready : s.ready (.handle u) = true)
    (hs : s.system.step build (.handle u) = some system) :
    (s.behind system (.handle u)
      (s.system.tells texts.toSystemTexts lastError (.handle u))).Heard i := by
  have hrunning := (Option.ite_none_right_eq_some.mp hs).1
  have hline := (Option.ite_none_right_eq_some.mp hs).2
  obtain ⟨-, hgoes⟩ := goesOn_of_ready hready rfl
  have hnil := (silent_iff.mp (Bool.and_eq_true_iff.mp hgoes).1).2
  simp only [Task6System.workerStep] at hline
  split at hline
  · rename_i result hpc
    split at hline
    · rename_i hlt
      cases hline
      rw [show s.system.tells texts.toSystemTexts lastError (.handle u) = [] from rfl,
        behind_of_running (e := .handle u) rfl (by exact hrunning)]
      by_cases hi : result.instanceIndex = i
      · obtain ⟨-, honly⟩ := Task6System.only_of_oneHand (hone i) hpc hi
        have hj : (⟨result.instanceIndex, hlt⟩ : Fin n) = i := Fin.ext hi
        refine .inr ⟨fun v hv => ?_, ?_⟩
        · obtain ⟨result', hpc', hindex⟩ := hv
          by_cases hv' : v = u
          · subst hv'
            simp [Task6System.setWorker] at hpc'
          · have hold : s.system.workers v = .pipeTask (.terminated result') := by
              rw [← hpc']
              exact (Function.update_of_ne hv' ..).symm
            exact absurd (honly v _ hold hindex) hv'
        · rcases h with ⟨v, -, -, hmessages⟩ | ⟨hnone, -⟩
          · simp only [hj, Function.update_self]
            exact hmessages
          · exact absurd hnil (hnone u ⟨result, hpc, hi⟩)
      · have hne : i ≠ ⟨result.instanceIndex, hlt⟩ := fun heq => hi (by rw [heq])
        refine heard_of_same h rfl (Function.update_of_ne hne ..) (fun v => ?_) (fun v hv => ?_)
          fun v hv => rfl
        · by_cases hv : v = u
          · subst hv
            simp [Task6System.HasMessage, Task6System.setWorker, hpc, hi]
          · simp [Task6System.HasMessage, Task6System.setWorker, hv]
        · by_cases hvu : v = u
          · subst hvu
            simp [setSaying, hnil]
          · simp [setSaying, hvu]
    · cases hline
  · cases hline

theorem heard_line {e : SystemEvent C W n} {lastError : DWORD} {system : Task6System C W n}
    {i : Fin n} (h : s.Heard i) (hone : OneHand s.system) (hready : s.ready e = true)
    (hs : s.system.step build e = some system) :
    (s.behind system e (s.system.tells texts.toSystemTexts lastError e)).Heard i := by
  by_cases hhandle : ∃ u, e = .handle u
  · obtain ⟨u, rfl⟩ := hhandle
    exact heard_handle h hone hready hs
  · by_cases hterminate : ∃ u, e = .terminate u
    · obtain ⟨u, rfl⟩ := hterminate
      exact heard_terminate h hone hs
    · exact heard_quiet h hone hs (Task6System.quiet_step hs (fun u he => hhandle ⟨u, he⟩)
        fun u he => hterminate ⟨u, he⟩)

/-- A buffer stays as it is under everybody else's lines while a worker has its message
in front of it. -/
theorem buffer_stays {sys sys' : Task6System C W n} {e : SystemEvent C W n} {v : Fin W} {i : Fin n}
    (hone : OneHand sys) (hv : sys.HasMessage v i) (he : e.worker ≠ some v)
    (hs : sys.step build e = some sys') : sys'.pipeSvBuffers i = sys.pipeSvBuffers i := by
  obtain ⟨result, hpc, hindex⟩ := hv
  obtain ⟨hpending, honly⟩ := Task6System.only_of_oneHand (hone i) hpc hindex
  by_cases hterminate : ∃ u, e = .terminate u
  · obtain ⟨u, rfl⟩ := hterminate
    have hline := (Option.ite_none_right_eq_some.mp hs).2
    simp only [Task6System.workerStep] at hline
    split at hline
    · rename_i result' hpc'
      split at hline
      · rename_i hlt
        split at hline
        · cases hline
          refine Function.update_of_ne (fun hi => he ?_) ..
          have hu := honly u _ hpc' (congrArg Fin.val hi).symm
          rw [hu]
          rfl
        · cases hline
          rfl
      · cases hline
        rfl
    · cases hline
  · by_cases hhandle : ∃ u, e = .handle u
    · obtain ⟨u, rfl⟩ := hhandle
      have hline := (Option.ite_none_right_eq_some.mp hs).2
      simp only [Task6System.workerStep] at hline
      split at hline
      · split at hline
        · cases hline
          rfl
        · cases hline
      · cases hline
    · have hquiet := Task6System.quiet_step hs (fun u he => hhandle ⟨u, he⟩)
        fun u he => hterminate ⟨u, he⟩
      exact (hquiet.buffers i).resolve_right fun h => h hpending

/-- A worker that has the text of a message to say has the message in front of it. -/
theorem hasMessage_of_saying {v : Fin W} (h : s.KeptUp v) {index : Nat} {messg : List Byte}
    {rest : List WorkerNews} (hsaying : s.saying v = .message index messg :: rest) :
    rest = [] ∧ ∃ result, s.system.workers v = .pipeTask (.terminated result) ∧
      result.instanceIndex = index := by
  obtain ⟨q, -, hreads⟩ := h
  rw [hsaying] at hreads
  have hmem : WorkerNews.message index messg ∈ WorkerNews.message index messg :: rest :=
    List.mem_cons_self ..
  generalize s.system.workers v = line at hreads
  generalize s.leaving v = leaving at hreads
  cases hreads with
  | terminated hc hm h =>
    rcases h with h | ⟨messg', h⟩ <;> cases h
    exact ⟨rfl, _, rfl, rfl⟩
  | blocked h | shared _ h | leaving _ h | serviced _ _ h | notHandled _ _ h =>
    exact absurd rfl (h _ hmem index messg)

/-- And has nothing else to say. -/
theorem message_of_hasMessage {v : Fin W} {i : Fin n} (h : s.KeptUp v)
    (hv : s.system.HasMessage v i) {news : WorkerNews} {rest : List WorkerNews}
    (hsaying : s.saying v = news :: rest) : ∃ messg, news = .message i messg := by
  obtain ⟨q, -, hreads⟩ := h
  obtain ⟨result, hpc, hindex⟩ := hv
  rw [hsaying, hpc] at hreads
  generalize s.leaving v = leaving at hreads
  cases hreads with
  | terminated hc hm h =>
    rcases h with h | ⟨messg, h⟩ <;> cases h
    exact ⟨messg, by rw [hindex]⟩

theorem evaluated_message {index : Nat} {messg : List Byte} {pipeSvBuffers : Fin n → List Byte} :
    (WorkerNews.message index messg).evaluated pipeSvBuffers = .message index messg ↔
      ∀ i : Fin n, i.val = index → text (pipeSvBuffers i) = messg := by
  by_cases hlt : index < n
  · simp only [WorkerNews.evaluated, dif_pos hlt, WorkerNews.message.injEq, true_and]
    constructor
    · rintro h i rfl
      exact h
    · intro h
      exact h ⟨index, hlt⟩ rfl
  · simp only [WorkerNews.evaluated, dif_neg hlt, true_iff]
    exact fun i hi => absurd (hi ▸ i.isLt) hlt

theorem evaluated_of_not_message {news : WorkerNews}
    (h : ∀ index messg, news ≠ .message index messg) (pipeSvBuffers : Fin n → List Byte) :
    news.evaluated pipeSvBuffers = news := by
  cases news <;> first | rfl | exact absurd rfl (h _ _)

theorem evaluated_evaluated (news : WorkerNews) (pipeSvBuffers : Fin n → List Byte) :
    (news.evaluated pipeSvBuffers).evaluated pipeSvBuffers = news.evaluated pipeSvBuffers := by
  cases news with
  | message index messg =>
    refine evaluated_message.mpr fun i hi => ?_
    subst hi
    rw [dif_pos i.isLt]
  | started | iocpFailed _ | shutdown | operation _ _ _ _ | reconnecting _ | reading _
  | sharedMemory | invalidPacket | caught _ => rfl

theorem uttering_line {e : SystemEvent C W n} {lastError : DWORD} {system : Task6System C W n}
    {v : Fin W} (h : s.Uttering texts v) (hkept : s.KeptUp v) (hone : OneHand s.system)
    (hready : s.ready e = true) (hs : s.system.step build e = some system) :
    (s.behind system e (s.system.tells texts.toSystemTexts lastError e)).Uttering texts v := by
  intro messg hmessg
  rw [behind_log] at hmessg
  obtain ⟨news, rest, hsaying, hnews, heval⟩ := h messg hmessg
  -- a worker that is in `pushMessg` takes no line
  have hother : e.worker ≠ some v := by
    intro he
    have hgoes := (goesOn_of_ready hready he).2
    have hfree := (silent_iff.mp (Bool.and_eq_true_iff.mp hgoes).1).1
    rw [hmessg] at hfree
    cases hfree
  refine ⟨news, rest, ?_, hnews, ?_⟩
  · rcases saying_behind s system e (s.system.tells texts.toSystemTexts lastError e) v with
      hsame | ⟨he, -⟩
    · rw [hsame, hsaying]
    · exact absurd he hother
  · rw [behind_system]
    by_cases hm : ∃ index messg, news = .message index messg
    · obtain ⟨index, text, rfl⟩ := hm
      obtain ⟨-, result, hpc, hindex⟩ := hasMessage_of_saying hkept hsaying
      refine evaluated_message.mpr fun i hi => ?_
      rw [buffer_stays hone ⟨result, hpc, hindex.trans hi.symm⟩ hother hs]
      exact evaluated_message.mp heval i hi
    · exact evaluated_of_not_message (fun index text hn => hm ⟨index, text, hn⟩) _

/-! ## The invariant -/

structure Told (texts : LogTexts W) (s : LoggedSystem C W n) : Prop where
  pushed : s.log.pushed = s.said.map (entry texts)
  order : s.log.popped ++ s.log.log = s.log.pushed
  uttering : ∀ v, s.Uttering texts v
  keptUp : ∀ v, s.KeptUp v
  parting : ∀ v, s.Parting v
  heard : ∀ i, s.Heard i
  pipes : ∃ t, s.system.ShowsPipes t ∧ t.Watched

theorem Told.oneHand (h : s.Told texts) : OneHand s.system := by
  obtain ⟨t, ht, hw⟩ := h.pipes
  exact Task6System.oneHand_of_shows ht hw

theorem told_init (texts : LogTexts W) (C n : Nat) : (init C W n).Told texts where
  pushed := rfl
  order := rfl
  uttering := fun _ _ h => by cases h
  keptUp := fun v => ⟨.atPort, rfl, .blocked (by simp [NoMessage, init])⟩
  parting := fun _ h => by cases h
  heard := fun i => .inr ⟨fun v hv => by simp [init], rfl⟩
  pipes := ⟨_, Task6System.shows_pipes_init C W n, Task6Server.watched_init n⟩

/-- A line of the system. -/
theorem told_line {e : SystemEvent C W n} {lastError : DWORD} {system : Task6System C W n}
    (h : s.Told texts) (hready : s.ready e = true) (hs : s.system.step build e = some system) :
    (s.behind system e (s.system.tells texts.toSystemTexts lastError e)).Told texts where
  pushed := by rw [behind_log, behind_said, h.pushed]
  order := by rw [behind_log, h.order]
  uttering := fun v => uttering_line (h.uttering v) (h.keptUp v) h.oneHand hready hs
  keptUp := keptUp_line h.keptUp h.parting hready hs
  parting := by
    intro v hleaving
    rw [behind_leaving] at hleaving
    rw [behind_system]
    exact parting_line h.parting hs v hleaving
  heard := fun i => heard_line (h.heard i) h.oneHand hready hs
  pipes := by
    rw [behind_system]
    exact (Task6System.pipes_refined build C W n).keeps
      (fun _ _ _ hw _ => Task6Server.watched_step hw) h.pipes hs

/-- The last words of a worker. -/
theorem reads_news (texts : SystemTexts) (lastError : DWORD) (reason : ExitReason)
    (dequeued : Option IocpEntry) :
    ThreadLog.reader.exec .atPort (reason.news texts lastError) = some .ended ∧
      Reads (.checking dequeued) true (reason.news texts lastError) .ended := by
  cases reason <;> exact ⟨rfl, .leaving dequeued (by simp [NoMessage, ExitReason.news])⟩

theorem told_leave {v : Fin W} {lastError : DWORD} {reason : ExitReason} (h : s.Told texts)
    (hsilent : s.silent v = true) (hleaving : s.leaving v = false)
    (hreason : s.system.leavesFor v = some reason) :
    ({ s.setSaying v (reason.news texts.toSystemTexts lastError) with
      leaving := Function.update s.leaving v true } : LoggedSystem C W n).Told texts := by
  obtain ⟨hfree, hnil⟩ := silent_iff.mp hsilent
  obtain ⟨dequeued, dequeued', hpc, hnext⟩ := leavesFor_eq hreason
  refine ⟨h.pushed, h.order, fun u => ?_, fun u => ?_, fun u hu => ?_, fun i => ?_, h.pipes⟩
  · by_cases huv : u = v
    · subst huv
      intro messg hmessg
      rw [show s.log.threads u.castSucc = .emplacing messg from hmessg] at hfree
      cases hfree
    · exact (h.uttering u).of_same rfl (Function.update_of_ne huv ..) rfl
  · by_cases huv : u = v
    · subst huv
      obtain ⟨q, hq, hreads⟩ := h.keptUp u
      rw [hnil, List.append_nil] at hq
      rw [hnil, hleaving, hpc] at hreads
      cases hreads
      obtain ⟨hexec, hended⟩ := reads_news texts.toSystemTexts lastError reason dequeued
      refine ⟨.ended, ?_, ?_⟩
      · dsimp only [setSaying]
        rw [Function.update_self]
        exact Machine.exec_trans hq hexec
      · dsimp only [setSaying]
        rw [Function.update_self, Function.update_self, hpc]
        exact hended
    · exact (h.keptUp u).of_same rfl (Function.update_of_ne huv ..) (Function.update_of_ne huv ..)
        rfl
  · by_cases huv : u = v
    · subst huv
      exact .inr (Option.isSome_iff_exists.mpr ⟨reason, hreason⟩)
    · exact h.parting u ((Function.update_of_ne huv ..).symm.trans hu)
  · refine heard_of_same (h.heard i) rfl rfl (fun u => Iff.rfl) (fun u hu => ?_) fun _ _ => rfl
    have huv : u ≠ v := by
      rintro rfl
      obtain ⟨result, hpc', -⟩ := hu
      rw [hpc] at hpc'
      cases hpc'
    dsimp only [setSaying]
    rw [Function.update_of_ne huv]

theorem told_pushMessg {v : Fin W} {news : WorkerNews} {rest : List WorkerNews}
    {log : MessageLog (W + 1)} (h : s.Told texts) (hsaying : s.saying v = news :: rest)
    (hlog : s.log.step build ⟨v.castSucc,
      .pushMessg ((news.evaluated s.system.pipeSvBuffers).text (texts.threadId v))⟩ = some log) :
    ({ s.setSaying v (news.evaluated s.system.pipeSvBuffers :: rest) with log := log } :
      LoggedSystem C W n).Told texts := by
  have hmove := MessageLog.pushMessg_step hlog
  subst hmove
  refine ⟨h.pushed, h.order, fun u => ?_, fun u => ?_, h.parting, fun i => ?_, h.pipes⟩
  · by_cases huv : u = v
    · subst huv
      intro messg hmessg
      rw [show (s.log.move u.castSucc (.emplacing ((news.evaluated
        s.system.pipeSvBuffers).text (texts.threadId u)))).threads u.castSucc = _ from
          MessageLog.move_self] at hmessg
      cases hmessg
      exact ⟨_, rest, Function.update_self .., rfl, evaluated_evaluated news _⟩
    · exact (h.uttering u).of_same (threads_move huv _) (Function.update_of_ne huv ..) rfl
  · by_cases huv : u = v
    · subst huv
      obtain ⟨q, hq, hreads⟩ := h.keptUp u
      rw [hsaying] at hq hreads
      refine ⟨q, ?_, ?_⟩
      · dsimp only [setSaying]
        rw [Function.update_self]
        obtain ⟨q₁, hq₁, hq₂⟩ := Machine.exec_append_some.mp hq
        refine Machine.exec_trans hq₁ ?_
        obtain ⟨q₂, hfirst, hrest⟩ := Machine.exec_cons_some.mp hq₂
        exact Machine.exec_cons_some.mpr ⟨q₂, (ThreadLog.next_evaluated q₁ news _).trans hfirst,
          hrest⟩
      · dsimp only [setSaying]
        rw [Function.update_self]
        exact hreads.evaluated _
    · exact (h.keptUp u).of_same rfl (Function.update_of_ne huv ..) rfl rfl
  · refine heard_of_same (h.heard i) rfl rfl (fun u => Iff.rfl) (fun u hu => ?_) fun _ _ => rfl
    by_cases huv : u = v
    · subst huv
      dsimp only [setSaying]
      rw [Function.update_self, hsaying]
      simp
    · dsimp only [setSaying]
      rw [Function.update_of_ne huv]

theorem heard_emplace {v : Fin W} {news : WorkerNews} {rest : List WorkerNews}
    {log : MessageLog (W + 1)} {i : Fin n} (h : s.Told texts) (hsaying : s.saying v = news :: rest)
    (heval : news.evaluated s.system.pipeSvBuffers = news) :
    ({ s.setSaying v rest with log := log, said := s.said ++ [(v, news)] } :
      LoggedSystem C W n).Heard i := by
  by_cases hv : s.system.HasMessage v i
  · -- the text that the worker has in front of it
    obtain ⟨messg, rfl⟩ := message_of_hasMessage (h.keptUp v) hv hsaying
    obtain ⟨hrest, -⟩ := hasMessage_of_saying (h.keptUp v) hsaying
    refine .inl ⟨v, hv, ?_, ?_⟩
    · dsimp only [setSaying]
      rw [Function.update_self, hrest]
    · rw [messagesOf_concat]
      rcases h.heard i with ⟨u, ⟨result', hpc', hindex'⟩, hsilent, -⟩ | ⟨-, hmessages⟩
      · obtain ⟨result, hpc, hindex⟩ := hv
        have hu := (Task6System.only_of_oneHand (h.oneHand i) hpc hindex).2 u _ hpc' hindex'
        subst hu
        rw [hsaying] at hsilent
        cases hsilent
      · have htext := evaluated_message.mp heval i rfl
        rw [hmessages, show (WorkerNews.message i messg).messageOf i = some messg from if_pos rfl,
          ← htext]
        rfl
  · have hother : news.messageOf i = none := by
      cases news with
      | message index messg =>
        obtain ⟨-, result, hpc, hindex⟩ := hasMessage_of_saying (h.keptUp v) hsaying
        refine if_neg fun hi => hv ⟨result, hpc, hindex.trans hi⟩
      | started | iocpFailed _ | shutdown | operation _ _ _ _ | reconnecting _ | reading _
      | sharedMemory | invalidPacket | caught _ => rfl
    refine heard_of_same (h.heard i) ?_ rfl (fun u => Iff.rfl) (fun u hu => ?_) fun _ _ => rfl
    · rw [messagesOf_concat, hother]
      exact List.append_nil _
    · have huv : u ≠ v := by
        rintro rfl
        exact hv hu
      dsimp only [setSaying]
      rw [Function.update_of_ne huv]

theorem told_emplace {v : Fin W} {news : WorkerNews} {rest : List WorkerNews}
    {log : MessageLog (W + 1)} (h : s.Told texts) (hsaying : s.saying v = news :: rest)
    (hlog : s.log.step build ⟨v.castSucc, .emplace⟩ = some log) :
    ({ s.setSaying v rest with log := log, said := s.said ++ [(v, news)] } :
      LoggedSystem C W n).Told texts := by
  obtain ⟨messg, hmessg, rfl⟩ := MessageLog.emplace_step hlog
  obtain ⟨news', rest', hsaying', hnews, heval⟩ := h.uttering v messg hmessg
  rw [hsaying] at hsaying'
  cases hsaying'
  refine ⟨?_, ?_, fun u => ?_, fun u => ?_, h.parting, fun i => heard_emplace h hsaying heval,
    h.pipes⟩
  · show s.log.pushed ++ [messg] = (s.said ++ [(v, news)]).map (entry texts)
    rw [h.pushed, List.map_append, hnews]
    rfl
  · show s.log.popped ++ (s.log.log ++ [messg]) = s.log.pushed ++ [messg]
    rw [← List.append_assoc, h.order]
  · by_cases huv : u = v
    · subst huv
      intro messg' hmessg'
      rw [show (s.log.emplace u.castSucc messg).threads u.castSucc = .releasing from
        MessageLog.move_self] at hmessg'
      cases hmessg'
    · exact (h.uttering u).of_same (threads_move huv _) (Function.update_of_ne huv ..) rfl
  · by_cases huv : u = v
    · subst huv
      obtain ⟨q, hq, hreads⟩ := h.keptUp u
      rw [hsaying] at hq hreads
      refine ⟨q, ?_, ?_⟩
      · dsimp only [setSaying]
        rw [Function.update_self, saidBy_concat, if_pos rfl, List.append_assoc]
        exact hq
      · dsimp only [setSaying]
        rw [Function.update_self]
        exact hreads.said
    · refine (h.keptUp u).of_same ?_ (Function.update_of_ne huv ..) rfl rfl
      rw [saidBy_concat, if_neg (Ne.symm huv), List.append_nil]

theorem told_passes {log : MessageLog (W + 1)} (h : s.Told texts)
    (hpass : MessageLog.Passes s.log log) :
    ({ s with log := log } : LoggedSystem C W n).Told texts where
  pushed := hpass.pushed.trans h.pushed
  order := hpass.order.trans (h.order.trans hpass.pushed.symm)
  uttering := fun v messg hmessg => h.uttering v messg (hpass.uttering _ messg hmessg)
  keptUp := h.keptUp
  parting := h.parting
  heard := h.heard
  pipes := h.pipes

theorem told_step {e : LoggedEvent C W n} (h : s.Told texts) (hs : step build texts s e = some s') :
    s'.Told texts := by
  rcases step_cases hs with ⟨e', lastError, system, hready, hsystem, rfl⟩ |
    ⟨v, lastError, reason, hsilent, hleaving, hreason, rfl⟩ |
    ⟨v, news, rest, log, hsaying, hlog, rfl⟩ | ⟨v, news, rest, log, hsaying, hlog, rfl⟩ |
    ⟨e', log, hpushes, hlog, rfl⟩
  · exact told_line h hready hsystem
  · exact told_leave h hsilent hleaving hreason
  · exact told_pushMessg h hsaying hlog
  · exact told_emplace h hsaying hlog
  · exact told_passes h (MessageLog.passes_of_step hpushes hlog)

end LoggedSystem

end Task6
