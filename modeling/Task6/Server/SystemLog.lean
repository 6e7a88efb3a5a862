import Task6.Server.LogTells

/-!
# The log of the whole server

What somebody knows of the server who reads its log, in every run.

- `Truthful`: the lines that were taken out and those still in the queue are what the
  workers said, in that order; what a worker said is what its loop does; and the
  messages of a pipe are those that its clients wrote.
- `ReadBack`: nothing of this is lost on the console. The texts it has taken out are
  those of one sequence of lines only.
-/

namespace Task6

open Win32 NulText

namespace Task6System

variable {C W n : Nat} {s : Task6System C W n} {t : Task6Server n}

/-- The message that a worker has in front of it is the one behind those handled. -/
theorem written_of_hasMessage (h : s.ShowsPipes t) (hw : t.Watched) {v : Fin W} {i : Fin n}
    (hv : s.HasMessage v i) (hshort : ∀ m ∈ (s.chans i).written, m.text.length ≤ readCapacity) :
    s.pipeHandled i ++ [text (s.pipeSvBuffers i)] <+:
      (s.chans i).written.map ClientMessg.text := by
  obtain ⟨result, hpc, hindex⟩ := hv
  obtain ⟨j, k, hk, hj⟩ := exists_task h hpc
  obtain rfl : j = i := Fin.ext (hj.symm.trans hindex)
  obtain ⟨-, hchan, hbuffer, hhandled⟩ := h.pipe j
  obtain ⟨holder, ph, hl, -⟩ := hw.life j
  obtain rfl := hl.held.of_mem_tasks (List.mem_of_getElem? hk)
  have hclean := hl.clean fun m hm => hshort m (by rwa [hchan] at hm)
  have hdelivered : (t.pipe j).handled ++ [text (t.pipe j).buffer] ++ (t.pipe j).chan.unread =
      (t.pipe j).chan.written.map ClientMessg.text := hclean.delivered
  rw [hhandled, hbuffer, hchan] at hdelivered
  exact ⟨_, hdelivered⟩

end Task6System

namespace LoggedSystem

variable {C W n : Nat} {texts : LogTexts W} {s : LoggedSystem C W n}

/-! ## What the log says is so -/

theorem messagesOf_written (h : s.Told texts) {i : Fin n}
    (hshort : ∀ m ∈ (s.system.chans i).written, m.text.length ≤ readCapacity) :
    messagesOf s.said i <+: (s.system.chans i).written.map ClientMessg.text := by
  obtain ⟨t, ht, hw⟩ := h.pipes
  rcases h.heard i with ⟨v, hv, -, hmessages⟩ | ⟨-, hmessages⟩
  · rw [hmessages]
    exact Task6System.written_of_hasMessage ht hw hv hshort
  · rw [hmessages]
    exact (Task6System.delivered_of_shows ht hw i).inOrder hshort

/-- Where the reader of the worker's lines is: at the end only if the worker has nothing
left but its `return`, and there if it has returned. -/
def ReaderAt (s : LoggedSystem C W n) (v : Fin W) (q : ThreadLog) : Prop :=
  (q = .ended → (s.system.workers v).hasExited = true ∨ (s.system.leavesFor v).isSome = true) ∧
    ((s.system.workers v).hasExited = true → q = .ended)

theorem exists_readerAt (h : s.Told texts) (v : Fin W) :
    ∃ q, ThreadLog.reader.exec .fresh (saidBy s.said v) = some q ∧ s.ReaderAt v q := by
  obtain ⟨last, hlast, hreads⟩ := h.keptUp v
  obtain ⟨q, hq, hrest⟩ := Machine.exec_append_some.mp hlast
  refine ⟨q, hq, fun hended => ?_, fun hexited => ?_⟩
  · -- behind the last line there is nothing left to say
    subst hended
    obtain ⟨-, rfl⟩ := ThreadLog.exec_ended hrest
    exact h.parting v (hreads.ended_iff.mp rfl)
  · generalize s.system.workers v = line at hreads hexited
    generalize s.leaving v = leaving at hreads
    generalize s.saying v = saying at hreads hrest
    cases hreads with
    | exited reason dequeued => exact Option.some.inj hrest
    | blocked _ | checking _ | servicing _ | shared _ _ | leaving _ _ | serviced _ _ _
    | terminated _ _ _ | handled _ _ | notHandled _ _ _ => cases hexited

/-- The log tells the truth. -/
structure Truthful (texts : LogTexts W) (s : LoggedSystem C W n) : Prop where
  queue : s.log.popped ++ s.log.log = s.said.map (entry texts)
  workers : ∀ v, ∃ q, ThreadLog.reader.exec .fresh (saidBy s.said v) = some q ∧ s.ReaderAt v q
  heard : ∀ i, s.Heard i
  written : ∀ i, (∀ m ∈ (s.system.chans i).written, m.text.length ≤ readCapacity) →
    messagesOf s.said i <+: (s.system.chans i).written.map ClientMessg.text

theorem truthful_of_told (h : s.Told texts) : s.Truthful texts where
  queue := h.order.trans h.pushed
  workers := exists_readerAt h
  heard := h.heard
  written := fun _ => messagesOf_written h

/-- **The log tells the truth**, whatever fails, in whatever order the threads move
between the lines of each other's `pushMessg`, and whenever the console takes
messages out. -/
theorem system_log (build : Build) (texts : LogTexts W) (C n : Nat)
    (es : List (LoggedEvent C W n)) :
    (machine build texts C n).Always (Truthful texts) (init C W n) es :=
  Machine.always_of_invariant (I := Told texts) (fun _ => truthful_of_told)
    (fun _ _ _ => told_step) (told_init texts C n) es

/-! ## What is on the console -/

/-- A line names its thread, and the threads have different numbers. -/
theorem entry_injective (hthreads : Function.Injective texts.threadId) :
    Function.Injective (entry texts) := by
  rintro ⟨v, news⟩ ⟨v', news'⟩ h
  obtain ⟨hthread, hnews⟩ := WorkerNews.text_injective h
  exact Prod.ext (hthreads hthread) hnews

/-- The texts on the console are those of one sequence of lines, the beginning of what
the workers said; the reader of a worker's lines gets through them. Its messages of a
pipe are the first of those that were handled, or all of them and the one that a worker
has said and is about to handle; and they were written. -/
def ReadBack (texts : LogTexts W) (s : LoggedSystem C W n) : Prop :=
  ∃ lines, (∀ other : List (Fin W × WorkerNews),
      other.map (entry texts) = s.log.popped ↔ other = lines) ∧
    lines <+: s.said ∧
    (∀ v, (ThreadLog.reader.exec .fresh (saidBy lines v)).isSome = true) ∧
    ∀ i : Fin n,
      (messagesOf lines i <+: s.system.pipeHandled i ∨
        ∃ v, s.system.HasMessage v i ∧ s.saying v = [] ∧ messagesOf lines i =
          s.system.pipeHandled i ++ [text (s.system.pipeSvBuffers i)]) ∧
      ((∀ m ∈ (s.system.chans i).written, m.text.length ≤ readCapacity) →
        messagesOf lines i <+: (s.system.chans i).written.map ClientMessg.text)

/-- Of the messages in the log the console has the first ones. -/
theorem messagesOf_taken {i : Fin n} {lines : List (Fin W × WorkerNews)} (h : s.Heard i)
    (hpart : lines <+: s.said) :
    messagesOf lines i <+: s.system.pipeHandled i ∨
      ∃ v, s.system.HasMessage v i ∧ s.saying v = [] ∧
        messagesOf lines i = s.system.pipeHandled i ++ [text (s.system.pipeSvBuffers i)] := by
  have htaken : messagesOf lines i <+: messagesOf s.said i := hpart.filterMap _
  rcases h with ⟨v, hv, hsilent, hmessages⟩ | ⟨-, hmessages⟩
  · rw [hmessages] at htaken
    rcases List.prefix_concat_iff.mp htaken with hall | hearlier
    · exact .inr ⟨v, hv, hsilent, hall⟩
    · exact .inl hearlier
  · rw [hmessages] at htaken
    exact .inl htaken

theorem readBack_of_told (hthreads : Function.Injective texts.threadId) (h : s.Told texts) :
    s.ReadBack texts := by
  have hqueue : s.log.popped ++ s.log.log = s.said.map (entry texts) := h.order.trans h.pushed
  obtain ⟨lines, rest, hsaid, hlines, -⟩ := List.map_eq_append_iff.mp hqueue.symm
  have hpart : lines <+: s.said := ⟨rest, hsaid.symm⟩
  refine ⟨lines, fun other => ⟨fun hother => ?_, fun hother => ?_⟩, hpart, fun v => ?_,
    fun i => ⟨messagesOf_taken (h.heard i) hpart, fun hshort => ?_⟩⟩
  · exact List.map_injective_iff.mpr (entry_injective hthreads) (hother.trans hlines.symm)
  · rw [hother, hlines]
  · -- the reader has come through the beginning too
    obtain ⟨q, hq, -⟩ := exists_readerAt h v
    rw [hsaid, saidBy, List.filterMap_append] at hq
    obtain ⟨p, hp, -⟩ := Machine.exec_append_some.mp hq
    exact Option.isSome_iff_exists.mpr ⟨p, hp⟩
  · exact (hpart.filterMap _).trans (messagesOf_written h hshort)

/-- **The console can be read back**: with a number of its own for each worker thread,
what the console has taken out tells which lines were pushed, by which thread, and
with which bytes of a message, whatever the clients and the system's own texts put
into them. -/
theorem system_log_readBack (build : Build) {texts : LogTexts W}
    (hthreads : Function.Injective texts.threadId) (C n : Nat) (es : List (LoggedEvent C W n)) :
    (machine build texts C n).Always (ReadBack texts) (init C W n) es :=
  Machine.always_of_invariant (I := Told texts) (fun _ => readBack_of_told hthreads)
    (fun _ _ _ => told_step) (told_init texts C n) es

/-- A message that fits its buffer is terminated there, and said next. -/
theorem step_terminate {build : Build} {v : Fin W} {result : AsyncResult} {lastError : DWORD}
    (hready : s.ready (.terminate v) = true) (hrun : s.system.running = true)
    (hpc : s.system.workers v = .pipeTask (.serviced result)) (hlt : result.instanceIndex < n)
    (hfits : result.bytesTransferred <
      (s.system.pipeSvBuffers ⟨result.instanceIndex, hlt⟩).length) :
    (machine build texts C n).step s (.line (.terminate v) lastError) =
      some { s.setSaying v [.message result.instanceIndex []] with
        system := { s.system.setWorker v (.pipeTask (.terminated result)) with
          pipeSvBuffers := Function.update s.system.pipeSvBuffers ⟨result.instanceIndex, hlt⟩
            ((s.system.pipeSvBuffers ⟨result.instanceIndex, hlt⟩).set
              result.bytesTransferred 0) } } := by
  have hsystem := Task6System.step_terminate build hrun hpc hlt hfits
  have htells : s.system.tells texts.toSystemTexts lastError (.terminate v) =
      [.message result.instanceIndex []] := by
    simp only [Task6System.tells, hpc, dif_pos hlt, if_pos hfits]
  show step build texts s (.line (.terminate v) lastError) = _
  rw [step, if_pos hready, htells]
  rw [show s.system.step build (.terminate v) = _ from hsystem, Option.map_some]
  exact congrArg some (if_pos hrun)

/-- Two worker threads, with a number each. -/
def twoThreads : LogTexts 2 where
  formatMessage := fun _ => none
  outOfRange := "invalid vector subscript"
  threadId := fun v => 4711 + v.val

/-- Lines of the system behind one another. -/
def systemLines (es : List (SystemEvent 0 2 1)) : List (LoggedEvent 0 2 1) :=
  es.map fun e => .line e errorSuccess

/-- A worker pushes what it has to say. -/
def utter (v : Fin 2) : List (LoggedEvent 0 2 1) := [.pushMessg v, .emplace v, .releaseSemaphore v]

/-- The first worker takes the connect of a client that writes `"hi"`, and the second
one has read the message. -/
def untilReceived : List (LoggedEvent 0 2 1) :=
  systemLines [.connect ⟨0, Nat.zero_lt_one⟩ ioPending] ++
    utter ⟨0, Nat.zero_lt_two⟩ ++ utter ⟨1, Nat.one_lt_two⟩ ++
    systemLines [.openPipe ⟨0, Nat.zero_lt_one⟩, .write ⟨0, Nat.zero_lt_one⟩ ⟨[104, 105], by simp⟩,
      .complete ⟨0, Nat.zero_lt_one⟩ 0, .dequeue ⟨0, Nat.zero_lt_two⟩,
      .check ⟨0, Nat.zero_lt_two⟩, .service ⟨0, Nat.zero_lt_two⟩ ioPending] ++
    utter ⟨0, Nat.zero_lt_two⟩ ++
    systemLines [.restart ⟨0, Nat.zero_lt_two⟩ ioPending] ++ utter ⟨0, Nat.zero_lt_two⟩ ++
    systemLines [.complete ⟨0, Nat.zero_lt_one⟩ 0, .dequeue ⟨1, Nat.one_lt_two⟩,
      .check ⟨1, Nat.one_lt_two⟩, .service ⟨1, Nat.one_lt_two⟩ ioPending] ++
    utter ⟨1, Nat.one_lt_two⟩

/-- It pushes the message, and the console takes out all there is. -/
def behindReceived : List (LoggedEvent 0 2 1) :=
  utter ⟨1, Nat.one_lt_two⟩ ++
    (List.replicate 6 [.popMessg "", .wait waitObject0 errorSuccess, .pop]).flatten

/-- A message that goes through the log to the console. -/
def popped : List (LoggedEvent 0 2 1) :=
  untilReceived ++ .line (.terminate ⟨1, Nat.one_lt_two⟩) errorSuccess :: behindReceived

/-- What `service` says of the read of `"hi"`. -/
def received : AsyncResult := ⟨0, .read, errorSuccess, 2, .connected, false⟩

/-- What the workers push in it. -/
def poppedLines : List (Fin 2 × WorkerNews) :=
  [(⟨0, Nat.zero_lt_two⟩, .started), (⟨1, Nat.one_lt_two⟩, .started),
    (⟨0, Nat.zero_lt_two⟩, .operation errorSuccess false .connect 0),
    (⟨0, Nat.zero_lt_two⟩, .reading 0),
    (⟨1, Nat.one_lt_two⟩, .operation errorSuccess false .read 0),
    (⟨1, Nat.one_lt_two⟩, .message 0 [104, 105])]

theorem system_log_readBack_popped :
    ((machine .release twoThreads 0 1).exec (init 0 2 1) popped).map (fun s =>
        (s.said, s.log.popped)) = some (poppedLines, poppedLines.map (entry twoThreads)) ∧
      (machine .release twoThreads 0 1).Always (ReadBack twoThreads) (init 0 2 1) popped := by
  refine ⟨?_, system_log_readBack .release
    (fun u v h => Fin.ext (Nat.add_left_cancel h)) 0 1 popped⟩
  obtain ⟨s, hs, hready, hrun, hpc, hbuffer, hrest⟩ : ∃ s,
      (machine .release twoThreads 0 1).exec (init 0 2 1) untilReceived = some s ∧
      s.ready (.terminate ⟨1, Nat.one_lt_two⟩) = true ∧ s.system.running = true ∧
      s.system.workers ⟨1, Nat.one_lt_two⟩ = .pipeTask (.serviced received) ∧
      s.system.pipeSvBuffers ⟨0, Nat.zero_lt_one⟩ =
        overwrite (List.replicate dataBufferSize 0) [104, 105] ∧
      ((machine .release twoThreads 0 1).exec { s.setSaying ⟨1, Nat.one_lt_two⟩ [.message 0 []] with
        system := { s.system.setWorker ⟨1, Nat.one_lt_two⟩ (.pipeTask (.terminated received)) with
          pipeSvBuffers := Function.update s.system.pipeSvBuffers ⟨0, Nat.zero_lt_one⟩
            ((s.system.pipeSvBuffers ⟨0, Nat.zero_lt_one⟩).set 2 0) } } behindReceived).map
              (fun s => (s.said, s.log.popped)) =
        some (poppedLines, poppedLines.map (entry twoThreads)) :=
    ⟨_, rfl, rfl, rfl, rfl, rfl, by decide +kernel⟩
  have hfits : received.bytesTransferred <
      (s.system.pipeSvBuffers ⟨0, Nat.zero_lt_one⟩).length := by
    rw [hbuffer, Task6System.length_received (by decide)]
    decide
  rw [popped, Machine.exec_append, hs, Option.bind_some, Machine.exec_cons,
    step_terminate hready hrun hpc Nat.zero_lt_one hfits, Option.bind_some]
  exact hrest

end LoggedSystem

end Task6
