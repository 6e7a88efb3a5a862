import Task6.Server.Delivery
import Task6.Server.SoloRun

/-!
# Message framing

`WorkerThreadProc` decides about each completion on its own. A read that fills
the buffer fails with `ERROR_MORE_DATA` and is not handled, but it is forgotten,
and the read of what is left of the message succeeds: the end of the message,
`lastRead`, is handled as a message. `framed_iff`: what is handled are messages
exactly for the clients that write only messages that fit a read.
-/

namespace Task6

open Win32 NulText

/-- What the last of the reads that move a message brings. -/
def lastRead (m : List Byte) : List Byte :=
  if m.length ≤ readCapacity then m else lastRead (m.drop readCapacity)
termination_by m.length
decreasing_by
  have hpos : 0 < readCapacity := by decide
  rw [List.length_drop]
  omega

theorem length_lastRead (m : List Byte) : (lastRead m).length ≤ readCapacity := by
  induction m using lastRead.induct with
  | case1 m hshort =>
    rw [lastRead, if_pos hshort]
    exact hshort
  | case2 m hlong ih =>
    rw [lastRead, if_neg hlong]
    exact ih

namespace ServerPipe

/-- The client is there, and a read is in flight. -/
def reading (index : Nat) (written : List ClientMessg) (unread : List (List Byte))
    (buffer : List Byte) (handled : List (List Byte)) : ServerPipe :=
  serving index (.flight (readOp index)) .reading ⟨.opened, written, unread⟩ buffer handled

/-- A client comes, and the first read begins. -/
theorem exec_open (index : Nat) : ∃ cs, (solo index).exec (listening index) cs
    = some (reading index [] [] (List.replicate dataBufferSize 0) []) := by
  have hrestart : (solo index).exec (serving index
      (.busy (.handled ⟨index, .connect, errorSuccess, 0, PipeState.connected, false⟩))
      .connected ⟨.opened, [], []⟩ (List.replicate dataBufferSize 0) [])
      [.restart 0 ioPending]
        = some (reading index [] [] (List.replicate dataBufferSize 0) []) := by
    refine Machine.exec_cons_some.mpr ⟨_, step_restart ?_, ?_⟩
    · rfl
    · rfl
  exact ⟨_, Machine.exec_trans exec_accept hrestart⟩

theorem exec_write (index : Nat) (written : List ClientMessg) (unread handled : List (List Byte))
    (buffer : List Byte) (msgs : List ClientMessg) :
    (solo index).exec (reading index written unread buffer handled) (msgs.map .write)
      = some (reading index (written ++ msgs) (unread ++ msgs.map ClientMessg.text)
          buffer handled) := by
  induction msgs generalizing written unread with
  | nil => simp
  | cons m msgs ih =>
    have hwrite : (solo index).step (reading index written unread buffer handled) (.write m)
        = some (reading index (written ++ [m]) (unread ++ [m.text]) buffer handled) := rfl
    rw [List.map_cons, Machine.exec_cons, hwrite, Option.bind_some, ih]
    simp

section Messages

variable (index : Nat) (written : List ClientMessg) (unread handled : List (List Byte))
  {buffer : List Byte}

/-- A read that moves a whole chunk: the worker handles it as a message. -/
theorem exec_whole {chunk : List Byte} (hshort : chunk.length ≤ readCapacity)
    (hnul : (0 : Byte) ∉ chunk) (hsize : buffer.length = dataBufferSize) :
    ∃ cs buffer', buffer'.length = dataBufferSize ∧
      (solo index).exec (reading index written (chunk :: unread) buffer handled) cs
        = some (reading index written unread buffer' (handled ++ [chunk])) := by
  have ht : Channel.transfer ⟨.opened, written, chunk :: unread⟩ readCapacity
      = some (errorSuccess, chunk, ⟨.opened, written, unread⟩) := if_pos hshort
  have hlen : (overwrite buffer chunk).length = dataBufferSize := by
    rw [length_overwrite (by rw [hsize, dataBufferSize_eq]; omega), hsize]
  have hroom : chunk.length < (overwrite buffer chunk).length := by
    rw [hlen, dataBufferSize_eq]
    omega
  have htake : (overwrite buffer chunk).take chunk.length = chunk := List.take_left' rfl
  have htext : text ((overwrite buffer chunk).set chunk.length 0) = chunk := by
    rw [text_set_zero hroom (htake.symm ▸ hnul), htake]
  refine ⟨[.complete 0, .take 0, .service 0 ioPending, .terminate 0, .handle 0,
    .restart 0 ioPending], (overwrite buffer chunk).set chunk.length 0, ?_, ?_⟩
  · rw [List.length_set]
    exact hlen
  · refine Machine.exec_cons_some.mpr ⟨_, step_complete ht, ?_⟩
    refine Machine.exec_cons_some.mpr ⟨_, step_take, ?_⟩
    refine Machine.exec_cons_some.mpr ⟨_, step_service, ?_⟩
    refine Machine.exec_cons_some.mpr ⟨_, step_terminate hroom, ?_⟩
    refine Machine.exec_cons_some.mpr ⟨_, step_handle, ?_⟩
    refine Machine.exec_cons_some.mpr ⟨_, step_restart rfl, ?_⟩
    rw [htext]
    rfl

/-- A read that fills the buffer: the worker drops what it brought. -/
theorem exec_part {chunk : List Byte} (hlong : ¬ chunk.length ≤ readCapacity)
    (hsize : buffer.length = dataBufferSize) :
    ∃ cs buffer', buffer'.length = dataBufferSize ∧
      (solo index).exec (reading index written (chunk :: unread) buffer handled) cs
        = some (reading index written (chunk.drop readCapacity :: unread) buffer' handled) := by
  have ht : Channel.transfer ⟨.opened, written, chunk :: unread⟩ readCapacity
      = some (errorMoreData, chunk.take readCapacity,
          ⟨.opened, written, chunk.drop readCapacity :: unread⟩) := if_neg hlong
  refine ⟨[.complete 0, .take 0, .service 0 ioPending, .restart 0 ioPending],
    overwrite buffer (chunk.take readCapacity), ?_, ?_⟩
  · have hle : (chunk.take readCapacity).length ≤ buffer.length := by
      rw [List.length_take, hsize, dataBufferSize_eq]
      omega
    rw [length_overwrite hle, hsize]
  · refine Machine.exec_cons_some.mpr ⟨_, step_complete ht, ?_⟩
    refine Machine.exec_cons_some.mpr ⟨_, step_take, ?_⟩
    refine Machine.exec_cons_some.mpr ⟨_, step_service, ?_⟩
    refine Machine.exec_cons_some.mpr ⟨_, step_restart ?_, ?_⟩
    · rfl
    · rfl

/-- One message, read to its end. -/
theorem exec_message {chunk : List Byte} (hnul : (0 : Byte) ∉ chunk)
    (hsize : buffer.length = dataBufferSize) :
    ∃ cs buffer', buffer'.length = dataBufferSize ∧
      (solo index).exec (reading index written (chunk :: unread) buffer handled) cs
        = some (reading index written unread buffer' (handled ++ [lastRead chunk])) := by
  -- along the reads of the message; each leaves other bytes in the buffer
  induction chunk using lastRead.induct generalizing buffer with
  | case1 chunk hshort =>
    rw [lastRead, if_pos hshort]
    exact exec_whole index written unread handled hshort hnul hsize
  | case2 chunk hlong ih =>
    obtain ⟨cs, buffer₁, hsize₁, hcs⟩ := exec_part index written unread handled hlong hsize
    obtain ⟨ds, buffer₂, hsize₂, hds⟩ := ih (fun h => hnul (List.mem_of_mem_drop h)) hsize₁
    rw [lastRead, if_neg hlong]
    exact ⟨cs ++ ds, buffer₂, hsize₂, Machine.exec_trans hcs hds⟩

/-- Everything unread, read to its end. -/
theorem exec_drain (hnul : ∀ chunk ∈ unread, (0 : Byte) ∉ chunk)
    (hsize : buffer.length = dataBufferSize) :
    ∃ cs buffer', (solo index).exec (reading index written unread buffer handled) cs
        = some (reading index written [] buffer' (handled ++ unread.map lastRead)) := by
  induction unread generalizing buffer handled with
  | nil => exact ⟨[], buffer, by simp⟩
  | cons chunk unread ih =>
    obtain ⟨cs, buffer₁, hsize₁, hcs⟩ := exec_message index written unread handled
      (hnul chunk List.mem_cons_self) hsize
    obtain ⟨ds, buffer₂, hds⟩ := ih (handled ++ [lastRead chunk])
      (fun c hc => hnul c (List.mem_cons_of_mem _ hc)) hsize₁
    refine ⟨cs ++ ds, buffer₂, Machine.exec_trans hcs ?_⟩
    rw [hds, List.map_cons, List.append_assoc, List.singleton_append]

end Messages

end ServerPipe

namespace Task6Server

variable {n : Nat} {workers : Nat}

/-- A run that handles the ends of all messages. -/
theorem exists_run_lastRead (workers : Nat) (i : Fin n) (msgs : List ClientMessg) :
    ∃ es s, (machine (workers + 1) n).exec (init n) es = some s ∧ (s.chans i).written = msgs ∧
      s.handled i = msgs.map fun m => lastRead m.text := by
  obtain ⟨cs, hopen⟩ := ServerPipe.exec_open i
  have hwrite := ServerPipe.exec_write i [] [] [] (List.replicate dataBufferSize 0) msgs
  have hnul : ∀ chunk ∈ [] ++ msgs.map ClientMessg.text, (0 : Byte) ∉ chunk := by
    intro chunk hchunk
    obtain ⟨m, -, rfl⟩ := List.mem_map.mp hchunk
    exact m.noNul
  obtain ⟨ds, buffer, hdrain⟩ := ServerPipe.exec_drain i ([] ++ msgs) _ [] hnul
    List.length_replicate
  obtain ⟨es, s, hs, hp⟩ := exists_run_of_solo workers
    (Machine.exec_trans (Machine.exec_trans hopen hwrite) hdrain)
  refine ⟨es, s, hs, congrArg (fun p => p.chan.written) hp, ?_⟩
  have hhandled : s.handled i = [] ++ ([] ++ msgs.map ClientMessg.text).map lastRead :=
    congrArg ServerPipe.handled hp
  rw [hhandled, List.nil_append, List.nil_append, List.map_map]
  rfl

/-- What was handled on a connection are messages of its client, in order and
each at most once. -/
def Framed (s : Task6Server n) (i : Fin n) : Prop :=
  (s.handled i).Sublist ((s.chans i).written.map ClientMessg.text)

/-- **Framing, exactly**: whatever the server and the timing, all states in
which a client has written a part of `msgs` are framed if and only if no message
is longer than a read. -/
theorem framed_iff (workers n : Nat) (i : Fin n) (msgs : List ClientMessg) :
    (∀ es s, (machine (workers + 1) n).exec (init n) es = some s →
        (s.chans i).written <+: msgs → Framed s i) ↔
      ∀ m ∈ msgs, m.text.length ≤ readCapacity := by
  constructor
  · intro h m hm
    obtain ⟨es, s, hs, hwritten, hhandled⟩ := exists_run_lastRead workers i msgs
    have hframed := h es s hs (hwritten ▸ List.prefix_refl _)
    rw [Framed, hwritten, hhandled] at hframed
    -- as many texts as messages: they are the messages
    have hsame := hframed.eq_of_length (by rw [List.length_map, List.length_map])
    have hlast : lastRead m.text = m.text := List.map_inj_left.mp hsame m hm
    rw [← hlast]
    exact length_lastRead m.text
  · intro hshort es s hs hpart
    refine (delivered_of_watched (watched_exec hs) ?_).inOrder.sublist
    intro m hm
    exact hshort m (hpart.subset hm)

/-- A message of one byte more than a read moves. -/
def longMessg : ClientMessg := ⟨List.replicate dataBufferSize 120, by simp [List.mem_replicate]⟩

theorem lastRead_longMessg : lastRead longMessg.text = [120] := by
  have hlong : ¬ (List.replicate dataBufferSize (120 : Byte)).length ≤ readCapacity := by
    rw [List.length_replicate]
    decide
  have hdrop : (List.replicate dataBufferSize (120 : Byte)).drop readCapacity = [120] := by
    rw [List.drop_replicate]
    rfl
  show lastRead (List.replicate dataBufferSize 120) = [120]
  rw [lastRead, if_neg hlong, hdrop, lastRead, if_pos (by decide)]

/-- Its last byte is handled as a message. -/
theorem framed_broken : ∃ es s, (machine 1 1).exec (init 1) es = some s ∧
    (s.chans 0).written = [longMessg] ∧ s.handled 0 = [[120]] ∧ ¬ Framed s 0 := by
  obtain ⟨es, s, hs, hwritten, hhandled⟩ := exists_run_lastRead 0 (0 : Fin 1) [longMessg]
  rw [List.map_singleton, lastRead_longMessg] at hhandled
  refine ⟨es, s, hs, hwritten, hhandled, fun hframed => ?_⟩
  rw [Framed, hwritten, hhandled] at hframed
  have hsame := hframed.eq_of_length rfl
  have hlength : dataBufferSize = 1 := by
    have := congrArg List.length (List.head_eq_of_cons_eq hsame)
    rw [show longMessg.text = List.replicate dataBufferSize 120 from rfl,
      List.length_replicate] at this
    exact this.symm
  exact absurd hlength (by decide)

end Task6Server

end Task6
