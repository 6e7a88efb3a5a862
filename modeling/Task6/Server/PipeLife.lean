import Task6.Server.ServerPipe

/-!
# The life of a pipe

A pipe is always in one hand: nobody's, Windows' (an operation in flight), the
iocp's (a packet), or a worker's (the packet it took, or the line behind
`service` it is at). `LifeAt` is the invariant of a pipe: the hand it is in fits
the phase of the instance, and, as long as the client writes only messages that
fit a read, no message is lost, doubled or changed between the client and
`handleClientMessg`. One lemma for each call says in which hand the pipe is
behind it.
-/

namespace Task6

open Win32 NulText

/-- In whose hand a pipe is. -/
inductive Holder where
  | nobody
  | flight (op : AsyncOp)
  | queued (packet : Packet)
  | taken (packet : Packet)
  | busy (t : WorkerTask)

namespace Holder

/-- The operation that Windows has. -/
@[simp] def pending : Holder → List AsyncOp
  | flight op => [op]
  | nobody | queued _ | taken _ | busy _ => []

@[simp] def onIocp : Holder → List Packet
  | queued packet => [packet]
  | nobody | flight _ | taken _ | busy _ => []

@[simp] def inService : Holder → List Packet
  | taken packet => [packet]
  | nobody | flight _ | queued _ | busy _ => []

@[simp] def tasks : Holder → List WorkerTask
  | busy t => [t]
  | nobody | flight _ | queued _ | taken _ => []

/-- The operation that is outstanding. -/
def op : Holder → Option AsyncOp
  | flight op => some op
  | queued packet | taken packet => some packet.op
  | nobody | busy _ => none

/-- The message a finished read has put into the buffer. -/
def ofPacket (packet : Packet) (buffer : List Byte) : List (List Byte) :=
  if packet.op.kind = .read ∧ packet.errorCode = errorSuccess then
    [buffer.take packet.bytesTransferred]
  else []

/-- The message between the client and its handler. -/
def inHand (buffer : List Byte) : Holder → List (List Byte)
  | queued packet | taken packet => ofPacket packet buffer
  | busy (.serviced result) => [buffer.take result.bytesTransferred]
  | busy (.terminated _) => [text buffer]
  | busy (.handled _) | nobody | flight _ => []

/-- An operation of the pipe in a phase. A read in flight on a `CONNECTED` pipe
is one whose call threw. -/
def OpFits (op : AsyncOp) (ph : Phase) : Prop :=
  op.kind = .connect ∧ ph = .connecting ∨
    op.kind = .read ∧ op.capacity = readCapacity ∧ (ph = .reading ∨ ph = .connected)

/-- The hand and the phase of the instance. -/
def Fits : Holder → Phase → Prop
  | nobody, ph => ph = .unconnected ∨ ph = .connecting ∨ ph = .connected
  | flight op, ph => OpFits op ph
  | queued packet, ph | taken packet, ph =>
    OpFits packet.op ph ∧ packet.bytesTransferred ≤ readCapacity
  | busy t, ph => ph = .connected ∧ t.result.newPipeState = PipeState.connected ∧
      t.result.bytesTransferred ≤ readCapacity

end Holder

namespace ServerPipe

/-- The pipe is in the hand, and in no other. -/
structure At (p : ServerPipe) (h : Holder) : Prop where
  pending : p.pipe.slot.pending = h.pending
  queued : p.pipe.slot.queued = h.onIocp
  taken : p.pipe.taken = h.inService
  tasks : p.tasks = h.tasks

/-- The client has written nothing that a single read cannot move. -/
def Short (p : ServerPipe) : Prop := ∀ m ∈ p.chan.written, m.text.length ≤ readCapacity

/-- No read is in flight behind the state's back, and what was written is what
was handled, what is in hand and what is unread. -/
structure Clean (p : ServerPipe) (h : Holder) (ph : Phase) : Prop where
  tracked : ∀ op, h.op = some op → ph ≠ .connected
  delivered : p.handled ++ h.inHand p.buffer ++ p.chan.unread
    = p.chan.written.map ClientMessg.text

/-- The invariant, with the hand and the phase. -/
structure LifeAt (p : ServerPipe) (h : Holder) (ph : Phase) : Prop where
  held : p.At h
  phase : p.pipe.slot.InPhase ph
  fits : h.Fits ph
  size : p.buffer.length = dataBufferSize
  clean : p.Short → p.Clean h ph

theorem life_create (index : Nat) : (create index).LifeAt .nobody .unconnected where
  held := ⟨rfl, rfl, rfl, rfl⟩
  phase := rfl
  fits := .inl rfl
  size := List.length_replicate
  clean := fun _ => ⟨fun _ h => (by cases h), rfl⟩

section Inversion

variable {p : ServerPipe} {h : Holder} {k : Nat}

theorem singleton_getElem? {α : Type} {a b : α} (hk : [a][k]? = some b) : k = 0 ∧ a = b := by
  cases k with
  | zero => exact ⟨rfl, Option.some.inj hk⟩
  | succ k => cases hk

theorem At.of_pending {op : AsyncOp} (hat : p.At h) (hk : p.pipe.slot.pending[k]? = some op) :
    h = .flight op ∧ k = 0 := by
  rw [hat.pending] at hk
  cases h with
  | flight op' =>
    obtain ⟨hk0, rfl⟩ := singleton_getElem? hk
    exact ⟨rfl, hk0⟩
  | nobody | queued packet | taken packet | busy t =>
    cases hk

theorem At.of_queued {packet : Packet} (hat : p.At h)
    (hk : p.pipe.slot.queued[k]? = some packet) : h = .queued packet ∧ k = 0 := by
  rw [hat.queued] at hk
  cases h with
  | queued packet' =>
    obtain ⟨hk0, rfl⟩ := singleton_getElem? hk
    exact ⟨rfl, hk0⟩
  | nobody | flight op | taken packet | busy t =>
    cases hk

theorem At.of_taken {packet : Packet} (hat : p.At h) (hk : p.pipe.taken[k]? = some packet) :
    h = .taken packet ∧ k = 0 := by
  rw [hat.taken] at hk
  cases h with
  | taken packet' =>
    obtain ⟨hk0, rfl⟩ := singleton_getElem? hk
    exact ⟨rfl, hk0⟩
  | nobody | flight op | queued packet | busy t =>
    cases hk

theorem At.of_task {t : WorkerTask} (hat : p.At h) (hk : p.tasks[k]? = some t) :
    h = .busy t ∧ k = 0 := by
  rw [hat.tasks] at hk
  cases h with
  | busy t' =>
    obtain ⟨hk0, rfl⟩ := singleton_getElem? hk
    exact ⟨rfl, hk0⟩
  | nobody | flight op | queued packet | taken packet =>
    cases hk

end Inversion

variable {p p' : ServerPipe} {h : Holder} {ph : Phase}

/-! ## The client -/

/-- The client's end moves; what it writes stands in both lists. -/
theorem life_chan {ch : Channel} (hl : p.LifeAt h ph)
    (hch : ∃ ms : List ClientMessg, ch.written = p.chan.written ++ ms ∧
      ch.unread = p.chan.unread ++ ms.map ClientMessg.text) :
    LifeAt { p with chan := ch } h ph := by
  obtain ⟨ms, hwritten, hunread⟩ := hch
  refine { held := ?_, phase := hl.phase, fits := hl.fits, size := hl.size, clean := ?_ }
  · cases h <;> exact ⟨hl.held.pending, hl.held.queued, hl.held.taken, hl.held.tasks⟩
  · intro hshort
    have hold : p.Short := by
      intro m hm
      refine hshort m ?_
      rw [show ({ p with chan := ch } : ServerPipe).chan.written = ch.written from rfl, hwritten]
      exact List.mem_append_left _ hm
    obtain ⟨htracked, hdelivered⟩ := hl.clean hold
    refine ⟨htracked, ?_⟩
    show p.handled ++ h.inHand p.buffer ++ ch.unread = ch.written.map ClientMessg.text
    rw [hunread, hwritten, List.map_append, ← hdelivered, List.append_assoc _ p.chan.unread]

/-! ## The constructor -/

theorem eq_nobody_of_unconnected (hfits : h.Fits .unconnected) : h = .nobody := by
  cases h with
  | nobody => rfl
  | flight op =>
    rcases hfits with ⟨-, hph⟩ | ⟨-, -, hph | hph⟩
    all_goals cases hph
  | queued packet | taken packet =>
    rcases hfits.1 with ⟨-, hph⟩ | ⟨-, -, hph | hph⟩
    all_goals cases hph
  | busy t => cases hfits.1

/-- The connect loop leaves the pipe to Windows, or, when a client was there
before, to nobody. -/
theorem life_connect {r : CallResult} (hl : p.LifeAt h ph)
    (hs : p.step (.connect r) = some p') :
    h = .nobody ∧ ((r.lastError = errorIoPending ∧ ∃ op, p'.LifeAt (.flight op) .connecting) ∨
      r.lastError ≠ errorIoPending ∧ p'.LifeAt .nobody .connecting) := by
  obtain ⟨hheld, hph, hfits, hsize, hclean⟩ := hl
  have hnext := Slot.connectInstance_phase hph r
  have hpending := Slot.connectInstance_pending p.pipe.slot r
  have hframe := Slot.connectInstance_frame p.pipe.slot r
  simp only [step] at hs
  split at hs
  · rename_i slot hcall
    cases hs
    -- the guard let the call through: the pipe is as the constructor left it
    obtain ⟨hcan, hthrow⟩ := Slot.connectInstance_ok (congrArg Prod.fst hcall)
    rw [hcall] at hnext hpending hframe
    have hu : ph = .unconnected := by simpa [Slot.canConnect_eq hph] using hcan
    subst hu
    obtain rfl := eq_nobody_of_unconnected hfits
    rw [if_pos ⟨rfl, hthrow⟩] at hnext
    rw [hheld.pending, Holder.pending, List.nil_append, if_pos hcan] at hpending
    simp only [Slot.connectThrows, Bool.or_eq_false_iff] at hthrow
    refine ⟨rfl, ?_⟩
    by_cases hpend : r.lastError = errorIoPending
    · refine .inl ⟨hpend, ⟨.connect, p.pipe.slot.inst.connReadOverlapped, 0,
        p.pipe.slot.disconnects⟩, ?_⟩
      rw [Slot.issued, if_pos (by simp [Slot.queuesPacket, hpend])] at hpending
      refine { held := ⟨hpending, hframe.queued.trans hheld.queued, hheld.taken, hheld.tasks⟩,
               phase := hnext, fits := .inl ⟨rfl, rfl⟩, size := hsize, clean := ?_ }
      intro hshort
      exact ⟨fun _ _ hc => (by cases hc), (hclean hshort).delivered⟩
    · refine .inr ⟨hpend, ?_⟩
      rw [Slot.issued, if_neg (by simp [Slot.queuesPacket, hpend, hthrow.1])] at hpending
      refine { held := ⟨hpending, hframe.queued.trans hheld.queued, hheld.taken, hheld.tasks⟩,
               phase := hnext, fits := .inr (.inl rfl), size := hsize, clean := ?_ }
      intro hshort
      exact ⟨fun _ _ hc => (by cases hc), (hclean hshort).delivered⟩
  · cases hs

/-! ## Windows -/

/-- Moving the operation along leaves the instance in its phase. -/
theorem complete_eq {q : Pipe} {k : Nat} {errorCode : DWORD} {bytesTransferred : Nat}
    {op : AsyncOp} (hheld : p.At (.flight op)) (hk : k = 0)
    (hs : p.pipe.step (.complete k errorCode bytesTransferred) = some q) :
    q.slot.inst = p.pipe.slot.inst ∧ q.slot.pending = [] ∧
      q.slot.queued = [⟨op, errorCode, bytesTransferred⟩] ∧ q.taken = [] := by
  subst hk
  have hpending : p.pipe.slot.pending = [op] := hheld.pending
  simp only [Pipe.step, hpending, List.getElem?_cons_zero, Option.map_some,
    Option.some.injEq] at hs
  subst hs
  refine ⟨rfl, ?_, ?_, hheld.taken⟩
  · simp [Slot.complete, hpending]
  · simp [Slot.complete, hheld.queued]

theorem dataBufferSize_eq : dataBufferSize = readCapacity + 1 := rfl

/-- A finished read: with short messages a whole one is in the buffer. -/
theorem transfer_spec {ch ch' : Channel} {errorCode : DWORD} {data : List Byte}
    (ht : ch.transfer readCapacity = some (errorCode, data, ch')) :
    ch'.written = ch.written ∧ data.length ≤ readCapacity ∧
      ((errorCode = errorSuccess ∧ ch.unread = data :: ch'.unread) ∨
        errorCode ≠ errorSuccess ∧ ∃ m ∈ ch.unread, readCapacity < m.length) := by
  unfold Channel.transfer at ht
  split at ht
  · cases ht
  · rename_i chunk rest hunread
    split at ht
    · rename_i hle
      cases ht
      exact ⟨rfl, hle, .inl ⟨rfl, hunread⟩⟩
    · rename_i hlong
      cases ht
      refine ⟨rfl, ?_, .inr ⟨by decide, chunk, ?_, Nat.not_le.mp hlong⟩⟩
      · rw [List.length_take]
        exact Nat.min_le_left _ _
      · rw [hunread]
        exact List.mem_cons_self ..

/-- What is unread of short messages is short. -/
theorem Clean.unread_short (hc : p.Clean h ph) (hshort : p.Short) :
    ∀ m ∈ p.chan.unread, m.length ≤ readCapacity := by
  intro m hm
  have hmem : m ∈ p.chan.written.map ClientMessg.text := by
    rw [← hc.delivered]
    exact List.mem_append_right _ hm
  obtain ⟨w, hw, rfl⟩ := List.mem_map.mp hmem
  exact hshort w hw

/-- A packet without a message takes the place of its operation. -/
theorem life_packet {k : Nat} {errorCode : DWORD} {op : AsyncOp} {q : Pipe}
    (hl : p.LifeAt (.flight op) ph) (hk : k = 0)
    (hq : p.pipe.step (.complete k errorCode 0) = some q)
    (hnone : Holder.ofPacket ⟨op, errorCode, 0⟩ p.buffer = []) :
    LifeAt { p with pipe := q } (.queued ⟨op, errorCode, 0⟩) ph := by
  obtain ⟨hheld, hph, hfits, hsize, hclean⟩ := hl
  obtain ⟨hinst, hpending, hqueued, htaken⟩ := complete_eq hheld hk hq
  refine { held := ⟨hpending, hqueued, htaken, hheld.tasks⟩,
           phase := (congrArg PipeInstance.state hinst).trans hph,
           fits := ⟨hfits, Nat.zero_le _⟩, size := hsize, clean := ?_ }
  intro hshort
  obtain ⟨htracked, hdelivered⟩ := hclean hshort
  refine ⟨htracked, ?_⟩
  show p.handled ++ Holder.ofPacket ⟨op, errorCode, 0⟩ p.buffer ++ p.chan.unread = _
  rw [hnone]
  exact hdelivered

theorem life_complete {k : Nat} (hl : p.LifeAt h ph) (hs : p.step (.complete k) = some p') :
    ∃ op packet, h = .flight op ∧ p'.LifeAt (.queued packet) ph := by
  simp only [step] at hs
  split at hs
  · cases hs
  · rename_i op hop
    obtain ⟨rfl, hk⟩ := hl.held.of_pending hop
    split at hs
    · rename_i hkind
      split at hs
      · cases hs
      · obtain ⟨q, hq, rfl⟩ := Option.map_eq_some_iff.mp hs
        have hnone : Holder.ofPacket ⟨op, errorSuccess, 0⟩ p.buffer = [] := by
          simp [Holder.ofPacket, hkind]
        exact ⟨op, _, rfl, life_packet hl hk hq hnone⟩
    · rename_i hkind
      obtain ⟨hheld, hph, hfits, hsize, hclean⟩ := hl
      have hfits : Holder.OpFits op ph := hfits
      have hcapacity : op.capacity = readCapacity := by
        rcases hfits with ⟨hconn, -⟩ | ⟨-, hcap, -⟩
        · rw [hkind] at hconn
          cases hconn
        · exact hcap
      rw [hcapacity] at hs
      split at hs
      · cases hs
      · rename_i errorCode data ch ht
        obtain ⟨q, hq, rfl⟩ := Option.map_eq_some_iff.mp hs
        obtain ⟨hinst, hpending, hqueued, htaken⟩ := complete_eq hheld hk hq
        obtain ⟨hwritten, hlen, hcase⟩ := transfer_spec ht
        have hroom : data.length ≤ p.buffer.length := by
          rw [hsize, dataBufferSize_eq]
          omega
        refine ⟨op, ⟨op, errorCode, data.length⟩, rfl, ?_⟩
        refine { held := ⟨hpending, hqueued, htaken, hheld.tasks⟩,
                 phase := (congrArg PipeInstance.state hinst).trans hph,
                 fits := ⟨hfits, hlen⟩, size := (length_overwrite hroom).trans hsize,
                 clean := ?_ }
        intro hshort
        have hshort : p.Short := by
          intro m hm
          exact hshort m (show m ∈ ch.written from hwritten ▸ hm)
        have hcl := hclean hshort
        refine ⟨hcl.tracked, ?_⟩
        show p.handled ++ Holder.ofPacket ⟨op, errorCode, data.length⟩ (overwrite p.buffer data)
          ++ ch.unread = ch.written.map ClientMessg.text
        have hdelivered : p.handled ++ [] ++ p.chan.unread = p.chan.written.map ClientMessg.text :=
          hcl.delivered
        rw [hwritten, ← hdelivered]
        -- the first unread message moves into the hand
        rcases hcase with ⟨hok, hunread⟩ | ⟨-, m, hm, hlong⟩
        · rw [hunread, Holder.ofPacket, if_pos ⟨hkind, hok⟩, overwrite,
            List.take_left' rfl, List.append_nil, List.append_assoc, List.singleton_append]
        · have := hcl.unread_short hshort m hm
          omega

theorem life_abort {k : Nat} {errorCode : DWORD} (hl : p.LifeAt h ph)
    (hs : p.step (.abort k errorCode) = some p') :
    ∃ op packet, h = .flight op ∧ p'.LifeAt (.queued packet) ph := by
  simp only [step] at hs
  split at hs
  · cases hs
  · rename_i hcode
    obtain ⟨q, hq, rfl⟩ := Option.map_eq_some_iff.mp hs
    obtain ⟨op, hop, -⟩ := Option.map_eq_some_iff.mp hq
    obtain ⟨rfl, hk⟩ := hl.held.of_pending hop
    have hnone : Holder.ofPacket ⟨op, errorCode, 0⟩ p.buffer = [] :=
      if_neg fun hc => hcode (.inl hc.2)
    exact ⟨op, _, rfl, life_packet hl hk hq hnone⟩

/-! ## The workers -/

theorem life_take {k : Nat} (hl : p.LifeAt h ph) (hs : p.step (.take k) = some p') :
    ∃ packet, h = .queued packet ∧ p'.LifeAt (.taken packet) ph := by
  obtain ⟨hheld, hph, hfits, hsize, hclean⟩ := hl
  obtain ⟨q, hq, rfl⟩ := Option.map_eq_some_iff.mp hs
  obtain ⟨packet, hpacket, rfl⟩ := Option.map_eq_some_iff.mp hq
  obtain ⟨rfl, rfl⟩ := hheld.of_queued hpacket
  refine ⟨packet, rfl, ?_⟩
  refine { held := ⟨hheld.pending, ?_, ?_, hheld.tasks⟩, phase := hph, fits := hfits,
           size := hsize, clean := fun hshort => ?_ }
  · simp [Slot.dequeue, hheld.queued]
  · simp [hheld.taken]
  · obtain ⟨htracked, hdelivered⟩ := hclean hshort
    exact ⟨htracked, hdelivered⟩

/-- `service` hands the pipe to the worker, unless the packet is that of a read
whose call threw: then it throws, and the pipe is in nobody's hand. -/
theorem life_service {k : Nat} {r : CallResult} (hl : p.LifeAt h ph)
    (hs : p.step (.service k r) = some p') :
    ∃ packet, h = .taken packet ∧
      ((ph ≠ .connected ∧ ∃ t, p'.LifeAt (.busy t) .connected) ∨
        ph = .connected ∧ p'.LifeAt .nobody .connected) := by
  obtain ⟨hheld, hph, hfits, hsize, hclean⟩ := hl
  obtain ⟨packet, hpacket, rfl⟩ := Option.map_eq_some_iff.mp hs
  obtain ⟨rfl, rfl⟩ := hheld.of_taken hpacket
  obtain ⟨hop, hbytes⟩ := hfits
  have hframe := Slot.serviceSwitch_frame p.pipe.slot r
    p.pipe.slot.inst.connReadOverlapped.index packet.bytesTransferred packet.errorCode
  have hpending := Slot.serviceSwitch_pending p.pipe.slot r
    p.pipe.slot.inst.connReadOverlapped.index packet.bytesTransferred packet.errorCode
  obtain ⟨hresult, hphase, -⟩ := Slot.serviceSwitch_phase hph
    p.pipe.slot.inst.connReadOverlapped.index packet.bytesTransferred packet.errorCode r
  refine ⟨packet, rfl, ?_⟩
  rcases hop with ⟨hkind, rfl⟩ | ⟨hkind, -, rfl | rfl⟩
  · -- a connect: nothing is in the buffer
    refine .inl ⟨Phase.noConfusion, .handled ⟨p.pipe.slot.inst.connReadOverlapped.index, .connect,
      packet.errorCode, 0, PipeState.connected, false⟩, ?_⟩
    refine { held := ⟨hpending.trans hheld.pending, hframe.queued.trans hheld.queued, ?_, ?_⟩,
             phase := hphase, fits := ⟨rfl, rfl, Nat.zero_le _⟩, size := hsize,
             clean := fun hshort => ⟨fun _ hop => (by cases hop), ?_⟩ }
    · simp [hheld.taken]
    · simp only [hheld.tasks, Holder.tasks, hresult, Phase.serviceResult, List.nil_append]
      rfl
    · have hdelivered := (hclean hshort).delivered
      have hnone : Holder.ofPacket packet p.buffer = [] := if_neg fun hc => by
        rw [hkind] at hc
        cases hc.1
      rw [Holder.inHand, hnone] at hdelivered
      exact hdelivered
  · -- a read: its message, if it succeeded, is now the worker's
    refine .inl ⟨Phase.noConfusion, .ofResult ⟨p.pipe.slot.inst.connReadOverlapped.index, .read,
      packet.errorCode, packet.bytesTransferred, PipeState.connected, false⟩, ?_⟩
    refine { held := ⟨hpending.trans hheld.pending, hframe.queued.trans hheld.queued, ?_, ?_⟩,
             phase := hphase, fits := ⟨rfl, ?_, ?_⟩, size := hsize,
             clean := fun hshort => ⟨fun _ hop => (by cases hop), ?_⟩ }
    · simp [hheld.taken]
    · simp only [hheld.tasks, Holder.tasks, hresult, Phase.serviceResult, List.nil_append]
      rfl
    · unfold WorkerTask.ofResult
      split <;> rfl
    · unfold WorkerTask.ofResult
      split <;> exact hbytes
    · have hdelivered := (hclean hshort).delivered
      rw [Holder.inHand, Holder.ofPacket] at hdelivered
      by_cases hok : packet.errorCode = errorSuccess
      · rw [if_pos ⟨hkind, hok⟩] at hdelivered
        rw [WorkerTask.ofResult, if_pos (by simp [WorkerTask.isMessage, hok])]
        exact hdelivered
      · rw [if_neg fun hc => hok hc.2] at hdelivered
        rw [WorkerTask.ofResult, if_neg (by simp [WorkerTask.isMessage, hok])]
        exact hdelivered
  · refine .inr ⟨rfl, ?_⟩
    refine { held := ⟨hpending.trans hheld.pending, hframe.queued.trans hheld.queued, ?_, ?_⟩,
             phase := hphase, fits := .inr (.inr rfl), size := hsize, clean := fun hshort => ?_ }
    · simp [hheld.taken]
    · simp only [hheld.tasks, Holder.tasks, hresult, Phase.serviceResult, List.nil_append]
      rfl
    · exact absurd rfl ((hclean hshort).tracked packet.op rfl)

/-- The terminator falls into the buffer, and behind the message. -/
theorem life_terminate {k : Nat} (hl : p.LifeAt h ph) (hs : p.step (.terminate k) = some p') :
    ∃ result, h = .busy (.serviced result) ∧ result.bytesTransferred < p.buffer.length ∧
      p'.LifeAt (.busy (.terminated result)) ph := by
  obtain ⟨hheld, hph, hfits, hsize, hclean⟩ := hl
  simp only [step] at hs
  split at hs
  · rename_i result hk
    obtain ⟨rfl, rfl⟩ := hheld.of_task hk
    have hroom : result.bytesTransferred < p.buffer.length := by
      have hbytes : result.bytesTransferred ≤ readCapacity := hfits.2.2
      rw [hsize, dataBufferSize_eq]
      omega
    rw [if_pos hroom] at hs
    cases hs
    refine ⟨result, rfl, hroom, ?_⟩
    refine { held := ⟨hheld.pending, hheld.queued, hheld.taken, ?_⟩, phase := hph, fits := hfits,
             size := (List.length_set ..).trans hsize, clean := fun hshort => ?_ }
    · simp [hheld.tasks]
    · obtain ⟨htracked, hdelivered⟩ := hclean hshort
      refine ⟨fun _ hop => (by cases hop), ?_⟩
      -- what stands before the terminator is a message, so it has no NUL
      have hmem : p.buffer.take result.bytesTransferred ∈ p.chan.written.map ClientMessg.text := by
        rw [← hdelivered]
        exact List.mem_append_left _ (List.mem_append_right _ (List.mem_singleton.mpr rfl))
      obtain ⟨m, -, hm⟩ := List.mem_map.mp hmem
      have htext := text_set_zero hroom (hm ▸ m.noNul)
      show p.handled ++ [text (p.buffer.set result.bytesTransferred 0)] ++ p.chan.unread = _
      rw [htext]
      exact hdelivered
  · cases hs

theorem life_handle {k : Nat} (hl : p.LifeAt h ph) (hs : p.step (.handle k) = some p') :
    ∃ result, h = .busy (.terminated result) ∧ p'.LifeAt (.busy (.handled result)) ph := by
  obtain ⟨hheld, hph, hfits, hsize, hclean⟩ := hl
  simp only [step] at hs
  split at hs
  · rename_i result hk
    obtain ⟨rfl, rfl⟩ := hheld.of_task hk
    cases hs
    refine ⟨result, rfl, ?_⟩
    refine { held := ⟨hheld.pending, hheld.queued, hheld.taken, ?_⟩, phase := hph, fits := hfits,
             size := hsize, clean := fun hshort => ⟨fun _ hop => (by cases hop), ?_⟩ }
    · simp [hheld.tasks]
    · have hdelivered := (hclean hshort).delivered
      show p.handled ++ [text p.buffer] ++ [] ++ p.chan.unread = _
      rw [List.append_nil]
      exact hdelivered
  · cases hs

/-- The next read is in flight when Windows queues its packet. -/
theorem life_restart {k : Nat} {r : CallResult} (hl : p.LifeAt h ph)
    (hs : p.step (.restart k r) = some p') :
    ∃ result, h = .busy (.handled result) ∧
      ((Slot.queuesPacket .read r = true ∧ ∃ op q, p'.LifeAt (.flight op) q) ∨
        Slot.queuesPacket .read r = false ∧ p'.LifeAt .nobody .connected) := by
  obtain ⟨hheld, hph, hfits, hsize, hclean⟩ := hl
  simp only [step] at hs
  split at hs
  · rename_i result hk
    obtain ⟨rfl, rfl⟩ := hheld.of_task hk
    obtain ⟨rfl, hstate, -⟩ := hfits
    have hstate : result.newPipeState = PipeState.connected := hstate
    split at hs
    · cases hs
    · rename_i hno
      cases hs
      have hanswer : p.chan.answersRead readCapacity r = true := by
        cases ha : p.chan.answersRead readCapacity r with
        | true => rfl
        | false => exact absurd ⟨hstate, ha⟩ hno
      have hstart : startNext p.pipe.slot result r
          = (p.pipe.slot.readInstance readCapacity r).2 := by
        unfold startNext
        rw [hstate, if_neg (by decide), if_pos rfl]
      have hcan : p.pipe.slot.canRead = true := by rw [Slot.canRead_eq hph]; rfl
      have hnext := Slot.readInstance_phase hph readCapacity r
      have hpending := Slot.readInstance_pending p.pipe.slot r readCapacity
      have hframe := Slot.readInstance_frame p.pipe.slot r readCapacity
      rw [hheld.pending, Holder.pending, List.nil_append, if_pos hcan] at hpending
      rw [hstart]
      refine ⟨result, rfl, ?_⟩
      cases hq : Slot.queuesPacket .read r with
      | true =>
        refine .inl ⟨rfl, ⟨.read, p.pipe.slot.inst.connReadOverlapped, readCapacity % 2 ^ 32,
          p.pipe.slot.disconnects⟩,
          if Phase.connected = Phase.connected ∧ Slot.readThrows r = false then .reading
            else .connected, ?_⟩
        rw [Slot.issued, if_pos hq] at hpending
        refine { held := ⟨hpending, hframe.queued.trans hheld.queued, hheld.taken, ?_⟩,
                 phase := hnext, fits := .inr ⟨rfl, rfl, ?_⟩, size := hsize,
                 clean := fun hshort => ?_ }
        · simp [hheld.tasks]
        · split
          · exact .inl rfl
          · exact .inr rfl
        · have hcl := hclean hshort
          refine ⟨fun _ _ => ?_, hcl.delivered⟩
          -- the warning that throws needs a message that is too long
          have hthrow : Slot.readThrows r = false := by
            cases hb : r.bResult with
            | true => simp [Slot.readThrows, hb]
            | false =>
              by_cases hpend : r.lastError = errorIoPending
              · simp [Slot.readThrows, hpend]
              · have hmore : r.lastError = errorMoreData := by
                  simpa [Slot.queuesPacket, hb, hpend] using hq
                unfold Channel.answersRead at hanswer
                split at hanswer
                · simp [hb, hmore] at hanswer
                · rename_i chunk rest hunread
                  have hlong : readCapacity < chunk.length := by
                    simpa [hb, hmore] using hanswer
                  have hle := hcl.unread_short hshort chunk (hunread ▸ List.mem_cons_self ..)
                  omega
          rw [if_pos ⟨rfl, hthrow⟩]
          exact Phase.noConfusion
      | false =>
        refine .inr ⟨rfl, ?_⟩
        have hthrow : Slot.readThrows r = true := by
          simp only [Slot.queuesPacket, Bool.or_eq_false_iff, beq_eq_false_iff_ne] at hq
          simp [Slot.readThrows, hq.1.1, hq.1.2]
        rw [if_neg fun hc => Bool.false_ne_true (hc.2.symm.trans hthrow)] at hnext
        rw [Slot.issued, if_neg (by rw [hq]; exact Bool.false_ne_true)] at hpending
        refine { held := ⟨hpending, hframe.queued.trans hheld.queued, hheld.taken, ?_⟩,
                 phase := hnext, fits := .inr (.inr rfl), size := hsize,
                 clean := fun hshort => ⟨fun _ hop => (by cases hop), (hclean hshort).delivered⟩ }
        simp [hheld.tasks]
  · cases hs

/-! ## Any event -/

/-- Windows has an operation of the pipe, its packet is on the iocp, or a worker
is handling one. -/
def Served (p : ServerPipe) : Prop := p.pipe.outstanding ≠ [] ∨ p.tasks ≠ []

theorem At.served_iff (hheld : p.At h) : p.Served ↔ h ≠ .nobody := by
  unfold Served Pipe.outstanding
  cases h with
  | nobody =>
    rw [hheld.pending, hheld.queued, hheld.taken, hheld.tasks]
    simp
  | flight op =>
    rw [hheld.pending]
    simp
  | queued packet =>
    rw [hheld.queued]
    simp
  | taken packet =>
    rw [hheld.taken]
    simp
  | busy t =>
    rw [hheld.tasks]
    simp

/-- The steps that leave the pipe in somebody's hand: the connect loop finds no
client there yet, the packet that is serviced is one of the operation the state
shows, and Windows queues the packet of the next read. -/
def KeepsSlot (p : ServerPipe) : ServerCall → Prop
  | .connect r => r.lastError = errorIoPending
  | .service _ _ => p.pipe.slot.inst.state = PipeState.unconnectedConnecting ∨
      p.pipe.slot.inst.state = PipeState.connectedReading
  | .restart _ r => Slot.queuesPacket .read r = true
  | _ => True

/-- Every event keeps the invariant, and the pipe stays in somebody's hand, or
comes there by the connect loop, when the event keeps it. -/
theorem life_step {c : ServerCall} (hl : p.LifeAt h ph) (hs : p.step c = some p') :
    ∃ h' ph', p'.LifeAt h' ph' ∧
      (h' ≠ .nobody ↔ (h ≠ .nobody ∨ Task6Server.loopStep c = 1) ∧ p.KeepsSlot c) := by
  cases c with
  | openPipe =>
    simp only [step] at hs
    split at hs
    · cases hs
      refine ⟨h, ph, life_chan hl ⟨[], by simp, by simp⟩, ?_⟩
      simp [Task6Server.loopStep, KeepsSlot]
    · cases hs
  | write m =>
    simp only [step] at hs
    split at hs
    · cases hs
      refine ⟨h, ph, life_chan hl ⟨[m], rfl, rfl⟩, ?_⟩
      simp [Task6Server.loopStep, KeepsSlot]
    · cases hs
  | close =>
    simp only [step] at hs
    split at hs
    · cases hs
      refine ⟨h, ph, life_chan hl ⟨[], by simp, by simp⟩, ?_⟩
      simp [Task6Server.loopStep, KeepsSlot]
    · cases hs
  | connect r =>
    obtain ⟨rfl, ⟨hpend, op, hnew⟩ | ⟨hpend, hnew⟩⟩ := life_connect hl hs
    · exact ⟨_, _, hnew, by simp [Task6Server.loopStep, KeepsSlot, hpend]⟩
    · exact ⟨_, _, hnew, by simp [Task6Server.loopStep, KeepsSlot, hpend]⟩
  | complete k =>
    obtain ⟨op, packet, rfl, hnew⟩ := life_complete hl hs
    exact ⟨_, _, hnew, by simp [KeepsSlot]⟩
  | abort k errorCode =>
    obtain ⟨op, packet, rfl, hnew⟩ := life_abort hl hs
    exact ⟨_, _, hnew, by simp [KeepsSlot]⟩
  | take k =>
    obtain ⟨packet, rfl, hnew⟩ := life_take hl hs
    exact ⟨_, _, hnew, by simp [KeepsSlot]⟩
  | service k r =>
    obtain ⟨packet, rfl, hcase⟩ := life_service hl hs
    have hstate : p.pipe.slot.inst.state = ph.bits := hl.phase
    have hop := hl.fits.1
    rcases hcase with ⟨hph, t, hnew⟩ | ⟨rfl, hnew⟩
    · have hkeeps : p.KeepsSlot (.service k r) := by
        rcases hop with ⟨-, rfl⟩ | ⟨-, -, rfl | rfl⟩
        · exact .inl hstate
        · exact .inr hstate
        · exact absurd rfl hph
      exact ⟨_, _, hnew, by simp [hkeeps]⟩
    · have hkeeps : ¬ p.KeepsSlot (.service k r) := by
        rintro (hc | hc)
        · exact absurd (hstate.symm.trans hc) (by decide)
        · exact absurd (hstate.symm.trans hc) (by decide)
      exact ⟨_, _, hnew, by simp [hkeeps]⟩
  | terminate k =>
    obtain ⟨result, rfl, -, hnew⟩ := life_terminate hl hs
    exact ⟨_, _, hnew, by simp [KeepsSlot]⟩
  | handle k =>
    obtain ⟨result, rfl, hnew⟩ := life_handle hl hs
    exact ⟨_, _, hnew, by simp [KeepsSlot]⟩
  | restart k r =>
    obtain ⟨result, rfl, ⟨hq, op, q, hnew⟩ | ⟨hq, hnew⟩⟩ := life_restart hl hs
    · exact ⟨_, _, hnew, by simp [KeepsSlot, hq]⟩
    · exact ⟨_, _, hnew, by simp [KeepsSlot, hq]⟩

end ServerPipe

namespace Task6Server

variable {n : Nat} {workers : Nat} {s s' : Task6Server n}

/-- The invariant of the server: its pipes live, and those that the connect loop
has not reached are in nobody's hand. -/
structure Watched (s : Task6Server n) : Prop where
  wired : s.Wired
  life : ∀ i, ∃ h ph, (s.pipe i).LifeAt h ph ∧ (s.connectLoop ≤ i.val → h = .nobody)

theorem watched_init (n : Nat) : Watched (init n) :=
  ⟨wired_init n, fun i => ⟨.nobody, .unconnected, ServerPipe.life_create i, fun _ => rfl⟩⟩

theorem watched_step {e : ServerEvent n} (hw : Watched s) (hs : step workers s e = some s') :
    Watched s' := by
  obtain ⟨hpermit, p, hp, hnew⟩ := step_some hw.wired hs
  refine ⟨step_wired hw.wired hs, fun j => ?_⟩
  subst hnew
  by_cases hj : j = e.index
  · subst hj
    obtain ⟨h, ph, hl, hfresh⟩ := hw.life e.index
    obtain ⟨h', ph', hl', hheld⟩ := ServerPipe.life_step hl hp
    refine ⟨h', ph', ?_, fun hloop => ?_⟩
    · show ((s.put e.index p).pipe e.index).LifeAt h' ph'
      rw [pipe_put_self]
      exact hl'
    · -- the loop has not reached the pipe, so the event was not its connect
      have hloop : s.connectLoop + loopStep e.call ≤ e.index.val := hloop
      by_contra hne
      obtain ⟨hold | hconn, -⟩ := hheld.mp hne
      · exact hold (hfresh (by omega))
      · rcases loopStep_cases hpermit with hzero | ⟨-, hidx⟩
        · omega
        · omega
  · obtain ⟨h, ph, hl, hfresh⟩ := hw.life j
    refine ⟨h, ph, ?_, fun hloop => hfresh ?_⟩
    · show ((s.put e.index p).pipe j).LifeAt h ph
      rw [pipe_put_other s hj]
      exact hl
    · have hloop : s.connectLoop + loopStep e.call ≤ j.val := hloop
      omega

theorem watched_exec {es : List (ServerEvent n)}
    (hs : (machine workers n).exec (init n) es = some s) : Watched s := by
  refine Machine.exec_invariant (M := machine workers n) ?_ (watched_init n) hs
  intro s e s' hw hstep
  exact watched_step hw hstep

end Task6Server

end Task6
