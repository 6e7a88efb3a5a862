import Task6.SharedMemory.RoundTrip
import Task6.SharedMemory.Texts

/-!
# The hand-off is one sequential transport

Clients, waiter and workers move line by line and in any order, yet what the
server handles is what a single reader would find that looked into the mapping
behind each write.

- `handled_sequential`: the refinement, for any schedule, with failing calls and
  with a server that dies.
- `handled_prefix_iff`: what is handled is what was written exactly as long as no
  message is shorter than one before it.
-/

namespace Task6

open NulText

/-- The data the client is about to write, if any, has the property. -/
def ClientPc.Carries (P : List Byte → Prop) : ClientPc → Prop
  | mapping data | copying _ data => P data
  | idle | unmapping | signalling | died => True

namespace Handoff

variable {C W : Nat} {cfg : HandoffConfig} {s s' : Handoff C W}

/-! ## The refinement -/

/-- The run so far is one of the sequential transport: what is handled is the
beginning of what it would read, and at most two texts are under way. -/
structure Sequential (cfg : HandoffConfig) (s : Handoff C W × Traffic) : Prop where
  memory : s.1.memory = memoryAfter (zeros cfg) s.2.written
  inOrder : s.2.handled <+: textsAfter (zeros cfg) s.2.written
  underWay : s.2.written.length ≤ s.2.handled.length + 2
  noneLost : s.1.turn = 1 →
    s.2.written.length = s.2.handled.length + s.1.inHand + s.1.unread

theorem sequential_of_located {g : Traffic} (hfit : Fitting cfg s) (h : Located cfg s g) :
    Sequential cfg (s, g) := by
  obtain ⟨missing, htexts, hmissing⟩ := h.texts
  have hlen := congrArg List.length htexts
  simp only [List.length_append, List.length_replicate, length_textsAfter] at hlen
  have hbound := unread_le_turn s
  have hinHand := hfit.inHand_le
  refine ⟨h.memory, ⟨_, htexts⟩, ?_, fun hturn => ?_⟩
  · show g.written.length ≤ g.handled.length + 2
    omega
  · have hturn : s.turn = 1 := hturn
    show g.written.length = g.handled.length + s.inHand + s.unread
    omega

theorem located_init (cfg : HandoffConfig) (C W : Nat) : Located cfg (init cfg C W) ⟨[], []⟩ := by
  have hclients : Pool.total ClientPc.wrote (init cfg C W).clients = 0 :=
    Pool.total_eq_zero fun _ => rfl
  have hreads : Pool.total WorkerPc.reads (init cfg C W).workers = 0 :=
    Pool.total_eq_zero fun _ => rfl
  have hunread : (init cfg C W).unread = 0 := by
    simp only [unread, hclients, hreads]
    rfl
  have hinHand : (init cfg C W).inHand = 0 := Pool.total_eq_zero fun _ => rfl
  refine ⟨rfl, [], ?_, by rw [turn_init]; exact Nat.le_refl _⟩
  rw [hunread, hinHand]
  rfl

/-- What carries the refinement from step to step. -/
structure Sequenced (cfg : HandoffConfig) (s : Handoff C W × Traffic) : Prop where
  single : s.1.turn ≤ 1
  fitting : Fitting cfg s.1
  located : Located cfg s.1 s.2

theorem sequenced_init (cfg : HandoffConfig) (C W : Nat) :
    Sequenced cfg (init cfg C W, ⟨[], []⟩) :=
  ⟨Nat.le_of_eq (turn_init cfg C W), fitting_init cfg C W, located_init cfg C W⟩

theorem sequenced_step {s s' : Handoff C W × Traffic} {e : HandoffEvent C W}
    (h : Sequenced cfg s) (hfull : FullBuffer cfg e)
    (hs : (recorded cfg C W).step s e = some s') : Sequenced cfg s' := by
  obtain ⟨hstep, hg⟩ := Machine.observed_step.mp hs
  have hsteps := steps_of_step hstep
  have hturn := turn_le_of_step h.single hstep
  refine ⟨Nat.le_trans hturn h.single, fitting_step h.fitting hfull hsteps, ?_⟩
  rw [hg]
  exact located_passage h.single hturn h.located (passage_of_steps h.single h.fitting hsteps)

/-- **The hand-off refines the sequential transport**: for any number of clients
and workers, any build and any schedule in which the workers pass their whole
buffer, whatever fails on the way, the texts handled are those that a single
reader finds behind the writes, in their order, none twice and none skipped. -/
theorem handled_sequential (cfg : HandoffConfig) (C W : Nat) (es : List (HandoffEvent C W))
    (hfull : ∀ e ∈ es, FullBuffer cfg e) :
    (recorded cfg C W).Always (Sequential cfg) (init cfg C W, ⟨[], []⟩) es := by
  exact Machine.always_of_eachStep (Q := fun _ e => FullBuffer cfg e)
    (fun s h => sequential_of_located h.fitting h.located)
    (fun s e s' h hs hQ => sequenced_step h hQ hs) (sequenced_init cfg C W)
    (Machine.eachStep_of_forall_mem hfull)

/-- One message of client `i`, every call succeeding. -/
def clientLines (i : Fin C) (data : List Byte) : List (HandoffEvent C W) :=
  [.writeData i .object0 data, .clientMap i true, .clientCopy i, .clientUnmap i true,
    .clientSignal i true]

/-- Worker `w` reads and handles it. -/
def workerLines (w : Fin W) (size : Nat) : List (HandoffEvent C W) :=
  [.dequeue w, .getData w size, .getMap w (some size), .getCopy w, .getUnmap w true,
    .getSignal w true, .finish w]

/-- A client writes `"ab"`, and the worker reads and handles it. -/
def oneMessage : List (HandoffEvent 1 1) :=
  clientLines ⟨0, Nat.zero_lt_one⟩ [97, 98] ++ [.waiterWake, .waiterPost true]
    ++ workerLines ⟨0, Nat.zero_lt_one⟩ 4

theorem handled_sequential_oneMessage :
    ((recorded ⟨.release, 4⟩ 1 1).exec (init ⟨.release, 4⟩ 1 1, ⟨[], []⟩) oneMessage).map
        (fun s => s.2.handled) = some [[97, 98]] ∧
      (recorded ⟨.release, 4⟩ 1 1).Always (Sequential ⟨.release, 4⟩)
        (init ⟨.release, 4⟩ 1 1, ⟨[], []⟩) oneMessage := by
  refine ⟨by rfl, handled_sequential ⟨.release, 4⟩ 1 1 oneMessage fun e he w size hget => ?_⟩
  subst hget
  have hsize : w = 0 ∧ size = 4 := by
    simpa [oneMessage, clientLines, workerLines] using he
  exact hsize.2

/-! ## Messages without a NUL -/

/-- The texts behind the writes are the messages exactly when none is shorter
than what the mapping held, or than one before it. -/
theorem textsAfter_eq_iff {size : Nat} {t : List Byte} (ht : (0 : Byte) ∉ t)
    (hfit : t.length ≤ size) {written : List (List Byte)}
    (hplain : ∀ data ∈ written, (0 : Byte) ∉ data ∧ data.length ≤ size) :
    textsAfter (t ++ List.replicate (size - t.length) 0) written = written ↔
      (∀ data ∈ written, t.length ≤ data.length) ∧
        written.Pairwise fun a b => a.length ≤ b.length := by
  -- the text in the mapping is general: each write leaves another one
  induction written generalizing t with
  | nil => simp [textsAfter]
  | cons data rest ih =>
    obtain ⟨⟨hdata, hsize⟩, hrest⟩ := List.forall_mem_cons.mp hplain
    have hnul : (0 : Byte) ∉ data ++ t.drop data.length := by
      rw [List.mem_append]
      rintro (h0 | h0)
      · exact hdata h0
      · exact ht (List.mem_of_mem_drop h0)
    have hlen := length_append_drop t data
    have hnew : overwrite (t ++ List.replicate (size - t.length) 0) data
        = (data ++ t.drop data.length)
          ++ List.replicate (size - (data ++ t.drop data.length).length) 0 := by
      rw [overwrite_zeros, hlen]
      congr 2
      omega
    have htext : text (overwrite (t ++ List.replicate (size - t.length) 0) data)
        = data ++ t.drop data.length := by
      rw [hnew]
      exact text_append_zeros hnul _
    rw [textsAfter, htext, List.cons.injEq, append_drop_eq_iff, hnew, List.forall_mem_cons,
      List.pairwise_cons]
    constructor
    · rintro ⟨hle, heq⟩
      -- the message covers the old text and is alone in the mapping
      rw [append_drop_eq_iff.mpr hle] at heq
      obtain ⟨hall, hsorted⟩ := (ih hdata hsize hrest).mp heq
      exact ⟨⟨hle, fun d hd => Nat.le_trans hle (hall d hd)⟩, hall, hsorted⟩
    · rintro ⟨⟨hle, -⟩, hall, hsorted⟩
      refine ⟨hle, ?_⟩
      rw [append_drop_eq_iff.mpr hle]
      exact (ih hdata hsize hrest).mpr ⟨hall, hsorted⟩

theorem take_textsAfter (memory : List Byte) (written : List (List Byte)) (n : Nat) :
    (textsAfter memory written).take n = textsAfter memory (written.take n) := by
  induction written generalizing memory n with
  | nil => simp [textsAfter]
  | cons data rest ih =>
    cases n with
    | zero => rfl
    | succ n =>
      rw [textsAfter, List.take_succ_cons, List.take_succ_cons, ih, textsAfter]

/-- The data of a new `writeData` has the property. -/
def Writes (P : List Byte → Prop) (e : HandoffEvent C W) : Prop :=
  ∀ i wait data, e = .writeData i wait data → P data

theorem carries_step {P : List Byte → Prop} {e : HandoffEvent C W}
    (h : ∀ i, (s.clients i).Carries P) (hwrites : Writes P e) (hs : Steps cfg s e s') :
    ∀ i, (s'.clients i).Carries P := by
  have update : ∀ i (pc : ClientPc), pc.Carries P →
      ∀ j, ((s.setClient i pc).clients j).Carries P := fun i pc hpc =>
    (Function.forall_update_iff _ fun _ (pc : ClientPc) => pc.Carries P).mpr
      ⟨hpc, fun j _ => h j⟩
  cases hs with
  | @takesTurn i data hpc hset => exact update i (.mapping data) (hwrites i _ data rfl)
  | @mapped i mapped data hpc hfit =>
    have hdata := h i
    rw [hpc] at hdata
    exact update i (.copying mapped data) hdata
  | copied => exact update _ .unmapping trivial
  | unmapped => exact update _ .signalling trivial
  | signalled => exact update _ .idle trivial
  | @clientDrops i e pc he hpc hnew hcopy =>
    refine update i pc ?_
    rcases hnew with rfl | rfl <;> trivial
  | _ => exact h

/-- No message has a NUL, neither one that a client is about to write nor one
that was written. -/
structure Plain (cfg : HandoffConfig) (s : Handoff C W) (g : Traffic) : Prop where
  clients : ∀ i, (s.clients i).Carries fun data => (0 : Byte) ∉ data
  written : ∀ data ∈ g.written, (0 : Byte) ∉ data ∧ data.length ≤ cfg.bufferSize

/-- A message is written by a client that has it in hand and fits the mapping. -/
theorem plain_written {e : HandoffEvent C W} {g : Traffic} (hfit : Fitting cfg s)
    (h : Plain cfg s g) :
    ∀ data ∈ (traffic s e g).written, (0 : Byte) ∉ data ∧ data.length ≤ cfg.bufferSize := by
  cases e with
  | clientCopy i =>
    have hpc := h.clients i
    have hsize := hfit.clients i
    simp only [traffic]
    split
    · rename_i mapped data hcopying
      rw [hcopying] at hpc hsize
      split
      · rename_i hcopy
        intro d hd
        rcases List.mem_append.mp hd with hd | hd
        · exact h.written d hd
        · rw [List.mem_singleton.mp hd]
          refine ⟨hpc, ?_⟩
          cases mapped with
          | true => exact hsize
          | false =>
            have hempty : data = [] := by
              by_contra hne
              simp [memcpy, hne] at hcopy
            rw [hempty]
            exact Nat.zero_le _
      · exact h.written
    · exact h.written
  | _ => exact h.written

/-- **What is handled is what was written, exactly**: when no message has a NUL,
the messages handled are the ones written, in order, if and only if none of these
is shorter than one before it. -/
theorem handled_prefix_iff (cfg : HandoffConfig) (C W : Nat) (es : List (HandoffEvent C W))
    (hfull : ∀ e ∈ es, FullBuffer cfg e)
    (hplain : ∀ e ∈ es, Writes (fun data => (0 : Byte) ∉ data) e) :
    (recorded cfg C W).Always
      (fun s => s.2.handled <+: s.2.written ↔
        (s.2.written.take s.2.handled.length).Pairwise fun a b => a.length ≤ b.length)
      (init cfg C W, ⟨[], []⟩) es := by
  refine Machine.always_of_eachStep
    (Q := fun _ e => FullBuffer cfg e ∧ Writes (fun data => (0 : Byte) ∉ data) e)
    (I := fun s : Handoff C W × Traffic => Sequenced cfg s ∧ Plain cfg s.1 s.2) ?_ ?_ ?_
    (Machine.eachStep_of_forall_mem fun e he => ⟨hfull e he, hplain e he⟩)
  · rintro ⟨s, g⟩ ⟨hseq, hplain⟩
    have horder : g.handled <+: textsAfter (zeros cfg) g.written :=
      (sequential_of_located hseq.fitting hseq.located).inOrder
    have hhandled := List.prefix_iff_eq_take.mp horder
    rw [take_textsAfter] at hhandled
    have hiff : textsAfter (zeros cfg) (g.written.take g.handled.length)
        = g.written.take g.handled.length ↔ _ :=
      textsAfter_eq_iff List.not_mem_nil (Nat.zero_le _)
        fun data hd => hplain.written data (List.mem_of_mem_take hd)
    rw [← hhandled] at hiff
    show g.handled <+: g.written ↔ _
    rw [List.prefix_iff_eq_take, hiff]
    exact ⟨fun h => h.2, fun h => ⟨fun _ _ => Nat.zero_le _, h⟩⟩
  · rintro s e s' ⟨hseq, hplain⟩ hs ⟨hfull, hwrites⟩
    obtain ⟨hstep, hg⟩ := Machine.observed_step.mp hs
    refine ⟨sequenced_step hseq hfull hs, ?_⟩
    rw [hg]
    exact ⟨carries_step hplain.clients hwrites (steps_of_step hstep),
      plain_written hseq.fitting hplain⟩
  · refine ⟨sequenced_init cfg C W, fun _ => trivial, fun data hd => ?_⟩
    cases hd

/-- A client writes `"abc"` and then `"x"`, each read and handled before the next. -/
def twoMessages : List (HandoffEvent 1 1) :=
  [[97, 98, 99], [120]].flatMap fun data =>
    clientLines ⟨0, Nat.zero_lt_one⟩ data ++ [.waiterWake, .waiterPost true]
      ++ workerLines ⟨0, Nat.zero_lt_one⟩ 4

theorem handled_prefix_iff_twoMessages :
    ((recorded ⟨.release, 4⟩ 1 1).exec (init ⟨.release, 4⟩ 1 1, ⟨[], []⟩) twoMessages).map
        (fun s => (s.2.written, s.2.handled)) =
          some ([[97, 98, 99], [120]], [[97, 98, 99], [120, 98, 99]]) ∧
      (recorded ⟨.release, 4⟩ 1 1).Always
        (fun s => s.2.handled <+: s.2.written ↔
          (s.2.written.take s.2.handled.length).Pairwise fun a b => a.length ≤ b.length)
        (init ⟨.release, 4⟩ 1 1, ⟨[], []⟩) twoMessages := by
  refine ⟨by rfl, handled_prefix_iff ⟨.release, 4⟩ 1 1 twoMessages ?_ ?_⟩
  · rintro e he w size rfl
    have hsize : w = 0 ∧ size = 4 := by
      simpa [twoMessages, clientLines, workerLines] using he
    exact hsize.2
  · rintro e he i wait data rfl
    have hdata : i = 0 ∧ wait = .object0 ∧ data = [97, 98, 99] ∨
        i = 0 ∧ wait = .object0 ∧ data = [120] := by
      simpa [twoMessages, clientLines, workerLines] using he
    rcases hdata with ⟨-, -, rfl⟩ | ⟨-, -, rfl⟩
    · decide
    · decide

end Handoff

end Task6
