import Task6.Client.Starts
import Task6.Server.HandoffRefined
import Task6.Server.PipesRefined
import Task6.Server.SoloRun

/-!
# From the clients to the handler

The server with the clients it is made for: what is written to the pipes and to the
mapping is what some `Task6Client` has to send. The defects of the two transports
need messages of other lengths, so here both deliver (`system_endToEnd`).
-/

namespace Task6

open NulText

namespace Task6Client

/-- Some `Task6Client` has the data to send, at some point of what is done with it. -/
def HasToSend (build : Build) (data : List Byte) : Prop :=
  ∃ es s c, (ClientRun.machine build).exec ClientRun.init es = some s ∧
    s.client.getDataToSend build = some (data, c)

/-- Whatever is done with a client, what it has to send is the one text. -/
theorem hasToSend_iff {build : Build} {data : List Byte} :
    HasToSend build data ↔ data = helloWorld := by
  constructor
  · rintro ⟨es, s, c, hs, hdata⟩
    have hcoherent := Machine.exec_invariant (I := fun s : ClientRun => s.client.Coherent)
      ClientRun.coherent_step coherent_create hs
    obtain ⟨buff, heq, -⟩ := getDataToSend_eq build hcoherent.dataReady
    rw [hdata] at heq
    exact congrArg Prod.fst (Option.some.inj heq)
  · rintro rfl
    obtain ⟨buff, heq, -⟩ := getDataToSend_eq build coherent_create.dataReady
    exact ⟨[], ClientRun.init, _, rfl, heq⟩

end Task6Client

namespace Task6System

variable {C W n : Nat} {P : List Byte → Prop} {s s' : Task6System C W n}

/-! ## What is in the hands of the clients -/

/-- The data that a client writes has the property. -/
def Writes (P : List Byte → Prop) : SystemEvent C W n → Prop
  | .write _ m => P m.text
  | .client _ (.writeData _ data) => P data
  | _ => True

/-- And so has all that is on its way or was written. -/
structure Carried (P : List Byte → Prop) (s : Task6System C W n) : Prop where
  clients : ∀ i, (s.clients i).Carries P
  written : ∀ data ∈ s.traffic.written, P data
  pipes : ∀ i, ∀ m ∈ (s.chans i).written, P m.text

theorem carried_init : (init C W n).Carried P where
  clients := fun _ => trivial
  written := fun _ h => absurd h List.not_mem_nil
  pipes := fun _ _ h => absurd h List.not_mem_nil

/-- What was written is what a client had in hand. -/
theorem written_traffic {h : Handoff C W} {e : HandoffEvent C W} {g : Handoff.Traffic}
    (hclients : ∀ i, (h.clients i).Carries P) (hwritten : ∀ data ∈ g.written, P data) :
    ∀ data ∈ (Handoff.traffic h e g).written, P data := by
  cases e with
  | clientCopy i =>
    have hpc := hclients i
    simp only [Handoff.traffic]
    split
    · rename_i mapped data hcopying
      rw [hcopying] at hpc
      split
      · intro d hd
        rcases List.mem_append.mp hd with hd | hd
        · exact hwritten d hd
        · rw [List.mem_singleton.mp hd]
          exact hpc
      · exact hwritten
    · exact hwritten
  | _ => exact hwritten

theorem carried_client {build : Build} {i : Fin C} {line : ClientLine} (h : s.Carried P)
    (hwrites : Writes P (.client i line : SystemEvent C W n))
    (hs : s.clientStep build i line = some s') : s'.Carried P := by
  obtain ⟨h', hstep, rfl⟩ := Option.map_eq_some_iff.mp hs
  rw [← Handoff.step_client] at hstep
  have hline : Handoff.Writes P (line.event i : HandoffEvent C W) := by
    rintro j wait data hevent
    cases line with
    | writeData wait' data' =>
      cases hevent
      exact hwrites
    | map | copy | unmap | signal => cases hevent
  exact ⟨Handoff.carries_step h.clients hline (Handoff.steps_of_step hstep),
    written_traffic h.clients h.written, h.pipes⟩

/-- A line of the server, or of Windows, writes nothing. -/
theorem Carried.of_same (h : s.Carried P) (hclients : s'.clients = s.clients)
    (htraffic : s'.traffic.written = s.traffic.written)
    (hchans : ∀ i, (s'.chans i).written = (s.chans i).written) : s'.Carried P where
  clients := by rw [hclients]; exact h.clients
  written := by rw [htraffic]; exact h.written
  pipes := fun i => by rw [hchans i]; exact h.pipes i

theorem carried_setChan (h : s.Carried P) {i : Fin n} {ch : Channel}
    (hch : ∀ m ∈ ch.written, P m.text) : (s.setChan i ch).Carried P where
  clients := h.clients
  written := h.written
  pipes := (Function.forall_update_iff _ fun _ (ch : Channel) =>
    ∀ m ∈ ch.written, P m.text).mpr ⟨hch, fun j _ => h.pipes j⟩

theorem transfer_written {ch ch' : Channel} {capacity errorCode : Nat} {data : List Byte}
    (h : ch.transfer capacity = some (errorCode, data, ch')) : ch'.written = ch.written := by
  unfold Channel.transfer at h
  split at h
  · cases h
  · split at h
    · cases h
      rfl
    · cases h
      rfl

theorem carried_pipes {e : SystemEvent C W n} (h : s.Carried P) (hwrites : Writes P e)
    (hs : s.pipeStep e = some s') : s'.Carried P := by
  unfold pipeStep at hs
  split at hs
  · rename_i i
    split at hs
    · cases hs
      exact carried_setChan h (h.pipes i)
    · cases hs
  · rename_i i m
    split at hs
    · cases hs
      refine carried_setChan h fun m' hm' => ?_
      rcases List.mem_append.mp hm' with hm' | hm'
      · exact h.pipes i m' hm'
      · rw [List.mem_singleton.mp hm']
        exact hwrites
    · cases hs
  · rename_i i
    split at hs
    · cases hs
      exact carried_setChan h (h.pipes i)
    · cases hs
  · split at hs
    · split at hs
      · cases hs
        exact h.of_same rfl rfl fun _ => rfl
      · cases hs
    · cases hs
  · rename_i i k
    split at hs
    · cases hs
    · split at hs
      · split at hs
        · cases hs
        · cases hs
          exact h.of_same rfl rfl fun _ => rfl
      · split at hs
        · cases hs
        · rename_i htransfer
          cases hs
          have hchan := carried_setChan (i := i) h (by
            rw [transfer_written htransfer]
            exact h.pipes i)
          exact hchan.of_same rfl rfl fun _ => rfl
  · split at hs
    · cases hs
    · obtain ⟨op, -, rfl⟩ := Option.map_eq_some_iff.mp hs
      exact h.of_same rfl rfl fun _ => rfl
  · cases hs

theorem carried_worker {e : SystemEvent C W n} (h : s.Carried P) (hs : s.workerStep e = some s') :
    s'.Carried P := by
  unfold workerStep at hs
  split at hs
  · split at hs
    · obtain ⟨-, hs⟩ := Option.ite_none_right_eq_some.mp hs
      cases hs
      exact h.of_same rfl rfl fun _ => rfl
    · cases hs
  · split at hs
    · obtain ⟨-, hs⟩ := Option.ite_none_right_eq_some.mp hs
      cases hs
      exact h.of_same rfl rfl fun _ => rfl
    · cases hs
  · split at hs
    · cases hs
      exact h.of_same rfl rfl fun _ => rfl
    · cases hs
  · -- `service`
    split at hs
    · cases hs
      exact h.of_same rfl rfl fun _ => rfl
    · cases hs
  · -- the terminator, or an exception of `at`
    split at hs
    · split at hs
      · dsimp only at hs
        split at hs
        · cases hs
          exact h.of_same rfl rfl fun _ => rfl
        · cases hs
          exact h.of_same rfl rfl fun _ => rfl
      · cases hs
        exact h.of_same rfl rfl fun _ => rfl
    · cases hs
  · -- `handleClientMessg`
    split at hs
    · split at hs
      · cases hs
        exact h.of_same rfl rfl fun _ => rfl
      · cases hs
    · cases hs
  · split at hs
    · split at hs
      · obtain ⟨-, hs⟩ := Option.ite_none_left_eq_some.mp hs
        cases hs
        exact h.of_same rfl rfl fun _ => rfl
      · cases hs
        exact h.of_same rfl rfl fun _ => rfl
    · cases hs
  · cases hs

theorem carried_waiter {build : Build} {e : SystemEvent C W n} (h : s.Carried P)
    (hs : s.waiterStep build e = some s') : s'.Carried P := by
  rcases waiterStep_cases hs with ⟨write, rfl⟩ | ⟨write, rfl⟩ | ⟨waiter, running, -, rfl⟩
  · exact h.of_same rfl rfl fun _ => rfl
  · exact h.of_same rfl rfl fun _ => rfl
  · exact h.of_same rfl rfl fun _ => rfl

theorem carried_stop {build : Build} {e : SystemEvent C W n} (h : s.Carried P)
    (hs : s.stopStep build e = some s') : s'.Carried P := by
  rcases stopStep_cases hs with ⟨pc, -, rfl⟩ | ⟨pc, rfl⟩ | ⟨pipeServer, pc, running, -, rfl⟩
  · exact h.of_same rfl rfl fun _ => rfl
  · exact h.of_same rfl rfl fun _ => rfl
  · exact h.of_same rfl rfl fun _ => rfl

theorem carried_shared {build : Build} {v : Fin W} {line : SharedLine} (h : s.Carried P)
    (hs : s.sharedStep build v line = some s') : s'.Carried P := by
  unfold sharedStep at hs
  split at hs
  · obtain ⟨h', hstep, rfl⟩ := Option.map_eq_some_iff.mp hs
    refine h.of_same (sharedFrame hstep).clients ?_ fun _ => rfl
    cases line <;> rfl
  · cases hs

theorem carried_step {build : Build} {e : SystemEvent C W n} (h : s.Carried P)
    (hwrites : Writes P e) (hs : step build s e = some s') : s'.Carried P := by
  rcases step_cases hs with ⟨i, line, rfl, hs⟩ |
    ⟨-, hs | hs | rfl | hs | ⟨v, line, -, hs⟩ | hs⟩
  · exact carried_client h hwrites hs
  · exact carried_pipes h hwrites hs
  · exact carried_waiter h hs
  · exact h.of_same rfl rfl fun _ => rfl
  · exact carried_worker h hs
  · exact carried_shared h hs
  · exact carried_stop h hs

theorem carried_always (build : Build) {es : List (SystemEvent C W n)}
    (hwrites : ∀ e ∈ es, Writes P e) :
    (machine build C W n).Always (Carried P) (init C W n) es := by
  refine Machine.always_of_eachStep (I := Carried P) (Q := fun _ e => Writes P e) (fun _ h => h)
    (fun s e s' h hs hwrites => ?_) carried_init (Machine.eachStep_of_forall_mem hwrites)
  exact carried_step h hwrites hs

/-! ## Delivery -/

/-- Both transports hand over what the clients wrote, in order: the mapping the first
ones of all writes, each pipe the first ones of its client. -/
structure EndToEnd (s : Task6System C W n) : Prop where
  sharedMemory : s.traffic.handled <+: s.traffic.written
  pipes : ∀ i, s.pipeHandled i <+: (s.chans i).written.map ClientMessg.text
  handled : (∀ messg ∈ s.traffic.handled, messg = helloWorld) ∧
    ∀ i, ∀ messg ∈ s.pipeHandled i, messg = helloWorld

/-- One text over and over leaves itself in the mapping. -/
theorem textsAfter_constant {size : Nat} {text : List Byte} (hnul : (0 : Byte) ∉ text)
    (hsize : text.length ≤ size) {written : List (List Byte)}
    (hall : ∀ data ∈ written, data = text) :
    textsAfter (List.replicate size 0) written = written := by
  have hlengths : written.Pairwise fun a b => a.length ≤ b.length :=
    List.pairwise_of_forall_mem_list fun a ha b hb => by
      rw [hall a ha, hall b hb]
  exact (Handoff.textsAfter_eq_iff (t := []) List.not_mem_nil (Nat.zero_le size) fun data hd => by
    rw [hall data hd]
    exact ⟨hnul, hsize⟩).mpr ⟨fun _ _ => Nat.zero_le _, hlengths⟩

/-- **End to end**: with the program's own clients, any number of them on either
transport, whatever fails and in whatever order all of them move, each text that
reaches `handleClientMessg` is the text of the client that wrote it. -/
theorem system_endToEnd (build clientBuild : Build) (C W n : Nat)
    (es : List (SystemEvent C W n))
    (hclients : ∀ e ∈ es, Writes (Task6Client.HasToSend clientBuild) e) :
    (machine build C W n).Always EndToEnd (init C W n) es := by
  have hall := (carried_always build hclients).and
    ((sequential_always build C W n es).and (watched_always build C W n es))
  refine hall.mono fun s ⟨hcarried, hseq, t, hshow, hwatched⟩ => ?_
  have htexts : textsAfter (Handoff.zeros (config build)) s.traffic.written =
      s.traffic.written :=
    textsAfter_constant (by decide) (show helloWorld.length ≤ dataBufferSize by decide)
      fun data hd => Task6Client.hasToSend_iff.mp (hcarried.written data hd)
  have hshared : s.traffic.handled <+: s.traffic.written := htexts ▸ hseq.inOrder
  have hpipes (i : Fin n) : s.pipeHandled i <+: (s.chans i).written.map ClientMessg.text :=
    (delivered_of_shows hshow hwatched i).inOrder fun m hm => by
      rw [Task6Client.hasToSend_iff.mp (hcarried.pipes i m hm)]
      decide
  refine ⟨hshared, hpipes, fun messg hm => ?_, fun i messg hm => ?_⟩
  · exact Task6Client.hasToSend_iff.mp (hcarried.written messg (hshared.subset hm))
  · obtain ⟨m, hwritten, rfl⟩ := List.mem_map.mp ((hpipes i).subset hm)
    exact Task6Client.hasToSend_iff.mp (hcarried.pipes i m hwritten)

theorem helloWorld_noNul : (0 : Byte) ∉ helloWorld := by decide

/-- What `service` says of the read of `"Hello world!"`. -/
def received : AsyncResult := ⟨0, .read, Win32.errorSuccess, 12, .connected, false⟩

/-- A client writes to the pipe, and the worker has read it. -/
def untilReceived : List (SystemEvent 1 1 1) :=
  [.connect ⟨0, Nat.zero_lt_one⟩ ioPending, .openPipe ⟨0, Nat.zero_lt_one⟩,
    .write ⟨0, Nat.zero_lt_one⟩ ⟨helloWorld, helloWorld_noNul⟩,
    .complete ⟨0, Nat.zero_lt_one⟩ 0, .dequeue ⟨0, Nat.zero_lt_one⟩, .check ⟨0, Nat.zero_lt_one⟩,
    .service ⟨0, Nat.zero_lt_one⟩ ioPending, .restart ⟨0, Nat.zero_lt_one⟩ ioPending,
    .complete ⟨0, Nat.zero_lt_one⟩ 0, .dequeue ⟨0, Nat.zero_lt_one⟩, .check ⟨0, Nat.zero_lt_one⟩,
    .service ⟨0, Nat.zero_lt_one⟩ ioPending]

/-- The worker handles it; then a client writes to the mapping, and it handles that. -/
def behindReceived : List (SystemEvent 1 1 1) :=
  [.handle ⟨0, Nat.zero_lt_one⟩, .restart ⟨0, Nat.zero_lt_one⟩ ioPending] ++
    [ClientLine.writeData .object0 helloWorld, .map true, .copy, .unmap true, .signal true].map
      (.client ⟨0, Nat.zero_lt_one⟩) ++
    [.waiterWake, .waiterPost true, .dequeue ⟨0, Nat.zero_lt_one⟩, .check ⟨0, Nat.zero_lt_one⟩] ++
    [SharedLine.getData, .map (some dataBufferSize), .copy, .unmap true, .signal true,
      .finish].map (.shared ⟨0, Nat.zero_lt_one⟩)

/-- A client of each kind. -/
def twoClients : List (SystemEvent 1 1 1) :=
  untilReceived ++ .terminate ⟨0, Nat.zero_lt_one⟩ :: behindReceived

theorem system_endToEnd_twoClients :
    ((machine .release 1 1 1).exec (init 1 1 1) twoClients).map (fun s =>
        (s.traffic.handled, s.pipeHandled ⟨0, Nat.zero_lt_one⟩)) =
          some ([helloWorld], [helloWorld]) ∧
      (machine .release 1 1 1).Always EndToEnd (init 1 1 1) twoClients := by
  refine ⟨?_, system_endToEnd .release .debug 1 1 1 twoClients ?_⟩
  · obtain ⟨s, hs, hrun, hpc, hbuffer, hrest⟩ : ∃ s,
        (machine .release 1 1 1).exec (init 1 1 1) untilReceived = some s ∧
        s.running = true ∧ s.workers ⟨0, Nat.zero_lt_one⟩ = .pipeTask (.serviced received) ∧
        s.pipeSvBuffers ⟨0, Nat.zero_lt_one⟩ =
          overwrite (List.replicate dataBufferSize 0) helloWorld ∧
        ((machine .release 1 1 1).exec
            { s.setWorker ⟨0, Nat.zero_lt_one⟩ (.pipeTask (.terminated received)) with
              pipeSvBuffers := Function.update s.pipeSvBuffers ⟨0, Nat.zero_lt_one⟩
                ((s.pipeSvBuffers ⟨0, Nat.zero_lt_one⟩).set 12 0) } behindReceived).map (fun s =>
          (s.traffic.handled, s.pipeHandled ⟨0, Nat.zero_lt_one⟩)) =
            some ([helloWorld], [helloWorld]) :=
      ⟨_, rfl, rfl, rfl, rfl, by decide +kernel⟩
    have hfits : received.bytesTransferred < (s.pipeSvBuffers ⟨0, Nat.zero_lt_one⟩).length := by
      rw [hbuffer, length_received (by decide)]
      decide
    rw [twoClients, Machine.exec_append, hs, Option.bind_some, Machine.exec_cons,
      step_terminate .release hrun hpc Nat.zero_lt_one hfits, Option.bind_some]
    exact hrest
  · -- only the two clients write
    simp [twoClients, untilReceived, behindReceived, Writes, Task6Client.hasToSend_iff]

end Task6System

end Task6
