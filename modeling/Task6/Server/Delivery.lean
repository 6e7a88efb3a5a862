import Task6.Server.PipeLife

/-!
# Pipe delivery

What a client that writes only messages that fit a read can rely on: its
messages are handled whole, once and in order, and the entry of `pipeSvBuffers`
belongs to one worker or to one read at a time. Both are read off the invariant
of the pipe.
-/

namespace Task6

open Win32 NulText

namespace ServerPipe

variable {p : ServerPipe} {h : Holder} {ph : Phase}

/-- A busy worker is the only one, and nothing is outstanding. -/
theorem At.of_mem_tasks {t : WorkerTask} (hheld : p.At h) (ht : t ∈ p.tasks) :
    h = .busy t := by
  cases h with
  | busy t' =>
    rw [hheld.tasks] at ht
    rw [List.mem_singleton.mp ht]
  | nobody | flight op | queued packet | taken packet =>
    rw [hheld.tasks] at ht
    cases ht

/-- What was handled is an initial part of what the client wrote. -/
theorem LifeAt.handled_prefix (hl : p.LifeAt h ph) (hshort : p.Short) :
    p.handled <+: p.chan.written.map ClientMessg.text :=
  ⟨h.inHand p.buffer ++ p.chan.unread, by
    rw [← List.append_assoc]
    exact (hl.clean hshort).delivered⟩

/-- The place of the terminator lies in the buffer. -/
theorem LifeAt.room {t : WorkerTask} (hl : p.LifeAt (.busy t) ph) :
    t.result.bytesTransferred < p.buffer.length := by
  have hbytes : t.result.bytesTransferred ≤ readCapacity := hl.fits.2.2
  rw [hl.size, dataBufferSize_eq]
  omega

end ServerPipe

namespace Task6Server

variable {n : Nat} {workers : Nat} {s : Task6Server n}

/-- The connection on pipe `i`, seen from outside. A worker uses the buffer its
result names, from `service` to its next read. -/
structure Delivered (s : Task6Server n) (i : Fin n) : Prop where
  inOrder : s.handled i <+: (s.chans i).written.map ClientMessg.text
  -- whichever pipe the worker's packet came from
  alone : ∀ j, ∀ t ∈ s.tasks j, t.result.instanceIndex = i →
    j = i ∧ s.tasks i = [t] ∧ (s.sys.pipes i).pending = []
  inBounds : ∀ j, ∀ t ∈ s.tasks j, t.result.instanceIndex = i →
    t.result.bytesTransferred < (s.pipeSvBuffers i).length

theorem delivered_of_watched (hw : Watched s) {i : Fin n} (hshort : (s.pipe i).Short) :
    Delivered s i := by
  obtain ⟨h, ph, hl, -⟩ := hw.life i
  -- a result names the pipe its packet came from
  have hown : ∀ j, ∀ t ∈ s.tasks j, t.result.instanceIndex = i → j = i ∧ h = .busy t := by
    intro j t ht hindex
    have hji : j = i := Fin.ext ((hw.wired.2 j t ht).symm.trans hindex)
    subst hji
    exact ⟨rfl, hl.held.of_mem_tasks ht⟩
  refine { inOrder := hl.handled_prefix hshort, alone := ?_, inBounds := ?_ }
  · intro j t ht hindex
    obtain ⟨rfl, rfl⟩ := hown j t ht hindex
    exact ⟨rfl, hl.held.tasks, hl.held.pending⟩
  · intro j t ht hindex
    obtain ⟨rfl, rfl⟩ := hown j t ht hindex
    exact hl.room

/-- **Exact delivery**: for any number of pipes and workers and any schedule, in
every state of the run each connection whose client wrote only messages of at
most `readCapacity` bytes is delivered. -/
theorem delivered_always (workers n : Nat) (es : List (ServerEvent n)) :
    (machine workers n).Always
      (fun s => ∀ i, (∀ m ∈ (s.chans i).written, m.text.length ≤ readCapacity) → Delivered s i)
      (init n) es := by
  refine Machine.always_of_invariant (I := Watched) ?_ ?_ (watched_init n) es
  · intro s hw i hshort
    exact delivered_of_watched hw hshort
  · intro s e s' hw hs
    exact watched_step hw hs

end Task6Server

end Task6
