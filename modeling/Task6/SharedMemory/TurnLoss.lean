import Task6.SharedMemory.Turn

/-!
# The turn on the error paths

`writeData` and `getData` take the turn before their first call that can fail
and give it back at their last line; there is no path between that returns it.
`turn_kept_iff` says which outcomes lose it. `writeData_exec` and `getData_exec`
tie the lines of the hand-off to the calls they belong to.
-/

namespace Task6

namespace Handoff

variable {C W : Nat}

/-- **The turn, exactly**: along any schedule the turn exists in every state if
and only if each step keeps it. -/
theorem turn_kept_iff (cfg : HandoffConfig) (C W : Nat) (es : List (HandoffEvent C W)) :
    (machine cfg C W).Always (fun s => s.turn = 1) (init cfg C W) es ↔
      (machine cfg C W).EachStep (KeepsTurn cfg) (init cfg C W) es := by
  refine Machine.always_iff_eachStep (I := fun s : Handoff C W => s.turn = 1) (fun _ h => h) ?_ ?_
    (turn_init cfg C W) es
  · intro s e s' hone hs hk
    have hone : s.turn = 1 := hone
    have hstep := (step_turn (Nat.le_of_eq hone) hs).1 hk
    show s'.turn = 1
    omega
  · intro s e s' hone hs hk h
    have hone : s.turn = 1 := hone
    have hstep := (step_turn (Nat.le_of_eq hone) hs).2 hk
    have h : s'.turn = 1 := h
    omega

/-- A client writes nine bytes into a mapping of eight: no view is granted. -/
def oversizedWrite : List (HandoffEvent 1 1) :=
  [.writeData ⟨0, Nat.zero_lt_one⟩ .object0 (List.replicate 9 120),
    .clientMap ⟨0, Nat.zero_lt_one⟩ false]

/-- In a debug build the assertion ends the client with the turn in its hands. -/
theorem turn_lost :
    ¬ (machine ⟨.debug, 8⟩ 1 1).Always (fun s => s.turn = 1) (init ⟨.debug, 8⟩ 1 1)
      oversizedWrite := by
  obtain ⟨s, hs, hturn⟩ : ∃ s, (machine ⟨.debug, 8⟩ 1 1).exec (init ⟨.debug, 8⟩ 1 1)
      oversizedWrite = some s ∧ s.turn = 0 := ⟨_, rfl, by decide⟩
  refine Machine.not_always_of_exec hs fun hone => ?_
  rw [hturn] at hone
  cases hone

/-! ## The lines and the calls -/

/-- The lines of one `writeData` whose wait succeeds. -/
def writeLines (i : Fin C) (mapped : Bool) (os : WriteAnswers) (data : List Byte) :
    List (HandoffEvent C W) :=
  [.writeData i .object0 data, .clientMap i mapped, .clientCopy i, .clientUnmap i os.unmapped,
    .clientSignal i os.signalled]

/-- Where `writeData` leaves its client. -/
def ClientPc.after : Outcome Bool → ClientPc
  | .died => .died
  | _ => .idle

/-- The state after a whole `writeData` of client `i`. -/
def afterWrite (s : Handoff C W) (i : Fin C) (r : WriteResult) : Handoff C W :=
  { s with
    svToCl := false
    clients := Function.update s.clients i (ClientPc.after r.outcome)
    memory := r.memory
    clToSv := if r.signalled then some s.writes else s.clToSv
    writes := if r.signalled then s.writes + 1 else s.writes }

/-- A client alone executes the lines of `writeData` up to its end, and leaves
what the call leaves. -/
theorem writeData_exec {cfg : HandoffConfig} {s : Handoff C W} {i : Fin C}
    (hidle : s.clients i = .idle) (hturn : s.svToCl = true)
    (hsize : s.memory.length = cfg.bufferSize) {os : WriteAnswers} (hwait : os.wait = .object0)
    (data : List Byte) :
    ∃ es, es <+: writeLines i (os.hasView s.memory data) os data ∧
      (machine cfg C W).exec s es
        = some (s.afterWrite i (writeData cfg.build os s.memory data)) := by
  have hview : ¬ (os.hasView s.memory data = true ∧ cfg.bufferSize < data.length) := by
    rintro ⟨hgranted, hlarge⟩
    unfold WriteAnswers.hasView at hgranted
    have hfit := of_decide_eq_true (Bool.and_eq_true_iff.mp hgranted).2
    omega
  unfold writeData
  rw [hwait]
  generalize os.hasView s.memory data = mapped at hview ⊢
  -- the schedule ends with the first line that ends the process
  by_cases hm : cfg.build.asserts mapped = true
  · cases hc : memcpy mapped s.memory data with
    | none =>
      refine ⟨(writeLines i mapped os data).take 3, List.take_prefix _ _, ?_⟩
      simp [writeLines, machine, step, clientStep, setClient, afterWrite, ClientPc.after, hidle,
        hturn, hview, hm, hc]
    | some memory' =>
      by_cases hu : cfg.build.asserts os.unmapped = true
      · refine ⟨writeLines i mapped os data, List.prefix_refl _, ?_⟩
        cases hsig : os.signalled with
        | true =>
          simp [writeLines, machine, step, clientStep, setClient, afterWrite, ClientPc.after,
            hidle, hturn, hview, hm, hc, hu, hsig]
        | false =>
          by_cases ha : cfg.build.asserts false = true
          · simp [writeLines, machine, step, clientStep, setClient, afterWrite, ClientPc.after,
              hidle, hturn, hview, hm, hc, hu, hsig, ha]
          · simp [writeLines, machine, step, clientStep, setClient, afterWrite, ClientPc.after,
              hidle, hturn, hview, hm, hc, hu, hsig, ha]
      · refine ⟨(writeLines i mapped os data).take 4, List.take_prefix _ _, ?_⟩
        simp [writeLines, machine, step, clientStep, setClient, afterWrite, ClientPc.after, hidle,
          hturn, hview, hm, hc, hu]
  · refine ⟨(writeLines i mapped os data).take 2, List.take_prefix _ _, ?_⟩
    simp [writeLines, machine, step, clientStep, setClient, afterWrite, ClientPc.after, hidle,
      hturn, hview, hm]

/-- The lines of one `getData`. -/
def getLines (w : Fin W) (os : GetAnswers) : List (HandoffEvent C W) :=
  [.getMap w os.readable, .getCopy w, .getUnmap w os.unmapped, .getSignal w os.signalled]

/-- Where `getData` leaves its worker: behind it, with the exception logged, or
nowhere. -/
def WorkerPc.after : Outcome Nat → WorkerPc
  | .returned recv => .handling recv
  | .threw _ => .idle
  | .died => .exited

/-- The state after a whole `getData` of worker `w`. -/
def afterRead (s : Handoff C W) (w : Fin W) (r : GetResult) : Handoff C W :=
  { s with
    svToCl := s.svToCl || r.signalled
    workers := Function.update s.workers w (WorkerPc.after r.outcome)
    sharedMemoryBuffer := r.buffer
    shMemBufferCS := match r.outcome with
      | .threw _ => false
      | _ => s.shMemBufferCS
    running := match r.outcome with
      | .died => false
      | _ => s.running }

/-- A worker alone executes the lines of `getData` up to its end, and leaves
what the call leaves. -/
theorem getData_exec {cfg : HandoffConfig} {s : Handoff C W} {w : Fin W} {size : Nat}
    (hpc : s.workers w = .mapping size) (hrun : s.running = true) {os : GetAnswers}
    (hview : ∀ readable, os.readable = some readable → cfg.requested size ≤ readable) :
    ∃ es, es <+: getLines w os ∧
      (machine cfg C W).exec s es = some (s.afterRead w
        (getData cfg.build os cfg.bufferSize s.memory s.sharedMemoryBuffer size)) := by
  unfold getData
  cases hr : os.readable with
  | none =>
    refine ⟨(getLines w os).take 1, List.take_prefix _ _, ?_⟩
    simp [getLines, machine, step, workerStep, release, setWorker, afterRead, WorkerPc.after, hpc,
      hrun, hr]
  | some readable =>
    have hgranted : ¬ readable < cfg.requested size := Nat.not_lt.mpr (hview readable hr)
    cases hc : copyText cfg.build cfg.bufferSize (viewOf s.memory readable) s.sharedMemoryBuffer
        size with
    | none =>
      refine ⟨(getLines w os).take 2, List.take_prefix _ _, ?_⟩
      simp [getLines, machine, step, workerStep, crash, setWorker, afterRead, WorkerPc.after, hpc,
        hrun, hr, hgranted, hc]
    | some copied =>
      obtain ⟨sharedMemSize, buffer'⟩ := copied
      by_cases hu : cfg.build.asserts os.unmapped = true
      · refine ⟨getLines w os, List.prefix_refl _, ?_⟩
        by_cases ha : cfg.build.asserts os.signalled = true
        · by_cases hlong : size < sharedMemSize
          · simp [getLines, machine, step, workerStep, release, setWorker, afterRead,
              WorkerPc.after, hpc, hrun, hr, hgranted, hc, hu, ha, hlong]
          · simp [getLines, machine, step, workerStep, setWorker, afterRead, WorkerPc.after, hpc,
              hrun, hr, hgranted, hc, hu, ha, hlong]
        · simp [getLines, machine, step, workerStep, crash, setWorker, afterRead, WorkerPc.after,
            hpc, hrun, hr, hgranted, hc, hu, ha]
      · refine ⟨(getLines w os).take 3, List.take_prefix _ _, ?_⟩
        simp [getLines, machine, step, workerStep, crash, setWorker, afterRead, WorkerPc.after,
          hpc, hrun, hr, hgranted, hc, hu]

/-! ## The calls -/

/-- A `writeData` that took the turn gives it on when Windows grants its view
(or, in a release build, when there is nothing to copy) and sets the event. -/
theorem writeData_signalled_iff {build : Build} {os : WriteAnswers} (hwait : os.wait = .object0)
    (memory data : List Byte) :
    (writeData build os memory data).signalled = true ↔
      (os.hasView memory data = true ∨ build = .release ∧ data = []) ∧
        (build = .release ∨ os.unmapped = true) ∧ os.signalled = true := by
  unfold writeData
  rw [hwait]
  generalize os.hasView memory data = mapped
  cases mapped with
  | true =>
    simp only [Build.asserts_true, memcpy, if_true, true_or, true_and]
    rw [← asserts_iff]
    by_cases hu : build.asserts os.unmapped = true
    · cases hs : os.signalled with
      | true => simp [hu]
      | false =>
        by_cases ha : build.asserts false = true
        · simp [hu, ha]
        · simp [hu, ha]
    · simp [hu]
  | false =>
    by_cases hd : data = []
    · cases build with
      | debug => simp [Build.asserts]
      | release => simp [Build.asserts, memcpy, hd]
    · by_cases hm : build.asserts false = true
      · simp [hm, memcpy, hd]
      · simp [hm, hd]

/-- A `getData` gives the turn back when its view is granted, the text fits its
copy, and Windows sets the event. -/
theorem getData_signalled_iff {build : Build} {os : GetAnswers} {bufferSize size : Nat}
    {memory buffer : List Byte} :
    (getData build os bufferSize memory buffer size).signalled = true ↔
      ∃ readable, os.readable = some readable ∧
        Copies bufferSize size (viewOf memory readable) ∧
        (build = .release ∨ os.unmapped = true) ∧ os.signalled = true := by
  unfold getData
  cases hr : os.readable with
  | none => simp
  | some readable =>
    simp only [Option.some.injEq, exists_eq_left']
    have hcopies : (copyText build bufferSize (viewOf memory readable) buffer size).isSome ↔
        Copies bufferSize size (viewOf memory readable) := copyText_isSome_iff
    rw [← hcopies, ← asserts_iff]
    cases hc : copyText build bufferSize (viewOf memory readable) buffer size with
    | none => simp
    | some copied =>
      obtain ⟨sharedMemSize, buffer'⟩ := copied
      by_cases hu : build.asserts os.unmapped = true
      · cases hs : os.signalled with
        | true =>
          by_cases hlong : size < sharedMemSize
          · simp [hu, hlong]
          · simp [hu, hlong]
        | false =>
          by_cases ha : build.asserts false = true
          · by_cases hlong : size < sharedMemSize
            · simp [hu, ha, hlong]
            · simp [hu, ha, hlong]
          · simp [hu, ha]
      · simp [hu]

end Handoff

end Task6
