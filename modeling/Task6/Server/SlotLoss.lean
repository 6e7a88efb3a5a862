import Task6.Server.PipeLife

/-!
# Lost pipes

A pipe that is in nobody's hand stays so: no packet will ever come for it, and
no worker will touch it again. `slotsServed_iff` says which steps lose one: the
connect loop when a client was there first, a read that fails at once (the
client has closed its end: the exception is only logged), and the packet of a
read that was refused with `ERROR_MORE_DATA`.
-/

namespace Task6

open Win32

namespace Task6Server

variable {n : Nat} {workers : Nat} {s s' : Task6Server n}

/-- Every pipe that the connect loop has reached is served. -/
def SlotsServed (s : Task6Server n) : Prop :=
  ∀ i : Fin n, i.val < s.connectLoop → (s.pipe i).Served

/-- Behind an event on a pipe, the pipe is served if it was, or the loop has
just reached it, and the event keeps it. -/
theorem served_step {e : ServerEvent n} (hw : Watched s) (hs : step workers s e = some s') :
    ((s'.pipe e.index).Served ↔
        ((s.pipe e.index).Served ∨ loopStep e.call = 1) ∧ (s.pipe e.index).KeepsSlot e.call) ∧
      ∀ j, j ≠ e.index → s'.pipe j = s.pipe j := by
  obtain ⟨-, p, hp, rfl⟩ := step_some hw.wired hs
  obtain ⟨h, ph, hl, -⟩ := hw.life e.index
  obtain ⟨h', ph', hl', hheld⟩ := ServerPipe.life_step hl hp
  constructor
  · show ((s.put e.index p).pipe e.index).Served ↔ _
    rw [pipe_put_self, hl'.held.served_iff, hl.held.served_iff]
    exact hheld
  · intro j hj
    exact pipe_put_other s hj p

/-- The event is one of a pipe that the loop has reached, or its connect. -/
theorem reached_of_event {e : ServerEvent n} (hw : Watched s)
    (hs : step workers s e = some s') (hkeeps : ¬ (s.pipe e.index).KeepsSlot e.call) :
    e.index.val < s'.connectLoop := by
  obtain ⟨hpermit, p, hp, rfl⟩ := step_some hw.wired hs
  obtain ⟨h, ph, hl, hfresh⟩ := hw.life e.index
  show e.index.val < s.connectLoop + loopStep e.call
  cases hc : e.call with
  | connect r =>
    rw [hc] at hpermit
    have hidx : e.index.val = s.connectLoop := of_decide_eq_true hpermit
    show e.index.val < s.connectLoop + 1
    omega
  | service k r =>
    rw [hc] at hp
    obtain ⟨packet, rfl, -⟩ := ServerPipe.life_service hl hp
    by_contra hlt
    cases hfresh (Nat.not_lt.mp hlt)
  | restart k r =>
    rw [hc] at hp
    obtain ⟨result, rfl, -⟩ := ServerPipe.life_restart hl hp
    by_contra hlt
    cases hfresh (Nat.not_lt.mp hlt)
  | openPipe | write _ | close | complete _ | abort _ _ | take _ | terminate _ | handle _ =>
    rw [hc] at hkeeps
    exact absurd trivial hkeeps

/-- **No pipe is lost, exactly**: for any number of pipes and workers and any
schedule, every pipe that the connect loop has reached is served in every state
of the run if and only if each step keeps its pipe. -/
theorem slotsServed_iff (workers n : Nat) (es : List (ServerEvent n)) :
    (machine workers n).Always SlotsServed (init n) es ↔
      (machine workers n).EachStep (fun s e => (s.pipe e.index).KeepsSlot e.call) (init n) es := by
  refine Machine.always_iff_eachStep (I := fun s : Task6Server n => Watched s ∧ SlotsServed s)
    (fun _ h => h.2) ?_ ?_ ⟨watched_init n, fun i hi => absurd hi (Nat.not_lt_zero _)⟩ es
  · rintro s e s' ⟨hw, hserved⟩ hs hkeeps
    refine ⟨watched_step hw hs, fun i hi => ?_⟩
    obtain ⟨hself, hother⟩ := served_step hw hs
    obtain ⟨hpermit, p, hp, hnew⟩ := step_some hw.wired hs
    have hloop : s'.connectLoop = s.connectLoop + loopStep e.call := by rw [hnew]
    by_cases hie : i = e.index
    · subst hie
      refine hself.mpr ⟨?_, hkeeps⟩
      by_cases hold : e.index.val < s.connectLoop
      · exact .inl (hserved _ hold)
      · -- only the connect loop moves the bound
        refine .inr ?_
        rcases loopStep_cases hpermit with hzero | ⟨hone, -⟩
        · omega
        · exact hone
    · rw [hother i hie]
      refine hserved i ?_
      by_contra hold
      rcases loopStep_cases hpermit with hzero | ⟨hone, hidx⟩
      · omega
      · exact hie (Fin.ext (by omega))
  · rintro s e s' ⟨hw, -⟩ hs hkeeps hserved
    -- the pipe of the event is reached, so it would have to be served
    have hnow := hserved e.index (reached_of_event hw hs hkeeps)
    exact hkeeps ((served_step hw hs).1.mp hnow).2

/-- A pipe in nobody's hand stays there, once the connect loop is behind it. -/
theorem lost_step {e : ServerEvent n} (hw : Watched s) {i : Fin n}
    (hi : i.val < s.connectLoop) (hlost : ¬ (s.pipe i).Served)
    (hs : step workers s e = some s') : ¬ (s'.pipe i).Served := by
  obtain ⟨hself, hother⟩ := served_step hw hs
  by_cases hie : i = e.index
  · subst hie
    intro hserved
    obtain ⟨hold | hconn, -⟩ := hself.mp hserved
    · exact hlost hold
    · obtain ⟨hpermit, -⟩ := step_some hw.wired hs
      rcases loopStep_cases hpermit with hzero | ⟨-, hidx⟩
      · omega
      · omega
  · rw [hother i hie]
    exact hlost

/-- **A lost pipe is lost for the rest of the run.** -/
theorem lost_forever {es : List (ServerEvent n)} (hw : Watched s) {i : Fin n}
    (hi : i.val < s.connectLoop) (hlost : ¬ (s.pipe i).Served)
    (hs : (machine workers n).exec s es = some s') : ¬ (s'.pipe i).Served := by
  refine (Machine.exec_invariant (M := machine workers n)
    (I := fun s => Watched s ∧ i.val < s.connectLoop ∧ ¬ (s.pipe i).Served) ?_
    ⟨hw, hi, hlost⟩ hs).2.2
  rintro s e s' ⟨hw, hi, hlost⟩ hs
  refine ⟨watched_step hw hs, ?_, lost_step hw hi hlost hs⟩
  obtain ⟨-, p, -, rfl⟩ := step_some hw.wired hs
  exact Nat.lt_of_lt_of_le hi (Nat.le_add_right _ _)

/-- A client opens the pipe and closes it again: the read in flight fails, and
so does the next `ReadFile`, at once. -/
def clientLeaves : List (ServerEvent 1) :=
  [⟨0, .connect ⟨false, errorIoPending⟩⟩, ⟨0, .openPipe⟩, ⟨0, .complete 0⟩, ⟨0, .take 0⟩,
    ⟨0, .service 0 ⟨true, 0⟩⟩, ⟨0, .restart 0 ⟨false, errorIoPending⟩⟩, ⟨0, .close⟩,
    ⟨0, .abort 0 errorBrokenPipe⟩, ⟨0, .take 0⟩, ⟨0, .service 0 ⟨true, 0⟩⟩,
    ⟨0, .restart 0 ⟨false, errorBrokenPipe⟩⟩]

/-- The pipe is lost to every later client. -/
theorem slotsServed_broken : ¬ (machine 1 1).Always SlotsServed (init 1) clientLeaves := by
  obtain ⟨s, hs, hloop, hout, htasks⟩ : ∃ s, (machine 1 1).exec (init 1) clientLeaves = some s ∧
      s.connectLoop = 1 ∧ (s.pipe 0).pipe.outstanding = [] ∧ (s.pipe 0).tasks = [] :=
    ⟨_, rfl, rfl, rfl, rfl⟩
  refine Machine.not_always_of_exec hs fun hserved => ?_
  rcases hserved 0 (by rw [hloop]; decide) with hp | hp
  · exact hp hout
  · exact hp htasks

end Task6Server

end Task6
