import Task6.CRuntime
import Task6.Library.Machine
import Task6.Library.Pool

/-!
# The message log of `Task6Server`

`pushMessg` puts a message into the queue under `logCS` and then releases the
semaphore `hLogSem`; `popMessg` waits for the semaphore and then takes the front
of the queue under `logCS`. Queue and semaphore are never updated together, and
`popMessg` does not look whether the queue is empty.

`log_exactlyOnce`: any threads may be anywhere in the two functions, the log is
an exactly-once queue. The invariant `Accounted` counts, for the messages in the
queue, the permits of the semaphore and the threads that are about to add or to
use one.
-/

namespace Task6

open Win32

/-- `MAXLONG`, the maximum count of `hLogSem`. -/
def maxLong : Nat := 0x7FFFFFFF

/-- Where a thread is in the two functions. `messg` is what it pushes, or what
its string holds that `popMessg` is to set; `failed` is the end of the process,
at the assertion of `pushMessg` or at the `front()` of an empty queue. -/
inductive LogCaller where
  | outside
  | emplacing (messg : String)
  | releasing
  | waiting (messg : String)
  | popping (messg : String)
  | returned (result : Bool) (messg : String)
  | threw (ex : Exn) (messg : String)
  | failed
  deriving DecidableEq, Repr

namespace LogCaller

/-- The thread may call. -/
def isFree : LogCaller → Bool
  | outside | returned .. | threw .. => true
  | emplacing _ | releasing | waiting _ | popping _ | failed => false

/-- A message is in the queue and its permit is still to be released. -/
def owesRelease : LogCaller → Nat
  | releasing => 1
  | outside | emplacing _ | waiting _ | popping _ | returned .. | threw .. | failed => 0

/-- A permit was taken and its message is still in the queue. -/
def owesPop : LogCaller → Nat
  | popping _ => 1
  | outside | emplacing _ | releasing | waiting _ | returned .. | threw .. | failed => 0

/-- The branches of `popMessg` behind a wait that was not satisfied. -/
def afterWait (dwResult lastError : DWORD) (messg : String) : LogCaller :=
  if dwResult = waitTimeout then .returned false messg
  else if dwResult = waitFailed then .threw (.system lastError) messg
  else .threw (.runtimeError "Unexpected result from the wait function.") messg

end LogCaller

/-- The queue, the count of `hLogSem` and the threads. `pushed` and `popped` are
ghosts: the messages put into the queue, and those taken out, in order. -/
structure MessageLog (n : Nat) where
  log : List String
  logSem : Nat
  threads : Fin n → LogCaller
  pushed : List String
  popped : List String

inductive LogAction where
  | pushMessg (messg : String)
  | emplace
  | releaseSemaphore
  | popMessg (messg : String)
  | wait (dwResult lastError : DWORD)
  | pop
  deriving DecidableEq, Repr

structure LogEvent (n : Nat) where
  thread : Fin n
  action : LogAction
  deriving DecidableEq, Repr

namespace MessageLog

variable {n : Nat}

/-- `CreateSemaphoreA(NULL, 0, MAXLONG, NULL)`. -/
def init (n : Nat) : MessageLog n := ⟨[], 0, fun _ => .outside, [], []⟩

def move (s : MessageLog n) (i : Fin n) (t : LogCaller) : MessageLog n :=
  { s with threads := Function.update s.threads i t }

/-- `log.emplace(std::move(messg))`, under the lock. -/
def emplace (s : MessageLog n) (i : Fin n) (messg : String) : MessageLog n :=
  { s.move i .releasing with log := s.log ++ [messg], pushed := s.pushed ++ [messg] }

/-- `ReleaseSemaphore(hLogSem, 1, NULL)` fails at the maximum count, and the
result is asserted. -/
def releaseSemaphore (build : Build) (s : MessageLog n) (i : Fin n) : MessageLog n :=
  if s.logSem < maxLong then { s.move i .outside with logSem := s.logSem + 1 }
  else if build.asserts false then s.move i .outside else s.move i .failed

/-- `log.front()` and `log.pop()`, under the lock. -/
def popFront (s : MessageLog n) (i : Fin n) : MessageLog n :=
  match s.log with
  | [] => s.move i .failed
  | messg :: rest =>
    { s.move i (.returned true messg) with log := rest, popped := s.popped ++ [messg] }

def step (build : Build) (s : MessageLog n) (e : LogEvent n) : Option (MessageLog n) :=
  match e.action, s.threads e.thread with
  | .pushMessg messg, t => if t.isFree then some (s.move e.thread (.emplacing messg)) else none
  | .emplace, .emplacing messg => some (s.emplace e.thread messg)
  | .releaseSemaphore, .releasing => some (s.releaseSemaphore build e.thread)
  | .popMessg messg, t => if t.isFree then some (s.move e.thread (.waiting messg)) else none
  | .wait dwResult lastError, .waiting messg =>
    if dwResult = waitObject0 then
      if 0 < s.logSem then
        some { s.move e.thread (.popping messg) with logSem := s.logSem - 1 }
      else none
    else some (s.move e.thread (.afterWait dwResult lastError messg))
  | .pop, .popping _ => some (s.popFront e.thread)
  | _, _ => none

def machine (build : Build) (n : Nat) : Machine (MessageLog n) (LogEvent n) :=
  ⟨init n, step build⟩

/-- What a step can be, and where its thread is before it. -/
theorem step_cases {build : Build} {s s' : MessageLog n} {e : LogEvent n}
    (h : step build s e = some s') :
    (∃ t, (s.threads e.thread).owesRelease = 0 ∧ (s.threads e.thread).owesPop = 0 ∧
        t.owesRelease = 0 ∧ t.owesPop = 0 ∧ t ≠ .failed ∧ s' = s.move e.thread t) ∨
    (∃ messg, s.threads e.thread = .emplacing messg ∧ s' = s.emplace e.thread messg) ∨
    (s.threads e.thread = .releasing ∧ s' = s.releaseSemaphore build e.thread) ∨
    (∃ messg, s.threads e.thread = .waiting messg ∧ 0 < s.logSem ∧
        s' = { s.move e.thread (.popping messg) with logSem := s.logSem - 1 }) ∨
    (∃ messg, s.threads e.thread = .popping messg ∧ s' = s.popFront e.thread) := by
  obtain ⟨i, action⟩ := e
  have hfree : ∀ {t : LogCaller}, t.isFree = true → t.owesRelease = 0 ∧ t.owesPop = 0 := by
    intro t ht
    cases t <;> cases ht <;> exact ⟨rfl, rfl⟩
  unfold step at h
  dsimp only at h
  split at h
  · split at h
    · rename_i hf
      cases h
      exact .inl ⟨_, (hfree hf).1, (hfree hf).2, rfl, rfl, by simp, rfl⟩
    · cases h
  · rename_i hi
    cases h
    exact .inr (.inl ⟨_, hi, rfl⟩)
  · rename_i hi
    cases h
    exact .inr (.inr (.inl ⟨hi, rfl⟩))
  · split at h
    · rename_i hf
      cases h
      exact .inl ⟨_, (hfree hf).1, (hfree hf).2, rfl, rfl, by simp, rfl⟩
    · cases h
  · rename_i messg hi
    split at h
    · split at h
      · rename_i hpos
        cases h
        exact .inr (.inr (.inr (.inl ⟨_, hi, hpos, rfl⟩)))
      · cases h
    · cases h
      refine .inl ⟨_, by rw [hi]; rfl, by rw [hi]; rfl, ?_, ?_, ?_, rfl⟩
      all_goals
        unfold LogCaller.afterWait
        split
        · first | rfl | simp
        · split <;> first | rfl | simp
  · rename_i hi
    cases h
    exact .inr (.inr (.inr (.inr ⟨_, hi, rfl⟩)))
  · cases h

/-! ## The accounts -/

/-- The threads between `emplace` and the release of the semaphore. -/
def releasers (s : MessageLog n) : Nat := Pool.total LogCaller.owesRelease s.threads

/-- The threads between a successful wait and their `pop`. -/
def poppers (s : MessageLog n) : Nat := Pool.total LogCaller.owesPop s.threads

/-- What holds between the steps: the queue is as long as the semaphore and the
threads on their way say, the messages taken out and those still in the queue
are the messages put in, in that order, and no `front()` found the queue
empty. -/
structure Accounted (s : MessageLog n) : Prop where
  count : s.log.length = s.logSem + s.releasers + s.poppers
  order : s.popped ++ s.log = s.pushed
  nonempty : ∀ i messg, s.threads i = .popping messg → s.log ≠ []
  alive : ∀ i, s.threads i ≠ .failed

section Moves

variable {s : MessageLog n} {i : Fin n} {t : LogCaller}

theorem releasers_move :
    (s.move i t).releasers + (s.threads i).owesRelease = s.releasers + t.owesRelease :=
  Pool.total_update ..

theorem poppers_move : (s.move i t).poppers + (s.threads i).owesPop = s.poppers + t.owesPop :=
  Pool.total_update ..

theorem owesRelease_le : (s.threads i).owesRelease ≤ s.releasers := Pool.weight_le_total ..

theorem owesPop_le : (s.threads i).owesPop ≤ s.poppers := Pool.weight_le_total ..

theorem move_self : (s.move i t).threads i = t := Function.update_self ..

theorem move_of_ne {j : Fin n} (hj : j ≠ i) : (s.move i t).threads j = s.threads j :=
  Function.update_of_ne hj ..

theorem alive_move (h : ∀ j, s.threads j ≠ .failed) (ht : t ≠ .failed) (j : Fin n) :
    (s.move i t).threads j ≠ .failed := by
  by_cases hj : j = i
  · rw [hj, move_self]
    exact ht
  · rw [move_of_ne hj]
    exact h j

/-- The counts alone keep a popper from an empty queue. -/
theorem nonempty_of_count (hcount : s.log.length = s.logSem + s.releasers + s.poppers)
    (messg : String) (hi : s.threads i = .popping messg) : s.log ≠ [] := by
  have hle : (s.threads i).owesPop ≤ s.poppers := owesPop_le
  rw [hi] at hle
  have hone : LogCaller.owesPop (.popping messg) = 1 := rfl
  intro hnil
  rw [hnil, List.length_nil] at hcount
  omega

end Moves

theorem accounted_init : Accounted (init n) := by
  refine { count := ?_, order := rfl, nonempty := fun i messg hi => ?_,
           alive := fun i hi => ?_ }
  · have hrel : (init n).releasers = 0 := Pool.total_eq_zero fun _ => rfl
    have hpop : (init n).poppers = 0 := Pool.total_eq_zero fun _ => rfl
    rw [hrel, hpop]
    rfl
  · cases hi
  · cases hi

/-- Every step keeps the accounts, as long as the semaphore has room. -/
theorem accounted_step {build : Build} {s s' : MessageLog n} {e : LogEvent n}
    (h : s.Accounted) (hroom : s.log.length < maxLong) (hs : step build s e = some s') :
    s'.Accounted := by
  obtain ⟨hcount, horder, -, halive⟩ := h
  obtain ⟨i, action⟩ := e
  rcases step_cases hs with ⟨t, hrel, hpop, htr, htp, hlive, rfl⟩ | ⟨messg, hi, rfl⟩ |
    ⟨hi, rfl⟩ | ⟨messg, hi, hpos, rfl⟩ | ⟨messg, hi, rfl⟩
  · -- a step that owes nothing before or after
    have hr := releasers_move (s := s) (i := i) (t := t)
    have hp := poppers_move (s := s) (i := i) (t := t)
    have hcount' : (s.move i t).log.length = (s.move i t).logSem + (s.move i t).releasers +
        (s.move i t).poppers := by
      show s.log.length = s.logSem + _ + _
      dsimp only at hrel hpop
      omega
    exact ⟨hcount', horder, fun j messg => nonempty_of_count hcount' messg,
      alive_move halive hlive⟩
  · -- the message is in the queue, its permit is owed
    dsimp only at hi
    have hr := releasers_move (s := s) (i := i) (t := .releasing)
    have hp := poppers_move (s := s) (i := i) (t := .releasing)
    have hcount' : (s.emplace i messg).log.length = (s.emplace i messg).logSem +
        (s.emplace i messg).releasers + (s.emplace i messg).poppers := by
      show (s.log ++ [messg]).length = s.logSem + (s.move i .releasing).releasers +
        (s.move i .releasing).poppers
      rw [hi] at hr hp
      simp only [LogCaller.owesRelease, LogCaller.owesPop] at hr hp
      rw [List.length_append, List.length_singleton]
      omega
    refine ⟨hcount', ?_, fun j messg => nonempty_of_count hcount' messg,
      alive_move halive (by simp)⟩
    show s.popped ++ (s.log ++ [messg]) = s.pushed ++ [messg]
    rw [← List.append_assoc, horder]
  · -- the permit is released: the message in the queue leaves room for it
    dsimp only at hi
    have hr := releasers_move (s := s) (i := i) (t := .outside)
    have hp := poppers_move (s := s) (i := i) (t := .outside)
    have hle : (s.threads i).owesRelease ≤ s.releasers := owesRelease_le
    rw [hi] at hr hp hle
    simp only [LogCaller.owesRelease, LogCaller.owesPop] at hr hp hle
    have hlt : s.logSem < maxLong := by omega
    unfold releaseSemaphore
    rw [if_pos hlt]
    have hcount' : s.log.length = s.logSem + 1 + (s.move i .outside).releasers +
        (s.move i .outside).poppers := by omega
    exact ⟨hcount', horder, fun j messg => nonempty_of_count hcount' messg,
      alive_move halive (by simp)⟩
  · -- a permit is taken: the message it stands for is owed
    dsimp only at hi
    have hr := releasers_move (s := s) (i := i) (t := .popping messg)
    have hp := poppers_move (s := s) (i := i) (t := .popping messg)
    rw [hi] at hr hp
    simp only [LogCaller.owesRelease, LogCaller.owesPop] at hr hp
    have hcount' : s.log.length = s.logSem - 1 + (s.move i (.popping messg)).releasers +
        (s.move i (.popping messg)).poppers := by omega
    exact ⟨hcount', horder, fun j messg => nonempty_of_count hcount' messg,
      alive_move halive (by simp)⟩
  · -- the message is taken out
    dsimp only at hi
    have hne := nonempty_of_count hcount messg hi
    cases hlog : s.log with
    | nil => exact absurd hlog hne
    | cons front rest =>
      have hr := releasers_move (s := s) (i := i) (t := .returned true front)
      have hp := poppers_move (s := s) (i := i) (t := .returned true front)
      rw [hi] at hr hp
      simp only [LogCaller.owesRelease, LogCaller.owesPop] at hr hp
      rw [hlog, List.length_cons] at hcount
      unfold popFront
      rw [hlog]
      have hcount' : rest.length = s.logSem + (s.move i (.returned true front)).releasers +
          (s.move i (.returned true front)).poppers := by omega
      refine ⟨hcount', ?_, fun j messg => nonempty_of_count hcount' messg,
        alive_move halive (by simp)⟩
      show (s.popped ++ [front]) ++ rest = s.pushed
      rw [← horder, hlog, List.append_assoc, List.singleton_append]

/-! ## A `popMessg` without a message -/

/-- The thread's `popMessg` has returned false or thrown, and its string holds
`messg`. -/
def EndedWithout (t : LogCaller) (messg : String) : Prop :=
  t = .returned false messg ∨ ∃ ex, t = .threw ex messg

/-- A `popMessg` that returns false or throws leaves queue and string as they
were: the call itself changes nothing, the thread then only waits, whatever the
others do, and the step that ends the call changes nothing either. -/
structure PopFailsCleanly (build : Build) (n : Nat) : Prop where
  enters : ∀ (s s' : MessageLog n) i messg, step build s ⟨i, .popMessg messg⟩ = some s' →
    s' = s.move i (.waiting messg)
  stays : ∀ (s s' : MessageLog n) i es, (∀ e ∈ es, e.thread ≠ i) →
    (machine build n).exec s es = some s' → s'.threads i = s.threads i
  ends : ∀ (s s' : MessageLog n) i action messg, step build s ⟨i, action⟩ = some s' →
    EndedWithout (s'.threads i) messg →
      s.threads i = .waiting messg ∧ s' = s.move i (s'.threads i)

theorem step_thread_of_ne {build : Build} {s s' : MessageLog n} {e : LogEvent n}
    (hs : step build s e = some s') {i : Fin n} (hi : i ≠ e.thread) :
    s'.threads i = s.threads i := by
  rcases step_cases hs with ⟨t, -, -, -, -, -, rfl⟩ | ⟨messg, -, rfl⟩ | ⟨-, rfl⟩ |
    ⟨messg, -, -, rfl⟩ | ⟨messg, -, rfl⟩
  · exact move_of_ne hi
  · exact move_of_ne hi
  · unfold releaseSemaphore
    split
    · exact move_of_ne hi
    · split <;> exact move_of_ne hi
  · exact move_of_ne hi
  · unfold popFront
    split <;> exact move_of_ne hi

theorem exec_thread_of_ne {build : Build} {s s' : MessageLog n} {i : Fin n}
    {es : List (LogEvent n)} (hes : ∀ e ∈ es, e.thread ≠ i)
    (h : (machine build n).exec s es = some s') : s'.threads i = s.threads i := by
  induction es generalizing s with
  | nil =>
    cases h
    rfl
  | cons e es ih =>
    obtain ⟨t, ht, hrest⟩ := Machine.exec_cons_some.mp h
    have hstep : step build s e = some t := ht
    rw [ih (fun f hf => hes f (List.mem_cons_of_mem _ hf)) hrest]
    exact step_thread_of_ne hstep (hes e (List.mem_cons_self ..)).symm

/-- Behind the release the thread is outside, or the process is dead. -/
theorem releaseSemaphore_thread {build : Build} {s : MessageLog n} {i : Fin n} :
    (s.releaseSemaphore build i).threads i = .outside ∨
      (s.releaseSemaphore build i).threads i = .failed := by
  unfold releaseSemaphore
  split
  · exact .inl move_self
  · split
    · exact .inl move_self
    · exact .inr move_self

/-- `popMessg` returns true once it is past its wait, or finds the queue empty. -/
theorem popFront_thread {s : MessageLog n} {i : Fin n} :
    (s.popFront i).threads i = .failed ∨
      ∃ messg, (s.popFront i).threads i = .returned true messg := by
  unfold popFront
  split
  · exact .inl move_self
  · exact .inr ⟨_, move_self⟩

theorem popMessg_ends {build : Build} {s s' : MessageLog n} {i : Fin n} {action : LogAction}
    {messg : String} (hs : step build s ⟨i, action⟩ = some s')
    (hend : EndedWithout (s'.threads i) messg) :
    s.threads i = .waiting messg ∧ s' = s.move i (s'.threads i) := by
  unfold step at hs
  dsimp only at hs
  split at hs
  · split at hs
    · cases hs
      rw [move_self] at hend
      rcases hend with h | ⟨ex, h⟩ <;> cases h
    · cases hs
  · cases hs
    rw [show (s.emplace i _).threads i = .releasing from move_self] at hend
    rcases hend with h | ⟨ex, h⟩ <;> cases h
  · cases hs
    rcases releaseSemaphore_thread  with ht | ht
    · rw [ht] at hend
      rcases hend with h | ⟨ex, h⟩ <;> cases h
    · rw [ht] at hend
      rcases hend with h | ⟨ex, h⟩ <;> cases h
  · split at hs
    · cases hs
      rw [move_self] at hend
      rcases hend with h | ⟨ex, h⟩ <;> cases h
    · cases hs
  · rename_i dwResult lastError own hi
    split at hs
    · split at hs
      · cases hs
        rw [show ({ s.move i (.popping own) with logSem := s.logSem - 1 } :
          MessageLog n).threads i = .popping own from move_self] at hend
        rcases hend with h | ⟨ex, h⟩ <;> cases h
      · cases hs
    · cases hs
      rw [move_self] at hend ⊢
      refine ⟨?_, rfl⟩
      rw [hi]
      -- every branch behind the wait keeps the string
      unfold LogCaller.afterWait at hend
      split at hend
      · rcases hend with h | ⟨ex, h⟩ <;> cases h
        rfl
      · split at hend
        · rcases hend with h | ⟨ex, h⟩ <;> cases h
          rfl
        · rcases hend with h | ⟨ex, h⟩ <;> cases h
          rfl
  · cases hs
    rcases popFront_thread with ht | ⟨front, ht⟩
    · rw [ht] at hend
      rcases hend with h | ⟨ex, h⟩ <;> cases h
    · rw [ht] at hend
      rcases hend with h | ⟨ex, h⟩ <;> cases h
  · cases hs

theorem popFailsCleanly (build : Build) (n : Nat) : PopFailsCleanly build n where
  enters := by
    intro s s' i messg hs
    unfold step at hs
    dsimp only at hs
    split at hs
    · cases hs
      rfl
    · cases hs
  stays := fun s s' i es hes h => exec_thread_of_ne hes h
  ends := fun s s' i action messg hs hend => popMessg_ends hs hend

/-- **The log is an exactly-once queue**: for any number of threads and any
interleaving of their steps in which the queue stays below the maximum count of
the semaphore, the accounts are right between any two steps; and a `popMessg`
that returns false or throws changes nothing. -/
theorem log_exactlyOnce (build : Build) (n : Nat) (es : List (LogEvent n))
    (hroom : (machine build n).Always (fun s => s.log.length < maxLong) (init n) es) :
    (machine build n).Always Accounted (init n) es ∧ PopFailsCleanly build n := by
  refine ⟨?_, popFailsCleanly build n⟩
  refine Machine.always_of_eachStep (I := Accounted) (fun _ h => h) ?_ accounted_init
    (Machine.eachStep_of_always hroom)
  intro s e s' h hs hlt
  exact accounted_step h hlt hs

/-- One thread pushes while another already waits. -/
def pushAndPop (pusher popper : Fin n) : List (LogEvent n) :=
  [⟨popper, .popMessg ""⟩, ⟨pusher, .pushMessg "started"⟩, ⟨pusher, .emplace⟩,
    ⟨pusher, .releaseSemaphore⟩, ⟨popper, .wait waitObject0 0⟩, ⟨popper, .pop⟩]

theorem log_exactlyOnce_pushAndPop :
    (machine .debug 2).Always Accounted (init 2) (pushAndPop 0 1) ∧
      PopFailsCleanly .debug 2 := by
  refine log_exactlyOnce .debug 2 (pushAndPop 0 1) ?_
  refine ⟨by decide, fun _ h => ?_⟩
  cases h
  refine ⟨by decide, fun _ h => ?_⟩
  cases h
  refine ⟨by decide, fun _ h => ?_⟩
  cases h
  refine ⟨by decide, fun _ h => ?_⟩
  cases h
  refine ⟨by decide, fun _ h => ?_⟩
  cases h
  refine ⟨by decide, fun _ h => ?_⟩
  cases h
  show _ < maxLong
  decide

end MessageLog

end Task6
