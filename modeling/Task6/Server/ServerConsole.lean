import Task6.Library.Machine
import Task6.Win32

/-!
# `ServerConsole::run` and the server it owns

The console loop of `wmain`, from the construction of the `Task6Server` to its
destruction. The console owns the server through a `unique_ptr`, and it is a
local of the `try` block in `wmain`: an exception that leaves `run` destroys both
on its way to the handler. `Task6Server` has no destructor of its own, so the
worker threads must have exited by then, which only `stopAndWait` sees to.
`safe_iff` says which runs are safe.

What is printed, and the calls that can only fail for want of memory, are left
out.
-/

namespace Task6

open Win32

/-- The `Task6Server` of the console: how many of its worker threads run, and
whether `stopAndWait` has returned. -/
inductive OwnedServer where
  | absent
  | alive (running : Nat) (stopped : Bool)
  | destroyed (running : Nat) (stopped : Bool)
  deriving DecidableEq, Repr

/-- The next line of `run`; `left` is behind the `try` block of `wmain`, with the
exception caught there. -/
inductive ConsolePc where
  | constructing
  | startingTimer
  | checkingTimer (timerStart : Int)
  | popping (timerStart : Int)
  | prompting
  | stopping
  | returned
  | left (ex : Option Exn)
  deriving DecidableEq, Repr

structure ServerConsole where
  pc : ConsolePc
  server : OwnedServer
  deriving DecidableEq, Repr

/-- What decides a step: the outcome of `make_unique<Task6Server>()` (with the
number of threads it started), the clock, the outcome of `popMessg`, what is
read as a command (nothing at the end of the input), and the worker threads. -/
inductive ConsoleEvent where
  | construct (r : Except Exn Nat)
  | time (now : Int)
  | popMessg (r : Except Exn Bool)
  | command (c : Option Char)
  | stopAndWait
  | leave
  | workerExits

namespace OwnedServer

def destroy : OwnedServer → OwnedServer
  | absent => absent
  | alive running stopped => destroyed running stopped
  | destroyed running stopped => destroyed running stopped

/-- One of the running threads exits. -/
def workerExits : OwnedServer → Option OwnedServer
  | alive (running + 1) stopped => some (alive running stopped)
  | destroyed (running + 1) stopped => some (destroyed running stopped)
  | absent | alive 0 _ | destroyed 0 _ => none

/-- Destroyed only after `stopAndWait`, and with no thread left. -/
def Safe : OwnedServer → Prop
  | destroyed running stopped => running = 0 ∧ stopped = true
  | absent | alive _ _ => True

end OwnedServer

namespace ServerConsole

def init : ServerConsole := ⟨.constructing, .absent⟩

/-- `run` holds a server whose threads were started and not stopped. -/
def inLoop : ConsolePc → Bool
  | .startingTimer | .checkingTimer _ | .popping _ | .prompting | .stopping => true
  | .constructing | .returned | .left _ => false

/-- An exception leaves `run`, and with it the `try` block. -/
def throwing (s : ServerConsole) (ex : Exn) : ServerConsole := ⟨.left (some ex), s.server.destroy⟩

/-- `(int)(timerStart + 10 - std::time(nullptr)) * 1000`, where both the cast and
the product are `int`s of 32 bits. -/
def popTimeout (timerStart now : Int) : Int :=
  ((timerStart + 10 - now).bmod 0x100000000 * 1000).bmod 0x100000000

/-- What `command` holds: it was set to 0 before. -/
def commandChar (c : Option Char) : Char := c.getD (Char.ofNat 0)

def step (s : ServerConsole) (e : ConsoleEvent) : Option ServerConsole :=
  match s.pc, e with
  | .constructing, .construct (.ok running) => some ⟨.startingTimer, .alive running false⟩
  | .constructing, .construct (.error ex) => some (s.throwing ex)
  | .startingTimer, .time now => some { s with pc := .checkingTimer now }
  | .checkingTimer timerStart, .time now =>
    some { s with
      pc := if popTimeout timerStart now < 0 then .prompting else .popping timerStart }
  | .popping timerStart, .popMessg (.ok true) => some { s with pc := .checkingTimer timerStart }
  | .popping _, .popMessg (.ok false) => some { s with pc := .prompting }
  | .popping _, .popMessg (.error ex) => some (s.throwing ex)
  | .prompting, .command c =>
    if commandChar c = '0' then some { s with pc := .stopping }
    else if commandChar c = '1' then some { s with pc := .startingTimer }
    else some (s.throwing (.runtimeError "Invalid command."))
  | .stopping, .stopAndWait =>
    match s.server with
    | .alive 0 _ => some ⟨.returned, .alive 0 true⟩
    | _ => none
  | .returned, .leave => some ⟨.left none, s.server.destroy⟩
  | _, .workerExits => s.server.workerExits.map fun server => { s with server := server }
  | _, _ => none

def machine : Machine ServerConsole ConsoleEvent := ⟨init, step⟩

/-- The server is not destroyed under running threads. -/
def Safe (s : ServerConsole) : Prop := s.server.Safe

/-- `popMessg` does not throw, and the command read is one of the two offered. -/
def Accepted : ConsoleEvent → Prop
  | .popMessg (.error _) => False
  | .command c => c = some '0' ∨ c = some '1'
  | .construct _ | .time _ | .popMessg (.ok _) | .stopAndWait | .leave | .workerExits => True

theorem commandChar_eq {c : Option Char} {d : Char} (hd : d ≠ Char.ofNat 0)
    (h : commandChar c = d) : c = some d := by
  cases c with
  | none => exact absurd h.symm hd
  | some c => exact congrArg some h

/-- The invariant: what the server is at each line of `run`. -/
structure Owns (s : ServerConsole) : Prop where
  constructing : s.pc = .constructing → s.server = .absent
  inLoop : inLoop s.pc = true → ∃ running, s.server = .alive running false
  returned : s.pc = .returned → s.server = .alive 0 true
  safe : s.Safe

theorem owns_init : init.Owns where
  constructing := fun _ => rfl
  inLoop := fun h => by cases h
  returned := fun h => by cases h
  safe := trivial

/-- A step within the loop keeps the server. -/
theorem Owns.of_loop {s : ServerConsole} {pc : ConsolePc} (h : s.Owns)
    (hs : ServerConsole.inLoop s.pc = true) (hpc : ServerConsole.inLoop pc = true) :
    Owns { s with pc := pc } := by
  refine { constructing := fun hc => ?_, inLoop := fun _ => h.inLoop hs,
           returned := fun hc => ?_, safe := h.safe }
  · rw [show pc = .constructing from hc] at hpc
    cases hpc
  · rw [show pc = .returned from hc] at hpc
    cases hpc

theorem Owns.of_left {server : OwnedServer} {ex : Option Exn} (h : server.Safe) :
    Owns ⟨.left ex, server⟩ where
  constructing := fun h => by cases h
  inLoop := fun h => by cases h
  returned := fun h => by cases h
  safe := h

/-- A worker thread that exits leaves the server as safe as it was. -/
theorem owns_workerExits {s : ServerConsole} {server : OwnedServer} (h : s.Owns)
    (hs : s.server.workerExits = some server) : Owns { s with server := server } := by
  obtain ⟨hcon, hloop, hret, hsafe⟩ := h
  refine { constructing := fun hpc => ?_, inLoop := fun hpc => ?_, returned := fun hpc => ?_,
           safe := ?_ }
  · rw [hcon hpc] at hs
    cases hs
  · obtain ⟨running, hrun⟩ := hloop hpc
    rw [hrun] at hs
    cases running with
    | zero => cases hs
    | succ k =>
      cases hs
      exact ⟨k, rfl⟩
  · rw [hret hpc] at hs
    cases hs
  · unfold Safe at hsafe ⊢
    cases hserver : s.server with
    | absent =>
      rw [hserver] at hs
      cases hs
    | alive running stopped =>
      rw [hserver] at hs
      cases running with
      | zero => cases hs
      | succ k =>
        cases hs
        trivial
    | destroyed running stopped =>
      rw [hserver] at hs hsafe
      obtain ⟨rfl, -⟩ := hsafe
      cases hs

theorem owns_step (s : ServerConsole) (e : ConsoleEvent) (s' : ServerConsole) (h : s.Owns)
    (hs : step s e = some s') (hok : Accepted e) : s'.Owns := by
  unfold step at hs
  split at hs
  · cases hs
    exact { constructing := fun h => by cases h
            inLoop := fun _ => ⟨_, rfl⟩
            returned := fun h => by cases h
            safe := trivial }
  · rename_i hpc
    cases hs
    -- there is no server yet
    refine Owns.of_left ?_
    rw [h.constructing hpc]
    trivial
  · rename_i hpc
    cases hs
    exact h.of_loop (by rw [hpc]; rfl) rfl
  · rename_i hpc
    cases hs
    refine h.of_loop (by rw [hpc]; rfl) ?_
    split <;> rfl
  · rename_i hpc
    cases hs
    exact h.of_loop (by rw [hpc]; rfl) rfl
  · rename_i hpc
    cases hs
    exact h.of_loop (by rw [hpc]; rfl) rfl
  · exact absurd hok id
  · rename_i c hpc
    rcases hok with rfl | rfl
    · cases hs
      exact h.of_loop (by rw [hpc]; rfl) rfl
    · cases hs
      exact h.of_loop (by rw [hpc]; rfl) rfl
  · split at hs
    · cases hs
      exact { constructing := fun h => by cases h
              inLoop := fun h => by cases h
              returned := fun _ => rfl
              safe := trivial }
    · cases hs
  · rename_i hpc
    cases hs
    refine Owns.of_left ?_
    rw [h.returned hpc]
    exact ⟨rfl, rfl⟩
  · obtain ⟨server, hserver, rfl⟩ := Option.map_eq_some_iff.mp hs
    exact owns_workerExits h hserver
  · cases hs

/-- An exception out of the loop destroys a server that was not stopped. -/
theorem not_safe_throwing {s : ServerConsole} (h : s.Owns) (hpc : ServerConsole.inLoop s.pc = true)
    (ex : Exn) : ¬ (s.throwing ex).Safe := by
  obtain ⟨running, hrun⟩ := h.inLoop hpc
  intro hsafe
  unfold Safe throwing at hsafe
  rw [hrun] at hsafe
  obtain ⟨-, hstopped⟩ := hsafe
  cases hstopped

theorem not_safe_step (s : ServerConsole) (e : ConsoleEvent) (s' : ServerConsole) (h : s.Owns)
    (hs : step s e = some s') (hbad : ¬ Accepted e) : ¬ s'.Safe := by
  unfold step at hs
  split at hs
  · exact absurd trivial hbad
  · exact absurd trivial hbad
  · exact absurd trivial hbad
  · exact absurd trivial hbad
  · exact absurd trivial hbad
  · exact absurd trivial hbad
  · rename_i hpc
    cases hs
    exact not_safe_throwing h (by rw [hpc]; rfl) _
  · rename_i c hpc
    -- the command is neither '0' nor '1'
    split at hs
    · rename_i hzero
      exact absurd (.inl (commandChar_eq (by decide) hzero)) hbad
    · split at hs
      · rename_i hone
        exact absurd (.inr (commandChar_eq (by decide) hone)) hbad
      · cases hs
        exact not_safe_throwing h (by rw [hpc]; rfl) _
  · exact absurd trivial hbad
  · exact absurd trivial hbad
  · exact absurd trivial hbad
  · cases hs

/-- **Destroying the server, exactly**: along any run of the console, the server
is destroyed only when its threads have exited and `stopAndWait` has returned if
and only if `popMessg` never throws and every command read is '0' or '1'. -/
theorem safe_iff (es : List ConsoleEvent) :
    machine.Always Safe init es ↔ machine.EachStep (fun _ e => Accepted e) init es :=
  Machine.always_iff_eachStep (fun _ h => h.safe) owns_step not_safe_step owns_init es

/-- A console with two worker threads; the user answers the question with `y`. -/
def wrongCommand : List ConsoleEvent :=
  [.construct (.ok 2), .time 0, .time 0, .popMessg (.ok false), .command (some 'y')]

/-- The server is destroyed while both threads run. -/
theorem safe_broken : ¬ machine.Always Safe init wrongCommand := by
  obtain ⟨s, hs, hserver⟩ : ∃ s, machine.exec init wrongCommand = some s ∧
      s.server = .destroyed 2 false := ⟨_, rfl, rfl⟩
  refine Machine.not_always_of_exec hs fun hsafe => ?_
  unfold Safe at hsafe
  rw [hserver] at hsafe
  cases hsafe.1

end ServerConsole

end Task6
