import Task6.Client.WriteReports

/-!
# Writes left over from a closed connection

All the writes of an `OutPipeClient` share one OVERLAPPED, and `close` does not
wait for the one in flight: the client can be opened again and start the next
write on top of it. Beside the run stands a history variable, `Leftovers`: the
writes that `close` or `service` gave up while they were unfinished, and the
write that signalled the event last. `writesAlone_iff` says which runs keep the
writes apart.
-/

namespace Task6

open Win32

/-- The history of the OVERLAPPED. -/
structure Leftovers where
  abandoned : List Nat
  signaller : Nat
  deriving DecidableEq, Repr

namespace Leftovers

def start : Leftovers := ⟨[], 0⟩

/-- `close` and `service` give up what is in flight; a write that finishes, be it
at once, signals the event. -/
def record (build : Build) (s : OutPipeRun) (c : OutPipeCall) (g : Leftovers) : Leftovers :=
  match c with
  | .openPipe _ _ => g
  | .write _ r =>
    if s.pipe.canWrite && r.bResult then { g with signaller := s.pipe.started + 1 } else g
  | .service wait =>
    if s.pipe.service build wait = none then g
    else { g with abandoned := g.abandoned ++ s.pipe.inFlight }
  | .close => { g with abandoned := g.abandoned ++ s.pipe.inFlight }
  | .finish k _ => { g with signaller := s.pipe.inFlight.getD k g.signaller }

end Leftovers

namespace OutPipeRun

variable {build : Build}

/-- A client in use, with the history of its OVERLAPPED. -/
def watched (build : Build) : Machine (OutPipeRun × Leftovers) OutPipeCall :=
  (machine build).observed Leftovers.start (Leftovers.record build)

/-- The event is signalled for the write started last, which has finished then:
no leftover is taken for it. -/
def SignalledByLast (s : OutPipeRun × Leftovers) : Prop :=
  s.1.pipe.client.writeOverlapped.signalled = true →
    s.2.signaller = s.1.pipe.started ∧ s.1.pipe.last.isSome = true

/-- The invariant of all runs. -/
structure Abandons (s : OutPipeRun × Leftovers) : Prop where
  coherent : s.1.pipe.Coherent
  givenUp : ¬ s.1.pipe.InPhase .writing → ∀ w ∈ s.1.pipe.inFlight, w ∈ s.2.abandoned

/-- The invariant of the runs that wait for their leftovers: only the write
started last is in flight, and only it has signalled the event. -/
structure Alone (s : OutPipeRun × Leftovers) : Prop where
  abandons : Abandons s
  single : s.1.pipe.inFlight.length ≤ 1
  newest : ∀ w ∈ s.1.pipe.inFlight, w = s.1.pipe.started
  signalled : SignalledByLast s

end OutPipeRun

end Task6
