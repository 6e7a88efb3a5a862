import Mathlib.Data.BitVec

/-!
# `PipeState.h`: the state of a pipe as bits

The program keeps the state of a pipe instance in one `int` and takes it apart
with bit operators. `Phase` lists the combinations an `InPipeServer` instance
can be in; everything above works with phases and only this file with bits.
-/

namespace Task6

/-- `enum class PipeState : int`. -/
abbrev PipeState := BitVec 32

namespace PipeState

def unconnected : PipeState := 0x000#32
def connected : PipeState := 0x001#32
def disconnecting : PipeState := 0x002#32

def flagConnecting : PipeState := 0x010#32
def flagReading : PipeState := 0x020#32
def flagWriting : PipeState := 0x040#32

def unconnectedConnecting : PipeState := unconnected ||| flagConnecting
def connectedReading : PipeState := connected ||| flagReading
def disconnectingConnecting : PipeState := disconnecting ||| flagConnecting
def disconnectingReading : PipeState := disconnecting ||| flagReading

/-- `(int)state & (int)flag`, as the condition of an `if`. -/
def carries (state flag : PipeState) : Bool := state &&& flag != 0#32

end PipeState

/-- What an `InPipeServer` instance is doing. -/
inductive Phase where
  | unconnected
  | connecting
  | connected
  | reading
  | disconnectingConnecting
  | disconnectingReading
  deriving DecidableEq, Repr

namespace Phase

def bits : Phase → PipeState
  | unconnected => PipeState.unconnected
  | connecting => PipeState.unconnectedConnecting
  | connected => PipeState.connected
  | reading => PipeState.connectedReading
  | disconnectingConnecting => PipeState.disconnectingConnecting
  | disconnectingReading => PipeState.disconnectingReading

/-- An asynchronous operation is marked in the state. -/
def flagged : Phase → Bool
  | unconnected | connected => false
  | connecting | reading | disconnectingConnecting | disconnectingReading => true

theorem carries_flags (p : Phase) :
    (p.bits.carries PipeState.flagConnecting || p.bits.carries PipeState.flagReading)
      = p.flagged := by
  cases p <;> decide

end Phase

end Task6
