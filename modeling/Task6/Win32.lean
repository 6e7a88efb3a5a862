import Mathlib.Tactic.TypeStar

/-!
# The Win32 vocabulary of the program

Error codes and wait results as the SDK defines them, what a caller sees of a
failing call (`BOOL` and `GetLastError`), and the exceptions the program throws.
-/

namespace Task6

/-- A `DWORD`: an error code, a wait result or a byte count. -/
abbrev DWORD := Nat

namespace Win32

def errorSuccess : DWORD := 0
def errorFileNotFound : DWORD := 2
def errorBrokenPipe : DWORD := 109
def errorMoreData : DWORD := 234
def errorPipeConnected : DWORD := 535
def errorOperationAborted : DWORD := 995
def errorIoIncomplete : DWORD := 996
def errorIoPending : DWORD := 997
def errorNotFound : DWORD := 1168

def waitObject0 : DWORD := 0
def waitTimeout : DWORD := 258
def waitFailed : DWORD := 0xFFFFFFFF

end Win32

/-- What a call that reports through `GetLastError` gives its caller. -/
structure CallResult where
  bResult : Bool
  lastError : DWORD
  deriving DecidableEq, Repr

/-- What `WaitForSingleObject` answers: the object was signalled (and an
auto-reset event is reset), the time ran out, or the call failed. -/
inductive WaitResult where
  | object0
  | timeout
  | failed (lastError : DWORD)
  deriving DecidableEq, Repr

/-- The exceptions of the program: `SystemException` carries an error code, the
standard ones their text; `outOfRange` is what `at` throws. -/
inductive Exn where
  | system (errorCode : DWORD)
  | invalidArgument (what : String)
  | logicError (what : String)
  | runtimeError (what : String)
  | outOfRange
  deriving DecidableEq, Repr

end Task6
