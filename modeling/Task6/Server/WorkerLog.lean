import Task6.Library.Decimal
import Task6.Pipes.InPipeServer
import Task6.CRuntime

/-!
# What the workers put into the log

The lines that `WorkerThreadProc` passes to `pushMessg`, with the messages of the
exceptions in them. `text_injective`: a line of the log names its thread and says
what happened there, whatever a client or an exception has written into it.
-/

namespace Task6

open Win32 Decimal

/-- The texts that are not the program's own: what `FormatMessageA` finds for an
error code, if anything, and what the exception of `at` says. -/
structure SystemTexts where
  formatMessage : DWORD → Option String
  outOfRange : String

/-- `SystemException::getMessage`. -/
def SystemException.getMessage (texts : SystemTexts) (dwErrorCode : DWORD) : String :=
  let result :=
    match texts.formatMessage dwErrorCode with
    | none => "Failed to get the system error message."
    | some buffer => buffer
  result ++ " (error code " ++ toString dwErrorCode ++ ")"

/-- `what()`. -/
def Exn.what (texts : SystemTexts) : Exn → String
  | .system errorCode => SystemException.getMessage texts errorCode
  | .invalidArgument what | .logicError what | .runtimeError what => what
  | .outOfRange => texts.outOfRange

namespace Operation

/-- `op`; there is no third operation. -/
def text : Operation → String
  | connect => "connect"
  | read => "read"

end Operation

/-- What a worker has to say, as far as it is put into words. -/
inductive WorkerNews where
  | started
  | iocpFailed (what : String)
  | shutdown
  | operation (errorCode : DWORD) (zombie : Bool) (op : Operation) (index : Nat)
  | message (index : Nat) (messg : List Byte)
  | reconnecting (index : Nat)
  | reading (index : Nat)
  | sharedMemory
  | invalidPacket
  | caught (what : String)
  deriving DecidableEq

namespace WorkerNews

/-- `opType`. -/
def opType (errorCode : DWORD) (zombie : Bool) : String :=
  (if errorCode = errorSuccess then "successful" else "failed (" ++ toString errorCode ++ ")") ++
    (if zombie then " zombie" else "")

/-- The bytes of a message as characters of a string. -/
def ofBytes (messg : List Byte) : String := String.ofList (messg.map Char.ofUInt8)

/-- What is passed to `pushMessg`. -/
def text (thId : DWORD) : WorkerNews → String
  | started => "Thread " ++ toString thId ++ " started running."
  | iocpFailed what => "Iocp failed on thread " ++ toString thId ++ " with message: " ++ what
  | shutdown => "Thread " ++ toString thId ++ " shutdown."
  | operation errorCode zombie op index =>
    "Thread " ++ toString thId ++ " received a " ++ opType errorCode zombie ++ " pipe server " ++
      op.text ++ " operation for pipe instance " ++ toString index ++ "."
  | message index messg =>
    "Thread " ++ toString thId ++ " received from pipe " ++ toString index ++ " message: " ++
      ofBytes messg
  | reconnecting index =>
    "Thread " ++ toString thId ++ " began reconnecting pipe " ++ toString index
  | reading index => "Thread " ++ toString thId ++ " began reading from pipe " ++ toString index
  | sharedMemory => "Thread " ++ toString thId ++ " received data to the shared memory server."
  | invalidPacket => "Thread " ++ toString thId ++ " received an invalid iocp packet."
  | caught what =>
    "Thread " ++ toString thId ++ " caught an exception while managing an iocp packet: " ++ what

theorem ofBytes_injective : Function.Injective ofBytes := by
  intro m m' h
  refine List.map_injective_iff.mpr (fun a b hab => ?_) (String.ofList_injective h)
  have hval := congrArg Char.toNat hab
  exact UInt8.toNat_inj.mp hval

/-! ## The lines of the log -/

/-- Behind the blank that follows the number of the thread. -/
def behindThread : WorkerNews → List Char
  | started => "started running.".toList
  | iocpFailed what => "with message: ".toList ++ what.toList
  | shutdown => "shutdown.".toList
  | operation errorCode zombie op index =>
    "received a ".toList ++ ((opType errorCode zombie).toList ++ (" pipe server ".toList ++
      (op.text.toList ++ (" operation for pipe instance ".toList ++ (digits index ++ ['.'])))))
  | message index messg =>
    "received from pipe ".toList ++ (digits index ++ (" message: ".toList ++
      (ofBytes messg).toList))
  | reconnecting index => "began reconnecting pipe ".toList ++ digits index
  | reading index => "began reading from pipe ".toList ++ digits index
  | sharedMemory => "received data to the shared memory server.".toList
  | invalidPacket => "received an invalid iocp packet.".toList
  | caught what =>
    "caught an exception while managing an iocp packet: ".toList ++ what.toList

/-- In front of the number. -/
def inFront : WorkerNews → List Char
  | iocpFailed _ => "Iocp failed on thread ".toList
  | _ => "Thread ".toList

theorem toList_text (thId : DWORD) (news : WorkerNews) :
    (news.text thId).toList = news.inFront ++ (digits thId ++ ' ' :: news.behindThread) := by
  unfold text inFront behindThread
  cases news <;>
    simp only [String.toList_append, toList_toString, String.reduceToList, List.append_assoc,
      List.cons_append, List.nil_append]

/-! ## Reading a line -/

/-- The two beginnings of a line. -/
theorem inFront_cases (news : WorkerNews) :
    news.inFront = "Iocp failed on thread ".toList ∨ news.inFront = "Thread ".toList := by
  cases news with
  | iocpFailed what => exact .inl rfl
  | started | shutdown | operation _ _ _ _ | message _ _ | reconnecting _ | reading _
  | sharedMemory | invalidPacket | caught _ => exact .inr rfl

theorem inFront_append_inj {news news' : WorkerNews} {xs ys : List Char}
    (h : news.inFront ++ xs = news'.inFront ++ ys) : xs = ys := by
  rcases inFront_cases news with hn | hn <;> rcases inFront_cases news' with hn' | hn' <;>
    rw [hn, hn'] at h
  · exact List.append_cancel_left h
  · simp at h
  · simp at h
  · exact List.append_cancel_left h

/-- Which of the lines it is. -/
def kind : WorkerNews → Nat
  | started => 0
  | iocpFailed _ => 1
  | shutdown => 2
  | operation _ _ _ _ => 3
  | message _ _ => 4
  | reconnecting _ => 5
  | reading _ => 6
  | sharedMemory => 7
  | invalidPacket => 8
  | caught _ => 9

/-- How the lines begin behind the number, as far as is needed to tell them apart. -/
def opening : Nat → String
  | 0 => "started run"
  | 1 => "with messag"
  | 2 => "shutdown."
  | 3 => "received a "
  | 4 => "received fr"
  | 5 => "began recon"
  | 6 => "began readi"
  | 7 => "received da"
  | 8 => "received an"
  | _ => "caught an e"

theorem take_behindThread (news : WorkerNews) :
    news.behindThread.take 11 = (opening news.kind).toList := by
  unfold behindThread kind opening
  cases news <;> simp

theorem opening_injective : ∀ i < 10, ∀ j < 10, opening i = opening j → i = j := by decide

theorem kind_lt (news : WorkerNews) : news.kind < 10 := by
  cases news <;> simp [kind]

theorem kind_eq_of_behindThread {news news' : WorkerNews}
    (h : news.behindThread = news'.behindThread) : news.kind = news'.kind := by
  have htake := congrArg (List.take 11) h
  rw [take_behindThread, take_behindThread] at htake
  exact opening_injective _ news.kind_lt _ news'.kind_lt (String.toList_injective htake)

/-- The type of an operation ends where the text goes on with the server. -/
theorem opType_append_inj {errorCode errorCode' : DWORD} {zombie zombie' : Bool}
    {xs ys : List Char}
    (h : (opType errorCode zombie).toList ++ (" pipe server ".toList ++ xs) =
      (opType errorCode' zombie').toList ++ (" pipe server ".toList ++ ys)) :
    errorCode = errorCode' ∧ zombie = zombie' ∧ xs = ys := by
  have hz : ∀ {z z' : Bool},
      (if z then " zombie" else "").toList ++ (" pipe server ".toList ++ xs) =
        (if z' then " zombie" else "").toList ++ (" pipe server ".toList ++ ys) →
      z = z' ∧ xs = ys := by
    intro z z' hzz
    cases z <;> cases z' <;> simp at hzz ⊢ <;> exact hzz
  unfold opType at h
  by_cases he : errorCode = errorSuccess
  · by_cases he' : errorCode' = errorSuccess
    · simp only [he, he', if_true, String.toList_append, List.append_assoc] at h
      obtain ⟨hzombie, hrest⟩ := hz (List.append_cancel_left h)
      exact ⟨he.trans he'.symm, hzombie, hrest⟩
    · simp [he, he'] at h
  · by_cases he' : errorCode' = errorSuccess
    · simp [he, he'] at h
    · simp only [he, he', if_false, String.toList_append, List.append_assoc,
        toList_toString] at h
      obtain ⟨hcode, hrest⟩ := digits_append_sep_inj (by decide) (List.append_cancel_left h)
      obtain ⟨hzombie, hrest⟩ := hz hrest
      exact ⟨hcode, hzombie, hrest⟩

theorem op_append_inj {op op' : Operation} {xs ys : List Char}
    (h : op.text.toList ++ xs = op'.text.toList ++ ys) : op = op' ∧ xs = ys := by
  cases op <;> cases op' <;> simp [Operation.text] at h ⊢ <;> exact h

/-- Two lines of the same kind, by what is in them; two kinds differ in a character
of the program's own. -/
theorem behindThread_injective : Function.Injective behindThread := by
  intro news news' h
  have hkind := kind_eq_of_behindThread h
  cases news <;> cases news' <;> try (cases hkind; done)
  case started.started | shutdown.shutdown | sharedMemory.sharedMemory
      | invalidPacket.invalidPacket => rfl
  case iocpFailed.iocpFailed what what' =>
    exact congrArg iocpFailed (String.toList_injective (List.append_cancel_left h))
  case caught.caught what what' =>
    exact congrArg caught (String.toList_injective (List.append_cancel_left h))
  case operation.operation errorCode zombie op index errorCode' zombie' op' index' =>
    obtain ⟨rfl, rfl, hop⟩ := opType_append_inj (List.append_cancel_left h)
    obtain ⟨rfl, hindex⟩ := op_append_inj hop
    obtain ⟨rfl, -⟩ := digits_append_inj rfl rfl (List.append_cancel_left hindex)
    rfl
  case message.message index messg index' messg' =>
    obtain ⟨rfl, hmessg⟩ := digits_append_sep_inj (by decide) (List.append_cancel_left h)
    rw [ofBytes_injective (String.toList_injective hmessg)]
  case reconnecting.reconnecting index index' =>
    exact congrArg reconnecting (digits_injective (List.append_cancel_left h))
  case reading.reading index index' =>
    exact congrArg reading (digits_injective (List.append_cancel_left h))

/-- **The log is unambiguous**: whatever bytes a client has written and whatever
texts the system has for its errors, a line of the log tells which thread put it
there, and what it had to say. -/
theorem text_injective {thId thId' : DWORD} {news news' : WorkerNews}
    (h : news.text thId = news'.text thId') : thId = thId' ∧ news = news' := by
  have hline := congrArg String.toList h
  rw [toList_text, toList_text] at hline
  obtain ⟨hfront, hthread⟩ := digits_append_inj rfl rfl (inFront_append_inj hline)
  exact ⟨hfront, behindThread_injective (List.cons.inj hthread).2⟩

end WorkerNews

end Task6
