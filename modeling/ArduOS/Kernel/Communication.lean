import ArduOS.Kernel.Syscall

/-!
# The communication daemon

`Communication.cpp`: Task 0 takes whole packets and acts on the requests of the
host with its own stack, heap and working directory.
-/

namespace ArduOS

open Library

namespace Kernel

variable {sd : SdFat}

/-- The first `n` bytes received, given up at the end of the heap. -/
def copyLoop (k : Kernel sd) (physBase : Int) (data : Buffer) (n : Nat)
    (overflow : Kernel sd -> Kernel sd) : Kernel sd :=
  (forExit n (fun i k =>
    if physBase + i >= GLOBAL_HEAP_SIZE then .exit (overflow k)
    else .next (k.heapSet (physBase + i) (ofByte (data i)))) k).value

def commCopyToHeap (k : Kernel sd) (t : TaskId) (data : Buffer) (len : Nat) :
    Int × Kernel sd :=
  if (k.tasks t).heapBase = -1 then (-1, k)
  else
    let maxLen := (k.tasks t).heapLimit * 2
    let len :=
      if (len : Int) >= maxLen - 1 then (BitVec.ofInt 32 (maxLen - 2)).toNat else len
    let physBase := (k.tasks t).heapBase + 1
    let k := k.copyLoop physBase data len fun k =>
      k.stdWrite FD_STDERR (text "[DEBUG] Error: Comm_copyToHeap Overflow!\n")
    (1, k.heapSetBelow (physBase + len) 0)

def commSendHeapString (k : Kernel sd) (t : TaskId) (offset : Int) (maxLen : Nat) :
    Kernel sd :=
  if (k.tasks t).heapBase = -1 then k
  else
    let physBase := (k.tasks t).heapBase + offset
    let (buf, k) := k.readString (min maxLen 127) belowHeapSize isNull physBase
    if buf.length > 0 then k.stdWrite FD_STDOUT buf else k

/-- `global_heap[t->heap_base + offset] == -1`, if there is a heap. -/
def reportsError (k : Kernel sd) (t : TaskId) (offset : Int) : Bool × Kernel sd :=
  if (k.tasks t).heapBase ≠ -1 then
    let (val, k) := k.heapGet ((k.tasks t).heapBase + offset)
    (val = -1, k)
  else (false, k)

def commLs (k : Kernel sd) (t : TaskId) (payload : List Byte) : Kernel sd :=
  let k :=
    if payload.length > 0 then
      k.modifyTask t fun task => { task with args := cString (payload.take 31) }
    else k
  let selector := if payload.length > 0 then 1 else 0
  let k := k.stackPush t 0
  let k := k.stackPush t 128
  let k := k.stackPush t selector
  let k := k.systemCall t 1
  let (failed, k) := k.reportsError t 0
  if failed then k.stdWrite FD_STDERR (text "Error: ls failed (Invalid directory)\n")
  else k.commSendHeapString t 0 128

/-- A part of an exec request copied into the heap at the given offset. -/
def commStorePart (k : Kernel sd) (t : TaskId) (offset : Int) (part : List Byte) :
    Kernel sd :=
  if part.length > 0 ∧ (k.tasks t).heapBase ≠ -1 then
    let physBase := (k.tasks t).heapBase + offset
    let k := k.copyLoop physBase (bufferOf part) part.length id
    k.heapSetBelow (physBase + part.length) 0
  else k

/-- The parsing of `w cmd arg`: `wait_opt`, `arg_addr`, and the two strings. -/
def commParseExec (k : Kernel sd) (t : TaskId) (payload : List Byte) :
    (Int × Int) × Kernel sd :=
  match payload.findIdx? fun c => c = ascii ' ' with
  | some firstSpace =>
      let waitOpt := if payload.head? = some (ascii '1') then 1 else 0
      let rest := payload.drop (firstSpace + 1)
      match rest.findIdx? fun c => c = ascii ' ' with
      | none => ((waitOpt, 0), k.commStorePart t 1 rest)
      | some cmdLen =>
          let arg := rest.drop (cmdLen + 1)
          let k := k.commStorePart t 1 (rest.take cmdLen)
          let argAddr :=
            if arg.length > 0 ∧ (k.tasks t).heapBase ≠ -1 then 64 else 0
          ((waitOpt, argAddr), k.commStorePart t 64 arg)
  | none => ((0, 0), (k.commCopyToHeap t (bufferOf payload) payload.length).2)

def commExec (k : Kernel sd) (t : TaskId) (payload : List Byte) : Kernel sd :=
  let ((waitOpt, argAddr), k) := k.commParseExec t payload
  let k := k.stackPush t argAddr
  let k := k.stackPush t 1
  let k := k.stackPush t waitOpt
  let k := k.systemCall t 2
  k.stdWrite FD_STDOUT (text "Exec started.\n")

def commChdir (k : Kernel sd) (t : TaskId) (heapDataAddr : Int) : Kernel sd :=
  let k := k.stackPush t 64
  let k := k.stackPush t heapDataAddr
  let k := k.systemCall t 3
  let (failed, k) := k.reportsError t 64
  if failed then k.stdWrite FD_STDERR (text "Error: Invalid directory\n")
  else (k.stdWrite FD_STDOUT (k.tasks t).cwd).stdWrite FD_STDOUT (text "\n")

def commGetcwd (k : Kernel sd) (t : TaskId) : Kernel sd :=
  let k := k.stackPush t 0
  let k := k.systemCall t 4
  (k.stdWrite FD_STDOUT (k.tasks t).cwd).stdWrite FD_STDOUT (text "\n")

/-- The payload made available at virtual address 1. -/
def commStorePayload (k : Kernel sd) (t : TaskId) (payload : List Byte) :
    Int × Kernel sd :=
  if payload.length > 0 then k.commCopyToHeap t (bufferOf payload) payload.length
  else
    (1, if (k.tasks t).heapBase ≠ -1 then k.heapSet ((k.tasks t).heapBase + 1) 0
      else k)

/-- A request: ids below 100. -/
def commRequest (k : Kernel sd) (t : TaskId) (cmdId : BitVec 16)
    (payload : List Byte) : Kernel sd :=
  let k := k.note (.dispatch cmdId payload)
  let (heapDataAddr, k) := k.commStorePayload t payload
  let k := k.modifyTask t fun task => { task with sp := -1 }
  if cmdId = SYS_LS then k.commLs t payload
  else if cmdId = SYS_EXEC then k.commExec t payload
  else if cmdId = SYS_CHDIR then k.commChdir t heapDataAddr
  else if cmdId = SYS_GETCWD then k.commGetcwd t
  else k

/-- After a poll of the receiver, which may have filled `rx_buffer`. -/
def polled (k : Kernel sd) (hal : Hal) (rxBuffer : Buffer) : Kernel sd :=
  { k with hal := hal, rxBuffer := rxBuffer }

def commProcess (k : Kernel sd) (t : TaskId) : Kernel sd :=
  let (r, hal) := k.hal.readPacket 0#16 k.rxBuffer RX_BUFFER_SIZE
  let k := k.polled hal r.payloadOut
  if r.result >= 0 then
    if r.cmdOut < 100#16 then
      k.commRequest t r.cmdOut (bytesOf k.rxBuffer r.result.toNat)
    else k
  else k

end Kernel
end ArduOS
