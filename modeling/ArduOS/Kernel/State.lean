import ArduOS.HAL.Receiver
import ArduOS.StreamProtocol.Fields

/-!
# The kernel state

The global variables of `Kernel.cpp`, `Communication.cpp` and `HAL.cpp`, the
task control block of `Task.h`, and the memory accesses everything else is
made of.  The SD card library is a parameter: any card, with any outcome of
its calls.

An access outside an array has no meaning in the source.  Here it hits a cell
of its own, so that nothing else changes, and is recorded in the log like every
other access.  On the target `cwd` lies in front of `stack`: below the stack are
the last characters of `cwd`, and the place behind `cwd` is the low byte of
`stack[0]`.  Results about either of them are about runs, or steps, that keep to
the arrays.
-/

namespace ArduOS

/-- What the kernel uses of `SdFat`; a file that is not open is no `File`. -/
structure SdFat where
  Card : Type
  File : Type
  initCard : Card -> Bool × Card
  /-- `sd.open(path)`. -/
  openPath : Card -> List Byte -> Option File × Card
  /-- Whether `read(buf, n)` succeeds, and the bytes it stores in any case. -/
  read : Card -> File -> Nat -> (Bool × List Byte) × File × Card
  /-- Whether `available()` is not zero. -/
  available : File -> Bool
  curPosition : File -> BitVec 32
  seek : Card -> File -> BitVec 32 -> File × Card
  isDirectory : File -> Bool
  /-- The name and `isDirectory()` of each entry `openNextFile()` yields. -/
  entries : Card -> File -> List (List Byte × Bool) × Card

/-!
## Tasks
-/

inductive TaskState where
  | free
  | running
  | paused (child : TaskId)
  deriving DecidableEq, Repr

/-- An entry of `alloc_table`. -/
structure Allocation where
  ptr : Int
  size : Int
  deriving DecidableEq, Repr

/-- The task control block.  `id` is the slot; strings are without their NUL. -/
structure Task (sd : SdFat) where
  taskState : TaskState
  filename : List Byte
  wakeUpTime : BitVec 32
  args : List Byte
  cwd : List Byte
  stack : Int -> Int
  sp : Int
  heapBase : Int
  heapLimit : Int
  allocTable : Nat -> Allocation
  file : Option sd.File
  codeBuffer : Buffer
  bufferIndex : Nat

namespace Task

variable {sd : SdFat}

def isActive (t : Task sd) : Bool := t.taskState ≠ .free

def isRunnable (t : Task sd) : Bool := t.taskState = .running

def getWaitingFor (t : Task sd) : Int :=
  match t.taskState with
  | .paused child => child.val
  | _ => -1

def waitForChild (t : Task sd) (child : TaskId) : Task sd :=
  { t with taskState := .paused child }

def setRunning (t : Task sd) : Task sd := { t with taskState := .running }

def setFree (t : Task sd) : Task sd := { t with taskState := .free }

end Task

/-!
## Kernel
-/

/-- The character arrays that strings of unbounded length are copied to. -/
inductive CharArray where
  | cwd (t : TaskId)
  | pathBuffer
  deriving DecidableEq, Repr

/-- What the log records, oldest first. -/
inductive Access where
  /-- `t->stack[index]`, read or written. -/
  | stack (t : TaskId) (index : Int)
  | heapRead (index : Int)
  | heapWrite (index : Int)
  /-- A string copied to an array, its NUL at `terminator`. -/
  | chars (array : CharArray) (terminator : Nat)
  /-- `Comm_process` acts on a request. -/
  | dispatch (cmd : BitVec 16) (payload : List Byte)
  /-- `OP_READ` got a byte. -/
  | stdin (val : Int)
  /-- `Syscall_exec` of `parent` loaded a program into the slot `child`. -/
  | exec (parent child : TaskId) (waitOpt : Int)
  deriving DecidableEq, Repr

structure Kernel (sd : SdFat) where
  tasks : TaskId -> Task sd
  globalHeap : Int -> Int
  heapBitmap : Int -> Byte
  hal : Hal
  rxBuffer : Buffer
  halTxBuffer : Buffer
  /-- The blocks given to `Serial.write`. -/
  serialOut : List (List Byte)
  systemTicks : BitVec 32
  card : sd.Card
  /-- The variable `i` of `Kernel_runScheduler`. -/
  current : TaskId
  log : List Access

namespace Kernel

variable {sd : SdFat}

/-- The static variables before `setup` runs. -/
def reset (card : sd.Card) : Kernel sd :=
  { tasks := fun _ =>
      { taskState := .paused 0
        filename := []
        wakeUpTime := 0#32
        args := []
        cwd := []
        stack := fun _ => 0
        sp := 0
        heapBase := 0
        heapLimit := 0
        allocTable := fun _ => { ptr := 0, size := 0 }
        file := none
        codeBuffer := fun _ => 0#8
        bufferIndex := 0 }
    globalHeap := fun _ => 0
    heapBitmap := fun _ => 0#8
    hal := Hal.reset
    rxBuffer := fun _ => 0#8
    halTxBuffer := fun _ => 0#8
    serialOut := []
    systemTicks := 0#32
    card := card
    current := 0
    log := [] }

def note (k : Kernel sd) (a : Access) : Kernel sd := { k with log := k.log ++ [a] }

def withCard (k : Kernel sd) (card : sd.Card) : Kernel sd := { k with card := card }

def withHal (k : Kernel sd) (hal : Hal) : Kernel sd := { k with hal := hal }

@[simp] theorem withCard_card (k : Kernel sd) (card : sd.Card) :
    (k.withCard card).card = card := rfl

@[simp] theorem withCard_tasks (k : Kernel sd) (card : sd.Card) :
    (k.withCard card).tasks = k.tasks := rfl

def modifyTask (k : Kernel sd) (t : TaskId) (f : Task sd -> Task sd) : Kernel sd :=
  { k with tasks := Function.update k.tasks t (f (k.tasks t)) }

/-!
## Stack
-/

/-- `t->stack[t->sp]`. -/
def stackTop (k : Kernel sd) (t : TaskId) : Int × Kernel sd :=
  ((k.tasks t).stack (k.tasks t).sp, k.note (.stack t (k.tasks t).sp))

/-- `t->stack[t->sp--]`. -/
def stackPop (k : Kernel sd) (t : TaskId) : Int × Kernel sd :=
  let val := (k.tasks t).stack (k.tasks t).sp
  let k := k.note (.stack t (k.tasks t).sp)
  (val, k.modifyTask t fun task => { task with sp := task.sp - 1 })

/-- `t->stack[++t->sp] = val`. -/
def stackPush (k : Kernel sd) (t : TaskId) (val : Int) : Kernel sd :=
  let k := k.note (.stack t ((k.tasks t).sp + 1))
  k.modifyTask t fun task =>
    { task with
      sp := task.sp + 1
      stack := Function.update task.stack (task.sp + 1) val }

/-- `t->sp--`. -/
def stackDrop (k : Kernel sd) (t : TaskId) : Kernel sd :=
  k.modifyTask t fun task => { task with sp := task.sp - 1 }

/-!
## Heap
-/

/-- `global_heap[index]`. -/
def heapGet (k : Kernel sd) (index : Int) : Int × Kernel sd :=
  (k.globalHeap index, k.note (.heapRead index))

/-- `global_heap[index] = val`. -/
def heapSet (k : Kernel sd) (index val : Int) : Kernel sd :=
  let k := k.note (.heapWrite index)
  { k with globalHeap := Function.update k.globalHeap index val }

/-- `if (index < GLOBAL_HEAP_SIZE) global_heap[index] = val`. -/
def heapSetBelow (k : Kernel sd) (index val : Int) : Kernel sd :=
  if index < GLOBAL_HEAP_SIZE then k.heapSet index val else k

/-!
## Output
-/

/-- `send_packet`; the length of `payload` is what `strlen` finds. -/
def sendPacket (k : Kernel sd) (cmd : BitVec 16) (payload : List Byte) : Kernel sd :=
  let res := spEncodePacketBuffer (some (bufferOf payload))
    (BitVec.ofNat 32 payload.length) SP_UNFRAGED PT_STRING cmd (some k.halTxBuffer)
    512#32 (some 0#32)
  let sent := res.outBuffer.getD k.halTxBuffer
  let k := { k with halTxBuffer := sent }
  if res.result = .ok then
    { k with
      serialOut := k.serialOut ++ [bytesOf sent (res.outLength.getD 0#32).toNat] }
  else k

/-- `HAL_write` of a string, and `Kernel_stdWrite`. -/
def stdWrite (k : Kernel sd) (fd : Int) (str : List Byte) : Kernel sd :=
  k.sendPacket (if fd = FD_STDERR then CMD_STDERR else CMD_STDOUT) (cString str)

/-- `HAL_write` of a number, which `itoa` turns into a string. -/
def stdWriteInt (k : Kernel sd) (fd : Int) (val : Int) : Kernel sd :=
  k.stdWrite fd (text (toString val))

/-- `HAL_writeChar`. -/
def stdWriteChar (k : Kernel sd) (fd : Int) (c : Byte) : Kernel sd :=
  k.stdWrite fd [c]

theorem stdWrite_eq (k : Kernel sd) (fd : Int) (str : List Byte) :
    exists tx out, k.stdWrite fd str =
      { k with halTxBuffer := tx, serialOut := out } := by
  unfold stdWrite sendPacket
  generalize spEncodePacketBuffer _ _ _ _ _ _ _ _ = res
  by_cases hok : res.result = .ok
  · exact ⟨_, _, if_pos hok⟩
  · exact ⟨_, k.serialOut, if_neg hok⟩

theorem stdWrite_tasks (k : Kernel sd) (fd : Int) (str : List Byte) :
    (k.stdWrite fd str).tasks = k.tasks := by
  rcases stdWrite_eq k fd str with ⟨tx, out, h⟩
  rw [h]

end Kernel
end ArduOS
