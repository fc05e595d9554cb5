import ArduOS.Kernel.Syscall

/-!
# The virtual machine

`VirtualMachine.cpp`: fetching from the code buffer, the stack checks and one
instruction.
-/

namespace ArduOS

open Library

namespace Kernel

variable {sd : SdFat}

/-!
## Fetching
-/

/-- `t->code_buffer[t->buffer_index++]`. -/
def takeByte (k : Kernel sd) (t : TaskId) : Byte × Kernel sd :=
  ((k.tasks t).codeBuffer (k.tasks t).bufferIndex,
    k.modifyTask t fun task => { task with bufferIndex := task.bufferIndex + 1 })

/-- One byte of code; `0` when the refill ended the task. -/
def fetchByte (k : Kernel sd) (t : TaskId) : Byte × Kernel sd :=
  if (k.tasks t).bufferIndex >= CODE_BUFFER_SIZE then
    let k := k.refillBuffer t
    if ¬ (k.tasks t).isActive then (0#8, k) else k.takeByte t
  else k.takeByte t

def fetchInt (k : Kernel sd) (t : TaskId) : Int × Kernel sd :=
  let (low, k) := k.fetchByte t
  let (high, k) := k.fetchByte t
  (intOfBytes low high, k)

/-!
## Checks
-/

/-- `CHECK_STACK_OVERFLOW(t)`, followed by `body`. -/
def checkStackOverflow (k : Kernel sd) (t : TaskId)
    (body : Kernel sd -> Kernel sd) : Kernel sd :=
  if (k.tasks t).sp >= VM_STACK_SIZE - 1 then
    (k.stdWrite FD_STDERR (text "Err: Stack Overflow\n")).terminateTask t
  else body k

/-- `CHECK_STACK_UNDERFLOW(t, count)`, followed by `body`. -/
def checkStackUnderflow (k : Kernel sd) (t : TaskId) (count : Int)
    (body : Kernel sd -> Kernel sd) : Kernel sd :=
  if (k.tasks t).sp < count - 1 then
    (k.stdWrite FD_STDERR (text "Err: Stack Underflow\n")).terminateTask t
  else body k

/-!
## Instructions
-/

/-- Two operands replaced by `op` of them, the one on top first. -/
def binary (k : Kernel sd) (t : TaskId) (op : Int -> Int -> Int) : Kernel sd :=
  k.checkStackUnderflow t 2 fun k =>
    let (a, k) := k.stackPop t
    let (b, k) := k.stackPop t
    k.stackPush t (op a b)

/-- A byte of the keyboard input, recorded if there is one. -/
def stdRead (k : Kernel sd) (fd : Int) : Int × Kernel sd :=
  let (val, hal) := k.hal.read fd
  let k := k.withHal hal
  (val, if val ≠ -1 then k.note (.stdin val) else k)

/-- The addresses `OP_PRTS`, `OP_LOAD` and `OP_STORE` accept. -/
def inHeap (addr : Int) : Bool := addr >= 0 ∧ addr < GLOBAL_HEAP_SIZE

def segFault (k : Kernel sd) (t : TaskId) (message : List Byte) (physAddr : Int) :
    Kernel sd :=
  let k := k.stdWrite FD_STDERR message
  let k := k.stdWriteInt FD_STDERR physAddr
  let k := k.stdWrite FD_STDERR (text "\n")
  k.terminateTask t

def opDup (k : Kernel sd) (t : TaskId) : Kernel sd :=
  k.checkStackUnderflow t 1 fun k =>
    k.checkStackOverflow t fun k =>
      let (val, k) := k.stackTop t
      k.stackPush t val

def opJif (k : Kernel sd) (t : TaskId) : Kernel sd :=
  k.checkStackUnderflow t 1 fun k =>
    let (target, k) := k.fetchInt t
    let (condition, k) := k.stackPop t
    if condition ≠ 0 then k.jump t target else k

/-- `OP_PRINT` and `OP_PRTE`. -/
def opPrint (k : Kernel sd) (t : TaskId) (fd : Int) : Kernel sd :=
  k.checkStackUnderflow t 1 fun k =>
    let (val, k) := k.stackPop t
    (k.stdWriteInt fd val).stdWriteChar fd (ascii '\n')

def opPrts (k : Kernel sd) (t : TaskId) : Kernel sd :=
  k.checkStackUnderflow t 1 fun k =>
    let (addr, k) := k.stackPop t
    let (str, k) := k.readString 127 inHeap isNull (k.getPhysAddr t addr)
    k.stdWrite FD_STDOUT str

def opRead (k : Kernel sd) (t : TaskId) : Kernel sd :=
  k.checkStackOverflow t fun k =>
    let (val, k) := k.stdRead FD_STDIN
    k.stackPush t (if val ≠ -1 then val else 0)

def opSys (k : Kernel sd) (t : TaskId) : Kernel sd :=
  k.checkStackUnderflow t 1 fun k =>
    let (sysId, k) := k.stackPop t
    k.systemCall t sysId

def opSleep (k : Kernel sd) (t : TaskId) : Kernel sd :=
  k.checkStackUnderflow t 1 fun k =>
    let (ms, k) := k.stackPop t
    (k.modifyTask t fun task => { task with wakeUpTime := BitVec.ofInt 32 ms }).yield t

def opMalloc (k : Kernel sd) (t : TaskId) : Kernel sd :=
  k.checkStackUnderflow t 1 fun k =>
    let (size, k) := k.stackPop t
    let (addr, k) := k.malloc t size
    k.checkStackOverflow t fun k => k.stackPush t (if addr = -1 then 0 else addr)

def opLoad (k : Kernel sd) (t : TaskId) : Kernel sd :=
  k.checkStackUnderflow t 1 fun k =>
    let (addr, k) := k.stackPop t
    let physAddr := k.getPhysAddr t addr
    if inHeap physAddr then
      k.checkStackOverflow t fun k =>
        let (val, k) := k.heapGet physAddr
        k.stackPush t val
    else k.segFault t (text "SegFault: Read ") physAddr

def opStore (k : Kernel sd) (t : TaskId) : Kernel sd :=
  k.checkStackUnderflow t 2 fun k =>
    let (addr, k) := k.stackPop t
    let (val, k) := k.stackPop t
    let physAddr := k.getPhysAddr t addr
    if inHeap physAddr then k.heapSet physAddr val
    else k.segFault t (text "SegFault: Write Addr ") physAddr

/-- The `switch`; a byte that is no `case` of it does nothing. -/
def execute (k : Kernel sd) (t : TaskId) (opcode : Byte) : Kernel sd :=
  match VMOpcode.ofByte? opcode with
  | some .push =>
      k.checkStackOverflow t fun k =>
        let (val, k) := k.fetchInt t
        k.stackPush t val
  | some .add => k.binary t fun a b => int16 (a + b)
  | some .sub => k.binary t fun b a => int16 (a - b)
  | some .eq => k.binary t fun a b => if a = b then 1 else 0
  | some .dup => k.opDup t
  | some .pop => k.checkStackUnderflow t 1 fun k => k.stackDrop t
  | some .jmp =>
      let (target, k) := k.fetchInt t
      k.jump t target
  | some .jif => k.opJif t
  | some .print => k.opPrint t FD_STDOUT
  | some .prtc =>
      k.checkStackUnderflow t 1 fun k =>
        let (val, k) := k.stackPop t
        k.stdWriteChar FD_STDOUT (toChar val)
  | some .prte => k.opPrint t FD_STDERR
  | some .prts => k.opPrts t
  | some .read => k.opRead t
  | some .sys => k.opSys t
  | some .sleep => k.opSleep t
  | some .exit => k.terminateTask t
  | some .malloc => k.opMalloc t
  | some .load => k.opLoad t
  | some .store => k.opStore t
  | some .pinMode => k
  | some .dWrite => k
  | none => k

def runStep (k : Kernel sd) (t : TaskId) : Kernel sd :=
  let (opcode, k) := k.fetchByte t
  if ¬ (k.tasks t).isActive then k else k.execute t opcode

end Kernel
end ArduOS
