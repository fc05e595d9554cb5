import ArduOS.Kernel.Memory

/-!
# Task management

Loading, ending and streaming a program: the rest of `Kernel.cpp` up to the
scheduler.
-/

namespace ArduOS

open Library

/-- The 16 bit `int` with these two bytes. -/
def intOfBytes (low high : Byte) : Int := (high ++ low).toInt

/-- A buffer after `bytes` are stored at its start. -/
def overwrite (bytes : List Byte) (buffer : Buffer) : Buffer := fun i =>
  if i < bytes.length then bufferOf bytes i else buffer i

namespace Kernel

variable {sd : SdFat}

def resolvePath (k : Kernel sd) (t : TaskId) (input : List Byte) : List Byte :=
  if input.head? = some (ascii '/') then input
  else
    let output := (k.tasks t).cwd
    let output :=
      if output.length > 0 ∧ output.getLast? ≠ some (ascii '/') then
        output ++ text "/"
      else output
    output ++ input

/-!
## Files
-/

/-- `t->file = sd.open(path, FILE_READ)`. -/
def openFile (k : Kernel sd) (t : TaskId) (path : List Byte) : Kernel sd :=
  let (file, card) := sd.openPath k.card path
  (k.withCard card).modifyTask t fun task => { task with file := file }

/-- `t->file.close()`. -/
def closeFile (k : Kernel sd) (t : TaskId) : Kernel sd :=
  k.modifyTask t fun task => { task with file := none }

/-- `t->file.read(buf, n)`: whether it succeeds, and the bytes it stores. -/
def readFile (k : Kernel sd) (t : TaskId) (n : Nat) : (Bool × List Byte) × Kernel sd :=
  match (k.tasks t).file with
  | none => ((false, []), k)
  | some file =>
      let (result, file, card) := sd.read k.card file n
      ((result.1, result.2.take n),
        (k.withCard card).modifyTask t fun task =>
          { task with file := some file })

/-- `t->file.seek(pos)`. -/
def seekFile (k : Kernel sd) (t : TaskId) (pos : BitVec 32) : Kernel sd :=
  match (k.tasks t).file with
  | none => k
  | some file =>
      let (file, card) := sd.seek k.card file pos
      (k.withCard card).modifyTask t fun task => { task with file := some file }

/-!
## Ending a task
-/

/-- The loop over `alloc_table`. -/
def freeAllocations (k : Kernel sd) (id : TaskId) : Kernel sd :=
  forLoop MAX_ALLOCATIONS (fun i k =>
    let ptr := ((k.tasks id).allocTable i).ptr
    if ptr ≠ -1 then
      let k := k.free id ptr
      let k := k.stdWrite FD_STDOUT (text "GC: Freed addr ")
      let k := k.stdWriteInt FD_STDOUT ptr
      k.stdWrite FD_STDOUT (text "\n")
    else k) k

def freeSegment (k : Kernel sd) (id : TaskId) : Kernel sd :=
  if (k.tasks id).heapBase ≠ -1 then
    let k := k.setAllocatedRange (k.tasks id).heapBase (k.tasks id).heapLimit false
    k.modifyTask id fun task => { task with heapBase := -1, heapLimit := 0 }
  else k

/-- The loop that wakes whoever waits for `id`. -/
def wakeWaiting (k : Kernel sd) (id : TaskId) : Kernel sd :=
  { k with
    tasks := fun i =>
      if (k.tasks i).getWaitingFor = id.val then (k.tasks i).setRunning
      else k.tasks i }

def terminateTask (k : Kernel sd) (id : TaskId) : Kernel sd :=
  let k := k.freeAllocations id
  let k := k.freeSegment id
  let k := k.wakeWaiting id
  let k := k.modifyTask id Task.setFree
  k.closeFile id

/-!
## Loading a program
-/

def prepareTask (k : Kernel sd) (id : TaskId)
    (argStr parentCwd parentArgStr : Option (List Byte)) : Kernel sd :=
  let k := k.closeFile id
  let args := []
  let args := match argStr with
    | some s => s.take 31
    | none => args
  let args := match parentArgStr with
    | some s => s.take 31
    | none => args
  let cwd := match parentCwd with
    | some s => s.take 31
    | none => text "/"
  k.modifyTask id fun task => { task with args := args, cwd := cwd }

/-- A try to open the program: the path is put together in `path_buffer`. -/
def tryOpen (k : Kernel sd) (id : TaskId) (path : List Byte) : Kernel sd :=
  (k.note (.chars .pathBuffer path.length)).openFile id path

/-- The three places a program is looked for; the path of the last one tried. -/
def findProgram (k : Kernel sd) (id : TaskId) (inputName : List Byte) :
    List Byte × Kernel sd :=
  let path := inputName
  let k := k.tryOpen id path
  if (k.tasks id).file.isSome then (path, k)
  else
    let path := inputName ++ text ".bin"
    let k := k.tryOpen id path
    if (k.tasks id).file.isSome then (path, k)
    else
      let path := text "/bin/" ++ inputName ++ text ".bin"
      (path, k.tryOpen id path)

/-- One turn of the search for a segment, which ends in `break`. -/
def segmentTurn (k : Kernel sd) (id : TaskId) (size : Int) (i : Nat)
    (run : Int × Int) : Flow (Int × Int) (Kernel sd) :=
  let (consecutiveFree, startIndex) := run
  if ¬ k.isAllocated i then
    let startIndex := if consecutiveFree = 0 then (i : Int) else startIndex
    let consecutiveFree := consecutiveFree + 1
    if consecutiveFree = size then
      let k := k.setAllocatedRange startIndex size true
      .exit (k.modifyTask id fun task =>
        { task with heapBase := startIndex, heapLimit := size })
    else .next (consecutiveFree, startIndex)
  else .next (0, startIndex)

def allocSegment (k : Kernel sd) (id : TaskId) (size : Int) : Bool × Kernel sd :=
  match forExit GLOBAL_HEAP_SIZE (k.segmentTurn id size) (0, -1) with
  | .exit k => (true, k)
  | .next _ => (false, k)

/-- A load that fails after the file was opened. -/
def failLoad (k : Kernel sd) (id : TaskId) (message : List Byte) : Kernel sd :=
  let k := k.stdWrite FD_STDERR message
  let k := k.closeFile id
  k.modifyTask id Task.setFree

/-- The program is in place: fill the code buffer and let the task run. -/
def startTask (k : Kernel sd) (id : TaskId) (path : List Byte) : Kernel sd :=
  let k := k.modifyTask id fun task =>
    { task with filename := path.take 127, bufferIndex := 0 }
  let (result, k) := k.readFile id CODE_BUFFER_SIZE
  let k := k.modifyTask id fun task =>
    { task with codeBuffer := overwrite result.2 task.codeBuffer }
  let k := k.modifyTask id Task.setRunning
  let k := k.modifyTask id fun task => { task with sp := -1, wakeUpTime := 0#32 }
  k.stdWrite FD_STDOUT (text "\n")

def loadTask (k : Kernel sd) (id : TaskId) (inputName : List Byte)
    (argStr parentCwd parentArgStr : Option (List Byte)) : Bool × Kernel sd :=
  let k := k.prepareTask id argStr parentCwd parentArgStr
  let (path, k) := k.findProgram id inputName
  if (k.tasks id).file.isSome then
    let (result, k) := k.readFile id 4
    if result.1 ∧ result.2.length = 4 then
      let header := bufferOf result.2
      if header 0 = 0xAD#8 ∧ header 1 = 0x01#8 then
        let size := intOfBytes (header 2) (header 3)
        let (allocSuccess, k) := k.allocSegment id size
        if ¬ allocSuccess then
          (false, k.failLoad id
            (text "Error: Out of Memory (Cannot alloc task heap)\n"))
        else (true, k.startTask id path)
      else (false, k.failLoad id (text "Err: Invalid exec format (Bad Magic)\n"))
    else (false, k.failLoad id (text "Err: Invalid exec format (Too short)\n"))
  else (false, k.stdWrite FD_STDERR (text "Error: Command not found\n"))

/-!
## Streaming the code
-/

def refillBuffer (k : Kernel sd) (t : TaskId) : Kernel sd :=
  if (k.tasks t).file.any sd.available then
    let (result, k) := k.readFile t CODE_BUFFER_SIZE
    k.modifyTask t fun task =>
      { task with
        codeBuffer := overwrite result.2 task.codeBuffer
        bufferIndex := 0 }
  else k.terminateTask t

/-- Skips the header; the offset is computed in `int` and passed as `uint32_t`. -/
def jump (k : Kernel sd) (t : TaskId) (addr : Int) : Kernel sd :=
  let k := k.seekFile t (BitVec.ofInt 32 (int16 (addr + 4)))
  k.modifyTask t fun task => { task with bufferIndex := CODE_BUFFER_SIZE }

def yield (k : Kernel sd) (t : TaskId) : Kernel sd :=
  k.modifyTask t fun task =>
    { task with wakeUpTime := k.systemTicks + task.wakeUpTime }

end Kernel
end ArduOS
