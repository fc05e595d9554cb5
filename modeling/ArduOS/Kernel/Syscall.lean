import ArduOS.Kernel.Tasks

/-!
# System calls

`Syscall.cpp` and the four headers under `syscall/`.  Addresses are added in
`int`, so they wrap.
-/

namespace ArduOS

open Library

namespace Kernel

variable {sd : SdFat}

/--
The loop that copies a string out of the heap: at most `n` characters, left
when the address is not `inRange` or the cell is a `stop`.
-/
def readString (k : Kernel sd) (n : Nat) (inRange stop : Int -> Bool) (addr : Int) :
    List Byte × Kernel sd :=
  (forExit n (fun i s =>
    let (chars, k) := s
    if ¬ inRange (int16 (addr + i)) then .exit (chars, k)
    else
      let (val, k) := k.heapGet (int16 (addr + i))
      if stop val then .exit (chars, k)
      else .next (chars ++ [toChar val], k)) (([], k) : List Byte × Kernel sd)).value

/-- `addr + i >= GLOBAL_HEAP_SIZE` is not yet reached. -/
def belowHeapSize (addr : Int) : Bool := addr < GLOBAL_HEAP_SIZE

def isNull (val : Int) : Bool := val = 0

def isNullOrSpace (val : Int) : Bool := val = 0 ∨ val = 32

/-- The loop that copies a string into the heap, and its NUL. -/
def writeString (k : Kernel sd) (addr : Int) (str : List Byte) : Kernel sd :=
  let k := forLoop str.length (fun i k =>
    k.heapSetBelow (int16 (addr + i)) (ofChar (bufferOf str i))) k
  k.heapSetBelow (int16 (addr + str.length)) 0

/-!
## ls
-/

/-- The directory to list. -/
def lsTargetPath (k : Kernel sd) (t : TaskId) (selector : Int) : List Byte :=
  if selector = 0 then (k.tasks t).cwd
  else if selector = 1 then
    if (k.tasks t).args.length > 0 then k.resolvePath t (k.tasks t).args
    else (k.tasks t).cwd
  else (k.tasks t).cwd

/-- One character, as long as the buffer has room for it and a NUL. -/
def lsPut (bufAddr bufSize : Int) (s : Int × Kernel sd) (val : Int) : Int × Kernel sd :=
  let (writtenLen, k) := s
  if writtenLen < int16 (bufSize - 1) then
    if int16 (bufAddr + writtenLen) < GLOBAL_HEAP_SIZE then
      (writtenLen + 1, k.heapSet (int16 (bufAddr + writtenLen)) val)
    else (writtenLen, k)
  else (writtenLen, k)

/-- What is written for an entry before the newline. -/
def lsName (entry : List Byte × Bool) : List Byte :=
  let name := (cString entry.1).take 31
  if entry.2 ∧ name.length < 30 then name ++ text "/" else name

def lsEntry (bufAddr bufSize : Int) (s : Int × Kernel sd) (entry : List Byte × Bool) :
    Int × Kernel sd :=
  let s := (lsName entry).foldl (fun s c => lsPut bufAddr bufSize s (ofChar c)) s
  lsPut bufAddr bufSize s (ofChar (ascii '\n'))

def lsList (k : Kernel sd) (dir : sd.File) (bufAddr bufSize : Int) : Kernel sd :=
  let k := forLoop bufSize.toNat (fun i k => k.heapSetBelow (int16 (bufAddr + i)) 0) k
  let (entries, card) := sd.entries k.card dir
  let (writtenLen, k) :=
    entries.foldl (lsEntry bufAddr bufSize) ((0, k.withCard card) : Int × Kernel sd)
  k.heapSetBelow (int16 (bufAddr + writtenLen)) 0

/-- Reopening the program file, once the directory is listed. -/
def lsReopen (k : Kernel sd) (t : TaskId) (currentPos : BitVec 32) : Kernel sd :=
  let k := k.openFile t (k.tasks t).filename
  if (k.tasks t).file.isSome then k.seekFile t currentPos
  else k.modifyTask t Task.setFree

/-- `Syscall_ls` with its arguments. -/
def lsWith (k : Kernel sd) (t : TaskId) (selector bufSize bufAddr : Int) : Kernel sd :=
  let targetPath := k.lsTargetPath t selector
  let bufAddr := k.getPhysAddr t bufAddr
  let program := (k.tasks t).file
  let k := k.closeFile t
  let (dir, card) := sd.openPath k.card targetPath
  let k := k.withCard card
  match dir with
  | some dir =>
      let k := k.lsList dir bufAddr bufSize
      match program with
      | some file => k.lsReopen t (sd.curPosition file)
      | none => k
  | none => k.heapSetBelow bufAddr (-1)

def syscallLs (k : Kernel sd) (t : TaskId) : Kernel sd :=
  let (selector, k) := k.stackPop t
  let (bufSize, k) := k.stackPop t
  let (bufAddr, k) := k.stackPop t
  k.lsWith t selector bufSize bufAddr

/-!
## exec
-/

/-- The slot for a new program; slot 0 is never given away. -/
def freeSlot (k : Kernel sd) : Option TaskId :=
  (List.finRange TASK_COUNT).find? fun i => i ≠ 0 ∧ (k.tasks i).taskState = .free

/-- Loading the program, and whether the caller waits for it. -/
def execLoad (k : Kernel sd) (t child : TaskId) (cmdStr : List Byte)
    (argStr : Option (List Byte)) (waitOpt : Int) : Kernel sd :=
  let (success, k) := k.loadTask child cmdStr none (some (k.tasks t).cwd) argStr
  if success then
    let k := k.note (.exec t child waitOpt)
    if waitOpt = 1 then k.modifyTask t fun task => task.waitForChild child else k
  else k

/-- `Syscall_exec` with its arguments. -/
def execWith (k : Kernel sd) (t : TaskId) (waitOpt cmdAddr argAddr : Int) : Kernel sd :=
  let cmdAddr := k.getPhysAddr t cmdAddr
  let argAddr := if argAddr ≠ 0 then k.getPhysAddr t argAddr else argAddr
  let (cmdStr, k) := k.readString 31 belowHeapSize isNullOrSpace cmdAddr
  let (argStr, k) :=
    if argAddr ≠ 0 then k.readString 31 belowHeapSize isNull argAddr else ([], k)
  match k.freeSlot with
  | some child =>
      k.execLoad t child (cString cmdStr)
        (if argAddr ≠ 0 then some (cString argStr) else none) waitOpt
  | none => k.stdWrite FD_STDERR (text "Error: No free task slots.\n")

def syscallExec (k : Kernel sd) (t : TaskId) : Kernel sd :=
  let (waitOpt, k) := k.stackPop t
  let (cmdAddr, k) := k.stackPop t
  let (argAddr, k) := k.stackPop t
  k.execWith t waitOpt cmdAddr argAddr

/-!
## chdir
-/

/-- The directory above `cwd`. -/
def parentPath (cwd : List Byte) : List Byte :=
  let path :=
    if cwd.length > 1 ∧ cwd.getLast? = some (ascii '/') then cwd.dropLast else cwd
  -- `strrchr`: the slash that comes first from the end
  match path.reverse.findIdx? fun c => c = ascii '/' with
  | some i =>
      let lastSlash := path.length - 1 - i
      if lastSlash = 0 then text "/" else path.take lastSlash
  | none => text "/"

def chdirTarget (k : Kernel sd) (t : TaskId) (path : List Byte) : List Byte :=
  if path = text ".." then parentPath (k.tasks t).cwd
  else if path = text "." then (k.tasks t).cwd
  else k.resolvePath t path

/-- Whether the target can be entered; the root always can. -/
def chdirCheck (k : Kernel sd) (target : List Byte) : Bool × Kernel sd :=
  if target = text "/" then (true, k)
  else
    let (dir, card) := sd.openPath k.card target
    (dir.any sd.isDirectory, k.withCard card)

/-- The new `cwd`, with a slash at its end. -/
def chdirEnter (k : Kernel sd) (t : TaskId) (target : List Byte) : Kernel sd :=
  let cwd := target.take 31
  let cwd :=
    if cwd.length > 1 ∧ cwd.getLast? ≠ some (ascii '/') then cwd ++ text "/" else cwd
  -- on the target a NUL at 32 is the low byte of `stack[0]`; here the log alone tells of it
  let k := k.note (.chars (.cwd t) cwd.length)
  k.modifyTask t fun task => { task with cwd := cwd }

/-- `Syscall_chdir` with its arguments. -/
def chdirWith (k : Kernel sd) (t : TaskId) (argAddr bufAddr : Int) : Kernel sd :=
  if argAddr = 0 then k
  else
    let (pathStr, k) :=
      k.readString 31 belowHeapSize isNull (k.getPhysAddr t argAddr)
    let targetPath := k.chdirTarget t (cString pathStr)
    let (success, k) := k.chdirCheck targetPath
    if success then
      let k := k.chdirEnter t targetPath
      if bufAddr ≠ 0 then k.writeString (k.getPhysAddr t bufAddr) (k.tasks t).cwd
      else k
    else if bufAddr ≠ 0 then k.heapSetBelow (k.getPhysAddr t bufAddr) (-1)
    else k

def syscallChdir (k : Kernel sd) (t : TaskId) : Kernel sd :=
  let (argAddr, k) := k.stackPop t
  let (bufAddr, k) := k.stackPop t
  k.chdirWith t argAddr bufAddr

/-!
## getcwd
-/

/-- `Syscall_getcwd` with its argument. -/
def getcwdWith (k : Kernel sd) (t : TaskId) (bufAddr : Int) : Kernel sd :=
  if bufAddr = 0 then k
  else k.writeString (k.getPhysAddr t bufAddr) (k.tasks t).cwd

def syscallGetcwd (k : Kernel sd) (t : TaskId) : Kernel sd :=
  let (bufAddr, k) := k.stackPop t
  k.getcwdWith t bufAddr

/-- `Kernel_systemCall`. -/
def systemCall (k : Kernel sd) (t : TaskId) (sysId : Int) : Kernel sd :=
  if sysId = 1 then k.syscallLs t
  else if sysId = 2 then k.syscallExec t
  else if sysId = 3 then k.syscallChdir t
  else if sysId = 4 then k.syscallGetcwd t
  else k

end Kernel
end ArduOS
