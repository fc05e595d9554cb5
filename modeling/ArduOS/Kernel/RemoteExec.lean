import ArduOS.Kernel.HeapStrings
import ArduOS.Kernel.RequestBuffer

/-!
# Programs started by the host

An exec request travels from the packet into the heap of Task 0, is taken apart
there and read back by `Syscall_exec`.  Name, argument and wait option arrive at
`Kernel_loadTask` as the host sent them, cut to 31 bytes.
-/

namespace ArduOS

open Library

/-!
## Requests
-/

def argumentPart : Option (List Byte) -> List Byte
  | none => []
  | some arg => ascii ' ' :: arg

/-- The payload of an exec request: wait option, command, and maybe an argument. -/
def execPayload (w cmd : List Byte) (arg : Option (List Byte)) : List Byte :=
  w ++ ascii ' ' :: (cmd ++ argumentPart arg)

def waitFlag (w : List Byte) : Int := if w.head? = some (ascii '1') then 1 else 0

theorem findIdx?_no_space {bytes : List Byte} (h : ascii ' ' ∉ bytes) :
    (bytes.findIdx? fun c => c = ascii ' ') = none := by
  rw [List.findIdx?_eq_none_iff]
  intro c hc
  rw [decide_eq_false_iff_not]
  intro heq
  exact h (heq ▸ hc)

theorem findIdx?_first_space {bytes : List Byte} (h : ascii ' ' ∉ bytes)
    (rest : List Byte) :
    ((bytes ++ ascii ' ' :: rest).findIdx? fun c => c = ascii ' ') =
      some bytes.length := by
  rw [List.findIdx?_append, findIdx?_no_space h, List.findIdx?_cons]
  simp

theorem head?_execPayload (w cmd : List Byte) (arg : Option (List Byte)) :
    ((execPayload w cmd arg).head? = some (ascii '1')) =
      (w.head? = some (ascii '1')) := by
  cases w with
  | nil =>
      have hspace : ascii ' ' ≠ ascii '1' := by decide
      simp [execPayload, hspace]
  | cons c w => simp [execPayload]

namespace Kernel

open Records

variable {sd : SdFat}

/-!
## Loading leaves strings and the other tasks alone
-/

structure KeepsStrings (id : TaskId) (k k' : Kernel sd) : Prop where
  others : forall u, u ≠ id -> k'.tasks u = k.tasks u
  args : (k'.tasks id).args = (k.tasks id).args
  cwd : (k'.tasks id).cwd = (k.tasks id).cwd

section Loading

variable {id : TaskId} {k k' k'' : Kernel sd}

theorem KeepsStrings.of_tasks (h : k'.tasks = k.tasks) : KeepsStrings id k k' :=
  ⟨fun _ _ => by rw [h], by rw [h], by rw [h]⟩

theorem KeepsStrings.trans (h : KeepsStrings id k k') (h' : KeepsStrings id k' k'') :
    KeepsStrings id k k'' :=
  ⟨fun u hu => (h'.others u hu).trans (h.others u hu), h'.args.trans h.args,
    h'.cwd.trans h.cwd⟩

theorem modifyTask_keepsStrings (k : Kernel sd) {f : Task sd -> Task sd}
    (hargs : (f (k.tasks id)).args = (k.tasks id).args)
    (hcwd : (f (k.tasks id)).cwd = (k.tasks id).cwd) :
    KeepsStrings id k (k.modifyTask id f) := by
  constructor
  · intro u hu
    simp [modifyTask, hu]
  · simpa [modifyTask] using hargs
  · simpa [modifyTask] using hcwd

theorem KeepsStrings.modify (h : KeepsStrings id k k') {f : Task sd -> Task sd}
    (hargs : (f (k'.tasks id)).args = (k'.tasks id).args)
    (hcwd : (f (k'.tasks id)).cwd = (k'.tasks id).cwd) :
    KeepsStrings id k (k'.modifyTask id f) :=
  h.trans (modifyTask_keepsStrings k' hargs hcwd)

theorem stdWrite_keepsStrings (k : Kernel sd) (fd : Int) (str : List Byte) :
    KeepsStrings id k (k.stdWrite fd str) :=
  .of_tasks (k.stdWrite_tasks fd str)

theorem tryOpen_keepsStrings (k : Kernel sd) (id : TaskId) (path : List Byte) :
    KeepsStrings id k (k.tryOpen id path) := by
  have hnoted : KeepsStrings id k ((k.note (.chars .pathBuffer path.length)).withCard
      (sd.openPath k.card path).2) := .of_tasks rfl
  exact hnoted.modify (f := fun task =>
    { task with file := (sd.openPath k.card path).1 }) rfl rfl

theorem findProgram_keepsStrings (k : Kernel sd) (id : TaskId) (inputName : List Byte) :
    KeepsStrings id k (k.findProgram id inputName).2 := by
  have hfirst := k.tryOpen_keepsStrings id inputName
  have hsecond := hfirst.trans
    (tryOpen_keepsStrings _ id (inputName ++ text ".bin"))
  have hthird := hsecond.trans
    (tryOpen_keepsStrings _ id (text "/bin/" ++ inputName ++ text ".bin"))
  unfold findProgram
  simp only
  split
  · exact hfirst
  · split
    · exact hsecond
    · exact hthird

theorem readFile_keepsStrings (k : Kernel sd) (n : Nat) :
    KeepsStrings id k (k.readFile id n).2 := by
  unfold readFile
  split
  · exact .of_tasks rfl
  · rename_i file _
    have hcard : KeepsStrings id k (k.withCard (sd.read k.card file n).2.2) :=
      .of_tasks rfl
    exact hcard.modify (f := fun task =>
      { task with file := some (sd.read k.card file n).2.1 }) rfl rfl

theorem failLoad_keepsStrings (k : Kernel sd) (message : List Byte) :
    KeepsStrings id k (k.failLoad id message) := by
  unfold failLoad closeFile
  exact ((stdWrite_keepsStrings k _ _).modify rfl rfl).modify rfl rfl

theorem allocSegment_keepsStrings (k : Kernel sd) (size : Int) :
    KeepsStrings id k (k.allocSegment id size).2 := by
  rcases k.allocSegment_cases id size with ⟨hnone, _⟩ | ⟨start, _, hfound⟩
  · rw [hnone]
    exact .of_tasks rfl
  · have hmarked : KeepsStrings id k (k.setAllocatedRange start size true) :=
      .of_tasks (k.setAllocatedRange_tasks start size true)
    rw [hfound]
    exact hmarked.modify (f := fun task =>
      { task with heapBase := start, heapLimit := size }) rfl rfl

theorem startTask_keepsStrings (k : Kernel sd) (path : List Byte) :
    KeepsStrings id k (k.startTask id path) := by
  have hnamed : KeepsStrings id k (k.modifyTask id fun task =>
      { task with filename := path.take 127, bufferIndex := 0 }) :=
    modifyTask_keepsStrings k rfl rfl
  have hread := hnamed.trans (readFile_keepsStrings _ CODE_BUFFER_SIZE)
  unfold startTask
  simp only
  generalize readFile (k.modifyTask id _) id CODE_BUFFER_SIZE = read at hread ⊢
  rcases read with ⟨result, k₁⟩
  simp only at hread ⊢
  have hfilled := ((hread.modify (f := fun task =>
    { task with codeBuffer := overwrite result.2 task.codeBuffer }) rfl rfl).modify
    (f := Task.setRunning) rfl rfl).modify (f := fun task =>
      { task with sp := -1, wakeUpTime := 0#32 }) rfl rfl
  exact hfilled.trans (stdWrite_keepsStrings _ _ _)

/-- A load writes the strings of the new task first, and changes no other task. -/
theorem loadTask_strings (k : Kernel sd) (id : TaskId) (inputName : List Byte)
    (argStr parentCwd parentArgStr : Option (List Byte)) :
    KeepsStrings id (k.prepareTask id argStr parentCwd parentArgStr)
      (k.loadTask id inputName argStr parentCwd parentArgStr).2 := by
  unfold loadTask
  simp only
  generalize k.prepareTask id argStr parentCwd parentArgStr = k₁
  have hfound := k₁.findProgram_keepsStrings id inputName
  generalize k₁.findProgram id inputName = found at hfound ⊢
  rcases found with ⟨path, k₂⟩
  simp only at hfound ⊢
  split
  · have hread := hfound.trans (k₂.readFile_keepsStrings 4)
    generalize k₂.readFile id 4 = header at hread ⊢
    rcases header with ⟨result, k₃⟩
    simp only at hread ⊢
    split
    · split
      · have hsegment := hread.trans (k₃.allocSegment_keepsStrings
          (intOfBytes (bufferOf result.2 2) (bufferOf result.2 3)))
        generalize k₃.allocSegment id (intOfBytes (bufferOf result.2 2)
          (bufferOf result.2 3)) = allocated at hsegment ⊢
        rcases allocated with ⟨success, k₄⟩
        simp only at hsegment ⊢
        split
        · exact hsegment.trans (k₄.failLoad_keepsStrings _)
        · exact hsegment.trans (k₄.startTask_keepsStrings path)
      · exact hread.trans (k₃.failLoad_keepsStrings _)
    · exact hread.trans (k₃.failLoad_keepsStrings _)
  · simp only
    exact hfound.trans (k₂.stdWrite_keepsStrings _ _)

theorem prepareTask_others (k : Kernel sd) {id u : TaskId} (hu : u ≠ id)
    (argStr parentCwd parentArgStr : Option (List Byte)) :
    (k.prepareTask id argStr parentCwd parentArgStr).tasks u = k.tasks u := by
  simp [prepareTask, closeFile, modifyTask, hu]

end Loading

/-!
## The daemon's own stack
-/

/-- Stack, heap and output aside, everything is as before, and nothing was loaded. -/
structure SameTasks (t : TaskId) (k k' : Kernel sd) : Prop where
  card : k'.card = k.card
  bitmap : k'.heapBitmap = k.heapBitmap
  others : forall u, u ≠ t -> k'.tasks u = k.tasks u
  own : exists stack sp, k'.tasks t = { k.tasks t with stack := stack, sp := sp }
  /-- A load puts the path of the program together first. -/
  unloaded : exists new, k'.log = k.log ++ new ∧
    forall terminator, .chars .pathBuffer terminator ∉ new

section Stack

variable {t : TaskId} {k k' k'' : Kernel sd}

theorem SameTasks.of_touches {R W : Int -> Prop} (h : Touches R W k k') :
    SameTasks t k k' := by
  rcases h.changed with ⟨heap, new, tx, out, rfl, hnew⟩
  refine ⟨rfl, rfl, fun _ _ => rfl, ⟨_, _, rfl⟩, new, rfl, ?_⟩
  intro terminator hin
  cases hnew _ hin

theorem SameTasks.trans (h : SameTasks t k k') (h' : SameTasks t k' k'') :
    SameTasks t k k'' := by
  rcases h.own with ⟨stack, sp, hown⟩
  rcases h'.own with ⟨stack', sp', hown'⟩
  rcases h.unloaded with ⟨new, hlog, hnew⟩
  rcases h'.unloaded with ⟨new', hlog', hnew'⟩
  refine ⟨h'.card.trans h.card, h'.bitmap.trans h.bitmap,
    fun u hu => (h'.others u hu).trans (h.others u hu), ⟨stack', sp', ?_⟩,
    new ++ new', ?_, ?_⟩
  · rw [hown', hown]
  · rw [hlog', hlog, List.append_assoc]
  · intro terminator hin
    rcases List.mem_append.mp hin with hin | hin
    · exact hnew terminator hin
    · exact hnew' terminator hin

theorem resetStack_sameTasks (k : Kernel sd) (t : TaskId) :
    SameTasks t k (k.modifyTask t fun task => { task with sp := -1 }) :=
  ⟨rfl, rfl, fun u hu => by simp [modifyTask, hu],
    ⟨(k.tasks t).stack, -1, by simp [modifyTask]⟩, [], by simp [modifyTask], by simp⟩

theorem note_dispatch_sameTasks (k : Kernel sd) (t : TaskId) (cmdId : BitVec 16)
    (payload : List Byte) : SameTasks t k (k.note (.dispatch cmdId payload)) :=
  ⟨rfl, rfl, fun _ _ => rfl, ⟨_, _, rfl⟩, [.dispatch cmdId payload], rfl, by simp⟩

theorem stackPush_sameTasks (k : Kernel sd) (t : TaskId) (val : Int) :
    SameTasks t k (k.stackPush t val) :=
  ⟨rfl, rfl, fun u hu => by simp [stackPush, modifyTask, note, hu],
    ⟨_, _, by simp only [stackPush, modifyTask, note, Function.update_self]; rfl⟩,
    [.stack t ((k.tasks t).sp + 1)], rfl, by simp⟩

theorem stackPop_sameTasks (k : Kernel sd) (t : TaskId) :
    SameTasks t k (k.stackPop t).2 :=
  ⟨rfl, rfl, fun u hu => by simp [stackPop, modifyTask, note, hu],
    ⟨(k.tasks t).stack, (k.tasks t).sp - 1, by simp [stackPop, modifyTask, note]⟩,
    [.stack t (k.tasks t).sp], rfl, by simp⟩

theorem SameTasks.cwd (h : SameTasks t k k') : (k'.tasks t).cwd = (k.tasks t).cwd := by
  rcases h.own with ⟨stack, sp, hown⟩
  rw [hown]

theorem SameTasks.taskState (h : SameTasks t k k') (u : TaskId) :
    (k'.tasks u).taskState = (k.tasks u).taskState := by
  by_cases hu : u = t
  · rcases h.own with ⟨stack, sp, hown⟩
    rw [hu, hown]
  · rw [h.others u hu]

theorem SameTasks.freeSlot (h : SameTasks t k k') : k'.freeSlot = k.freeSlot := by
  unfold Kernel.freeSlot
  simp only [h.taskState]

end Stack

/-!
## The request taken apart
-/

def placeParts (k : Kernel sd) (cmd arg : List Byte) : Kernel sd :=
  if arg.length > 0 then (k.place 1 cmd).place 64 arg else k.place 1 cmd

def partAddr (arg : List Byte) : Int := if arg.length > 0 then 64 else 0

theorem placeParts_tasks (k : Kernel sd) (cmd arg : List Byte) :
    (k.placeParts cmd arg).tasks = k.tasks := by
  unfold placeParts
  split <;> rfl

theorem commParseExec_eq {k : Kernel sd} (hbase : (k.tasks 0).heapBase = 0)
    {w cmd : List Byte} {arg : Option (List Byte)} (hw : ascii ' ' ∉ w)
    (hcmd : ascii ' ' ∉ cmd) (hne : cmd ≠ [])
    (hlen : (execPayload w cmd arg).length <= 244) :
    k.commParseExec 0 (execPayload w cmd arg) =
      ((waitFlag w, partAddr (arg.getD [])), k.placeParts cmd (arg.getD [])) := by
  have hsize : (GLOBAL_HEAP_SIZE : Int) = 1024 := rfl
  have hpos : cmd.length > 0 := List.length_pos_iff.mpr hne
  have hfirst : ((execPayload w cmd arg).findIdx? fun c => c = ascii ' ') =
      some w.length := findIdx?_first_space hw (cmd ++ argumentPart arg)
  have hwait : (if (execPayload w cmd arg).head? = some (ascii '1') then (1 : Int)
      else 0) = waitFlag w := by
    unfold waitFlag
    simp only [head?_execPayload]
  have hrest : (execPayload w cmd arg).drop (w.length + 1) =
      cmd ++ argumentPart arg := by
    simp [execPayload, List.drop_append]
  have hshort : cmd.length + (arg.getD []).length <= 243 := by
    cases arg with
    | none =>
        simp [execPayload, argumentPart] at hlen ⊢
        omega
    | some a =>
        simp [execPayload, argumentPart] at hlen ⊢
        omega
  have hstored : k.commStorePart 0 1 cmd = k.place 1 cmd := by
    rw [commStorePart_eq hbase (by omega), if_pos hpos]
  unfold commParseExec
  simp only [hfirst, hwait, hrest]
  cases arg with
  | none =>
      simp only [argumentPart, List.append_nil, findIdx?_no_space hcmd, hstored]
      rfl
  | some a =>
      have htake : (cmd ++ ascii ' ' :: a).take cmd.length = cmd := List.take_left
      have hdrop : (cmd ++ ascii ' ' :: a).drop (cmd.length + 1) = a := by
        simp [List.drop_append]
      have hlong : a.length <= 243 := by
        simp only [Option.getD_some] at hshort
        omega
      have hbase' : ((k.place 1 cmd).tasks 0).heapBase = 0 := hbase
      simp only [argumentPart, findIdx?_first_space hcmd, htake, hdrop, hstored,
        Option.getD_some]
      rw [commStorePart_eq hbase' (by omega)]
      unfold partAddr placeParts
      by_cases ha : a.length > 0
      · rw [if_pos ⟨ha, by omega⟩, if_pos ha, if_pos ha]
      · rw [if_neg (fun h => ha h.left), if_neg ha, if_neg ha]

/-- The command can be read back even where the argument overwrites its end. -/
theorem placeParts_holds_command (k : Kernel sd) (cmd arg : List Byte) :
    HoldsString (k.placeParts cmd arg).globalHeap 1 cmd 31 := by
  have hkept : forall c : Int, c < 64 ->
      (k.placeParts cmd arg).globalHeap c = placed k.globalHeap 1 cmd c := by
    intro c hc
    unfold placeParts
    split
    · exact (k.place 1 cmd).place_kept (Or.inl hc)
    · rfl
  constructor
  · intro i hi hin
    rw [hkept _ (by omega), placed_cell k.globalHeap 1 hin]
  · intro hlt
    rw [hkept _ (by omega), placed_end]

theorem placeParts_holds_argument (k : Kernel sd) (cmd arg : List Byte)
    (harg : arg.length > 0) :
    HoldsString (k.placeParts cmd arg).globalHeap 64 arg 31 := by
  unfold placeParts
  rw [if_pos harg]
  constructor
  · intro i _ hin
    exact placed_cell (k.place 1 cmd).globalHeap 64 hin
  · intro _
    exact placed_end (k.place 1 cmd).globalHeap 64 arg

/-!
## The call of the loader
-/

def argString (arg : List Byte) : Option (List Byte) :=
  if arg.length > 0 then some (cString (arg.take 31)) else none

theorem getPhysAddr_daemon {k : Kernel sd} (hbase : (k.tasks 0).heapBase = 0)
    (addr : Int) : k.getPhysAddr 0 addr = addr := by
  unfold getPhysAddr
  rw [hbase]
  split <;> omega

theorem readString_sameTasks (k : Kernel sd) (t : TaskId) (n : Nat)
    (inRange stop : Int -> Bool) (addr : Int) :
    SameTasks t k (k.readString n inRange stop addr).2 :=
  .of_touches (readString_touches (R := fun _ => True) (W := fun _ => True) k n inRange
    stop addr fun _ _ _ _ => trivial)

theorem execWith_eq {k : Kernel sd} (hbase : (k.tasks 0).heapBase = 0)
    {cmd arg : List Byte} (hcmd : ascii ' ' ∉ cmd)
    (hname : HoldsString k.globalHeap 1 cmd 31)
    (harg : arg.length > 0 -> HoldsString k.globalHeap 64 arg 31) {child : TaskId}
    (hchild : k.freeSlot = some child) (waitOpt : Int) :
    exists k₁, SameTasks 0 k k₁ ∧ (k₁.tasks 0).sp = (k.tasks 0).sp ∧
      k.execWith 0 waitOpt 1 (partAddr arg) =
        k₁.execLoad 0 child (cString (cmd.take 31)) (argString arg) waitOpt := by
  have hsize : (GLOBAL_HEAP_SIZE : Int) = 1024 := rfl
  have hread := k.readString_word (fun hin => hcmd (List.mem_of_mem_take hin)) hname
    (by omega) (by omega)
  have hsame := k.readString_sameTasks 0 31 belowHeapSize isNullOrSpace 1
  have htasks := k.readString_tasks 31 belowHeapSize isNullOrSpace 1
  have hheap := k.readString_globalHeap 31 belowHeapSize isNullOrSpace 1
  unfold execWith
  simp only [getPhysAddr_daemon hbase, ite_self]
  generalize k.readString 31 belowHeapSize isNullOrSpace 1 = read
    at hread hsame htasks hheap ⊢
  rcases read with ⟨cmdStr, k₁⟩
  simp only at hread hsame htasks hheap ⊢
  rw [hread, cString_cString]
  unfold partAddr argString
  by_cases hpos : arg.length > 0
  · have hholds : HoldsString k₁.globalHeap 64 arg 31 := by
      rw [hheap]
      exact harg hpos
    have hreadArg := k₁.readString_cString hholds (by omega) (by omega)
    have hsameArg := k₁.readString_sameTasks 0 31 belowHeapSize isNull 64
    have htasksArg := k₁.readString_tasks 31 belowHeapSize isNull 64
    simp only [if_pos hpos, ne_eq, OfNat.ofNat_ne_zero, not_false_eq_true, if_true]
    generalize k₁.readString 31 belowHeapSize isNull 64 = readArg
      at hreadArg hsameArg htasksArg ⊢
    rcases readArg with ⟨argStr, k₂⟩
    simp only at hreadArg hsameArg htasksArg ⊢
    have hwhole := hsame.trans hsameArg
    rw [hwhole.freeSlot, hchild, hreadArg]
    refine ⟨k₂, hwhole, by rw [htasksArg, htasks], ?_⟩
    simp only [cString_cString]
  · simp only [if_neg hpos, ne_eq, not_true_eq_false, if_false]
    rw [hsame.freeSlot, hchild]
    exact ⟨k₁, hsame, by rw [htasks], rfl⟩

def execDone (w : List Byte) (child : TaskId) (loaded : Bool × Kernel sd) : Kernel sd :=
  let (success, k) := loaded
  let k :=
    if success then
      let k := k.note (.exec 0 child (waitFlag w))
      if waitFlag w = 1 then k.modifyTask 0 fun task => task.waitForChild child else k
    else k
  k.stdWrite FD_STDOUT (text "Exec started.\n")

def loadRequested (k : Kernel sd) (child : TaskId) (cmd arg : List Byte) :
    Bool × Kernel sd :=
  k.loadTask child (cString (cmd.take 31)) none (some (k.tasks 0).cwd) (argString arg)

theorem systemCall_exec_pushed (k : Kernel sd) (t : TaskId) (argAddr cmdAddr waitOpt : Int) :
    exists k₁, SameTasks t k k₁ ∧ k₁.globalHeap = k.globalHeap ∧
      (k₁.tasks t).sp = (k.tasks t).sp ∧
      (((k.stackPush t argAddr).stackPush t cmdAddr).stackPush t waitOpt).systemCall t 2 =
        k₁.execWith t waitOpt cmdAddr argAddr := by
  have hcmd := stackPush_operand_succ ((k.stackPush t argAddr).stackPush t cmdAddr) t
    waitOpt 0 (Int.le_refl 0)
  have harg := stackPush_operand_succ ((k.stackPush t argAddr).stackPush t cmdAddr) t
    waitOpt 1 (by omega)
  have harg' := stackPush_operand_succ (k.stackPush t argAddr) t cmdAddr 0
    (Int.le_refl 0)
  rw [stackPush_operand] at hcmd harg'
  have hpushed := ((k.stackPush_sameTasks t argAddr).trans
    (stackPush_sameTasks _ t cmdAddr)).trans (stackPush_sameTasks _ t waitOpt)
  have hsp : ((((k.stackPush t argAddr).stackPush t cmdAddr).stackPush t
      waitOpt).tasks t).sp = (k.tasks t).sp + 3 := by
    rw [stackPush_sp, stackPush_sp, stackPush_sp]
    omega
  have hoperand : (((k.stackPush t argAddr).stackPush t cmdAddr).stackPush t
      waitOpt).operand t 0 = waitOpt := stackPush_operand _ t waitOpt
  have hheap : (((k.stackPush t argAddr).stackPush t cmdAddr).stackPush t
      waitOpt).globalHeap = k.globalHeap := rfl
  generalize ((k.stackPush t argAddr).stackPush t cmdAddr).stackPush t waitOpt = k₁
    at hcmd harg hpushed hsp hoperand hheap ⊢
  refine ⟨(((k₁.stackPop t).2.stackPop t).2.stackPop t).2, ?_, hheap, ?_, ?_⟩
  · exact ((hpushed.trans (stackPop_sameTasks _ t)).trans
      (stackPop_sameTasks _ t)).trans (stackPop_sameTasks _ t)
  · rw [stackPop_sp, stackPop_sp, stackPop_sp, hsp]
    omega
  · have hcall : k₁.systemCall t 2 = k₁.syscallExec t := rfl
    rw [hcall, syscallExec_eq, hoperand]
    rw [show k₁.operand t 1 = cmdAddr from hcmd]
    rw [show k₁.operand t 2 = argAddr from harg.trans harg']

theorem commExec_eq {k : Kernel sd} (hbase : (k.tasks 0).heapBase = 0)
    {w cmd : List Byte} {arg : Option (List Byte)} (hw : ascii ' ' ∉ w)
    (hcmd : ascii ' ' ∉ cmd) (hne : cmd ≠ [])
    (hlen : (execPayload w cmd arg).length <= 244) {child : TaskId}
    (hchild : k.freeSlot = some child) :
    exists k₁, SameTasks 0 k k₁ ∧ (k₁.tasks 0).sp = (k.tasks 0).sp ∧
      k.commExec 0 (execPayload w cmd arg) =
        execDone w child (k₁.loadRequested child cmd (arg.getD [])) := by
  have hparsed := commParseExec_eq hbase hw hcmd hne hlen
  have htasks := k.placeParts_tasks cmd (arg.getD [])
  have hstored : SameTasks 0 k (k.placeParts cmd (arg.getD [])) := by
    have htouches := k.commParseExec_touches 0 (execPayload w cmd arg)
    rw [hparsed] at htouches
    exact .of_touches htouches
  have hname := k.placeParts_holds_command cmd (arg.getD [])
  have hargument := k.placeParts_holds_argument cmd (arg.getD [])
  unfold commExec
  simp only [hparsed]
  generalize k.placeParts cmd (arg.getD []) = k₁ at htasks hstored hname hargument ⊢
  rcases k₁.systemCall_exec_pushed 0 (partAddr (arg.getD [])) 1 (waitFlag w) with
    ⟨k₂, hpopped, hheap, hsp, hcall⟩
  have hbase₂ : (k₂.tasks 0).heapBase = 0 := by
    rcases (hstored.trans hpopped).own with ⟨stack, sp, hown⟩
    rw [hown]
    exact hbase
  have hfree : k₂.freeSlot = some child := by
    rw [(hstored.trans hpopped).freeSlot, hchild]
  rw [← hheap] at hname hargument
  rcases execWith_eq hbase₂ hcmd hname hargument hfree (waitFlag w) with
    ⟨k₃, hread, hsp₃, hload⟩
  refine ⟨k₃, (hstored.trans hpopped).trans hread, ?_, ?_⟩
  · rw [hsp₃, hsp, htasks]
  · rw [hcall, hload]
    rfl

/-- A request up to the load, in any state in which the daemon has its segment. -/
theorem commRequest_exec_load {k : Kernel sd} (hbase : (k.tasks 0).heapBase = 0)
    (hlimit : (k.tasks 0).heapLimit = 128) {w cmd : List Byte}
    {arg : Option (List Byte)} (hw : ascii ' ' ∉ w) (hcmd : ascii ' ' ∉ cmd)
    (hne : cmd ≠ []) (hlen : (execPayload w cmd arg).length <= 244) {child : TaskId}
    (hchild : k.freeSlot = some child) :
    exists k₁, SameTasks 0 k k₁ ∧ (k₁.tasks 0).sp = -1 ∧
      k.commRequest 0 SYS_EXEC (execPayload w cmd arg) =
        execDone w child (k₁.loadRequested child cmd (arg.getD [])) := by
  have hnoted := k.note_dispatch_sameTasks 0 SYS_EXEC (execPayload w cmd arg)
  have hpayload := commStorePayload_eq
    (k := k.note (.dispatch SYS_EXEC (execPayload w cmd arg))) hbase hlimit hlen
  have htouches := (k.note (.dispatch SYS_EXEC
    (execPayload w cmd arg))).commStorePayload_touches 0 (execPayload w cmd arg)
  rw [hpayload] at htouches
  have hready := (hnoted.trans (.of_touches htouches)).trans (resetStack_sameTasks _ 0)
  have hsp : (((((k.note (.dispatch SYS_EXEC (execPayload w cmd arg))).place 1
      (execPayload w cmd arg)).modifyTask 0 fun task => { task with sp := -1 }).tasks
        0).sp = -1) := by
    simp [modifyTask]
  have hexec : k.commRequest 0 SYS_EXEC (execPayload w cmd arg) =
      (((k.note (.dispatch SYS_EXEC (execPayload w cmd arg))).place 1
        (execPayload w cmd arg)).modifyTask 0 fun task =>
          { task with sp := -1 }).commExec 0 (execPayload w cmd arg) := by
    unfold commRequest
    simp only [hpayload]
    rfl
  rw [hexec]
  generalize ((k.note (.dispatch SYS_EXEC (execPayload w cmd arg))).place 1
    (execPayload w cmd arg)).modifyTask 0 (fun task => { task with sp := -1 }) = k₁
    at hready hsp ⊢
  have hbase₁ : (k₁.tasks 0).heapBase = 0 := by
    rcases hready.own with ⟨stack, sp, hown⟩
    rw [hown]
    exact hbase
  have hfree : k₁.freeSlot = some child := by rw [hready.freeSlot, hchild]
  rcases commExec_eq hbase₁ hw hcmd hne hlen hfree with ⟨k₂, hsame, hsp₂, hdone⟩
  exact ⟨k₂, hready.trans hsame, by rw [hsp₂, hsp], hdone⟩

/-!
## Requests
-/

/-- The slot a new program gets. -/
structure LowestFree (k : Kernel sd) (child : TaskId) : Prop where
  positive : child ≠ 0
  free : (k.tasks child).taskState = .free
  lowest : forall u : TaskId, u ≠ 0 -> u < child -> (k.tasks u).taskState ≠ .free

theorem LowestFree.freeSlot {k : Kernel sd} {child : TaskId} (h : LowestFree k child) :
    k.freeSlot = some child := by
  unfold Kernel.freeSlot
  rw [List.find?_eq_some_iff_getElem]
  refine ⟨by simp [h.positive, h.free], child.val, by simp, by simp, ?_⟩
  intro j hj
  by_cases hzero : j = 0
  · simp [hzero]
  · have hslot : j < TASK_COUNT := by omega
    have hbusy := h.lowest ⟨j, hslot⟩ (fun heq => hzero (congrArg Fin.val heq)) hj
    simp [hbusy]

section Loaded

variable {k : Kernel sd} {child : TaskId} {w cmd arg : List Byte}

theorem loadRequested_strings (k : Kernel sd) (child : TaskId) (cmd arg : List Byte) :
    ((k.loadRequested child cmd arg).2.tasks child).args = cString (arg.take 31) ∧
      ((k.loadRequested child cmd arg).2.tasks child).cwd = (k.tasks 0).cwd.take 31 := by
  have hkept := k.loadTask_strings child (cString (cmd.take 31)) none
    (some (k.tasks 0).cwd) (argString arg)
  have hshort : (cString (arg.take 31)).length <= 31 := by
    have htake : (arg.take 31).length <= 31 := List.length_take_le ..
    exact Nat.le_trans (List.takeWhile_sublist _).length_le htake
  constructor
  · refine hkept.args.trans ?_
    unfold argString
    by_cases harg : arg.length > 0
    · simp [prepareTask, closeFile, modifyTask, harg, List.take_of_length_le hshort]
    · have hnil : arg = [] := List.length_eq_zero_iff.mp (by omega)
      simp [prepareTask, closeFile, modifyTask, hnil, cString]
  · refine hkept.cwd.trans ?_
    simp [prepareTask, closeFile, modifyTask]

theorem loadRequested_own (k : Kernel sd) (hchild : child ≠ 0) (cmd arg : List Byte) :
    (k.loadRequested child cmd arg).2.tasks 0 = k.tasks 0 := by
  have hkept := k.loadTask_strings child (cString (cmd.take 31)) none
    (some (k.tasks 0).cwd) (argString arg)
  have hne : (0 : TaskId) ≠ child := fun heq => hchild heq.symm
  exact (hkept.others 0 hne).trans (k.prepareTask_others hne _ _ _)

theorem execDone_others (w : List Byte) (child : TaskId) (loaded : Bool × Kernel sd)
    {u : TaskId} (hu : u ≠ 0) :
    (execDone w child loaded).tasks u = loaded.2.tasks u := by
  rcases loaded with ⟨success, k⟩
  unfold execDone
  simp only [stdWrite_tasks]
  cases success with
  | false => rfl
  | true =>
      simp only [if_true]
      split
      · simp [modifyTask, note, hu]
      · rfl

theorem execDone_own (w : List Byte) (child : TaskId) (loaded : Bool × Kernel sd) :
    (execDone w child loaded).tasks 0 =
      if loaded.1 = true ∧ waitFlag w = 1 then (loaded.2.tasks 0).waitForChild child
      else loaded.2.tasks 0 := by
  rcases loaded with ⟨success, k⟩
  unfold execDone
  simp only [stdWrite_tasks]
  cases success with
  | false => simp
  | true =>
      simp only [if_true, true_and]
      split
      · simp [modifyTask, note]
      · rfl

end Loaded

/-- `k₁` is the state in which the request, taken from `k` to `k'`, loads its program. -/
structure PassesThrough (w cmd arg : List Byte) (child : TaskId) (k k₁ k' : Kernel sd) :
    Prop where
  before : SameTasks 0 k k₁
  /-- The one call of `Kernel_loadTask`; nothing is loaded before or after it. -/
  call : k' = execDone w child (k₁.loadRequested child cmd arg)
  args : (k₁.loadRequested child cmd arg).1 = true ->
    (k'.tasks child).args = cString (arg.take 31)
  cwd : (k₁.loadRequested child cmd arg).1 = true -> (k.tasks 0).cwd.length <= 31 ->
    (k'.tasks child).cwd = (k.tasks 0).cwd
  waits : (k₁.loadRequested child cmd arg).1 = true ->
    ((k'.tasks 0).taskState = .paused child <-> w.head? = some (ascii '1'))
  stack : (k'.tasks 0).sp = -1

/-- The state in which a poll has found a packet, whatever the heap holds. -/
def polledWith (k : Kernel sd) (hal : Hal) (rxBuffer : Buffer) (heap : Int -> Int) :
    Kernel sd :=
  { k.polled hal rxBuffer with globalHeap := heap }

/--
In every reachable state in which the daemon runs, with any heap, an exec
request of the host loads the program it names, with its argument, in the
lowest free slot.
-/
theorem exec_request_passes_through {k : Kernel sd} (hk : Reachable k)
    (hrunning : (k.tasks 0).isRunnable = true) (hal : Hal) (rxBuffer : Buffer)
    (heap : Int -> Int) {w cmd : List Byte} {arg : Option (List Byte)}
    (hw : ascii ' ' ∉ w) (hcmd : ascii ' ' ∉ cmd) (hne : cmd ≠ [])
    (hlen : (execPayload w cmd arg).length <= 244) {child : TaskId}
    (hchild : LowestFree k child) :
    exists k₁, PassesThrough w cmd (arg.getD []) child
      (k.polledWith hal rxBuffer heap) k₁
      ((k.polledWith hal rxBuffer heap).commRequest 0 SYS_EXEC
        (execPayload w cmd arg)) := by
  have hdaemon := hk.daemon.right
  have hbase : ((k.polledWith hal rxBuffer heap).tasks 0).heapBase = 0 := hdaemon.base
  have hlimit : ((k.polledWith hal rxBuffer heap).tasks 0).heapLimit = 128 :=
    hdaemon.limit
  have hrunning' : (k.tasks 0).taskState = .running := by
    simpa [Task.isRunnable] using hrunning
  have hstate : ((k.polledWith hal rxBuffer heap).tasks 0).taskState = .running :=
    hrunning'
  have hfree : (k.polledWith hal rxBuffer heap).freeSlot = some child := hchild.freeSlot
  rcases commRequest_exec_load hbase hlimit hw hcmd hne hlen hfree with
    ⟨k₁, hsame, hsp, hdone⟩
  have hstrings := k₁.loadRequested_strings child cmd (arg.getD [])
  have hown := k₁.loadRequested_own hchild.positive cmd (arg.getD [])
  rw [hsame.cwd] at hstrings
  refine ⟨k₁, hsame, ?_, ?_, ?_, ?_, ?_⟩
  · exact hdone
  · intro _
    rw [hdone, execDone_others w child _ hchild.positive]
    exact hstrings.left
  · intro _ hshort
    rw [hdone, execDone_others w child _ hchild.positive, hstrings.right,
      List.take_of_length_le hshort]
  · intro hsuccess
    rw [hdone, execDone_own, hown]
    unfold waitFlag
    by_cases hwait : w.head? = some (ascii '1')
    · simp [hsuccess, hwait, Task.waitForChild]
    · simp [hwait, hsame.taskState, hstate]
  · rw [hdone, execDone_own, hown]
    split
    · exact hsp
    · exact hsp

def bootedMachine : Kernel CardImage.sdFat := boot (CardImage.ofProgram 16#8 [0x00#8] 4)

set_option maxRecDepth 4000 in
/-- The first request after power-up loads into slot 1. -/
theorem exec_request_passes_through_boot :
    exists k₁, PassesThrough (text "1") (text "p") (text "a b") 1
      (bootedMachine.polledWith Hal.reset (fun _ => 0#8) fun _ => 7) k₁
      ((bootedMachine.polledWith Hal.reset (fun _ => 0#8) fun _ => 7).commRequest 0
        SYS_EXEC (text "1 p a b")) := by
  have hslots : (bootedMachine.tasks 0).isRunnable = true ∧
      (bootedMachine.tasks 1).taskState = .free := by decide +kernel
  have hpayload : execPayload (text "1") (text "p") (some (text "a b")) =
      text "1 p a b" := by decide
  have hlowest : LowestFree bootedMachine 1 := by
    refine ⟨by decide, hslots.right, ?_⟩
    intro u hzero hlt
    have hval : u.val < 1 := hlt
    exact absurd (Fin.ext (Nat.lt_one_iff.mp hval)) hzero
  have hwait : ascii ' ' ∉ text "1" := by decide
  have hcmd : ascii ' ' ∉ text "p" := by decide
  have hlen : (execPayload (text "1") (text "p") (some (text "a b"))).length <= 244 := by
    decide
  have hpasses := exec_request_passes_through (k := bootedMachine) ⟨_, [], rfl⟩
    hslots.left Hal.reset (fun _ => 0#8) (fun _ => 7) hwait hcmd (by decide) hlen hlowest
  rw [hpayload] at hpasses
  exact hpasses

end Kernel
end ArduOS
