import ArduOS.Kernel.Placement
import ArduOS.Kernel.RemoteExec

/-!
# Exec is all or nothing

What `Kernel_loadTask` finds on the card decides how `Syscall_exec` ends: either
the kernel is as before but for the operands and the strings of the slot, or one
FREE slot runs the program in a segment of cells that were all free.
-/

namespace ArduOS

open Library

/-!
## What the card holds
-/

def SdFat.programFile (sd : SdFat) (card : sd.Card) (name : List Byte) :
    Option sd.File × sd.Card :=
  match sd.openPath card name with
  | (some file, card) => (some file, card)
  | (none, card) =>
      match sd.openPath card (name ++ text ".bin") with
      | (some file, card) => (some file, card)
      | (none, card) => sd.openPath card (text "/bin/" ++ name ++ text ".bin")

/-- Whether the header of that file can be read, and the bytes read. -/
def SdFat.programHeader (sd : SdFat) (card : sd.Card) (name : List Byte) :
    Option (Bool × List Byte) :=
  (sd.programFile card name).1.map fun file =>
    let result := (sd.read (sd.programFile card name).2 file 4).1
    (result.1, result.2.take 4)

def headerSize (header : List Byte) : Int :=
  intOfBytes (bufferOf header 2) (bufferOf header 3)

/-- Four bytes, the first two of them the magic number. -/
structure GoodHeader (header : Bool × List Byte) : Prop where
  complete : header.1 = true ∧ header.2.length = 4
  magic : bufferOf header.2 0 = 0xAD#8 ∧ bufferOf header.2 1 = 0x01#8

namespace Kernel

open Records

variable {sd : SdFat}

/-- Why a load of `name` fails. -/
inductive LoadFailure (k : Kernel sd) (name : List Byte) : Prop where
  | notFound (h : sd.programHeader k.card name = none)
  | tooShort (header : Bool × List Byte)
      (h : sd.programHeader k.card name = some header)
      (hshort : ¬ (header.1 = true ∧ header.2.length = 4))
  | badMagic (header : Bool × List Byte)
      (h : sd.programHeader k.card name = some header)
      (hmagic : ¬ (bufferOf header.2 0 = 0xAD#8 ∧ bufferOf header.2 1 = 0x01#8))
  | noHeap (header : Bool × List Byte)
      (h : sd.programHeader k.card name = some header) (hgood : GoodHeader header)
      (hnone : forall start,
        ¬ FreeRun k.isAllocated GLOBAL_HEAP_SIZE start (headerSize header.2))

theorem findProgram_programFile (k : Kernel sd) (id : TaskId) (name : List Byte) :
    ((k.findProgram id name).2.tasks id).file = (sd.programFile k.card name).1 ∧
      (k.findProgram id name).2.card = (sd.programFile k.card name).2 := by
  have hfirst := k.tryOpen_file id name
  have hsecond := (k.tryOpen id name).tryOpen_file id (name ++ text ".bin")
  have hthird := ((k.tryOpen id name).tryOpen id (name ++ text ".bin")).tryOpen_file id
    (text "/bin/" ++ name ++ text ".bin")
  rw [hfirst.right] at hsecond
  rw [hsecond.right] at hthird
  unfold findProgram SdFat.programFile
  simp only
  generalize k.tryOpen id name = k₁ at hfirst hsecond hthird ⊢
  generalize k₁.tryOpen id (name ++ text ".bin") = k₂ at hsecond hthird ⊢
  cases hone : sd.openPath k.card name with
  | mk found card =>
      rw [hone] at hfirst hsecond hthird
      cases found with
      | some file => simp [hfirst]
      | none =>
          simp only at hfirst hsecond hthird ⊢
          cases htwo : sd.openPath card (name ++ text ".bin") with
          | mk found' card' =>
              rw [htwo] at hsecond hthird
              cases found' with
              | some file => simp [hfirst, hsecond]
              | none =>
                  simp only [hfirst.left, hsecond.left, Option.isSome_none,
                    Bool.false_eq_true, if_false]
                  exact hthird

theorem prepareTask_card (k : Kernel sd) (id : TaskId)
    (argStr parentCwd parentArgStr : Option (List Byte)) :
    (k.prepareTask id argStr parentCwd parentArgStr).card = k.card := rfl

theorem startTask_sp (k : Kernel sd) (id : TaskId) (path : List Byte) :
    ((k.startTask id path).tasks id).sp = -1 ∧
      ((k.startTask id path).tasks id).wakeUpTime = 0#32 := by
  unfold startTask
  simp only [stdWrite_tasks]
  simp [modifyTask]

structure Started (k k' : Kernel sd) (id : TaskId) (size : Int) : Prop where
  running : (k'.tasks id).taskState = .running
  sp : (k'.tasks id).sp = -1
  wakeUpTime : (k'.tasks id).wakeUpTime = 0#32
  limit : (k'.tasks id).heapLimit = size
  run : FreeRun k.isAllocated GLOBAL_HEAP_SIZE (k'.tasks id).heapBase size
  marked : MarksExactly k k' (k'.tasks id).heapBase size

theorem loadTask_cases (k : Kernel sd) (id : TaskId) (name : List Byte)
    (argStr parentCwd parentArgStr : Option (List Byte)) :
    ((k.loadTask id name argStr parentCwd parentArgStr).1 = false ∧
        LoadFailure k name) ∨
      exists header, sd.programHeader k.card name = some header ∧ GoodHeader header ∧
        (k.loadTask id name argStr parentCwd parentArgStr).1 = true ∧
        Started k (k.loadTask id name argStr parentCwd parentArgStr).2 id
          (headerSize header.2) := by
  have hprepared := k.prepareTask_records id argStr parentCwd parentArgStr
  have hcard := k.prepareTask_card id argStr parentCwd parentArgStr
  unfold loadTask
  simp only
  generalize k.prepareTask id argStr parentCwd parentArgStr = k₁ at hprepared hcard ⊢
  have hfound := k₁.findProgram_records id name
  have hfile := k₁.findProgram_programFile id name
  rw [hcard] at hfile
  generalize k₁.findProgram id name = found at hfound hfile ⊢
  rcases found with ⟨path, k₂⟩
  simp only at hfound hfile ⊢
  have halloc₂ : k₂.isAllocated = k.isAllocated := by
    have hsame := congrArg Records.allocated hfound
    rw [hprepared] at hsame
    exact hsame
  cases hopen : (sd.programFile k.card name).1 with
  | none =>
      rw [hopen] at hfile
      left
      simp only [hfile.left, Option.isSome_none, Bool.false_eq_true, if_false]
      exact ⟨trivial, .notFound (by simp [SdFat.programHeader, hopen])⟩
  | some file =>
      rw [hopen] at hfile
      have hheader : sd.programHeader k.card name = some (k₂.readFile id 4).1 := by
        rw [k₂.readFile_fst id 4 hfile.left, hfile.right]
        simp [SdFat.programHeader, hopen]
      have hread := k₂.records_readFile id 4
      simp only [hfile.left, Option.isSome_some, if_true]
      generalize k₂.readFile id 4 = header at hheader hread ⊢
      rcases header with ⟨result, k₃⟩
      simp only at hheader hread ⊢
      by_cases hlength : result.1 = true ∧ result.2.length = 4
      · rw [if_pos hlength]
        by_cases hmagic : bufferOf result.2 0 = 0xAD#8 ∧ bufferOf result.2 1 = 0x01#8
        · rw [if_pos hmagic]
          have hgood : GoodHeader result := ⟨hlength, hmagic⟩
          have halloc₃ : k₃.isAllocated = k.isAllocated :=
            (congrArg Records.allocated hread).trans halloc₂
          rcases k₃.allocSegment_cases id
            (intOfBytes (bufferOf result.2 2) (bufferOf result.2 3)) with
              ⟨hfail, hnone⟩ | ⟨start, hrun, hsegment⟩
          · left
            rw [hfail]
            rw [halloc₃] at hnone
            exact ⟨rfl, .noHeap result hheader hgood hnone⟩
          · right
            rw [hsegment]
            rw [halloc₃] at hrun
            refine ⟨result, hheader, hgood, rfl, ?_⟩
            simp only [not_true_eq_false, if_false]
            generalize hk₄ : (k₃.setAllocatedRange start _ true).modifyTask id _ = k₄
            have hstarted := k₄.startTask_records id path
            have hrecord := congrArg (fun r => r.task id) hstarted
            have hbits := congrArg Records.allocated hstarted
            simp only [records_task, Records.modify, Function.update_self] at hrecord
            have htask : ((k₄.startTask id path).tasks id).heapBase = start ∧
                ((k₄.startTask id path).tasks id).heapLimit = headerSize result.2 := by
              have hbase := congrArg TaskRecord.heapBase hrecord
              have hlimit := congrArg TaskRecord.heapLimit hrecord
              simp only [Task.record, ← hk₄, modifyTask, Function.update_self] at hbase hlimit
              exact ⟨by rw [← hk₄]; exact hbase, by rw [← hk₄]; exact hlimit⟩
            have hstate := k₄.startTask_sp id path
            refine ⟨congrArg TaskRecord.state hrecord, hstate.left, hstate.right,
              htask.right, ?_, ?_⟩
            · rw [htask.left]
              exact hrun.run
            · intro c
              rw [htask.left]
              have hmarked := k₃.setAllocatedRange_marksExactly start
                (headerSize result.2) c
              rw [halloc₃] at hmarked
              rw [← hmarked]
              have hsame : (k₄.startTask id path).isAllocated = k₄.isAllocated := hbits
              rw [hsame, ← hk₄]
              rfl
        · rw [if_neg hmagic]
          left
          exact ⟨rfl, .badMagic result hheader hmagic⟩
      · rw [if_neg hlength]
        left
        exact ⟨rfl, .tooShort result hheader hlength⟩

/-!
## The loaded slot and the others
-/

theorem heapBitmap_ext {k k' : Kernel sd} (h : k'.isAllocated = k.isAllocated) :
    k'.heapBitmap = k.heapBitmap := by
  funext idx
  apply BitVec.eq_of_getLsbD_eq
  intro i hi
  have hbit := congrFun h (8 * idx + i)
  rw [isAllocated_eq_getLsbD, isAllocated_eq_getLsbD] at hbit
  have hbyte : (8 * idx + (i : Int)) / 8 = idx := by omega
  have hpos : ((8 * idx + (i : Int)) % 8).toNat = i := by omega
  rw [hbyte, hpos] at hbit
  exact hbit

theorem loadTask_globalHeap (k : Kernel sd) (id : TaskId) (name : List Byte)
    (argStr parentCwd parentArgStr : Option (List Byte)) :
    (k.loadTask id name argStr parentCwd parentArgStr).2.globalHeap = k.globalHeap := by
  have heffect := k.loadTask_effect (P := fun a => forall c, a ≠ .heapWrite c) id name
    argStr parentCwd parentArgStr (by simp)
  funext c
  exact heffect.heap c (by simp)

theorem loadTask_others (k : Kernel sd) {id u : TaskId} (hu : u ≠ id) (name : List Byte)
    (argStr parentCwd parentArgStr : Option (List Byte)) :
    (k.loadTask id name argStr parentCwd parentArgStr).2.tasks u = k.tasks u :=
  ((k.loadTask_strings id name argStr parentCwd parentArgStr).others u hu).trans
    (k.prepareTask_others hu argStr parentCwd parentArgStr)

structure SlotKept (task task' : Task sd) : Prop where
  free : task'.taskState = .free
  base : task'.heapBase = task.heapBase
  limit : task'.heapLimit = task.heapLimit
  table : task'.allocTable = task.allocTable
  closed : task'.file = none

theorem loadTask_failed {k : Kernel sd} {id : TaskId} {name : List Byte}
    {argStr parentCwd parentArgStr : Option (List Byte)}
    (hfree : (k.tasks id).taskState = .free)
    (hfail : (k.loadTask id name argStr parentCwd parentArgStr).1 = false) :
    (k.loadTask id name argStr parentCwd parentArgStr).2.heapBitmap = k.heapBitmap ∧
      SlotKept (k.tasks id)
        ((k.loadTask id name argStr parentCwd parentArgStr).2.tasks id) := by
  rcases k.loadTask_records id name argStr parentCwd parentArgStr hfree with
    ⟨_, hrecords⟩ | ⟨start, size, hok, _⟩
  · generalize (k.loadTask id name argStr parentCwd parentArgStr).2 = k' at hrecords ⊢
    have hrecord := congrArg (fun r => r.task id) hrecords
    simp only [records_task, Records.modify, Function.update_self] at hrecord
    have hopen := congrArg TaskRecord.fileOpen hrecord
    refine ⟨heapBitmap_ext (congrArg Records.allocated hrecords),
      (congrArg TaskRecord.state hrecord).trans hfree,
      congrArg TaskRecord.heapBase hrecord, congrArg TaskRecord.heapLimit hrecord,
      congrArg TaskRecord.allocTable hrecord, ?_⟩
    exact Option.isNone_iff_eq_none.mp (by simpa [Task.record] using hopen)
  · rw [hok] at hfail
    cases hfail

/-!
## The system call
-/

def callerAfter (task : Task sd) (state : TaskState) : Task sd :=
  { task with sp := task.sp - 3, taskState := state }

/-- Nothing but the stack of the caller and the strings of the slot has changed. -/
structure ExecRefused (k k' : Kernel sd) (t : TaskId) (slot : Option TaskId) : Prop where
  bitmap : k'.heapBitmap = k.heapBitmap
  heap : k'.globalHeap = k.globalHeap
  caller : k'.tasks t = callerAfter (k.tasks t) .running
  others : forall u, u ≠ t -> slot ≠ some u -> k'.tasks u = k.tasks u
  slot : forall child, slot = some child -> SlotKept (k.tasks child) (k'.tasks child)

/-- The slot `child` runs the program, and the caller waits for it if asked to. -/
structure ExecStarted (k k' : Kernel sd) (t child : TaskId) (size waitOpt : Int) :
    Prop where
  loaded : Started k k' child size
  heap : k'.globalHeap = k.globalHeap
  caller : k'.tasks t =
    callerAfter (k.tasks t) (if waitOpt = 1 then .paused child else .running)
  others : forall u, u ≠ t -> u ≠ child -> k'.tasks u = k.tasks u

def execName (k : Kernel sd) (t : TaskId) : List Byte :=
  cString (k.readString 31 belowHeapSize isNullOrSpace
    (k.getPhysAddr t (k.operand t 1))).1

structure ExecReads (k k' : Kernel sd) (t : TaskId) : Prop where
  card : k'.card = k.card
  bitmap : k'.heapBitmap = k.heapBitmap
  heap : k'.globalHeap = k.globalHeap
  caller : k'.tasks t = { k.tasks t with sp := (k.tasks t).sp - 3 }
  others : forall u, u ≠ t -> k'.tasks u = k.tasks u

theorem execLoad_cases {k k' : Kernel sd} {t child : TaskId} (hreads : ExecReads k k' t)
    (hrunning : (k.tasks t).taskState = .running)
    (hfree : (k.tasks child).taskState = .free) (name : List Byte)
    (argStr : Option (List Byte)) (waitOpt : Int) :
    (LoadFailure k name ∧
        ExecRefused k (k'.execLoad t child name argStr waitOpt) t (some child)) ∨
      exists header, sd.programHeader k.card name = some header ∧ GoodHeader header ∧
        ExecStarted k (k'.execLoad t child name argStr waitOpt) t child
          (headerSize header.2) waitOpt := by
  have hne : child ≠ t := by
    intro heq
    rw [heq, hrunning] at hfree
    cases hfree
  have hslot := hreads.others child hne
  have hfree' : (k'.tasks child).taskState = .free := by rw [hslot, hfree]
  have hbits : k'.isAllocated = k.isAllocated := by
    unfold isAllocated
    rw [hreads.bitmap]
  have hcases := k'.loadTask_cases child name none (some (k'.tasks t).cwd) argStr
  have hheap := k'.loadTask_globalHeap child name none (some (k'.tasks t).cwd) argStr
  have hothers := fun u (hu : u ≠ child) =>
    k'.loadTask_others hu name none (some (k'.tasks t).cwd) argStr
  have hfailed :=
    @loadTask_failed sd k' child name none (some (k'.tasks t).cwd) argStr hfree'
  unfold execLoad
  generalize k'.loadTask child name none (some (k'.tasks t).cwd) argStr = loaded
    at hcases hheap hothers hfailed ⊢
  rcases loaded with ⟨success, k₁⟩
  simp only at hcases hheap hothers hfailed ⊢
  have hcaller : k₁.tasks t = { k.tasks t with sp := (k.tasks t).sp - 3 } :=
    (hothers t (Ne.symm hne)).trans hreads.caller
  have hrest : forall u, u ≠ t -> u ≠ child -> k₁.tasks u = k.tasks u :=
    fun u hut huc => (hothers u huc).trans (hreads.others u hut)
  rcases hcases with ⟨hfalse, hwhy⟩ | ⟨header, hheader, hgood, htrue, hstarted⟩
  · left
    rcases hfailed hfalse with ⟨hbitmap, hkept⟩
    rw [hslot] at hkept
    rw [hfalse]
    refine ⟨?_, hbitmap.trans hreads.bitmap, hheap.trans hreads.heap, ?_, ?_, ?_⟩
    · cases hwhy with
      | notFound h => exact .notFound (hreads.card ▸ h)
      | tooShort header h hshort => exact .tooShort header (hreads.card ▸ h) hshort
      | badMagic header h hmagic => exact .badMagic header (hreads.card ▸ h) hmagic
      | noHeap header h hgood hnone =>
          exact .noHeap header (hreads.card ▸ h) hgood (hbits ▸ hnone)
    · simp only [Bool.false_eq_true, if_false]
      rw [hcaller, callerAfter, ← hrunning]
    · intro u hut huc
      exact hrest u hut fun heq => huc (congrArg some heq.symm)
    · intro u hu
      cases hu
      exact hkept
  · right
    rw [htrue]
    refine ⟨header, hreads.card ▸ hheader, hgood, ?_⟩
    have hrun : FreeRun k.isAllocated GLOBAL_HEAP_SIZE (k₁.tasks child).heapBase
        (headerSize header.2) := hbits ▸ hstarted.run
    have hmarked : MarksExactly k k₁ (k₁.tasks child).heapBase (headerSize header.2) := by
      intro c
      rw [hstarted.marked c, hbits]
    simp only [if_true]
    by_cases hwait : waitOpt = 1
    · rw [if_pos hwait]
      have hchild : (((k₁.note (.exec t child waitOpt)).modifyTask t fun task =>
          task.waitForChild child).tasks child) = k₁.tasks child := by
        simp [modifyTask, note, hne]
      refine ⟨⟨?_, ?_, ?_, ?_, ?_, ?_⟩, hheap.trans hreads.heap, ?_, ?_⟩
      · rw [hchild]
        exact hstarted.running
      · rw [hchild]
        exact hstarted.sp
      · rw [hchild]
        exact hstarted.wakeUpTime
      · rw [hchild]
        exact hstarted.limit
      · rw [hchild]
        exact hrun
      · rw [hchild]
        exact hmarked
      · simp [modifyTask, note, hcaller, callerAfter, Task.waitForChild, hwait]
      · intro u hut huc
        simp [modifyTask, note, hut, hrest u hut huc]
    · rw [if_neg hwait]
      refine ⟨⟨hstarted.running, hstarted.sp, hstarted.wakeUpTime, hstarted.limit, hrun,
        hmarked⟩, hheap.trans hreads.heap, ?_, hrest⟩
      rw [if_neg hwait]
      simp only [note]
      rw [hcaller, callerAfter, ← hrunning]

theorem ExecReads.touches {k k' k'' : Kernel sd} {t : TaskId} {R : Int -> Prop}
    (h : ExecReads k k' t) (htouches : Touches R (fun _ => False) k' k'') :
    ExecReads k k'' t := by
  have htasks := htouches.tasks
  rcases htouches.changed with ⟨heap, new, tx, out, hk, _⟩
  refine ⟨htouches.card.trans h.card, ?_, ?_, ?_, ?_⟩
  · rw [hk]
    exact h.bitmap
  · funext c
    rw [htouches.kept c (fun hfalse => hfalse)]
    exact congrFun h.heap c
  · rw [htasks]
    exact h.caller
  · intro u hu
    rw [htasks]
    exact h.others u hu

theorem stackPops_reads (k : Kernel sd) (t : TaskId) :
    ExecReads k (((k.stackPop t).2.stackPop t).2.stackPop t).2 t := by
  have htask := k.stackPops_task t
  refine ⟨rfl, rfl, rfl, ?_, ?_⟩
  · rw [htask]
    have hsp : (k.tasks t).sp - 1 - 1 - 1 = (k.tasks t).sp - 3 := by omega
    rw [hsp]
  · intro u hu
    simp [stackPop, modifyTask, note, hu]

theorem ExecReads.freeSlot {k k' : Kernel sd} {t : TaskId} (h : ExecReads k k' t) :
    k'.freeSlot = k.freeSlot := by
  have hstate : forall u, (k'.tasks u).taskState = (k.tasks u).taskState := by
    intro u
    by_cases hu : u = t
    · rw [hu, h.caller]
    · rw [h.others u hu]
  unfold Kernel.freeSlot
  simp only [hstate]

theorem freeSlot_none {k : Kernel sd} (h : k.freeSlot = none) {u : TaskId} (hu : u ≠ 0) :
    (k.tasks u).taskState ≠ .free := by
  have hall := List.find?_eq_none.mp h u (List.mem_finRange u)
  simpa [hu] using hall

theorem execWith_cases {k k' : Kernel sd} {t : TaskId} (hreads : ExecReads k k' t)
    (hrunning : (k.tasks t).taskState = .running) (waitOpt cmdAddr argAddr : Int) :
    let name := cString (k'.readString 31 belowHeapSize isNullOrSpace
      (k'.getPhysAddr t cmdAddr)).1
    ((forall u, u ≠ 0 -> (k.tasks u).taskState ≠ .free) ∧
        ExecRefused k (k'.execWith t waitOpt cmdAddr argAddr) t none) ∨
      exists child, child ≠ 0 ∧ (k.tasks child).taskState = .free ∧
        ((LoadFailure k name ∧
            ExecRefused k (k'.execWith t waitOpt cmdAddr argAddr) t (some child)) ∨
          exists header, sd.programHeader k.card name = some header ∧
            GoodHeader header ∧
            ExecStarted k (k'.execWith t waitOpt cmdAddr argAddr) t child
              (headerSize header.2) waitOpt) := by
  have hcmd := hreads.touches (k'.readString_touches (R := fun _ => True) 31 belowHeapSize
    isNullOrSpace (k'.getPhysAddr t cmdAddr) fun _ _ _ _ => trivial)
  unfold execWith
  simp only
  generalize k'.readString 31 belowHeapSize isNullOrSpace (k'.getPhysAddr t cmdAddr) =
    read at hcmd ⊢
  rcases read with ⟨cmdStr, k₁⟩
  simp only at hcmd ⊢
  generalize (if argAddr ≠ 0 then k'.getPhysAddr t argAddr else argAddr) = physArg
  have harg : ExecReads k (if physArg ≠ 0 then
      k₁.readString 31 belowHeapSize isNull physArg else ([], k₁)).2 t := by
    split
    · exact hcmd.touches (k₁.readString_touches (R := fun _ => True) 31 belowHeapSize
        isNull physArg fun _ _ _ _ => trivial)
    · exact hcmd
  generalize (if physArg ≠ 0 then k₁.readString 31 belowHeapSize isNull physArg
    else ([], k₁)) = readArg at harg ⊢
  rcases readArg with ⟨argStr, k₂⟩
  simp only at harg ⊢
  have hslot := harg.freeSlot
  cases hfound : k₂.freeSlot with
  | none =>
      left
      rw [hfound] at hslot
      have hwritten := harg.touches (k₂.stdWrite_touches (R := fun _ => True) FD_STDERR
        (text "Error: No free task slots.\n"))
      refine ⟨fun u hu => freeSlot_none hslot.symm hu, hwritten.bitmap, hwritten.heap, ?_,
        fun u hu _ => hwritten.others u hu, ?_⟩
      · simp only
        rw [hwritten.caller, callerAfter, ← hrunning]
      · intro child hchild
        cases hchild
  | some child =>
      right
      rw [hfound] at hslot
      rcases freeSlot_spec hslot.symm with ⟨hzero, hfree⟩
      refine ⟨child, hzero, hfree, ?_⟩
      exact execLoad_cases harg hrunning hfree (cString cmdStr) _ waitOpt

/--
For every state, every running caller and any outcome of the file system: no
slot is FREE, or the load fails, and nothing but the stack of the caller and the
strings of the slot has changed; or one FREE slot runs the program, in a segment
of the size in its header.
-/
theorem exec_all_or_nothing {k : Kernel sd} {t : TaskId}
    (hrunning : (k.tasks t).taskState = .running) :
    ((forall u, u ≠ 0 -> (k.tasks u).taskState ≠ .free) ∧
        ExecRefused k (k.syscallExec t) t none) ∨
      exists child, child ≠ 0 ∧ (k.tasks child).taskState = .free ∧
        ((LoadFailure k (k.execName t) ∧
            ExecRefused k (k.syscallExec t) t (some child)) ∨
          exists header, sd.programHeader k.card (k.execName t) = some header ∧
            GoodHeader header ∧
            ExecStarted k (k.syscallExec t) t child (headerSize header.2)
              (k.operand t 0)) := by
  have hreads := k.stackPops_reads t
  have hcases := execWith_cases hreads hrunning (k.operand t 0) (k.operand t 1)
    (k.operand t 2)
  have hname : cString ((((k.stackPop t).2.stackPop t).2.stackPop t).2.readString 31
      belowHeapSize isNullOrSpace
      ((((k.stackPop t).2.stackPop t).2.stackPop t).2.getPhysAddr t (k.operand t 1))).1 =
        k.execName t := by
    have haddr : (((k.stackPop t).2.stackPop t).2.stackPop t).2.getPhysAddr t
        (k.operand t 1) = k.getPhysAddr t (k.operand t 1) := by
      apply getPhysAddr_congr
      · rw [hreads.caller]
      · rw [hreads.caller]
    unfold execName
    rw [haddr, readString_fst, readString_fst, hreads.heap]
  rw [syscallExec_eq]
  simp only at hcases
  rw [hname] at hcases
  exact hcases

/-- The daemon about to start the program `p` and to wait for it. -/
def startingProgram : Kernel CardImage.sdFat :=
  let k := (boot (CardImage.ofProgram 16#8 [] 1)).heapSet 1 (ofByte (ascii 'p'))
  ((k.stackPush 0 0).stackPush 0 1).stackPush 0 1

set_option maxRecDepth 4000 in
theorem exec_all_or_nothing_starting :
    exists child size,
      ExecStarted startingProgram (startingProgram.syscallExec 0) 0 child size 1 := by
  have hfacts : (startingProgram.tasks 0).taskState = .running ∧
      startingProgram.operand 0 0 = 1 ∧
      (startingProgram.tasks 1).taskState = .free ∧
      ((startingProgram.syscallExec 0).tasks 1).taskState = .running := by decide +kernel
  rcases hfacts with ⟨hrunning, hwait, hbefore, hafter⟩
  rcases exec_all_or_nothing hrunning with
    ⟨hnone, _⟩ | ⟨child, _, _, ⟨_, hrefused⟩ | ⟨header, _, _, hstarted⟩⟩
  · exact absurd hbefore (hnone 1 (by decide))
  · -- neither a slot kept FREE nor one left alone is running afterwards
    exfalso
    by_cases hchild : child = 1
    · have hfree := (hrefused.slot child rfl).free
      rw [hchild, hafter] at hfree
      cases hfree
    · have hsame := hrefused.others 1 (by decide) fun heq => hchild (Option.some.inj heq)
      rw [hsame, hbefore] at hafter
      cases hafter
  · rw [hwait] at hstarted
    exact ⟨child, headerSize header.2, hstarted⟩

end Kernel
end ArduOS
