import ArduOS.Kernel.Effects

/-!
# Footprints

The heap cells that system calls and instructions address through their
operands, and the proof that they access no others.
-/

namespace ArduOS

open Library

namespace Kernel

variable {sd : SdFat} {P : Access -> Prop} {k : Kernel sd} {t : TaskId} {top : Int}

/-!
## Cells of strings
-/

inductive StringCell (heap : Int -> Int) (n : Nat) (inRange stop : Int -> Bool)
    (addr : Int) : Int -> Prop where
  | visit (i : Nat) (hi : i < n) (hrange : inRange (int16 (addr + i)) = true)
      (hbefore : forall j : Nat, j < i -> stop (heap (int16 (addr + j))) = false) :
      StringCell heap n inRange stop addr (int16 (addr + i))

inductive WrittenCell (addr : Int) (n : Nat) : Int -> Prop where
  | put (i : Nat) (hi : i <= n) (hcell : int16 (addr + i) < GLOBAL_HEAP_SIZE) :
      WrittenCell addr n (int16 (addr + i))

theorem readString_effect (k : Kernel sd) (n : Nat) (inRange stop : Int -> Bool)
    (addr : Int)
    (h : forall c, StringCell k.globalHeap n inRange stop addr c -> P (.heapRead c)) :
    Effect P k (k.readString n inRange stop addr).2 := by
  have htouches := readString_touches (W := fun _ => False) k n inRange stop addr
    (R := StringCell k.globalHeap n inRange stop addr) StringCell.visit
  exact htouches.effect h fun _ hcontra => absurd hcontra id

theorem writeString_effect (k : Kernel sd) (addr : Int) (str : List Byte) {n : Nat}
    (hn : str.length <= n) (h : forall c, WrittenCell addr n c -> P (.heapWrite c)) :
    Effect P k (k.writeString addr str) := by
  have htouches := writeString_touches (R := fun _ => False) k addr str
    (W := WrittenCell addr n) fun i hi hcell => .put i (by omega) hcell
  exact htouches.effect (fun _ hcontra => absurd hcontra id) h

theorem heapSetBelow_effect (k : Kernel sd) {c : Int} (val : Int)
    (h : c < GLOBAL_HEAP_SIZE -> P (.heapWrite c)) :
    Effect P k (k.heapSetBelow c val) := by
  have htouches := heapSetBelow_touches (R := fun _ => False) k val
    (W := fun c => P (.heapWrite c)) h
  exact htouches.effect (fun _ hcontra => absurd hcontra id) fun _ hc => hc

/-!
## What code may do besides touching the heap
-/

structure Permits (P : Access -> Prop) (t : TaskId) (top : Int) : Prop where
  full : VM_STACK_SIZE - 1 <= top
  stack : forall i, 0 <= i -> i <= top -> P (.stack t i)
  chars : forall array terminator, P (.chars array terminator)
  exec : forall child waitOpt, P (.exec t child waitOpt)

theorem Permits.pop (hp : Permits P t top) (k : Kernel sd) (hsp : 0 <= (k.tasks t).sp)
    (htop : (k.tasks t).sp <= top) : Effect P k (k.stackPop t).2 :=
  stackPop_effect k (hp.stack _ hsp htop)

theorem Permits.push (hp : Permits P t top) (k : Kernel sd) (val : Int)
    (hlo : -1 <= (k.tasks t).sp) (htop : (k.tasks t).sp < top) :
    Effect P k (k.stackPush t val) := by
  apply stackPush_effect
  apply hp.stack
  · omega
  · omega

/-!
## Loading
-/

theorem tryOpen_effect (k : Kernel sd) (id : TaskId) (path : List Byte)
    (h : forall array terminator, P (.chars array terminator)) :
    Effect P k (k.tryOpen id path) :=
  (note_effect k (h _ _)).quiet (openFile_quiet _ id path)

theorem findProgram_effect (k : Kernel sd) (id : TaskId) (inputName : List Byte)
    (h : forall array terminator, P (.chars array terminator)) :
    Effect P k (k.findProgram id inputName).2 := by
  have hfirst := k.tryOpen_effect id inputName h
  have hsecond := hfirst.trans (tryOpen_effect _ id (inputName ++ text ".bin") h)
  have hthird := hsecond.trans
    (tryOpen_effect _ id (text "/bin/" ++ inputName ++ text ".bin") h)
  unfold findProgram
  simp only
  split
  · exact hfirst
  · split
    · exact hsecond
    · exact hthird

theorem startTask_effect (k : Kernel sd) (id : TaskId) (path : List Byte) :
    Effect P k (k.startTask id path) := by
  have hnamed := modifyTask_quiet k id (f := fun task =>
    { task with filename := path.take 127, bufferIndex := 0 }) rfl
  have hread := hnamed.trans (readFile_quiet _ id CODE_BUFFER_SIZE)
  unfold startTask
  simp only
  generalize readFile (k.modifyTask id _) id CODE_BUFFER_SIZE = read at hread ⊢
  rcases read with ⟨result, k₁⟩
  simp only at hread ⊢
  have hfilled := hread.modify id (f := fun task =>
    { task with codeBuffer := overwrite result.2 task.codeBuffer }) rfl
  have hrunning := hfilled.modify id (f := Task.setRunning) rfl
  refine (hrunning.effect.trans ?_).quiet (stdWrite_quiet _ _ _)
  apply modifyTask_effect
  intro _ _
  simp

theorem loadTask_effect (k : Kernel sd) (id : TaskId) (inputName : List Byte)
    (argStr parentCwd parentArgStr : Option (List Byte))
    (h : forall array terminator, P (.chars array terminator)) :
    Effect P k (k.loadTask id inputName argStr parentCwd parentArgStr).2 := by
  have hprepared := k.prepareTask_quiet id argStr parentCwd parentArgStr
  unfold loadTask
  simp only
  generalize k.prepareTask id argStr parentCwd parentArgStr = k₁ at hprepared ⊢
  have hfound := hprepared.effect.trans (k₁.findProgram_effect id inputName h)
  generalize k₁.findProgram id inputName = found at hfound ⊢
  rcases found with ⟨path, k₂⟩
  simp only at hfound ⊢
  split
  · have hread := hfound.quiet (k₂.readFile_quiet id 4)
    generalize k₂.readFile id 4 = header at hread ⊢
    rcases header with ⟨result, k₃⟩
    simp only at hread ⊢
    split
    · split
      · have hsegment := hread.quiet (k₃.allocSegment_quiet id
          (intOfBytes (bufferOf result.2 2) (bufferOf result.2 3)))
        generalize k₃.allocSegment id (intOfBytes (bufferOf result.2 2)
          (bufferOf result.2 3)) = allocated at hsegment ⊢
        rcases allocated with ⟨success, k₄⟩
        simp only at hsegment ⊢
        split
        · exact hsegment.quiet (k₄.failLoad_quiet id _)
        · exact hsegment.trans (k₄.startTask_effect id path)
      · exact hread.quiet (k₃.failLoad_quiet id _)
    · exact hread.quiet (k₃.failLoad_quiet id _)
  · simp only
    exact hfound.quiet (k₂.stdWrite_quiet _ _)

/-!
## System calls
-/

inductive LsCell (k : Kernel sd) (t : TaskId) (bufSize bufAddr : Int) :
    Access -> Prop where
  | listing (c : Int) (h : InBuffer (k.getPhysAddr t bufAddr) bufSize c) :
      LsCell k t bufSize bufAddr (.heapWrite c)
  | error (h : k.getPhysAddr t bufAddr < GLOBAL_HEAP_SIZE) :
      LsCell k t bufSize bufAddr (.heapWrite (k.getPhysAddr t bufAddr))

inductive ExecCell (k : Kernel sd) (t : TaskId) (cmdAddr argAddr : Int) :
    Access -> Prop where
  | cmd (c : Int) (h : StringCell k.globalHeap 31 belowHeapSize isNullOrSpace
      (k.getPhysAddr t cmdAddr) c) : ExecCell k t cmdAddr argAddr (.heapRead c)
  | arg (c : Int) (hne : argAddr ≠ 0) (h : StringCell k.globalHeap 31 belowHeapSize
      isNull (k.getPhysAddr t argAddr) c) : ExecCell k t cmdAddr argAddr (.heapRead c)

inductive ChdirCell (k : Kernel sd) (t : TaskId) (argAddr bufAddr : Int) :
    Access -> Prop where
  | path (c : Int) (hne : argAddr ≠ 0) (h : StringCell k.globalHeap 31 belowHeapSize
      isNull (k.getPhysAddr t argAddr) c) : ChdirCell k t argAddr bufAddr (.heapRead c)
  | result (c : Int) (hne : bufAddr ≠ 0)
      (h : WrittenCell (k.getPhysAddr t bufAddr) 32 c) :
      ChdirCell k t argAddr bufAddr (.heapWrite c)
  | error (hne : bufAddr ≠ 0) (h : k.getPhysAddr t bufAddr < GLOBAL_HEAP_SIZE) :
      ChdirCell k t argAddr bufAddr (.heapWrite (k.getPhysAddr t bufAddr))

inductive GetcwdCell (k : Kernel sd) (t : TaskId) (bufAddr : Int) :
    Access -> Prop where
  | result (c : Int) (hne : bufAddr ≠ 0)
      (h : WrittenCell (k.getPhysAddr t bufAddr) (k.tasks t).cwd.length c) :
      GetcwdCell k t bufAddr (.heapWrite c)

theorem lsReopen_quiet (k : Kernel sd) (t : TaskId) (pos : BitVec 32) :
    Quiet k (k.lsReopen t pos) := by
  unfold lsReopen
  simp only
  split
  · exact (openFile_quiet k t _).trans (seekFile_quiet _ t pos)
  · exact (openFile_quiet k t _).modify t rfl

theorem lsWith_effect (k : Kernel sd) (t : TaskId) (selector bufSize bufAddr : Int)
    (hcell : forall a, LsCell k t bufSize bufAddr a -> P a) :
    Effect P k (k.lsWith t selector bufSize bufAddr) := by
  have hopened := (closeFile_quiet k t).trans
    (withCard_quiet _ (sd.openPath k.card (k.lsTargetPath t selector)).2)
  cases hdir : (sd.openPath k.card (k.lsTargetPath t selector)) with
  | mk dir card =>
      rw [hdir] at hopened
      have hcard : (k.closeFile t).card = k.card := rfl
      unfold lsWith
      simp only [hcard, hdir]
      generalize (k.closeFile t).withCard card = k₁ at hopened ⊢
      cases dir with
      | none =>
          apply hopened.effect.trans
          apply heapSetBelow_effect
          intro hbelow
          exact hcell _ (.error hbelow)
      | some dir =>
          have hlisted : Effect P k
              (k₁.lsList dir (k.getPhysAddr t bufAddr) bufSize) := by
            apply (hopened.trans (withCard_quiet k₁ (sd.entries k₁.card dir).2)).effect.trans
            apply (lsList_touches k₁ dir (k.getPhysAddr t bufAddr) bufSize).effect
            · intro c hcontra
              exact absurd hcontra id
            · intro c hc
              exact hcell _ (.listing c hc)
          cases (k.tasks t).file with
          | none => exact hlisted
          | some file => exact hlisted.quiet (lsReopen_quiet _ t _)

theorem execLoad_effect (hp : Permits P t top) (k : Kernel sd) (child : TaskId)
    (cmdStr : List Byte) (argStr : Option (List Byte)) (waitOpt : Int) :
    Effect P k (k.execLoad t child cmdStr argStr waitOpt) := by
  have hload : Effect P k
      (k.loadTask child cmdStr none (some (k.tasks t).cwd) argStr).2 :=
    k.loadTask_effect child cmdStr none (some (k.tasks t).cwd) argStr hp.chars
  unfold execLoad
  generalize k.loadTask child cmdStr none (some (k.tasks t).cwd) argStr = loaded
    at hload ⊢
  rcases loaded with ⟨success, k₁⟩
  simp only at hload ⊢
  split
  · have hnoted := hload.trans (note_effect k₁ (hp.exec child waitOpt))
    split
    · exact hnoted.quiet (modifyTask_quiet _ t rfl)
    · exact hnoted
  · exact hload

theorem readString_globalHeap (k : Kernel sd) (n : Nat) (inRange stop : Int -> Bool)
    (addr : Int) : (k.readString n inRange stop addr).2.globalHeap = k.globalHeap := by
  have htouches := readString_touches (R := fun _ => True) (W := fun _ => False) k n
    inRange stop addr fun _ _ _ _ => trivial
  funext c
  exact htouches.kept c id

theorem readString_tasks (k : Kernel sd) (n : Nat) (inRange stop : Int -> Bool)
    (addr : Int) : (k.readString n inRange stop addr).2.tasks = k.tasks :=
  (readString_touches (R := fun _ => True) (W := fun _ => True) k n inRange stop addr
    fun _ _ _ _ => trivial).tasks

theorem execWith_effect (hp : Permits P t top) (k : Kernel sd)
    (waitOpt cmdAddr argAddr : Int)
    (hcell : forall a, ExecCell k t cmdAddr argAddr a -> P a) :
    Effect P k (k.execWith t waitOpt cmdAddr argAddr) := by
  have hcmd := k.readString_effect 31 belowHeapSize isNullOrSpace
    (k.getPhysAddr t cmdAddr) fun c hc => hcell _ (.cmd c hc)
  have hheap := k.readString_globalHeap 31 belowHeapSize isNullOrSpace
    (k.getPhysAddr t cmdAddr)
  unfold execWith
  simp only
  generalize k.readString 31 belowHeapSize isNullOrSpace (k.getPhysAddr t cmdAddr) =
    read at hcmd hheap ⊢
  rcases read with ⟨cmdStr, k₁⟩
  simp only at hcmd hheap ⊢
  generalize harg : (if argAddr ≠ 0 then k.getPhysAddr t argAddr else argAddr) = physArg
  have hread : Effect P k (if physArg ≠ 0 then
      k₁.readString 31 belowHeapSize isNull physArg else ([], k₁)).2 := by
    split
    · rename_i hne
      apply hcmd.trans
      apply readString_effect
      intro c hc
      have harg' : argAddr ≠ 0 := by
        intro heq
        rw [if_neg (not_not.mpr heq)] at harg
        exact hne (harg ▸ heq)
      rw [if_pos harg'] at harg
      rw [hheap, ← harg] at hc
      exact hcell _ (.arg c harg' hc)
    · exact hcmd
  generalize (if physArg ≠ 0 then k₁.readString 31 belowHeapSize isNull physArg
    else ([], k₁)) = readArg at hread ⊢
  rcases readArg with ⟨argStr, k₂⟩
  simp only at hread ⊢
  cases k₂.freeSlot with
  | none => exact hread.quiet (k₂.stdWrite_quiet _ _)
  | some child => exact hread.trans (execLoad_effect hp k₂ child _ _ waitOpt)

theorem getPhysAddr_congr {k k' : Kernel sd} {t : TaskId}
    (hbase : (k'.tasks t).heapBase = (k.tasks t).heapBase)
    (hlimit : (k'.tasks t).heapLimit = (k.tasks t).heapLimit) (addr : Int) :
    k'.getPhysAddr t addr = k.getPhysAddr t addr := by
  unfold getPhysAddr
  rw [hbase, hlimit]

theorem chdirEnter_cwd_length (k : Kernel sd) (t : TaskId) (target : List Byte) :
    ((k.chdirEnter t target).tasks t).cwd.length <= 32 := by
  have htake : (target.take 31).length <= 31 := by
    rw [List.length_take]
    exact Nat.min_le_left 31 _
  simp only [chdirEnter, modifyTask, Function.update_self]
  split
  · rw [List.length_append]
    exact Nat.add_le_add htake (Nat.le_refl 1)
  · omega

theorem chdirEnter_effect (hp : Permits P t top) (k : Kernel sd) (target : List Byte) :
    Effect P k (k.chdirEnter t target) := by
  unfold chdirEnter
  exact (note_effect k (hp.chars _ _)).quiet (modifyTask_quiet _ t rfl)

theorem chdirWith_effect (hp : Permits P t top) (k : Kernel sd) (argAddr bufAddr : Int)
    (hcell : forall a, ChdirCell k t argAddr bufAddr a -> P a) :
    Effect P k (k.chdirWith t argAddr bufAddr) := by
  unfold chdirWith
  by_cases harg : argAddr = 0
  · rw [if_pos harg]
    exact Effect.refl k
  · rw [if_neg harg]
    have hread := k.readString_effect 31 belowHeapSize isNull (k.getPhysAddr t argAddr)
      fun c hc => hcell _ (.path c harg hc)
    have htasks := k.readString_tasks 31 belowHeapSize isNull (k.getPhysAddr t argAddr)
    generalize k.readString 31 belowHeapSize isNull (k.getPhysAddr t argAddr) = read
      at hread htasks ⊢
    rcases read with ⟨pathStr, k₁⟩
    simp only at hread htasks ⊢
    generalize k₁.chdirTarget t (cString pathStr) = target
    have hchecked : Quiet k₁ (k₁.chdirCheck target).2 ∧
        (k₁.chdirCheck target).2.tasks = k₁.tasks := by
      unfold chdirCheck
      split
      · exact ⟨Quiet.refl k₁, rfl⟩
      · exact ⟨withCard_quiet k₁ _, rfl⟩
    generalize k₁.chdirCheck target = checked at hchecked ⊢
    rcases checked with ⟨success, k₂⟩
    simp only at hchecked ⊢
    have hready := hread.quiet hchecked.left
    have htasks₂ : k₂.tasks = k.tasks := hchecked.right.trans htasks
    split
    · have hentered := hready.trans (chdirEnter_effect hp k₂ target)
      split
      · rename_i hbuf
        apply hentered.trans
        apply writeString_effect _ _ _ (k₂.chdirEnter_cwd_length t target)
        intro c hc
        rw [getPhysAddr_congr (k := k)] at hc
        · exact hcell _ (.result c hbuf hc)
        · simp [chdirEnter, modifyTask, htasks₂]
        · simp [chdirEnter, modifyTask, htasks₂]
      · exact hentered
    · split
      · rename_i hbuf
        apply hready.trans
        apply heapSetBelow_effect
        intro hbelow
        rw [getPhysAddr_congr (k := k) (by rw [htasks₂]) (by rw [htasks₂])]
          at hbelow ⊢
        exact hcell _ (.error hbuf hbelow)
      · exact hready

theorem getcwdWith_effect (k : Kernel sd) (t : TaskId) (bufAddr : Int)
    (hcell : forall a, GetcwdCell k t bufAddr a -> P a) :
    Effect P k (k.getcwdWith t bufAddr) := by
  unfold getcwdWith
  split
  · exact Effect.refl k
  · rename_i hbuf
    apply writeString_effect _ _ _ (Nat.le_refl _)
    intro c hc
    exact hcell _ (.result c hbuf hc)

def operand (k : Kernel sd) (t : TaskId) (n : Int) : Int :=
  (k.tasks t).stack ((k.tasks t).sp - n)

/-- How many operands a system call takes from the stack. -/
def sysOperands (sysId : Int) : Int :=
  if sysId = 1 then 3
  else if sysId = 2 then 3
  else if sysId = 3 then 2
  else if sysId = 4 then 1
  else 0

inductive SysCell (k : Kernel sd) (t : TaskId) : Int -> Access -> Prop where
  | ls (a : Access) (h : LsCell k t (k.operand t 1) (k.operand t 2) a) : SysCell k t 1 a
  | exec (a : Access) (h : ExecCell k t (k.operand t 1) (k.operand t 2) a) :
      SysCell k t 2 a
  | chdir (a : Access) (h : ChdirCell k t (k.operand t 0) (k.operand t 1) a) :
      SysCell k t 3 a
  | getcwd (a : Access) (h : GetcwdCell k t (k.operand t 0) a) : SysCell k t 4 a

theorem stackPush_operand (k : Kernel sd) (t : TaskId) (val : Int) :
    (k.stackPush t val).operand t 0 = val := by
  simp [operand, stackPush, modifyTask]

theorem stackPush_operand_succ (k : Kernel sd) (t : TaskId) (val n : Int) (hn : 0 <= n) :
    (k.stackPush t val).operand t (n + 1) = k.operand t n := by
  have hindex : (k.tasks t).sp + 1 - (n + 1) = (k.tasks t).sp - n := by omega
  have hne : (k.tasks t).sp - n ≠ (k.tasks t).sp + 1 := by omega
  simp [operand, stackPush, modifyTask, note, hindex, hne]

theorem stackPop_operand (k : Kernel sd) (t : TaskId) (n : Int) :
    (k.stackPop t).2.operand t n = k.operand t (n + 1) := by
  have hindex : (k.tasks t).sp - 1 - n = (k.tasks t).sp - (n + 1) := by omega
  simp [operand, stackPop, modifyTask, hindex]

theorem stackPop_fst (k : Kernel sd) (t : TaskId) :
    (k.stackPop t).1 = k.operand t 0 := by
  simp [operand, stackPop]

theorem stackPop_globalHeap (k : Kernel sd) (t : TaskId) :
    (k.stackPop t).2.globalHeap = k.globalHeap := rfl

@[simp] theorem stackPop_getPhysAddr (k : Kernel sd) (t : TaskId) (addr : Int) :
    (k.stackPop t).2.getPhysAddr t addr = k.getPhysAddr t addr := by
  apply getPhysAddr_congr
  · simp [stackPop, modifyTask]
  · simp [stackPop, modifyTask]

theorem stackPops_task (k : Kernel sd) (t : TaskId) :
    (((k.stackPop t).2.stackPop t).2.stackPop t).2.tasks t =
      { k.tasks t with sp := (k.tasks t).sp - 1 - 1 - 1 } := by
  simp [stackPop, modifyTask]

theorem syscallLs_eq (k : Kernel sd) (t : TaskId) :
    k.syscallLs t = (((k.stackPop t).2.stackPop t).2.stackPop t).2.lsWith t
      (k.operand t 0) (k.operand t 1) (k.operand t 2) := by
  unfold syscallLs
  simp only [stackPop_fst, stackPop_operand]
  rfl

theorem syscallExec_eq (k : Kernel sd) (t : TaskId) :
    k.syscallExec t = (((k.stackPop t).2.stackPop t).2.stackPop t).2.execWith t
      (k.operand t 0) (k.operand t 1) (k.operand t 2) := by
  unfold syscallExec
  simp only [stackPop_fst, stackPop_operand]
  rfl

theorem syscallChdir_eq (k : Kernel sd) (t : TaskId) :
    k.syscallChdir t = ((k.stackPop t).2.stackPop t).2.chdirWith t
      (k.operand t 0) (k.operand t 1) := by
  unfold syscallChdir
  simp only [stackPop_fst, stackPop_operand]
  rfl

theorem syscallGetcwd_eq (k : Kernel sd) (t : TaskId) :
    k.syscallGetcwd t = (k.stackPop t).2.getcwdWith t (k.operand t 0) := by
  unfold syscallGetcwd
  simp only [stackPop_fst]

theorem LsCell.of_pop {bufSize bufAddr : Int} {a : Access}
    (h : LsCell (k.stackPop t).2 t bufSize bufAddr a) : LsCell k t bufSize bufAddr a := by
  cases h with
  | listing c h =>
      rw [stackPop_getPhysAddr] at h
      exact .listing c h
  | error h =>
      rw [stackPop_getPhysAddr] at h ⊢
      exact .error h

theorem ExecCell.of_pop {cmdAddr argAddr : Int} {a : Access}
    (h : ExecCell (k.stackPop t).2 t cmdAddr argAddr a) :
    ExecCell k t cmdAddr argAddr a := by
  cases h with
  | cmd c h =>
      rw [stackPop_getPhysAddr, stackPop_globalHeap] at h
      exact .cmd c h
  | arg c hne h =>
      rw [stackPop_getPhysAddr, stackPop_globalHeap] at h
      exact .arg c hne h

theorem ChdirCell.of_pop {argAddr bufAddr : Int} {a : Access}
    (h : ChdirCell (k.stackPop t).2 t argAddr bufAddr a) :
    ChdirCell k t argAddr bufAddr a := by
  cases h with
  | path c hne h =>
      rw [stackPop_getPhysAddr, stackPop_globalHeap] at h
      exact .path c hne h
  | result c hne h =>
      rw [stackPop_getPhysAddr] at h
      exact .result c hne h
  | error hne h =>
      rw [stackPop_getPhysAddr] at h ⊢
      exact .error hne h

theorem GetcwdCell.of_pop {bufAddr : Int} {a : Access}
    (h : GetcwdCell (k.stackPop t).2 t bufAddr a) : GetcwdCell k t bufAddr a := by
  cases h with
  | result c hne h =>
      have hcwd : ((k.stackPop t).2.tasks t).cwd = (k.tasks t).cwd := by
        simp [stackPop, modifyTask]
      rw [stackPop_getPhysAddr, hcwd] at h
      exact .result c hne h

theorem syscallLs_effect (hp : Permits P t top) (k : Kernel sd)
    (hargs : 2 <= (k.tasks t).sp) (htop : (k.tasks t).sp <= top)
    (hcell : forall a, SysCell k t 1 a -> P a) : Effect P k (k.syscallLs t) := by
  have hfirst := hp.pop k (by omega) htop
  have hsecond := hp.pop (k.stackPop t).2 (by rw [stackPop_sp]; omega)
    (by rw [stackPop_sp]; omega)
  have hthird := hp.pop ((k.stackPop t).2.stackPop t).2
    (by rw [stackPop_sp, stackPop_sp]; omega) (by rw [stackPop_sp, stackPop_sp]; omega)
  rw [syscallLs_eq]
  apply ((hfirst.trans hsecond).trans hthird).trans
  apply lsWith_effect
  intro a ha
  exact hcell a (.ls a ha.of_pop.of_pop.of_pop)

theorem syscallExec_effect (hp : Permits P t top) (k : Kernel sd)
    (hargs : 2 <= (k.tasks t).sp) (htop : (k.tasks t).sp <= top)
    (hcell : forall a, SysCell k t 2 a -> P a) : Effect P k (k.syscallExec t) := by
  have hfirst := hp.pop k (by omega) htop
  have hsecond := hp.pop (k.stackPop t).2 (by rw [stackPop_sp]; omega)
    (by rw [stackPop_sp]; omega)
  have hthird := hp.pop ((k.stackPop t).2.stackPop t).2
    (by rw [stackPop_sp, stackPop_sp]; omega) (by rw [stackPop_sp, stackPop_sp]; omega)
  rw [syscallExec_eq]
  apply ((hfirst.trans hsecond).trans hthird).trans
  apply execWith_effect hp
  intro a ha
  exact hcell a (.exec a ha.of_pop.of_pop.of_pop)

theorem syscallChdir_effect (hp : Permits P t top) (k : Kernel sd)
    (hargs : 1 <= (k.tasks t).sp) (htop : (k.tasks t).sp <= top)
    (hcell : forall a, SysCell k t 3 a -> P a) : Effect P k (k.syscallChdir t) := by
  have hfirst := hp.pop k (by omega) htop
  have hsecond := hp.pop (k.stackPop t).2 (by rw [stackPop_sp]; omega)
    (by rw [stackPop_sp]; omega)
  rw [syscallChdir_eq]
  apply (hfirst.trans hsecond).trans
  apply chdirWith_effect hp
  intro a ha
  exact hcell a (.chdir a ha.of_pop.of_pop)

theorem syscallGetcwd_effect (hp : Permits P t top) (k : Kernel sd)
    (hargs : 0 <= (k.tasks t).sp) (htop : (k.tasks t).sp <= top)
    (hcell : forall a, SysCell k t 4 a -> P a) : Effect P k (k.syscallGetcwd t) := by
  rw [syscallGetcwd_eq]
  apply (hp.pop k hargs htop).trans
  apply getcwdWith_effect
  intro a ha
  exact hcell a (.getcwd a ha.of_pop)

theorem systemCall_effect (hp : Permits P t top) (k : Kernel sd) (sysId : Int)
    (hargs : sysOperands sysId - 1 <= (k.tasks t).sp) (htop : (k.tasks t).sp <= top)
    (hcell : forall a, SysCell k t sysId a -> P a) : Effect P k (k.systemCall t sysId) := by
  unfold systemCall
  unfold sysOperands at hargs
  split
  · rename_i hid
    subst hid
    exact syscallLs_effect hp k hargs htop hcell
  · split
    · rename_i hid
      subst hid
      exact syscallExec_effect hp k hargs htop hcell
    · split
      · rename_i hid
        subst hid
        exact syscallChdir_effect hp k hargs htop hcell
      · split
        · rename_i hid
          subst hid
          exact syscallGetcwd_effect hp k hargs htop hcell
        · exact Effect.refl k

end Kernel
end ArduOS
