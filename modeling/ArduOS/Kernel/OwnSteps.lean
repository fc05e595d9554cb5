import ArduOS.Kernel.RemoteExec
import ArduOS.Kernel.Turns

/-!
# What a turn does to the other tasks

Most of what happens in a turn changes the task whose turn it is and no other,
and leaves its working directory alone.  The exceptions are few: a task that
ends wakes whoever waits for it, a program is loaded into a free slot, and
`Syscall_chdir`.  So a property of all slots that bears these is kept by a turn.
-/

namespace ArduOS

open Library

namespace Kernel

variable {sd : SdFat}

structure OwnStep (t : TaskId) (k k' : Kernel sd) : Prop where
  others : forall u, u ≠ t -> k'.tasks u = k.tasks u
  cwd : (k'.tasks t).cwd = (k.tasks t).cwd
  ticks : k'.systemTicks = k.systemTicks

section OwnSteps

variable {t : TaskId} {k k' k'' : Kernel sd}

theorem OwnStep.of_tasks (h : k'.tasks = k.tasks) (hticks : k'.systemTicks = k.systemTicks) :
    OwnStep t k k' :=
  ⟨fun _ _ => by rw [h], by rw [h], hticks⟩

theorem OwnStep.refl (k : Kernel sd) : OwnStep t k k := .of_tasks rfl rfl

theorem OwnStep.trans (h : OwnStep t k k') (h' : OwnStep t k' k'') : OwnStep t k k'' :=
  ⟨fun u hu => (h'.others u hu).trans (h.others u hu), h'.cwd.trans h.cwd,
    h'.ticks.trans h.ticks⟩

theorem modifyTask_own (k : Kernel sd) {f : Task sd -> Task sd}
    (hcwd : (f (k.tasks t)).cwd = (k.tasks t).cwd) : OwnStep t k (k.modifyTask t f) := by
  constructor
  · intro u hu
    simp [modifyTask, hu]
  · simpa [modifyTask] using hcwd
  · rfl

theorem OwnStep.modify (h : OwnStep t k k') {f : Task sd -> Task sd}
    (hcwd : (f (k'.tasks t)).cwd = (k'.tasks t).cwd) :
    OwnStep t k (k'.modifyTask t f) :=
  h.trans (modifyTask_own k' hcwd)

theorem Touches.own {R W : Int -> Prop} (h : Touches R W k k') : OwnStep t k k' := by
  rcases h.changed with ⟨heap, new, tx, out, rfl, _⟩
  exact .of_tasks rfl rfl

theorem stdWrite_own (k : Kernel sd) (fd : Int) (str : List Byte) :
    OwnStep t k (k.stdWrite fd str) := by
  rcases stdWrite_eq k fd str with ⟨tx, out, h⟩
  rw [h]
  exact .of_tasks rfl rfl

theorem setAllocatedRange_own (k : Kernel sd) (start size : Int) (b : Bool) :
    OwnStep t k (k.setAllocatedRange start size b) :=
  .of_tasks (k.setAllocatedRange_tasks start size b)
    (forLoop_view k Kernel.systemTicks fun _ _ _ => rfl)

/-!
## Files and the stack
-/

theorem openFile_own (k : Kernel sd) (t : TaskId) (path : List Byte) :
    OwnStep t k (k.openFile t path) := by
  have hcard : OwnStep t k (k.withCard (sd.openPath k.card path).2) := .of_tasks rfl rfl
  exact hcard.modify (f := fun task =>
    { task with file := (sd.openPath k.card path).1 }) rfl

theorem readFile_own (k : Kernel sd) (t : TaskId) (n : Nat) :
    OwnStep t k (k.readFile t n).2 := by
  unfold readFile
  split
  · exact .refl k
  · rename_i file _
    have hcard : OwnStep t k (k.withCard (sd.read k.card file n).2.2) := .of_tasks rfl rfl
    exact hcard.modify (f := fun task =>
      { task with file := some (sd.read k.card file n).2.1 }) rfl

theorem seekFile_own (k : Kernel sd) (t : TaskId) (pos : BitVec 32) :
    OwnStep t k (k.seekFile t pos) := by
  unfold seekFile
  split
  · exact .refl k
  · rename_i file _
    have hcard : OwnStep t k (k.withCard (sd.seek k.card file pos).2) := .of_tasks rfl rfl
    exact hcard.modify (f := fun task =>
      { task with file := some (sd.seek k.card file pos).1 }) rfl

theorem closeFile_own (k : Kernel sd) (t : TaskId) : OwnStep t k (k.closeFile t) :=
  modifyTask_own k rfl

theorem jump_own (k : Kernel sd) (t : TaskId) (addr : Int) : OwnStep t k (k.jump t addr) :=
  (seekFile_own k t _).modify (f := fun task =>
    { task with bufferIndex := CODE_BUFFER_SIZE }) rfl

theorem takeByte_own (k : Kernel sd) (t : TaskId) : OwnStep t k (k.takeByte t).2 :=
  modifyTask_own k (f := fun task => { task with bufferIndex := task.bufferIndex + 1 }) rfl

theorem stackTop_own (k : Kernel sd) (t : TaskId) : OwnStep t k (k.stackTop t).2 :=
  .of_tasks rfl rfl

theorem stackPop_own (k : Kernel sd) (t : TaskId) : OwnStep t k (k.stackPop t).2 := by
  have hnoted : OwnStep t k (k.note (.stack t (k.tasks t).sp)) := .of_tasks rfl rfl
  exact hnoted.modify (f := fun task => { task with sp := task.sp - 1 }) rfl

theorem stackPush_own (k : Kernel sd) (t : TaskId) (val : Int) :
    OwnStep t k (k.stackPush t val) := by
  have hnoted : OwnStep t k (k.note (.stack t ((k.tasks t).sp + 1))) := .of_tasks rfl rfl
  exact hnoted.modify (f := fun task =>
    { task with
      sp := task.sp + 1
      stack := Function.update task.stack (task.sp + 1) val }) rfl

theorem stackDrop_own (k : Kernel sd) (t : TaskId) : OwnStep t k (k.stackDrop t) :=
  modifyTask_own k rfl

/-!
## Memory
-/

theorem malloc_own (k : Kernel sd) (t : TaskId) (size : Int) :
    OwnStep t k (k.malloc t size).2 := by
  rcases k.malloc_cases t size with ⟨hnone, _⟩ | ⟨start, _, hfound⟩
  · rw [hnone]
    exact .refl k
  · rw [hfound]
    unfold mallocAt
    split
    · simp only
      exact stdWrite_own k _ _
    · simp only
      exact (setAllocatedRange_own k start size true).modify rfl

theorem free_own (k : Kernel sd) (t : TaskId) (ptr : Int) : OwnStep t k (k.free t ptr) := by
  apply forExit_value_preserves (fun k' => OwnStep t k k') (.refl k)
  intro i k' _ hk'
  split
  · simp only [Flow.value]
    exact (hk'.trans (setAllocatedRange_own k' ptr _ false)).modify rfl
  · exact hk'

theorem freeAllocations_own (k : Kernel sd) (t : TaskId) :
    OwnStep t k (k.freeAllocations t) := by
  apply forLoop_preserves (fun k' => OwnStep t k k') (.refl k)
  intro i k' _ hk'
  simp only
  split
  · apply (hk'.trans (free_own k' t _)).trans
    exact ((stdWrite_own _ _ _).trans (stdWrite_own _ _ _)).trans (stdWrite_own _ _ _)
  · exact hk'

theorem freeSegment_own (k : Kernel sd) (t : TaskId) : OwnStep t k (k.freeSegment t) := by
  unfold freeSegment
  split
  · exact (setAllocatedRange_own k _ _ false).modify rfl
  · exact .refl k

theorem readString_own (k : Kernel sd) (t : TaskId) (n : Nat) (inRange stop : Int -> Bool)
    (addr : Int) : OwnStep t k (k.readString n inRange stop addr).2 :=
  (readString_touches (R := fun _ => True) (W := fun _ => True) k n inRange stop addr
    fun _ _ _ _ => trivial).own

theorem writeString_own (k : Kernel sd) (t : TaskId) (addr : Int) (str : List Byte) :
    OwnStep t k (k.writeString addr str) :=
  (writeString_touches (R := fun _ => True) (W := fun _ => True) k addr str
    fun _ _ _ => trivial).own

theorem heapSetBelow_own (k : Kernel sd) (t : TaskId) (c val : Int) :
    OwnStep t k (k.heapSetBelow c val) :=
  (heapSetBelow_touches (R := fun _ => True) (W := fun _ => True) k val
    fun _ => trivial).own

/-!
## Listing and waking up
-/

theorem lsReopen_own (k : Kernel sd) (t : TaskId) (pos : BitVec 32) :
    OwnStep t k (k.lsReopen t pos) := by
  unfold lsReopen
  simp only
  split
  · exact (openFile_own k t _).trans (seekFile_own _ t pos)
  · exact (openFile_own k t _).modify rfl

theorem lsWith_own (k : Kernel sd) (t : TaskId) (selector bufSize bufAddr : Int) :
    OwnStep t k (k.lsWith t selector bufSize bufAddr) := by
  have hclosed := closeFile_own k t
  have hopened : OwnStep t k ((k.closeFile t).withCard
      (sd.openPath k.card (k.lsTargetPath t selector)).2) :=
    hclosed.trans (.of_tasks rfl rfl)
  cases hdir : (sd.openPath k.card (k.lsTargetPath t selector)) with
  | mk dir card =>
      rw [hdir] at hopened
      have hcard : (k.closeFile t).card = k.card := rfl
      unfold lsWith
      simp only [hcard, hdir]
      generalize (k.closeFile t).withCard card = k₁ at hopened ⊢
      cases dir with
      | none => exact hopened.trans (heapSetBelow_own k₁ t _ _)
      | some dir =>
          have hentries : OwnStep t k₁ (k₁.withCard (sd.entries k₁.card dir).2) :=
            .of_tasks rfl rfl
          have hlisted := (hopened.trans hentries).trans
            (lsList_touches k₁ dir (k.getPhysAddr t bufAddr) bufSize).own
          cases (k.tasks t).file with
          | none => exact hlisted
          | some file => exact hlisted.trans (lsReopen_own _ t _)

theorem wakeUp_own (h : k.wakeUp t = some k') : OwnStep t k k' := by
  unfold wakeUp at h
  split at h
  · split at h
    · cases h
    · cases h
      exact modifyTask_own k rfl
  · cases h
    exact .refl k

theorem stdRead_own (k : Kernel sd) (t : TaskId) (fd : Int) :
    OwnStep t k (k.stdRead fd).2 := by
  unfold stdRead
  simp only
  split
  · exact .of_tasks rfl rfl
  · exact .of_tasks rfl rfl

end OwnSteps

/-!
## Loading
-/

section Loading

variable {id : TaskId}

theorem findProgram_ticks (k : Kernel sd) (id : TaskId) (name : List Byte) :
    (k.findProgram id name).2.systemTicks = k.systemTicks := by
  unfold findProgram
  simp only
  split
  · rfl
  · split
    · rfl
    · rfl

theorem allocSegment_ticks (k : Kernel sd) (size : Int) :
    (k.allocSegment id size).2.systemTicks = k.systemTicks := by
  rcases k.allocSegment_cases id size with ⟨hnone, _⟩ | ⟨start, _, hfound⟩
  · rw [hnone]
  · rw [hfound]
    exact (setAllocatedRange_own (t := id) k start size true).ticks

theorem failLoad_ticks (k : Kernel sd) (message : List Byte) :
    (k.failLoad id message).systemTicks = k.systemTicks :=
  (stdWrite_own (t := id) k FD_STDERR message).ticks

theorem startTask_ticks (k : Kernel sd) (path : List Byte) :
    (k.startTask id path).systemTicks = k.systemTicks := by
  unfold startTask
  simp only
  rw [(stdWrite_own (t := id) _ _ _).ticks]
  exact (readFile_own _ id CODE_BUFFER_SIZE).ticks

theorem loadTask_ticks (k : Kernel sd) (id : TaskId) (inputName : List Byte)
    (argStr parentCwd parentArgStr : Option (List Byte)) :
    (k.loadTask id inputName argStr parentCwd parentArgStr).2.systemTicks =
      k.systemTicks := by
  have hprepared : (k.prepareTask id argStr parentCwd parentArgStr).systemTicks =
      k.systemTicks := rfl
  unfold loadTask
  simp only
  generalize k.prepareTask id argStr parentCwd parentArgStr = k₁ at hprepared ⊢
  have hfound := (k₁.findProgram_ticks id inputName).trans hprepared
  generalize k₁.findProgram id inputName = found at hfound ⊢
  rcases found with ⟨path, k₂⟩
  simp only at hfound ⊢
  split
  · have hread := (k₂.readFile_own id 4).ticks.trans hfound
    generalize k₂.readFile id 4 = header at hread ⊢
    rcases header with ⟨result, k₃⟩
    simp only at hread ⊢
    split
    · split
      · have hsegment := (@allocSegment_ticks sd id k₃
          (intOfBytes (bufferOf result.2 2) (bufferOf result.2 3))).trans hread
        generalize k₃.allocSegment id (intOfBytes (bufferOf result.2 2)
          (bufferOf result.2 3)) = allocated at hsegment ⊢
        rcases allocated with ⟨success, k₄⟩
        simp only at hsegment ⊢
        split
        · exact (k₄.failLoad_ticks _).trans hsegment
        · exact (k₄.startTask_ticks path).trans hsegment
      · exact (k₃.failLoad_ticks _).trans hread
    · exact (k₃.failLoad_ticks _).trans hread
  · exact (stdWrite_own (t := id) k₂ _ _).ticks.trans hfound

theorem loadTask_slot (k : Kernel sd) (child : TaskId) (name cwd : List Byte)
    (argStr parentArgStr : Option (List Byte)) :
    (forall u, u ≠ child ->
      (k.loadTask child name argStr (some cwd) parentArgStr).2.tasks u = k.tasks u) ∧
    ((k.loadTask child name argStr (some cwd) parentArgStr).2.tasks child).cwd =
      cwd.take 31 := by
  have hloaded := k.loadTask_strings child name argStr (some cwd) parentArgStr
  constructor
  · intro u hu
    rw [hloaded.others u hu]
    exact k.prepareTask_others hu argStr (some cwd) parentArgStr
  · rw [hloaded.cwd]
    simp [prepareTask, modifyTask]

end Loading

end Kernel
end ArduOS
