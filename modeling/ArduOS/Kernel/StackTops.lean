import ArduOS.Kernel.StackBounds

/-!
# The top of a stack

A system call that lacks operands takes them from below the stack.  At the other end
nothing goes wrong: no stack pointer ever passes the last cell of the array, and no
access lies beyond it, whatever a program does.
-/

namespace ArduOS

open Library

namespace Kernel

variable {sd : SdFat}

/-- So far no stack was left at its upper end. -/
structure Capped (k : Kernel sd) : Prop where
  logged : forall t, forall i : Int, .stack t i ∈ k.log -> i < VM_STACK_SIZE
  tops : forall t, (k.tasks t).sp < VM_STACK_SIZE

variable {k k' : Kernel sd}

/-!
## What it is kept by
-/

theorem Capped.quiet (h : Capped k) (hquiet : Quiet k k') : Capped k' := by
  constructor
  · rw [hquiet.log]
    exact h.logged
  · intro u
    rw [hquiet.sp u]
    exact h.tops u

theorem Capped.touches (h : Capped k) {R W : Int -> Prop} (htouches : Touches R W k k') :
    Capped k' := by
  rcases htouches.changed with ⟨heap, new, tx, out, rfl, hnew⟩
  refine ⟨?_, h.tops⟩
  intro t i hin
  rcases List.mem_append.mp hin with hold | hnow
  · exact h.logged t i hold
  · cases hnew _ hnow

theorem Capped.note (h : Capped k) {a : Access}
    (ha : forall t, forall i : Int, a = .stack t i -> i < VM_STACK_SIZE) :
    Capped (k.note a) := by
  refine ⟨?_, h.tops⟩
  intro t i hin
  rcases List.mem_append.mp hin with hold | hnow
  · exact h.logged t i hold
  · exact ha t i (List.mem_singleton.mp hnow).symm

theorem Capped.modify (h : Capped k) (t : TaskId) {f : Task sd -> Task sd}
    (hf : (f (k.tasks t)).sp < VM_STACK_SIZE) : Capped (k.modifyTask t f) := by
  refine ⟨h.logged, ?_⟩
  intro u
  by_cases hu : u = t
  · subst hu
    simpa [modifyTask] using hf
  · simpa [modifyTask, hu] using h.tops u

theorem Capped.stackDrop (h : Capped k) (t : TaskId) : Capped (k.stackDrop t) := by
  apply h.modify
  have htop := h.tops t
  simp only
  omega

theorem Capped.stackTop (h : Capped k) (t : TaskId) : Capped (k.stackTop t).2 := by
  apply h.note
  intro u i heq
  cases heq
  exact h.tops t

theorem Capped.stackPop (h : Capped k) (t : TaskId) : Capped (k.stackPop t).2 :=
  (h.stackTop t).stackDrop t

theorem Capped.stackPush (h : Capped k) (t : TaskId) (val : Int)
    (hroom : (k.tasks t).sp < VM_STACK_SIZE - 1) : Capped (k.stackPush t val) := by
  have hnoted : Capped (k.note (.stack t ((k.tasks t).sp + 1))) := by
    apply h.note
    intro u i heq
    cases heq
    omega
  unfold Kernel.stackPush
  apply hnoted.modify
  simp only [note_tasks]
  omega

theorem Capped.replace (h : Capped k) (t : TaskId) (val : Int) :
    Capped ((k.stackPop t).2.stackPush t val) := by
  have htop := h.tops t
  apply (h.stackPop t).stackPush
  rw [stackPop_sp]
  omega

/-!
## Loading
-/

theorem Capped.tryOpen (h : Capped k) (id : TaskId) (path : List Byte) :
    Capped (k.tryOpen id path) := by
  have hnoted : Capped (k.note (.chars .pathBuffer path.length)) := by
    apply h.note
    intro u i heq
    cases heq
  exact hnoted.quiet (openFile_quiet _ id path)

theorem Capped.findProgram (h : Capped k) (id : TaskId) (inputName : List Byte) :
    Capped (k.findProgram id inputName).2 := by
  have hfirst := h.tryOpen id inputName
  have hsecond := hfirst.tryOpen id (inputName ++ text ".bin")
  unfold Kernel.findProgram
  simp only
  split
  · exact hfirst
  · split
    · exact hsecond
    · exact hsecond.tryOpen id _

theorem Capped.startTask (h : Capped k) (id : TaskId) (path : List Byte) :
    Capped (k.startTask id path) := by
  have hnamed := modifyTask_quiet k id (f := fun task =>
    { task with filename := path.take 127, bufferIndex := 0 }) rfl
  have hread := hnamed.trans (readFile_quiet _ id CODE_BUFFER_SIZE)
  unfold Kernel.startTask
  simp only
  generalize readFile (k.modifyTask id _) id CODE_BUFFER_SIZE = read at hread ⊢
  rcases read with ⟨result, k₁⟩
  simp only at hread ⊢
  have hfilled := hread.modify id (f := fun task =>
    { task with codeBuffer := overwrite result.2 task.codeBuffer }) rfl
  have hrunning := h.quiet (hfilled.modify id (f := Task.setRunning) rfl)
  exact (hrunning.modify id (show (-1 : Int) < VM_STACK_SIZE by decide)).quiet
    (stdWrite_quiet _ _ _)

theorem Capped.loadTask (h : Capped k) (id : TaskId) (inputName : List Byte)
    (argStr parentCwd parentArgStr : Option (List Byte)) :
    Capped (k.loadTask id inputName argStr parentCwd parentArgStr).2 := by
  have hfound := (h.quiet (k.prepareTask_quiet id argStr parentCwd
    parentArgStr)).findProgram id inputName
  unfold Kernel.loadTask
  simp only
  generalize (k.prepareTask id argStr parentCwd parentArgStr).findProgram id inputName =
    found at hfound ⊢
  rcases found with ⟨path, k₂⟩
  simp only at hfound ⊢
  split
  · have hread := hfound.quiet (k₂.readFile_quiet id 4)
    generalize k₂.readFile id 4 = header at hread ⊢
    rcases header with ⟨result, k₃⟩
    simp only at hread ⊢
    split
    · split
      · have hsegment := hread.quiet (k₃.allocSegment_quiet id
          (intOfBytes (bufferOf result.2 2) (bufferOf result.2 3)))
        generalize k₃.allocSegment id (intOfBytes (bufferOf result.2 2)
          (bufferOf result.2 3)) = allocated at hsegment ⊢
        rcases allocated with ⟨success, k₄⟩
        simp only at hsegment ⊢
        split
        · exact hsegment.quiet (k₄.failLoad_quiet id _)
        · exact hsegment.startTask id _
      · exact hread.quiet (k₃.failLoad_quiet id _)
    · exact hread.quiet (k₃.failLoad_quiet id _)
  · simp only
    exact hfound.quiet (k₂.stdWrite_quiet _ _)

/-!
## System calls
-/

theorem Capped.readString (h : Capped k) (n : Nat) (inRange stop : Int -> Bool)
    (addr : Int) : Capped (k.readString n inRange stop addr).2 :=
  h.touches (readString_touches (R := fun _ => True) (W := fun _ => True) k n inRange stop
    addr fun _ _ _ _ => trivial)

theorem Capped.writeString (h : Capped k) (addr : Int) (str : List Byte) :
    Capped (k.writeString addr str) :=
  h.touches (writeString_touches (R := fun _ => True) (W := fun _ => True) k addr str
    fun _ _ _ => trivial)

theorem Capped.heapSetBelow (h : Capped k) (c val : Int) : Capped (k.heapSetBelow c val) :=
  h.touches (heapSetBelow_touches (R := fun _ => True) (W := fun _ => True) k val
    fun _ => trivial)

theorem Capped.lsWith (h : Capped k) (t : TaskId) (selector bufSize bufAddr : Int) :
    Capped (k.lsWith t selector bufSize bufAddr) := by
  have hopened := h.quiet ((closeFile_quiet k t).trans
    (withCard_quiet _ (sd.openPath k.card (k.lsTargetPath t selector)).2))
  have hcard : (k.closeFile t).card = k.card := rfl
  unfold Kernel.lsWith
  simp only [hcard]
  generalize (k.closeFile t).withCard
    (sd.openPath k.card (k.lsTargetPath t selector)).2 = k₁ at hopened ⊢
  split
  · rename_i dir _
    have hlisted : Capped (k₁.lsList dir (k.getPhysAddr t bufAddr) bufSize) :=
      (hopened.quiet (withCard_quiet k₁ (sd.entries k₁.card dir).2)).touches
        (lsList_touches k₁ dir (k.getPhysAddr t bufAddr) bufSize)
    split
    · exact hlisted.quiet (lsReopen_quiet _ t _)
    · exact hlisted
  · exact hopened.heapSetBelow _ _

theorem Capped.execLoad (h : Capped k) (t child : TaskId) (cmdStr : List Byte)
    (argStr : Option (List Byte)) (waitOpt : Int) :
    Capped (k.execLoad t child cmdStr argStr waitOpt) := by
  have hload := h.loadTask child cmdStr none (some (k.tasks t).cwd) argStr
  unfold Kernel.execLoad
  generalize k.loadTask child cmdStr none (some (k.tasks t).cwd) argStr = loaded at hload ⊢
  rcases loaded with ⟨success, k₁⟩
  simp only at hload ⊢
  split
  · have hnoted : Capped (k₁.note (.exec t child waitOpt)) := by
      apply hload.note
      intro u i heq
      cases heq
    split
    · exact hnoted.quiet (modifyTask_quiet _ t rfl)
    · exact hnoted
  · exact hload

theorem Capped.execWith (h : Capped k) (t : TaskId) (waitOpt cmdAddr argAddr : Int) :
    Capped (k.execWith t waitOpt cmdAddr argAddr) := by
  unfold Kernel.execWith
  simp only
  generalize (if argAddr ≠ 0 then k.getPhysAddr t argAddr else argAddr) = physArg
  have hcmd := h.readString 31 belowHeapSize isNullOrSpace (k.getPhysAddr t cmdAddr)
  generalize k.readString 31 belowHeapSize isNullOrSpace (k.getPhysAddr t cmdAddr) =
    read at hcmd ⊢
  rcases read with ⟨cmdStr, k₁⟩
  simp only at hcmd ⊢
  have harg : Capped (if physArg ≠ 0 then
      k₁.readString 31 belowHeapSize isNull physArg else ([], k₁)).2 := by
    split
    · exact hcmd.readString _ _ _ _
    · exact hcmd
  generalize (if physArg ≠ 0 then k₁.readString 31 belowHeapSize isNull physArg
    else ([], k₁)) = readArg at harg ⊢
  rcases readArg with ⟨argStr, k₂⟩
  simp only at harg ⊢
  cases k₂.freeSlot with
  | none => exact harg.quiet (k₂.stdWrite_quiet _ _)
  | some child => exact harg.execLoad t child _ _ waitOpt

theorem Capped.chdirWith (h : Capped k) (t : TaskId) (argAddr bufAddr : Int) :
    Capped (k.chdirWith t argAddr bufAddr) := by
  unfold Kernel.chdirWith
  split
  · exact h
  · have hread := h.readString 31 belowHeapSize isNull (k.getPhysAddr t argAddr)
    generalize k.readString 31 belowHeapSize isNull (k.getPhysAddr t argAddr) = read
      at hread ⊢
    rcases read with ⟨pathStr, k₁⟩
    simp only at hread ⊢
    generalize k₁.chdirTarget t (cString pathStr) = target
    have hchecked : Capped (k₁.chdirCheck target).2 := by
      unfold chdirCheck
      split
      · exact hread
      · exact hread.quiet (withCard_quiet k₁ _)
    generalize k₁.chdirCheck target = checked at hchecked ⊢
    rcases checked with ⟨success, k₂⟩
    simp only at hchecked ⊢
    split
    · have hnoted : forall a n, Capped (k₂.note (.chars a n)) := by
        intro a n
        apply hchecked.note
        intro u i heq
        cases heq
      have hentered : Capped (k₂.chdirEnter t target) := by
        unfold chdirEnter
        exact (hnoted _ _).quiet (modifyTask_quiet _ t rfl)
      split
      · exact hentered.writeString _ _
      · exact hentered
    · split
      · exact hchecked.heapSetBelow _ _
      · exact hchecked

theorem Capped.getcwdWith (h : Capped k) (t : TaskId) (bufAddr : Int) :
    Capped (k.getcwdWith t bufAddr) := by
  unfold Kernel.getcwdWith
  split
  · exact h
  · exact h.writeString _ _

theorem Capped.systemCall (h : Capped k) (t : TaskId) (sysId : Int) :
    Capped (k.systemCall t sysId) := by
  unfold Kernel.systemCall
  split
  · exact (((h.stackPop t).stackPop t).stackPop t).lsWith t _ _ _
  · split
    · exact (((h.stackPop t).stackPop t).stackPop t).execWith t _ _ _
    · split
      · exact ((h.stackPop t).stackPop t).chdirWith t _ _
      · split
        · exact (h.stackPop t).getcwdWith t _
        · exact h

/-!
## Instructions
-/

theorem Capped.terminateTask (h : Capped k) (t : TaskId) : Capped (k.terminateTask t) :=
  h.quiet (k.terminateTask_quiet t)

theorem Capped.checkStackOverflow (h : Capped k) (t : TaskId)
    {body : Kernel sd -> Kernel sd}
    (hbody : (k.tasks t).sp < VM_STACK_SIZE - 1 -> Capped (body k)) :
    Capped (k.checkStackOverflow t body) := by
  unfold Kernel.checkStackOverflow
  split
  · exact (h.quiet (k.stdWrite_quiet _ _)).terminateTask t
  · exact hbody (by omega)

theorem Capped.checkStackUnderflow (h : Capped k) (t : TaskId) (count : Int)
    {body : Kernel sd -> Kernel sd} (hbody : Capped (body k)) :
    Capped (k.checkStackUnderflow t count body) := by
  unfold Kernel.checkStackUnderflow
  split
  · exact (h.quiet (k.stdWrite_quiet _ _)).terminateTask t
  · exact hbody

theorem Capped.binary (h : Capped k) (t : TaskId) (op : Int -> Int -> Int) :
    Capped (k.binary t op) :=
  h.checkStackUnderflow t 2 ((h.stackPop t).replace t _)

theorem Capped.opDup (h : Capped k) (t : TaskId) : Capped (k.opDup t) := by
  apply h.checkStackUnderflow t 1
  apply h.checkStackOverflow t
  intro hroom
  exact Capped.stackPush (h.stackTop t) t _ hroom

theorem Capped.opPush (h : Capped k) (t : TaskId)
    (hroom : (k.tasks t).sp < VM_STACK_SIZE - 1) :
    Capped ((k.fetchInt t).2.stackPush t (k.fetchInt t).1) := by
  have hfetch := k.fetchInt_quiet t
  apply (h.quiet hfetch).stackPush
  rw [hfetch.sp t]
  exact hroom

theorem Capped.opJif (h : Capped k) (t : TaskId) : Capped (k.opJif t) := by
  apply h.checkStackUnderflow t 1
  have hpopped := (h.quiet (k.fetchInt_quiet t)).stackPop t
  simp only
  split
  · exact hpopped.quiet (jump_quiet _ t _)
  · exact hpopped

theorem Capped.opRead (h : Capped k) (t : TaskId) : Capped (k.opRead t) := by
  apply h.checkStackOverflow t
  intro hroom
  have htasks := k.stdRead_tasks FD_STDIN
  have htaken : Capped (k.withHal (k.hal.read FD_STDIN).2) := ⟨h.logged, h.tops⟩
  have hread : Capped (k.stdRead FD_STDIN).2 := by
    unfold stdRead
    simp only
    split
    · apply htaken.note
      intro u i heq
      cases heq
    · exact htaken
  apply hread.stackPush
  rw [htasks]
  exact hroom

theorem Capped.opMalloc (h : Capped k) (t : TaskId) : Capped (k.opMalloc t) := by
  apply h.checkStackUnderflow t 1
  have hmalloc := (h.stackPop t).quiet ((k.stackPop t).2.malloc_quiet t (k.stackPop t).1)
  exact hmalloc.checkStackOverflow t fun hroom => hmalloc.stackPush t _ hroom

theorem Capped.opLoad (h : Capped k) (t : TaskId) : Capped (k.opLoad t) := by
  apply h.checkStackUnderflow t 1
  have hpopped := h.stackPop t
  simp only
  split
  · apply hpopped.checkStackOverflow t
    intro hroom
    exact Capped.stackPush (hpopped.touches
      (heapGet_touches (R := fun _ => True) (W := fun _ => True) _ trivial)) t _ hroom
  · exact hpopped.quiet (segFault_quiet _ t _ _)

theorem Capped.opStore (h : Capped k) (t : TaskId) : Capped (k.opStore t) := by
  apply h.checkStackUnderflow t 2
  have hpopped := (h.stackPop t).stackPop t
  simp only
  split
  · exact hpopped.touches
      (heapSet_touches (R := fun _ => True) (W := fun _ => True) _ _ trivial)
  · exact hpopped.quiet (segFault_quiet _ t _ _)

theorem Capped.execute (h : Capped k) (t : TaskId) (opcode : Byte) :
    Capped (k.execute t opcode) := by
  have hpopped := h.stackPop t
  unfold Kernel.execute
  split
  · exact h.checkStackOverflow t fun hroom => h.opPush t hroom
  · exact h.binary t _
  · exact h.binary t _
  · exact h.binary t _
  · exact h.opDup t
  · exact h.checkStackUnderflow t 1 (h.stackDrop t)
  · exact h.quiet ((k.fetchInt_quiet t).trans (jump_quiet _ t _))
  · exact h.opJif t
  · exact h.checkStackUnderflow t 1
      (hpopped.quiet ((stdWrite_quiet _ _ _).trans (stdWrite_quiet _ _ _)))
  · exact h.checkStackUnderflow t 1 (hpopped.quiet (stdWrite_quiet _ _ _))
  · exact h.checkStackUnderflow t 1
      (hpopped.quiet ((stdWrite_quiet _ _ _).trans (stdWrite_quiet _ _ _)))
  · exact h.checkStackUnderflow t 1
      ((hpopped.readString 127 inHeap isNull _).quiet (stdWrite_quiet _ _ _))
  · exact h.opRead t
  · exact h.checkStackUnderflow t 1 (hpopped.systemCall t _)
  · exact h.checkStackUnderflow t 1
      ((hpopped.quiet (modifyTask_quiet _ t rfl)).quiet (yield_quiet _ t))
  · exact h.terminateTask t
  · exact h.opMalloc t
  · exact h.opLoad t
  · exact h.opStore t
  · exact h
  · exact h
  · exact h

theorem Capped.runStep (h : Capped k) (t : TaskId) : Capped (k.runStep t) := by
  have hfetched := h.quiet (k.fetchByte_quiet t)
  unfold Kernel.runStep
  simp only
  split
  · exact hfetched
  · exact hfetched.execute t _

/-!
## Requests
-/

theorem Capped.pushOperand (h : Capped k) (t : TaskId) (val : Int) {n : Int}
    (hsp : (k.tasks t).sp = n) (hn : n < 2) :
    Capped (k.stackPush t val) ∧ ((k.stackPush t val).tasks t).sp = n + 1 := by
  have hsize : (VM_STACK_SIZE : Int) = 64 := rfl
  refine ⟨h.stackPush t val (by omega), ?_⟩
  rw [stackPush_sp, hsp]

theorem Capped.commLs (h : Capped k) (t : TaskId) (payload : List Byte)
    (hsp : (k.tasks t).sp = -1) : Capped (k.commLs t payload) := by
  have hargs : Quiet k (if payload.length > 0 then
      k.modifyTask t fun task => { task with args := cString (payload.take 31) }
      else k) := by
    split
    · exact modifyTask_quiet k t rfl
    · exact Quiet.refl k
  unfold Kernel.commLs
  simp only
  generalize (if payload.length > 0 then k.modifyTask t _ else k) = k₁ at hargs ⊢
  rcases (h.quiet hargs).pushOperand t 0 ((hargs.sp t).trans hsp) (by decide) with
    ⟨hfirst, hsp₁⟩
  rcases hfirst.pushOperand t 128 hsp₁ (by decide) with ⟨hsecond, hsp₂⟩
  rcases hsecond.pushOperand t (if payload.length > 0 then 1 else 0) hsp₂ (by decide) with
    ⟨hthird, _⟩
  have hcalled := hthird.systemCall t 1
  generalize Kernel.systemCall _ t 1 = k₂ at hcalled ⊢
  have herror := hcalled.touches (k₂.reportsError_touches t 0)
  split
  · exact herror.quiet (stdWrite_quiet _ _ _)
  · exact herror.touches (commSendHeapString_touches _ t 0 128)

theorem Capped.commExec (h : Capped k) (t : TaskId) (payload : List Byte)
    (hsp : (k.tasks t).sp = -1) : Capped (k.commExec t payload) := by
  have hparse := k.commParseExec_touches t payload
  unfold Kernel.commExec
  generalize k.commParseExec t payload = parsed at hparse ⊢
  rcases parsed with ⟨⟨waitOpt, argAddr⟩, k₁⟩
  simp only at hparse ⊢
  have hsp₀ : (k₁.tasks t).sp = -1 := by rw [hparse.tasks, hsp]
  rcases (h.touches hparse).pushOperand t argAddr hsp₀ (by decide) with ⟨hfirst, hsp₁⟩
  rcases hfirst.pushOperand t 1 hsp₁ (by decide) with ⟨hsecond, hsp₂⟩
  rcases hsecond.pushOperand t waitOpt hsp₂ (by decide) with ⟨hthird, _⟩
  exact (hthird.systemCall t 2).quiet (stdWrite_quiet _ _ _)

theorem Capped.commChdir (h : Capped k) (t : TaskId) (heapDataAddr : Int)
    (hsp : (k.tasks t).sp = -1) : Capped (k.commChdir t heapDataAddr) := by
  rcases h.pushOperand t 64 hsp (by decide) with ⟨hfirst, hsp₁⟩
  rcases hfirst.pushOperand t heapDataAddr hsp₁ (by decide) with ⟨hsecond, _⟩
  have hcalled := hsecond.systemCall t 3
  unfold Kernel.commChdir
  simp only
  generalize Kernel.systemCall _ t 3 = k₁ at hcalled ⊢
  have herror := hcalled.touches (k₁.reportsError_touches t 64)
  split
  · exact herror.quiet (stdWrite_quiet _ _ _)
  · exact herror.quiet ((stdWrite_quiet _ _ _).trans (stdWrite_quiet _ _ _))

theorem Capped.commGetcwd (h : Capped k) (t : TaskId) (hsp : (k.tasks t).sp = -1) :
    Capped (k.commGetcwd t) := by
  rcases h.pushOperand t 0 hsp (by decide) with ⟨hpushed, _⟩
  exact (hpushed.systemCall t 4).quiet ((stdWrite_quiet _ _ _).trans (stdWrite_quiet _ _ _))

theorem Capped.commRequest (h : Capped k) (t : TaskId) (cmdId : BitVec 16)
    (payload : List Byte) : Capped (k.commRequest t cmdId payload) := by
  have hnoted : Capped (k.note (.dispatch cmdId payload)) := by
    apply h.note
    intro u i heq
    cases heq
  have hstored := hnoted.touches (commStorePayload_touches _ t payload)
  unfold Kernel.commRequest
  simp only
  generalize (k.note (.dispatch cmdId payload)).commStorePayload t payload = stored
    at hstored ⊢
  rcases stored with ⟨heapDataAddr, k₁⟩
  simp only at hstored ⊢
  have hready := hstored.modify t (f := fun task => { task with sp := -1 })
    (show (-1 : Int) < VM_STACK_SIZE by decide)
  have hsp : ((k₁.modifyTask t fun task => { task with sp := -1 }).tasks t).sp = -1 := by
    simp [modifyTask]
  split
  · exact hready.commLs t payload hsp
  · split
    · exact hready.commExec t payload hsp
    · split
      · exact hready.commChdir t heapDataAddr hsp
      · split
        · exact hready.commGetcwd t hsp
        · exact hready

theorem Capped.commProcess (h : Capped k) (t : TaskId) : Capped (k.commProcess t) := by
  have hpolled : forall hal rxBuffer, Capped (k.polled hal rxBuffer) :=
    fun _ _ => ⟨h.logged, h.tops⟩
  unfold Kernel.commProcess
  simp only
  split
  · split
    · exact (hpolled _ _).commRequest t _ _
    · exact hpolled _ _
  · exact hpolled _ _

/-!
## Runs
-/

theorem Capped.schedule (h : Capped k) (t : TaskId) : Capped (k.schedule t) := by
  unfold Kernel.schedule
  split
  · exact h
  · split
    · exact h.commProcess t
    · split
      · exact h
      · rename_i k' hwake
        exact (h.quiet (wakeUp_quiet hwake)).runStep t

theorem Capped.step (h : Capped k) (e : Event) : Capped (k.step e) := by
  cases e with
  | arrive bytes => exact ⟨h.logged, h.tops⟩
  | tick => exact ⟨h.logged, h.tops⟩
  | turn =>
      have hturn := h.schedule k.current
      exact ⟨hturn.logged, hturn.tops⟩

theorem run_capped (card : sd.Card) (events : List Event) :
    Capped ((boot card).run events) := by
  have hboot : Capped (boot card) := by
    have hsound := boot_stackSound card
    exact ⟨fun t i hin => (hsound.logged t i hin).right, fun t => (hsound.bounds t).right⟩
  exact run_preserves Capped (fun _ e hk => hk.step e) events _ hboot

/--
In every run, whatever the programs and however few operands their system calls have: no
access to a stack lies beyond its last cell, and no stack pointer does.  What a short
system call leaves wrong is below the stack.
-/
theorem stack_tops (card : sd.Card) (events : List Event) :
    (forall t, forall i : Int, .stack t i ∈ ((boot card).run events).log ->
      i < VM_STACK_SIZE) ∧
    forall t, (((boot card).run events).tasks t).sp < VM_STACK_SIZE := by
  have hcapped := run_capped card events
  exact ⟨hcapped.logged, hcapped.tops⟩

end Kernel
end ArduOS
