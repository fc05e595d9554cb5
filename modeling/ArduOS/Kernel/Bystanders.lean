import ArduOS.Kernel.OwnSteps

/-!
# Properties of all slots

What every slot satisfies, together with the tick counter, through a whole turn:
a property that bears what a turn does to the tasks holds after it.
-/

namespace ArduOS

open Library

namespace Kernel

variable {sd : SdFat}

/-- Every slot has the property `I`, and the tick counter stands at `now`. -/
structure Stands (I : TaskId -> Task sd -> Prop) (now : BitVec 32) (k : Kernel sd) :
    Prop where
  each : forall u, I u (k.tasks u)
  ticks : k.systemTicks = now

/-- A property that bears a turn of `t`, as long as it does not change directory. -/
structure Bears (I : TaskId -> Task sd -> Prop) (t : TaskId) : Prop where
  own : forall {task task' : Task sd}, task'.cwd = task.cwd -> I t task -> I t task'
  wake : forall {u c : TaskId} {task : Task sd}, task.taskState = .paused c ->
    I u task -> I u task.setRunning
  load : forall {k : Kernel sd} {child : TaskId}, (forall u, I u (k.tasks u)) ->
    child ≠ 0 -> (k.tasks child).taskState = .free ->
    forall task : Task sd, task.cwd = (k.tasks t).cwd.take 31 -> I child task

section Turns

variable {I : TaskId -> Task sd -> Prop} {now : BitVec 32} {t : TaskId}
  {k k' : Kernel sd}

theorem Stands.own (hk : Stands I now k) (hI : Bears I t) (h : OwnStep t k k') :
    Stands I now k' := by
  constructor
  · intro u
    by_cases hu : u = t
    · rw [hu]
      exact hI.own h.cwd (hk.each t)
    · rw [h.others u hu]
      exact hk.each u
  · exact h.ticks.trans hk.ticks

variable (hI : Bears I t)

include hI

/-!
## Ending
-/

theorem wakeWaiting_stands (hk : Stands I now k) : Stands I now (k.wakeWaiting t) := by
  constructor
  · intro u
    unfold wakeWaiting
    simp only
    split
    · rename_i hwaits
      cases hstate : (k.tasks u).taskState with
      | paused c => exact hI.wake hstate (hk.each u)
      | free =>
          rw [Task.getWaitingFor, hstate] at hwaits
          simp only at hwaits
          omega
      | running =>
          rw [Task.getWaitingFor, hstate] at hwaits
          simp only at hwaits
          omega
    · exact hk.each u
  · exact hk.ticks

theorem terminateTask_stands (hk : Stands I now k) : Stands I now (k.terminateTask t) := by
  have hfreed := hk.own hI ((freeAllocations_own k t).trans (freeSegment_own _ t))
  have hwoken := wakeWaiting_stands hI hfreed
  unfold terminateTask
  exact (hwoken.own hI (modifyTask_own _ rfl)).own hI (closeFile_own _ t)

theorem abort_stands (message : List Byte) (hk : Stands I now k) :
    Stands I now ((k.stdWrite FD_STDERR message).terminateTask t) :=
  terminateTask_stands hI (hk.own hI (stdWrite_own k _ _))

theorem checkStackOverflow_stands {body : Kernel sd -> Kernel sd} (hk : Stands I now k)
    (hbody : Stands I now (body k)) : Stands I now (k.checkStackOverflow t body) := by
  unfold checkStackOverflow
  split
  · exact abort_stands hI _ hk
  · exact hbody

theorem checkStackUnderflow_stands {count : Int} {body : Kernel sd -> Kernel sd}
    (hk : Stands I now k)
    (hbody : count - 1 <= (k.tasks t).sp -> Stands I now (body k)) :
    Stands I now (k.checkStackUnderflow t count body) := by
  unfold checkStackUnderflow
  split
  · exact abort_stands hI _ hk
  · exact hbody (by omega)

theorem segFault_stands (message : List Byte) (physAddr : Int) (hk : Stands I now k) :
    Stands I now (k.segFault t message physAddr) := by
  unfold segFault
  exact terminateTask_stands hI (hk.own hI (((stdWrite_own k _ _).trans
    (stdWrite_own _ _ _)).trans (stdWrite_own _ _ _)))

/-!
## Fetching
-/

theorem refillBuffer_stands (hk : Stands I now k) : Stands I now (k.refillBuffer t) := by
  unfold refillBuffer
  split
  · exact (hk.own hI (readFile_own k t CODE_BUFFER_SIZE)).own hI
      (modifyTask_own _ rfl)
  · exact terminateTask_stands hI hk

theorem fetchByte_stands (hk : Stands I now k) : Stands I now (k.fetchByte t).2 := by
  unfold fetchByte
  split
  · have hrefilled := refillBuffer_stands hI hk
    simp only
    split
    · exact hrefilled
    · exact hrefilled.own hI (takeByte_own _ t)
  · exact hk.own hI (takeByte_own k t)

theorem fetchInt_stands (hk : Stands I now k) : Stands I now (k.fetchInt t).2 :=
  fetchByte_stands hI (fetchByte_stands hI hk)

/-!
## System calls
-/

theorem execLoad_stands {child : TaskId} (hchild : child ≠ 0)
    (hfree : (k.tasks child).taskState = .free) (cmdStr : List Byte)
    (argStr : Option (List Byte)) (waitOpt : Int) (hk : Stands I now k) :
    Stands I now (k.execLoad t child cmdStr argStr waitOpt) := by
  have hticks := k.loadTask_ticks child cmdStr none (some (k.tasks t).cwd) argStr
  rcases k.loadTask_slot child cmdStr (k.tasks t).cwd none argStr with ⟨hothers, hcwd⟩
  unfold execLoad
  generalize k.loadTask child cmdStr none (some (k.tasks t).cwd) argStr = loaded
    at hticks hothers hcwd ⊢
  rcases loaded with ⟨success, k₁⟩
  simp only at hticks hothers hcwd ⊢
  have hloaded : Stands I now k₁ := by
    constructor
    · intro u
      by_cases hu : u = child
      · rw [hu]
        exact hI.load hk.each hchild hfree _ hcwd
      · rw [hothers u hu]
        exact hk.each u
    · exact hticks.trans hk.ticks
  split
  · have hnote : OwnStep t k₁ (k₁.note (.exec t child waitOpt)) := .of_tasks rfl rfl
    have hnoted := hloaded.own hI hnote
    split
    · exact hnoted.own hI (modifyTask_own _ rfl)
    · exact hnoted
  · exact hloaded

theorem execWith_stands (waitOpt cmdAddr argAddr : Int) (hk : Stands I now k) :
    Stands I now (k.execWith t waitOpt cmdAddr argAddr) := by
  unfold execWith
  simp only
  have hcmd := hk.own hI (readString_own k t 31 belowHeapSize isNullOrSpace
    (k.getPhysAddr t cmdAddr))
  generalize k.readString 31 belowHeapSize isNullOrSpace (k.getPhysAddr t cmdAddr) = read
    at hcmd ⊢
  rcases read with ⟨cmdStr, k₁⟩
  simp only at hcmd ⊢
  generalize (if argAddr ≠ 0 then k.getPhysAddr t argAddr else argAddr) = physArg
  have hread : Stands I now (if physArg ≠ 0 then
      k₁.readString 31 belowHeapSize isNull physArg else ([], k₁)).2 := by
    split
    · exact hcmd.own hI (readString_own k₁ t 31 belowHeapSize isNull physArg)
    · exact hcmd
  generalize (if physArg ≠ 0 then k₁.readString 31 belowHeapSize isNull physArg
    else ([], k₁)) = readArg at hread ⊢
  rcases readArg with ⟨argStr, k₂⟩
  simp only at hread ⊢
  cases hslot : k₂.freeSlot with
  | none => exact hread.own hI (stdWrite_own k₂ _ _)
  | some child =>
      rcases freeSlot_spec hslot with ⟨hchild, hfree⟩
      exact execLoad_stands hI hchild hfree _ _ waitOpt hread

/-- Of the system calls only `Syscall_chdir` is left to the caller of this lemma. -/
theorem systemCall_stands (sysId : Int) (hk : Stands I now k)
    (hchdir : sysId = 3 -> Stands I now (k.syscallChdir t)) :
    Stands I now (k.systemCall t sysId) := by
  have hone := hk.own hI (stackPop_own k t)
  have htwo := hone.own hI (stackPop_own _ t)
  have hthree := htwo.own hI (stackPop_own _ t)
  unfold systemCall
  split
  · exact hthree.own hI (lsWith_own _ t _ _ _)
  · split
    · exact execWith_stands hI _ _ _ hthree
    · split
      · rename_i hid
        exact hchdir hid
      · split
        · unfold syscallGetcwd getcwdWith
          simp only
          split
          · exact hone
          · exact hone.own hI (writeString_own _ t _ _)
        · exact hk

/-!
## Instructions
-/

theorem opSys_stands (hk : Stands I now k)
    (hchdir : 0 <= (k.tasks t).sp -> k.operand t 0 = 3 ->
      Stands I now (k.stackPop t).2 -> Stands I now ((k.stackPop t).2.syscallChdir t)) :
    Stands I now (k.opSys t) := by
  apply checkStackUnderflow_stands hI hk
  intro hsp
  have hpop := hk.own hI (stackPop_own k t)
  have hid := k.stackPop_fst t
  exact systemCall_stands hI _ hpop fun h => hchdir (by omega) (hid.symm.trans h) hpop

theorem opMalloc_stands (hk : Stands I now k) : Stands I now (k.opMalloc t) := by
  apply checkStackUnderflow_stands hI hk
  intro _
  have hpop := hk.own hI (stackPop_own k t)
  have hmalloc := hpop.own hI (malloc_own _ t (k.stackPop t).1)
  apply checkStackOverflow_stands hI hmalloc
  exact hmalloc.own hI (stackPush_own _ t _)

theorem opLoad_stands (hk : Stands I now k) : Stands I now (k.opLoad t) := by
  apply checkStackUnderflow_stands hI hk
  intro _
  have hpop := hk.own hI (stackPop_own k t)
  simp only
  split
  · apply checkStackOverflow_stands hI hpop
    have hread : OwnStep t (k.stackPop t).2 ((k.stackPop t).2.heapGet
        ((k.stackPop t).2.getPhysAddr t (k.stackPop t).1)).2 := .of_tasks rfl rfl
    exact (hpop.own hI hread).own hI (stackPush_own _ t _)
  · exact segFault_stands hI _ _ hpop

theorem opStore_stands (hk : Stands I now k) : Stands I now (k.opStore t) := by
  apply checkStackUnderflow_stands hI hk
  intro _
  have hpops := (hk.own hI (stackPop_own k t)).own hI (stackPop_own _ t)
  simp only
  split
  · exact hpops.own hI (.of_tasks rfl rfl)
  · exact segFault_stands hI _ _ hpops

theorem opJif_stands (hk : Stands I now k) : Stands I now (k.opJif t) := by
  apply checkStackUnderflow_stands hI hk
  intro _
  have hpop := (fetchInt_stands hI hk).own hI (stackPop_own _ t)
  simp only
  split
  · exact hpop.own hI (jump_own _ t _)
  · exact hpop

theorem opRead_stands (hk : Stands I now k) : Stands I now (k.opRead t) := by
  apply checkStackOverflow_stands hI hk
  exact (hk.own hI (stdRead_own k t FD_STDIN)).own hI (stackPush_own _ t _)

theorem opPrint_stands (fd : Int) (hk : Stands I now k) : Stands I now (k.opPrint t fd) := by
  apply checkStackUnderflow_stands hI hk
  intro _
  have hpop := hk.own hI (stackPop_own k t)
  exact (hpop.own hI (stdWrite_own _ _ _)).own hI (stdWrite_own _ _ _)

theorem opPrts_stands (hk : Stands I now k) : Stands I now (k.opPrts t) := by
  apply checkStackUnderflow_stands hI hk
  intro _
  have hpop := hk.own hI (stackPop_own k t)
  exact (hpop.own hI (readString_own _ t _ _ _ _)).own hI (stdWrite_own _ _ _)

theorem opDup_stands (hk : Stands I now k) : Stands I now (k.opDup t) := by
  apply checkStackUnderflow_stands hI hk
  intro _
  apply checkStackOverflow_stands hI hk
  exact (hk.own hI (stackTop_own k t)).own hI (stackPush_own _ t _)

theorem binary_stands (op : Int -> Int -> Int) (hk : Stands I now k) :
    Stands I now (k.binary t op) := by
  apply checkStackUnderflow_stands hI hk
  intro _
  exact ((hk.own hI (stackPop_own k t)).own hI (stackPop_own _ t)).own hI
    (stackPush_own _ t _)

theorem opSleep_stands (hk : Stands I now k) : Stands I now (k.opSleep t) := by
  apply checkStackUnderflow_stands hI hk
  intro _
  exact ((hk.own hI (stackPop_own k t)).own hI (modifyTask_own _ rfl)).own hI
    (modifyTask_own _ rfl)

theorem execute_stands (opcode : Byte) (hk : Stands I now k)
    (hchdir : VMOpcode.ofByte? opcode = some .sys -> 0 <= (k.tasks t).sp ->
      k.operand t 0 = 3 -> Stands I now (k.stackPop t).2 ->
      Stands I now ((k.stackPop t).2.syscallChdir t)) :
    Stands I now (k.execute t opcode) := by
  unfold execute
  cases hop : VMOpcode.ofByte? opcode with
  | none => exact hk
  | some op =>
      cases op with
      | exit => exact terminateTask_stands hI hk
      | print => exact opPrint_stands hI FD_STDOUT hk
      | read => exact opRead_stands hI hk
      | prtc =>
          apply checkStackUnderflow_stands hI hk
          intro _
          exact (hk.own hI (stackPop_own k t)).own hI (stdWrite_own _ _ _)
      | prte => exact opPrint_stands hI FD_STDERR hk
      | prts => exact opPrts_stands hI hk
      | push =>
          apply checkStackOverflow_stands hI hk
          exact (fetchInt_stands hI hk).own hI (stackPush_own _ t _)
      | add => exact binary_stands hI _ hk
      | sub => exact binary_stands hI _ hk
      | eq => exact binary_stands hI _ hk
      | dup => exact opDup_stands hI hk
      | pop =>
          apply checkStackUnderflow_stands hI hk
          intro _
          exact hk.own hI (stackDrop_own k t)
      | jmp => exact (fetchInt_stands hI hk).own hI (jump_own _ t _)
      | jif => exact opJif_stands hI hk
      | sys => exact opSys_stands hI hk (hchdir hop)
      | pinMode => exact hk
      | dWrite => exact hk
      | sleep => exact opSleep_stands hI hk
      | malloc => exact opMalloc_stands hI hk
      | load => exact opLoad_stands hI hk
      | store => exact opStore_stands hI hk

theorem runStep_stands (hk : Stands I now k)
    (hchdir : k.nextOpcode t = some .sys -> 0 <= ((k.fetchByte t).2.tasks t).sp ->
      (k.fetchByte t).2.operand t 0 = 3 ->
      Stands I now ((k.fetchByte t).2.stackPop t).2 ->
      Stands I now (((k.fetchByte t).2.stackPop t).2.syscallChdir t)) :
    Stands I now (k.runStep t) := by
  have hfetch := fetchByte_stands hI hk
  unfold runStep
  unfold nextOpcode at hchdir
  generalize k.fetchByte t = fetched at hfetch hchdir ⊢
  rcases fetched with ⟨opcode, k₁⟩
  simp only at hfetch hchdir ⊢
  cases hactive : (k₁.tasks t).isActive with
  | false =>
      simp only [Bool.false_eq_true, not_false_eq_true, if_true]
      exact hfetch
  | true =>
      simp only [hactive, if_true] at hchdir
      simp only [not_true_eq_false, if_false]
      exact execute_stands hI opcode hfetch hchdir

end Turns

/-!
## Turns
-/

/-- The state in which the daemon calls `Syscall_chdir` for a request. -/
def requestedChdir (k : Kernel sd) (payload : List Byte) : Kernel sd :=
  let k := k.note (.dispatch SYS_CHDIR payload)
  let (heapDataAddr, k) := k.commStorePayload 0 payload
  let k := k.modifyTask 0 fun task => { task with sp := -1 }
  (k.stackPush 0 64).stackPush 0 heapDataAddr

/-- The turn of `t` in state `k` calls `Syscall_chdir` in state `k'`. -/
inductive CallsChdir (k : Kernel sd) : TaskId -> Kernel sd -> Prop where
  | program {t : TaskId} {k' : Kernel sd} (hturn : k.dispatches t = some k')
      (hop : k'.nextOpcode t = some .sys) (hsp : 0 <= ((k'.fetchByte t).2.tasks t).sp)
      (hid : (k'.fetchByte t).2.operand t 0 = 3) :
      CallsChdir k t ((k'.fetchByte t).2.stackPop t).2
  | request {r : Hal.PacketRead} {hal : Hal} (hrunnable : (k.tasks 0).isRunnable = true)
      (hread : k.hal.readPacket 0#16 k.rxBuffer RX_BUFFER_SIZE = (r, hal))
      (hresult : r.result >= 0) (hcmd : r.cmdOut = SYS_CHDIR) :
      CallsChdir k 0 ((k.polled hal r.payloadOut).requestedChdir
        (bytesOf r.payloadOut r.result.toNat))

section Scheduling

variable {I : TaskId -> Task sd -> Prop} {now : BitVec 32} {k : Kernel sd}

theorem commRequest_stands (hI : Bears I 0) (cmdId : BitVec 16) (payload : List Byte)
    (hk : Stands I now k)
    (hchdir : cmdId = SYS_CHDIR -> Stands I now (k.requestedChdir payload) ->
      Stands I now ((k.requestedChdir payload).syscallChdir 0)) :
    Stands I now (k.commRequest 0 cmdId payload) := by
  unfold commRequest
  unfold requestedChdir at hchdir
  have hnoted : Stands I now (k.note (.dispatch cmdId payload)) :=
    hk.own hI (.of_tasks rfl rfl)
  have hsame : cmdId = SYS_CHDIR ->
      k.note (.dispatch SYS_CHDIR payload) = k.note (.dispatch cmdId payload) :=
    fun h => by rw [h]
  generalize k.note (.dispatch cmdId payload) = k₁ at hnoted hsame ⊢
  have hchdir' := fun h : cmdId = SYS_CHDIR => hsame h ▸ hchdir h
  have hstored := hnoted.own hI (k₁.commStorePayload_touches 0 payload).own
  simp only at hchdir' ⊢
  generalize k₁.commStorePayload 0 payload = stored at hstored hchdir' ⊢
  rcases stored with ⟨heapDataAddr, k₂⟩
  simp only at hstored hchdir' ⊢
  have hready : Stands I now (k₂.modifyTask 0 fun task => { task with sp := -1 }) :=
    hstored.own hI (modifyTask_own k₂ rfl)
  generalize k₂.modifyTask 0 (fun task => { task with sp := -1 }) = k₃
    at hready hchdir' ⊢
  split
  · unfold commLs
    have hargs : Stands I now (if payload.length > 0 then
        k₃.modifyTask 0 fun task => { task with args := cString (payload.take 31) }
        else k₃) := by
      split
      · exact hready.own hI (modifyTask_own k₃ rfl)
      · exact hready
    simp only
    generalize (if payload.length > 0 then
      k₃.modifyTask 0 fun task => { task with args := cString (payload.take 31) }
      else k₃) = k₄ at hargs ⊢
    generalize (if payload.length > 0 then (1 : Int) else 0) = selector
    have hpushed := ((hargs.own hI (stackPush_own k₄ 0 0)).own hI
      (stackPush_own _ 0 128)).own hI (stackPush_own _ 0 selector)
    have hlisted := systemCall_stands hI 1 hpushed fun h => by cases h
    have hreported := hlisted.own hI (reportsError_touches _ 0 0).own
    split
    · exact hreported.own hI (stdWrite_own _ _ _)
    · exact hreported.own hI (commSendHeapString_touches _ 0 0 128).own
  · split
    · unfold commExec
      have hparsed := hready.own hI (k₃.commParseExec_touches 0 payload).own
      generalize k₃.commParseExec 0 payload = parsed at hparsed ⊢
      rcases parsed with ⟨⟨waitOpt, argAddr⟩, k₄⟩
      simp only at hparsed ⊢
      have hpushed := ((hparsed.own hI (stackPush_own k₄ 0 argAddr)).own hI
        (stackPush_own _ 0 1)).own hI (stackPush_own _ 0 waitOpt)
      have hstarted := systemCall_stands hI 2 hpushed fun h => by cases h
      exact hstarted.own hI (stdWrite_own _ _ _)
    · split
      · rename_i hcmd
        unfold commChdir
        have hpushed := (hready.own hI (stackPush_own k₃ 0 64)).own hI
          (stackPush_own _ 0 heapDataAddr)
        have hchanged := systemCall_stands hI 3 hpushed fun _ => hchdir' hcmd hpushed
        have hreported := hchanged.own hI (reportsError_touches _ 0 64).own
        simp only
        split
        · exact hreported.own hI (stdWrite_own _ _ _)
        · exact (hreported.own hI (stdWrite_own _ _ _)).own hI (stdWrite_own _ _ _)
      · split
        · unfold commGetcwd
          have hpushed := hready.own hI (stackPush_own k₃ 0 0)
          have hasked := systemCall_stands hI 4 hpushed fun h => by cases h
          exact (hasked.own hI (stdWrite_own _ _ _)).own hI (stdWrite_own _ _ _)
        · exact hready

theorem commProcess_stands (hI : Bears I 0) (hk : Stands I now k)
    (hrunnable : (k.tasks 0).isRunnable = true)
    (hchdir : forall k', CallsChdir k 0 k' -> Stands I now k' ->
      Stands I now (k'.syscallChdir 0)) :
    Stands I now (k.commProcess 0) := by
  unfold commProcess
  cases hread : k.hal.readPacket 0#16 k.rxBuffer RX_BUFFER_SIZE with
  | mk r hal =>
      have hpolled : Stands I now (k.polled hal r.payloadOut) :=
        hk.own hI (.of_tasks rfl rfl)
      simp only
      split
      · rename_i hresult
        split
        · apply commRequest_stands hI _ _ hpolled
          intro hcmd
          exact hchdir _ (.request hrunnable hread hresult hcmd)
        · exact hpolled
      · exact hpolled

theorem schedule_stands {t : TaskId} (hI : Bears I t) (hk : Stands I now k)
    (hchdir : forall k', CallsChdir k t k' -> Stands I now k' ->
      Stands I now (k'.syscallChdir t)) :
    Stands I now (k.schedule t) := by
  unfold schedule
  by_cases hrunnable : (k.tasks t).isRunnable = true
  · simp only [hrunnable, not_true_eq_false, if_false]
    by_cases ht : t = 0
    · subst ht
      exact commProcess_stands hI hk hrunnable hchdir
    · simp only [if_neg ht]
      cases hwake : k.wakeUp t with
      | none => exact hk
      | some k' =>
          have hturn : k.dispatches t = some k' := by
            simp [dispatches, hrunnable, ht, hwake]
          apply runStep_stands hI (hk.own hI (wakeUp_own hwake))
          intro hop hsp hid
          exact hchdir _ (.program hturn hop hsp hid)
  · rw [if_pos hrunnable]
    exact hk

end Scheduling

end Kernel
end ArduOS
