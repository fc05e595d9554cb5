import ArduOS.Kernel.Instructions
import ArduOS.Kernel.Outcomes
import ArduOS.Library.Runs

/-!
# One turn, one outcome

Every instruction and every request has one of the outcomes of `Records`, so
that a turn of the scheduler has.
-/

namespace ArduOS

open Library Records

namespace Kernel

variable {sd : SdFat} {kept : Prop}

/-!
## Fetching
-/

def Fetches (t : TaskId) (k k' : Kernel sd) : Prop :=
  k'.records = k.records ∨ Exits t k.records k'.records

theorem Fetches.trans {t : TaskId} {k k' k'' : Kernel sd} (h : Fetches t k k')
    (h' : Fetches t k' k'') : Fetches t k k'' := by
  rcases h with hsame | hexit
  · rcases h' with hsame' | hexit'
    · exact Or.inl (hsame'.trans hsame)
    · right
      rw [← hsame]
      exact hexit'
  · rcases h' with hsame' | hexit'
    · right
      rw [hsame']
      exact hexit
    · exact Or.inr (hexit.trans hexit')

theorem Fetches.outcome {t : TaskId} {k k' : Kernel sd} (h : Fetches t k k')
    (ht : t ≠ 0) :
    Outcome kept t k.records k'.records := by
  rcases h with hsame | hexit
  · exact Outcome.same hsame
  · exact Outcome.exit ht _ hexit

theorem Fetches.records_of_active {t : TaskId} {k k' : Kernel sd} (h : Fetches t k k')
    (hactive : (k'.tasks t).isActive = true) : k'.records = k.records := by
  rcases h with hsame | hexit
  · exact hsame
  · have hfree : (k'.tasks t).taskState = .free := hexit.free
    simp [Task.isActive, hfree] at hactive

theorem refillBuffer_fetches (k : Kernel sd) (t : TaskId) :
    Fetches t k (k.refillBuffer t) := by
  unfold refillBuffer
  split
  · left
    simp only
    rw [records_modifyTask_same _ _ rfl, records_readFile]
  · right
    exact k.terminateTask_exits t

theorem takeByte_records (k : Kernel sd) (t : TaskId) :
    (k.takeByte t).2.records = k.records := by
  unfold takeByte
  rw [records_modifyTask_same _ _ rfl]

theorem fetchByte_fetches (k : Kernel sd) (t : TaskId) :
    Fetches t k (k.fetchByte t).2 := by
  unfold fetchByte
  split
  · have hrefill := k.refillBuffer_fetches t
    simp only
    split
    · exact hrefill
    · exact hrefill.trans (Or.inl (takeByte_records _ t))
  · exact Or.inl (takeByte_records k t)

theorem fetchByte_records {k : Kernel sd} {t : TaskId} {op : VMOpcode}
    (h : k.nextOpcode t = some op) : (k.fetchByte t).2.records = k.records :=
  (k.fetchByte_fetches t).records_of_active (active_of_nextOpcode h)

theorem fetchInt_fetches (k : Kernel sd) (t : TaskId) : Fetches t k (k.fetchInt t).2 :=
  (k.fetchByte_fetches t).trans ((k.fetchByte t).2.fetchByte_fetches t)

theorem jump_records (k : Kernel sd) (t : TaskId) (addr : Int) :
    (k.jump t addr).records = k.records := by
  unfold jump
  simp only
  rw [records_modifyTask_same _ _ rfl, records_seekFile]

/-!
## Checks
-/

theorem checkStackOverflow_outcome (k : Kernel sd) {t : TaskId} (ht : t ≠ 0)
    {body : Kernel sd -> Kernel sd}
    (hbody : Outcome kept t k.records (body k).records) :
    Outcome kept t k.records (k.checkStackOverflow t body).records := by
  unfold checkStackOverflow
  split
  · apply Outcome.after (k.records_stdWrite FD_STDERR (text "Err: Stack Overflow\n"))
    exact Outcome.exit ht _ (terminateTask_exits _ t)
  · exact hbody

theorem checkStackUnderflow_outcome (k : Kernel sd) {t : TaskId} (ht : t ≠ 0) (count : Int)
    {body : Kernel sd -> Kernel sd}
    (hbody : Outcome kept t k.records (body k).records) :
    Outcome kept t k.records (k.checkStackUnderflow t count body).records := by
  unfold checkStackUnderflow
  split
  · apply Outcome.after (k.records_stdWrite FD_STDERR (text "Err: Stack Underflow\n"))
    exact Outcome.exit ht _ (terminateTask_exits _ t)
  · exact hbody

/-!
## Instructions
-/

theorem binary_outcome (k : Kernel sd) {t : TaskId} (ht : t ≠ 0) (op : Int -> Int -> Int) :
    Outcome kept t k.records (k.binary t op).records := by
  apply checkStackUnderflow_outcome _ ht
  apply Outcome.same
  simp

theorem opDup_outcome (k : Kernel sd) {t : TaskId} (ht : t ≠ 0) :
    Outcome kept t k.records (k.opDup t).records := by
  apply checkStackUnderflow_outcome _ ht
  apply checkStackOverflow_outcome _ ht
  apply Outcome.same
  simp

theorem opPush_outcome (k : Kernel sd) {t : TaskId} (ht : t ≠ 0) :
    Outcome kept t k.records ((k.fetchInt t).2.stackPush t (k.fetchInt t).1).records := by
  rw [records_stackPush]
  exact (k.fetchInt_fetches t).outcome ht

theorem opJif_outcome (k : Kernel sd) {t : TaskId} (ht : t ≠ 0) :
    Outcome kept t k.records (k.opJif t).records := by
  apply checkStackUnderflow_outcome _ ht
  have hfetch := k.fetchInt_fetches t
  generalize k.fetchInt t = fetched at hfetch ⊢
  rcases fetched with ⟨target, k₁⟩
  have hpop := k₁.records_stackPop t
  simp only
  generalize k₁.stackPop t = popped at hpop ⊢
  rcases popped with ⟨condition, k₂⟩
  simp only at hfetch hpop ⊢
  have hsame : (if condition ≠ 0 then k₂.jump t target else k₂).records =
      k₁.records := by
    rw [← hpop]
    split
    · exact k₂.jump_records t target
    · rfl
  rw [hsame]
  exact hfetch.outcome ht

theorem opPrint_outcome (k : Kernel sd) {t : TaskId} (ht : t ≠ 0) (fd : Int) :
    Outcome kept t k.records (k.opPrint t fd).records := by
  apply checkStackUnderflow_outcome _ ht
  apply Outcome.same
  simp

theorem opPrts_outcome (k : Kernel sd) {t : TaskId} (ht : t ≠ 0) :
    Outcome kept t k.records (k.opPrts t).records := by
  apply checkStackUnderflow_outcome _ ht
  apply Outcome.same
  simp only [records_stdWrite]
  rw [records_readString, records_stackPop]

theorem stdRead_records (k : Kernel sd) (fd : Int) :
    (k.stdRead fd).2.records = k.records := by
  unfold stdRead
  generalize k.hal.read fd = result
  rcases result with ⟨val, hal⟩
  simp only
  split
  · exact records_note (k.withHal hal) (by simp)
  · rfl

theorem opRead_outcome (k : Kernel sd) {t : TaskId} (ht : t ≠ 0) :
    Outcome kept t k.records (k.opRead t).records := by
  apply checkStackOverflow_outcome _ ht
  apply Outcome.same
  simp only [records_stackPush]
  exact k.stdRead_records FD_STDIN

theorem opSleep_outcome (k : Kernel sd) {t : TaskId} (ht : t ≠ 0) :
    Outcome kept t k.records (k.opSleep t).records := by
  apply checkStackUnderflow_outcome _ ht
  apply Outcome.same
  simp only [yield]
  rw [records_modifyTask_same _ _ rfl, records_modifyTask_same _ _ rfl,
    records_stackPop]

theorem opMalloc_outcome (k : Kernel sd) {t : TaskId} (ht : t ≠ 0) :
    Outcome kept t k.records (k.opMalloc t).records := by
  apply checkStackUnderflow_outcome _ ht
  apply Outcome.after (k.records_stackPop t)
  generalize k.stackPop t = popped
  rcases popped with ⟨size, k₁⟩
  have hmalloc := k₁.malloc_records t size
  simp only
  generalize k₁.malloc t size = result at hmalloc ⊢
  rcases result with ⟨addr, k₂⟩
  simp only at hmalloc ⊢
  -- the result does not fit only on a stack that is full after a pop
  have hexit := (k₂.stdWrite FD_STDERR (text "Err: Stack Overflow\n")).terminateTask_exits t
  rw [records_stdWrite] at hexit
  unfold checkStackOverflow
  rcases hmalloc with ⟨_, hsame⟩ | ⟨j, hentry, hrun, hgrant⟩
  · rw [← hsame]
    split
    · exact Outcome.exit ht _ hexit
    · exact Outcome.same (records_stackPush ..)
  · have hptr := ptr_of_freeEntry hentry
    split
    · rw [hgrant] at hexit
      exact Outcome.grantExit ht j addr size hptr hrun _ hexit
    · rw [records_stackPush, hgrant]
      exact Outcome.grant j addr size hptr hrun

theorem segFault_exits (k : Kernel sd) (t : TaskId) (message : List Byte)
    (physAddr : Int) : Exits t k.records (k.segFault t message physAddr).records := by
  have hexit := (((k.stdWrite FD_STDERR message).stdWriteInt FD_STDERR physAddr).stdWrite
    FD_STDERR (text "\n")).terminateTask_exits t
  rw [records_stdWrite, records_stdWriteInt, records_stdWrite] at hexit
  exact hexit

theorem opLoad_outcome (k : Kernel sd) {t : TaskId} (ht : t ≠ 0) :
    Outcome kept t k.records (k.opLoad t).records := by
  apply checkStackUnderflow_outcome _ ht
  apply Outcome.after (k.records_stackPop t)
  generalize k.stackPop t = popped
  rcases popped with ⟨addr, k₁⟩
  simp only
  split
  · apply checkStackOverflow_outcome _ ht
    apply Outcome.same
    rw [records_stackPush, records_heapGet]
  · exact Outcome.exit ht _ (segFault_exits k₁ t _ _)

theorem opStore_outcome (k : Kernel sd) {t : TaskId} (ht : t ≠ 0) :
    Outcome kept t k.records (k.opStore t).records := by
  apply checkStackUnderflow_outcome _ ht
  have hpops : ((k.stackPop t).2.stackPop t).2.records = k.records := by simp
  apply Outcome.after hpops
  simp only
  split
  · exact Outcome.same (records_heapSet ..)
  · exact Outcome.exit ht _ (segFault_exits _ t _ _)

theorem opSys_outcome (k : Kernel sd) {t : TaskId} (ht : t ≠ 0)
    (hkept : kept -> 0 <= (k.tasks t).sp -> (k.stackPop t).1 = 1 ->
      (k.stackPop t).2.lsReopens t = true) :
    Outcome kept t k.records (k.opSys t).records := by
  unfold opSys checkStackUnderflow
  split
  · apply Outcome.after (k.records_stdWrite FD_STDERR (text "Err: Stack Underflow\n"))
    exact Outcome.exit ht _ (terminateTask_exits _ t)
  · rename_i hsp
    apply Outcome.after (k.records_stackPop t)
    exact systemCall_outcome _ t _ fun hk hls => hkept hk (by omega) hls

theorem execute_outcome (k : Kernel sd) {t : TaskId} (ht : t ≠ 0) (opcode : Byte)
    (hkept : kept -> VMOpcode.ofByte? opcode = some .sys -> 0 <= (k.tasks t).sp ->
      (k.stackPop t).1 = 1 -> (k.stackPop t).2.lsReopens t = true) :
    Outcome kept t k.records (k.execute t opcode).records := by
  unfold execute
  cases hop : VMOpcode.ofByte? opcode with
  | none => exact Outcome.same rfl
  | some op =>
      cases op with
      | exit => exact Outcome.exit ht _ (k.terminateTask_exits t)
      | print => exact k.opPrint_outcome ht FD_STDOUT
      | read => exact k.opRead_outcome ht
      | prtc =>
          apply checkStackUnderflow_outcome _ ht
          apply Outcome.same
          simp
      | prte => exact k.opPrint_outcome ht FD_STDERR
      | prts => exact k.opPrts_outcome ht
      | push => exact checkStackOverflow_outcome k ht (k.opPush_outcome ht)
      | add => exact k.binary_outcome ht _
      | sub => exact k.binary_outcome ht _
      | eq => exact k.binary_outcome ht _
      | dup => exact k.opDup_outcome ht
      | pop =>
          apply checkStackUnderflow_outcome _ ht
          exact Outcome.same (k.records_stackDrop t)
      | jmp =>
          have hfetch := k.fetchInt_fetches t
          simp only
          rw [jump_records]
          exact hfetch.outcome ht
      | jif => exact k.opJif_outcome ht
      | sys => exact k.opSys_outcome ht fun hk => hkept hk hop
      | pinMode => exact Outcome.same rfl
      | dWrite => exact Outcome.same rfl
      | sleep => exact k.opSleep_outcome ht
      | malloc => exact k.opMalloc_outcome ht
      | load => exact k.opLoad_outcome ht
      | store => exact k.opStore_outcome ht

/-- The next instruction of `t` is no `ls` that fails to reopen its program. -/
def keepsProgram (k : Kernel sd) (t : TaskId) : Bool :=
  let (opcode, k) := k.fetchByte t
  if (k.tasks t).isActive ∧ VMOpcode.ofByte? opcode = some .sys ∧
      0 <= (k.tasks t).sp ∧ (k.stackPop t).1 = 1 then
    (k.stackPop t).2.lsReopens t
  else true

theorem runStep_outcome (k : Kernel sd) {t : TaskId} (ht : t ≠ 0) :
    Outcome (k.keepsProgram t = true) t k.records (k.runStep t).records := by
  have hfetch := k.fetchByte_fetches t
  unfold runStep keepsProgram
  generalize k.fetchByte t = fetched at hfetch ⊢
  rcases fetched with ⟨opcode, k₁⟩
  simp only at hfetch ⊢
  cases hactive : (k₁.tasks t).isActive with
  | false =>
      simp only [Bool.false_eq_true, not_false_eq_true, if_true]
      exact hfetch.outcome ht
  | true =>
      simp only [not_true_eq_false, if_false]
      apply Outcome.after (hfetch.records_of_active hactive)
      apply execute_outcome _ ht
      intro hk hop hsp hls
      rw [if_pos ⟨trivial, hop, hsp, hls⟩] at hk
      exact hk

/-!
## Requests
-/

theorem lsReopens_of_no_file {k : Kernel sd} {t : TaskId}
    (h : (k.records.task t).fileOpen = false) : k.lsReopens t = true := by
  have hpops : (((k.stackPop t).2.stackPop t).2.stackPop t).2.records = k.records := by
    simp
  rw [← hpops] at h
  have hnone : ((((k.stackPop t).2.stackPop t).2.stackPop t).2.tasks t).file = none :=
    Option.isSome_eq_false_iff.mp h |> Option.isNone_iff_eq_none.mp
  have hwith : forall selector,
      (((k.stackPop t).2.stackPop t).2.stackPop t).2.lsReopensWith t selector = true := by
    intro selector
    unfold lsReopensWith
    rw [hnone]
  exact hwith _

/-- The daemon has no program file that it could lose. -/
theorem commRequest_outcome (k : Kernel sd) (t : TaskId) (cmdId : BitVec 16)
    (payload : List Byte) (hfile : (k.records.task t).fileOpen = false) :
    Outcome kept t k.records (k.commRequest t cmdId payload).records := by
  have hcall : forall (k' : Kernel sd) (sysId : Int), k'.records = k.records ->
      Outcome kept t k.records (k'.systemCall t sysId).records := by
    intro k' sysId hsame
    apply Outcome.after hsame
    apply systemCall_outcome
    intro _ _
    apply lsReopens_of_no_file
    rw [hsame]
    exact hfile
  unfold commRequest
  have hnote : (k.note (.dispatch cmdId payload)).records = k.records :=
    records_note _ (by simp)
  generalize k.note (.dispatch cmdId payload) = k₁ at hnote ⊢
  have hstore := (k₁.commStorePayload_touches t payload).records
  simp only
  generalize k₁.commStorePayload t payload = stored at hstore ⊢
  rcases stored with ⟨heapDataAddr, k₂⟩
  have hready : (k₂.modifyTask t fun task => { task with sp := -1 }).records =
      k.records := by
    rw [records_modifyTask_same _ _ rfl, ← hnote]
    exact hstore
  simp only
  generalize k₂.modifyTask t (fun task => { task with sp := -1 }) = k₃ at hready ⊢
  split
  · unfold commLs
    have hargs : (if payload.length > 0 then
        k₃.modifyTask t fun task => { task with args := cString (payload.take 31) }
        else k₃).records = k.records := by
      split
      · rw [records_modifyTask_same _ _ rfl, hready]
      · exact hready
    simp only
    generalize (if payload.length > 0 then
      k₃.modifyTask t fun task => { task with args := cString (payload.take 31) }
      else k₃) = k₄ at hargs ⊢
    have hout := hcall (((k₄.stackPush t 0).stackPush t 128).stackPush t
      (if payload.length > 0 then 1 else 0)) 1 (by simp [hargs])
    generalize (((k₄.stackPush t 0).stackPush t 128).stackPush t
      (if payload.length > 0 then 1 else 0)).systemCall t 1 = k₅ at hout ⊢
    have herror := (k₅.reportsError_touches t 0).records
    generalize k₅.reportsError t 0 = reported at herror ⊢
    rcases reported with ⟨failed, k₆⟩
    simp only at herror ⊢
    split
    · rw [records_stdWrite, herror]
      exact hout
    · rw [(k₆.commSendHeapString_touches t 0 128).records, herror]
      exact hout
  · split
    · unfold commExec
      have hparse := (k₃.commParseExec_touches t payload).records
      generalize k₃.commParseExec t payload = parsed at hparse ⊢
      rcases parsed with ⟨⟨waitOpt, argAddr⟩, k₄⟩
      simp only at hparse ⊢
      rw [records_stdWrite]
      apply hcall
      simp [hparse, hready]
    · split
      · unfold commChdir
        have hout := hcall ((k₃.stackPush t 64).stackPush t heapDataAddr) 3
          (by simp [hready])
        simp only
        generalize ((k₃.stackPush t 64).stackPush t heapDataAddr).systemCall t 3 = k₄
          at hout ⊢
        have herror := (k₄.reportsError_touches t 64).records
        generalize k₄.reportsError t 64 = reported at herror ⊢
        rcases reported with ⟨failed, k₅⟩
        simp only at herror ⊢
        split
        · rw [records_stdWrite, herror]
          exact hout
        · rw [records_stdWrite, records_stdWrite, herror]
          exact hout
      · split
        · unfold commGetcwd
          simp only [records_stdWrite]
          apply hcall
          simp [hready]
        · exact Outcome.same hready

theorem commProcess_outcome (k : Kernel sd) (t : TaskId)
    (hfile : (k.records.task t).fileOpen = false) :
    Outcome kept t k.records (k.commProcess t).records := by
  unfold commProcess
  generalize k.hal.readPacket 0#16 k.rxBuffer RX_BUFFER_SIZE = result
  rcases result with ⟨r, hal⟩
  have hpolled : (k.polled hal r.payloadOut).records = k.records := rfl
  simp only
  apply Outcome.after hpolled
  split
  · split
    · apply commRequest_outcome
      rw [hpolled]
      exact hfile
    · exact Outcome.same rfl
  · exact Outcome.same rfl

/-!
## Turns
-/

def turnKeepsProgram (k : Kernel sd) (t : TaskId) : Bool :=
  match k.dispatches t with
  | none => true
  | some k => k.keepsProgram t

theorem wakeUp_records {k k' : Kernel sd} {t : TaskId} (h : k.wakeUp t = some k') :
    k'.records = k.records := by
  unfold wakeUp at h
  split at h
  · split at h
    · cases h
    · cases h
      exact records_modifyTask_same _ _ rfl
  · cases h
    rfl

theorem dispatches_cases {k k' : Kernel sd} {t : TaskId}
    (h : k.dispatches t = some k') :
    (k.tasks t).isRunnable = true ∧ t ≠ 0 ∧ k.wakeUp t = some k' := by
  unfold dispatches at h
  split at h
  · cases h
  · rename_i hrunnable
    split at h
    · cases h
    · rename_i ht
      exact ⟨not_not.mp hrunnable, ht, h⟩

theorem dispatches_running {k k' : Kernel sd} {t : TaskId}
    (h : k.dispatches t = some k') : (k.tasks t).taskState = .running := by
  simpa [Task.isRunnable] using (dispatches_cases h).left

theorem dispatches_records {k k' : Kernel sd} {t : TaskId}
    (h : k.dispatches t = some k') : k'.records = k.records :=
  wakeUp_records (dispatches_cases h).right.right

theorem step_turn_of_dispatches {k k' : Kernel sd} {t : TaskId} (hcurrent : k.current = t)
    (h : k.dispatches t = some k') :
    k.step .turn = { k'.runStep t with current := k.current + 1 } := by
  rcases dispatches_cases h with ⟨hrunnable, ht, hwake⟩
  unfold step schedule
  simp only [hcurrent, hrunnable, not_true_eq_false, if_false, if_neg ht, hwake]

/-- What a turn of `t` does; the records of who does not run stay as they are. -/
theorem schedule_outcome (k : Kernel sd) (t : TaskId)
    (hfile : (k.records.task 0).fileOpen = false) :
    (k.schedule t).records = k.records ∨
      ((k.records.task t).state = .running ∧
        Outcome (k.turnKeepsProgram t = true) t k.records (k.schedule t).records) := by
  unfold schedule turnKeepsProgram dispatches
  by_cases hrunnable : (k.tasks t).isRunnable = true
  · have hrunning : (k.tasks t).taskState = .running := by
      simpa [Task.isRunnable] using hrunnable
    simp only [hrunnable, not_true_eq_false, if_false]
    by_cases ht : t = 0
    · right
      subst ht
      exact ⟨hrunning, k.commProcess_outcome 0 hfile⟩
    · simp only [if_neg ht]
      cases hwake : k.wakeUp t with
      | none =>
          left
          rfl
      | some k' =>
          right
          refine ⟨hrunning, ?_⟩
          apply Outcome.after (wakeUp_records hwake)
          exact k'.runStep_outcome ht
  · left
    rw [if_pos hrunnable]

theorem step_outcome (k : Kernel sd) (e : Event)
    (hfile : (k.records.task 0).fileOpen = false) :
    (k.step e).records = k.records ∨
      (e = .turn ∧ (k.records.task k.current).state = .running ∧
        Outcome (k.turnKeepsProgram k.current = true) k.current k.records
          (k.step e).records) := by
  cases e with
  | arrive bytes => exact Or.inl rfl
  | tick => exact Or.inl rfl
  | turn =>
      rcases k.schedule_outcome k.current hfile with hsame | ⟨hrunning, hout⟩
      · exact Or.inl hsame
      · exact Or.inr ⟨rfl, hrunning, hout⟩

end Kernel
end ArduOS
