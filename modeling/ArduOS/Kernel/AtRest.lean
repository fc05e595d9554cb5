import ArduOS.Kernel.EndOfCode
import ArduOS.Kernel.Leaks
import ArduOS.Kernel.Segments

/-!
# The kernel at rest

When no program is left, everything a program ever held has come back: the bitmap is the
one after boot, and no file is open.
-/

namespace ArduOS

open Library

namespace Records

variable {kept : Prop} {t u : TaskId} {r r' : Records}

/-!
## Open files
-/

def FilesHeld (r : Records) : Prop :=
  forall u, (r.task u).fileOpen = true -> (r.task u).state ≠ .free

theorem FilesHeld.modify (h : FilesHeld r) (t : TaskId) {f : TaskRecord -> TaskRecord}
    (hf : (f (r.task t)).fileOpen = true -> (f (r.task t)).state ≠ .free) :
    FilesHeld (r.modify t f) := by
  intro u
  by_cases hu : u = t
  · subst hu
    rw [modify_task_self]
    exact hf
  · rw [modify_task_of_ne _ hu]
    exact h u

theorem FilesHeld.grantEntry (h : FilesHeld r) (t : TaskId) (j : Fin MAX_ALLOCATIONS)
    (start size : Int) : FilesHeld (r.grantEntry t j start size) := by
  have hmarked : FilesHeld (r.mark start size true) := h
  exact hmarked.modify t (h t)

theorem Exits.filesHeld (hexit : Exits t r r') (h : FilesHeld r) : FilesHeld r' := by
  intro u hopen
  by_cases hu : u = t
  · subst hu
    rw [hexit.closed] at hopen
    cases hopen
  · rw [hexit.others u hu] at hopen ⊢
    rw [wake_state]
    split
    · simp
    · apply h u
      unfold TaskRecord.wake at hopen
      split at hopen
      · exact hopen
      · exact hopen

theorem filesHeld_exec (h : FilesHeld r) (t child : TaskId) (start size waitOpt : Int) :
    FilesHeld (r.exec t child start size waitOpt) := by
  have hmarked : FilesHeld (r.mark start size true) := h
  have hloaded : FilesHeld (r.loadSegment child start size) := by
    unfold loadSegment
    apply hmarked.modify
    intro _
    simp
  have hstarted : FilesHeld ((r.loadSegment child start size).start t child waitOpt) := hloaded
  unfold Records.exec
  simp only
  split
  · apply hstarted.modify
    intro _
    simp
  · exact hstarted

/-- Even a program that is lost leaves no file open. -/
theorem Outcome.filesHeld (hout : Outcome kept t r r')
    (hrunning : (r.task t).state = .running) (h : FilesHeld r) : FilesHeld r' := by
  have hactive : (r.task t).state ≠ .free := by
    rw [hrunning]
    simp
  cases hout with
  | keep fileOpen _ => exact h.modify t fun _ => hactive
  | grant j start size _ _ => exact h.grantEntry t j start size
  | exit _ _ hexit => exact hexit.filesHeld h
  | grantExit _ j start size _ _ _ hexit => exact hexit.filesHeld (h.grantEntry t j start size)
  | exec child start size waitOpt _ _ _ => exact filesHeld_exec h t child start size waitOpt
  | execFailed child _ _ => exact h.modify child fun hcontra => by cases hcontra
  | lost _ => exact h.modify t fun hcontra => by cases hcontra

/-!
## The table of a task that does not run
-/

theorem Outcome.table (hout : Outcome kept t r r') (hu : u ≠ t) :
    (r'.task u).allocTable = (r.task u).allocTable := by
  have hexits : forall r₁ : Records, (r₁.task u).allocTable = (r.task u).allocTable ->
      Exits t r₁ r' -> (r'.task u).allocTable = (r.task u).allocTable := by
    intro r₁ hsame hexit
    rw [hexit.others u hu, ← hsame]
    unfold TaskRecord.wake
    split <;> rfl
  cases hout with
  | keep fileOpen _ => rw [modify_task_of_ne _ hu]
  | grant j start size _ _ =>
      unfold grantEntry
      rw [modify_task_of_ne _ hu, mark_task]
  | exit _ _ hexit => exact hexits r rfl hexit
  | grantExit _ j start size _ _ _ hexit =>
      apply hexits _ _ hexit
      unfold grantEntry
      rw [modify_task_of_ne _ hu, mark_task]
  | exec child start size waitOpt _ _ _ =>
      have hloaded : ((r.loadSegment child start size).task u).allocTable =
          (r.task u).allocTable := by
        by_cases hchild : u = child
        · subst hchild
          simp [loadSegment]
        · simp [loadSegment, modify_task_of_ne _ hchild]
      unfold Records.exec
      simp only
      split
      · rw [modify_task_of_ne _ hu, start_task, hloaded]
      · rw [start_task, hloaded]
  | execFailed child _ _ =>
      by_cases hchild : u = child
      · subst hchild
        rw [modify_task_self]
      · rw [modify_task_of_ne _ hchild]
  | lost _ => rw [modify_task_of_ne _ hu]

end Records

namespace Kernel

open Records

variable {sd : SdFat} {k k' : Kernel sd} {t : TaskId}

/-!
## The daemon's table
-/

def SameTable (t : TaskId) (k k' : Kernel sd) : Prop :=
  (k'.tasks t).allocTable = (k.tasks t).allocTable

theorem SameTable.trans {k'' : Kernel sd} (h : SameTable t k k') (h' : SameTable t k' k'') :
    SameTable t k k'' :=
  Eq.trans (b := (k'.tasks t).allocTable) h' h

theorem SameTable.of_records (h : k'.records = k.records) : SameTable t k k' :=
  congrArg (fun r => (Records.task r t).allocTable) h

theorem SameTable.touches {R W : Int -> Prop} (h : Touches R W k k') : SameTable t k k' := by
  unfold SameTable
  rw [h.tasks]

theorem modifyTask_sameTable (k : Kernel sd) {f : Task sd -> Task sd}
    (h : (f (k.tasks t)).allocTable = (k.tasks t).allocTable) :
    SameTable t k (k.modifyTask t f) := by
  simpa [SameTable, modifyTask] using h

theorem lsReopen_sameTable (k : Kernel sd) (t : TaskId) (pos : BitVec 32) :
    SameTable t k (k.lsReopen t pos) := by
  have hopened : SameTable t k (k.openFile t (k.tasks t).filename) := by
    simp [SameTable, openFile, withCard, modifyTask]
  have hsought : forall k' : Kernel sd, SameTable t k' (k'.seekFile t pos) := by
    intro k'
    unfold seekFile
    split
    · rfl
    · simp [SameTable, withCard, modifyTask]
  unfold lsReopen
  simp only
  split
  · exact hopened.trans (hsought _)
  · exact hopened.trans (modifyTask_sameTable _ rfl)

theorem lsWith_sameTable (k : Kernel sd) (t : TaskId) (selector bufSize bufAddr : Int) :
    SameTable t k (k.lsWith t selector bufSize bufAddr) := by
  have hclosed : SameTable t k ((k.closeFile t).withCard
      (sd.openPath k.card (k.lsTargetPath t selector)).2) := by
    simp [SameTable, closeFile, withCard, modifyTask]
  have hcard : (k.closeFile t).card = k.card := rfl
  unfold lsWith
  simp only [hcard]
  generalize (k.closeFile t).withCard
    (sd.openPath k.card (k.lsTargetPath t selector)).2 = k₁ at hclosed ⊢
  split
  · rename_i dir _
    have hlisted : SameTable t k (k₁.lsList dir (k.getPhysAddr t bufAddr) bufSize) :=
      hclosed.trans (.touches (k := k₁.withCard (sd.entries k₁.card dir).2)
        (lsList_touches k₁ dir (k.getPhysAddr t bufAddr) bufSize))
    split
    · exact hlisted.trans (lsReopen_sameTable _ t _)
    · exact hlisted
  · exact hclosed.trans (.touches (heapSetBelow_touches (R := fun _ => True)
      (W := fun _ => True) k₁ _ fun _ => trivial))

theorem stackPop_sameTable (k : Kernel sd) (t : TaskId) : SameTable t k (k.stackPop t).2 :=
  .of_records (k.records_stackPop t)

/-- No system call allocates. -/
theorem systemCall_sameTable (hrunning : (k.tasks t).taskState = .running) (sysId : Int) :
    SameTable t k (k.systemCall t sysId) := by
  unfold systemCall
  split
  · exact (((stackPop_sameTable k t).trans (stackPop_sameTable _ t)).trans
      (stackPop_sameTable _ t)).trans (lsWith_sameTable _ t _ _ _)
  · split
    · rw [syscallExec_eq]
      have hcases := execWith_cases (k.stackPops_reads t) hrunning (k.operand t 0)
        (k.operand t 1) (k.operand t 2)
      unfold SameTable
      rcases hcases with ⟨_, hrefused⟩ | ⟨child, _, _, ⟨_, hrefused⟩ | ⟨_, _, _, hstarted⟩⟩
      · rw [hrefused.caller]
        rfl
      · rw [hrefused.caller]
        rfl
      · rw [hstarted.caller]
        rfl
    · split
      · exact ((stackPop_sameTable k t).trans (stackPop_sameTable _ t)).trans
          (.of_records (chdirWith_records _ t _ _))
      · split
        · exact (stackPop_sameTable k t).trans (.of_records (getcwdWith_records _ t _))
        · rfl

theorem call_sameTable (hrunning : (k.tasks t).taskState = .running)
    (hbefore : k'.records = k.records) (sysId : Int) :
    SameTable t k (k'.systemCall t sysId) := by
  have hstate : (k'.tasks t).taskState = .running :=
    (congrArg (fun r => (Records.task r t).state) hbefore).trans hrunning
  exact (SameTable.of_records hbefore).trans (systemCall_sameTable hstate sysId)

theorem commLs_sameTable (hrunning : (k.tasks t).taskState = .running) (payload : List Byte) :
    SameTable t k (k.commLs t payload) := by
  have hargs : (if payload.length > 0 then
      k.modifyTask t fun task => { task with args := cString (payload.take 31) }
      else k).records = k.records := by
    split
    · exact records_modifyTask_same _ _ rfl
    · rfl
  unfold commLs
  simp only
  generalize (if payload.length > 0 then k.modifyTask t _ else k) = k₁ at hargs ⊢
  have hcalled : SameTable t k ((((k₁.stackPush t 0).stackPush t 128).stackPush t
      (if payload.length > 0 then 1 else 0)).systemCall t 1) :=
    call_sameTable hrunning (by simpa using hargs) 1
  generalize Kernel.systemCall _ t 1 = k₂ at hcalled ⊢
  have herror := hcalled.trans (.touches (k₂.reportsError_touches t 0))
  split
  · exact herror.trans (.touches (stdWrite_touches (R := fun _ => True)
      (W := fun _ => True) _ _ _))
  · exact herror.trans (.touches (commSendHeapString_touches _ t 0 128))

theorem commExec_sameTable (hrunning : (k.tasks t).taskState = .running)
    (payload : List Byte) : SameTable t k (k.commExec t payload) := by
  have hparse := (k.commParseExec_touches t payload).records
  unfold commExec
  generalize k.commParseExec t payload = parsed at hparse ⊢
  rcases parsed with ⟨⟨waitOpt, argAddr⟩, k₁⟩
  simp only at hparse ⊢
  have hcalled : SameTable t k ((((k₁.stackPush t argAddr).stackPush t 1).stackPush t
      waitOpt).systemCall t 2) := call_sameTable hrunning (by simpa using hparse) 2
  exact hcalled.trans (.of_records (records_stdWrite _ _ _))

theorem commChdir_sameTable (hrunning : (k.tasks t).taskState = .running)
    (heapDataAddr : Int) : SameTable t k (k.commChdir t heapDataAddr) := by
  have hcalled : SameTable t k
      (((k.stackPush t 64).stackPush t heapDataAddr).systemCall t 3) :=
    call_sameTable hrunning (by simp) 3
  unfold commChdir
  simp only
  generalize Kernel.systemCall _ t 3 = k₁ at hcalled ⊢
  have herror := hcalled.trans (.touches (k₁.reportsError_touches t 64))
  split
  · exact herror.trans (.of_records (records_stdWrite _ _ _))
  · exact herror.trans (.of_records ((records_stdWrite _ _ _).trans (records_stdWrite _ _ _)))

theorem commGetcwd_sameTable (hrunning : (k.tasks t).taskState = .running) :
    SameTable t k (k.commGetcwd t) := by
  have hcalled : SameTable t k ((k.stackPush t 0).systemCall t 4) :=
    call_sameTable hrunning (by simp) 4
  exact hcalled.trans (.of_records ((records_stdWrite _ _ _).trans (records_stdWrite _ _ _)))

theorem commRequest_sameTable (hrunning : (k.tasks t).taskState = .running)
    (cmdId : BitVec 16) (payload : List Byte) :
    SameTable t k (k.commRequest t cmdId payload) := by
  have hnoted : (k.note (.dispatch cmdId payload)).records = k.records :=
    records_note _ (by simp)
  have hstored := ((k.note (.dispatch cmdId payload)).commStorePayload_touches t
    payload).records.trans hnoted
  unfold commRequest
  simp only
  generalize (k.note (.dispatch cmdId payload)).commStorePayload t payload = stored
    at hstored ⊢
  rcases stored with ⟨heapDataAddr, k₁⟩
  simp only at hstored ⊢
  have hready : (k₁.modifyTask t fun task => { task with sp := -1 }).records = k.records :=
    (records_modifyTask_same _ _ rfl).trans hstored
  generalize k₁.modifyTask t (fun task => { task with sp := -1 }) = k₂ at hready ⊢
  have hsame : SameTable t k k₂ := .of_records hready
  have hstate : (k₂.tasks t).taskState = .running :=
    (congrArg (fun r => (Records.task r t).state) hready).trans hrunning
  split
  · exact hsame.trans (commLs_sameTable hstate payload)
  · split
    · exact hsame.trans (commExec_sameTable hstate payload)
    · split
      · exact hsame.trans (commChdir_sameTable hstate heapDataAddr)
      · split
        · exact hsame.trans (commGetcwd_sameTable hstate)
        · exact hsame

theorem commProcess_sameTable (hrunning : (k.tasks t).taskState = .running) :
    SameTable t k (k.commProcess t) := by
  unfold commProcess
  generalize k.hal.readPacket 0#16 k.rxBuffer RX_BUFFER_SIZE = result
  rcases result with ⟨r, hal⟩
  have hpolled : SameTable t k (k.polled hal r.payloadOut) := rfl
  have hstate : ((k.polled hal r.payloadOut).tasks t).taskState = .running := hrunning
  simp only
  generalize k.polled hal r.payloadOut = k₁ at hpolled hstate ⊢
  split
  · split
    · exact hpolled.trans (commRequest_sameTable hstate _ _)
    · exact hpolled
  · exact hpolled

/-- Only what `Kernel_init` gave it is ever in the table of the daemon. -/
theorem step_daemonTable (k : Kernel sd) (e : Event) (hup : DaemonUp k.records) :
    SameTable 0 k (k.step e) := by
  cases e with
  | arrive bytes => rfl
  | tick => rfl
  | turn =>
      by_cases hcurrent : k.current = 0
      · show ((k.schedule k.current).tasks 0).allocTable = _
        rw [hcurrent]
        unfold schedule
        split
        · rfl
        · rename_i hrunnable
          rw [if_pos rfl]
          apply commProcess_sameTable
          simpa [Task.isRunnable] using hrunnable
      · rcases k.step_outcome .turn hup.noFile with hsame | ⟨_, _, hout⟩
        · exact .of_records hsame
        · exact hout.table (Ne.symm hcurrent)

/-!
## Rest
-/

structure DaemonAlone (r : Records) : Prop where
  segment : r.block (.segment 0) = some (0, 128)
  entries : forall j, r.block (.entry 0 j) = none ∨ r.block (.entry 0 j) = some (0, 128)

theorem Booted.daemonAlone {r : Records} (h : Booted r) : DaemonAlone r := by
  refine ⟨h.segment, ?_⟩
  intro j
  by_cases hj : j = 0
  · subst hj
    exact .inr h.entry
  · left
    apply h.others
    · intro hcontra
      cases hcontra
    · intro hcontra
      cases hcontra
      exact hj rfl

theorem step_daemonAlone (k : Kernel sd) (e : Event) (hup : DaemonUp k.records)
    (h : DaemonSegment k.records ∧ DaemonAlone k.records) :
    DaemonSegment (k.step e).records ∧ DaemonAlone (k.step e).records := by
  have hsegment := k.step_daemonSegment e hup h.left
  have htable : ((k.step e).records.task 0).allocTable = (k.records.task 0).allocTable :=
    k.step_daemonTable e hup
  refine ⟨hsegment, hsegment.block, ?_⟩
  intro j
  have hblock : (k.step e).records.block (.entry 0 j) = k.records.block (.entry 0 j) := by
    simp only [Records.block, htable]
  rw [hblock]
  exact h.right.entries j

theorem step_filesHeld (k : Kernel sd) (e : Event) (hup : DaemonUp k.records)
    (h : FilesHeld k.records) : FilesHeld (k.step e).records := by
  rcases k.step_outcome e hup.noFile with hsame | ⟨_, hrunning, hout⟩
  · rw [hsame]
    exact h
  · exact hout.filesHeld hrunning h

theorem boot_filesHeld (card : sd.Card) : FilesHeld (boot card).records := by
  intro u hopen
  unfold boot setup at hopen
  simp only [records_stdWrite] at hopen
  rw [init_fileOpen, records_stdWrite, halInit_records] at hopen
  cases hopen

theorem Reachable.filesHeld (h : Reachable k) : DaemonUp k.records ∧ FilesHeld k.records := by
  cases h with
  | run card events hk =>
      rw [hk]
      apply run_preserves (fun k => DaemonUp (Kernel.records k) ∧ FilesHeld k.records)
        (fun k e hk => ⟨step_daemonUp k e hk.left, step_filesHeld k e hk.left hk.right⟩)
        events _
      exact ⟨boot_daemonUp card, boot_filesHeld card⟩

/--
In every reachable state, even after programs were lost, an open file is the program file
of an active task, and never of the daemon.
-/
theorem files_held (h : Reachable k) {t : TaskId} (hopen : (k.tasks t).file.isSome = true) :
    (k.tasks t).taskState ≠ .free ∧ t ≠ 0 := by
  rcases h.filesHeld with ⟨hup, hheld⟩
  refine ⟨hheld t hopen, ?_⟩
  intro hzero
  have hclosed : (k.tasks t).file.isSome = false := by
    rw [hzero]
    exact hup.noFile
  rw [hclosed] at hopen
  cases hopen

def briefProgram (turns : Nat) : Kernel CardImage.sdFat :=
  (boot (CardImage.ofProgram 16#8 [0x10#8, 0x04#8, 0x00#8, 0x50#8, 0x00#8] 1)).run
    (.arrive runRequest.bytes :: List.replicate turns .turn)

theorem briefProgram_holds_file :
    ((briefProgram 5).tasks 1).taskState ≠ .free ∧ (1 : TaskId) ≠ 0 := by
  have hopen : ((briefProgram 5).tasks 1).file.isSome = true := by decide +kernel
  exact files_held (k := briefProgram 5) (.run _ _ rfl) hopen

theorem allocated_of_rest {r : Records} (hexact : HeapExact r) (hdaemon : DaemonAlone r)
    (hrest : forall t, t ≠ 0 -> (r.task t).state = .free) (c : Int) :
    r.allocated c = true <-> 0 <= c ∧ c < 128 := by
  constructor
  · intro hmarked
    rcases Set.mem_iUnion.mp (hexact.marked hmarked) with ⟨b, start, size, hblock, hin⟩
    have howner : b.owner = 0 := by
      by_contra hne
      rw [hexact.freed b (hrest _ hne)] at hblock
      cases hblock
    have hwhole : r.block b = some (0, 128) := by
      cases b with
      | segment t =>
          have ht : t = 0 := howner
          rw [ht]
          exact hdaemon.segment
      | entry t j =>
          have ht : t = 0 := howner
          rw [ht] at hblock ⊢
          rcases hdaemon.entries j with hnone | hsome
          · rw [hnone] at hblock
            cases hblock
          · exact hsome
    rw [hwhole] at hblock
    cases hblock
    omega
  · rintro ⟨hlo, hhi⟩
    apply hexact.sound.ledger.marked (.segment 0)
    exact ⟨0, 128, hdaemon.segment, hlo, by omega⟩

/--
In every run that loses no program, whenever all programs have ended, everything they held
has come back: the bitmap is the one after boot, and no file is open.
-/
theorem resources_return {card : sd.Card} {events : List Event}
    (h : AllSteps step KeepsProgram (boot card) events)
    (hrest : forall t, t ≠ 0 -> (((boot card).run events).tasks t).taskState = .free) :
    ((boot card).run events).heapBitmap = (boot card).heapBitmap ∧
      forall t, (((boot card).run events).tasks t).file = none := by
  rcases run_records (fun r => HeapExact r ∧ DaemonSegment r ∧ DaemonAlone r)
    (fun r hr => ⟨hr.heapExact, hr.daemonSegment, hr.daemonAlone⟩)
    (fun k e hok hup hk => ⟨k.step_heapExact e hok hup hk.left,
      k.step_daemonAlone e hup hk.right⟩) h with ⟨hup, hexact, _, hdaemon⟩
  have hheld := (Reachable.run (k := (boot card).run events) card events rfl).filesHeld.right
  refine ⟨?_, ?_⟩
  · apply heapBitmap_eq
    funext c
    rw [Bool.eq_iff_iff]
    exact (allocated_of_rest hexact hdaemon hrest c).trans
      ((boot_booted card).allocated c).symm
  · intro t
    have hclosed : (((boot card).run events).tasks t).file.isSome = false := by
      by_cases ht : t = 0
      · rw [ht]
        exact hup.noFile
      · rw [Bool.eq_false_iff]
        intro hopen
        exact hheld t hopen (hrest t ht)
    simpa using hclosed

theorem briefProgram_returns :
    (briefProgram 8).heapBitmap = (briefProgram 0).heapBitmap ∧
      forall t, ((briefProgram 8).tasks t).file = none := by
  have hfacts : AllSteps step KeepsProgram
      (boot (CardImage.ofProgram 16#8 [0x10#8, 0x04#8, 0x00#8, 0x50#8, 0x00#8] 1) :
        Kernel CardImage.sdFat) (.arrive runRequest.bytes :: List.replicate 8 .turn) ∧
      (forall t, t ≠ 0 -> ((briefProgram 8).tasks t).taskState = .free) := by decide +kernel
  exact resources_return hfacts.left hfacts.right

end Kernel
end ArduOS
