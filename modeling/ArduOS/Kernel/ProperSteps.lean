import ArduOS.Kernel.CardImage
import ArduOS.Kernel.Runs
import ArduOS.Kernel.Values

/-!
# Every step keeps to the values of the machine

System calls, instructions, requests and the scheduler, whatever the program, the bytes
on the line and the card.
-/

namespace ArduOS

open Library

namespace Kernel

variable {sd : SdFat} {k : Kernel sd} {sent : List (List Byte)}

/-!
## System calls
-/

theorem Proper.readString (h : k.Proper sent) (n : Nat) (inRange stop : Int -> Bool)
    (addr : Int) : (k.readString n inRange stop addr).2.Proper sent := by
  apply forExit_value_preserves (fun s : List Byte × Kernel sd => s.2.Proper sent) h
  rintro i ⟨chars, k'⟩ _ hk'
  simp only
  split
  · exact hk'
  · split
    · exact hk'.heapGet _
    · exact hk'.heapGet _

theorem Proper.writeString (h : k.Proper sent) (addr : Int) (str : List Byte) :
    (k.writeString addr str).Proper sent := by
  unfold Kernel.writeString
  apply Proper.heapSetBelow _ _ word_zero
  apply forLoop_preserves (Proper sent) h
  intro i k' _ hk'
  exact hk'.heapSetBelow _ (word_ofChar _)

theorem Proper.lsPut {s : Int × Kernel sd} (h : s.2.Proper sent) (bufAddr bufSize : Int)
    {val : Int} (hval : Word val) : (lsPut bufAddr bufSize s val).2.Proper sent := by
  unfold Kernel.lsPut
  simp only
  split
  · split
    · exact h.heapSet _ hval
    · exact h
  · exact h

theorem Proper.lsEntry {s : Int × Kernel sd} (h : s.2.Proper sent) (bufAddr bufSize : Int)
    (entry : List Byte × Bool) : (lsEntry bufAddr bufSize s entry).2.Proper sent := by
  unfold Kernel.lsEntry
  apply Proper.lsPut _ _ _ (word_ofChar _)
  generalize lsName entry = name
  induction name generalizing s with
  | nil => exact h
  | cons c name ih => exact ih (h.lsPut bufAddr bufSize (word_ofChar c))

theorem Proper.lsEntries {s : Int × Kernel sd} (h : s.2.Proper sent) (bufAddr bufSize : Int)
    (entries : List (List Byte × Bool)) :
    (entries.foldl (Kernel.lsEntry bufAddr bufSize) s).2.Proper sent := by
  induction entries generalizing s with
  | nil => exact h
  | cons entry entries ih => exact ih (h.lsEntry bufAddr bufSize entry)

theorem Proper.lsList (h : k.Proper sent) (dir : sd.File) (bufAddr bufSize : Int) :
    (k.lsList dir bufAddr bufSize).Proper sent := by
  have hcleared : (forLoop bufSize.toNat (fun i k =>
      Kernel.heapSetBelow k (int16 (bufAddr + i)) 0) k).Proper sent := by
    apply forLoop_preserves (Proper sent) h
    intro i k' _ hk'
    exact hk'.heapSetBelow _ word_zero
  unfold Kernel.lsList
  apply Proper.heapSetBelow _ _ word_zero
  apply Proper.lsEntries
  exact hcleared.withCard _

theorem Proper.lsReopen (h : k.Proper sent) (t : TaskId) (pos : BitVec 32) :
    (k.lsReopen t pos).Proper sent := by
  have hopened := (openFile_sameValues k t (k.tasks t).filename).proper h
  unfold Kernel.lsReopen
  simp only
  split
  · exact (seekFile_sameValues _ t pos).proper hopened
  · exact (modifyTask_sameValues _ rfl).proper hopened

theorem Proper.lsWith (h : k.Proper sent) (t : TaskId) (selector bufSize bufAddr : Int) :
    (k.lsWith t selector bufSize bufAddr).Proper sent := by
  have hclosed := ((closeFile_sameValues k t).proper h).withCard
    (sd.openPath (k.closeFile t).card (k.lsTargetPath t selector)).2
  unfold Kernel.lsWith
  simp only
  split
  · rename_i dir _
    have hlisted := hclosed.lsList dir (k.getPhysAddr t bufAddr) bufSize
    split
    · exact hlisted.lsReopen t _
    · exact hlisted
  · exact hclosed.heapSetBelow _ word_neg_one

theorem Proper.execLoad (h : k.Proper sent) (t child : TaskId) (cmdStr : List Byte)
    (argStr : Option (List Byte)) (waitOpt : Int) :
    (k.execLoad t child cmdStr argStr waitOpt).Proper sent := by
  have hloaded := h.loadTask child cmdStr none (some (k.tasks t).cwd) argStr
  unfold Kernel.execLoad
  simp only
  split
  · split
    · exact (modifyTask_sameValues _ rfl).proper (hloaded.note _)
    · exact hloaded.note _
  · exact hloaded

theorem Proper.execWith (h : k.Proper sent) (t : TaskId) (waitOpt cmdAddr argAddr : Int) :
    (k.execWith t waitOpt cmdAddr argAddr).Proper sent := by
  unfold Kernel.execWith
  simp only
  generalize k.getPhysAddr t cmdAddr = cmdAddr
  generalize (if argAddr ≠ 0 then k.getPhysAddr t argAddr else argAddr) = argAddr
  have hcmd := h.readString 31 belowHeapSize isNullOrSpace cmdAddr
  generalize k.readString 31 belowHeapSize isNullOrSpace cmdAddr = read at hcmd ⊢
  have hargs : (if argAddr ≠ 0 then read.2.readString 31 belowHeapSize isNull argAddr
      else ([], read.2)).2.Proper sent := by
    split
    · exact hcmd.readString _ _ _ _
    · exact hcmd
  split
  · exact hargs.execLoad t _ _ _ waitOpt
  · exact hargs.stdWrite _ _

theorem Proper.chdirEnter (h : k.Proper sent) (t : TaskId) (target : List Byte) :
    (k.chdirEnter t target).Proper sent := by
  unfold Kernel.chdirEnter
  exact (h.note _).modify id

theorem Proper.chdirWith (h : k.Proper sent) (t : TaskId) (argAddr bufAddr : Int) :
    (k.chdirWith t argAddr bufAddr).Proper sent := by
  unfold Kernel.chdirWith
  split
  · exact h
  · have hread := h.readString 31 belowHeapSize isNull (k.getPhysAddr t argAddr)
    generalize k.readString 31 belowHeapSize isNull (k.getPhysAddr t argAddr) = read
      at hread ⊢
    rcases read with ⟨pathStr, k₁⟩
    simp only at hread ⊢
    generalize k₁.chdirTarget t (cString pathStr) = target
    have hchecked : (k₁.chdirCheck target).2.Proper sent := by
      unfold chdirCheck
      split
      · exact hread
      · exact hread.withCard _
    split
    · split
      · exact (hchecked.chdirEnter t target).writeString _ _
      · exact hchecked.chdirEnter t target
    · split
      · exact hchecked.heapSetBelow _ word_neg_one
      · exact hchecked

theorem Proper.getcwdWith (h : k.Proper sent) (t : TaskId) (bufAddr : Int) :
    (k.getcwdWith t bufAddr).Proper sent := by
  unfold Kernel.getcwdWith
  split
  · exact h
  · exact h.writeString _ _

theorem Proper.systemCall (h : k.Proper sent) (t : TaskId) (sysId : Int) :
    (k.systemCall t sysId).Proper sent := by
  unfold Kernel.systemCall
  split
  · exact (((h.stackPop t).stackPop t).stackPop t).lsWith t _ _ _
  · split
    · exact (((h.stackPop t).stackPop t).stackPop t).execWith t _ _ _
    · split
      · exact ((h.stackPop t).stackPop t).chdirWith t _ _
      · split
        · exact (h.stackPop t).getcwdWith t _
        · exact h

/-!
## Instructions
-/

theorem Proper.checkStackOverflow (h : k.Proper sent) (t : TaskId)
    {body : Kernel sd -> Kernel sd} (hbody : (body k).Proper sent) :
    (k.checkStackOverflow t body).Proper sent := by
  unfold Kernel.checkStackOverflow
  split
  · exact (h.stdWrite _ _).terminateTask t
  · exact hbody

theorem Proper.checkStackUnderflow (h : k.Proper sent) (t : TaskId) (count : Int)
    {body : Kernel sd -> Kernel sd} (hbody : (body k).Proper sent) :
    (k.checkStackUnderflow t count body).Proper sent := by
  unfold Kernel.checkStackUnderflow
  split
  · exact (h.stdWrite _ _).terminateTask t
  · exact hbody

theorem Proper.binary (h : k.Proper sent) (t : TaskId) {op : Int -> Int -> Int}
    (hop : forall a b, Word (op a b)) : (k.binary t op).Proper sent :=
  h.checkStackUnderflow t 2 (((h.stackPop t).stackPop t).stackPush t (hop _ _))

theorem Proper.segFault (h : k.Proper sent) (t : TaskId) (message : List Byte)
    (physAddr : Int) : (k.segFault t message physAddr).Proper sent :=
  (((h.stdWrite _ message).stdWrite _ _).stdWrite _ _).terminateTask t

theorem Proper.opDup (h : k.Proper sent) (t : TaskId) : (k.opDup t).Proper sent := by
  apply h.checkStackUnderflow t 1
  apply h.checkStackOverflow t
  exact Proper.stackPush (h.note (.stack t (k.tasks t).sp)) t (h.word_stackTop t)

theorem Proper.opJif (h : k.Proper sent) (t : TaskId) : (k.opJif t).Proper sent := by
  apply h.checkStackUnderflow t 1
  have hpopped := (h.fetchInt t).left.stackPop t
  simp only
  split
  · exact (jump_sameValues _ t _).proper hpopped
  · exact hpopped

theorem Proper.opPrint (h : k.Proper sent) (t : TaskId) (fd : Int) :
    (k.opPrint t fd).Proper sent :=
  h.checkStackUnderflow t 1 (((h.stackPop t).stdWrite fd _).stdWrite fd _)

theorem Proper.opPrts (h : k.Proper sent) (t : TaskId) : (k.opPrts t).Proper sent :=
  h.checkStackUnderflow t 1 (((h.stackPop t).readString 127 inHeap isNull _).stdWrite _ _)

theorem word_read (hal : Hal) (fd : Int) : Word (hal.read fd).1 := by
  unfold Hal.read
  simp only
  split
  · split
    · split
      · exact word_ofByte _
      · exact word_neg_one
    · exact word_neg_one
  · exact word_neg_one

theorem Proper.opRead (h : k.Proper sent) (t : TaskId) : (k.opRead t).Proper sent := by
  apply h.checkStackOverflow t
  have hread : (k.stdRead FD_STDIN).2.Proper sent := by
    unfold stdRead
    simp only
    split
    · exact (h.withHal _).note _
    · exact h.withHal _
  exact hread.stackPush t (word_ite (word_read k.hal FD_STDIN) word_zero)

theorem Proper.opSys (h : k.Proper sent) (t : TaskId) : (k.opSys t).Proper sent :=
  h.checkStackUnderflow t 1 ((h.stackPop t).systemCall t _)

theorem Proper.opSleep (h : k.Proper sent) (t : TaskId) : (k.opSleep t).Proper sent := by
  apply h.checkStackUnderflow t 1
  have hset := (modifyTask_sameValues (k.stackPop t).2 (t := t) (f := fun task =>
    { task with wakeUpTime := BitVec.ofInt 32 (k.stackPop t).1 }) rfl).proper (h.stackPop t)
  exact (modifyTask_sameValues _ rfl).proper hset

theorem Proper.opMalloc (h : k.Proper sent) (t : TaskId) : (k.opMalloc t).Proper sent := by
  apply h.checkStackUnderflow t 1
  rcases (h.stackPop t).malloc t (k.stackPop t).1 with ⟨hmalloc, hword⟩
  exact hmalloc.checkStackOverflow t (hmalloc.stackPush t (word_ite word_zero hword))

theorem Proper.opLoad (h : k.Proper sent) (t : TaskId) : (k.opLoad t).Proper sent := by
  apply h.checkStackUnderflow t 1
  have hpopped := h.stackPop t
  simp only
  split
  · apply hpopped.checkStackOverflow t
    exact Proper.stackPush (hpopped.heapGet _) t (hpopped.heap _)
  · exact hpopped.segFault t _ _

theorem Proper.opStore (h : k.Proper sent) (t : TaskId) : (k.opStore t).Proper sent := by
  apply h.checkStackUnderflow t 2
  have hfirst := h.stackPop t
  have hsecond := hfirst.stackPop t
  simp only
  split
  · exact hsecond.heapSet _ (hfirst.word_stackPop t)
  · exact hsecond.segFault t _ _

theorem Proper.execute (h : k.Proper sent) (t : TaskId) (opcode : Byte) :
    (k.execute t opcode).Proper sent := by
  unfold Kernel.execute
  split
  · exact h.checkStackOverflow t ((h.fetchInt t).left.stackPush t (h.fetchInt t).right)
  · exact h.binary t fun a b => word_int16 _
  · exact h.binary t fun a b => word_int16 _
  · exact h.binary t fun a b => (word_ite word_one word_zero)
  · exact h.opDup t
  · exact h.checkStackUnderflow t 1 (h.stackDrop t)
  · exact (jump_sameValues _ t _).proper (h.fetchInt t).left
  · exact h.opJif t
  · exact h.opPrint t _
  · exact h.checkStackUnderflow t 1 ((h.stackPop t).stdWrite _ _)
  · exact h.opPrint t _
  · exact h.opPrts t
  · exact h.opRead t
  · exact h.opSys t
  · exact h.opSleep t
  · exact h.terminateTask t
  · exact h.opMalloc t
  · exact h.opLoad t
  · exact h.opStore t
  · exact h
  · exact h
  · exact h

theorem Proper.runStep (h : k.Proper sent) (t : TaskId) : (k.runStep t).Proper sent := by
  unfold Kernel.runStep
  simp only
  split
  · exact h.fetchByte t
  · exact (h.fetchByte t).execute t _

/-!
## Requests
-/

theorem Proper.copyLoop (h : k.Proper sent) (physBase : Int) (data : Buffer) (n : Nat)
    {overflow : Kernel sd -> Kernel sd}
    (hoverflow : forall k : Kernel sd, k.Proper sent -> (overflow k).Proper sent) :
    (k.copyLoop physBase data n overflow).Proper sent := by
  apply forExit_value_preserves (Proper sent) h
  intro i k' _ hk'
  split
  · exact hoverflow k' hk'
  · exact hk'.heapSet _ (word_ofByte _)

theorem Proper.commCopyToHeap (h : k.Proper sent) (t : TaskId) (data : Buffer) (len : Nat) :
    (k.commCopyToHeap t data len).2.Proper sent ∧ Word (k.commCopyToHeap t data len).1 := by
  unfold Kernel.commCopyToHeap
  split
  · exact ⟨h, word_neg_one⟩
  · simp only
    exact ⟨(h.copyLoop _ _ _ fun _ hk => hk.stdWrite _ _).heapSetBelow _ word_zero, word_one⟩

theorem Proper.commSendHeapString (h : k.Proper sent) (t : TaskId) (offset : Int)
    (maxLen : Nat) : (k.commSendHeapString t offset maxLen).Proper sent := by
  unfold Kernel.commSendHeapString
  split
  · exact h
  · simp only
    split
    · exact (h.readString _ _ _ _).stdWrite _ _
    · exact h.readString _ _ _ _

theorem Proper.reportsError (h : k.Proper sent) (t : TaskId) (offset : Int) :
    (k.reportsError t offset).2.Proper sent := by
  unfold Kernel.reportsError
  split
  · exact h.heapGet _
  · exact h

theorem Proper.commLs (h : k.Proper sent) (t : TaskId) (payload : List Byte) :
    (k.commLs t payload).Proper sent := by
  have hargs : (if payload.length > 0 then
      k.modifyTask t fun task => { task with args := cString (payload.take 31) }
      else k).Proper sent := by
    split
    · apply h.modify
      intro hv
      refine ⟨hv.stack, ?_, hv.filename, hv.segment, hv.table⟩
      have htake := length_take_lt payload (show 31 < 32 by decide)
      have hle : (cString (payload.take 31)).length <= (payload.take 31).length :=
        (List.takeWhile_prefix _).length_le
      exact Nat.lt_of_le_of_lt hle htake
    · exact h
  unfold Kernel.commLs
  simp only
  generalize (if payload.length > 0 then k.modifyTask t _ else k) = k₁ at hargs ⊢
  have hsize : Word 128 := ⟨by decide, by decide⟩
  have hcalled := (((hargs.stackPush t word_zero).stackPush t hsize).stackPush t
    (word_ite (p := payload.length > 0) word_one word_zero)).systemCall t 1
  generalize Kernel.systemCall _ t 1 = k₂ at hcalled ⊢
  split
  · exact (hcalled.reportsError t 0).stdWrite _ _
  · exact (hcalled.reportsError t 0).commSendHeapString t 0 128

theorem Proper.commStorePart (h : k.Proper sent) (t : TaskId) (offset : Int)
    (part : List Byte) : (k.commStorePart t offset part).Proper sent := by
  unfold Kernel.commStorePart
  split
  · exact (h.copyLoop _ _ _ fun _ hk => hk).heapSetBelow _ word_zero
  · exact h

theorem Proper.commParseExec (h : k.Proper sent) (t : TaskId) (payload : List Byte) :
    (k.commParseExec t payload).2.Proper sent ∧ Word (k.commParseExec t payload).1.1 ∧
      Word (k.commParseExec t payload).1.2 := by
  unfold Kernel.commParseExec
  split
  · simp only
    split
    · exact ⟨h.commStorePart t _ _, (word_ite word_one word_zero), word_zero⟩
    · refine ⟨(h.commStorePart t _ _).commStorePart t _ _, (word_ite word_one word_zero), ?_⟩
      exact word_ite ⟨by decide, by decide⟩ word_zero
  · exact ⟨(h.commCopyToHeap t _ _).left, word_zero, word_zero⟩

theorem Proper.commExec (h : k.Proper sent) (t : TaskId) (payload : List Byte) :
    (k.commExec t payload).Proper sent := by
  rcases h.commParseExec t payload with ⟨hparsed, hwait, harg⟩
  unfold Kernel.commExec
  exact ((((hparsed.stackPush t harg).stackPush t word_one).stackPush t hwait).systemCall t
    2).stdWrite _ _

theorem Proper.commChdir (h : k.Proper sent) (t : TaskId) {heapDataAddr : Int}
    (haddr : Word heapDataAddr) : (k.commChdir t heapDataAddr).Proper sent := by
  have hbuf : Word 64 := ⟨by decide, by decide⟩
  have hcalled := ((h.stackPush t hbuf).stackPush t haddr).systemCall t 3
  unfold Kernel.commChdir
  simp only
  split
  · exact (hcalled.reportsError t 64).stdWrite _ _
  · exact ((hcalled.reportsError t 64).stdWrite _ _).stdWrite _ _

theorem Proper.commGetcwd (h : k.Proper sent) (t : TaskId) : (k.commGetcwd t).Proper sent :=
  (((h.stackPush t word_zero).systemCall t 4).stdWrite _ _).stdWrite _ _

theorem Proper.commStorePayload (h : k.Proper sent) (t : TaskId) (payload : List Byte) :
    (k.commStorePayload t payload).2.Proper sent ∧ Word (k.commStorePayload t payload).1 := by
  unfold Kernel.commStorePayload
  split
  · exact h.commCopyToHeap t _ _
  · simp only
    refine ⟨?_, word_one⟩
    split
    · exact h.heapSet _ word_zero
    · exact h

theorem Proper.commRequest (h : k.Proper sent) (t : TaskId) (cmdId : BitVec 16)
    (payload : List Byte) : (k.commRequest t cmdId payload).Proper sent := by
  rcases (h.note (.dispatch cmdId payload)).commStorePayload t payload with ⟨hstored, hword⟩
  unfold Kernel.commRequest
  simp only
  have hreset := (modifyTask_sameValues
    ((k.note (.dispatch cmdId payload)).commStorePayload t payload).2 (t := t)
    (f := fun task => { task with sp := -1 }) rfl).proper hstored
  split
  · exact hreset.commLs t payload
  · split
    · exact hreset.commExec t payload
    · split
      · exact hreset.commChdir t hword
      · split
        · exact hreset.commGetcwd t
        · exact hreset

theorem Proper.commProcess (h : k.Proper sent) (t : TaskId) :
    (k.commProcess t).Proper sent := by
  have hpolled : forall hal rxBuffer, (k.polled hal rxBuffer).Proper sent :=
    fun _ _ => ⟨h.tasks, h.heap, h.spoken⟩
  unfold Kernel.commProcess
  simp only
  split
  · split
    · exact (hpolled _ _).commRequest t _ _
    · exact hpolled _ _
  · exact hpolled _ _

/-!
## Runs
-/

theorem Proper.schedule (h : k.Proper sent) (t : TaskId) : (k.schedule t).Proper sent := by
  unfold Kernel.schedule
  split
  · exact h
  · split
    · exact h.commProcess t
    · split
      · exact h
      · rename_i k' hwake
        apply Proper.runStep
        unfold Kernel.wakeUp at hwake
        split at hwake
        · split at hwake
          · cases hwake
          · cases hwake
            exact (modifyTask_sameValues k rfl).proper h
        · cases hwake
          exact h

theorem Proper.step (h : k.Proper sent) (e : Event) : (k.step e).Proper sent := by
  cases e with
  | arrive bytes => exact h.withHal _
  | tick => exact ⟨h.tasks, h.heap, h.spoken⟩
  | turn =>
      have hturn := h.schedule k.current
      exact ⟨hturn.tasks, hturn.heap, hturn.spoken⟩

theorem Proper.reset (card : sd.Card) : (reset card : Kernel sd).Proper [] := by
  constructor
  · intro t
    exact ⟨fun _ => word_zero, Nat.succ_pos _, Nat.succ_pos _,
      .inr ⟨Int.le_refl 0, Int.le_refl 0, show (0 : Int) + 0 <= 1024 by decide⟩,
      fun _ => ⟨word_zero, word_zero⟩⟩
  · intro c
    exact word_zero
  · exact ⟨[], rfl⟩

theorem Proper.init (h : k.Proper sent) : k.init.Proper sent := by
  have hcleared : ({ k with
      globalHeap := fun _ => 0
      heapBitmap := fun _ => 0#8
      rxBuffer := fun _ => 0#8
      tasks := fun i => initTask (k.tasks i) } : Kernel sd).Proper sent := by
    refine ⟨?_, fun _ => word_zero, h.spoken⟩
    intro t
    have hv := h.tasks t
    exact ⟨hv.stack, hv.args, hv.filename, .inl ⟨rfl, rfl⟩,
      fun j => ⟨word_neg_one, (hv.table j).right⟩⟩
  have hrunning :=
    (modifyTask_sameValues _ (t := 0) (f := Task.setRunning) rfl).proper hcleared
  have hmalloc := (hrunning.malloc 0 128).left
  unfold Kernel.init
  simp only
  split
  · rename_i hfound
    apply hmalloc.modify
    intro hv
    refine ⟨hv.stack, hv.args, hv.filename, .inr ?_, hv.table⟩
    rcases malloc_records _ 0 128 with ⟨hnone, _⟩ | ⟨_, _, hrun, _⟩
    · exact absurd hnone hfound
    · exact ⟨hrun.nonneg, show (0 : Int) <= 128 by decide, hrun.fits⟩
  · exact hmalloc

theorem boot_proper (card : sd.Card) : (boot card).Proper [] := by
  have hhal : (reset card : Kernel sd).halInit.Proper [] := by
    unfold halInit
    simp only
    split
    · exact (((Proper.reset card).withHal _).withCard _).stdWrite _ _
    · exact ((Proper.reset card).withHal _).withCard _
  unfold boot setup
  exact ((hhal.stdWrite _ _).init).stdWrite _ _

theorem run_proper (card : sd.Card) (events : List Event) :
    ((boot card).run events).Proper [] :=
  run_preserves (Proper []) (fun _ e hk => hk.step e) events _ (boot_proper card)

theorem Proper.step_says (h : k.Proper sent) (e : Event) :
    exists messages, Says k (k.step e) messages := by
  have hnow : k.Proper k.serialOut :=
    ⟨h.tasks, h.heap, [], (List.append_nil k.serialOut).symm⟩
  exact (hnow.step e).spoken

/--
In every reachable state all stacks and the heap hold 16 bit values, so do the tables of
blocks, file names and arguments fit their arrays with their NUL, every segment is inside
the heap, and all that was sent are messages.
-/
theorem reachable_proper (h : Reachable k) : k.Proper [] := by
  cases h with
  | run card events hk =>
      rw [hk]
      exact run_proper card events

theorem lostProgram_proper : lostProgram.Proper [] := reachable_proper (.run _ _ rfl)

end Kernel
end ArduOS
