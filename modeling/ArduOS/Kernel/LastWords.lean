import ArduOS.Kernel.EndOfCode
import ArduOS.Kernel.ExecReplies
import ArduOS.Kernel.StackTops
import ArduOS.VmTools.StackMap

/-!
# What is said when a task ends

Whatever ends a task, the host is told: first what was wrong, if anything was, then the
address of every block that is taken back, in the order of the table.
-/

namespace ArduOS

open Library

namespace Kernel

variable {sd : SdFat} {k k' k'' : Kernel sd} {t : TaskId}

/-!
## Blocks that are taken back
-/

def farewellLines (ptr : Int) : List (Bool × List Byte) :=
  if ptr ≠ -1 then
    [(false, text "GC: Freed addr "), (false, text (toString ptr)), (false, text "\n")]
  else []

def farewellUpTo (k : Kernel sd) (t : TaskId) (n : Nat) : List (Bool × List Byte) :=
  (List.range n).flatMap fun i => farewellLines ((k.tasks t).allocTable i).ptr

def farewell (k : Kernel sd) (t : TaskId) : List (Bool × List Byte) :=
  k.farewellUpTo t MAX_ALLOCATIONS

theorem farewellUpTo_succ (k : Kernel sd) (t : TaskId) (n : Nat) :
    k.farewellUpTo t (n + 1) =
      k.farewellUpTo t n ++ farewellLines ((k.tasks t).allocTable n).ptr := by
  unfold farewellUpTo
  rw [List.range_succ, List.flatMap_append, List.flatMap_singleton]

theorem farewell_congr (h : (k'.tasks t).allocTable = (k.tasks t).allocTable) :
    k'.farewell t = k.farewell t := by
  unfold farewell farewellUpTo
  rw [h]

theorem farewell_of_records (h : k'.records = k.records) (t : TaskId) :
    k'.farewell t = k.farewell t := by
  apply farewell_congr
  exact congrArg (fun r => (Records.task r t).allocTable) h

def TableInWords (k : Kernel sd) (t : TaskId) : Prop :=
  forall i, i < MAX_ALLOCATIONS -> Word ((k.tasks t).allocTable i).ptr

theorem TableInWords.of_records (h : TableInWords k t) (hrecords : k'.records = k.records) :
    TableInWords k' t := by
  intro i hi
  have htable : (k'.tasks t).allocTable = (k.tasks t).allocTable :=
    congrArg (fun r => (Records.task r t).allocTable) hrecords
  rw [htable]
  exact h i hi

theorem free_serialOut (k : Kernel sd) (t : TaskId) (ptr : Int) :
    (k.free t ptr).serialOut = k.serialOut := by
  apply forExit_value_preserves (fun k' : Kernel sd => k'.serialOut = k.serialOut) rfl
  intro i k' _ hk'
  split
  · exact (setAllocatedRange_serialOut k' ptr _ false).trans hk'
  · exact hk'

theorem farewellLines_prints (k : Kernel sd) (t : TaskId) {ptr : Int} (hword : Word ptr) :
    Prints k (if ptr ≠ -1 then
      (((k.free t ptr).stdWrite FD_STDOUT (text "GC: Freed addr ")).stdWriteInt FD_STDOUT
        ptr).stdWrite FD_STDOUT (text "\n") else k) (farewellLines ptr) := by
  unfold farewellLines
  split
  · have hfirst := (k.free t ptr).stdWrite_prints FD_STDOUT
      (show 0#8 ∉ text "GC: Freed addr " by decide) (by decide)
    have hnumber := ((k.free t ptr).stdWrite FD_STDOUT
      (text "GC: Freed addr ")).stdWriteInt_prints FD_STDOUT hword
    have hline := (((k.free t ptr).stdWrite FD_STDOUT
      (text "GC: Freed addr ")).stdWriteInt FD_STDOUT ptr).stdWrite_prints FD_STDOUT
        (show 0#8 ∉ text "\n" by decide) (by decide)
    exact ((hfirst.trans hnumber).trans hline).of_serialOut (k.free_serialOut t ptr)
  · exact .of_eq rfl

theorem freeAllocation_freed {k : Kernel sd} {r : Records} {n : Nat} {ptr : Int}
    (hn : n < MAX_ALLOCATIONS) (hfreed : FreedUpTo t n r k.records)
    (hptr : ((k.tasks t).allocTable n).ptr = ptr) :
    FreedUpTo t (n + 1) r (if ptr ≠ -1 then
      (((k.free t ptr).stdWrite FD_STDOUT (text "GC: Freed addr ")).stdWriteInt FD_STDOUT
        ptr).stdWrite FD_STDOUT (text "\n") else k).records := by
  subst hptr
  by_cases hnone : ((k.tasks t).allocTable n).ptr = -1
  · rw [if_neg (not_not.mpr hnone)]
    exact hfreed.skip hn hnone
  · rw [if_pos hnone, records_stdWrite, records_stdWriteInt, records_stdWrite,
      free_records k t hn rfl]
    · exact hfreed.clear hn hnone
    · intro j hj heq
      have hgone := hfreed.freed j hj
      simp only [records_task, Task.record] at hgone
      rw [hgone] at heq
      exact hnone heq.symm

theorem freeAllocations_prints (hwords : TableInWords k t) :
    Prints k (k.freeAllocations t) (k.farewell t) := by
  have hall : FreedUpTo t MAX_ALLOCATIONS k.records (k.freeAllocations t).records ∧
      Prints k (k.freeAllocations t) (k.farewellUpTo t MAX_ALLOCATIONS) := by
    unfold freeAllocations
    apply forLoop_invariant fun i k' => FreedUpTo t i k.records (Kernel.records k') ∧
      Prints k k' (k.farewellUpTo t i)
    · refine ⟨⟨rfl, fun j hj => by omega, fun j _ => rfl, fun u _ => rfl, fun c => ?_, rfl⟩,
        .of_eq rfl⟩
      simp
    · rintro i k' hi ⟨hfreed, hprints⟩
      have hsame : ((k'.tasks t).allocTable i).ptr = ((k.tasks t).allocTable i).ptr :=
        congrArg Allocation.ptr (hfreed.kept i (Nat.le_refl i))
      rw [farewellUpTo_succ]
      simp only
      rw [hsame]
      exact ⟨freeAllocation_freed hi hfreed hsame,
        hprints.trans (k'.farewellLines_prints t (hwords i hi))⟩
  exact hall.right

theorem terminateTask_prints (hwords : TableInWords k t) :
    Prints k (k.terminateTask t) (k.farewell t) := by
  have hfreed := freeAllocations_prints hwords
  have hrest : (k.terminateTask t).serialOut = (k.freeAllocations t).serialOut := by
    unfold terminateTask
    simp only
    generalize k.freeAllocations t = k₁
    unfold freeSegment
    split
    · exact k₁.setAllocatedRange_serialOut _ _ false
    · rfl
  exact hfreed.last hrest

/-!
## The end of the code
-/

theorem refillBuffer_ended (hwords : TableInWords k t) (hactive : (k.tasks t).isActive = true)
    (hended : ((k.refillBuffer t).tasks t).isActive = false) :
    Prints k (k.refillBuffer t) (k.farewell t) ∧ Terminated t k (k.refillBuffer t) := by
  unfold refillBuffer at hended ⊢
  split
  · rename_i havailable
    rw [if_pos havailable] at hended
    have hsame : ((k.readFile t CODE_BUFFER_SIZE).2.modifyTask t fun task =>
        { task with
          codeBuffer := overwrite (k.readFile t CODE_BUFFER_SIZE).1.2 task.codeBuffer
          bufferIndex := 0 }).records = k.records := by
      rw [records_modifyTask_same _ _ rfl, records_readFile]
    rw [isActive_congr hsame, hactive] at hended
    cases hended
  · exact ⟨terminateTask_prints hwords, terminateTask_terminated k t⟩

theorem fetchByte_ended (hwords : TableInWords k t) (hactive : (k.tasks t).isActive = true)
    (hended : ((k.fetchByte t).2.tasks t).isActive = false) :
    Prints k (k.fetchByte t).2 (k.farewell t) ∧ Terminated t k (k.fetchByte t).2 := by
  unfold fetchByte at hended ⊢
  split
  · rename_i hused
    rw [if_pos hused] at hended
    simp only at hended ⊢
    split
    · rename_i hgone
      exact refillBuffer_ended hwords hactive (Bool.eq_false_iff.mpr hgone)
    · rename_i hthere
      rw [if_neg hthere, isActive_congr (takeByte_records _ t)] at hended
      exact absurd hended (by simpa using hthere)
  · rename_i hleft
    rw [if_neg hleft, isActive_congr (takeByte_records _ t), hactive] at hended
    cases hended

/-- A slot from which nothing can be taken back any more. -/
structure Emptied (k : Kernel sd) (t : TaskId) : Prop where
  free : (k.tasks t).isActive = false
  table : forall i, i < MAX_ALLOCATIONS -> ((k.tasks t).allocTable i).ptr = -1

theorem Terminated.emptied (h : Terminated t k k') : Emptied k' t := by
  refine ⟨?_, fun i hi => h.exits.table i hi⟩
  simp [Task.isActive, h.state.left]

theorem Emptied.tableInWords (h : Emptied k t) : TableInWords k t := by
  intro i hi
  rw [h.table i hi]
  exact word_neg_one

theorem Emptied.farewell (h : Emptied k t) : k.farewell t = [] := by
  unfold Kernel.farewell farewellUpTo
  rw [List.flatMap_eq_nil_iff]
  intro i hi
  unfold farewellLines
  rw [h.table i (List.mem_range.mp hi)]
  rfl

theorem Emptied.fetchByte (h : Emptied k t) :
    Prints k (k.fetchByte t).2 [] ∧ ((k.fetchByte t).2.tasks t).isActive = false := by
  have hrefill : Prints k (k.refillBuffer t) [] ∧
      ((k.refillBuffer t).tasks t).isActive = false := by
    have hprints := terminateTask_prints h.tableInWords
    rw [h.farewell] at hprints
    unfold refillBuffer
    split
    · refine ⟨.of_eq (k.readFile_serialOut t CODE_BUFFER_SIZE), ?_⟩
      have hsame : ((k.readFile t CODE_BUFFER_SIZE).2.modifyTask t fun task =>
          { task with
            codeBuffer := overwrite (k.readFile t CODE_BUFFER_SIZE).1.2 task.codeBuffer
            bufferIndex := 0 }).records = k.records := by
        rw [records_modifyTask_same _ _ rfl, records_readFile]
      exact (isActive_congr hsame t).trans h.free
    · exact ⟨hprints, terminateTask_inactive k t⟩
  unfold Kernel.fetchByte
  split
  · simp only
    rw [if_pos (by simp [hrefill.right])]
    exact hrefill
  · exact ⟨.of_eq rfl, (isActive_congr (takeByte_records k t) t).trans h.free⟩

theorem fetchInt_ended (hwords : TableInWords k t) (hactive : (k.tasks t).isActive = true)
    (hended : ((k.fetchInt t).2.tasks t).isActive = false) :
    Prints k (k.fetchInt t).2 (k.farewell t) := by
  cases hfirst : ((k.fetchByte t).2.tasks t).isActive with
  | true =>
      have haside : (k.fetchByte t).2.records = k.records := by
        rcases fetchByte_cases k t with haside | hgone
        · exact haside.records
        · rw [hgone.emptied.free] at hfirst
          cases hfirst
      have hsecond := (fetchByte_ended (hwords.of_records haside) hfirst hended).left
      rw [farewell_of_records haside] at hsecond
      exact hsecond.of_serialOut (fetchByte_serialOut hfirst)
  | false =>
      rcases fetchByte_ended hwords hactive hfirst with ⟨hprints, hgone⟩
      have hboth := hprints.trans hgone.emptied.fetchByte.left
      rw [List.append_nil] at hboth
      exact hboth

theorem atEnd_of_ended (hactive : (k.tasks t).isActive = true)
    (hended : ((k.fetchByte t).2.tasks t).isActive = false) : k.AtEnd t := by
  unfold fetchByte at hended
  split at hended
  · rename_i hused
    refine ⟨hused, ?_⟩
    rw [Bool.eq_false_iff]
    intro havailable
    have hsame : (k.refillBuffer t).records = k.records := by
      unfold refillBuffer
      rw [if_pos havailable]
      simp only
      rw [records_modifyTask_same _ _ rfl, records_readFile]
    have hthere := (isActive_congr hsame t).trans hactive
    rw [if_neg (not_not.mpr hthere), isActive_congr (takeByte_records _ t), hthere] at hended
    cases hended
  · rw [isActive_congr (takeByte_records k t), hactive] at hended
    cases hended

theorem operandBeyond_of_ended (hactive : (k.tasks t).isActive = true)
    (hended : ((k.fetchInt t).2.tasks t).isActive = false) : k.OperandBeyond t := by
  cases hfirst : ((k.fetchByte t).2.tasks t).isActive with
  | true => exact .inr (atEnd_of_ended hfirst hended)
  | false => exact .inl (atEnd_of_ended hactive hfirst)

/-!
## Instructions
-/

inductive Reason (k : Kernel sd) (t : TaskId) (op : VMOpcode) :
    List (Bool × List Byte) -> Prop where
  | exit (h : op = .exit) : Reason k t op []
  | codeEnds (h : op = .push ∨ op = .jmp ∨ op = .jif) (hbeyond : k.OperandBeyond t) :
      Reason k t op []
  | underflow (h : (k.tasks t).sp < op.arity.1 - 1) :
      Reason k t op [(true, text "Err: Stack Underflow\n")]
  | overflow (h : VM_STACK_SIZE - 1 <= (k.tasks t).sp) (hpushes : 0 < op.arity.2) :
      Reason k t op [(true, text "Err: Stack Overflow\n")]
  | read (h : op = .load) (houtside : inHeap (k.operand t 0) = false) :
      Reason k t op [(true, text "SegFault: Read "), (true, text (toString (k.operand t 0))),
        (true, text "\n")]
  | write (h : op = .store) (houtside : inHeap (k.operand t 0) = false) :
      Reason k t op [(true, text "SegFault: Write Addr "),
        (true, text (toString (k.operand t 0))), (true, text "\n")]

theorem abort_prints (hwords : TableInWords k t) {message : List Byte} (hnul : 0#8 ∉ message)
    (hfit : message.length <= 500) :
    Prints k ((k.stdWrite FD_STDERR message).terminateTask t)
      ((true, message) :: k.farewell t) := by
  have hsame := k.records_stdWrite FD_STDERR message
  have hline := k.stdWrite_prints FD_STDERR hnul hfit
  have hrest := terminateTask_prints (hwords.of_records hsame)
  rw [farewell_of_records hsame] at hrest
  exact hline.trans hrest

theorem checkStackUnderflow_ended (hwords : TableInWords k t) {count : Int}
    {body : Kernel sd -> Kernel sd}
    (h : ((k.checkStackUnderflow t count body).tasks t).isActive = false) :
    ((k.tasks t).sp < count - 1 ∧ Prints k (k.checkStackUnderflow t count body)
        ((true, text "Err: Stack Underflow\n") :: k.farewell t)) ∨
      (k.checkStackUnderflow t count body = body k ∧
        ((body k).tasks t).isActive = false) := by
  unfold checkStackUnderflow at h ⊢
  split
  · rename_i hfew
    exact .inl ⟨hfew, abort_prints hwords (by decide) (by decide)⟩
  · rename_i henough
    rw [if_neg henough] at h
    exact .inr ⟨rfl, h⟩

theorem checkStackOverflow_ended (hwords : TableInWords k t) {body : Kernel sd -> Kernel sd}
    (h : ((k.checkStackOverflow t body).tasks t).isActive = false) :
    (VM_STACK_SIZE - 1 <= (k.tasks t).sp ∧ Prints k (k.checkStackOverflow t body)
        ((true, text "Err: Stack Overflow\n") :: k.farewell t)) ∨
      (k.checkStackOverflow t body = body k ∧ ((body k).tasks t).isActive = false) := by
  unfold checkStackOverflow at h ⊢
  split
  · rename_i hfull
    exact .inl ⟨hfull, abort_prints hwords (by decide) (by decide)⟩
  · rename_i hroom
    rw [if_neg hroom] at h
    exact .inr ⟨rfl, h⟩

theorem taking_ended (hwords : TableInWords k t) (hactive : (k.tasks t).isActive = true)
    {op : VMOpcode} {count : Int} {body : Kernel sd -> Kernel sd}
    (hcount : count = op.arity.1)
    (hbody : ((body k).tasks t).isActive = (k.tasks t).isActive)
    (h : ((k.checkStackUnderflow t count body).tasks t).isActive = false) :
    exists words, Reason k t op words ∧
      Prints k (k.checkStackUnderflow t count body) (words ++ k.farewell t) := by
  rcases checkStackUnderflow_ended hwords h with ⟨hfew, hprints⟩ | ⟨_, hended⟩
  · rw [hcount] at hfew
    exact ⟨_, .underflow hfew, hprints⟩
  · rw [hbody, hactive] at hended
    cases hended

theorem segFault_prints (hwords : TableInWords k t) {message : List Byte}
    (hnul : 0#8 ∉ message) (hfit : message.length <= 500) {addr : Int} (hword : Word addr) :
    Prints k (k.segFault t message addr)
      ([(true, message), (true, text (toString addr)), (true, text "\n")] ++
        k.farewell t) := by
  have hfirst := k.stdWrite_prints FD_STDERR hnul hfit
  have hnumber := (k.stdWrite FD_STDERR message).stdWriteInt_prints FD_STDERR hword
  have hsame : ((k.stdWrite FD_STDERR message).stdWriteInt FD_STDERR addr).records =
      k.records := by
    rw [records_stdWriteInt, records_stdWrite]
  have hrest := abort_prints (hwords.of_records hsame) (show 0#8 ∉ text "\n" by decide)
    (by decide)
  rw [farewell_of_records hsame] at hrest
  exact (hfirst.trans hnumber).trans hrest

/-- An address that is refused was not translated. -/
theorem getPhysAddr_outside (hseg : SegmentInHeap k t) {addr : Int}
    (houtside : inHeap (k.getPhysAddr t addr) = false) : k.getPhysAddr t addr = addr := by
  unfold getPhysAddr at houtside ⊢
  split
  · rename_i hin
    rw [if_pos hin] at houtside
    have hheap := hseg addr hin.left hin.right
    have hinside : inHeap ((k.tasks t).heapBase + addr) = true := decide_eq_true hheap
    rw [hinside] at houtside
    cases houtside
  · rfl

theorem opPush_ended (hwords : TableInWords k t) (hactive : (k.tasks t).isActive = true)
    (h : (((k.fetchInt t).2.stackPush t (k.fetchInt t).1).tasks t).isActive = false) :
    k.OperandBeyond t ∧
      Prints k ((k.fetchInt t).2.stackPush t (k.fetchInt t).1) (k.farewell t) := by
  rw [isActive_congr (records_stackPush _ t _)] at h
  exact ⟨operandBeyond_of_ended hactive h, (fetchInt_ended hwords hactive h).last rfl⟩

theorem opJmp_ended (hwords : TableInWords k t) (hactive : (k.tasks t).isActive = true)
    {addr : Int} (h : (((k.fetchInt t).2.jump t addr).tasks t).isActive = false) :
    k.OperandBeyond t ∧ Prints k ((k.fetchInt t).2.jump t addr) (k.farewell t) := by
  rw [isActive_congr (jump_records _ t _)] at h
  exact ⟨operandBeyond_of_ended hactive h,
    (fetchInt_ended hwords hactive h).last (jump_serialOut _ t addr)⟩

theorem opJif_ended (hwords : TableInWords k t) (hactive : (k.tasks t).isActive = true)
    (h : ((k.opJif t).tasks t).isActive = false) :
    exists words, Reason k t .jif words ∧
      Prints k (k.opJif t) (words ++ k.farewell t) := by
  unfold opJif at h ⊢
  rcases checkStackUnderflow_ended hwords h with ⟨hfew, hprints⟩ | ⟨hbody, hended⟩
  · exact ⟨_, .underflow hfew, hprints⟩
  · rw [hbody]
    simp only at hended ⊢
    have hfetched : ((k.fetchInt t).2.tasks t).isActive = false := by
      split at hended
      · rw [isActive_congr (jump_records _ t _), isActive_congr (records_stackPop _ t)]
          at hended
        exact hended
      · rw [isActive_congr (records_stackPop _ t)] at hended
        exact hended
    refine ⟨[], .codeEnds (.inr (.inr rfl)) (operandBeyond_of_ended hactive hfetched), ?_⟩
    have hprints := fetchInt_ended hwords hactive hfetched
    generalize (k.fetchInt t).2 = k₁ at hprints ⊢
    have hpopped : (k₁.stackPop t).2.serialOut = k₁.serialOut := rfl
    split
    · exact hprints.last ((jump_serialOut (k₁.stackPop t).2 t _).trans hpopped)
    · exact hprints.last hpopped

theorem opDup_ended (hwords : TableInWords k t) (hactive : (k.tasks t).isActive = true)
    (h : ((k.opDup t).tasks t).isActive = false) :
    exists words, Reason k t .dup words ∧
      Prints k (k.opDup t) (words ++ k.farewell t) := by
  unfold opDup at h ⊢
  rcases checkStackUnderflow_ended hwords h with ⟨hfew, hprints⟩ | ⟨hbody, hended⟩
  · exact ⟨_, .underflow hfew, hprints⟩
  · rw [hbody]
    rcases checkStackOverflow_ended hwords hended with ⟨hfull, hprints⟩ | ⟨_, hended⟩
    · exact ⟨_, .overflow hfull (by decide), hprints⟩
    · simp only at hended
      rw [isActive_congr (records_stackPush _ t _), isActive_congr (records_stackTop _ t),
        hactive] at hended
      cases hended

theorem opRead_ended (hwords : TableInWords k t) (hactive : (k.tasks t).isActive = true)
    (h : ((k.opRead t).tasks t).isActive = false) :
    exists words, Reason k t .read words ∧
      Prints k (k.opRead t) (words ++ k.farewell t) := by
  unfold opRead at h ⊢
  rcases checkStackOverflow_ended hwords h with ⟨hfull, hprints⟩ | ⟨_, hended⟩
  · exact ⟨_, .overflow hfull (by decide), hprints⟩
  · simp only at hended
    rw [isActive_congr (records_stackPush _ t _), stdRead_tasks, hactive] at hended
    cases hended

theorem opLoad_ended (hwords : TableInWords k t) (hactive : (k.tasks t).isActive = true)
    (hseg : SegmentInHeap k t) (hstack : forall i, Word ((k.tasks t).stack i))
    (h : ((k.opLoad t).tasks t).isActive = false) :
    exists words, Reason k t .load words ∧
      Prints k (k.opLoad t) (words ++ k.farewell t) := by
  have hpop := k.records_stackPop t
  unfold opLoad at h ⊢
  rcases checkStackUnderflow_ended hwords h with ⟨hfew, hprints⟩ | ⟨hbody, hended⟩
  · exact ⟨_, .underflow hfew, hprints⟩
  · rw [hbody]
    simp only at hended ⊢
    rw [stackPop_getPhysAddr, stackPop_fst] at hended ⊢
    by_cases hin : inHeap (k.getPhysAddr t (k.operand t 0)) = true
    · rw [if_pos hin] at hended ⊢
      have hfarewell := farewell_of_records hpop t
      rcases checkStackOverflow_ended (hwords.of_records hpop) hended with
        ⟨hfull, hprints⟩ | ⟨_, hended⟩
      · rw [stackPop_sp] at hfull
        rw [hfarewell] at hprints
        exact ⟨_, .overflow (by omega) (by decide), hprints.of_serialOut rfl⟩
      · rw [isActive_congr (records_stackPush _ t _), isActive_congr (records_heapGet _ _),
          isActive_congr hpop, hactive] at hended
        cases hended
    · have hout := Bool.eq_false_iff.mpr hin
      have haddr := getPhysAddr_outside hseg hout
      rw [if_neg hin]
      rw [haddr] at hout ⊢
      have hword : Word (k.operand t 0) := hstack _
      have hprints := segFault_prints (hwords.of_records hpop)
        (show 0#8 ∉ text "SegFault: Read " by decide) (by decide) hword
      rw [farewell_of_records hpop] at hprints
      exact ⟨_, .read rfl hout, hprints.of_serialOut rfl⟩

theorem opStore_ended (hwords : TableInWords k t) (hactive : (k.tasks t).isActive = true)
    (hseg : SegmentInHeap k t) (hstack : forall i, Word ((k.tasks t).stack i))
    (h : ((k.opStore t).tasks t).isActive = false) :
    exists words, Reason k t .store words ∧
      Prints k (k.opStore t) (words ++ k.farewell t) := by
  have hpops : ((k.stackPop t).2.stackPop t).2.records = k.records :=
    ((k.stackPop t).2.records_stackPop t).trans (k.records_stackPop t)
  unfold opStore at h ⊢
  rcases checkStackUnderflow_ended hwords h with ⟨hfew, hprints⟩ | ⟨hbody, hended⟩
  · exact ⟨_, .underflow hfew, hprints⟩
  · rw [hbody]
    simp only at hended ⊢
    rw [stackPop_getPhysAddr, stackPop_getPhysAddr, stackPop_fst] at hended ⊢
    by_cases hin : inHeap (k.getPhysAddr t (k.operand t 0)) = true
    · rw [if_pos hin, isActive_congr (records_heapSet _ _ _), isActive_congr hpops,
        hactive] at hended
      cases hended
    · have hout := Bool.eq_false_iff.mpr hin
      have haddr := getPhysAddr_outside hseg hout
      rw [if_neg hin]
      rw [haddr] at hout ⊢
      have hword : Word (k.operand t 0) := hstack _
      have hprints := segFault_prints (hwords.of_records hpops)
        (show 0#8 ∉ text "SegFault: Write Addr " by decide) (by decide) hword
      rw [farewell_of_records hpops] at hprints
      exact ⟨_, .write rfl hout, hprints.of_serialOut rfl⟩

theorem malloc_isActive (k : Kernel sd) (t : TaskId) (size : Int) :
    ((k.malloc t size).2.tasks t).isActive = (k.tasks t).isActive := by
  rcases k.malloc_cases t size with ⟨hnone, _⟩ | ⟨start, _, hfound⟩
  · rw [hnone]
  · rw [hfound]
    unfold mallocAt
    split
    · exact isActive_congr (k.records_stdWrite FD_STDERR (text "Err: Alloc table full\n")) t
    · simp [modifyTask, setAllocatedRange_tasks, Task.isActive]

/-- The block is taken when the room for its address has been checked already. -/
theorem opMalloc_ended (hwords : TableInWords k t) (hactive : (k.tasks t).isActive = true)
    (htop : (k.tasks t).sp < VM_STACK_SIZE) (h : ((k.opMalloc t).tasks t).isActive = false) :
    exists words, Reason k t .malloc words ∧
      Prints k (k.opMalloc t) (words ++ k.farewell t) := by
  have hquiet := (k.stackPop t).2.malloc_quiet t (k.stackPop t).1
  have hsame := (k.stackPop t).2.malloc_isActive t (k.stackPop t).1
  unfold opMalloc at h ⊢
  rcases checkStackUnderflow_ended hwords h with ⟨hfew, hprints⟩ | ⟨_, hended⟩
  · exact ⟨_, .underflow hfew, hprints⟩
  · have hroom : ¬ (((k.stackPop t).2.malloc t (k.stackPop t).1).2.tasks t).sp >=
        VM_STACK_SIZE - 1 := by
      rw [hquiet.sp t, stackPop_sp]
      omega
    simp only at hended
    unfold checkStackOverflow at hended
    rw [if_neg hroom, isActive_congr (records_stackPush _ t _), hsame,
      isActive_congr (k.records_stackPop t), hactive] at hended
    cases hended

/-!
## System calls
-/

/-- Of the system calls only `ls` can end its caller. -/
theorem systemCall_isActive (hrunning : (k.tasks t).taskState = .running) {sysId : Int}
    (hid : sysId ≠ 1) : ((k.systemCall t sysId).tasks t).isActive = true := by
  have hactive : (k.tasks t).isActive = true := by simp [Task.isActive, hrunning]
  unfold systemCall
  rw [if_neg hid]
  split
  · rw [syscallExec_eq]
    have hcases := execWith_cases (k.stackPops_reads t) hrunning (k.operand t 0)
      (k.operand t 1) (k.operand t 2)
    rcases hcases with ⟨_, hrefused⟩ | ⟨child, _, _, ⟨_, hrefused⟩ | ⟨_, _, _, hstarted⟩⟩
    · rw [hrefused.caller]
      rfl
    · rw [hrefused.caller]
      rfl
    · rw [hstarted.caller]
      by_cases hwait : k.operand t 0 = 1
      · rw [if_pos hwait]
        rfl
      · rw [if_neg hwait]
        rfl
  · split
    · unfold syscallChdir
      simp only
      rw [isActive_congr (chdirWith_records _ t _ _), isActive_congr (records_stackPop _ t),
        isActive_congr (records_stackPop _ t)]
      exact hactive
    · split
      · unfold syscallGetcwd
        simp only
        rw [isActive_congr (getcwdWith_records _ t _), isActive_congr (records_stackPop _ t)]
        exact hactive
      · exact hactive

theorem opSys_ended (hwords : TableInWords k t)
    (hrunning : (k.tasks t).taskState = .running)
    (h : ((k.opSys t).tasks t).isActive = false) :
    ((k.tasks t).sp < 0 ∧
        Prints k (k.opSys t) ((true, text "Err: Stack Underflow\n") :: k.farewell t)) ∨
      (k.operand t 0 = 1 ∧ Prints k (k.opSys t) []) := by
  unfold opSys at h ⊢
  rcases checkStackUnderflow_ended hwords h with ⟨hfew, hprints⟩ | ⟨hbody, hended⟩
  · exact .inl ⟨by omega, hprints⟩
  · rw [hbody]
    simp only at hended ⊢
    rw [stackPop_fst] at hended ⊢
    by_cases hid : k.operand t 0 = 1
    · refine .inr ⟨hid, .of_eq ?_⟩
      unfold systemCall
      rw [if_pos hid]
      unfold syscallLs
      exact lsWith_serialOut _ t _ _ _
    · have hpopped : ((k.stackPop t).2.tasks t).taskState = .running := by
        simp [stackPop, modifyTask, hrunning]
      rw [systemCall_isActive hpopped hid] at hended
      cases hended

theorem execute_ended {opcode : Byte} {op : VMOpcode}
    (hop : VMOpcode.ofByte? opcode = some op) (hsys : op ≠ .sys)
    (hactive : (k.tasks t).isActive = true) (hwords : TableInWords k t)
    (htop : (k.tasks t).sp < VM_STACK_SIZE)
    (hseg : SegmentInHeap k t) (hstack : forall i, Word ((k.tasks t).stack i))
    (h : ((k.execute t opcode).tasks t).isActive = false) :
    exists words, Reason k t op words ∧
      Prints k (k.execute t opcode) (words ++ k.farewell t) := by
  unfold execute at h ⊢
  rw [hop] at h ⊢
  cases op with
  | exit => exact ⟨[], .exit rfl, terminateTask_prints hwords⟩
  | print | prte =>
      simp only [opPrint] at h ⊢
      refine taking_ended hwords hactive rfl ?_ h
      apply isActive_congr
      rw [records_stdWriteChar, records_stdWriteInt, records_stackPop]
  | prtc =>
      simp only at h ⊢
      refine taking_ended hwords hactive rfl ?_ h
      apply isActive_congr
      rw [records_stdWriteChar, records_stackPop]
  | prts =>
      simp only [opPrts] at h ⊢
      refine taking_ended hwords hactive rfl ?_ h
      apply isActive_congr
      rw [records_stdWrite, records_readString, records_stackPop]
  | add | sub | eq =>
      simp only [binary] at h ⊢
      refine taking_ended hwords hactive rfl ?_ h
      apply isActive_congr
      rw [records_stackPush, records_stackPop, records_stackPop]
  | pop => exact taking_ended hwords hactive rfl (isActive_congr (records_stackDrop k t) t) h
  | sleep =>
      simp only [opSleep] at h ⊢
      refine taking_ended hwords hactive rfl ?_ h
      apply isActive_congr
      unfold yield
      rw [records_modifyTask_same _ _ rfl, records_modifyTask_same _ _ rfl, records_stackPop]
  | push =>
      rcases checkStackOverflow_ended hwords h with ⟨hfull, hprints⟩ | ⟨hbody, hended⟩
      · exact ⟨_, .overflow hfull (by decide), hprints⟩
      · rcases opPush_ended hwords hactive hended with ⟨hbeyond, hprints⟩
        simp only at hbody ⊢
        rw [hbody]
        exact ⟨[], .codeEnds (.inl rfl) hbeyond, hprints⟩
  | jmp =>
      rcases opJmp_ended hwords hactive h with ⟨hbeyond, hprints⟩
      exact ⟨[], .codeEnds (.inr (.inl rfl)) hbeyond, hprints⟩
  | jif => exact opJif_ended hwords hactive h
  | dup => exact opDup_ended hwords hactive h
  | read => exact opRead_ended hwords hactive h
  | load => exact opLoad_ended hwords hactive hseg hstack h
  | store => exact opStore_ended hwords hactive hseg hstack h
  | sys => exact absurd rfl hsys
  | malloc => exact opMalloc_ended hwords hactive htop h
  | pinMode | dWrite =>
      simp only at h
      rw [hactive] at h
      cases h

/-!
## Turns
-/

/-- All that the host is told when the turn of `t` ends it. -/
inductive LastWords (k : Kernel sd) (t : TaskId) : List (Bool × List Byte) -> Prop where
  | codeEnds (hend : k.AtEnd t) : LastWords k t (k.farewell t)
  | stopped (op : VMOpcode) (words : List (Bool × List Byte))
      (hop : k.nextOpcode t = some op) (hreason : Reason (k.fetchByte t).2 t op words) :
      LastWords k t (words ++ k.farewell t)
  /-- The program file cannot be opened again after a listing: nothing is taken back. -/
  | lost (hop : k.nextOpcode t = some .sys) (hls : (k.fetchByte t).2.operand t 0 = 1) :
      LastWords k t []

theorem runStep_ended (hrunning : (k.tasks t).taskState = .running)
    (hwords : TableInWords k t) (htop : (k.tasks t).sp < VM_STACK_SIZE)
    (hseg : SegmentInHeap k t) (hstack : forall i, Word ((k.tasks t).stack i))
    (h : ((k.runStep t).tasks t).isActive = false) :
    exists texts, LastWords k t texts ∧ Prints k (k.runStep t) texts := by
  have hactive : (k.tasks t).isActive = true := by simp [Task.isActive, hrunning]
  unfold runStep at h ⊢
  simp only at h ⊢
  by_cases hfetched : ((k.fetchByte t).2.tasks t).isActive = true
  · rw [if_neg (not_not.mpr hfetched)] at h ⊢
    have hrecords : (k.fetchByte t).2.records = k.records :=
      (k.fetchByte_fetches t).records_of_active hfetched
    have htask := congrArg (fun r => Records.task r t) hrecords
    have hsame := fetchByte_fetched hfetched
    have hsilent := fetchByte_serialOut hfetched
    have hnext : k.nextOpcode t = VMOpcode.ofByte? (k.fetchByte t).1 := if_pos hfetched
    have hfarewell := farewell_of_records hrecords t
    have hwords' := hwords.of_records hrecords
    have hseg' := hseg.congr (congrArg TaskRecord.heapBase htask)
      (congrArg TaskRecord.heapLimit htask)
    have hstate : ((k.fetchByte t).2.tasks t).taskState = .running :=
      (congrArg TaskRecord.state htask).trans hrunning
    have htop' : ((k.fetchByte t).2.tasks t).sp < VM_STACK_SIZE := by
      rw [hsame.quiet.sp t]
      exact htop
    have hstack' : forall i, Word (((k.fetchByte t).2.tasks t).stack i) := by
      rw [hsame.stack]
      exact hstack
    cases hop : VMOpcode.ofByte? (k.fetchByte t).1 with
    | none =>
        unfold execute at h
        rw [hop, hfetched] at h
        cases h
    | some op =>
        rw [hop] at hnext
        by_cases hsys : op = .sys
        · subst hsys
          unfold execute at h ⊢
          rw [hop] at h ⊢
          rcases opSys_ended hwords' hstate h with ⟨hfew, hprints⟩ | ⟨hls, hprints⟩
          · rw [hfarewell] at hprints
            exact ⟨_, .stopped .sys _ hnext (.underflow hfew),
              hprints.of_serialOut hsilent⟩
          · exact ⟨_, .lost hnext hls, hprints.of_serialOut hsilent⟩
        · rcases execute_ended hop hsys hfetched hwords' htop' hseg' hstack' h with
            ⟨words, hreason, hprints⟩
          rw [hfarewell] at hprints
          exact ⟨_, .stopped op words hnext hreason, hprints.of_serialOut hsilent⟩
  · rw [if_pos hfetched]
    have hended := Bool.eq_false_iff.mpr hfetched
    exact ⟨_, .codeEnds (atEnd_of_ended hactive hended),
      (fetchByte_ended hwords hactive hended).left⟩

/--
In every reachable state, when a task ends in its turn, the host is told what was wrong,
if anything was, and the address of every block the task still had, in the order of its
table; and nothing else.  Only after the end in a listing not even the blocks are named.
-/
theorem turn_ends (hk : Reachable k) (hturn : k.dispatches k.current = some k')
    (h : ((k.step .turn).tasks k.current).isActive = false) :
    exists texts, LastWords k' k.current texts ∧ Prints k (k.step .turn) texts := by
  have hproper : k.Proper [] ∧ Capped k := by
    cases hk with
    | run card events hk =>
        rw [hk]
        exact ⟨run_proper card events, run_capped card events⟩
  rcases dispatches_cases hturn with ⟨hrunnable, _, hwake⟩
  have hrecords := wakeUp_records hwake
  have hfetched := wakeUp_fetched hwake
  have htask := congrArg (fun r => Records.task r k.current) hrecords
  have hrunning : (k.tasks k.current).taskState = .running := by
    simpa [Task.isRunnable] using hrunnable
  have hwords : TableInWords k k.current :=
    fun i _ => ((hproper.left.tasks k.current).table i).left
  have hseg : SegmentInHeap k k.current :=
    hk.segmentInHeap (by rw [hrunning]; intro hcontra; cases hcontra)
  have htop : (k'.tasks k.current).sp < VM_STACK_SIZE := by
    rw [hfetched.quiet.sp k.current]
    exact hproper.right.tops k.current
  have hstack : forall i, Word ((k'.tasks k.current).stack i) := by
    rw [hfetched.stack]
    exact (hproper.left.tasks k.current).stack
  rw [step_turn_of_dispatches rfl hturn] at h ⊢
  rcases runStep_ended ((congrArg TaskRecord.state htask).trans hrunning)
    (hwords.of_records hrecords) htop
    (hseg.congr (congrArg TaskRecord.heapBase htask) (congrArg TaskRecord.heapLimit htask))
    hstack h with ⟨texts, hlast, hprints⟩
  exact ⟨texts, hlast, hprints.of_serialOut (wakeUp_serialOut hwake)⟩

def strayed : Kernel CardImage.sdFat :=
  (boot (CardImage.ofProgram 16#8
    [0x10#8, 0x04#8, 0x00#8, 0x50#8, 0x15#8, 0x10#8, 0xD0#8, 0x07#8, 0x51#8] 1)).run
    (.arrive runRequest.bytes :: List.replicate 13 .turn)

theorem strayed_ends :
    Prints strayed (strayed.step .turn)
      [(true, text "SegFault: Read "), (true, text "2000"), (true, text "\n"),
        (false, text "GC: Freed addr "), (false, text "144"), (false, text "\n")] := by
  have hfacts : ((strayed.tasks 1).isRunnable = true ∧ ¬ (strayed.tasks 1).wakeUpTime > 0#32 ∧
      strayed.current = 1 ∧ strayed.nextOpcode 1 = some .load) ∧
      (((strayed.fetchByte 1).2.tasks 1).sp = 0 ∧
        (strayed.fetchByte 1).2.operand 1 0 = 2000 ∧
        (strayed.tasks 1).bufferIndex < CODE_BUFFER_SIZE) ∧
      strayed.farewell 1 = farewellLines 144 ∧
      ((strayed.step .turn).tasks 1).isActive = false := by decide +kernel
  rcases hfacts with ⟨⟨hrunnable, hawake, hcurrent, hload⟩, ⟨hsp, haddr, hindex⟩, hfarewell,
    hended⟩
  have hturn : strayed.dispatches strayed.current = some strayed := by
    rw [hcurrent]
    exact dispatches_of_awake hrunnable (by decide) hawake
  rcases turn_ends (k := strayed) (.run _ _ rfl) hturn (by rw [hcurrent]; exact hended) with
    ⟨texts, hlast, hprints⟩
  rw [hcurrent] at hlast
  cases hlast with
  | codeEnds hend => exact absurd hend.left (by omega)
  | lost hop _ =>
      rw [hload] at hop
      cases hop
  | stopped op words hop hreason =>
      rw [hload] at hop
      cases hop
      rw [hfarewell] at hprints
      cases hreason with
      | exit h => cases h
      | codeEnds h _ => rcases h with h | h | h <;> cases h
      | underflow h =>
          rw [hsp] at h
          exact absurd h (by decide)
      | overflow h _ =>
          rw [hsp] at h
          exact absurd h (by decide)
      | write h _ => cases h
      | read _ _ =>
          rw [haddr] at hprints
          exact hprints

end Kernel
end ArduOS
