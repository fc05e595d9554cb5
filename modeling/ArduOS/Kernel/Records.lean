import ArduOS.Kernel.Memory
import ArduOS.Library.Ledger

/-!
# Records

The part of the kernel state that task management and allocation are about:
for each task its state, its blocks and whether its file is open, and which
heap cells are marked.  Stack, heap contents, code, strings and serial line are
no part of it, and most of the code leaves it alone.
-/

namespace ArduOS

open Library

@[ext]
structure TaskRecord where
  state : TaskState
  heapBase : Int
  heapLimit : Int
  allocTable : Nat -> Allocation
  fileOpen : Bool

@[ext]
structure Records where
  task : TaskId -> TaskRecord
  allocated : Int -> Bool
  /-- Who loaded the program in a slot last, and with which `wait_opt`. -/
  started : TaskId -> Option (TaskId × Int)

namespace Records

def modify (r : Records) (t : TaskId) (f : TaskRecord -> TaskRecord) : Records :=
  { r with task := Function.update r.task t (f (r.task t)) }

def mark (r : Records) (start size : Int) (allocated : Bool) : Records :=
  { r with
    allocated := fun c =>
      if start <= c ∧ c < start + size then allocated else r.allocated c }

def start (r : Records) (parent child : TaskId) (waitOpt : Int) : Records :=
  { r with started := Function.update r.started child (some (parent, waitOpt)) }

@[simp] theorem modify_task_self (r : Records) (t : TaskId)
    (f : TaskRecord -> TaskRecord) : (r.modify t f).task t = f (r.task t) := by
  simp [modify]

theorem modify_task_of_ne (r : Records) {t u : TaskId} (h : u ≠ t)
    (f : TaskRecord -> TaskRecord) : (r.modify t f).task u = r.task u := by
  simp [modify, h]

@[simp] theorem modify_allocated (r : Records) (t : TaskId)
    (f : TaskRecord -> TaskRecord) : (r.modify t f).allocated = r.allocated := rfl

@[simp] theorem modify_started (r : Records) (t : TaskId)
    (f : TaskRecord -> TaskRecord) : (r.modify t f).started = r.started := rfl

@[simp] theorem mark_task (r : Records) (start size : Int) (b : Bool) :
    (r.mark start size b).task = r.task := rfl

@[simp] theorem mark_started (r : Records) (start size : Int) (b : Bool) :
    (r.mark start size b).started = r.started := rfl

@[simp] theorem start_task (r : Records) (parent child : TaskId) (w : Int) :
    (r.start parent child w).task = r.task := rfl

@[simp] theorem start_allocated (r : Records) (parent child : TaskId) (w : Int) :
    (r.start parent child w).allocated = r.allocated := rfl

theorem modify_eq_self (r : Records) (t : TaskId) {f : TaskRecord -> TaskRecord}
    (h : f (r.task t) = r.task t) : r.modify t f = r := by
  simp [modify, h]

theorem modify_modify (r : Records) (t : TaskId) (f g : TaskRecord -> TaskRecord) :
    (r.modify t f).modify t g = r.modify t fun task => g (f task) := by
  simp [modify]

end Records

/-!
## The records of a kernel state
-/

def Task.record {sd : SdFat} (t : Task sd) : TaskRecord :=
  { state := t.taskState
    heapBase := t.heapBase
    heapLimit := t.heapLimit
    allocTable := t.allocTable
    fileOpen := t.file.isSome }

/-- The last load into each slot that the log tells of. -/
def startedIn (log : List Access) (child : TaskId) : Option (TaskId × Int) :=
  log.foldl (fun last a =>
    match a with
    | .exec parent c waitOpt => if c = child then some (parent, waitOpt) else last
    | _ => last) none

namespace Kernel

variable {sd : SdFat}

def records (k : Kernel sd) : Records :=
  { task := fun t => (k.tasks t).record
    allocated := k.isAllocated
    started := startedIn k.log }

theorem records_task (k : Kernel sd) (t : TaskId) :
    k.records.task t = (k.tasks t).record := rfl

theorem records_modifyTask (k : Kernel sd) (t : TaskId) {f : Task sd -> Task sd}
    {g : TaskRecord -> TaskRecord} (h : (f (k.tasks t)).record = g (k.tasks t).record) :
    (k.modifyTask t f).records = k.records.modify t g := by
  apply Records.ext
  · funext u
    by_cases hu : u = t
    · subst hu
      simp [modifyTask, records, h]
    · rw [Records.modify_task_of_ne _ hu]
      simp [modifyTask, records, hu]
  · rfl
  · rfl

theorem records_modifyTask_same (k : Kernel sd) (t : TaskId) {f : Task sd -> Task sd}
    (h : (f (k.tasks t)).record = (k.tasks t).record) :
    (k.modifyTask t f).records = k.records := by
  rw [records_modifyTask k t (g := id) h]
  exact Records.modify_eq_self _ _ rfl

theorem startedIn_append (log : List Access) {new : List Access}
    (h : forall a, a ∈ new -> forall parent child waitOpt,
      a ≠ .exec parent child waitOpt) :
    startedIn (log ++ new) = startedIn log := by
  funext child
  unfold startedIn
  rw [List.foldl_append]
  generalize log.foldl _ none = last
  induction new with
  | nil => rfl
  | cons a new ih =>
      have hrest := ih fun b hb => h b (List.mem_cons_of_mem a hb)
      rw [List.foldl_cons]
      cases a with
      | exec parent c waitOpt => exact absurd rfl (h _ List.mem_cons_self _ _ _)
      | stack _ _ => exact hrest
      | heapRead _ => exact hrest
      | heapWrite _ => exact hrest
      | chars _ _ => exact hrest
      | dispatch _ _ => exact hrest
      | stdin _ => exact hrest

theorem records_note (k : Kernel sd) {a : Access}
    (h : forall parent child waitOpt, a ≠ .exec parent child waitOpt) :
    (k.note a).records = k.records := by
  apply Records.ext
  · rfl
  · rfl
  · apply startedIn_append
    intro b hb
    rw [List.mem_singleton.mp hb]
    exact h

theorem records_note_exec (k : Kernel sd) (parent child : TaskId) (waitOpt : Int) :
    (k.note (.exec parent child waitOpt)).records =
      k.records.start parent child waitOpt := by
  apply Records.ext
  · rfl
  · rfl
  · funext c
    simp only [records, note, startedIn, List.foldl_append, List.foldl_cons,
      List.foldl_nil, Records.start, Function.update_apply]
    by_cases hc : c = child
    · simp [hc]
    · rw [if_neg (fun h => hc h.symm), if_neg hc]

@[simp] theorem records_stdWrite (k : Kernel sd) (fd : Int) (str : List Byte) :
    (k.stdWrite fd str).records = k.records := by
  rcases stdWrite_eq k fd str with ⟨tx, out, h⟩
  rw [h]
  rfl

@[simp] theorem records_stdWriteInt (k : Kernel sd) (fd : Int) (val : Int) :
    (k.stdWriteInt fd val).records = k.records :=
  records_stdWrite ..

@[simp] theorem records_stdWriteChar (k : Kernel sd) (fd : Int) (c : Byte) :
    (k.stdWriteChar fd c).records = k.records :=
  records_stdWrite ..

@[simp] theorem records_stackTop (k : Kernel sd) (t : TaskId) :
    (k.stackTop t).2.records = k.records :=
  records_note _ (by simp)

@[simp] theorem records_stackPop (k : Kernel sd) (t : TaskId) :
    (k.stackPop t).2.records = k.records := by
  unfold stackPop
  rw [records_modifyTask_same _ _ rfl, records_note _ (by simp)]

@[simp] theorem records_stackPush (k : Kernel sd) (t : TaskId) (val : Int) :
    (k.stackPush t val).records = k.records := by
  unfold stackPush
  rw [records_modifyTask_same _ _ rfl, records_note _ (by simp)]

@[simp] theorem records_stackDrop (k : Kernel sd) (t : TaskId) :
    (k.stackDrop t).records = k.records :=
  records_modifyTask_same _ _ rfl

@[simp] theorem records_heapGet (k : Kernel sd) (index : Int) :
    (k.heapGet index).2.records = k.records :=
  records_note _ (by simp)

@[simp] theorem records_heapSet (k : Kernel sd) (index val : Int) :
    (k.heapSet index val).records = k.records :=
  records_note (k := k) (a := .heapWrite index) (by simp)

@[simp] theorem records_heapSetBelow (k : Kernel sd) (index val : Int) :
    (k.heapSetBelow index val).records = k.records := by
  unfold heapSetBelow
  split
  · exact records_heapSet ..
  · rfl

/-!
## The bitmap
-/

theorem getLsbD_bit {n : Nat} (hn : n < 8) (i : Nat) :
    (1#8 <<< n).getLsbD i = decide (i = n) := by
  rw [BitVec.getLsbD_shiftLeft]
  by_cases hi : i = n
  · subst hi
    simp [hn]
  · have hne : ¬ i - n = 0 ∨ i < n := by omega
    rcases hne with hne | hlt
    · simp [BitVec.getLsbD_one, hne, hi]
    · simp [hlt, hi]

theorem isAllocated_eq_getLsbD (k : Kernel sd) (idx : Int) :
    k.isAllocated idx = (k.heapBitmap (idx / 8)).getLsbD (idx % 8).toNat := by
  have hn : (idx % 8).toNat < 8 := by omega
  unfold isAllocated
  generalize k.heapBitmap (idx / 8) = byte
  generalize (idx % 8).toNat = n at hn
  cases hbit : byte.getLsbD n with
  | true =>
      rw [decide_eq_true_eq]
      intro hzero
      have hand := congrArg (fun b => b.getLsbD n) hzero
      simp [BitVec.getLsbD_and, getLsbD_bit hn, hbit] at hand
  | false =>
      rw [decide_eq_false_iff_not, not_not]
      apply BitVec.eq_of_getLsbD_eq
      intro i hi
      rw [BitVec.getLsbD_and, getLsbD_bit hn]
      by_cases hin : i = n
      · subst hin
        simp [hbit]
      · simp [hin]

theorem isAllocated_setAllocated (k : Kernel sd) (idx : Int) (b : Bool) (c : Int) :
    (k.setAllocated idx b).isAllocated c = if c = idx then b else k.isAllocated c := by
  have hn : (idx % 8).toNat < 8 := by omega
  have hbyte : ((k.setAllocated idx b).heapBitmap (c / 8)) =
      if c / 8 = idx / 8 then
        (if b then k.heapBitmap (idx / 8) ||| (1#8 <<< (idx % 8).toNat)
        else k.heapBitmap (idx / 8) &&& ~~~ (1#8 <<< (idx % 8).toNat))
      else k.heapBitmap (c / 8) := by
    simp only [setAllocated, Function.update_apply]
  rw [isAllocated_eq_getLsbD, isAllocated_eq_getLsbD, hbyte]
  by_cases hsame : c / 8 = idx / 8
  · rw [if_pos hsame, hsame]
    have hlt : (c % 8).toNat < 8 := by omega
    by_cases hc : c = idx
    · subst hc
      rw [if_pos rfl]
      cases b with
      | true => simp [getLsbD_bit hn]
      | false => simp [getLsbD_bit hn]
    · have hne : ¬ (c % 8).toNat = (idx % 8).toNat := by omega
      rw [if_neg hc]
      cases b with
      | true => simp [getLsbD_bit hn, hne]
      | false =>
          simp only [Bool.false_eq_true, if_false]
          rw [BitVec.getLsbD_and, BitVec.getLsbD_not, getLsbD_bit hn]
          simp [hne, hlt]
  · have hc : ¬ c = idx := by
      intro heq
      exact hsame (by rw [heq])
    rw [if_neg hsame, if_neg hc]

theorem setAllocatedRange_tasks (k : Kernel sd) (start size : Int) (b : Bool) :
    (k.setAllocatedRange start size b).tasks = k.tasks :=
  forLoop_view k Kernel.tasks fun _ _ _ => rfl

@[simp] theorem records_setAllocatedRange (k : Kernel sd) (start size : Int) (b : Bool) :
    (k.setAllocatedRange start size b).records = k.records.mark start size b := by
  have htask := k.setAllocatedRange_tasks start size b
  have hlog : (k.setAllocatedRange start size b).log = k.log :=
    forLoop_view k Kernel.log fun _ _ _ => rfl
  have hbits : forall c, (k.setAllocatedRange start size b).isAllocated c =
      if start <= c ∧ c < start + (size.toNat : Int) then b else k.isAllocated c := by
    apply forLoop_invariant (fun i k' => forall c, Kernel.isAllocated k' c =
      if start <= c ∧ c < start + (i : Int) then b else k.isAllocated c)
    · intro c
      rw [if_neg (by omega)]
    · intro i k' _ hk' c
      rw [isAllocated_setAllocated, hk' c]
      by_cases hc : c = start + i
      · rw [if_pos hc, if_pos (by omega)]
      · rw [if_neg hc]
        by_cases hin : start <= c ∧ c < start + (i : Int)
        · rw [if_pos hin, if_pos (by omega)]
        · rw [if_neg hin, if_neg (by omega)]
  apply Records.ext
  · simp [records, htask]
  · funext c
    have hsame : (start <= c ∧ c < start + (size.toNat : Int)) <->
        (start <= c ∧ c < start + size) := by omega
    simp only [records, Records.mark, hbits c, hsame]
  · simp [records, hlog]

end Kernel
end ArduOS
