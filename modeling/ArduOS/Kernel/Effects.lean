import ArduOS.Kernel.Allocation
import ArduOS.Kernel.Scheduler
import ArduOS.Kernel.Touches

/-!
# Effects

What a piece of code reads and writes: `Effect P` says that it logs only
accesses that `P` permits, changes no other heap cells, takes keyboard input
only if `P` permits that, and keeps stack pointers in bounds.  `Quiet` code
does none of it.
-/

namespace ArduOS

open Library

namespace Kernel

variable {sd : SdFat}

/-!
## Quiet code
-/

/-- No access is logged, and heap, receiver and stack pointers are the same. -/
structure Quiet (k k' : Kernel sd) : Prop where
  log : k'.log = k.log
  heap : k'.globalHeap = k.globalHeap
  hal : k'.hal = k.hal
  sp : forall u, (k'.tasks u).sp = (k.tasks u).sp

variable {k k' k'' : Kernel sd}

theorem Quiet.refl (k : Kernel sd) : Quiet k k := ⟨rfl, rfl, rfl, fun _ => rfl⟩

theorem Quiet.trans (h : Quiet k k') (h' : Quiet k' k'') : Quiet k k'' :=
  ⟨h'.log.trans h.log, h'.heap.trans h.heap, h'.hal.trans h.hal,
    fun u => (h'.sp u).trans (h.sp u)⟩

theorem modifyTask_quiet (k : Kernel sd) (t : TaskId) {f : Task sd -> Task sd}
    (h : (f (k.tasks t)).sp = (k.tasks t).sp) : Quiet k (k.modifyTask t f) := by
  constructor
  · rfl
  · rfl
  · rfl
  · intro u
    by_cases hu : u = t
    · subst hu
      simp [modifyTask, h]
    · simp [modifyTask, hu]

theorem Quiet.modify (h : Quiet k k') (t : TaskId) {f : Task sd -> Task sd}
    (hf : (f (k'.tasks t)).sp = (k'.tasks t).sp) : Quiet k (k'.modifyTask t f) :=
  h.trans (modifyTask_quiet k' t hf)

theorem withCard_quiet (k : Kernel sd) (card : sd.Card) : Quiet k (k.withCard card) :=
  ⟨rfl, rfl, rfl, fun _ => rfl⟩

theorem stdWrite_quiet (k : Kernel sd) (fd : Int) (str : List Byte) :
    Quiet k (k.stdWrite fd str) := by
  rcases stdWrite_eq k fd str with ⟨tx, out, h⟩
  rw [h]
  exact ⟨rfl, rfl, rfl, fun _ => rfl⟩

theorem setAllocatedRange_quiet (k : Kernel sd) (start size : Int) (b : Bool) :
    Quiet k (k.setAllocatedRange start size b) := by
  apply forLoop_preserves (fun k' => Quiet k k') (Quiet.refl k)
  intro i k' _ hk'
  exact hk'.trans ⟨rfl, rfl, rfl, fun _ => rfl⟩

theorem mallocAt_quiet (k : Kernel sd) (t : TaskId) (start size : Int) :
    Quiet k (k.mallocAt t start size).2 := by
  unfold mallocAt
  split
  · simp only
    exact stdWrite_quiet k _ _
  · simp only
    exact (setAllocatedRange_quiet k start size true).modify t rfl

theorem malloc_quiet (k : Kernel sd) (t : TaskId) (size : Int) :
    Quiet k (k.malloc t size).2 := by
  rcases k.malloc_cases t size with ⟨hnone, _⟩ | ⟨start, _, hfound⟩
  · rw [hnone]
    exact Quiet.refl k
  · rw [hfound]
    exact mallocAt_quiet k t start size

theorem free_quiet (k : Kernel sd) (t : TaskId) (ptr : Int) : Quiet k (k.free t ptr) := by
  apply forExit_value_preserves (fun k' => Quiet k k') (Quiet.refl k)
  intro i k' _ hk'
  split
  · simp only [Flow.value]
    exact (hk'.trans (setAllocatedRange_quiet k' ptr _ false)).modify t rfl
  · exact hk'

theorem freeAllocations_quiet (k : Kernel sd) (t : TaskId) :
    Quiet k (k.freeAllocations t) := by
  apply forLoop_preserves (fun k' => Quiet k k') (Quiet.refl k)
  intro i k' _ hk'
  simp only
  split
  · apply (hk'.trans (free_quiet k' t _)).trans
    exact ((stdWrite_quiet _ _ _).trans (stdWrite_quiet _ _ _)).trans
      (stdWrite_quiet _ _ _)
  · exact hk'

theorem freeSegment_quiet (k : Kernel sd) (t : TaskId) : Quiet k (k.freeSegment t) := by
  unfold freeSegment
  split
  · simp only
    exact (setAllocatedRange_quiet k _ _ false).modify t rfl
  · exact Quiet.refl k

theorem wakeWaiting_quiet (k : Kernel sd) (t : TaskId) : Quiet k (k.wakeWaiting t) := by
  constructor
  · rfl
  · rfl
  · rfl
  · intro u
    unfold wakeWaiting
    simp only
    split <;> rfl

theorem closeFile_quiet (k : Kernel sd) (t : TaskId) : Quiet k (k.closeFile t) :=
  modifyTask_quiet k t rfl

theorem terminateTask_quiet (k : Kernel sd) (t : TaskId) :
    Quiet k (k.terminateTask t) := by
  have hfreed := (freeAllocations_quiet k t).trans (freeSegment_quiet _ t)
  have hwoken := hfreed.trans (wakeWaiting_quiet _ t)
  unfold terminateTask
  simp only
  exact (hwoken.modify t rfl).trans (closeFile_quiet _ t)

theorem openFile_quiet (k : Kernel sd) (t : TaskId) (path : List Byte) :
    Quiet k (k.openFile t path) := by
  unfold openFile
  simp only
  exact (withCard_quiet k _).modify t rfl

theorem readFile_quiet (k : Kernel sd) (t : TaskId) (n : Nat) :
    Quiet k (k.readFile t n).2 := by
  unfold readFile
  split
  · exact Quiet.refl k
  · simp only
    exact (withCard_quiet k _).modify t rfl

theorem seekFile_quiet (k : Kernel sd) (t : TaskId) (pos : BitVec 32) :
    Quiet k (k.seekFile t pos) := by
  unfold seekFile
  split
  · exact Quiet.refl k
  · simp only
    exact (withCard_quiet k _).modify t rfl

theorem refillBuffer_quiet (k : Kernel sd) (t : TaskId) : Quiet k (k.refillBuffer t) := by
  unfold refillBuffer
  split
  · simp only
    exact (readFile_quiet k t _).modify t rfl
  · exact terminateTask_quiet k t

theorem takeByte_quiet (k : Kernel sd) (t : TaskId) : Quiet k (k.takeByte t).2 := by
  unfold takeByte
  simp only
  exact modifyTask_quiet k t rfl

theorem fetchByte_quiet (k : Kernel sd) (t : TaskId) : Quiet k (k.fetchByte t).2 := by
  unfold fetchByte
  split
  · simp only
    split
    · exact refillBuffer_quiet k t
    · exact (refillBuffer_quiet k t).trans (takeByte_quiet _ t)
  · exact takeByte_quiet k t

theorem fetchInt_quiet (k : Kernel sd) (t : TaskId) : Quiet k (k.fetchInt t).2 :=
  (fetchByte_quiet k t).trans (fetchByte_quiet _ t)

theorem jump_quiet (k : Kernel sd) (t : TaskId) (addr : Int) :
    Quiet k (k.jump t addr) := by
  unfold jump
  exact (seekFile_quiet k t _).modify t rfl

theorem yield_quiet (k : Kernel sd) (t : TaskId) : Quiet k (k.yield t) :=
  modifyTask_quiet k t rfl

theorem wakeUp_quiet {t : TaskId} (h : k.wakeUp t = some k') : Quiet k k' := by
  unfold wakeUp at h
  split at h
  · split at h
    · cases h
    · cases h
      exact modifyTask_quiet k t rfl
  · cases h
    exact Quiet.refl k

theorem prepareTask_quiet (k : Kernel sd) (id : TaskId)
    (argStr parentCwd parentArgStr : Option (List Byte)) :
    Quiet k (k.prepareTask id argStr parentCwd parentArgStr) := by
  unfold prepareTask
  exact (closeFile_quiet k id).modify id rfl

theorem allocSegment_quiet (k : Kernel sd) (id : TaskId) (size : Int) :
    Quiet k (k.allocSegment id size).2 := by
  rcases k.allocSegment_cases id size with ⟨hnone, _⟩ | ⟨start, _, hfound⟩
  · rw [hnone]
    exact Quiet.refl k
  · rw [hfound]
    simp only
    exact (setAllocatedRange_quiet k start size true).modify id rfl

theorem failLoad_quiet (k : Kernel sd) (id : TaskId) (message : List Byte) :
    Quiet k (k.failLoad id message) := by
  unfold failLoad
  exact ((stdWrite_quiet k _ _).trans (closeFile_quiet _ id)).modify id rfl

/-!
## Permitted accesses
-/

def StacksInBounds (k : Kernel sd) : Prop :=
  forall u, -1 <= (k.tasks u).sp ∧ (k.tasks u).sp < VM_STACK_SIZE

def InStacks (P : Access -> Prop) : Prop :=
  forall u, forall i : Int, P (.stack u i) -> 0 <= i ∧ i < VM_STACK_SIZE

structure Effect (P : Access -> Prop) (k k' : Kernel sd) : Prop where
  logged : exists new, k'.log = k.log ++ new ∧ forall a, a ∈ new -> P a
  heap : forall c, ¬ P (.heapWrite c) -> k'.globalHeap c = k.globalHeap c
  hal : (forall val, ¬ P (.stdin val)) -> k'.hal = k.hal
  bounds : InStacks P -> StacksInBounds k -> StacksInBounds k'

variable {P P' : Access -> Prop}

theorem Quiet.bounds (h : Quiet k k') (hk : StacksInBounds k) : StacksInBounds k' := by
  intro u
  rw [h.sp u]
  exact hk u

theorem Quiet.effect (h : Quiet k k') : Effect P k k' :=
  ⟨⟨[], by simp [h.log], by simp⟩, fun _ _ => by rw [h.heap], fun _ => h.hal,
    fun _ => h.bounds⟩

theorem Effect.refl (k : Kernel sd) : Effect P k k := (Quiet.refl k).effect

theorem Effect.trans (h : Effect P k k') (h' : Effect P k' k'') : Effect P k k'' := by
  rcases h.logged with ⟨new, hlog, hnew⟩
  rcases h'.logged with ⟨new', hlog', hnew'⟩
  constructor
  · refine ⟨new ++ new', ?_, ?_⟩
    · rw [hlog', hlog, List.append_assoc]
    · intro a ha
      rcases List.mem_append.mp ha with hin | hin
      · exact hnew a hin
      · exact hnew' a hin
  · intro c hc
    rw [h'.heap c hc, h.heap c hc]
  · intro hstdin
    rw [h'.hal hstdin, h.hal hstdin]
  · exact fun hP hk => h'.bounds hP (h.bounds hP hk)

theorem Effect.quiet (h : Effect P k k') (h' : Quiet k' k'') : Effect P k k'' :=
  h.trans h'.effect

theorem Touches.effect {R W : Int -> Prop} (h : Touches R W k k')
    (hR : forall c, R c -> P (.heapRead c)) (hW : forall c, W c -> P (.heapWrite c)) :
    Effect P k k' := by
  have hsp : forall u, (k'.tasks u).sp = (k.tasks u).sp := by
    intro u
    rw [h.tasks]
  constructor
  · rcases h.changed with ⟨heap, new, tx, out, rfl, hnew⟩
    refine ⟨new, rfl, ?_⟩
    intro a ha
    cases hnew a ha with
    | read c hc => exact hR c hc
    | write c hc => exact hW c hc
  · intro c hc
    exact h.kept c fun hw => hc (hW c hw)
  · intro _
    exact h.hal
  · intro _ hk u
    rw [hsp u]
    exact hk u

theorem note_effect (k : Kernel sd) {a : Access} (h : P a) : Effect P k (k.note a) := by
  constructor
  · refine ⟨[a], rfl, ?_⟩
    intro b hb
    rw [List.mem_singleton.mp hb]
    exact h
  · intro _ _
    rfl
  · intro _
    rfl
  · exact fun _ => id

theorem modifyTask_effect (k : Kernel sd) (t : TaskId) {f : Task sd -> Task sd}
    (h : InStacks P -> StacksInBounds k -> -1 <= (f (k.tasks t)).sp ∧
      (f (k.tasks t)).sp < VM_STACK_SIZE) : Effect P k (k.modifyTask t f) := by
  constructor
  · exact ⟨[], by simp [modifyTask], by simp⟩
  · intro _ _
    rfl
  · intro _
    rfl
  · intro hP hk u
    by_cases hu : u = t
    · subst hu
      simpa [modifyTask] using h hP hk
    · simpa [modifyTask, hu] using hk u

/-!
## The stack
-/

@[simp] theorem note_tasks (k : Kernel sd) (a : Access) : (k.note a).tasks = k.tasks := rfl

@[simp] theorem stackPop_sp (k : Kernel sd) (t : TaskId) :
    ((k.stackPop t).2.tasks t).sp = (k.tasks t).sp - 1 := by
  simp [stackPop, modifyTask]

@[simp] theorem stackPush_sp (k : Kernel sd) (t : TaskId) (val : Int) :
    ((k.stackPush t val).tasks t).sp = (k.tasks t).sp + 1 := by
  simp [stackPush, modifyTask]

theorem stackTop_effect (k : Kernel sd) {t : TaskId}
    (h : P (.stack t (k.tasks t).sp)) : Effect P k (k.stackTop t).2 :=
  note_effect k h

theorem stackPop_effect (k : Kernel sd) {t : TaskId}
    (h : P (.stack t (k.tasks t).sp)) : Effect P k (k.stackPop t).2 := by
  unfold stackPop
  simp only
  apply (note_effect k h).trans
  apply modifyTask_effect
  intro hP _
  have hindex := hP t _ h
  simp only [note_tasks]
  omega

theorem stackPush_effect (k : Kernel sd) {t : TaskId} (val : Int)
    (h : P (.stack t ((k.tasks t).sp + 1))) : Effect P k (k.stackPush t val) := by
  unfold stackPush
  simp only
  apply (note_effect k h).trans
  apply modifyTask_effect
  intro hP _
  have hindex := hP t _ h
  simp only [note_tasks]
  omega

theorem stackDrop_effect (k : Kernel sd) {t : TaskId} (hsp : 0 <= (k.tasks t).sp) :
    Effect P k (k.stackDrop t) := by
  apply modifyTask_effect
  intro _ hk
  have hbound := (hk t).right
  simp only
  omega

end Kernel
end ArduOS
