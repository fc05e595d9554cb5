import ArduOS.Kernel.Bystanders
import ArduOS.Kernel.SyscallBounds

/-!
# What chdir does

The path that is read, the directory it stands for, whether that one opens, and
the working directory afterwards.
-/

namespace ArduOS

open Library

namespace Kernel

variable {sd : SdFat}

def chdirPath (k : Kernel sd) (t : TaskId) : List Byte :=
  cString (k.readString 31 belowHeapSize isNull (k.getPhysAddr t (k.operand t 0))).1

/-- The directory the path stands for: the `target_path` of the source. -/
def chdirGoal (k : Kernel sd) (t : TaskId) : List Byte := k.chdirTarget t (k.chdirPath t)

/-- A target can be entered: it is the root, or opens as a directory. -/
def Enterable (k : Kernel sd) (target : List Byte) : Prop :=
  target = text "/" ∨ exists dir, (sd.openPath k.card target).1 = some dir ∧
    sd.isDirectory dir = true

theorem chdirCheck_fst (k : Kernel sd) (target : List Byte) :
    (k.chdirCheck target).1 = true <-> k.Enterable target := by
  unfold chdirCheck Enterable
  by_cases hroot : target = text "/"
  · simp [hroot]
  · rw [if_neg hroot]
    simp only [hroot, false_or]
    exact Option.any_eq_true ..

theorem readString_fst_congr {k k' : Kernel sd} (hheap : k'.globalHeap = k.globalHeap)
    (n : Nat) (inRange stop : Int -> Bool) (addr : Int) :
    (k'.readString n inRange stop addr).1 = (k.readString n inRange stop addr).1 := by
  rw [readString_fst, readString_fst, hheap]

theorem chdirTarget_congr {k k' : Kernel sd} {t : TaskId}
    (hcwd : (k'.tasks t).cwd = (k.tasks t).cwd) (path : List Byte) :
    k'.chdirTarget t path = k.chdirTarget t path := by
  unfold chdirTarget resolvePath
  rw [hcwd]

theorem chdirEnter_task (k : Kernel sd) (t : TaskId) (target : List Byte) :
    (k.chdirEnter t target).tasks t = { k.tasks t with cwd := enteredCwd target } ∧
      (forall u, u ≠ t -> (k.chdirEnter t target).tasks u = k.tasks u) ∧
      (k.chdirEnter t target).systemTicks = k.systemTicks ∧
      (k.chdirEnter t target).globalHeap = k.globalHeap := by
  refine ⟨?_, ?_, rfl, rfl⟩
  · unfold chdirEnter enteredCwd
    simp [modifyTask]
  · intro u hu
    unfold chdirEnter
    simp [modifyTask, hu]

structure ChangedTo (k k' : Kernel sd) (t : TaskId) (cwd : List Byte) : Prop where
  caller : k'.tasks t = { k.tasks t with sp := (k.tasks t).sp - 2, cwd := cwd }
  others : forall u, u ≠ t -> k'.tasks u = k.tasks u
  ticks : k'.systemTicks = k.systemTicks

section Call

variable {k k' k'' : Kernel sd} {t : TaskId}

theorem ChangedTo.of_tasks {cwd : List Byte} (h : ChangedTo k k' t cwd)
    (htasks : k''.tasks = k'.tasks) (hticks : k''.systemTicks = k'.systemTicks) :
    ChangedTo k k'' t cwd :=
  ⟨by rw [htasks]; exact h.caller, by rw [htasks]; exact h.others, hticks.trans h.ticks⟩

/-- Before the target is looked at: both operands are taken, and the path is read. -/
structure PathRead (k k' : Kernel sd) (t : TaskId) : Prop where
  changed : ChangedTo k k' t (k.tasks t).cwd
  heap : k'.globalHeap = k.globalHeap
  card : k'.card = k.card

theorem PathRead.cwd (h : PathRead k k' t) : (k'.tasks t).cwd = (k.tasks t).cwd := by
  rw [h.changed.caller]

theorem PathRead.getPhysAddr (h : PathRead k k' t) (addr : Int) :
    k'.getPhysAddr t addr = k.getPhysAddr t addr := by
  apply getPhysAddr_congr
  · rw [h.changed.caller]
  · rw [h.changed.caller]

theorem stackPops_pathRead (k : Kernel sd) (t : TaskId) :
    PathRead k ((k.stackPop t).2.stackPop t).2 t := by
  have hown := (stackPop_own k t).trans (stackPop_own _ t)
  refine ⟨⟨?_, hown.others, hown.ticks⟩, rfl, rfl⟩
  have hsp : (k.tasks t).sp - 1 - 1 = (k.tasks t).sp - 2 := by omega
  simp [stackPop, modifyTask, hsp]

theorem readString_pathRead (h : PathRead k k' t) (n : Nat) (inRange stop : Int -> Bool)
    (addr : Int) : PathRead k (k'.readString n inRange stop addr).2 t := by
  have htouches := readString_touches (R := fun _ => True) (W := fun _ => True) k' n
    inRange stop addr fun _ _ _ _ => trivial
  have hown := readString_own k' t n inRange stop addr
  exact ⟨h.changed.of_tasks htouches.tasks hown.ticks,
    (readString_globalHeap k' n inRange stop addr).trans h.heap, htouches.card.trans h.card⟩

theorem chdirCheck_keeps (h : PathRead k k' t) (target : List Byte) :
    ((k'.chdirCheck target).1 = true <-> k.Enterable target) ∧
      ChangedTo k (k'.chdirCheck target).2 t (k.tasks t).cwd ∧
      (k'.chdirCheck target).2.globalHeap = k.globalHeap := by
  constructor
  · rw [chdirCheck_fst, Enterable, Enterable, h.card]
  · unfold chdirCheck
    split
    · exact ⟨h.changed, h.heap⟩
    · exact ⟨h.changed.of_tasks rfl rfl, h.heap⟩

theorem syscallChdir_checked (k : Kernel sd) (t : TaskId) (harg : k.operand t 0 ≠ 0) :
    exists k' : Kernel sd, ChangedTo k k' t (k.tasks t).cwd ∧
      k'.globalHeap = k.globalHeap ∧
      (k.Enterable (k.chdirGoal t) -> k.syscallChdir t =
        if k.operand t 1 ≠ 0 then
          (k'.chdirEnter t (k.chdirGoal t)).writeString (k.getPhysAddr t (k.operand t 1))
            (enteredCwd (k.chdirGoal t))
        else k'.chdirEnter t (k.chdirGoal t)) ∧
      (¬ k.Enterable (k.chdirGoal t) -> k.syscallChdir t =
        if k.operand t 1 ≠ 0 then
          k'.heapSetBelow (k.getPhysAddr t (k.operand t 1)) (-1)
        else k') := by
  have hpops := stackPops_pathRead k t
  have hphys := hpops.getPhysAddr
  rw [syscallChdir_eq]
  generalize ((k.stackPop t).2.stackPop t).2 = k₁ at hpops hphys ⊢
  unfold chdirWith
  rw [if_neg harg, hphys]
  have hpath : (k₁.readString 31 belowHeapSize isNull
      (k.getPhysAddr t (k.operand t 0))).1 = (k.readString 31 belowHeapSize isNull
        (k.getPhysAddr t (k.operand t 0))).1 :=
    readString_fst_congr hpops.heap _ _ _ _
  have hread := readString_pathRead hpops 31 belowHeapSize isNull
    (k.getPhysAddr t (k.operand t 0))
  generalize k₁.readString 31 belowHeapSize isNull (k.getPhysAddr t (k.operand t 0)) =
    read at hpath hread ⊢
  rcases read with ⟨pathStr, k₂⟩
  simp only at hpath hread ⊢
  have hgoal : k₂.chdirTarget t (cString pathStr) = k.chdirGoal t := by
    rw [chdirTarget_congr hread.cwd, hpath]
    rfl
  rw [hgoal]
  rcases chdirCheck_keeps hread (k.chdirGoal t) with ⟨henter, hchanged, hheap⟩
  generalize k₂.chdirCheck (k.chdirGoal t) = checked at henter hchanged hheap ⊢
  rcases checked with ⟨success, k₃⟩
  simp only at henter hchanged hheap ⊢
  have hphys₃ : forall addr, k₃.getPhysAddr t addr = k.getPhysAddr t addr := by
    intro addr
    apply getPhysAddr_congr
    · rw [hchanged.caller]
    · rw [hchanged.caller]
  refine ⟨k₃, hchanged, hheap, ?_, ?_⟩
  · intro h
    rw [if_pos (henter.mpr h)]
    have hcaller := (k₃.chdirEnter_task t (k.chdirGoal t)).left
    have hentered : ((k₃.chdirEnter t (k.chdirGoal t)).tasks t).cwd =
        enteredCwd (k.chdirGoal t) := by
      rw [hcaller]
    have haddr : (k₃.chdirEnter t (k.chdirGoal t)).getPhysAddr t (k.operand t 1) =
        k.getPhysAddr t (k.operand t 1) := by
      rw [← hphys₃]
      apply getPhysAddr_congr
      · rw [hcaller]
      · rw [hcaller]
    rw [hentered, haddr]
  · intro h
    rw [if_neg (fun hsuccess => h (henter.mp hsuccess)), hphys₃]

theorem chdirEnter_changed (h : ChangedTo k k' t (k.tasks t).cwd) (target : List Byte) :
    ChangedTo k (k'.chdirEnter t target) t (enteredCwd target) := by
  rcases k'.chdirEnter_task t target with ⟨hcaller, hothers, hticks, _⟩
  refine ⟨?_, fun u hu => (hothers u hu).trans (h.others u hu), hticks.trans h.ticks⟩
  rw [hcaller, h.caller]

theorem syscallChdir_none (harg : k.operand t 0 = 0) :
    ChangedTo k (k.syscallChdir t) t (k.tasks t).cwd := by
  rw [syscallChdir_eq, chdirWith, if_pos harg]
  exact (stackPops_pathRead k t).changed

theorem syscallChdir_entered (harg : k.operand t 0 ≠ 0)
    (henter : k.Enterable (k.chdirGoal t)) :
    ChangedTo k (k.syscallChdir t) t (enteredCwd (k.chdirGoal t)) := by
  rcases k.syscallChdir_checked t harg with ⟨k', hchanged, _, hentered, _⟩
  have hin := chdirEnter_changed hchanged (k.chdirGoal t)
  rw [hentered henter]
  split
  · have htouches := writeString_touches (R := fun _ => True) (W := fun _ => True)
      (k'.chdirEnter t (k.chdirGoal t)) (k.getPhysAddr t (k.operand t 1))
      (enteredCwd (k.chdirGoal t)) fun _ _ _ => trivial
    exact hin.of_tasks htouches.tasks (writeString_own _ t _ _).ticks
  · exact hin

theorem syscallChdir_refused (harg : k.operand t 0 ≠ 0)
    (hrefused : ¬ k.Enterable (k.chdirGoal t)) :
    ChangedTo k (k.syscallChdir t) t (k.tasks t).cwd := by
  rcases k.syscallChdir_checked t harg with ⟨k', hchanged, _, _, hleft⟩
  rw [hleft hrefused]
  split
  · have htouches := heapSetBelow_touches (R := fun _ => True) (W := fun _ => True) k'
      (c := k.getPhysAddr t (k.operand t 1)) (-1) fun _ => trivial
    exact hchanged.of_tasks htouches.tasks (heapSetBelow_own k' t _ _).ticks
  · exact hchanged

theorem syscallChdir_others (k : Kernel sd) (t : TaskId) :
    (forall u, u ≠ t -> (k.syscallChdir t).tasks u = k.tasks u) ∧
      (k.syscallChdir t).systemTicks = k.systemTicks := by
  by_cases harg : k.operand t 0 = 0
  · have h := syscallChdir_none harg
    exact ⟨h.others, h.ticks⟩
  · by_cases henter : k.Enterable (k.chdirGoal t)
    · have h := syscallChdir_entered harg henter
      exact ⟨h.others, h.ticks⟩
    · have h := syscallChdir_refused harg henter
      exact ⟨h.others, h.ticks⟩

end Call

end Kernel
end ArduOS
