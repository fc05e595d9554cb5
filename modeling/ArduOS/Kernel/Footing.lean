import ArduOS.Kernel.Bystanders
import ArduOS.Kernel.WorkingDirectory

/-!
# What a program stands on

A program goes by its code, its stack and its segment, which the slot keeps for
it.  No instruction of another slot, no request and no interrupt changes them,
as long as the program is there.
-/

namespace ArduOS

open Library

namespace Kernel

variable {sd : SdFat}

/-- What a program in a slot depends on, apart from the contents of its segment. -/
structure Footing (sd : SdFat) where
  active : Bool
  file : Option sd.File
  codeBuffer : Buffer
  bufferIndex : Nat
  stack : Int -> Int
  sp : Int
  heapBase : Int
  heapLimit : Int

end Kernel

def Task.footing {sd : SdFat} (task : Task sd) : Kernel.Footing sd :=
  { active := task.isActive
    file := task.file
    codeBuffer := task.codeBuffer
    bufferIndex := task.bufferIndex
    stack := task.stack
    sp := task.sp
    heapBase := task.heapBase
    heapLimit := task.heapLimit }

namespace Kernel

variable {sd : SdFat}

/-- The program in slot `t` stands on the same in `k'` as in `k`. -/
def Leaves (t : TaskId) (k k' : Kernel sd) : Prop :=
  (k'.tasks t).footing = (k.tasks t).footing

section Leaving

variable {t : TaskId} {k k' k'' : Kernel sd}

theorem Leaves.refl (t : TaskId) (k : Kernel sd) : Leaves t k k := rfl

theorem Leaves.trans (h : Leaves t k k') (h' : Leaves t k' k'') : Leaves t k k'' :=
  Eq.trans h' h

theorem Leaves.of_tasks (h : k'.tasks = k.tasks) : Leaves t k k' := by
  unfold Leaves
  rw [h]

theorem Leaves.active (h : Leaves t k k') :
    (k'.tasks t).isActive = (k.tasks t).isActive :=
  congrArg Footing.active h

theorem Leaves.file (h : Leaves t k k') : (k'.tasks t).file = (k.tasks t).file :=
  congrArg Footing.file h

theorem Leaves.codeBuffer (h : Leaves t k k') :
    (k'.tasks t).codeBuffer = (k.tasks t).codeBuffer :=
  congrArg Footing.codeBuffer h

theorem Leaves.bufferIndex (h : Leaves t k k') :
    (k'.tasks t).bufferIndex = (k.tasks t).bufferIndex :=
  congrArg Footing.bufferIndex h

theorem Leaves.stack (h : Leaves t k k') : (k'.tasks t).stack = (k.tasks t).stack :=
  congrArg Footing.stack h

theorem Leaves.sp (h : Leaves t k k') : (k'.tasks t).sp = (k.tasks t).sp :=
  congrArg Footing.sp h

theorem Touches.leaves {R W : Int -> Prop} (h : Touches R W k k') : Leaves t k k' :=
  .of_tasks h.tasks

theorem modifyTask_leaves (k : Kernel sd) {f : Task sd -> Task sd}
    (hf : (f (k.tasks t)).footing = (k.tasks t).footing) :
    Leaves t k (k.modifyTask t f) := by
  unfold Leaves
  simpa [modifyTask] using hf

theorem stdWrite_leaves (k : Kernel sd) (t : TaskId) (fd : Int) (str : List Byte) :
    Leaves t k (k.stdWrite fd str) :=
  .of_tasks (stdWrite_tasks k fd str)

theorem readString_leaves (k : Kernel sd) (t : TaskId) (n : Nat)
    (inRange stop : Int -> Bool) (addr : Int) :
    Leaves t k (k.readString n inRange stop addr).2 :=
  (readString_touches (R := fun _ => True) (W := fun _ => True) k n inRange stop addr
    fun _ _ _ _ => trivial).leaves

theorem writeString_leaves (k : Kernel sd) (t : TaskId) (addr : Int) (str : List Byte) :
    Leaves t k (k.writeString addr str) :=
  (writeString_touches (R := fun _ => True) (W := fun _ => True) k addr str
    fun _ _ _ => trivial).leaves

theorem wakeUp_leaves (h : k.wakeUp t = some k') : Leaves t k k' := by
  unfold wakeUp at h
  split at h
  · split at h
    · cases h
    · cases h
      exact modifyTask_leaves k rfl
  · cases h
    exact .refl t k

/-!
## System calls, their operands already taken
-/

theorem getcwdWith_leaves (k : Kernel sd) (t : TaskId) (bufAddr : Int) :
    Leaves t k (k.getcwdWith t bufAddr) := by
  unfold getcwdWith
  split
  · exact .refl t k
  · exact writeString_leaves k t _ _

theorem chdirWith_leaves (k : Kernel sd) (t : TaskId) (argAddr bufAddr : Int) :
    Leaves t k (k.chdirWith t argAddr bufAddr) := by
  unfold chdirWith
  split
  · exact .refl t k
  · have hread := readString_leaves k t 31 belowHeapSize isNull (k.getPhysAddr t argAddr)
    generalize k.readString 31 belowHeapSize isNull (k.getPhysAddr t argAddr) = read
      at hread ⊢
    rcases read with ⟨pathStr, k₁⟩
    simp only at hread ⊢
    generalize k₁.chdirTarget t (cString pathStr) = target
    have hcheck : Leaves t k (k₁.chdirCheck target).2 := by
      apply hread.trans
      unfold chdirCheck
      split
      · exact .refl t k₁
      · exact .of_tasks rfl
    generalize k₁.chdirCheck target = checked at hcheck ⊢
    rcases checked with ⟨success, k₂⟩
    simp only at hcheck ⊢
    split
    · have hentered : Leaves t k (k₂.chdirEnter t target) := by
        apply hcheck.trans
        unfold Leaves
        rw [(k₂.chdirEnter_task t target).left]
        rfl
      split
      · exact hentered.trans (writeString_leaves _ t _ _)
      · exact hentered
    · split
      · exact hcheck.trans (heapSetBelow_touches (R := fun _ => True)
          (W := fun _ => True) k₂ (-1) fun _ => trivial).leaves
      · exact hcheck

theorem execWith_leaves (k : Kernel sd) (t : TaskId) (waitOpt cmdAddr argAddr : Int)
    (hactive : (k.tasks t).isActive = true) :
    Leaves t k (k.execWith t waitOpt cmdAddr argAddr) := by
  unfold execWith
  simp only
  have hcmd := readString_leaves k t 31 belowHeapSize isNullOrSpace
    (k.getPhysAddr t cmdAddr)
  generalize k.readString 31 belowHeapSize isNullOrSpace (k.getPhysAddr t cmdAddr) = read
    at hcmd ⊢
  rcases read with ⟨cmdStr, k₁⟩
  simp only at hcmd ⊢
  generalize (if argAddr ≠ 0 then k.getPhysAddr t argAddr else argAddr) = physArg
  have hread : Leaves t k (if physArg ≠ 0 then
      k₁.readString 31 belowHeapSize isNull physArg else ([], k₁)).2 := by
    split
    · exact hcmd.trans (readString_leaves k₁ t 31 belowHeapSize isNull physArg)
    · exact hcmd
  generalize (if physArg ≠ 0 then k₁.readString 31 belowHeapSize isNull physArg
    else ([], k₁)) = readArg at hread ⊢
  rcases readArg with ⟨argStr, k₂⟩
  simp only at hread ⊢
  cases hslot : k₂.freeSlot with
  | none => exact hread.trans (stdWrite_leaves k₂ t _ _)
  | some child =>
      have hne : t ≠ child := by
        rintro rfl
        have hstill := hread.active.trans hactive
        rw [Task.isActive, (freeSlot_spec hslot).right] at hstill
        cases hstill
      simp only [execLoad]
      generalize (if physArg ≠ 0 then some (cString argStr) else none) = arg
      have hothers := (k₂.loadTask_slot child (cString cmdStr) (k₂.tasks t).cwd none
        arg).left t hne
      generalize k₂.loadTask child (cString cmdStr) none (some (k₂.tasks t).cwd) arg =
        loaded at hothers ⊢
      rcases loaded with ⟨success, k₃⟩
      simp only at hothers ⊢
      have hloaded : Leaves t k k₃ := by
        apply hread.trans
        unfold Leaves
        rw [hothers]
      split
      · have hnoted : Leaves t k (k₃.note (.exec t child waitOpt)) := hloaded
        split
        · apply hnoted.trans
          apply modifyTask_leaves
          have hstill := hnoted.active.trans hactive
          unfold Task.footing
          rw [hstill]
          rfl
        · exact hnoted
      · exact hloaded

end Leaving

/-!
## The turns of others
-/

section Others

variable {t : TaskId} {k k' : Kernel sd}

def StandsOn (t : TaskId) (f : Footing sd) (u : TaskId) (task : Task sd) : Prop :=
  u = t -> task.isActive = true ∧ task.footing = f

theorem standsOn_bears {u : TaskId} (f : Footing sd) (hu : u ≠ t) :
    Bears (StandsOn t f) u := by
  constructor
  · intro task task' _ _ heq
    exact absurd heq hu
  · intro v c task hpaused htask heq
    rcases htask heq with ⟨hactive, hfooting⟩
    refine ⟨rfl, ?_⟩
    rw [← hfooting]
    unfold Task.footing
    rw [hactive]
    rfl
  · intro k child hall _ hfree task _ heq
    have hactive := (hall child heq).left
    rw [Task.isActive, hfree] at hactive
    cases hactive

theorem arrive_leaves (k : Kernel sd) (t : TaskId) (bytes : List Byte) :
    Leaves t k (k.step (.arrive bytes)) :=
  .of_tasks rfl

/-- Whatever happens that is no step of its own leaves a program alone. -/
theorem step_leaves (ht : t ≠ 0) (hactive : (k.tasks t).isActive = true) (e : Event)
    (hother : e = .turn -> k.current = t -> k.dispatches t = none) :
    Leaves t k (k.step e) := by
  cases e with
  | arrive bytes => exact arrive_leaves k t bytes
  | tick => exact .of_tasks rfl
  | turn =>
      by_cases hcurrent : k.current = t
      · have hsame : k.schedule t = k := by
          have hnone := hother rfl hcurrent
          unfold dispatches at hnone
          unfold schedule
          split
          · rfl
          · rename_i hrunnable
            rw [if_neg hrunnable, if_neg ht] at hnone
            simp only [hnone]
        apply Leaves.of_tasks
        simp only [step, hcurrent, hsame]
      · have hstands : Stands (StandsOn t (k.tasks t).footing) k.systemTicks k := by
          refine ⟨?_, rfl⟩
          rintro u rfl
          exact ⟨hactive, rfl⟩
        have hturn := schedule_stands (standsOn_bears _ hcurrent) hstands (by
          intro k' _ hk'
          rcases k'.syscallChdir_others k.current with ⟨hothers, hticks⟩
          refine ⟨?_, hticks.trans hk'.ticks⟩
          rintro u rfl
          rw [hothers u (Ne.symm hcurrent)]
          exact hk'.each u rfl)
        exact (hturn.each t rfl).right

end Others

end Kernel
end ArduOS
