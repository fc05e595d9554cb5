import ArduOS.Kernel.Directories
import ArduOS.Kernel.Messages

/-!
# Absolute paths

As long as no request leads the daemon into a directory that `cwd` has no room for, its
working directory stays well formed and printable, whatever directories programs enter.
-/

namespace ArduOS

open Library

structure AbsoluteCwd (path : List Byte) : Prop extends WellFormedCwd path where
  noNul : 0#8 ∉ path

theorem absoluteCwd_root : AbsoluteCwd (text "/") := ⟨wellFormedCwd_root, by decide⟩

section Paths

variable {path rest : List Byte}

theorem head?_of_beginning (h : rest <+: path) (hne : rest ≠ [])
    (hpath : path.head? = some (ascii '/')) : rest.head? = some (ascii '/') := by
  rcases h with ⟨tail, rfl⟩
  rwa [List.head?_append_of_ne_nil _ hne] at hpath

theorem noNul_of_beginning (h : rest <+: path) (hpath : 0#8 ∉ path) : 0#8 ∉ rest :=
  fun hmem => hpath (h.subset hmem)

theorem parentPath_absolute (hstarts : path.head? = some (ascii '/'))
    (hnul : 0#8 ∉ path) :
    (Kernel.parentPath path).head? = some (ascii '/') ∧ 0#8 ∉ Kernel.parentPath path := by
  have hroot : (text "/").head? = some (ascii '/') ∧ 0#8 ∉ text "/" := by decide
  have hpart : (if path.length > 1 ∧ path.getLast? = some (ascii '/') then path.dropLast
      else path) <+: path := by
    split
    · exact List.dropLast_prefix path
    · exact List.prefix_rfl
  unfold Kernel.parentPath
  simp only
  generalize (if path.length > 1 ∧ path.getLast? = some (ascii '/') then path.dropLast
    else path) = part at hpart ⊢
  split
  · split
    · exact hroot
    · rename_i i _ hslash
      -- what is in front of the last slash is not empty
      have hprefix := (List.take_prefix (part.length - 1 - i) part).trans hpart
      refine ⟨head?_of_beginning hprefix ?_ hstarts, noNul_of_beginning hprefix hnul⟩
      intro hnil
      rcases List.take_eq_nil_iff.mp hnil with hzero | hempty
      · exact hslash hzero
      · apply hslash
        rw [hempty]
        exact Nat.zero_sub i
  · exact hroot

theorem withSep_noNul (hnul : 0#8 ∉ path) : 0#8 ∉ withSep (ascii '/') path := by
  unfold withSep
  split
  · rw [List.mem_append, not_or]
    exact ⟨hnul, by decide⟩
  · exact hnul

theorem enteredCwd_printable (hstarts : path.head? = some (ascii '/'))
    (hnul : 0#8 ∉ path) :
    (Kernel.enteredCwd path).head? = some (ascii '/') ∧ 0#8 ∉ Kernel.enteredCwd path ∧
      (Kernel.enteredCwd path).length <= 32 := by
  have hne : path.take 31 ≠ [] := by
    intro hnil
    rcases List.take_eq_nil_iff.mp hnil with hzero | hempty
    · cases hzero
    · rw [hempty] at hstarts
      cases hstarts
  have hprefix := List.take_prefix 31 path
  have hhead := head?_of_beginning hprefix hne hstarts
  rw [Kernel.enteredCwd_eq]
  refine ⟨head?_withSep hhead, withSep_noNul (noNul_of_beginning hprefix hnul), ?_⟩
  have hlength : (path.take 31).length <= 31 := List.length_take_le ..
  unfold withSep
  split
  · rw [List.length_append, List.length_singleton]
    omega
  · omega

end Paths

namespace Kernel

variable {sd : SdFat} {k : Kernel sd} {t : TaskId}

theorem chdirTarget_absolute (h : AbsoluteCwd (k.tasks t).cwd) {path : List Byte}
    (hpath : 0#8 ∉ path) :
    (k.chdirTarget t path).head? = some (ascii '/') ∧ 0#8 ∉ k.chdirTarget t path := by
  unfold chdirTarget
  split
  · exact parentPath_absolute h.starts h.noNul
  · split
    · exact ⟨h.starts, h.noNul⟩
    · unfold resolvePath
      split
      · rename_i habsolute
        exact ⟨habsolute, hpath⟩
      · simp only
        split
        · rw [List.append_assoc, List.head?_append, h.starts]
          refine ⟨rfl, ?_⟩
          rw [List.mem_append, List.mem_append, not_or, not_or]
          exact ⟨h.noNul, by decide, hpath⟩
        · rw [List.head?_append, h.starts]
          refine ⟨rfl, ?_⟩
          rw [List.mem_append, not_or]
          exact ⟨h.noNul, hpath⟩

theorem syscallChdir_absolute (h : AbsoluteCwd (k.tasks t).cwd) (hfit : TargetFits k t) :
    AbsoluteCwd ((k.syscallChdir t).tasks t).cwd := by
  have hcorrect := (chdirCorrect_iff h.toWellFormedCwd).mpr hfit
  refine ⟨hcorrect.wellFormed h.toWellFormedCwd, ?_⟩
  by_cases harg : k.operand t 0 = 0
  · rw [(syscallChdir_none harg).caller]
    exact h.noNul
  · by_cases henter : k.Enterable (k.chdirGoal t)
    · rw [(syscallChdir_entered harg henter).caller]
      rcases chdirTarget_absolute h (noNul_cString _) with ⟨hstarts, hnul⟩
      exact (enteredCwd_printable hstarts hnul).right.left
    · rw [(syscallChdir_refused harg henter).caller]
      exact h.noNul

/-!
## Runs
-/

def DaemonAbsolute (u : TaskId) (task : Task sd) : Prop := u = 0 -> AbsoluteCwd task.cwd

/-- No program is ever loaded into the slot of the daemon. -/
theorem daemonAbsolute_bears (t : TaskId) : @Bears sd DaemonAbsolute t := by
  constructor
  · intro task task' hcwd h hu
    rw [hcwd]
    exact h hu
  · intro u c task _ h
    exact h
  · intro k child _ hchild _ task _ hu
    exact absurd hu hchild

/-- A step in which the daemon's `cwd` has room for where a request leads it. -/
def DaemonFits (k : Kernel sd) (e : Event) : Prop := k.current = 0 -> TargetsFit k e

theorem step_absolute {e : Event} (hfit : DaemonFits k e)
    (h : AbsoluteCwd (k.tasks 0).cwd) : AbsoluteCwd ((k.step e).tasks 0).cwd := by
  cases e with
  | arrive bytes => exact h
  | tick => exact h
  | turn =>
      have hstands : Stands DaemonAbsolute k.systemTicks k :=
        ⟨fun u hu => by rw [hu]; exact h, rfl⟩
      have hturn : Stands DaemonAbsolute k.systemTicks (k.schedule k.current) := by
        apply schedule_stands (daemonAbsolute_bears k.current) hstands
        intro k' hcall hk'
        rcases k'.syscallChdir_others k.current with ⟨hothers, hticks⟩
        refine ⟨?_, hticks.trans hk'.ticks⟩
        intro v
        by_cases hv : v = k.current
        · rw [hv]
          intro hdaemon
          exact syscallChdir_absolute (hk'.each k.current hdaemon)
            (hfit hdaemon rfl k' hcall)
        · rw [hothers v hv]
          exact hk'.each v
      exact hturn.each 0 rfl

theorem boot_cwd (card : sd.Card) (u : TaskId) : ((boot card).tasks u).cwd = text "/" := by
  unfold boot setup
  simp only
  rw [stdWrite_tasks]
  exact init_cwd _ u

/-- The states of the runs in which all steps are such. -/
inductive ReachableFitting (k : Kernel sd) : Prop where
  | run (card : sd.Card) (events : List Event)
      (hfit : AllSteps step DaemonFits (boot card) events) (h : k = (boot card).run events)

theorem ReachableFitting.reachable (h : ReachableFitting k) : Reachable k := by
  cases h with
  | run card events _ hk => exact .run card events hk

theorem ReachableFitting.absolute (h : ReachableFitting k) :
    AbsoluteCwd (k.tasks 0).cwd := by
  cases h with
  | run card events hfit hk =>
      rw [hk]
      apply AllSteps.preserves (fun k => AbsoluteCwd (Kernel.tasks k 0).cwd)
        (fun k e hok h => step_absolute hok h) events (boot card) hfit
      rw [boot_cwd]
      exact absoluteCwd_root

end Kernel
end ArduOS
