import ArduOS.Kernel.CardImage
import ArduOS.Kernel.StackBounds
import ArduOS.Kernel.WorkingDirectory
import ArduOS.Library.Paths

/-!
# Working directories

A working directory begins and ends with a slash and leaves room for its NUL.
`Syscall_chdir` checks the target it has put together, cuts this to 31
characters and then adds a slash: that gives the directory that was checked
exactly if the target with its slash has 31 characters at most.

In front of a stack lies the `cwd` of its task, and a system call that lacks
operands leads there.  So the runs are those in which every call has them.
-/

namespace ArduOS

open Library

/-- What a `cwd` of 32 characters has to be. -/
structure WellFormedCwd (path : List Byte) : Prop where
  fits : path.length < 32
  starts : path.head? = some (ascii '/')
  ends : path.getLast? = some (ascii '/')

theorem wellFormedCwd_root : WellFormedCwd (text "/") := by
  constructor <;> decide

def HasRoom (path : List Byte) : Prop :=
  path.length + (if path.getLast? = some (ascii '/') then 0 else 1) <= 31

instance (path : List Byte) : Decidable (HasRoom path) :=
  inferInstanceAs (Decidable (_ <= 31))

namespace Kernel

variable {sd : SdFat}

theorem enteredCwd_eq (target : List Byte) :
    enteredCwd target = withSep (ascii '/') (target.take 31) := rfl

theorem enteredCwd_iff {target : List Byte} (h : target.head? = some (ascii '/')) :
    (WellFormedCwd (enteredCwd target) ∧ enteredCwd target = withSep (ascii '/') target) <->
      HasRoom target := by
  unfold HasRoom
  rw [← length_withSep h]
  constructor
  · rintro ⟨hformed, hsame⟩
    rw [← hsame]
    have hfits := hformed.fits
    omega
  · intro hroom
    have hlen := length_le_withSep (ascii '/') target
    have hall : target.take 31 = target := List.take_of_length_le (by omega)
    rw [enteredCwd_eq, hall]
    exact ⟨⟨by omega, head?_withSep h, getLast?_withSep h⟩, rfl⟩

/-!
## Targets
-/

section Targets

variable {path front rest : List Byte}

theorem parentPath_eq (hsplit : withoutSep (ascii '/') path = front ++ ascii '/' :: rest)
    (hrest : ascii '/' ∉ rest) :
    parentPath path = if front = [] then text "/" else front := by
  have hlast : (front ++ ascii '/' :: rest).reverse.findIdx? (fun c => c = ascii '/') =
      some rest.length := findIdx?_reverse_last hrest
  have hlen : (front ++ ascii '/' :: rest).length - 1 - rest.length = front.length := by
    simp only [List.length_append, List.length_cons]
    omega
  have hstrip : (if path.length > 1 ∧ path.getLast? = some (ascii '/') then path.dropLast
      else path) = front ++ ascii '/' :: rest := hsplit
  unfold parentPath
  simp only [hstrip, hlast, hlen, List.take_left, List.length_eq_zero_iff]

theorem parentPath_wellFormed (h : WellFormedCwd path) :
    (parentPath path).head? = some (ascii '/') ∧ HasRoom (parentPath path) := by
  have hhead := head?_withoutSep h.starts
  have hlen := withoutSep_length (ascii '/') path
  have hfits := h.fits
  rcases split_last (List.mem_of_mem_head? hhead) with ⟨front, rest, hsplit, hrest⟩
  rw [parentPath_eq hsplit hrest]
  split
  · decide
  · rename_i hfront
    constructor
    · rwa [hsplit, List.head?_append_of_ne_nil _ hfront] at hhead
    · rw [hsplit] at hlen
      simp only [List.length_append, List.length_cons] at hlen
      unfold HasRoom
      split <;> omega

end Targets

def namedPath (cwd path : List Byte) : List Byte :=
  if path.head? = some (ascii '/') then path else cwd ++ path

theorem head?_namedPath {cwd path : List Byte} (h : WellFormedCwd cwd) :
    (namedPath cwd path).head? = some (ascii '/') := by
  unfold namedPath
  split
  · assumption
  · rw [List.head?_append, h.starts]
    rfl

section Goals

variable {k : Kernel sd} {t : TaskId}

theorem chdirGoal_named (h : WellFormedCwd (k.tasks t).cwd) (hup : k.chdirPath t ≠ text "..")
    (hhere : k.chdirPath t ≠ text ".") :
    k.chdirGoal t = namedPath (k.tasks t).cwd (k.chdirPath t) := by
  unfold chdirGoal chdirTarget resolvePath namedPath
  rw [if_neg hup, if_neg hhere]
  split
  · rfl
  · simp [h.ends]

theorem chdirGoal_up (h : WellFormedCwd (k.tasks t).cwd) (hup : k.chdirPath t = text "..") :
    (k.chdirGoal t).head? = some (ascii '/') ∧ HasRoom (k.chdirGoal t) := by
  unfold chdirGoal chdirTarget
  rw [if_pos hup]
  exact parentPath_wellFormed h

theorem chdirGoal_here (h : WellFormedCwd (k.tasks t).cwd)
    (hhere : k.chdirPath t = text ".") :
    (k.chdirGoal t).head? = some (ascii '/') ∧ HasRoom (k.chdirGoal t) := by
  have hgoal : k.chdirGoal t = (k.tasks t).cwd := by
    unfold chdirGoal chdirTarget
    rw [hhere, if_neg (by decide), if_pos rfl]
  have hfits := h.fits
  rw [hgoal]
  refine ⟨h.starts, ?_⟩
  unfold HasRoom
  rw [if_pos h.ends]
  omega

end Goals

/-!
## One call
-/

/-- The call does what it is for: it enters the directory it checked, or changes nothing. -/
structure ChdirCorrect (k : Kernel sd) (t : TaskId) : Prop where
  entered : k.operand t 0 ≠ 0 -> k.Enterable (k.chdirGoal t) ->
    WellFormedCwd ((k.syscallChdir t).tasks t).cwd ∧
      ((k.syscallChdir t).tasks t).cwd = withSep (ascii '/') (k.chdirGoal t)
  refused : k.operand t 0 = 0 ∨ ¬ k.Enterable (k.chdirGoal t) ->
    ((k.syscallChdir t).tasks t).cwd = (k.tasks t).cwd

/-- The directory the path names has room for a slash, or is not there. -/
def TargetFits (k : Kernel sd) (t : TaskId) : Prop :=
  k.operand t 0 = 0 ∨ k.chdirPath t = text ".." ∨ k.chdirPath t = text "." ∨
    HasRoom (namedPath (k.tasks t).cwd (k.chdirPath t)) ∨
    ¬ k.Enterable (namedPath (k.tasks t).cwd (k.chdirPath t))

section Calls

variable {k : Kernel sd} {t : TaskId}

theorem targetFits_iff (h : WellFormedCwd (k.tasks t).cwd) :
    TargetFits k t <->
      k.operand t 0 = 0 ∨ ¬ k.Enterable (k.chdirGoal t) ∨ HasRoom (k.chdirGoal t) := by
  unfold TargetFits
  by_cases hup : k.chdirPath t = text ".."
  · simp [hup, (chdirGoal_up h hup).right]
  · by_cases hhere : k.chdirPath t = text "."
    · simp [hhere, (chdirGoal_here h hhere).right]
    · rw [chdirGoal_named h hup hhere]
      simp only [hup, hhere, false_or]
      rw [or_comm (a := HasRoom _)]

theorem head?_chdirGoal (h : WellFormedCwd (k.tasks t).cwd) :
    (k.chdirGoal t).head? = some (ascii '/') := by
  by_cases hup : k.chdirPath t = text ".."
  · exact (chdirGoal_up h hup).left
  · by_cases hhere : k.chdirPath t = text "."
    · exact (chdirGoal_here h hhere).left
    · rw [chdirGoal_named h hup hhere]
      exact head?_namedPath h

/-- From a good directory a call is correct exactly if its target fits. -/
theorem chdirCorrect_iff (h : WellFormedCwd (k.tasks t).cwd) :
    ChdirCorrect k t <-> TargetFits k t := by
  rw [targetFits_iff h]
  have hhead := head?_chdirGoal h
  by_cases harg : k.operand t 0 = 0
  · have hnone := (syscallChdir_none harg).caller
    refine ⟨fun _ => .inl harg, fun _ => ⟨fun hne => absurd harg hne, fun _ => ?_⟩⟩
    rw [hnone]
  · by_cases henter : k.Enterable (k.chdirGoal t)
    · have hcwd : ((k.syscallChdir t).tasks t).cwd = enteredCwd (k.chdirGoal t) := by
        rw [(syscallChdir_entered harg henter).caller]
      rw [iff_comm, or_iff_right harg, or_iff_right (not_not.mpr henter),
        ← enteredCwd_iff hhead, ← hcwd]
      constructor
      · intro hgood
        refine ⟨fun _ _ => hgood, ?_⟩
        rintro (hzero | hrefused)
        · exact absurd hzero harg
        · exact absurd henter hrefused
      · intro hcorrect
        exact hcorrect.entered harg henter
    · have hrefused := (syscallChdir_refused harg henter).caller
      refine ⟨fun _ => .inr (.inl henter), fun _ => ⟨fun _ h => absurd h henter, fun _ => ?_⟩⟩
      rw [hrefused]

theorem ChdirCorrect.wellFormed (hcorrect : ChdirCorrect k t)
    (h : WellFormedCwd (k.tasks t).cwd) :
    WellFormedCwd ((k.syscallChdir t).tasks t).cwd := by
  by_cases hrefused : k.operand t 0 = 0 ∨ ¬ k.Enterable (k.chdirGoal t)
  · rw [hcorrect.refused hrefused]
    exact h
  · rw [not_or, not_not] at hrefused
    exact (hcorrect.entered hrefused.left hrefused.right).left

end Calls

/-!
## Runs
-/

theorem wellFormed_bears (t : TaskId) :
    Bears (fun (_ : TaskId) (task : Task sd) => WellFormedCwd task.cwd) t := by
  constructor
  · intro task task' hcwd h
    rw [hcwd]
    exact h
  · intro u c task _ h
    exact h
  · intro k child h _ _ task hcwd
    have hfits := (h t).fits
    rw [hcwd, List.take_of_length_le (by omega)]
    exact h t

theorem CallsChdir.stands {I : TaskId -> Task sd -> Prop} {now : BitVec 32} {k k' : Kernel sd}
    {t : TaskId} (hcall : CallsChdir k t k') (hI : Bears I t) (hk : Stands I now k) :
    Stands I now k' := by
  cases hcall with
  | program hturn hop hsp hid =>
      have hwoken := hk.own hI (wakeUp_own (dispatches_cases hturn).right.right)
      exact (fetchByte_stands hI hwoken).own hI (stackPop_own _ t)
  | request hrunnable hread hresult hcmd =>
      rename_i r hal
      have hnote : OwnStep 0 k ((k.polled hal r.payloadOut).note
          (.dispatch SYS_CHDIR (bytesOf r.payloadOut r.result.toNat))) := .of_tasks rfl rfl
      have hstored := (hk.own hI hnote).own hI (commStorePayload_touches _ 0
        (bytesOf r.payloadOut r.result.toNat)).own
      exact ((hstored.own hI (modifyTask_own (t := 0) _ rfl)).own hI
        (stackPush_own _ 0 64)).own hI (stackPush_own _ 0 _)

theorem init_cwd (k : Kernel sd) (u : TaskId) : (k.init.tasks u).cwd = text "/" := by
  have hcleared : (k.cleared.tasks u).cwd = text "/" := by
    by_cases hu : u = 0
    · simp [cleared, modifyTask, hu, initTask, Task.setRunning]
    · simp [cleared, modifyTask, hu, initTask]
  have hmalloc := malloc_own k.cleared 0 128
  have hown : OwnStep 0 k.cleared k.init := by
    have hinit : k.init = if (k.cleared.malloc 0 128).1 ≠ -1 then
        (k.cleared.malloc 0 128).2.modifyTask 0 fun task =>
          { task with heapBase := (k.cleared.malloc 0 128).1, heapLimit := 128 }
        else (k.cleared.malloc 0 128).2 := rfl
    rw [hinit]
    split
    · exact hmalloc.modify rfl
    · exact hmalloc
  by_cases hu : u = 0
  · rw [hu] at hcleared ⊢
    rw [hown.cwd, hcleared]
  · rw [hown.others u hu, hcleared]

theorem boot_wellFormed (card : sd.Card) (u : TaskId) :
    WellFormedCwd ((boot card).tasks u).cwd := by
  have hcwd : ((boot card).tasks u).cwd = text "/" := by
    unfold boot setup
    simp only
    rw [stdWrite_tasks]
    exact init_cwd _ u
  rw [hcwd]
  exact wellFormedCwd_root

/-- Every call of `Syscall_chdir` in this step fits. -/
def TargetsFit (k : Kernel sd) (e : Event) : Prop :=
  e = .turn -> forall k', CallsChdir k k.current k' -> TargetFits k' k.current

/-- All tasks are in good directories, and every call in the next step is correct. -/
structure DirectoriesSound (k : Kernel sd) (next : List Event) : Prop where
  cwd : forall u, WellFormedCwd (k.tasks u).cwd
  /-- Nobody got to a `cwd` through the stack behind it. -/
  apart : forall t, forall i : Int, .stack t i ∈ k.log -> 0 <= i
  calls : next.head? = some .turn -> forall k', CallsChdir k k.current k' ->
    ChdirCorrect k' k.current

section Sound

variable {k : Kernel sd}

theorem correct_of_fits (h : forall u, WellFormedCwd (k.tasks u).cwd) {k' : Kernel sd}
    (hcall : CallsChdir k k.current k') :
    ChdirCorrect k' k.current <-> TargetFits k' k.current := by
  have hk : Stands (fun _ task => WellFormedCwd (Task.cwd task)) k.systemTicks k :=
    ⟨h, rfl⟩
  exact chdirCorrect_iff ((hcall.stands (wellFormed_bears _) hk).each k.current)

theorem step_wellFormed {e : Event} (h : forall u, WellFormedCwd (k.tasks u).cwd)
    (hfit : TargetsFit k e) (u : TaskId) : WellFormedCwd ((k.step e).tasks u).cwd := by
  cases e with
  | arrive bytes => exact h u
  | tick => exact h u
  | turn =>
      have hk : Stands (fun _ task => WellFormedCwd (Task.cwd task)) k.systemTicks k :=
        ⟨h, rfl⟩
      have hturn : Stands (fun _ task => WellFormedCwd (Task.cwd task)) k.systemTicks
          (k.schedule k.current) := by
        apply schedule_stands (wellFormed_bears k.current) hk
        intro k' hcall hk'
        have hcorrect := (correct_of_fits h hcall).mpr (hfit rfl k' hcall)
        rcases k'.syscallChdir_others k.current with ⟨hothers, hticks⟩
        refine ⟨?_, hticks.trans hk'.ticks⟩
        intro v
        by_cases hv : v = k.current
        · rw [hv]
          exact hcorrect.wellFormed (hk'.each k.current)
        · rw [hothers v hv]
          exact hk'.each v
      exact hturn.each u

theorem runs_sound_iff (h : forall u, WellFormedCwd (k.tasks u).cwd) (hstack : StackSound k)
    {events : List Event} (hoperands : AllSteps step HasOperandsAt k events) :
    (forall past rest, events = past ++ rest -> DirectoriesSound (k.run past) rest) <->
      AllSteps step TargetsFit k events := by
  induction events generalizing k with
  | nil =>
      constructor
      · intro _
        trivial
      · intro _ past rest hsplit
        rcases List.append_eq_nil_iff.mp hsplit.symm with ⟨rfl, rfl⟩
        exact ⟨h, fun t i hin => (hstack.logged t i hin).left, fun hnext => by cases hnext⟩
  | cons e events ih =>
      have hnext := step_stackSound k e hoperands.left hstack
      constructor
      · intro hsound
        have hfit : TargetsFit k e := by
          intro hturn k' hcall
          apply (correct_of_fits h hcall).mp
          exact (hsound [] (e :: events) rfl).calls (by rw [hturn]; rfl) k' hcall
        refine ⟨hfit, (ih (step_wellFormed h hfit) hnext hoperands.right).mp ?_⟩
        intro past rest hsplit
        exact hsound (e :: past) rest (by rw [hsplit, List.cons_append])
      · rintro ⟨hfit, hrun⟩ past rest hsplit
        cases past with
        | nil =>
            rw [List.nil_append] at hsplit
            refine ⟨h, fun t i hin => (hstack.logged t i hin).left, ?_⟩
            intro hturn k' hcall
            rw [← hsplit] at hturn
            exact (correct_of_fits h hcall).mpr (hfit (Option.some.inj hturn) k' hcall)
        | cons e' past =>
            rcases List.cons.inj hsplit with ⟨rfl, hrest⟩
            exact (ih (step_wellFormed h hfit) hnext hoperands.right).mpr hrun past rest hrest

end Sound

/--
Along a run whose system calls have their operands, every task is in a directory
with slashes at both ends that fits with its NUL, and every call enters the
directory that was checked or changes nothing, exactly if every directory named
in a call has room for a slash or is not there.
-/
theorem directories_sound_iff {card : sd.Card} {events : List Event}
    (hoperands : AllSteps step HasOperandsAt (boot card) events) :
    (forall past rest, events = past ++ rest ->
      DirectoriesSound ((boot card).run past) rest) <->
      AllSteps step TargetsFit (boot card) events :=
  runs_sound_iff (boot_wellFormed card) (boot_stackSound card) hoperands

def longDirectory : List Byte := text "/" ++ List.replicate 30 (ascii 'd')

theorem chdirArguments : EncoderArguments SP_UNFRAGED PT_STRING SYS_CHDIR :=
  ⟨by decide, by decide, by decide⟩

def longDirectoryRequest : SentPacket :=
  sentPacket SP_UNFRAGED PT_STRING SYS_CHDIR longDirectory chdirArguments (by decide)

def longDirectoryCard : CardImage.sdFat.Card :=
  { files := []
    directories := [(longDirectory, [])]
    opensLeft := 1 }

set_option maxRecDepth 4000 in
theorem longDirectory_entered :
    (((boot longDirectoryCard).run [.arrive longDirectoryRequest.bytes, .turn]).tasks 0).cwd =
      longDirectory ++ text "/" := by
  decide +kernel

set_option maxRecDepth 4000 in
theorem directories_sound_iff_long :
    ¬ AllSteps step TargetsFit (boot longDirectoryCard)
      [.arrive longDirectoryRequest.bytes, .turn] := by
  intro hfit
  have hoperands : AllSteps step HasOperandsAt (boot longDirectoryCard)
      [.arrive longDirectoryRequest.bytes, .turn] := by decide +kernel
  have hsound := (directories_sound_iff hoperands).mpr hfit
  have hfits := ((hsound _ [] (List.append_nil _).symm).cwd 0).fits
  rw [longDirectory_entered] at hfits
  exact absurd hfits (by decide)

/-- With the slash it takes all 32 characters of `cwd`, and its NUL one more. -/
theorem long_directory_leaves_cwd :
    let events := [.arrive longDirectoryRequest.bytes, .turn]
    (((boot longDirectoryCard).run events).tasks 0).cwd = longDirectory ++ text "/" ∧
      (longDirectory ++ text "/").length = 32 ∧
      ¬ (forall past rest, events = past ++ rest ->
        DirectoriesSound ((boot longDirectoryCard).run past) rest) := by
  intro events
  refine ⟨longDirectory_entered, by decide, ?_⟩
  intro hsound
  have hfits := ((hsound events [] (List.append_nil _).symm).cwd 0).fits
  rw [longDirectory_entered] at hfits
  exact absurd hfits (by decide)

end Kernel
end ArduOS
