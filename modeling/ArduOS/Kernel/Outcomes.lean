import ArduOS.Kernel.Allocation
import ArduOS.Kernel.Scheduler
import ArduOS.Kernel.Touches

/-!
# What a turn does to the records

Whatever the program, the request and the card, a turn of the scheduler does
one of a few things to the records.  They are listed once, in `Outcome`, and
every invariant of whole runs is derived from that list.
-/

namespace ArduOS

open Library

namespace Records

/-- A program loaded into `child` by `t`, which waits for it if asked to. -/
def exec (r : Records) (t child : TaskId) (start size waitOpt : Int) : Records :=
  let r := (r.loadSegment child start size).start t child waitOpt
  if waitOpt = 1 then r.modify t fun task => { task with state := .paused child }
  else r

/--
What a turn of `t` does to the records.  `kept` says that an `ls` which opens
its directory gets the program file open again; `lost` is what happens if not.
-/
inductive Outcome (kept : Prop) (t : TaskId) (r : Records) : Records -> Prop where
  /-- At most the file of `t` is closed. -/
  | keep (fileOpen : Bool) (h : fileOpen = true -> (r.task t).fileOpen = true) :
      Outcome kept t r (r.modify t fun task => { task with fileOpen := fileOpen })
  | grant (j : Fin MAX_ALLOCATIONS) (start size : Int)
      (hentry : ((r.task t).allocTable j).ptr = -1)
      (hrun : FreeRun r.allocated GLOBAL_HEAP_SIZE start size) :
      Outcome kept t r (r.grantEntry t j start size)
  | exit (ht : t ≠ 0) (r' : Records) (h : Exits t r r') : Outcome kept t r r'
  /-- The result of an allocation does not fit on the stack. -/
  | grantExit (ht : t ≠ 0) (j : Fin MAX_ALLOCATIONS) (start size : Int)
      (hentry : ((r.task t).allocTable j).ptr = -1)
      (hrun : FreeRun r.allocated GLOBAL_HEAP_SIZE start size) (r' : Records)
      (h : Exits t (r.grantEntry t j start size) r') : Outcome kept t r r'
  | exec (child : TaskId) (start size waitOpt : Int) (hchild : child ≠ 0)
      (hfree : (r.task child).state = .free)
      (hrun : FreeRun r.allocated GLOBAL_HEAP_SIZE start size) :
      Outcome kept t r (r.exec t child start size waitOpt)
  | execFailed (child : TaskId) (hchild : child ≠ 0)
      (hfree : (r.task child).state = .free) :
      Outcome kept t r (r.modify child fun task => { task with fileOpen := false })
  | lost (h : ¬ kept) :
      Outcome kept t r (r.modify t fun task =>
        { task with state := .free, fileOpen := false })

variable {kept : Prop} {t : TaskId} {r r' : Records}

theorem Outcome.same (h : r' = r) : Outcome kept t r r' := by
  have hself : r.modify t (fun task =>
      { task with fileOpen := (r.task t).fileOpen }) = r :=
    modify_eq_self r t rfl
  have hkeep : Outcome kept t r (r.modify t fun task =>
      { task with fileOpen := (r.task t).fileOpen }) :=
    .keep (r.task t).fileOpen id
  rw [hself] at hkeep
  rw [h]
  exact hkeep

theorem Outcome.closes (h : r' = r.modify t fun task => { task with fileOpen := false }) :
    Outcome kept t r r' := by
  rw [h]
  apply Outcome.keep false
  intro hcontra
  cases hcontra

end Records

namespace Kernel

open Records

variable {sd : SdFat}

theorem Outcome.after {kept : Prop} {t : TaskId} {k k' : Kernel sd} {r : Records}
    (h : k'.records = k.records) (hout : Outcome kept t k'.records r) :
    Outcome kept t k.records r := h ▸ hout

variable {kept : Prop}

/-!
## System calls
-/

/-- With this argument `ls` finds its program file again, if it opens its
directory. -/
def lsReopensWith (k : Kernel sd) (t : TaskId) (selector : Int) : Bool :=
  match (k.tasks t).file, (sd.openPath k.card (k.lsTargetPath t selector)).1 with
  | some _, some dir =>
      let card := (sd.openPath k.card (k.lsTargetPath t selector)).2
      (sd.openPath (sd.entries card dir).2 (k.tasks t).filename).1.isSome
  | _, _ => true

def lsReopens (k : Kernel sd) (t : TaskId) : Bool :=
  let (selector, k) := k.stackPop t
  let (_, k) := k.stackPop t
  let (_, k) := k.stackPop t
  k.lsReopensWith t selector

theorem lsReopen_outcome (k : Kernel sd) (t : TaskId) (pos : BitVec 32) {r : Records}
    (hrecords : k.records = r.modify t fun task => { task with fileOpen := false })
    (hopen : (r.task t).fileOpen = true)
    (hkept : kept -> (sd.openPath k.card (k.tasks t).filename).1.isSome = true) :
    Outcome kept t r (k.lsReopen t pos).records := by
  have hfile : ((k.openFile t (k.tasks t).filename).tasks t).file =
      (sd.openPath k.card (k.tasks t).filename).1 := by
    simp [openFile, modifyTask]
  unfold lsReopen
  simp only [hfile]
  cases hfound : (sd.openPath k.card (k.tasks t).filename).1.isSome with
  | true =>
      simp only [if_true]
      rw [records_seekFile, openFile_records, hfile, hfound, hrecords, modify_modify]
      exact Outcome.keep true fun _ => hopen
  | false =>
      simp only [Bool.false_eq_true, if_false]
      rw [records_modifyTask _ _ (g := fun task => { task with state := .free }) rfl,
        openFile_records, hfile, hfound, hrecords, modify_modify, modify_modify]
      apply Outcome.lost
      intro hk
      rw [hkept hk] at hfound
      cases hfound

theorem lsWith_outcome (k : Kernel sd) (t : TaskId) (selector bufSize bufAddr : Int) :
    Outcome (k.lsReopensWith t selector = true) t k.records
      (k.lsWith t selector bufSize bufAddr).records := by
  have hcard : (k.closeFile t).card = k.card := rfl
  cases hopened : sd.openPath k.card (k.lsTargetPath t selector) with
  | mk dir card =>
      unfold lsWith lsReopensWith
      simp only [hcard, hopened]
      have hclosed : ((k.closeFile t).withCard card).records =
          k.records.modify t fun task => { task with fileOpen := false } := by
        rw [records_withCard, closeFile_records]
      cases dir with
      | none =>
          apply Outcome.closes
          rw [records_heapSetBelow]
          exact hclosed
      | some dir =>
          have hlist := lsList_touches ((k.closeFile t).withCard card) dir
            (k.getPhysAddr t bufAddr) bufSize
          cases hfile : (k.tasks t).file with
          | none =>
              apply Outcome.closes
              rw [hlist.records, records_withCard]
              exact hclosed
          | some file =>
              simp only
              apply lsReopen_outcome
              · rw [hlist.records, records_withCard]
                exact hclosed
              · simp [records, Task.record, hfile]
              · intro hk
                rw [hlist.card, hlist.tasks]
                simpa [closeFile, modifyTask] using hk

theorem syscallLs_outcome (k : Kernel sd) (t : TaskId) :
    Outcome (k.lsReopens t = true) t k.records (k.syscallLs t).records := by
  have hpops : (((k.stackPop t).2.stackPop t).2.stackPop t).2.records = k.records := by
    simp
  exact Outcome.after hpops (lsWith_outcome _ t _ _ _)

theorem freeSlot_spec {k : Kernel sd} {child : TaskId} (h : k.freeSlot = some child) :
    child ≠ 0 ∧ (k.tasks child).taskState = .free := by
  have hfound := List.find?_some h
  simpa using hfound

theorem execLoad_outcome (k : Kernel sd) (t child : TaskId) (cmdStr : List Byte)
    (argStr : Option (List Byte)) (waitOpt : Int) (hchild : child ≠ 0)
    (hfree : (k.tasks child).taskState = .free) :
    Outcome kept t k.records (k.execLoad t child cmdStr argStr waitOpt).records := by
  have hload := k.loadTask_records child cmdStr none (some (k.tasks t).cwd) argStr hfree
  unfold execLoad
  generalize k.loadTask child cmdStr none (some (k.tasks t).cwd) argStr = loaded
    at hload ⊢
  rcases loaded with ⟨success, k'⟩
  simp only at hload ⊢
  rcases hload with ⟨rfl, hsame⟩ | ⟨start, size, rfl, hrun, hsegment⟩
  · simp only [Bool.false_eq_true, if_false]
    rw [hsame]
    exact Outcome.execFailed child hchild hfree
  · simp only [if_true]
    have hexec : Outcome kept t k.records (k.records.exec t child start size waitOpt) :=
      .exec child start size waitOpt hchild hfree hrun
    unfold Records.exec at hexec
    by_cases hwait : waitOpt = 1
    · rw [if_pos hwait]
      simp only [if_pos hwait] at hexec
      rw [records_modifyTask _ _ (g := fun task => { task with state := .paused child })
        rfl, records_note_exec, hsegment]
      exact hexec
    · rw [if_neg hwait]
      simp only [if_neg hwait] at hexec
      rw [records_note_exec, hsegment]
      exact hexec

theorem records_readString (k : Kernel sd) (n : Nat) (inRange stop : Int -> Bool)
    (addr : Int) : (k.readString n inRange stop addr).2.records = k.records :=
  (readString_touches (R := fun _ => True) (W := fun _ => True) k n inRange stop addr
    fun _ _ _ _ => trivial).records

theorem records_writeString (k : Kernel sd) (addr : Int) (str : List Byte) :
    (k.writeString addr str).records = k.records :=
  (writeString_touches (R := fun _ => True) (W := fun _ => True) k addr str
    fun _ _ _ => trivial).records

theorem execWith_outcome (k : Kernel sd) (t : TaskId) (waitOpt cmdAddr argAddr : Int) :
    Outcome kept t k.records (k.execWith t waitOpt cmdAddr argAddr).records := by
  unfold execWith
  simp only
  generalize k.getPhysAddr t cmdAddr = cmdAddr
  generalize (if argAddr ≠ 0 then k.getPhysAddr t argAddr else argAddr) = argAddr
  apply Outcome.after (k.records_readString 31 belowHeapSize isNullOrSpace cmdAddr)
  rcases k.readString 31 belowHeapSize isNullOrSpace cmdAddr with ⟨cmdStr, k⟩
  simp only
  have hargs : (if argAddr ≠ 0 then k.readString 31 belowHeapSize isNull argAddr
      else ([], k)).2.records = k.records := by
    split
    · exact records_readString ..
    · rfl
  apply Outcome.after hargs
  generalize (if argAddr ≠ 0 then k.readString 31 belowHeapSize isNull argAddr
    else ([], k)) = read
  rcases read with ⟨argStr, k⟩
  simp only
  cases hslot : k.freeSlot with
  | none =>
      simp only
      exact Outcome.same (records_stdWrite ..)
  | some child =>
      rcases freeSlot_spec hslot with ⟨hchild, hfree⟩
      exact k.execLoad_outcome t child _ _ waitOpt hchild hfree

theorem chdirWith_records (k : Kernel sd) (t : TaskId) (argAddr bufAddr : Int) :
    (k.chdirWith t argAddr bufAddr).records = k.records := by
  unfold chdirWith
  by_cases harg : argAddr = 0
  · rw [if_pos harg]
  · rw [if_neg harg]
    have hread := k.records_readString 31 belowHeapSize isNull (k.getPhysAddr t argAddr)
    generalize k.readString 31 belowHeapSize isNull (k.getPhysAddr t argAddr) = read
      at hread ⊢
    rcases read with ⟨pathStr, k₁⟩
    simp only at hread ⊢
    have hcheck : (k₁.chdirCheck (k₁.chdirTarget t (cString pathStr))).2.records =
        k₁.records := by
      unfold chdirCheck
      split <;> rfl
    generalize k₁.chdirTarget t (cString pathStr) = target at hcheck ⊢
    generalize k₁.chdirCheck target = checked at hcheck ⊢
    rcases checked with ⟨success, k₂⟩
    simp only at hcheck ⊢
    have henter : (k₂.chdirEnter t target).records = k₂.records := by
      unfold chdirEnter
      simp only
      rw [records_modifyTask_same _ _ rfl, records_note _ (by simp)]
    rw [← hread, ← hcheck]
    split
    · split
      · rw [records_writeString, henter]
      · exact henter
    · split
      · exact records_heapSetBelow ..
      · rfl

theorem getcwdWith_records (k : Kernel sd) (t : TaskId) (bufAddr : Int) :
    (k.getcwdWith t bufAddr).records = k.records := by
  unfold getcwdWith
  split
  · rfl
  · exact records_writeString ..

/-- Of the system calls only `ls` can lose a program. -/
theorem systemCall_outcome (k : Kernel sd) (t : TaskId) (sysId : Int)
    (hkept : kept -> sysId = 1 -> k.lsReopens t = true) :
    Outcome kept t k.records (k.systemCall t sysId).records := by
  unfold systemCall
  by_cases hls : sysId = 1
  · rw [if_pos hls]
    have hout := k.syscallLs_outcome t
    generalize (k.syscallLs t).records = r at hout ⊢
    cases hout with
    | keep fileOpen h => exact .keep fileOpen h
    | grant j start size hentry hrun => exact .grant j start size hentry hrun
    | exit ht _ h => exact .exit ht _ h
    | grantExit ht j start size hentry hrun _ h =>
        exact .grantExit ht j start size hentry hrun _ h
    | exec child start size waitOpt hchild hfree hrun =>
        exact .exec child start size waitOpt hchild hfree hrun
    | execFailed child hchild hfree => exact .execFailed child hchild hfree
    | lost h => exact .lost fun hk => h (hkept hk hls)
  · rw [if_neg hls]
    split
    · have hpops : (((k.stackPop t).2.stackPop t).2.stackPop t).2.records =
          k.records := by simp
      exact Outcome.after hpops (execWith_outcome _ t _ _ _)
    · split
      · have hpops : ((k.stackPop t).2.stackPop t).2.records = k.records := by simp
        exact Outcome.same ((chdirWith_records _ t _ _).trans hpops)
      · split
        · exact Outcome.same ((getcwdWith_records _ t _).trans (k.records_stackPop t))
        · exact Outcome.same rfl

end Kernel
end ArduOS
