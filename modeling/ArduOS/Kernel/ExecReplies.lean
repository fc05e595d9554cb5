import ArduOS.Kernel.AllOrNothing
import ArduOS.Kernel.Replies

/-!
# What the daemon answers to exec

The daemon says "Exec started." whatever happened; the line before it tells whether the
program runs.
-/

namespace ArduOS

open Library Hal

namespace Kernel

variable {sd : SdFat}

/-!
## Answers
-/

inductive LoadSays (k : Kernel sd) (name : List Byte) : Bool × List Byte -> Prop where
  | notFound (h : sd.programHeader k.card name = none) :
      LoadSays k name (true, text "Error: Command not found\n")
  | tooShort (header : Bool × List Byte)
      (h : sd.programHeader k.card name = some header)
      (hshort : ¬ (header.1 = true ∧ header.2.length = 4)) :
      LoadSays k name (true, text "Err: Invalid exec format (Too short)\n")
  | badMagic (header : Bool × List Byte)
      (h : sd.programHeader k.card name = some header)
      (hlength : header.1 = true ∧ header.2.length = 4)
      (hmagic : ¬ (bufferOf header.2 0 = 0xAD#8 ∧ bufferOf header.2 1 = 0x01#8)) :
      LoadSays k name (true, text "Err: Invalid exec format (Bad Magic)\n")
  | noHeap (header : Bool × List Byte)
      (h : sd.programHeader k.card name = some header) (hgood : GoodHeader header)
      (hnone : forall start,
        ¬ FreeRun k.isAllocated GLOBAL_HEAP_SIZE start (headerSize header.2)) :
      LoadSays k name (true, text "Error: Out of Memory (Cannot alloc task heap)\n")
  | started (header : Bool × List Byte)
      (h : sd.programHeader k.card name = some header) (hgood : GoodHeader header)
      (start : Int)
      (hrun : FreeRun k.isAllocated GLOBAL_HEAP_SIZE start (headerSize header.2)) :
      LoadSays k name (false, text "\n")

/-- The first line of an answer to `SYS_EXEC`. -/
inductive ExecSays (k : Kernel sd) (name : List Byte) : Bool × List Byte -> Prop where
  | noSlot (h : forall u, u ≠ 0 -> (k.tasks u).taskState ≠ .free) :
      ExecSays k name (true, text "Error: No free task slots.\n")
  | loads (child : TaskId) (hchild : child ≠ 0) (hfree : (k.tasks child).taskState = .free)
      {answer : Bool × List Byte} (h : LoadSays k name answer) : ExecSays k name answer

/-- The program of the request: its second word, or the whole request if there is none. -/
def storedCommand (payload : List Byte) : List Byte :=
  match payload.findIdx? fun c => c = ascii ' ' with
  | none => payload
  | some firstSpace =>
      let rest := payload.drop (firstSpace + 1)
      let cmd :=
        match rest.findIdx? fun c => c = ascii ' ' with
        | none => rest
        | some cmdLen => rest.take cmdLen
      if cmd.length > 0 then cmd else payload

/-- The name at the front of a command, as `Syscall_exec` reads it. -/
def nameIn (stored : List Byte) : List Byte :=
  (stored.take 31).takeWhile fun c => ! decide (c = 0#8 ∨ c = ascii ' ')

def requestedName (payload : List Byte) : List Byte := nameIn (storedCommand payload)

/-!
## Loading
-/

section Loading

variable {k k' k'' : Kernel sd} {name : List Byte}

theorem LoadSays.congr (hcard : k'.card = k.card) (halloc : k'.isAllocated = k.isAllocated)
    {answer : Bool × List Byte} (h : LoadSays k' name answer) : LoadSays k name answer := by
  cases h with
  | notFound h => exact .notFound (hcard ▸ h)
  | tooShort header h hshort => exact .tooShort header (hcard ▸ h) hshort
  | badMagic header h hlength hmagic => exact .badMagic header (hcard ▸ h) hlength hmagic
  | noHeap header h hgood hnone => exact .noHeap header (hcard ▸ h) hgood (halloc ▸ hnone)
  | started header h hgood start hrun =>
      exact .started header (hcard ▸ h) hgood start (halloc ▸ hrun)

theorem findProgram_serialOut (k : Kernel sd) (id : TaskId) (name : List Byte) :
    (k.findProgram id name).2.serialOut = k.serialOut := by
  unfold findProgram
  simp only
  split
  · rfl
  · split
    · rfl
    · rfl

theorem setAllocatedRange_serialOut (k : Kernel sd) (start size : Int) (b : Bool) :
    (k.setAllocatedRange start size b).serialOut = k.serialOut := by
  unfold setAllocatedRange
  exact forLoop_view k Kernel.serialOut fun _ _ _ => rfl

theorem allocSegment_serialOut (k : Kernel sd) (id : TaskId) (size : Int) :
    (k.allocSegment id size).2.serialOut = k.serialOut := by
  rcases k.allocSegment_cases id size with ⟨hnone, _⟩ | ⟨start, _, hfound⟩
  · rw [hnone]
  · rw [hfound]
    exact k.setAllocatedRange_serialOut start size true

theorem failLoad_prints (k : Kernel sd) (id : TaskId) {message : List Byte}
    (hnul : 0#8 ∉ message) (hfit : message.length <= 500) :
    Prints k (k.failLoad id message) [(true, message)] := by
  have hline := k.stdWrite_prints FD_STDERR hnul hfit
  unfold failLoad closeFile
  generalize k.stdWrite FD_STDERR message = k₁ at hline ⊢
  exact hline

theorem startTask_prints (k : Kernel sd) (id : TaskId) (path : List Byte) :
    Prints k (k.startTask id path) [(false, text "\n")] := by
  unfold startTask
  simp only
  have hread := readFile_serialOut (k.modifyTask id fun task =>
    { task with filename := path.take 127, bufferIndex := 0 }) id CODE_BUFFER_SIZE
  generalize readFile (k.modifyTask id _) id CODE_BUFFER_SIZE = read at hread ⊢
  rcases read with ⟨result, k₁⟩
  simp only at hread ⊢
  exact (stdWrite_prints _ FD_STDOUT (show 0#8 ∉ text "\n" by decide)
    (by decide)).of_serialOut hread

theorem segment_says (halloc : k'.isAllocated = k.isAllocated)
    (hout : k'.serialOut = k.serialOut) (id : TaskId) (path : List Byte)
    {header : Bool × List Byte} (h : sd.programHeader k.card name = some header)
    (hgood : GoodHeader header) :
    let segment := k'.allocSegment id (headerSize header.2)
    let loaded : Bool × Kernel sd :=
      if ¬ segment.1 = true then
        (false, segment.2.failLoad id
          (text "Error: Out of Memory (Cannot alloc task heap)\n"))
      else (true, segment.2.startTask id path)
    exists answer, LoadSays k name answer ∧ Prints k loaded.2 [answer] ∧
      (loaded.1 = true <-> answer.1 = false) := by
  intro segment loaded
  have hquiet : segment.2.serialOut = k.serialOut :=
    (k'.allocSegment_serialOut id (headerSize header.2)).trans hout
  rcases k'.allocSegment_cases id (headerSize header.2) with
    ⟨hfail, hnone⟩ | ⟨start, hrun, hsegment⟩
  · rw [halloc] at hnone
    have hloaded : loaded = (false, k'.failLoad id
        (text "Error: Out of Memory (Cannot alloc task heap)\n")) := by
      simp only [loaded, segment, hfail]
      rfl
    have hprints := k'.failLoad_prints id
      (show 0#8 ∉ text "Error: Out of Memory (Cannot alloc task heap)\n" by decide)
      (by decide)
    rw [hloaded]
    exact ⟨_, .noHeap header h hgood hnone, hprints.of_serialOut hout, by simp⟩
  · rw [halloc] at hrun
    have hfits : segment.1 = true := by
      simp only [segment, hsegment]
    have hloaded : loaded = (true, segment.2.startTask id path) :=
      if_neg (not_not.mpr hfits)
    rw [hloaded]
    exact ⟨_, .started header h hgood start hrun.run,
      (segment.2.startTask_prints id path).of_serialOut hquiet, by simp⟩

/-- A load prints one line, and an empty one exactly when it succeeds. -/
theorem loadTask_says (k : Kernel sd) (id : TaskId) (name : List Byte)
    (argStr parentCwd parentArgStr : Option (List Byte)) :
    exists answer, LoadSays k name answer ∧
      Prints k (k.loadTask id name argStr parentCwd parentArgStr).2 [answer] ∧
      ((k.loadTask id name argStr parentCwd parentArgStr).1 = true <-> answer.1 = false) := by
  have hprepared := k.prepareTask_records id argStr parentCwd parentArgStr
  have hcard := k.prepareTask_card id argStr parentCwd parentArgStr
  have hsilent : (k.prepareTask id argStr parentCwd parentArgStr).serialOut = k.serialOut :=
    rfl
  unfold loadTask
  simp only
  generalize k.prepareTask id argStr parentCwd parentArgStr = k₁
    at hprepared hcard hsilent ⊢
  have hfound := k₁.findProgram_records id name
  have hfile := k₁.findProgram_programFile id name
  have hquiet := k₁.findProgram_serialOut id name
  rw [hcard] at hfile
  rw [hsilent] at hquiet
  generalize k₁.findProgram id name = found at hfound hfile hquiet ⊢
  rcases found with ⟨path, k₂⟩
  simp only at hfound hfile hquiet ⊢
  have halloc₂ : k₂.isAllocated = k.isAllocated := by
    have hsame := congrArg Records.allocated hfound
    rw [hprepared] at hsame
    exact hsame
  cases hopen : (sd.programFile k.card name).1 with
  | none =>
      rw [hopen] at hfile
      simp only [hfile.left, Option.isSome_none, Bool.false_eq_true, if_false]
      have hprints := k₂.stdWrite_prints FD_STDERR
        (show 0#8 ∉ text "Error: Command not found\n" by decide) (by decide)
      exact ⟨_, .notFound (by simp [SdFat.programHeader, hopen]),
        hprints.of_serialOut hquiet, by simp⟩
  | some file =>
      rw [hopen] at hfile
      have hheader : sd.programHeader k.card name = some (k₂.readFile id 4).1 := by
        rw [k₂.readFile_fst id 4 hfile.left, hfile.right]
        simp [SdFat.programHeader, hopen]
      have hread := k₂.records_readFile id 4
      have hreadQuiet := k₂.readFile_serialOut id 4
      rw [hquiet] at hreadQuiet
      simp only [hfile.left, Option.isSome_some, if_true]
      generalize k₂.readFile id 4 = header at hheader hread hreadQuiet ⊢
      rcases header with ⟨result, k₃⟩
      simp only at hheader hread hreadQuiet ⊢
      have halloc₃ : k₃.isAllocated = k.isAllocated :=
        (congrArg Records.allocated hread).trans halloc₂
      by_cases hlength : result.1 = true ∧ result.2.length = 4
      · rw [if_pos hlength]
        by_cases hmagic : bufferOf result.2 0 = 0xAD#8 ∧ bufferOf result.2 1 = 0x01#8
        · rw [if_pos hmagic]
          have hgood : GoodHeader result := ⟨hlength, hmagic⟩
          exact segment_says halloc₃ hreadQuiet id path hheader hgood
        · rw [if_neg hmagic]
          have hprints := k₃.failLoad_prints id
            (show 0#8 ∉ text "Err: Invalid exec format (Bad Magic)\n" by decide) (by decide)
          exact ⟨_, .badMagic result hheader hlength hmagic, hprints.of_serialOut hreadQuiet,
            by simp⟩
      · rw [if_neg hlength]
        have hprints := k₃.failLoad_prints id
          (show 0#8 ∉ text "Err: Invalid exec format (Too short)\n" by decide) (by decide)
        exact ⟨_, .tooShort result hheader hlength, hprints.of_serialOut hreadQuiet,
          by simp⟩

end Loading

/-!
## The system call
-/

structure Told (k k' : Kernel sd) (t : TaskId) (name : List Byte)
    (answer : Bool × List Byte) : Prop where
  line : ExecSays k name answer
  prints : Prints k k' [answer]
  starts : answer.1 = false <-> exists child, child ≠ t ∧
    (k.tasks child).taskState = .free ∧ (k'.tasks child).taskState = .running

section Calling

variable {k k' k'' : Kernel sd} {t : TaskId} {name : List Byte}
  {answer : Bool × List Byte}

theorem ExecSays.congr (hcard : k'.card = k.card) (halloc : k'.isAllocated = k.isAllocated)
    (hstate : forall u, (k'.tasks u).taskState = (k.tasks u).taskState)
    (h : ExecSays k' name answer) : ExecSays k name answer := by
  cases h with
  | noSlot h => exact .noSlot fun u hu => hstate u ▸ h u hu
  | loads child hchild hfree h =>
      exact .loads child hchild (hstate child ▸ hfree) (h.congr hcard halloc)

theorem Told.before (h : Told k' k'' t name answer) (hsame : SameTasks t k k')
    (hout : k'.serialOut = k.serialOut) : Told k k'' t name answer := by
  have halloc : k'.isAllocated = k.isAllocated := by
    unfold isAllocated
    rw [hsame.bitmap]
  refine ⟨h.line.congr hsame.card halloc hsame.taskState, h.prints.of_serialOut hout, ?_⟩
  rw [h.starts]
  simp only [hsame.taskState]

theorem execLoad_told (k : Kernel sd) {t child : TaskId} (hne : child ≠ t)
    (hzero : child ≠ 0) (hfree : (k.tasks child).taskState = .free) (name : List Byte)
    (argStr : Option (List Byte)) (waitOpt : Int) :
    exists answer, Told k (k.execLoad t child name argStr waitOpt) t name answer := by
  rcases k.loadTask_says child name none (some (k.tasks t).cwd) argStr with
    ⟨answer, hsaid, hprints, hflag⟩
  have hcases := k.loadTask_cases child name none (some (k.tasks t).cwd) argStr
  have hothers := fun u (hu : u ≠ child) =>
    k.loadTask_others hu name none (some (k.tasks t).cwd) argStr
  have hfailed :=
    @loadTask_failed sd k child name none (some (k.tasks t).cwd) argStr hfree
  unfold execLoad
  generalize k.loadTask child name none (some (k.tasks t).cwd) argStr = loaded
    at hprints hflag hcases hothers hfailed ⊢
  rcases loaded with ⟨success, k₁⟩
  simp only at hprints hflag hcases hothers hfailed ⊢
  cases success with
  | true =>
      have hstarted : (k₁.tasks child).taskState = .running := by
        rcases hcases with ⟨hfalse, _⟩ | ⟨_, _, _, _, hstarted⟩
        · cases hfalse
        · exact hstarted.running
      simp only [if_true]
      by_cases hwait : waitOpt = 1
      · rw [if_pos hwait]
        refine ⟨answer, .loads child hzero hfree hsaid, hprints, ?_⟩
        refine ⟨fun _ => ⟨child, hne, hfree, ?_⟩, fun _ => hflag.mp rfl⟩
        simpa [modifyTask, note, hne] using hstarted
      · rw [if_neg hwait]
        refine ⟨answer, .loads child hzero hfree hsaid, hprints, ?_⟩
        exact ⟨fun _ => ⟨child, hne, hfree, hstarted⟩, fun _ => hflag.mp rfl⟩
  | false =>
      refine ⟨answer, .loads child hzero hfree hsaid, hprints, ?_⟩
      simp only [Bool.false_eq_true, if_false]
      refine ⟨fun hfine => absurd (hflag.mpr hfine) (by decide), ?_⟩
      -- no slot that was FREE is running
      rintro ⟨u, _, hu, hrunning⟩
      exfalso
      by_cases hchild : u = child
      · rw [hchild, (hfailed rfl).right.free] at hrunning
        cases hrunning
      · rw [hothers u hchild, hu] at hrunning
        cases hrunning

theorem cString_nameIn (stored : List Byte) : cString (nameIn stored) = nameIn stored := by
  apply cString_eq_self
  intro hin
  have hkept := List.mem_takeWhile_imp hin
  simp at hkept

theorem execWith_told (hbase : (k.tasks 0).heapBase = 0) {stored : List Byte}
    (hholds : HoldsString k.globalHeap 1 stored 31) (waitOpt argAddr : Int) :
    exists answer, Told k (k.execWith 0 waitOpt 1 argAddr) 0 (nameIn stored) answer := by
  have hread : (k.readString 31 belowHeapSize isNullOrSpace 1).1 = nameIn stored :=
    k.readString_holds isNullOrSpace (fun c => ! decide (c = 0#8 ∨ c = ascii ' ')) hholds
      (by decide) (by decide) rfl fun b => by rw [isNullOrSpace_ofByte]
  have hsame := k.readString_sameTasks 0 31 belowHeapSize isNullOrSpace 1
  have hout := k.readString_serialOut 31 belowHeapSize isNullOrSpace 1
  unfold execWith
  simp only [getPhysAddr_daemon hbase, ite_self]
  generalize k.readString 31 belowHeapSize isNullOrSpace 1 = read at hread hsame hout ⊢
  rcases read with ⟨cmdStr, k₁⟩
  simp only at hread hsame hout ⊢
  subst hread
  have harg : exists argStr k₂, (if argAddr ≠ 0 then
      k₁.readString 31 belowHeapSize isNull argAddr else ([], k₁)) = (argStr, k₂) ∧
        SameTasks 0 k k₂ ∧ k₂.serialOut = k.serialOut := by
    split
    · have hargs := k₁.readString_sameTasks 0 31 belowHeapSize isNull argAddr
      exact ⟨_, _, rfl, hsame.trans hargs,
        (k₁.readString_serialOut 31 belowHeapSize isNull argAddr).trans hout⟩
    · exact ⟨_, _, rfl, hsame, hout⟩
  rcases harg with ⟨argStr, k₂, hreadArg, hsame₂, hout₂⟩
  rw [hreadArg, cString_nameIn]
  simp only
  cases hslot : k₂.freeSlot with
  | none =>
      have hprints := k₂.stdWrite_prints FD_STDERR
        (show 0#8 ∉ text "Error: No free task slots.\n" by decide) (by decide)
      have htold : Told k₂ (k₂.stdWrite FD_STDERR (text "Error: No free task slots.\n")) 0
          (nameIn stored) (true, text "Error: No free task slots.\n") := by
        refine ⟨.noSlot fun u hu => freeSlot_none hslot hu, hprints, ?_⟩
        refine ⟨fun hfine => absurd hfine (by decide), ?_⟩
        rintro ⟨child, hchild, hfree, _⟩
        exact absurd hfree (freeSlot_none hslot hchild)
      exact ⟨_, htold.before hsame₂ hout₂⟩
  | some child =>
      rcases freeSlot_spec hslot with ⟨hzero, hfree⟩
      rcases k₂.execLoad_told hzero hzero hfree _ _ waitOpt with ⟨answer, htold⟩
      exact ⟨answer, htold.before hsame₂ hout₂⟩

/-!
## The request
-/

theorem commParseExec_holds (hbase : (k.tasks 0).heapBase = 0)
    (hlimit : (k.tasks 0).heapLimit = 128) {payload : List Byte}
    (hlen : payload.length <= 244) (hholds : HoldsString k.globalHeap 1 payload 31) :
    HoldsString (k.commParseExec 0 payload).2.globalHeap 1 (storedCommand payload) 31 ∧
      (k.commParseExec 0 payload).2.serialOut = k.serialOut := by
  have hsize : (GLOBAL_HEAP_SIZE : Int) = 1024 := rfl
  have hplaced : forall (heap : Int -> Int) (part : List Byte),
      HoldsString (placed heap 1 part) 1 part 31 :=
    fun heap part => ⟨fun i _ hi => placed_cell heap 1 hi, fun _ => placed_end heap 1 part⟩
  -- the command, where the payload has been before
  have hcommand : forall part : List Byte, part.length <= 244 ->
      HoldsString (k.commStorePart 0 1 part).globalHeap 1
        (if part.length > 0 then part else payload) 31 ∧
      (k.commStorePart 0 1 part).serialOut = k.serialOut ∧
      ((k.commStorePart 0 1 part).tasks 0).heapBase = 0 := by
    intro part hpart
    rw [commStorePart_eq hbase (by omega)]
    by_cases hpos : part.length > 0
    · rw [if_pos hpos, if_pos hpos]
      exact ⟨hplaced k.globalHeap part, rfl, hbase⟩
    · rw [if_neg hpos, if_neg hpos]
      exact ⟨hholds, rfl, hbase⟩
  unfold commParseExec storedCommand
  cases hspace : payload.findIdx? fun c => c = ascii ' ' with
  | none =>
      simp only
      rw [commCopyToHeap_eq hbase hlimit hlen]
      exact ⟨hplaced k.globalHeap payload, rfl⟩
  | some firstSpace =>
      simp only
      have hrest : (payload.drop (firstSpace + 1)).length <= 244 := by
        rw [List.length_drop]
        omega
      generalize payload.drop (firstSpace + 1) = rest at hrest ⊢
      cases hword : rest.findIdx? fun c => c = ascii ' ' with
      | none =>
          rcases hcommand rest hrest with ⟨hstored, hout, _⟩
          exact ⟨hstored, hout⟩
      | some cmdLen =>
          simp only
          have hcmd : (rest.take cmdLen).length <= 244 := by
            rw [List.length_take]
            omega
          have harg : (rest.drop (cmdLen + 1)).length <= 244 := by
            rw [List.length_drop]
            omega
          rcases hcommand (rest.take cmdLen) hcmd with ⟨hstored, hout, hbase₁⟩
          generalize k.commStorePart 0 1 (rest.take cmdLen) = k₁ at hstored hout hbase₁ ⊢
          generalize rest.drop (cmdLen + 1) = arg at harg ⊢
          rw [commStorePart_eq hbase₁ (by omega)]
          by_cases hpos : arg.length > 0
          · rw [if_pos hpos]
            -- the argument is far behind the command
            refine ⟨⟨?_, ?_⟩, hout⟩
            · intro i hi hin
              rw [k₁.place_kept (Or.inl (by omega))]
              exact hstored.cell i hi hin
            · intro hlt
              rw [k₁.place_kept (Or.inl (by omega))]
              exact hstored.terminator hlt
          · rw [if_neg hpos]
            exact ⟨hstored, hout⟩

theorem commExec_told (hbase : (k.tasks 0).heapBase = 0)
    (hlimit : (k.tasks 0).heapLimit = 128) {payload : List Byte}
    (hlen : payload.length <= 244) (hholds : HoldsString k.globalHeap 1 payload 31) :
    exists answer k₁, Told k k₁ 0 (requestedName payload) answer ∧
      k.commExec 0 payload = k₁.stdWrite FD_STDOUT (text "Exec started.\n") := by
  rcases commParseExec_holds hbase hlimit hlen hholds with ⟨hstored, hout⟩
  have hsame : SameTasks 0 k (k.commParseExec 0 payload).2 :=
    .of_touches (k.commParseExec_touches 0 payload)
  unfold commExec
  generalize k.commParseExec 0 payload = parsed at hstored hout hsame ⊢
  rcases parsed with ⟨⟨waitOpt, argAddr⟩, k₁⟩
  simp only at hstored hout hsame ⊢
  rcases k₁.pushed_three 0 argAddr 1 waitOpt with ⟨hfirst, hsecond, hthird, hpopped⟩
  have hcall : (((k₁.stackPush 0 argAddr).stackPush 0 1).stackPush 0 waitOpt).systemCall 0 2 =
      (((k₁.stackPush 0 argAddr).stackPush 0 1).stackPush 0 waitOpt).syscallExec 0 := rfl
  rw [hcall, syscallExec_eq, hfirst, hsecond, hthird]
  generalize hk₂ : ((((k₁.stackPush 0 argAddr).stackPush 0 1).stackPush 0 waitOpt).stackPop
    0).2 = k₂ at hpopped ⊢
  have hheap : ((k₂.stackPop 0).2.stackPop 0).2.globalHeap = k₁.globalHeap := by
    rw [← hk₂]
    rfl
  have hsilent : ((k₂.stackPop 0).2.stackPop 0).2.serialOut = k.serialOut := by
    rw [← hout, ← hk₂]
    rfl
  generalize ((k₂.stackPop 0).2.stackPop 0).2 = k₃ at hpopped hheap hsilent ⊢
  have hbase₃ : (k₃.tasks 0).heapBase = 0 := by
    rcases (hsame.trans hpopped).own with ⟨stack, sp, hown⟩
    rw [hown]
    exact hbase
  rw [← hheap] at hstored
  rcases execWith_told hbase₃ hstored waitOpt argAddr with ⟨answer, htold⟩
  exact ⟨answer, _, htold.before (hsame.trans hpopped) hsilent, rfl⟩

end Calling

section Found

variable {k : Kernel sd} {payload : List Byte}

theorem commRequest_exec_told (hbase : (k.tasks 0).heapBase = 0)
    (hlimit : (k.tasks 0).heapLimit = 128) (hlen : payload.length <= 244) :
    exists answer k₁, Told k k₁ 0 (requestedName payload) answer ∧
      k.commRequest 0 SYS_EXEC payload = k₁.stdWrite FD_STDOUT (text "Exec started.\n") := by
  have hstored := commStorePayload_eq (k := k.note (.dispatch SYS_EXEC payload)) hbase hlimit
    hlen
  have htouches := (k.note (.dispatch SYS_EXEC payload)).commStorePayload_touches 0 payload
  rw [hstored] at htouches
  have hready := ((k.note_dispatch_sameTasks 0 SYS_EXEC payload).trans
    (.of_touches htouches)).trans (resetStack_sameTasks _ 0)
  have hexec : k.commRequest 0 SYS_EXEC payload =
      (((k.note (.dispatch SYS_EXEC payload)).place 1 payload).modifyTask 0 fun task =>
        { task with sp := -1 }).commExec 0 payload := by
    unfold commRequest
    simp only [hstored]
    rfl
  have hholds : HoldsString (((k.note (.dispatch SYS_EXEC payload)).place 1 payload).modifyTask
      0 fun task => { task with sp := -1 }).globalHeap 1 payload 31 :=
    ⟨fun i _ hi => placed_cell k.globalHeap 1 hi, fun _ => placed_end k.globalHeap 1 payload⟩
  have hout : (((k.note (.dispatch SYS_EXEC payload)).place 1 payload).modifyTask 0 fun task =>
      { task with sp := -1 }).serialOut = k.serialOut := rfl
  rw [hexec]
  generalize ((k.note (.dispatch SYS_EXEC payload)).place 1 payload).modifyTask 0
    (fun task => { task with sp := -1 }) = k₁ at hready hholds hout ⊢
  rcases hready.own with ⟨stack, sp, hown⟩
  have hbase₁ : (k₁.tasks 0).heapBase = 0 := by
    rw [hown]
    exact hbase
  have hlimit₁ : (k₁.tasks 0).heapLimit = 128 := by
    rw [hown]
    exact hlimit
  rcases commExec_told hbase₁ hlimit₁ hlen hholds with ⟨answer, k₂, htold, hdone⟩
  exact ⟨answer, k₂, htold.before hready hout, hdone⟩

/--
In every reachable state in which the daemon finds a `SYS_EXEC` request, whatever is in
it, it sends one line about the load and then "Exec started."; the first line is no error
exactly when a slot that was FREE is running afterwards.
-/
theorem exec_answered (hk : Reachable k) (h : Finds k SYS_EXEC payload) :
    exists answer, ExecSays k (requestedName payload) answer ∧
      Prints k (k.step .turn) [answer, (false, text "Exec started.\n")] ∧
      (answer.1 = false <-> exists child, (k.tasks child).taskState = .free ∧
        ((k.step .turn).tasks child).taskState = .running) := by
  rcases hk.daemon with ⟨hup, hsegment⟩
  rcases h.step (by decide) with ⟨hal, rxBuffer, hstep⟩
  rcases commRequest_exec_told (k := k.polled hal rxBuffer) hsegment.base hsegment.limit
    (h.length hk) with ⟨answer, k₁, htold, hdone⟩
  have hline := k₁.stdWrite_prints FD_STDOUT
    (show 0#8 ∉ text "Exec started.\n" by decide) (by decide)
  have htasks : (k.step .turn).tasks = k₁.tasks := by
    rw [hstep, hdone]
    exact k₁.stdWrite_tasks FD_STDOUT _
  have hsaid : ExecSays k (requestedName payload) answer := by
    apply ExecSays.congr ?_ ?_ ?_ htold.line
    · rfl
    · rfl
    · intro _
      rfl
  refine ⟨answer, hsaid, ?_, ?_⟩
  · have hprints := htold.prints.trans hline
    rw [hstep, hdone]
    generalize k₁.stdWrite FD_STDOUT (text "Exec started.\n") = k₂ at hprints ⊢
    exact hprints
  · rw [htold.starts, htasks]
    constructor
    · rintro ⟨child, _, hfree, hrunning⟩
      exact ⟨child, hfree, hrunning⟩
    · rintro ⟨child, hfree, hrunning⟩
      refine ⟨child, ?_, hfree, hrunning⟩
      rintro rfl
      have hrunnable := h.runnable
      rw [Task.isRunnable, hfree] at hrunnable
      cases hrunnable

end Found

theorem ExecSays.of_started {k : Kernel sd} {name : List Byte} {answer : Bool × List Byte}
    (h : ExecSays k name answer) (hfine : answer.1 = false) : answer = (false, text "\n") := by
  cases h with
  | noSlot h => cases hfine
  | loads child hchild hfree h =>
      cases h with
      | started header h hgood start hrun => rfl
      | notFound h => cases hfine
      | tooShort header h hshort => cases hfine
      | badMagic header h hlength hmagic => cases hfine
      | noHeap header h hgood hnone => cases hfine

def askedForProgram : Kernel CardImage.sdFat :=
  (boot (CardImage.ofProgram 16#8 [0x00#8] 4)).run [.arrive runRequest.bytes]

set_option maxRecDepth 4000 in
theorem exec_answered_asked :
    Prints askedForProgram (askedForProgram.step .turn)
      [(false, text "\n"), (false, text "Exec started.\n")] := by
  have hfacts : askedForProgram.current = 0 ∧
      (askedForProgram.tasks 0).isRunnable = true ∧
      (askedForProgram.hal.readPacket 0#16 askedForProgram.rxBuffer
        RX_BUFFER_SIZE).1.delivered = some (SYS_EXEC, text "0 p") ∧
      (askedForProgram.tasks 1).taskState = .free ∧
      ((askedForProgram.step .turn).tasks 1).taskState = .running := by decide +kernel
  rcases hfacts with ⟨hturn, hrunnable, hpacket, hslot⟩
  have hfinds : Finds askedForProgram SYS_EXEC (text "0 p") := ⟨hturn, hrunnable, hpacket⟩
  have hreached : Reachable askedForProgram := .run _ _ rfl
  rcases exec_answered hreached hfinds with ⟨answer, hsaid, hprints, hstarts⟩
  have hfine := hstarts.mpr ⟨1, hslot⟩
  rw [hsaid.of_started hfine] at hprints
  exact hprints

end Kernel
end ArduOS
