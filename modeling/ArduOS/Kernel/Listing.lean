import ArduOS.Kernel.Footprint
import ArduOS.Kernel.Jumps

/-!
# Listings and the program that asks for them

`Syscall_ls` closes the program file, and opens it again only after a listing.
Where it has done so the task fetches the same bytes as if nothing had happened.
-/

namespace ArduOS

open Library

namespace Kernel

variable {sd : SdFat} {data : sd.File -> List Byte} {pos : sd.File -> Nat}

/-!
## Streams that deliver the same
-/

def delivered (k : Kernel sd) (t : TaskId) : List CodeOp -> List (Option Byte)
  | [] => []
  | .jump addr :: ops => (k.jump t addr).delivered t ops
  | .fetch :: ops =>
      if ((k.fetchByte t).2.tasks t).isActive then
        some (k.fetchByte t).1 :: (k.fetchByte t).2.delivered t ops
      else [none]

structure SameStream (data : sd.File -> List Byte) (pos : sd.File -> Nat) (t : TaskId)
    (k k' : Kernel sd) : Prop where
  active : (k.tasks t).isActive = true ∧ (k'.tasks t).isActive = true
  file : exists file file', (k.tasks t).file = some file ∧
    (k'.tasks t).file = some file' ∧ data file' = data file ∧ pos file' = pos file
  codeBuffer : (k'.tasks t).codeBuffer = (k.tasks t).codeBuffer
  bufferIndex : (k'.tasks t).bufferIndex = (k.tasks t).bufferIndex

section Stream

variable {t : TaskId} {k k' : Kernel sd}

theorem SameStream.jump (law : sd.Lawful data pos) (seeks : sd.Seeks data pos)
    (h : SameStream data pos t k k') (addr : Int) :
    SameStream data pos t (k.jump t addr) (k'.jump t addr) := by
  rcases h.file with ⟨file, file', hfile, hfile', hdata, hpos⟩
  have htask := k.jump_task t addr hfile
  have htask' := k'.jump_task t addr hfile'
  constructor
  · rw [htask, htask']
    exact h.active
  · refine ⟨_, _, by rw [htask], by rw [htask'], ?_, ?_⟩
    · rw [law.seek_data, law.seek_data, hdata]
    · by_cases hinside : (BitVec.ofInt 32 (int16 (addr + 4))).toNat <= (data file).length
      · rw [law.seek_pos _ _ _ hinside, law.seek_pos _ _ _ (by rw [hdata]; exact hinside)]
      · rw [seeks.past_end _ _ _ (by rw [hdata]; omega), seeks.past_end _ _ _ (by omega),
          hpos]
  · rw [htask, htask']
    exact h.codeBuffer
  · rw [htask, htask']

theorem SameStream.take (h : SameStream data pos t k k') :
    (k'.takeByte t).1 = (k.takeByte t).1 ∧
      SameStream data pos t (k.takeByte t).2 (k'.takeByte t).2 := by
  have htask := k.takeByte_task t
  have htask' := k'.takeByte_task t
  constructor
  · simp only [takeByte, h.codeBuffer, h.bufferIndex]
  · constructor
    · rw [htask, htask']
      exact h.active
    · rw [htask, htask']
      exact h.file
    · rw [htask, htask']
      exact h.codeBuffer
    · rw [htask, htask']
      exact congrArg (· + 1) h.bufferIndex

theorem SameStream.refill (law : sd.Lawful data pos) (h : SameStream data pos t k k') :
    SameStream data pos t (k.refillBuffer t) (k'.refillBuffer t) ∨
      (((k.refillBuffer t).tasks t).isActive = false ∧
        ((k'.refillBuffer t).tasks t).isActive = false) := by
  rcases h.file with ⟨file, file', hfile, hfile', hdata, hpos⟩
  have hsame : sd.available file' = sd.available file := by
    rw [law.available, law.available, hdata, hpos]
  cases havailable : sd.available file with
  | true =>
      rw [havailable] at hsame
      have htask := k.refillBuffer_task t hfile havailable
      have htask' := k'.refillBuffer_task t hfile' hsame
      left
      constructor
      · rw [htask, htask']
        exact h.active
      · refine ⟨_, _, by rw [htask], by rw [htask'], ?_, ?_⟩
        · rw [law.read_data, law.read_data, hdata]
        · rw [law.read_pos, law.read_pos, hdata, hpos]
      · rw [htask, htask']
        simp only [law.read_bytes, hdata, hpos, h.codeBuffer]
      · rw [htask, htask']
  | false =>
      rw [havailable] at hsame
      right
      exact ⟨k.refillBuffer_ends t hfile havailable, k'.refillBuffer_ends t hfile' hsame⟩

theorem SameStream.fetch (law : sd.Lawful data pos) (h : SameStream data pos t k k') :
    ((k'.fetchByte t).1 = (k.fetchByte t).1 ∧
        SameStream data pos t (k.fetchByte t).2 (k'.fetchByte t).2) ∨
      (((k.fetchByte t).2.tasks t).isActive = false ∧
        ((k'.fetchByte t).2.tasks t).isActive = false) := by
  unfold fetchByte
  rw [h.bufferIndex]
  split
  · rcases h.refill law with hfilled | ⟨hended, hended'⟩
    · rcases hfilled.active with ⟨hactive, hactive'⟩
      simp only [hactive, hactive', not_true_eq_false, if_false]
      exact Or.inl hfilled.take
    · simp only [hended, hended', Bool.false_eq_true, not_false_eq_true, if_true]
      exact Or.inr ⟨trivial, trivial⟩
  · exact Or.inl h.take

theorem SameStream.delivered (law : sd.Lawful data pos) (seeks : sd.Seeks data pos)
    (h : SameStream data pos t k k') (ops : List CodeOp) :
    k'.delivered t ops = k.delivered t ops := by
  induction ops generalizing k k' with
  | nil => rfl
  | cons op ops ih =>
      cases op with
      | jump addr => exact ih (h.jump law seeks addr)
      | fetch =>
          unfold Kernel.delivered
          rcases h.fetch law with ⟨hbyte, hnext⟩ | ⟨hended, hended'⟩
          · rw [if_pos hnext.active.left, if_pos hnext.active.right, hbyte, ih hnext]
          · rw [if_neg (by simp [hended']), if_neg (by simp [hended])]

end Stream

/-!
## After a listing
-/

def lsCard (k : Kernel sd) (t : TaskId) (selector : Int) : sd.Card :=
  match sd.openPath k.card (k.lsTargetPath t selector) with
  | (some dir, card) => (sd.entries card dir).2
  | (none, card) => card

/-- Reopening the file of the task gives `program`. -/
def ReopensProgram (data : sd.File -> List Byte) (program : List Byte) (k : Kernel sd)
    (t : TaskId) (selector : Int) : Prop :=
  exists file, (sd.openPath (k.lsCard t selector) (k.tasks t).filename).1 = some file ∧
    data file = program

/-- The task goes on in `k'` as it would have in `k`. -/
structure Undisturbed (data : sd.File -> List Byte) (pos : sd.File -> Nat) (t : TaskId)
    (k k' : Kernel sd) : Prop where
  file : exists file file', (k.tasks t).file = some file ∧
    (k'.tasks t).file = some file' ∧ data file' = data file ∧ pos file' = pos file
  codeBuffer : (k'.tasks t).codeBuffer = (k.tasks t).codeBuffer
  bufferIndex : (k'.tasks t).bufferIndex = (k.tasks t).bufferIndex
  running : (k'.tasks t).taskState = .running
  fetches : forall ops, k'.delivered t ops = k.delivered t ops

section Listing

variable {k : Kernel sd} {t : TaskId} {file : sd.File}

theorem lsReopen_task (law : sd.Lawful data pos) {program : List Byte} {p : Nat}
    (hp : p <= program.length) {current : BitVec 32} (hcurrent : current.toNat = p)
    (hopen : (sd.openPath k.card (k.tasks t).filename).1 = some file)
    (hdata : data file = program) :
    exists file', (k.lsReopen t current).tasks t = { k.tasks t with file := some file' } ∧
      data file' = program ∧ pos file' = p := by
  have hopened : (k.openFile t (k.tasks t).filename).tasks t =
      { k.tasks t with file := some file } := by
    simp [openFile, modifyTask, hopen]
  have hsome : ((k.openFile t (k.tasks t).filename).tasks t).file = some file := by
    rw [hopened]
  unfold lsReopen
  simp only [hsome, Option.isSome_some, if_true]
  generalize k.openFile t (k.tasks t).filename = k₁ at hopened hsome ⊢
  refine ⟨(sd.seek k₁.card file current).1, ?_, ?_, ?_⟩
  · simp [seekFile, modifyTask, withCard, hopened]
  · rw [law.seek_data, hdata]
  · rw [law.seek_pos _ _ _ (by rw [hdata, hcurrent]; exact hp), hcurrent]

theorem lsWith_undisturbed (law : sd.Lawful data pos) (seeks : sd.Seeks data pos)
    (hfile : (k.tasks t).file = some file) (hrunning : (k.tasks t).taskState = .running)
    (hpos : pos file <= (data file).length) (hsize : (data file).length < 2 ^ 32)
    {selector : Int} (hreopen : ReopensProgram data (data file) k t selector)
    (bufSize bufAddr : Int) :
    Undisturbed data pos t k (k.lsWith t selector bufSize bufAddr) <->
      (sd.openPath k.card (k.lsTargetPath t selector)).1.isSome = true := by
  rcases hreopen with ⟨reopened, hopen, hdata⟩
  have hcard : (k.closeFile t).card = k.card := rfl
  have hclosed : (k.closeFile t).tasks t = { k.tasks t with file := none } := by
    simp [closeFile, modifyTask]
  unfold lsCard at hopen
  unfold lsWith
  cases hdir : sd.openPath k.card (k.lsTargetPath t selector) with
  | mk dir card =>
      simp only [hcard, hdir, hfile] at hopen ⊢
      have htask : ((k.closeFile t).withCard card).tasks t =
          { k.tasks t with file := none } := hclosed
      have hcard₁ : ((k.closeFile t).withCard card).card = card := rfl
      generalize (k.closeFile t).withCard card = k₁ at htask hcard₁ ⊢
      cases dir with
      | none =>
          have hlost : ((k₁.heapSetBelow (k.getPhysAddr t bufAddr) (-1)).tasks t).file =
              none := by
            have htouches := k₁.heapSetBelow_touches (R := fun _ => True)
              (W := fun _ => True) (-1) (fun _ => trivial)
              (c := k.getPhysAddr t bufAddr)
            rw [htouches.tasks, htask]
          simp only [Option.isSome_none, Bool.false_eq_true, iff_false]
          intro hundisturbed
          rcases hundisturbed.file with ⟨_, file', _, hfile', _⟩
          rw [hlost] at hfile'
          cases hfile'
      | some dir =>
          have htouches := k₁.lsList_touches dir (k.getPhysAddr t bufAddr) bufSize
          have hlisted := htouches.tasks
          have hcard₂ := htouches.card
          simp only [Option.isSome_some, iff_true]
          generalize k₁.lsList dir (k.getPhysAddr t bufAddr) bufSize = k₂
            at hlisted hcard₂ ⊢
          have htask₂ : k₂.tasks t = { k.tasks t with file := none } := by
            rw [hlisted]
            exact htask
          have hopen₂ : (sd.openPath k₂.card (k₂.tasks t).filename).1 = some reopened := by
            rw [hcard₂, htask₂, withCard_card, hcard₁]
            exact hopen
          have hcurrent := seeks.curPosition file (by omega)
          rcases lsReopen_task law hpos hcurrent hopen₂ hdata with
            ⟨file', htask', hdata', hpos'⟩
          rw [htask₂] at htask'
          have hsame : SameStream data pos t k
              (k₂.lsReopen t (sd.curPosition file)) := by
            constructor
            · rw [htask']
              simp [Task.isActive, hrunning]
            · exact ⟨file, file', hfile, by rw [htask'], hdata', hpos'⟩
            · rw [htask']
            · rw [htask']
          constructor
          · exact hsame.file
          · exact hsame.codeBuffer
          · exact hsame.bufferIndex
          · rw [htask']
            exact hrunning
          · exact hsame.delivered law seeks

theorem SameStream.undisturbed {k₁ k' : Kernel sd} (law : sd.Lawful data pos)
    (seeks : sd.Seeks data pos) (h : SameStream data pos t k k₁) :
    Undisturbed data pos t k k' <-> Undisturbed data pos t k₁ k' := by
  have hfetches := h.delivered law seeks
  rcases h.file with ⟨file, file₁, hfile, hfile₁, hdata, hpos⟩
  constructor
  · rintro ⟨⟨file₂, file', hfile₂, hfile', hdata', hpos'⟩, hbuffer, hindex, hrun, hsame⟩
    rw [hfile] at hfile₂
    cases hfile₂
    refine ⟨⟨file₁, file', hfile₁, hfile', hdata'.trans hdata.symm,
      hpos'.trans hpos.symm⟩, hbuffer.trans h.codeBuffer.symm,
      hindex.trans h.bufferIndex.symm, hrun, ?_⟩
    intro ops
    rw [hsame ops, hfetches ops]
  · rintro ⟨⟨file₂, file', hfile₂, hfile', hdata', hpos'⟩, hbuffer, hindex, hrun, hsame⟩
    rw [hfile₁] at hfile₂
    cases hfile₂
    refine ⟨⟨file, file', hfile, hfile', hdata'.trans hdata, hpos'.trans hpos⟩,
      hbuffer.trans h.codeBuffer, hindex.trans h.bufferIndex, hrun, ?_⟩
    intro ops
    rw [hsame ops, hfetches ops]

/--
Provided the program can be opened again, `ls` leaves it undisturbed if and only
if the directory to list opens.
-/
theorem listing_keeps_program (law : sd.Lawful data pos) (seeks : sd.Seeks data pos)
    (hfile : (k.tasks t).file = some file) (hrunning : (k.tasks t).taskState = .running)
    (hpos : pos file <= (data file).length) (hsize : (data file).length < 2 ^ 32)
    (hreopen : ReopensProgram data (data file) k t (k.operand t 0)) :
    Undisturbed data pos t k (k.syscallLs t) <->
      (sd.openPath k.card (k.lsTargetPath t (k.operand t 0))).1.isSome = true := by
  have htask := k.stackPops_task t
  have hcard : (((k.stackPop t).2.stackPop t).2.stackPop t).2.card = k.card := rfl
  rw [syscallLs_eq]
  generalize (((k.stackPop t).2.stackPop t).2.stackPop t).2 = k₁ at htask hcard ⊢
  have hpath : k₁.lsTargetPath t (k.operand t 0) = k.lsTargetPath t (k.operand t 0) := by
    simp only [lsTargetPath, resolvePath, htask]
  have hsame : SameStream data pos t k k₁ := by
    constructor
    · rw [htask]
      simp [Task.isActive, hrunning]
    · exact ⟨file, file, hfile, by rw [htask]; exact hfile, rfl, rfl⟩
    · rw [htask]
    · rw [htask]
  have hreopen₁ : ReopensProgram data (data file) k₁ t (k.operand t 0) := by
    unfold ReopensProgram lsCard at hreopen ⊢
    rw [hpath, hcard, htask]
    exact hreopen
  rw [hsame.undisturbed law seeks, ← hpath, ← hcard]
  exact lsWith_undisturbed law seeks (by rw [htask]; exact hfile)
    (by rw [htask]; exact hrunning) hpos hsize hreopen₁ (k.operand t 1) (k.operand t 2)

end Listing

/-!
## Examples
-/

def argListingCode : List Byte :=
  [0x10#8, 0x00#8, 0x00#8, 0x10#8, 0x02#8, 0x00#8, 0x10#8, 0x01#8, 0x00#8,
    0x10#8, 0x01#8, 0x00#8, 0x30#8]

/-- The host asks for the program `p` with the argument `x`. -/
def runWithArgumentRequest : SentPacket :=
  sentPacket SP_UNFRAGED PT_STRING SYS_EXEC (text "0 p x")
    execArguments (by decide)

/-- The program about to list a directory, started with this request. -/
def listing (request : SentPacket) : Kernel CardImage.sdFat :=
  (((((boot (CardImage.ofProgram 16#8 argListingCode 3)).run
    (.arrive request.bytes :: List.replicate 13 .turn)).fetchByte 1).2.stackPop 1).2)

def argListingProgram : List Byte :=
  [0xAD#8, 0x01#8, 0x10#8, 0x00#8] ++ argListingCode

set_option maxRecDepth 4000 in
/-- A listing of the working directory. -/
theorem listing_keeps_program_cwd :
    Undisturbed ImageFile.data ImageFile.pos 1 (listing runRequest)
      ((listing runRequest).syscallLs 1) := by
  have hrun : ((listing runRequest).tasks 1).file.map
        (fun file => (file.data, file.pos)) = some (argListingProgram, 17) ∧
      (((listing runRequest).tasks 1).taskState = .running ∧
        (CardImage.sdFat.openPath (listing runRequest).card
          ((listing runRequest).lsTargetPath 1
            ((listing runRequest).operand 1 0))).1.isSome = true) ∧
      (CardImage.sdFat.openPath ((listing runRequest).lsCard 1
        ((listing runRequest).operand 1 0)) ((listing runRequest).tasks 1).filename).1.map
          ImageFile.data = some argListingProgram := by decide +kernel
  rcases hrun with ⟨hstream, hready, hreopened⟩
  rcases Option.map_eq_some_iff.mp hstream with ⟨file, hfile, hshape⟩
  rw [Prod.mk.injEq] at hshape
  have hreopen : ReopensProgram ImageFile.data file.data (listing runRequest) 1
      ((listing runRequest).operand 1 0) := by
    rcases Option.map_eq_some_iff.mp hreopened with ⟨reopened, hopen, hdata⟩
    exact ⟨reopened, hopen, hdata.trans hshape.left.symm⟩
  have hlength : file.data.length = 17 := by
    rw [hshape.left]
    decide
  exact (listing_keeps_program sdFat_lawful sdFat_seeks hfile hready.left (by omega)
    (by omega) hreopen).mpr hready.right

set_option maxRecDepth 4000 in
/-- Without such a directory the program is not opened again. -/
theorem listing_loses_program :
    exists file, ((listing runWithArgumentRequest).tasks 1).file = some file ∧
      ((listing runWithArgumentRequest).tasks 1).taskState = .running ∧
      ReopensProgram ImageFile.data file.data (listing runWithArgumentRequest) 1
        ((listing runWithArgumentRequest).operand 1 0) ∧
      (((listing runWithArgumentRequest).syscallLs 1).tasks 1).file.isNone = true ∧
      ¬ Undisturbed ImageFile.data ImageFile.pos 1 (listing runWithArgumentRequest)
        ((listing runWithArgumentRequest).syscallLs 1) := by
  have hrun : ((listing runWithArgumentRequest).tasks 1).file.map ImageFile.data =
        some argListingProgram ∧
      (((listing runWithArgumentRequest).tasks 1).taskState = .running ∧
        (((listing runWithArgumentRequest).syscallLs 1).tasks 1).file.isNone = true) ∧
      (CardImage.sdFat.openPath ((listing runWithArgumentRequest).lsCard 1
        ((listing runWithArgumentRequest).operand 1 0))
          ((listing runWithArgumentRequest).tasks 1).filename).1.map ImageFile.data =
            some argListingProgram := by decide +kernel
  rcases hrun with ⟨hstream, hlost, hreopened⟩
  rcases Option.map_eq_some_iff.mp hstream with ⟨file, hfile, hdata⟩
  rcases Option.map_eq_some_iff.mp hreopened with ⟨reopened, hopen, hdata'⟩
  refine ⟨file, hfile, hlost.left, ⟨reopened, hopen, hdata'.trans hdata.symm⟩, hlost.right,
    ?_⟩
  intro hundisturbed
  rcases hundisturbed.file with ⟨_, file', _, hfile', _⟩
  have hnone := hlost.right
  rw [hfile'] at hnone
  cases hnone

end Kernel
end ArduOS
