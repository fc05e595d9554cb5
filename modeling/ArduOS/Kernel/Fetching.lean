import ArduOS.Kernel.Runs
import ArduOS.Library.Windows

/-!
# Fetching code

The code of a program is read through a buffer of 32 bytes, and how many bytes
the last refill got is not kept.  So fetching agrees with the file up to its
end, and notices the end only where a refill begins there.
-/

namespace ArduOS

open Library

/-- What the code relies on in `SdFat`; `data` and `pos` are the bytes of an
open file and where it is read next. -/
structure SdFat.Lawful (sd : SdFat) (data : sd.File -> List Byte)
    (pos : sd.File -> Nat) : Prop where
  opened : forall card path file, (sd.openPath card path).1 = some file -> pos file = 0
  read_bytes : forall card file n,
    (sd.read card file n).1 = (true, ((data file).drop (pos file)).take n)
  read_data : forall card file n, data (sd.read card file n).2.1 = data file
  read_pos : forall card file n, pos (sd.read card file n).2.1 =
    pos file + min n ((data file).length - pos file)
  available : forall file, sd.available file = decide (pos file < (data file).length)
  seek_data : forall card file p, data (sd.seek card file p).1 = data file
  seek_pos : forall card file (p : BitVec 32), p.toNat <= (data file).length ->
    pos (sd.seek card file p).1 = p.toNat

/-- A fetch, or a jump to a place in the code. -/
inductive CodeOp where
  | fetch
  | jump (addr : Nat)
  deriving DecidableEq

namespace Kernel

variable {sd : SdFat}

/--
Each fetch returns the byte of the program at `pc`, or ends the task where the
program ends; what would come after that is not executed.
-/
def Faithful (program : List Byte) (t : TaskId) : Kernel sd -> Nat -> List CodeOp -> Prop
  | _, _, [] => True
  | k, _, .jump addr :: ops => Faithful program t (k.jump t addr) addr ops
  | k, pc, .fetch :: ops =>
      if 4 + pc < program.length then
        ((k.fetchByte t).2.tasks t).isActive = true ∧
          program[4 + pc]? = some (k.fetchByte t).1 ∧
          Faithful program t (k.fetchByte t).2 (pc + 1) ops
      else ((k.fetchByte t).2.tasks t).isActive = false

instance Faithful.decidable (program : List Byte) (t : TaskId) :
    forall (k : Kernel sd) pc ops, Decidable (Faithful program t k pc ops)
  | _, _, [] => .isTrue trivial
  | k, _, .jump addr :: ops => Faithful.decidable program t (k.jump t addr) addr ops
  | k, pc, .fetch :: ops =>
      have := Faithful.decidable program t (k.fetchByte t).2 (pc + 1) ops
      inferInstanceAs (Decidable (if 4 + pc < program.length then
          ((k.fetchByte t).2.tasks t).isActive = true ∧
            program[4 + pc]? = some (k.fetchByte t).1 ∧
            Faithful program t (k.fetchByte t).2 (pc + 1) ops
        else ((k.fetchByte t).2.tasks t).isActive = false))

/--
No fetch meets the end of a program of `size` bytes except where a refill
begins: at a multiple of 32 from `origin`, the last place jumped to or the
first byte of code, and not before anything was fetched at all.
-/
def Aligned (size : Nat) : Nat -> Nat -> Bool -> List CodeOp -> Prop
  | _, _, _, [] => True
  | _, _, _, .jump addr :: ops => Aligned size (4 + addr) addr false ops
  | origin, pc, fresh, .fetch :: ops =>
      if 4 + pc < size then Aligned size origin (pc + 1) false ops
      else fresh = false ∧ size % CODE_BUFFER_SIZE = origin % CODE_BUFFER_SIZE

theorem overwrite_eq (bytes : List Byte) (buffer : Buffer) :
    overwrite bytes buffer = refilled bytes buffer := by
  funext i
  unfold overwrite refilled bufferOf
  by_cases hi : i < bytes.length
  · rw [if_pos hi]
    simp [hi]
  · rw [if_neg hi, List.getElem?_eq_none (by omega)]
    rfl

section Streaming

variable {data : sd.File -> List Byte} {pos : sd.File -> Nat}

/-- Task `t` runs `program`, read through its code buffer, and is at `pc`. -/
structure Streaming (data : sd.File -> List Byte) (pos : sd.File -> Nat)
    (program : List Byte) (k : Kernel sd) (t : TaskId) (origin pc : Nat)
    (fresh : Bool) : Prop where
  active : (k.tasks t).isActive = true
  file : exists file, (k.tasks t).file = some file ∧ data file = program ∧
    Window CODE_BUFFER_SIZE program (k.tasks t).codeBuffer (k.tasks t).bufferIndex
      (pos file) (4 + pc)
  phase : (4 + pc + (CODE_BUFFER_SIZE - (k.tasks t).bufferIndex)) % CODE_BUFFER_SIZE =
    origin % CODE_BUFFER_SIZE
  fetched : fresh = false <-> (k.tasks t).bufferIndex ≠ 0

variable {program : List Byte} {k : Kernel sd} {t : TaskId} {origin pc : Nat}
  {fresh : Bool}

/-!
## Jumps
-/

theorem jump_task (k : Kernel sd) (t : TaskId) (addr : Int) {file : sd.File}
    (hfile : (k.tasks t).file = some file) :
    (k.jump t addr).tasks t =
      { k.tasks t with
        file := some (sd.seek k.card file (BitVec.ofInt 32 (int16 (addr + 4)))).1
        bufferIndex := CODE_BUFFER_SIZE } := by
  simp [jump, seekFile, hfile, modifyTask, withCard]

theorem toNat_offset {addr : Nat} (hint : 4 + addr < 32768) :
    (BitVec.ofInt 32 (int16 ((addr : Int) + 4))).toNat = 4 + addr := by
  rw [int16_eq_self (by omega) (by omega), BitVec.toNat_ofInt]
  omega

theorem jump_streaming (law : sd.Lawful data pos)
    (h : Streaming data pos program k t origin pc fresh) {addr : Nat}
    (hinside : 4 + addr <= program.length) (hint : 4 + addr < 32768) :
    Streaming data pos program (k.jump t addr) t (4 + addr) addr false := by
  rcases h.file with ⟨file, hfile, hdata, _⟩
  have htask := k.jump_task t addr hfile
  have hoffset := toNat_offset hint
  constructor
  · rw [htask]
    exact h.active
  · refine ⟨_, by rw [htask], ?_, ?_⟩
    · rw [law.seek_data, hdata]
    · rw [law.seek_pos _ _ _ (by rw [hoffset, hdata]; exact hinside), hoffset, htask]
      exact window_jump CODE_BUFFER_SIZE program _ (4 + addr) hinside
  · rw [htask]
    simp
  · rw [htask]
    simp

/-!
## Fetches
-/

theorem takeByte_task (k : Kernel sd) (t : TaskId) :
    (k.takeByte t).2.tasks t =
      { k.tasks t with bufferIndex := (k.tasks t).bufferIndex + 1 } := by
  simp [takeByte, modifyTask]

theorem takeByte_streaming (h : Streaming data pos program k t origin pc fresh)
    (hidx : (k.tasks t).bufferIndex < CODE_BUFFER_SIZE)
    (hpc : 4 + pc < program.length) :
    program[4 + pc]? = some (k.takeByte t).1 ∧
      Streaming data pos program (k.takeByte t).2 t origin (pc + 1) false := by
  rcases h.file with ⟨file, hfile, hdata, hwindow⟩
  have htask := k.takeByte_task t
  have hphase := h.phase
  refine ⟨hwindow.current hidx hpc, ?_⟩
  constructor
  · rw [htask]
    exact h.active
  · refine ⟨file, by rw [htask]; exact hfile, hdata, ?_⟩
    rw [htask]
    exact hwindow.take hidx hpc
  · rw [htask, ← hphase]
    congr 1
    simp only
    omega
  · rw [htask]
    simp

theorem refillBuffer_task (k : Kernel sd) (t : TaskId) {file : sd.File}
    (hfile : (k.tasks t).file = some file) (havailable : sd.available file = true) :
    (k.refillBuffer t).tasks t =
      { k.tasks t with
        file := some (sd.read k.card file CODE_BUFFER_SIZE).2.1
        codeBuffer := overwrite ((sd.read k.card file CODE_BUFFER_SIZE).1.2.take
          CODE_BUFFER_SIZE) (k.tasks t).codeBuffer
        bufferIndex := 0 } := by
  simp [refillBuffer, readFile, hfile, havailable, modifyTask, withCard]

theorem refillBuffer_ends (k : Kernel sd) (t : TaskId) {file : sd.File}
    (hfile : (k.tasks t).file = some file) (hended : sd.available file = false) :
    ((k.refillBuffer t).tasks t).isActive = false := by
  have hrefill : k.refillBuffer t = k.terminateTask t := by
    unfold refillBuffer
    rw [if_neg (by simp [hfile, hended])]
  have hfree : ((k.terminateTask t).tasks t).taskState = .free :=
    (k.terminateTask_exits t).free
  rw [hrefill]
  simp [Task.isActive, hfree]

theorem refillBuffer_streaming (law : sd.Lawful data pos)
    (h : Streaming data pos program k t origin pc fresh)
    (hidx : (k.tasks t).bufferIndex = CODE_BUFFER_SIZE)
    (hpc : 4 + pc < program.length) :
    Streaming data pos program (k.refillBuffer t) t origin pc true := by
  rcases h.file with ⟨file, hfile, hdata, hwindow⟩
  have hphase := h.phase
  rw [hidx] at hwindow hphase
  have hnext := hwindow.next_of_used
  have havailable : sd.available file = true := by
    rw [law.available, hdata, hnext, decide_eq_true_eq]
    exact hpc
  have htask := k.refillBuffer_task t hfile havailable
  have hbytes : (sd.read k.card file CODE_BUFFER_SIZE).1.2.take CODE_BUFFER_SIZE =
      (program.drop (pos file)).take CODE_BUFFER_SIZE := by
    rw [law.read_bytes, hdata, List.take_take, Nat.min_self]
  constructor
  · rw [htask]
    exact h.active
  · refine ⟨_, by rw [htask], ?_, ?_⟩
    · rw [law.read_data, hdata]
    · rw [htask, law.read_pos, hdata]
      simp only
      rw [hbytes, overwrite_eq]
      exact hwindow.refill
  · rw [htask, ← hphase]
    simp
  · rw [htask]
    simp

theorem fetchByte_of_used {k : Kernel sd} {t : TaskId}
    (hidx : (k.tasks t).bufferIndex = CODE_BUFFER_SIZE) :
    k.fetchByte t =
      if ((k.refillBuffer t).tasks t).isActive then (k.refillBuffer t).takeByte t
      else (0#8, k.refillBuffer t) := by
  unfold fetchByte
  rw [if_pos (by rw [hidx])]
  by_cases hactive : ((k.refillBuffer t).tasks t).isActive = true
  · simp [hactive]
  · simp [hactive]

theorem fetchByte_of_left {k : Kernel sd} {t : TaskId}
    (hidx : (k.tasks t).bufferIndex < CODE_BUFFER_SIZE) :
    k.fetchByte t = k.takeByte t := by
  unfold fetchByte
  rw [if_neg (by omega)]

theorem fetchByte_streaming (law : sd.Lawful data pos)
    (h : Streaming data pos program k t origin pc fresh)
    (hpc : 4 + pc < program.length) :
    program[4 + pc]? = some (k.fetchByte t).1 ∧
      Streaming data pos program (k.fetchByte t).2 t origin (pc + 1) false := by
  rcases h.file with ⟨_, _, _, hwindow⟩
  rcases Nat.lt_or_eq_of_le hwindow.used with hleft | hused
  · rw [fetchByte_of_left hleft]
    exact takeByte_streaming h hleft hpc
  · have hrefilled := refillBuffer_streaming law h hused hpc
    have hidx : ((k.refillBuffer t).tasks t).bufferIndex = 0 := by
      by_contra hne
      cases hrefilled.fetched.mpr hne
    rw [fetchByte_of_used hused, if_pos hrefilled.active]
    exact takeByte_streaming hrefilled (by rw [hidx]; decide) hpc

/-- Where the program ends a fetch ends the task if a refill begins there. -/
theorem fetchByte_at_end (law : sd.Lawful data pos)
    (h : Streaming data pos program k t origin pc fresh)
    (hpc : ¬ 4 + pc < program.length) :
    ((k.fetchByte t).2.tasks t).isActive = false <->
      fresh = false ∧ program.length % CODE_BUFFER_SIZE = origin % CODE_BUFFER_SIZE := by
  rcases h.file with ⟨file, hfile, hdata, hwindow⟩
  have hend : program.length = 4 + pc := by
    have hinside := hwindow.inside
    omega
  have hphase := h.phase
  have hsize : CODE_BUFFER_SIZE = 32 := rfl
  rcases Nat.lt_or_eq_of_le hwindow.used with hleft | hused
  · rw [fetchByte_of_left hleft, takeByte_task]
    have hactive : (k.tasks t).isActive = true := h.active
    constructor
    · intro hcontra
      rw [Task.isActive] at hactive hcontra
      simp only at hcontra
      rw [hactive] at hcontra
      cases hcontra
    · rintro ⟨hfetched, haligned⟩
      have hidx := h.fetched.mp hfetched
      rw [hsize] at hphase haligned hleft
      omega
  · have hnext : pos file = 4 + pc := by
      rw [hused] at hwindow
      exact hwindow.next_of_used
    have hended : sd.available file = false := by
      rw [law.available, hdata, hnext, hend]
      simp
    have hover := k.refillBuffer_ends t hfile hended
    rw [fetchByte_of_used hused, if_neg (by simp [hover])]
    constructor
    · intro _
      refine ⟨h.fetched.mpr (by omega), ?_⟩
      rw [hused, Nat.sub_self, Nat.add_zero] at hphase
      rw [hend]
      exact hphase
    · intro _
      exact hover

/-- From a state that streams the program, fetching is faithful exactly as long
as the program ends where a refill begins. -/
theorem faithful_iff_aligned (law : sd.Lawful data pos) (ops : List CodeOp)
    (h : Streaming data pos program k t origin pc fresh)
    (hjumps : forall addr, .jump addr ∈ ops -> 4 + addr <= program.length ∧
      4 + addr < 32768) :
    Faithful program t k pc ops <-> Aligned program.length origin pc fresh ops := by
  induction ops generalizing k origin pc fresh with
  | nil => exact Iff.rfl
  | cons op ops ih =>
      have hlater : forall addr, .jump addr ∈ ops ->
          4 + addr <= program.length ∧ 4 + addr < 32768 :=
        fun addr hin => hjumps addr (List.mem_cons_of_mem op hin)
      cases op with
      | jump addr =>
          rcases hjumps addr List.mem_cons_self with ⟨hinside, hint⟩
          exact ih (jump_streaming law h hinside hint) hlater
      | fetch =>
          unfold Faithful Aligned
          by_cases hpc : 4 + pc < program.length
          · rw [if_pos hpc, if_pos hpc]
            rcases fetchByte_streaming law h hpc with ⟨hbyte, hnext⟩
            have hrest := ih hnext hlater
            constructor
            · rintro ⟨_, _, hfaithful⟩
              exact hrest.mp hfaithful
            · intro haligned
              exact ⟨hnext.active, hbyte, hrest.mpr haligned⟩
          · rw [if_neg hpc, if_neg hpc]
            exact fetchByte_at_end law h hpc

/-!
## Loading
-/

theorem findProgram_file (law : sd.Lawful data pos) (k : Kernel sd) (id : TaskId)
    (inputName : List Byte) {file : sd.File}
    (hfile : ((k.findProgram id inputName).2.tasks id).file = some file) :
    pos file = 0 := by
  have hopened : forall (k : Kernel sd) (path : List Byte),
      ((k.tryOpen id path).tasks id).file = some file -> pos file = 0 := by
    intro k path htry
    rw [(k.tryOpen_file id path).left] at htry
    exact law.opened _ _ _ htry
  unfold findProgram at hfile
  simp only at hfile
  split at hfile
  · exact hopened _ _ hfile
  · split at hfile
    · exact hopened _ _ hfile
    · exact hopened _ _ hfile

theorem readFile_task (k : Kernel sd) (t : TaskId) (n : Nat) {file : sd.File}
    (hfile : (k.tasks t).file = some file) :
    (k.readFile t n).2.tasks t =
      { k.tasks t with file := some (sd.read k.card file n).2.1 } := by
  simp [readFile, hfile, modifyTask, withCard]

theorem allocSegment_file (k : Kernel sd) (id : TaskId) (size : Int) :
    ((k.allocSegment id size).2.tasks id).file = (k.tasks id).file := by
  rcases k.allocSegment_cases id size with ⟨hnone, _⟩ | ⟨start, _, hfound⟩
  · rw [hnone]
  · rw [hfound]
    simp [modifyTask, setAllocatedRange_tasks]

theorem startTask_task (k : Kernel sd) (id : TaskId) (path : List Byte) {file : sd.File}
    (hfile : (k.tasks id).file = some file) :
    (k.startTask id path).tasks id =
      { k.tasks id with
        filename := path.take 127
        bufferIndex := 0
        file := some (sd.read k.card file CODE_BUFFER_SIZE).2.1
        codeBuffer := overwrite ((sd.read k.card file CODE_BUFFER_SIZE).1.2.take
          CODE_BUFFER_SIZE) (k.tasks id).codeBuffer
        taskState := .running
        sp := -1
        wakeUpTime := 0#32 } := by
  simp [startTask, readFile, hfile, modifyTask, withCard, stdWrite_tasks,
    Task.setRunning]

theorem startTask_streaming (law : sd.Lawful data pos) (k : Kernel sd) (id : TaskId)
    (path : List Byte) {file : sd.File} (hfile : (k.tasks id).file = some file)
    (hpos : pos file = 4) (hlength : 4 <= (data file).length) :
    Streaming data pos (data file) (k.startTask id path) id 4 0 true := by
  have htask := k.startTask_task id path hfile
  have hbytes : (sd.read k.card file CODE_BUFFER_SIZE).1.2.take CODE_BUFFER_SIZE =
      ((data file).drop 4).take CODE_BUFFER_SIZE := by
    rw [law.read_bytes, hpos, List.take_take, Nat.min_self]
  constructor
  · rw [htask]
    rfl
  · refine ⟨_, by rw [htask], ?_, ?_⟩
    · rw [law.read_data]
    · rw [htask, law.read_pos, hpos]
      simp only
      rw [hbytes, overwrite_eq]
      exact (window_jump CODE_BUFFER_SIZE (data file) _ 4 hlength).refill
  · rw [htask]
    simp
  · rw [htask]
    simp

theorem loadTask_streaming (law : sd.Lawful data pos) (k : Kernel sd) (id : TaskId)
    (inputName : List Byte) (argStr parentCwd parentArgStr : Option (List Byte))
    (hok : (k.loadTask id inputName argStr parentCwd parentArgStr).1 = true) :
    exists file,
      ((k.loadTask id inputName argStr parentCwd parentArgStr).2.tasks id).file =
        some file ∧
      4 <= (data file).length ∧
      Streaming data pos (data file)
        (k.loadTask id inputName argStr parentCwd parentArgStr).2 id 4 0 true := by
  unfold loadTask at hok ⊢
  simp only at hok ⊢
  generalize k.prepareTask id argStr parentCwd parentArgStr = k₁ at hok ⊢
  have hfound := fun file => @findProgram_file _ _ _ law k₁ id inputName file
  generalize k₁.findProgram id inputName = found at hok hfound ⊢
  rcases found with ⟨path, k₂⟩
  simp only at hok hfound ⊢
  cases hfile : (k₂.tasks id).file with
  | none => simp [hfile] at hok
  | some file =>
      have hstart := hfound file hfile
      have hresult := readFile_fst k₂ id 4 hfile
      have hread : ((k₂.readFile id 4).2.tasks id).file =
          some (sd.read k₂.card file 4).2.1 := by
        rw [readFile_task k₂ id 4 hfile]
      rw [law.read_bytes, hstart] at hresult
      have hpos := law.read_pos k₂.card file 4
      have hdata := law.read_data k₂.card file 4
      rw [hstart] at hpos
      generalize (sd.read k₂.card file 4).2.1 = file₁ at hread hpos hdata
      generalize k₂.readFile id 4 = header at hok hresult hread ⊢
      rcases header with ⟨result, k₃⟩
      simp only [hfile, Option.isSome_some, if_true] at hok hresult hread ⊢
      by_cases hlength : result.1 = true ∧ result.2.length = 4
      · rw [if_pos hlength] at hok ⊢
        have hlong : 4 <= (data file).length := by
          have hcount := hlength.right
          rw [hresult] at hcount
          simp only [List.drop_zero, List.length_take] at hcount
          omega
        by_cases hmagic : bufferOf result.2 0 = 0xAD#8 ∧ bufferOf result.2 1 = 0x01#8
        · rw [if_pos hmagic] at hok ⊢
          have hsegment := k₃.allocSegment_file id
            (intOfBytes (bufferOf result.2 2) (bufferOf result.2 3))
          generalize k₃.allocSegment id (intOfBytes (bufferOf result.2 2)
            (bufferOf result.2 3)) = allocated at hok hsegment ⊢
          rcases allocated with ⟨success, k₄⟩
          simp only at hok hsegment ⊢
          cases success with
          | false => simp at hok
          | true =>
              simp only [not_true_eq_false, if_false] at hok ⊢
              rw [hread] at hsegment
              have hlong₁ : 4 <= (data file₁).length := by
                rw [hdata]
                exact hlong
              have hstreaming := startTask_streaming law k₄ id path hsegment
                (by rw [hpos]; omega) hlong₁
              rcases hstreaming.file with ⟨file₂, hfile₂, hdata₂, _⟩
              refine ⟨file₂, hfile₂, ?_, ?_⟩
              · rw [hdata₂]
                exact hlong₁
              · rw [hdata₂]
                exact hstreaming
        · rw [if_neg hmagic] at hok
          cases hok
      · rw [if_neg hlength] at hok
        cases hok

end Streaming

/--
After a load, whatever the code buffer held, fetches and jumps agree with the
program file if and only if no fetch meets the end of the file except where a
refill begins.
-/
theorem code_fetch {data : sd.File -> List Byte} {pos : sd.File -> Nat}
    (law : sd.Lawful data pos) {k k' : Kernel sd} {id : TaskId}
    {inputName : List Byte} {argStr parentCwd parentArgStr : Option (List Byte)}
    (hload : k.loadTask id inputName argStr parentCwd parentArgStr = (true, k')) :
    exists file, (k'.tasks id).file = some file ∧ forall ops : List CodeOp,
      (forall addr, .jump addr ∈ ops -> 4 + addr <= (data file).length ∧
        4 + addr < 32768) ->
      (Faithful (data file) id k' 0 ops <->
        Aligned (data file).length 4 0 true ops) := by
  have hok : (k.loadTask id inputName argStr parentCwd parentArgStr).1 = true := by
    rw [hload]
  rcases loadTask_streaming law k id inputName argStr parentCwd parentArgStr hok with
    ⟨file, hfile, _, hstreaming⟩
  rw [hload] at hfile hstreaming
  exact ⟨file, hfile, fun ops hjumps => faithful_iff_aligned law ops hstreaming hjumps⟩

theorem sdFat_lawful : CardImage.sdFat.Lawful ImageFile.data ImageFile.pos := by
  constructor
  · intro card path file hopen
    have hfind : card.find path = some file := by
      simp only [CardImage.sdFat] at hopen
      split at hopen
      · cases hopen
      · exact hopen
    unfold CardImage.find at hfind
    split at hfind
    · cases hfind
      rfl
    · rcases Option.map_eq_some_iff.mp hfind with ⟨_, _, rfl⟩
      rfl
  · intro card file n
    rfl
  · intro card file n
    rfl
  · intro card file n
    simp [CardImage.sdFat]
  · intro file
    rfl
  · intro card file p
    simp only [CardImage.sdFat]
    split <;> rfl
  · intro card file p hinside
    simp only [CardImage.sdFat]
    rw [if_pos hinside]

def loaded (id : TaskId) (code : List Byte) : Bool × Kernel CardImage.sdFat :=
  (init (reset (CardImage.ofProgram 16#8 code 1))).loadTask id (text "p") none none none

/-- One instruction, fetched, jumped behind, and then the end. -/
theorem code_fetch_one_byte :
    exists file, ((loaded 1 [0x41#8]).2.tasks 1).file = some file ∧
      Faithful file.data 1 (loaded 1 [0x41#8]).2 0 [.fetch, .jump 1, .fetch] := by
  have hok : (loaded 1 [0x41#8]).1 = true := by decide +kernel
  have hload : loaded 1 [0x41#8] = (true, (loaded 1 [0x41#8]).2) := by rw [← hok]
  have hlength : ((loaded 1 [0x41#8]).2.tasks 1).file.map (fun file => file.data.length) =
      some 5 := by decide +kernel
  rcases code_fetch sdFat_lawful hload with ⟨file, hfile, hiff⟩
  have hsize : file.data.length = 5 := by
    generalize ((loaded 1 [0x41#8]).2.tasks 1).file = opened at hfile hlength
    rw [hfile] at hlength
    exact Option.some.inj hlength
  have hjumps : forall addr, .jump addr ∈ [CodeOp.fetch, .jump 1, .fetch] ->
      4 + addr <= file.data.length ∧ 4 + addr < 32768 := by
    intro addr hin
    simp only [List.mem_cons, List.not_mem_nil, or_false, CodeOp.jump.injEq,
      reduceCtorEq, false_or] at hin
    omega
  have haligned : Aligned file.data.length 4 0 true [.fetch, .jump 1, .fetch] := by
    simp [Aligned, hsize]
  exact ⟨file, hfile, (hiff _ hjumps).mpr haligned⟩

/-- One instruction and then the end: the fetch behind it finds a byte. -/
theorem loaded_fetches_past_end :
    (loaded 1 [0x41#8]).1 = true ∧
      ((loaded 1 [0x41#8]).2.tasks 1).file.map ImageFile.data =
        some [0xAD#8, 0x01#8, 0x10#8, 0x00#8, 0x41#8] ∧
      ¬ Faithful [0xAD#8, 0x01#8, 0x10#8, 0x00#8, 0x41#8] 1 (loaded 1 [0x41#8]).2 0
        [.fetch, .fetch] := by
  decide +kernel

end Kernel
end ArduOS
