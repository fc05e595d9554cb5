import ArduOS.Kernel.Fetching
import ArduOS.Kernel.Instructions

/-!
# Where jumps lead

A jump hands its operand, as a 32 bit offset, to a `seek` whose failure nobody
notices, and marks the code buffer as used up.  So the next fetch refills from
the target, or from wherever the file was before.
-/

namespace ArduOS

open Library

/-- What is known of `seek` and `curPosition` besides `SdFat.Lawful`. -/
structure SdFat.Seeks (sd : SdFat) (data : sd.File -> List Byte)
    (pos : sd.File -> Nat) : Prop where
  /-- A seek past the end fails, and leaves the position as it is. -/
  past_end : forall card file (p : BitVec 32), (data file).length < p.toNat ->
    pos (sd.seek card file p).1 = pos file
  curPosition : forall file, pos file < 2 ^ 32 -> (sd.curPosition file).toNat = pos file

def jumpOffset (v : Nat) : Nat :=
  if v < 32764 then v + 4
  else if v < 65532 then v + 4 + 4294901760
  else v + 4 - 65536

/-- Where a stream of `size` bytes is after a jump, if it was at `p` before. -/
def landing (v size p : Nat) : Nat := if jumpOffset v <= size then jumpOffset v else p

theorem toNat_jumpOffset {v : Nat} (hv : v < 65536) :
    (BitVec.ofInt 32 (int16 (int16 v + 4))).toNat = jumpOffset v := by
  rw [BitVec.toNat_ofInt]
  unfold jumpOffset int16
  split
  · omega
  · split
    · omega
    · omega

namespace Kernel

variable {sd : SdFat} {data : sd.File -> List Byte} {pos : sd.File -> Nat}

/-- The next byte `t` fetches is the one at `addr`, which its file has reached. -/
structure ResumesAt (data : sd.File -> List Byte) (pos : sd.File -> Nat)
    (program : List Byte) (k : Kernel sd) (t : TaskId) (addr : Nat) : Prop where
  file : exists file, (k.tasks t).file = some file ∧ data file = program ∧
    pos file = addr
  refills : (k.tasks t).bufferIndex = CODE_BUFFER_SIZE
  byte : program[addr]? = some (k.fetchByte t).1
  active : ((k.fetchByte t).2.tasks t).isActive = true

/-- After a jump with the operand `v` the task is at its target, or ends. -/
def GoesToTarget (data : sd.File -> List Byte) (pos : sd.File -> Nat)
    (program : List Byte) (k : Kernel sd) (t : TaskId) (v : Nat) : Prop :=
  if v + 4 < program.length then ResumesAt data pos program k t (v + 4)
  else ((k.fetchByte t).2.tasks t).isActive = false

/-- The condition on operand, program and stream for a jump to go to its target. -/
def TargetInReach (v size p : Nat) : Prop :=
  (v < 32764 ∧ (v + 4 <= size ∨ p = size)) ∨
    (32764 <= v ∧ v < 65532 ∧ size < v + 4 + 4294901760 ∧ p = min (v + 4) size)

/-- That condition, or, where a listing has left the program closed, that there is no target. -/
def TargetReached (pos : sd.File -> Nat) (program : List Byte) (k : Kernel sd) (t : TaskId)
    (v : Nat) : Prop :=
  match (k.tasks t).file with
  | some file => TargetInReach v program.length (pos file)
  | none => program.length <= v + 4

theorem targetInReach_iff {v size p : Nat} (hv : v < 65536) (hsize : 4 <= size)
    (hp : p <= size) :
    (if v + 4 < size then landing v size p = v + 4 else landing v size p = size) <->
      TargetInReach v size p := by
  unfold TargetInReach landing jumpOffset
  rcases Nat.lt_or_ge v 32764 with hlow | hhigh
  · simp only [if_pos hlow]
    split <;> split <;> omega
  · simp only [if_neg (Nat.not_lt.mpr hhigh)]
    rcases Nat.lt_or_ge v 65532 with hmid | htop
    · simp only [if_pos hmid]
      split <;> split <;> omega
    · simp only [if_neg (Nat.not_lt.mpr htop)]
      split <;> split <;> omega

section Jump

variable {k : Kernel sd} {t : TaskId} {file : sd.File}

structure Stopped (data : sd.File -> List Byte) (pos : sd.File -> Nat)
    (program : List Byte) (k : Kernel sd) (t : TaskId) (p : Nat) : Prop where
  active : (k.tasks t).isActive = true
  file : exists file, (k.tasks t).file = some file ∧ data file = program ∧ pos file = p
  refills : (k.tasks t).bufferIndex = CODE_BUFFER_SIZE
  inside : p <= program.length

theorem jump_stopped (law : sd.Lawful data pos) (seeks : sd.Seeks data pos)
    (hfile : (k.tasks t).file = some file) (hactive : (k.tasks t).isActive = true)
    (hpos : pos file <= (data file).length) {v : Nat} (hv : v < 65536) :
    Stopped data pos (data file) (k.jump t (int16 v)) t
      (landing v (data file).length (pos file)) := by
  have htask := k.jump_task t (int16 v) hfile
  have hoffset := toNat_jumpOffset hv
  constructor
  · rw [htask]
    exact hactive
  · refine ⟨_, by rw [htask], law.seek_data _ _ _, ?_⟩
    unfold landing
    split
    · rename_i hinside
      rw [law.seek_pos _ _ _ (by rw [hoffset]; exact hinside), hoffset]
    · rename_i houtside
      rw [seeks.past_end _ _ _ (by rw [hoffset]; omega)]
  · rw [htask]
  · unfold landing
    split
    · assumption
    · exact hpos

theorem Stopped.resumes (law : sd.Lawful data pos) {program : List Byte} {p : Nat}
    (h : Stopped data pos program k t p) (hp : p < program.length) :
    ResumesAt data pos program k t p := by
  rcases h.file with ⟨file, hfile, hdata, hat⟩
  have havailable : sd.available file = true := by
    rw [law.available, hdata, hat, decide_eq_true_eq]
    exact hp
  have htask := k.refillBuffer_task t hfile havailable
  have hactive : ((k.refillBuffer t).tasks t).isActive = true := by
    rw [htask]
    exact h.active
  have hbytes : (sd.read k.card file CODE_BUFFER_SIZE).1.2.take CODE_BUFFER_SIZE =
      (program.drop p).take CODE_BUFFER_SIZE := by
    rw [law.read_bytes, hdata, hat, List.take_take, Nat.min_self]
  have hwindow := (window_jump CODE_BUFFER_SIZE program (k.tasks t).codeBuffer p
    h.inside).refill
  have hbyte := hwindow.current (by decide) hp
  have hfetch : k.fetchByte t = (k.refillBuffer t).takeByte t := by
    rw [fetchByte_of_used h.refills, if_pos hactive]
  constructor
  · exact ⟨file, hfile, hdata, hat⟩
  · exact h.refills
  · rw [hfetch, hbyte]
    simp only [takeByte, htask, hbytes, overwrite_eq]
  · rw [hfetch, takeByte_task]
    exact hactive

theorem Stopped.ends (law : sd.Lawful data pos) {program : List Byte} {p : Nat}
    (h : Stopped data pos program k t p) (hp : p = program.length) :
    ((k.fetchByte t).2.tasks t).isActive = false := by
  rcases h.file with ⟨file, hfile, hdata, hat⟩
  have hended : sd.available file = false := by
    rw [law.available, hdata, hat, hp]
    simp
  have hover := k.refillBuffer_ends t hfile hended
  rw [fetchByte_of_used h.refills, if_neg (by simp [hover])]
  exact hover

theorem Stopped.goesToTarget_iff (law : sd.Lawful data pos) {program : List Byte} {p : Nat}
    (h : Stopped data pos program k t p) (v : Nat) :
    GoesToTarget data pos program k t v <->
      if v + 4 < program.length then p = v + 4 else p = program.length := by
  have hinside := h.inside
  unfold GoesToTarget
  split
  · rename_i htarget
    constructor
    · intro hresumes
      rcases hresumes.file with ⟨file, hfile, _, hat⟩
      rcases h.file with ⟨file', hfile', _, hat'⟩
      rw [hfile] at hfile'
      cases hfile'
      exact hat'.symm.trans hat
    · intro heq
      rw [← heq] at htarget ⊢
      exact h.resumes law htarget
  · constructor
    · intro hover
      by_contra hne
      have hresumes := h.resumes law (by omega)
      rw [hresumes.active] at hover
      cases hover
    · exact h.ends law

/-- Without its file the task ends at the next fetch, wherever it was to jump. -/
theorem jump_closed (hclosed : (k.tasks t).file = none) (addr : Int) :
    (((k.jump t addr).fetchByte t).2.tasks t).isActive = false := by
  have hfile : ((k.jump t addr).tasks t).file = none := by
    simp [jump, seekFile, hclosed, modifyTask]
  have hrefills : ((k.jump t addr).tasks t).bufferIndex = CODE_BUFFER_SIZE := by
    simp [jump, modifyTask]
  have hrefill : (k.jump t addr).refillBuffer t = (k.jump t addr).terminateTask t := by
    unfold refillBuffer
    rw [hfile]
    rfl
  have hfree : (((k.jump t addr).terminateTask t).tasks t).taskState = .free :=
    ((k.jump t addr).terminateTask_exits t).free
  have hover : (((k.jump t addr).refillBuffer t).tasks t).isActive = false := by
    rw [hrefill]
    simp [Task.isActive, hfree]
  rw [fetchByte_of_used hrefills, if_neg (by simp [hover])]
  exact hover

end Jump

/-!
## Jump instructions
-/

/-- `k`, which has fetched the opcode `op`, takes the jump in the state `k₁`. -/
inductive TakesJump (k : Kernel sd) (t : TaskId) (v : Nat) (k₁ : Kernel sd) :
    VMOpcode -> Prop where
  | jmp (hoperand : k.fetchInt t = (int16 v, k₁)) : TakesJump k t v k₁ .jmp
  | jif (hsp : 0 <= (k.tasks t).sp) (k₀ : Kernel sd)
      (hoperand : k.fetchInt t = (int16 v, k₀)) (condition : Int)
      (hpop : k₀.stackPop t = (condition, k₁)) (hne : condition ≠ 0) :
      TakesJump k t v k₁ .jif

theorem TakesJump.execute {k k₁ : Kernel sd} {t : TaskId} {v : Nat} {op : VMOpcode}
    (h : TakesJump k t v k₁ op) {opcode : Byte}
    (hop : VMOpcode.ofByte? opcode = some op) :
    k.execute t opcode = k₁.jump t (int16 v) := by
  unfold Kernel.execute
  rw [hop]
  cases h with
  | jmp hoperand => simp only [hoperand]
  | jif hsp k₀ hoperand condition hpop hne =>
      have hroom : ¬ (k.tasks t).sp < 1 - 1 := by omega
      simp only [opJif, checkStackUnderflow, if_neg hroom, hoperand, hpop, if_pos hne]

/--
A jump that is taken goes to its target, or ends the task where there is none, if and only
if the operand is small enough for the offset to be computed and a seek that fails finds
the stream where it should be already; or, with the program file closed, there is none.
-/
theorem jump_goes_to_target (law : sd.Lawful data pos) (seeks : sd.Seeks data pos)
    {k k₁ : Kernel sd} {t : TaskId} {opcode : Byte} {op : VMOpcode}
    (hop : VMOpcode.ofByte? opcode = some op) {v : Nat} (hv : v < 65536)
    (htakes : TakesJump k t v k₁ op) (hactive : (k₁.tasks t).isActive = true)
    {program : List Byte} (hheader : 4 <= program.length)
    (hfile : forall file, (k₁.tasks t).file = some file ->
      data file = program ∧ pos file <= program.length) :
    GoesToTarget data pos program (k.execute t opcode) t v <->
      TargetReached pos program k₁ t v := by
  rw [htakes.execute hop]
  unfold TargetReached
  cases hopen : (k₁.tasks t).file with
  | some file =>
      rcases hfile file hopen with ⟨rfl, hpos⟩
      have hstopped := jump_stopped law seeks hopen hactive hpos hv
      rw [hstopped.goesToTarget_iff law v]
      exact targetInReach_iff hv hheader hpos
  | none =>
      have hover := jump_closed hopen (int16 v)
      unfold GoesToTarget
      constructor
      · intro hgoes
        by_contra htarget
        rw [if_pos (by omega)] at hgoes
        rw [hgoes.active] at hover
        cases hover
      · intro hnone
        rw [if_neg (by omega)]
        exact hover

theorem sdFat_seeks : CardImage.sdFat.Seeks ImageFile.data ImageFile.pos := by
  constructor
  · intro card file p hpast
    simp only [CardImage.sdFat]
    rw [if_neg (by omega)]
  · intro file hsize
    simp only [CardImage.sdFat]
    rw [BitVec.toNat_ofNat]
    omega

/-- A program that is a single jump, whose opcode has been fetched. -/
def jumping (low high : Byte) : Kernel CardImage.sdFat :=
  ((loaded 1 [0x20#8, low, high]).2.fetchByte 1).2

/-- A jump back to the first byte of code. -/
theorem jump_goes_to_target_start :
    exists file, (((jumping 0#8 0#8).fetchInt 1).2.tasks 1).file = some file ∧
      GoesToTarget ImageFile.data ImageFile.pos file.data
        ((jumping 0#8 0#8).execute 1 0x20#8) 1 0 := by
  have hrun : ((jumping 0#8 0#8).fetchInt 1).1 = int16 (0 : Nat) ∧
      (((jumping 0#8 0#8).fetchInt 1).2.tasks 1).isActive = true ∧
      (((jumping 0#8 0#8).fetchInt 1).2.tasks 1).file.map
        (fun file => (file.data.length, file.pos)) = some (7, 7) := by decide +kernel
  rcases hrun with ⟨hoperand, hactive, hstream⟩
  rcases Option.map_eq_some_iff.mp hstream with ⟨file, hfile, hshape⟩
  rw [Prod.mk.injEq] at hshape
  have htakes : TakesJump (jumping 0#8 0#8) 1 0 ((jumping 0#8 0#8).fetchInt 1).2 .jmp :=
    .jmp (by rw [← hoperand])
  refine ⟨file, hfile, ?_⟩
  have hopen : forall file', (((jumping 0#8 0#8).fetchInt 1).2.tasks 1).file = some file' ->
      file'.data = file.data ∧ file'.pos <= file.data.length := by
    intro file' hfile'
    cases hfile.symm.trans hfile'
    exact ⟨rfl, by omega⟩
  refine (jump_goes_to_target sdFat_lawful sdFat_seeks rfl (by decide) htakes hactive
    (by omega) hopen).mpr ?_
  unfold TargetReached
  rw [hfile]
  exact Or.inl ⟨by decide, Or.inl (by omega)⟩

/-- The operand 65532 leads back into the header instead of to the end. -/
theorem jump_into_header :
    exists file, (((jumping 0xFC#8 0xFF#8).fetchInt 1).2.tasks 1).file = some file ∧
      TakesJump (jumping 0xFC#8 0xFF#8) 1 65532
        ((jumping 0xFC#8 0xFF#8).fetchInt 1).2 .jmp ∧
      file.data = [0xAD#8, 0x01#8, 0x10#8, 0x00#8, 0x20#8, 0xFC#8, 0xFF#8] ∧
      (((jumping 0xFC#8 0xFF#8).execute 1 0x20#8).fetchByte 1).1 = 0xAD#8 ∧
      ¬ GoesToTarget ImageFile.data ImageFile.pos file.data
        ((jumping 0xFC#8 0xFF#8).execute 1 0x20#8) 1 65532 := by
  have hrun : ((jumping 0xFC#8 0xFF#8).fetchInt 1).1 = int16 (65532 : Nat) ∧
      (((jumping 0xFC#8 0xFF#8).fetchInt 1).2.tasks 1).file.map ImageFile.data =
        some [0xAD#8, 0x01#8, 0x10#8, 0x00#8, 0x20#8, 0xFC#8, 0xFF#8] ∧
      (((jumping 0xFC#8 0xFF#8).execute 1 0x20#8).fetchByte 1).1 = 0xAD#8 ∧
      ((((jumping 0xFC#8 0xFF#8).execute 1 0x20#8).fetchByte 1).2.tasks 1).isActive =
        true := by decide +kernel
  rcases hrun with ⟨hoperand, hstream, hfetched⟩
  rcases Option.map_eq_some_iff.mp hstream with ⟨file, hfile, hdata⟩
  have htakes : TakesJump (jumping 0xFC#8 0xFF#8) 1 65532
      ((jumping 0xFC#8 0xFF#8).fetchInt 1).2 .jmp := .jmp (by rw [← hoperand])
  refine ⟨file, hfile, htakes, hdata, hfetched.left, ?_⟩
  intro hgoes
  unfold GoesToTarget at hgoes
  rw [hdata, if_neg (by decide), hfetched.right] at hgoes
  cases hgoes

end Kernel
end ArduOS
