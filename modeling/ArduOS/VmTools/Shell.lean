import ArduOS.Kernel.CardImage
import ArduOS.VmTools.MemoryMachine

/-!
# The shell

The program of `shell.asm`, where its labels are, and how deep its stack is: at each
label as deep as it has to be, and one cell deeper for every time that `DO_CD` was
passed, where the character `CHECK_CD_END` looked at stays on the stack.
-/

namespace ArduOS

open Library

/-!
## The program
-/

/-- The file that the assembler makes of `shell.asm`. -/
def shellProgram : List Byte :=
  [173#8, 1#8, 0#8, 1#8, 16#8, 0#8, 0#8, 16#8, 0#8, 0#8, 82#8, 16#8, 200#8, 0#8, 16#8,
    4#8, 0#8, 48#8, 16#8, 200#8, 0#8, 5#8, 16#8, 62#8, 0#8, 3#8, 16#8, 32#8, 0#8, 3#8,
    2#8, 20#8, 16#8, 0#8, 0#8, 19#8, 33#8, 75#8, 0#8, 20#8, 16#8, 13#8, 0#8, 19#8, 33#8,
    75#8, 0#8, 20#8, 16#8, 10#8, 0#8, 19#8, 33#8, 79#8, 0#8, 16#8, 0#8, 0#8, 81#8, 16#8,
    1#8, 0#8, 17#8, 82#8, 16#8, 0#8, 0#8, 81#8, 16#8, 1#8, 0#8, 17#8, 16#8, 0#8, 0#8,
    82#8, 32#8, 26#8, 0#8, 21#8, 32#8, 26#8, 0#8, 21#8, 16#8, 0#8, 0#8, 16#8, 0#8, 0#8,
    81#8, 16#8, 1#8, 0#8, 17#8, 82#8, 16#8, 1#8, 0#8, 16#8, 64#8, 0#8, 82#8, 16#8, 64#8,
    0#8, 81#8, 81#8, 20#8, 16#8, 0#8, 0#8, 19#8, 33#8, 156#8, 0#8, 20#8, 16#8, 32#8,
    0#8, 19#8, 33#8, 136#8, 0#8, 21#8, 16#8, 64#8, 0#8, 81#8, 16#8, 1#8, 0#8, 17#8,
    16#8, 64#8, 0#8, 82#8, 32#8, 99#8, 0#8, 21#8, 16#8, 0#8, 0#8, 16#8, 64#8, 0#8, 81#8,
    82#8, 16#8, 64#8, 0#8, 81#8, 16#8, 1#8, 0#8, 17#8, 32#8, 160#8, 0#8, 21#8, 16#8,
    0#8, 0#8, 16#8, 67#8, 0#8, 82#8, 16#8, 67#8, 0#8, 81#8, 16#8, 0#8, 0#8, 19#8, 33#8,
    254#8, 0#8, 16#8, 110#8, 0#8, 16#8, 68#8, 0#8, 82#8, 16#8, 67#8, 0#8, 81#8, 16#8,
    69#8, 0#8, 82#8, 16#8, 69#8, 0#8, 81#8, 81#8, 20#8, 16#8, 0#8, 0#8, 19#8, 33#8,
    235#8, 0#8, 16#8, 68#8, 0#8, 81#8, 82#8, 16#8, 68#8, 0#8, 81#8, 16#8, 1#8, 0#8,
    17#8, 16#8, 68#8, 0#8, 82#8, 16#8, 69#8, 0#8, 81#8, 16#8, 1#8, 0#8, 17#8, 16#8,
    69#8, 0#8, 82#8, 32#8, 190#8, 0#8, 21#8, 16#8, 0#8, 0#8, 16#8, 68#8, 0#8, 81#8,
    82#8, 16#8, 110#8, 0#8, 16#8, 67#8, 0#8, 82#8, 32#8, 5#8, 1#8, 16#8, 0#8, 0#8, 16#8,
    67#8, 0#8, 82#8, 16#8, 1#8, 0#8, 16#8, 66#8, 0#8, 82#8, 16#8, 66#8, 0#8, 81#8, 81#8,
    16#8, 99#8, 0#8, 19#8, 33#8, 27#8, 1#8, 32#8, 105#8, 1#8, 16#8, 66#8, 0#8, 81#8,
    16#8, 1#8, 0#8, 17#8, 16#8, 66#8, 0#8, 82#8, 16#8, 66#8, 0#8, 81#8, 81#8, 16#8,
    100#8, 0#8, 19#8, 33#8, 54#8, 1#8, 32#8, 105#8, 1#8, 16#8, 66#8, 0#8, 81#8, 16#8,
    1#8, 0#8, 17#8, 16#8, 66#8, 0#8, 82#8, 16#8, 66#8, 0#8, 81#8, 81#8, 20#8, 16#8, 0#8,
    0#8, 19#8, 33#8, 91#8, 1#8, 20#8, 16#8, 32#8, 0#8, 19#8, 33#8, 91#8, 1#8, 21#8,
    32#8, 105#8, 1#8, 16#8, 200#8, 0#8, 16#8, 67#8, 0#8, 81#8, 16#8, 3#8, 0#8, 48#8,
    32#8, 183#8, 3#8, 16#8, 1#8, 0#8, 16#8, 66#8, 0#8, 82#8, 16#8, 66#8, 0#8, 81#8,
    81#8, 16#8, 101#8, 0#8, 19#8, 33#8, 127#8, 1#8, 32#8, 245#8, 1#8, 16#8, 66#8, 0#8,
    81#8, 16#8, 1#8, 0#8, 17#8, 16#8, 66#8, 0#8, 82#8, 16#8, 66#8, 0#8, 81#8, 81#8,
    16#8, 120#8, 0#8, 19#8, 33#8, 154#8, 1#8, 32#8, 245#8, 1#8, 16#8, 66#8, 0#8, 81#8,
    16#8, 1#8, 0#8, 17#8, 16#8, 66#8, 0#8, 82#8, 16#8, 66#8, 0#8, 81#8, 81#8, 16#8,
    101#8, 0#8, 19#8, 33#8, 181#8, 1#8, 32#8, 245#8, 1#8, 16#8, 66#8, 0#8, 81#8, 16#8,
    1#8, 0#8, 17#8, 16#8, 66#8, 0#8, 82#8, 16#8, 66#8, 0#8, 81#8, 81#8, 16#8, 99#8, 0#8,
    19#8, 33#8, 208#8, 1#8, 32#8, 245#8, 1#8, 16#8, 66#8, 0#8, 81#8, 16#8, 1#8, 0#8,
    17#8, 16#8, 66#8, 0#8, 82#8, 16#8, 66#8, 0#8, 81#8, 81#8, 20#8, 16#8, 0#8, 0#8,
    19#8, 33#8, 248#8, 1#8, 20#8, 16#8, 32#8, 0#8, 19#8, 33#8, 248#8, 1#8, 21#8, 32#8,
    245#8, 1#8, 32#8, 239#8, 2#8, 21#8, 16#8, 1#8, 0#8, 16#8, 82#8, 0#8, 82#8, 16#8,
    67#8, 0#8, 81#8, 16#8, 80#8, 0#8, 82#8, 16#8, 80#8, 0#8, 81#8, 16#8, 0#8, 0#8, 19#8,
    33#8, 183#8, 3#8, 16#8, 80#8, 0#8, 81#8, 81#8, 16#8, 45#8, 0#8, 19#8, 33#8, 34#8,
    2#8, 32#8, 102#8, 2#8, 16#8, 80#8, 0#8, 81#8, 16#8, 1#8, 0#8, 17#8, 81#8, 16#8,
    98#8, 0#8, 19#8, 33#8, 53#8, 2#8, 32#8, 102#8, 2#8, 16#8, 0#8, 0#8, 16#8, 82#8, 0#8,
    82#8, 16#8, 80#8, 0#8, 81#8, 16#8, 2#8, 0#8, 17#8, 16#8, 80#8, 0#8, 82#8, 16#8,
    80#8, 0#8, 81#8, 81#8, 16#8, 32#8, 0#8, 19#8, 33#8, 87#8, 2#8, 32#8, 102#8, 2#8,
    16#8, 80#8, 0#8, 81#8, 16#8, 1#8, 0#8, 17#8, 16#8, 80#8, 0#8, 82#8, 32#8, 72#8, 2#8,
    16#8, 150#8, 0#8, 16#8, 81#8, 0#8, 82#8, 16#8, 80#8, 0#8, 81#8, 81#8, 20#8, 16#8,
    0#8, 0#8, 19#8, 33#8, 205#8, 2#8, 20#8, 16#8, 32#8, 0#8, 19#8, 33#8, 162#8, 2#8,
    16#8, 81#8, 0#8, 81#8, 82#8, 16#8, 80#8, 0#8, 81#8, 16#8, 1#8, 0#8, 17#8, 16#8,
    80#8, 0#8, 82#8, 16#8, 81#8, 0#8, 81#8, 16#8, 1#8, 0#8, 17#8, 16#8, 81#8, 0#8, 82#8,
    32#8, 109#8, 2#8, 21#8, 16#8, 80#8, 0#8, 81#8, 16#8, 1#8, 0#8, 17#8, 16#8, 80#8,
    0#8, 82#8, 16#8, 80#8, 0#8, 81#8, 81#8, 16#8, 32#8, 0#8, 19#8, 33#8, 190#8, 2#8,
    32#8, 213#8, 2#8, 16#8, 80#8, 0#8, 81#8, 16#8, 1#8, 0#8, 17#8, 16#8, 80#8, 0#8,
    82#8, 32#8, 175#8, 2#8, 21#8, 16#8, 0#8, 0#8, 16#8, 80#8, 0#8, 82#8, 16#8, 0#8, 0#8,
    16#8, 81#8, 0#8, 81#8, 82#8, 16#8, 80#8, 0#8, 81#8, 16#8, 150#8, 0#8, 16#8, 82#8,
    0#8, 81#8, 16#8, 2#8, 0#8, 48#8, 32#8, 183#8, 3#8, 16#8, 47#8, 0#8, 16#8, 70#8, 0#8,
    82#8, 16#8, 98#8, 0#8, 16#8, 71#8, 0#8, 82#8, 16#8, 105#8, 0#8, 16#8, 72#8, 0#8,
    82#8, 16#8, 110#8, 0#8, 16#8, 73#8, 0#8, 82#8, 16#8, 47#8, 0#8, 16#8, 74#8, 0#8,
    82#8, 16#8, 75#8, 0#8, 16#8, 65#8, 0#8, 82#8, 16#8, 1#8, 0#8, 16#8, 66#8, 0#8, 82#8,
    16#8, 66#8, 0#8, 81#8, 81#8, 20#8, 16#8, 0#8, 0#8, 19#8, 33#8, 77#8, 3#8, 16#8,
    65#8, 0#8, 81#8, 82#8, 16#8, 65#8, 0#8, 81#8, 16#8, 1#8, 0#8, 17#8, 16#8, 65#8, 0#8,
    82#8, 16#8, 66#8, 0#8, 81#8, 16#8, 1#8, 0#8, 17#8, 16#8, 66#8, 0#8, 82#8, 32#8,
    32#8, 3#8, 21#8, 16#8, 46#8, 0#8, 16#8, 65#8, 0#8, 81#8, 82#8, 16#8, 65#8, 0#8,
    81#8, 16#8, 1#8, 0#8, 17#8, 16#8, 65#8, 0#8, 82#8, 16#8, 98#8, 0#8, 16#8, 65#8, 0#8,
    81#8, 82#8, 16#8, 65#8, 0#8, 81#8, 16#8, 1#8, 0#8, 17#8, 16#8, 65#8, 0#8, 82#8,
    16#8, 105#8, 0#8, 16#8, 65#8, 0#8, 81#8, 82#8, 16#8, 65#8, 0#8, 81#8, 16#8, 1#8,
    0#8, 17#8, 16#8, 65#8, 0#8, 82#8, 16#8, 110#8, 0#8, 16#8, 65#8, 0#8, 81#8, 82#8,
    16#8, 65#8, 0#8, 81#8, 16#8, 1#8, 0#8, 17#8, 16#8, 65#8, 0#8, 82#8, 16#8, 0#8, 0#8,
    16#8, 65#8, 0#8, 81#8, 82#8, 16#8, 67#8, 0#8, 81#8, 16#8, 70#8, 0#8, 16#8, 1#8, 0#8,
    16#8, 2#8, 0#8, 48#8, 32#8, 183#8, 3#8, 16#8, 1#8, 0#8, 16#8, 65#8, 0#8, 82#8, 16#8,
    0#8, 0#8, 16#8, 65#8, 0#8, 81#8, 82#8, 16#8, 65#8, 0#8, 81#8, 16#8, 1#8, 0#8, 17#8,
    16#8, 65#8, 0#8, 82#8, 16#8, 65#8, 0#8, 81#8, 16#8, 64#8, 0#8, 19#8, 33#8, 224#8,
    3#8, 32#8, 190#8, 3#8, 16#8, 0#8, 0#8, 16#8, 0#8, 0#8, 82#8, 16#8, 200#8, 0#8, 5#8,
    16#8, 62#8, 0#8, 3#8, 16#8, 32#8, 0#8, 3#8, 32#8, 26#8, 0#8]

def shellLabels : List (List Char × Nat × Nat) :=
  [("INIT".toList, 0, 0), ("LOOP".toList, 26, 0), ("CLEANUP".toList, 75, 1),
    ("PARSE".toList, 79, 1), ("SCAN_LOOP".toList, 99, 0),
    ("FOUND_SPACE".toList, 136, 1), ("NO_ARGS".toList, 156, 1),
    ("DISPATCH".toList, 160, 1), ("COPY_ARGS_LOOP".toList, 190, 0),
    ("COPY_ARGS_END".toList, 235, 1), ("NO_ARGS_TO_COPY".toList, 254, 0),
    ("CONTINUE_DISPATCH".toList, 261, 0), ("CHECK_CD_2".toList, 283, 0),
    ("CHECK_CD_END".toList, 310, 0), ("DO_CD".toList, 347, 1),
    ("CHECK_EXEC".toList, 361, 0), ("CHECK_EXEC_2".toList, 383, 0),
    ("CHECK_EXEC_3".toList, 410, 0), ("CHECK_EXEC_4".toList, 437, 0),
    ("CHECK_EXEC_END".toList, 464, 0), ("TRY_NEXT_CHECK".toList, 501, 0),
    ("PARSE_EXEC_START".toList, 504, 1), ("CHECK_FLAG_B".toList, 546, 0),
    ("SET_ASYNC".toList, 565, 0), ("SKIP_SPACE_LOOP".toList, 584, 0),
    ("SKIP_SPACE_ACTION".toList, 599, 0), ("PARSE_PATH".toList, 614, 0),
    ("COPY_PATH_LOOP".toList, 621, 0), ("COPY_PATH_END_SPACE".toList, 674, 1),
    ("SKIP_ARGS_SPACE".toList, 687, 0), ("SKIP_ARGS_SPACE_ACTION".toList, 702, 0),
    ("COPY_PATH_END".toList, 717, 1), ("TERMINATE_PATH".toList, 725, 0),
    ("DO_EXEC".toList, 751, 0), ("COPY_CMD_LOOP".toList, 800, 0),
    ("COPY_CMD_END".toList, 845, 1), ("RESET".toList, 951, 0),
    ("CLEAR_LOOP".toList, 958, 0), ("CLEAR_LOOP_END".toList, 992, 0)]

def shellLoop : Nat := 26

def shellDoCd : Nat := 347

def shellCode : List Instruction := (decode (shellProgram.drop 4)).getD []

/-- With the cell on the stack at `DO_CD` forgotten, the shell is balanced. -/
def shellMap : StackMap where
  depths := shellLabels.map fun label => label.2
  leak := shellDoCd
  most := 4

set_option maxRecDepth 20000 in
theorem shell_decodes : (decode (shellProgram.drop 4)).isSome = true := by
  decide +kernel

theorem shell_decoded : decode (shellProgram.drop 4) = some shellCode := by
  rcases Option.isSome_iff_exists.mp shell_decodes with ⟨code, hcode⟩
  unfold shellCode
  rw [hcode, Option.getD_some]

set_option maxRecDepth 20000 in
theorem shellMap_describes : shellMap.Describes shellCode := by
  decide +kernel

set_option maxRecDepth 20000 in
theorem shellProgram_length : shellProgram.length = 1018 := rfl

theorem shellProgram_split : shellProgram.take 4 ++ shellProgram.drop 4 = shellProgram :=
  List.take_append_drop 4 shellProgram

theorem shellProgram_header : (shellProgram.take 4).length = 4 := by
  rw [List.length_take, shellProgram_length]
  rfl

theorem shellProgram_short :
    (shellProgram.take 4 ++ shellProgram.drop 4).length <= 32768 := by
  rw [shellProgram_split, shellProgram_length]
  decide

/-!
## Its stack
-/

section Running

variable {sd : SdFat} {data : sd.File -> List Byte} {pos : sd.File -> Nat} {t : TaskId}
  {k : Kernel sd} {pc n : Nat}

theorem shell_depth (law : sd.Lawful data pos)
    (h : Kernel.Executes data shellProgram t shellDoCd k pc n) :
    (k.tasks t).sp < n + 4 ∧ (pc = shellLoop -> (k.tasks t).sp = n - 1) := by
  rw [← shellProgram_split] at h
  rcases Kernel.Executes.fits law shellProgram_header shell_decoded shellProgram_short
    shellMap_describes h with ⟨stack, s, hat, hfits⟩
  have hmost : s.depth <= 4 := (hfits.next (k.environment t) shellMap_describes).left
  have hsp := hat.depth
  have hdepth : stack.length = n + s.depth := hfits.covers.depth
  constructor
  · omega
  · intro hloop
    have hlabel : shellMap.depths.lookup pc = some 0 := by
      rw [hloop]
      decide
    have hempty : stack.length = n + 0 := hfits.depth_of_label hlabel
    omega

end Running

/-!
## A card with the shell
-/

def shellCard : CardImage :=
  { files := [(text "shell", shellProgram)]
    directories := [(text "/", [(text "shell", false)])]
    opensLeft := 1 }

def shellStart : Bool × Kernel CardImage.sdFat :=
  (Kernel.boot shellCard).loadTask 1 (text "shell") none none none

/-- The shell with the line `cd` sent to its keyboard. -/
def shellFed : Kernel CardImage.sdFat :=
  shellStart.2.step (.arrive (sentPacket SP_UNFRAGED PT_STRING CMD_STDIN (text "cd\n")
    stdinArguments (by decide)).bytes)

def shellPrompted : Kernel CardImage.sdFat := (fun k => k.runStep 1)^[12] shellFed

structure Prompted : Prop where
  loaded : shellStart.1 = true
  program : (shellStart.2.tasks 1).file.map ImageFile.data = some shellProgram
  active : forall i, i < 12 ->
    (((fun k => k.runStep 1)^[i + 1] shellFed).tasks 1).isActive = true
  pc : Kernel.pcAfter 1 12 shellFed 0 = shellLoop
  sp : (shellPrompted.tasks 1).sp = -1
  segment : (shellPrompted.tasks 1).heapBase = 128 ∧ (shellPrompted.tasks 1).heapLimit = 256
  heap : forall i, i < 200 -> shellPrompted.globalHeap (128 + (i : Nat)) = 0
  keys : Kernel.Serves shellPrompted.hal [99, 100, 10]

set_option maxRecDepth 20000 in
theorem shell_prompts : Prompted := by
  have hall : (shellStart.1 = true ∧
      (shellStart.2.tasks 1).file.map ImageFile.data = some shellProgram) ∧
      (forall i, i < 12 ->
        (((fun k => k.runStep 1)^[i + 1] shellFed).tasks 1).isActive = true) ∧
      Kernel.pcAfter 1 12 shellFed 0 = shellLoop ∧ (shellPrompted.tasks 1).sp = -1 ∧
      ((shellPrompted.tasks 1).heapBase = 128 ∧ (shellPrompted.tasks 1).heapLimit = 256) ∧
      (forall i, i < 200 -> shellPrompted.globalHeap (128 + (i : Nat)) = 0) ∧
      Kernel.Serves shellPrompted.hal [99, 100, 10] := by
    decide +kernel
  rcases hall with ⟨⟨hok, hdata⟩, hactive, hpc, hsp, hsegment, hheap, hkeys⟩
  exact ⟨hok, hdata, hactive, hpc, hsp, hsegment, hheap, hkeys⟩

theorem shellFed_executes :
    Kernel.Executes ImageFile.data shellProgram 1 shellDoCd shellFed 0 0 := by
  rcases Option.map_eq_some_iff.mp shell_prompts.program with ⟨file, hfile, hprogram⟩
  have hload : shellStart = (true, shellStart.2) := by rw [← shell_prompts.loaded]
  unfold shellFed
  exact (Kernel.Executes.load hload hfile hprogram).leave (Kernel.arrive_leaves _ 1 _)

theorem shellPrompted_executes :
    Kernel.Executes ImageFile.data shellProgram 1 shellDoCd shellPrompted shellLoop 0 := by
  rcases shellFed_executes.steps shell_prompts.active with ⟨n, hrun⟩
  rw [shell_prompts.pc, ← shellPrompted] at hrun
  have hdepth := (shell_depth Kernel.sdFat_lawful hrun).right rfl
  rw [shell_prompts.sp] at hdepth
  have hn : n = 0 := by omega
  rw [hn] at hrun
  exact hrun

/-!
## The command loop
-/

/--
In every run of the shell the stack is empty at `LOOP` if and only if no `cd` went
through `DO_CD` before, and never more than three cells deeper than there.
-/
theorem shell_loop_empty_iff {sd : SdFat} {data : sd.File -> List Byte}
    {pos : sd.File -> Nat} {t : TaskId} {k : Kernel sd} {pc n : Nat} (law : sd.Lawful data pos)
    (h : Kernel.Executes data shellProgram t shellDoCd k pc n) :
    (pc = shellLoop -> ((k.tasks t).sp = -1 <-> n = 0)) ∧ (k.tasks t).sp < n + 4 := by
  rcases shell_depth law h with ⟨hbound, hloop⟩
  refine ⟨?_, hbound⟩
  intro hpc
  have hsp := hloop hpc
  omega

end ArduOS
