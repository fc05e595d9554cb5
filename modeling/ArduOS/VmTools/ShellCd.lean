import ArduOS.VmTools.Shell

/-!
# One `cd`

The shell with the line `cd` typed in: its prompt, the line read and taken apart,
`DO_CD`, and the line buffer cleared, up to `LOOP` again.
-/

namespace ArduOS

open Library

/-!
## What the machine does
-/

def shellMemory (cells : List (Nat × Int)) : List Int :=
  cells.foldl (fun memory cell => memory.set cell.1 cell.2) (List.replicate 200 0)

def shellReading (line keys : List Int) : MemoryMachine :=
  { machine := { pc := shellLoop, stack := [] }
    memory := shellMemory ((0, (line.length : Int)) :: (line.zipIdx 1).map Prod.swap)
    keys := keys }

def shellDispatching : MemoryMachine :=
  { machine := { pc := 261, stack := [] }
    memory := shellMemory [(0, 2), (1, 99), (2, 100), (64, 3)]
    keys := [] }

def shellClearing (i : Nat) : MemoryMachine :=
  { machine := { pc := 958, stack := [0] }
    memory := shellMemory [(0, 2), (1, if i <= 1 then 99 else 0),
      (2, if i <= 2 then 100 else 0), (64, 3), (65, i), (66, 3)]
    keys := [] }

theorem shellMemory_length (cells : List (Nat × Int)) : (shellMemory cells).length = 200 := by
  have hfold : forall memory : List Int,
      (cells.foldl (fun memory cell => memory.set cell.1 cell.2) memory).length =
        memory.length := by
    induction cells with
    | nil => exact fun _ => rfl
    | cons cell cells ih =>
        intro memory
        rw [List.foldl_cons, ih, List.length_set]
  exact (hfold _).trans List.length_replicate

set_option maxRecDepth 20000 in
theorem shell_enters :
    MemoryMachine.steps shellCode 25 (shellReading [] [99, 100, 10]) =
        some (shellReading [99] [100, 10]) ∧
      MemoryMachine.steps shellCode 25 (shellReading [99] [100, 10]) =
        some (shellReading [99, 100] [10]) ∧
      MemoryMachine.steps shellCode 80 (shellReading [99, 100] [10]) = some shellDispatching ∧
      MemoryMachine.steps shellCode 43 shellDispatching = some (shellClearing 1) := by
  decide +kernel

/-!
## Clearing the line buffer
-/

def shellClearCode : List (Nat × Instruction) :=
  [(26, { op := .read, operand := none }), (958, { op := .push, operand := some 0 }),
    (961, { op := .push, operand := some 65 }), (964, { op := .load, operand := none }),
    (965, { op := .store, operand := none }), (966, { op := .push, operand := some 65 }),
    (969, { op := .load, operand := none }), (970, { op := .push, operand := some 1 }),
    (973, { op := .add, operand := none }), (974, { op := .push, operand := some 65 }),
    (977, { op := .store, operand := none }), (978, { op := .push, operand := some 65 }),
    (981, { op := .load, operand := none }), (982, { op := .push, operand := some 64 }),
    (985, { op := .eq, operand := none }), (986, { op := .jif, operand := some 992 }),
    (989, { op := .jmp, operand := some 958 }), (992, { op := .push, operand := some 0 }),
    (995, { op := .push, operand := some 0 }), (998, { op := .store, operand := none }),
    (999, { op := .push, operand := some 200 }), (1002, { op := .prts, operand := none }),
    (1003, { op := .push, operand := some 62 }), (1006, { op := .prtc, operand := none }),
    (1007, { op := .push, operand := some 32 }), (1010, { op := .prtc, operand := none }),
    (1011, { op := .jmp, operand := some 26 })]

set_option maxRecDepth 20000 in
theorem shellClearCode_instrAt : forall entry, entry ∈ shellClearCode ->
    instrAt shellCode entry.1 = some entry.2 := by
  decide +kernel

theorem shell_at {pc : Nat} {instr : Instruction} (h : (pc, instr) ∈ shellClearCode) :
    instrAt shellCode pc = some instr :=
  shellClearCode_instrAt (pc, instr) h

def clearedAt (memory : List Int) (i : Nat) : List Int :=
  (memory.set i 0).set 65 (int16 (1 + i))

section Clearing

open MemoryMachine

variable {memory : List Int} {i : Nat}

theorem shell_clears_cell (hi : i < 64) (hlength : memory.length = 200)
    (hcell : memory[65]? = some (i : Int)) :
    steps shellCode 14 ⟨⟨958, [0]⟩, memory, []⟩ =
      some ⟨⟨986, [if (64 : Int) = int16 (1 + i) then 1 else 0, 0]⟩,
        clearedAt memory i, []⟩ := by
  have hkept : (memory.set i 0)[65]? = some (i : Int) := by
    rw [List.getElem?_set_ne (by omega), hcell]
  have hlen : (memory.set i 0).length = 200 := by rw [List.length_set, hlength]
  have hmoved : (clearedAt memory i)[65]? = some (int16 (1 + i)) := by
    unfold clearedAt
    rw [List.getElem?_set_self (by omega)]
  have hroom : forall stack : List Int, stack.length < 4 -> stack.length < VM_STACK_SIZE := by
    intro stack hstack
    exact Nat.lt_trans hstack (by decide)
  have h958 : instrAt shellCode 958 = some { op := .push, operand := some 0 } :=
    shell_at (by decide)
  have h961 : instrAt shellCode 961 = some { op := .push, operand := some 65 } :=
    shell_at (by decide)
  have h964 : instrAt shellCode 964 = some { op := .load, operand := none } :=
    shell_at (by decide)
  have h965 : instrAt shellCode 965 = some { op := .store, operand := none } :=
    shell_at (by decide)
  have h966 : instrAt shellCode 966 = some { op := .push, operand := some 65 } :=
    shell_at (by decide)
  have h969 : instrAt shellCode 969 = some { op := .load, operand := none } :=
    shell_at (by decide)
  have h970 : instrAt shellCode 970 = some { op := .push, operand := some 1 } :=
    shell_at (by decide)
  have h973 : instrAt shellCode 973 = some { op := .add, operand := none } :=
    shell_at (by decide)
  have h974 : instrAt shellCode 974 = some { op := .push, operand := some 65 } :=
    shell_at (by decide)
  have h977 : instrAt shellCode 977 = some { op := .store, operand := none } :=
    shell_at (by decide)
  have h978 : instrAt shellCode 978 = some { op := .push, operand := some 65 } :=
    shell_at (by decide)
  have h981 : instrAt shellCode 981 = some { op := .load, operand := none } :=
    shell_at (by decide)
  have h982 : instrAt shellCode 982 = some { op := .push, operand := some 64 } :=
    shell_at (by decide)
  have h985 : instrAt shellCode 985 = some { op := .eq, operand := none } :=
    shell_at (by decide)
  refine steps_cons (step_push h958 (hroom _ (by simp))) ?_
  refine steps_cons (step_push h961 (hroom _ (by simp))) ?_
  refine steps_cons (step_load h964 hcell (hroom _ (by simp))) ?_
  refine steps_cons (step_store h965 (by omega)) ?_
  refine steps_cons (step_push h966 (hroom _ (by simp))) ?_
  refine steps_cons (step_load h969 hkept (hroom _ (by simp))) ?_
  refine steps_cons (step_push h970 (hroom _ (by simp))) ?_
  refine steps_cons (step_add h973) ?_
  refine steps_cons (step_push h974 (hroom _ (by simp))) ?_
  refine steps_cons (step_store h977 (show 65 < _ by omega)) ?_
  refine steps_cons (step_push h978 (hroom _ (by simp))) ?_
  refine steps_cons (step_load h981 hmoved (hroom _ (by simp))) ?_
  refine steps_cons (step_push h982 (hroom _ (by simp))) ?_
  refine steps_cons (step_eq h985) ?_
  rfl

theorem clearedAt_length (hlength : memory.length = 200) :
    (clearedAt memory i).length = 200 := by
  unfold clearedAt
  rw [List.length_set, List.length_set, hlength]

theorem clearedAt_pointer (hi : i < 64) (hlength : memory.length = 200) :
    (clearedAt memory i)[65]? = some ((i + 1 : Nat) : Int) := by
  have hlen : (memory.set i 0).length = 200 := by rw [List.length_set, hlength]
  have hnext : int16 (1 + i) = ((i + 1 : Nat) : Int) := by
    unfold int16
    omega
  unfold clearedAt
  rw [List.getElem?_set_self (by omega), hnext]

theorem shell_clears_on (hi : i < 63) (hlength : memory.length = 200)
    (hcell : memory[65]? = some (i : Int)) :
    steps shellCode 16 ⟨⟨958, [0]⟩, memory, []⟩ =
      some ⟨⟨958, [0]⟩, clearedAt memory i, []⟩ := by
  have h958 : instrAt shellCode 958 = some { op := .push, operand := some 0 } :=
    shell_at (by decide)
  have h986 : instrAt shellCode 986 = some { op := .jif, operand := some 992 } :=
    shell_at (by decide)
  have h989 : instrAt shellCode 989 = some { op := .jmp, operand := some 958 } :=
    shell_at (by decide)
  have hturn := shell_clears_cell (by omega) hlength hcell
  rw [if_neg (by unfold int16; omega)] at hturn
  have hback : steps shellCode 2 ⟨⟨986, [0, 0]⟩, clearedAt memory i, []⟩ =
      some ⟨⟨958, [0]⟩, clearedAt memory i, []⟩ := by
    refine steps_cons (step_jif_zero h986) ?_
    refine steps_cons (step_jmp h989 h958) ?_
    rfl
  exact steps_add (m := 14) (n := 2) hturn hback

theorem shell_clears (n : Nat) (hi : i + n < 64) (hlength : memory.length = 200)
    (hcell : memory[65]? = some (i : Int)) :
    exists memory' : List Int, memory'.length = 200 ∧
      memory'[65]? = some ((i + n : Nat) : Int) ∧
      steps shellCode (16 * n) ⟨⟨958, [0]⟩, memory, []⟩ =
        some ⟨⟨958, [0]⟩, memory', []⟩ := by
  induction n generalizing i memory with
  | zero => exact ⟨memory, hlength, hcell, rfl⟩
  | succ n ih =>
      have hon := shell_clears_on (i := i) (by omega) hlength hcell
      rcases ih (i := i + 1) (by omega) (clearedAt_length hlength)
        (clearedAt_pointer (by omega) hlength) with ⟨memory', hlength', hcell', hrest⟩
      refine ⟨memory', hlength', ?_, ?_⟩
      · have hindex : i + 1 + n = i + (n + 1) := by omega
        rw [← hindex]
        exact hcell'
      · have hcount : 16 * (n + 1) = 16 + 16 * n := by omega
        rw [hcount]
        exact steps_add (m := 16) (n := 16 * n) hon hrest

theorem shell_returns (hlength : memory.length = 200)
    (hcell : memory[65]? = some ((63 : Nat) : Int)) :
    exists memory' : List Int, steps shellCode 25 ⟨⟨958, [0]⟩, memory, []⟩ =
      some ⟨⟨shellLoop, [0]⟩, memory', []⟩ := by
  have h986 : instrAt shellCode 986 = some { op := .jif, operand := some 992 } :=
    shell_at (by decide)
  have h992 : instrAt shellCode 992 = some { op := .push, operand := some 0 } :=
    shell_at (by decide)
  have h995 : instrAt shellCode 995 = some { op := .push, operand := some 0 } :=
    shell_at (by decide)
  have h998 : instrAt shellCode 998 = some { op := .store, operand := none } :=
    shell_at (by decide)
  have h999 : instrAt shellCode 999 = some { op := .push, operand := some 200 } :=
    shell_at (by decide)
  have h1002 : instrAt shellCode 1002 = some { op := .prts, operand := none } :=
    shell_at (by decide)
  have h1003 : instrAt shellCode 1003 = some { op := .push, operand := some 62 } :=
    shell_at (by decide)
  have h1006 : instrAt shellCode 1006 = some { op := .prtc, operand := none } :=
    shell_at (by decide)
  have h1007 : instrAt shellCode 1007 = some { op := .push, operand := some 32 } :=
    shell_at (by decide)
  have h1010 : instrAt shellCode 1010 = some { op := .prtc, operand := none } :=
    shell_at (by decide)
  have h1011 : instrAt shellCode 1011 = some { op := .jmp, operand := some 26 } :=
    shell_at (by decide)
  have h26 : instrAt shellCode 26 = some { op := .read, operand := none } :=
    shell_at (by decide)
  have hturn := shell_clears_cell (by omega) hlength hcell
  rw [if_pos (by unfold int16; omega)] at hturn
  have hlen := clearedAt_length (i := 63) hlength
  refine ⟨(clearedAt memory 63).set 0 0, steps_add (m := 14) (n := 11) hturn ?_⟩
  have hroom : forall stack : List Int, stack.length < 4 -> stack.length < VM_STACK_SIZE :=
    fun stack hstack => Nat.lt_trans hstack (by decide)
  refine steps_cons (step_jif h986 h992) ?_
  refine steps_cons (step_push h992 (hroom _ (by simp))) ?_
  refine steps_cons (step_push h995 (hroom _ (by simp))) ?_
  refine steps_cons (step_store h998 (show 0 < _ by omega)) ?_
  refine steps_cons (step_push h999 (hroom _ (by simp))) ?_
  refine steps_cons (step_print (.inl rfl) h1002) ?_
  refine steps_cons (step_push h1003 (hroom _ (by simp))) ?_
  refine steps_cons (step_print (.inr rfl) h1006) ?_
  refine steps_cons (step_push h1007 (hroom _ (by simp))) ?_
  refine steps_cons (step_print (.inr rfl) h1010) ?_
  refine steps_cons (step_jmp h1011 h26) ?_
  rfl

end Clearing

/-!
## The run
-/

/-- Here the machine with its memory takes over. -/
theorem shellPrompted_mirrors :
    Kernel.Mirrors ImageFile.data ImageFile.pos
      (shellProgram.take 4 ++ shellProgram.drop 4) 1 shellPrompted
      (shellReading [] [99, 100, 10]) := by
  rcases shell_prompts.segment with ⟨hbase, hlimit⟩
  have hrun := shellPrompted_executes
  rw [← shellProgram_split] at hrun
  rcases Kernel.Executes.fits Kernel.sdFat_lawful shellProgram_header shell_decoded
    shellProgram_short shellMap_describes hrun with ⟨stack, s, hat, _⟩
  have hempty : stack = [] := by
    have hdepth := hat.depth
    rw [shell_prompts.sp] at hdepth
    apply List.eq_nil_of_length_eq_zero
    omega
  rw [hempty] at hat
  have hlength : (shellReading [] [99, 100, 10]).memory.length = 200 := shellMemory_length _
  have hzero : (shellReading [] [99, 100, 10]).memory = List.replicate 200 0 := by
    simp [shellReading, shellMemory]
  refine ⟨hat, ?_, ?_, ?_, ?_, shell_prompts.keys⟩
  · rw [hbase]
    decide
  · rw [hlimit, hlength]
    decide
  · rw [hbase, hlength]
    decide
  · intro i val hval
    rw [hzero] at hval
    rcases List.getElem?_eq_some_iff.mp hval with ⟨hi, hget⟩
    rw [List.length_replicate] at hi
    rw [List.getElem_replicate] at hget
    rw [hbase, shell_prompts.heap i hi, hget]

theorem shell_goes_back : exists memory,
    MemoryMachine.steps shellCode 1190 (shellReading [] [99, 100, 10]) =
      some ⟨⟨shellLoop, [0]⟩, memory, []⟩ := by
  rcases shell_enters with ⟨hfirst, hsecond, hline, hcd⟩
  have hread := MemoryMachine.steps_add (m := 25) (n := 25) hfirst hsecond
  have hparsed := MemoryMachine.steps_add (m := 50) (n := 80) hread hline
  have hentered := MemoryMachine.steps_add (m := 130) (n := 43) hparsed hcd
  have hlength : (shellClearing 1).memory.length = 200 := shellMemory_length _
  have hpointer : (shellClearing 1).memory[65]? = some ((1 : Nat) : Int) := by
    unfold shellClearing shellMemory
    simp only [List.foldl_cons, List.foldl_nil]
    rw [List.getElem?_set_ne (by decide), List.getElem?_set_self]
    rw [List.length_set, List.length_set, List.length_set, List.length_set,
      List.length_replicate]
    decide
  rcases shell_clears 62 (by omega) hlength hpointer with
    ⟨memory, hlength', hpointer', hcleared⟩
  rcases shell_returns hlength' hpointer' with ⟨memory', hreturned⟩
  have hlast := MemoryMachine.steps_add (m := 16 * 62) (n := 25) hcleared hreturned
  exact ⟨memory', MemoryMachine.steps_add (m := 173) (n := 1017) hentered hlast⟩

def shellBack : Kernel CardImage.sdFat := (fun k => k.runStep 1)^[1202] shellFed

theorem shellBack_executes :
    Kernel.Executes ImageFile.data shellProgram 1 shellDoCd shellBack shellLoop 1 ∧
      (shellBack.tasks 1).sp = 0 := by
  rcases shell_goes_back with ⟨memory, hsteps⟩
  have hrun := shellPrompted_executes
  rw [← shellProgram_split] at hrun
  rcases shellPrompted_mirrors.steps Kernel.sdFat_lawful shellProgram_header shell_decoded
    shellProgram_short (by decide) hrun rfl hsteps with ⟨hmirrors, n', hback⟩
  have hrun' : (fun k => Kernel.runStep k 1)^[1190] shellPrompted = shellBack := by
    unfold shellPrompted shellBack
    rw [← Function.iterate_add_apply]
  rw [hrun'] at hmirrors hback
  rw [shellProgram_split] at hback
  have hsp : (shellBack.tasks 1).sp = 0 := by
    have hdepth := hmirrors.place.depth
    simp only [List.length_singleton] at hdepth
    omega
  have hn : n' = 1 := by
    have hloop := (shell_depth Kernel.sdFat_lawful hback).right rfl
    rw [hsp] at hloop
    omega
  rw [hn] at hback
  exact ⟨hback, hsp⟩

/-- Behind the line `cd` the shell is at `LOOP` with a cell on its stack. -/
theorem shell_cd_leaves_cell :
    (Kernel.Executes ImageFile.data shellProgram 1 shellDoCd
        ((fun k => k.runStep 1)^[1202] shellFed) shellLoop 1 ∧
      (((fun k => k.runStep 1)^[1202] shellFed).tasks 1).sp = 0) ∧
      ¬ forall (k : Kernel CardImage.sdFat) n,
        Kernel.Executes ImageFile.data shellProgram 1 shellDoCd k shellLoop n ->
          (k.tasks 1).sp = -1 := by
  have hback := shellBack_executes
  unfold shellBack at hback
  refine ⟨hback, ?_⟩
  intro hneutral
  have hcontra := hneutral _ 1 hback.left
  rw [hback.right] at hcontra
  cases hcontra

theorem shell_loop_empty_iff_back :
    ((shellBack.tasks 1).sp = -1 <-> 1 = 0) ∧ (shellBack.tasks 1).sp < 5 := by
  have h := shell_loop_empty_iff Kernel.sdFat_lawful shellBack_executes.left
  exact ⟨h.left rfl, h.right⟩

end ArduOS
