import ArduOS.Kernel.HeapStrings
import ArduOS.Kernel.ProperSteps
import ArduOS.VmTools.StackSteps
import Mathlib.Data.Nat.Digits.Defs

/-!
# What instructions print

Of the instructions that neither end their task nor call the system only four send
anything, and what they send is a function of the stack and the heap: whole texts, one
packet each.
-/

namespace ArduOS

open Library

/-!
## Decimal numbers
-/

theorem toList_toString (v : Int) :
    (toString v).toList =
      if 0 <= v then Nat.toDigits 10 v.toNat else '-' :: Nat.toDigits 10 (-v).toNat := by
  rw [Int.toString_eq_repr, Int.repr_eq_if]
  split
  · rw [Nat.repr_eq_ofList_toDigits, String.toList_ofList]
  · have hdigits : (Nat.repr (-v).toNat).toList = Nat.toDigits 10 (-v).toNat := by
      rw [Nat.repr_eq_ofList_toDigits, String.toList_ofList]
    rw [String.toList_append, hdigits]
    rfl

theorem length_decimal {v : Int} (h : Word v) : (text (toString v)).length <= 6 := by
  rcases h with ⟨hlo, hhi⟩
  unfold text
  rw [List.length_map, toList_toString]
  split
  · have hdigits := Nat.toDigits_length 10 v.toNat 5 (by decide) (by omega)
    omega
  · have hdigits := Nat.toDigits_length 10 (-v).toNat 5 (by decide) (by omega)
    rw [List.length_cons]
    omega

theorem ascii_ne_zero {c : Char} (h : c.isDigit = true) : ascii c ≠ 0#8 := by
  rw [Char.isDigit_iff_toNat] at h
  intro hzero
  have hnat := congrArg BitVec.toNat hzero
  unfold ascii at hnat
  rw [BitVec.toNat_ofNat, BitVec.toNat_ofNat] at hnat
  have hfirst : '0'.toNat = 48 := rfl
  have hlast : '9'.toNat = 57 := rfl
  omega

theorem noNul_decimal (v : Int) : 0#8 ∉ text (toString v) := by
  have hdigits : forall n, 0#8 ∉ (Nat.toDigits 10 n).map ascii := by
    intro n hmem
    rcases List.mem_map.mp hmem with ⟨c, hc, hzero⟩
    exact ascii_ne_zero (Nat.isDigit_of_mem_toDigits (by decide) (by decide) hc) hzero
  unfold text
  rw [toList_toString]
  split
  · exact hdigits _
  · rw [List.map_cons, List.mem_cons, not_or]
    exact ⟨by decide, hdigits _⟩

namespace Kernel

variable {sd : SdFat} {k k' k'' : Kernel sd} {t : TaskId}

/-!
## Texts
-/

/-- These texts were sent between two states, for the standard error where so marked. -/
def Prints (k k' : Kernel sd) (texts : List (Bool × List Byte)) : Prop :=
  exists messages, Says k k' messages ∧ messages.map (fun m => (m.error, m.text)) = texts

theorem Prints.of_eq (h : k'.serialOut = k.serialOut) : Prints k k' [] :=
  ⟨[], .of_eq h, rfl⟩

theorem Prints.trans {texts texts' : List (Bool × List Byte)} (h : Prints k k' texts)
    (h' : Prints k' k'' texts') : Prints k k'' (texts ++ texts') := by
  rcases h with ⟨messages, hsaid, rfl⟩
  rcases h' with ⟨messages', hsaid', rfl⟩
  exact ⟨_, hsaid.trans hsaid', List.map_append⟩

theorem Prints.of_serialOut {texts : List (Bool × List Byte)} (h : Prints k' k'' texts)
    (heq : k'.serialOut = k.serialOut) : Prints k k'' texts :=
  (Prints.of_eq heq).trans h

theorem Prints.last {texts : List (Bool × List Byte)} (h : Prints k k' texts)
    (heq : k''.serialOut = k'.serialOut) : Prints k k'' texts := by
  have hall := h.trans (.of_eq heq)
  rw [List.append_nil] at hall
  exact hall

theorem stdWrite_prints (k : Kernel sd) (fd : Int) {str : List Byte} (hnul : 0#8 ∉ str)
    (hfit : str.length <= 500) : Prints k (k.stdWrite fd str) [(fd = FD_STDERR, str)] := by
  have hstr := cString_eq_self hnul
  have hshort : (cString str).length + 12 <= 512 := by
    rw [hstr]
    omega
  refine ⟨said fd str, k.stdWrite_says fd hshort, ?_⟩
  unfold said
  rw [dif_pos hshort, List.map_singleton]
  simp only
  rw [hstr]

theorem stdWrite_prints_cString (k : Kernel sd) (fd : Int) {str : List Byte}
    (hfit : str.length <= 500) :
    Prints k (k.stdWrite fd str) [(fd = FD_STDERR, cString str)] := by
  have hle : (cString str).length <= str.length := (List.takeWhile_prefix _).length_le
  have hprints := k.stdWrite_prints fd (noNul_cString str) (Nat.le_trans hle hfit)
  unfold stdWrite at hprints ⊢
  rw [cString_eq_self (noNul_cString str)] at hprints
  exact hprints

theorem stdWriteInt_prints (k : Kernel sd) (fd : Int) {val : Int} (h : Word val) :
    Prints k (k.stdWriteInt fd val) [(fd = FD_STDERR, text (toString val))] :=
  k.stdWrite_prints fd (noNul_decimal val) (Nat.le_trans (length_decimal h) (by decide))

/-!
## Code that sends nothing
-/

theorem isActive_congr (h : k'.records = k.records) (t : TaskId) :
    (k'.tasks t).isActive = (k.tasks t).isActive := by
  have hstate : (k'.tasks t).taskState = (k.tasks t).taskState :=
    congrArg (fun r => (Records.task r t).state) h
  unfold Task.isActive
  rw [hstate]

theorem readFile_serialOut (k : Kernel sd) (t : TaskId) (n : Nat) :
    (k.readFile t n).2.serialOut = k.serialOut := by
  unfold readFile
  split <;> rfl

theorem refillBuffer_serialOut (h : ((k.refillBuffer t).tasks t).isActive = true) :
    (k.refillBuffer t).serialOut = k.serialOut := by
  unfold refillBuffer at h ⊢
  split
  · exact readFile_serialOut k t CODE_BUFFER_SIZE
  · rename_i hend
    rw [if_neg hend, terminateTask_inactive] at h
    cases h

theorem fetchByte_serialOut (h : ((k.fetchByte t).2.tasks t).isActive = true) :
    (k.fetchByte t).2.serialOut = k.serialOut := by
  unfold fetchByte at h ⊢
  split
  · rename_i hused
    rw [if_pos hused] at h
    simp only at h ⊢
    split at h
    · rename_i hended
      exact absurd h hended
    · rename_i hrefilled
      rw [if_neg hrefilled]
      exact refillBuffer_serialOut (not_not.mp hrefilled)
  · rfl

theorem fetchInt_serialOut (h : ((k.fetchInt t).2.tasks t).isActive = true) :
    (k.fetchInt t).2.serialOut = k.serialOut :=
  (fetchByte_serialOut h).trans (fetchByte_serialOut (active_of_fetchByte h))

theorem jump_serialOut (k : Kernel sd) (t : TaskId) (addr : Int) :
    (k.jump t addr).serialOut = k.serialOut := by
  unfold jump seekFile
  split <;> rfl

theorem readString_serialOut (k : Kernel sd) (n : Nat) (inRange stop : Int -> Bool)
    (addr : Int) : (k.readString n inRange stop addr).2.serialOut = k.serialOut := by
  apply forExit_value_preserves
    (fun s : List Byte × Kernel sd => s.2.serialOut = k.serialOut) rfl
  rintro i ⟨chars, k'⟩ _ hk'
  simp only
  split
  · exact hk'
  · split
    · exact hk'
    · exact hk'

theorem length_readString (k : Kernel sd) (n : Nat) (inRange stop : Int -> Bool)
    (addr : Int) : (k.readString n inRange stop addr).1.length <= n := by
  rw [readString_fst, List.length_map]
  calc
    _ <= (List.range n).length := (List.takeWhile_prefix _).length_le
    _ = n := List.length_range

/-!
## Checks that are passed
-/

theorem checkStackUnderflow_of_active {count : Int} {body : Kernel sd -> Kernel sd}
    (h : ((k.checkStackUnderflow t count body).tasks t).isActive = true) :
    k.checkStackUnderflow t count body = body k := by
  unfold checkStackUnderflow at h ⊢
  split
  · rename_i hfew
    rw [if_pos hfew, terminateTask_inactive] at h
    cases h
  · rfl

theorem checkStackOverflow_of_active {body : Kernel sd -> Kernel sd}
    (h : ((k.checkStackOverflow t body).tasks t).isActive = true) :
    k.checkStackOverflow t body = body k := by
  unfold checkStackOverflow at h ⊢
  split
  · rename_i hfull
    rw [if_pos hfull, terminateTask_inactive] at h
    cases h
  · rfl

/-!
## Instructions
-/

/-- The texts that an instruction sends, from a stack with this on top. -/
def printed (k : Kernel sd) (t : TaskId) (top : Int) : VMOpcode -> List (Bool × List Byte)
  | .print => [(false, text (toString top)), (false, text "\n")]
  | .prte => [(true, text (toString top)), (true, text "\n")]
  | .prtc => [(false, cString [toChar top])]
  | .prts =>
      [(false, cString (((List.range 127).takeWhile fun (i : Nat) =>
        inHeap (int16 (k.getPhysAddr t top + i)) &&
          ! isNull (k.globalHeap (int16 (k.getPhysAddr t top + i)))).map fun (i : Nat) =>
            toChar (k.globalHeap (int16 (k.getPhysAddr t top + i)))))]
  | _ => []

theorem opPrint_prints (fd : Int) (hword : Word (k.stackPop t).1)
    (h : ((k.opPrint t fd).tasks t).isActive = true) :
    Prints k (k.opPrint t fd)
      [(fd = FD_STDERR, text (toString (k.stackPop t).1)), (fd = FD_STDERR, text "\n")] := by
  unfold opPrint at h ⊢
  rw [checkStackUnderflow_of_active h]
  have hnumber := (k.stackPop t).2.stdWriteInt_prints fd hword
  have hnul : 0#8 ∉ [ascii '\n'] := by decide
  have hline := ((k.stackPop t).2.stdWriteInt fd (k.stackPop t).1).stdWrite_prints fd hnul
    (by decide)
  exact (hnumber.trans hline).of_serialOut rfl

theorem opPrts_prints (h : ((k.opPrts t).tasks t).isActive = true) :
    Prints k (k.opPrts t) (k.printed t (k.stackPop t).1 .prts) := by
  unfold opPrts at h ⊢
  rw [checkStackUnderflow_of_active h]
  have hread := (k.stackPop t).2.readString_fst 127 inHeap isNull
    ((k.stackPop t).2.getPhysAddr t (k.stackPop t).1)
  have hlength := (k.stackPop t).2.length_readString 127 inHeap isNull
    ((k.stackPop t).2.getPhysAddr t (k.stackPop t).1)
  have hsilent := (k.stackPop t).2.readString_serialOut 127 inHeap isNull
    ((k.stackPop t).2.getPhysAddr t (k.stackPop t).1)
  rw [stackPop_getPhysAddr] at hread hlength hsilent
  simp only
  rw [stackPop_getPhysAddr]
  unfold printed
  have hheap : (k.stackPop t).2.globalHeap = k.globalHeap := rfl
  rw [hheap] at hread
  rw [← hread]
  exact (stdWrite_prints_cString _ FD_STDOUT (Nat.le_trans hlength (by decide))).of_serialOut
    hsilent

theorem segFault_inactive (k : Kernel sd) (t : TaskId) (message : List Byte) (addr : Int) :
    ((k.segFault t message addr).tasks t).isActive = false :=
  terminateTask_inactive _ t

theorem opJif_serialOut (h : ((k.opJif t).tasks t).isActive = true) :
    (k.opJif t).serialOut = k.serialOut := by
  unfold opJif at h ⊢
  have hbody := checkStackUnderflow_of_active h
  rw [hbody] at h ⊢
  simp only at h ⊢
  split
  · rename_i htaken
    rw [if_pos htaken, isActive_congr (jump_records _ t _) t,
      isActive_congr (records_stackPop _ t) t] at h
    exact (jump_serialOut _ t _).trans (fetchInt_serialOut h)
  · rename_i hskipped
    rw [if_neg hskipped, isActive_congr (records_stackPop _ t) t] at h
    exact fetchInt_serialOut h

theorem opLoad_serialOut (h : ((k.opLoad t).tasks t).isActive = true) :
    (k.opLoad t).serialOut = k.serialOut := by
  unfold opLoad at h ⊢
  have hbody := checkStackUnderflow_of_active h
  rw [hbody] at h ⊢
  simp only at h ⊢
  split
  · rename_i hin
    rw [if_pos hin] at h
    rw [checkStackOverflow_of_active h]
    rfl
  · rename_i hout
    rw [if_neg hout, segFault_inactive] at h
    cases h

theorem opStore_serialOut (h : ((k.opStore t).tasks t).isActive = true) :
    (k.opStore t).serialOut = k.serialOut := by
  unfold opStore at h ⊢
  have hbody := checkStackUnderflow_of_active h
  rw [hbody] at h ⊢
  simp only at h ⊢
  split
  · rfl
  · rename_i hout
    rw [if_neg hout, segFault_inactive] at h
    cases h

theorem execute_prints {opcode : Byte} {op : VMOpcode}
    (hop : VMOpcode.ofByte? opcode = some op) (hsys : op ≠ .sys) (hmalloc : op ≠ .malloc)
    (hword : Word (k.stackPop t).1)
    (h : ((k.execute t opcode).tasks t).isActive = true) :
    Prints k (k.execute t opcode) (k.printed t (k.stackPop t).1 op) := by
  unfold execute at h ⊢
  rw [hop] at h ⊢
  cases op with
  | exit =>
      simp only at h
      rw [terminateTask_inactive] at h
      cases h
  | print => exact opPrint_prints FD_STDOUT hword h
  | prte => exact opPrint_prints FD_STDERR hword h
  | prts => exact opPrts_prints h
  | prtc =>
      simp only at h ⊢
      rw [checkStackUnderflow_of_active h]
      have hfit : [toChar (k.stackPop t).1].length <= 500 := by
        rw [List.length_singleton]
        decide
      exact ((k.stackPop t).2.stdWrite_prints_cString FD_STDOUT hfit).of_serialOut rfl
  | add | sub | eq =>
      simp only [binary] at h ⊢
      rw [checkStackUnderflow_of_active h]
      exact .of_eq rfl
  | pop =>
      simp only at h ⊢
      rw [checkStackUnderflow_of_active h]
      exact .of_eq rfl
  | dup =>
      simp only [opDup] at h ⊢
      have hbody := checkStackUnderflow_of_active h
      rw [hbody] at h ⊢
      rw [checkStackOverflow_of_active h]
      exact .of_eq rfl
  | push =>
      simp only at h ⊢
      have hbody := checkStackOverflow_of_active h
      rw [hbody] at h ⊢
      have hfetched : ((k.fetchInt t).2.tasks t).isActive = true := by
        rw [← isActive_congr (records_stackPush _ t _) t]
        exact h
      exact .of_eq (fetchInt_serialOut hfetched)
  | jmp =>
      simp only at h ⊢
      rw [isActive_congr (jump_records _ t _) t] at h
      exact .of_eq ((jump_serialOut _ t _).trans (fetchInt_serialOut h))
  | jif => exact .of_eq (opJif_serialOut h)
  | read =>
      simp only [opRead] at h ⊢
      rw [checkStackOverflow_of_active h]
      apply Prints.of_eq
      unfold stdRead
      simp only
      split
      · rfl
      · rfl
  | sys => exact absurd rfl hsys
  | malloc => exact absurd rfl hmalloc
  | sleep =>
      simp only [opSleep] at h ⊢
      rw [checkStackUnderflow_of_active h]
      exact .of_eq rfl
  | load => exact .of_eq (opLoad_serialOut h)
  | store => exact .of_eq (opStore_serialOut h)
  | pinMode => exact .of_eq rfl
  | dWrite => exact .of_eq rfl

/-!
## Turns
-/

theorem Fetched.printed (h : Fetched t k k') (top : Int) (op : VMOpcode) :
    k'.printed t top op = k.printed t top op := by
  cases op with
  | prts =>
      show [(false, cString _)] = [(false, cString _)]
      rw [h.getPhysAddr, h.quiet.heap]
  | _ => rfl

theorem wakeUp_fetched (h : k.wakeUp t = some k') : Fetched t k k' := by
  have hwoken : Fetched t k (k.modifyTask t fun task => { task with wakeUpTime := 0#32 }) := by
    refine ⟨?_, ?_, ?_, modifyTask_quiet k t rfl⟩
    · simp [modifyTask]
    · simp [modifyTask]
    · simp [modifyTask]
  unfold wakeUp at h
  split at h
  · split at h
    · cases h
    · cases h
      exact hwoken
  · cases h
    exact ⟨rfl, rfl, rfl, Quiet.refl k⟩

theorem wakeUp_serialOut (h : k.wakeUp t = some k') : k'.serialOut = k.serialOut := by
  unfold wakeUp at h
  split at h
  · split at h
    · cases h
    · cases h
      rfl
  · cases h
    rfl

/--
In every reachable state, an instruction that neither ends its task nor calls the system
sends this and nothing else: a number and a newline, or a character, or the string in the
heap, each a packet of its own.
-/
theorem turn_prints (hk : Reachable k) {op : VMOpcode}
    (hturn : k.dispatches k.current = some k') (hop : k'.nextOpcode k.current = some op)
    (hsys : op ≠ .sys) (hmalloc : op ≠ .malloc)
    (h : ((k.step .turn).tasks k.current).isActive = true) :
    Prints k (k.step .turn)
      (k.printed k.current ((k.tasks k.current).stack (k.tasks k.current).sp) op) := by
  have hproper : k.Proper [] := by
    cases hk with
    | run card events hk =>
        rw [hk]
        exact run_proper card events
  have hwake := (dispatches_cases hturn).right.right
  have hactive := active_of_nextOpcode hop
  have hfetched := (wakeUp_fetched hwake).trans (fetchByte_fetched hactive)
  rcases runStep_of_nextOpcode hop with ⟨hstep, hopcode⟩
  have hsilent := (fetchByte_serialOut hactive).trans (wakeUp_serialOut hwake)
  rw [step_turn_of_dispatches rfl hturn, hstep] at h ⊢
  have htop : ((k'.fetchByte k.current).2.stackPop k.current).1 =
      (k.tasks k.current).stack (k.tasks k.current).sp := by
    rw [stackPop_fst]
    unfold operand
    rw [hfetched.stack, hfetched.quiet.sp k.current, Int.sub_zero]
  have hprints := execute_prints hopcode hsys hmalloc
    (by rw [htop]; exact (hproper.tasks k.current).stack _) h
  rw [htop, hfetched.printed] at hprints
  exact hprints.of_serialOut hsilent

/-- A program that prints -7 over and over, about to do it first. -/
def printingProgram : Kernel CardImage.sdFat :=
  (boot (CardImage.ofProgram 16#8
    [0x10#8, 0xF9#8, 0xFF#8, 0x01#8, 0x20#8, 0x00#8, 0x00#8] 1)).run
    (.arrive runRequest.bytes :: List.replicate 4 .turn)

theorem printingProgram_turn :
    Prints printingProgram (printingProgram.step .turn)
      [(false, text "-7"), (false, text "\n")] := by
  have hcurrent : printingProgram.current = 1 := by decide +kernel
  have htop : (printingProgram.tasks 1).stack (printingProgram.tasks 1).sp = -7 := by
    decide +kernel
  have hrunnable : (printingProgram.tasks 1).isRunnable = true := by decide +kernel
  have hawake : ¬ (printingProgram.tasks 1).wakeUpTime > 0#32 := by decide +kernel
  have hop : printingProgram.nextOpcode 1 = some .print := by decide +kernel
  have hactive : ((printingProgram.step .turn).tasks 1).isActive = true := by decide +kernel
  have hturn : printingProgram.dispatches 1 = some printingProgram :=
    dispatches_of_awake hrunnable (by decide) hawake
  have hreach : Reachable printingProgram := .run _ _ rfl
  have hprints := @turn_prints _ printingProgram printingProgram hreach .print
    (by rw [hcurrent]; exact hturn) (by rw [hcurrent]; exact hop) (by decide) (by decide)
    (by rw [hcurrent]; exact hactive)
  rw [hcurrent, htop] at hprints
  exact hprints

end Kernel
end ArduOS
