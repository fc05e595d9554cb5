import ArduOS.Kernel.Fetching
import ArduOS.VmTools.Assembler

/-!
# The layout of assembled code

Sizes are computed in the first pass, bytes emitted in the second, operands
fetched by the virtual machine, and the header skipped at a jump.  All four agree
on where an instruction starts.
-/

namespace ArduOS

/-!
## Decoding
-/

/-- The instructions for which the virtual machine fetches two more bytes. -/
def VMOpcode.hasOperand : VMOpcode -> Bool
  | .push => true
  | .jmp => true
  | .jif => true
  | _ => false

def VMOpcode.mnemonic : VMOpcode -> List Char
  | .exit => "EXIT".toList
  | .print => "PRINT".toList
  | .read => "READ".toList
  | .prtc => "PRTC".toList
  | .prte => "PRTE".toList
  | .prts => "PRTS".toList
  | .push => "PUSH".toList
  | .add => "ADD".toList
  | .sub => "SUB".toList
  | .eq => "EQ".toList
  | .dup => "DUP".toList
  | .pop => "POP".toList
  | .jmp => "JMP".toList
  | .jif => "JIF".toList
  | .sys => "SYS".toList
  | .pinMode => "PIN_MODE".toList
  | .dWrite => "D_WRITE".toList
  | .sleep => "SLEEP".toList
  | .malloc => "MALLOC".toList
  | .load => "LOAD".toList
  | .store => "STORE".toList

structure Instruction where
  op : VMOpcode
  operand : Option Int
  deriving DecidableEq

def Instruction.length (instr : Instruction) : Nat := if instr.op.hasOperand then 3 else 1

/-- The instructions a sequence of bytes consists of. -/
def decode : List Byte -> Option (List Instruction)
  | [] => some []
  | b :: rest =>
      match VMOpcode.ofByte? b with
      | none => none
      | some op =>
          if op.hasOperand then
            match rest with
            | low :: high :: rest =>
                (decode rest).map fun instrs =>
                  { op := op, operand := some (intOfBytes low high) } :: instrs
            | _ => none
          else (decode rest).map fun instrs => { op := op, operand := none } :: instrs

/-- Where instruction `n` starts, or where the code ends if there are only `n`. -/
def startOf (instrs : List Instruction) (n : Nat) : Nat :=
  ((instrs.take n).map Instruction.length).sum

/-!
## The source as a sequence of labels and instructions
-/

namespace Unicode

def sourceItems (u : Unicode) (lines : List (List Char)) :
    Except AssembleError (List Item) :=
  (lines.mapM u.readLine).map List.flatten

end Unicode

def parsedOps (items : List Item) : List ParsedOp :=
  items.filterMap fun item =>
    match item with
    | .op parsed => some parsed
    | _ => none

/-- The last definition of the label has `n` instructions in front of it. -/
def LastDefined (items : List Item) (name : List Char) (n : Nat) : Prop :=
  exists before after, items = before ++ .label name :: after ∧
    .label name ∉ after ∧ n = (parsedOps before).length

@[simp] theorem parsedOps_append (items items' : List Item) :
    parsedOps (items ++ items') = parsedOps items ++ parsedOps items' := by
  simp [parsedOps]

theorem pass1_eq {u : Unicode} {lines : List (List Char)} {s : Pass1}
    (h : u.pass1 lines = .ok s) :
    exists items, u.sourceItems lines = .ok items ∧
      s = items.foldl Pass1.add Pass1.start := by
  have hfold : forall (lines : List (List Char)) (s s' : Pass1),
      lines.foldlM (fun s line => do
        let items <- u.readLine line
        pure (items.foldl Pass1.add s)) s = Except.ok s' ->
      exists parts, lines.mapM u.readLine = .ok parts ∧
        s' = parts.flatten.foldl Pass1.add s := by
    intro lines
    induction lines with
    | nil =>
        intro s s' hdone
        cases hdone
        exact ⟨[], rfl, rfl⟩
    | cons line lines ih =>
        intro s s' hdone
        rw [List.foldlM_cons] at hdone
        cases hline : u.readLine line with
        | error err =>
            rw [hline] at hdone
            cases hdone
        | ok items =>
            rw [hline] at hdone
            rcases ih (items.foldl Pass1.add s) s' hdone with ⟨parts, hparts, hs'⟩
            refine ⟨items :: parts, ?_, ?_⟩
            · rw [List.mapM_cons, hline, hparts]
              rfl
            · rw [hs', List.flatten_cons, List.foldl_append]
  rcases hfold lines Pass1.start s h with ⟨parts, hparts, hs⟩
  refine ⟨parts.flatten, ?_, hs⟩
  unfold Unicode.sourceItems
  rw [hparts]
  rfl

/-!
## Labels
-/

def sizes (ops : List ParsedOp) : Nat := (ops.map ParsedOp.size).sum

theorem foldl_add_parsedOps (items : List Item) (s : Pass1) :
    (items.foldl Pass1.add s).parsedOps = s.parsedOps ++ parsedOps items := by
  induction items generalizing s with
  | nil => simp [parsedOps]
  | cons item items ih =>
      rw [List.foldl_cons, ih]
      cases item with
      | heapSize size => rfl
      | label name => rfl
      | op parsed => simp [Pass1.add, parsedOps]

theorem foldl_add_pc (items : List Item) (s : Pass1) :
    (items.foldl Pass1.add s).pc = s.pc + sizes (parsedOps items) := by
  induction items generalizing s with
  | nil => simp [parsedOps, sizes]
  | cons item items ih =>
      rw [List.foldl_cons, ih]
      cases item with
      | heapSize size => rfl
      | label name => rfl
      | op parsed =>
          simp only [Pass1.add, parsedOps, sizes, List.filterMap_cons, List.map_cons,
            List.sum_cons]
          omega

theorem lookup_foldl_add {name : List Char} {items : List Item}
    (h : .label name ∉ items) (s : Pass1) :
    (items.foldl Pass1.add s).labels.lookup name = s.labels.lookup name := by
  induction items generalizing s with
  | nil => rfl
  | cons item items ih =>
      rw [List.mem_cons, not_or] at h
      rw [List.foldl_cons, ih h.right]
      cases item with
      | heapSize size => rfl
      | op parsed => rfl
      | label name' =>
          have hne : name ≠ name' := fun heq => h.left (by rw [heq])
          have hneq : (name == name') = false := by simpa using hne
          simp [Pass1.add, List.lookup_cons, hneq]

theorem lookup_of_lastDefined {items : List Item} {name : List Char} {n : Nat}
    (h : LastDefined items name n) :
    (items.foldl Pass1.add Pass1.start).labels.lookup name =
      some (sizes ((parsedOps items).take n)) := by
  rcases h with ⟨before, after, hitems, hafter, hn⟩
  have hops : (parsedOps items).take n = parsedOps before := by
    rw [hitems, parsedOps_append, hn]
    exact List.take_left
  have hpc := foldl_add_pc before Pass1.start
  have hstart : Pass1.start.pc = 0 := rfl
  rw [hstart, Nat.zero_add] at hpc
  rw [hops, hitems, List.foldl_append, List.foldl_cons, lookup_foldl_add hafter]
  simp [Pass1.add, hpc]

theorem exists_lastDefined {items : List Item} {name : List Char}
    (h : .label name ∈ items) : exists n, LastDefined items name n := by
  induction items with
  | nil => cases h
  | cons item items ih =>
      by_cases hlater : .label name ∈ items
      · rcases ih hlater with ⟨n, before, after, hitems, hafter, _⟩
        exact ⟨_, item :: before, after, by rw [hitems, List.cons_append], hafter, rfl⟩
      · rcases List.mem_cons.mp h with heq | hin
        · exact ⟨_, [], items, by rw [heq, List.nil_append], hlater, rfl⟩
        · exact absurd hin hlater

/-!
## Bytes
-/

theorem ParsedOp.ofByte (op : ParsedOp) :
    exists vmOp, VMOpcode.ofByte? op.opcode = some vmOp ∧ vmOp.mnemonic = op.mnem ∧
      vmOp.hasOperand = decide (op.mnem ∈ opsWithImm) := by
  have htable : forall entry, entry ∈ opcodes ->
      (VMOpcode.ofByte? entry.2).map (fun vmOp => (vmOp.mnemonic, vmOp.hasOperand)) =
        some (entry.1, decide (entry.1 ∈ opsWithImm)) := by decide
  have hmem : (op.mnem, op.opcode) ∈ opcodes := by
    rcases List.lookup_eq_some_iff.mp op.known with ⟨before, after, htable, _⟩
    rw [htable]
    exact List.mem_append_right before List.mem_cons_self
  rcases Option.map_eq_some_iff.mp (htable _ hmem) with ⟨vmOp, hop, hpair⟩
  rcases Prod.mk.inj hpair with ⟨hname, himm⟩
  exact ⟨vmOp, hop, hname, himm⟩

theorem intOfBytes_operandBytes (val : Int) :
    intOfBytes (BitVec.ofInt 8 val) (BitVec.ofInt 8 (val >>> (8 : Nat))) % 65536 =
      val % 65536 := by
  have hword : (BitVec.ofInt 8 (val >>> (8 : Nat)) ++ BitVec.ofInt 8 val).toNat =
      (BitVec.ofInt 8 (val >>> (8 : Nat))).toNat * 256 + (BitVec.ofInt 8 val).toNat := by
    rw [BitVec.toNat_append, ← Nat.shiftLeft_add_eq_or_of_lt (BitVec.isLt _),
      Nat.shiftLeft_eq]
  have hlow : ((BitVec.ofInt 8 val).toNat : Int) = val % 256 := by
    rw [BitVec.toNat_ofInt]
    omega
  have hhigh : ((BitVec.ofInt 8 (val >>> (8 : Nat))).toNat : Int) = val / 256 % 256 := by
    rw [BitVec.toNat_ofInt, Int.shiftRight_eq_div_pow]
    omega
  unfold intOfBytes
  rw [BitVec.toInt_eq_toNat_cond, hword]
  generalize (BitVec.ofInt 8 (val >>> (8 : Nat))).toNat = high at hhigh ⊢
  generalize (BitVec.ofInt 8 val).toNat = low at hlow ⊢
  split
  · push_cast
    omega
  · push_cast
    omega

/-!
## Reading decoded code
-/

@[simp] theorem startOf_zero (instrs : List Instruction) : startOf instrs 0 = 0 := rfl

@[simp] theorem startOf_nil (n : Nat) : startOf [] n = 0 := by
  simp [startOf]

@[simp] theorem startOf_cons (instr : Instruction) (instrs : List Instruction) (n : Nat) :
    startOf (instr :: instrs) (n + 1) = instr.length + startOf instrs n := by
  simp [startOf]

inductive Reads : List Byte -> Instruction -> Prop
  | plain {b : Byte} {op : VMOpcode} (opcode : VMOpcode.ofByte? b = some op)
      (hplain : op.hasOperand = false) : Reads [b] { op := op, operand := none }
  | imm {b : Byte} {op : VMOpcode} (low high : Byte)
      (opcode : VMOpcode.ofByte? b = some op) (himm : op.hasOperand = true) :
      Reads [b, low, high] { op := op, operand := some (intOfBytes low high) }

theorem Reads.length {bytes : List Byte} {instr : Instruction} (h : Reads bytes instr) :
    bytes.length = instr.length := by
  cases h with
  | plain _ hplain => simp [Instruction.length, hplain]
  | imm _ _ _ himm => simp [Instruction.length, himm]

theorem Reads.head {bytes : List Byte} {instr : Instruction} (h : Reads bytes instr)
    (rest : List Byte) :
    ((bytes ++ rest)[0]?).bind VMOpcode.ofByte? = some instr.op := by
  cases h with
  | plain hopcode _ => exact hopcode
  | imm _ _ hopcode _ => exact hopcode

theorem decode_append {bytes : List Byte} {instr : Instruction} (h : Reads bytes instr)
    (rest : List Byte) :
    decode (bytes ++ rest) = (decode rest).map fun instrs => instr :: instrs := by
  cases h with
  | plain hopcode hplain =>
      rw [List.singleton_append, decode, hopcode]
      simp [hplain]
  | imm low high hopcode himm =>
      rw [List.cons_append, List.cons_append, List.singleton_append, decode, hopcode]
      simp [himm]

theorem decode_eq_nil {body : List Byte} (h : decode body = some []) : body = [] := by
  cases body with
  | nil => rfl
  | cons b rest =>
      rw [decode] at h
      split at h
      · cases h
      · split at h
        · split at h
          · rcases Option.map_eq_some_iff.mp h with ⟨_, _, hcons⟩
            cases hcons
          · cases h
        · rcases Option.map_eq_some_iff.mp h with ⟨_, _, hcons⟩
          cases hcons

theorem decode_eq_cons {body : List Byte} {instr : Instruction}
    {instrs : List Instruction} (h : decode body = some (instr :: instrs)) :
    exists bytes rest, body = bytes ++ rest ∧ Reads bytes instr ∧
      decode rest = some instrs := by
  cases body with
  | nil => cases h
  | cons b rest =>
      rw [decode] at h
      split at h
      · cases h
      · rename_i op hopcode
        split at h
        · rename_i himm
          split at h
          · rename_i low high rest
            rcases Option.map_eq_some_iff.mp h with ⟨_, hrest, hcons⟩
            cases hcons
            exact ⟨[b, low, high], rest, rfl, .imm low high hopcode himm, hrest⟩
          · cases h
        · rename_i hplain
          rcases Option.map_eq_some_iff.mp h with ⟨_, hrest, hcons⟩
          cases hcons
          exact ⟨[b], rest, rfl, .plain hopcode (Bool.eq_false_iff.mpr hplain), hrest⟩

theorem decode_drop {body : List Byte} {instrs : List Instruction}
    (h : decode body = some instrs) (n : Nat) :
    decode (body.drop (startOf instrs n)) = some (instrs.drop n) := by
  induction n generalizing body instrs with
  | zero => simpa using h
  | succ n ih =>
      cases instrs with
      | nil => simpa using h
      | cons instr instrs =>
          rcases decode_eq_cons h with ⟨bytes, rest, hbody, hreads, hrest⟩
          rw [startOf_cons, ← hreads.length, hbody, List.drop_length_add_append,
            List.drop_succ_cons]
          exact ih hrest

theorem startOf_le_length {body : List Byte} {instrs : List Instruction}
    (h : decode body = some instrs) (n : Nat) : startOf instrs n <= body.length := by
  induction n generalizing body instrs with
  | zero => exact Nat.zero_le _
  | succ n ih =>
      cases instrs with
      | nil => simp
      | cons instr instrs =>
          rcases decode_eq_cons h with ⟨bytes, rest, hbody, hreads, hrest⟩
          have hlength := hreads.length
          have hle := ih hrest
          rw [startOf_cons, hbody, List.length_append]
          omega

theorem startOf_succ {instrs : List Instruction} {n : Nat} {instr : Instruction}
    (hn : instrs[n]? = some instr) :
    startOf instrs (n + 1) = startOf instrs n + instr.length := by
  simp [startOf, List.take_add_one, hn]

theorem reads_at {body : List Byte} {instrs : List Instruction} {n : Nat}
    {instr : Instruction} (h : decode body = some instrs) (hn : instrs[n]? = some instr) :
    exists bytes rest, body.drop (startOf instrs n) = bytes ++ rest ∧
      Reads bytes instr := by
  have hdrop := decode_drop h n
  rcases List.getElem?_eq_some_iff.mp hn with ⟨hlt, hget⟩
  rw [List.drop_eq_getElem_cons hlt, hget] at hdrop
  rcases decode_eq_cons hdrop with ⟨bytes, rest, hbody, hreads, _⟩
  exact ⟨bytes, rest, hbody, hreads⟩

theorem startOf_length {body : List Byte} {instrs : List Instruction} {n : Nat}
    (h : decode body = some instrs) (hn : instrs.length <= n) :
    body.length <= startOf instrs n := by
  have hdrop := decode_drop h n
  rw [List.drop_eq_nil_of_le hn] at hdrop
  exact List.drop_eq_nil_iff.mp (decode_eq_nil hdrop)

theorem opcode_at {body : List Byte} {instrs : List Instruction}
    (h : decode body = some instrs) (n : Nat) :
    (body[startOf instrs n]?).bind VMOpcode.ofByte? = instrs[n]?.map Instruction.op := by
  cases hn : instrs[n]? with
  | none =>
      have hend := startOf_length h (List.getElem?_eq_none_iff.mp hn)
      rw [List.getElem?_eq_none hend]
      rfl
  | some instr =>
      rcases reads_at h hn with ⟨bytes, rest, hbytes, hreads⟩
      have hfirst : body[startOf instrs n]? = (bytes ++ rest)[0]? := by
        rw [← hbytes, List.getElem?_drop, Nat.add_zero]
      rw [hfirst, hreads.head]
      rfl

/-!
## Emission
-/

structure Emits (u : Unicode) (labels : List (List Char × Nat)) (op : ParsedOp)
    (instr : Instruction) : Prop where
  mnemonic : instr.op.mnemonic = op.mnem
  size : op.size = instr.length
  plain : op.mnem ∉ opsWithImm -> instr.operand = none
  imm : op.mnem ∈ opsWithImm -> exists operand val v, op.operand = some operand ∧
    u.operandValue labels operand = .ok val ∧ instr.operand = some v ∧
    v % 65536 = val % 65536 ∧ -32768 <= v ∧ v < 32768

theorem emitOp_plain {u : Unicode} {labels : List (List Char × Nat)} {op : ParsedOp}
    {bytes : List Byte} (h : u.emitOp labels op = .ok bytes)
    (hplain : op.mnem ∉ opsWithImm) :
    exists instr, Reads bytes instr ∧ Emits u labels op instr := by
  rcases op.ofByte with ⟨vmOp, hop, hname, himm⟩
  have hnone : vmOp.hasOperand = false := by rw [himm, decide_eq_false hplain]
  have hsize : op.size = 1 := if_neg hplain
  have hbytes : bytes = [op.opcode] := by
    unfold Unicode.emitOp at h
    rw [hsize, if_neg (by decide)] at h
    cases h
    rfl
  refine ⟨{ op := vmOp, operand := none }, ?_, ?_⟩
  · rw [hbytes]
    exact .plain hop hnone
  · constructor
    · exact hname
    · simp [hsize, Instruction.length, hnone]
    · intro _
      rfl
    · intro hmem
      exact absurd hmem hplain

theorem emitOp_imm {u : Unicode} {labels : List (List Char × Nat)} {op : ParsedOp}
    {bytes : List Byte} (h : u.emitOp labels op = .ok bytes)
    (himm : op.mnem ∈ opsWithImm) :
    exists instr, Reads bytes instr ∧ Emits u labels op instr := by
  rcases op.ofByte with ⟨vmOp, hop, hname, hhas⟩
  have hsome : vmOp.hasOperand = true := by rw [hhas, decide_eq_true himm]
  have hsize : op.size = 3 := if_pos himm
  unfold Unicode.emitOp at h
  rw [hsize, if_pos rfl] at h
  cases hoperand : op.operand with
  | none =>
      rw [hoperand] at h
      cases h
  | some operand =>
      rw [hoperand] at h
      cases hval : u.operandValue labels operand with
      | error err =>
          simp only [hval] at h
          cases h
      | ok val =>
          simp only [hval] at h
          have hbytes : bytes = op.opcode :: Unicode.operandBytes val := by
            cases h
            rfl
          refine ⟨_, by rw [hbytes]; exact .imm _ _ hop hsome, ?_⟩
          constructor
          · exact hname
          · simp [hsize, Instruction.length, hsome]
          · intro hnot
            exact absurd himm hnot
          · intro _
            exact ⟨operand, val, _, hoperand, hval, rfl, intOfBytes_operandBytes val,
              BitVec.le_toInt _, BitVec.toInt_lt⟩

theorem emitOp_reads {u : Unicode} {labels : List (List Char × Nat)} {op : ParsedOp}
    {bytes : List Byte} (h : u.emitOp labels op = .ok bytes) :
    exists instr, Reads bytes instr ∧ Emits u labels op instr := by
  by_cases himm : op.mnem ∈ opsWithImm
  · exact emitOp_imm h himm
  · exact emitOp_plain h himm

theorem decode_emitted {u : Unicode} {labels : List (List Char × Nat)}
    {ops : List ParsedOp} {chunks : List (List Byte)}
    (h : ops.mapM (u.emitOp labels) = .ok chunks) :
    exists instrs, decode chunks.flatten = some instrs ∧
      List.Forall₂ (Emits u labels) ops instrs := by
  induction ops generalizing chunks with
  | nil =>
      cases h
      exact ⟨[], rfl, .nil⟩
  | cons op ops ih =>
      rw [List.mapM_cons] at h
      cases hop : u.emitOp labels op with
      | error err =>
          rw [hop] at h
          cases h
      | ok bytes =>
          rw [hop] at h
          cases hops : ops.mapM (u.emitOp labels) with
          | error err =>
              rw [hops] at h
              cases h
          | ok chunks =>
              rw [hops] at h
              cases h
              rcases emitOp_reads hop with ⟨instr, hreads, hemits⟩
              rcases ih hops with ⟨instrs, hdecode, hall⟩
              refine ⟨instr :: instrs, ?_, .cons hemits hall⟩
              rw [List.flatten_cons, decode_append hreads, hdecode]
              rfl

/-- The sizes of the first pass are the lengths the virtual machine goes by. -/
theorem sizes_eq_startOf {u : Unicode} {labels : List (List Char × Nat)}
    {ops : List ParsedOp} {instrs : List Instruction}
    (h : List.Forall₂ (Emits u labels) ops instrs) (n : Nat) :
    sizes (ops.take n) = startOf instrs n := by
  induction h generalizing n with
  | nil => simp [sizes]
  | cons hemits _ ih =>
      cases n with
      | zero => rfl
      | succ n =>
          rw [startOf_cons, ← ih n, ← hemits.size]
          simp [sizes]

/-!
## The machine
-/

section Machine

variable {sd : SdFat} {data : sd.File -> List Byte} {pos : sd.File -> Nat}
  {header body : List Byte} {instrs : List Instruction}

theorem code_at (hheader : header.length = 4) (i : Nat) :
    (header ++ body)[4 + i]? = body[i]? := by
  rw [List.getElem?_append_right (by omega)]
  congr 1
  omega

/--
At the start of an instruction the virtual machine fetches its opcode, then its
operand if it has one, and is at the start of the next.
-/
theorem fetch_instruction (law : sd.Lawful data pos) (hheader : header.length = 4)
    (hdecode : decode body = some instrs) {k : Kernel sd} {t : TaskId} {origin n : Nat}
    {fresh : Bool} {instr : Instruction} (hn : instrs[n]? = some instr)
    (h : Kernel.Streaming data pos (header ++ body) k t origin (startOf instrs n) fresh) :
    VMOpcode.ofByte? (k.fetchByte t).1 = some instr.op ∧
      if instr.op.hasOperand then
        instr.operand = some ((k.fetchByte t).2.fetchInt t).1 ∧
          Kernel.Streaming data pos (header ++ body) ((k.fetchByte t).2.fetchInt t).2 t
            origin (startOf instrs (n + 1)) false
      else Kernel.Streaming data pos (header ++ body) (k.fetchByte t).2 t origin
        (startOf instrs (n + 1)) false := by
  rcases reads_at hdecode hn with ⟨bytes, rest, hbytes, hreads⟩
  have hcode : forall i, (header ++ body)[4 + (startOf instrs n + i)]? =
      (bytes ++ rest)[i]? := by
    intro i
    rw [code_at hheader, ← hbytes, List.getElem?_drop]
  have hnext := startOf_succ hn
  have hinside : forall i, i < bytes.length ->
      4 + (startOf instrs n + i) < (header ++ body).length := by
    intro i hi
    have hdrop := congrArg List.length hbytes
    rw [List.length_drop, List.length_append] at hdrop
    rw [List.length_append]
    omega
  have hfirst := Kernel.fetchByte_streaming law h (hinside 0 (by
    rw [hreads.length, Instruction.length]
    split <;> decide))
  rcases hfirst with ⟨hopcode, hstreaming⟩
  rw [← Nat.add_zero (startOf instrs n), hcode 0] at hopcode
  generalize k.fetchByte t = fetched at hopcode hstreaming ⊢
  rcases fetched with ⟨b, k₁⟩
  cases hreads with
  | plain hop hplain =>
      cases hopcode
      rw [hnext, Instruction.length, if_neg (by simp [hplain])]
      simp only [hplain, Bool.false_eq_true, if_false]
      exact ⟨hop, hstreaming⟩
  | imm low high hop himm =>
      cases hopcode
      rcases Kernel.fetchByte_streaming law hstreaming (hinside 1 (by simp)) with
        ⟨hlow, hsecond⟩
      rcases Kernel.fetchByte_streaming law hsecond (hinside 2 (by simp)) with
        ⟨hhigh, hthird⟩
      rw [hcode 1] at hlow
      have hhigh' := (hcode 2).symm.trans hhigh
      cases hlow
      cases hhigh'
      rw [hnext, Instruction.length, if_pos himm]
      simp only [himm, if_true]
      exact ⟨hop, rfl, hthird⟩

/--
A jump with the operand `v` seeks the opcode byte of instruction `n`, or the end
of the code where there are only `n`.
-/
def JumpsTo (code : List Byte) (instrs : List Instruction) (v : Int) (n : Nat) : Prop :=
  forall (sd : SdFat) (data : sd.File -> List Byte) (pos : sd.File -> Nat),
    sd.Lawful data pos -> forall (k : Kernel sd) (t : TaskId) (file : sd.File),
      (k.tasks t).file = some file -> data file = code ->
      exists file', ((k.jump t v).tasks t).file = some file' ∧ data file' = code ∧
        pos file' = 4 + startOf instrs n ∧
        ((k.jump t v).tasks t).bufferIndex = CODE_BUFFER_SIZE ∧
        (code[pos file']?).bind VMOpcode.ofByte? = instrs[n]?.map Instruction.op

theorem jumpsTo_of_decode (hheader : header.length = 4)
    (hdecode : decode body = some instrs) {v : Int} {n : Nat}
    (hmod : v % 65536 = startOf instrs n % 65536)
    (hlo : -32768 <= v) (hhi : v < 32768) (hreach : startOf instrs n < 2 ^ 15 - 4) :
    JumpsTo (header ++ body) instrs v n := by
  intro sd data pos law k t file hfile hdata
  have hv : v = (startOf instrs n : Int) := by omega
  have hoffset : (BitVec.ofInt 32 (int16 ((startOf instrs n : Int) + 4))).toNat =
      4 + startOf instrs n := Kernel.toNat_offset (by omega)
  have hinside := startOf_le_length hdecode n
  have htask := k.jump_task t v hfile
  refine ⟨_, by rw [htask], ?_, ?_, by rw [htask], ?_⟩
  · rw [law.seek_data, hdata]
  · rw [law.seek_pos _ _ _ (by
      rw [hv, hoffset, hdata, List.length_append]
      omega), hv, hoffset]
  · have hpos := law.seek_pos k.card file
      (BitVec.ofInt 32 (int16 ((startOf instrs n : Int) + 4))) (by
        rw [hoffset, hdata, List.length_append]
        omega)
    rw [hv, hpos, hoffset, code_at hheader]
    exact opcode_at hdecode n

end Machine

/-!
## The whole source
-/

structure OperandFor (u : Unicode) (items : List Item) (code : List Byte)
    (instrs : List Instruction) (operand : List Char) (v : Int) : Prop where
  label : .label operand ∈ items -> exists n, LastDefined items operand n ∧
    v % 65536 = startOf instrs n % 65536 ∧
    (startOf instrs n < 2 ^ 15 - 4 -> JumpsTo code instrs v n)
  number : .label operand ∉ items -> exists val : Int,
    u.parseNumber operand = .ok val ∧ v % 65536 = val % 65536

structure Encodes (u : Unicode) (items : List Item) (code : List Byte)
    (instrs : List Instruction) (op : ParsedOp) (instr : Instruction) : Prop where
  mnemonic : instr.op.mnemonic = op.mnem
  plain : op.mnem ∉ opsWithImm -> instr.operand = none
  imm : op.mnem ∈ opsWithImm -> exists operand v, op.operand = some operand ∧
    instr.operand = some v ∧ OperandFor u items code instrs operand v

/-- The code is a header and, instruction by instruction, what the lines say. -/
def LaidOut (u : Unicode) (lines : List (List Char)) (code : List Byte) : Prop :=
  exists items header body instrs, u.sourceItems lines = .ok items ∧
    code = header ++ body ∧ header.length = 4 ∧ decode body = some instrs ∧
    List.Forall₂ (Encodes u items code instrs) (parsedOps items) instrs

theorem operandFor_of_emits {u : Unicode} {items : List Item} {header body : List Byte}
    {instrs : List Instruction} (hheader : header.length = 4)
    (hdecode : decode body = some instrs)
    (hall : List.Forall₂ (Emits u (items.foldl Pass1.add Pass1.start).labels)
      (parsedOps items) instrs) {operand : List Char} {val v : Int}
    (hval : u.operandValue (items.foldl Pass1.add Pass1.start).labels operand = .ok val)
    (hmod : v % 65536 = val % 65536) (hlo : -32768 <= v) (hhi : v < 32768) :
    OperandFor u items (header ++ body) instrs operand v := by
  unfold Unicode.operandValue at hval
  constructor
  · intro hdefined
    rcases exists_lastDefined hdefined with ⟨n, hlast⟩
    rw [lookup_of_lastDefined hlast, sizes_eq_startOf hall] at hval
    cases hval
    exact ⟨n, hlast, hmod, jumpsTo_of_decode hheader hdecode hmod hlo hhi⟩
  · intro hnone
    have hlookup := lookup_foldl_add hnone Pass1.start
    rw [hlookup] at hval
    exact ⟨val, hval, hmod⟩

theorem assemble_emits {u : Unicode} {lines : List (List Char)} {code : List Byte}
    (h : u.assemble lines = .ok code) :
    exists items body instrs, u.sourceItems lines = .ok items ∧
      code = Unicode.header (items.foldl Pass1.add Pass1.start).heapSize ++ body ∧
      decode body = some instrs ∧
      List.Forall₂ (Emits u (items.foldl Pass1.add Pass1.start).labels)
        (parsedOps items) instrs := by
  unfold Unicode.assemble at h
  cases hpass : u.pass1 lines with
  | error err =>
      rw [hpass] at h
      cases h
  | ok s =>
      rw [hpass] at h
      rcases pass1_eq hpass with ⟨items, hitems, hs⟩
      cases hbody : s.parsedOps.mapM (u.emitOp s.labels) with
      | error err =>
          simp only [bind, Except.bind, hbody] at h
          cases h
      | ok chunks =>
          simp only [bind, Except.bind, hbody, pure, Except.pure] at h
          cases h
          have hops : s.parsedOps = parsedOps items := by
            rw [hs, foldl_add_parsedOps]
            rfl
          rcases decode_emitted hbody with ⟨instrs, hdecode, hall⟩
          rw [hops, hs] at hall
          rw [hs]
          exact ⟨items, chunks.flatten, instrs, hitems, rfl, hdecode, hall⟩

/-- The assembler and the virtual machine agree on the layout of the code. -/
theorem assemble_laidOut {u : Unicode} {lines : List (List Char)} {code : List Byte}
    (h : u.assemble lines = .ok code) : LaidOut u lines code := by
  rcases assemble_emits h with ⟨items, body, instrs, hitems, hcode, hdecode, hall⟩
  refine ⟨items, _, body, instrs, hitems, hcode, rfl, hdecode,
    hall.imp fun op instr hemits => ?_⟩
  constructor
  · exact hemits.mnemonic
  · exact hemits.plain
  · intro himm
    rcases hemits.imm himm with
      ⟨operand, val, v, hoperand, hval, hinstr, hmod, hlo, hhi⟩
    rw [hcode]
    exact ⟨operand, v, hoperand, hinstr,
      operandFor_of_emits rfl hdecode hall hval hmod hlo hhi⟩

/-- The Unicode tables below 128. -/
def Unicode.ascii : Unicode where
  isSpace c :=
    c = ' ' ∨ (9 <= c.toNat ∧ c.toNat <= 13) ∨ (28 <= c.toNat ∧ c.toNat <= 31)
  upper c := [c.toUpper]
  decimal c := if c.isDigit then some (c.toNat - '0'.toNat) else none

def countdown : List (List Char) :=
  ["# @heap 256".toList, "start: PUSH 3 ; DUP   # from three".toList,
    "".toList, "loop:".toList, "  print; push 0x1".toList, "  SUB; DUP; JIF loop".toList,
    "  JMP end; here: PUSH '!'".toList, "here: EXIT".toList, "JMP here".toList,
    "end:".toList]

theorem assemble_laidOut_countdown :
    LaidOut .ascii countdown
      [0xAD#8, 0x01#8, 0x00#8, 0x01#8, 0x10#8, 3#8, 0#8, 0x14#8, 0x01#8, 0x10#8, 1#8, 0#8,
        0x12#8, 0x14#8, 0x21#8, 4#8, 0#8, 0x20#8, 23#8, 0#8, 0x10#8, 33#8, 0#8, 0x00#8,
        0x20#8, 19#8, 0#8] :=
  assemble_laidOut (by decide +kernel)

end ArduOS
