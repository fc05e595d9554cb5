import ArduOS.VmTools.CodeLayout

/-!
# What the fields of a file read back as

Every number of a source ends up in two bytes, and none is compared with what two
bytes hold.  A field holds its number modulo 2 ^ 16; the file says what the source
says if and only if every number of the source fits.
-/

namespace ArduOS

/-!
## Sixteen bits
-/

/-- What two bytes hold, unsigned or as two's complement. -/
def Fits (val : Int) : Prop := -32768 <= val ∧ val < 65536

/--
The field that `VM_fetchInt` and the loader get as `v` is `val`: as two's
complement where `val` is negative, else unsigned.
-/
def ReadsBack (v val : Int) : Prop := if val < 0 then v = val else v % 65536 = val

/-- The field is the number modulo 2 ^ 16, which is the number only where it fits. -/
def Masked (v val : Int) : Prop :=
  v % 65536 = val % 65536 ∧ (ReadsBack v val <-> Fits val)

theorem masked_of_modEq {v val : Int} (hmod : v % 65536 = val % 65536) (hlo : -32768 <= v)
    (hhi : v < 32768) : Masked v val := by
  refine ⟨hmod, ?_⟩
  unfold ReadsBack Fits
  split
  · omega
  · omega

/-!
## What the source says
-/

/-- Where instruction `n` starts by the sizes that the first pass adds up. -/
def offsetOf (items : List Item) (n : Nat) : Nat := sizes ((parsedOps items).take n)

def DefinedAt (items : List Item) (name : List Char) (n : Nat) : Prop :=
  exists before after, items = before ++ .label name :: after ∧
    n = (parsedOps before).length

/-- The number that an operand of the source stands for. -/
inductive Denotes (u : Unicode) (items : List Item) (operand : List Char) : Int -> Prop
  | label {n : Nat} (hlast : LastDefined items operand n) :
      Denotes u items operand (offsetOf items n)
  | number {val : Int} (hnone : .label operand ∉ items)
      (hval : u.parseNumber operand = .ok val) : Denotes u items operand val

def OperandFits (u : Unicode) (items : List Item) (op : ParsedOp) : Prop :=
  op.mnem ∈ opsWithImm ->
    forall operand val, op.operand = some operand -> Denotes u items operand val -> Fits val

def Item.heapSize? : Item -> Option Int
  | .heapSize size => some size
  | _ => none

def writtenHeapSize (items : List Item) : Int :=
  ((items.filterMap Item.heapSize?).getLast?).getD 128

namespace Unicode

def isDirective (u : Unicode) (line : List Char) : Bool :=
  "# @heap".toList.isPrefixOf (u.strip line)

def SizeFits (u : Unicode) (line : List Char) : Prop :=
  exists size, u.readDirective (u.strip line) = [.heapSize size] ∧
    0 <= size ∧ size < 65536

def SingleLabels (u : Unicode) (lines : List (List Char)) : Prop :=
  forall items, u.sourceItems lines = .ok items ->
    forall name n m, DefinedAt items name n -> DefinedAt items name m ->
      offsetOf items n = offsetOf items m

def DirectivesFit (u : Unicode) (lines : List (List Char)) : Prop :=
  forall line, line ∈ lines -> u.isDirective line = true -> u.SizeFits line

def OperandsFit (u : Unicode) (lines : List (List Char)) : Prop :=
  forall items, u.sourceItems lines = .ok items ->
    forall op, op ∈ parsedOps items -> OperandFits u items op

/-- Every number of the source fits, and every label is one place. -/
structure Representable (u : Unicode) (lines : List (List Char)) : Prop where
  operands : u.OperandsFit lines
  directives : u.DirectivesFit lines
  labels : u.SingleLabels lines

end Unicode

/-!
## What the file says
-/

/-- An instruction of the file; its operand is related by `R` to that of the source. -/
structure OperandReads (u : Unicode) (items : List Item) (R : Int -> Int -> Prop)
    (op : ParsedOp) (instr : Instruction) : Prop where
  mnemonic : instr.op.mnemonic = op.mnem
  plain : op.mnem ∉ opsWithImm -> instr.operand = none
  imm : op.mnem ∈ opsWithImm -> exists operand v val, op.operand = some operand ∧
    instr.operand = some v ∧ Denotes u items operand val ∧ R v val

/-- The heap size and the operands of the file, each related by `R` to the source. -/
def FileReads (u : Unicode) (lines : List (List Char)) (code : List Byte)
    (R : Int -> Int -> Prop) : Prop :=
  exists items low high body instrs, u.sourceItems lines = .ok items ∧
    code = [0xAD#8, 0x01#8, low, high] ++ body ∧
    R (intOfBytes low high) (writtenHeapSize items) ∧
    decode body = some instrs ∧
    (forall n, offsetOf items n = startOf instrs n) ∧
    List.Forall₂ (OperandReads u items R) (parsedOps items) instrs

/-- Nothing is lost, and nothing was accepted that should not have been. -/
structure ReadsExactly (u : Unicode) (lines : List (List Char)) (code : List Byte) :
    Prop where
  fields : FileReads u lines code ReadsBack
  directives : u.DirectivesFit lines
  labels : u.SingleLabels lines

/-!
## The three routes
-/

theorem foldl_add_heapSize (items : List Item) (s : Pass1) :
    (items.foldl Pass1.add s).heapSize =
      ((items.filterMap Item.heapSize?).getLast?).getD s.heapSize := by
  induction items generalizing s with
  | nil => rfl
  | cons item items ih =>
      rw [List.foldl_cons, ih]
      cases item with
      | label name => rfl
      | op parsed => rfl
      | heapSize size =>
          simp only [Pass1.add, Item.heapSize?, List.filterMap_cons, List.getLast?_cons,
            Option.getD_some]

theorem operandValue_eq_iff {u : Unicode} {items : List Item} {operand : List Char}
    {val : Int} :
    u.operandValue (items.foldl Pass1.add Pass1.start).labels operand = .ok val <->
      Denotes u items operand val := by
  unfold Unicode.operandValue
  constructor
  · intro hval
    by_cases hdefined : .label operand ∈ items
    · rcases exists_lastDefined hdefined with ⟨n, hlast⟩
      rw [lookup_of_lastDefined hlast] at hval
      cases hval
      exact .label hlast
    · rw [lookup_foldl_add hdefined] at hval
      exact .number hdefined hval
  · intro hdenotes
    cases hdenotes with
    | label hlast =>
        rw [lookup_of_lastDefined hlast]
        rfl
    | number hnone hval =>
        rw [lookup_foldl_add hnone]
        exact hval

theorem Denotes.unique {u : Unicode} {items : List Item} {operand : List Char}
    {val val' : Int} (h : Denotes u items operand val) (h' : Denotes u items operand val') :
    val = val' := by
  have heq := (operandValue_eq_iff.mpr h).symm.trans (operandValue_eq_iff.mpr h')
  exact Except.ok.inj heq

theorem Emits.masked {u : Unicode} {items : List Item} {op : ParsedOp}
    {instr : Instruction}
    (h : Emits u (items.foldl Pass1.add Pass1.start).labels op instr) :
    OperandReads u items Masked op instr := by
  refine ⟨h.mnemonic, h.plain, ?_⟩
  intro himm
  rcases h.imm himm with ⟨operand, val, v, hoperand, hval, hinstr, hmod, hlo, hhi⟩
  exact ⟨operand, v, val, hoperand, hinstr, operandValue_eq_iff.mp hval,
    masked_of_modEq hmod hlo hhi⟩

theorem assemble_masked {u : Unicode} {lines : List (List Char)} {code : List Byte}
    (h : u.assemble lines = .ok code) : FileReads u lines code Masked := by
  rcases assemble_emits h with ⟨items, body, instrs, hitems, hcode, hdecode, hall⟩
  refine ⟨items, _, _, body, instrs, hitems, hcode, ?_, hdecode, ?_,
    hall.imp fun op instr hemits => hemits.masked⟩
  · rw [foldl_add_heapSize]
    exact masked_of_modEq (intOfBytes_operandBytes _) (BitVec.le_toInt _) BitVec.toInt_lt
  · intro n
    exact sizes_eq_startOf hall n

/-!
## When the file says what the source says
-/

theorem exists_of_mem_mapM {lines : List (List Char)}
    {f : List Char -> Except AssembleError (List Item)} {parts : List (List Item)}
    (h : lines.mapM f = .ok parts) {part : List Item} (hpart : part ∈ parts) :
    exists line, line ∈ lines ∧ f line = .ok part := by
  induction lines generalizing parts with
  | nil =>
      cases h
      cases hpart
  | cons line lines ih =>
      rw [List.mapM_cons] at h
      cases hline : f line with
      | error err =>
          rw [hline] at h
          cases h
      | ok first =>
          rw [hline] at h
          cases hrest : lines.mapM f with
          | error err =>
              rw [hrest] at h
              cases h
          | ok rest =>
              rw [hrest] at h
              cases h
              rcases List.mem_cons.mp hpart with heq | hin
              · exact ⟨line, List.mem_cons_self, by rw [hline, heq]⟩
              · rcases ih hrest hin with ⟨line', hmem, hline'⟩
                exact ⟨line', List.mem_cons_of_mem _ hmem, hline'⟩

theorem heapSize_not_mem_readOp {u : Unicode} {line inst : List Char} {items : List Item}
    (h : u.readOp line inst = .ok items) (size : Int) : .heapSize size ∉ items := by
  unfold Unicode.readOp at h
  split at h
  · cases h
    simp
  · simp only at h
    split at h
    · cases h
    · cases h
      simp

theorem heapSize_not_mem_readInst {u : Unicode} {line inst : List Char} {items : List Item}
    (h : u.readInst line inst = .ok items) (size : Int) : .heapSize size ∉ items := by
  unfold Unicode.readInst at h
  simp only at h
  split at h
  · cases hop : u.readOp line (u.strip (((u.strip inst).dropWhile fun c => c ≠ ':').tail)) with
    | error err =>
        rw [hop] at h
        cases h
    | ok rest =>
        rw [hop] at h
        cases h
        have hrest := heapSize_not_mem_readOp hop size
        simpa using hrest
  · exact heapSize_not_mem_readOp h size

theorem directive_of_mem_readLine {u : Unicode} {line : List Char} {items : List Item}
    {size : Int} (h : u.readLine line = .ok items) (hsize : .heapSize size ∈ items) :
    u.isDirective line = true ∧ u.readDirective (u.strip line) = [.heapSize size] := by
  unfold Unicode.readLine at h
  simp only at h
  split at h
  · rename_i hdirective
    cases h
    refine ⟨hdirective, ?_⟩
    unfold Unicode.readDirective at hsize ⊢
    split at hsize
    · split at hsize
      · rw [List.mem_singleton] at hsize
        rw [hsize]
      · cases hsize
    · cases hsize
  · cases hparts : ((u.strip ((u.strip line).takeWhile fun c => c ≠ '#')).splitOn ';').mapM
        (u.readInst (u.strip line)) with
    | error err =>
        rw [hparts] at h
        cases h
    | ok parts =>
        rw [hparts] at h
        cases h
        rcases List.mem_flatten.mp hsize with ⟨part, hpart, hin⟩
        rcases exists_of_mem_mapM hparts hpart with ⟨inst, _, hinst⟩
        exact absurd hin (heapSize_not_mem_readInst hinst size)

theorem directive_of_mem_sourceItems {u : Unicode} {lines : List (List Char)}
    {items : List Item} {size : Int} (h : u.sourceItems lines = .ok items)
    (hsize : .heapSize size ∈ items) :
    exists line, line ∈ lines ∧ u.isDirective line = true ∧
      u.readDirective (u.strip line) = [.heapSize size] := by
  unfold Unicode.sourceItems at h
  cases hparts : lines.mapM u.readLine with
  | error err =>
      rw [hparts] at h
      cases h
  | ok parts =>
      rw [hparts] at h
      cases h
      rcases List.mem_flatten.mp hsize with ⟨part, hpart, hin⟩
      rcases exists_of_mem_mapM hparts hpart with ⟨line, hmem, hline⟩
      exact ⟨line, hmem, directive_of_mem_readLine hline hin⟩

theorem fits_writtenHeapSize {u : Unicode} {lines : List (List Char)} {items : List Item}
    (hitems : u.sourceItems lines = .ok items) (hfit : u.DirectivesFit lines) :
    Fits (writtenHeapSize items) := by
  unfold writtenHeapSize
  cases hlast : (items.filterMap Item.heapSize?).getLast? with
  | none =>
      rw [Option.getD_none]
      exact ⟨by decide, by decide⟩
  | some size =>
      rw [Option.getD_some]
      rcases List.mem_filterMap.mp (List.mem_of_getLast? hlast) with ⟨item, hitem, hsize⟩
      cases item with
      | label name => cases hsize
      | op parsed => cases hsize
      | heapSize size' =>
          cases hsize
          rcases directive_of_mem_sourceItems hitems hitem with
            ⟨line, hmem, hdirective, hread⟩
          rcases hfit line hmem hdirective with ⟨size', hread', hlo, hhi⟩
          rw [hread] at hread'
          cases hread'
          exact ⟨by omega, hhi⟩

theorem operandReads_iff {u : Unicode} {items : List Item} {op : ParsedOp}
    {instr : Instruction} (h : OperandReads u items Masked op instr) :
    OperandReads u items ReadsBack op instr <-> OperandFits u items op := by
  constructor
  · intro hreads himm operand val hoperand hdenotes
    rcases h.imm himm with ⟨operand₁, v, val₁, hoperand₁, hinstr, hdenotes₁, hmasked⟩
    rcases hreads.imm himm with ⟨operand₂, v₂, val₂, hoperand₂, hinstr₂, hdenotes₂, hback⟩
    rw [hoperand] at hoperand₁ hoperand₂
    cases hoperand₁
    cases hoperand₂
    rw [hinstr] at hinstr₂
    cases hinstr₂
    rw [hdenotes.unique hdenotes₂]
    rw [hdenotes₁.unique hdenotes₂] at hmasked
    exact hmasked.right.mp hback
  · intro hfits
    refine ⟨h.mnemonic, h.plain, ?_⟩
    intro himm
    rcases h.imm himm with ⟨operand, v, val, hoperand, hinstr, hdenotes, hmasked⟩
    exact ⟨operand, v, val, hoperand, hinstr, hdenotes,
      hmasked.right.mpr (hfits himm operand val hoperand hdenotes)⟩

theorem forall₂_operandReads_iff {u : Unicode} {items : List Item} {ops : List ParsedOp}
    {instrs : List Instruction}
    (h : List.Forall₂ (OperandReads u items Masked) ops instrs) :
    List.Forall₂ (OperandReads u items ReadsBack) ops instrs <->
      forall op, op ∈ ops -> OperandFits u items op := by
  induction h with
  | nil => simp
  | cons hfirst _ ih =>
      rw [List.forall₂_cons, ih, operandReads_iff hfirst, List.forall_mem_cons]

theorem readsExactly_iff {u : Unicode} {lines : List (List Char)} {code : List Byte}
    (h : FileReads u lines code Masked) :
    ReadsExactly u lines code <-> u.Representable lines := by
  rcases h with
    ⟨items, low, high, body, instrs, hitems, hcode, hheap, hdecode, hoffsets, hall⟩
  constructor
  · intro hexact
    refine ⟨?_, hexact.directives, hexact.labels⟩
    rcases hexact.fields with
      ⟨items₁, low₁, high₁, body₁, instrs₁, hitems₁, hcode₁, _, hdecode₁, _, hall₁⟩
    intro items₂ hitems₂
    rw [hitems] at hitems₁ hitems₂
    cases hitems₁
    cases hitems₂
    rw [hcode] at hcode₁
    cases hcode₁
    rw [hdecode] at hdecode₁
    cases hdecode₁
    exact (forall₂_operandReads_iff hall).mp hall₁
  · intro hrep
    refine ⟨?_, hrep.directives, hrep.labels⟩
    exact ⟨items, low, high, body, instrs, hitems, hcode,
      hheap.right.mpr (fits_writtenHeapSize hitems hrep.directives), hdecode, hoffsets,
      (forall₂_operandReads_iff hall).mpr (hrep.operands items hitems)⟩

/--
The assembler raises, or every field of its file is the number of the source modulo
2 ^ 16; and the file is exactly what the source says if and only if all of it fits.
-/
theorem assemble_reads_back (u : Unicode) (lines : List (List Char)) :
    (exists err, u.assemble lines = .error err) ∨
      exists code, u.assemble lines = .ok code ∧ FileReads u lines code Masked ∧
        (ReadsExactly u lines code <-> u.Representable lines) := by
  cases hresult : u.assemble lines with
  | error err => exact .inl ⟨err, rfl⟩
  | ok code =>
      have hmasked := assemble_masked hresult
      exact .inr ⟨code, rfl, hmasked, readsExactly_iff hmasked⟩

def pushLarge : ParsedOp :=
  { mnem := "PUSH".toList, operand := some "70000".toList, opcode := 0x10#8, known := rfl }

/-- `70000` is accepted, and becomes `4464`. -/
theorem large_operand_accepted :
    ¬ forall u lines code, Unicode.assemble u lines = .ok code ->
      ReadsExactly u lines code := by
  intro hall
  have hcode : Unicode.ascii.assemble ["PUSH 70000".toList] =
      .ok [0xAD#8, 0x01#8, 0x80#8, 0x00#8, 0x10#8, 0x70#8, 0x11#8] := by decide +kernel
  have hitems : Unicode.ascii.sourceItems ["PUSH 70000".toList] = .ok [.op pushLarge] := by
    rfl
  have hnumber : Unicode.ascii.parseNumber "70000".toList = .ok 70000 := by decide +kernel
  have hrep := (readsExactly_iff (assemble_masked hcode)).mp (hall _ _ _ hcode)
  have hfits := hrep.operands _ hitems pushLarge (List.mem_singleton.mpr rfl) (by decide)
    _ 70000 rfl (.number (by simp) hnumber)
  exact absurd hfits.right (by decide)

end ArduOS
