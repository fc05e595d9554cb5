import ArduOS.Kernel.Instructions

/-!
# What a request accesses

The daemon pushes the operands of its system calls on a stack it empties first,
and finds them there.
-/

namespace ArduOS

open Library

namespace Kernel

variable {sd : SdFat} {P : Access -> Prop} {k : Kernel sd} {t : TaskId} {top : Int}

structure PermitsHeap (P : Access -> Prop) : Prop where
  read : forall c, P (.heapRead c)
  write : forall c, P (.heapWrite c)

theorem PermitsHeap.effect (hheap : PermitsHeap P) {k k' : Kernel sd}
    (h : TouchesHeap k k') : Effect P k k' :=
  h.effect (fun c _ => hheap.read c) fun c _ => hheap.write c

theorem PermitsHeap.sysCell (hheap : PermitsHeap P) {sysId : Int} {a : Access}
    (h : SysCell k t sysId a) : P a := by
  cases h with
  | ls a h =>
      cases h with
      | listing c _ => exact hheap.write c
      | error _ => exact hheap.write _
  | exec a h =>
      cases h with
      | cmd c _ => exact hheap.read c
      | arg c _ _ => exact hheap.read c
  | chdir a h =>
      cases h with
      | path c _ _ => exact hheap.read c
      | result c _ _ => exact hheap.write c
      | error _ _ => exact hheap.write _
  | getcwd a h =>
      cases h with
      | result c _ _ => exact hheap.write c

theorem Permits.pushOperand (hp : Permits P t top) (k : Kernel sd) (val : Int)
    (hlo : -1 <= (k.tasks t).sp) (hhi : (k.tasks t).sp < 2) :
    Effect P k (k.stackPush t val) := by
  have hfull : 63 <= top := hp.full
  exact hp.push k val hlo (by omega)

theorem Permits.call (hp : Permits P t top) (hheap : PermitsHeap P) (k : Kernel sd)
    (sysId : Int) (hargs : sysOperands sysId - 1 <= (k.tasks t).sp)
    (hhi : (k.tasks t).sp <= 2) : Effect P k (k.systemCall t sysId) := by
  have hfull : 63 <= top := hp.full
  exact systemCall_effect hp k sysId hargs (by omega) fun _ => hheap.sysCell

theorem commLs_effect (hp : Permits P t top) (hheap : PermitsHeap P) (k : Kernel sd)
    (payload : List Byte) (hsp : (k.tasks t).sp = -1) :
    Effect P k (k.commLs t payload) := by
  have hargs : Quiet k (if payload.length > 0 then
      k.modifyTask t fun task => { task with args := cString (payload.take 31) }
      else k) := by
    split
    · exact modifyTask_quiet k t rfl
    · exact Quiet.refl k
  unfold commLs
  simp only
  generalize (if payload.length > 0 then
    k.modifyTask t fun task => { task with args := cString (payload.take 31) }
    else k) = k₁ at hargs ⊢
  have hsp₁ : (k₁.tasks t).sp = -1 := by rw [hargs.sp t, hsp]
  have hfirst := hp.pushOperand k₁ 0 (by omega) (by omega)
  have hsecond := hp.pushOperand (k₁.stackPush t 0) 128 (by rw [stackPush_sp]; omega)
    (by rw [stackPush_sp]; omega)
  have hthird := hp.pushOperand ((k₁.stackPush t 0).stackPush t 128)
    (if payload.length > 0 then 1 else 0) (by rw [stackPush_sp, stackPush_sp]; omega)
    (by rw [stackPush_sp, stackPush_sp]; omega)
  have hpushed := ((hargs.effect.trans hfirst).trans hsecond).trans hthird
  have hsp₂ : ((((k₁.stackPush t 0).stackPush t 128).stackPush t
      (if payload.length > 0 then 1 else 0)).tasks t).sp = 2 := by
    rw [stackPush_sp, stackPush_sp, stackPush_sp]
    omega
  have hcalled := hpushed.trans (hp.call hheap _ 1 (by rw [hsp₂]; decide) (by omega))
  generalize (((k₁.stackPush t 0).stackPush t 128).stackPush t
    (if payload.length > 0 then 1 else 0)).systemCall t 1 = k₂ at hcalled ⊢
  have herror := hcalled.trans (hheap.effect (k₂.reportsError_touches t 0))
  generalize k₂.reportsError t 0 = reported at herror ⊢
  rcases reported with ⟨failed, k₃⟩
  simp only at herror ⊢
  split
  · exact herror.quiet (k₃.stdWrite_quiet _ _)
  · exact herror.trans (hheap.effect (k₃.commSendHeapString_touches t 0 128))

theorem commExec_effect (hp : Permits P t top) (hheap : PermitsHeap P) (k : Kernel sd)
    (payload : List Byte) (hsp : (k.tasks t).sp = -1) :
    Effect P k (k.commExec t payload) := by
  have hparse := k.commParseExec_touches t payload
  unfold commExec
  generalize k.commParseExec t payload = parsed at hparse ⊢
  rcases parsed with ⟨⟨waitOpt, argAddr⟩, k₁⟩
  simp only at hparse ⊢
  have hsp₁ : (k₁.tasks t).sp = -1 := by rw [hparse.tasks, hsp]
  have hfirst := hp.pushOperand k₁ argAddr (by omega) (by omega)
  have hsecond := hp.pushOperand (k₁.stackPush t argAddr) 1
    (by rw [stackPush_sp]; omega) (by rw [stackPush_sp]; omega)
  have hthird := hp.pushOperand ((k₁.stackPush t argAddr).stackPush t 1) waitOpt
    (by rw [stackPush_sp, stackPush_sp]; omega)
    (by rw [stackPush_sp, stackPush_sp]; omega)
  have hpushed := (((hheap.effect hparse).trans hfirst).trans hsecond).trans hthird
  have hsp₂ : ((((k₁.stackPush t argAddr).stackPush t 1).stackPush t waitOpt).tasks
      t).sp = 2 := by
    rw [stackPush_sp, stackPush_sp, stackPush_sp]
    omega
  have hcalled := hpushed.trans (hp.call hheap _ 2 (by rw [hsp₂]; decide) (by omega))
  exact hcalled.quiet (stdWrite_quiet _ _ _)

theorem commChdir_effect (hp : Permits P t top) (hheap : PermitsHeap P) (k : Kernel sd)
    (heapDataAddr : Int) (hsp : (k.tasks t).sp = -1) :
    Effect P k (k.commChdir t heapDataAddr) := by
  have hfirst := hp.pushOperand k 64 (by omega) (by omega)
  have hsecond := hp.pushOperand (k.stackPush t 64) heapDataAddr
    (by rw [stackPush_sp]; omega) (by rw [stackPush_sp]; omega)
  have hsp₂ : (((k.stackPush t 64).stackPush t heapDataAddr).tasks t).sp = 1 := by
    rw [stackPush_sp, stackPush_sp]
    omega
  have hcalled := (hfirst.trans hsecond).trans
    (hp.call hheap _ 3 (by rw [hsp₂]; decide) (by omega))
  unfold commChdir
  simp only
  generalize ((k.stackPush t 64).stackPush t heapDataAddr).systemCall t 3 = k₁
    at hcalled ⊢
  have herror := hcalled.trans (hheap.effect (k₁.reportsError_touches t 64))
  generalize k₁.reportsError t 64 = reported at herror ⊢
  rcases reported with ⟨failed, k₂⟩
  simp only at herror ⊢
  split
  · exact herror.quiet (k₂.stdWrite_quiet _ _)
  · exact (herror.quiet (k₂.stdWrite_quiet _ _)).quiet (stdWrite_quiet _ _ _)

theorem commGetcwd_effect (hp : Permits P t top) (hheap : PermitsHeap P) (k : Kernel sd)
    (hsp : (k.tasks t).sp = -1) : Effect P k (k.commGetcwd t) := by
  have hpushed := hp.pushOperand k 0 (by omega) (by omega)
  have hsp₁ : ((k.stackPush t 0).tasks t).sp = 0 := by
    rw [stackPush_sp]
    omega
  have hcalled := hpushed.trans (hp.call hheap _ 4 (by rw [hsp₁]; decide) (by omega))
  exact (hcalled.quiet (stdWrite_quiet _ _ _)).quiet (stdWrite_quiet _ _ _)

theorem commRequest_noted_effect (hp : Permits P t top) (hheap : PermitsHeap P)
    (k : Kernel sd) (cmdId : BitVec 16) (payload : List Byte) :
    Effect P (k.note (.dispatch cmdId payload)) (k.commRequest t cmdId payload) := by
  unfold commRequest
  generalize k.note (.dispatch cmdId payload) = k₁
  have hstored := hheap.effect (P := P) (k₁.commStorePayload_touches t payload)
  simp only
  generalize k₁.commStorePayload t payload = stored at hstored ⊢
  rcases stored with ⟨heapDataAddr, k₂⟩
  simp only at hstored ⊢
  have hready : Effect P k₁ (k₂.modifyTask t fun task => { task with sp := -1 }) := by
    apply hstored.trans
    apply modifyTask_effect
    intro _ _
    simp
  have hsp : ((k₂.modifyTask t fun task => { task with sp := -1 }).tasks t).sp = -1 := by
    simp [modifyTask]
  generalize k₂.modifyTask t (fun task => { task with sp := -1 }) = k₃ at hready hsp ⊢
  split
  · exact hready.trans (commLs_effect hp hheap k₃ payload hsp)
  · split
    · exact hready.trans (commExec_effect hp hheap k₃ payload hsp)
    · split
      · exact hready.trans (commChdir_effect hp hheap k₃ heapDataAddr hsp)
      · split
        · exact hready.trans (commGetcwd_effect hp hheap k₃ hsp)
        · exact hready

theorem commRequest_effect (hp : Permits P t top) (hheap : PermitsHeap P)
    (k : Kernel sd) (cmdId : BitVec 16) (payload : List Byte)
    (hdispatch : P (.dispatch cmdId payload)) :
    Effect P k (k.commRequest t cmdId payload) :=
  (note_effect k hdispatch).trans (commRequest_noted_effect hp hheap k cmdId payload)

end Kernel
end ArduOS
