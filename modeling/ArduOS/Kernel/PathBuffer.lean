import ArduOS.Kernel.AllOrNothing

/-!
# The path buffer of the loader

`Kernel_loadTask` puts up to three paths together in an array of 32 characters.
A name of 31 characters fits as it is; with `.bin` and `/bin/` around it only
shorter ones do.
-/

namespace ArduOS

open Library

def SdFat.pathsTried (sd : SdFat) (card : sd.Card) (name : List Byte) :
    List (List Byte) :=
  match sd.openPath card name with
  | (some _, _) => [name]
  | (none, card) =>
      match sd.openPath card (name ++ text ".bin") with
      | (some _, _) => [name, name ++ text ".bin"]
      | (none, _) => [name, name ++ text ".bin", text "/bin/" ++ name ++ text ".bin"]

namespace Kernel

variable {sd : SdFat}

abbrev PATH_BUFFER_SIZE : Nat := 32

/-- Every path put together between the two states fits, with its NUL. -/
def PathsFit (k k' : Kernel sd) : Prop :=
  forall terminator, .chars .pathBuffer terminator ∈ k'.log.drop k.log.length ->
    terminator < PATH_BUFFER_SIZE

def pathAccess (path : List Byte) : Access := .chars .pathBuffer path.length

theorem tryOpen_log (k : Kernel sd) (id : TaskId) (path : List Byte) :
    (k.tryOpen id path).log = k.log ++ [pathAccess path] := rfl

theorem findProgram_log (k : Kernel sd) (id : TaskId) (name : List Byte) :
    (k.findProgram id name).2.log =
      k.log ++ (sd.pathsTried k.card name).map pathAccess := by
  have hfirst := k.tryOpen_file id name
  have hsecond := (k.tryOpen id name).tryOpen_file id (name ++ text ".bin")
  rw [hfirst.right] at hsecond
  unfold findProgram SdFat.pathsTried
  simp only
  cases hone : sd.openPath k.card name with
  | mk found card =>
      rw [hone] at hfirst hsecond
      cases found with
      | some file => simp [hfirst, tryOpen_log]
      | none =>
          simp only at hfirst hsecond ⊢
          cases htwo : sd.openPath card (name ++ text ".bin") with
          | mk found' card' =>
              rw [htwo] at hsecond
              cases found' with
              | some file => simp [hfirst, hsecond, tryOpen_log]
              | none => simp [hfirst, hsecond, tryOpen_log]

theorem Effect.silent {k k' : Kernel sd} (h : Effect (fun _ => False) k k') :
    k'.log = k.log := by
  rcases h.logged with ⟨new, hlog, hnew⟩
  have hnil : new = [] := List.eq_nil_iff_forall_not_mem.mpr hnew
  rw [hlog, hnil, List.append_nil]

/-- After the lookups a load puts no more paths together. -/
theorem loadTask_log (k : Kernel sd) (id : TaskId) (name : List Byte)
    (argStr parentCwd parentArgStr : Option (List Byte)) :
    (k.loadTask id name argStr parentCwd parentArgStr).2.log =
      k.log ++ (sd.pathsTried k.card name).map pathAccess := by
  have hprepared := (k.prepareTask_quiet id argStr parentCwd parentArgStr).log
  have hcard := k.prepareTask_card id argStr parentCwd parentArgStr
  unfold loadTask
  simp only
  generalize k.prepareTask id argStr parentCwd parentArgStr = k₁ at hprepared hcard ⊢
  have hfound := k₁.findProgram_log id name
  rw [hprepared, hcard] at hfound
  generalize k₁.findProgram id name = found at hfound ⊢
  rcases found with ⟨path, k₂⟩
  simp only at hfound ⊢
  rw [← hfound]
  split
  · have hread := (k₂.readFile_quiet id 4).log
    generalize k₂.readFile id 4 = header at hread ⊢
    rcases header with ⟨result, k₃⟩
    simp only at hread ⊢
    split
    · split
      · have hsegment := (k₃.allocSegment_quiet id
          (intOfBytes (bufferOf result.2 2) (bufferOf result.2 3))).log
        generalize k₃.allocSegment id (intOfBytes (bufferOf result.2 2)
          (bufferOf result.2 3)) = allocated at hsegment ⊢
        rcases allocated with ⟨success, k₄⟩
        simp only at hsegment ⊢
        split
        · exact (k₄.failLoad_quiet id _).log.trans (hsegment.trans hread)
        · exact (k₄.startTask_effect id path).silent.trans (hsegment.trans hread)
      · exact (k₃.failLoad_quiet id _).log.trans hread
    · exact (k₃.failLoad_quiet id _).log.trans hread
  · exact (k₂.stdWrite_quiet _ _).log

theorem pathsFit_loadTask (k : Kernel sd) (id : TaskId) (name : List Byte)
    (argStr parentCwd parentArgStr : Option (List Byte)) :
    PathsFit k (k.loadTask id name argStr parentCwd parentArgStr).2 <->
      forall path, path ∈ sd.pathsTried k.card name ->
        path.length < PATH_BUFFER_SIZE := by
  unfold PathsFit
  rw [loadTask_log, List.drop_left]
  constructor
  · intro hall path hpath
    exact hall path.length (List.mem_map.mpr ⟨path, hpath, rfl⟩)
  · intro hall terminator hterminator
    rcases List.mem_map.mp hterminator with ⟨path, hpath, hlogged⟩
    simp only [pathAccess, Access.chars.injEq, true_and] at hlogged
    rw [← hlogged]
    exact hall path hpath

/--
With a name as `Syscall_exec` hands it over, all paths fit if and only if the
name is found as it is, or has at most 27 characters and is found with `.bin`,
or has at most 22.
-/
theorem path_buffer_fits (k : Kernel sd) (id : TaskId) {name : List Byte}
    (hname : name.length <= 31) (argStr parentCwd parentArgStr : Option (List Byte)) :
    PathsFit k (k.loadTask id name argStr parentCwd parentArgStr).2 <->
      (sd.openPath k.card name).1.isSome = true ∨
      (name.length <= 27 ∧
        (sd.openPath (sd.openPath k.card name).2 (name ++ text ".bin")).1.isSome =
          true) ∨
      name.length <= 22 := by
  have hbin : (name ++ text ".bin").length = name.length + 4 := by
    rw [List.length_append]
    rfl
  have hdir : (text "/bin/" ++ name ++ text ".bin").length = 5 + name.length + 4 := by
    rw [List.length_append, List.length_append]
    rfl
  have hsize : PATH_BUFFER_SIZE = 32 := rfl
  rw [pathsFit_loadTask]
  unfold SdFat.pathsTried
  cases hone : sd.openPath k.card name with
  | mk found card =>
      cases found with
      | some file =>
          simp only [List.mem_singleton, forall_eq, Option.isSome_some, true_or, iff_true]
          omega
      | none =>
          cases htwo : sd.openPath card (name ++ text ".bin") with
          | mk found' card' =>
              cases found' with
              | some file =>
                  simp only [List.mem_cons, List.not_mem_nil, or_false, forall_eq_or_imp,
                    forall_eq, hbin, Option.isSome_none, Bool.false_eq_true, false_or,
                    htwo, Option.isSome_some, and_true]
                  omega
              | none =>
                  simp only [List.mem_cons, List.not_mem_nil, or_false, forall_eq_or_imp,
                    forall_eq, hbin, hdir, Option.isSome_none, Bool.false_eq_true,
                    false_or, htwo, and_false]
                  omega

/-!
## Examples
-/

def oneProgram : Kernel CardImage.sdFat := boot (CardImage.ofProgram 16#8 [] 9)

theorem path_buffer_fits_ls :
    PathsFit oneProgram (oneProgram.loadTask 1 (text "ls") none none none).2 :=
  (path_buffer_fits oneProgram 1 (by decide) none none none).mpr (.inr (.inr (by decide)))

def longName : List Byte := text "abcdefghijklmnopqrstuvw"

def longNameRequest : SentPacket :=
  sentPacket SP_UNFRAGED PT_STRING SYS_EXEC (text "0 abcdefghijklmnopqrstuvw")
    execArguments (by decide)

set_option maxRecDepth 4000 in
/-- In `/bin/` it takes all 32 characters of the buffer, and its NUL one more. -/
theorem long_name_leaves_buffer :
    longName.length = 23 ∧
      ¬ PathsFit oneProgram (oneProgram.loadTask 1 longName none none none).2 ∧
      .chars .pathBuffer 32 ∈
        (oneProgram.run [.arrive longNameRequest.bytes, .turn]).log := by
  refine ⟨by decide, ?_, by decide +kernel⟩
  intro hfit
  have hlogged : .chars .pathBuffer 32 ∈
      (oneProgram.loadTask 1 longName none none none).2.log.drop
        oneProgram.log.length := by decide +kernel
  exact absurd (hfit 32 hlogged) (by decide)

end Kernel
end ArduOS
