import ArduOS.Kernel.State
import ArduOS.Library.Loops

/-!
# Heap memory

The bitmap of `Kernel.cpp`, the first-fit allocator, and the translation of
virtual addresses.
-/

namespace ArduOS

open Library

namespace Kernel

variable {sd : SdFat}

def isAllocated (k : Kernel sd) (idx : Int) : Bool :=
  (k.heapBitmap (idx / 8) &&& (1#8 <<< (idx % 8).toNat)) ≠ 0#8

def setAllocated (k : Kernel sd) (idx : Int) (allocated : Bool) : Kernel sd :=
  let byte := k.heapBitmap (idx / 8)
  let bit := 1#8 <<< (idx % 8).toNat
  { k with
    heapBitmap := Function.update k.heapBitmap (idx / 8)
      (if allocated then byte ||| bit else byte &&& ~~~ bit) }

/-- `for (k = 0; k < size; k++) set_allocated(start + k, allocated)`. -/
def setAllocatedRange (k : Kernel sd) (start size : Int) (allocated : Bool) :
    Kernel sd :=
  forLoop size.toNat (fun i k => k.setAllocated (start + i) allocated) k

/-- The first entry of the table with no block, as the loop of `Kernel_malloc`
finds it. -/
def freeEntry (k : Kernel sd) (t : TaskId) : Option Nat :=
  (List.range MAX_ALLOCATIONS).find? fun j => ((k.tasks t).allocTable j).ptr = -1

/-- What `Kernel_malloc` does once it has found `size` free cells. -/
def mallocAt (k : Kernel sd) (t : TaskId) (start size : Int) : Int × Kernel sd :=
  match k.freeEntry t with
  | none => (-1, k.stdWrite FD_STDERR (text "Err: Alloc table full\n"))
  | some slot =>
      let k := k.setAllocatedRange start size true
      let k := k.modifyTask t fun task =>
        { task with
          allocTable := Function.update task.allocTable slot
            { ptr := start, size := size } }
      (start, k)

/-- One turn of the search; the loop state is `consecutive_free`, `start_index`. -/
def mallocTurn (k : Kernel sd) (t : TaskId) (size : Int) (i : Nat) (run : Int × Int) :
    Flow (Int × Int) (Int × Kernel sd) :=
  let (consecutiveFree, startIndex) := run
  if ¬ k.isAllocated i then
    let startIndex := if consecutiveFree = 0 then (i : Int) else startIndex
    let consecutiveFree := consecutiveFree + 1
    if consecutiveFree = size then .exit (k.mallocAt t startIndex size)
    else .next (consecutiveFree, startIndex)
  else .next (0, startIndex)

def malloc (k : Kernel sd) (t : TaskId) (size : Int) : Int × Kernel sd :=
  if size <= 0 then (-1, k)
  else
    match forExit GLOBAL_HEAP_SIZE (k.mallocTurn t size) (0, -1) with
    | .exit result => result
    | .next _ => (-1, k)

def free (k : Kernel sd) (t : TaskId) (ptr : Int) : Kernel sd :=
  (forExit MAX_ALLOCATIONS (fun i k =>
    if ((k.tasks t).allocTable i).ptr = ptr then
      let size := ((k.tasks t).allocTable i).size
      let k := k.setAllocatedRange ptr size false
      .exit (k.modifyTask t fun task =>
        { task with
          allocTable := Function.update task.allocTable i
            { task.allocTable i with ptr := -1 } })
    else .next k) k).value

def getPhysAddr (k : Kernel sd) (t : TaskId) (virtAddr : Int) : Int :=
  if virtAddr >= 0 ∧ virtAddr < (k.tasks t).heapLimit then
    (k.tasks t).heapBase + virtAddr
  else virtAddr

end Kernel
end ArduOS
