import ArduOS.Kernel.VirtualMachine
import ArduOS.Kernel.Communication

/-!
# Boot and scheduling

`Kernel_init`, `setup` and the round robin of `Kernel_runScheduler`, one turn
of its inner loop at a time.  Between two turns serial bytes arrive and the
timer ticks.
-/

namespace ArduOS

open Library

namespace Kernel

variable {sd : SdFat}

/-- What `Kernel_init` does to a task. -/
def initTask (task : Task sd) : Task sd :=
  { task.setFree with
    sp := -1
    wakeUpTime := 0#32
    heapBase := -1
    heapLimit := 0
    allocTable := fun j => { task.allocTable j with ptr := -1 }
    cwd := text "/" }

/-- `Kernel_init`. -/
def init (k : Kernel sd) : Kernel sd :=
  let k :=
    { k with
      globalHeap := fun _ => 0
      heapBitmap := fun _ => 0#8
      rxBuffer := fun _ => 0#8
      tasks := fun i => initTask (k.tasks i) }
  let k := k.modifyTask 0 Task.setRunning
  let (commHeap, k) := k.malloc 0 128
  if commHeap ≠ -1 then
    k.modifyTask 0 fun task => { task with heapBase := commHeap, heapLimit := 128 }
  else k

/-- `HAL_init`. -/
def halInit (k : Kernel sd) : Kernel sd :=
  let k := k.withHal k.hal.init
  let (ready, card) := sd.initCard k.card
  let k := k.withCard card
  if ¬ ready then k.stdWrite FD_STDERR (text "SD Init Failed!\n") else k

def setup (k : Kernel sd) : Kernel sd :=
  let k := k.halInit
  let k := k.stdWrite FD_STDOUT (text "ArduOS v2.0 Booting...\n")
  let k := k.init
  k.stdWrite FD_STDOUT (text "System Ready.\n")

/-- The state after power-up, with this card inserted. -/
def boot (card : sd.Card) : Kernel sd := (reset card).setup

/-!
## Turns
-/

/-- The sleep check: nothing while the task has to go on sleeping. -/
def wakeUp (k : Kernel sd) (t : TaskId) : Option (Kernel sd) :=
  if (k.tasks t).wakeUpTime > 0#32 then
    if k.systemTicks < (k.tasks t).wakeUpTime then none
    else some (k.modifyTask t fun task => { task with wakeUpTime := 0#32 })
  else some k

/-- The state in which the scheduler steps the program in slot `t`, if it does. -/
def dispatches (k : Kernel sd) (t : TaskId) : Option (Kernel sd) :=
  if ¬ (k.tasks t).isRunnable then none
  else if t = 0 then none
  else k.wakeUp t

/-- The body of the scheduler's loop, for the slot `t`. -/
def schedule (k : Kernel sd) (t : TaskId) : Kernel sd :=
  if ¬ (k.tasks t).isRunnable then k
  else if t = 0 then k.commProcess t
  else
    match k.wakeUp t with
    | none => k
    | some k => k.runStep t

inductive Event where
  /-- Bytes reach the serial port. -/
  | arrive (bytes : List Byte)
  /-- The timer interrupt. -/
  | tick
  /-- The scheduler looks at the next slot. -/
  | turn
  deriving DecidableEq, Repr

def step (k : Kernel sd) : Event -> Kernel sd
  | .arrive bytes => k.withHal (k.hal.arrive bytes)
  | .tick => { k with systemTicks := k.systemTicks + 1#32 }
  | .turn => { k.schedule k.current with current := k.current + 1 }

def run (k : Kernel sd) (events : List Event) : Kernel sd := events.foldl step k

/-- The states a booted machine gets into. -/
inductive Reachable (k : Kernel sd) : Prop where
  | run (card : sd.Card) (events : List Event) (h : k = (boot card).run events)

end Kernel
end ArduOS
