import ArduOS.Client.Session
import ArduOS.Kernel.SharedInput

/-!
# What the user types

The lines of the user alone say what the device is asked for, whatever else happens in the
session: it is what the daemon acts on and the programs read, in this order.
-/

namespace ArduOS

open Library

/-!
## Requests
-/

namespace Client

variable {lib : HostLibrary}

structure Request.Known (r : Request) : Prop where
  type : r.payloadType = PT_NONE ∨ r.payloadType = PT_STRING
  cmd : r.cmd = SYS_LS ∨ r.cmd = SYS_EXEC ∨ r.cmd = SYS_CHDIR ∨ r.cmd = SYS_GETCWD ∨
    r.cmd = CMD_STDIN

/-- What the device is handed. -/
def Request.content (r : Request) : Delivery := (BitVec.ofInt 16 r.cmd, r.payload)

theorem processInput_known {interactiveMode : Bool} {input : List Char} {r : Request}
    (h : (processInput lib interactiveMode input).request = some r) : r.Known := by
  unfold processInput at h
  split at h
  · unfold processInteractive at h
    split at h
    · cases h
    · cases h
      exact ⟨.inr rfl, by simp⟩
  · simp only at h
    split at h
    · cases h
    · split at h
      · unfold processLs at h
        split at h
        · cases h
          exact ⟨.inr rfl, by simp⟩
        · cases h
          exact ⟨.inl rfl, by simp⟩
      · split at h
        · unfold processExec at h
          split at h
          · cases h
          · simp only at h
            split at h
            · cases h
              exact ⟨.inr rfl, by simp⟩
            · cases h
              exact ⟨.inr rfl, by simp⟩
        · split at h
          · unfold processCd at h
            split at h
            · cases h
            · cases h
              exact ⟨.inr rfl, by simp⟩
          · split at h
            · cases h
              exact ⟨.inl rfl, by simp⟩
            · cases h

theorem typed_known {c : Client} {line : List Char} {r : Request}
    (h : (c.typed lib line).2 = some r) : r.Known := by
  unfold typed at h
  split at h
  · cases h
  · simp only at h
    split at h
    · cases h
    · split at h
      · cases h
      · exact processInput_known h

theorem Request.Known.arguments {r : Request} (h : r.Known) :
    EncoderArguments SP_UNFRAGED r.payloadType r.content.1 ∧
      (r.content.1.toNat : Int) = r.cmd ∧
      (r.content.1 < 100#16 ∨ r.content.1 = ArduOS.CMD_STDIN) := by
  rcases r with ⟨payloadType, cmd, payload⟩
  have htype : payloadType.toNat <= 15 := by
    rcases h.type with h' | h'
    · rw [show payloadType = PT_NONE from h']
      decide
    · rw [show payloadType = PT_STRING from h']
      decide
  have hcmd : cmd = SYS_LS ∨ cmd = SYS_EXEC ∨ cmd = SYS_CHDIR ∨ cmd = SYS_GETCWD ∨
      cmd = CMD_STDIN := h.cmd
  have huser : (BitVec.ofInt 16 cmd).toNat <= 1023 ∧
      ((BitVec.ofInt 16 cmd).toNat : Int) = cmd ∧
      (BitVec.ofInt 16 cmd < 100#16 ∨ BitVec.ofInt 16 cmd = ArduOS.CMD_STDIN) := by
    rcases hcmd with rfl | rfl | rfl | rfl | rfl <;> decide
  exact ⟨⟨by decide, htype, huser.left⟩, huser.right.left, huser.right.right⟩

def requests (lib : HostLibrary) : Client -> List (List Char) -> List Request
  | _, [] => []
  | c, line :: lines => (c.typed lib line).2.toList ++ requests lib (c.typed lib line).1 lines

theorem typed_congr {c c' : Client} (hopen : c'.isOpen = c.isOpen)
    (hmode : c'.interactiveMode = c.interactiveMode) (line : List Char) :
    (c'.typed lib line).2 = (c.typed lib line).2 ∧
      (c'.typed lib line).1.isOpen = (c.typed lib line).1.isOpen ∧
      (c'.typed lib line).1.interactiveMode = (c.typed lib line).1.interactiveMode := by
  rcases c with ⟨isOpen, interactiveMode, loop, terminal⟩
  rcases c' with ⟨isOpen', interactiveMode', loop', terminal'⟩
  cases hopen
  cases hmode
  unfold typed
  split
  · exact ⟨rfl, rfl, rfl⟩
  · simp only
    split
    · exact ⟨rfl, rfl, rfl⟩
    · split
      · exact ⟨rfl, rfl, rfl⟩
      · exact ⟨rfl, rfl, rfl⟩

theorem requests_congr {c c' : Client} (hopen : c'.isOpen = c.isOpen)
    (hmode : c'.interactiveMode = c.interactiveMode) (lines : List (List Char)) :
    c'.requests lib lines = c.requests lib lines := by
  induction lines generalizing c c' with
  | nil => rfl
  | cons line lines ih =>
      have hcongr := @typed_congr lib c c' hopen hmode line
      rcases hcongr with ⟨hsent, hopen', hmode'⟩
      unfold requests
      rw [hsent, ih hopen' hmode']

theorem requests_known {c : Client} {lines : List (List Char)} {r : Request}
    (h : r ∈ c.requests lib lines) : r.Known := by
  induction lines generalizing c with
  | nil => cases h
  | cons line lines ih =>
      rcases List.mem_append.mp h with h | h
      · exact typed_known (Option.mem_toList.mp h)
      · exact ih h

theorem receive_mode (lib : HostLibrary) (c : Client) (read : Option Byte) :
    (c.receive lib read).isOpen = c.isOpen ∧
      (c.receive lib read).interactiveMode = c.interactiveMode := by
  unfold receive
  split
  · exact ⟨rfl, rfl⟩
  · simp only
    split
    · unfold handlePacket
      simp only
      split
      · exact ⟨rfl, rfl⟩
      · split
        · exact ⟨rfl, rfl⟩
        · exact ⟨rfl, rfl⟩
    · exact ⟨rfl, rfl⟩

def stream (lib : HostLibrary) (requests : List Request) : List Byte :=
  (requests.map fun r => written lib (some r)).flatten

theorem stream_toList (lib : HostLibrary) (request : Option Request) :
    stream lib request.toList = written lib request := by
  cases request with
  | none => rfl
  | some r => exact List.append_nil _

theorem stream_append (lib : HostLibrary) (requests requests' : List Request) :
    stream lib (requests ++ requests') = stream lib requests ++ stream lib requests' := by
  unfold stream
  rw [List.map_append, List.flatten_append]

theorem stream_packets (hlib : lib.Lawful) {requests : List Request}
    (hknown : forall r, r ∈ requests -> r.Known)
    (hfit : forall r, r ∈ requests -> r.payload.length <= 244) :
    exists packets : List SentPacket,
      packets.map SentPacket.content = requests.map Request.content ∧
      ArduOS.stream packets = stream lib requests := by
  induction requests with
  | nil => exact ⟨[], rfl, rfl⟩
  | cons r requests ih =>
      rcases ih (fun r hr => hknown r (List.mem_cons_of_mem _ hr))
        (fun r hr => hfit r (List.mem_cons_of_mem _ hr)) with ⟨packets, hcontents, hbytes⟩
      have hshort := hfit r List.mem_cons_self
      rcases (hknown r List.mem_cons_self).arguments with ⟨hargs, hcmd, _⟩
      have hroom : r.payload.length + 12 <= HAL_RX_RAW_SIZE := by
        show r.payload.length + 12 <= 256
        omega
      have hwritten : written lib (some r) =
          packetBytes SP_UNFRAGED r.payloadType r.content.1 r.payload := by
        show (lib.toBytes r.payload SP_UNFRAGED r.payloadType r.cmd).getD [] = _
        rw [← hcmd, hlib.toBytes hargs (by omega)]
        rfl
      refine ⟨sentPacket SP_UNFRAGED r.payloadType r.content.1 r.payload hargs hroom ::
        packets, ?_, ?_⟩
      · rw [List.map_cons, hcontents]
        rfl
      · show packetBytes SP_UNFRAGED r.payloadType r.content.1 r.payload ++
          ArduOS.stream packets = written lib (some r) ++ stream lib requests
        rw [hwritten, hbytes]

end Client

/-!
## Sessions
-/

namespace Session

variable {sd : SdFat} {lib : HostLibrary}

def lines (events : List SessionEvent) : List (List Char) :=
  events.filterMap fun e =>
    match e with
    | .typed line => some line
    | _ => none

/-- In a turn of the device nobody takes what is not for it. -/
def NobodySteals (s : Session sd) (e : SessionEvent) : Prop :=
  e = .turn -> s.kernel.NobodySteals .turn

instance (s : Session sd) (e : SessionEvent) : Decidable (NobodySteals s e) :=
  inferInstanceAs (Decidable (e = .turn -> s.kernel.NobodySteals .turn))

structure Reads (s s' : Session sd) : Prop where
  kernel : s'.kernel = s.kernel
  outgoing : s'.outgoing = s.outgoing
  isOpen : s'.client.isOpen = s.client.isOpen
  mode : s'.client.interactiveMode = s.client.interactiveMode

theorem step_receive_reads (lib : HostLibrary) (s : Session sd) :
    Reads s (s.step lib .receive) := by
  unfold step
  simp only
  split
  · exact ⟨rfl, rfl, rfl, rfl⟩
  · split
    · rename_i b _
      rcases Client.receive_mode lib s.client (some b) with ⟨hopen, hmode⟩
      exact ⟨rfl, rfl, hopen, hmode⟩
    · exact ⟨rfl, rfl, rfl, rfl⟩

theorem step_idle_reads (lib : HostLibrary) (s : Session sd) :
    Reads s (s.step lib .idle) := by
  rcases Client.receive_mode lib s.client none with ⟨hopen, hmode⟩
  exact ⟨rfl, rfl, hopen, hmode⟩

theorem run_projects (lib : HostLibrary) (events : List SessionEvent) (s : Session sd)
    (hok : AllSteps (step lib) NobodySteals s events) :
    exists kernelEvents, (s.run lib events).kernel = s.kernel.run kernelEvents ∧
      AllSteps Kernel.step Kernel.NobodySteals s.kernel kernelEvents ∧
      Kernel.arrivals kernelEvents ++ (s.run lib events).outgoing =
        s.outgoing ++ Client.stream lib (s.client.requests lib (lines events)) := by
  induction events generalizing s with
  | nil => exact ⟨[], rfl, trivial, (List.append_nil _).symm⟩
  | cons e events ih =>
      rcases ih (s.step lib e) hok.right with ⟨kernelEvents, hkernel, hsteps, hbytes⟩
      have hrun : s.run lib (e :: events) = (s.step lib e).run lib events := rfl
      rw [hrun]
      cases e with
      | tick =>
          exact ⟨.tick :: kernelEvents, hkernel,
            ⟨fun hcontra => (by cases hcontra), hsteps⟩, hbytes⟩
      | turn => exact ⟨.turn :: kernelEvents, hkernel, ⟨hok.left rfl, hsteps⟩, hbytes⟩
      | deliver n =>
          refine ⟨.arrive (s.outgoing.take n) :: kernelEvents, hkernel,
            ⟨fun hcontra => (by cases hcontra), hsteps⟩, ?_⟩
          have harrivals : Kernel.arrivals (.arrive (s.outgoing.take n) :: kernelEvents) =
              s.outgoing.take n ++ Kernel.arrivals kernelEvents := rfl
          rw [harrivals, List.append_assoc, hbytes]
          show s.outgoing.take n ++ (s.outgoing.drop n ++ _) = _
          rw [← List.append_assoc, List.take_append_drop]
          rfl
      | receive =>
          have hreads := step_receive_reads lib s
          rw [hreads.kernel] at hkernel hsteps
          rw [hreads.outgoing, Client.requests_congr hreads.isOpen hreads.mode] at hbytes
          exact ⟨kernelEvents, hkernel, hsteps, hbytes⟩
      | idle =>
          have hreads := step_idle_reads lib s
          rw [hreads.kernel] at hkernel hsteps
          rw [hreads.outgoing, Client.requests_congr hreads.isOpen hreads.mode] at hbytes
          exact ⟨kernelEvents, hkernel, hsteps, hbytes⟩
      | typed line =>
          refine ⟨kernelEvents, hkernel, hsteps, ?_⟩
          rw [hbytes]
          show s.outgoing ++ Client.written lib (s.client.typed lib line).2 ++
            Client.stream lib ((s.client.typed lib line).1.requests lib (lines events)) =
            s.outgoing ++ Client.stream lib ((s.client.typed lib line).2.toList ++
              (s.client.typed lib line).1.requests lib (lines events))
          rw [Client.stream_append, Client.stream_toList, List.append_assoc]

def asked (lib : HostLibrary) (lines : List (List Char)) : List Delivery :=
  (Client.connected.requests lib lines).map Client.Request.content

/-- The device does what is asked, in this order, and in the end all of it. -/
structure Obeys (asked : List Delivery) (s : Session sd) : Prop where
  requests : Kernel.dispatched s.kernel.log <+: requestsOf asked
  input : Kernel.returned s.kernel.log <+: (inputOf asked).map ofByte
  all : s.outgoing = [] -> s.kernel.hal.nextPacket = none ->
    Kernel.dispatched s.kernel.log = requestsOf asked ∧
      Kernel.returned s.kernel.log = (inputOf asked).map ofByte

/--
What the daemon acts on and what programs read is at all times a beginning of what the
lines typed ask for, in order, each once, and all of it when nothing is left on its way.
No line may ask for more than a packet holds, and nobody takes what is not for it.
-/
theorem session_obeys (hlib : lib.Lawful) (card : sd.Card) (events : List SessionEvent)
    (hfit : forall d, d ∈ asked lib (lines events) -> d.2.length <= 244)
    (hok : AllSteps (step lib) NobodySteals (start card) events) :
    Obeys (asked lib (lines events)) ((start card).run lib events) := by
  rcases run_projects lib events (start card) hok with
    ⟨kernelEvents, hkernel, hsteps, hbytes⟩
  rcases Client.stream_packets hlib (fun r hr => Client.requests_known hr)
    (fun r hr => hfit r.content (List.mem_map_of_mem hr)) with ⟨packets, hcontents, hstream⟩
  generalize (start card).run lib events = s at hkernel hbytes ⊢
  have hmixed : forall p, p ∈ packets ->
      p.content.1 < 100#16 ∨ p.content.1 = ArduOS.CMD_STDIN := by
    intro p hp
    have hmem : p.content ∈ packets.map SentPacket.content := List.mem_map_of_mem hp
    rw [hcontents] at hmem
    rcases List.mem_map.mp hmem with ⟨r, hr, heq⟩
    rw [← heq]
    exact (Client.requests_known hr).arguments.right.right
  have hsent : Kernel.arrivals kernelEvents ++ s.outgoing = ArduOS.stream packets :=
    hbytes.trans hstream.symm
  have hboot : Kernel.Serving (requestsOf (packets.map SentPacket.content))
      (Kernel.keyboardInput packets) s.outgoing kernelEvents (Kernel.boot card) :=
    Kernel.boot_serving hmixed hsent
  have hserved := ((AllSteps.iff_throughout
    (Kernel.Serving (requestsOf (packets.map SentPacket.content))
      (Kernel.keyboardInput packets) s.outgoing)
    (fun k e events h => Kernel.step_serving e events h) kernelEvents _ hboot).mp hsteps
      kernelEvents [] (List.append_nil _).symm).served
  rw [← Kernel.inputOf_content hmixed, hcontents] at hserved
  have hend : Kernel.Served (requestsOf (asked lib (lines events)))
      (inputOf (asked lib (lines events))) s.outgoing s.kernel := by
    rw [hkernel]
    exact hserved
  refine ⟨⟨_, hend.requests⟩, ⟨_, hend.input⟩, ?_⟩
  intro hout hdone
  rw [hout] at hend
  exact hend.all hdone

def typingEvents : List SessionEvent :=
  [.typed "run shell".toList, .deliver 19, .turn, .typed "exit_shell".toList,
    .typed " pwd ".toList, .turn, .deliver 10, .turn, .deliver 2, .turn, .receive]

set_option maxRecDepth 4000 in
theorem session_obeys_typing :
    Obeys [(ArduOS.SYS_EXEC, text "0 shell"), (ArduOS.SYS_GETCWD, [])]
      ((start (CardImage.ofProgram 16#8 [] 1) : Session CardImage.sdFat).run .ascii
        typingEvents) := by
  have hasked : asked .ascii (lines typingEvents) =
      [(ArduOS.SYS_EXEC, text "0 shell"), (ArduOS.SYS_GETCWD, [])] := by decide +kernel
  have hok : AllSteps (step .ascii) NobodySteals
      (start (CardImage.ofProgram 16#8 [] 1) : Session CardImage.sdFat) typingEvents := by
    decide +kernel
  have h := @session_obeys CardImage.sdFat .ascii HostLibrary.ascii_lawful
    (CardImage.ofProgram 16#8 [] 1) typingEvents (by rw [hasked]; decide) hok
  rw [hasked] at h
  exact h

end Session
end ArduOS
