import ArduOS.Client.Blocks
import ArduOS.Client.Console
import ArduOS.Kernel.ProperSteps

/-!
# Host and device

A session: the user types, both threads of the client and the scheduler of the device take
their turns, and bytes are on the line in both directions.  Whatever the order, the host
has shown exactly the messages of which it has read the last byte.
-/

namespace ArduOS

open Library

structure Session (sd : SdFat) where
  kernel : Kernel sd
  client : Client
  /-- How many bytes the client has read. -/
  received : Nat
  /-- What the client has written and the device has not got. -/
  outgoing : List Byte

inductive SessionEvent where
  | tick
  | turn
  /-- So many bytes reach the device. -/
  | deliver (n : Nat)
  /-- The receiver thread reads the next byte, if there is one. -/
  | receive
  /-- `readBytes` returns nothing. -/
  | idle
  | typed (line : List Char)
  deriving DecidableEq, Repr

namespace Session

variable {sd : SdFat}

/-- The device has booted, and the client is connected. -/
def start (card : sd.Card) : Session sd :=
  { kernel := Kernel.boot card, client := .connected, received := 0, outgoing := [] }

def step (lib : HostLibrary) (s : Session sd) : SessionEvent -> Session sd
  | .tick => { s with kernel := s.kernel.step .tick }
  | .turn => { s with kernel := s.kernel.step .turn }
  | .deliver n =>
      { s with
        kernel := s.kernel.step (.arrive (s.outgoing.take n))
        outgoing := s.outgoing.drop n }
  | .receive =>
      if ¬ s.client.isOpen then s
      else
        match s.kernel.serialOut.flatten[s.received]? with
        | some b =>
            { s with
              client := s.client.receive lib (some b)
              received := s.received + 1 }
        | none => s
  | .idle => { s with client := s.client.receive lib none }
  | .typed line =>
      let (client, request) := s.client.typed lib line
      { s with client := client, outgoing := s.outgoing ++ Client.written lib request }

def run (lib : HostLibrary) (s : Session sd) (events : List SessionEvent) : Session sd :=
  events.foldl (step lib) s

end Session

/-!
## Messages on the line
-/

namespace Message

theorem block (m : Message) : ReceiveLoop.Block m.packet := by
  have hfits := m.fits
  have hlength := m.length_packet
  refine ⟨by omega, by omega, ?_⟩
  rw [hlength]
  exact declaredLength_packet m.arguments (by omega) (n := 8) (by omega) fun i _ => rfl

theorem block_of_mem {messages : List Message} {block : List Byte}
    (h : block ∈ messages.map Message.packet) : ReceiveLoop.Block block := by
  rcases List.mem_map.mp h with ⟨m, _, rfl⟩
  exact m.block

def shown (lib : HostLibrary) (m : Message) : Shown := .device m.error (lib.newString m.text)

theorem cmd_toNat (m : Message) :
    (m.cmd.toNat : Int) = if m.error then Client.CMD_STDERR else Client.CMD_STDOUT := by
  unfold cmd
  cases m.error with
  | true => rfl
  | false => rfl

end Message

theorem ReceiveLoop.Ahead.append {c : ReceiveLoop} {p : List Byte}
    {blocks more : List (List Byte)} (h : Ahead c p blocks)
    (hmore : forall block, block ∈ more -> Block block) : Ahead c p (blocks ++ more) := by
  cases h with
  | done => exact ahead_initial hmore
  | within hreading hless => exact .within hreading hless

theorem prefix_snoc {p l : List Byte} {b : Byte} (hp : p <+: l) (hb : l[p.length]? = some b) :
    p ++ [b] <+: l := by
  rcases hp with ⟨rest, rfl⟩
  rw [List.getElem?_append_right (Nat.le_refl _), Nat.sub_self] at hb
  cases rest with
  | nil => cases hb
  | cons c rest =>
      cases hb
      exact ⟨rest, by rw [List.append_assoc, List.singleton_append]⟩

/-!
## What the client shows
-/

def Shown.isDevice : Shown -> Bool
  | .device _ _ => true
  | .notice _ => false

namespace Client

variable {lib : HostLibrary} {c : Client}

def fromDevice (c : Client) : List Shown := c.terminal.filter Shown.isDevice

theorem filter_notices (notices : List (List Char)) :
    (notices.map Shown.notice).filter Shown.isDevice = [] := by
  apply List.filter_eq_nil_iff.mpr
  intro shown hmem
  rcases List.mem_map.mp hmem with ⟨_, _, rfl⟩
  exact Bool.false_ne_true

theorem typed_loop (lib : HostLibrary) (c : Client) (line : List Char) :
    (c.typed lib line).1.loop = c.loop := by
  unfold typed
  split
  · rfl
  · simp only
    split
    · rfl
    · split <;> rfl

theorem typed_fromDevice (lib : HostLibrary) (c : Client) (line : List Char) :
    (c.typed lib line).1.fromDevice = c.fromDevice := by
  have hnotices : forall notices : List (List Char),
      (c.terminal ++ notices.map Shown.notice).filter Shown.isDevice = c.fromDevice := by
    intro notices
    rw [List.filter_append, filter_notices, List.append_nil]
    rfl
  unfold typed
  split
  · rfl
  · simp only
    split
    · exact hnotices [_]
    · split
      · rfl
      · exact hnotices _

theorem receive_of_none (hopen : c.isOpen = true) {read : Option Byte}
    (h : (c.loop.turn read).1 = none) :
    c.receive lib read = { c with loop := (c.loop.turn read).2 } := by
  unfold receive
  rw [if_neg (by simp [hopen])]
  simp only
  rw [h]
  rfl

theorem receive_of_message (hlib : lib.Lawful) (hopen : c.isOpen = true)
    {read : Option Byte} {m : Message} (h : (c.loop.turn read).1 = some m.packet) :
    (c.receive lib read).loop = (c.loop.turn read).2 ∧
      (c.receive lib read).isOpen = c.isOpen ∧
      (c.receive lib read).fromDevice = c.fromDevice ++ [m.shown lib] := by
  have hfits := m.fits
  have hparse : lib.parsePacket m.packet = some ((m.cmd.toNat : Int), m.text) :=
    hlib.parsePacket m.arguments (by omega)
  have hdevice : (c.terminal ++ [m.shown lib]).filter Shown.isDevice =
      c.fromDevice ++ [m.shown lib] := List.filter_append ..
  unfold receive
  rw [if_neg (by simp [hopen])]
  simp only
  rw [h, Option.bind_some, hparse]
  simp only
  rw [m.cmd_toNat]
  cases herror : m.error with
  | true =>
      rw [Message.shown, herror] at hdevice ⊢
      exact ⟨rfl, rfl, hdevice⟩
  | false =>
      rw [Message.shown, herror] at hdevice ⊢
      exact ⟨rfl, rfl, hdevice⟩

end Client

/-!
## Sessions
-/

namespace Session

variable {sd : SdFat} {lib : HostLibrary} {s : Session sd}

/--
The messages that the client has shown, those that it has not, and the bytes that it has
of the first of these.
-/
structure Showing (lib : HostLibrary) (shown pending : List Message) (part : List Byte)
    (s : Session sd) : Prop where
  proper : s.kernel.Proper []
  sent : s.kernel.serialOut = (shown ++ pending).map Message.packet
  terminal : s.client.fromDevice = shown.map (Message.shown lib)
  received : s.received = (shown.map Message.packet).flatten.length + part.length
  ahead : ReceiveLoop.Ahead s.client.loop part (pending.map Message.packet)

variable {shown pending : List Message} {part : List Byte}

theorem Showing.device (h : Showing lib shown pending part s) (e : Kernel.Event)
    (outgoing : List Byte) :
    exists more, Showing lib shown (pending ++ more) part
      { s with kernel := s.kernel.step e, outgoing := outgoing } := by
  rcases h.proper.step_says e with ⟨more, hmore⟩
  refine ⟨more, h.proper.step e, ?_, h.terminal, h.received, ?_⟩
  · show (s.kernel.step e).serialOut = _
    rw [hmore, h.sent, ← List.map_append, List.append_assoc]
  · rw [List.map_append]
    exact h.ahead.append fun block hmem => Message.block_of_mem hmem

theorem Showing.idle (h : Showing lib shown pending part s) :
    Showing lib shown pending part { s with client := s.client.receive lib none } := by
  by_cases hopen : s.client.isOpen = true
  · have hturn := h.ahead.idle
    have hsame : s.client.receive lib none = s.client := by
      rw [Client.receive_of_none hopen (by rw [hturn]), hturn]
    rw [hsame]
    exact h
  · have hsame : s.client.receive lib none = s.client := if_pos hopen
    rw [hsame]
    exact h

theorem Showing.byte (h : Showing lib shown pending part s) {b : Byte}
    (hb : s.kernel.serialOut.flatten[s.received]? = some b) :
    exists m rest, pending = m :: rest ∧ ReceiveLoop.Reading part m.packet s.client.loop ∧
      part ++ [b] <+: m.packet := by
  rw [h.sent, List.map_append, List.flatten_append, h.received,
    List.getElem?_append_right (Nat.le_add_right _ _), Nat.add_sub_cancel_left] at hb
  have hahead := h.ahead
  generalize s.client.loop = loop at hahead ⊢
  cases pending with
  | nil => simp at hb
  | cons m rest =>
      rw [List.map_cons] at hahead hb
      cases hahead with
      | within hreading hmore =>
          rw [List.flatten_cons, List.getElem?_append_left hmore] at hb
          exact ⟨m, rest, rfl, hreading, prefix_snoc hreading.started hb⟩

theorem Showing.receive (hlib : lib.Lawful) (h : Showing lib shown pending part s)
    (hopen : s.client.isOpen = true) {b : Byte}
    (hb : s.kernel.serialOut.flatten[s.received]? = some b) :
    exists shown' pending' part', Showing lib shown' pending' part'
      { s with client := s.client.receive lib (some b), received := s.received + 1 } := by
  rcases h.byte hb with ⟨m, rest, rfl, hreading, hprefix⟩
  have hreceived := h.received
  have hlength : (part ++ [b]).length = part.length + 1 := List.length_append
  by_cases hless : (part ++ [b]).length < m.packet.length
  · rcases hreading.next m.block hprefix hless with ⟨hquiet, hnext⟩
    refine ⟨shown, m :: rest, part ++ [b], ?_⟩
    rw [Client.receive_of_none hopen hquiet]
    refine ⟨h.proper, h.sent, h.terminal, ?_, .within hnext hless⟩
    show s.received + 1 = _
    omega
  · -- the message is complete
    have hall : part ++ [b] = m.packet := hprefix.eq_of_length (by
      have hle := hprefix.length_le
      omega)
    rw [← hall] at hreading
    have hturn := hreading.complete (hall ▸ m.block)
    rw [hall] at hturn
    rcases Client.receive_of_message hlib hopen (congrArg Prod.fst hturn) with
      ⟨hloop, _, hshown⟩
    refine ⟨shown ++ [m], rest, [], h.proper, ?_, ?_, ?_, ?_⟩
    · show s.kernel.serialOut = _
      rw [h.sent, List.append_assoc, List.singleton_append]
    · show (s.client.receive lib (some b)).fromDevice = _
      rw [hshown, h.terminal, List.map_append, List.map_singleton]
    · show s.received + 1 = _
      rw [List.map_append, List.flatten_append, List.map_singleton, List.flatten_singleton,
        List.length_append, List.length_nil, ← hall]
      omega
    · show ReceiveLoop.Ahead (s.client.receive lib (some b)).loop [] _
      rw [hloop, hturn]
      exact ReceiveLoop.ahead_initial fun block hmem => Message.block_of_mem hmem

theorem Showing.step (hlib : lib.Lawful) (h : Showing lib shown pending part s)
    (e : SessionEvent) :
    exists shown' pending' part', Showing lib shown' pending' part' (s.step lib e) := by
  cases e with
  | tick =>
      rcases h.device .tick s.outgoing with ⟨more, hnext⟩
      exact ⟨_, _, _, hnext⟩
  | turn =>
      rcases h.device .turn s.outgoing with ⟨more, hnext⟩
      exact ⟨_, _, _, hnext⟩
  | deliver n =>
      rcases h.device (.arrive (s.outgoing.take n)) (s.outgoing.drop n) with ⟨more, hnext⟩
      exact ⟨_, _, _, hnext⟩
  | receive =>
      unfold Session.step
      by_cases hopen : s.client.isOpen = true
      · simp only [hopen, not_true_eq_false, if_false]
        split
        · rename_i b hb
          exact h.receive hlib hopen hb
        · exact ⟨_, _, _, h⟩
      · simp only [hopen, Bool.false_eq_true, not_false_eq_true, if_true]
        exact ⟨_, _, _, h⟩
  | idle => exact ⟨_, _, _, h.idle⟩
  | typed line =>
      refine ⟨shown, pending, part, h.proper, h.sent, ?_, h.received, ?_⟩
      · exact (Client.typed_fromDevice lib s.client line).trans h.terminal
      · show ReceiveLoop.Ahead (s.client.typed lib line).1.loop part _
        rw [Client.typed_loop]
        exact h.ahead

theorem start_showing (card : sd.Card) :
    exists pending, Showing lib [] pending [] (start card) := by
  have hproper := Kernel.run_proper card []
  rcases hproper.spoken with ⟨pending, hsent⟩
  refine ⟨pending, hproper, hsent, rfl, rfl, ?_⟩
  exact ReceiveLoop.ahead_initial fun block hmem => Message.block_of_mem hmem

theorem run_showing (hlib : lib.Lawful) (card : sd.Card) (events : List SessionEvent) :
    exists shown pending part,
      Showing lib shown pending part ((start card).run lib events) := by
  have hstart : exists pending, Showing lib [] pending [] (start card) := start_showing card
  rcases hstart with ⟨pending, hstart⟩
  apply run_preserves
    (fun s => exists shown pending part, Showing lib shown pending part s) _ events _
    ⟨_, _, _, hstart⟩
  intro s e h
  rcases h with ⟨shown, pending, part, hs⟩
  exact hs.step hlib e

/-- It has shown, as they were sent, the messages of which it has the last byte. -/
structure UpToDate (lib : HostLibrary) (s : Session sd) (shown pending : List Message) :
    Prop where
  sent : s.kernel.serialOut = (shown ++ pending).map Message.packet
  terminal : s.client.fromDevice = shown.map (Message.shown lib)
  had : (shown.map Message.packet).flatten.length <= s.received
  read : s.received <= s.kernel.serialOut.flatten.length
  hasNot : forall m, pending.head? = some m ->
    s.received < ((shown ++ [m]).map Message.packet).flatten.length

/--
In every session, whatever is typed and in whatever order device, client and line take
their turns, the client shows every message of the device once and as it was sent, and in
the order they were sent: each as soon as it has read its last byte.
-/
theorem session_shows (hlib : lib.Lawful) (card : sd.Card) (events : List SessionEvent) :
    exists shown pending, UpToDate lib ((start card).run lib events) shown pending := by
  rcases run_showing hlib card events with ⟨shown, pending, part, h⟩
  generalize (start card).run lib events = s at h
  have hreceived := h.received
  have hahead := h.ahead
  have hsent : s.kernel.serialOut.flatten.length =
      (shown.map Message.packet).flatten.length +
        (pending.map Message.packet).flatten.length := by
    rw [h.sent, List.map_append, List.flatten_append, List.length_append]
  refine ⟨shown, pending, h.sent, h.terminal, by omega, ?_, ?_⟩
  · suffices hpart : part.length <= (pending.map Message.packet).flatten.length by omega
    cases pending with
    | nil =>
        generalize s.client.loop = loop at hahead
        cases hahead with
        | done => exact Nat.le_refl 0
    | cons m rest =>
        generalize s.client.loop = loop at hahead
        cases hahead with
        | within _ hmore =>
            rw [List.map_cons, List.flatten_cons, List.length_append]
            omega
  · intro m hm
    rcases List.head?_eq_some_iff.mp hm with ⟨rest, rfl⟩
    generalize s.client.loop = loop at hahead
    cases hahead with
    | within _ hmore =>
        rw [List.map_append, List.flatten_append, List.map_singleton, List.flatten_singleton,
          List.length_append]
        omega

def askingEvents : List SessionEvent :=
  .typed "pwd".toList :: .deliver 12 :: .turn :: List.replicate 60 .receive

def askingSession : Session CardImage.sdFat :=
  (start (CardImage.ofProgram 16#8 [] 1)).run .ascii askingEvents

theorem session_shows_asking :
    exists shown pending, UpToDate .ascii askingSession shown pending := by
  have h := @session_shows CardImage.sdFat .ascii HostLibrary.ascii_lawful
    (CardImage.ofProgram 16#8 [] 1) askingEvents
  unfold askingSession
  exact h

end Session
end ArduOS
