import Mathlib.Data.List.TakeWhile
import ArduOS.HAL.Delivery
import ArduOS.Kernel.State

/-!
# Messages to the host

All that the kernel and its programs tell the host are texts, for its standard output or
its standard error.  A text that fits the transmit buffer is one packet on the line.
-/

namespace ArduOS

open Library

structure Message where
  error : Bool
  text : List Byte
  noNul : 0#8 ∉ text
  fits : text.length + 12 <= 512
  deriving DecidableEq

namespace Message

def cmd (m : Message) : BitVec 16 := if m.error then CMD_STDERR else CMD_STDOUT

/-- The bytes it is sent as. -/
def packet (m : Message) : List Byte := packetBytes SP_UNFRAGED PT_STRING m.cmd m.text

theorem arguments (m : Message) : EncoderArguments SP_UNFRAGED PT_STRING m.cmd := by
  unfold cmd
  cases m.error with
  | true => exact ⟨by decide, by decide, by decide⟩
  | false => exact ⟨by decide, by decide, by decide⟩

theorem length_packet (m : Message) : m.packet.length = m.text.length + 12 :=
  length_packetBytes

end Message

theorem noNul_cString (str : List Byte) : 0#8 ∉ cString str := by
  intro hmem
  have hne := List.mem_takeWhile_imp hmem
  simp at hne

theorem cString_eq_self {str : List Byte} (h : 0#8 ∉ str) : cString str = str := by
  apply List.takeWhile_eq_self_iff.mpr
  intro c hc
  have hne : c ≠ 0#8 := by
    rintro rfl
    exact h hc
  simpa using hne

namespace Kernel

variable {sd : SdFat}

theorem bytesOf_packetImage (fragFlag payloadType : Byte) (userField : BitVec 16)
    (payload : List Byte) (out : Buffer) :
    bytesOf (packetImage fragFlag payloadType userField payload out) (payload.length + 12) =
      packetBytes fragFlag payloadType userField payload := by
  have hbytes := bytesOf_bufferOf (packetBytes fragFlag payloadType userField payload)
  rw [length_packetBytes] at hbytes
  conv_rhs => rw [← hbytes]
  exact bytesOf_congr fun i hi => packetImage_eq out hi

theorem pointsTo_take (payload : List Byte) {n : Nat} (hn : n <= payload.length) :
    PointsTo (some (bufferOf payload)) (payload.take n) := by
  have hlength : (payload.take n).length = n := by
    rw [List.length_take]
    exact Nat.min_eq_left hn
  show bytesOf (bufferOf payload) (payload.take n).length = payload.take n
  conv_rhs => rw [← bytesOf_bufferOf (payload.take n)]
  apply bytesOf_congr
  intro i hi
  have hback : payload = payload.take n ++ payload.drop n :=
    (List.take_append_drop n payload).symm
  conv_lhs => rw [hback]
  exact bufferOf_append_left _ _ hi

theorem sendPacket_serialOut (k : Kernel sd) {cmd : BitVec 16} {payload : List Byte}
    (hargs : EncoderArguments SP_UNFRAGED PT_STRING cmd) {n : Nat}
    (hn : n <= payload.length) (hlength : BitVec.ofNat 32 payload.length = BitVec.ofNat 32 n)
    (hfit : n + 12 <= 512) :
    (k.sendPacket cmd payload).serialOut =
      k.serialOut ++ [packetBytes SP_UNFRAGED PT_STRING cmd (payload.take n)] := by
  have hused : (payload.take n).length = n := by
    rw [List.length_take]
    exact Nat.min_eq_left hn
  have h512 : (512#32).toNat = 512 := rfl
  have henc := spEncodePacketBuffer_ok hargs (pointsTo_take payload hn)
    (show (payload.take n).length + 12 <= (512#32).toNat by omega) k.halTxBuffer 0#32
  rw [hused, ← hlength] at henc
  have hwritten : (BitVec.ofNat 32 (n + 12)).toNat = (payload.take n).length + 12 := by
    rw [BitVec.toNat_ofNat, hused]
    omega
  unfold sendPacket
  simp only [henc, if_true, Option.getD_some]
  rw [hwritten, bytesOf_packetImage]

theorem sendPacket_none (k : Kernel sd) (cmd : BitVec 16) {payload : List Byte}
    (hlong : 500 < (BitVec.ofNat 32 payload.length).toNat) :
    (k.sendPacket cmd payload).serialOut = k.serialOut := by
  have h512 : (512#32).toNat = 512 := rfl
  unfold sendPacket
  simp only
  split
  · rename_i hok
    have hcap := (arguments_of_ok hok).right
    omega
  · rfl

/-- The messages that a call of `Kernel_stdWrite` sends: one, unless it is too long. -/
def said (fd : Int) (str : List Byte) : List Message :=
  if h : (cString str).length + 12 <= 512 then
    [{ error := fd = FD_STDERR, text := cString str, noNul := noNul_cString str, fits := h }]
  else []

def Says (k k' : Kernel sd) (messages : List Message) : Prop :=
  k'.serialOut = k.serialOut ++ messages.map Message.packet

section Saying

variable {k k' k'' : Kernel sd} {messages messages' : List Message}

theorem Says.of_eq (h : k'.serialOut = k.serialOut) : Says k k' [] := by
  unfold Says
  rw [h, List.map_nil, List.append_nil]

theorem Says.trans (h : Says k k' messages) (h' : Says k' k'' messages') :
    Says k k'' (messages ++ messages') := by
  unfold Says at h h' ⊢
  rw [h', h, List.map_append, List.append_assoc]

end Saying

theorem stdWrite_eq_sendPacket (k : Kernel sd) (fd : Int) (str : List Byte) :
    k.stdWrite fd str =
      k.sendPacket (if fd = FD_STDERR then CMD_STDERR else CMD_STDOUT) (cString str) := rfl

theorem stdWrite_says (k : Kernel sd) (fd : Int) {str : List Byte}
    (hfit : (cString str).length + 12 <= 512) : Says k (k.stdWrite fd str) (said fd str) := by
  unfold Says said
  rw [dif_pos hfit]
  let m : Message :=
    { error := fd = FD_STDERR, text := cString str, noNul := noNul_cString str, fits := hfit }
  have hcmd : (if fd = FD_STDERR then CMD_STDERR else CMD_STDOUT) = m.cmd := by
    unfold Message.cmd
    by_cases herror : fd = FD_STDERR
    · simp [m, herror]
    · simp [m, herror]
  rw [stdWrite_eq_sendPacket, hcmd,
    sendPacket_serialOut k m.arguments (Nat.le_refl _) rfl hfit, List.take_length]
  rfl

theorem stdWrite_sends (k : Kernel sd) (fd : Int) (str : List Byte) :
    exists messages, Says k (k.stdWrite fd str) messages := by
  let n := (BitVec.ofNat 32 (cString str).length).toNat
  have hn : n <= (cString str).length := by
    show (BitVec.ofNat 32 (cString str).length).toNat <= _
    rw [BitVec.toNat_ofNat]
    exact Nat.mod_le ..
  by_cases hfit : n + 12 <= 512
  · let m : Message :=
      { error := fd = FD_STDERR
        text := (cString str).take n
        noNul := fun hmem => noNul_cString str (List.mem_of_mem_take hmem)
        fits := by
          rw [List.length_take]
          omega }
    have hcmd : (if fd = FD_STDERR then CMD_STDERR else CMD_STDOUT) = m.cmd := by
      unfold Message.cmd
      by_cases herror : fd = FD_STDERR
      · simp [m, herror]
      · simp [m, herror]
    refine ⟨[m], ?_⟩
    unfold Says
    rw [stdWrite_eq_sendPacket, hcmd, sendPacket_serialOut k m.arguments hn
      (by rw [BitVec.ofNat_toNat, BitVec.setWidth_eq]) hfit]
    rfl
  · refine ⟨[], .of_eq ?_⟩
    rw [stdWrite_eq_sendPacket]
    exact sendPacket_none k _ (by omega)

end Kernel
end ArduOS
