import UnionpiTiger.Demux.Swdmx
import UnionpiTiger.Lib.Resync

set_option autoImplicit false

namespace UnionpiTiger.Demux

open Lib

structure TsPacket where
  pid : UInt16
  payloadStart : Bool
  priority : Bool
  error : Bool
  scramble : UInt8
  cc : UInt8
  packet : List UInt8
  adpField : Option Nat
  adpFieldLen : Nat
  payload : Option Nat
  payloadLen : Nat
deriving DecidableEq, Repr

def TsPacket.payloadBytes (pkt : TsPacket) : Option (List UInt8) :=
  pkt.payload.map fun place => (pkt.packet.drop place).take pkt.payloadLen

def pktPid (p : List UInt8) : UInt16 := ((p.getD 1 0 &&& 0x1f).toUInt16 <<< 8) ||| (p.getD 2 0).toUInt16

def afc (p : List UInt8) : UInt8 := (p.getD 3 0 >>> 4) &&& 0x03

def hasAdpField (p : List UInt8) : Bool := afc p &&& 2 ≠ 0

def hasPayload (p : List UInt8) : Bool := afc p &&& 1 ≠ 0

def adpFieldLen (p : List UInt8) : Nat := if hasAdpField p then (p.getD 4 0).toNat else 0

def payloadPlace (p : List UInt8) : Nat := if hasAdpField p then 5 + adpFieldLen p else 4

def payloadRoom (p : List UInt8) : Int := if hasAdpField p then 183 - adpFieldLen p else 184

def tsPacket (p : List UInt8) : Option TsPacket :=
  if pktPid p = 0x1fff then none
  else if payloadRoom p < 0 then none
  else some {
    pid := pktPid p
    payloadStart := (p.getD 1 0 &&& 0x40) >>> 6 ≠ 0
    priority := (p.getD 1 0 &&& 0x20) >>> 5 ≠ 0
    error := (p.getD 1 0 &&& 0x80) >>> 7 ≠ 0
    scramble := p.getD 3 0 >>> 6
    cc := p.getD 3 0 &&& 0x0f
    packet := p
    adpField := if hasAdpField p then some 5 else none
    adpFieldLen := adpFieldLen p
    payload := if hasPayload p then some (payloadPlace p) else none
    payloadLen := if hasPayload p then (payloadRoom p).toNat else 0 }

structure TsParser where
  packetSize : Nat := 188
  atLeast : 188 ≤ packetSize := by decide

def swdmxTsParserSetPacketSize (tsp : TsParser) (size : Nat) : TsParser × SwdmxResult :=
  if small : size < 188 then (tsp, .err)
  else ({ packetSize := size, atLeast := Nat.not_lt.mp small }, .ok)

def swdmxTsParserRun (tsp : TsParser) (data : List UInt8) : List TsPacket × Nat :=
  let found := scan tsp.packetSize (· == 0x47) data
  (found.1.filterMap tsPacket, data.length - found.2.length)

structure Mpeg2Packet where
  error : Bool
  payloadStart : Bool
  priority : Bool
  pid : Fin 8192
  scramble : Fin 4
  cc : Fin 16
  adaptation : Option (List UInt8)
  payload : Option (List UInt8)

def Mpeg2Packet.adaptationBytes (pkt : Mpeg2Packet) : List UInt8 :=
  match pkt.adaptation with
  | none => []
  | some field => UInt8.ofNat field.length :: field

def Mpeg2Packet.bytes (pkt : Mpeg2Packet) : List UInt8 :=
  0x47 ::
    UInt8.ofNat (128 * pkt.error.toNat + 64 * pkt.payloadStart.toNat + 32 * pkt.priority.toNat +
      pkt.pid.val / 256) ::
    UInt8.ofNat (pkt.pid.val % 256) ::
    UInt8.ofNat (64 * pkt.scramble.val + 32 * pkt.adaptation.isSome.toNat +
      16 * pkt.payload.isSome.toNat + pkt.cc.val) ::
    (pkt.adaptationBytes ++ pkt.payload.getD [])

def packetPid (packet : List UInt8) : Nat :=
  (packet.getD 1 0).toNat % 32 * 256 + (packet.getD 2 0).toNat

theorem pid_toNat (b1 b2 : UInt8) :
    (((b1 &&& 0x1f).toUInt16 <<< 8) ||| b2.toUInt16).toNat = b1.toNat % 32 * 256 + b2.toNat := by
  have low := b2.toNat_lt
  have high : b1.toNat % 32 < 32 := Nat.mod_lt _ (by decide)
  have nibble : (b1 &&& 0x1f).toNat = b1.toNat % 32 := by
    rw [UInt8.toNat_and]
    exact Nat.and_two_pow_sub_one_eq_mod _ 5
  have join := Nat.two_pow_add_eq_or_of_lt low (b1.toNat % 32)
  rw [UInt16.toNat_or, UInt16.toNat_shiftLeft, UInt8.toNat_toUInt16, UInt8.toNat_toUInt16, nibble,
    Nat.shiftLeft_eq]
  show b1.toNat % 32 * 2 ^ 8 % 2 ^ 16 ||| b2.toNat = b1.toNat % 32 * 256 + b2.toNat
  rw [Nat.mod_eq_of_lt (by omega), Nat.mul_comm, ← join, Nat.mul_comm]

theorem tsPacket_pid {packet : List UInt8} {pkt : TsPacket} (parsed : tsPacket packet = some pkt) :
    pkt.pid.toNat = packetPid packet := by
  unfold tsPacket at parsed
  by_cases null : pktPid packet = 0x1fff
  · rw [if_pos null] at parsed
    cases parsed
  · rw [if_neg null] at parsed
    by_cases illegal : payloadRoom packet < 0
    · rw [if_pos illegal] at parsed
      cases parsed
    · rw [if_neg illegal] at parsed
      cases parsed
      exact pid_toNat _ _

theorem byte1_fields : ∀ (error start priority : Bool) (high : Fin 32),
    let b := UInt8.ofNat (128 * error.toNat + 64 * start.toNat + 32 * priority.toNat + high.val)
    b.toNat % 32 = high.val ∧ decide ((b &&& 0x40) >>> 6 ≠ 0) = start := by
  decide +kernel

theorem byte3_fields : ∀ (scramble : Fin 4) (adaptation payload : Bool) (cc : Fin 16),
    let b := UInt8.ofNat (64 * scramble.val + 32 * adaptation.toNat + 16 * payload.toNat + cc.val)
    b >>> 6 = UInt8.ofNat scramble.val ∧
      decide ((b >>> 4) &&& 0x03 &&& 2 ≠ 0) = adaptation ∧
      decide ((b >>> 4) &&& 0x03 &&& 1 ≠ 0) = payload := by
  decide +kernel

theorem packetPid_bytes (pkt : Mpeg2Packet) (trailer : List UInt8) :
    packetPid (pkt.bytes ++ trailer) = pkt.pid.val := by
  have small := pkt.pid.isLt
  have high := (byte1_fields pkt.error pkt.payloadStart pkt.priority
    ⟨pkt.pid.val / 256, by omega⟩).1
  have low : (UInt8.ofNat (pkt.pid.val % 256)).toNat = pkt.pid.val % 256 := by
    rw [UInt8.toNat_ofNat']
    exact Nat.mod_mod _ _
  show (UInt8.ofNat (128 * pkt.error.toNat + 64 * pkt.payloadStart.toNat +
    32 * pkt.priority.toNat + pkt.pid.val / 256)).toNat % 32 * 256 +
      (UInt8.ofNat (pkt.pid.val % 256)).toNat = pkt.pid.val
  rw [low, high]
  exact Nat.div_add_mod' pkt.pid.val 256

theorem afc_bytes (pkt : Mpeg2Packet) (trailer : List UInt8) :
    hasAdpField (pkt.bytes ++ trailer) = pkt.adaptation.isSome ∧
      hasPayload (pkt.bytes ++ trailer) = pkt.payload.isSome :=
  (byte3_fields pkt.scramble pkt.adaptation.isSome pkt.payload.isSome pkt.cc).2

theorem room_bytes {pkt : Mpeg2Packet} (fills : pkt.bytes.length = 188) :
    pkt.adaptationBytes.length + (pkt.payload.getD []).length = 184 := by
  rw [Mpeg2Packet.bytes] at fills
  simp only [List.length_cons, List.length_append] at fills
  omega

theorem adpFieldLen_bytes {pkt : Mpeg2Packet} (trailer : List UInt8) (fills : pkt.bytes.length = 188) :
    adpFieldLen (pkt.bytes ++ trailer) = (pkt.adaptation.getD []).length := by
  have room := room_bytes fills
  unfold adpFieldLen
  rw [(afc_bytes pkt trailer).1]
  cases field : pkt.adaptation with
  | none => rfl
  | some bytes =>
    have first : (pkt.bytes ++ trailer).getD 4 0 = UInt8.ofNat bytes.length := by
      simp [Mpeg2Packet.bytes, Mpeg2Packet.adaptationBytes, field]
    rw [Mpeg2Packet.adaptationBytes, field, List.length_cons] at room
    rw [first, UInt8.toNat_ofNat']
    exact Nat.mod_eq_of_lt (by omega)

theorem payloadPlace_bytes {pkt : Mpeg2Packet} (trailer : List UInt8) (fills : pkt.bytes.length = 188) :
    payloadPlace (pkt.bytes ++ trailer) = 4 + pkt.adaptationBytes.length ∧
      payloadRoom (pkt.bytes ++ trailer) = (pkt.payload.getD []).length := by
  have room := room_bytes fills
  unfold payloadPlace payloadRoom
  rw [(afc_bytes pkt trailer).1, adpFieldLen_bytes trailer fills]
  cases field : pkt.adaptation with
  | none =>
    rw [Mpeg2Packet.adaptationBytes, field, List.length_nil] at room ⊢
    exact ⟨rfl, congrArg Int.ofNat (room.symm.trans (Nat.zero_add _))⟩
  | some bytes =>
    rw [Mpeg2Packet.adaptationBytes, field, List.length_cons] at room ⊢
    simp only [Option.isSome_some, if_true, Option.getD_some]
    omega

theorem byte1_flags : ∀ (error start priority : Bool) (high : Fin 32),
    let b := UInt8.ofNat (128 * error.toNat + 64 * start.toNat + 32 * priority.toNat + high.val)
    decide ((b &&& 0x80) >>> 7 ≠ 0) = error ∧ decide ((b &&& 0x20) >>> 5 ≠ 0) = priority := by
  decide +kernel

theorem byte3_cc : ∀ (scramble : Fin 4) (adaptation payload : Bool) (cc : Fin 16),
    UInt8.ofNat (64 * scramble.val + 32 * adaptation.toNat + 16 * payload.toNat + cc.val) &&& 0x0f =
      UInt8.ofNat cc.val := by
  decide +kernel

theorem tsPacket_fields {pkt : Mpeg2Packet} (trailer : List UInt8) (fills : pkt.bytes.length = 188)
    (real : pkt.pid.val ≠ 0x1fff) :
    tsPacket (pkt.bytes ++ trailer) = some {
      pid := UInt16.ofNat pkt.pid.val
      payloadStart := pkt.payloadStart
      priority := pkt.priority
      error := pkt.error
      scramble := UInt8.ofNat pkt.scramble.val
      cc := UInt8.ofNat pkt.cc.val
      packet := pkt.bytes ++ trailer
      adpField := if pkt.adaptation.isSome then some 5 else none
      adpFieldLen := (pkt.adaptation.getD []).length
      payload := if pkt.payload.isSome then some (4 + pkt.adaptationBytes.length) else none
      payloadLen := (pkt.payload.getD []).length } := by
  have number : (pktPid (pkt.bytes ++ trailer)).toNat = pkt.pid.val :=
    (pid_toNat _ _).trans (packetPid_bytes pkt trailer)
  have pid : pktPid (pkt.bytes ++ trailer) = UInt16.ofNat pkt.pid.val := by
    rw [← number, UInt16.ofNat_toNat]
  have notNull : pktPid (pkt.bytes ++ trailer) ≠ 0x1fff := fun null => by
    rw [null] at number
    exact real number.symm
  have start := (byte1_fields pkt.error pkt.payloadStart pkt.priority ⟨pkt.pid.val / 256, by omega⟩).2
  have flags := byte1_flags pkt.error pkt.payloadStart pkt.priority ⟨pkt.pid.val / 256, by omega⟩
  have scramble := (byte3_fields pkt.scramble pkt.adaptation.isSome pkt.payload.isSome pkt.cc).1
  have cc := byte3_cc pkt.scramble pkt.adaptation.isSome pkt.payload.isSome pkt.cc
  obtain ⟨adapted, carries⟩ := afc_bytes pkt trailer
  obtain ⟨place, room⟩ := payloadPlace_bytes trailer fills
  have fitting : ¬payloadRoom (pkt.bytes ++ trailer) < 0 := by
    rw [room]
    omega
  have len : (if pkt.payload.isSome then ((pkt.payload.getD []).length : Int).toNat else 0) =
      (pkt.payload.getD []).length := by
    cases pkt.payload <;> rfl
  unfold tsPacket
  rw [if_neg notNull, if_neg fitting, pid, adapted, carries, adpFieldLen_bytes trailer fills,
    place, room, len]
  refine congrArg some ?_
  rw [TsPacket.mk.injEq]
  exact ⟨rfl, start, flags.2, flags.1, scramble, cc, rfl, rfl, rfl, rfl, rfl⟩

theorem tsPacket_bytes (pkt : Mpeg2Packet) (trailer : List UInt8)
    (fills : pkt.bytes.length = 188) (real : pkt.pid.val ≠ 0x1fff) :
    ∃ ts, tsPacket (pkt.bytes ++ trailer) = some ts ∧ ts.pid.toNat = pkt.pid.val ∧
      ts.payloadStart = pkt.payloadStart ∧ ts.scramble = UInt8.ofNat pkt.scramble.val ∧
      ts.payloadBytes = pkt.payload := by
  have pid : (UInt16.ofNat pkt.pid.val).toNat = pkt.pid.val := by
    rw [UInt16.toNat_ofNat']
    exact Nat.mod_eq_of_lt (Nat.lt_trans pkt.pid.isLt (by decide))
  refine ⟨_, tsPacket_fields trailer fills real, pid, rfl, rfl, ?_⟩
  unfold TsPacket.payloadBytes
  dsimp only
  cases payload : pkt.payload with
  | none => rfl
  | some bytes =>
    have behind : (pkt.bytes ++ trailer).drop (4 + pkt.adaptationBytes.length) = bytes ++ trailer := by
      rw [Mpeg2Packet.bytes, payload]
      simp only [List.cons_append, Nat.add_comm 4, List.drop_succ_cons, Option.getD_some,
        List.append_assoc, List.drop_left]
    simp only [Option.isSome_some, if_true, Option.map_some, behind, Option.getD_some, List.take_left]

end UnionpiTiger.Demux

namespace UnionpiTiger.Demux

inductive AlgoKind where
  | dvbcsa2
  | aesCbc
deriving DecidableEq, Repr

-- A SWDMX_DescAlgo with what its set_fn has stored; the DVB-CSA2 one has no initial vectors.
structure DescAlgo where
  kind : AlgoKind
  evenKey : List UInt8
  oddKey : List UInt8
  evenIv : List UInt8 := []
  oddIv : List UInt8 := []
deriving DecidableEq, Repr

structure SwChannel where
  addr : Nat
  enable : Bool := false
  pid : UInt16 := 0xffff
  algo : Option DescAlgo := none
deriving DecidableEq, Repr

structure Descrambler where
  chanList : List SwChannel := []
  next : Nat := 0
deriving DecidableEq, Repr

def TsPacket.writePayload (pkt : TsPacket) (bytes : List UInt8) : TsPacket :=
  match pkt.payload with
  | none => pkt
  | some place =>
    { pkt with
      packet := pkt.packet.take place ++ bytes ++ pkt.packet.drop (place + pkt.payloadLen) }

-- The desc_fn of both algorithms; `decrypt` is the cipher with the keys of the parity.
def descFn (decrypt : DescAlgo → UInt8 → List UInt8 → List UInt8) (algo : DescAlgo)
    (pkt : TsPacket) : TsPacket × SwdmxResult :=
  if pkt.scramble = 2 ∨ pkt.scramble = 3 then
    (pkt.writePayload (decrypt algo pkt.scramble (pkt.payloadBytes.getD [])), .ok)
  else (pkt, .err)

def descramble (decrypt : DescAlgo → UInt8 → List UInt8 → List UInt8) (algo : DescAlgo)
    (pkt : TsPacket) : TsPacket :=
  let clear := (descFn decrypt algo pkt).1
  if (descFn decrypt algo pkt).2 = .ok then
    { clear with
      scramble := 0
      packet := clear.packet.set 3 (clear.packet.getD 3 0 &&& 0x3f) }
  else clear

def swdmxDescramblerTsPacketCb (decrypt : DescAlgo → UInt8 → List UInt8 → List UInt8)
    (desc : Descrambler) (pkt : TsPacket) : TsPacket :=
  if pkt.scramble ≠ 0 ∧ pkt.payload.isSome then
    match (desc.chanList.find? fun ch => ch.enable && ch.pid == pkt.pid).bind SwChannel.algo with
    | none => pkt
    | some algo => descramble decrypt algo pkt
  else pkt

variable {decrypt : DescAlgo → UInt8 → List UInt8 → List UInt8} {desc : Descrambler} {pkt : TsPacket}

theorem descrambled_of_clear (clear : pkt.scramble = 0) :
    swdmxDescramblerTsPacketCb decrypt desc pkt = pkt := by
  unfold swdmxDescramblerTsPacketCb
  rw [if_neg (fun both => both.1 clear)]

theorem descFn_pid (algo : DescAlgo) : (descFn decrypt algo pkt).1.pid = pkt.pid := by
  unfold descFn TsPacket.writePayload
  split_ifs
  · cases pkt.payload <;> rfl
  · rfl

theorem descramble_pid (algo : DescAlgo) : (descramble decrypt algo pkt).pid = pkt.pid := by
  unfold descramble
  split_ifs <;> exact descFn_pid algo

theorem descrambled_pid : (swdmxDescramblerTsPacketCb decrypt desc pkt).pid = pkt.pid := by
  unfold swdmxDescramblerTsPacketCb
  split_ifs
  · cases (desc.chanList.find? fun ch => ch.enable && ch.pid == pkt.pid).bind SwChannel.algo with
    | none => rfl
    | some algo => exact descramble_pid algo
  · rfl

end UnionpiTiger.Demux
