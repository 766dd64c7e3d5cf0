import UnionpiTiger.Demux.RoundTrip
import UnionpiTiger.Dvbcsa.Packets

set_option autoImplicit false

namespace UnionpiTiger.Demux

open Lib Dvbcsa

-- The CBC mode of the kernel's AES: whole blocks of 16 bytes are taken back under the same key and
-- initial vector.
structure Cbc where
  encrypt : List UInt8 → List UInt8 → List UInt8 → List UInt8
  decrypt : List UInt8 → List UInt8 → List UInt8 → List UInt8
  inverses : ∀ key iv n, n % 16 = 0 →
    Inverses (fun data : List UInt8 => data.length = n) (encrypt key iv) (decrypt key iv)

def DescAlgo.key (algo : DescAlgo) (scramble : UInt8) : List UInt8 :=
  if scramble = 2 then algo.evenKey else algo.oddKey

def DescAlgo.iv (algo : DescAlgo) (scramble : UInt8) : List UInt8 :=
  if scramble = 2 then algo.evenIv else algo.oddIv

-- aes_cbc_desc_pkt with the blocks aligned to the head: a rest at the tail is no block.
def onWholeBlocks (crypt : List UInt8 → List UInt8) (data : List UInt8) : List UInt8 :=
  let left := data.length - data.length % 16
  crypt (data.take left) ++ data.drop left

-- What dvbcsa2_desc and aes_cbc_desc make of a payload, and the sender's side of it.
def swDecrypt (cbc : Cbc) (algo : DescAlgo) (scramble : UInt8) : List UInt8 → List UInt8 :=
  match algo.kind with
  | .dvbcsa2 => dvbcsaDecrypt (dvbcsaKeySet (algo.key scramble))
  | .aesCbc => onWholeBlocks (cbc.decrypt (algo.key scramble) (algo.iv scramble))

def swEncrypt (cbc : Cbc) (algo : DescAlgo) (scramble : UInt8) : List UInt8 → List UInt8 :=
  match algo.kind with
  | .dvbcsa2 => dvbcsaEncrypt (dvbcsaKeySet (algo.key scramble))
  | .aesCbc => onWholeBlocks (cbc.encrypt (algo.key scramble) (algo.iv scramble))

theorem onWholeBlocks_length {crypt : List UInt8 → List UInt8} {data : List UInt8}
    (keeps : ∀ blocks : List UInt8, blocks.length = data.length - data.length % 16 →
      (crypt blocks).length = data.length - data.length % 16) :
    (onWholeBlocks crypt data).length = data.length := by
  rw [onWholeBlocks, List.length_append, keeps _ (by rw [List.length_take]; omega), List.length_drop]
  omega

theorem onWholeBlocks_back {act undo : List UInt8 → List UInt8} {data : List UInt8}
    (keeps : ∀ blocks : List UInt8, blocks.length = data.length - data.length % 16 →
      (act blocks).length = data.length - data.length % 16)
    (back : ∀ blocks : List UInt8, blocks.length = data.length - data.length % 16 →
      undo (act blocks) = blocks) :
    onWholeBlocks undo (onWholeBlocks act data) = data := by
  have whole : (data.take (data.length - data.length % 16)).length =
      data.length - data.length % 16 := by
    rw [List.length_take]
    omega
  have acted := keeps _ whole
  rw [onWholeBlocks, onWholeBlocks_length keeps]
  rw [onWholeBlocks, List.take_left' acted, List.drop_left' acted, back _ whole, List.take_append_drop]

theorem onWholeBlocks_inverses {act undo : List UInt8 → List UInt8} {n : Nat}
    (inverses : Inverses (fun data : List UInt8 => data.length = n - n % 16) act undo) :
    Inverses (fun data : List UInt8 => data.length = n) (onWholeBlocks act) (onWholeBlocks undo) := by
  constructor
  · rintro data rfl
    exact onWholeBlocks_length inverses.acts
  · rintro data rfl
    exact onWholeBlocks_length inverses.undoes
  · rintro data rfl
    exact onWholeBlocks_back inverses.acts inverses.back
  · rintro data rfl
    exact onWholeBlocks_back inverses.undoes inverses.forth

theorem swCipher (cbc : Cbc) (algo : DescAlgo) (scramble : UInt8) (n : Nat) :
    Inverses (fun data : List UInt8 => data.length = n) (swEncrypt cbc algo scramble)
      (swDecrypt cbc algo scramble) := by
  unfold swEncrypt swDecrypt
  cases algo.kind with
  | dvbcsa2 => exact packetCipher _ n
  | aesCbc => exact onWholeBlocks_inverses (cbc.inverses _ _ _ (by omega))

def Descrambler.algoOn (desc : Descrambler) (pid : UInt16) : Option DescAlgo :=
  (desc.chanList.find? fun ch => ch.enable && ch.pid == pid).bind SwChannel.algo

inductive AirPacket where
  | plain (packet : List UInt8)
  | scrambled (algo : DescAlgo) (odd : Bool) (pkt : Mpeg2Packet) (payload trailer : List UInt8)

def AirPacket.sentBytes (cbc : Cbc) : AirPacket → List UInt8
  | .plain packet => packet
  | .scrambled algo odd pkt payload trailer =>
    { pkt with
      scramble := parity odd
      payload := some (swEncrypt cbc algo (UInt8.ofNat (parity odd).val) payload) }.bytes ++ trailer

def AirPacket.clearBytes : AirPacket → List UInt8
  | .plain packet => packet
  | .scrambled _ _ pkt payload trailer => (pkt.clear payload).bytes ++ trailer

def AirPacket.Framed (desc : Descrambler) (size : Nat) : AirPacket → Prop
  | .plain packet => packet.length = size ∧ packet.head? = some 0x47
  | .scrambled algo odd pkt payload trailer =>
    desc.algoOn (UInt16.ofNat pkt.pid.val) = some algo ∧ pkt.pid.val ≠ 0x1fff ∧
      (pkt.clear payload).bytes.length = 188 ∧
      (AirPacket.scrambled algo odd pkt payload trailer).clearBytes.length = size

variable {cbc : Cbc} {desc : Descrambler} {pkt : Mpeg2Packet} {payload trailer : List UInt8}

theorem byte3_clear : ∀ (scramble : Fin 4) (adaptation payload : Bool) (cc : Fin 16),
    let b := fun s : Fin 4 =>
      UInt8.ofNat (64 * s.val + 32 * adaptation.toNat + 16 * payload.toNat + cc.val)
    b scramble &&& 0x3f = b 0 ∧ b scramble &&& 0x0f = b 0 &&& 0x0f := by
  decide +kernel

theorem parity_scrambles (odd : Bool) :
    UInt8.ofNat (parity odd).val ≠ 0 ∧
      (UInt8.ofNat (parity odd).val = 2 ∨ UInt8.ofNat (parity odd).val = 3) := by
  cases odd <;> decide

def Mpeg2Packet.head (pkt : Mpeg2Packet) (scramble : Fin 4) : List UInt8 :=
  { pkt with scramble := scramble, payload := some [] }.bytes

theorem bytes_head (pkt : Mpeg2Packet) (scramble : Fin 4) (payload : List UInt8) :
    { pkt with scramble := scramble, payload := some payload }.bytes =
      pkt.head scramble ++ payload := by
  simp [Mpeg2Packet.bytes, Mpeg2Packet.adaptationBytes, Mpeg2Packet.head]

theorem length_head (pkt : Mpeg2Packet) (scramble : Fin 4) :
    (pkt.head scramble).length = 4 + pkt.adaptationBytes.length := by
  simp only [Mpeg2Packet.head, Mpeg2Packet.bytes, Mpeg2Packet.adaptationBytes, List.length_cons,
    Option.getD_some, List.append_nil]
  omega

theorem head_clear (pkt : Mpeg2Packet) (scramble : Fin 4) (behind : List UInt8) :
    (pkt.head scramble ++ behind).set 3 ((pkt.head scramble ++ behind).getD 3 0 &&& 0x3f) =
      pkt.head 0 ++ behind := by
  have third := (byte3_clear scramble pkt.adaptation.isSome true pkt.cc).1
  simp only [Mpeg2Packet.head, Mpeg2Packet.bytes, Mpeg2Packet.adaptationBytes, List.cons_append,
    List.set_cons_succ, List.set_cons_zero, List.getD_cons_succ, List.getD_cons_zero,
    Option.isSome_some] at third ⊢
  rw [third]

theorem descramble_scrambled {decrypt : DescAlgo → UInt8 → List UInt8 → List UInt8} {algo : DescAlgo}
    {ts : TsPacket} (scramble : Fin 4) (secret : List UInt8)
    (either : ts.scramble = 2 ∨ ts.scramble = 3) (place : ts.payload = some (pkt.head scramble).length)
    (len : ts.payloadLen = secret.length) (packet : ts.packet = pkt.head scramble ++ secret ++ trailer)
    (back : decrypt algo ts.scramble secret = payload) :
    descramble decrypt algo ts =
      { ts with scramble := 0, packet := pkt.head 0 ++ payload ++ trailer } := by
  have bytes : ts.payloadBytes = some secret := by
    rw [TsPacket.payloadBytes, place, Option.map_some, len, packet, List.append_assoc, List.drop_left,
      List.take_left]
  have written : ts.writePayload payload =
      { ts with packet := pkt.head scramble ++ payload ++ trailer } := by
    unfold TsPacket.writePayload
    rw [place]
    dsimp only
    rw [packet, len, List.append_assoc (pkt.head scramble) secret, List.take_left, ← List.drop_drop,
      List.drop_left, List.drop_left]
  unfold descramble descFn
  rw [if_pos either, bytes, Option.getD_some, back, written]
  dsimp only
  rw [if_pos rfl, List.append_assoc, head_clear, List.append_assoc]

theorem scrambled_descrambled (algo : DescAlgo) (odd : Bool)
    (found : desc.algoOn (UInt16.ofNat pkt.pid.val) = some algo) (real : pkt.pid.val ≠ 0x1fff)
    (fills : (pkt.clear payload).bytes.length = 188) :
    (tsPacket ((AirPacket.scrambled algo odd pkt payload trailer).sentBytes cbc)).map
        (swdmxDescramblerTsPacketCb (swDecrypt cbc) desc) =
      (tsPacket (AirPacket.scrambled algo odd pkt payload trailer).clearBytes).map
        (swdmxDescramblerTsPacketCb (swDecrypt cbc) desc) := by
  have cipher := swCipher cbc algo (UInt8.ofNat (parity odd).val) payload.length
  obtain ⟨nonzero, either⟩ := parity_scrambles odd
  generalize secretIs : swEncrypt cbc algo (UInt8.ofNat (parity odd).val) payload = secret
  have length : secret.length = payload.length := secretIs ▸ cipher.acts payload rfl
  have back : swDecrypt cbc algo (UInt8.ofNat (parity odd).val) secret = payload :=
    secretIs ▸ cipher.back payload rfl
  unfold Mpeg2Packet.clear at fills
  have sentFills : { pkt with scramble := parity odd, payload := some secret }.bytes.length = 188 := by
    rw [bytes_head, List.length_append, length_head] at fills ⊢
    rwa [length]
  rw [AirPacket.sentBytes, AirPacket.clearBytes, Mpeg2Packet.clear, secretIs,
    tsPacket_fields trailer sentFills real, tsPacket_fields trailer fills real, Option.map_some,
    Option.map_some]
  refine congrArg some (Eq.trans ?_ (descrambled_of_clear rfl).symm)
  unfold swdmxDescramblerTsPacketCb
  rw [if_pos ⟨nonzero, rfl⟩]
  unfold Descrambler.algoOn at found
  dsimp only
  rw [found]
  dsimp only
  rw [descramble_scrambled (parity odd) secret either
    (congrArg some (length_head pkt (parity odd)).symm) rfl
    (congrArg (· ++ trailer) (bytes_head pkt (parity odd) secret)) back, TsPacket.mk.injEq]
  exact ⟨rfl, rfl, rfl, rfl, rfl, rfl,
    congrArg (· ++ trailer) (bytes_head pkt 0 payload).symm, rfl, rfl,
    rfl, length⟩

theorem AirPacket.Framed.descrambled {size : Nat} {packet : AirPacket}
    (framed : packet.Framed desc size) :
    (tsPacket (packet.sentBytes cbc)).map (swdmxDescramblerTsPacketCb (swDecrypt cbc) desc) =
      (tsPacket packet.clearBytes).map (swdmxDescramblerTsPacketCb (swDecrypt cbc) desc) := by
  cases packet with
  | plain packet => rfl
  | scrambled algo odd pkt payload trailer =>
    obtain ⟨found, real, fills, -⟩ := framed
    exact scrambled_descrambled algo odd found real fills

theorem AirPacket.Framed.blocks {size : Nat} {packet : AirPacket} (framed : packet.Framed desc size) :
    ((packet.sentBytes cbc).length = size ∧ ∃ b ∈ (packet.sentBytes cbc).head?, (b == 0x47) = true) ∧
      packet.clearBytes.length = size ∧ ∃ b ∈ packet.clearBytes.head?, (b == 0x47) = true := by
  cases packet with
  | plain packet =>
    obtain ⟨length, first⟩ := framed
    exact ⟨⟨length, 0x47, first, rfl⟩, length, 0x47, first, rfl⟩
  | scrambled algo odd pkt payload trailer =>
    obtain ⟨-, -, -, length⟩ := framed
    have kept := (swCipher cbc algo (UInt8.ofNat (parity odd).val) payload.length).acts payload rfl
    refine ⟨⟨?_, 0x47, rfl, rfl⟩, length, 0x47, rfl, rfl⟩
    rw [AirPacket.clearBytes, Mpeg2Packet.clear, bytes_head, List.length_append, List.length_append,
      length_head] at length
    rw [AirPacket.sentBytes, bytes_head, List.length_append, List.length_append, length_head, kept]
    exact length

theorem scrambled_as_clear {D : Type} (cbc : Cbc) (tsp : TsParser) (desc : Descrambler)
    (dmx : SwDemux D) (stream : List AirPacket)
    (framed : ∀ packet ∈ stream, packet.Framed desc tsp.packetSize) (sent clear : List (List UInt8))
    (sentCut : sent.flatten = stream.flatMap (AirPacket.sentBytes cbc))
    (clearCut : clear.flatten = stream.flatMap AirPacket.clearBytes) :
    Path.write ⟨tsp, swDecrypt cbc, desc⟩ dmx [] sent =
      Path.write ⟨tsp, swDecrypt cbc, desc⟩ dmx [] clear := by
  have positive : 0 < tsp.packetSize := Nat.lt_of_lt_of_le (by decide) tsp.atLeast
  have found : ∀ bytes : AirPacket → List UInt8,
      (∀ packet ∈ stream, (bytes packet).length = tsp.packetSize ∧
        ∃ b ∈ (bytes packet).head?, (b == (0x47 : UInt8)) = true) →
      (scan tsp.packetSize (· == 0x47) (stream.flatMap bytes)).1 = stream.map bytes := by
    intro bytes each
    have split := scan_flatten positive (stream.map bytes) [] positive fun block mem => by
      obtain ⟨packet, inStream, rfl⟩ := List.mem_map.mp mem
      exact each packet inStream
    rw [List.append_nil, ← List.flatMap_def] at split
    rw [split]
  have same : ∀ packets : List AirPacket, (∀ packet ∈ packets, packet.Framed desc tsp.packetSize) →
      Path.packets ⟨tsp, swDecrypt cbc, desc⟩ (packets.map (AirPacket.sentBytes cbc)) =
        Path.packets ⟨tsp, swDecrypt cbc, desc⟩ (packets.map AirPacket.clearBytes) := by
    intro packets all
    simp only [Path.packets, List.filterMap_map, List.map_filterMap]
    exact List.filterMap_congr fun packet mem => (all packet mem).descrambled
  rw [Path.write_eq _ dmx [] positive, Path.write_eq _ dmx [] positive, List.nil_append,
    List.nil_append, sentCut, clearCut]
  dsimp only
  rw [found _ fun packet mem => (framed packet mem).blocks.1, found _ fun packet mem =>
    (@AirPacket.Framed.blocks cbc _ _ _ (framed packet mem)).2, same stream framed]

def maskCbc : Cbc where
  encrypt key iv data := data.map fun b => b ^^^ (key.headD 0 ^^^ iv.headD 0)
  decrypt key iv data := data.map fun b => b ^^^ (key.headD 0 ^^^ iv.headD 0)
  inverses key iv n _ := by
    have length : ∀ data : List UInt8, data.length = n →
        (data.map fun b => b ^^^ (key.headD 0 ^^^ iv.headD 0)).length = n :=
      fun data fills => by rw [List.length_map, fills]
    have twice : ∀ data : List UInt8, data.length = n →
        (data.map fun b => b ^^^ (key.headD 0 ^^^ iv.headD 0)).map (fun b =>
          b ^^^ (key.headD 0 ^^^ iv.headD 0)) = data :=
      fun data _ => by simp only [List.map_map, Function.comp_def, xor_cancel, List.map_id']
    exact ⟨length, length, twice, twice⟩

def csaAlgo : DescAlgo :=
  { kind := .dvbcsa2, evenKey := [1, 2, 3, 6, 4, 5, 6, 15], oddKey := [7, 8, 9, 24, 1, 2, 3, 6] }

def aesAlgo : DescAlgo where
  kind := .aesCbc
  evenKey := (List.range 16).map fun k => UInt8.ofNat (17 * k + 1)
  oddKey := List.replicate 16 0x77
  evenIv := List.replicate 16 0xa0

def twoChannels : Descrambler where
  chanList := [{ addr := 0, enable := true, pid := 0x100, algo := some csaAlgo },
    { addr := 1, enable := true, pid := 0x101, algo := some aesAlgo }]
  next := 2

def onAir : List AirPacket :=
  [.scrambled csaAlgo true onePacket (List.replicate 184 0x5a) [], .plain onePacket.bytes,
    .scrambled aesAlgo false { onePacket with pid := ⟨0x101, by decide⟩ } (List.replicate 184 0x3c) []]

-- The chunks end inside packets.
theorem scrambled_as_clear_mixed :
    (∀ packet ∈ onAir, packet.Framed twoChannels 188) ∧
      Path.write ⟨{}, swDecrypt maskCbc, twoChannels⟩ (swdmxDemuxNew 0 fun _ _ => 0 : SwDemux Unit) []
          [(onAir.flatMap (AirPacket.sentBytes maskCbc)).take 100,
            (onAir.flatMap (AirPacket.sentBytes maskCbc)).drop 100] =
        Path.write ⟨{}, swDecrypt maskCbc, twoChannels⟩ (swdmxDemuxNew 0 fun _ _ => 0) []
          [(onAir.flatMap AirPacket.clearBytes).take 200,
            (onAir.flatMap AirPacket.clearBytes).drop 200] := by
  have framed : ∀ packet ∈ onAir, packet.Framed twoChannels 188 := by
    refine List.forall_mem_cons.mpr ⟨⟨rfl, by decide, rfl, rfl⟩,
      List.forall_mem_cons.mpr ⟨⟨rfl, rfl⟩, ?_⟩⟩
    exact List.forall_mem_singleton.mpr ⟨rfl, by decide, rfl, rfl⟩
  have whole : ∀ (bytes : List UInt8) (n : Nat), [bytes.take n, bytes.drop n].flatten = bytes :=
    fun bytes n => by
    rw [List.flatten_cons, List.flatten_cons, List.flatten_nil, List.append_nil, List.take_append_drop]
  exact ⟨framed, scrambled_as_clear maskCbc {} twoChannels _ onAir framed _ _ (whole _ 100)
    (whole _ 200)⟩

end UnionpiTiger.Demux
