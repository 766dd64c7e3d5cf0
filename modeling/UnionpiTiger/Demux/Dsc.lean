import Mathlib.Data.List.FinRange
import Mathlib.Logic.Function.Basic
import UnionpiTiger.Demux.TsParser

set_option autoImplicit false

namespace UnionpiTiger.Demux

inductive CwType where
  | dvbCsaEven
  | dvbCsaOdd
  | aesEven
  | aesOdd
  | aesEvenIv
  | aesOddIv
  | desEven
  | desOdd
  | sm4Even
  | sm4Odd
  | sm4EvenIv
  | sm4OddIv
  | other (type : Nat)
deriving DecidableEq, Repr

inductive DscState where
  | free
  | ready
  | go
deriving DecidableEq, Repr

-- The channels lie in memory from kmalloc, and dsc_init does not set their software channel.
inductive ChanPtr where
  | wild
  | null
  | obj (addr : Nat)
deriving DecidableEq, Repr

structure DescChannel where
  chan : ChanPtr
  -- Whether the algorithm is set, the one of the software channel.
  algo : Bool := false
  pid : Nat := 0x1fff
  state : DscState := .free
  -- The last key that was set since the channel was allocated.
  last : Option (CwType × List UInt8) := none
deriving DecidableEq, Repr

def dscChannelNum : Nat := 8

abbrev ChanIndex (D : Type) := D × Fin dscChannelNum

def swDscMode : Int := 0

def hwDscMode : Int := 1

structure Ca (D : Type) where
  mode : D → Int
  channels : ChanIndex D → DescChannel
  desc : Descrambler := {}
  -- An operation went through a pointer that is to no software channel, used that of a free channel,
  -- or never came back from an assertion.
  misused : Bool := false

def oddKeyParam : Nat := 0

def evenKeyParam : Nat := 1

def oddIvParam : Nat := 3

def evenIvParam : Nat := 4

-- The set_fn of both algorithms. The alignment is always that to the head of the payload.
def DescAlgo.set (algo : DescAlgo) (param : Nat) (key : List UInt8) : DescAlgo :=
  match algo.kind with
  | .dvbcsa2 =>
    if param = oddKeyParam then { algo with oddKey := key.take 8 }
    else if param = evenKeyParam then { algo with evenKey := key.take 8 }
    else algo
  | .aesCbc =>
    if param = oddKeyParam then { algo with oddKey := key.take 16 }
    else if param = evenKeyParam then { algo with evenKey := key.take 16 }
    else if param = oddIvParam then { algo with oddIv := key.take 16 }
    else if param = evenIvParam then { algo with evenIv := key.take 16 }
    else algo

def swdmxDvbcsa2AlgoNew : DescAlgo :=
  { kind := .dvbcsa2, evenKey := List.replicate 8 0, oddKey := List.replicate 8 0 }

def swdmxAesCbcAlgoNew : DescAlgo where
  kind := .aesCbc
  evenKey := List.replicate 16 0
  oddKey := List.replicate 16 0
  evenIv := List.replicate 16 0
  oddIv := List.replicate 16 0

namespace SwChannel

def setAlgo (chan : SwChannel) (algo : DescAlgo) : SwChannel := { chan with algo := some algo }

def setPid (chan : SwChannel) (pid : UInt16) : SwChannel :=
  if pid < 0x1fff then { chan with pid } else chan

def setParam (chan : SwChannel) (param : Nat) (key : List UInt8) : Option SwChannel :=
  chan.algo.map fun algo => { chan with algo := some (algo.set param key) }

def enabled (chan : SwChannel) : SwChannel :=
  if chan.pid ≤ 0x1fff ∧ chan.algo.isSome then { chan with enable := true } else chan

def disabled (chan : SwChannel) : SwChannel := { chan with enable := false }

end SwChannel

namespace Descrambler

def swdmxDescramblerAllocChannel (desc : Descrambler) : Nat × Descrambler :=
  (desc.next, { chanList := desc.chanList ++ [{ addr := desc.next }], next := desc.next + 1 })

def swdmxDescChannelFree (desc : Descrambler) (addr : Nat) : Descrambler :=
  { desc with chanList := desc.chanList.filter fun chan => chan.addr ≠ addr }

def at? (desc : Descrambler) (addr : Nat) : Option SwChannel :=
  desc.chanList.find? fun chan => chan.addr = addr

def put (desc : Descrambler) (chan : SwChannel) : Descrambler :=
  { desc with chanList := desc.chanList.map fun old => if old.addr = chan.addr then chan else old }

end Descrambler

namespace Ca

variable {D : Type} [DecidableEq D]

def init (memory : ChanIndex D → Bool) : Ca D where
  mode _ := hwDscMode
  channels c := { chan := if memory c then .wild else .null }

def setChannel (ca : Ca D) (c : ChanIndex D) (ch : DescChannel) : Ca D :=
  { ca with channels := Function.update ca.channels c ch }

def target (ca : Ca D) : ChanPtr → Option SwChannel
  | .obj addr => ca.desc.at? addr
  | _ => none

def through (ca : Ca D) (chan : ChanPtr) (use : SwChannel → Option SwChannel) : Ca D :=
  match (ca.target chan).bind use with
  | some chan => { ca with desc := ca.desc.put chan }
  | none => { ca with misused := true }

def dscChannelAlloc (ca : Ca D) (c : ChanIndex D) (pid : Nat) : Ca D :=
  let ch := { ca.channels c with state := .ready, pid, last := none }
  if ca.mode c.1 = swDscMode then
    let (addr, desc) := ca.desc.swdmxDescramblerAllocChannel
    ({ ca with desc }.through (.obj addr) fun chan => some (chan.setPid pid.toUInt16)).setChannel c
      { ch with chan := .obj addr }
  else ca.setChannel c ch

def dscChannelFree (ca : Ca D) (c : ChanIndex D) : Ca D :=
  let ch := ca.channels c
  if ch.state = .free then ca
  else if ca.mode c.1 = swDscMode then
    match ch.chan with
    | .null => ca.setChannel c { ch with state := .free, pid := 0x1fff, last := none }
    | .wild => { ca with misused := true }.setChannel c { chan := .null }
    | .obj addr =>
      let ca := ca.through (.obj addr) fun chan => some chan.disabled
      { ca with desc := ca.desc.swdmxDescChannelFree addr }.setChannel c { chan := .null }
  -- Only the registers of the hardware are cleared.
  else ca.setChannel c { ch with state := .free, pid := 0x1fff, last := none }

def dscReset (ca : Ca D) (dev : D) : Ca D :=
  (List.finRange dscChannelNum).foldl (fun ca i => ca.dscChannelFree (dev, i)) ca

-- The algorithm that a key type makes and the parameter that its key is stored as. DES and SM4 keys
-- go through the code of the AES ones.
def made : CwType → Option (DescAlgo × Nat)
  | .dvbCsaEven => some (swdmxDvbcsa2AlgoNew, evenKeyParam)
  | .dvbCsaOdd => some (swdmxDvbcsa2AlgoNew, oddKeyParam)
  | .aesEven => some (swdmxAesCbcAlgoNew, evenKeyParam)
  | .aesOdd => some (swdmxAesCbcAlgoNew, oddKeyParam)
  | .aesEvenIv => some (swdmxAesCbcAlgoNew, evenIvParam)
  | .other _ => none
  | _ => some (swdmxAesCbcAlgoNew, oddIvParam)

def swSetKey (ca : Ca D) (c : ChanIndex D) (algo : DescAlgo) (param : Nat) (key : List UInt8) : Ca D :=
  let ch := ca.channels c
  let ca := if ch.algo then ca else ca.through ch.chan fun chan => some (chan.setAlgo algo)
  let ca := ca.through ch.chan fun chan => chan.setParam param key
  let ca := if ch.state = .ready then ca.through ch.chan fun chan => some chan.enabled else ca
  ca.setChannel c { ch with algo := true, state := if ch.state = .ready then .go else ch.state }

def dscSetKey (ca : Ca D) (c : ChanIndex D) (type : CwType) (key : List UInt8) (taken : Bool) : Ca D :=
  match made type with
  | none => ca
  | some (algo, param) =>
    if ca.mode c.1 = swDscMode then
      let ca := { ca with misused := ca.misused || decide ((ca.channels c).state = DscState.free) }
      let ca := ca.swSetKey c algo param key
      ca.setChannel c { ca.channels c with last := some (type, key) }
    else if taken then ca.setChannel c { ca.channels c with last := some (type, key) }
    else ca

def einval : Int := -22

def dscSetCw (ca : Ca D) (dev : D) (index : Nat) (type : CwType) (cw : List UInt8)
    (taken : Bool) : Ca D × Int :=
  if within : index < dscChannelNum then (ca.dscSetKey (dev, ⟨index, within⟩) type cw taken, 0)
    else (ca, einval)

def used (ca : Ca D) (dev : D) (pid : Nat) : Option (Fin dscChannelNum) :=
  (List.finRange dscChannelNum).find? fun i =>
    (ca.channels (dev, i)).state ≠ .free ∧ (ca.channels (dev, i)).pid = pid

def slot (index : Int) : Option (Fin dscChannelNum) :=
  if within : 0 ≤ index ∧ index < dscChannelNum then some ⟨index.toNat, by omega⟩ else none

def dscSetPid (ca : Ca D) (dev : D) (pid : Nat) (index : Int) : Ca D × Int :=
  if index = -1 then
    match ca.used dev pid with
    | some i => (ca.dscChannelFree (dev, i), 0)
    | none => (ca, 0)
  else
    match slot index with
    | some i =>
      if pid < 0x1fff then ((ca.dscChannelFree (dev, i)).dscChannelAlloc (dev, i) pid, 0)
      else (ca.dscChannelFree (dev, i), 0)
    | none => (ca, einval)

def dscSetMode (ca : Ca D) (dev : D) (mode : Int) : Ca D :=
  if ca.mode dev ≠ mode then { ca with mode := Function.update ca.mode dev mode } else ca

end Ca

inductive CaOp (D : Type) where
  | reset (dev : D)
  | setDescr (dev : D) (index : Nat) (parity : Nat) (cw : List UInt8) (taken : Bool)
  | setDescrEx (dev : D) (index : Nat) (type : CwType) (cw : List UInt8) (taken : Bool)
  | setPid (dev : D) (pid : Nat) (index : Int)
  | setMode (dev : D) (mode : Int)

namespace Ca

variable {D : Type} [DecidableEq D]

def step (ca : Ca D) : CaOp D → Ca D
  | .reset dev => ca.dscReset dev
  | .setDescr dev index parity cw taken =>
    (ca.dscSetCw dev index (if parity ≠ 0 then .dvbCsaOdd else .dvbCsaEven) cw taken).1
  | .setDescrEx dev index type cw taken => (ca.dscSetCw dev index type cw taken).1
  | .setPid dev pid index => (ca.dscSetPid dev pid index).1
  | .setMode dev mode => ca.dscSetMode dev mode

end Ca

end UnionpiTiger.Demux
