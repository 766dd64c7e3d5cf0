import UnionpiTiger.Demux.Dsc
import UnionpiTiger.Lib.Numbered
import UnionpiTiger.Lib.Run

set_option autoImplicit false

namespace UnionpiTiger.Demux

inductive KeySlot where
  | evenKey
  | oddKey
  | evenIv
  | oddIv
deriving DecidableEq, Repr

def CwType.kind : CwType → Option AlgoKind
  | .dvbCsaEven | .dvbCsaOdd => some .dvbcsa2
  | .aesEven | .aesOdd | .aesEvenIv | .aesOddIv => some .aesCbc
  | _ => none

def CwType.slot : CwType → Option KeySlot
  | .dvbCsaEven | .aesEven | .desEven | .sm4Even => some .evenKey
  | .dvbCsaOdd | .aesOdd | .desOdd | .sm4Odd => some .oddKey
  | .aesEvenIv | .sm4EvenIv => some .evenIv
  | .aesOddIv | .sm4OddIv => some .oddIv
  | .other _ => none

def AlgoKind.keySize : AlgoKind → Nat
  | .dvbcsa2 => 8
  | .aesCbc => 16

def DescAlgo.keyAt (algo : DescAlgo) : KeySlot → List UInt8
  | .evenKey => algo.evenKey
  | .oddKey => algo.oddKey
  | .evenIv => algo.evenIv
  | .oddIv => algo.oddIv

def DescAlgo.Has (algo : DescAlgo) (type : CwType) (key : List UInt8) : Prop :=
  type.kind = some algo.kind ∧ type.slot.map algo.keyAt = some (key.take algo.kind.keySize)

instance (algo : DescAlgo) (type : CwType) (key : List UInt8) : Decidable (algo.Has type key) :=
  inferInstanceAs (Decidable (_ ∧ _))

@[simp] theorem DescAlgo.set_kind (algo : DescAlgo) (param : Nat) (key : List UInt8) :
    (algo.set param key).kind = algo.kind := by
  unfold DescAlgo.set
  split <;> split_ifs <;> simp_all

theorem Ca.made_has {type : CwType} {new algo : DescAlgo} {param : Nat}
    (makes : made type = some (new, param)) (kind : type.kind = some algo.kind) (key : List UInt8) :
    (algo.set param key).Has type key := by
  refine ⟨kind.trans (by rw [DescAlgo.set_kind]), ?_⟩
  rw [DescAlgo.set_kind]
  unfold DescAlgo.set
  cases type <;> cases makes <;> cases at_ : algo.kind <;>
    simp_all [CwType.kind, CwType.slot, DescAlgo.keyAt, AlgoKind.keySize] <;> rfl

theorem Ca.made_kind {type : CwType} {new : DescAlgo} {param : Nat}
    (makes : made type = some (new, param)) (named : type.kind.isSome) :
    type.kind = some new.kind := by
  cases type <;> cases makes <;> first | rfl | cases named

structure Carries (ch : DescChannel) (chan : SwChannel) : Prop where
  live : ch.state ≠ .free
  pid : chan.pid.toNat = ch.pid
  enable : chan.enable = true ↔ ch.state = .go
  key : ∀ type key, ch.last = some (type, key) → ∃ algo, chan.algo = some algo ∧ algo.Has type key

namespace Ca

variable {D : Type} {ca : Ca D} {c : ChanIndex D} {chan : SwChannel}

structure Coherent (ca : Ca D) : Prop where
  used : ca.misused = false
  free : ∀ c, ca.mode c.1 = swDscMode →
    ((ca.channels c).state = .free ↔ ¬∃ chan ∈ ca.desc.chanList, (ca.channels c).chan = .obj chan.addr)
  listed : ∀ chan ∈ ca.desc.chanList,
    ∃ c, ((ca.channels c).chan = .obj chan.addr ∧ Carries (ca.channels c) chan) ∧
      ∀ other, (ca.channels other).state ≠ .free → (ca.channels other).chan = .obj chan.addr → other = c

def Bare (ca : Ca D) (c : ChanIndex D) : Prop := ∀ addr, (ca.channels c).chan ≠ .obj addr

structure Tied (ch : DescChannel) (chan : SwChannel) : Prop extends Carries ch chan where
  algo : chan.algo.isSome = ch.algo
  small : ch.pid < 0x1fff

structure Sound (ca : Ca D) : Prop where
  used : ca.misused = false
  addrs : ca.desc.chanList.Pairwise fun a b => a.addr ≠ b.addr
  fresh : ∀ chan ∈ ca.desc.chanList, chan.addr < ca.desc.next
  owns : ∀ c addr, (ca.channels c).chan = .obj addr →
    ∃ chan ∈ ca.desc.chanList, chan.addr = addr ∧ Tied (ca.channels c) chan
  owned : ∀ chan ∈ ca.desc.chanList, ∃ c, (ca.channels c).chan = .obj chan.addr
  apart : ∀ c d addr, (ca.channels c).chan = .obj addr → (ca.channels d).chan = .obj addr → c = d
  bare : ∀ c, ca.Bare c → (ca.channels c).algo = false
  started : ∀ c, ca.mode c.1 = swDscMode → (ca.channels c).state ≠ .free → ¬ca.Bare c

theorem not_bare : ¬ca.Bare c ↔ ∃ addr, (ca.channels c).chan = .obj addr := by
  simp [Bare]

theorem Sound.owner (sound : ca.Sound) (owning : ¬ca.Bare c) :
    ∃ chan ∈ ca.desc.chanList, (ca.channels c).chan = .obj chan.addr ∧ Tied (ca.channels c) chan := by
  obtain ⟨addr, points⟩ := not_bare.mp owning
  obtain ⟨chan, listed, rfl, tied⟩ := sound.owns c addr points
  exact ⟨chan, listed, points, tied⟩

theorem Sound.coherent (sound : ca.Sound) : ca.Coherent where
  used := sound.used
  free c software := by
    constructor
    · rintro free ⟨chan, listed, points⟩
      obtain ⟨_, _, _, tied⟩ := sound.owns c _ points
      exact tied.live free
    · intro none_
      by_contra live
      obtain ⟨chan, listed, points, _⟩ := sound.owner (sound.started c software live)
      exact none_ ⟨chan, listed, points⟩
  listed chan listed := by
    obtain ⟨c, points⟩ := sound.owned chan listed
    obtain ⟨other, there, same, tied⟩ := sound.owns c _ points
    have found := Lib.find?_key SwChannel.addr sound.addrs there
    rw [same, Lib.find?_key SwChannel.addr sound.addrs listed] at found
    cases found
    exact ⟨c, ⟨points, tied.toCarries⟩, fun d _ also => sound.apart d c _ also points⟩

theorem init_sound (memory : ChanIndex D → Bool) : (init memory).Sound where
  used := rfl
  addrs := List.Pairwise.nil
  fresh := nofun
  owns c addr points := by
    unfold init at points
    dsimp only at points
    split at points <;> cases points
  owned := nofun
  apart c d addr points := by
    unfold init at points
    dsimp only at points
    split at points <;> cases points
  bare _ _ := rfl
  started c _ live := absurd rfl live

section

variable [DecidableEq D] {next : DescChannel} {new : SwChannel}

@[simp] theorem setChannel_channels (d : ChanIndex D) :
    (ca.setChannel c next).channels d = if d = c then next else ca.channels d :=
  Function.update_apply _ _ _ _

@[simp] theorem setChannel_twice (first : DescChannel) :
    (ca.setChannel c first).setChannel c next = ca.setChannel c next := by
  unfold setChannel
  simp

@[simp] theorem setChannel_desc : (ca.setChannel c next).desc = ca.desc := rfl

@[simp] theorem setChannel_mode : (ca.setChannel c next).mode = ca.mode := rfl

omit [DecidableEq D] in
theorem Sound.addr_inj (sound : ca.Sound) {a b : SwChannel} (first : a ∈ ca.desc.chanList)
    (second : b ∈ ca.desc.chanList) (same : a.addr = b.addr) : a = b := by
  have found := Lib.find?_key SwChannel.addr sound.addrs first
  rw [same, Lib.find?_key SwChannel.addr sound.addrs second] at found
  exact (Option.some.inj found).symm

theorem Sound.only (sound : ca.Sound) {addr : Nat} (points : (ca.channels c).chan = .obj addr)
    (d : ChanIndex D) (aims : ((ca.setChannel c next).channels d).chan = .obj addr) : d = c := by
  rw [setChannel_channels] at aims
  split_ifs at aims with here
  · exact here
  · exact sound.apart d c addr aims points

theorem Sound.rest (sound : ca.Sound)
    (fits : (∃ addr, next.chan = .obj addr) ∨ next.algo = false ∧
      (ca.mode c.1 = swDscMode → next.state = .free))
    (d : ChanIndex D) (bare : (ca.setChannel c next).Bare d) :
    ((ca.setChannel c next).channels d).algo = false ∧
      (ca.mode d.1 = swDscMode → ((ca.setChannel c next).channels d).state = .free) := by
  unfold Bare at bare
  rw [setChannel_channels] at bare ⊢
  split_ifs at bare ⊢ with here
  · subst here
    exact fits.resolve_left fun ⟨addr, aims⟩ => bare addr aims
  · exact ⟨sound.bare d bare, fun software => by_contra fun live => sound.started d software live bare⟩

theorem Sound.plain (sound : ca.Sound) (bare : ca.Bare c) (none_ : ∀ addr, next.chan ≠ .obj addr)
    (algo : next.algo = false) (idle : ca.mode c.1 = swDscMode → next.state = .free) :
    (ca.setChannel c next).Sound where
  used := sound.used
  addrs := sound.addrs
  fresh := sound.fresh
  owns d addr points := by
    rw [setChannel_channels] at points ⊢
    split_ifs at points ⊢ with here
    · exact absurd points (none_ addr)
    · exact sound.owns d addr points
  owned chan listed := by
    obtain ⟨d, points⟩ := sound.owned chan listed
    refine ⟨d, ?_⟩
    have other : d ≠ c := fun here => bare chan.addr (here ▸ points)
    simpa [other] using points
  apart d e addr points also := by
    rw [setChannel_channels] at points also
    split_ifs at points also with here there
    · exact here.trans there.symm
    · exact absurd points (none_ addr)
    · exact absurd also (none_ addr)
    · exact sound.apart d e addr points also
  bare d plain := (sound.rest (.inr ⟨algo, idle⟩) d plain).1
  started d software live plain := live ((sound.rest (.inr ⟨algo, idle⟩) d plain).2 software)

theorem put_addrs {desc : Descrambler} (addrs : desc.chanList.Pairwise fun a b => a.addr ≠ b.addr) :
    (desc.put new).chanList.Pairwise fun a b => a.addr ≠ b.addr := by
  refine List.pairwise_map.mpr (addrs.imp fun {a b} apart => ?_)
  have keeps : ∀ old : SwChannel, (if old.addr = new.addr then new else old).addr = old.addr := by
    intro old
    split_ifs with here
    · exact here.symm
    · rfl
  rw [keeps, keeps]
  exact apart

theorem Sound.put (sound : ca.Sound) (listed : chan ∈ ca.desc.chanList)
    (points : (ca.channels c).chan = .obj chan.addr) (same : new.addr = chan.addr)
    (still : next.chan = .obj chan.addr) (tied : Tied next new) :
    ({ ca with desc := ca.desc.put new }.setChannel c next).Sound where
  used := sound.used
  addrs := put_addrs sound.addrs
  fresh other mem := by
    obtain ⟨old, there, rfl⟩ := List.mem_map.mp mem
    split_ifs with here
    · exact here ▸ sound.fresh old there
    · exact sound.fresh old there
  owns d addr aims := by
    rw [setChannel_channels] at aims ⊢
    split_ifs at aims ⊢ with here
    · obtain rfl : chan.addr = addr := ChanPtr.obj.inj (still.symm.trans aims)
      exact ⟨new, List.mem_map.mpr ⟨chan, listed, if_pos same.symm⟩, same, tied⟩
    · obtain ⟨old, there, rfl, kept⟩ := sound.owns d addr aims
      refine ⟨old, List.mem_map.mpr ⟨old, there, if_neg fun clash => here ?_⟩, rfl, kept⟩
      exact sound.apart d c chan.addr (by rw [← same, ← clash]; exact aims) points
  owned other mem := by
    obtain ⟨old, there, rfl⟩ := List.mem_map.mp mem
    obtain ⟨d, aims⟩ := sound.owned old there
    by_cases here : d = c
    · subst here
      have own : chan.addr = old.addr := ChanPtr.obj.inj (points.symm.trans aims)
      refine ⟨d, ?_⟩
      rw [setChannel_channels, if_pos rfl, if_pos (own.symm.trans same.symm), same]
      exact still
    · refine ⟨d, ?_⟩
      rw [setChannel_channels, if_neg here, if_neg fun clash => here ?_]
      · exact aims
      · exact sound.apart d c chan.addr (by rw [← same, ← clash]; exact aims) points
  apart d e addr aims also := by
    rw [setChannel_channels] at aims also
    split_ifs at aims also with here there there
    · exact here.trans there.symm
    · obtain rfl : chan.addr = addr := ChanPtr.obj.inj (still.symm.trans aims)
      exact absurd (sound.apart e c _ also points) there
    · obtain rfl : chan.addr = addr := ChanPtr.obj.inj (still.symm.trans also)
      exact absurd (sound.apart d c _ aims points) here
    · exact sound.apart d e addr aims also
  bare d plain := (sound.rest (.inl ⟨_, still⟩) d plain).1
  started d software live plain := live ((sound.rest (.inl ⟨_, still⟩) d plain).2 software)

theorem Sound.alloc (sound : ca.Sound) (bare : ca.Bare c) (numbered : new.addr = ca.desc.next)
    (aims : next.chan = .obj ca.desc.next) (tied : Tied next new) :
    ({ ca with desc := { chanList := ca.desc.chanList ++ [new], next := ca.desc.next + 1 } }.setChannel c next).Sound where
  used := sound.used
  addrs := by
    refine List.pairwise_append.mpr ⟨sound.addrs, List.pairwise_singleton _ _,
      fun old there other here => ?_⟩
    rw [List.mem_singleton.mp here, numbered]
    exact Nat.ne_of_lt (sound.fresh old there)
  fresh other mem := by
    rcases List.mem_append.mp mem with there | here
    · exact Nat.lt_succ_of_lt (sound.fresh other there)
    · rw [List.mem_singleton.mp here, numbered]
      exact Nat.lt_succ_self _
  owns d addr points := by
    rw [setChannel_channels] at points ⊢
    split_ifs at points ⊢ with here
    · obtain rfl : ca.desc.next = addr := ChanPtr.obj.inj (aims.symm.trans points)
      exact ⟨new, List.mem_append_right _ (List.mem_singleton_self new), numbered, tied⟩
    · obtain ⟨old, there, same, kept⟩ := sound.owns d addr points
      exact ⟨old, List.mem_append_left _ there, same, kept⟩
  owned other mem := by
    rcases List.mem_append.mp mem with there | here
    · obtain ⟨d, points⟩ := sound.owned other there
      have apart : d ≠ c := fun here => bare other.addr (here ▸ points)
      exact ⟨d, by rw [setChannel_channels, if_neg apart]; exact points⟩
    · rw [List.mem_singleton.mp here, numbered]
      exact ⟨c, by rw [setChannel_channels, if_pos rfl]; exact aims⟩
  apart d e addr points also := by
    have past : ∀ d, (ca.channels d).chan ≠ .obj ca.desc.next := fun d last => by
      obtain ⟨old, there, same, _⟩ := sound.owns d _ last
      exact Nat.ne_of_lt (sound.fresh old there) same
    rw [setChannel_channels] at points also
    split_ifs at points also with here there there
    · exact here.trans there.symm
    · exact absurd (also.trans (points.symm.trans aims)) (past e)
    · exact absurd (points.trans (also.symm.trans aims)) (past d)
    · exact sound.apart d e addr points also
  bare d plain := (sound.rest (.inl ⟨_, aims⟩) d plain).1
  started d software live plain := live ((sound.rest (.inl ⟨_, aims⟩) d plain).2 software)

theorem Sound.release (sound : ca.Sound) {addr : Nat} (points : (ca.channels c).chan = .obj addr) :
    ({ ca with desc := ca.desc.swdmxDescChannelFree addr }.setChannel c { chan := .null }).Sound where
  used := sound.used
  addrs := sound.addrs.filter _
  fresh other mem := sound.fresh other (List.mem_of_mem_filter mem)
  owns d addr' aims := by
    rw [setChannel_channels] at aims ⊢
    split_ifs at aims ⊢ with here
    obtain ⟨old, there, rfl, kept⟩ := sound.owns d addr' aims
    refine ⟨old, List.mem_filter.mpr ⟨there, decide_eq_true fun same => here ?_⟩, rfl, kept⟩
    exact sound.apart d c addr (same ▸ aims) points
  owned other mem := by
    obtain ⟨there, apart⟩ := List.mem_filter.mp mem
    obtain ⟨d, aims⟩ := sound.owned other there
    have elsewhere : d ≠ c := by
      rintro rfl
      exact of_decide_eq_true apart (ChanPtr.obj.inj (aims.symm.trans points))
    exact ⟨d, by rw [setChannel_channels, if_neg elsewhere]; exact aims⟩
  apart d e addr' aims also := by
    rw [setChannel_channels] at aims also
    split_ifs at aims also with here there
    exact sound.apart d e addr' aims also
  bare d plain := (sound.rest (.inr ⟨rfl, fun _ => rfl⟩) d plain).1
  started d software live plain := live ((sound.rest (.inr ⟨rfl, fun _ => rfl⟩) d plain).2 software)

omit [DecidableEq D] in
theorem Sound.put_self (sound : ca.Sound) (listed : chan ∈ ca.desc.chanList) :
    ca.desc.put chan = ca.desc := by
  unfold Descrambler.put
  have same : (ca.desc.chanList.map fun old => if old.addr = chan.addr then chan else old) =
      ca.desc.chanList := by
    refine (List.map_congr_left fun old there => ?_).trans (List.map_id _)
    split_ifs with here
    · exact (sound.addr_inj there listed here).symm
    · rfl
  rw [same]

theorem put_put {desc : Descrambler} {first second : SwChannel} (same : second.addr = first.addr) :
    (desc.put first).put second = desc.put second := by
  unfold Descrambler.put
  simp only [List.map_map]
  congr 1
  refine List.map_congr_left fun old _ => ?_
  by_cases here : old.addr = first.addr
  · simp [here, same]
  · simp [here, same]

theorem free_put {desc : Descrambler} (new : SwChannel) :
    (desc.put new).swdmxDescChannelFree new.addr = desc.swdmxDescChannelFree new.addr := by
  unfold Descrambler.put Descrambler.swdmxDescChannelFree
  congr 1
  dsimp only
  induction desc.chanList with
  | nil => rfl
  | cons old rest ih =>
    by_cases here : old.addr = new.addr
    · simpa [here] using ih
    · simpa [here] using ih

-- An operation on a software channel that has become another one.
omit [DecidableEq D] in
theorem Sound.through_put (sound : ca.Sound) (listed : chan ∈ ca.desc.chanList)
    (before after : SwChannel) {use : SwChannel → Option SwChannel} (same : before.addr = chan.addr)
    (gives : use before = some after) (kept : after.addr = chan.addr) :
    { ca with desc := ca.desc.put before }.through (.obj chan.addr) use =
      { ca with desc := ca.desc.put after } := by
  have found : (ca.desc.put before).at? chan.addr = some before := by
    have there : before ∈ (ca.desc.put before).chanList :=
      List.mem_map.mpr ⟨chan, listed, if_pos same.symm⟩
    rw [← same]
    exact Lib.find?_key SwChannel.addr (put_addrs sound.addrs) there
  unfold through target
  simp only [found, Option.bind_some, gives, put_put (kept.trans same.symm)]

omit [DecidableEq D] in
theorem Sound.through_eq (sound : ca.Sound) (listed : chan ∈ ca.desc.chanList) (new : SwChannel)
    {use : SwChannel → Option SwChannel} (gives : use chan = some new) (kept : new.addr = chan.addr) :
    ca.through (.obj chan.addr) use = { ca with desc := ca.desc.put new } := by
  have put := sound.through_put listed chan new rfl gives kept
  rwa [sound.put_self listed] at put

omit [DecidableEq D] in
@[simp] theorem through_mode (ptr : ChanPtr) (use : SwChannel → Option SwChannel) :
    (ca.through ptr use).mode = ca.mode := by
  unfold through
  split <;> rfl

omit [DecidableEq D] in
@[simp] theorem through_channels (ptr : ChanPtr) (use : SwChannel → Option SwChannel) :
    (ca.through ptr use).channels = ca.channels := by
  unfold through
  split <;> rfl

@[simp] theorem channelFree_mode : (ca.dscChannelFree c).mode = ca.mode := by
  unfold dscChannelFree
  dsimp only
  split_ifs
  · rfl
  · split <;> simp
  · rfl

theorem channelFree_other {d : ChanIndex D} (other : d ≠ c) :
    (ca.dscChannelFree c).channels d = ca.channels d := by
  unfold dscChannelFree
  dsimp only
  split_ifs
  · rfl
  · split <;> simp [other]
  · simp [other]

theorem channelFree_state : ((ca.dscChannelFree c).channels c).state = .free := by
  unfold dscChannelFree
  dsimp only
  split_ifs with free
  · exact free
  · split <;> simp
  · simp

theorem channelFree_hw (hardware : ca.mode c.1 ≠ swDscMode) :
    (ca.dscChannelFree c).desc = ca.desc ∧ ∀ d,
      ((ca.dscChannelFree c).channels d).chan = (ca.channels d).chan := by
  unfold dscChannelFree
  dsimp only
  split_ifs
  · exact ⟨rfl, fun _ => rfl⟩
  · refine ⟨rfl, fun d => ?_⟩
    rw [setChannel_channels]
    split_ifs with here
    · rw [here]
    · rfl

omit [DecidableEq D] in
theorem Sound.bare_of_free (sound : ca.Sound) (free : (ca.channels c).state = .free) : ca.Bare c :=
  fun addr points => by
  obtain ⟨_, _, _, tied⟩ := sound.owns c addr points
  exact tied.live free

theorem Sound.freed (sound : ca.Sound) (fits : ca.mode c.1 = swDscMode ∨ ca.Bare c) :
    (ca.dscChannelFree c).Sound := by
  unfold dscChannelFree
  dsimp only
  split_ifs with free software
  · exact sound
  · obtain ⟨chan, listed, points, _⟩ := sound.owner (sound.started c software free)
    rw [points]
    dsimp only
    rw [sound.through_eq listed chan.disabled rfl rfl]
    have given : (ca.desc.put chan.disabled).swdmxDescChannelFree chan.addr =
        ca.desc.swdmxDescChannelFree chan.addr :=
      free_put chan.disabled
    rw [given]
    exact sound.release points
  · have bare := fits.resolve_left software
    exact sound.plain bare bare (sound.bare c bare) fun software' => absurd software' software

theorem Sound.allocated (sound : ca.Sound) (bare : ca.Bare c) {pid : Nat} (small : pid < 0x1fff) :
    (ca.dscChannelAlloc c pid).Sound := by
  have algo := sound.bare c bare
  unfold dscChannelAlloc
  dsimp only
  split_ifs with software
  · unfold Descrambler.swdmxDescramblerAllocChannel
    dsimp only
    have past : ∀ old ∈ ca.desc.chanList, old.addr ≠ ca.desc.next :=
      fun old there => Nat.ne_of_lt (sound.fresh old there)
    have found : (Descrambler.mk (ca.desc.chanList ++ [{ addr := ca.desc.next }])
        (ca.desc.next + 1)).at? ca.desc.next =
        some { addr := ca.desc.next } := by
      unfold Descrambler.at?
      dsimp only
      rw [List.find?_append, List.find?_eq_none.mpr fun old there => by simpa using past old there]
      simp
    have tuned : pid.toUInt16.toNat = pid := by
      simp
      omega
    have set : SwChannel.setPid { addr := ca.desc.next } pid.toUInt16 =
        { addr := ca.desc.next, pid := pid.toUInt16 } := by
      unfold SwChannel.setPid
      rw [if_pos (UInt16.lt_iff_toNat_lt.mpr (by rw [tuned]; exact small))]
    have put : (Descrambler.mk (ca.desc.chanList ++ [{ addr := ca.desc.next }]) (ca.desc.next + 1)).put
        { addr := ca.desc.next, pid := pid.toUInt16 } =
          { chanList := ca.desc.chanList ++ [{ addr := ca.desc.next, pid := pid.toUInt16 }],
            next := ca.desc.next + 1 } := by
      unfold Descrambler.put
      dsimp only
      have kept : (ca.desc.chanList.map fun old =>
          if old.addr = ca.desc.next then { addr := ca.desc.next, pid := pid.toUInt16 } else old) =
            ca.desc.chanList :=
        (List.map_congr_left fun old there => if_neg (past old there)).trans (List.map_id _)
      rw [List.map_append, kept]
      simp
    unfold through target
    dsimp only
    rw [found, Option.bind_some, set]
    dsimp only
    rw [put]
    exact sound.alloc bare rfl rfl {
      live := nofun
      pid := tuned
      enable := by simp
      key := nofun
      algo := algo.symm
      small }
  · exact sound.plain bare bare algo fun software' => absurd software' software

omit [DecidableEq D] in
theorem Sound.target_eq (sound : ca.Sound) (listed : chan ∈ ca.desc.chanList)
    (points : (ca.channels c).chan = .obj chan.addr) : ca.target (ca.channels c).chan = some chan := by
  rw [points]
  exact Lib.find?_key SwChannel.addr sound.addrs listed

omit [DecidableEq D] in
theorem Sound.bare_iff (sound : ca.Sound) : ca.Bare c ↔ ca.target (ca.channels c).chan = none := by
  constructor
  · intro bare
    cases at_ : (ca.channels c).chan with
    | wild => rfl
    | null => rfl
    | obj addr => exact absurd at_ (bare addr)
  · intro none_ addr points
    obtain ⟨chan, listed, rfl, _⟩ := sound.owns c addr points
    rw [sound.target_eq listed points] at none_
    cases none_

theorem Sound.swSetKey_eq (sound : ca.Sound) (listed : chan ∈ ca.desc.chanList)
    (points : (ca.channels c).chan = .obj chan.addr) (tied : Tied (ca.channels c) chan)
    (new : DescAlgo) (param : Nat) (key : List UInt8) :
    ca.swSetKey c new param key =
      { ca with
        desc := ca.desc.put { chan with algo := some ((chan.algo.getD new).set param key), enable := true } }.setChannel c
        { ca.channels c with algo := true, state := .go } := by
  have stored : (if (ca.channels c).algo then ca else ca.through (.obj chan.addr) fun chan => some (chan.setAlgo new)).through
      (.obj chan.addr) (fun chan => chan.setParam param key) =
        { ca with desc := ca.desc.put { chan with algo := some ((chan.algo.getD new).set param key) } } := by
    rw [← tied.algo]
    cases at_ : chan.algo with
    | none =>
      rw [if_neg (by simp), sound.through_eq listed (chan.setAlgo new) rfl rfl]
      exact sound.through_put listed _ _ rfl rfl rfl
    | some algo =>
      rw [if_pos (by simp)]
      refine sound.through_eq listed _ ?_ rfl
      unfold SwChannel.setParam
      rw [at_]
      rfl
  unfold swSetKey
  dsimp only
  rw [points, stored]
  cases state : (ca.channels c).state with
  | free => exact absurd state tied.live
  | ready =>
    have valid : chan.pid ≤ 0x1fff :=
      UInt16.le_iff_toNat_le.mpr (tied.pid.trans_le (Nat.le_of_lt tied.small))
    simp only [if_true]
    rw [sound.through_put listed { chan with algo := some ((chan.algo.getD new).set param key) }
      { chan with algo := some ((chan.algo.getD new).set param key), enable := true } rfl ?_ rfl]
    unfold SwChannel.enabled
    rw [if_pos ⟨valid, rfl⟩]
  | go =>
    have running : chan.enable = true := tied.enable.mpr state
    simp [← running]

abbrev own (ca : Ca D) (c : ChanIndex D) : Option SwChannel := ca.target (ca.channels c).chan

def KeyFits (ca : Ca D) (c : ChanIndex D) (type : CwType) (key : List UInt8) (taken : Bool) : Prop :=
  (made type).isSome →
    if ca.mode c.1 = swDscMode then
      (ca.channels c).state ≠ .free ∧ type.kind.isSome ∧
        ∀ chan ∈ ca.own c, ∀ algo ∈ chan.algo, type.kind = some algo.kind
    else taken = true → ∀ chan ∈ ca.own c, ∃ algo ∈ chan.algo, algo.Has type key

def CwFits (ca : Ca D) (dev : D) (index : Nat) (type : CwType) (key : List UInt8)
    (taken : Bool) : Prop :=
  ∀ within : index < dscChannelNum, ca.KeyFits (dev, ⟨index, within⟩) type key taken

def Fits (ca : Ca D) : CaOp D → Prop
  | .reset dev => ca.mode dev = swDscMode ∨ ∀ i, ca.own (dev, i) = none
  | .setDescr dev index parity cw taken =>
    ca.CwFits dev index (if parity ≠ 0 then .dvbCsaOdd else .dvbCsaEven) cw taken
  | .setDescrEx dev index type cw taken => ca.CwFits dev index type cw taken
  | .setPid dev pid index =>
    ca.mode dev = swDscMode ∨
      if index = -1 then ∀ i ∈ ca.used dev pid, ca.own (dev, i) = none
      else ∀ i ∈ slot index, ca.own (dev, i) = none ∨
        (ca.channels (dev, i)).state = .ready ∧ (ca.channels (dev, i)).pid = pid
  | .setMode dev mode => mode = swDscMode → ∀ i, (ca.channels (dev, i)).state ≠ .free →
      ca.own (dev, i) ≠ none

instance (ca : Ca D) (c : ChanIndex D) (type : CwType) (key : List UInt8) (taken : Bool) :
    Decidable (ca.KeyFits c type key taken) :=
  inferInstanceAs (Decidable (_ → _))

instance (ca : Ca D) (dev : D) (index : Nat) (type : CwType) (key : List UInt8) (taken : Bool) :
    Decidable (ca.CwFits dev index type key taken) :=
  inferInstanceAs (Decidable (∀ _ : _, _))

instance (ca : Ca D) : (op : CaOp D) → Decidable (ca.Fits op)
  | .reset dev => inferInstanceAs (Decidable (ca.mode dev = swDscMode ∨ ∀ i, ca.own (dev, i) = none))
  | .setDescr dev index parity cw taken =>
    inferInstanceAs (Decidable (ca.CwFits dev index (if parity ≠ 0 then .dvbCsaOdd
      else .dvbCsaEven) cw taken))
  | .setDescrEx dev index type cw taken =>
      inferInstanceAs (Decidable (ca.CwFits dev index type cw taken))
  | .setPid dev pid index =>
    inferInstanceAs (Decidable (ca.mode dev = swDscMode ∨
      if index = -1 then ∀ i ∈ ca.used dev pid, ca.own (dev, i) = none
      else ∀ i ∈ slot index, ca.own (dev, i) = none ∨
        (ca.channels (dev, i)).state = .ready ∧ (ca.channels (dev, i)).pid = pid))
  | .setMode dev mode =>
    inferInstanceAs (Decidable (mode = swDscMode → ∀ i, (ca.channels (dev, i)).state ≠ .free →
      ca.own (dev, i) ≠ none))

theorem Sound.keyed (sound : ca.Sound) {type : CwType} {key : List UInt8} {taken : Bool}
    (fits : ca.KeyFits c type key taken) : (ca.dscSetKey c type key taken).Sound := by
  unfold dscSetKey
  cases makes : made type with
  | none => exact sound
  | some pair =>
    obtain ⟨new, param⟩ := pair
    have fits := fits (by rw [makes]; rfl)
    dsimp only
    split_ifs at fits ⊢ with software takes
    · obtain ⟨live, named, same⟩ := fits
      obtain ⟨chan, listed, points, tied⟩ := sound.owner (sound.started c software live)
      have unused : { ca with misused := ca.misused || decide ((ca.channels c).state = DscState.free) } = ca := by
        simp [live]
      have kind : type.kind = some (chan.algo.getD new).kind := by
        cases at_ : chan.algo with
        | none => exact made_kind makes named
        | some algo => exact same chan (sound.target_eq listed points) algo at_
      rw [unused, sound.swSetKey_eq listed points tied, setChannel_channels, if_pos rfl,
        setChannel_twice]
      refine sound.put listed points rfl points ?_
      exact {
        live := nofun
        pid := tied.pid
        enable := by simp
        key := fun type' key' last => by
          cases last
          exact ⟨_, rfl, made_has makes kind key⟩
        algo := rfl
        small := tied.small }
    · by_cases bare : ca.Bare c
      · exact sound.plain bare bare (sound.bare c bare) fun software' => absurd software' software
      · obtain ⟨chan, listed, points, tied⟩ := sound.owner bare
        obtain ⟨algo, at_, has⟩ := fits takes chan (sound.target_eq listed points)
        rw [show ca = { ca with desc := ca.desc.put chan } by rw [sound.put_self listed]]
        exact sound.put listed points rfl points { tied with
          key := fun type' key' last => by
            cases last
            exact ⟨algo, at_, has⟩ }
    · exact sound

theorem Sound.freed_all (sound : ca.Sound) (dev : D) (list : List (Fin dscChannelNum))
    (fits : ca.mode dev = swDscMode ∨ ∀ i ∈ list, ca.Bare (dev, i)) :
    (list.foldl (fun ca i => ca.dscChannelFree (dev, i)) ca).Sound := by
  induction list generalizing ca with
  | nil => exact sound
  | cons i rest ih =>
    refine ih (sound.freed (fits.imp_right fun bare => bare i List.mem_cons_self)) ?_
    by_cases software : ca.mode dev = swDscMode
    · exact Or.inl (by rw [channelFree_mode]; exact software)
    · refine Or.inr fun j there addr => ?_
      rw [(channelFree_hw software).2]
      exact fits.resolve_left software j (List.mem_cons_of_mem i there) addr

theorem Sound.bare_freed (sound : ca.Sound) (fits : ca.mode c.1 = swDscMode ∨ ca.Bare c) :
    (ca.dscChannelFree c).Bare c :=
  (sound.freed fits).bare_of_free channelFree_state

theorem allocated_again (hardware : ca.mode c.1 ≠ swDscMode) (pid : Nat) :
    (ca.dscChannelFree c).dscChannelAlloc c pid =
      ca.setChannel c { ca.channels c with state := .ready, pid, last := none } := by
  unfold dscChannelAlloc
  dsimp only
  rw [channelFree_mode, if_neg hardware]
  unfold dscChannelFree
  dsimp only
  split_ifs
  · rfl
  · rw [setChannel_channels, if_pos rfl, setChannel_twice]

theorem Sound.setPid (sound : ca.Sound) {dev : D} {pid : Nat} {index : Int}
    (fits : ca.Fits (.setPid dev pid index)) :
    (ca.dscSetPid dev pid index).1.Sound := by
  unfold dscSetPid
  by_cases any : index = -1
  · rw [if_pos any]
    cases at_ : ca.used dev pid with
    | none => exact sound
    | some i =>
      refine sound.freed (fits.imp_right fun given => ?_)
      rw [if_pos any] at given
      exact sound.bare_iff.mpr (given i at_)
  · rw [if_neg any]
    cases at_ : slot index with
    | none => exact sound
    | some i =>
      have given : ca.mode dev = swDscMode ∨ ca.Bare (dev, i) ∨
          (ca.channels (dev, i)).state = .ready ∧ (ca.channels (dev, i)).pid = pid := by
        refine fits.imp_right fun given => ?_
        rw [if_neg any] at given
        exact (given i at_).imp_left sound.bare_iff.mpr
      by_cases plain : ca.mode dev = swDscMode ∨ ca.Bare (dev, i)
      · have freed := sound.freed (c := (dev, i)) plain
        dsimp only
        split_ifs with small
        · exact freed.allocated (sound.bare_freed plain) small
        · exact freed
      · rw [not_or] at plain
        obtain ⟨ready, rfl⟩ := (given.resolve_left plain.1).resolve_left plain.2
        obtain ⟨chan, listed, points, tied⟩ := sound.owner plain.2
        dsimp only
        rw [if_pos tied.small, allocated_again plain.1]
        rw [show ca = { ca with desc := ca.desc.put chan } by rw [sound.put_self listed]]
        exact sound.put listed points rfl points { tied with
          live := nofun
          enable := by rw [← ready]; exact tied.enable
          key := nofun }

theorem Sound.setMode (sound : ca.Sound) {dev : D} {mode : Int} (fits : ca.Fits (.setMode dev mode)) :
    (ca.dscSetMode dev mode).Sound := by
  unfold dscSetMode
  split_ifs
  · exact { sound with
      started := fun c software live => by
        dsimp only at software
        rw [Function.update_apply] at software
        split_ifs at software with here
        · subst here
          exact fun bare => fits software c.2 live (sound.bare_iff.mp bare)
        · exact sound.started c software live }
  · exact sound

theorem Sound.cw (sound : ca.Sound) {dev : D} {index : Nat} {type : CwType} {key : List UInt8}
    {taken : Bool} (fits : ca.CwFits dev index type key taken) :
    (ca.dscSetCw dev index type key taken).1.Sound := by
  unfold dscSetCw
  split_ifs with within
  · exact sound.keyed (fits within)
  · exact sound

theorem Sound.step (sound : ca.Sound) {op : CaOp D} (fits : ca.Fits op) : (ca.step op).Sound := by
  cases op with
  | reset dev =>
    exact sound.freed_all dev _ (fits.imp_right fun none_ i _ => sound.bare_iff.mpr (none_ i))
  | setDescr => exact sound.cw fits
  | setDescrEx => exact sound.cw fits
  | setPid => exact sound.setPid fits
  | setMode => exact sound.setMode fits

omit [DecidableEq D] in
theorem Coherent.carries (coherent : ca.Coherent) (listed : chan ∈ ca.desc.chanList)
    (only : ∀ d, (ca.channels d).chan = .obj chan.addr → d = c) : Carries (ca.channels c) chan := by
  obtain ⟨d, ⟨points, carries⟩, _⟩ := coherent.listed chan listed
  exact only d points ▸ carries

omit [DecidableEq D] in
theorem Sound.bare_of_coherent {post : Ca D} (sound : ca.Sound) (coherent : post.Coherent)
    (desc : post.desc = ca.desc) (chans : ∀ d, (post.channels d).chan = (ca.channels d).chan)
    (free : (post.channels c).state = .free) :
    ca.own c = none := by
  rw [← sound.bare_iff]
  by_contra owning
  obtain ⟨chan, listed, points, _⟩ := sound.owner owning
  have carries := coherent.carries (c := c) (desc ▸ listed) fun d aims =>
    sound.apart d c _ ((chans d).symm.trans aims) points
  exact carries.live free

theorem freed_all_hw (dev : D) (hardware : ca.mode dev ≠ swDscMode) (list : List (Fin dscChannelNum)) :
    (list.foldl (fun ca i => ca.dscChannelFree (dev, i)) ca).desc = ca.desc ∧
      ∀ d, ((list.foldl (fun ca i => ca.dscChannelFree (dev, i)) ca).channels d).chan =
        (ca.channels d).chan ∧
        ((ca.channels d).state = .free ∨ d.1 = dev ∧ d.2 ∈ list →
          ((list.foldl (fun ca i => ca.dscChannelFree (dev, i)) ca).channels d).state = .free) := by
  induction list generalizing ca with
  | nil => exact ⟨rfl,
      fun d => ⟨rfl, fun free => free.resolve_right fun there => List.not_mem_nil there.2⟩⟩
  | cons i rest ih =>
    obtain ⟨desc, chans⟩ := channelFree_hw (c := (dev, i)) hardware
    have still : (ca.dscChannelFree (dev, i)).mode dev ≠ swDscMode := by
      rw [channelFree_mode]
      exact hardware
    obtain ⟨same, later⟩ := ih still
    refine ⟨same.trans desc, fun d => ⟨(later d).1.trans (chans d), fun free => (later d).2 ?_⟩⟩
    by_cases here : d = (dev, i)
    · exact Or.inl (here ▸ channelFree_state)
    · rw [channelFree_other here]
      refine free.imp_right fun ⟨own, there⟩ =>
        ⟨own, (List.mem_cons.mp there).resolve_left fun same => here ?_⟩
      exact Prod.ext own same

theorem Sound.reset_needed (sound : ca.Sound) {dev : D} (coherent : (ca.dscReset dev).Coherent) :
    ca.Fits (.reset dev) := by
  by_cases software : ca.mode dev = swDscMode
  · exact Or.inl software
  · unfold dscReset at coherent
    have all := List.mem_finRange (n := dscChannelNum)
    generalize List.finRange dscChannelNum = list at coherent all
    obtain ⟨desc, later⟩ := freed_all_hw dev software list
    refine Or.inr fun i => sound.bare_of_coherent coherent desc (fun d => (later d).1) ?_
    exact (later (dev, i)).2 (Or.inr ⟨rfl, all i⟩)

theorem Sound.setPid_needed (sound : ca.Sound) {dev : D} {pid : Nat} {index : Int}
    (coherent : (ca.dscSetPid dev pid index).1.Coherent) : ca.Fits (.setPid dev pid index) := by
  by_cases software : ca.mode dev = swDscMode
  · exact Or.inl software
  · have gone : ∀ i, (ca.dscChannelFree (dev, i)).Coherent → ca.own (dev, i) = none :=
      fun i coherent => by
      obtain ⟨desc, chans⟩ := channelFree_hw (c := (dev, i)) software
      exact sound.bare_of_coherent coherent desc chans channelFree_state
    refine Or.inr ?_
    unfold dscSetPid at coherent
    by_cases any : index = -1
    · rw [if_pos any] at coherent ⊢
      intro i found
      rw [Option.mem_def.mp found] at coherent
      exact gone i coherent
    · rw [if_neg any] at coherent ⊢
      intro i found
      rw [Option.mem_def.mp found] at coherent
      dsimp only at coherent
      split_ifs at coherent with small
      · by_contra! both
        obtain ⟨owning, other⟩ := both
        rw [allocated_again software] at coherent
        obtain ⟨chan, listed, points, tied⟩ := sound.owner fun bare => owning (sound.bare_iff.mp bare)
        have carries := coherent.carries (c := (dev, i)) listed (sound.only points)
        rw [setChannel_channels, if_pos rfl] at carries
        refine other ?_ (tied.pid.symm.trans carries.pid)
        cases state : (ca.channels (dev, i)).state with
        | free => exact absurd state tied.live
        | ready => rfl
        | go => cases carries.enable.mp (tied.enable.mpr state)
      · exact Or.inl (gone i coherent)

theorem Sound.setMode_needed (sound : ca.Sound) {dev : D} {mode : Int}
    (coherent : (ca.dscSetMode dev mode).Coherent) :
    ca.Fits (.setMode dev mode) := by
  intro software i live none_
  have same : (ca.dscSetMode dev mode).channels = ca.channels ∧ (ca.dscSetMode dev mode).mode dev = swDscMode ∧
      (ca.dscSetMode dev mode).desc = ca.desc := by
    unfold dscSetMode
    split_ifs with changes
    · exact ⟨rfl, by simp [software], rfl⟩
    · exact ⟨rfl, (not_not.mp changes).trans software, rfl⟩
  obtain ⟨channels, now, desc⟩ := same
  refine live ?_
  rw [← channels]
  refine (coherent.free (dev, i) now).mpr fun ⟨chan, _, points⟩ => ?_
  rw [channels] at points
  exact sound.bare_iff.mpr none_ _ points

omit [DecidableEq D] in
theorem through_misused (misused : ca.misused = true) (ptr : ChanPtr) (use : SwChannel → Option SwChannel) :
    (ca.through ptr use).misused = true := by
  unfold through
  split
  · exact misused
  · rfl

theorem swSetKey_misused (misused : ca.misused = true) (new : DescAlgo) (param : Nat) (key : List UInt8) :
    (ca.swSetKey c new param key).misused = true := by
  have started : (if (ca.channels c).algo then ca else
      ca.through (ca.channels c).chan fun chan => some (chan.setAlgo new)).misused = true := by
    split_ifs
    · exact misused
    · exact through_misused misused _ _
  have stored := through_misused started (ca.channels c).chan fun chan => chan.setParam param key
  unfold swSetKey setChannel
  dsimp only
  by_cases ready : (ca.channels c).state = .ready
  · rw [if_pos ready]
    exact through_misused stored _ _
  · rw [if_neg ready]
    exact stored

theorem Sound.keyed_needed (sound : ca.Sound) {type : CwType} {key : List UInt8} {taken : Bool}
    (coherent : (ca.dscSetKey c type key taken).Coherent) : ca.KeyFits c type key taken := by
  intro known
  unfold dscSetKey at coherent
  obtain ⟨⟨new, param⟩, makes⟩ := Option.isSome_iff_exists.mp known
  rw [makes] at coherent
  dsimp only at coherent
  split_ifs at coherent ⊢ with software takes
  · have live : (ca.channels c).state ≠ .free := fun free => by
      have marked : ({ ca with misused := ca.misused || decide ((ca.channels c).state = DscState.free) } : Ca D).misused =
          true := by simp [free]
      exact Bool.false_ne_true (coherent.used.symm.trans (swSetKey_misused marked new param key))
    have unused : { ca with misused := ca.misused || decide ((ca.channels c).state = DscState.free) } = ca := by
      simp [live]
    obtain ⟨chan, listed, points, tied⟩ := sound.owner (sound.started c software live)
    rw [unused, sound.swSetKey_eq listed points tied, setChannel_channels, if_pos rfl, setChannel_twice] at coherent
    have there : { chan with algo := some ((chan.algo.getD new).set param key), enable := true } ∈
        (ca.desc.put { chan with algo := some ((chan.algo.getD new).set param key), enable := true }).chanList :=
      List.mem_map.mpr ⟨chan, listed, if_pos rfl⟩
    have carries := coherent.carries (c := c) there (sound.only points)
    rw [setChannel_channels, if_pos rfl] at carries
    obtain ⟨algo, at_, kind, _⟩ := carries.key type key rfl
    cases at_
    rw [DescAlgo.set_kind] at kind
    refine ⟨live, by rw [kind]; rfl, fun other found algo at_ => ?_⟩
    cases (sound.target_eq listed points).symm.trans found
    rw [kind, Option.mem_def.mp at_]
    rfl
  · intro _ other found
    by_cases bare : ca.Bare c
    · cases (sound.bare_iff.mp bare).symm.trans found
    · obtain ⟨chan, listed, points, _⟩ := sound.owner bare
      cases (sound.target_eq listed points).symm.trans found
      have carries := coherent.carries (c := c) listed (sound.only points)
      rw [setChannel_channels, if_pos rfl] at carries
      exact carries.key type key rfl
  · intro takes'
    exact absurd takes' takes

theorem Sound.cw_needed (sound : ca.Sound) {dev : D} {index : Nat} {type : CwType}
    {key : List UInt8} {taken : Bool} (coherent : (ca.dscSetCw dev index type key taken).1.Coherent)
    : ca.CwFits dev index type key taken := by
  intro within
  unfold dscSetCw at coherent
  rw [dif_pos within] at coherent
  exact sound.keyed_needed coherent

theorem Sound.needed (sound : ca.Sound) {op : CaOp D} (coherent : (ca.step op).Coherent) :
    ca.Fits op := by
  cases op with
  | reset => exact sound.reset_needed coherent
  | setDescr => exact sound.cw_needed coherent
  | setDescrEx => exact sound.cw_needed coherent
  | setPid => exact sound.setPid_needed coherent
  | setMode => exact sound.setMode_needed coherent

theorem unfit (memory : ChanIndex D → Bool) (ops : List (CaOp D)) (op : CaOp D)
    (fits : Lib.Along step Fits (init memory) ops) (wrong : ¬(Lib.run step (init memory) ops).Fits op) :
    ¬(Lib.run step (init memory) (ops ++ [op])).Coherent := fun coherent => by
  rw [Lib.run_append] at coherent
  exact wrong ((Lib.run_invariant step Fits Sound (fun _ _ sound => sound.step) _
    (init_sound memory) ops fits).needed coherent)

theorem channels_coherent (memory : ChanIndex D → Bool) (ops : List (CaOp D)) :
    Lib.Along step Fits (init memory) ops ↔ ∀ first, first <+: ops →
      (Lib.run step (init memory) first).Coherent :=
  Lib.along_iff_always step Fits Sound Coherent (fun _ => Sound.coherent) (fun _ _ sound => sound.step)
    (fun _ _ sound => sound.needed) (init memory) (init_sound memory) ops

theorem channels_coherent_aes :
    (Lib.run step (init fun _ : ChanIndex Unit => true)
      [.setMode () swDscMode, .setPid () 0x100 3, .setDescrEx () 3 .aesEven (List.replicate 16 1) true,
        .setDescrEx () 3 .aesOdd (List.replicate 16 2) true,
          .setDescrEx () 3 .aesOddIv (List.replicate 16 3) true,
        .setPid () 0x101 4, .setPid () 0x100 (-1)]).Coherent :=
  (channels_coherent _ _).mp (by decide +kernel) _ (List.prefix_refl _)

theorem channels_diverge :
    ¬(Lib.run step (init fun _ : ChanIndex Unit => true)
        [.setMode () swDscMode, .setDescr () 0 0 (List.replicate 8 1) true]).Coherent ∧
      ¬(Lib.run step (init fun _ : ChanIndex Unit => true)
        [.setMode () swDscMode, .setPid () 0x100 0, .setMode () hwDscMode, .reset ()]).Coherent ∧
      ¬(Lib.run step (init fun _ : ChanIndex Unit => true)
        [.setMode () swDscMode, .setPid () 0x100 0,
          .setDescrEx () 0 .desEven (List.replicate 16 1) true]).Coherent :=
  ⟨unfit _ [.setMode () swDscMode] _ (by decide +kernel) (by decide +kernel),
    unfit _ [.setMode () swDscMode, .setPid () 0x100 0,
      .setMode () hwDscMode] _ (by decide +kernel) (by decide +kernel),
    unfit _ [.setMode () swDscMode, .setPid () 0x100 0] _ (by decide +kernel) (by decide +kernel)⟩

end

end Ca

end UnionpiTiger.Demux
