import UnionpiTiger.Demux.Received

set_option autoImplicit false

namespace UnionpiTiger.Demux

open Lib

variable {D : Type} {dmx : SwDemux D}

structure Listening (dmx : SwDemux D) (f : PidFilter) (addr : Nat) (filter : Filter D) : Prop where
  ready : dmx.Ready
  mem : f ∈ dmx.pidFilterList
  found : dmx.filters addr = some filter
  kind : filter.kind = .sec
  running : filter.state = .run
  pid : filter.params.pid = f.pid

namespace Listening

variable {f : PidFilter} {addr : Nat} {filter : Filter D} {pkt : TsPacket}

theorem linked (listening : Listening dmx f addr filter) : addr ∈ f.filterList .sec :=
  (listening.ready.tabled.linked f listening.mem .sec addr).mpr
    ⟨filter, listening.found, listening.kind, listening.running, listening.pid⟩

theorem listens (listening : Listening dmx f addr filter) : (f.filterList .sec).isEmpty = false := by
  rw [Bool.eq_false_iff, ne_eq, List.isEmpty_iff]
  exact List.ne_nil_of_mem listening.linked

theorem otherPid (listening : Listening dmx f addr filter) (apart : pkt.pid ≠ f.pid) :
    ∃ next out, swdmxDemuxTsPacketCb dmx pkt = some (next, out) ∧ Listening next f addr filter ∧
      next.filters = dmx.filters ∧ out.filterMap (Delivery.secOf addr) = [] := by
  have ready := listening.ready
  unfold swdmxDemuxTsPacketCb
  cases present : dmx.pidFilterList.find? fun g => pkt.pid == g.pid with
  | none => exact ⟨dmx, [], rfl, listening, rfl, rfl⟩
  | some g =>
    have gMem := List.mem_of_find?_eq_some present
    have gPid : pkt.pid = g.pid := by simpa using List.find?_some present
    by_cases idle : (g.filterList .sec).isEmpty = true ∨ pkt.payloadBytes = none ∨ pkt.scramble ≠ 0
    · exact ⟨dmx, _, pidFilterData_idle idle, listening, rfl, packetCbs_secOf g pkt addr⟩
    · push Not at idle
      obtain ⟨others, carries, clear⟩ := idle
      obtain ⟨payload, carries⟩ := Option.ne_none_iff_exists'.mp carries
      obtain ⟨_, t, completed, next, -, -, -, done, nextReady, filters, list⟩ :=
        pidFilterData_payload ready gMem (Bool.eq_false_iff.mpr others) carries clear
      have moved : f.addr ≠ g.addr := fun same => by
        rw [ready.tabled.same_of_addr listening.mem gMem same] at apart
        exact apart gPid
      have stays : f ∈ next.pidFilterList := by
        rw [list]
        exact List.mem_map.mpr ⟨f, listening.mem, if_neg moved⟩
      have absent : ∀ entry ∈ dmx.filtersOf g .sec, entry.1 ≠ addr := by
        rintro ⟨place, other⟩ mem rfl
        obtain ⟨at_, inList, same⟩ := List.mem_filterMap.mp mem
        obtain ⟨_, -, same⟩ := Option.map_eq_some_iff.mp same
        cases same
        obtain ⟨stored, there, -, -, pid⟩ := (ready.tabled.linked g gMem .sec place).mp inList
        rw [listening.found] at there
        cases there
        exact apart (gPid.trans (pid.symm.trans listening.pid))
      refine ⟨next, _, done, { listening with
        ready := nextReady, mem := stays, found := filters ▸ listening.found }, filters, ?_⟩
      rw [List.filterMap_append, packetCbs_secOf, List.nil_append, List.filterMap_flatMap]
      exact List.flatMap_eq_nil_iff.mpr fun c _ => sectionCbs_secOf_other c false _ absent

theorem find_own (listening : Listening dmx f addr filter) (own : pkt.pid = f.pid) :
    dmx.pidFilterList.find? (fun g => pkt.pid == g.pid) = some f := by
  cases present : dmx.pidFilterList.find? fun g => pkt.pid == g.pid with
  | none =>
    have apart := List.find?_eq_none.mp present f listening.mem
    simp [own] at apart
  | some g =>
    have gPid : pkt.pid = g.pid := by simpa using List.find?_some present
    rw [listening.ready.tabled.same_of_pid (List.mem_of_find?_eq_some present) listening.mem
      (gPid.symm.trans own)]

theorem ownPayload (listening : Listening dmx f addr filter) (own : pkt.pid = f.pid)
    {payload : List UInt8} (carries : pkt.payloadBytes = some payload) (clear : pkt.scramble = 0) :
    ∃ s t completed next, f.Stands s ∧ s.Safe ∧
      secPayload s pkt.payloadStart payload = some (t, completed) ∧
      swdmxDemuxTsPacketCb dmx pkt = some (next, packetCbs dmx f pkt ++
        completed.flatMap fun c => sectionCbs c false (dmx.filtersOf f .sec)) ∧
      Listening next { f with secData := some t.sec, secRecv := t.recv } addr filter ∧
      next.filters = dmx.filters := by
  obtain ⟨s, t, completed, next, stands, safe, done, delivered, ready, filters, list⟩ :=
    pidFilterData_payload listening.ready listening.mem listening.listens carries clear
  refine ⟨s, t, completed, next, stands, safe, done, ?_, { listening with
    ready, mem := ?_, found := filters ▸ listening.found }, filters⟩
  · unfold swdmxDemuxTsPacketCb
    rw [listening.find_own own]
    exact delivered
  · rw [list]
    exact List.mem_map.mpr ⟨f, listening.mem, if_pos rfl⟩

end Listening

def TsPacket.payloadOn (pid : UInt16) (pkt : TsPacket) : Option (Bool × List UInt8) :=
  if pkt.pid = pid then pkt.payloadBytes.map fun payload => (pkt.payloadStart, payload) else none

def payloadsOf (pid : UInt16) (pkts : List TsPacket) : List (Bool × List UInt8) :=
  pkts.filterMap (TsPacket.payloadOn pid)

theorem stands_some (f : PidFilter) (safe : f.Safe) : ∃ s, f.Stands s ∧ s.Safe := by
  rcases safe with ⟨none_, zero⟩ | ⟨sec, buffer, safe⟩
  · exact ⟨{ sec := fun _ => 0, recv := f.secRecv }, ⟨rfl, Or.inr none_⟩,
      safe_of_short (by show f.secRecv < 3; omega)⟩
  · exact ⟨{ sec, recv := f.secRecv }, ⟨rfl, Or.inl buffer⟩, safe⟩

theorem stands_eq {f : PidFilter} {s t : SecState}
    (stands : PidFilter.Stands { f with secData := some t.sec, secRecv := t.recv } s) : s = t := by
  obtain ⟨recv, sec | none_⟩ := stands
  · cases s
    cases t
    cases recv
    cases sec
    rfl
  · cases none_

theorem receive_sections {f : PidFilter} {addr : Nat} {filter : Filter D}
    (listening : Listening dmx f addr filter) (pkts : List TsPacket)
    (clear : ∀ pkt ∈ pkts, pkt.pid = f.pid → pkt.scramble = 0) :
    ∃ next out s last completed, receive dmx pkts = some (next, out) ∧ f.Stands s ∧ s.Safe ∧
      secPayloads s (payloadsOf f.pid pkts) = some (last, completed) ∧
      out.filterMap (Delivery.secOf addr) = completed.flatMap fun c =>
        (sectionCbs c false (dmx.filtersOf f .sec)).filterMap (Delivery.secOf addr) := by
  induction pkts generalizing dmx f with
  | nil =>
    obtain ⟨s, stands, safe⟩ := stands_some f (listening.ready.tabled.received f listening.mem)
    exact ⟨dmx, [], s, s, [], rfl, stands, safe, rfl, rfl⟩
  | cons pkt rest ih =>
    have restClear : ∀ other ∈ rest, other.pid = f.pid → other.scramble = 0 :=
      fun other mem => clear other (List.mem_cons_of_mem _ mem)
    by_cases own : pkt.pid = f.pid
    · cases carries : pkt.payloadBytes with
      | none =>
        obtain ⟨next, out, s, last, completed, done, stands, safe, payloads, same⟩ :=
          ih listening restClear
        refine ⟨next, packetCbs dmx f pkt ++ out, s, last, completed, ?_, stands, safe, ?_, ?_⟩
        · have first : swdmxDemuxTsPacketCb dmx pkt = some (dmx, packetCbs dmx f pkt) := by
            unfold swdmxDemuxTsPacketCb
            rw [listening.find_own own]
            exact pidFilterData_idle (Or.inr (Or.inl carries))
          simp only [receive, first, done, Option.bind_eq_bind, Option.bind_some, Option.pure_def]
        · rw [payloadsOf, List.filterMap_cons_none]
          · exact payloads
          · rw [TsPacket.payloadOn, if_pos own, carries]
            rfl
        · rw [List.filterMap_append, packetCbs_secOf, List.nil_append, same]
      | some payload =>
        obtain ⟨s, t, first, mid, stands, safe, paid, cb, midListening, filters⟩ :=
          listening.ownPayload own carries (clear pkt List.mem_cons_self own)
        obtain ⟨next, out, u, last, completed, done, uStands, -, payloads, same⟩ :=
          ih midListening restClear
        obtain rfl := stands_eq uStands
        refine ⟨next, packetCbs dmx f pkt ++
          (first.flatMap fun c => sectionCbs c false (dmx.filtersOf f .sec)) ++ out, s, last,
          first ++ completed, ?_, stands, safe, ?_, ?_⟩
        · simp only [receive, cb, done, Option.bind_eq_bind, Option.bind_some, Option.pure_def]
        · rw [payloadsOf, List.filterMap_cons_some]
          · exact secPayloads_cons paid payloads
          · rw [TsPacket.payloadOn, if_pos own, carries]
            rfl
        · have alike : mid.filtersOf { f with secData := some u.sec, secRecv := u.recv } .sec =
              dmx.filtersOf f .sec := by
            unfold SwDemux.filtersOf
            rw [filters]
          rw [List.filterMap_append, List.filterMap_append, packetCbs_secOf, List.nil_append, same,
            alike, List.filterMap_flatMap, List.flatMap_append]
    · obtain ⟨mid, first, cb, midListening, filters, none_⟩ := listening.otherPid own
      obtain ⟨next, out, s, last, completed, done, stands, safe, payloads, same⟩ :=
        ih midListening restClear
      refine ⟨next, first ++ out, s, last, completed, ?_, stands, safe, ?_, ?_⟩
      · simp only [receive, cb, done, Option.bind_eq_bind, Option.bind_some, Option.pure_def]
      · rw [payloadsOf, List.filterMap_cons_none]
        · exact payloads
        · exact if_neg own
      · have alike : mid.filtersOf f .sec = dmx.filtersOf f .sec := by
          unfold SwDemux.filtersOf
          rw [filters]
        rw [List.filterMap_append, none_, List.nil_append, same, alike]

inductive DemuxOp (D : Type) where
  | filter (op : FilterOp D)
  | packet (pkt : TsPacket)

def DemuxOp.step (dmx : SwDemux D) : DemuxOp D → SwDemux D
  | .filter op => op.step dmx
  | .packet pkt => ((swdmxDemuxTsPacketCb dmx pkt).map Prod.fst).getD dmx

theorem DemuxOp.step_tabled (dmx : SwDemux D) (op : DemuxOp D) (tabled : dmx.Tabled none) :
    (op.step dmx).Tabled none := by
  cases op with
  | filter op => exact op.step_tabled dmx tabled
  | packet pkt =>
    show (((swdmxDemuxTsPacketCb dmx pkt).map Prod.fst).getD dmx).Tabled none
    cases done : swdmxDemuxTsPacketCb dmx pkt with
    | none => exact tabled
    | some result => exact tsPacketCb_tabled tabled done

inductive StreamPacket where
  | own (pkt : Mpeg2Packet) (trailer : List UInt8)
  | other (packet : List UInt8)

def StreamPacket.bytes : StreamPacket → List UInt8
  | .own pkt trailer => pkt.bytes ++ trailer
  | .other packet => packet

def StreamPacket.Framed (size pid : Nat) : StreamPacket → Prop
  | .own pkt trailer => pkt.pid.val = pid ∧ pid ≠ 0x1fff ∧ pkt.scramble = 0 ∧
      pkt.bytes.length = 188 ∧ (pkt.bytes ++ trailer).length = size
  | .other packet => packet.length = size ∧ packet.head? = some 0x47 ∧ packetPid packet ≠ pid

def parity (odd : Bool) : Fin 4 := if odd then 3 else 2

def Mpeg2Packet.clear (pkt : Mpeg2Packet) (payload : List UInt8) : Mpeg2Packet :=
  { pkt with scramble := 0, payload := some payload }

def StreamPacket.payload : StreamPacket → Option (Bool × List UInt8)
  | .own pkt _ => pkt.payload.map fun payload => (pkt.payloadStart, payload)
  | .other _ => none

def streamPayloads (stream : List StreamPacket) : List (Bool × List UInt8) :=
  stream.filterMap StreamPacket.payload

theorem StreamPacket.Framed.block {size pid : Nat} {packet : StreamPacket}
    (framed : packet.Framed size pid) :
    packet.bytes.length = size ∧ ∃ b ∈ packet.bytes.head?, (b == 0x47) = true := by
  cases packet with
  | own pkt trailer => exact ⟨framed.2.2.2.2, 0x47, rfl, rfl⟩
  | other packet => exact ⟨framed.1, 0x47, framed.2.1, rfl⟩

theorem stream_found (size : Nat) (positive : 0 < size) {pid : Nat} {stream : List StreamPacket}
    (framed : ∀ packet ∈ stream, packet.Framed size pid) :
    (scan size (· == 0x47) (stream.flatMap StreamPacket.bytes)).1 = stream.map StreamPacket.bytes := by
  have blocks : ∀ block ∈ stream.map StreamPacket.bytes,
      block.length = size ∧ ∃ b ∈ block.head?, (b == (0x47 : UInt8)) = true := by
    intro block mem
    obtain ⟨packet, inStream, rfl⟩ := List.mem_map.mp mem
    exact (framed packet inStream).block
  have found := scan_flatten positive (stream.map StreamPacket.bytes) [] positive blocks
  rw [List.append_nil, ← List.flatMap_def] at found
  rw [found]

theorem stream_payloads (path : Path) {size : Nat} {pid : UInt16} {stream : List StreamPacket}
    (framed : ∀ packet ∈ stream, packet.Framed size pid.toNat) :
    payloadsOf pid (path.packets (stream.map StreamPacket.bytes)) = streamPayloads stream ∧
      ∀ pkt ∈ path.packets (stream.map StreamPacket.bytes), pkt.pid = pid → pkt.scramble = 0 := by
  induction stream with
  | nil => exact ⟨rfl, nofun⟩
  | cons packet rest ih =>
    obtain ⟨payloads, clear⟩ := ih fun other mem => framed other (List.mem_cons_of_mem _ mem)
    have here := framed packet List.mem_cons_self
    cases packet with
    | own pkt trailer =>
      obtain ⟨own, real, unscrambled, size, -⟩ := here
      obtain ⟨ts, parsed, tsPid, start, scramble, carried⟩ :=
        tsPacket_bytes pkt trailer size (own ▸ real)
      rw [unscrambled] at scramble
      replace scramble : ts.scramble = 0 := scramble
      have first : path.packets (List.map StreamPacket.bytes (.own pkt trailer :: rest)) =
          ts :: path.packets (rest.map StreamPacket.bytes) := by
        rw [List.map_cons, Path.packets, StreamPacket.bytes, List.filterMap_cons_some parsed,
          List.map_cons, descrambled_of_clear scramble]
        rfl
      have same : ts.pid = pid := UInt16.toNat.inj (tsPid.trans own)
      rw [first]
      constructor
      · have alike : ts.payloadOn pid = (StreamPacket.own pkt trailer).payload := by
          rw [TsPacket.payloadOn, if_pos same, carried, start]
          rfl
        rw [payloadsOf, streamPayloads, List.filterMap_cons, List.filterMap_cons, alike]
        cases (StreamPacket.own pkt trailer).payload with
        | none => exact payloads
        | some payload => exact congrArg (payload :: ·) payloads
      · intro other mem onPid
        rcases List.mem_cons.mp mem with rfl | later
        · exact scramble
        · exact clear other later onPid
    | other packet =>
      have skipped : streamPayloads (.other packet :: rest) = streamPayloads rest := rfl
      cases parsed : tsPacket packet with
      | none =>
        have first : path.packets (List.map StreamPacket.bytes (.other packet :: rest)) =
            path.packets (rest.map StreamPacket.bytes) := by
          rw [List.map_cons, Path.packets, StreamPacket.bytes, List.filterMap_cons_none parsed]
          rfl
        rw [first]
        exact ⟨payloads, clear⟩
      | some ts =>
        have first : path.packets (List.map StreamPacket.bytes (.other packet :: rest)) =
            swdmxDescramblerTsPacketCb path.decrypt path.desc ts ::
              path.packets (rest.map StreamPacket.bytes) := by
          rw [List.map_cons, Path.packets, StreamPacket.bytes, List.filterMap_cons_some parsed]
          rfl
        have apart : (swdmxDescramblerTsPacketCb path.decrypt path.desc ts).pid ≠ pid := by
          intro same
          rw [descrambled_pid] at same
          exact here.2.2 (by rw [← tsPacket_pid parsed, same])
        rw [first]
        constructor
        · have none_ : (swdmxDescramblerTsPacketCb path.decrypt path.desc ts).payloadOn pid = none :=
            if_neg apart
          rw [payloadsOf, List.filterMap_cons_none none_]
          exact payloads
        · intro other mem onPid
          rcases List.mem_cons.mp mem with rfl | later
          · exact absurd onPid apart
          · exact clear other later onPid

def SwDemux.sectionFiltersBefore (dmx : SwDemux D) (addr : Nat) : List (Nat × Filter D) :=
  match dmx.pidFilterList.find? fun f => (f.filterList .sec).contains addr with
  | none => []
  | some f => (dmx.filtersOf f .sec).takeWhile fun entry => entry.1 != addr

theorem SwDemux.Tabled.splits (tabled : dmx.Tabled none) {f : PidFilter} (mem : f ∈ dmx.pidFilterList)
    {addr : Nat} {filter : Filter D} (found : dmx.filters addr = some filter)
    (runs : filter.Runs .sec f.pid) :
    ∃ after, dmx.filtersOf f .sec = dmx.sectionFiltersBefore addr ++ (addr, filter) :: after ∧
      ∀ entry ∈ dmx.sectionFiltersBefore addr ++ after, entry.1 ≠ addr := by
  have isLinked : addr ∈ f.filterList .sec := (tabled.linked f mem .sec addr).mpr ⟨filter, found, runs⟩
  have here : dmx.pidFilterList.find? (fun g => (g.filterList .sec).contains addr) = some f := by
    cases present : dmx.pidFilterList.find? fun g => (g.filterList .sec).contains addr with
    | none =>
      have absent := List.find?_eq_none.mp present f mem
      exact absurd (List.contains_iff_mem.mpr isLinked) absent
    | some g =>
      have gMem := List.mem_of_find?_eq_some present
      have contains := List.find?_some present
      have linked : addr ∈ g.filterList .sec := List.contains_iff_mem.mp contains
      obtain ⟨stored, there, -, -, pid⟩ := (tabled.linked g gMem .sec addr).mp linked
      rw [found] at there
      cases there
      rw [tabled.same_of_pid gMem mem (pid.symm.trans runs.2.2)]
  -- Every address of the list is that of one filter, so the filters have their addresses once each.
  have firsts : ∀ list : List Nat, (∀ place ∈ list, (dmx.filters place).isSome) →
      (list.filterMap fun place => (dmx.filters place).map fun other => (place, other)).map Prod.fst =
        list := by
    intro list stored
    induction list with
    | nil => rfl
    | cons place rest ih =>
      obtain ⟨other, has⟩ := Option.isSome_iff_exists.mp (stored place List.mem_cons_self)
      have behind := ih fun other mem => stored other (List.mem_cons_of_mem _ mem)
      rw [List.filterMap_cons, has]
      exact congrArg (place :: ·) behind
  have addrs : (dmx.filtersOf f .sec).map Prod.fst = f.filterList .sec := by
    refine firsts _ fun place inList => ?_
    obtain ⟨other, has, -⟩ := (tabled.linked f mem .sec place).mp inList
    rw [has]
    rfl
  have member : (addr, filter) ∈ dmx.filtersOf f .sec :=
    List.mem_filterMap.mpr ⟨addr, isLinked, by rw [found]; rfl⟩
  obtain ⟨before, after, split⟩ := List.append_of_mem member
  have once := tabled.lists f mem .sec
  rw [← addrs, split, List.map_append, List.map_cons] at once
  have apart : ∀ entry ∈ before ++ after, entry.1 ≠ addr := by
    intro entry mem same
    have nodup := List.nodup_middle.mp once
    rw [List.nodup_cons, ← List.map_append] at nodup
    exact nodup.1 (List.mem_map.mpr ⟨entry, mem, same⟩)
  have taken : dmx.sectionFiltersBefore addr = before := by
    unfold SwDemux.sectionFiltersBefore
    rw [here]
    dsimp only
    rw [split, List.takeWhile_append_of_pos]
    · simp
    · intro entry mem
      exact bne_iff_ne.mpr (apart entry (List.mem_append_left _ mem))
  refine ⟨after, by rw [taken, split], ?_⟩
  rw [taken]
  exact apart

theorem Listening.splits {f : PidFilter} {addr : Nat} {filter : Filter D}
    (listening : Listening dmx f addr filter) :
    ∃ after, dmx.filtersOf f .sec = dmx.sectionFiltersBefore addr ++ (addr, filter) :: after ∧
      ∀ entry ∈ dmx.sectionFiltersBefore addr ++ after, entry.1 ≠ addr :=
  listening.ready.tabled.splits listening.mem listening.found
    ⟨listening.kind, listening.running, listening.pid⟩

theorem flatMap_if {A B : Type} (list : List A) (p : A → Bool) (parts : A → List B) :
    (list.flatMap fun a => if p a then parts a else []) = (list.filter p).flatMap parts := by
  induction list with
  | nil => rfl
  | cons a rest ih =>
    rw [List.flatMap_cons, ih, List.filter_cons]
    split_ifs <;> rfl

theorem stream_received {f : PidFilter} {addr : Nat} {filter : Filter D}
    (listening : Listening dmx f addr filter) (noCrc : filter.params.crc32 = false)
    (all : ∀ data, secFilterMatch data filter = true) (path : Path) {stream : List StreamPacket}
    {sections : List Section} {chunks : List (List UInt8)}
    (framed : ∀ packet ∈ stream, packet.Framed path.tsp.packetSize f.pid.toNat)
    (carried : Carried [] sections (streamPayloads stream))
    (cut : chunks.flatten = stream.flatMap StreamPacket.bytes) :
    ∃ next out, path.write dmx [] chunks = some (next, out) ∧
      out.filterMap (Delivery.secOf addr) =
        (sections.filter fun sec => PassesCrc sec.bytes (dmx.sectionFiltersBefore addr)).flatMap
          fun sec => filter.cbList.map fun cb => (cb, sec.bytes) := by
  have positive : 0 < path.tsp.packetSize := Nat.lt_of_lt_of_le (by decide) path.tsp.atLeast
  obtain ⟨payloads, clear⟩ := stream_payloads path framed
  obtain ⟨next, out, s, last, completed, done, stands, safe, received, same⟩ :=
    receive_sections listening _ clear
  obtain ⟨last, completed, again, -, bytes⟩ := carried_received carried safe Begun.none
  rw [payloads, again] at received
  cases received
  obtain ⟨after, split, once⟩ := listening.splits
  refine ⟨next, out, ?_, ?_⟩
  · rw [path.write_eq dmx [] positive, List.nil_append, cut, stream_found _ positive framed]
    exact done
  · have each : ∀ c : SecState, (sectionCbs c false (dmx.filtersOf f .sec)).filterMap
        (Delivery.secOf addr) =
          if PassesCrc c.bytes (dmx.sectionFiltersBefore addr) then
            filter.cbList.map fun cb => (cb, c.bytes) else [] := by
      intro c
      rw [split]
      exact sectionCbs_secOf c false _ after once (all c.sec) noCrc nofun
    calc out.filterMap (Delivery.secOf addr)
        = (completed.map SecState.bytes).flatMap fun bytes =>
            if PassesCrc bytes (dmx.sectionFiltersBefore addr) then
              filter.cbList.map fun cb => (cb, bytes) else [] := by
          rw [same, List.flatMap_map]
          exact congrArg (List.flatMap · completed) (funext each)
      _ = sections.flatMap fun sec =>
            if PassesCrc sec.bytes (dmx.sectionFiltersBefore addr) then
              filter.cbList.map fun cb => (cb, sec.bytes) else [] := by
          rw [bytes, List.nil_append, List.flatMap_map]
      _ = _ := by
          rw [← flatMap_if]
          simp only [decide_eq_true_eq]

def reached (memory : Nat) (held : Nat → Nat → UInt8) (history : List (DemuxOp D)) : SwDemux D :=
  run DemuxOp.step (swdmxDemuxNew memory held) history

theorem reached_tabled (memory : Nat) (held : Nat → Nat → UInt8) (history : List (DemuxOp D)) :
    (reached memory held history).Tabled none :=
  run_always DemuxOp.step (fun dmx => dmx.Tabled none) DemuxOp.step_tabled _
    (SwDemux.Tabled.new memory held) history

theorem flatMap_filter_eq_iff {A B : Type} (list : List A) (p : A → Bool) (parts : A → List B)
    (count : Nat) (positive : 0 < count) (length : ∀ a, (parts a).length = count) :
    (list.filter p).flatMap parts = list.flatMap parts ↔ ∀ a ∈ list, p a = true := by
  constructor
  · intro same
    have lengths := congrArg List.length same
    simp only [List.length_flatMap, length, List.map_const', List.sum_replicate_nat]
      at lengths
    exact List.filter_eq_self.mp
      (List.filter_sublist.eq_of_length (Nat.eq_of_mul_eq_mul_right positive lengths))
  · intro all
    rw [List.filter_eq_self.mpr all]

-- Every stream is received without a write outside a buffer, and the sections of a PID reach a
-- match-all filter exactly when no filter before it finds their CRC wrong.
theorem sections_received_iff_pass_crc (memory : Nat) (held : Nat → Nat → UInt8)
    (history : List (DemuxOp D)) (path : Path) (enough : (reached memory held history).Enough) :
    (∀ chunks, ∃ next out, path.write (reached memory held history) [] chunks = some (next, out)) ∧
    ∀ addr filter stream sections chunks,
      (reached memory held history).filters addr = some filter → filter.kind = .sec →
      filter.state = .run → filter.params.crc32 = false → filter.cbList ≠ [] →
      (∀ data, secFilterMatch data filter = true) →
      (∀ packet ∈ stream,
        StreamPacket.Framed path.tsp.packetSize filter.params.pid.toNat packet) →
      Carried [] sections (streamPayloads stream) →
      chunks.flatten = stream.flatMap StreamPacket.bytes →
      ∃ next out, path.write (reached memory held history) [] chunks = some (next, out) ∧
        (out.filterMap (Delivery.secOf addr) =
            sections.flatMap (fun sec => filter.cbList.map fun cb => (cb, sec.bytes)) ↔
          ∀ sec ∈ sections,
            PassesCrc sec.bytes ((reached memory held history).sectionFiltersBefore addr)) := by
  have ready : (reached memory held history).Ready := ⟨reached_tabled memory held history, enough⟩
  constructor
  · intro chunks
    have positive : 0 < path.tsp.packetSize := Nat.lt_of_lt_of_le (by decide) path.tsp.atLeast
    rw [path.write_eq _ [] positive]
    obtain ⟨next, out, done, -⟩ := receive_total ready (path.packets
      (scan path.tsp.packetSize (· == 0x47) ([] ++ chunks.flatten)).1)
    exact ⟨next, out, done⟩
  · intro addr filter stream sections chunks found kind running noCrc calls all framed carried cut
    obtain ⟨f, mem, -, here⟩ := ready.tabled.designates addr filter found running
    rw [← here] at framed
    obtain ⟨next, out, done, same⟩ := stream_received
      ⟨ready, mem, found, kind, running, here.symm⟩ noCrc all path framed carried cut
    refine ⟨next, out, done, ?_⟩
    rw [same, flatMap_filter_eq_iff sections _ _ filter.cbList.length
      (List.length_pos_of_ne_nil calls) fun sec => List.length_map _]
    simp only [decide_eq_true_eq]

theorem secFilterMatch_of_unmasked {filter : Filter D} (mam : ∀ j, filter.mam j = 0)
    (manm : ∀ j, filter.manm j = 0) (data : Nat → UInt8) : secFilterMatch data filter = true := by
  have none_ : ∀ bytes : List (Fin secFilterLen),
      bytes.foldl (fun m i => m ||| ((data i.val &&& filter.mam (i.castAdd 2)) ^^^
        (filter.value (i.castAdd 2) &&& filter.mam (i.castAdd 2)))) (0 : UInt8) = 0 ∧
      bytes.foldl (fun hasN i => hasN ||| filter.manm (i.castAdd 2)) (0 : UInt8) = 0 := by
    intro bytes
    induction bytes with
    | nil => exact ⟨rfl, rfl⟩
    | cons i rest ih =>
      rw [List.foldl_cons, List.foldl_cons, mam, manm, UInt8.and_zero, UInt8.and_zero]
      exact ih
  unfold secFilterMatch
  simp only [(none_ _).1, (none_ _).2, ne_eq, not_true, if_false, false_and]

def shortSection : Section where
  bytes := [0, 0, 0]
  length := rfl
  table := by decide

def onePacket : Mpeg2Packet where
  error := false
  payloadStart := true
  priority := false
  pid := 0x100
  scramble := 0
  cc := 0
  adaptation := none
  payload := some (0 :: ([] ++ (sectionBytes [shortSection] ++ List.replicate 180 0xff)))

def plainPath : Path where
  tsp := {}
  decrypt _ _ bytes := bytes
  desc := {}

def listen (addr : Nat) (crc32 : Bool) : List (DemuxOp Unit) :=
  [.filter .allocSec, .filter (.setParams addr { pid := 0x100, crc32 }), .filter (.addCb addr ()),
    .filter (.enable addr)]

theorem onePacket_carries :
    Carried [] [shortSection] (streamPayloads [.own onePacket []]) :=
  @Carried.starts _ [] _ 0 [shortSection] 180 rfl Carried.done

theorem onePacket_framed :
    ∀ packet ∈ [StreamPacket.own onePacket []], packet.Framed 188 0x100 := by
  intro packet mem
  rw [List.mem_singleton.mp mem]
  exact ⟨rfl, by decide, rfl, by decide +kernel, by decide +kernel⟩

theorem one_section_received :
    ∃ next out, plainPath.write (reached 9 (fun _ _ => 0) (listen 0 false)) [] [onePacket.bytes] =
        some (next, out) ∧ out.filterMap (Delivery.secOf 0) = [((), [0, 0, 0])] := by
  have enough : (reached 9 (fun _ _ => 0) (listen 0 false)).Enough := by
    show _ ≤ _
    decide +kernel
  obtain ⟨next, out, done, received⟩ := (sections_received_iff_pass_crc 9 (fun _ _ => 0)
    (listen 0 false) plainPath enough).2 0 _ [.own onePacket []] [shortSection] [onePacket.bytes] rfl
    rfl rfl rfl (List.cons_ne_nil _ _)
    (secFilterMatch_of_unmasked (by decide +kernel) (by decide +kernel)) onePacket_framed
    onePacket_carries (by simp [StreamPacket.bytes])
  exact ⟨next, out, done, received.mpr (by decide +kernel)⟩

theorem section_not_received_behind_crc_check :
    ∃ filter, (reached 9 (fun _ _ => 0) (listen 0 true ++ listen 3 false)).filters 3 = some filter ∧
      filter.kind = .sec ∧ filter.state = .run ∧ filter.params.crc32 = false ∧
      filter.cbList = [()] ∧ (∀ data, secFilterMatch data filter = true) ∧
      (∀ packet ∈ [StreamPacket.own onePacket []],
        packet.Framed plainPath.tsp.packetSize filter.params.pid.toNat) ∧
      Carried [] [shortSection] (streamPayloads [.own onePacket []]) ∧
      (plainPath.write (reached 9 (fun _ _ => 0) (listen 0 true ++ listen 3 false)) []
        [onePacket.bytes]).map (fun done => done.2.filterMap (Delivery.secOf 3)) = some [] :=
  ⟨_, rfl, rfl, rfl, rfl, rfl,
    secFilterMatch_of_unmasked (by decide +kernel) (by decide +kernel), onePacket_framed,
    onePacket_carries, by decide +kernel⟩

end UnionpiTiger.Demux
