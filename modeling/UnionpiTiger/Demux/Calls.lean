import UnionpiTiger.Demux.Linked
import UnionpiTiger.Demux.Received

set_option autoImplicit false

namespace UnionpiTiger.Demux

def CbData.kind : CbData → FilterKind
  | .tsFeed _ => .ts
  | .secFilter _ _ => .sec

def FeedCall.ofTs (i : TsIndex) : FeedCall → Option (Nat × List UInt8)
  | .ts feed cb packet => if feed = i then some (cb, packet) else none
  | .sec _ _ _ _ => none

def FeedCall.ofSec (i : SecIndex) (j : FilterIndex) : FeedCall → Option (Nat × List UInt8)
  | .ts _ _ _ => none
  | .sec feed filter cb bytes => if feed = i ∧ filter = j then some (cb, bytes) else none

namespace SwDemux

variable {D : Type}

def completedOn (dmx : SwDemux D) (pid : UInt16) (pkt : TsPacket) : List SecState :=
  match dmx.pidFilterList.find? fun f => pkt.pid == f.pid with
  | none => []
  | some f =>
    if pkt.pid ≠ pid ∨ (f.filterList .sec).isEmpty ∨ pkt.scramble ≠ 0 then []
    else
      ((pkt.payloadBytes.bind fun payload => (secBuffer dmx f).bind fun (sec, _) =>
        secPayload { sec, recv := f.secRecv } pkt.payloadStart payload).map Prod.snd).getD []

def completions (dmx : SwDemux D) (pid : UInt16) : List TsPacket → List SecState
  | [] => []
  | pkt :: rest => dmx.completedOn pid pkt ++
    ((swdmxDemuxTsPacketCb dmx pkt).map fun (next, _) => next.completions pid rest).getD []

end SwDemux

section Packet

variable {D : Type} {dmx : SwDemux D}

theorem filtersOf_flatMap {X : Type} (f : PidFilter) (kind : FilterKind)
    (parts : Nat × Filter D → List X) :
    (dmx.filtersOf f kind).flatMap parts = (f.filterList kind).flatMap fun addr =>
      ((dmx.filters addr).map fun filter => parts (addr, filter)).getD [] := by
  unfold SwDemux.filtersOf
  induction f.filterList kind with
  | nil => rfl
  | cons addr rest ih =>
    rw [List.flatMap_cons, ← ih, List.filterMap_cons]
    cases dmx.filters addr <;> rfl

theorem tsPacketCb_out (ready : dmx.Ready) (pkt : TsPacket) :
    ∃ next out, swdmxDemuxTsPacketCb dmx pkt = some (next, out) ∧ next.Ready ∧
      next.filters = dmx.filters ∧
      (out = [] ∧ (∀ pid, dmx.completedOn pid pkt = []) ∧
          (∀ f ∈ dmx.pidFilterList, f.pid ≠ pkt.pid) ∨
        ∃ f ∈ dmx.pidFilterList, f.pid = pkt.pid ∧ out = packetCbs dmx f pkt ++
          (dmx.completedOn pkt.pid pkt).flatMap fun c =>
            sectionCbs c false (dmx.filtersOf f .sec)) := by
  unfold SwDemux.completedOn swdmxDemuxTsPacketCb
  cases present : dmx.pidFilterList.find? fun f => pkt.pid == f.pid with
  | none =>
    refine ⟨dmx, [], rfl, ready, rfl, Or.inl ⟨rfl, fun _ => rfl, fun f mem same => ?_⟩⟩
    exact List.find?_eq_none.mp present f mem (beq_iff_eq.mpr same.symm)
  | some f =>
    have mem := List.mem_of_find?_eq_some present
    have matched := List.find?_some present
    have same : f.pid = pkt.pid := (beq_iff_eq.mp matched).symm
    dsimp only
    by_cases idle : (f.filterList .sec).isEmpty = true ∨ pkt.payloadBytes = none ∨ pkt.scramble ≠ 0
    · refine ⟨dmx, _, pidFilterData_idle idle, ready, rfl, Or.inr ⟨f, mem, same, ?_⟩⟩
      rcases idle with empty | none_ | scrambled
      · rw [if_pos (Or.inr (Or.inl empty))]
        exact (List.append_nil _).symm
      · rw [none_]
        split_ifs <;> exact (List.append_nil _).symm
      · rw [if_pos (Or.inr (Or.inr scrambled))]
        exact (List.append_nil _).symm
    · push Not at idle
      obtain ⟨listens, carries, clear⟩ := idle
      obtain ⟨payload, carries⟩ := Option.ne_none_iff_exists'.mp carries
      have used : (f.filterList .sec).isEmpty = false := Bool.eq_false_iff.mpr listens
      obtain ⟨sec, mid, buffer, enough⟩ := secBuffer_enough ready.enough mem
      obtain ⟨tabled, list, filters, stands, safe⟩ := secBuffer_spec ready.tabled mem buffer
      obtain ⟨t, completed, done, tSafe⟩ := secPayload_safe safe pkt.payloadStart payload
      have alike : mid.filtersOf f .sec = dmx.filtersOf f .sec := by
        unfold SwDemux.filtersOf
        rw [filters]
      refine ⟨mid.putSection f.addr t, packetCbs dmx f pkt ++ completed.flatMap fun c =>
          sectionCbs c false (dmx.filtersOf f .sec), ?_,
        ⟨tabled.putSection f.addr tSafe, enough t⟩, filters, Or.inr ⟨f, mem, same, ?_⟩⟩
      · unfold pidFilterData packetCbs
        rw [used, carries]
        simp only [Bool.false_eq_true, if_false, ne_eq, clear, not_true, buffer, done, alike,
          Option.bind_eq_bind, Option.bind_some, Option.pure_def]
      · rw [if_neg (by simp [used, clear]), carries]
        simp only [Option.bind_some, buffer, done, Option.map_some, Option.getD_some]

end Packet

namespace AmlDmx

def filterOf (dmx : AmlDmx) (holder : CbData) : Option (Filter CbData) :=
  if dmx.Live holder then (dmx.pointer holder).bind dmx.swdmx.filters else none

def listens (dmx : AmlDmx) (holder : CbData) (pid : UInt16) : Bool :=
  (dmx.filterOf holder).any fun filter => filter.state == .run && filter.params.pid == pid

def passes (dmx : AmlDmx) (holder : CbData) (s : SecState) : Bool :=
  (dmx.filterOf holder).any fun filter =>
    secFilterMatch s.sec filter && (!filter.params.crc32 || swdmxCrc32 s.bytes == 0)

def onPacket (dmx : AmlDmx) (i : TsIndex) (pkt : TsPacket) : List (Nat × List UInt8) :=
  if dmx.listens (.tsFeed i) pkt.pid then (dmx.tsPktCb i pkt).filterMap (FeedCall.ofTs i) else []

def onSection (dmx : AmlDmx) (i : SecIndex) (j : FilterIndex) (s : SecState) :
    List (Nat × List UInt8) :=
  if dmx.passes (.secFilter i j) s then (dmx.secCb i j s.bytes).filterMap (FeedCall.ofSec i j)
  else []

structure Serves (dmx : AmlDmx) : Prop where
  owner : ∀ addr filter, dmx.swdmx.filters addr = some filter → filter.state = .run →
    ∃ holder, dmx.Live holder ∧ dmx.pointer holder = some addr ∧ filter.kind = holder.kind ∧
      filter.cbList = [holder]
  apart : ∀ holder other, dmx.Live holder → dmx.Live other →
    dmx.pointer holder = dmx.pointer other → holder = other

variable {dmx : AmlDmx} {holder : CbData} {addr : Nat} {filter : Filter CbData}

theorem filterOf_some (live : dmx.Live holder) (points : dmx.pointer holder = some addr) :
    dmx.filterOf holder = dmx.swdmx.filters addr := by
  unfold filterOf
  rw [if_pos live, points]
  rfl

theorem filterOf_spec (found : dmx.filterOf holder = some filter) :
    dmx.Live holder ∧ ∃ addr, dmx.pointer holder = some addr ∧
      dmx.swdmx.filters addr = some filter := by
  unfold filterOf at found
  split_ifs at found with live
  exact ⟨live, Option.bind_eq_some_iff.mp found⟩

theorem flatMap_one {X : Type} (target : Nat) (list : List Nat) (nodup : list.Nodup)
    (parts : Nat → List X) (others : ∀ addr ∈ list, addr ≠ target → parts addr = []) :
    list.flatMap parts = if target ∈ list then parts target else [] := by
  by_cases mem : target ∈ list
  · obtain ⟨before, after, rfl⟩ := List.append_of_mem mem
    have alone := (List.nodup_cons.mp (List.nodup_middle.mp nodup)).1
    have empty : ∀ rest : List Nat, (∀ addr ∈ rest, addr ∈ before ++ after) →
        rest.flatMap parts = [] := by
      intro rest within
      refine List.flatMap_eq_nil_iff.mpr fun addr here => others addr ?_ ?_
      · rcases List.mem_append.mp (within addr here) with first | second
        · exact List.mem_append_left _ first
        · exact List.mem_append_right _ (List.mem_cons_of_mem _ second)
      · rintro rfl
        exact alone (within addr here)
    rw [if_pos mem, List.flatMap_append, List.flatMap_cons,
      empty before fun _ => List.mem_append_left _, empty after fun _ => List.mem_append_right _]
    simp
  · rw [if_neg mem]
    refine List.flatMap_eq_nil_iff.mpr fun addr here => others addr here ?_
    rintro rfl
    exact mem here

theorem Serves.flatMap_filters {X : Type} (serves : dmx.Serves) {sw : SwDemux CbData}
    (filters : sw.filters = dmx.swdmx.filters) (tabled : sw.Tabled none) {f : PidFilter}
    (mem : f ∈ sw.pidFilterList) (holder : CbData) (parts : Nat × Filter CbData → List X)
    (others : ∀ addr filter, filter.cbList ≠ [holder] → filter.cbList.length = 1 →
      parts (addr, filter) = []) :
    (sw.filtersOf f holder.kind).flatMap parts =
      if dmx.listens holder f.pid then
        ((dmx.pointer holder).bind fun addr =>
          (dmx.swdmx.filters addr).map fun filter => parts (addr, filter)).getD []
      else [] := by
  rw [filtersOf_flatMap, filters]
  have runs : ∀ addr ∈ f.filterList holder.kind, ∃ filter owner,
      dmx.swdmx.filters addr = some filter ∧ filter.Runs holder.kind f.pid ∧ dmx.Live owner ∧
        dmx.pointer owner = some addr ∧ filter.cbList = [owner] := by
    intro addr linked
    obtain ⟨filter, found, runs⟩ := (tabled.linked f mem holder.kind addr).mp linked
    rw [filters] at found
    obtain ⟨owner, live, points, -, cbs⟩ := serves.owner addr filter found runs.2.1
    exact ⟨filter, owner, found, runs, live, points, cbs⟩
  have elsewhere : ∀ addr ∈ f.filterList holder.kind, ¬(dmx.Live holder ∧
      dmx.pointer holder = some addr) →
        ((dmx.swdmx.filters addr).map fun filter => parts (addr, filter)).getD [] = [] := by
    intro addr linked apart
    obtain ⟨filter, owner, found, -, live, points, cbs⟩ := runs addr linked
    rw [found, Option.map_some, Option.getD_some]
    refine others addr filter ?_ (by rw [cbs]; rfl)
    rw [cbs]
    intro same
    cases same
    exact apart ⟨live, points⟩
  by_cases listens : dmx.listens holder f.pid = true
  · obtain ⟨filter, found, here⟩ := (Option.any_eq_true _ _).mp listens
    obtain ⟨live, addr, points, stored⟩ := filterOf_spec found
    rw [Bool.and_eq_true, beq_iff_eq, beq_iff_eq] at here
    obtain ⟨owner, ownerLive, ownerPoints, kind, -⟩ := serves.owner addr filter stored here.1
    have own : owner = holder := serves.apart _ _ ownerLive live (ownerPoints.trans points.symm)
    have linked : addr ∈ f.filterList holder.kind :=
      (tabled.linked f mem _ addr).mpr ⟨filter, by rw [filters]; exact stored,
        by rw [kind, own], here⟩
    rw [if_pos listens, points,
      flatMap_one addr _ (tabled.lists f mem _) _ fun place placeMem apart =>
        elsewhere place placeMem fun both => apart (Option.some.inj (both.2.symm.trans points)),
      if_pos linked]
    rfl
  · rw [if_neg listens]
    refine List.flatMap_eq_nil_iff.mpr fun addr linked => elsewhere addr linked ?_
    rintro ⟨live, points⟩
    obtain ⟨filter, owner, found, runs, -⟩ := runs addr linked
    refine listens ((Option.any_eq_true _ _).mpr ⟨filter, ?_, ?_⟩)
    · rw [filterOf_some live points]
      exact found
    · rw [Bool.and_eq_true, beq_iff_eq, beq_iff_eq]
      exact runs.2

theorem Serves.packetCbs_calls (serves : dmx.Serves) {sw : SwDemux CbData}
    (filters : sw.filters = dmx.swdmx.filters) (tabled : sw.Tabled none) {f : PidFilter}
    (mem : f ∈ sw.pidFilterList) {pkt : TsPacket} (pid : f.pid = pkt.pid) (i : TsIndex) :
    (packetCbs sw f pkt).flatMap (fun delivery =>
      (dmx.calls delivery).filterMap (FeedCall.ofTs i)) = dmx.onPacket i pkt := by
  unfold packetCbs onPacket
  rw [List.flatMap_assoc]
  have parts := serves.flatMap_filters filters tabled mem (.tsFeed i)
    (fun entry => (entry.2.cbList.map fun cb => Delivery.packet entry.1 cb pkt).flatMap fun delivery =>
      (dmx.calls delivery).filterMap (FeedCall.ofTs i)) ?_
  · refine parts.trans ?_
    rw [pid]
    by_cases listens : dmx.listens (.tsFeed i) pkt.pid = true
    · rw [if_pos listens, if_pos listens]
      obtain ⟨filter, found, here⟩ := (Option.any_eq_true _ _).mp listens
      obtain ⟨live, addr, points, stored⟩ := filterOf_spec found
      rw [Bool.and_eq_true, beq_iff_eq] at here
      obtain ⟨owner, ownerLive, ownerPoints, -, cbs⟩ := serves.owner addr filter stored here.1
      have own : owner = .tsFeed i :=
        serves.apart _ _ ownerLive live (ownerPoints.trans points.symm)
      rw [points]
      simp only [Option.bind_some, stored, Option.map_some, Option.getD_some, cbs, own,
        List.map_cons, List.map_nil, List.flatMap_cons, List.flatMap_nil, List.append_nil]
      rfl
    · rw [if_neg listens, if_neg listens]
  · intro addr filter other one
    obtain ⟨cb, cbs⟩ := List.length_eq_one_iff.mp one
    rw [cbs] at other ⊢
    simp only [List.map_cons, List.map_nil, List.flatMap_cons, List.flatMap_nil, List.append_nil]
    cases cb with
    | tsFeed k =>
      have apart : k ≠ i := fun same => other (by rw [same])
      unfold calls tsPktCb
      dsimp only
      split_ifs
      · refine List.filterMap_eq_nil_iff.mpr fun call member => ?_
        obtain ⟨_, -, rfl⟩ := List.mem_map.mp member
        exact if_neg apart
      · rfl
    | secFilter k l => rfl

theorem sectionCbs_ts (s : SecState) (crc : Bool) (filters : List (Nat × Filter CbData))
    (i : TsIndex) :
    (sectionCbs s crc filters).flatMap (fun delivery =>
      (dmx.calls delivery).filterMap (FeedCall.ofTs i)) = [] := by
  induction filters generalizing crc with
  | nil => rfl
  | cons entry rest ih =>
    unfold sectionCbs
    split_ifs
    · rfl
    · rw [List.flatMap_append, ih, List.append_nil]
      refine List.flatMap_eq_nil_iff.mpr fun delivery mem => ?_
      obtain ⟨cb, -, rfl⟩ := List.mem_map.mp mem
      cases cb with
      | tsFeed k => rfl
      | secFilter k l =>
        unfold calls secCb
        dsimp only
        split_ifs
        · refine List.filterMap_eq_nil_iff.mpr fun call member => ?_
          obtain ⟨_, -, rfl⟩ := List.mem_map.mp member
          rfl
        · rfl
    · rw [List.nil_append]
      exact ih _

theorem packetCbs_sec (sw : SwDemux CbData) (f : PidFilter) (pkt : TsPacket) (i : SecIndex)
    (j : FilterIndex) :
    (packetCbs sw f pkt).flatMap (fun delivery =>
      (dmx.calls delivery).filterMap (FeedCall.ofSec i j)) = [] := by
  refine List.flatMap_eq_nil_iff.mpr fun delivery mem => ?_
  obtain ⟨entry, -, inner⟩ := List.mem_flatMap.mp mem
  obtain ⟨cb, -, rfl⟩ := List.mem_map.mp inner
  cases cb with
  | tsFeed k =>
    unfold calls tsPktCb
    dsimp only
    split_ifs
    · refine List.filterMap_eq_nil_iff.mpr fun call member => ?_
      obtain ⟨_, -, rfl⟩ := List.mem_map.mp member
      rfl
    · rfl
  | secFilter k l => rfl

def contribution (dmx : AmlDmx) (i : SecIndex) (j : FilterIndex) (s : SecState)
    (entry : Nat × Filter CbData) : List (Nat × List UInt8) :=
  if secFilterMatch s.sec entry.2 && (!entry.2.params.crc32 || swdmxCrc32 s.bytes == 0) then
    (entry.2.cbList.map fun cb => Delivery.sec entry.1 cb s.bytes).flatMap fun delivery =>
      (dmx.calls delivery).filterMap (FeedCall.ofSec i j)
  else []

theorem sectionCbs_sublist (dmx : AmlDmx) (s : SecState) (crc : Bool)
    (filters : List (Nat × Filter CbData)) (checked : crc = true → swdmxCrc32 s.bytes = 0)
    (i : SecIndex) (j : FilterIndex) :
    ((sectionCbs s crc filters).flatMap fun delivery =>
      (dmx.calls delivery).filterMap (FeedCall.ofSec i j)).Sublist
        (filters.flatMap (dmx.contribution i j s)) := by
  induction filters generalizing crc with
  | nil => exact List.Sublist.refl _
  | cons entry rest ih =>
    obtain ⟨addr, filter⟩ := entry
    unfold sectionCbs
    by_cases stops : filter.params.crc32 ∧ ¬crc ∧ swdmxCrc32 s.bytes ≠ 0
    · rw [if_pos stops]
      exact List.nil_sublist _
    · have still : (crc || filter.params.crc32) = true → swdmxCrc32 s.bytes = 0 := by
        intro either
        by_contra broken
        rcases Bool.or_eq_true_iff.mp either with was | now
        · exact broken (checked was)
        · exact stops ⟨now, fun was => broken (checked was), broken⟩
      rw [if_neg stops, List.flatMap_append, List.flatMap_cons]
      refine List.Sublist.append ?_ (ih _ still)
      unfold contribution
      by_cases all : secFilterMatch s.sec filter = true
      · have clean : (!filter.params.crc32 || swdmxCrc32 s.bytes == 0) = true := by
          cases on : filter.params.crc32 with
          | false => rfl
          | true =>
            rw [still (by rw [on, Bool.or_true])]
            rfl
        rw [if_pos all, all, clean]
        exact List.Sublist.refl _
      · rw [if_neg all]
        exact List.nil_sublist _

theorem Serves.contribution_eq (serves : dmx.Serves) {sw : SwDemux CbData}
    (filters : sw.filters = dmx.swdmx.filters) (tabled : sw.Tabled none) {f : PidFilter}
    (mem : f ∈ sw.pidFilterList) (i : SecIndex) (j : FilterIndex) (s : SecState) :
    (sw.filtersOf f .sec).flatMap (dmx.contribution i j s) =
      if dmx.listens (.secFilter i j) f.pid then dmx.onSection i j s else [] := by
  refine (serves.flatMap_filters filters tabled mem (.secFilter i j) _ ?_).trans ?_
  · intro addr filter other one
    obtain ⟨cb, cbs⟩ := List.length_eq_one_iff.mp one
    unfold contribution
    split_ifs
    · rw [cbs] at other ⊢
      simp only [List.map_cons, List.map_nil, List.flatMap_cons, List.flatMap_nil, List.append_nil]
      cases cb with
      | tsFeed k => rfl
      | secFilter k l =>
        have apart : ¬(k = i ∧ l = j) := fun both => other (by rw [both.1, both.2])
        unfold calls secCb
        dsimp only
        split_ifs
        · refine List.filterMap_eq_nil_iff.mpr fun call member => ?_
          obtain ⟨_, -, rfl⟩ := List.mem_map.mp member
          exact if_neg apart
        · rfl
    · rfl
  · by_cases listens : dmx.listens (.secFilter i j) f.pid = true
    · rw [if_pos listens, if_pos listens]
      obtain ⟨filter, found, here⟩ := (Option.any_eq_true _ _).mp listens
      obtain ⟨live, addr, points, stored⟩ := filterOf_spec found
      rw [Bool.and_eq_true, beq_iff_eq] at here
      obtain ⟨owner, ownerLive, ownerPoints, -, cbs⟩ := serves.owner addr filter stored here.1
      have own : owner = .secFilter i j :=
        serves.apart _ _ ownerLive live (ownerPoints.trans points.symm)
      unfold onSection passes contribution
      rw [found, points]
      simp only [Option.bind_some, stored, Option.map_some, Option.getD_some, Option.any_some, cbs,
        own, List.map_cons, List.map_nil, List.flatMap_cons, List.flatMap_nil, List.append_nil]
      rfl
    · rw [if_neg listens, if_neg listens]

def heard (dmx : AmlDmx) (i : SecIndex) (j : FilterIndex) (pid : UInt16) (s : SecState) :
    List (Nat × List UInt8) :=
  if dmx.listens (.secFilter i j) pid then dmx.onSection i j s else []

def Heard (dmx : AmlDmx) (sw : SwDemux CbData) (pkts : List TsPacket)
    (received : SecIndex → FilterIndex → List (Nat × List UInt8)) : Prop :=
  ∀ i j pid, (∀ other, dmx.listens (.secFilter i j) other = true → other = pid) →
    (received i j).Sublist ((sw.completions pid pkts).flatMap (dmx.heard i j pid))

theorem Serves.packet_calls (serves : dmx.Serves) {sw : SwDemux CbData}
    (filters : sw.filters = dmx.swdmx.filters) (ready : sw.Ready) (pkt : TsPacket) :
    ∃ next out, swdmxDemuxTsPacketCb sw pkt = some (next, out) ∧ next.Ready ∧
      next.filters = dmx.swdmx.filters ∧
      (∀ i, (out.flatMap fun delivery => (dmx.calls delivery).filterMap (FeedCall.ofTs i)) =
        dmx.onPacket i pkt) ∧
      ∀ i j pid, (∀ other, dmx.listens (.secFilter i j) other = true → other = pid) →
        (out.flatMap fun delivery => (dmx.calls delivery).filterMap (FeedCall.ofSec i j)).Sublist
          ((sw.completedOn pid pkt).flatMap (dmx.heard i j pid)) := by
  obtain ⟨next, out, done, nextReady, same, cases_⟩ := tsPacketCb_out ready pkt
  refine ⟨next, out, done, nextReady, same.trans filters, ?_, ?_⟩
  · intro i
    rcases cases_ with ⟨rfl, -, absent⟩ | ⟨f, mem, pid, rfl⟩
    · unfold onPacket
      rw [if_neg, List.flatMap_nil]
      intro listens
      obtain ⟨filter, found, here⟩ := (Option.any_eq_true _ _).mp listens
      obtain ⟨-, addr, -, stored⟩ := filterOf_spec found
      rw [Bool.and_eq_true, beq_iff_eq, beq_iff_eq] at here
      obtain ⟨f, mem, -, pid⟩ :=
        ready.tabled.designates addr filter (by rw [filters]; exact stored) here.1
      exact absent f mem (pid.trans here.2)
    · rw [List.flatMap_append, serves.packetCbs_calls filters ready.tabled mem pid i,
        List.flatMap_assoc]
      have none_ : ((sw.completedOn pkt.pid pkt).flatMap fun c =>
          (sectionCbs c false (sw.filtersOf f .sec)).flatMap fun delivery =>
            (dmx.calls delivery).filterMap (FeedCall.ofTs i)) = [] :=
        List.flatMap_eq_nil_iff.mpr fun c _ => sectionCbs_ts c false _ i
      rw [none_, List.append_nil]
  · intro i j pid only
    rcases cases_ with ⟨rfl, -, -⟩ | ⟨f, mem, here, rfl⟩
    · exact List.nil_sublist _
    · rw [List.flatMap_append, packetCbs_sec, List.nil_append, List.flatMap_assoc]
      have each : ∀ c : SecState, ((sectionCbs c false (sw.filtersOf f .sec)).flatMap fun delivery =>
          (dmx.calls delivery).filterMap (FeedCall.ofSec i j)).Sublist
            (dmx.heard i j pkt.pid c) := by
        intro c
        have all := sectionCbs_sublist dmx c false (sw.filtersOf f .sec) nofun i j
        rw [serves.contribution_eq filters ready.tabled mem i j c, here] at all
        exact all
      by_cases own : pkt.pid = pid
      · subst own
        induction sw.completedOn pkt.pid pkt with
        | nil => exact List.nil_sublist _
        | cons c rest ih =>
          rw [List.flatMap_cons, List.flatMap_cons]
          exact (each c).append ih
      · have deaf : ∀ c, dmx.heard i j pkt.pid c = [] := fun c =>
          if_neg fun listens => own (only _ listens)
        have silent : ((sw.completedOn pkt.pid pkt).flatMap fun c =>
            (sectionCbs c false (sw.filtersOf f .sec)).flatMap fun delivery =>
              (dmx.calls delivery).filterMap (FeedCall.ofSec i j)) = [] := by
          refine List.flatMap_eq_nil_iff.mpr fun c _ => ?_
          have none_ := each c
          rw [deaf] at none_
          exact List.sublist_nil.mp none_
        rw [silent]
        exact List.nil_sublist _

theorem Serves.receive_calls (serves : dmx.Serves) (pkts : List TsPacket) {sw : SwDemux CbData}
    (filters : sw.filters = dmx.swdmx.filters) (ready : sw.Ready) :
    ∃ next out, receive sw pkts = some (next, out) ∧ next.Ready ∧
      next.filters = dmx.swdmx.filters ∧
      (∀ i, (out.flatMap fun delivery => (dmx.calls delivery).filterMap (FeedCall.ofTs i)) =
        pkts.flatMap (dmx.onPacket i)) ∧
      dmx.Heard sw pkts fun i j =>
        out.flatMap fun delivery => (dmx.calls delivery).filterMap (FeedCall.ofSec i j) := by
  induction pkts generalizing sw with
  | nil => exact ⟨sw, [], rfl, ready, filters, fun _ => rfl, fun _ _ _ _ => List.nil_sublist _⟩
  | cons pkt rest ih =>
    obtain ⟨next, out, first, nextReady, nextFilters, ts, sec⟩ :=
      serves.packet_calls filters ready pkt
    obtain ⟨last, later, behind, lastReady, lastFilters, tsLater, secLater⟩ :=
      ih nextFilters nextReady
    refine ⟨last, out ++ later, ?_, lastReady, lastFilters, fun i => ?_, fun i j pid only => ?_⟩
    · simp only [receive, first, behind, Option.bind_eq_bind, Option.bind_some, Option.pure_def]
    · rw [List.flatMap_append, List.flatMap_cons, ts, tsLater]
    · dsimp only
      rw [List.flatMap_append, SwDemux.completions, first, List.flatMap_append]
      exact (sec i j pid only).append (secLater i j pid only)

end AmlDmx

def Path.received (path : Path) (buf : List UInt8) : List TsPacket :=
  (swdmxTsParserRun path.tsp buf).1.map (swdmxDescramblerTsPacketCb path.decrypt path.desc)

theorem AmlDmx.Serves.write_calls {dmx : AmlDmx} (serves : dmx.Serves) (ready : dmx.swdmx.Ready)
    (unlocked : dmx.pmutex = false) {outcome : Outcome} (running : outcome.interrupted = false)
    (path : Path) (buf : List UInt8) :
    ∃ swdmx consumed calls,
      dmx.write path outcome buf = some ({ dmx with swdmx }, consumed, calls) ∧ swdmx.Ready ∧
      swdmx.filters = dmx.swdmx.filters ∧
      (∀ i, calls.filterMap (FeedCall.ofTs i) = (path.received buf).flatMap (dmx.onPacket i)) ∧
      dmx.Heard dmx.swdmx (path.received buf) fun i j => calls.filterMap (FeedCall.ofSec i j) := by
  obtain ⟨swdmx, out, done, nextReady, filters, ts, sec⟩ :=
    serves.receive_calls (path.received buf) rfl ready
  refine ⟨swdmx, (swdmxTsParserRun path.tsp buf).2, out.flatMap dmx.calls, ?_, nextReady, filters,
    fun i => ?_, fun i j pid only => ?_⟩
  · unfold AmlDmx.write Path.run
    rw [lockInterruptible_eq unlocked, running, if_neg Bool.false_ne_true]
    unfold Path.received at done
    simp only [done, Option.map_some, Option.bind_eq_bind, Option.bind_some]
    cases dmx
    cases unlocked
    rfl
  · rw [List.filterMap_flatMap]
    exact ts i
  · dsimp only
    rw [List.filterMap_flatMap]
    exact sec i j pid only

end UnionpiTiger.Demux
