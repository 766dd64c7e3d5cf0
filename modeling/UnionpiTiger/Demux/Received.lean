import UnionpiTiger.Demux.Reception

set_option autoImplicit false

namespace UnionpiTiger.Demux

open Lib

variable {D : Type} {dmx : SwDemux D}

def SwDemux.Enough (dmx : SwDemux D) : Prop :=
  (dmx.pidFilterList.countP fun f => f.secData.isNone) ≤ dmx.memory

def PidFilter.Stands (f : PidFilter) (s : SecState) : Prop :=
  f.secRecv = s.recv ∧ (f.secData = some s.sec ∨ f.secData = none)

theorem countP_map_lt {A : Type} (p : A → Bool) (change : A → A) (list : List A) {a : A}
    (mem : a ∈ list) (was : p a = true) (now : p (change a) = false)
    (less : ∀ b, p (change b) = true → p b = true) :
    (list.map change).countP p + 1 ≤ list.countP p := by
  induction list with
  | nil => cases mem
  | cons b rest ih =>
    rw [List.map_cons, List.countP_cons, List.countP_cons]
    have others : (rest.map change).countP p ≤ rest.countP p := by
      rw [List.countP_map]
      exact List.countP_mono_left fun c _ holds => less c holds
    rcases List.mem_cons.mp mem with rfl | later
    · rw [was, now]
      simp only [if_true, Bool.false_eq_true, if_false]
      omega
    · have behind := ih later
      have here : (if p (change b) = true then 1 else 0) ≤ if p b = true then 1 else 0 := by
        split_ifs with changed old
        · exact Nat.le_refl 1
        · exact absurd (less b changed) old
        · exact Nat.zero_le _
        · exact Nat.zero_le _
      omega

theorem SwDemux.Tabled.putSection {spare : Option UInt16} (tabled : dmx.Tabled spare) (addr : Nat)
    {s : SecState} (safe : s.Safe) : (dmx.putSection addr s).Tabled spare := by
  have keepsAddr : ∀ g : PidFilter, (if g.addr = addr then
      { g with secData := some s.sec, secRecv := s.recv } else g).addr = g.addr := fun g => by
    split_ifs <;> rfl
  have keepsPid : ∀ g : PidFilter, (if g.addr = addr then
      { g with secData := some s.sec, secRecv := s.recv } else g).pid = g.pid := fun g => by
    split_ifs <;> rfl
  have keepsLists : ∀ g : PidFilter, (if g.addr = addr then
      { g with secData := some s.sec, secRecv := s.recv } else g).filterList = g.filterList :=
    fun g => by split_ifs <;> rfl
  constructor
  case fresh => exact tabled.fresh
  case placed =>
    intro new newMem
    obtain ⟨g, gMem, rfl⟩ := List.mem_map.mp newMem
    rw [keepsAddr]
    exact tabled.placed g gMem
  case addrs => exact (SwDemux.Tabled.map_addr keepsAddr _).symm ▸ tabled.addrs
  case pids => exact (SwDemux.Tabled.map_pid keepsPid _).symm ▸ tabled.pids
  case lists =>
    intro new newMem
    obtain ⟨g, gMem, rfl⟩ := List.mem_map.mp newMem
    rw [keepsLists]
    exact tabled.lists g gMem
  case linked =>
    intro new newMem
    obtain ⟨g, gMem, rfl⟩ := List.mem_map.mp newMem
    rw [keepsLists, keepsPid]
    exact tabled.linked g gMem
  case designates =>
    intro place filter found running
    obtain ⟨g, gMem, designated, here⟩ := tabled.designates place filter found running
    refine ⟨_, List.mem_map_of_mem gMem, ?_, ?_⟩
    · rw [keepsAddr]
      exact designated
    · rw [keepsPid]
      exact here
  case used =>
    intro new newMem
    obtain ⟨g, gMem, rfl⟩ := List.mem_map.mp newMem
    rw [keepsLists, keepsPid]
    exact tabled.used g gMem
  case received =>
    intro new newMem
    obtain ⟨g, gMem, rfl⟩ := List.mem_map.mp newMem
    split_ifs
    · exact Or.inr ⟨s.sec, rfl, safe⟩
    · exact tabled.received g gMem

theorem secBuffer_spec {f : PidFilter} (tabled : dmx.Tabled none) (mem : f ∈ dmx.pidFilterList)
    {sec : Nat → UInt8} {next : SwDemux D} (given : secBuffer dmx f = some (sec, next)) :
    next.Tabled none ∧ next.pidFilterList = dmx.pidFilterList ∧ next.filters = dmx.filters ∧
      f.Stands { sec, recv := f.secRecv } ∧ SecState.Safe { sec, recv := f.secRecv } := by
  unfold secBuffer at given
  rcases tabled.received f mem with ⟨none_, recv⟩ | ⟨buffer, has, safe⟩
  · rw [none_] at given
    obtain ⟨⟨addr, got⟩, allocates, same⟩ := Option.map_eq_some_iff.mp given
    cases same
    obtain ⟨allocated, -, -, list, filters⟩ := tabled.malloc allocates
    exact ⟨allocated, list, filters, ⟨rfl, Or.inr none_⟩,
      safe_of_short (by show f.secRecv < 3; omega)⟩
  · rw [has] at given
    cases given
    exact ⟨tabled, rfl, rfl, ⟨rfl, Or.inl has⟩, safe⟩

theorem secBuffer_enough {f : PidFilter} (enough : dmx.Enough) (mem : f ∈ dmx.pidFilterList) :
    ∃ sec next, secBuffer dmx f = some (sec, next) ∧ ∀ s, (next.putSection f.addr s).Enough := by
  have stays : ∀ s : SecState, ∀ g : PidFilter, (if g.addr = f.addr then
      { g with secData := some s.sec, secRecv := s.recv } else g).secData.isNone = true →
        g.secData.isNone = true := fun s g => by
    split_ifs
    · exact nofun
    · exact id
  unfold secBuffer
  cases has : f.secData with
  | none =>
    have waits : 0 < dmx.pidFilterList.countP fun f => f.secData.isNone :=
      List.countP_pos_iff.mpr ⟨f, mem, by rw [has]; rfl⟩
    unfold SwDemux.Enough at enough
    have given : swdmxMalloc dmx =
        some (dmx.next, { dmx with next := dmx.next + 1, memory := dmx.memory - 1 }) := by
      unfold swdmxMalloc
      rw [if_neg (by omega)]
    refine ⟨_, _, by dsimp only; rw [given]; rfl, fun s => ?_⟩
    have fewer := countP_map_lt (fun g : PidFilter => g.secData.isNone) _ dmx.pidFilterList mem
      (by rw [has]; rfl) (by rw [if_pos rfl]; rfl) (stays s)
    show List.countP _ _ ≤ dmx.memory - 1
    exact Nat.le_sub_one_of_lt (Nat.lt_of_lt_of_le (Nat.lt_of_succ_le fewer) enough)
  | some sec =>
    refine ⟨sec, dmx, rfl, fun s => ?_⟩
    show List.countP _ (List.map _ dmx.pidFilterList) ≤ dmx.memory
    rw [List.countP_map]
    exact Nat.le_trans (List.countP_mono_left fun g _ => stays s g) enough

structure SwDemux.Ready (dmx : SwDemux D) : Prop where
  tabled : dmx.Tabled none
  enough : dmx.Enough

def packetCbs (dmx : SwDemux D) (f : PidFilter) (pkt : TsPacket) : List (Delivery D) :=
  (dmx.filtersOf f .ts).flatMap fun (addr, filter) =>
    filter.cbList.map fun cb => Delivery.packet addr cb pkt

theorem pidFilterData_idle {f : PidFilter} {pkt : TsPacket}
    (idle : (f.filterList .sec).isEmpty = true ∨ pkt.payloadBytes = none ∨ pkt.scramble ≠ 0) :
    pidFilterData dmx f pkt = some (dmx, packetCbs dmx f pkt) := by
  unfold pidFilterData packetCbs
  dsimp only
  by_cases empty : (f.filterList .sec).isEmpty = true
  · rw [if_pos empty]
  · rw [if_neg empty]
    rcases idle with none_ | none_ | scrambled
    · exact absurd none_ empty
    · rw [none_]
    · cases pkt.payloadBytes with
      | none => rfl
      | some payload =>
        dsimp only
        rw [if_pos scrambled]

theorem pidFilterData_payload {f : PidFilter} {pkt : TsPacket} {payload : List UInt8}
    (ready : dmx.Ready) (mem : f ∈ dmx.pidFilterList) (listens : (f.filterList .sec).isEmpty = false)
    (carries : pkt.payloadBytes = some payload) (clear : pkt.scramble = 0) :
    ∃ s t completed next, f.Stands s ∧ s.Safe ∧
      secPayload s pkt.payloadStart payload = some (t, completed) ∧
      pidFilterData dmx f pkt = some (next, packetCbs dmx f pkt ++
        completed.flatMap fun c => sectionCbs c false (dmx.filtersOf f .sec)) ∧
      next.Ready ∧ next.filters = dmx.filters ∧
      next.pidFilterList = (dmx.putSection f.addr t).pidFilterList := by
  obtain ⟨sec, mid, buffer, enough⟩ := secBuffer_enough ready.enough mem
  obtain ⟨tabled, list, filters, stands, safe⟩ := secBuffer_spec ready.tabled mem buffer
  obtain ⟨t, completed, done, tSafe⟩ := secPayload_safe safe pkt.payloadStart payload
  have same : mid.filtersOf f .sec = dmx.filtersOf f .sec := by
    unfold SwDemux.filtersOf
    rw [filters]
  refine ⟨_, t, completed, mid.putSection f.addr t, stands, safe, done, ?_,
    ⟨tabled.putSection f.addr tSafe, enough t⟩, filters, ?_⟩
  · unfold pidFilterData packetCbs
    rw [listens, carries]
    simp only [Bool.false_eq_true, if_false, ne_eq, clear, not_true, buffer, done, same,
      Option.bind_eq_bind, Option.bind_some, Option.pure_def]
  · unfold SwDemux.putSection
    rw [list]

theorem tsPacketCb_total (ready : dmx.Ready) (pkt : TsPacket) :
    ∃ next out, swdmxDemuxTsPacketCb dmx pkt = some (next, out) ∧ next.Ready := by
  unfold swdmxDemuxTsPacketCb
  cases present : dmx.pidFilterList.find? fun f => pkt.pid == f.pid with
  | none => exact ⟨dmx, [], rfl, ready⟩
  | some f =>
    by_cases idle : (f.filterList .sec).isEmpty = true ∨ pkt.payloadBytes = none ∨ pkt.scramble ≠ 0
    · exact ⟨dmx, _, pidFilterData_idle idle, ready⟩
    · push Not at idle
      obtain ⟨listens, carries, clear⟩ := idle
      obtain ⟨payload, carries⟩ := Option.ne_none_iff_exists'.mp carries
      obtain ⟨_, _, _, next, -, -, -, done, nextReady, -⟩ := pidFilterData_payload ready
        (List.mem_of_find?_eq_some present) (Bool.eq_false_iff.mpr listens) carries clear
      exact ⟨next, _, done, nextReady⟩

theorem tsPacketCb_tabled (tabled : dmx.Tabled none) {pkt : TsPacket} {next : SwDemux D}
    {out : List (Delivery D)} (done : swdmxDemuxTsPacketCb dmx pkt = some (next, out)) :
    next.Tabled none := by
  unfold swdmxDemuxTsPacketCb at done
  cases present : dmx.pidFilterList.find? fun f => pkt.pid == f.pid with
  | none =>
    rw [present] at done
    cases done
    exact tabled
  | some f =>
    rw [present] at done
    have mem := List.mem_of_find?_eq_some present
    by_cases idle : (f.filterList .sec).isEmpty = true ∨ pkt.payloadBytes = none ∨ pkt.scramble ≠ 0
    · dsimp only at done
      rw [pidFilterData_idle idle] at done
      cases done
      exact tabled
    · push Not at idle
      obtain ⟨listens, carries, clear⟩ := idle
      obtain ⟨payload, carries⟩ := Option.ne_none_iff_exists'.mp carries
      simp only [pidFilterData, if_neg listens, carries, ne_eq, clear, not_true, if_false] at done
      obtain ⟨⟨sec, mid⟩, buffer, done⟩ := Option.bind_eq_some_iff.mp done
      obtain ⟨midTabled, -, -, -, safe⟩ := secBuffer_spec tabled mem buffer
      obtain ⟨t, completed, paid, tSafe⟩ := secPayload_safe safe pkt.payloadStart payload
      simp only [paid, Option.bind_eq_bind, Option.bind_some, Option.pure_def] at done
      cases done
      exact midTabled.putSection f.addr tSafe

theorem receive_total (ready : dmx.Ready) (pkts : List TsPacket) :
    ∃ next out, receive dmx pkts = some (next, out) ∧ next.Ready := by
  induction pkts generalizing dmx with
  | nil => exact ⟨dmx, [], rfl, ready⟩
  | cons pkt rest ih =>
    obtain ⟨next, out, first, nextReady⟩ := tsPacketCb_total ready pkt
    obtain ⟨last, later, behind, lastReady⟩ := ih nextReady
    refine ⟨last, out ++ later, ?_, lastReady⟩
    simp only [receive, first, behind, Option.bind_eq_bind, Option.bind_some, Option.pure_def]

def Delivery.secOf (addr : Nat) : Delivery D → Option (D × List UInt8)
  | .packet _ _ _ => none
  | .sec filter cb bytes => if filter = addr then some (cb, bytes) else none

theorem packetCbs_secOf (f : PidFilter) (pkt : TsPacket) (addr : Nat) :
    (packetCbs dmx f pkt).filterMap (Delivery.secOf addr) = [] := by
  refine List.filterMap_eq_nil_iff.mpr fun delivery mem => ?_
  obtain ⟨entry, -, inner⟩ := List.mem_flatMap.mp mem
  obtain ⟨cb, -, rfl⟩ := List.mem_map.mp inner
  rfl

theorem sectionCbs_secOf_other (s : SecState) (crc : Bool) (filters : List (Nat × Filter D))
    {addr : Nat} (absent : ∀ entry ∈ filters, entry.1 ≠ addr) :
    (sectionCbs s crc filters).filterMap (Delivery.secOf addr) = [] := by
  induction filters generalizing crc with
  | nil => rfl
  | cons entry rest ih =>
    obtain ⟨place, filter⟩ := entry
    have apart : place ≠ addr := absent _ List.mem_cons_self
    unfold sectionCbs
    split_ifs
    · rfl
    · rw [List.filterMap_append, ih _ fun other mem => absent other (List.mem_cons_of_mem _ mem),
        List.append_nil, List.filterMap_map]
      exact List.filterMap_eq_nil_iff.mpr fun cb _ => if_neg apart
    · rw [List.nil_append]
      exact ih _ fun other mem => absent other (List.mem_cons_of_mem _ mem)

def PassesCrc (bytes : List UInt8) (before : List (Nat × Filter D)) : Prop :=
  swdmxCrc32 bytes = 0 ∨ ∀ entry ∈ before, entry.2.params.crc32 = false

instance (bytes : List UInt8) (before : List (Nat × Filter D)) :
    Decidable (PassesCrc bytes before) := inferInstanceAs (Decidable (_ ∨ _))

theorem passesCrc_cons (bytes : List UInt8) (entry : Nat × Filter D) (before : List (Nat × Filter D)) :
    PassesCrc bytes (entry :: before) ↔
      (swdmxCrc32 bytes = 0 ∨ entry.2.params.crc32 = false) ∧ PassesCrc bytes before := by
  unfold PassesCrc
  by_cases free : swdmxCrc32 bytes = 0
  · simp [free]
  · simp [free]

theorem stopped_iff (bytes : List UInt8) {crc : Bool} (checked : crc = true → swdmxCrc32 bytes = 0)
    (other : Filter D) :
    (other.params.crc32 ∧ ¬crc ∧ swdmxCrc32 bytes ≠ 0 ↔
        ¬(swdmxCrc32 bytes = 0 ∨ other.params.crc32 = false)) ∧
      ((swdmxCrc32 bytes = 0 ∨ other.params.crc32 = false) →
        (crc || other.params.crc32) = true → swdmxCrc32 bytes = 0) := by
  by_cases free : swdmxCrc32 bytes = 0
  · simp [free]
  · have unchecked : crc = false := Bool.eq_false_iff.mpr fun was => free (checked was)
    simp [free, unchecked]

theorem sectionCbs_secOf_any (s : SecState) (crc : Bool) (before after : List (Nat × Filter D))
    {addr : Nat} {filter : Filter D} (once : ∀ entry ∈ before ++ after, entry.1 ≠ addr)
    (checked : crc = true → swdmxCrc32 s.bytes = 0) :
    (sectionCbs s crc (before ++ (addr, filter) :: after)).filterMap (Delivery.secOf addr) =
      if PassesCrc s.bytes (before ++ [(addr, filter)]) ∧ secFilterMatch s.sec filter = true then
        filter.cbList.map fun cb => (cb, s.bytes)
      else [] := by
  induction before generalizing crc with
  | nil =>
    obtain ⟨stopped, -⟩ := stopped_iff s.bytes checked filter
    have alone : PassesCrc s.bytes [(addr, filter)] ↔
        (swdmxCrc32 s.bytes = 0 ∨ filter.params.crc32 = false) :=
      (passesCrc_cons ..).trans (and_iff_left (Or.inr (by simp)))
    rw [List.nil_append, List.nil_append, sectionCbs, if_congr stopped rfl rfl,
      if_congr (and_congr_left' alone) rfl rfl]
    by_cases passes : swdmxCrc32 s.bytes = 0 ∨ filter.params.crc32 = false
    · rw [if_neg (not_not.mpr passes), List.filterMap_append, sectionCbs_secOf_other s _ after once,
        List.append_nil]
      by_cases matched : secFilterMatch s.sec filter = true
      · rw [if_pos matched, if_pos ⟨passes, matched⟩, List.filterMap_map]
        exact List.filterMap_eq_map_iff_forall_eq_some.mpr fun cb _ => if_pos rfl
      · rw [if_neg matched, if_neg fun both => matched both.2]
        rfl
    · rw [if_pos passes, if_neg fun both => passes both.1]
      rfl
  | cons entry before ih =>
    obtain ⟨place, other⟩ := entry
    obtain ⟨stopped, still⟩ := stopped_iff s.bytes checked other
    have apart : place ≠ addr := once _ List.mem_cons_self
    have rest : ∀ entry ∈ before ++ after, entry.1 ≠ addr :=
      fun entry mem => once entry (List.mem_cons_of_mem _ mem)
    rw [List.cons_append, List.cons_append, sectionCbs, if_congr stopped rfl rfl]
    by_cases passes : swdmxCrc32 s.bytes = 0 ∨ other.params.crc32 = false
    · have others : (if secFilterMatch s.sec other then
          other.cbList.map fun cb => Delivery.sec place cb s.bytes else []).filterMap
            (Delivery.secOf addr) = [] := by
        split_ifs
        · rw [List.filterMap_map]
          exact List.filterMap_eq_nil_iff.mpr fun cb _ => if_neg apart
        · rfl
      have alike : PassesCrc s.bytes ((place, other) :: (before ++ [(addr, filter)])) ↔
          PassesCrc s.bytes (before ++ [(addr, filter)]) :=
        (passesCrc_cons ..).trans (and_iff_right passes)
      rw [if_neg (not_not.mpr passes), List.filterMap_append, others, List.nil_append,
        ih _ rest (still passes), if_congr (and_congr_left' alike) rfl rfl]
    · rw [if_pos passes, if_neg fun both => passes ((passesCrc_cons ..).mp both.1).1]
      rfl

theorem sectionCbs_secOf (s : SecState) (crc : Bool) (before after : List (Nat × Filter D))
    {addr : Nat} {filter : Filter D} (once : ∀ entry ∈ before ++ after, entry.1 ≠ addr)
    (all : secFilterMatch s.sec filter = true) (noCrc : filter.params.crc32 = false)
    (checked : crc = true → swdmxCrc32 s.bytes = 0) :
    (sectionCbs s crc (before ++ (addr, filter) :: after)).filterMap (Delivery.secOf addr) =
      if PassesCrc s.bytes before then filter.cbList.map fun cb => (cb, s.bytes) else [] := by
  have alike : PassesCrc s.bytes (before ++ [(addr, filter)]) ∧ secFilterMatch s.sec filter = true ↔
      PassesCrc s.bytes before := by
    simp [PassesCrc, all, noCrc, or_imp, forall_and]
  rw [sectionCbs_secOf_any s crc before after once checked, if_congr alike rfl rfl]

end UnionpiTiger.Demux
