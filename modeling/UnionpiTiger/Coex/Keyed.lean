import UnionpiTiger.Coex.Handles

set_option autoImplicit false

namespace UnionpiTiger.Coex

open Lib

def TableEvent : Type := { event : CoexEvent // ∀ handle ∈ (tableAction event).handle?, handle ≤ 0xEFF }

structure ConnTable where
  prof : RtkProf := rtkParseInit
  connected : UInt16 → Bool := fun _ => false

def ConnTable.step (table : ConnTable) (event : TableEvent) : ConnTable :=
  { prof := coexStep table.prof event.1
    connected :=
      match tableAction event.1 with
      | .opens handle => Function.update table.connected handle true
      | .closes handle => Function.update table.connected handle false
      | _ => table.connected }

structure Keyed (table : ConnTable) : Prop where
  distinct : (handles table.prof.connHash).Nodup
  lookup : ∀ handle, handle ≤ 0xEFF →
    ((foundConnection table.prof handle).isSome ↔ table.connected handle)
  own : ∀ handle, handle ≤ 0xEFF → ∀ conn ∈ foundConnection table.prof handle, conn.handle = handle
  separate : ∀ (event : TableEvent) (handle : UInt16), (tableAction event.1).handle? = some handle →
    TouchesOnly handle table.prof.connHash (coexStep table.prof event.1).connHash

def LastPage (table : ConnTable) (event : TableEvent) : Prop :=
  ∀ handle, tableAction event.1 = .opens handle →
    0xE00 ≤ handle ∧ (findConnectionByHandle table.prof handle = none → table.prof.malloc.1 = true)

variable {prof : RtkProf} {table : ConnTable} {handle : UInt16}

theorem found_iff_mem (prof : RtkProf) (handle : UInt16) :
    (foundConnection prof handle).isSome ↔ handle &&& 0xEFF ∈ handles prof.connHash := by
  have search : (foundConnection prof handle).isSome ↔
      (findConnectionByHandle prof handle).isSome := by
    cases here : findConnectionByHandle prof handle with
    | none => simp [foundConnection, here]
    | some place =>
      obtain ⟨conn, found, _⟩ := find_spec handle here
      simp [foundConnection, here, found]
  rw [search, findConnectionByHandle_eq, List.findIdx?_isSome, List.any_eq_true]
  simp

theorem find_eq_none_iff (prof : RtkProf) (handle : UInt16) :
    findConnectionByHandle prof handle = none ↔ handle &&& 0xEFF ∉ handles prof.connHash := by
  rw [findConnectionByHandle_eq, List.findIdx?_eq_none_iff]
  constructor
  · intro absent mem
    simpa using absent _ mem
  · intro absent other mem
    simp only [decide_eq_false_iff_not]
    rintro rfl
    exact absent mem

theorem foundConnection_handle {conn : ConnProf} (mem : conn ∈ foundConnection prof handle) :
    handle &&& 0xEFF = conn.handle := by
  simp only [foundConnection, Option.mem_def, Option.bind_eq_some_iff] at mem
  obtain ⟨place, search, found⟩ := mem
  obtain ⟨other, here, same⟩ := find_spec handle search
  rw [found] at here
  cases here
  exact same

theorem mask_lastPage (low : 0xE00 ≤ handle) (high : handle ≤ 0xEFF) : handle &&& 0xEFF = handle := by
  have lowNat : 3584 ≤ handle.toNat := low
  have highNat : handle.toNat ≤ 3839 := high
  apply UInt16.toNat_inj.mp
  rw [mask_toNat handle (by omega)]
  omega

theorem mask_eq_lastPage {other : UInt16} (low : 0xE00 ≤ handle) (high : other ≤ 0xEFF)
    (same : other &&& 0xEFF = handle) : other = handle := by
  have lowNat : 3584 ≤ handle.toNat := low
  have highNat : other.toNat ≤ 3839 := high
  apply UInt16.toNat_inj.mp
  have masked := mask_toNat other (by omega)
  rw [same] at masked
  omega

theorem alias_of_lt (below : handle < 0xE00) (kept : handle &&& 0xEFF = handle) :
    ∃ other, other ≤ 0xEFF ∧ other ≠ handle ∧ other &&& 0xEFF = handle &&& 0xEFF := by
  have belowNat : handle.toNat < 3584 := below
  have keptNat := mask_toNat handle (by omega)
  rw [kept] at keptNat
  have sum : (handle + 256).toNat = handle.toNat + 256 := by
    rw [UInt16.toNat_add]
    have value : (256 : UInt16).toNat = 256 := rfl
    omega
  have aliasNat := mask_toNat (handle + 256) (by omega)
  refine ⟨handle + 256, ?_, ?_, ?_⟩
  · have bound : (handle + 256).toNat ≤ 3839 := by omega
    exact bound
  · intro same
    have impossible := congrArg UInt16.toNat same
    omega
  · apply UInt16.toNat_inj.mp
    rw [kept]
    omega

theorem Performs.touchesOnly {action : TableAction} {after : List ConnProf}
    (performs : Performs prof after action) (named : action.handle? = some handle)
    (own : ∀ conn ∈ foundConnection prof handle, conn.handle = handle) :
    TouchesOnly handle prof.connHash after := by
  have edited (place : Nat) (search : findConnectionByHandle prof handle = some place)
      (edits : EditsAt place prof.connHash after) : TouchesOnly handle prof.connHash after := by
    obtain ⟨conn, found, _⟩ := find_spec handle search
    have touched := edits.touchesOnly found
    rw [own conn (foundConnection_mem handle search found)] at touched
    exact touched
  have unchanged (same : after = prof.connHash) : TouchesOnly handle prof.connHash after := by
    intro other _
    rw [same]
  cases action with
  | none => cases named
  | uses _ =>
    cases named
    obtain same | ⟨place, search, edits⟩ := performs
    · exact unchanged same
    · exact edited place search edits
  | opens _ =>
    cases named
    simp only [Performs, Opens] at performs
    cases search : findConnectionByHandle prof handle with
    | some place =>
      rw [search] at performs
      exact edited place search performs
    | none =>
      rw [search] at performs
      simp only at performs
      split_ifs at performs
      · obtain ⟨conn, rfl, rfl⟩ := performs
        exact TouchesOnly.append prof.connHash conn
      · exact unchanged performs
  | closes _ =>
    cases named
    simp only [Performs, Closes] at performs
    cases search : findConnectionByHandle prof handle with
    | some place =>
      rw [search] at performs
      obtain ⟨conn, found, _⟩ := find_spec handle search
      have touched := TouchesOnly.eraseIdx found
      rw [own conn (foundConnection_mem handle search found)] at touched
      rw [performs]
      exact touched
    | none =>
      rw [search] at performs
      exact unchanged performs

structure KeyedHandles (stored : List UInt16) (connected : UInt16 → Bool) : Prop where
  distinct : stored.Nodup
  lookup : ∀ handle, handle ≤ 0xEFF → (handle &&& 0xEFF ∈ stored ↔ connected handle)
  own : ∀ handle, handle ≤ 0xEFF → handle &&& 0xEFF ∈ stored → handle &&& 0xEFF = handle

theorem keyed_iff (table : ConnTable) :
    Keyed table ↔ KeyedHandles (handles table.prof.connHash) table.connected := by
  constructor
  · intro keyed
    refine ⟨keyed.distinct, fun handle bound => ?_, fun handle bound mem => ?_⟩
    · rw [← found_iff_mem]
      exact keyed.lookup handle bound
    · obtain ⟨conn, found⟩ := Option.isSome_iff_exists.mp ((found_iff_mem table.prof handle).mpr mem)
      rw [foundConnection_handle found]
      exact keyed.own handle bound conn found
  · intro keyed
    have own : ∀ handle, handle ≤ 0xEFF →
        ∀ conn ∈ foundConnection table.prof handle, conn.handle = handle := by
      intro handle bound conn found
      rw [← foundConnection_handle found]
      exact keyed.own handle bound
        ((found_iff_mem table.prof handle).mp (Option.isSome_iff_exists.mpr ⟨conn, found⟩))
    refine ⟨keyed.distinct, fun handle bound => ?_, own, fun event handle named => ?_⟩
    · rw [found_iff_mem]
      exact keyed.lookup handle bound
    · exact (coexStep_performs table.prof event.1).touchesOnly named
        (own handle (event.2 handle named))

variable {stored : List UInt16} {connected : UInt16 → Bool}

theorem KeyedHandles.reopen (keyed : KeyedHandles stored connected)
    (present : handle &&& 0xEFF ∈ stored) :
    KeyedHandles stored (Function.update connected handle true) := by
  refine ⟨keyed.distinct, fun other bound => ?_, keyed.own⟩
  by_cases same : other = handle
  · subst same
    simpa using present
  · simpa [same] using keyed.lookup other bound

theorem KeyedHandles.append (keyed : KeyedHandles stored connected) (low : 0xE00 ≤ handle)
    (high : handle ≤ 0xEFF) (absent : handle &&& 0xEFF ∉ stored) :
    KeyedHandles (stored ++ [handle]) (Function.update connected handle true) := by
  have kept := mask_lastPage low high
  rw [kept] at absent
  refine ⟨?_, fun other bound => ?_, fun other bound mem => ?_⟩
  · rw [← List.concat_eq_append]
    exact keyed.distinct.concat absent
  · by_cases same : other = handle
    · subst same
      simp [kept]
    · have unmasked : other &&& 0xEFF ≠ handle := fun masked => same (mask_eq_lastPage low bound masked)
      simpa [same, unmasked] using keyed.lookup other bound
  · obtain old | new := List.mem_append.mp mem
    · exact keyed.own other bound old
    · have masked := List.mem_singleton.mp new
      rw [masked, mask_eq_lastPage low bound masked]

theorem KeyedHandles.remove (keyed : KeyedHandles stored connected) (high : handle ≤ 0xEFF)
    (present : handle &&& 0xEFF ∈ stored) :
    KeyedHandles (stored.erase handle) (Function.update connected handle false) := by
  have kept := keyed.own handle high present
  refine ⟨keyed.distinct.erase handle, fun other bound => ?_, fun other bound mem => ?_⟩
  · rw [keyed.distinct.mem_erase_iff]
    by_cases same : other = handle
    · subst same
      simp [kept]
    · have before := keyed.lookup other bound
      simp only [Function.update_of_ne same, ← before, and_iff_right_iff_imp]
      intro mem masked
      rw [keyed.own other bound mem] at masked
      exact same masked
  · exact keyed.own other bound (List.mem_of_mem_erase mem)

theorem KeyedHandles.absent (keyed : KeyedHandles stored connected)
    (absent : handle &&& 0xEFF ∉ stored) :
    KeyedHandles stored (Function.update connected handle false) := by
  refine ⟨keyed.distinct, fun other bound => ?_, keyed.own⟩
  by_cases same : other = handle
  · subst same
    simpa using absent
  · simpa [same] using keyed.lookup other bound

theorem handles_closes {after : List ConnProf} (keyed : KeyedHandles (handles prof.connHash) connected)
    (high : handle ≤ 0xEFF) (closes : Closes prof handle after) :
    KeyedHandles (handles after) (Function.update connected handle false) := by
  unfold Closes at closes
  cases search : findConnectionByHandle prof handle with
  | none =>
    rw [search] at closes
    rw [closes]
    exact keyed.absent ((find_eq_none_iff prof handle).mp search)
  | some place =>
    rw [search] at closes
    obtain ⟨conn, found, masked⟩ := find_spec handle search
    have stored : (handles prof.connHash)[place]? = some conn.handle := by
      rw [handles, List.getElem?_map, found]
      rfl
    have present : handle &&& 0xEFF ∈ handles prof.connHash := by
      rw [masked]
      exact List.mem_of_getElem? stored
    have erased : handles after = (handles prof.connHash).erase handle := by
      obtain ⟨bound, at_place⟩ := List.getElem?_eq_some_iff.mp stored
      rw [← keyed.own handle high present, masked, ← at_place, keyed.distinct.erase_getElem, closes,
        handles, handles, List.eraseIdx_map]
    rw [erased]
    exact keyed.remove high present

theorem handles_opens {after : List ConnProf} (keyed : KeyedHandles (handles prof.connHash) connected)
    (low : 0xE00 ≤ handle) (high : handle ≤ 0xEFF)
    (memory : findConnectionByHandle prof handle = none → prof.malloc.1 = true)
    (opens : Opens prof handle after) :
    KeyedHandles (handles after) (Function.update connected handle true) := by
  unfold Opens at opens
  cases search : findConnectionByHandle prof handle with
  | none =>
    have absent := (find_eq_none_iff prof handle).mp search
    simp only [search, memory search, if_true] at opens
    obtain ⟨conn, rfl, rfl⟩ := opens
    have appended : handles (prof.connHash ++ [conn]) = handles prof.connHash ++ [conn.handle] := by
      simp [handles]
    rw [appended]
    exact keyed.append low high absent
  | some place =>
    rw [search] at opens
    rw [EditsAt.handles opens]
    apply keyed.reopen
    by_contra absent
    rw [(find_eq_none_iff prof handle).mpr absent] at search
    cases search

theorem Keyed.opened_lastPage (keyed : Keyed table) (high : handle ≤ 0xEFF)
    (connected : table.connected handle = true) : 0xE00 ≤ handle := by
  have keyed := (keyed_iff table).mp keyed
  have present := (keyed.lookup handle high).mpr connected
  have kept := keyed.own handle high present
  by_contra below
  obtain ⟨other, bound, distinct, same⟩ := alias_of_lt (UInt16.not_le.mp below) kept
  have own := keyed.own other bound (by rw [same]; exact present)
  exact distinct (by rw [← own, same, kept])

theorem Keyed.step_iff (keyed : Keyed table) (event : TableEvent) :
    LastPage table event ↔ Keyed (table.step event) := by
  have performs := coexStep_performs table.prof event.1
  have inRange := event.2
  have before := (keyed_iff table).mp keyed
  constructor
  · intro lastPage
    rw [keyed_iff]
    unfold LastPage at lastPage
    unfold ConnTable.step
    cases action : tableAction event.1 with
    | none =>
      rw [action] at performs
      simp only
      rw [performs]
      exact before
    | uses handle =>
      rw [action] at performs
      simp only
      obtain same | ⟨place, _, edits⟩ := performs
      · rw [same]
        exact before
      · rw [edits.handles]
        exact before
    | closes handle =>
      rw [action] at performs inRange
      exact handles_closes before (inRange handle rfl) performs
    | opens handle =>
      rw [action] at performs inRange
      obtain ⟨low, memory⟩ := lastPage handle action
      exact handles_opens before low (inRange handle rfl) memory performs
  · intro after handle action
    rw [action] at performs inRange
    have high : handle ≤ 0xEFF := inRange handle rfl
    have connected : (table.step event).connected handle = true := by
      simp [ConnTable.step, action]
    refine ⟨after.opened_lastPage high connected, fun search => ?_⟩
    by_contra refused
    simp only [Performs, Opens, search, refused, if_false] at performs
    have present := (((keyed_iff _).mp after).lookup handle high).mpr connected
    have absent := (find_eq_none_iff table.prof handle).mp search
    simp only [ConnTable.step, performs] at present
    exact absent present

theorem connTable_keyed_iff (events : List TableEvent) :
    Along ConnTable.step LastPage {} events ↔
      ∀ first, first <+: events → Keyed (run ConnTable.step {} first) := by
  have init : Keyed {} := by
    rw [keyed_iff]
    exact ⟨List.nodup_nil, by simp [handles, rtkParseInit], by simp [handles, rtkParseInit]⟩
  exact along_iff_invariant ConnTable.step LastPage Keyed
    (fun _ event keyed => keyed.step_iff event) {} init events

theorem handle_inRange {event : CoexEvent} (handle : UInt16)
    (known : (tableAction event).handle? = some handle) (low : handle ≤ 0xEFF) :
    ∀ other ∈ (tableAction event).handle?, other ≤ 0xEFF := by
  intro other mem
  rw [known] at mem
  cases mem
  exact low

theorem connTable_not_keyed :
    ¬ Keyed (run ConnTable.step {} [⟨connectionCompleteEvt 1 1, handle_inRange 1 rfl (by decide)⟩]) ∧
    (run coexStep rtkParseInit
      [connectionCompleteEvt 1 1, disconnectionCompleteEvt 0x101]).connHash.length = 0 ∧
    ¬ Keyed (run ConnTable.step {}
      [⟨connectionCompleteEvt 0x101 1, handle_inRange 0x101 rfl (by decide)⟩]) := by
  refine ⟨fun keyed => ?_, by decide, fun keyed => ?_⟩
  · have low : (0xE00 : UInt16) ≤ 1 := keyed.opened_lastPage (by decide) (by decide)
    exact absurd low (by decide)
  · have low : (0xE00 : UInt16) ≤ 0x101 := keyed.opened_lastPage (by decide) (by decide)
    exact absurd low (by decide)

end UnionpiTiger.Coex
