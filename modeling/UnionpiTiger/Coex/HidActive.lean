import UnionpiTiger.Coex.Handles
import UnionpiTiger.Coex.HidView

set_option autoImplicit false

namespace UnionpiTiger.Coex

open Lib

def HidActive (prof : RtkProf) : Prop := (hidView prof).Agrees

def Raises (prof : RtkProf) (handle interval : UInt16) : Prop :=
  ∃ conn ∈ foundConnection prof handle, isSet conn.profileBitmap .hid = true ∧ interval < 60 ∧
    intervalBit conn = false

def hits : Int8 → Nat → Bool
  | _, 0 => false
  | count, k + 1 => decide (count - 1 = 0) || hits (count - 1) k

def hidRemovals (prof : RtkProf) (conn : ConnProf) (handle : UInt16) : Nat :=
  match conn.type with
  | .l2cap => prof.profileList.countP fun info => info.establishedOn handle ∧ info.profileIndex = .hid
  | .sco => 0
  | .le => 1

def RemovalFits (prof : RtkProf) (conn : ConnProf) (k : Nat) : Prop :=
  0 < (prof.profileRefcount .hidInterval).toInt →
    (hits (prof.profileRefcount .hid) k = true ↔
      hits (conn.profileRefcount .hid) k = true ∧ intervalBit conn = true ∧
      (prof.profileRefcount .hidInterval).toInt = 1)

def Opened (prof : RtkProf) (handle : UInt16) : Prop :=
  (foundConnection prof handle).isSome ∨ prof.malloc.1 = true ∧ handle &&& 0xEFF = handle

def HidEvent (prof : RtkProf) : HciEvent → Prop
  | .modeChange handle interval | .leConnectionUpdate handle interval =>
    Raises prof handle interval → prof.Room .hidInterval
  | .connectionComplete status handle _ => status = 0 →
      ∀ conn ∈ foundConnection prof handle, intervalBit conn = false
  | .leConnectionComplete status handle interval => status = 0 →
    (∀ conn ∈ foundConnection prof handle, intervalBit conn = false) ∧
      (interval < 60 → Opened prof handle → prof.Room .hidInterval)
  | .disconnectionComplete status handle => status = 0 → ∀ conn ∈ foundConnection prof handle,
    (intervalBit conn = true → hits (conn.profileRefcount .hid) (hidRemovals prof conn handle) = true) ∧
      RemovalFits prof conn (hidRemovals prof conn handle)
  | _ => True

def HidPdu (prof : RtkProf) (direction : Direction) : L2capPdu → Prop
  | .disconnectionReq handle dcid scid =>
    ∀ info ∈ (findDisconnected prof handle dcid scid direction).bind (prof.profileList[·]?),
      info.profileIndex = .hid →
      ∀ conn ∈ foundConnection prof handle, RemovalFits prof conn 1
  | _ => True

def HidSafe (prof : RtkProf) : CoexEvent → Prop
  | .hci msg => HidEvent prof (decodeEvent msg)
  | .acl pp direction => HidPdu prof direction (decodeL2cap pp)
  | _ => True

variable {prof : RtkProf} {place : Nat} {conn : ConnProf}

theorem hidView_notify (prof : RtkProf) : hidView (rtkNotifyProfileinfoToFw prof) = hidView prof :=
  hidView_of_accounts (rtkNotifyProfileinfoToFw_accounts prof)
    (by rw [hidBusy, rtkNotifyProfileinfoToFw_status, hidBusy])

theorem hidView_raised (bitmap : UInt8) :
    hidView { prof with
        connHash := prof.connHash.set place { conn with profileBitmap := bitmap ||| bit .hidInterval }
        profileRefcount := increment prof.profileRefcount .hidInterval
        profileStatus := if increment prof.profileRefcount .hidInterval .hidInterval = 1 then
          prof.profileStatus ||| bit .hid else prof.profileStatus } = (hidView prof).raise place := by
  have counted : increment prof.profileRefcount .hidInterval .hidInterval =
      prof.profileRefcount .hidInterval + 1 :=
    Function.update_self ..
  apply HidView.ext
  · simp only [hidView, HidView.raise, counted]
    split_ifs with first <;> simp [first]
  · exact counted
  · simp only [hidView, HidView.raise, List.map_set]
    simp

theorem hidView_lowered (bitmap : UInt8) :
    hidView { prof with
        connHash := prof.connHash.set place { conn with profileBitmap := bitmap &&& ~~~ bit .hidInterval }
        profileRefcount := decrement prof.profileRefcount .hidInterval
        profileStatus := if decrement prof.profileRefcount .hidInterval .hidInterval = 0 then
          prof.profileStatus &&& ~~~ bit .hid else prof.profileStatus } =
            (hidView prof).lower place := by
  have counted : decrement prof.profileRefcount .hidInterval .hidInterval =
      prof.profileRefcount .hidInterval - 1 :=
    Function.update_self ..
  apply HidView.ext
  · simp only [hidView, HidView.lower, counted]
    split_ifs with last <;> simp [last]
  · exact counted
  · simp only [hidView, HidView.lower, List.map_set]
    simp

theorem updateHidActiveState_hidView (prof : RtkProf) (handle interval : UInt16) :
    (Raises prof handle interval ∧ ∃ place, (hidView prof).bits[place]? = some false ∧
        hidView (updateHidActiveState prof handle interval) = (hidView prof).raise place) ∨
      (¬ Raises prof handle interval ∧ (hidView (updateHidActiveState prof handle interval) = hidView prof ∨
        ∃ place, (hidView prof).bits[place]? = some true ∧
          hidView (updateHidActiveState prof handle interval) = (hidView prof).lower place)) := by
  cases search : findConnectionByHandle prof handle with
  | none =>
    refine .inr ⟨?_, .inl (by rw [updateHidActiveState, search])⟩
    rintro ⟨conn, there, -⟩
    simp [foundConnection, search] at there
  | some place =>
    obtain ⟨conn, found, -⟩ := find_spec handle search
    have here : foundConnection prof handle = some conn := by simp [foundConnection, search, found]
    have raises : Raises prof handle interval ↔
        isSet conn.profileBitmap .hid = true ∧ interval < 60 ∧ intervalBit conn = false := by
      simp [Raises, here]
    have bit := hidView_bits found
    rw [raises]
    simp only [updateHidActiveState, search, found]
    cases hid : isSet conn.profileBitmap .hid with
    | false => exact .inr ⟨fun raises => Bool.false_ne_true raises.1, .inl rfl⟩
    | true =>
      simp only [Bool.not_true, Bool.false_eq_true, if_false]
      unfold intervalBit at bit ⊢
      by_cases small : interval < 60
      · rw [if_pos small]
        cases set : isSet conn.profileBitmap .hidInterval with
        | false =>
          refine .inl ⟨⟨trivial, small, rfl⟩, place, by rw [bit, set], ?_⟩
          simp only [Bool.not_false, if_true]
          rw [hidView_notify]
          exact hidView_raised conn.profileBitmap
        | true => exact .inr ⟨fun raises => absurd raises.2.2 (by decide), .inl rfl⟩
      · rw [if_neg small]
        cases set : isSet conn.profileBitmap .hidInterval with
        | false => exact .inr ⟨fun raises => small raises.2.1, .inl rfl⟩
        | true =>
          refine .inr ⟨fun raises => small raises.2.1, .inr ⟨place, by rw [bit, set], ?_⟩⟩
          simp only [if_true]
          rw [hidView_notify]
          exact hidView_lowered conn.profileBitmap

theorem HidActive.updateHidActiveState_iff (active : HidActive prof) (handle interval : UInt16) :
    (Raises prof handle interval → prof.Room .hidInterval) ↔
      HidActive (updateHidActiveState prof handle interval) := by
  rcases updateHidActiveState_hidView prof handle interval with ⟨raises, place, here,
    raised⟩ | ⟨not, same | ⟨place, here, lowered⟩⟩
  · rw [HidActive, raised, active.raise_iff here]
    exact ⟨fun room => room raises, fun room _ => room⟩
  · rw [HidActive, same]
    exact iff_of_true (fun raises => absurd raises not) active
  · rw [HidActive, lowered]
    exact iff_of_true (fun raises => absurd raises not) (active.lower here)

theorem HidView.removed_none (view : HidView) (place : Nat) :
    view.removed place false false = view := by
  simp [HidView.removed]

theorem removeEstablished_hidView (handle : UInt16) (infos : List ProfInfo)
    (found : prof.connHash[place]? = some conn)
    (mapped : ∀ info ∈ infos, info.profileIndex ≠ .hidInterval) :
    hidView (removeEstablished place handle prof infos) =
      (hidView prof).removed place
        (hits (prof.profileRefcount .hid) (infos.countP fun info => info.establishedOn handle ∧
          info.profileIndex = .hid))
        (hits (conn.profileRefcount .hid)
          (infos.countP fun info => info.establishedOn handle ∧ info.profileIndex = .hid)) := by
  induction infos generalizing prof conn with
  | nil => exact (HidView.removed_none _ _).symm
  | cons info rest ih =>
    have restMapped : ∀ other ∈ rest, other.profileIndex ≠ .hidInterval :=
      fun other there => mapped other (List.mem_cons_of_mem info there)
    have proper := mapped info List.mem_cons_self
    rw [removeEstablished, List.countP_cons]
    by_cases established : info.establishedOn handle = true
    · rw [if_pos established, ih (connHash_remove found) restMapped]
      by_cases hid : info.profileIndex = .hid
      · obtain ⟨view, all, here⟩ := hidView_remove_hid found
        rw [hid, view, all, here, HidView.removed_removed]
        simp [established, hits]
      · obtain ⟨view, all, here⟩ := hidView_remove_other found proper hid
        rw [view, all, here]
        simp [hid]
    · rw [if_neg established, ih found restMapped]
      simp [established]

theorem optional_other (index : Profile) (found : prof.connHash[place]? = some conn)
    (proper : index ≠ .hidInterval) (other : index ≠ .hid) :
    ∃ next, (if connHas prof place index then updateProfileConnection prof place index false
      else prof).connHash[place]? =
        some next ∧
      hidView (if connHas prof place index then updateProfileConnection prof place index false
        else prof) = hidView prof ∧
      (if connHas prof place index then updateProfileConnection prof place index false
        else prof).profileRefcount .hid =
        prof.profileRefcount .hid ∧ next.profileRefcount .hid = conn.profileRefcount .hid := by
  split_ifs
  · obtain ⟨view, all, here⟩ := hidView_remove_other found proper other
    exact ⟨conn.remove index, connHash_remove found, view, all, here⟩
  · exact ⟨conn, found, rfl, rfl, rfl⟩

theorem disconnectProfiles_hidView (handle : UInt16) (found : prof.connHash[place]? = some conn)
    (mapped : ∀ info ∈ prof.profileList, info.profileIndex ≠ .hidInterval) :
    hidView (disconnectProfiles prof place handle conn.type) =
      (hidView prof).removed place (hits (prof.profileRefcount .hid) (hidRemovals prof conn handle))
        (hits (conn.profileRefcount .hid) (hidRemovals prof conn handle)) := by
  cases type : conn.type with
  | l2cap =>
    simp only [disconnectProfiles, hidRemovals, type]
    exact removeEstablished_hidView handle prof.profileList found mapped
  | sco =>
    simp only [disconnectProfiles, hidRemovals, type]
    rw [(hidView_remove_other found (by decide) (by decide)).1]
    exact (HidView.removed_none _ _).symm
  | le =>
    simp only [disconnectProfiles, hidRemovals, type]
    obtain ⟨first, foundFirst, viewFirst, allFirst, hereFirst⟩ :=
      optional_other .hogp found (by decide) (by decide)
    obtain ⟨second, foundSecond, viewSecond, allSecond, hereSecond⟩ :=
      optional_other .voice foundFirst (by decide) (by decide)
    obtain ⟨view, -, -⟩ := hidView_remove_hid foundSecond
    rw [view, viewSecond, viewFirst, allSecond, allFirst, hereSecond, hereFirst]
    simp [hits]

section Opening

variable {handle : UInt16} {type : ConnType}

theorem hidView_malloc (prof : RtkProf) : hidView prof.malloc.2 = hidView prof :=
  hidView_of_accounts (malloc_accounts prof) (by rw [hidBusy, malloc_status, hidBusy])

theorem openConnection_opened (prof : RtkProf) (handle : UInt16) (type : ConnType) :
    (∃ place conn, findConnectionByHandle prof handle = some place ∧ prof.connHash[place]? = some conn ∧
        openConnection prof handle type = (some place, resetConnection prof place conn.handle type)) ∨
      (findConnectionByHandle prof handle = none ∧ prof.malloc.1 = true ∧
        openConnection prof handle type = (some prof.connHash.length, { prof.malloc.2 with
          connHash := prof.connHash ++ [{ handle := handle, type := type }] })) ∨
      (findConnectionByHandle prof handle = none ∧ prof.malloc.1 = false ∧
        openConnection prof handle type = (none, prof.malloc.2)) := by
  have kept := connHash_of_accounts (malloc_accounts prof)
  unfold openConnection
  cases search : findConnectionByHandle prof handle with
  | some place =>
    obtain ⟨conn, found, -⟩ := find_spec handle search
    exact .inl ⟨place, conn, rfl, found, by simp only [found]⟩
  | none =>
    cases allocated : prof.malloc.1 with
    | true => exact .inr (.inl ⟨rfl, rfl, by simp [allocateConnection, allocated, kept]⟩)
    | false => exact .inr (.inr ⟨rfl, rfl, by simp [allocateConnection, allocated]⟩)

theorem hidView_reset (prof : RtkProf) (place : Nat) (handle : UInt16) (type : ConnType) :
    hidView (resetConnection prof place handle type) =
      (hidView prof).withBits ((hidView prof).bits.set place false) := by
  apply HidView.ext
  · rfl
  · rfl
  · simp only [hidView, resetConnection, HidView.withBits, List.map_set]
    simp

theorem hidView_appended (prof : RtkProf) (handle : UInt16) (type : ConnType) :
    hidView { prof.malloc.2 with connHash := prof.connHash ++ [{ handle := handle, type := type }] } =
      (hidView prof).withBits ((hidView prof).bits ++ [false]) := by
  have same := hidView_malloc prof
  apply HidView.ext
  · exact (congrArg HidView.status same :)
  · exact (congrArg HidView.active same :)
  · simp [hidView, HidView.withBits]

theorem opened_active_iff (active : HidActive prof) (handle : UInt16) (type : ConnType) :
    (∀ conn ∈ foundConnection prof handle, intervalBit conn = false) ↔
      HidActive (openConnection prof handle type).2 := by
  rcases openConnection_opened prof handle type with
    ⟨place, conn, search, found, opened⟩ | ⟨search, -, opened⟩ | ⟨search, -, opened⟩
  · have here : foundConnection prof handle = some conn := by simp [foundConnection, search, found]
    have next := HidView.count_set (hidView prof).bits (hidView_bits found) false
    rw [if_neg Bool.false_ne_true] at next
    rw [opened, HidActive, hidView_reset,
      active.withBits_iff (by omega : _ = _ + if intervalBit conn then 1 else 0), here]
    simp
  · have none : foundConnection prof handle = none := by simp [foundConnection, search]
    rw [opened, none, HidActive, hidView_appended,
      active.withBits_iff (by simp : _ = _ + if false then 1 else 0)]
    simp
  · have none : foundConnection prof handle = none := by simp [foundConnection, search]
    rw [opened, none, HidActive, hidView_malloc]
    exact iff_of_true (fun conn there => absurd there (Option.not_mem_none conn)) active

theorem hidView_endPaging (prof : RtkProf) (operation : BtOperation) :
    hidView (endPaging prof operation) = hidView prof := by
  refine hidView_of_accounts (endPaging_accounts prof operation) ?_
  unfold endPaging hidBusy
  split_ifs <;> rfl

theorem HidActive.connectionComplete_iff (active : HidActive prof) (status : UInt8)
    (handle : UInt16) (linkType : UInt8) :
    HidEvent prof (.connectionComplete status handle linkType) ↔
      HidActive (rtkHandleConnectionCompleteEvt prof status handle linkType) := by
  have paged : HidActive (endPaging prof .pageSuccessEnd) := by rwa [HidActive, hidView_endPaging]
  change (status = 0 → ∀ conn ∈ foundConnection prof handle, intervalBit conn = false) ↔ _
  unfold rtkHandleConnectionCompleteEvt
  by_cases good : status = 0
  · rw [if_pos good, ← foundConnection_of_accounts (endPaging_accounts prof .pageSuccessEnd) handle]
    simp only [good, forall_const]
    split_ifs
    · rw [opened_active_iff paged handle .sco]
      rcases openConnection (endPaging prof .pageSuccessEnd) handle .sco with ⟨_ | place, next⟩
      · exact Iff.rfl
      · unfold HidActive
        rw [hidView_add (by decide)]
    · exact opened_active_iff paged handle .l2cap
  · rw [if_neg good, HidActive, hidView_endPaging]
    exact iff_of_true (fun zero => absurd zero good) active

def HidView.Off (view : HidView) : Prop := view.active.toInt = view.bits.count true + 1

theorem Off.not_active (off : (hidView prof).Off) (handle interval : UInt16) :
    ¬ HidActive (updateHidActiveState prof handle interval) := by
  unfold HidView.Off at off
  intro after
  have total := after.count
  rcases updateHidActiveState_hidView prof handle interval with ⟨-, place, here, raised⟩ | ⟨-,
    same | ⟨place, here, lowered⟩⟩
  · have next := HidView.count_set (hidView prof).bits here true
    rw [if_neg Bool.false_ne_true, if_pos rfl] at next
    rw [raised] at total
    simp only [HidView.raise] at total
    have low := (hidView prof).active.le_toInt
    have high := (hidView prof).active.toInt_lt
    rcases Int.lt_or_le (hidView prof).active.toInt 127 with room | full
    · rw [toInt_add_one _ room] at total
      omega
    · have top : (hidView prof).active = 127 := Int8.toInt_inj.mp (by
        change (hidView prof).active.toInt = 127
        omega)
      have wrapped : ((127 : Int8) + 1).toInt = -128 := by decide
      rw [top, wrapped] at total
      omega
  · rw [same] at total
    omega
  · have next := HidView.count_set (hidView prof).bits here false
    rw [if_pos rfl, if_neg Bool.false_ne_true] at next
    rw [lowered] at total
    simp only [HidView.lower] at total
    rw [toInt_sub_one _ (by omega)] at total
    omega

theorem raises_fresh {interval : UInt16} {found : Option ConnProf}
    (here : foundConnection prof handle = found.map fun conn => conn.add .hid)
    (fresh : ∀ conn ∈ found, conn.profileBitmap = 0 ∧ conn.profileRefcount .hid = 0) :
    Raises prof handle interval ↔ interval < 60 ∧ found.isSome := by
  unfold Raises
  rw [here]
  cases found with
  | none => simp
  | some conn =>
    obtain ⟨bitmap, count⟩ := fresh conn rfl
    have hid : isSet (conn.add .hid).profileBitmap .hid = true := by simp [ConnProf.add, count]
    have clear : isSet (bit .hid) .hidInterval = false := by decide
    have bit : intervalBit (conn.add .hid) = false := by
      simp [intervalBit, ConnProf.add, bitmap, count, clear]
    simp [hid, bit]

theorem foundConnection_added {next : RtkProf} {place : Nat} {index : Profile}
    (search : ∀ other, findConnectionByHandle next handle = some other → other = place) :
    foundConnection (updateProfileConnection next place index true) handle =
      (foundConnection next handle).map fun conn => conn.add index := by
  unfold foundConnection
  rw [findConnectionByHandle_of_handles (updateProfileConnection_edits next place index true).handles]
  cases found : findConnectionByHandle next handle with
  | none => rfl
  | some other =>
    obtain rfl := search other found
    obtain ⟨conn, entry, -⟩ := find_spec handle found
    obtain ⟨inside, same⟩ := List.getElem?_eq_some_iff.mp entry
    simp [update_conns entry, inside, same]

theorem room_of_view {next : RtkProf} (same : (hidView next).active = (hidView prof).active) :
    next.Room .hidInterval ↔ prof.Room .hidInterval := by
  change (hidView next).active.toInt < 127 ↔ _
  rw [same]
  rfl

theorem HidActive.fresh_iff {next : RtkProf} {place : Nat} {interval : UInt16}
    (active : HidActive next)
    (search : ∀ other, findConnectionByHandle next handle = some other → other = place)
    (fresh : ∀ conn ∈ foundConnection next handle, conn.profileBitmap = 0 ∧
      conn.profileRefcount .hid = 0) :
    (interval < 60 → (foundConnection next handle).isSome → next.Room .hidInterval) ↔
      HidActive (updateHidActiveState (updateProfileConnection next place .hid true) handle
        interval) := by
  have view : hidView (updateProfileConnection next place .hid true) = hidView next :=
    hidView_add (by decide)
  have added : HidActive (updateProfileConnection next place .hid true) := by rwa [HidActive, view]
  have room := room_of_view (congrArg HidView.active view)
  rw [← added.updateHidActiveState_iff, raises_fresh (foundConnection_added search) fresh,
    room, and_imp]

theorem HidActive.openedLe_iff (active : HidActive prof) (handle interval : UInt16) :
    ((∀ conn ∈ foundConnection prof handle, intervalBit conn = false) ∧
        (interval < 60 → Opened prof handle → prof.Room .hidInterval)) ↔
      HidActive (match openConnection prof handle .le with
        | (none, next) => next
        | (some hciConn, next) =>
          updateHidActiveState (updateProfileConnection next hciConn .hid true) handle interval) := by
  rcases openConnection_opened prof handle .le with
    ⟨place, conn, search, found, opened⟩ | ⟨search, allocated, opened⟩ | ⟨search, refused, opened⟩
  · have here : foundConnection prof handle = some conn := by simp [foundConnection, search, found]
    have inside := (List.getElem?_eq_some_iff.mp found).1
    have edits : EditsAt place prof.connHash
        (resetConnection prof place conn.handle .le).connHash := .set found rfl
    have again : findConnectionByHandle (resetConnection prof place conn.handle .le) handle =
        some place := by
      rw [findConnectionByHandle_of_handles edits.handles, search]
    have entry : foundConnection (resetConnection prof place conn.handle .le) handle =
        some { handle := conn.handle, type := .le } := by
      rw [foundConnection, again, Option.bind_some, resetConnection]
      simp [inside]
    have view := hidView_reset prof place conn.handle .le
    rw [opened]
    dsimp only
    cases bit : intervalBit conn with
    | true =>
      refine iff_of_false (fun safe => ?_) (Off.not_active ?_ handle interval)
      · have clear := safe.1 conn here
        rw [bit] at clear
        cases clear
      · have less := HidView.count_set (hidView prof).bits (hidView_bits found) false
        rw [bit, if_pos rfl, if_neg Bool.false_ne_true] at less
        rw [hidView_add (by decide), view, HidView.Off]
        have count := active.count
        simp only [HidView.withBits]
        omega
    | false =>
      have same : hidView (resetConnection prof place conn.handle .le) = hidView prof := by
        have kept := set_bit_self found
        rw [bit] at kept
        rw [view, kept]
        rfl
      have kept : HidActive (resetConnection prof place conn.handle .le) := by rwa [HidActive, same]
      rw [← kept.fresh_iff (fun other there => Option.some.inj (there.symm.trans again))
        (by simp [entry]), entry]
      simp [here, bit, Opened]
      rfl
  · have none : foundConnection prof handle = none := by simp [foundConnection, search]
    have view := hidView_appended prof handle .le
    rw [opened]
    dsimp only
    generalize grown : ({ prof.malloc.2 with
      connHash := prof.connHash ++ [{ handle := handle, type := .le }] } : RtkProf) = next at view
    have conns : next.connHash = prof.connHash ++ [{ handle := handle, type := .le }] := by rw [← grown]
    have fits : findConnectionByHandle next handle =
        if handle &&& 0xEFF = handle then some prof.connHash.length else Option.none := by
      rw [findConnectionByHandle_append conns, search, Option.none_or]
    have entry : foundConnection next handle =
        if handle &&& 0xEFF = handle then some { handle := handle, type := .le } else Option.none := by
      rw [foundConnection, fits]
      split_ifs
      · simp [conns]
      · rfl
    have kept : HidActive next := by
      rw [HidActive, view, active.withBits_iff (by simp : _ = _ + if false then 1 else 0)]
    have last : ∀ other, findConnectionByHandle next handle = some other →
        other = prof.connHash.length := by
      intro other there
      rw [fits] at there
      split_ifs at there
      exact (Option.some.inj there).symm
    have fresh : ∀ conn ∈ foundConnection next handle, conn.profileBitmap = 0 ∧
        conn.profileRefcount .hid = 0 := by
      rw [entry]
      split_ifs <;> simp
    rw [← kept.fresh_iff last fresh, entry, room_of_view (congrArg HidView.active view :)]
    simp [none, Opened, allocated]
  · have none : foundConnection prof handle = none := by simp [foundConnection, search]
    rw [opened, none]
    dsimp only
    rw [HidActive, hidView_malloc]
    refine iff_of_true ⟨fun conn there => absurd there (Option.not_mem_none conn),
      fun _ either => ?_⟩ active
    simp [Opened, none, refused] at either

end Opening

end UnionpiTiger.Coex
