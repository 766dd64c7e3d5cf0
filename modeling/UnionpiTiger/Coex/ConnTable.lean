import UnionpiTiger.Coex.Profiles

set_option autoImplicit false

namespace UnionpiTiger.Coex

open Lib

theorem mask_toNat (handle : UInt16) (bound : handle.toNat < 4096) :
    (handle &&& 0xEFF).toNat = 512 * (handle.toNat / 512) + handle.toNat % 256 := by
  have page : ∀ page : Fin 16, page.val &&& 14 = 2 * (page.val / 2) := by decide
  have here : handle.toNat / 256 &&& 14 = 2 * (handle.toNat / 256 / 2) :=
    page ⟨handle.toNat / 256, by omega⟩
  have high : (handle.toNat &&& 3839) / 256 = handle.toNat / 256 &&& 14 :=
    Nat.and_div_two_pow (n := 8)
  have low : (handle.toNat &&& 3839) % 256 = handle.toNat % 256 &&& 255 :=
    Nat.and_mod_two_pow (n := 8)
  have byte : handle.toNat % 256 &&& 255 = handle.toNat % 256 % 256 :=
    Nat.and_two_pow_sub_one_eq_mod (handle.toNat % 256) 8
  have masked : (handle &&& 0xEFF).toNat = handle.toNat &&& 3839 := UInt16.toNat_and handle 0xEFF
  omega

def handles (conns : List ConnProf) : List UInt16 := conns.map (·.handle)

theorem findConnectionByHandle_eq (prof : RtkProf) (handle : UInt16) :
    findConnectionByHandle prof handle =
      (handles prof.connHash).findIdx? (fun other => handle &&& 0xEFF = other) := by
  rw [handles, List.findIdx?_map]
  rfl

def EditsAt (place : Nat) (before after : List ConnProf) : Prop :=
  ∃ edit : ConnProf → ConnProf, (∀ conn, (edit conn).handle = conn.handle) ∧
    after = before.modify place edit

variable {place : Nat} {before middle after : List ConnProf}

theorem EditsAt.refl (place : Nat) (conns : List ConnProf) : EditsAt place conns conns :=
  ⟨id, fun _ => rfl, by simp⟩

theorem EditsAt.trans (first : EditsAt place before middle) (second : EditsAt place middle after) :
    EditsAt place before after := by
  obtain ⟨edit, keeps, rfl⟩ := first
  obtain ⟨again, keepsAgain, rfl⟩ := second
  refine ⟨again ∘ edit, fun conn => ?_, List.modify_modify_eq edit again place before⟩
  rw [Function.comp_apply, keepsAgain, keeps]

theorem EditsAt.set {conn next : ConnProf} (found : before[place]? = some conn)
    (same : next.handle = conn.handle) : EditsAt place before (before.set place next) := by
  refine ⟨fun other => { next with handle := other.handle }, fun _ => rfl, ?_⟩
  apply List.ext_getElem?
  intro index
  rw [List.getElem?_modify, List.getElem?_set]
  by_cases here : place = index
  · subst here
    rw [found]
    simp [(List.getElem?_eq_some_iff.mp found).1, ← same]
  · simp [here]

theorem EditsAt.handles (edits : EditsAt place before after) :
    handles after = handles before := by
  obtain ⟨edit, keeps, rfl⟩ := edits
  apply List.ext_getElem?
  intro index
  simp only [Coex.handles, List.getElem?_map, List.getElem?_modify]
  cases before[index]? with
  | none => simp
  | some conn =>
    by_cases here : place = index <;> simp [here, keeps]

def TouchesOnly (handle : UInt16) (before after : List ConnProf) : Prop :=
  ∀ other, other ≠ handle →
    after.filter (fun conn => conn.handle = other) = before.filter (fun conn => conn.handle = other)

variable {handle : UInt16}

theorem TouchesOnly.append (conns : List ConnProf) (conn : ConnProf) :
    TouchesOnly conn.handle conns (conns ++ [conn]) := by
  intro other distinct
  simp [List.filter_append, Ne.symm distinct]

theorem TouchesOnly.eraseIdx {conn : ConnProf} (found : before[place]? = some conn) :
    TouchesOnly conn.handle before (before.eraseIdx place) := by
  intro other distinct
  obtain ⟨bound, rfl⟩ := List.getElem?_eq_some_iff.mp found
  conv_rhs => rw [← List.take_append_drop place before, List.drop_eq_getElem_cons bound]
  rw [List.eraseIdx_eq_take_drop_succ, List.filter_append, List.filter_append,
    List.filter_cons_of_neg (by simpa using Ne.symm distinct)]

theorem EditsAt.touchesOnly (edits : EditsAt place before after) {conn : ConnProf}
    (found : before[place]? = some conn) : TouchesOnly conn.handle before after := by
  intro other distinct
  obtain ⟨edit, keeps, rfl⟩ := edits
  obtain ⟨bound, rfl⟩ := List.getElem?_eq_some_iff.mp found
  conv_rhs => rw [← List.take_append_drop place before, List.drop_eq_getElem_cons bound]
  rw [List.modify_eq_take_drop, List.drop_eq_getElem_cons bound, List.modifyHead_cons,
    List.filter_append, List.filter_append,
    List.filter_cons_of_neg (by simpa [keeps] using Ne.symm distinct),
    List.filter_cons_of_neg (by simpa using Ne.symm distinct)]

theorem EditsAt.eraseIdx (edits : EditsAt place before after) :
    after.eraseIdx place = before.eraseIdx place := by
  obtain ⟨edit, _, rfl⟩ := edits
  apply List.ext_getElem?
  intro index
  rw [List.getElem?_eraseIdx, List.getElem?_eraseIdx, List.getElem?_modify, List.getElem?_modify]
  split_ifs <;> simp <;> omega

def EditsFound (prof : RtkProf) (handle : UInt16) (after : List ConnProf) : Prop :=
  after = prof.connHash ∨
    ∃ place, findConnectionByHandle prof handle = some place ∧ EditsAt place prof.connHash after

variable {prof : RtkProf}

theorem updateProfileConnection_edits (prof : RtkProf) (place : Nat) (index : Profile)
    (isAdd : Bool) :
    EditsAt place prof.connHash (updateProfileConnection prof place index isAdd).connHash := by
  have conns : (updateProfileConnection prof place index isAdd).connHash =
      (prof.accounts.update place index isAdd).connHash :=
    congrArg Accounts.connHash (updateProfileConnection_accounts prof place index isAdd)
  rw [conns]
  cases found : prof.connHash[place]? with
  | none =>
    have same : (prof.accounts.update place index isAdd).connHash = prof.connHash := by
      cases isAdd <;>
        simp [Accounts.update, Accounts.add, Accounts.remove, RtkProf.accounts, found]
    rw [same]
    exact EditsAt.refl place prof.connHash
  | some conn =>
    cases isAdd with
    | true =>
      simp only [Accounts.update, if_true, Accounts.add, RtkProf.accounts, found]
      exact EditsAt.set found rfl
    | false =>
      simp only [Accounts.update, Bool.false_eq_true, if_false, Accounts.remove, RtkProf.accounts,
        found]
      exact EditsAt.set found rfl

theorem updateHidActiveState_edits (prof : RtkProf) (handle interval : UInt16) :
    EditsFound prof handle (updateHidActiveState prof handle interval).connHash := by
  obtain same | ⟨place, conn, search, found, changed⟩ := updateHidActiveState_cases prof handle interval
  · exact Or.inl (congrArg Accounts.connHash same)
  · obtain ⟨_, _, _, after⟩ | ⟨_, after⟩ := changed
    all_goals
      have conns := congrArg Accounts.connHash after
      simp only [RtkProf.accounts, Accounts.withInterval] at conns
      rw [conns]
      exact Or.inr ⟨place, search, EditsAt.set found rfl⟩

theorem connHash_of_accounts {next : RtkProf} (same : next.accounts = prof.accounts) :
    next.connHash = prof.connHash := congrArg Accounts.connHash same

theorem handleL2capConReq_conns (prof : RtkProf) (handle psm scid : UInt16) (direction : Direction) :
    (handleL2capConReq prof handle psm scid direction).connHash = prof.connHash := by
  have allocated := connHash_of_accounts (malloc_accounts prof)
  have added (index : Profile) (dcid scid : UInt16) :
      (listAllocateAdd prof handle psm index dcid scid).connHash = prof.connHash := by
    simp only [listAllocateAdd]
    split_ifs <;> exact allocated
  unfold handleL2capConReq
  split
  · rfl
  · cases direction <;> simp only <;> split_ifs
    · rfl
    · exact added _ _ _
    · rfl
    · exact added _ _ _

theorem handleL2capConRsp_edits (prof : RtkProf) (handle dcid scid : UInt16) (direction : Direction)
    (result : UInt8) :
    EditsFound prof handle (handleL2capConRsp prof handle dcid scid direction result).connHash := by
  unfold handleL2capConRsp
  split
  · exact Or.inl rfl
  split
  · exact Or.inl rfl
  split_ifs
  · exact Or.inl rfl
  simp only
  split
  · exact Or.inl rfl
  next place search =>
    exact Or.inr ⟨place, search, updateProfileConnection_edits _ place _ true⟩

theorem handleL2capDisconReq_edits (prof : RtkProf) (handle dcid scid : UInt16)
    (direction : Direction) :
    EditsFound prof handle (handleL2capDisconReq prof handle dcid scid direction).connHash := by
  unfold handleL2capDisconReq
  split
  · exact Or.inl rfl
  split
  next info place _ search =>
    have first := updateProfileConnection_edits prof place info.profileIndex false
    refine Or.inr ⟨place, search, ?_⟩
    simp only
    split_ifs
    · exact first.trans (updateProfileConnection_edits _ place .sink false)
    · exact first
  · exact Or.inl rfl

theorem a2dpBusy_edits (prof : RtkProf) (place : Nat) (direction : Direction) (userData : List UInt8) :
    EditsAt place prof.connHash (a2dpBusy prof place direction userData).connHash := by
  have busy := connHash_of_accounts (updateProfileState_accounts prof .a2dp true)
  unfold a2dpBusy
  rw [connHash_of_accounts (vendorCmdToFw_accounts _ _ _)]
  cases direction with
  | outbound =>
    simp only
    rw [busy]
    exact EditsAt.refl place prof.connHash
  | inbound =>
    simp only
    rw [connHash_of_accounts (updateProfileState_accounts _ .sink true), ← busy]
    exact updateProfileConnection_edits _ place .sink true

theorem packetsCount_edits (prof : RtkProf) (handle scid length : UInt16) (direction : Direction)
    (userData : List UInt8) :
    EditsFound prof handle (packetsCount prof handle scid length direction userData).connHash := by
  unfold packetsCount
  split
  · exact Or.inl rfl
  next place search =>
    split
    · split
      · exact Or.inl rfl
      · split_ifs
        · exact Or.inr ⟨place, search, a2dpBusy_edits prof place direction userData⟩
        · exact Or.inl rfl
        · exact Or.inl rfl
        · exact Or.inl rfl
    · exact Or.inl rfl

theorem updateLeProfile_edits (prof : RtkProf) (handle : UInt16) (profileMap : UInt8)
    (isAdd : Bool) :
    EditsFound prof handle (updateLeProfile prof handle profileMap isAdd).connHash := by
  unfold updateLeProfile
  split
  · exact Or.inl rfl
  next place search =>
    refine Or.inr ⟨place, search, ?_⟩
    have hogp := updateProfileConnection_edits prof place .hogp isAdd
    simp only
    split_ifs
    · exact hogp.trans (updateProfileConnection_edits _ place .voice isAdd)
    · exact updateProfileConnection_edits prof place .voice isAdd
    · exact hogp
    · exact EditsAt.refl place prof.connHash

end UnionpiTiger.Coex
