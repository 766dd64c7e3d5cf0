import Mathlib.Data.Finset.Card
import Mathlib.Data.List.Nodup
import UnionpiTiger.Scatter.Slots

set_option autoImplicit false

namespace UnionpiTiger.Scatter

namespace Slots

variable {s : Slots} {id other : Nat} {slot : Slot}

structure Unlisted (s : Slots) (id : Nat) : Prop where
  free : id ∉ s.freeList
  map : ∀ sid, id ∉ s.slotListMap sid
  empty : (s.slot id).pagemap = ∅

structure Listed (s : Slots) : Prop where
  freeNodup : s.freeList.Nodup
  free : ∀ id ∈ s.freeList, id ∈ s.live
  mapNodup : ∀ sid, (s.slotListMap sid).Nodup
  map : ∀ sid, ∀ id ∈ s.slotListMap sid, id ∈ s.live ∧ (s.slot id).sid = sid
  fresh : ∀ id ∈ s.live, id < s.next
  counted : ∀ id, (s.slot id).allocedPageNum = (s.slot id).pagemap.card

@[simp] theorem put_slot : (s.put id slot).slot id = slot := Function.update_self ..

theorem put_slot_of_ne (apart : other ≠ id) : (s.put id slot).slot other = s.slot other :=
  Function.update_of_ne apart ..

theorem Unlisted.put (unlisted : s.Unlisted other) (apart : other ≠ id) :
    (s.put id slot).Unlisted other where
  free := unlisted.free
  map := unlisted.map
  empty := by
    rw [put_slot_of_ne apart]
    exact unlisted.empty

theorem Unlisted.eraseFree (unlisted : s.Unlisted other) (id : Nat) :
    Unlisted { s with freeList := s.freeList.erase id } other where
  free there := unlisted.free (List.mem_of_mem_erase there)
  map := unlisted.map
  empty := unlisted.empty

theorem Unlisted.relist (unlisted : s.Unlisted other) (apart : other ≠ id) :
    (s.relist id).Unlisted other := by
  unfold Slots.relist
  split
  · exact
      { free := fun there => by
          rcases List.mem_append.mp there with old | new
          · exact unlisted.free old
          · exact apart (List.mem_singleton.mp new)
        map := unlisted.map
        empty := unlisted.empty }
  · exact unlisted

theorem slotFreePage_put (s : Slots) (id addr : Nat) :
    (s.slotFreePage id addr).1 = s ∨ (s.slotFreePage id addr).2 = 0 ∧
      (s.slot id).addr2Bit addr ∈ (s.slot id).pagemap ∧
      (s.slotFreePage id addr).1 = s.put id { s.slot id with
        pagemap := (s.slot id).pagemap.erase ((s.slot id).addr2Bit addr)
        allocedPageNum := (s.slot id).allocedPageNum - 1 } := by
  unfold slotFreePage
  dsimp only
  split
  · exact .inl rfl
  split
  rotate_left
  · exact .inl rfl
  split
  next out => exact .inr ⟨rfl, out, rfl⟩
  next => exact .inl rfl

theorem fillBit_put (s : Slots) (id : Nat) (fill : Fill) :
    (s.fillBit id fill).1 = s ∨ fill.bit ∉ (s.slot id).pagemap ∧
      (s.fillBit id fill).1 = s.put id { s.slot id with
        pagemap := insert fill.bit (s.slot id).pagemap, allocedPageNum :=
          (s.slot id).allocedPageNum + 1 } := by
  unfold fillBit
  dsimp only
  split
  · exact .inl rfl
  next spare => exact .inr ⟨spare, rfl⟩

namespace Listed

theorem put (listed : s.Listed) (same : slot.sid = (s.slot id).sid)
    (counted : slot.allocedPageNum = slot.pagemap.card) : (s.put id slot).Listed where
  freeNodup := listed.freeNodup
  free := listed.free
  mapNodup := listed.mapNodup
  map sid a there := by
    refine ⟨(listed.map sid a there).1, ?_⟩
    by_cases here : a = id
    · rw [here, put_slot, same, ← here]
      exact (listed.map sid a there).2
    · rw [put_slot_of_ne here]
      exact (listed.map sid a there).2
  fresh := listed.fresh
  counted a := by
    by_cases here : a = id
    · rw [here, put_slot]
      exact counted
    · rw [put_slot_of_ne here]
      exact listed.counted a

theorem eraseFree (listed : s.Listed) (id : Nat) :
    Listed { s with freeList := s.freeList.erase id } where
  freeNodup := listed.freeNodup.erase id
  free a there := listed.free a (List.mem_of_mem_erase there)
  mapNodup := listed.mapNodup
  map := listed.map
  fresh := listed.fresh
  counted := listed.counted

theorem relist (listed : s.Listed) (live : id ∈ s.live) : (s.relist id).Listed := by
  unfold Slots.relist
  split
  next here =>
    exact
      { freeNodup := by
          refine List.Nodup.append listed.freeNodup (List.nodup_singleton id) ?_
          rw [List.disjoint_singleton]
          exact here.1
        free := fun a there => by
          rcases List.mem_append.mp there with old | new
          · exact listed.free a old
          · rw [List.mem_singleton.mp new]
            exact live
        mapNodup := listed.mapNodup
        map := listed.map
        fresh := listed.fresh
        counted := listed.counted }
  next => exact listed

theorem slotFreePage (listed : s.Listed) (addr : Nat) : (s.slotFreePage id addr).1.Listed := by
  rcases slotFreePage_put s id addr with same | ⟨-, out, same⟩
  · rw [same]
    exact listed
  · rw [same]
    refine listed.put rfl ?_
    have positive := Finset.card_pos.mpr ⟨_, out⟩
    have counted := listed.counted id
    change (s.slot id).allocedPageNum - 1 = ((s.slot id).pagemap.erase _).card
    rw [Finset.card_erase_of_mem out]
    omega

theorem takeOut (listed : s.Listed) : (s.slotTakeOut id).1.Listed := by
  unfold Slots.slotTakeOut
  dsimp only
  split
  · exact listed
  · exact
      { freeNodup := listed.freeNodup.erase id
        free := fun a there => listed.free a (List.mem_of_mem_erase there)
        mapNodup := fun sid => by
          change (Function.update s.slotListMap _ _ sid).Nodup
          by_cases here : sid = (s.slot id).sid
          · rw [here, Function.update_self]
            exact (listed.mapNodup _).erase id
          · rw [Function.update_of_ne here]
            exact listed.mapNodup sid
        map := fun sid a there => by
          change a ∈ Function.update s.slotListMap _ _ sid at there
          by_cases here : sid = (s.slot id).sid
          · rw [here, Function.update_self] at there
            rw [here]
            exact listed.map _ a (List.mem_of_mem_erase there)
          · rw [Function.update_of_ne here] at there
            exact listed.map sid a there
        fresh := listed.fresh
        counted := listed.counted }

theorem takenOut (listed : s.Listed) (done : (s.slotTakeOut id).2 = true) :
    (s.slotTakeOut id).1.Unlisted id := by
  unfold Slots.slotTakeOut at done ⊢
  dsimp only at done ⊢
  split at done
  · cases done
  next refused =>
    rw [if_neg refused]
    exact
      { free := listed.freeNodup.not_mem_erase
        map := fun sid there => by
          change id ∈ Function.update s.slotListMap _ _ sid at there
          by_cases here : sid = (s.slot id).sid
          · rw [here, Function.update_self] at there
            exact (listed.mapNodup _).not_mem_erase there
          · rw [Function.update_of_ne here] at there
            exact here (listed.map sid id there).2.symm
        empty := by
          simp only [Bool.or_eq_true, decide_eq_true_eq, not_or] at refused
          have counted := listed.counted id
          change (s.slot id).pagemap = ∅
          exact Finset.card_eq_zero.mp (by omega) }

theorem release (listed : s.Listed) (unlisted : s.Unlisted id) : (s.slotRelease id).Listed where
  freeNodup := listed.freeNodup
  free a there := Finset.mem_erase.mpr ⟨fun same => unlisted.free (same ▸ there), listed.free a there⟩
  mapNodup := listed.mapNodup
  map sid a there := by
    refine ⟨Finset.mem_erase.mpr ⟨fun same => unlisted.map sid (same ▸ there),
      (listed.map sid a there).1⟩, ?_⟩
    exact (listed.map sid a there).2
  fresh a there := listed.fresh a (Finset.mem_of_mem_erase there)
  counted := listed.counted

theorem setSlotInHash (listed : s.Listed) (new : slot.allocedPageNum = slot.pagemap.card) :
    (s.setSlotInHash slot).Listed := by
  have unused : ∀ a ∈ s.live, a ≠ s.next := fun a there => Nat.ne_of_lt (listed.fresh a there)
  exact
    { freeNodup := by
        refine List.Nodup.append listed.freeNodup (List.nodup_singleton s.next) ?_
        rw [List.disjoint_singleton]
        exact fun there => unused _ (listed.free _ there) rfl
      free := fun a there => by
        rcases List.mem_append.mp there with old | made
        · exact Finset.mem_insert_of_mem (listed.free a old)
        · rw [List.mem_singleton.mp made]
          exact Finset.mem_insert_self ..
      mapNodup := fun sid => by
        change (Function.update s.slotListMap _ _ sid).Nodup
        by_cases here : sid = slot.sid
        · rw [here, Function.update_self]
          refine List.Nodup.append (listed.mapNodup _) (List.nodup_singleton s.next) ?_
          rw [List.disjoint_singleton]
          exact fun there => unused _ (listed.map _ _ there).1 rfl
        · rw [Function.update_of_ne here]
          exact listed.mapNodup sid
      map := fun sid a there => by
        have old : a ∈ s.slotListMap sid → a ∈ insert s.next s.live ∧
            ((s.setSlotInHash slot).slot a).sid = sid :=
          fun there => by
            refine ⟨Finset.mem_insert_of_mem (listed.map sid a there).1, ?_⟩
            change ((s.put s.next slot).slot a).sid = sid
            rw [put_slot_of_ne (unused a (listed.map sid a there).1)]
            exact (listed.map sid a there).2
        change a ∈ Function.update s.slotListMap _ _ sid at there
        by_cases here : sid = slot.sid
        · rw [here, Function.update_self] at there
          rcases List.mem_append.mp there with before | made
          · exact old (here ▸ before)
          · rw [List.mem_singleton.mp made, here]
            refine ⟨Finset.mem_insert_self .., ?_⟩
            change ((s.put s.next slot).slot s.next).sid = _
            rw [put_slot]
        · rw [Function.update_of_ne here] at there
          exact old there
      fresh := fun a there => by
        rcases Finset.mem_insert.mp there with made | old
        · exact made ▸ Nat.lt_succ_self _
        · exact Nat.lt_succ_of_lt (listed.fresh a old)
      counted := fun a => by
        change ((s.put s.next slot).slot a).allocedPageNum = ((s.put s.next slot).slot a).pagemap.card
        by_cases here : a = s.next
        · rw [here, put_slot]
          exact new
        · rw [put_slot_of_ne here]
          exact listed.counted a }

theorem fillBit (listed : s.Listed) (fill : Fill) : (s.fillBit id fill).1.Listed := by
  rcases fillBit_put s id fill with same | ⟨spare, same⟩
  · rw [same]
    exact listed
  · rw [same]
    refine listed.put rfl ?_
    change (s.slot id).allocedPageNum + 1 = (insert fill.bit (s.slot id).pagemap).card
    rw [Finset.card_insert_of_notMem spare, listed.counted id]
    rfl

end Listed

theorem mem_ring {ids : List Nat} : id ∈ ring ids ↔ id ∈ ids := by
  cases ids with
  | nil => exact Iff.rfl
  | cons root rest =>
    unfold ring
    rw [List.mem_cons, List.mem_cons, List.mem_reverse]

theorem findSlotInHash_mem {sid addr : Nat} (found : s.findSlotInHash sid addr = some id) :
    id ∈ s.slotListMap sid ∧ (s.slot id).covers addr = true := by
  unfold findSlotInHash at found
  split at found
  · have covers := List.find?_some found
    exact ⟨mem_ring.mp (List.mem_of_find?_eq_some found), covers⟩
  · cases found

theorem takeFree_some (found : s.takeFree.2 = some id) :
    id ∈ s.freeList ∧ s.takeFree.1 = { s with freeList := s.freeList.erase id } := by
  unfold takeFree at found ⊢
  split at found
  · cases found
  next here =>
    cases found
    exact ⟨List.mem_reverse.mp (List.mem_of_find?_eq_some here), rfl⟩

theorem claim_some {made : Option Nat} (found : (s.claim made).2 = some id) :
    (made = some id ∨ id ∈ s.freeList) ∧ (s.slot id).onAllocFree = 0 ∧
      (s.claim made).1 = { s.put id { s.slot id with onAllocFree := (s.slot id).onAllocFree + 1 } with
        freeList := s.freeList.erase id } := by
  unfold claim at found ⊢
  split at found
  · cases found
  next here =>
    cases found
    rcases Option.or_eq_some_iff.mp here with mine | ⟨-, first⟩
    · obtain ⟨same, idle⟩ := Option.filter_eq_some_iff.mp mine
      exact ⟨.inl same, of_decide_eq_true idle, rfl⟩
    · obtain ⟨same, idle⟩ := Option.filter_eq_some_iff.mp first
      exact ⟨.inr (List.mem_of_mem_head? same), of_decide_eq_true idle, rfl⟩

theorem slotAlloc_some {taken : Finset Nat} {offer : Option (Nat × Nat)}
    (made : (s.slotAlloc taken offer).2 = some id) :
    ∃ frame pages, s.room taken offer = some (frame, pages) ∧ id = s.next ∧
      (s.slotAlloc taken offer).1 = s.setSlotInHash { phyAddr := frame * pageSize, pageNum := pages } := by
  unfold slotAlloc at made ⊢
  split at made
  · cases made
  next frame pages here =>
    cases made
    rw [here]
    exact ⟨frame, pages, rfl, rfl, rfl⟩

theorem takeOut_some (done : (s.slotTakeOut id).2 = true) : (s.slotTakeOut id).1 = { s with
      freeList := s.freeList.erase id
      slotListMap := Function.update s.slotListMap (s.slot id).sid
        ((s.slotListMap (s.slot id).sid).erase id)
      slotCnt := s.slotCnt - 1
      totalPageNum := s.totalPageNum - (s.slot id).pageNum } := by
  unfold slotTakeOut at done ⊢
  dsimp only at done ⊢
  split at done
  · cases done
  next refused => rw [if_neg refused]

theorem takeOut_none (refused : (s.slotTakeOut id).2 = false) : (s.slotTakeOut id).1 = s := by
  unfold slotTakeOut at refused ⊢
  dsimp only at refused ⊢
  split at refused
  next here => rw [if_pos here]
  next => cases refused

theorem Unlisted.takeOut (unlisted : s.Unlisted other) (id : Nat) :
    (s.slotTakeOut id).1.Unlisted other := by
  cases done : (s.slotTakeOut id).2 with
  | false =>
    rw [takeOut_none done]
    exact unlisted
  | true =>
    rw [takeOut_some done]
    exact
      { free := fun there => unlisted.free (List.mem_of_mem_erase there)
        map := fun sid there => by
          change other ∈ Function.update s.slotListMap _ _ sid at there
          by_cases here : sid = (s.slot id).sid
          · rw [here, Function.update_self] at there
            exact unlisted.map _ (List.mem_of_mem_erase there)
          · rw [Function.update_of_ne here] at there
            exact unlisted.map sid there
        empty := unlisted.empty }

theorem Listed.claim (listed : s.Listed) {made : Option Nat} (claimed : (s.claim made).2 = some id) :
    (s.claim made).1.Listed := by
  obtain ⟨-, -, same⟩ := claim_some claimed
  rw [same]
  have written : (s.put id { s.slot id with onAllocFree := (s.slot id).onAllocFree + 1 }).Listed :=
    listed.put rfl (listed.counted id)
  exact written.eraseFree id

theorem Listed.endFill (listed : s.Listed) (fill : Fill) : (s.endFill id fill).Listed :=
  listed.put rfl (listed.counted id)

theorem Listed.unclaim (listed : s.Listed) (live : id ∈ s.live) : (s.unclaim id).Listed := by
  have written : (s.put id { s.slot id with onAllocFree := (s.slot id).onAllocFree - 1 }).Listed :=
    listed.put rfl (listed.counted id)
  exact written.relist live

theorem relist_live (s : Slots) (id : Nat) : (s.relist id).live = s.live := by
  unfold relist
  split <;> rfl

theorem relist_next (s : Slots) (id : Nat) : (s.relist id).next = s.next := by
  unfold relist
  split <;> rfl

end Slots

end UnionpiTiger.Scatter
