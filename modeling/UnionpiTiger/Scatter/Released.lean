import UnionpiTiger.Lib.Run
import UnionpiTiger.Scatter.Sections
import UnionpiTiger.Scatter.Threads

set_option autoImplicit false

namespace UnionpiTiger.Scatter

open Lib

namespace Threads

structure Kept (s : Threads) : Prop where
  listed : s.slots.Listed
  held : ∀ t id, (s.pc t).hand = some id → id ∈ s.slots.live
  released : ∀ id ∈ s.released, id < s.slots.next ∧ id ∉ s.slots.live
  out : ∀ t upkeep id, s.pc t = .release upkeep id →
    (∀ u, u ≠ t → (s.pc u).hand ≠ some id) ∧ s.slots.Unlisted id

variable {s : Threads} {t : Nat} {pc : Pc} {slots : Slots} {offer : Option (Nat × Nat)}

theorem goTo_pc (s : Threads) (t : Nat) (pc : Pc) (u : Nat) :
    (s.goTo t pc).pc u = if u = t then pc else s.pc u := Function.update_apply ..

theorem Kept.goTo (kept : s.Kept) (listed : slots.Listed) (live : slots.live = s.slots.live)
    (next : slots.next = s.slots.next)
    (others : ∀ id, (s.pc t).hand ≠ some id → s.slots.Unlisted id → slots.Unlisted id)
    (hand : ∀ id, pc.hand = some id → (s.pc t).hand = some id ∨ id ∈ s.slots.live ∧
      ¬ s.slots.Unlisted id)
    (leaves : ∀ upkeep id, pc = .release upkeep id →
      (∀ u, u ≠ t → (s.pc u).hand ≠ some id) ∧ slots.Unlisted id) :
    ({ s with slots }.goTo t pc : Threads).Kept where
  listed := listed
  held u id has := by
    rw [goTo_pc] at has
    change id ∈ slots.live
    rw [live]
    split at has
    · rcases hand id has with before | ⟨there, -⟩
      · exact kept.held t id before
      · exact there
    · exact kept.held u id has
  released id there := by
    change id < slots.next ∧ id ∉ slots.live
    rw [live, next]
    exact kept.released id there
  out u upkeep id at_ := by
    rw [goTo_pc] at at_
    change (∀ v, v ≠ u → ((Threads.goTo _ t pc).pc v).hand ≠ some id) ∧ slots.Unlisted id
    split at at_
    next here =>
      obtain ⟨alone, unlisted⟩ := leaves upkeep id at_
      refine ⟨fun v apart => ?_, unlisted⟩
      rw [goTo_pc, if_neg (here ▸ apart)]
      exact alone v (here ▸ apart)
    next apart =>
      obtain ⟨alone, unlisted⟩ := kept.out u upkeep id at_
      have mine := alone t (Ne.symm apart)
      refine ⟨fun v other => ?_, others id mine unlisted⟩
      rw [goTo_pc]
      split
      · intro has
        rcases hand id has with before | ⟨-, in_⟩
        · exact mine before
        · exact in_ unlisted
      · exact alone v other

theorem Kept.moves (kept : s.Kept)
    (hand : ∀ id, pc.hand = some id → (s.pc t).hand = some id ∨ id ∈ s.slots.live ∧
      ¬ s.slots.Unlisted id)
    (stays : ∀ upkeep id, pc ≠ .release upkeep id) : (s.goTo t pc).Kept :=
  Kept.goTo kept kept.listed rfl rfl (fun _ _ unlisted => unlisted) hand fun upkeep id same =>
    absurd same (stays upkeep id)

theorem Kept.writes (kept : s.Kept) {id : Nat} (has : (s.pc t).hand = some id)
    (listed : slots.Listed) (live : slots.live = s.slots.live) (next : slots.next = s.slots.next)
    (others : ∀ other, other ≠ id → s.slots.Unlisted other → slots.Unlisted other)
    (hand : ∀ other, pc.hand = some other → other = id)
    (stays : ∀ upkeep other, pc ≠ .release upkeep other) :
    ({ s with slots }.goTo t pc : Threads).Kept :=
  kept.goTo listed live next (fun other apart => others other fun same => apart (same ▸ has))
    (fun other new => .inl (hand other new ▸ has)) fun upkeep other same =>
      absurd same (stays upkeep other)

theorem Kept.find (kept : s.Kept) {sid addr : Nat} (at_ : s.pc t = .find sid addr) :
    (s.go t offer).Kept := by
  unfold go
  rw [at_]
  dsimp only
  split
  · exact kept.moves (fun _ has => by cases has) fun _ _ same => by cases same
  next id found =>
    obtain ⟨there, -⟩ := Slots.findSlotInHash_mem found
    refine kept.moves (fun other new => .inr ?_) fun _ _ same => by cases same
    cases new
    exact ⟨(kept.listed.map sid id there).1, fun unlisted => unlisted.map sid there⟩

theorem Kept.freePage (kept : s.Kept) {id addr : Nat} (at_ : s.pc t = .freePage id addr) :
    (s.go t offer).Kept := by
  unfold go
  rw [at_]
  refine kept.writes (by rw [at_]; rfl) (kept.listed.slotFreePage addr) ?_ ?_
    (fun other apart unlisted => ?_)
    (fun other new => by cases new; rfl) nofun
  all_goals rcases Slots.slotFreePage_put s.slots id addr with same | ⟨-, -, same⟩ <;> rw [same]
  · rfl
  · rfl
  · exact unlisted
  · exact unlisted.put apart

theorem Kept.slotFree (kept : s.Kept) {upkeep : Bool} {id : Nat} (at_ : s.pc t = .slotFree upkeep id)
    (alone : s.Alone (.go t offer)) : (s.go t offer).Kept := by
  have has : (s.pc t).hand = some id := by
    rw [at_]
    rfl
  have alone := alone upkeep id at_
  unfold go
  rw [at_]
  dsimp only
  split
  next slots taken =>
    have done : (s.slots.slotTakeOut id).2 = true := by rw [taken]
    have same : slots = (s.slots.slotTakeOut id).1 := by rw [taken]
    subst same
    refine kept.goTo kept.listed.takeOut ?_ ?_ (fun other _ unlisted => unlisted.takeOut id)
      (fun other new => ?_) (fun _ other new => ?_)
    · rw [Slots.takeOut_some done]
    · rw [Slots.takeOut_some done]
    · cases new
      exact .inl has
    · cases new
      exact ⟨alone done, kept.listed.takenOut done⟩
  next =>
    refine kept.moves (fun other new => .inl ?_) (by cases upkeep <;> exact nofun)
    cases upkeep <;> cases new
    exact has

theorem Kept.release (kept : s.Kept) {upkeep : Bool} {id : Nat} (at_ : s.pc t = .release upkeep id) :
    (s.go t offer).Kept := by
  obtain ⟨alone, unlisted⟩ := kept.out t upkeep id at_
  have live : id ∈ s.slots.live := kept.held t id (by rw [at_]; rfl)
  have same : s.go t offer = { s with slots := s.slots.slotRelease id, released := id :: s.released }.goTo t
      (if upkeep then .upkeep else .idle) := by
    unfold go
    rw [at_]
  -- The thread has no slot in hand now, and no other had this one.
  have hands : ∀ u other, ((s.go t offer).pc u).hand = some other →
      u ≠ t ∧ (s.pc u).hand = some other := by
    intro u other has
    rw [same, goTo_pc] at has
    split at has
    · cases upkeep <;> cases has
    next apart => exact ⟨apart, has⟩
  have apart : ∀ u other, ((s.go t offer).pc u).hand = some other → other ≠ id := by
    rintro u other has rfl
    exact alone u (hands u other has).1 (hands u other has).2
  rw [same] at hands apart ⊢
  exact
    { listed := kept.listed.release unlisted
      held := fun u other has =>
        Finset.mem_erase.mpr ⟨apart u other has, kept.held u other (hands u other has).2⟩
      released := fun other there => by
        change other < s.slots.next ∧ other ∉ s.slots.live.erase id
        rcases List.mem_cons.mp there with now | before
        · rw [now]
          exact ⟨kept.listed.fresh id live, Finset.notMem_erase id s.slots.live⟩
        · obtain ⟨below, gone⟩ := kept.released other before
          exact ⟨below, fun there => gone (Finset.mem_of_mem_erase there)⟩
      out := fun u more other at_ => by
        have mine := hands u other (by rw [at_]; rfl)
        rw [goTo_pc, if_neg mine.1] at at_
        obtain ⟨alone, unlisted⟩ := kept.out u more other at_
        refine ⟨fun v away has => alone v away (hands v other has).2, ?_⟩
        exact { free := unlisted.free, map := unlisted.map, empty := unlisted.empty } }

theorem Kept.make (kept : s.Kept) {work : Work} (at_ : s.pc t = .make work) : (s.go t offer).Kept := by
  unfold go
  rw [at_]
  dsimp only
  split
  · exact kept.moves nofun nofun
  next slots id made =>
    have made_ : (s.slots.slotAlloc ∅ offer).2 = some id := by rw [made]
    have same : slots = (s.slots.slotAlloc ∅ offer).1 := by rw [made]
    subst same
    obtain ⟨frame, pages, -, rfl, same⟩ := Slots.slotAlloc_some made_
    rw [same]
    have old : ∀ other ∈ s.slots.live, other ≠ s.slots.next := fun other there =>
      Nat.ne_of_lt (kept.listed.fresh other there)
    exact
      { listed := kept.listed.setSlotInHash rfl
        held := fun u other has => by
          rw [goTo_pc] at has
          split at has
          · cases has
            exact Finset.mem_insert_self ..
          · exact Finset.mem_insert_of_mem (kept.held u other has)
        released := fun other there => by
          obtain ⟨below, gone⟩ := kept.released other there
          refine ⟨Nat.lt_succ_of_lt below, fun there => ?_⟩
          rcases Finset.mem_insert.mp there with new | before
          · exact Nat.ne_of_lt below new
          · exact gone before
        out := fun u upkeep other at_ => by
          rw [goTo_pc] at at_
          split at at_
          · cases at_
          obtain ⟨alone, unlisted⟩ := kept.out u upkeep other at_
          have apart := old other (kept.held u other (by rw [at_]; rfl))
          refine ⟨fun v away => ?_, ?_⟩
          · rw [goTo_pc]
            split
            · exact fun same => apart (Option.some.inj same).symm
            · exact alone v away
          · exact
              { free := fun there => by
                  rcases List.mem_append.mp there with before | new
                  · exact unlisted.free before
                  · exact apart (List.mem_singleton.mp new)
                map := fun sid there => by
                  change other ∈ Function.update s.slots.slotListMap _ _ sid at there
                  rw [Function.update_apply] at there
                  split at there
                  · rcases List.mem_append.mp there with before | new
                    · exact unlisted.map _ before
                    · exact apart (List.mem_singleton.mp new)
                  · exact unlisted.map sid there
                empty := (unlisted.put apart).empty } }

theorem Kept.claim (kept : s.Kept) {made : Option Nat} {work : Work} (at_ : s.pc t = .claim made work) :
    (s.go t offer).Kept := by
  unfold go
  rw [at_]
  dsimp only
  split
  · exact kept.moves nofun nofun
  next slots id claimed =>
    have claimed_ : (s.slots.claim made).2 = some id := by rw [claimed]
    have same : slots = (s.slots.claim made).1 := by rw [claimed]
    subst same
    obtain ⟨from_, -, same⟩ := Slots.claim_some claimed_
    have mine : (s.pc t).hand = some id ∨ id ∈ s.slots.live ∧ ¬ s.slots.Unlisted id := by
      rcases from_ with mine | there
      · exact .inl (by rw [at_]; exact mine)
      · exact .inr ⟨kept.listed.free id there, fun unlisted => unlisted.free there⟩
    have listed := kept.listed.claim claimed_
    rw [same] at listed ⊢
    refine kept.goTo listed rfl rfl (fun other apart unlisted => ?_) (fun other new =>
      by cases new; exact mine)
      nofun
    have apart : other ≠ id := by
      rintro rfl
      rcases mine with mine | ⟨-, listed⟩
      · exact apart mine
      · exact listed unlisted
    exact (unlisted.put apart).eraseFree id

theorem Kept.unclaim (kept : s.Kept) {id : Nat} {pages : List Nat} {work : Work}
    (at_ : s.pc t = .unclaim id pages work) : (s.go t offer).Kept := by
  have has : (s.pc t).hand = some id := by
    rw [at_]
    rfl
  unfold go
  rw [at_]
  dsimp only
  refine kept.writes has (kept.listed.unclaim (kept.held t id has)) (Slots.relist_live ..)
    (Slots.relist_next ..)
    (fun other apart unlisted => (unlisted.put apart).relist apart) (fun other new => ?_)
      (fun upkeep other => ?_)
  · split at new <;> cases new
  · split <;> exact nofun

theorem Kept.stays (kept : s.Kept) (same : pc.hand = (s.pc t).hand)
    (no : ∀ upkeep id, pc ≠ .release upkeep id) :
    (s.goTo t pc).Kept :=
  kept.moves (fun _ new => .inl (same ▸ new)) no

theorem Kept.leaves (kept : s.Kept) (empty : pc.hand = none)
    (no : ∀ upkeep id, pc ≠ .release upkeep id) :
    (s.goTo t pc).Kept :=
  kept.moves (fun _ new => by rw [empty] at new; cases new) no

theorem Kept.go (kept : s.Kept) (alone : s.Alone (.go t offer)) : (s.go t offer).Kept := by
  cases at_ : s.pc t with
  | find => exact kept.find at_
  | freePage => exact kept.freePage at_
  | slotFree => exact kept.slotFree at_ alone
  | release => exact kept.release at_
  | make => exact kept.make at_
  | claim => exact kept.claim at_
  | unclaim => exact kept.unclaim at_
  | idle =>
    unfold Threads.go
    rw [at_]
    exact kept
  | returned id =>
    unfold Threads.go
    rw [at_]
    dsimp only
    split <;> exact kept.stays (by rw [at_]; rfl) nofun
  | tryFree id =>
    unfold Threads.go
    rw [at_]
    dsimp only
    split <;> exact kept.stays (by rw [at_]; rfl) nofun
  | relist id =>
    have has : (s.pc t).hand = some id := by
      rw [at_]
      rfl
    unfold Threads.go
    rw [at_]
    exact kept.writes has (kept.listed.relist (kept.held t id has)) (Slots.relist_live ..)
      (Slots.relist_next ..)
      (fun other apart unlisted => unlisted.relist apart) nofun nofun
  | upkeep =>
    unfold Threads.go
    rw [at_]
    dsimp only
    split
    · exact kept.leaves rfl nofun
    next slots id taken =>
      have taken_ : s.slots.takeFree.2 = some id := by rw [taken]
      have same : slots = s.slots.takeFree.1 := by rw [taken]
      subst same
      obtain ⟨there, same⟩ := Slots.takeFree_some taken_
      rw [same]
      refine kept.goTo (kept.listed.eraseFree id) rfl rfl (fun other _ unlisted =>
        unlisted.eraseFree id)
        (fun other new => .inr ?_) nofun
      cases new
      exact ⟨kept.listed.free id there, fun unlisted => unlisted.free there⟩
  | begin_ num short =>
    unfold Threads.go
    rw [at_]
    dsimp only
    split <;> exact kept.leaves rfl nofun
  | round work =>
    unfold Threads.go
    rw [at_]
    dsimp only
    split <;> exact kept.leaves rfl nofun
  | alloc id work =>
    unfold Threads.go
    rw [at_]
    dsimp only
    split <;> exact kept.stays (by rw [at_]; rfl) nofun
  | fill id fill work =>
    unfold Threads.go
    rw [at_]
    dsimp only
    split
    · exact kept.stays (by rw [at_]; rfl) nofun
    · exact kept.writes (by rw [at_]; rfl) (kept.listed.endFill fill) rfl rfl
        (fun other apart unlisted => unlisted.put apart) (fun other new => by cases new; rfl) nofun
  | bit id fill work =>
    unfold Threads.go
    rw [at_]
    have has : (s.pc t).hand = some id := by
      rw [at_]
      rfl
    have effect : (s.slots.fillBit id fill).1.live = s.slots.live ∧
        (s.slots.fillBit id fill).1.next = s.slots.next ∧
        ∀ other, other ≠ id → s.slots.Unlisted other → (s.slots.fillBit id fill).1.Unlisted other := by
      rcases Slots.fillBit_put s.slots id fill with same | ⟨-, same⟩ <;> rw [same]
      · exact ⟨rfl, rfl, fun _ _ unlisted => unlisted⟩
      · exact ⟨rfl, rfl, fun _ apart unlisted => unlisted.put apart⟩
    exact kept.writes has (kept.listed.fillBit fill) effect.1 effect.2.1 effect.2.2
      (fun other new => by cases new; rfl) nofun
  | account work =>
    unfold Threads.go
    rw [at_]
    have kept : Kept { s with out := s.out ++ work.pages } :=
      { listed := kept.listed, held := kept.held, released := kept.released, out := kept.out }
    exact kept.goTo { kept.listed with } rfl rfl (fun _ _ unlisted => { unlisted with }) nofun nofun

theorem Kept.ite {c : Prop} [Decidable c] {first second : Threads} (yes : first.Kept)
    (no : second.Kept) :
    (if c then first else second).Kept := by
  split
  · exact yes
  · exact no

theorem Kept.step (kept : s.Kept) (act : ThreadAct) (alone : s.Alone act) : (s.step act).Kept := by
  cases act with
  | giveBack t page =>
    have fewer : Kept { s with out := s.out.erase page } :=
      { listed := kept.listed, held := kept.held, released := kept.released, out := kept.out }
    exact Kept.ite (Kept.ite (fewer.leaves rfl nofun) kept) kept
  | allocate t num short => exact Kept.ite (kept.leaves rfl nofun) kept
  | upkeep t => exact Kept.ite (kept.leaves rfl nofun) kept
  | go t offer => exact kept.go alone
  | count freeNum =>
    exact
      { listed := { kept.listed with }
        held := kept.held
        released := kept.released
        out := fun t upkeep id at_ => ⟨(kept.out t upkeep id at_).1,
          { (kept.out t upkeep id at_).2 with }⟩ }

theorem Kept.safe (kept : s.Kept) (act : ThreadAct) : s.Safe act := by
  cases act with
  | giveBack | allocate | upkeep | count => trivial
  | go t offer =>
    have there : ∀ id ∈ s.slots.live, id ∉ s.released :=
      fun id live gone => (kept.released id gone).2 live
    have listed : ∀ id ∈ s.slots.freeList, id ∉ s.released :=
      fun id in_ => there id (kept.listed.free id in_)
    have mapped : ∀ sid, ∀ id ∈ s.slots.slotListMap sid, id ∉ s.released := fun sid id in_ =>
      there id (kept.listed.map sid id in_).1
    refine { live := fun id touched => ?_, empty := fun upkeep id at_ =>
      (kept.out t upkeep id at_).2.empty }
    unfold Threads.touched at touched
    rcases List.mem_append.mp touched with hand | through
    · exact there id (kept.held t id (Option.mem_toList.mp hand))
    · split at through
      · exact mapped _ id through
      · rcases List.mem_append.mp through with in_ | in_
        · exact listed id in_
        · exact mapped _ id in_
      · exact listed id through
      · exact listed id through
      · exact listed id through
      · exact listed id through
      · split at through
        · cases through
        · rcases List.mem_append.mp through with in_ | in_
          · exact listed id in_
          · exact mapped _ id in_
      · cases through

theorem initial_kept (keepSizePage : Nat) : Kept { slots := { keepSizePage } } where
  listed :=
    { freeNodup := List.nodup_nil
      free := nofun
      mapNodup := fun _ => List.nodup_nil
      map := nofun
      fresh := nofun
      counted := fun _ => rfl }
  held := nofun
  released := nofun
  out := nofun

end Threads

namespace Threads

theorem go_pc_of_ne (s : Threads) {t u : Nat} (offer : Option (Nat × Nat)) (apart : u ≠ t) :
    (s.go t offer).pc u = s.pc u := by
  have stays : ∀ (s : Threads) (pc : Pc), (s.goTo t pc).pc u = s.pc u := fun s pc => by
    rw [goTo_pc, if_neg apart]
  unfold go
  split
  case h_1 => rfl
  all_goals try split
  all_goals exact stays _ _

theorem step_pc_of_ne (s : Threads) {act : ThreadAct} {u : Nat} (apart : act.by_ ≠ some u) :
    (s.step act).pc u = s.pc u := by
  have ite : ∀ (c : Prop) [Decidable c] (first : Threads), first.pc u = s.pc u →
      (if c then first else s).pc u = s.pc u := fun c _ first same => by
    split
    · exact same
    · rfl
  have stays : ∀ t, act.by_ = some t → ∀ (first : Threads) (pc : Pc),
      (first.goTo t pc).pc u = first.pc u :=
    fun t mine first pc => by rw [goTo_pc, if_neg (fun same => apart (by rw [mine, same]))]
  cases act with
  | giveBack t page => exact ite _ _ (ite _ _ (stays t rfl _ _))
  | allocate t num short => exact ite _ _ (stays t rfl _ _)
  | upkeep t => exact ite _ _ (stays t rfl _ _)
  | go t offer => exact go_pc_of_ne s offer fun same => apart (same ▸ rfl)
  | count freeNum => rfl

-- What has to be looked at for a step to be alone while no thread from n on is in a call.
def AloneBelow (n : Nat) (s : Threads) : ThreadAct → Prop
  | .go t _ =>
    match s.pc t with
    | .slotFree _ id => (s.slots.slotTakeOut id).2 = true → ∀ u < n, u ≠ t → (s.pc u).hand ≠ some id
    | _ => True
  | _ => True

instance (n : Nat) (s : Threads) : DecidablePred (s.AloneBelow n)
  | .go t _ => by
    unfold AloneBelow
    dsimp only
    split <;> infer_instance
  | .giveBack .. | .allocate .. | .upkeep .. | .count .. => isTrue trivial

theorem alone_of_below (n : Nat) (acts : List ThreadAct) (mine : ∀ act ∈ acts, ∀ t ∈ act.by_, t < n)
    (s : Threads) (idle : ∀ u, n ≤ u → s.pc u = .idle) (below : Along step (AloneBelow n) s acts) :
    Along step Alone s acts := by
  have by_ := (along_iff_forall step (fun act => ∀ t ∈ act.by_, t < n) s acts).mpr mine
  refine (by_.and below).of_invariant (fun s => ∀ u, n ≤ u → s.pc u = .idle) ?_ ?_ idle
  · intro s act idle both u above
    rw [step_pc_of_ne s fun same => Nat.not_lt.mpr above (both.1 u same)]
    exact idle u above
  · intro s act idle both
    cases act with
    | giveBack | allocate | upkeep | count => trivial
    | go t offer =>
      intro upkeep id at_ done u apart
      by_cases above : n ≤ u
      · rw [idle u above]
        exact nofun
      · have below := both.2
        unfold AloneBelow at below
        dsimp only at below
        rw [at_] at below
        exact below done u (Nat.not_le.mp above) apart

theorem taken_out_in_hand {s : Threads} {t u id : Nat} {upkeep : Bool}
    (at_ : s.pc t = .slotFree upkeep id) (done : (s.slots.slotTakeOut id).2 = true) (apart : u ≠ t)
    (hand : (s.pc u).hand = some id) (offer : Option (Nat × Nat)) :
    ¬ Along step Safe s [.go t none, .go t none, .go u offer] := by
  intro along
  have taken : s.go t none =
      { s with slots := (s.slots.slotTakeOut id).1 }.goTo t (.release upkeep id) := by
    unfold go
    rw [at_]
    dsimp only
    split
    next slots same => rw [same]
    next same =>
      rw [same] at done
      cases done
  have at_ : (s.go t none).pc t = .release upkeep id := by
    rw [taken, goTo_pc, if_pos rfl]
  have released : id ∈ ((s.go t none).go t none).released := by
    rw [go, at_]
    exact List.mem_cons_self
  have mine : (((s.go t none).go t none).pc u).hand = some id := by
    rw [go_pc_of_ne _ _ apart, go_pc_of_ne _ _ apart]
    exact hand
  have last : SafeStep ((s.go t none).go t none) u offer := along.2.2.1
  exact last.live id (List.mem_append_left _ (Option.mem_toList.mpr mine)) released

end Threads

theorem slot_released_once (keepSizePage : Nat) (acts : List ThreadAct)
    (alone : Along Threads.step Threads.Alone { slots := { keepSizePage } } acts) :
    Along Threads.step Threads.Safe { slots := { keepSizePage } } acts :=
  alone.of_invariant Threads.Kept (fun _ act kept alone => kept.step act alone) (fun _ act kept _ =>
    kept.safe act)
    (Threads.initial_kept keepSizePage)

-- The thread of the first page is done before that of the second one takes the empty slot out.
def inTurn : List ThreadAct :=
  .allocate 0 2 false :: List.replicate 12 (.go 0 (some (16, 2))) ++
    [.giveBack 0 65552, .giveBack 1 69648, .go 0 none, .go 1 none, .go 0 none, .go 0 none,
      .go 1 none, .go 0 none,
      .go 1 none, .go 1 none, .go 1 none, .go 1 none]

theorem slot_released_once_of_two :
    Along Threads.step Threads.Safe { slots := { keepSizePage := 0 } } inTurn :=
  slot_released_once 0 _ (Threads.alone_of_below 2 _ (by decide) _ (fun _ _ => rfl) (by decide +kernel))

def lastTwoPages : List ThreadAct :=
  .allocate 0 2 false :: List.replicate 12 (.go 0 (some (16, 2))) ++
    [.giveBack 0 65552, .giveBack 1 69648, .go 0 none, .go 0 none, .go 1 none, .go 1 none, .go 0 none,
      .go 0 none, .go 1 none, .go 1 none, .go 0 none, .go 1 none, .go 0 none]

theorem slot_released_twice :
    ¬ Along Threads.step Threads.Safe { slots := { keepSizePage := 0 } }
      (lastTwoPages ++ [.go 1 none]) := by
  intro along
  have last : Threads.SafeStep
      (run Threads.step { slots := { keepSizePage := 0 } } lastTwoPages) 1 none :=
    along.last
  exact last.live 0 (by decide +kernel) (by decide +kernel)

end UnionpiTiger.Scatter
