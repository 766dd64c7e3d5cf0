import UnionpiTiger.Lib.Run
import UnionpiTiger.Scatter.ManagerSteps

set_option autoImplicit false

namespace UnionpiTiger.Scatter

open Lib

inductive LifeCall where
  | alloc (istvp : Bool) (maxPage pageNum : Int) (given : Option Nat) (got : Int)
  | incKeeper (mms jiffies : Nat)
  | decKeeper (mms tofree : Nat)
  | decOwner (mms tofree : Nat)
  | clear (istvp force delayFreeOn : Bool) (jiffies : Nat) (less : Nat → Bool)
  | arrange (istvp delayFreeOn late : Bool) (jiffies : Nat) (given0 given1 : Option Nat)
  | dropCache (istvp : Bool) (jiffies : Nat)

namespace Managers

def next (s : Managers) : LifeCall → Managers
  | .alloc istvp maxPage pageNum given got => (s.alloc istvp maxPage pageNum given got).1
  | .incKeeper mms jiffies => (s.incForKeeper mms jiffies).1
  | .decKeeper mms tofree => (s.decKeeperUser mms tofree).1
  | .decOwner mms tofree => (s.decOwnerUser mms tofree).1
  | .clear istvp force delayFreeOn jiffies less =>
      (s.scatterClear istvp force delayFreeOn jiffies less).1
  | .arrange istvp delayFreeOn late jiffies given0 given1 =>
    s.scatterArrange istvp delayFreeOn late jiffies given0 given1
  | .dropCache istvp jiffies => s.dropCache istvp jiffies

def returned (s : Managers) : LifeCall → Option Nat
  | .alloc istvp maxPage pageNum given got => (s.alloc istvp maxPage pageNum given got).2
  | _ => none

def answer (s : Managers) : LifeCall → Int
  | .incKeeper mms jiffies => (s.incForKeeper mms jiffies).2
  | .decKeeper mms tofree => (s.decKeeperUser mms tofree).2
  | .decOwner mms tofree => (s.decOwnerUser mms tofree).2
  | _ => 0

def made (s : Managers) : Finset Nat := (s false).made ∪ (s true).made

end Managers

def LifeCall.counted : LifeCall → Option Nat
  | .incKeeper mms _ => some mms
  | .decKeeper mms _ => some mms
  | .decOwner mms _ => some mms
  | _ => none

structure LifeUse where
  mgrs : Managers := .initial
  handed : Finset Nat := ∅
  owners : Nat → Nat := fun _ => 0
  keepers : Nat → Nat := fun _ => 0

namespace LifeUse

def step (s : LifeUse) (call : LifeCall) : LifeUse where
  mgrs := s.mgrs.next call
  handed := s.handed.filter (fun mms => mms ∈ (s.mgrs.next call).made) ∪ (s.mgrs.returned call).toFinset
  owners :=
    match call, s.mgrs.returned call with
    | .decOwner mms _, _ => Function.update s.owners mms (s.owners mms - 1)
    | _, some mms => Function.update s.owners mms (s.owners mms + 1)
    | _, none => s.owners
  keepers :=
    match call with
    | .incKeeper mms _ => if s.mgrs.answer call = 0
        then Function.update s.keepers mms (s.keepers mms + 1) else s.keepers
    | .decKeeper mms _ => Function.update s.keepers mms (s.keepers mms - 1)
    | _ => s.keepers

def Held (s : LifeUse) : LifeCall → Prop
  | .incKeeper mms _ => mms ∈ s.handed
  | .decKeeper mms _ => mms ∈ s.handed ∧ 0 < s.keepers mms
  | .decOwner mms _ => mms ∈ s.handed ∧ 0 < s.owners mms
  | _ => True

instance (s : LifeUse) : DecidablePred s.Held
  | .incKeeper _ _ => by unfold Held; infer_instance
  | .decKeeper _ _ => by unfold Held; infer_instance
  | .decOwner _ _ => by unfold Held; infer_instance
  | .alloc .. | .clear .. | .arrange .. | .dropCache .. => isTrue trivial

def Fits (s : LifeUse) : LifeCall → Prop
  | .alloc istvp maxPage pageNum given got =>
    match (s.mgrs istvp).findFree maxPage with
    | some mms => ((s.mgrs istvp).mms mms).pageMaxCnt < pageNum ∨ got < 0 ∨ (s.mgrs istvp).valid mms
    | none => s.mgrs.room given = none ∨ maxPage < 0 ∨ maxPage < pageNum ∨ got < 0 ∨
        none ∈ (s.mgrs istvp).scmap
  | .incKeeper mms _ => 1000 * s.owners mms + 100 * s.keepers mms + 100 < 2 ^ 31
  | _ => True

structure Exact (s : LifeUse) (call : LifeCall) : Prop where
  lives : ∀ mms ∈ (s.step call).handed, ∃ tvp,
    ((s.step call).mgrs tvp).Lives mms ((s.step call).owners mms) ((s.step call).keepers mms)
  carriedOut : ∀ mms, call.counted = some mms → s.mgrs.answer call = 0
  freed : ∀ mms ∈ s.handed, mms ∉ (s.step call).handed → ∃ tvp, ((s.mgrs tvp).mms mms).userCnt = 0 ∧
    mms ∈ (s.mgrs tvp).made
  again : ∀ mms tvp, mms ∈ (s.mgrs tvp).made → s.mgrs.returned call = some mms →
    ((s.mgrs tvp).mms mms).userCnt = 0

end LifeUse

namespace LifeUse

structure Sound (s : LifeUse) : Prop where
  fine : s.mgrs.Fine s.handed
  lives : ∀ mms ∈ s.handed, ∃ tvp, (s.mgrs tvp).Lives mms (s.owners mms) (s.keepers mms) ∧
    mms ∈ (s.mgrs tvp).scatterList ∧ ((s.mgrs tvp).mms mms).userCnt < 2 ^ 31
  unheld : ∀ mms, mms ∉ s.handed → s.owners mms = 0 ∧ s.keepers mms = 0

variable {s : LifeUse} {call : LifeCall} {mms : Nat} {tvp : Bool}

theorem mem_made_iff {n : Managers} {a : Nat} : a ∈ n.made ↔ ∃ tvp, a ∈ (n tvp).made := by
  rw [Managers.made, Finset.mem_union]
  exact (Bool.exists_bool (p := fun tvp => a ∈ (n tvp).made)).symm

theorem Sound.only (sound : s.Sound) {other : Bool} (here : mms ∈ (s.mgrs tvp).made)
    (there : mms ∈ (s.mgrs other).made) : other = tvp := by
  by_contra different
  have opposite : other = !tvp := Bool.eq_not.mpr different
  subst opposite
  exact sound.fine.apart tvp mms here there

theorem mem_handed_step {a : Nat} : a ∈ (s.step call).handed ↔
    a ∈ s.handed ∧ a ∈ (s.mgrs.next call).made ∨ s.mgrs.returned call = some a := by
  change a ∈ s.handed.filter (fun mms => mms ∈ (s.mgrs.next call).made) ∪
    (s.mgrs.returned call).toFinset ↔ _
  rw [Finset.mem_union, Finset.mem_filter, Option.mem_toFinset, Option.mem_def]

theorem Sound.internal (sound : s.Sound) (returned : s.mgrs.returned call = none)
    (uncounted : call.counted = none)
    (fine : (s.mgrs.next call).Fine s.handed)
    (kept : ∀ a ∈ s.handed, s.mgrs.Same (s.mgrs.next call) a ∨
      a ∉ (s.mgrs.next call).made ∧ ∃ tvp, a ∈ (s.mgrs tvp).made ∧ ((s.mgrs tvp).mms a).userCnt = 0) :
    (s.step call).Sound ∧ s.Exact call := by
  have owners : (s.step call).owners = s.owners := by
    unfold step
    dsimp only
    rw [returned]
    cases call <;> first | rfl | cases uncounted
  have keepers : (s.step call).keepers = s.keepers := by
    cases call <;> first | rfl | cases uncounted
  have handed : ∀ a, a ∈ (s.step call).handed ↔ a ∈ s.handed ∧ a ∈ (s.mgrs.next call).made := by
    intro a
    rw [mem_handed_step, returned]
    exact or_iff_left nofun
  have lives : ∀ a ∈ (s.step call).handed, ∃ tvp,
      ((s.step call).mgrs tvp).Lives a ((s.step call).owners a)
      ((s.step call).keepers a) ∧ a ∈ ((s.step call).mgrs tvp).scatterList ∧
        (((s.step call).mgrs tvp).mms a).userCnt < 2 ^ 31 := by
    intro a there
    obtain ⟨before, made⟩ := (handed a).mp there
    obtain ⟨tvp, lives, listed, small⟩ := sound.lives a before
    have same := (kept a before).resolve_right fun gone => gone.1 made
    rw [owners, keepers]
    exact ⟨tvp, lives.same (same tvp), (same tvp).listed.mpr listed, (same tvp).mms ▸ small⟩
  constructor
  · exact
      { fine := ⟨fun tvp => (fine.ok tvp).mono fun a there => ((handed a).mp there).1, fine.apart⟩
        lives := lives
        unheld := fun a gone => by
          rw [owners, keepers]
          by_cases before : a ∈ s.handed
          · have freed := (kept a before).resolve_left fun same => by
              obtain ⟨tvp, lives, -⟩ := sound.lives a before
              exact gone ((handed a).mpr ⟨before,
                mem_made_iff.mpr ⟨tvp, (same tvp).made.mpr lives.made⟩⟩)
            obtain ⟨-, tvp, made, zero⟩ := freed
            obtain ⟨other, lives, -⟩ := sound.lives a before
            have count := lives.userCnt
            rw [sound.only made lives.made, zero] at count
            omega
          · exact sound.unheld a before }
  · exact
      { lives := fun a there => (lives a there).imp fun _ both => both.1
        carriedOut := fun a counted => by
          rw [uncounted] at counted
          cases counted
        freed := fun a before gone => by
          rcases kept a before with same | freed
          · obtain ⟨tvp, lives, -⟩ := sound.lives a before
            exact absurd ((handed a).mpr ⟨before,
              mem_made_iff.mpr ⟨tvp, (same tvp).made.mpr lives.made⟩⟩) gone
          · obtain ⟨-, tvp, made, zero⟩ := freed
            exact ⟨tvp, zero, made⟩
        again := fun a tvp _ back => by
          rw [returned] at back
          cases back }

theorem Sound.known (sound : s.Sound) : ∀ a ∈ s.handed, ∃ tvp, a ∈ (s.mgrs tvp).made := by
  intro a there
  obtain ⟨tvp, lives, -⟩ := sound.lives a there
  exact ⟨tvp, lives.made⟩

theorem Sound.clear (sound : s.Sound) {istvp force delayFreeOn : Bool} {jiffies : Nat}
    {less : Nat → Bool} (here : call = .clear istvp force delayFreeOn jiffies less) :
    (s.step call).Sound ∧ s.Exact call := by
  subst here
  obtain ⟨fine, kept⟩ := sound.fine.scatterClear_kept force delayFreeOn jiffies less
  refine sound.internal rfl rfl fine fun a there => (kept a there).imp_right ?_
  rintro ⟨gone, made, zero⟩
  refine ⟨fun back => ?_, istvp, made, zero⟩
  obtain ⟨tvp, back⟩ := mem_made_iff.mp back
  exact gone tvp back

theorem Sound.arrange (sound : s.Sound) {istvp delayFreeOn late : Bool} {jiffies : Nat}
    {given0 given1 : Option Nat}
    (here : call = .arrange istvp delayFreeOn late jiffies given0 given1) :
    (s.step call).Sound ∧ s.Exact call := by
  subst here
  obtain ⟨fine, kept⟩ :=
    sound.fine.scatterArrange_kept sound.known delayFreeOn late jiffies given0 given1
  exact sound.internal rfl rfl fine fun a there => Or.inl (kept a there)

theorem Sound.dropCache (sound : s.Sound) {istvp : Bool} {jiffies : Nat}
    (here : call = .dropCache istvp jiffies) : (s.step call).Sound ∧ s.Exact call := by
  subst here
  obtain ⟨fine, kept⟩ := sound.fine.dropCache_kept jiffies
  exact sound.internal rfl rfl fine fun a there => Or.inl (kept a there)

theorem Sound.change (sound : s.Sound) {tvp : Bool} (fine : (s.mgrs.next call).Fine s.handed)
    (handed : ∀ a, a ∈ (s.step call).handed ↔ a ∈ s.handed ∨ a = mms)
    (same : ∀ a ∈ s.handed, a ≠ mms → s.mgrs.Same (s.mgrs.next call) a)
    (owners : ∀ a, a ≠ mms → (s.step call).owners a = s.owners a)
    (keepers : ∀ a, a ≠ mms → (s.step call).keepers a = s.keepers a)
    (lives : (s.mgrs.next call tvp).Lives mms ((s.step call).owners mms) ((s.step call).keepers mms))
    (listed : mms ∈ (s.mgrs.next call tvp).scatterList)
    (small : ((s.mgrs.next call tvp).mms mms).userCnt < 2 ^ 31) : (s.step call).Sound where
  fine :=
    { apart := fine.apart
      ok := fun other => { fine.ok other with
        cached := fun a cached => by
          obtain ⟨made, unhanded, unlisted⟩ := (fine.ok other).cached a cached
          refine ⟨made, fun there => ?_, unlisted⟩
          rcases (handed a).mp there with before | rfl
          · exact unhanded before
          · by_cases own : other = tvp
            · exact unlisted (own ▸ listed)
            · rw [Bool.eq_not.mpr own] at made
              exact fine.apart tvp a lives.made made } }
  lives a there := by
    by_cases here : a = mms
    · rw [here]
      exact ⟨tvp, lives, listed, small⟩
    · have before := ((handed a).mp there).resolve_right here
      obtain ⟨other, lives, listed, small⟩ := sound.lives a before
      have kept := same a before here other
      rw [owners a here, keepers a here]
      exact ⟨other, lives.same kept, kept.listed.mpr listed, kept.mms ▸ small⟩
  unheld a gone := by
    obtain ⟨before, here⟩ := not_or.mp ((handed a).not.mp gone)
    rw [owners a here, keepers a here]
    exact sound.unheld a before

theorem Sound.exact_of_step (sound : (s.step call).Sound)
    (handed : ∀ a ∈ s.handed, a ∈ (s.step call).handed)
    (carriedOut : ∀ mms, call.counted = some mms → s.mgrs.answer call = 0)
    (again : ∀ mms tvp, mms ∈ (s.mgrs tvp).made → s.mgrs.returned call = some mms →
      ((s.mgrs tvp).mms mms).userCnt = 0) : s.Exact call where
  lives a there := (sound.lives a there).imp fun _ all => all.1
  carriedOut := carriedOut
  freed a before gone := absurd (handed a before) gone
  again := again

theorem Sound.recount (sound : s.Sound) (there : mms ∈ s.handed) {new : MmScatter}
    (returned : s.mgrs.returned call = none)
    (next : s.mgrs.next call =
      Function.update s.mgrs tvp { s.mgrs tvp with mms := Function.update (s.mgrs tvp).mms mms new })
    (made : mms ∈ (s.mgrs tvp).made) (answer : s.mgrs.answer call = 0)
    (owners : ∀ a, a ≠ mms → (s.step call).owners a = s.owners a)
    (keepers : ∀ a, a ≠ mms → (s.step call).keepers a = s.keepers a)
    (userCnt : new.userCnt = 1000 * (s.step call).owners mms + 100 * (s.step call).keepers mms)
    (small : new.userCnt < 2 ^ 31) : (s.step call).Sound ∧ s.Exact call := by
  obtain ⟨other, lives, listed, -⟩ := sound.lives mms there
  have own := sound.only made lives.made
  subst own
  have fine : (s.mgrs.next call).Fine s.handed := by
    rw [next]
    exact sound.fine.fewer { sound.fine.ok other with } (Finset.Subset.refl _)
  have known : ∀ a ∈ s.handed, a ∈ (s.mgrs.next call).made := by
    intro a before
    obtain ⟨tvp, lives, -⟩ := sound.lives a before
    rw [mem_made_iff, next]
    refine ⟨tvp, ?_⟩
    by_cases same : tvp = other
    · rw [same] at lives ⊢
      rw [Function.update_self]
      exact lives.made
    · rw [Function.update_of_ne same]
      exact lives.made
  have handed : ∀ a, a ∈ (s.step call).handed ↔ a ∈ s.handed ∨ a = mms := by
    intro a
    rw [mem_handed_step, returned]
    constructor
    · rintro (⟨before, -⟩ | none_)
      · exact Or.inl before
      · cases none_
    · intro before
      have before : a ∈ s.handed := before.elim id fun here => here ▸ there
      exact Or.inl ⟨before, known a before⟩
  have changed : s.mgrs.next call other =
      { s.mgrs other with mms := Function.update (s.mgrs other).mms mms new } := by
    rw [next]
    exact Function.update_self _ _ _
  have self : (s.mgrs.next call other).mms mms = new := by
    rw [changed]
    exact Function.update_self _ _ _
  have lives' : (s.mgrs.next call other).Lives mms ((s.step call).owners mms)
      ((s.step call).keepers mms) :=
    { made := by rw [changed]; exact lives.made
      registered := by rw [changed]; exact lives.registered
      userCnt := by rw [self]; exact userCnt
      reached := fun _ => by rw [changed]; exact listed }
  have sound' := sound.change fine handed
    (fun a _ here => by rw [next]; exact .update (Life.same_of_mms here new)) owners keepers lives'
    (by rw [changed]; exact listed) (by rw [self]; exact small)
  refine ⟨sound', sound'.exact_of_step (fun a before => (handed a).mpr (Or.inl before))
    (fun _ _ => answer) ?_⟩
  intro _ _ _ back
  rw [returned] at back
  cases back

theorem Sound.incKeeper (sound : s.Sound) {jiffies : Nat} (here : call = .incKeeper mms jiffies)
    (held : s.Held call) (fits : s.Fits call) : (s.step call).Sound ∧ s.Exact call := by
  subst here
  obtain ⟨tvp, lives, -, small⟩ := sound.lives mms held
  have count := lives.userCnt
  obtain ⟨new, userCnt, carried, -⟩ :=
    sound.fine.incUserIn_eq lives.registered (by omega) 100 jiffies
  have fits : 1000 * s.owners mms + 100 * s.keepers mms + 100 < 2 ^ 31 := fits
  rw [s32_eq (by omega) (by omega)] at userCnt
  have done := carried (by omega)
  have answer : s.mgrs.answer (.incKeeper mms jiffies) = 0 := congrArg Prod.snd done
  have keepers : (s.step (.incKeeper mms jiffies)).keepers =
      Function.update s.keepers mms (s.keepers mms + 1) := if_pos answer
  refine sound.recount held rfl (congrArg Prod.fst done) lives.made answer (fun _ _ => rfl)
    (fun a other => by rw [keepers, Function.update_of_ne other]) ?_ (by omega)
  rw [keepers, Function.update_self, userCnt, count]
  change _ = 1000 * (s.owners mms : Int) + _
  omega

theorem Sound.incKeeper_refused (sound : s.Sound) {jiffies : Nat}
    (held : s.Held (.incKeeper mms jiffies)) (misfit : ¬ s.Fits (.incKeeper mms jiffies)) :
    s.mgrs.answer (.incKeeper mms jiffies) ≠ 0 := by
  obtain ⟨tvp, lives, -, small⟩ := sound.lives mms held
  have count := lives.userCnt
  obtain ⟨new, userCnt, -, refused⟩ := sound.fine.incUserIn_eq lives.registered (by omega) 100 jiffies
  have misfit : ¬ 1000 * s.owners mms + 100 * s.keepers mms + 100 < 2 ^ 31 := misfit
  have negative : new.userCnt < 0 := by
    rw [userCnt]
    unfold s32
    omega
  exact (refused negative).ne

theorem Sound.decKeeper (sound : s.Sound) {tofree : Nat} (here : call = .decKeeper mms tofree)
    (held : s.Held call) : (s.step call).Sound ∧ s.Exact call := by
  subst here
  obtain ⟨there, some_⟩ := held
  obtain ⟨tvp, lives, -, small⟩ := sound.lives mms there
  have count := lives.userCnt
  obtain ⟨new, userCnt, done⟩ := sound.fine.decUserIn_eq lives.registered (by omega) 100 tofree
  rw [s32_eq (by omega) (by omega)] at userCnt
  have keepers : (s.step (.decKeeper mms tofree)).keepers =
      Function.update s.keepers mms (s.keepers mms - 1) := rfl
  refine sound.recount there rfl (congrArg Prod.fst done) lives.made (congrArg Prod.snd done)
    (fun _ _ => rfl)
    (fun a other => by rw [keepers, Function.update_of_ne other]) ?_ (by omega)
  rw [keepers, Function.update_self]
  change _ = 1000 * (s.owners mms : Int) + _
  omega

theorem Sound.decOwner (sound : s.Sound) {tofree : Nat} (here : call = .decOwner mms tofree)
    (held : s.Held call) : (s.step call).Sound ∧ s.Exact call := by
  subst here
  obtain ⟨there, some_⟩ := held
  obtain ⟨tvp, lives, -, small⟩ := sound.lives mms there
  have count := lives.userCnt
  obtain ⟨new, userCnt, done⟩ := sound.fine.decUserIn_eq lives.registered (by omega) 1000 tofree
  rw [s32_eq (by omega) (by omega)] at userCnt
  have owners : (s.step (.decOwner mms tofree)).owners =
      Function.update s.owners mms (s.owners mms - 1) := rfl
  refine sound.recount there rfl (congrArg Prod.fst done) lives.made (congrArg Prod.snd done)
    (fun a other => by rw [owners, Function.update_of_ne other]) (fun _ _ => rfl) ?_ (by omega)
  rw [owners, Function.update_self]
  change _ = _ + 100 * (s.keepers mms : Int)
  omega

theorem Sound.handOut (sound : s.Sound) {istvp : Bool} {maxPage pageNum got : Int}
    {given : Option Nat} {life : Life} (here : call = .alloc istvp maxPage pageNum given got)
    (alloc : (s.mgrs istvp).alloc maxPage pageNum (s.mgrs.room given) got = (life, some mms))
    (fine : Managers.Fine (Function.update s.mgrs istvp life) s.handed)
    (same : ∀ a ∈ s.handed, a ≠ mms → Life.Same (s.mgrs istvp) life a) (made : mms ∈ life.made)
    (registered : life.valid mms) (userCnt : (life.mms mms).userCnt = 1000)
    (listed : mms ∈ life.scatterList) (unused : s.owners mms = 0 ∧ s.keepers mms = 0)
    (again : ∀ tvp, mms ∈ (s.mgrs tvp).made → ((s.mgrs tvp).mms mms).userCnt = 0) :
    (s.step call).Sound ∧ s.Exact call := by
  subst here
  have whole := Managers.alloc_eq alloc
  have next : s.mgrs.next (.alloc istvp maxPage pageNum given got) =
      Function.update s.mgrs istvp life :=
    congrArg Prod.fst whole
  have returned : s.mgrs.returned (.alloc istvp maxPage pageNum given got) = some mms :=
    congrArg Prod.snd whole
  have self : s.mgrs.next (.alloc istvp maxPage pageNum given got) istvp = life := by
    rw [next]
    exact Function.update_self _ _ _
  have owners : (s.step (.alloc istvp maxPage pageNum given got)).owners =
      Function.update s.owners mms (s.owners mms + 1) := by
    unfold step
    dsimp only
    rw [returned]
  have keepers : (s.step (.alloc istvp maxPage pageNum given got)).keepers = s.keepers := rfl
  have kept : ∀ a ∈ s.handed, a ≠ mms →
      s.mgrs.Same (s.mgrs.next (.alloc istvp maxPage pageNum given got)) a := by
    intro a before other
    rw [next]
    exact .update (same a before other)
  have handed : ∀ a, a ∈ (s.step (.alloc istvp maxPage pageNum given got)).handed ↔
      a ∈ s.handed ∨ a = mms := by
    intro a
    rw [mem_handed_step, returned, Option.some_inj]
    by_cases own : a = mms
    · exact iff_of_true (Or.inr own.symm) (Or.inr own)
    · rw [or_iff_left (Ne.symm own), or_iff_left own]
      refine and_iff_left_of_imp fun before => ?_
      obtain ⟨tvp, there⟩ := sound.known a before
      exact mem_made_iff.mpr ⟨tvp, (kept a before own tvp).made.mpr there⟩
  have lives : (s.mgrs.next (.alloc istvp maxPage pageNum given got) istvp).Lives mms
      ((s.step (.alloc istvp maxPage pageNum given got)).owners mms)
      ((s.step (.alloc istvp maxPage pageNum given got)).keepers mms) := by
    rw [self, owners, keepers, Function.update_self, unused.1, unused.2]
    exact ⟨made, registered, userCnt, fun _ => listed⟩
  have sound' := sound.change (next ▸ fine) handed kept
    (fun a other => by rw [owners, Function.update_of_ne other]) (fun _ _ => rfl) lives (self ▸ listed)
    (by rw [self, userCnt]; decide)
  refine ⟨sound', sound'.exact_of_step (fun a before => (handed a).mpr (Or.inl before)) nofun ?_⟩
  intro a tvp there back
  rw [returned] at back
  cases back
  exact again tvp there

theorem Sound.alloc_fails (sound : s.Sound) {istvp : Bool} {maxPage pageNum got : Int}
    {given : Option Nat} {life : Life} (here : call = .alloc istvp maxPage pageNum given got)
    (alloc : (s.mgrs istvp).alloc maxPage pageNum (s.mgrs.room given) got = (life, none))
    (fine : Managers.Fine (Function.update s.mgrs istvp life) s.handed)
    (same : ∀ a ∈ s.handed, Life.Same (s.mgrs istvp) life a) :
    (s.step call).Sound ∧ s.Exact call := by
  subst here
  have whole := Managers.alloc_eq alloc
  have next : s.mgrs.next (.alloc istvp maxPage pageNum given got) =
      Function.update s.mgrs istvp life :=
    congrArg Prod.fst whole
  have returned : s.mgrs.returned (.alloc istvp maxPage pageNum given got) = none :=
    congrArg Prod.snd whole
  refine sound.internal returned rfl (next ▸ fine) fun a there => Or.inl ?_
  rw [next]
  exact .update (same a there)

theorem Sound.unused (sound : s.Sound) (made : mms ∈ (s.mgrs tvp).made)
    (zero : ((s.mgrs tvp).mms mms).userCnt = 0) : s.owners mms = 0 ∧ s.keepers mms = 0 := by
  by_cases there : mms ∈ s.handed
  · obtain ⟨other, lives, -⟩ := sound.lives mms there
    have count := lives.userCnt
    rw [sound.only made lives.made, zero] at count
    omega
  · exact sound.unheld mms there

theorem Sound.alloc (sound : s.Sound) {istvp : Bool} {maxPage pageNum got : Int} {given : Option Nat}
    (here : call = .alloc istvp maxPage pageNum given got) (fits : s.Fits call) :
    (s.step call).Sound ∧ s.Exact call := by
  subst here
  unfold Fits at fits
  dsimp only at fits
  have fine := sound.fine
  have ok := fine.ok istvp
  cases found : (s.mgrs istvp).findFree maxPage with
  | some mms =>
    rw [found] at fits
    dsimp only at fits
    obtain ⟨listed, -, zero⟩ := Life.findFree_spec found
    have made := ok.listed mms listed
    have alloc := Life.alloc_again pageNum got (s.mgrs.room given) found
    rw [Life.setUserCnt_zero zero] at alloc
    split at alloc
    · refine sound.alloc_fails rfl alloc ?_ fun a _ => .refl _ _
      rw [Function.update_eq_self]
      exact fine
    · next kept =>
      have registered := (or_assoc.mpr fits).resolve_left kept
      exact sound.handOut rfl alloc (fine.fewer { ok with } (Finset.Subset.refl _))
        (fun a _ other => Life.setUserCnt_same other 1000) made registered
        (by simp [Life.setUserCnt]) listed (sound.unused made zero)
        fun tvp there => by rw [sound.only made there]; exact zero
  | none =>
    rw [found] at fits
    dsimp only at fits
    rcases Life.alloc_new pageNum got (s.mgrs.room given) found with
      ⟨alloc, -⟩ | ⟨mms, here, nonneg, alloc⟩
    · refine sound.alloc_fails rfl alloc ?_ fun a _ => .refl _ _
      rw [Function.update_eq_self]
      exact fine
    · have fresh : mms ∉ (s.mgrs istvp).made := Managers.room_fresh here
      have unhanded : mms ∉ s.handed := fun there => by
        obtain ⟨tvp, made⟩ := sound.known mms there
        exact Managers.room_fresh here made
      split at alloc
      · refine sound.alloc_fails rfl alloc (fine.add here rfl (ok.joined fresh _)) fun a there =>
          Life.joined_same ?_ _
        rintro rfl
        exact unhanded there
      · next kept =>
        have room : none ∈ (s.mgrs istvp).scmap := by
          rcases fits with none_ | negative | rest
          · rw [here] at none_
            cases none_
          · exact absurd nonneg (Int.not_le.mpr negative)
          · exact (or_assoc.mpr rest).resolve_left kept
        refine sound.handOut rfl alloc (fine.add here rfl (ok.joined fresh _))
          (fun a _ other => Life.joined_same other _) (Finset.mem_insert_self _ _)
          (Life.valid_iff.mpr (mem_mapAdd.mpr (Or.inr ⟨rfl, room⟩))) (by simp [Life.created])
          (List.mem_append_right _ (List.mem_singleton_self _)) (sound.unheld mms unhanded) ?_
        exact fun tvp there => absurd there (Managers.room_fresh here)

theorem Exact.handed_registered {istvp : Bool} {maxPage pageNum got : Int} {given : Option Nat}
    {life : Life} (exact_ : s.Exact (.alloc istvp maxPage pageNum given got))
    (alloc : (s.mgrs istvp).alloc maxPage pageNum (s.mgrs.room given) got = (life, some mms))
    (apart : mms ∉ (s.mgrs (!istvp)).made) : life.valid mms := by
  have whole := Managers.alloc_eq alloc
  have next : s.mgrs.next (.alloc istvp maxPage pageNum given got) =
      Function.update s.mgrs istvp life :=
    congrArg Prod.fst whole
  obtain ⟨tvp, lives⟩ := exact_.lives mms (mem_handed_step.mpr (Or.inr (congrArg Prod.snd whole)))
  have lives : (s.mgrs.next (.alloc istvp maxPage pageNum given got) tvp).Lives mms _ _ := lives
  rw [next] at lives
  by_cases own : tvp = istvp
  · rw [own, Function.update_self] at lives
    exact lives.registered
  · rw [Function.update_of_ne own, Bool.eq_not.mpr own] at lives
    exact absurd lives.made apart

theorem Sound.fits_of_exact (sound : s.Sound) (held : s.Held call) (exact_ : s.Exact call) :
    s.Fits call := by
  cases call with
  | decKeeper | decOwner | clear | arrange | dropCache => trivial
  | incKeeper mms jiffies =>
    by_contra misfit
    exact sound.incKeeper_refused held misfit (exact_.carriedOut mms rfl)
  | alloc istvp maxPage pageNum given got =>
    have ok := sound.fine.ok istvp
    unfold Fits
    dsimp only
    cases found : (s.mgrs istvp).findFree maxPage with
    | some mms =>
      dsimp only
      by_contra misfit
      rw [← or_assoc] at misfit
      obtain ⟨kept, unregistered⟩ := not_or.mp misfit
      have alloc := Life.alloc_again pageNum got (s.mgrs.room given) found
      rw [if_neg kept] at alloc
      have registered := exact_.handed_registered alloc
        (sound.fine.apart istvp mms (ok.listed mms (Life.findFree_spec found).1))
      exact unregistered registered
    | none =>
      dsimp only
      rcases Life.alloc_new pageNum got (s.mgrs.room given) found with
        ⟨-, none_ | negative⟩ | ⟨mms, here, -, alloc⟩
      · exact Or.inl none_
      · exact Or.inr (Or.inl negative)
      · refine Or.inr (Or.inr (or_assoc.mp ?_))
        refine or_iff_not_imp_left.mpr fun kept => ?_
        rw [if_neg kept] at alloc
        have registered := exact_.handed_registered alloc (Managers.room_fresh here)
        rcases mem_mapAdd.mp (Life.valid_iff.mp registered) with old | ⟨-, room⟩
        · exact absurd (ok.mapped mms old) (Managers.room_fresh here)
        · exact room

theorem Sound.step (sound : s.Sound) (held : s.Held call) (fits : s.Fits call) :
    (s.step call).Sound ∧ s.Exact call := by
  cases call with
  | alloc => exact sound.alloc rfl fits
  | incKeeper => exact sound.incKeeper rfl held fits
  | decKeeper => exact sound.decKeeper rfl held
  | decOwner => exact sound.decOwner rfl held
  | clear => exact sound.clear rfl
  | arrange => exact sound.arrange rfl
  | dropCache => exact sound.dropCache rfl

end LifeUse

theorem initial_life_sound : LifeUse.Sound {} where
  fine :=
    { ok := fun _ =>
        { mapped := fun a there => by
            have same := List.eq_of_mem_replicate (show some a ∈
              List.replicate maxScList none from there)
            cases same
          once := fun a => by
            change (List.replicate maxScList none).count (some a) ≤ 1
            rw [List.count_replicate, if_neg (by simp)]
            exact Nat.zero_le _
          nodup := List.nodup_nil
          listed := nofun
          cached := fun a here => here.elim nofun nofun
          apart := nofun }
      apart := fun _ _ _ => Finset.notMem_empty _ }
  lives a there := absurd there (Finset.notMem_empty a)
  unheld _ _ := ⟨rfl, rfl⟩

theorem lifetime_kept_exactly (calls : List LifeCall)
    (held : Along LifeUse.step LifeUse.Held {} calls) :
    Along LifeUse.step LifeUse.Exact {} calls ↔ Along LifeUse.step LifeUse.Fits {} calls :=
  along_iff_along LifeUse.step LifeUse.Held LifeUse.Exact LifeUse.Fits LifeUse.Sound
    (fun _ _ sound held => ⟨sound.fits_of_exact held, fun fits => (sound.step held fits).2⟩)
    (fun _ _ sound held exact_ => (sound.step held (sound.fits_of_exact held exact_)).1) {}
    initial_life_sound calls held

theorem lifetime_kept_of_one : Along LifeUse.step LifeUse.Exact {}
    [.alloc false 8 8 (some 1) 8, .incKeeper 1 0, .decOwner 1 0, .decKeeper 1 0,
      .clear false true false 1 fun _ => false] ↔
      Along LifeUse.step LifeUse.Fits {}
        [.alloc false 8 8 (some 1) 8, .incKeeper 1 0, .decOwner 1 0, .decKeeper 1 0,
          .clear false true false 1 fun _ => false] :=
  lifetime_kept_exactly _ ⟨trivial,
    by decide +kernel, by decide +kernel, by decide +kernel, trivial, trivial⟩

def manyScatters : List LifeCall := (List.range 64).map fun mms => .alloc false 8 8 (some mms) 8

theorem scatter_unregistered :
    Along LifeUse.step LifeUse.Held {} (manyScatters ++ [.alloc false 8 8 (some 64) 8]) ∧
      ¬ Along LifeUse.step LifeUse.Exact {} (manyScatters ++ [.alloc false 8 8 (some 64) 8]) := by
  constructor
  · have free : ∀ calls : List LifeCall, (∀ call ∈ calls, call.counted = none) → ∀ s,
        Along LifeUse.step LifeUse.Held s calls := by
      intro calls
      induction calls with
      | nil => exact fun _ _ => trivial
      | cons call rest ih =>
        intro uncounted s
        refine ⟨?_, ih (fun call there => uncounted call (List.mem_cons_of_mem _ there)) _⟩
        have here := uncounted call List.mem_cons_self
        cases call with
        | incKeeper | decKeeper | decOwner => cases here
        | alloc | clear | arrange | dropCache => trivial
    exact free _ (by decide +kernel) {}
  · intro along
    obtain ⟨tvp, lives⟩ := along.last.lives 64 (by decide +kernel)
    have registered := lives.registered
    cases tvp <;> revert registered <;> decide +kernel

end UnionpiTiger.Scatter
