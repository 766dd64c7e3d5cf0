import Mathlib.Algebra.BigOperators.Group.List.Basic
import UnionpiTiger.CodecMm.Mgt
import UnionpiTiger.Lib.Run

set_option autoImplicit false

namespace UnionpiTiger.CodecMm

open Lib

structure Tallies (counter : BitVec 32) (amounts : List (BitVec 32)) : Prop where
  sum : counter = amounts.sum
  exact : -2 ^ 31 ≤ (amounts.map BitVec.toInt).sum → (amounts.map BitVec.toInt).sum < 2 ^ 31 →
    counter.toInt = (amounts.map BitVec.toInt).sum

theorem toInt_sum (amounts : List (BitVec 32)) :
    amounts.sum.toInt = (amounts.map BitVec.toInt).sum.bmod (2 ^ 32) := by
  induction amounts with
  | nil => rfl
  | cons amount rest ih =>
    rw [List.sum_cons, List.map_cons, List.sum_cons, BitVec.toInt_add, ih]
    exact Int.add_bmod_bmod

theorem tallies_sum (amounts : List (BitVec 32)) : Tallies amounts.sum amounts where
  sum := rfl
  exact low high := by
    rw [toInt_sum]
    exact Int.bmod_eq_of_le (by omega) (by omega)

def settle (loans : List (Nat × Loan)) : PoolCall → Option (List (Nat × Loan))
  | .took mem loan => some (loans ++ [(mem, loan)])
  | .gave mem loan => if (mem, loan) ∈ loans then some (loans.erase (mem, loan)) else none

def lent (calls : List PoolCall) : Option (List (Nat × Loan)) := calls.foldlM settle []

theorem lent_append {calls : List PoolCall} {loans : List (Nat × Loan)}
    (before : lent calls = some loans) (call : PoolCall) :
    lent (calls ++ [call]) = settle loans call := by
  rw [lent, List.foldlM_append]
  change (lent calls).bind _ = _
  rw [before, Option.bind_some, List.foldlM_cons, Option.bind_eq_bind]
  cases settle loans call <;> rfl

inductive Counter where
  | source (from_ : From)
  | total
  | scSize
  | scCnt
  | vmaped

def Mem.counts (mem : Mem) : Counter → Bool
  | .source from_ => mem.fromFlags = some from_
  | .total => !has mem.flags flagsForLocalMgr
  | .scSize => has mem.flags flagsForScatter
  | .scCnt => has mem.flags flagsForScatter
  | .vmaped => has mem.flags flagsForPhysVmaped

def Mem.amount (mem : Mem) : Counter → BitVec 32
  | .scCnt => 1
  | .vmaped => mem.pageCount
  | _ => mem.bufferSize

def Mem.weight (mem : Mem) (counter : Counter) : BitVec 32 :=
  if mem.counts counter then mem.amount counter else 0

namespace Mgt

def value (m : Mgt) : Counter → BitVec 32
  | .source .pages => m.allocedSysSize
  | .source .reserved => m.allocedResSize
  | .source .cma => m.allocedCmaSize
  | .source .tvp => m.allocedTvpSize
  | .source .cmaRes => m.allocedCmaResSize
  | .total => m.totalAllocedSize
  | .scSize => m.allocedForScSize
  | .scCnt => m.allocedForScCnt
  | .vmaped => m.physVmapedPageCnt

-- The sizes of the blocks in mem_list that meet `which`.
def sizes (m : Mgt) (which : Mem → Bool) : List (BitVec 32) :=
  ((m.memList.map m.mem).filter which).map Mem.bufferSize

structure Accounted (m : Mgt) : Prop where
  res : Tallies m.allocedResSize (m.sizes fun mem => mem.fromFlags = some .reserved)
  cma : Tallies m.allocedCmaSize (m.sizes fun mem => mem.fromFlags = some .cma)
  sys : Tallies m.allocedSysSize (m.sizes fun mem => mem.fromFlags = some .pages)
  tvp : Tallies m.allocedTvpSize (m.sizes fun mem => mem.fromFlags = some .tvp)
  cmaRes : Tallies m.allocedCmaResSize (m.sizes fun mem => mem.fromFlags = some .cmaRes)
  total : Tallies m.totalAllocedSize (m.sizes fun mem => !has mem.flags flagsForLocalMgr)
  scSize : Tallies m.allocedForScSize (m.sizes fun mem => has mem.flags flagsForScatter)
  scCnt : Tallies m.allocedForScCnt
    ((m.sizes fun mem => has mem.flags flagsForScatter).map fun _ => 1)
  sources : ∃ loans, lent m.pools = some loans ∧ (loans.map fun loan => (loan.1, some loan.2)).Perm
    (m.memList.map fun addr => (addr, (m.mem addr).given))

structure Sound (m : Mgt) : Prop where
  nodup : m.memList.Nodup
  apart : ∀ p ∈ m.pending, p.addr ∉ m.memList
  value : ∀ counter, m.value counter = (m.memList.map fun addr => (m.mem addr).weight counter).sum
  sources : ∃ loans, lent m.pools = some loans ∧ (loans.map fun loan => (loan.1, some loan.2)).Perm
    (m.memList.map fun addr => (addr, (m.mem addr).given))

end Mgt

section

variable {m : Mgt} {mem found : Mem} {loan : Loan} {answers : Answers} {addr : Nat} {owner : String}
  {counter : Counter}

theorem of_try {A B : Type} {allowed : Prop} [Decidable allowed] {answer : Option A} {f : A → B} {b : B}
    (here : some b = if allowed then answer.map f else none) : ∃ a, f a = b := by
  split at here
  · obtain ⟨a, -, same⟩ := Option.map_eq_some_iff.mp here.symm
    exact ⟨a, same⟩
  · cases here

theorem tries_found {can : Mgt.CanFrom} (there : some (found, loan) ∈ m.tries mem can answers) :
    found.given = some loan ∧ found.owner = mem.owner := by
  simp only [Mgt.tries, List.mem_cons, List.not_mem_nil, or_false] at there
  rcases there with here | here | here | here | here | here | here
  all_goals obtain ⟨answer, same⟩ := of_try here
  case inr.inr.inr.inr.inl =>
    split at same
    · cases same
      unfold Mem.mapPhyaddr
      split <;> exact ⟨rfl, rfl⟩
    · cases same
      exact ⟨rfl, rfl⟩
  all_goals
    cases same
    exact ⟨rfl, rfl⟩

theorem allocIn_found (ok : m.allocIn mem answers = .ok (found, loan)) :
    found.given = some loan ∧ found.owner = mem.owner := by
  unfold Mgt.allocIn at ok
  dsimp only at ok
  split at ok
  · cases ok
  · split at ok
    · cases ok
    · split at ok
      · next first =>
        cases ok
        obtain ⟨entry, there, same⟩ := List.exists_of_findSome?_eq_some first
        cases same
        exact tries_found there
      · cases ok

theorem register_value :
    (m.register addr owner mem loan).value counter = m.value counter + mem.weight counter := by
  cases counter with
  | source from_ => cases from_ <;>
      simp [Mgt.value, Mgt.register, Mem.weight, Mem.counts, Mem.amount, Mem.sizeFrom]
  | total =>
    simp only [Mgt.value, Mgt.register, Mem.weight, Mem.counts, Mem.amount]
    by_cases localMgr : has mem.flags flagsForLocalMgr
    · simp [localMgr]
    · simp [localMgr]
  | scSize | scCnt | vmaped => rfl

theorem freeIn_value : (m.freeIn addr mem).value counter = m.value counter - mem.weight counter := by
  cases counter with
  | source from_ => cases from_ <;>
      simp [Mgt.value, Mgt.freeIn, Mem.weight, Mem.counts, Mem.amount, Mem.sizeFrom]
  | total =>
    simp only [Mgt.value, Mgt.freeIn, Mem.weight, Mem.counts, Mem.amount]
    by_cases localMgr : has mem.flags flagsForLocalMgr
    · simp [localMgr]
    · simp [localMgr]
  | scSize | scCnt | vmaped => rfl

theorem register_mem_self : (m.register addr owner mem loan).mem addr =
    { mem with useCnt := 1, owner := mem.owner.set 0 (some owner) } := Function.update_self _ _ _

theorem register_mem_of_ne {a : Nat} (other : a ≠ addr) :
    (m.register addr owner mem loan).mem a = m.mem a := Function.update_of_ne other _ _

theorem register_map {B : Type} (f : Nat → Mem → B) (fresh : addr ∉ m.memList) :
    ((m.register addr owner mem loan).memList.map fun a =>
      f a ((m.register addr owner mem loan).mem a)) =
      (m.memList.map fun a => f a (m.mem a)) ++
        [f addr ((m.register addr owner mem loan).mem addr)] := by
  have old : (m.memList.map fun a => f a ((m.register addr owner mem loan).mem a)) =
      m.memList.map fun a => f a (m.mem a) := by
    refine List.map_congr_left fun a there => ?_
    rw [register_mem_of_ne]
    rintro rfl
    exact fresh there
  rw [← old]
  exact List.map_append

theorem register_sound (sound : m.Sound) (fresh : addr ∉ m.memList)
    (others : ∀ p ∈ m.pending, p.addr ≠ addr) (given : mem.given = some loan) :
    (m.register addr owner mem loan).Sound where
  nodup := List.nodup_append.mpr ⟨sound.nodup, List.nodup_singleton addr, by
    rintro a there _ here rfl
    exact fresh (List.mem_singleton.mp here ▸ there)⟩
  apart p waiting here := by
    rcases List.mem_append.mp here with there | last
    · exact sound.apart p waiting there
    · exact others p waiting (List.mem_singleton.mp last)
  value counter := by
    rw [register_map (fun _ mem => mem.weight counter) fresh, List.sum_append, List.sum_singleton,
      register_mem_self, register_value, sound.value counter]
    rfl
  sources := by
    obtain ⟨loans, lent, perm⟩ := sound.sources
    refine ⟨loans ++ [(addr, loan)], lent_append lent (.took addr loan), ?_⟩
    rw [register_map (fun a mem => (a, mem.given)) fresh, register_mem_self, List.map_append]
    refine perm.append ?_
    rw [List.map_singleton, ← given]
    exact List.Perm.refl _

theorem owners_map {B : Type} (f : Nat → Mem → B) {new : Mem} (same : f addr new = f addr (m.mem addr))
    (list : List Nat) :
    (list.map fun a => f a (Function.update m.mem addr new a)) = list.map fun a => f a (m.mem a) := by
  refine List.map_congr_left fun a _ => ?_
  by_cases here : a = addr
  · rw [here, Function.update_self, same]
  · rw [Function.update_of_ne here]

theorem owners_sound (sound : m.Sound) (addr : Nat) (new : Mem)
    (same : new = { m.mem addr with useCnt := new.useCnt, owner := new.owner }) :
    { m with mem := Function.update m.mem addr new }.Sound where
  nodup := sound.nodup
  apart := sound.apart
  value counter := by
    refine (sound.value counter).trans
      (congrArg List.sum (owners_map (fun _ mem => mem.weight counter) ?_ _).symm)
    rw [same]
    rfl
  sources := by
    obtain ⟨loans, lent, perm⟩ := sound.sources
    refine ⟨loans, lent,
      perm.trans (List.Perm.of_eq (owners_map (fun a mem => (a, mem.given)) ?_ _).symm)⟩
    rw [same]
    rfl

theorem free_sound (sound : m.Sound) (there : addr ∈ m.memList) (here : m.mem addr = mem) :
    ({ m with memList := m.memList.erase addr }.freeIn addr mem).Sound where
  nodup := sound.nodup.erase addr
  apart p waiting here := sound.apart p waiting (List.mem_of_mem_erase here)
  value counter := by
    have split := ((List.perm_cons_erase there).map fun a => (m.mem a).weight counter).sum_eq
    rw [List.map_cons, List.sum_cons] at split
    rw [freeIn_value, ← here]
    change m.value counter - _ = _
    rw [sound.value counter, split]
    exact add_sub_cancel_left _ _
  sources := by
    obtain ⟨loans, lent, perm⟩ := sound.sources
    have mine : (addr, (m.mem addr).given) ∈ loans.map fun loan => (loan.1, some loan.2) :=
      perm.mem_iff.mpr (List.mem_map_of_mem (f := fun a => (a, (m.mem a).given)) there)
    obtain ⟨⟨a, loan⟩, held, same⟩ := List.mem_map.mp mine
    obtain ⟨own, given⟩ := Prod.mk.inj same
    dsimp only at own given
    rw [own] at held
    refine ⟨loans.erase (addr, loan), ?_, ?_⟩
    · change CodecMm.lent (m.pools ++ (mem.given.map (PoolCall.gave addr)).toList) = _
      rw [← here, ← given]
      exact (lent_append lent (.gave addr loan)).trans (if_pos held)
    · have left : Function.Injective fun loan : Nat × Loan => (loan.1, some loan.2) := by
        rintro ⟨a, loan⟩ ⟨b, other⟩ same
        obtain ⟨first, second⟩ := Prod.mk.inj same
        exact Prod.ext first (Option.some.inj second)
      have right : Function.Injective fun a => (a, (m.mem a).given) :=
        fun a b same => (Prod.mk.inj same).1
      have less := perm.erase (addr, (m.mem addr).given)
      rw [← given] at less
      rw [List.map_erase left]
      refine less.trans (List.Perm.of_eq ?_)
      change _ = (m.memList.erase addr).map fun a => (a, (m.mem a).given)
      rw [List.map_erase right, given]

theorem alloc_sound (sound : m.Sound) {size align2n memflags : BitVec 32} :
    (m.alloc addr owner size align2n memflags answers).Sound := by
  unfold Mgt.alloc
  split
  · exact sound
  · next room =>
    obtain ⟨-, unused⟩ := not_or.mp room
    have fresh : addr ∉ m.memList := fun there => unused (by simp [Mgt.used, there])
    have others : ∀ p ∈ m.pending, p.addr ≠ addr := fun p waiting same =>
      unused (by simpa [Mgt.used] using Or.inr ⟨p, waiting, same⟩)
    dsimp only
    split
    · next ok => exact register_sound sound fresh others (allocIn_found ok).1
    · split
      · exact { sound with
          apart := fun p waiting => by
            rcases List.mem_append.mp waiting with there | last
            · exact sound.apart p there
            · rw [List.mem_singleton.mp last]
              exact fresh }
      · exact sound

theorem retry_sound (sound : m.Sound) : (m.retry addr answers).Sound := by
  unfold Mgt.retry
  split
  · exact sound
  · next found =>
    have waiting := List.mem_of_find?_eq_some found
    have here := of_decide_eq_true
      (List.find?_some (p := fun p : Pending => decide (p.addr = addr)) found)
    have fewer : { m with pending := m.pending.filter fun p => p.addr ≠ addr }.Sound :=
      { sound with apart := fun p waiting => sound.apart p (List.mem_of_mem_filter waiting) }
    dsimp only
    split
    · next ok =>
      exact register_sound fewer (here ▸ sound.apart _ waiting)
        (fun p waiting => by simpa using (List.mem_filter.mp waiting).2) (allocIn_found ok).1
    · exact fewer

theorem release_sound (sound : m.Sound) : (m.release addr owner).Sound := by
  unfold Mgt.release
  split
  · next there =>
    have dropped := owners_sound sound addr ((m.mem addr).drop owner) rfl
    dsimp only
    split
    · exact free_sound dropped there (Function.update_self _ _ _)
    · exact dropped
  · exact sound

theorem request_sound (sound : m.Sound) : (m.requestSharedMem addr owner).1.Sound := by
  unfold Mgt.requestSharedMem
  split
  · exact sound
  · split
    · exact sound
    · exact owners_sound sound addr _ rfl

theorem step_sound (sound : m.Sound) (call : Call) : (m.step call).Sound := by
  cases call with
  | alloc addr owner size align2n memflags answers => exact alloc_sound sound
  | retry addr answers => exact retry_sound sound
  | request addr owner => exact request_sound sound
  | release addr owner => exact release_sound sound
  | configure config => exact { sound with }

theorem sum_weights (counter : Counter) (mems : List Mem) :
    (mems.map fun mem => mem.weight counter).sum =
      ((mems.filter fun mem => mem.counts counter).map fun mem => mem.amount counter).sum := by
  induction mems with
  | nil => rfl
  | cons mem rest ih =>
    rw [List.map_cons, List.sum_cons, ih, List.filter_cons, Mem.weight]
    split
    · rw [List.map_cons, List.sum_cons]
    · exact zero_add _

theorem Mgt.Sound.tallies (sound : m.Sound) (counter : Counter) : Tallies (m.value counter)
    (((m.memList.map m.mem).filter fun mem => mem.counts counter).map fun mem =>
      mem.amount counter) := by
  rw [sound.value counter, ← Function.comp_def (fun mem => Mem.weight mem counter) m.mem,
    ← List.map_map, sum_weights]
  exact tallies_sum _

theorem Mgt.Sound.accounted (sound : m.Sound) : m.Accounted where
  res := sound.tallies (.source .reserved)
  cma := sound.tallies (.source .cma)
  sys := sound.tallies (.source .pages)
  tvp := sound.tallies (.source .tvp)
  cmaRes := sound.tallies (.source .cmaRes)
  total := sound.tallies .total
  scSize := sound.tallies .scSize
  scCnt := by
    rw [Mgt.sizes, List.map_map]
    exact sound.tallies .scCnt
  sources := sound.sources

end

theorem initial_sound (config : Config) : Mgt.Sound { config } where
  nodup := List.nodup_nil
  apart := nofun
  value counter := by
    cases counter with
    | source from_ => cases from_ <;> rfl
    | total | scSize | scCnt | vmaped => rfl
  sources := ⟨[], rfl, List.Perm.nil⟩

theorem accounted_along_runs (config : Config) (calls : List Call) :
    (run Mgt.step { config } calls).Accounted :=
  (run_always Mgt.step Mgt.Sound (fun _ call sound => step_sound sound call) { config }
    (initial_sound config) calls).accounted

end UnionpiTiger.CodecMm
