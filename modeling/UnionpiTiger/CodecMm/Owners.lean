import UnionpiTiger.CodecMm.Tally

set_option autoImplicit false

namespace UnionpiTiger.CodecMm

open Lib

def Mem.owners (mem : Mem) : List (Option String) := mem.owner.take mem.useCnt

-- The manager, and who holds what: the blocks with the names they have been acquired under.
structure MemUse where
  mgt : Mgt
  holders : List (Nat × String) := []

def Mgt.uses (m : Mgt) (addr : Nat) : Nat := if addr ∈ m.memList then (m.mem addr).useCnt else 0

def Mgt.wanted (m : Mgt) : Call → Option (Nat × String)
  | .alloc addr owner _ _ _ _ => some (addr, owner)
  | .retry addr _ => (m.pending.find? fun p => p.addr = addr).map fun p => (addr, p.owner)
  | .request addr owner => some (addr, owner)
  | _ => none

def Mgt.Adds (m : Mgt) (call : Call) (addr : Nat) : Prop := m.uses addr < (m.step call).uses addr

instance (m : Mgt) (call : Call) (addr : Nat) : Decidable (m.Adds call addr) :=
  inferInstanceAs (Decidable (_ < _))

namespace MemUse

def names (s : MemUse) (addr : Nat) : List String := (s.holders.filter fun h => h.1 = addr).map Prod.snd

def step (s : MemUse) (call : Call) : MemUse where
  mgt := s.mgt.step call
  holders :=
    match call, s.mgt.wanted call with
    | .release addr owner, _ => s.holders.erase (addr, owner)
    | _, some (addr, owner) => if s.mgt.Adds call addr then s.holders ++ [(addr, owner)] else s.holders
    | _, none => s.holders

def Held (s : MemUse) : Call → Prop
  | .release addr owner => (addr, owner) ∈ s.holders
  | _ => True

instance (s : MemUse) (call : Call) : Decidable (s.Held call) := by
  cases call <;> unfold Held <;> infer_instance

def Fits (s : MemUse) : Call → Prop
  | .request addr _ => addr ∈ s.mgt.memList ∧ (s.mgt.mem addr).useCnt ≤ 7
  | .release addr owner => (s.mgt.mem addr).owner.getD ((s.mgt.mem addr).useCnt - 1) none = some owner ∨
      (s.mgt.mem addr).owners.count (some owner) = 1
  | _ => True

structure Shared (s : MemUse) : Prop where
  useCnt : ∀ addr ∈ s.mgt.memList, (s.mgt.mem addr).useCnt = (s.names addr).length
  owners : ∀ addr ∈ s.mgt.memList, (s.mgt.mem addr).owners.Perm ((s.names addr).map some)
  hasOwner : ∀ addr owner, s.mgt.hasOwner addr owner ↔ (addr, owner) ∈ s.holders

structure Exact (s : MemUse) (call : Call) : Prop where
  shared : (s.step call).Shared
  freed : ∀ addr ∈ s.mgt.memList, addr ∉ (s.step call).mgt.memList ↔
    (∃ owner, call = .release addr owner) ∧ (s.step call).names addr = []
  answer : ∀ addr owner, call = .request addr owner →
    (0 ≤ (s.mgt.requestSharedMem addr owner).2 ↔ s.mgt.Adds call addr)

structure Sound (s : MemUse) : Prop where
  mgt : s.mgt.Sound
  room : ∀ addr ∈ s.mgt.memList, (s.mgt.mem addr).owner.length = 8
  waiting : ∀ p ∈ s.mgt.pending, p.mem.owner = List.replicate 8 none
  live : ∀ addr, addr ∈ s.mgt.memList ↔ s.names addr ≠ []
  useCnt : ∀ addr ∈ s.mgt.memList, (s.mgt.mem addr).useCnt = (s.names addr).length
  owners : ∀ addr ∈ s.mgt.memList, (s.mgt.mem addr).owners.Perm ((s.names addr).map some)

end MemUse

section

variable {owner : String} {last : Option String}

theorem overwrite_length {index : Nat} {owners : List (Option String)} :
    (Mem.overwrite owner last index owners).length = owners.length := by
  induction owners generalizing index with
  | nil => cases index <;> rfl
  | cons entry rest ih =>
    cases index with
    | zero => rfl
    | succ index => exact congrArg (· + 1) ih

theorem overwrite_take {index : Nat} {owners : List (Option String)} :
    (Mem.overwrite owner last index owners).take index =
      (owners.take index).map fun entry => if entry = some owner then last else entry := by
  induction owners generalizing index with
  | nil => cases index <;> rfl
  | cons entry rest ih =>
    cases index with
    | zero => rfl
    | succ index => exact congrArg _ ih

theorem replace_once {A : Type} [DecidableEq A] [BEq A] [LawfulBEq A] {a b : A} {list : List A}
    (once : list.count a = 1) :
    (list.map fun entry => if entry = a then b else entry).Perm (b :: list.erase a) := by
  induction list with
  | nil => cases once
  | cons entry rest ih =>
    rw [List.map_cons]
    by_cases same : entry = a
    · have none_ : a ∉ rest := by
        rw [same, List.count_cons_self] at once
        exact List.count_eq_zero.mp (Nat.succ.inj once)
      have rest_same : (rest.map fun entry => if entry = a then b else entry) = rest := by
        refine (List.map_congr_left fun entry there => if_neg ?_).trans (List.map_id rest)
        rintro rfl
        exact none_ there
      rw [if_pos same, same, List.erase_cons_head, rest_same]
    · rw [List.count_cons_of_ne same] at once
      rw [if_neg same, List.erase_cons_tail (by simpa using same)]
      exact ((ih once).cons entry).trans (List.Perm.swap _ _ _)

variable {mem : Mem}

theorem drop_owners : (mem.drop owner).owners = (mem.owner.take (mem.useCnt - 1)).map fun entry =>
    if entry = some owner then mem.owner.getD (mem.useCnt - 1) none else entry := by
  rw [← overwrite_take]
  exact List.take_set_of_le (Nat.le_refl _)

theorem owners_split (some_ : 0 < mem.useCnt) (room : mem.useCnt ≤ mem.owner.length) :
    mem.owners = mem.owner.take (mem.useCnt - 1) ++ [mem.owner.getD (mem.useCnt - 1) none] := by
  have within : mem.useCnt - 1 < mem.owner.length := by omega
  have split := List.take_succ_eq_append_getElem within
  rw [Nat.sub_add_cancel some_] at split
  rw [List.getD_eq_getElem?_getD, List.getElem?_eq_getElem within]
  exact split

theorem drop_perm (some_ : 0 < mem.useCnt) (room : mem.useCnt ≤ mem.owner.length)
    (fits : mem.owner.getD (mem.useCnt - 1) none = some owner ∨ mem.owners.count (some owner) = 1) :
    mem.owners.Perm (some owner :: (mem.drop owner).owners) := by
  rw [drop_owners]
  by_cases same : mem.owner.getD (mem.useCnt - 1) none = some owner
  · have unchanged : (mem.owner.take (mem.useCnt - 1)).map (fun entry =>
        if entry = some owner then mem.owner.getD (mem.useCnt - 1) none else entry) =
          mem.owner.take (mem.useCnt - 1) := by
      refine (List.map_congr_left fun entry _ => ?_).trans (List.map_id _)
      rw [same]
      split
      · next here => exact here.symm
      · rfl
    rw [unchanged, owners_split some_ room, same]
    exact List.perm_append_singleton _ _
  · have once := fits.resolve_left same
    rw [owners_split some_ room, List.count_append, List.count_singleton,
      if_neg (by simpa using same)] at once
    have there : some owner ∈ mem.owner.take (mem.useCnt - 1) := List.count_pos_iff.mp (by omega)
    rw [Nat.add_zero] at once
    rw [owners_split some_ room]
    refine (List.perm_append_singleton _ _).trans ?_
    refine ((List.perm_cons_erase there).cons _).trans ((List.Perm.swap _ _ _).trans ?_)
    exact (replace_once once).symm.cons _

theorem drop_all (other : mem.owner.getD (mem.useCnt - 1) none ≠ some owner) :
    some owner ∉ (mem.drop owner).owners := by
  rw [drop_owners]
  intro there
  obtain ⟨entry, _, same⟩ := List.mem_map.mp there
  split at same
  · exact other same
  · next differs => exact differs same

theorem drop_length : (mem.drop owner).owner.length = mem.owner.length := by
  rw [Mem.drop, List.length_set, overwrite_length]

theorem share_owners (room : mem.useCnt < mem.owner.length) :
    (mem.share owner).owners = mem.owners ++ [some owner] := by
  change (mem.owner.set mem.useCnt (some owner)).take (mem.useCnt + 1) = _
  rw [List.take_succ_eq_append_getElem (by rwa [List.length_set]), List.take_set_of_le (Nat.le_refl _),
    List.getElem_set_self]
  rfl

end

namespace Mgt

-- What a call that is no release does to mem_list.
inductive Listed (m : Mgt) (call : Call) : Mgt → Prop where
  | same {next : Mgt} (mem : next.mem = m.mem) (memList : next.memList = m.memList) : Listed m call next
  | new {next : Mgt} {addr : Nat} {owner : String} {new : Mem} (fresh : addr ∉ m.memList)
      (wanted : m.wanted call = some (addr, owner)) (mem : next.mem = Function.update m.mem addr new)
      (memList : next.memList = m.memList ++ [addr]) (useCnt : new.useCnt = 1)
      (owner : new.owner = (List.replicate 8 none).set 0 (some owner)) : Listed m call next
  | shared {next : Mgt} {addr : Nat} {owner : String} (there : addr ∈ m.memList)
      (room : (m.mem addr).useCnt ≤ 7) (wanted : m.wanted call = some (addr, owner))
      (mem : next.mem = Function.update m.mem addr ((m.mem addr).share owner))
      (memList : next.memList = m.memList) : Listed m call next

end Mgt

section

variable {m : Mgt} {addr : Nat} {owner : String} {answers : Answers}

theorem alloc_listed (size align2n memflags : BitVec 32) :
    m.Listed (.alloc addr owner size align2n memflags answers)
      (m.alloc addr owner size align2n memflags answers) := by
  unfold Mgt.alloc
  split
  · exact .same rfl rfl
  · next room =>
    obtain ⟨-, unused⟩ := not_or.mp room
    have fresh : addr ∉ m.memList := fun there => unused (by simp [Mgt.used, there])
    dsimp only
    split
    · next ok =>
      exact .new fresh rfl rfl rfl rfl (congrArg (List.set · 0 (some owner)) (allocIn_found ok).2)
    · split <;> exact .same rfl rfl

theorem retry_listed (sound : m.Sound)
    (waiting : ∀ p ∈ m.pending, p.mem.owner = List.replicate 8 none) :
    m.Listed (.retry addr answers) (m.retry addr answers) := by
  unfold Mgt.retry
  split
  · exact .same rfl rfl
  · next owner mem found =>
    have here := List.mem_of_find?_eq_some found
    have own := of_decide_eq_true
      (List.find?_some (p := fun p : Pending => decide (p.addr = addr)) found)
    dsimp only at own
    dsimp only
    split
    · next ok =>
      refine .new (own ▸ sound.apart _ here) ?_ rfl rfl rfl
        (congrArg (List.set · 0 (some owner)) ((allocIn_found ok).2.trans (waiting _ here)))
      exact congrArg (Option.map _) found
    · exact .same rfl rfl

theorem request_listed : m.Listed (.request addr owner) (m.requestSharedMem addr owner).1 := by
  unfold Mgt.requestSharedMem
  split
  · exact .same rfl rfl
  · next there =>
    split
    · exact .same rfl rfl
    · next room => exact .shared (not_not.mp there) (Nat.le_of_not_lt room) rfl rfl rfl

theorem step_listed (sound : m.Sound) (waiting : ∀ p ∈ m.pending, p.mem.owner = List.replicate 8 none)
    (call : Call) (other : ∀ addr owner, call ≠ .release addr owner) : m.Listed call (m.step call) := by
  cases call with
  | alloc addr owner size align2n memflags answers => exact alloc_listed size align2n memflags
  | retry addr answers => exact retry_listed sound waiting
  | request addr owner => exact request_listed
  | release addr owner => exact absurd rfl (other addr owner)
  | configure config => exact .same rfl rfl

theorem step_waiting (waiting : ∀ p ∈ m.pending, p.mem.owner = List.replicate 8 none) (call : Call) :
    ∀ p ∈ (m.step call).pending, p.mem.owner = List.replicate 8 none := by
  cases call with
  | alloc addr owner size align2n memflags answers =>
    change ∀ p ∈ (m.alloc addr owner size align2n memflags answers).pending, _
    unfold Mgt.alloc
    split
    · exact waiting
    · dsimp only
      split
      · exact waiting
      · split
        · intro p here
          rcases List.mem_append.mp here with there | last
          · exact waiting p there
          · rw [List.mem_singleton.mp last]
        · exact waiting
  | retry addr answers =>
    change ∀ p ∈ (m.retry addr answers).pending, _
    unfold Mgt.retry
    split
    · exact waiting
    · dsimp only
      split <;> exact fun p here => waiting p (List.mem_of_mem_filter here)
  | request addr owner =>
    change ∀ p ∈ (m.requestSharedMem addr owner).1.pending, _
    unfold Mgt.requestSharedMem
    split
    · exact waiting
    · split <;> exact waiting
  | release addr owner =>
    change ∀ p ∈ (m.release addr owner).pending, _
    unfold Mgt.release
    split
    · dsimp only
      split <;> exact waiting
    · exact waiting
  | configure config => exact waiting

end

namespace MemUse

variable {s t : MemUse} {addr a : Nat} {owner : String} {call : Call}

theorem mem_names : owner ∈ s.names addr ↔ (addr, owner) ∈ s.holders := by
  constructor
  · intro there
    obtain ⟨⟨b, _⟩, held, rfl⟩ := List.mem_map.mp there
    obtain ⟨held, same⟩ := List.mem_filter.mp held
    exact of_decide_eq_true (p := b = addr) same ▸ held
  · intro held
    exact List.mem_map.mpr ⟨_, List.mem_filter.mpr ⟨held, decide_eq_true rfl⟩, rfl⟩

theorem names_same (holders : t.holders = s.holders) : t.names = s.names := by
  unfold names
  rw [holders]

theorem names_add (holders : t.holders = s.holders ++ [(addr, owner)]) :
    t.names addr = s.names addr ++ [owner] := by
  simp [names, holders]

theorem names_add_of_ne (holders : t.holders = s.holders ++ [(addr, owner)]) (other : a ≠ addr) :
    t.names a = s.names a := by
  rw [names, holders, List.filter_append, List.map_append,
    List.filter_cons_of_neg (by simpa using Ne.symm other)]
  exact List.append_nil _

theorem names_erase (holders : t.holders = s.holders.erase (addr, owner))
    (held : (addr, owner) ∈ s.holders) :
    (s.names addr).Perm (owner :: t.names addr) := by
  have split := ((List.perm_cons_erase held).filter fun h => h.1 = addr).map Prod.snd
  rw [List.filter_cons_of_pos (by simp)] at split
  rw [names, names, holders]
  exact split

theorem names_erase_of_ne (holders : t.holders = s.holders.erase (addr, owner))
    (held : (addr, owner) ∈ s.holders) (other : a ≠ addr) : (s.names a).Perm (t.names a) := by
  have split := ((List.perm_cons_erase held).filter fun h => h.1 = a).map Prod.snd
  rw [List.filter_cons_of_neg (by simpa using Ne.symm other)] at split
  rw [names, names, holders]
  exact split

theorem Sound.hasOwner_iff (sound : s.Sound) :
    s.mgt.hasOwner addr owner ↔ (addr, owner) ∈ s.holders := by
  rw [Mgt.hasOwner, decide_eq_true_iff, ← mem_names]
  constructor
  · rintro ⟨there, has⟩
    obtain ⟨_, mem, same⟩ := List.mem_map.mp ((sound.owners addr there).mem_iff.mp has)
    exact Option.some.inj same ▸ mem
  · intro mem
    have there := (sound.live addr).mpr (List.ne_nil_of_mem mem)
    exact ⟨there, (sound.owners addr there).mem_iff.mpr (List.mem_map_of_mem mem)⟩

theorem Sound.shared (sound : s.Sound) : s.Shared where
  useCnt := sound.useCnt
  owners := sound.owners
  hasOwner _ _ := sound.hasOwner_iff

theorem Sound.room_left (sound : s.Sound) (there : addr ∈ s.mgt.memList) :
    (s.mgt.mem addr).useCnt ≤ (s.mgt.mem addr).owner.length := by
  have length := (sound.owners addr there).length_eq
  rw [Mem.owners, List.length_take, List.length_map, ← sound.useCnt addr there] at length
  omega

theorem Sound.used (sound : s.Sound) (there : addr ∈ s.mgt.memList) : 0 < (s.mgt.mem addr).useCnt := by
  rw [sound.useCnt addr there]
  exact List.length_pos_iff.mpr ((sound.live addr).mp there)

theorem step_holders_add (other : ∀ addr owner, call ≠ .release addr owner)
    (wanted : s.mgt.wanted call = some (addr, owner)) (adds : s.mgt.Adds call addr) :
    (s.step call).holders = s.holders ++ [(addr, owner)] := by
  unfold step
  rw [wanted]
  cases call with
  | release addr owner => exact absurd rfl (other addr owner)
  | alloc | retry | request | configure => exact if_pos adds

theorem step_holders_same (other : ∀ addr owner, call ≠ .release addr owner)
    (none_ : ∀ addr, ¬ s.mgt.Adds call addr) : (s.step call).holders = s.holders := by
  unfold step
  dsimp only
  cases s.mgt.wanted call with
  | none =>
    cases call with
    | release addr owner => exact absurd rfl (other addr owner)
    | alloc | retry | request | configure => rfl
  | some wanted =>
    cases call with
    | release addr owner => exact absurd rfl (other addr owner)
    | alloc | retry | request | configure => exact if_neg (none_ wanted.1)

theorem Sound.add (sound : s.Sound) (mgt : t.mgt.Sound)
    (waiting : ∀ p ∈ t.mgt.pending, p.mem.owner = List.replicate 8 none) {new : Mem}
    (mem : t.mgt.mem = Function.update s.mgt.mem addr new)
    (memList : ∀ b, b ∈ t.mgt.memList ↔ b ∈ s.mgt.memList ∨ b = addr)
    (holders : t.holders = s.holders ++ [(addr, owner)]) (room : new.owner.length = 8)
    (useCnt : new.useCnt = (s.names addr).length + 1)
    (owners : new.owners.Perm ((s.names addr ++ [owner]).map some)) : t.Sound where
  mgt := mgt
  waiting := waiting
  room b there := by
    by_cases same : b = addr
    · rw [mem, same, Function.update_self, room]
    · rw [mem, Function.update_of_ne same]
      exact sound.room b (((memList b).mp there).resolve_right same)
  live b := by
    rw [memList]
    by_cases same : b = addr
    · rw [same, names_add holders]
      exact iff_of_true (Or.inr rfl) (List.append_ne_nil_of_right_ne_nil _ (List.cons_ne_nil _ _))
    · rw [names_add_of_ne holders same, or_iff_left same]
      exact sound.live b
  useCnt b there := by
    by_cases same : b = addr
    · rw [mem, same, Function.update_self, names_add holders, useCnt, List.length_append]
      rfl
    · rw [mem, Function.update_of_ne same, names_add_of_ne holders same]
      exact sound.useCnt b (((memList b).mp there).resolve_right same)
  owners b there := by
    by_cases same : b = addr
    · rw [mem, same, Function.update_self, names_add holders]
      exact owners
    · rw [mem, Function.update_of_ne same, names_add_of_ne holders same]
      exact sound.owners b (((memList b).mp there).resolve_right same)

theorem Sound.other (sound : s.Sound) (other : ∀ addr owner, call ≠ .release addr owner) :
    (s.step call).Sound := by
  have mgt : (s.step call).mgt.Sound := step_sound sound.mgt call
  have waiting := step_waiting sound.waiting call
  cases step_listed sound.mgt sound.waiting call other with
  | same mem memList =>
    have holders : (s.step call).holders = s.holders := step_holders_same other fun addr adds => by
      rw [Mgt.Adds, Mgt.uses, Mgt.uses, mem, memList] at adds
      exact Nat.lt_irrefl _ adds
    exact
      { mgt, waiting
        room := memList ▸ mem ▸ sound.room
        live := by
          rw [names_same holders]
          exact memList ▸ sound.live
        useCnt := by
          rw [names_same holders]
          exact memList ▸ mem ▸ sound.useCnt
        owners := by
          rw [names_same holders]
          exact memList ▸ mem ▸ sound.owners }
  | @new addr owner new fresh wanted mem memList useCnt owners =>
    have none_ : s.names addr = [] := by
      by_contra some_
      exact fresh ((sound.live addr).mpr some_)
    have adds : s.mgt.Adds call addr := by
      rw [Mgt.Adds, Mgt.uses, Mgt.uses, if_neg fresh, memList,
        if_pos (List.mem_append_right _ (List.mem_singleton_self _)), mem, Function.update_self,
        useCnt]
      exact Nat.one_pos
    refine sound.add mgt waiting mem (fun b => ?_) (step_holders_add other wanted adds) ?_ ?_ ?_
    · change b ∈ (s.mgt.step call).memList ↔ _
      rw [memList, List.mem_append, List.mem_singleton]
    · rw [owners]
      rfl
    · rw [useCnt, none_]
      rfl
    · rw [Mem.owners, useCnt, owners, none_]
      exact List.Perm.refl _
  | @shared addr owner there room wanted mem memList =>
    have adds : s.mgt.Adds call addr := by
      rw [Mgt.Adds, Mgt.uses, Mgt.uses, if_pos there, memList, if_pos there, mem, Function.update_self]
      exact Nat.lt_succ_self _
    refine sound.add mgt waiting mem (fun b => ?_) (step_holders_add other wanted adds) ?_ ?_ ?_
    · change b ∈ (s.mgt.step call).memList ↔ _
      rw [memList, or_iff_left_of_imp]
      rintro rfl
      exact there
    · exact List.length_set.trans (sound.room addr there)
    · exact congrArg (· + 1) (sound.useCnt addr there)
    · have within : (s.mgt.mem addr).useCnt < (s.mgt.mem addr).owner.length := by
        rw [sound.room addr there]
        omega
      rw [share_owners within, List.map_append]
      exact (sound.owners addr there).append_right _

end MemUse

section

variable {m : Mgt} {addr a : Nat} {owner : String}

theorem request_answer : (m.requestSharedMem addr owner).2 = 0 := by
  unfold Mgt.requestSharedMem
  split
  · rfl
  · split <;> rfl

theorem request_adds :
    m.Adds (.request addr owner) addr ↔ addr ∈ m.memList ∧ (m.mem addr).useCnt ≤ 7 := by
  change m.uses addr < (m.requestSharedMem addr owner).1.uses addr ↔ _
  unfold Mgt.requestSharedMem
  split
  · next gone => exact iff_of_false (Nat.lt_irrefl _) fun both => gone both.1
  · next there =>
    split
    · next full => exact iff_of_false (Nat.lt_irrefl _) fun both => Nat.not_le_of_lt full both.2
    · next room =>
      refine iff_of_true ?_ ⟨not_not.mp there, Nat.le_of_not_lt room⟩
      rw [Mgt.uses, Mgt.uses, if_pos (not_not.mp there), if_pos (not_not.mp there)]
      dsimp only
      rw [Function.update_self]
      exact Nat.lt_succ_self _

theorem release_mem (there : addr ∈ m.memList) :
    (m.release addr owner).mem = Function.update m.mem addr ((m.mem addr).drop owner) := by
  unfold Mgt.release
  rw [if_pos there]
  dsimp only
  split <;> rfl

theorem release_memList (there : addr ∈ m.memList) : (m.release addr owner).memList =
    if ((m.mem addr).drop owner).useCnt = 0 then m.memList.erase addr else m.memList := by
  unfold Mgt.release
  rw [if_pos there]
  dsimp only
  split <;> rfl

end

namespace MemUse

variable {s : MemUse} {addr a : Nat} {owner : String} {call : Call}

theorem Sound.held_there (sound : s.Sound) (held : (addr, owner) ∈ s.holders) : addr ∈ s.mgt.memList :=
  (sound.live addr).mpr (List.ne_nil_of_mem (mem_names.mpr held))

theorem Sound.release_left (sound : s.Sound) (held : (addr, owner) ∈ s.holders) :
    ((s.mgt.mem addr).drop owner).useCnt = ((s.step (.release addr owner)).names addr).length := by
  have length := (names_erase (t := s.step (.release addr owner)) rfl held).length_eq
  rw [List.length_cons, ← sound.useCnt addr (sound.held_there held)] at length
  change (s.mgt.mem addr).useCnt - 1 = _
  omega

-- A block goes when its last name is given up, whatever becomes of the names.
theorem Sound.release_live (sound : s.Sound) (held : (addr, owner) ∈ s.holders) (b : Nat) :
    b ∈ (s.step (.release addr owner)).mgt.memList ↔ (s.step (.release addr owner)).names b ≠ [] := by
  have there := sound.held_there held
  have memList : (s.step (.release addr owner)).mgt.memList = _ := release_memList there
  by_cases same : b = addr
  · rw [memList, same, ← List.length_pos_iff, ← sound.release_left held]
    split
    · next zero => exact iff_of_false sound.mgt.nodup.not_mem_erase (by omega)
    · next some_ => exact iff_of_true there (Nat.pos_of_ne_zero some_)
  · have names := names_erase_of_ne (t := s.step (.release addr owner)) rfl held same
    rw [← List.length_pos_iff, ← names.length_eq, List.length_pos_iff, memList]
    refine Iff.trans ?_ (sound.live b)
    split
    · exact List.mem_erase_of_ne same
    · exact Iff.rfl

theorem Sound.release (sound : s.Sound) (held : (addr, owner) ∈ s.holders)
    (fits : s.Fits (.release addr owner)) : (s.step (.release addr owner)).Sound := by
  have there := sound.held_there held
  have holders : (s.step (.release addr owner)).holders = s.holders.erase (addr, owner) := rfl
  have mem : (s.step (.release addr owner)).mgt.mem = _ := release_mem there
  have memList : (s.step (.release addr owner)).mgt.memList = _ := release_memList there
  have fewer : ∀ b, b ∈ (s.step (.release addr owner)).mgt.memList → b ∈ s.mgt.memList := by
    intro b here
    rw [memList] at here
    split at here
    · exact List.mem_of_mem_erase here
    · exact here
  exact
    { mgt := step_sound sound.mgt (.release addr owner)
      waiting := step_waiting sound.waiting (.release addr owner)
      room := fun b here => by
        by_cases same : b = addr
        · rw [mem, same, Function.update_self, drop_length]
          exact sound.room addr there
        · rw [mem, Function.update_of_ne same]
          exact sound.room b (fewer b here)
      live := sound.release_live held
      useCnt := fun b here => by
        by_cases same : b = addr
        · rw [mem, same, Function.update_self, sound.release_left held]
        · rw [mem, Function.update_of_ne same, sound.useCnt b (fewer b here)]
          exact (names_erase_of_ne holders held same).length_eq
      owners := fun b here => by
        by_cases same : b = addr
        · rw [mem, same, Function.update_self]
          have perm := drop_perm (sound.used there) (sound.room_left there) fits
          have names := (names_erase holders held).map some
          exact (perm.symm.trans ((sound.owners addr there).trans names)).cons_inv
        · rw [mem, Function.update_of_ne same]
          exact (sound.owners b (fewer b here)).trans ((names_erase_of_ne holders held same).map some) }

theorem Sound.step (sound : s.Sound) (held : s.Held call) (fits : s.Fits call) :
    (s.step call).Sound := by
  cases call with
  | release addr owner => exact sound.release held fits
  | alloc | retry | request | configure => exact sound.other nofun

theorem Sound.stays (sound : s.Sound) (other : ∀ addr owner, call ≠ .release addr owner)
    (there : addr ∈ s.mgt.memList) : addr ∈ (s.step call).mgt.memList := by
  change addr ∈ (s.mgt.step call).memList
  cases step_listed sound.mgt sound.waiting call other with
  | same mem memList => rwa [memList]
  | new fresh wanted mem memList =>
    rw [memList]
    exact List.mem_append_left _ there
  | shared there room wanted mem memList => rwa [memList]

theorem Sound.freed (sound : s.Sound) (held : s.Held call) (there : addr ∈ s.mgt.memList) :
    addr ∉ (s.step call).mgt.memList ↔
      (∃ owner, call = .release addr owner) ∧ (s.step call).names addr = [] := by
  by_cases release : ∃ b owner, call = .release b owner
  · obtain ⟨b, owner, rfl⟩ := release
    rw [sound.release_live held, not_not]
    constructor
    · intro nobody
      refine ⟨⟨owner, ?_⟩, nobody⟩
      by_contra other
      have same := names_erase_of_ne (t := s.step (.release b owner)) rfl held (a := addr)
        fun here => other (here ▸ rfl)
      rw [nobody] at same
      exact (sound.live addr).mp there same.eq_nil
    · exact And.right
  · have other : ∀ b owner, call ≠ .release b owner := fun b owner same => release ⟨b, owner, same⟩
    refine iff_of_false (not_not.mpr (sound.stays other there)) ?_
    rintro ⟨⟨owner, same⟩, -⟩
    exact other addr owner same

-- Of a name that occurs again, and not last, a holder is left that the block does not know.
theorem Sound.release_loses (sound : s.Sound) (held : (addr, owner) ∈ s.holders)
    (misfit : ¬ s.Fits (.release addr owner)) : (addr, owner) ∈ (s.step (.release addr owner)).holders ∧
      (s.step (.release addr owner)).mgt.hasOwner addr owner = false := by
  have there := sound.held_there held
  obtain ⟨other, often⟩ := not_or.mp misfit
  have counted : (s.mgt.mem addr).owners.count (some owner) = (s.names addr).count owner := by
    rw [(sound.owners addr there).count_eq, List.count_map_of_injective _ _ (Option.some_injective _)]
  have one : 0 < (s.names addr).count owner := List.count_pos_iff.mpr (mem_names.mpr held)
  constructor
  · have less := (names_erase (t := s.step (.release addr owner)) rfl held).count_eq owner
    rw [List.count_cons_self] at less
    exact mem_names.mp (List.count_pos_iff.mp (by omega))
  · have gone := drop_all other
    rw [Mgt.hasOwner, decide_eq_false_iff_not]
    rintro ⟨_, has⟩
    have mem : (s.step (.release addr owner)).mgt.mem = _ := release_mem there
    rw [mem, Function.update_self] at has
    exact gone has

theorem Sound.exact_iff (sound : s.Sound) (held : s.Held call) : s.Exact call ↔ s.Fits call := by
  constructor
  · intro exact_
    cases call with
    | alloc | retry | configure => trivial
    | request addr owner =>
      exact request_adds.mp ((exact_.answer addr owner rfl).mp (Int.le_of_eq request_answer.symm))
    | release addr owner =>
      by_contra misfit
      obtain ⟨holder, unknown⟩ := sound.release_loses held misfit
      rw [← exact_.shared.hasOwner, unknown] at holder
      exact Bool.false_ne_true holder
  · intro fits
    exact
      { shared := (sound.step held fits).shared
        freed := fun addr there => sound.freed held there
        answer := fun addr owner same => by
          subst same
          exact iff_of_true (Int.le_of_eq request_answer.symm) (request_adds.mpr fits) }

end MemUse

def MemUse.initial (config : Config) : MemUse := { mgt := { config } }

theorem initial_use_sound (config : Config) : (MemUse.initial config).Sound where
  mgt := initial_sound config
  room := nofun
  waiting := nofun
  live _ := iff_of_false List.not_mem_nil (not_not.mpr rfl)
  useCnt := nofun
  owners := nofun

theorem owners_kept_exactly (config : Config) (calls : List Call)
    (held : Along MemUse.step MemUse.Held (MemUse.initial config) calls) :
    Along MemUse.step MemUse.Exact (MemUse.initial config) calls ↔
      Along MemUse.step MemUse.Fits (MemUse.initial config) calls :=
  along_iff_along MemUse.step MemUse.Held MemUse.Exact MemUse.Fits MemUse.Sound
    (fun _ _ sound held => sound.exact_iff held)
    (fun _ _ sound held exact_ => sound.step held ((sound.exact_iff held).mp exact_)) _
    (initial_use_sound config) calls held

def onePage : Config := { allocFromSysPagesMax := 4 }

def sharedByTwo : List Call :=
  [.alloc 1 "A" 4096 0 flagsDma { pages := some 7 }, .request 1 "A", .request 1 "B"]

theorem owners_kept_of_two :
    Along MemUse.step MemUse.Exact (MemUse.initial onePage) (sharedByTwo ++ [.release 1 "B"]) ↔
      Along MemUse.step MemUse.Fits (MemUse.initial onePage) (sharedByTwo ++ [.release 1 "B"]) :=
  owners_kept_exactly onePage (sharedByTwo ++ [.release 1 "B"]) (by decide +kernel)

theorem owner_overwritten :
    Along MemUse.step MemUse.Held (MemUse.initial onePage) (sharedByTwo ++ [.release 1 "A"]) ∧
      ¬ Along MemUse.step MemUse.Exact (MemUse.initial onePage) (sharedByTwo ++ [.release 1 "A"]) := by
  refine ⟨by decide +kernel, fun along => ?_⟩
  have known := (along.last.shared.hasOwner 1 "A").mpr (by decide +kernel)
  revert known
  decide +kernel

end UnionpiTiger.CodecMm
