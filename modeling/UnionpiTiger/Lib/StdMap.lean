import Mathlib.Data.List.Sort
import Mathlib.Data.List.Nodup

set_option autoImplicit false

namespace UnionpiTiger.Lib

structure StdMap (K V : Type) where
  entries : List (K × V) := []
  nodup : (entries.map Prod.fst).Nodup := by simp

namespace StdMap

variable {K V : Type} [DecidableEq K]

def find? (map : StdMap K V) (key : K) : Option V := map.entries.lookup key

def contains (map : StdMap K V) (key : K) : Bool := decide (key ∈ map.entries.map Prod.fst)

def erase (map : StdMap K V) (key : K) : StdMap K V where
  entries := map.entries.filter (fun entry => entry.1 ≠ key)
  nodup := map.nodup.sublist (List.filter_sublist.map Prod.fst)

section

variable [LT K] [DecidableLT K]

def place (entries : List (K × V)) (key : K) (value : V) : List (K × V) :=
  entries.orderedInsert (fun left right => left.1 < right.1) (key, value)

omit [DecidableEq K] in
theorem place_perm (entries : List (K × V)) (key : K) (value : V) :
    (place entries key value).Perm ((key, value) :: entries) :=
  List.perm_orderedInsert _ _ _

omit [DecidableEq K] in
theorem place_nodup {entries : List (K × V)} (nodup : (entries.map Prod.fst).Nodup) {key : K}
    (fresh : key ∉ entries.map Prod.fst) (value : V) :
    ((place entries key value).map Prod.fst).Nodup := by
  have moved := (place_perm entries key value).map Prod.fst
  rw [List.map_cons] at moved
  exact moved.nodup_iff.mpr (List.nodup_cons.mpr ⟨fresh, nodup⟩)

def insert (map : StdMap K V) (key : K) (value : V) : StdMap K V × Bool :=
  if fresh : key ∉ map.entries.map Prod.fst then
    ({ entries := place map.entries key value, nodup := place_nodup map.nodup fresh value }, true)
  else (map, false)

def assign (map : StdMap K V) (key : K) (value : V) : StdMap K V :=
  ((map.erase key).insert key value).1

end

variable {map : StdMap K V} {key other : K} {value : V}

theorem find?_eq_some_iff : map.find? key = some value ↔ (key, value) ∈ map.entries := by
  obtain ⟨entries, nodup⟩ := map
  change entries.lookup key = some value ↔ (key, value) ∈ entries
  induction entries with
  | nil => simp
  | cons entry rest ih =>
    obtain ⟨first, stored⟩ := entry
    obtain ⟨fresh, nodup⟩ := List.nodup_cons.mp nodup
    rw [List.lookup_cons, List.mem_cons, Prod.mk.injEq]
    by_cases same : key = first
    · rw [beq_iff_eq.mpr same]
      change some stored = some value ↔ _
      rw [Option.some_inj]
      constructor
      · rintro rfl
        exact Or.inl ⟨same, rfl⟩
      · rintro (⟨_, rfl⟩ | later)
        · rfl
        · exact absurd (List.mem_map_of_mem (f := Prod.fst) later) (same ▸ fresh)
    · rw [beq_eq_false_iff_ne.mpr same]
      change rest.lookup key = some value ↔ _
      rw [ih nodup]
      simp [same]

theorem find?_eq_none_iff : map.find? key = none ↔ key ∉ map.entries.map Prod.fst := by
  rw [find?, List.lookup_eq_none_iff, List.mem_map]
  constructor
  · rintro absent ⟨entry, mem, rfl⟩
    simpa using absent entry mem
  · intro absent entry mem
    rw [bne_iff_ne]
    rintro rfl
    exact absent ⟨entry, mem, rfl⟩

theorem find?_congr {next : StdMap K V}
    (same : ∀ value, (key, value) ∈ next.entries ↔ (key, value) ∈ map.entries) :
    next.find? key = map.find? key := by
  apply Option.ext
  intro value
  rw [find?_eq_some_iff, find?_eq_some_iff]
  exact same value

theorem mem_erase {stored : V} :
    (other, stored) ∈ (map.erase key).entries ↔ (other, stored) ∈ map.entries ∧ other ≠ key := by
  change (other, stored) ∈ map.entries.filter _ ↔ _
  rw [List.mem_filter, decide_eq_true_iff]

theorem find?_erase :
    (map.erase key).find? other = if other = key then none else map.find? other := by
  split_ifs with same
  · rw [find?_eq_none_iff, List.mem_map]
    rintro ⟨entry, mem, rfl⟩
    exact (mem_erase.mp mem).2 same
  · refine find?_congr ?_
    intro value
    rw [mem_erase, and_iff_left same]

omit [DecidableEq K] in
theorem entries_nodup (map : StdMap K V) : map.entries.Nodup := map.nodup.of_map

theorem erase_perm (mem : (key, value) ∈ map.entries) :
    map.entries.Perm ((key, value) :: (map.erase key).entries) := by
  have fresh : (key, value) ∉ (map.erase key).entries := fun left => (mem_erase.mp left).2 rfl
  refine (List.perm_ext_iff_of_nodup map.entries_nodup
    (List.nodup_cons.mpr ⟨fresh, (map.erase key).entries_nodup⟩)).mpr ?_
  rintro ⟨first, stored⟩
  rw [List.mem_cons, mem_erase, Prod.mk.injEq]
  constructor
  · intro there
    by_cases same : first = key
    · subst same
      have found := find?_eq_some_iff.mpr there
      rw [find?_eq_some_iff.mpr mem] at found
      exact Or.inl ⟨rfl, (Option.some_inj.mp found).symm⟩
    · exact Or.inr ⟨there, same⟩
  · rintro (⟨rfl, rfl⟩ | ⟨there, _⟩)
    · exact mem
    · exact there

section

variable [LT K] [DecidableLT K]

theorem insert_fresh (value : V) (absent : map.find? key = none) :
    (map.insert key value).2 = true ∧
    (map.insert key value).1.entries.Perm ((key, value) :: map.entries) := by
  unfold insert
  rw [dif_pos (find?_eq_none_iff.mp absent)]
  exact ⟨rfl, place_perm _ _ _⟩

theorem insert_present (present : map.find? key ≠ none) :
    map.insert key value = (map, false) := by
  unfold insert
  rw [dif_neg (fun fresh => present (find?_eq_none_iff.mpr fresh))]

theorem find?_insert (absent : map.find? key = none) :
    (map.insert key value).1.find? other =
      if other = key then some value else map.find? other := by
  have perm := (insert_fresh value absent).2
  split_ifs with same
  · rw [find?_eq_some_iff, perm.mem_iff, same]
    exact List.mem_cons_self
  · refine find?_congr ?_
    intro stored
    rw [perm.mem_iff, List.mem_cons, Prod.mk.injEq]
    simp [same]

theorem find?_assign :
    (map.assign key value).find? other = if other = key then some value else map.find? other := by
  have absent : (map.erase key).find? key = none := by rw [find?_erase, if_pos rfl]
  rw [assign, find?_insert absent, find?_erase]
  split_ifs <;> rfl

end

end StdMap

end UnionpiTiger.Lib
