import UnionpiTiger.Coex.Events

set_option autoImplicit false

namespace UnionpiTiger.Coex

def ConnProf.count (conn : ConnProf) (index : Profile) : Int := (conn.profileRefcount index).toInt

def Accounts.count (accounts : Accounts) (index : Profile) : Int :=
  (accounts.profileRefcount index).toInt

-- What a connection puts on the global count. The HID interval profile is a flag of the
-- connection: `update_hid_active_state` counts it globally and nowhere else.
def tally (index : Profile) (conn : ConnProf) : Int :=
  if index = .hidInterval then (if isSet conn.profileBitmap .hidInterval then 1 else 0)
  else conn.count index

structure ConnCounted (conn : ConnProf) : Prop where
  nonneg : ∀ index, 0 ≤ conn.count index
  bits : ∀ index, index ≠ .hidInterval → (isSet conn.profileBitmap index ↔ 0 < conn.count index)
  uncounted : conn.count .hidInterval = 0
  interval : isSet conn.profileBitmap .hidInterval → 0 < conn.count .hid

structure RefCounts (accounts : Accounts) : Prop where
  conns : ∀ conn ∈ accounts.connHash, ConnCounted conn
  total : ∀ index, accounts.count index = (accounts.connHash.map (tally index)).sum
  bits : ∀ index, index ≠ .hidInterval →
    (isSet accounts.profileBitmap index ↔ 0 < accounts.count index)
  interval : isSet accounts.profileBitmap .hidInterval = false
  mapped : ∀ info ∈ accounts.profileList, info.profileIndex ≠ .hidInterval

theorem toInt_add_one (count : Int8) (room : count.toInt < 127) :
    (count + 1).toInt = count.toInt + 1 := by
  have low := count.le_toInt
  rw [Int8.toInt_add, Int8.toInt_one, Int.bmod_eq_of_le] <;> omega

theorem toInt_sub_one (count : Int8) (positive : 0 < count.toInt) :
    (count - 1).toInt = count.toInt - 1 := by
  have high := count.toInt_lt
  rw [Int8.toInt_sub, Int8.toInt_one, Int.bmod_eq_of_le] <;> omega

theorem eq_zero_iff_toInt (count : Int8) : count = 0 ↔ count.toInt = 0 := by
  rw [← Int8.toInt_inj, Int8.toInt_zero]

theorem increment_toInt (refcount : Profile → Int8) (index other : Profile)
    (room : (refcount index).toInt < 127) :
    (increment refcount index other).toInt =
      (refcount other).toInt + if other = index then 1 else 0 := by
  by_cases same : other = index
  · subst same
    simp only [increment, Function.update_self, if_true]
    exact toInt_add_one _ room
  · simp [increment, same]

theorem decrement_toInt (refcount : Profile → Int8) (index other : Profile)
    (positive : 0 < (refcount index).toInt) :
    (decrement refcount index other).toInt =
      (refcount other).toInt - if other = index then 1 else 0 := by
  by_cases same : other = index
  · subst same
    simp only [decrement, Function.update_self, if_true]
    exact toInt_sub_one _ positive
  · simp [decrement, same]

section Connection

variable {conn : ConnProf} {index : Profile}

theorem ConnCounted.fresh (handle : UInt16) (type : ConnType) :
    ConnCounted { handle := handle, type := type } := by
  constructor <;> simp [ConnProf.count]

theorem ConnProf.count_add (conn : ConnProf) (index other : Profile)
    (room : conn.count index < 127) :
    (conn.add index).count other = conn.count other + if other = index then 1 else 0 :=
  increment_toInt conn.profileRefcount index other room

theorem ConnProf.count_remove (conn : ConnProf) (index other : Profile)
    (positive : 0 < conn.count index) :
    (conn.remove index).count other = conn.count other - if other = index then 1 else 0 :=
  decrement_toInt conn.profileRefcount index other positive

theorem ConnProf.isSet_add (conn : ConnProf) (index other : Profile) :
    isSet (conn.add index).profileBitmap other =
      (isSet conn.profileBitmap other || decide (conn.count index = 0 ∧ index = other)) := by
  unfold ConnProf.add ConnProf.count
  by_cases zero : conn.profileRefcount index = 0
  · simp [zero]
  · have nonzero := mt (eq_zero_iff_toInt _).mpr zero
    simp [zero, nonzero]

theorem ConnProf.drops_iff (conn : ConnProf) (index : Profile) (positive : 0 < conn.count index) :
    conn.dropsInterval index = true ↔
      index = .hid ∧ conn.count index = 1 ∧ isSet conn.profileBitmap .hidInterval = true := by
  have last : conn.profileRefcount index - 1 = 0 ↔ conn.count index = 1 := by
    rw [eq_zero_iff_toInt, toInt_sub_one _ positive]
    unfold ConnProf.count
    omega
  simp [ConnProf.dropsInterval, last]

theorem ConnProf.isSet_remove (conn : ConnProf) (index other : Profile)
    (positive : 0 < conn.count index) :
    isSet (conn.remove index).profileBitmap other =
      (isSet conn.profileBitmap other && !decide (conn.count index = 1 ∧ index = other) &&
        !decide (conn.dropsInterval index = true ∧ other = .hidInterval)) := by
  have last : conn.profileRefcount index - 1 = 0 ↔ conn.count index = 1 := by
    rw [eq_zero_iff_toInt, toInt_sub_one _ positive]
    unfold ConnProf.count
    omega
  simp only [ConnProf.remove, last]
  by_cases one : conn.count index = 1 <;> by_cases drops : conn.dropsInterval index = true <;>
    simp [one, drops, eq_comm]

theorem ConnCounted.add (counted : ConnCounted conn) (proper : index ≠ .hidInterval)
    (room : conn.count index < 127) : ConnCounted (conn.add index) := by
  have nonneg := counted.nonneg
  constructor
  · intro other
    rw [conn.count_add index other room]
    have := nonneg other
    split_ifs <;> omega
  · intro other otherProper
    rw [conn.isSet_add, conn.count_add index other room]
    have before := counted.bits other otherProper
    have := nonneg other
    by_cases same : other = index
    · subst same
      simp only [and_true, if_true, Bool.or_eq_true, decide_eq_true_eq, before]
      omega
    · simp [same, Ne.symm same, before]
  · rw [conn.count_add index _ room, if_neg (Ne.symm proper), counted.uncounted]
    rfl
  · intro set
    rw [conn.isSet_add] at set
    simp only [proper, and_false, decide_false, Bool.or_false] at set
    rw [conn.count_add index _ room]
    have := counted.interval set
    split_ifs <;> omega

theorem ConnCounted.remove (counted : ConnCounted conn) (proper : index ≠ .hidInterval)
    (positive : 0 < conn.count index) : ConnCounted (conn.remove index) := by
  have nonneg := counted.nonneg
  constructor
  · intro other
    rw [conn.count_remove index other positive]
    have := nonneg other
    by_cases same : other = index
    · subst same
      simp only [if_true]
      omega
    · simpa [same] using this
  · intro other otherProper
    rw [conn.isSet_remove index other positive, conn.count_remove index other positive]
    have before := counted.bits other otherProper
    by_cases same : other = index
    · subst same
      simp only [otherProper, and_false, and_true, decide_false, Bool.not_false, Bool.and_true,
        if_true, Bool.and_eq_true, before, Bool.not_eq_true', decide_eq_false_iff_not]
      omega
    · simp [same, Ne.symm same, otherProper, before]
  · rw [conn.count_remove index _ positive, if_neg (Ne.symm proper), counted.uncounted]
    rfl
  · intro set
    rw [conn.isSet_remove index _ positive] at set
    simp only [Bool.and_eq_true, Bool.not_eq_true', decide_eq_false_iff_not, and_true] at set
    obtain ⟨⟨before, -⟩, kept⟩ := set
    rw [conn.count_remove index _ positive]
    have active := counted.interval before
    rw [conn.drops_iff index positive] at kept
    by_cases same : Profile.hid = index
    · subst same
      simp only [true_and, before, and_true] at kept
      simp only [if_true]
      omega
    · simpa [same] using active

theorem tally_add (proper : index ≠ .hidInterval) (room : conn.count index < 127) (other : Profile) :
    tally other (conn.add index) = tally other conn + if other = index then 1 else 0 := by
  unfold tally
  by_cases interval : other = .hidInterval
  · subst interval
    simp [conn.isSet_add, proper, Ne.symm proper]
  · simp [interval, conn.count_add index other room]

theorem tally_remove (proper : index ≠ .hidInterval) (positive : 0 < conn.count index)
    (other : Profile) :
    tally other (conn.remove index) = tally other conn - (if other = index then 1 else 0) -
      if other = .hidInterval ∧ conn.dropsInterval index = true then 1 else 0 := by
  unfold tally
  by_cases interval : other = .hidInterval
  · subst interval
    simp only [if_true, conn.isSet_remove index _ positive, Ne.symm proper, if_false, true_and,
      and_true, proper, and_false, decide_false, Bool.not_false, Bool.and_true]
    by_cases drops : conn.dropsInterval index = true
    · have set := ((conn.drops_iff index positive).mp drops).2.2
      simp [drops, set]
    · simp [drops]
  · simp [interval, conn.count_remove index other positive]

theorem tally_nonneg (counted : ConnCounted conn) (index : Profile) : 0 ≤ tally index conn := by
  unfold tally
  split_ifs
  · decide
  · decide
  · exact counted.nonneg index

end Connection

theorem sum_at {conns : List ConnProf} {place : Nat} {conn : ConnProf}
    (found : conns[place]? = some conn) (f : ConnProf → Int) :
    (conns.map f).sum = f conn + ((conns.eraseIdx place).map f).sum := by
  obtain ⟨bound, rfl⟩ := List.getElem?_eq_some_iff.mp found
  have split := List.CommMonoid.add_sum_eraseIdx (l := conns.map f) (i := place) (by simpa using bound)
  rw [← split, List.getElem_map, List.eraseIdx_map]

theorem sum_set {conns : List ConnProf} {place : Nat} {conn : ConnProf}
    (found : conns[place]? = some conn) (next : ConnProf) (f : ConnProf → Int) :
    ((conns.set place next).map f).sum = f next + ((conns.eraseIdx place).map f).sum := by
  have bound := (List.getElem?_eq_some_iff.mp found).1
  have here : (conns.set place next)[place]? = some next := by simp [bound]
  rw [sum_at here f, List.eraseIdx_set_eq]

section Books

variable {accounts : Accounts} {place : Nat} {conn : ConnProf} {index : Profile}

theorem RefCounts.rest_nonneg (inv : RefCounts accounts) (place : Nat) (index : Profile) :
    0 ≤ ((accounts.connHash.eraseIdx place).map (tally index)).sum := by
  apply List.sum_nonneg
  intro value mem
  obtain ⟨conn, connMem, rfl⟩ := List.mem_map.mp mem
  exact tally_nonneg (inv.conns conn (List.mem_of_mem_eraseIdx connMem)) index

theorem RefCounts.tally_le (inv : RefCounts accounts) (found : accounts.connHash[place]? = some conn)
    (index : Profile) : tally index conn ≤ accounts.count index := by
  have rest := inv.rest_nonneg place index
  rw [inv.total index, sum_at found]
  omega

theorem RefCounts.count_le (inv : RefCounts accounts) (found : accounts.connHash[place]? = some conn)
    (proper : index ≠ .hidInterval) : conn.count index ≤ accounts.count index := by
  have le := inv.tally_le found index
  rwa [tally, if_neg proper] at le

theorem RefCounts.nonneg (inv : RefCounts accounts) (index : Profile) : 0 ≤ accounts.count index := by
  rw [inv.total index]
  apply List.sum_nonneg
  intro value mem
  obtain ⟨conn, connMem, rfl⟩ := List.mem_map.mp mem
  exact tally_nonneg (inv.conns conn connMem) index

theorem RefCounts.connSet (inv : RefCounts accounts) {next : ConnProf} (counted : ConnCounted next) :
    ∀ other ∈ accounts.connHash.set place next, ConnCounted other := by
  intro other mem
  obtain old | rfl := List.mem_or_eq_of_mem_set mem
  · exact inv.conns other old
  · exact counted

theorem RefCounts.add (inv : RefCounts accounts) (found : accounts.connHash[place]? = some conn)
    (proper : index ≠ .hidInterval) (room : accounts.count index < 127) :
    RefCounts (accounts.add place index) := by
  have counted := inv.conns conn (List.mem_of_getElem? found)
  have connRoom : conn.count index < 127 := by
    have le := inv.count_le found proper
    omega
  have count (other : Profile) : (accounts.add place index).count other =
      accounts.count other + if other = index then 1 else 0 := by
    simp only [Accounts.add, found, Accounts.count]
    exact increment_toInt _ index other room
  have bitmap (other : Profile) : isSet (accounts.add place index).profileBitmap other =
      (isSet accounts.profileBitmap other || decide (accounts.count index = 0 ∧ index = other)) := by
    have zero := eq_zero_iff_toInt (accounts.profileRefcount index)
    simp only [Accounts.add, found, Accounts.count]
    by_cases first : accounts.profileRefcount index = 0
    · simp [first]
    · simp [first, mt zero.mpr first]
  refine ⟨?_, ?_, ?_, ?_, ?_⟩
  · simp only [Accounts.add, found]
    exact inv.connSet (counted.add proper connRoom)
  · intro other
    rw [count other, inv.total other, sum_at found]
    simp only [Accounts.add, found]
    rw [sum_set found, tally_add proper connRoom]
    omega
  · intro other otherProper
    rw [bitmap other, count other]
    have before := inv.bits other otherProper
    have nonneg := inv.nonneg other
    by_cases same : other = index
    · subst same
      simp only [and_true, if_true, Bool.or_eq_true, decide_eq_true_eq, before]
      omega
    · simp [same, Ne.symm same, before]
  · simp [bitmap, inv.interval, proper]
  · simp only [Accounts.add, found]
    exact inv.mapped

theorem RefCounts.remove (inv : RefCounts accounts) (found : accounts.connHash[place]? = some conn)
    (proper : index ≠ .hidInterval) (positive : 0 < conn.count index) :
    RefCounts (accounts.remove place index) := by
  have counted := inv.conns conn (List.mem_of_getElem? found)
  have globalPositive : 0 < accounts.count index := by
    have le := inv.count_le found proper
    omega
  have count (other : Profile) : (accounts.remove place index).count other =
      accounts.count other - (if other = index then 1 else 0) -
        if other = .hidInterval ∧ conn.dropsInterval index = true then 1 else 0 := by
    have once := decrement_toInt accounts.profileRefcount index other globalPositive
    simp only [Accounts.remove, found, Accounts.count]
    by_cases drops : conn.dropsInterval index = true
    · have active : 0 < accounts.count .hidInterval := by
        have le := inv.tally_le found .hidInterval
        have set := ((conn.drops_iff index positive).mp drops).2.2
        simp only [tally, if_true, set] at le
        omega
      have again := decrement_toInt (decrement accounts.profileRefcount index) .hidInterval other (by
        rw [decrement_toInt _ _ _ globalPositive, if_neg (Ne.symm proper)]
        simpa [Accounts.count] using active)
      simp only [drops, if_true, and_true]
      rw [again, once]
    · simp only [drops, Bool.false_eq_true, if_false, and_false, sub_zero]
      exact once
  have bitmap (other : Profile) : isSet (accounts.remove place index).profileBitmap other =
      (isSet accounts.profileBitmap other && !decide (accounts.count index = 1 ∧ index = other)) := by
    have last : decrement accounts.profileRefcount index index = 0 ↔ accounts.count index = 1 := by
      rw [eq_zero_iff_toInt, decrement_toInt _ _ _ globalPositive, if_pos rfl]
      unfold Accounts.count
      omega
    simp only [Accounts.remove, found, last]
    by_cases one : accounts.count index = 1 <;> simp [one]
  refine ⟨?_, ?_, ?_, ?_, ?_⟩
  · simp only [Accounts.remove, found]
    exact inv.connSet (counted.remove proper positive)
  · intro other
    rw [count other, inv.total other, sum_at found]
    simp only [Accounts.remove, found]
    rw [sum_set found, tally_remove proper positive]
    omega
  · intro other otherProper
    rw [bitmap other, count other]
    have before := inv.bits other otherProper
    simp only [otherProper, false_and, if_false, sub_zero]
    by_cases same : other = index
    · subst same
      simp only [and_true, if_true, Bool.and_eq_true, before, Bool.not_eq_true',
        decide_eq_false_iff_not]
      omega
    · simp [same, Ne.symm same, before]
  · simp [bitmap, inv.interval]
  · simp only [Accounts.remove, found]
    exact inv.mapped

-- `update_hid_active_state` sets or clears the interval bit and counts that globally.
theorem RefCounts.setBitmap (inv : RefCounts accounts)
    (found : accounts.connHash[place]? = some conn) {bitmap : UInt8} {refcount : Profile → Int8}
    (active : isSet bitmap .hidInterval = true → 0 < conn.count .hid)
    (kept : ∀ other, other ≠ .hidInterval → isSet bitmap other = isSet conn.profileBitmap other)
    (interval : (refcount .hidInterval).toInt + tally .hidInterval conn =
      accounts.count .hidInterval + tally .hidInterval { conn with profileBitmap := bitmap })
    (others : ∀ other, other ≠ .hidInterval → (refcount other).toInt = accounts.count other) :
    RefCounts { accounts with
      connHash := accounts.connHash.set place { conn with profileBitmap := bitmap }
      profileRefcount := refcount } := by
  have counted := inv.conns conn (List.mem_of_getElem? found)
  refine ⟨inv.connSet ⟨counted.nonneg, ?_, counted.uncounted, active⟩, ?_, ?_, inv.interval,
    inv.mapped⟩
  · intro other proper
    rw [kept other proper]
    exact counted.bits other proper
  · intro other
    have total := inv.total other
    rw [sum_at found] at total
    rw [sum_set found, Accounts.count]
    dsimp only
    by_cases same : other = .hidInterval
    · subst same
      omega
    · have tallied : tally other { conn with profileBitmap := bitmap } = tally other conn := by
        simp [tally, same, ConnProf.count]
      rw [others other same, tallied]
      omega
  · intro other proper
    rw [Accounts.count, others other proper]
    exact inv.bits other proper

theorem RefCounts.setInterval (inv : RefCounts accounts)
    (found : accounts.connHash[place]? = some conn) (hid : isSet conn.profileBitmap .hid = true)
    (clear : isSet conn.profileBitmap .hidInterval = false)
    (room : accounts.count .hidInterval < 127) :
    RefCounts { accounts with
      connHash := accounts.connHash.set place
        { conn with profileBitmap := conn.profileBitmap ||| bit .hidInterval }
      profileRefcount := increment accounts.profileRefcount .hidInterval } := by
  have counted := inv.conns conn (List.mem_of_getElem? found)
  have count (other : Profile) := increment_toInt accounts.profileRefcount .hidInterval other room
  refine inv.setBitmap found ?_ ?_ ?_ ?_
  · intro _
    exact (counted.bits .hid (by decide)).mp hid
  · intro other proper
    simp [Ne.symm proper]
  · rw [count .hidInterval]
    simp [tally, clear, Accounts.count]
  · intro other proper
    rw [count other, if_neg proper, add_zero]
    rfl

theorem RefCounts.clearInterval (inv : RefCounts accounts)
    (found : accounts.connHash[place]? = some conn)
    (set : isSet conn.profileBitmap .hidInterval = true) :
    RefCounts { accounts with
      connHash := accounts.connHash.set place
        { conn with profileBitmap := conn.profileBitmap &&& ~~~ bit .hidInterval }
      profileRefcount := decrement accounts.profileRefcount .hidInterval } := by
  have active : 0 < accounts.count .hidInterval := by
    have le := inv.tally_le found .hidInterval
    simp only [tally, if_true, set] at le
    omega
  have count (other : Profile) := decrement_toInt accounts.profileRefcount .hidInterval other active
  refine inv.setBitmap found ?_ ?_ ?_ ?_
  · simp
  · intro other proper
    simp [Ne.symm proper]
  · rw [count .hidInterval]
    simp [tally, set, Accounts.count]
  · intro other proper
    rw [count other, if_neg proper, sub_zero]
    rfl

def ConnProf.Unused (conn : ConnProf) : Prop := ∀ index, conn.count index = 0

theorem ConnCounted.tally_unused (counted : ConnCounted conn) (unused : conn.Unused)
    (index : Profile) : tally index conn = 0 := by
  unfold tally
  split_ifs with interval set
  · have active := counted.interval set
    rw [unused .hid] at active
    omega
  · rfl
  · exact unused index

theorem tally_fresh (handle : UInt16) (type : ConnType) (index : Profile) :
    tally index { handle := handle, type := type } = 0 :=
  (ConnCounted.fresh handle type).tally_unused (fun _ => rfl) index

theorem RefCounts.append (inv : RefCounts accounts) (handle : UInt16) (type : ConnType) :
    RefCounts { accounts with
      connHash := accounts.connHash ++ [{ handle := handle, type := type }] } := by
  refine ⟨?_, ?_, inv.bits, inv.interval, inv.mapped⟩
  · intro conn mem
    obtain old | new := List.mem_append.mp mem
    · exact inv.conns conn old
    · rw [List.mem_singleton.mp new]
      exact ConnCounted.fresh handle type
  · intro index
    rw [List.map_append, List.sum_append, List.map_singleton, List.sum_singleton, tally_fresh,
      add_zero]
    exact inv.total index

theorem RefCounts.reset (inv : RefCounts accounts) (found : accounts.connHash[place]? = some conn)
    (unused : conn.Unused) (handle : UInt16) (type : ConnType) :
    RefCounts { accounts with
      connHash := accounts.connHash.set place { handle := handle, type := type } } := by
  have counted := inv.conns conn (List.mem_of_getElem? found)
  refine ⟨inv.connSet (ConnCounted.fresh handle type), ?_, inv.bits, inv.interval, inv.mapped⟩
  intro index
  have total := inv.total index
  rw [sum_at found, counted.tally_unused unused] at total
  rw [sum_set found, tally_fresh]
  exact total

theorem RefCounts.erase (inv : RefCounts accounts) (found : accounts.connHash[place]? = some conn)
    (unused : conn.Unused) :
    RefCounts { accounts with connHash := accounts.connHash.eraseIdx place } := by
  have counted := inv.conns conn (List.mem_of_getElem? found)
  refine ⟨fun other mem => inv.conns other (List.mem_of_mem_eraseIdx mem), ?_, inv.bits,
    inv.interval, inv.mapped⟩
  intro index
  have total := inv.total index
  rw [sum_at found, counted.tally_unused unused, zero_add] at total
  exact total

theorem RefCounts.withProfiles (inv : RefCounts accounts) (profiles : List ProfInfo)
    (mapped : ∀ info ∈ profiles, info.profileIndex ≠ .hidInterval) :
    RefCounts { accounts with profileList := profiles } :=
  { inv with mapped := mapped }

end Books

end UnionpiTiger.Coex
