import UnionpiTiger.Demux.Linked

set_option autoImplicit false

namespace UnionpiTiger.Demux

namespace SecFeed

variable (feed : SecFeed)

def starts (slot : SecFilter) : Prop :=
  slot.state = .allocated ∧ feed.pid < 0x1fff ∨ slot.state = .ready

instance (slot : SecFilter) : Decidable (feed.starts slot) := inferInstanceAs (Decidable (_ ∨ _))

theorem starts_valid {feed : SecFeed} {slot : SecFilter} (starts : feed.starts slot)
    (state : slot.state = .allocated) :
    feed.pid < 0x1fff := by
  rcases starts with ⟨-, valid⟩ | ready
  · exact valid
  · rw [state] at ready
    cases ready

def startedSlot (slot : SecFilter) : SecFilter :=
  let slotRead := if slot.state = .allocated then AmlDmx.prepare slot else slot
  if feed.starts slot then { slotRead with state := .go } else slotRead

def startedSecFilter (i : SecIndex) (j : FilterIndex) (slot : SecFilter)
    (filter : Filter CbData) : Filter CbData :=
  if slot.state = .allocated then
    startedFilter writeSecParams (AmlDmx.paramsOf feed (AmlDmx.prepare slot)) (.secFilter i j) filter
  else { filter with state := .run }

def startNeeds (pids : FilterIndex → UInt16) : (UInt16 → Bool) → List FilterIndex → Nat
  | _, [] => 0
  | has, j :: rest =>
    if feed.starts (feed.filter j) then
      (if (feed.filter j).state = .allocated then 1 else 0) + (if has (pids j) then 0 else 1) +
        startNeeds pids (fun pid => has pid || pids j == pid) rest
    else startNeeds pids has rest

end SecFeed

def stoppedSlot (slot : SecFilter) : SecFilter :=
  { slot with state := if slot.state = .go then .ready else slot.state }

namespace AmlDmx

variable {i : SecIndex} {j : FilterIndex} {feed : SecFeed} {st : Starting} {addr : Nat}
  {filter : Filter CbData}

theorem suits_allocated {slot : SecFilter} (suits : slot.Suits filter)
    (state : slot.state = .allocated) :
    filter.state = .init := by
  rcases suits with ⟨-, init⟩ | ⟨other, -⟩ | ⟨other, -⟩
  · exact init
  all_goals
    rw [state] at other
    cases other

theorem suits_ready {slot : SecFilter} (suits : slot.Suits filter) (state : slot.state = .ready) :
    filter.state = .set := by
  rcases suits with ⟨other, -⟩ | ⟨-, set⟩ | ⟨other, -⟩
  · rw [state] at other
    cases other
  · exact set
  · rw [state] at other
    cases other

theorem startFilter_idle (idle : ¬feed.starts (st.filter j))
    (points : (st.filter j).state = .allocated → ∃ place, (st.filter j).secf = some place) :
    startFilter i feed st j =
      some { st with filter := Function.update st.filter j (feed.startedSlot (st.filter j)) } := by
  unfold SecFeed.startedSlot
  rw [if_neg idle]
  cases state : (st.filter j).state with
  | allocated =>
    have invalid : ¬feed.pid < 0x1fff := fun valid => idle (Or.inl ⟨state, valid⟩)
    obtain ⟨place, points⟩ := points state
    have refused : swdmxSecFilterSetParams st.swdmx place (paramsOf feed (prepare (st.filter j))) =
        some (st.swdmx, .err) := filterSetParams_refused invalid
    have prepared : (prepare (st.filter j)).secf = some place := points
    simp only [startFilter, state, prepared, Option.bind_eq_bind, Option.bind_some, refused]
    rfl
  | ready => exact absurd (Or.inr state) idle
  | _ =>
    simp only [startFilter, state, reduceCtorEq, if_false, Function.update_eq_self]

theorem startFilter_some (tabled : st.swdmx.Tabled none) (starts : feed.starts (st.filter j))
    (points : (st.filter j).secf = some addr) (found : st.swdmx.filters addr = some filter)
    (suits : (st.filter j).Suits filter) {pid : UInt16}
    (sets : (st.filter j).state = .allocated ∧ feed.pid = pid ∨
      (st.filter j).state = .ready ∧ filter.params.pid = pid)
    (room : (if (st.filter j).state = .allocated then 1 else 0) + st.swdmx.joinNeeds pid ≤
      st.swdmx.memory) :
    ∃ swdmx, startFilter i feed st j = some
        { swdmx, filter := Function.update st.filter j (feed.startedSlot (st.filter j))
          startFlag := true } ∧
      swdmx.Tabled none ∧
      Effect st.swdmx swdmx addr (feed.startedSecFilter i j (st.filter j) filter)
        ((if (st.filter j).state = .allocated then 1 else 0) + st.swdmx.joinNeeds pid) ∧
      ∀ other, swdmx.hasPid other = (st.swdmx.hasPid other || pid == other) := by
  unfold SecFeed.startedSlot SecFeed.startedSecFilter
  rw [if_pos starts]
  rcases sets with ⟨state, same⟩ | ⟨state, same⟩
  · have valid := SecFeed.starts_valid starts state
    have idle : filter.state ≠ .run := by
      rw [suits_allocated suits state]
      exact nofun
    have needs : (paramsOf feed (prepare (st.filter j))).pid = pid := same
    rw [if_pos state] at room
    obtain ⟨set, added, swdmx, setDone, addDone, enabled, effect, pids⟩ :=
      start_some (paramsOf feed (prepare (st.filter j))) SwDemux.Tabled.writesSec blindSec
        tabled found valid (CbData.secFilter i j) (needs ▸ room)
    have prepared : (prepare (st.filter j)).secf = some addr := points
    refine ⟨swdmx, ?_, ((tabled.setParams SwDemux.Tabled.writesSec setDone).addCb addDone).enable
      enabled, ?_, ?_⟩
    · simp only [startFilter, state, prepared, Option.bind_eq_bind, Option.bind_some,
        swdmxSecFilterSetParams, setDone, swdmxSecFilterAddSectionCb, addDone, swdmxSecFilterEnable,
        enabled]
      rw [← prepared]
      rfl
    · rw [if_pos state, ← needs]
      simp only [if_pos state]
      exact effect
    · rw [← needs]
      exact pids idle
  · have fresh : ¬(st.filter j).state = .allocated := by
      rw [state]
      exact nofun
    have set := suits_ready suits state
    rw [if_neg fresh, Nat.zero_add] at room
    simp only [if_neg fresh, Nat.zero_add]
    obtain ⟨swdmx, enabled, effect, pids⟩ := filterEnable_some found set (same.symm ▸ room)
    refine ⟨swdmx, ?_, tabled.enable enabled, ?_, ?_⟩
    · simp only [startFilter, state, points, Option.bind_eq_bind, Option.bind_some,
        swdmxSecFilterEnable, enabled]
      rfl
    · rw [← same]
      exact effect
    · rw [← same]
      exact pids

theorem startFilter_here (i : SecIndex) (here : st.filter j = feed.filter j)
    (tabled : st.swdmx.Tabled none) (starts : feed.starts (feed.filter j))
    (points : (feed.filter j).secf = some addr) (found : st.swdmx.filters addr = some filter)
    (suits : (feed.filter j).Suits filter) {pid : UInt16}
    (sets : (feed.filter j).state = .allocated ∧ feed.pid = pid ∨
      (feed.filter j).state = .ready ∧ filter.params.pid = pid)
    (room : (if (feed.filter j).state = .allocated then 1 else 0) + st.swdmx.joinNeeds pid ≤
      st.swdmx.memory) :
    ∃ swdmx, startFilter i feed st j = some
        { swdmx, filter := Function.update st.filter j (feed.startedSlot (feed.filter j))
          startFlag := true } ∧
      swdmx.Tabled none ∧
      Effect st.swdmx swdmx addr (feed.startedSecFilter i j (feed.filter j) filter)
        ((if (feed.filter j).state = .allocated then 1 else 0) + st.swdmx.joinNeeds pid) ∧
      ∀ other, swdmx.hasPid other = (st.swdmx.hasPid other || pid == other) := by
  rw [← here] at *
  exact startFilter_some tabled starts points found suits sets room

theorem startFilter_none (tabled : st.swdmx.Tabled none) (starts : feed.starts (st.filter j))
    (points : (st.filter j).secf = some addr) (found : st.swdmx.filters addr = some filter)
    (suits : (st.filter j).Suits filter) {pid : UInt16}
    (sets : (st.filter j).state = .allocated ∧ feed.pid = pid ∨
      (st.filter j).state = .ready ∧ filter.params.pid = pid)
    (out : st.swdmx.memory <
      (if (st.filter j).state = .allocated then 1 else 0) + st.swdmx.joinNeeds pid) :
    startFilter i feed st j = none := by
  rcases sets with ⟨state, same⟩ | ⟨state, same⟩
  · have valid := SecFeed.starts_valid starts state
    have needs : (paramsOf feed (prepare (st.filter j))).pid = pid := same
    rw [if_pos state] at out
    have prepared : (prepare (st.filter j)).secf = some addr := points
    simp only [startFilter, state, prepared, Option.bind_eq_bind, Option.bind_some,
      swdmxSecFilterSetParams, swdmxSecFilterAddSectionCb, swdmxSecFilterEnable]
    rcases start_none (paramsOf feed (prepare (st.filter j))) SwDemux.Tabled.writesSec
        blindSec tabled found valid (CbData.secFilter i j) (needs ▸ out) with
      stuck | ⟨set, setDone, stuck | ⟨added, addDone, stuck⟩⟩
    · rw [stuck]
      rfl
    · rw [setDone]
      simp only [Option.bind_some, stuck]
      rfl
    · rw [setDone]
      simp only [Option.bind_some, addDone, stuck]
      rfl
  · have fresh : ¬(st.filter j).state = .allocated := by
      rw [state]
      exact nofun
    have set := suits_ready suits state
    rw [if_neg fresh, Nat.zero_add] at out
    simp only [startFilter, state, points, Option.bind_eq_bind, Option.bind_some,
      swdmxSecFilterEnable, filterEnable_none found set (same.symm ▸ out)]
    rfl

structure Swept (swdmx final : SwDemux CbData) (slots : FilterIndex → SecFilter)
    (touched : FilterIndex → Prop) (new : FilterIndex → Filter CbData → Filter CbData) : Prop where
  tabled : final.Tabled none
  here : ∀ j addr filter, touched j → (slots j).secf = some addr →
    swdmx.filters addr = some filter →
      ∃ place, final.filters addr = some { new j filter with pidFilter := place }
  others : ∀ addr, (∀ j, touched j → (slots j).secf ≠ some addr) →
    final.filters addr = swdmx.filters addr

section Loops

variable {swdmx mid final : SwDemux CbData} {slots : FilterIndex → SecFilter}
  {pick : FilterIndex → Prop} {new : FilterIndex → Filter CbData → Filter CbData}
  {rest : List FilterIndex}

theorem Swept.nil (tabled : swdmx.Tabled none) :
    Swept swdmx swdmx slots (fun j => j ∈ [] ∧ pick j) new where
  tabled := tabled
  here _ _ _ touched := absurd touched.1 List.not_mem_nil
  others _ _ := rfl

theorem Swept.skip (idle : ¬pick j)
    (swept : Swept swdmx final slots (fun k => k ∈ rest ∧ pick k) new) :
    Swept swdmx final slots (fun k => k ∈ j :: rest ∧ pick k) new where
  tabled := swept.tabled
  here k addr filter touched := by
    refine swept.here k addr filter ⟨(List.mem_cons.mp touched.1).resolve_left ?_, touched.2⟩
    rintro rfl
    exact idle touched.2
  others addr untouched :=
    swept.others addr fun k touched => untouched k ⟨List.mem_cons_of_mem _ touched.1, touched.2⟩

theorem Swept.cons (picked : pick j) (points : (slots j).secf = some addr)
    (found : swdmx.filters addr = some filter) {needs : Nat}
    (effect : Effect swdmx mid addr (new j filter) needs)
    (apart : ∀ k ∈ rest, pick k → (slots k).secf ≠ some addr)
    (swept : Swept mid final slots (fun k => k ∈ rest ∧ pick k) new) :
    Swept swdmx final slots (fun k => k ∈ j :: rest ∧ pick k) new where
  tabled := swept.tabled
  here k place old touched there stored := by
    by_cases same : place = addr
    · subst same
      have kept := swept.others place fun l both => apart l both.1 both.2
      have head : k = j := (List.mem_cons.mp touched.1).resolve_right fun later =>
        apart k later touched.2 there
      subst head
      rw [found] at stored
      cases stored
      rw [kept]
      exact effect.at_
    · have later : k ∈ rest := by
        refine (List.mem_cons.mp touched.1).resolve_left ?_
        rintro rfl
        exact same (Option.some.inj (there.symm.trans points))
      exact swept.here k place old ⟨later, touched.2⟩ there ((effect.other same).trans stored)
  others place untouched := by
    have distinct : place ≠ addr := by
      rintro rfl
      exact untouched j ⟨List.mem_cons_self, picked⟩ points
    exact (swept.others place fun k both =>
      untouched k ⟨List.mem_cons_of_mem _ both.1, both.2⟩).trans (effect.other distinct)

end Loops

structure Pending (swdmx : SwDemux CbData) (feed : SecFeed) (pids : FilterIndex → UInt16)
    (rest : List FilterIndex) : Prop where
  valid : ∀ j ∈ rest, (feed.filter j).state ≠ .free → ∃ addr filter,
    (feed.filter j).secf = some addr ∧ swdmx.filters addr = some filter ∧
      (feed.filter j).Suits filter ∧ ((feed.filter j).state = .ready → filter.params.pid = pids j)
  fresh : ∀ j ∈ rest, (feed.filter j).state = .allocated → feed.pid = pids j
  apart : ∀ j ∈ rest, ∀ k ∈ rest, (feed.filter j).state ≠ .free → (feed.filter k).state ≠ .free →
    (feed.filter j).secf = (feed.filter k).secf → j = k

section Pending

variable {swdmx : SwDemux CbData} {pids : FilterIndex → UInt16} {rest : List FilterIndex}

theorem Pending.tail (pending : Pending swdmx feed pids (j :: rest)) :
    Pending swdmx feed pids rest where
  valid k mem := pending.valid k (List.mem_cons_of_mem _ mem)
  fresh k mem := pending.fresh k (List.mem_cons_of_mem _ mem)
  apart k mem l other :=
    pending.apart k (List.mem_cons_of_mem _ mem) l (List.mem_cons_of_mem _ other)

theorem Pending.elsewhere (pending : Pending swdmx feed pids (j :: rest)) (nodup : (j :: rest).Nodup)
    (live : (feed.filter j).state ≠ .free) (points : (feed.filter j).secf = some addr)
    {k : FilterIndex} (mem : k ∈ rest) (other : (feed.filter k).state ≠ .free) :
    (feed.filter k).secf ≠ some addr := by
  intro there
  have same := pending.apart k (List.mem_cons_of_mem _ mem) j List.mem_cons_self other live
    (there.trans points.symm)
  rw [same] at mem
  exact (List.nodup_cons.mp nodup).1 mem

theorem Pending.after (pending : Pending swdmx feed pids (j :: rest)) (nodup : (j :: rest).Nodup)
    (live : (feed.filter j).state ≠ .free) (points : (feed.filter j).secf = some addr)
    {next : SwDemux CbData} {new : Filter CbData} {needs : Nat}
    (effect : Effect swdmx next addr new needs) : Pending next feed pids rest where
  fresh := pending.tail.fresh
  apart := pending.tail.apart
  valid k mem other := by
    obtain ⟨place, filter, there, found, suits⟩ := pending.tail.valid k mem other
    have distinct : place ≠ addr := by
      rintro rfl
      exact pending.elsewhere nodup live points mem other there
    exact ⟨place, filter, there, (effect.other distinct).trans found, suits⟩

end Pending

theorem live_of_starts {slot : SecFilter} (starts : feed.starts slot) : slot.state ≠ .free := by
  rcases starts with ⟨state, -⟩ | state
  · rw [state]
    exact nofun
  · rw [state]
    exact nofun

theorem sets_of_starts {slot : SecFilter} (starts : feed.starts slot) {pid : UInt16}
    (fresh : slot.state = .allocated → feed.pid = pid)
    (stopped : slot.state = .ready → filter.params.pid = pid) :
    slot.state = .allocated ∧ feed.pid = pid ∨ slot.state = .ready ∧ filter.params.pid = pid := by
  rcases starts with ⟨state, -⟩ | state
  · exact Or.inl ⟨state, fresh state⟩
  · exact Or.inr ⟨state, stopped state⟩

theorem startNeeds_alike (pids : FilterIndex → UInt16) {has other : UInt16 → Bool}
    (alike : ∀ pid, has pid = other pid) (rest : List FilterIndex) :
    feed.startNeeds pids has rest = feed.startNeeds pids other rest := by
  rw [show has = other from funext alike]

section Visit

variable {pids : FilterIndex → UInt16} {rest : List FilterIndex}

theorem update_later (nodup : (j :: rest).Nodup) {filters : FilterIndex → SecFilter}
    (same : ∀ k ∈ j :: rest, filters k = feed.filter k) (slot : SecFilter) :
    ∀ k ∈ rest, Function.update filters j slot k = feed.filter k := by
  intro k mem
  have distinct : k ≠ j := by
    rintro rfl
    exact (List.nodup_cons.mp nodup).1 mem
  rw [Function.update_of_ne distinct]
  exact same k (List.mem_cons_of_mem _ mem)

structure Visited (rest : List FilterIndex)
    (before after visited : FilterIndex → SecFilter) : Prop where
  inside : ∀ k ∈ rest, after k = visited k
  outside : ∀ k, k ∉ rest → after k = before k

theorem Visited.nil {filters visited : FilterIndex → SecFilter} :
    Visited [] filters filters visited :=
  ⟨fun _ mem => absurd mem List.not_mem_nil, fun _ _ => rfl⟩

theorem Visited.cons {before after visited : FilterIndex → SecFilter} (alone : j ∉ rest)
    (later : Visited rest (Function.update before j (visited j)) after visited) :
    Visited (j :: rest) before after visited where
  inside k mem := by
    rcases List.mem_cons.mp mem with rfl | behind
    · rw [later.outside k alone, Function.update_self]
    · exact later.inside k behind
  outside k absent := by
    rw [List.mem_cons, not_or] at absent
    rw [later.outside k absent.2, Function.update_of_ne absent.1]

theorem Pending.skips (pending : Pending st.swdmx feed pids (j :: rest))
    (here : st.filter j = feed.filter j) (idle : ¬feed.starts (feed.filter j)) :
    startFilter i feed st j =
      some { st with filter := Function.update st.filter j (feed.startedSlot (feed.filter j)) } := by
  rw [← here] at idle ⊢
  refine startFilter_idle idle fun allocated => ?_
  rw [here] at allocated ⊢
  obtain ⟨addr, -, points, -⟩ := pending.valid j List.mem_cons_self (by rw [allocated]; exact nofun)
  exact ⟨addr, points⟩

end Visit

-- By induction on the filters that are still to be visited; each of them is as it was.
theorem startLoop_some (i : SecIndex) (pids : FilterIndex → UInt16) (rest : List FilterIndex)
    (st : Starting) (nodup : rest.Nodup) (tabled : st.swdmx.Tabled none)
    (same : ∀ j ∈ rest, st.filter j = feed.filter j) (pending : Pending st.swdmx feed pids rest)
    (room : feed.startNeeds pids st.swdmx.hasPid rest ≤ st.swdmx.memory) :
    ∃ final, rest.foldlM (startFilter i feed) st = some final ∧
      (final.startFlag = true ↔ st.startFlag = true ∨ ∃ j ∈ rest, feed.starts (feed.filter j)) ∧
      Visited rest st.filter final.filter (fun j => feed.startedSlot (feed.filter j)) ∧
      Swept st.swdmx final.swdmx feed.filter (fun j => j ∈ rest ∧ feed.starts (feed.filter j))
        (fun j => feed.startedSecFilter i j (feed.filter j)) := by
  induction rest generalizing st with
  | nil => exact ⟨st, rfl, by simp, Visited.nil, Swept.nil tabled⟩
  | cons j rest ih =>
    have here : st.filter j = feed.filter j := same j List.mem_cons_self
    have unchanged := update_later nodup same (feed.startedSlot (feed.filter j))
    obtain ⟨alone, behind⟩ := List.nodup_cons.mp nodup
    by_cases starts : feed.starts (feed.filter j)
    · have live := live_of_starts starts
      obtain ⟨addr, filter, points, found, suits, stopped⟩ :=
        pending.valid j List.mem_cons_self live
      have sets := sets_of_starts starts (pending.fresh j List.mem_cons_self) stopped
      unfold SecFeed.startNeeds at room
      rw [if_pos starts] at room
      obtain ⟨swdmx, done, stepped, effect, has⟩ :=
        startFilter_here i here tabled starts points found suits
        sets (by unfold SwDemux.joinNeeds; omega)
      have left := effect.memory
      obtain ⟨final, loop, flag, filters, swept⟩ := ih
        { swdmx, filter := Function.update st.filter j (feed.startedSlot (feed.filter j))
          startFlag := true }
        behind stepped unchanged (pending.after nodup live points effect) (by
          show feed.startNeeds pids swdmx.hasPid rest ≤ swdmx.memory
          rw [startNeeds_alike pids has]
          unfold SwDemux.joinNeeds at left
          omega)
      refine ⟨final, by rw [List.foldlM_cons, done]; exact loop, ?_, filters.cons alone,
        Swept.cons starts points found effect (fun k mem picked =>
          pending.elsewhere nodup live points mem (live_of_starts picked)) swept⟩
      rw [flag]
      exact iff_of_true (Or.inl rfl) (Or.inr ⟨j, List.mem_cons_self, starts⟩)
    · unfold SecFeed.startNeeds at room
      rw [if_neg starts] at room
      obtain ⟨final, loop, flag, filters, swept⟩ := ih
        { st with filter := Function.update st.filter j (feed.startedSlot (feed.filter j)) }
        behind tabled unchanged pending.tail room
      refine ⟨final, by rw [List.foldlM_cons, pending.skips here starts]; exact loop, ?_,
        filters.cons alone, swept.skip starts⟩
      rw [flag, List.exists_mem_cons_iff, or_iff_right starts]

theorem startLoop_none (i : SecIndex) (pids : FilterIndex → UInt16) (rest : List FilterIndex)
    (st : Starting) (nodup : rest.Nodup) (tabled : st.swdmx.Tabled none)
    (same : ∀ j ∈ rest, st.filter j = feed.filter j) (pending : Pending st.swdmx feed pids rest)
    (out : st.swdmx.memory < feed.startNeeds pids st.swdmx.hasPid rest) :
    rest.foldlM (startFilter i feed) st = none := by
  induction rest generalizing st with
  | nil => exact absurd out (Nat.not_lt_zero _)
  | cons j rest ih =>
    have here : st.filter j = feed.filter j := same j List.mem_cons_self
    have unchanged := update_later nodup same (feed.startedSlot (feed.filter j))
    have behind := (List.nodup_cons.mp nodup).2
    rw [List.foldlM_cons]
    by_cases starts : feed.starts (feed.filter j)
    · have live := live_of_starts starts
      obtain ⟨addr, filter, points, found, suits, stopped⟩ :=
        pending.valid j List.mem_cons_self live
      have sets := sets_of_starts starts (pending.fresh j List.mem_cons_self) stopped
      unfold SecFeed.startNeeds at out
      rw [if_pos starts] at out
      by_cases room : (if (feed.filter j).state = .allocated then 1 else 0) +
          st.swdmx.joinNeeds (pids j) ≤ st.swdmx.memory
      · obtain ⟨swdmx, done, stepped, effect, has⟩ :=
          startFilter_here i here tabled starts points found suits sets room
        have left := effect.memory
        rw [done]
        refine ih _ behind stepped unchanged (pending.after nodup live points effect) ?_
        show swdmx.memory < feed.startNeeds pids swdmx.hasPid rest
        rw [startNeeds_alike pids has]
        unfold SwDemux.joinNeeds at left
        omega
      · rw [← here] at starts points suits sets room
        rw [startFilter_none tabled starts points found suits sets (Nat.not_le.mp room)]
        rfl
    · unfold SecFeed.startNeeds at out
      rw [if_neg starts] at out
      rw [pending.skips here starts]
      exact ih _ behind tabled unchanged pending.tail out

theorem stopFilter_some (tabled : st.swdmx.Tabled none) (going : (st.filter j).state = .go)
    (points : (st.filter j).secf = some addr) (found : st.swdmx.filters addr = some filter)
    (running : filter.state = .run) :
    ∃ swdmx, stopFilter st j = some
        { swdmx, filter := Function.update st.filter j (stoppedSlot (st.filter j)),
          startFlag := true } ∧
      swdmx.Tabled none ∧ Effect st.swdmx swdmx addr { filter with state := .set } 0 := by
  obtain ⟨swdmx, disabled, effect⟩ := filterDisable_some tabled found
  rw [if_pos running] at effect
  refine ⟨swdmx, ?_, (tabled.disable disabled).1, effect⟩
  unfold stopFilter stoppedSlot
  simp only [going, if_true, points, Option.bind_eq_bind, Option.bind_some, swdmxSecFilterDisable,
    disabled]
  rw [← points]
  rfl

theorem stopFilter_idle (idle : (st.filter j).state ≠ .go) :
    stopFilter st j =
      some { st with filter := Function.update st.filter j (stoppedSlot (st.filter j)) } := by
  unfold stopFilter stoppedSlot
  simp only [if_neg idle, Function.update_eq_self]

theorem stopLoop_some (pids : FilterIndex → UInt16) (rest : List FilterIndex) (st : Starting)
    (nodup : rest.Nodup) (tabled : st.swdmx.Tabled none)
    (same : ∀ j ∈ rest, st.filter j = feed.filter j) (pending : Pending st.swdmx feed pids rest) :
    ∃ final, rest.foldlM stopFilter st = some final ∧
      (final.startFlag = true ↔ st.startFlag = true ∨ ∃ j ∈ rest, (feed.filter j).state = .go) ∧
      Visited rest st.filter final.filter (fun j => stoppedSlot (feed.filter j)) ∧
      Swept st.swdmx final.swdmx feed.filter (fun j => j ∈ rest ∧ (feed.filter j).state = .go)
        (fun _ filter => { filter with state := .set }) := by
  induction rest generalizing st with
  | nil => exact ⟨st, rfl, by simp, Visited.nil, Swept.nil tabled⟩
  | cons j rest ih =>
    have here : st.filter j = feed.filter j := same j List.mem_cons_self
    have unchanged := update_later nodup same (stoppedSlot (feed.filter j))
    obtain ⟨alone, behind⟩ := List.nodup_cons.mp nodup
    by_cases going : (feed.filter j).state = .go
    · have live : (feed.filter j).state ≠ .free := by
        rw [going]
        exact nofun
      obtain ⟨addr, filter, points, found, suits, -⟩ := pending.valid j List.mem_cons_self live
      have running : filter.state = .run := by
        rcases suits with ⟨other, -⟩ | ⟨other, -⟩ | ⟨-, running⟩
        · rw [going] at other
          cases other
        · rw [going] at other
          cases other
        · exact running
      obtain ⟨swdmx, done, stepped, effect⟩ :=
        stopFilter_some tabled (here.symm ▸ going) (here.symm ▸ points) found running
      rw [here] at done
      obtain ⟨final, loop, flag, filters, swept⟩ := ih
        { swdmx, filter := Function.update st.filter j (stoppedSlot (feed.filter j))
          startFlag := true }
        behind stepped unchanged (pending.after nodup live points effect)
      refine ⟨final, by rw [List.foldlM_cons, done]; exact loop, ?_, filters.cons alone,
        Swept.cons going points found effect (fun k mem picked =>
          pending.elsewhere nodup live points mem (by rw [picked]; exact nofun)) swept⟩
      rw [flag]
      exact iff_of_true (Or.inl rfl) (Or.inr ⟨j, List.mem_cons_self, going⟩)
    · have done := stopFilter_idle (here.symm ▸ going)
      rw [here] at done
      obtain ⟨final, loop, flag, filters, swept⟩ := ih
        { st with filter := Function.update st.filter j (stoppedSlot (feed.filter j)) }
        behind tabled unchanged pending.tail
      refine ⟨final, by rw [List.foldlM_cons, done]; exact loop, ?_, filters.cons alone,
        swept.skip going⟩
      rw [flag, List.exists_mem_cons_iff, or_iff_right going]

theorem Swept.all {swdmx final : SwDemux CbData} {slots : FilterIndex → SecFilter}
    {pick : FilterIndex → Prop} {new : FilterIndex → Filter CbData → Filter CbData}
    (swept : Swept swdmx final slots (fun j => j ∈ List.finRange maxFilterPerSecFeed ∧ pick j) new) :
    Swept swdmx final slots pick new where
  tabled := swept.tabled
  here k addr filter picked := swept.here k addr filter ⟨List.mem_finRange k, picked⟩
  others addr untouched := swept.others addr fun k both => untouched k both.2

def secPid (dmx : AmlDmx) (i : SecIndex) (j : FilterIndex) : UInt16 :=
  let slot := (dmx.sectionFeed i).filter j
  if slot.state = .ready then
    ((slot.secf.bind dmx.swdmx.filters).map fun filter => filter.params.pid).getD 0
  else (dmx.sectionFeed i).pid

def secNeeds (dmx : AmlDmx) (i : SecIndex) : Nat :=
  (dmx.sectionFeed i).startNeeds (dmx.secPid i) dmx.swdmx.hasPid
    (List.finRange maxFilterPerSecFeed)

def Startable (dmx : AmlDmx) (i : SecIndex) : Prop :=
  ∃ j, (dmx.sectionFeed i).starts ((dmx.sectionFeed i).filter j)

theorem startable_iff (dmx : AmlDmx) (i : SecIndex) :
    ((List.finRange maxFilterPerSecFeed).any fun j =>
      decide ((dmx.sectionFeed i).starts ((dmx.sectionFeed i).filter j))) = true ↔
        dmx.Startable i := by
  rw [List.any_eq_true]
  constructor
  · rintro ⟨j, -, starts⟩
    exact ⟨j, of_decide_eq_true starts⟩
  · rintro ⟨j, starts⟩
    exact ⟨j, List.mem_finRange j, decide_eq_true starts⟩

instance (dmx : AmlDmx) (i : SecIndex) : Decidable (dmx.Startable i) :=
  decidable_of_iff _ (dmx.startable_iff i)

section Feed

variable {dmx : AmlDmx} {outcome : Outcome}

theorem Linked.pending (linked : dmx.Linked) (live : (dmx.sectionFeed i).state ≠ .free)
    (rest : List FilterIndex) :
    Pending dmx.swdmx (dmx.sectionFeed i) (dmx.secPid i) rest where
  valid j _ there := by
    obtain ⟨addr, filter, points, found, -, suits⟩ := linked.valid (.secFilter i j) ⟨live, there⟩
    refine ⟨addr, filter, points, found, suits, fun ready => ?_⟩
    replace points : ((dmx.sectionFeed i).filter j).secf = some addr := points
    unfold secPid
    simp only [ready, if_true, points, Option.bind_some, found, Option.map_some, Option.getD_some]
  fresh j _ allocated := by
    unfold secPid
    simp only [allocated, reduceCtorEq, if_false]
  apart j _ k _ first second same := by
    have holder := linked.apart (.secFilter i j) (.secFilter i k) ⟨live, first⟩ ⟨live, second⟩ same
    cases holder
    rfl

theorem sectionFeedStart_busy (unlocked : dmx.pmutex = false) (running : outcome.interrupted = false)
    (busy : (dmx.sectionFeed i).isFiltering = true) :
    dmx.sectionFeedStartFiltering outcome i = some (dmx, -eBusy) := by
  unfold sectionFeedStartFiltering
  rw [lockInterruptible_eq unlocked, running, if_neg Bool.false_ne_true]
  simp only [busy, if_true, unlock_lock unlocked]

def afterStart (dmx : AmlDmx) (i : SecIndex) : SecFeed :=
  { dmx.sectionFeed i with
    filter := fun j => (dmx.sectionFeed i).startedSlot ((dmx.sectionFeed i).filter j) }

theorem sectionFeedStart_some (linked : dmx.Linked) (unlocked : dmx.pmutex = false)
    (running : outcome.interrupted = false) (live : (dmx.sectionFeed i).state ≠ .free)
    (idle : (dmx.sectionFeed i).isFiltering = false)
    (room : dmx.secNeeds i ≤ dmx.swdmx.memory) :
    ∃ swdmx, Swept dmx.swdmx swdmx (dmx.sectionFeed i).filter
        (fun j => (dmx.sectionFeed i).starts ((dmx.sectionFeed i).filter j))
        (fun j => (dmx.sectionFeed i).startedSecFilter i j ((dmx.sectionFeed i).filter j)) ∧
      dmx.sectionFeedStartFiltering outcome i =
        if dmx.Startable i then
          some (({ dmx with swdmx } : AmlDmx).putSec i
            { dmx.afterStart i with state := .go, isFiltering := true }, 0)
        else
          some (({ dmx with swdmx, pmutex := true } : AmlDmx).putSec i (dmx.afterStart i), -1) := by
  obtain ⟨final, loop, flag, filters, swept⟩ := startLoop_some i (dmx.secPid i)
    (List.finRange maxFilterPerSecFeed)
    { swdmx := dmx.swdmx, filter := (dmx.sectionFeed i).filter } (List.nodup_finRange _)
    linked.tabled (fun _ _ => rfl) (linked.pending live _) room
  refine ⟨final.swdmx, swept.all, ?_⟩
  have slots : final.filter =
      fun j => (dmx.sectionFeed i).startedSlot ((dmx.sectionFeed i).filter j) := by
    funext j
    exact filters.inside j (List.mem_finRange j)
  have started : final.startFlag = true ↔ dmx.Startable i := by
    rw [flag]
    constructor
    · rintro (set | ⟨j, -, starts⟩)
      · cases set
      · exact ⟨j, starts⟩
    · rintro ⟨j, starts⟩
      exact Or.inr ⟨j, List.mem_finRange j, starts⟩
  unfold sectionFeedStartFiltering
  rw [lockInterruptible_eq unlocked, running, if_neg Bool.false_ne_true]
  dsimp only
  rw [if_neg (by rw [idle]; exact Bool.false_ne_true), loop]
  simp only [Option.bind_eq_bind, Option.bind_some, slots]
  by_cases any : dmx.Startable i
  · rw [if_pos any, started.mpr any]
    cases dmx
    cases unlocked
    rfl
  · rw [if_neg any, Bool.eq_false_iff.mpr fun flagged => any (started.mp flagged)]
    rfl

theorem sectionFeedStart_none (linked : dmx.Linked) (unlocked : dmx.pmutex = false)
    (running : outcome.interrupted = false) (live : (dmx.sectionFeed i).state ≠ .free)
    (idle : (dmx.sectionFeed i).isFiltering = false)
    (out : dmx.swdmx.memory < dmx.secNeeds i) :
    dmx.sectionFeedStartFiltering outcome i = none := by
  have stuck := startLoop_none i (dmx.secPid i) (List.finRange maxFilterPerSecFeed)
    { swdmx := dmx.swdmx, filter := (dmx.sectionFeed i).filter } (List.nodup_finRange _)
    linked.tabled (fun _ _ => rfl) (linked.pending live _) out
  unfold sectionFeedStartFiltering
  rw [lockInterruptible_eq unlocked, running, if_neg Bool.false_ne_true]
  simp only [idle, Bool.false_eq_true, if_false, stuck]
  rfl

theorem sectionFeedStop_idle (unlocked : dmx.pmutex = false) (running : outcome.interrupted = false)
    (idle : (dmx.sectionFeed i).isFiltering = false) :
    dmx.sectionFeedStopFiltering outcome i = some (dmx, -eInval) := by
  unfold sectionFeedStopFiltering
  rw [lockInterruptible_eq unlocked, running, if_neg Bool.false_ne_true]
  simp only [idle, Bool.not_false, if_true, unlock_lock unlocked]

def afterStop (dmx : AmlDmx) (i : SecIndex) : SecFeed :=
  { dmx.sectionFeed i with filter := fun j => stoppedSlot ((dmx.sectionFeed i).filter j) }

-- A stop leaves the state of the feed, and where no filter was running also its is_filtering.
theorem sectionFeedStop_some (linked : dmx.Linked) (unlocked : dmx.pmutex = false)
    (running : outcome.interrupted = false) (live : (dmx.sectionFeed i).state ≠ .free)
    (busy : (dmx.sectionFeed i).isFiltering = true) :
    ∃ swdmx, Swept dmx.swdmx swdmx (dmx.sectionFeed i).filter
        (fun j => ((dmx.sectionFeed i).filter j).state = .go)
        (fun _ filter => { filter with state := .set }) ∧
      ∃ isFiltering, (isFiltering = true ↔ ¬∃ j, ((dmx.sectionFeed i).filter j).state = .go) ∧
        dmx.sectionFeedStopFiltering outcome i = some
          (({ dmx with swdmx } : AmlDmx).putSec i { dmx.afterStop i with isFiltering }, 0) := by
  obtain ⟨final, loop, flag, filters, swept⟩ := stopLoop_some (dmx.secPid i)
    (List.finRange maxFilterPerSecFeed)
    { swdmx := dmx.swdmx, filter := (dmx.sectionFeed i).filter } (List.nodup_finRange _)
    linked.tabled (fun _ _ => rfl) (linked.pending live _)
  refine ⟨final.swdmx, swept.all, ?_⟩
  have slots : final.filter = fun j => stoppedSlot ((dmx.sectionFeed i).filter j) := by
    funext j
    exact filters.inside j (List.mem_finRange j)
  have stopped : final.startFlag = true ↔ ∃ j, ((dmx.sectionFeed i).filter j).state = .go := by
    rw [flag]
    constructor
    · rintro (set | ⟨j, -, going⟩)
      · cases set
      · exact ⟨j, going⟩
    · rintro ⟨j, going⟩
      exact Or.inr ⟨j, List.mem_finRange j, going⟩
  refine ⟨!final.startFlag, ?_, ?_⟩
  · rw [Bool.not_eq_true', ← Bool.not_eq_true, stopped]
  · unfold sectionFeedStopFiltering
    rw [lockInterruptible_eq unlocked, running, if_neg Bool.false_ne_true]
    dsimp only
    rw [if_neg (by rw [busy]; exact Bool.false_ne_true), loop]
    simp only [Option.bind_eq_bind, Option.bind_some, slots]
    cases final.startFlag with
    | true =>
      cases dmx
      cases unlocked
      rfl
    | false =>
      have still : { dmx.afterStop i with isFiltering := true } = dmx.afterStop i := by
        rw [← busy]
        rfl
      rw [Bool.not_false, still]
      cases dmx
      cases unlocked
      rfl

theorem allocateFilter_full (unlocked : dmx.pmutex = false) (running : outcome.interrupted = false)
    (full : secFilterAlloc (dmx.sectionFeed i) = none) :
    dmx.sectionFeedAllocateFilter outcome i = some (dmx, -eBusy) := by
  unfold sectionFeedAllocateFilter
  rw [lockInterruptible_eq unlocked, running, if_neg Bool.false_ne_true]
  simp only [full, unlock_lock unlocked]

theorem allocateFilter_some (linked : dmx.Linked) (unlocked : dmx.pmutex = false)
    (running : outcome.interrupted = false) (spare : secFilterAlloc (dmx.sectionFeed i) = some j)
    (room : 0 < dmx.swdmx.memory) :
    ∃ swdmx, swdmx.Tabled none ∧
      swdmx.filters = Function.update dmx.swdmx.filters dmx.swdmx.next (some { kind := .sec }) ∧
      dmx.sectionFeedAllocateFilter outcome i = some (({ dmx with swdmx } : AmlDmx).putSlot i j
        { (dmx.sectionFeed i).filter j with
          state := .allocated, secf := some dmx.swdmx.next }, 0) := by
  obtain ⟨swdmx, allocated, filters, memory⟩ := allocFilter_some .sec room
  refine ⟨swdmx, linked.tabled.allocFilter allocated, filters, ?_⟩
  unfold sectionFeedAllocateFilter
  rw [lockInterruptible_eq unlocked, running, if_neg Bool.false_ne_true]
  simp only [spare, swdmxDemuxAllocSecFilter, allocated, Option.bind_eq_bind, Option.bind_some]
  cases dmx
  cases unlocked
  rfl

theorem allocateFilter_none (unlocked : dmx.pmutex = false) (running : outcome.interrupted = false)
    (spare : secFilterAlloc (dmx.sectionFeed i) = some j) (out : dmx.swdmx.memory = 0) :
    dmx.sectionFeedAllocateFilter outcome i = none := by
  have stuck : allocFilter .sec dmx.swdmx = none := allocFilter_none .sec out
  unfold sectionFeedAllocateFilter
  rw [lockInterruptible_eq unlocked, running, if_neg Bool.false_ne_true]
  simp only [spare, swdmxDemuxAllocSecFilter, stuck]
  rfl

theorem releaseFilter_some (linked : dmx.Linked) (unlocked : dmx.pmutex = false)
    (running : outcome.interrupted = false) (type : (dmx.sectionFeed i).type = .sec)
    (live : dmx.Live (.secFilter i j)) :
    ∃ secf swdmx, ((dmx.sectionFeed i).filter j).secf = some secf ∧ swdmx.Tabled none ∧
      swdmx.filters = Function.update dmx.swdmx.filters secf none ∧
      dmx.sectionFeedReleaseFilter outcome i j =
        some (({ dmx with swdmx } : AmlDmx).putSlot i j {}, 0) := by
  obtain ⟨secf, filter, points, found, -⟩ := linked.valid _ live
  obtain ⟨swdmx, freed, filters, -⟩ := filterFree_some linked.tabled found
  refine ⟨secf, swdmx, points, linked.tabled.free freed, filters, ?_⟩
  replace points : ((dmx.sectionFeed i).filter j).secf = some secf := points
  unfold sectionFeedReleaseFilter
  rw [lockInterruptible_eq unlocked, running, if_neg Bool.false_ne_true]
  dsimp only
  rw [if_neg (not_not.mpr type), if_neg live.2, points]
  simp only [swdmxSecFilterFree, freed, Option.bind_eq_bind, Option.bind_some]
  cases dmx
  cases unlocked
  rfl

theorem releaseFilter_other (unlocked : dmx.pmutex = false) (running : outcome.interrupted = false)
    (type : (dmx.sectionFeed i).type ≠ .sec) :
    dmx.sectionFeedReleaseFilter outcome i j = some (dmx, -eInval) := by
  unfold sectionFeedReleaseFilter
  rw [lockInterruptible_eq unlocked, running, if_neg Bool.false_ne_true]
  simp only [ne_eq, type, not_false_eq_true, if_true, unlock_lock unlocked]

end Feed

end AmlDmx

end UnionpiTiger.Demux
