import Mathlib.Data.Fintype.Prod
import UnionpiTiger.Demux.Reception

set_option autoImplicit false

namespace UnionpiTiger.Demux

variable {D : Type}

section Verdict

abbrev FilterBit : Type := Fin secFilterLen × Fin 8

def bitAt (byte : UInt8) (k : Fin 8) : Bool := byte.toBitVec.getLsbD k

-- The section byte a filter byte is for. The two bytes of the section length are left out.
def secByte (i : Fin secFilterLen) : Nat := if i.val = 0 then 0 else i.val + 2

namespace SecFilterParams

variable (params : SecFilterParams)

def Positive (b : FilterBit) :
    Prop := bitAt (params.mask b.1) b.2 = true ∧ bitAt (params.mode b.1) b.2 = false

def Negative (b : FilterBit) :
    Prop := bitAt (params.mask b.1) b.2 = true ∧ bitAt (params.mode b.1) b.2 = true

instance (b : FilterBit) : Decidable (params.Positive b) := inferInstanceAs (Decidable (_ ∧ _))

instance (b : FilterBit) : Decidable (params.Negative b) := inferInstanceAs (Decidable (_ ∧ _))

def Agrees (sec : List UInt8) (b : FilterBit) : Prop :=
  ∃ byte ∈ sec[secByte b.1]?, bitAt byte b.2 = bitAt (params.value b.1) b.2

def Differs (sec : List UInt8) (b : FilterBit) : Prop :=
  ∃ byte ∈ sec[secByte b.1]?, bitAt byte b.2 ≠ bitAt (params.value b.1) b.2

instance (sec : List UInt8) (b : FilterBit) : Decidable (params.Agrees sec b) :=
  inferInstanceAs (Decidable (∃ _ ∈ _, _))

instance (sec : List UInt8) (b : FilterBit) : Decidable (params.Differs sec b) :=
  inferInstanceAs (Decidable (∃ _ ∈ _, _))

def Accepts (sec : List UInt8) : Prop :=
  (∀ b, params.Positive b → params.Agrees sec b) ∧
    ((∃ b, params.Negative b) → ∃ b, params.Negative b ∧ params.Differs sec b)

def Refuses (sec : List UInt8) : Prop :=
  (∃ b, params.Positive b ∧ params.Differs sec b) ∨
    (∃ b, params.Negative b) ∧ ∀ b, params.Negative b → params.Agrees sec b

instance (sec : List UInt8) : Decidable (params.Accepts sec) := inferInstanceAs (Decidable (_ ∧ _))

instance (sec : List UInt8) : Decidable (params.Refuses sec) := inferInstanceAs (Decidable (_ ∨ _))

-- The parameters without the two last filter bytes, which are stored where the comparison does
-- not come.
def compared : SecFilterParams :=
  { params with mask := fun i => if i.val + 2 < secFilterLen then params.mask i else 0 }

end SecFilterParams

end Verdict

section Match

theorem eq_zero_iff_bits (byte : UInt8) : byte = 0 ↔ ∀ k, bitAt byte k = false := by
  constructor
  · rintro rfl k
    simp [bitAt]
  · intro clear
    apply UInt8.toBitVec_inj.mp
    apply BitVec.eq_of_getLsbD_eq
    intro k below
    simpa [bitAt] using clear ⟨k, below⟩

@[simp] theorem bitAt_and (first second : UInt8) (k : Fin 8) :
    bitAt (first &&& second) k = (bitAt first k && bitAt second k) := by simp [bitAt]

@[simp] theorem bitAt_xor (first second : UInt8) (k : Fin 8) :
    bitAt (first ^^^ second) k = (bitAt first k ^^ bitAt second k) := by simp [bitAt]

@[simp] theorem bitAt_not (byte : UInt8) (k : Fin 8) : bitAt (~~~byte) k = !bitAt byte k :=
  by simp [bitAt]

theorem foldl_or_eq_zero {A : Type} (list : List A) (byte : A → UInt8) (start : UInt8) :
    list.foldl (fun m a => m ||| byte a) start = 0 ↔ start = 0 ∧ ∀ a ∈ list, byte a = 0 := by
  induction list generalizing start with
  | nil => simp
  | cons a rest ih => simp [ih, and_assoc]

theorem masked_eq_zero (data value mask : UInt8) :
    (data &&& mask) ^^^ (value &&& mask) = 0 ↔ ∀ k, bitAt mask k = true →
      bitAt data k = bitAt value k := by
  rw [eq_zero_iff_bits]
  constructor
  · intro same k masked
    simpa [masked] using same k
  · intro same k
    by_cases masked : bitAt mask k = true
    · simp [masked, same k masked]
    · simp [Bool.eq_false_iff.mpr masked]

theorem spread_secByte (field : Fin secFilterLen → UInt8) (i : Fin secFilterLen)
    (stored : secByte i < secFilterLen + 2) :
    spread field ⟨secByte i, stored⟩ = field i := by
  by_cases first : i.val = 0
  · have zero : i = ⟨0, by decide⟩ := Fin.ext first
    simp [spread, secByte, zero]
  · simp [spread, secByte, first]

theorem secByte_lt {i : Fin secFilterLen} (early : i.val + 2 < secFilterLen) :
    secByte i < secFilterLen := by
  unfold secByte
  split_ifs <;> omega

theorem forall_stored {P : Nat → UInt8 → UInt8 → Prop} (mask value : Fin secFilterLen → UInt8)
    (free : ∀ place v, P place 0 v) :
    (∀ i : Fin secFilterLen, P i.val (spread mask (i.castAdd 2)) (spread value (i.castAdd 2))) ↔
      ∀ i : Fin secFilterLen, i.val + 2 < secFilterLen → P (secByte i) (mask i) (value i) := by
  constructor
  · intro all i early
    have here := all ⟨secByte i, secByte_lt early⟩
    rwa [show Fin.castAdd 2 (⟨secByte i, secByte_lt early⟩ : Fin secFilterLen) =
      ⟨secByte i, Nat.lt_add_right 2 (secByte_lt early)⟩ from rfl, spread_secByte,
        spread_secByte] at here
  · intro all i
    by_cases first : i.val = 0
    · have zero : i = ⟨0, by decide⟩ := Fin.ext first
      have here := all i (by simp [first, secFilterLen])
      subst zero
      simpa [spread, secByte] using here
    · by_cases length : i.val ≤ 2
      · simpa [spread, first, length] using free _ _
      · have late := all ⟨i.val - 2, by omega⟩ (by simp only; omega)
        simpa [spread, secByte, first, length,
          show ¬i.val - 2 = 0 by omega, show i.val - 2 + 2 = i.val by omega] using late

theorem foldl_differs_iff (data : Nat → UInt8) (mask value : Fin secFilterLen → UInt8) :
    (List.finRange secFilterLen).foldl (fun m (i : Fin secFilterLen) =>
      m ||| ((data i &&& spread mask (i.castAdd 2)) ^^^
        (spread value (i.castAdd 2) &&& spread mask (i.castAdd 2)))) 0 = 0 ↔
      ∀ i : Fin secFilterLen, i.val + 2 < secFilterLen → ∀ k, bitAt (mask i) k = true →
        bitAt (data (secByte i)) k = bitAt (value i) k := by
  rw [foldl_or_eq_zero]
  simp only [true_and, List.mem_finRange, forall_true_left, masked_eq_zero]
  exact forall_stored (P := fun place m v => ∀ k, bitAt m k = true →
    bitAt (data place) k = bitAt v k) mask value
    fun place v k set => by simp [bitAt] at set

theorem foldl_stored_iff (mask : Fin secFilterLen → UInt8) :
    (List.finRange secFilterLen).foldl (fun hasN (i : Fin secFilterLen) =>
      hasN ||| spread mask (i.castAdd 2)) 0 = 0 ↔
      ∀ i : Fin secFilterLen, i.val + 2 < secFilterLen → ∀ k, bitAt (mask i) k = false := by
  rw [foldl_or_eq_zero]
  simp only [true_and, List.mem_finRange, forall_true_left, eq_zero_iff_bits]
  exact forall_stored (P := fun _ m _ => ∀ k, bitAt m k = false) mask mask fun place v k =>
    by simp [bitAt]

namespace SecFilterParams

variable (params : SecFilterParams)

theorem compared_positive (b : FilterBit) :
    params.compared.Positive b ↔ b.1.val + 2 < secFilterLen ∧ params.Positive b := by
  unfold Positive compared
  by_cases early : b.1.val + 2 < secFilterLen
  · simp [early]
  · simp [early, bitAt]

theorem compared_negative (b : FilterBit) :
    params.compared.Negative b ↔ b.1.val + 2 < secFilterLen ∧ params.Negative b := by
  unfold Negative compared
  by_cases early : b.1.val + 2 < secFilterLen
  · simp [early]
  · simp [early, bitAt]

end SecFilterParams

theorem secFilterMatch_iff (data : Nat → UInt8) (params : SecFilterParams) (base : Filter D) :
    secFilterMatch data (writeSecParams params base) = true ↔
      (∀ b, params.compared.Positive b → bitAt (data (secByte b.1)) b.2 =
        bitAt (params.value b.1) b.2) ∧
        ((∃ b, params.compared.Negative b) →
          ∃ b, params.compared.Negative b ∧ bitAt (data (secByte b.1)) b.2 ≠
            bitAt (params.value b.1) b.2) := by
  have m := foldl_differs_iff data (fun i => params.mask i &&& ~~~params.mode i) params.value
  have n := foldl_differs_iff data (fun i => params.mask i &&& params.mode i) params.value
  have hasN := foldl_stored_iff fun i => params.mask i &&& params.mode i
  have verdict (m n hasN : UInt8) :
      (if m ≠ 0 then false else if hasN ≠ 0 ∧ n = 0 then false else true) = true ↔
      m = 0 ∧ (¬hasN = 0 → ¬n = 0) := by
    by_cases zero : m = 0 <;> by_cases none : hasN = 0 <;> simp [zero, none]
  refine (verdict _ _ _).trans
    (and_congr (m.trans ?_) ((imp_congr (not_congr hasN) (not_congr n)).trans ?_))
  · constructor
    · intro all b positive
      obtain ⟨early, masked, plain⟩ := (params.compared_positive b).mp positive
      exact all b.1 early b.2 (by simp [masked, plain])
    · intro all i early k masked
      exact all (i, k) ((params.compared_positive (i, k)).mpr ⟨early,
        by simpa [SecFilterParams.Positive] using masked⟩)
  · simp only [SecFilterParams.compared_negative]
    apply imp_congr
    · simp [SecFilterParams.Negative]
    · simp [SecFilterParams.Negative, and_assoc]

end Match

section Held

variable {params : SecFilterParams} {c : SecState} {b : FilterBit}

theorem SecFilterParams.Agrees.held (agrees : params.Agrees c.bytes b) :
    bitAt (c.sec (secByte b.1)) b.2 = bitAt (params.value b.1) b.2 := by
  obtain ⟨byte, there, same⟩ := agrees
  obtain ⟨inside, rfl⟩ := List.getElem?_eq_some_iff.mp there
  simpa [SecState.bytes] using same

theorem SecFilterParams.Differs.held (differs : params.Differs c.bytes b) :
    bitAt (c.sec (secByte b.1)) b.2 ≠ bitAt (params.value b.1) b.2 := by
  obtain ⟨byte, there, other⟩ := differs
  obtain ⟨inside, rfl⟩ := List.getElem?_eq_some_iff.mp there
  simpa [SecState.bytes] using other

theorem SecFilterParams.absent_of_neither (neither : ¬params.Agrees c.bytes b ∧
    ¬params.Differs c.bytes b) :
    c.recv ≤ secByte b.1 := by
  by_contra inside
  have there : c.bytes[secByte b.1]? = some (c.sec (secByte b.1)) := by
    simp [SecState.bytes, Nat.not_le.mp inside]
  by_cases same : bitAt (c.sec (secByte b.1)) b.2 = bitAt (params.value b.1) b.2
  · exact neither.1 ⟨_, there, same⟩
  · exact neither.2 ⟨_, there, same⟩

variable (params) (base : Filter D)

theorem match_of_accepts (accepts : params.compared.Accepts c.bytes) :
    secFilterMatch c.sec (writeSecParams params base) = true := by
  rw [secFilterMatch_iff]
  refine ⟨fun b positive => (accepts.1 b positive).held, fun negative => ?_⟩
  obtain ⟨b, negative, differs⟩ := accepts.2 negative
  exact ⟨b, negative, differs.held⟩

theorem no_match_of_refuses (refuses : params.compared.Refuses c.bytes) :
    secFilterMatch c.sec (writeSecParams params base) = false := by
  rw [Bool.eq_false_iff, ne_eq, secFilterMatch_iff]
  rintro ⟨positive, negative⟩
  rcases refuses with ⟨b, isPositive, differs⟩ | ⟨some_, agrees⟩
  · exact differs.held (positive b isPositive)
  · obtain ⟨b, isNegative, other⟩ := negative some_
    exact other (agrees b isNegative).held

end Held

section LeftOver

variable {s next : SecState} {p rest : List UInt8}

theorem receiveBytes_frame {n : Int} (done : receiveBytes s p n = some (next, rest)) :
    s.recv ≤ next.recv ∧ ∀ i, next.recv ≤ i → next.sec i = s.sec i := by
  unfold receiveBytes at done
  split_ifs at done
  · cases done
    exact ⟨Nat.le_refl _, fun _ _ => rfl⟩
  · obtain ⟨sec, copied, same⟩ := Option.map_eq_some_iff.mp done
    cases same
    refine ⟨Nat.le_add_right _ _, fun i beyond => ?_⟩
    unfold memcpy at copied
    split_ifs at copied with inside
    cases copied
    have behind : ¬(s.recv ≤ i ∧ (i : Int) < s.recv + n) := by
      replace beyond : s.recv + n.toNat ≤ i := beyond
      omega
    exact if_neg behind

theorem receiveHeader_frame (done : receiveHeader s p = some (next, rest)) :
    s.recv ≤ next.recv ∧ ∀ i, next.recv ≤ i → next.sec i = s.sec i := by
  unfold receiveHeader at done
  split_ifs at done
  · exact receiveBytes_frame done
  · cases done
    exact ⟨Nat.le_refl _, fun _ _ => rfl⟩

theorem secData_frame {n : Nat} {c : SecState} (done : secData s p = some (n, next, some c)) (i : Nat)
    (beyond : c.recv ≤ i) : c.sec i = s.sec i := by
  unfold secData at done
  obtain ⟨⟨first, more⟩, header, done⟩ := Option.bind_eq_some_iff.mp done
  dsimp only at done
  split_ifs at done
  · cases done
  · cases done
  · obtain ⟨⟨second, left⟩, body, done⟩ := Option.bind_eq_some_iff.mp done
    dsimp only at done
    split_ifs at done
    · cases done
      obtain ⟨more, kept⟩ := receiveBytes_frame body
      rw [kept i beyond, (receiveHeader_frame header).2 i (Nat.le_trans more beyond)]
    · cases done

def leading (field : Nat → UInt8) : Section where
  bytes := 0 :: 0 :: 13 :: (List.range 13).map fun j => field (j + 1)
  length := by simp [sectionLength]
  table := by simp

theorem leading_secByte (field : Nat → UInt8) (i : Fin secFilterLen) (early : i.val + 2 < secFilterLen)
    (later : 3 ≤ secByte i) : (leading field).bytes[secByte i]? = some (field i.val) := by
  unfold secFilterLen at early
  by_cases zero : i.val = 0
  · simp [secByte, zero] at later
  · obtain ⟨j, place⟩ : ∃ j, i.val = j + 1 := ⟨i.val - 1, by omega⟩
    simp [leading, secByte, place, show j < 13 by omega]

theorem received_behind (held : Nat → UInt8) (field : Nat → UInt8) (sec : Section) :
    ∃ last before c, secPayloads { sec := held, recv := 0 } [(true, 0 :: (sectionBytes [leading field, sec] ++ []))] =
        some (last, [before, c]) ∧ c.bytes = sec.bytes ∧
      ∀ i : Fin secFilterLen, i.val + 2 < secFilterLen → c.recv ≤ secByte i →
        c.sec (secByte i) = field i.val := by
  have three := sec.three_le
  have filled : (leading field).bytes ≠ [] := List.cons_ne_nil _ _
  have some_ : sec.bytes ≠ [] := List.ne_nil_of_length_pos (by omega)
  obtain ⟨first, done, bytes⟩ :=
    secData_ends (s := { sec := held, recv := 0 }) (safe_of_short (Nat.zero_lt_succ 2))
    (show [] ++ (leading field).bytes = _ from rfl) (sec.bytes ++ [])
  obtain ⟨c, behind, same⟩ :=
    secData_ends (s := { first with recv := 0 }) (safe_of_short (Nat.zero_lt_succ 2))
    (show [] ++ sec.bytes = _ from rfl) []
  have loop := secLoop_ends filled done (secLoop_ends some_ behind rfl)
  refine ⟨{ c with recv := 0 }, first, c, ?_, same, fun i early absent => ?_⟩
  · have joined : sectionBytes [leading field, sec] ++ [] =
      (leading field).bytes ++ (sec.bytes ++ []) := by
      simp [sectionBytes]
    simpa [secPayloads, secPayload, joined] using loop
  · have size := recv_of_bytes same
    have inside := leading_secByte field i early (by omega)
    rw [secData_frame behind _ absent]
    rw [← bytes] at inside
    simpa [SecState.bytes] using (List.getElem?_eq_some_iff.mp inside).2

end LeftOver

namespace SecFilterParams

variable (params : SecFilterParams) (base : Filter D) (held : Nat → UInt8) (sec : Section)

def Answers : Prop :=
  ∀ earlier payloads, Carried [] (earlier ++ [sec]) payloads →
    ∃ last completed c, secPayloads { sec := held, recv := 0 } payloads =
      some (last, completed ++ [c]) ∧
      c.bytes = sec.bytes ∧ (secFilterMatch c.sec (writeSecParams params base) = true ↔
        params.Accepts sec.bytes)

def leftOver (flip : UInt8 → UInt8) (i : Nat) : UInt8 :=
  if inside : i < secFilterLen
    then params.value ⟨i, inside⟩ ^^^ (params.mask ⟨i, inside⟩ &&& flip (params.mode ⟨i, inside⟩))
  else 0

theorem answered_behind (answers : params.Answers base held sec) (field : Nat → UInt8) :
    ∃ c : SecState, c.bytes = sec.bytes ∧
      (∀ i : Fin secFilterLen, i.val + 2 < secFilterLen → c.recv ≤ secByte i →
        c.sec (secByte i) = field i.val) ∧
      (secFilterMatch c.sec (writeSecParams params base) = true ↔ params.Accepts sec.bytes) := by
  have carried : Carried [] ([leading field] ++ [sec])
      [(true, 0 :: (sectionBytes [leading field, sec] ++ []))] :=
    @Carried.starts _ [] _ 0 [leading field, sec] 0 rfl Carried.done
  obtain ⟨last, completed, c, done, bytes, verdict⟩ := answers _ _ carried
  obtain ⟨_, before, d, same, -, behind⟩ := received_behind held field sec
  rw [done] at same
  obtain rfl : c = d := by
    have lists := (Prod.mk.inj (Option.some.inj same)).2
    have ends := congrArg List.getLast? lists
    simpa using ends
  exact ⟨c, bytes, behind, verdict⟩

theorem bitAt_leftOver (flip : UInt8 → UInt8) (b : FilterBit) :
    bitAt (params.leftOver flip b.1.val) b.2 =
      (bitAt (params.value b.1) b.2 ^^ (bitAt (params.mask b.1) b.2 &&
        bitAt (flip (params.mode b.1)) b.2)) := by
  simp [leftOver, b.1.isLt]

variable {params} {c : SecState} {b : FilterBit}

theorem absent_early (early : b.1.val + 2 < secFilterLen) {flip : UInt8 → UInt8}
    (behind : ∀ i : Fin secFilterLen, i.val + 2 < secFilterLen → c.recv ≤ secByte i →
      c.sec (secByte i) = params.leftOver flip i.val)
    (neither : ¬params.Agrees c.bytes b ∧ ¬params.Differs c.bytes b) :
    bitAt (c.sec (secByte b.1)) b.2 =
      (bitAt (params.value b.1) b.2 ^^ (bitAt (params.mask b.1) b.2 &&
        bitAt (flip (params.mode b.1)) b.2)) := by
  rw [behind b.1 early (absent_of_neither neither), bitAt_leftOver]

theorem match_left_over (open_ : ¬params.compared.Refuses c.bytes)
    (behind : ∀ i : Fin secFilterLen, i.val + 2 < secFilterLen → c.recv ≤ secByte i →
      c.sec (secByte i) = params.leftOver id i.val) :
    secFilterMatch c.sec (writeSecParams params base) = true := by
  unfold Refuses at open_
  push Not at open_
  rw [secFilterMatch_iff]
  refine ⟨fun b positive => ?_, fun some_ => ?_⟩
  · by_cases agrees : params.compared.Agrees c.bytes b
    · exact agrees.held
    · obtain ⟨early, masked, plain⟩ := (params.compared_positive b).mp positive
      rw [absent_early early behind ⟨agrees, open_.1 b positive⟩]
      simp [plain]
  · obtain ⟨b, negative, other⟩ := open_.2 some_
    refine ⟨b, negative, ?_⟩
    by_cases differs : params.compared.Differs c.bytes b
    · exact differs.held
    · obtain ⟨early, masked, inverted⟩ := (params.compared_negative b).mp negative
      rw [absent_early early behind ⟨other, differs⟩]
      simp [masked, inverted]

theorem accepts_of_match_left_over (matched : secFilterMatch c.sec (writeSecParams params base) = true)
    (behind : ∀ i : Fin secFilterLen, i.val + 2 < secFilterLen → c.recv ≤ secByte i →
      c.sec (secByte i) = params.leftOver (fun mode => ~~~mode) i.val) :
        params.compared.Accepts c.bytes := by
  obtain ⟨agree, differ⟩ := (secFilterMatch_iff ..).mp matched
  refine ⟨fun b positive => ?_, fun some_ => ?_⟩
  · by_contra other
    have same := agree b positive
    by_cases differs : params.compared.Differs c.bytes b
    · exact differs.held same
    · obtain ⟨early, masked, plain⟩ := (params.compared_positive b).mp positive
      rw [absent_early early behind ⟨other, differs⟩] at same
      simp [masked, plain] at same
  · obtain ⟨b, negative, apart⟩ := differ some_
    refine ⟨b, negative, ?_⟩
    by_contra same
    by_cases agrees : params.compared.Agrees c.bytes b
    · exact apart agrees.held
    · obtain ⟨early, masked, inverted⟩ := (params.compared_negative b).mp negative
      rw [absent_early early behind ⟨agrees, same⟩] at apart
      simp [inverted] at apart

end SecFilterParams

variable (params : SecFilterParams) (base : Filter D) (held : Nat → UInt8) (sec : Section)

theorem section_filter_iff : params.Answers base held sec ↔
    (params.compared.Accepts sec.bytes ∨ params.compared.Refuses sec.bytes) ∧
      (params.Accepts sec.bytes ↔ params.compared.Accepts sec.bytes) := by
  constructor
  · intro answers
    obtain ⟨c, bytes, behind, verdict⟩ :=
      params.answered_behind base held sec answers (params.leftOver id)
    by_cases accepts : params.compared.Accepts sec.bytes
    · exact ⟨.inl accepts,
        iff_of_true (verdict.mp (match_of_accepts params base (bytes ▸ accepts))) accepts⟩
    by_cases refuses : params.compared.Refuses sec.bytes
    · have out := no_match_of_refuses params base (bytes ▸ refuses)
      refine ⟨.inr refuses, iff_of_false (fun right => ?_) accepts⟩
      rw [verdict.mpr right] at out
      cases out
    · have right := verdict.mp (SecFilterParams.match_left_over base (bytes ▸ refuses) behind)
      obtain ⟨d, same, behind, verdict⟩ := params.answered_behind base held sec answers
        (params.leftOver fun mode => ~~~mode)
      have matched := SecFilterParams.accepts_of_match_left_over base (verdict.mpr right) behind
      exact absurd (same ▸ matched) accepts
  · rintro ⟨decided, last⟩ earlier payloads carried
    obtain ⟨end_, completed, done, -, sections⟩ :=
      carried_received carried (s := { sec := held, recv := 0 })
      (safe_of_short (Nat.zero_lt_succ 2)) Begun.none
    rw [List.nil_append, List.map_append] at sections
    obtain ⟨before, ended, rfl, -, own⟩ := List.map_eq_append_iff.mp sections
    obtain ⟨c, rfl, bytes⟩ := List.map_eq_singleton_iff.mp own
    refine ⟨end_, before, c, done, bytes, ?_⟩
    rw [last]
    rcases decided with accepts | refuses
    · exact iff_of_true (match_of_accepts params base (bytes ▸ accepts)) accepts
    · have out := no_match_of_refuses params base (bytes ▸ refuses)
      refine iff_of_false (by simp [out]) fun accepts => ?_
      rw [match_of_accepts params base (bytes ▸ accepts)] at out
      cases out

def lastByte : SecFilterParams where
  pid := 0x100
  value _ := 1
  mask i := if i.val = 15 then 0xff else 0

def zeroSection : Section where
  bytes := 0 :: 0 :: 15 :: List.replicate 15 0
  length := by decide
  table := by decide

theorem section_accepted_against_mask :
    ¬lastByte.Answers (D := Unit) { kind := .sec } (fun _ => 0) zeroSection := by
  intro answers
  have carried : Carried [] ([] ++ [zeroSection])
      [(true, 0 :: ([] ++ (sectionBytes [zeroSection] ++ List.replicate 0 0xff)))] :=
    @Carried.starts _ [] _ 0 [zeroSection] 0 rfl Carried.done
  obtain ⟨last, completed, c, -, bytes, verdict⟩ := answers [] _ carried
  have matched := match_of_accepts (D := Unit) (c := c) lastByte { kind := .sec }
    (by rw [bytes]; decide +kernel)
  have wrong : ¬lastByte.Accepts zeroSection.bytes := by decide +kernel
  exact wrong (verdict.mp matched)

end UnionpiTiger.Demux
