import UnionpiTiger.Configs.Listing

set_option autoImplicit false

namespace UnionpiTiger.Configs.Listing

open Lib

def Getter.print (getter : Getter) (room : Nat) : Option (Str × Bool) :=
  if room < pageSize then
    if getter.page then getter.text.map fun text => (text.text, text.text = []) else none
  else getter.text.map fun text => (text.text, true)

def Value.print (value : Value) (room : Nat) : Option (Str × Bool) :=
  match value with
  | .number config => some (config.text, true)
  | .str text => some (text.text, true)
  | .fn none => some ([], true)
  | .fn (some getter) => getter.print room
  | .unknown => none

def configsEnd (node : MconfigNode) (prefixText : Str) (mode total : Nat) :
    Nat → List Config → Option Nat
  | p, [] => some p
  | p, config :: configs =>
    if total ≤ p + 8 then some p
    else
      let p := p + (configText node prefixText config).length
      if valued node mode then
        if total < p then none
        else if p = total then some p
        else
          match config.value.print (total - p) with
          | none => some p
          | some (text, ended) =>
            if ended ∧ p + text.length + 1 < total then
              configsEnd node prefixText mode total (if text = [] then p
                else p + text.length + 1) configs
            else none
      else if p < total then configsEnd node prefixText mode total (p + 1) configs
      else none

def infoEnd (node : MconfigNode) (prefixText : Str) (mode total p : Nat) : Option Nat :=
  if has mode listModeNodeInfo then
    if p + (infoText node prefixText).length ≤ total
      then some (p + (infoText node prefixText).length) else none
  else some p

def headEnd (node : MconfigNode) (prefixText : Str) (mode total p : Nat) : Option Nat := do
  let p ← infoEnd node prefixText mode total p
  if has mode listModeConfigsVal ∧ p + 8 ≤ total
    then configsEnd node prefixText mode total p (node.configs.getD []) else some p

mutual

def nodeEnd (mode total : Nat) : ConfigTree → Nat → Str → Option Nat
  | .node head sons, p, above =>
    if total ≤ p ∨ ¬has head.rwFlags mode then some p
    else do
      let prefixText ← buildPrefix head above mode
      let p ← headEnd head prefixText mode total p
      if has mode listModeSubNodes ∧ sons ≠ [] then
        let prefixText ← sonsPrefix head prefixText mode
        sonsEnd mode total sons p prefixText
      else some p

def sonsEnd (mode total : Nat) : List ConfigTree → Nat → Str → Option Nat
  | [], p, _ => some p
  | son :: sons, p, prefixText => do
    let p ← nodeEnd mode total son p prefixText
    sonsEnd mode total sons p prefixText

end

structure Ready (bare : Prop) (total : Nat) (mem : Str) (p : Nat) : Prop where
  length : mem.length = total
  inside : p ≤ total
  unended : p < total → Unended mem p
  rest : bare → p < total → Endless mem (p + 2)

def Outcome (bare : Prop) (total buf : Nat) (run : Option (Str × Nat)) : Option Nat → Prop
  | some p => ∃ mem pn, run = some (mem, pn) ∧ buf + pn = p ∧ Ready bare total mem p
  | none => bare → ∀ mem pn, run = some (mem, pn) → total < buf + pn

section Steps

variable {bare : Prop} {total p buf pn count : Nat} {mem stored text : Str} {size : Int}

theorem Ready.put (ready : Ready bare total mem p) (put : Put mem stored p count) :
    Ready bare total stored (p + count) := by
  have inside : p + count < total := by
    obtain ⟨inside, -⟩ := List.getElem?_eq_some_iff.mp put.ended
    rwa [put.length, ready.length] at inside
  refine ⟨put.length.trans ready.length, inside.le, fun _ => put.unended (ready.unended (by omega)),
    fun bare _ i after => ?_⟩
  rw [put.after i (by omega)]
  exact ready.rest bare (by omega) i (by omega)

theorem Ready.named (ready : Ready bare total mem p) (put : Put mem stored p count)
    (some_ : 0 < count) (isBare : bare) :
    Endless stored (p + count + 1) := by
  intro i after
  by_cases before : p < total
  · rw [put.after i (by omega)]
    exact ready.rest isBare before i (by omega)
  · rw [List.getElem?_eq_none (by rw [put.length, ready.length]; omega)]
    simp

theorem Ready.put_over (ready : Ready bare total mem p) (put : Put mem stored p 1) :
    Ready bare total stored p := by
  have next := ready.put put
  refine ⟨next.length, ready.inside, fun before i less => ?_, fun bare before i after => ?_⟩
  · exact put.unended (ready.unended before) i (by omega)
  · rw [put.after i (by omega)]
    exact ready.rest bare before i (by omega)

theorem Ready.full (ready : Ready bare total mem p) (put : Put mem stored p count) :
    Ready bare total stored total :=
  ⟨put.length.trans ready.length, le_rfl, fun absurd_ => (Nat.lt_irrefl _ absurd_).elim,
    fun _ absurd_ => (Nat.lt_irrefl _ absurd_).elim⟩

theorem noNul_line : nul ∉ ['\n'] := by decide

theorem strcat_room (length : mem.length = total) (unended : Unended mem p)
    (ended : mem[p]? = some nul) (before : buf ≤ p) (room : p + 1 < total) :
    ∃ stored, strcat mem buf ['\n'] = some stored ∧ Put mem stored p 1 := by
  have done := (@store_some _ mem (['\n'] ++ [nul]) p) (by simp; omega)
  refine ⟨_, ?_, store_put done noNul_line⟩
  rw [strcat_at unended ended before, done]

theorem strcat_last (length : mem.length = total) (unended : Unended mem (total - 1))
    (ended : mem[total - 1]? = some nul) (before : buf ≤ total - 1) :
    strcat mem buf ['\n'] = none := by
  rw [strcat_at unended ended before]
  exact store_none (by simp; omega)

end Steps

section Values

variable {value : Value} {bare : Prop} {total p buf pn : Nat} {mem stored text : Str}

theorem noNul_formatD (n : Int) : nul ∉ formatD n := by
  have digits : nul ∉ Nat.toDigits 10 n.natAbs := toDigits_not (by decide) (by decide) rfl
  have minus : nul ≠ '-' := by decide
  unfold formatD
  split_ifs <;> simp [digits, minus]

theorem noNul_number (config : Mconfig) : nul ∉ config.text := by
  have digits {base : Nat} (large : 1 < base) (small : base ≤ 16) (n : Nat) :
      nul ∉ Nat.toDigits base n :=
    toDigits_not large small rfl
  have bool (b : Bool) : nul ∉ formatBool b := by cases b <;> decide
  have zero : nul ≠ '0' := by decide
  have x : nul ≠ 'x' := by decide
  unfold Mconfig.text
  split <;> simp [bool, noNul_formatD, digits, formatU, formatLlx, zero, x]

theorem noNul_print {room : Nat} {ended : Bool} (printed : value.print room = some (text, ended)) :
    nul ∉ text := by
  cases value with
  | number config =>
    simp only [Value.print, Option.some.injEq, Prod.mk.injEq] at printed
    exact printed.1 ▸ noNul_number config
  | str text =>
    simp only [Value.print, Option.some.injEq, Prod.mk.injEq] at printed
    exact printed.1 ▸ text.noNul
  | fn get =>
    cases get with
    | none => simp_all [Value.print]
    | some getter =>
      simp only [Value.print, Getter.print] at printed
      split_ifs at printed <;>
        · obtain ⟨text, -, same⟩ := Option.map_eq_some_iff.mp printed
          simp only [Prod.mk.injEq] at same
          exact same.1 ▸ text.noNul
  | unknown => simp [Value.print] at printed

theorem printIn_ended (length : mem.length = total) (inside : p < total) (named : mem[p]? = some nul)
    (printed : value.print (total - p) = some (text, true)) :
    ∃ stored, value.printIn mem p (total - p) = some (stored, (text.length : Int)) ∧
      Put mem stored p (min text.length (total - 1 - p)) := by
  have noNul := noNul_print printed
  subst length
  have cut : ∃ stored, snprintf mem p (mem.length - p) text = some (stored, text.length) ∧
      Put mem stored p (min text.length (mem.length - 1 - p)) := by
    by_cases room : p + text.length < mem.length
    · rw [Nat.min_eq_left (by omega)]
      exact snprintf_fits room noNul
    · rw [Nat.min_eq_right (by omega)]
      exact snprintf_cut inside (Nat.not_lt.mp room) noNul
  have nothing : Put mem mem p (min ([] : Str).length (mem.length - 1 - p)) :=
    ⟨rfl, by simp, by simpa using named, fun _ _ => rfl⟩
  obtain ⟨stored, done, put⟩ := cut
  cases value with
  | number config =>
    simp only [Value.print, Option.some.injEq, Prod.mk.injEq, and_true] at printed
    subst printed
    exact ⟨stored, by simp [Value.printIn, done], put⟩
  | str text =>
    simp only [Value.print, Option.some.injEq, Prod.mk.injEq, and_true] at printed
    subst printed
    exact ⟨stored, by simp [Value.printIn, done], put⟩
  | fn get =>
    cases get with
    | none =>
      simp only [Value.print, Option.some.injEq, Prod.mk.injEq, and_true] at printed
      subst printed
      exact ⟨mem, rfl, nothing⟩
    | some getter =>
      simp only [Value.print, Getter.print] at printed
      split_ifs at printed with small page
      · obtain ⟨text, prints, same⟩ := Option.map_eq_some_iff.mp printed
        simp only [Prod.mk.injEq, decide_eq_true_eq] at same
        obtain ⟨rfl, empty⟩ := same
        have within : (mem.length : Int) - p < pageSize := by omega
        have none_ := (@store_some _ mem [] p) (by simp; omega)
        simp only [List.length_nil, Nat.add_zero, List.nil_append, List.take_append_drop] at none_
        refine ⟨mem, ?_, by rw [empty]; exact nothing⟩
        simp only [Value.printIn, Getter.get, within, if_true, page, prints, empty, List.take_nil,
          none_, Option.map_some, List.length_nil, Nat.cast_zero, Option.some.injEq, Prod.mk.injEq,
          true_and]
        omega
      · obtain ⟨text, prints, same⟩ := Option.map_eq_some_iff.mp printed
        simp only [Prod.mk.injEq, and_true] at same
        subst same
        have short := getter.short text prints
        have within : ¬(mem.length : Int) - p < pageSize := by omega
        obtain ⟨whole, stores⟩ : ∃ whole, store mem p (text.text ++ [nul]) = some whole :=
          ⟨_, store_some (by simp; omega)⟩
        refine ⟨whole, by simp only [Value.printIn, Getter.get, within, if_false, prints, stores,
          Option.map_some], ?_⟩
        rw [Nat.min_eq_left (by omega)]
        exact store_put stores noNul
  | unknown => simp [Value.print] at printed

theorem printIn_copied (length : mem.length = total) (inside : p < total)
    (printed : value.print (total - p) = some (text, false)) :
    0 < text.length ∧ ∃ stored, value.printIn mem p (total - p) =
    some (stored, (min text.length (total - p) : Int)) ∧
      store mem p (text.take (total - p)) = some stored := by
  subst length
  cases value with
  | fn get =>
    cases get with
    | none => simp [Value.print] at printed
    | some getter =>
      simp only [Value.print, Getter.print] at printed
      split_ifs at printed with small page
      · obtain ⟨text, prints, same⟩ := Option.map_eq_some_iff.mp printed
        simp only [Prod.mk.injEq, decide_eq_false_iff_not] at same
        obtain ⟨rfl, some_⟩ := same
        have within : (mem.length : Int) - p < pageSize := by omega
        have count : ((mem.length : Int) - p).toNat = mem.length - p := by omega
        have stores := (@store_some _ mem (text.text.take (mem.length - p)) p) (by
          rw [List.length_take]
          omega)
        refine ⟨List.length_pos_iff.mpr some_, _, ?_, stores⟩
        simp only [Value.printIn, Getter.get, within, if_true, page, prints, count, stores,
          Option.map_some]
      · obtain ⟨text, -, same⟩ := Option.map_eq_some_iff.mp printed
        simp at same
  | _ => simp [Value.print] at printed

theorem printIn_error (inside : p ≤ total) (printed : value.print (total - p) = none) :
    ∃ ret < 0, value.printIn mem p (total - p) = some (mem, ret) := by
  cases value with
  | fn get =>
    cases get with
    | none => simp [Value.print] at printed
    | some getter =>
      simp only [Value.print, Getter.print] at printed
      split_ifs at printed with small page
      · have within : (total : Int) - p < pageSize := by omega
        have refuses := Option.map_eq_none_iff.mp printed
        exact ⟨-1, by decide, by simp [Value.printIn, Getter.get, within, page, refuses]⟩
      · have within : (total : Int) - p < pageSize := by omega
        exact ⟨-12, by decide, by simp [Value.printIn, Getter.get, within, page]⟩
      · have within : ¬(total : Int) - p < pageSize := by omega
        have refuses := Option.map_eq_none_iff.mp printed
        exact ⟨-1, by decide, by simp only [Value.printIn, Getter.get, within, if_false, refuses]⟩
  | unknown => exact ⟨-4, by decide, rfl⟩
  | _ => simp [Value.print] at printed

theorem config2str_of {ret : Int} (inside : p < total)
    (done : value.printIn mem p (total - p) = some (stored, ret)) (short : ret < total - p) :
    value.config2str mem p (total - p) = some (stored, ret) := by
  rw [Value.config2str, if_neg (by omega)]
  simp only [done, Option.bind_eq_bind, Option.bind_some]
  rw [if_neg (by omega)]

theorem config2str_long {ret : Int} (length : stored.length = total)
    (unended : Unended stored (total - 1)) (inside : p < total)
    (done : value.printIn mem p (total - p) = some (stored, ret)) (long : total - p ≤ ret) :
    ∃ stored, value.config2str mem p (total - p) = some (stored, (total : Int) - p - 1) ∧
      stored.length = total ∧
      Unended stored (total - 1) ∧ stored[total - 1]? = some nul := by
  obtain ⟨whole, ends⟩ : ∃ whole, store stored (total - 1) [nul] = some whole :=
    ⟨_, store_some (by simp; omega)⟩
  have put := (@store_put _ _ []) ends (by simp)
  refine ⟨whole, ?_, put.length.trans length, put.unended unended, put.ended⟩
  have last : p + (((total : Int) - p).toNat - 1) = total - 1 := by omega
  rw [Value.config2str, if_neg (by omega)]
  simp only [done, Option.bind_eq_bind, Option.bind_some]
  rw [if_pos ⟨by omega, long⟩, last, ends, Option.bind_some]

theorem listValue_last (inside : buf + pn < total)
    (done : value.config2str mem (buf + pn) (total - (buf + pn : Nat)) =
      some (stored, (total : Int) - (buf + pn : Nat) - 1))
    (length : stored.length = total) (unended : Unended stored (total - 1))
    (ended : stored[total - 1]? = some nul) :
    listValue value mem buf pn (total - buf) = none := by
  have left : (total : Int) - buf - pn = total - (buf + pn : Nat) := by omega
  have last : strcat stored buf ['\n'] = none := strcat_last length unended ended (by omega)
  simp only [listValue, left, done, Option.bind_eq_bind, Option.bind_some, last, Option.bind_none]
  split_ifs <;> first | rfl | omega

def ValueListed (bare : Prop) (total buf pn : Nat) (mem : Str) (run : Option (Str × Nat × Bool)) :
    Option (Str × Bool) → Prop
  | none => run = some (mem, pn, false)
  | some (text, ended) =>
    if ended ∧ buf + pn + text.length + 1 < total then
      ∃ stored, run = some (stored, if text = [] then pn else pn + text.length + 1, true) ∧
        Ready bare total stored (if text = [] then buf + pn else buf + pn + text.length + 1)
    else bare → run = none

theorem listValue_listed (value : Value) (ready : Ready bare total mem (buf + pn))
    (inside : buf + pn < total) (named : mem[buf + pn]? = some nul)
    (rest : bare → Endless mem (buf + pn + 1)) :
    ValueListed bare total buf pn mem (listValue value mem buf pn (total - buf))
      (value.print (total - (buf + pn))) := by
  have left : (total : Int) - buf - pn = total - (buf + pn : Nat) := by omega
  have unended := ready.unended inside
  cases printed : value.print (total - (buf + pn)) with
  | none =>
    obtain ⟨ret, negative, done⟩ := (@printIn_error _ _ _ mem) inside.le printed
    have listed := config2str_of inside done (by omega)
    simp only [ValueListed, listValue, left, listed, Option.bind_eq_bind, Option.bind_some]
    rw [if_neg (by omega), if_neg (by omega)]
  | some print =>
    obtain ⟨text, ended⟩ := print
    have noNul := noNul_print printed
    cases ended with
    | true =>
      obtain ⟨stored, done, put⟩ := printIn_ended ready.length inside named printed
      simp only [ValueListed, true_and]
      split_ifs with room empty
      · obtain rfl := empty
        rw [List.length_nil, Nat.zero_min] at put
        have listed := config2str_of inside done (by simp; omega)
        have back := ready.put put
        obtain ⟨stored', line, exceeds⟩ := strcat_room back.length (put.unended unended) put.ended
          (Nat.le_add_right buf pn) (by simpa using room)
        refine ⟨stored', ?_, back.put_over exceeds⟩
        simp only [listValue, left, listed, Option.bind_eq_bind, Option.bind_some, line,
          List.length_nil]
        rw [if_neg (by simp), if_pos ⟨by simp, by omega⟩]
      · have some_ := List.length_pos_iff.mpr empty
        rw [Nat.min_eq_left (by omega)] at put
        have listed := config2str_of inside done (by omega)
        have next := ready.put put
        obtain ⟨stored', line, behind⟩ :=
          strcat_room next.length (put.unended unended) put.ended (by omega : buf ≤ _) room
        refine ⟨stored', ?_, next.put behind⟩
        simp only [listValue, left, listed, Option.bind_eq_bind, Option.bind_some, line]
        rw [if_pos (by omega), if_pos (by omega)]
        rfl
      · intro _
        by_cases exactly : buf + pn + text.length + 1 = total
        · rw [Nat.min_eq_left (by omega)] at put
          have last : buf + pn + text.length = total - 1 := by omega
          have listed := config2str_of inside done (by omega)
          rw [show (text.length : Int) = total - (buf + pn : Nat) - 1 by omega] at listed
          exact listValue_last inside listed (put.length.trans ready.length)
            (last ▸ put.unended unended) (last ▸ put.ended)
        · rw [Nat.min_eq_right (by omega)] at put
          have last : buf + pn + (total - 1 - (buf + pn)) = total - 1 := by omega
          have unended' := put.unended unended
          rw [last] at unended'
          obtain ⟨stored', listed, length, unended'', ends⟩ :=
            config2str_long (put.length.trans ready.length) unended' inside done (by omega)
          exact listValue_last inside listed length unended'' ends
    | false =>
      obtain ⟨some_, stored, done, copied⟩ := printIn_copied ready.length inside printed
      have length := (length_store copied).trans ready.length
      have cut : nul ∉ text.take (total - (buf + pn)) := fun there => noNul (List.mem_of_mem_take there)
      have unended' := (@store_unended _ _ _ _ []) (by simpa using copied) cut unended
      rw [List.length_take] at unended'
      simp only [ValueListed, Bool.false_eq_true, false_and, if_false]
      intro isBare
      by_cases long : total - (buf + pn) ≤ text.length
      · rw [Nat.min_eq_left long] at unended'
        obtain ⟨stored', listed, length', unended'', ends⟩ :=
          config2str_long length (fun i less => unended' i (by omega)) inside done (by omega)
        exact listValue_last inside listed length' unended'' ends
      · rw [Nat.min_eq_right (by omega)] at unended'
        have listed := config2str_of inside done (by omega)
        have endless : Endless stored buf := by
          intro i after
          by_cases before : i < buf + pn + text.length
          · exact unended' i before
          · rw [store_after copied (by rw [List.length_take]; omega)]
            exact rest isBare i (by omega)
        simp only [listValue, left, listed, Option.bind_eq_bind, Option.bind_some,
          strcat_endless endless, Option.bind_none]
        rw [if_pos (by omega), if_pos (by omega)]

end Values

section Configs

variable {bare : Prop} {total p buf pn mode : Nat} {mem stored prefixText text : Str}
  {node : MconfigNode} {next : Str × Nat → Option (Str × Nat)}

theorem Outcome.exceeds (exceeds : total < buf + pn) :
    Outcome bare total buf (some (mem, pn)) none := by
  intro _ mem' pn' same
  simp only [Option.some.injEq, Prod.mk.injEq] at same
  omega

theorem Outcome.here (ready : Ready bare total mem (buf + pn)) :
    Outcome bare total buf (some (mem, pn)) (some (buf + pn)) :=
  ⟨mem, pn, rfl, rfl, ready⟩

theorem Outcome.none_ : Outcome bare total buf none none := by
  intro _ mem pn same
  simp at same

theorem Outcome.bind {run : Option (Str × Nat)} {start : Nat} {p? : Option Nat}
    {after : Nat → Option Nat} (first : Outcome bare total start run p?)
    (exceeds : ∀ mem pn, total < start + pn → Outcome bare total buf (next (mem, pn)) none)
    (inside : ∀ mem pn, Ready bare total mem (start + pn) →
      Outcome bare total buf (next (mem, pn)) (after (start + pn))) :
    Outcome bare total buf (run.bind next) (p?.bind after) := by
  cases p? with
  | some p =>
    obtain ⟨mem, pn, rfl, rfl, ready⟩ := first
    exact inside mem pn ready
  | none =>
    intro isBare mem pn done
    obtain ⟨⟨mem', pn'⟩, ran, goes⟩ := Option.bind_eq_some_iff.mp done
    exact exceeds mem' pn' (first isBare mem' pn' ran) isBare mem pn goes

theorem noNul_configText (noNul : nul ∉ prefixText) (config : Config) :
    nul ∉ configText node prefixText config := by
  have space : nul ≠ ' ' := by decide
  have dot : nul ≠ '.' := by decide
  have equals : nul ≠ '=' := by decide
  unfold configText
  split_ifs <;> simp [noNul, node.name.noNul, config.itemName.noNul, space, dot, equals]

theorem length_configText (node : MconfigNode) (prefixText : Str) (config : Config) :
    0 < (configText node prefixText config).length := by
  simp [configText]

theorem listConfigs_stop {size : Int} {configs : List Config} (full : ¬8 < size - pn) :
    listConfigs node prefixText mode buf size configs mem pn = some (mem, pn) := by
  cases configs <;> simp [listConfigs, full]

theorem plain_fits (ready : Ready bare total mem (buf + pn)) (inside : buf + pn < total) :
    ∃ stored, snprintf mem (buf + pn) (total - (buf + pn : Nat)) ['\n'] = some (stored, 1) ∧
      Ready bare total stored (buf + (pn + 1)) := by
  have length := ready.length
  rw [← Nat.add_assoc]
  by_cases room : buf + pn + 1 < total
  · obtain ⟨stored, done, put⟩ := (@snprintf_fits mem) (by simpa [length] using room) noNul_line
    rw [length] at done
    exact ⟨stored, done, ready.put put⟩
  · obtain ⟨stored, done, put⟩ :=
      (@snprintf_cut mem) (by omega : buf + pn < _) (by simp; omega) noNul_line
    rw [length] at done
    have whole := ready.full put
    exact ⟨stored, done, by rwa [show buf + pn + 1 = total by omega]⟩

theorem listValue_full (value : Value) (full : total ≤ buf + pn) :
    listValue value mem buf pn (total - buf) = some (mem, pn, false) := by
  have small : (total : Int) - buf - pn < 1 := by omega
  simp only [listValue, Value.config2str, small, if_true, Option.bind_eq_bind, Option.bind_some]
  rw [if_neg (by omega), if_neg (by omega)]

theorem plain_full (full : total ≤ buf + pn) :
    ∃ ret, snprintf mem (buf + pn) (total - (buf + pn : Nat)) ['\n'] = some (mem, ret) ∧
    total < buf + (pn + ret) := by
  by_cases exactly : total = buf + pn
  · refine ⟨1, ?_, by omega⟩
    rw [show (total : Int) - (buf + pn : Nat) = 0 by omega]
    exact snprintf_full _
  · refine ⟨0, ?_, by omega⟩
    rw [snprintf, if_pos (by omega)]

-- The configs of a node are listed up to where they end, or go past the end of the buffer.
theorem listConfigs_outcome (noNul : nul ∉ prefixText) (configs : List Config)
    (ready : Ready bare total mem (buf + pn)) :
    Outcome bare total buf (listConfigs node prefixText mode buf (total - buf) configs mem pn)
      (configsEnd node prefixText mode total (buf + pn) configs) := by
  induction configs generalizing mem pn with
  | nil => exact .here ready
  | cons config configs ih =>
    have left : (total : Int) - buf - pn = total - (buf + pn : Nat) := by omega
    have some_ := length_configText node prefixText config
    have noNul_ := (@noNul_configText _ node) noNul config
    by_cases full : total ≤ buf + pn + 8
    · simp only [configsEnd, full, if_true]
      rw [listConfigs_stop (by omega)]
      exact .here ready
    · have room : 8 < (total : Int) - (buf + pn : Nat) := by omega
      simp only [configsEnd, full, if_false, listConfigs, room, if_true, left, Option.bind_eq_bind]
      have place : buf + (pn + (configText node prefixText config).length) =
          buf + pn + (configText node prefixText config).length :=
        (Nat.add_assoc ..).symm
      generalize configText node prefixText config = text at some_ noNul_ place ⊢
      have length := ready.length
      have left' : (total : Int) - buf - (pn + text.length : Nat) =
          total - (buf + (pn + text.length) : Nat) := by omega
      by_cases fits : buf + pn + text.length < total
      · obtain ⟨named, done, put⟩ :=
          snprintf_fits (by omega : buf + pn + text.length < mem.length) noNul_
        rw [ready.length] at done
        have ready' := ready.put put
        have rest := ready.named put some_
        have ended := put.ended
        rw [← place] at ready' rest ended fits ⊢
        simp only [done, Option.bind_some, left']
        generalize pn + text.length = pn' at *
        by_cases values : valued node mode = true
        · have listed := listValue_listed config.value ready' fits ended rest
          simp only [values, if_true, show ¬total <
            buf + pn' by omega, if_false, show buf + pn' ≠ total by omega]
          cases printed : config.value.print (total - (buf + pn')) with
          | none =>
            simp only [printed, ValueListed] at listed
            simp only [listed, Option.bind_some, Bool.false_eq_true, if_false]
            exact .here ready'
          | some print =>
            obtain ⟨text, ended⟩ := print
            simp only [printed, ValueListed] at listed ⊢
            by_cases room : ended = true ∧ buf + pn' + text.length + 1 < total
            · simp only [room, and_self, if_true] at listed ⊢
              obtain ⟨stored, done, next⟩ := listed
              simp only [done, Option.bind_some, if_true]
              split_ifs at next ⊢
              · exact ih next
              · simp only [Nat.add_assoc] at next ⊢
                exact ih next
            · simp only [room, if_false] at listed ⊢
              intro isBare
              simp [listed isBare]
        · obtain ⟨stored, line, next⟩ := plain_fits ready' fits
          simp only [values, Bool.false_eq_true, if_false, fits, if_true, line, Option.bind_some,
            Nat.add_assoc]
          exact ih next
      · obtain ⟨stored, done, put⟩ := snprintf_cut (by omega : buf + pn < mem.length) (by omega) noNul_
        rw [ready.length] at done
        have whole := ready.full put
        rw [← place] at fits ⊢
        simp only [done, Option.bind_some, left', fits, if_false]
        generalize pn + text.length = pn' at *
        by_cases values : valued node mode = true
        · simp only [values, if_true, listValue_full config.value (Nat.not_lt.mp fits),
            Option.bind_some, Bool.false_eq_true, if_false]
          split_ifs with exceeds exactly
          · exact .exceeds exceeds
          · exact .here (by rwa [exactly])
          · omega
        · obtain ⟨ret, line, exceeds⟩ := (@plain_full _ _ _ stored) (Nat.not_lt.mp fits)
          simp only [values, Bool.false_eq_true, if_false, line, Option.bind_some]
          rw [listConfigs_stop (by omega)]
          exact .exceeds exceeds

theorem listNodeConfigsLocked_over (exceeds : total < buf + pn) :
    listNodeConfigsLocked node mem (buf + pn) (total - buf - pn) prefixText mode = some (mem, 0) := by
  unfold listNodeConfigsLocked
  cases node.configs with
  | none => rfl
  | some configs => exact if_pos (by omega)

theorem noNul_infoText (noNul : nul ∉ prefixText) : nul ∉ infoText node prefixText := by
  have rw_ : nul ∉ rwText node.rwFlags := by
    unfold rwText
    split <;> decide
  have fixed : nul ∉ ['[', 'N', 'O', 'D', 'E', ']'] ∧ nul ∉ [':', '['] ∧ nul ∉ ['/'] ∧
      nul ∉ [']', '\n'] := by decide
  simp only [List.mem_singleton] at fixed
  simp only [infoText, List.mem_append, List.mem_cons, not_or, noNul, node.name.noNul, rw_,
    noNul_formatD, fixed, not_false_iff, and_self]

theorem listNodeConfigsLocked_outcome (noNul : nul ∉ prefixText)
    (ready : Ready bare total mem (buf + pn)) :
    Outcome bare total buf ((listNodeConfigsLocked node mem (buf + pn) (total - buf - pn) prefixText
      mode).bind fun listed =>
      some (listed.1, pn + listed.2))
        (if buf + pn + 8 ≤ total then configsEnd node prefixText mode total (buf + pn)
          (node.configs.getD []) else some (buf + pn)) := by
  unfold listNodeConfigsLocked
  cases node.configs with
  | none =>
    simp only [Option.bind_some, Option.getD_none, configsEnd, ite_self, Nat.add_zero]
    exact .here ready
  | some configs =>
    simp only [Option.getD_some]
    by_cases room : buf + pn + 8 ≤ total
    · have listed := (@listConfigs_outcome _ _ (buf + pn) 0 mode _ _ node) noNul configs ready
      simp only [room, if_true]
      rw [if_neg (by omega), show (total : Int) - buf - pn =
        total - (buf + pn : Nat) by omega, ← Option.bind_fun_some (configsEnd ..)]
      refine listed.bind (fun mem ret exceeds => .exceeds (by omega)) fun mem ret ready => ?_
      rw [Nat.add_assoc] at ready ⊢
      exact .here ready
    · simp only [room, if_false]
      rw [if_pos (by omega)]
      exact .here ready

theorem listInfo_outcome (noNul : nul ∉ prefixText) (ready : Ready bare total mem buf)
    (inside : buf < total) :
    Outcome bare total buf (listInfo node mem buf (total - buf) prefixText mode)
      (infoEnd node prefixText mode total buf) := by
  have noNul_ := (@noNul_infoText _ node) noNul
  have length := ready.length
  unfold listInfo infoEnd
  generalize infoText node prefixText = text at noNul_ ⊢
  by_cases info : has mode listModeNodeInfo = true
  · simp only [info, if_true]
    by_cases fits : buf + text.length < total
    · obtain ⟨stored, done, put⟩ := snprintf_fits (by omega : buf + text.length < mem.length) noNul_
      rw [length] at done
      rw [done, if_pos (by omega)]
      exact .here (ready.put put)
    · obtain ⟨stored, done, put⟩ := snprintf_cut (by omega : buf < mem.length) (by omega) noNul_
      rw [length] at done
      rw [done]
      split_ifs with exactly
      · have whole := ready.full put
        exact .here (by rwa [show buf + text.length = total by omega])
      · exact .exceeds (by omega)
  · simp only [info, Bool.false_eq_true, if_false]
    exact .here ready

theorem listHead_outcome (noNul : nul ∉ prefixText) (ready : Ready bare total mem buf)
    (inside : buf < total) :
    Outcome bare total buf (listHead node mem buf (total - buf) prefixText mode)
      (headEnd node prefixText mode total buf) := by
  unfold listHead headEnd
  refine (listInfo_outcome noNul ready inside).bind (fun mem pn exceeds => ?_) fun mem pn ready => ?_
  · dsimp only
    split_ifs
    · rw [listNodeConfigsLocked_over exceeds]
      exact .exceeds exceeds
    · exact .exceeds exceeds
  · dsimp only
    by_cases values : has mode listModeConfigsVal = true
    · simp only [values, if_true, true_and]
      exact listNodeConfigsLocked_outcome noNul ready
    · simp only [values, Bool.false_eq_true, if_false, false_and]
      exact .here ready

theorem noNul_buildPrefix {above : Str} (noNul : nul ∉ above)
    (built : buildPrefix node above mode = some prefixText) : nul ∉ prefixText := by
  have dot : nul ≠ '.' := by decide
  have start : nul ∉ if has mode listModePathFullprefix then node.path.text.take (prefixSize - 1)
      else if has mode listModePathPrefix then above.take (prefixSize - 1) else [] := by
    split_ifs
    · exact fun there => node.path.noNul (List.mem_of_mem_take there)
    · exact fun there => noNul (List.mem_of_mem_take there)
    · simp
  simp only [buildPrefix] at built
  split_ifs at built <;>
    · simp only [Option.some.injEq] at built
      subst built
      simp_all

theorem noNul_sonsPrefix {above : Str} (noNul : nul ∉ above)
    (built : sonsPrefix node above mode = some prefixText) : nul ∉ prefixText := by
  have name : nul ∉ node.name.text.take (prefixSize - 1) :=
    fun there => node.name.noNul (List.mem_of_mem_take there)
  simp only [sonsPrefix] at built
  split_ifs at built <;>
    · simp only [Option.some.injEq] at built
      subst built
      simp [noNul, name]

end Configs

section Trees

variable {bare : Prop} {total mode : Nat}

theorem listNodesIn_over {tree : ConfigTree} {mem above : Str} {buf : Nat} {size : Int}
    (exceeds : size ≤ 0) :
    listNodesIn mode tree mem buf size above = some (mem, 0) := by
  cases tree
  simp [listNodesIn, exceeds]

theorem listSons_over (sons : List ConfigTree) {mem prefixText : Str} {buf pn : Nat} {size : Int}
    (exceeds : size ≤ pn) :
    listSons mode sons mem buf size prefixText pn = some (mem, pn) := by
  induction sons with
  | nil => simp [listSons]
  | cons son sons ih => simp [listSons, listNodesIn_over (show size - pn ≤ 0 by omega), ih]

mutual

theorem listNodesIn_outcome :
    (tree : ConfigTree) → {mem above : Str} → {buf : Nat} → nul ∉ above → Ready bare total mem buf →
    Outcome bare total buf (listNodesIn mode tree mem buf (total - buf) above)
      (nodeEnd mode total tree buf above)
  | .node head sons, mem, above, buf, noNul, ready => by
    have inside := ready.inside
    simp only [listNodesIn, nodeEnd, show (total : Int) - buf ≤ 0 ↔ total ≤ buf by omega]
    by_cases listed : total ≤ buf ∨ ¬has head.rwFlags mode = true
    · simp only [listed, if_true]
      exact .here ready
    · simp only [listed, if_false, Option.bind_eq_bind]
      cases built : buildPrefix head above mode with
      | none => exact .none_
      | some prefixText =>
        have noNul' := noNul_buildPrefix noNul built
        refine (listHead_outcome noNul' ready (by omega)).bind (fun mem pn exceeds => ?_) fun mem
          pn ready => ?_
        · dsimp only
          split_ifs
          · cases sonsPrefix head prefixText mode with
            | none => exact .none_
            | some prefixText =>
              rw [Option.bind_some, listSons_over sons (by omega)]
              exact .exceeds exceeds
          · exact .exceeds exceeds
        · dsimp only
          split_ifs
          · cases below : sonsPrefix head prefixText mode with
            | none => exact .none_
            | some prefixText => exact listSons_outcome sons (noNul_sonsPrefix noNul' below) ready
          · exact .here ready

theorem listSons_outcome :
    (sons : List ConfigTree) → {mem prefixText : Str} → {buf pn : Nat} → nul ∉ prefixText →
    Ready bare total mem (buf + pn) →
    Outcome bare total buf (listSons mode sons mem buf (total - buf) prefixText pn)
      (sonsEnd mode total sons (buf + pn) prefixText)
  | [], mem, prefixText, buf, pn, _, ready => by
    simp only [listSons, sonsEnd]
    exact .here ready
  | son :: sons, mem, prefixText, buf, pn, noNul, ready => by
    simp only [listSons, sonsEnd, Option.bind_eq_bind,
      show (total : Int) - buf - pn = total - (buf + pn : Nat) by omega]
    refine (listNodesIn_outcome son noNul ready).bind (fun mem ret exceeds => ?_) fun mem
      ret ready => ?_
    · dsimp only
      rw [listSons_over sons (by omega)]
      exact .exceeds (by omega)
    · rw [Nat.add_assoc] at ready ⊢
      exact listSons_outcome sons noNul ready

end

theorem contained_iff (tree : ConfigTree) (mode size : Nat) :
    Contained tree mode size ↔ (nodeEnd mode size tree 0 []).isSome := by
  have listed {mem : Str} (length : mem.length = size) (bare : Prop) (rest : bare → Endless mem 0) :
      Outcome bare size 0 (listNodes tree mem mode) (nodeEnd mode size tree 0 []) := by
    have ready : Ready bare size mem 0 :=
      ⟨length, Nat.zero_le _, fun _ i less => (Nat.not_lt_zero i less).elim,
        fun isBare _ i _ => rest isBare i (Nat.zero_le i)⟩
    unfold listNodes
    rw [length]
    simpa using listNodesIn_outcome tree (by simp) ready
  cases ends : nodeEnd mode size tree 0 [] with
  | some p =>
    refine iff_of_true (fun mem length => ?_) rfl
    have outcome := listed length False (False.elim)
    rw [ends] at outcome
    obtain ⟨stored, returned, done, rfl, ready⟩ := outcome
    exact ⟨stored, returned, done, by simpa using ready.inside⟩
  | none =>
    refine iff_of_false (fun contained => ?_) (by simp)
    have length : (List.replicate size 'x').length = size := List.length_replicate
    have outcome := listed length True fun _ i _ => by
      rw [List.getElem?_replicate]
      split_ifs <;> simp [nul]
    rw [ends] at outcome
    obtain ⟨stored, returned, done, fits⟩ := contained _ length
    have exceeds := outcome trivial stored returned done
    omega

def sampleTree : ConfigTree :=
  .node {
    path := ⟨[], by decide⟩
    name := ⟨['m', 'e', 'd', 'i', 'a'], by decide⟩
    rwFlags := configForR ||| configForW
    refCnt := 1
    depth := 1
    configs := some [{ itemName := ⟨['a'], by decide⟩, value := .number ⟨.i32, 12345678, 0⟩ }] } []

theorem listing_overruns : ¬∀ (tree : ConfigTree) (mode size : Nat), Contained tree mode size := by
  intro claim
  obtain ⟨stored, returned, done, -⟩ :=
    claim sampleTree listModeNodeCmdvalAll 40 (List.replicate 40 'x') rfl
  have outside : listNodes sampleTree (List.replicate 40 'x') listModeNodeCmdvalAll = none := by
    decide +kernel
  rw [outside] at done
  cases done

end Trees

end UnionpiTiger.Configs.Listing
