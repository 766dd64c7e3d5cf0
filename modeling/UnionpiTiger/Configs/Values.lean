import UnionpiTiger.Configs.Tree
import UnionpiTiger.Lib.Numerals
import UnionpiTiger.Lib.Words

set_option autoImplicit false

namespace UnionpiTiger.Configs

open Lib

inductive ConfigType where
  | pi32
  | pu32
  | pu64
  | pbool
  | i32
  | u32
  | u64
  | bool
deriving DecidableEq, Repr

structure Mconfig where
  type : ConfigType
  union : BitVec 64
  pointee : BitVec 64
deriving DecidableEq

def ConfigType.pointer : ConfigType → Bool
  | .pi32 | .pu32 | .pu64 | .pbool => true
  | .i32 | .u32 | .u64 | .bool => false

def ConfigType.bits : ConfigType → Nat
  | .pbool | .bool => 8
  | .pi32 | .pu32 | .i32 | .u32 => 32
  | .pu64 | .u64 => 64

def boolOf (bytes : BitVec 64) : Bool := bytes.toNat % 256 ≠ 0

def u32Of (bytes : BitVec 64) : Nat := bytes.toNat % 4294967296

def overwrite (bytes : BitVec 64) (bits val : Nat) : BitVec 64 :=
  BitVec.ofNat 64 (bytes.toNat / 2 ^ bits * 2 ^ bits + val)

def formatD (n : Int) :
    Str := if n < 0 then '-' :: Nat.toDigits 10 n.natAbs else Nat.toDigits 10 n.natAbs

def formatU (n : Nat) : Str := Nat.toDigits 10 n

def formatLlx (n : Nat) : Str := Nat.toDigits 16 n

def formatBool (b : Bool) : Str := if b then ['t', 'r', 'u', 'e'] else ['f', 'a', 'l', 's', 'e']

namespace Mconfig

def text (config : Mconfig) : Str :=
  match config.type with
  | .pbool => formatBool (boolOf config.pointee)
  | .pi32 => formatU (u32Of config.pointee)
  | .pu32 => formatD (s32 (u32Of config.pointee))
  | .pu64 => formatLlx config.pointee.toNat
  | .bool => formatBool (config.union ≠ 0)
  | .i32 => formatD (s32 (u32Of config.union))
  | .u32 => formatU (u32Of config.union)
  | .u64 => '0' :: 'x' :: formatLlx config.union.toNat

def config2str (config : Mconfig) (size : Int) : Str × Int :=
  if size < 1 then ([], 0)
  else if config.text.length ≥ size then (config.text.take (size - 1).toNat, size - 1)
  else (config.text, config.text.length)

end Mconfig

def parserValue (minus hexadecimal : Int → Nat) (kstrto : Nat → Str → Except Int Nat) (str : Str) :
    Except Int Nat :=
  if str = [] then .error 0
  else
    let pstr := str.dropWhile (· = ' ')
    if pstr.head? = some '-' then
      match sscanf ['-'] 10 true pstr with
      | some val => .ok (minus val)
      | none => .error 0
    else if ['0', 'x'] <:+: pstr then
      match sscanf ['0', 'x'] 16 false pstr with
      | some val => .ok (hexadecimal val)
      | none => .error 0
    else kstrto 0 pstr

def parserValueU32 : Str → Except Int Nat := parserValue (fun val => u32 (-s32 val)) u32 kstrtouint

def parserValueU64 : Str → Except Int Nat := parserValue (fun val => u64 (s32 (-s32 val))) u64 kstrtoull

def parserValueBool (str : Str) : Except Int Nat :=
  if str = [] then .error 0
  else if str.head? = some '1' then .ok 1
  else if str.head? = some '0' then .ok 0
  else if str = ['t', 'r', 'u', 'e'] ∨ str = ['T', 'R', 'U', 'E'] then .ok 1
  else if str ≠ ['f', 'a', 'l', 's', 'e'] ∨ str = ['F', 'A', 'L', 'S', 'E'] ∨
    str = ['F', 'a', 'l', 's', 'e'] then .ok 0
  else .error 0

def ConfigType.parser : ConfigType → Str → Except Int Nat
  | .pbool | .bool => parserValueBool
  | .pi32 | .pu32 | .i32 | .u32 => parserValueU32
  | .pu64 | .u64 => parserValueU64

namespace Mconfig

def store (config : Mconfig) (bits val : Nat) : Mconfig :=
  if config.type.pointer then { config with pointee := overwrite config.pointee bits val }
  else { config with union := overwrite config.union bits val }

def storeParsed (config : Mconfig) (bits : Nat) : Except Int Nat → Mconfig × Int
  | .ok val => (config.store bits val, 1)
  | .error ret => (config, ret)

def str2config (config : Mconfig) (str : Str) : Mconfig × Int :=
  if str = [] then (config, 0)
  else
    match config.type with
    | .pbool | .bool => config.storeParsed 8 (parserValueBool str)
    | .pi32 | .pu32 | .i32 | .u32 => config.storeParsed 32 (parserValueU32 str)
    | .pu64 | .u64 => config.storeParsed 64 (parserValueU64 str)

def value (config : Mconfig) : Nat :=
  let bytes := if config.type.pointer then config.pointee else config.union
  match config.type with
  | .pbool | .bool => (boolOf bytes).toNat
  | .pi32 | .pu32 | .i32 | .u32 => u32Of bytes
  | .pu64 | .u64 => bytes.toNat

structure Faithful (config : Mconfig) : Prop where
  roundTrip : ∀ (other : Mconfig) (size : Int), other.type = config.type →
    (config.text.length : Int) < size →
    0 < (other.str2config (config.config2str size).1).2 ∧
    (other.str2config (config.config2str size).1).1.value = config.value
  kept : ∀ str, (config.str2config str).2 ≤ 0 → (config.str2config str).1 = config

def Readable (config : Mconfig) : Prop :=
  match config.type with
  | .pbool | .bool => config.value = 1
  | .pu64 => config.value < 10
  | _ => True

end Mconfig

section Printed

variable {minus hexadecimal : Int → Nat} {kstrto : Nat → Str → Except Int Nat} {base n : Nat}

theorem parserValue_digits (large : 1 < base) (small : base ≤ 16) (n : Nat) :
    parserValue minus hexadecimal kstrto (Nat.toDigits base n) = kstrto 0 (Nat.toDigits base n) := by
  have absent {c : Char} (other : isDigit 16 c = false) : c ∉ Nat.toDigits base n :=
    toDigits_not large small other
  have plain : ¬['0', 'x'] <:+: Nat.toDigits base n :=
    fun within => absent rfl (within.subset (by decide : 'x' ∈ ['0', 'x']))
  obtain ⟨d, rest, same, -⟩ := toDigits_head large n
  have blank : Nat.digitChar d ≠ ' ' := fun blank =>
    absent (c := ' ') rfl (by rw [same, blank]; exact List.mem_cons_self)
  have sign : Nat.digitChar d ≠ '-' := fun sign =>
    absent (c := '-') rfl (by rw [same, sign]; exact List.mem_cons_self)
  unfold parserValue
  rw [same] at plain ⊢
  simp [blank, sign, plain]

theorem parserValue_minus (fits : n < 18446744073709551616) :
    parserValue minus hexadecimal kstrto ('-' :: Nat.toDigits 10 n) = .ok (minus n) := by
  have read : sscanf ['-'] 10 true ('-' :: Nat.toDigits 10 n) = some (n : Int) :=
    sscanf_toDigits (by decide) (by decide) ['-'] true fits
  simp [parserValue, read]

theorem parserValue_hexadecimal (fits : n < 18446744073709551616) :
    parserValue minus hexadecimal kstrto ('0' :: 'x' :: Nat.toDigits 16 n) = .ok (hexadecimal n) := by
  have read : sscanf ['0', 'x'] 16 false ('0' :: 'x' :: Nat.toDigits 16 n) = some (n : Int) :=
    sscanf_toDigits (by decide) (by decide) ['0', 'x'] false fits
  have front : ['0', 'x'] <:+: '0' :: 'x' :: Nat.toDigits 16 n :=
    List.IsPrefix.isInfix ⟨Nat.toDigits 16 n, rfl⟩
  simp [parserValue, read, front]

theorem parserValueU32_formatU (fits : n < 4294967296) : parserValueU32 (formatU n) = .ok n := by
  have read := kstrtoull_decimal (n := n) (by omega)
  unfold parserValueU32 formatU
  rw [parserValue_digits (by decide) (by decide), kstrtouint, read]
  exact if_neg (Nat.not_le.mpr fits)

theorem parserValueU32_formatD (fits : n < 4294967296) : parserValueU32 (formatD (s32 n)) = .ok n := by
  unfold formatD
  split_ifs with negative
  · have word : (s32 (n : Int)).natAbs < 18446744073709551616 := by
      unfold s32
      omega
    have val : u32 (-s32 ((s32 (n : Int)).natAbs : Int)) = n := by
      unfold s32 at negative ⊢
      unfold u32
      omega
    unfold parserValueU32
    rw [parserValue_minus word, val]
  · have same : (s32 (n : Int)).natAbs = n := by
      unfold s32 at negative ⊢
      omega
    rw [same]
    exact parserValueU32_formatU fits

theorem parserValueU64_prefixed (fits : n < 18446744073709551616) :
    parserValueU64 ('0' :: 'x' :: formatLlx n) = .ok n := by
  unfold parserValueU64 formatLlx
  rw [parserValue_hexadecimal fits, u64_natCast fits]

theorem parserValueU64_formatLlx (n : Nat) : parserValueU64 (formatLlx n) = .ok n ↔ n < 10 := by
  unfold parserValueU64 formatLlx
  rw [parserValue_digits (by decide) (by decide)]
  by_cases one : n < 10
  · have same : Nat.toDigits 16 n = Nat.toDigits 10 n := by
      rw [Nat.toDigits_of_lt_base one, Nat.toDigits_of_lt_base (by omega)]
    rw [same]
    exact iff_of_true (kstrtoull_decimal (by omega)) one
  · exact iff_of_false (kstrtoull_hexadecimal (Nat.not_lt.mp one)) one

end Printed

namespace Mconfig

variable {config other : Mconfig} {bits val : Nat}

theorem str2config_kept (config : Mconfig) (str : Str) (failed : (config.str2config str).2 ≤ 0) :
    (config.str2config str).1 = config := by
  have parsed (bits : Nat) (read : Except Int Nat) (failed : (config.storeParsed bits read).2 ≤ 0) :
      (config.storeParsed bits read).1 = config := by
    cases read with
    | ok val => exact absurd failed (by decide : ¬(1 : Int) ≤ 0)
    | error ret => rfl
  unfold str2config at failed ⊢
  split_ifs at failed ⊢
  · rfl
  · split at failed <;> exact parsed _ _ failed

theorem config2str_fits {size : Int} (fits : (config.text.length : Int) < size) :
    (config.config2str size).1 = config.text := by
  unfold config2str
  rw [if_neg (by omega), if_neg (by omega)]

theorem text_some (config : Mconfig) : config.text ≠ [] := by
  have bool (b : Bool) : formatBool b ≠ [] := by cases b <;> decide
  have signed (n : Int) : formatD n ≠ [] := by
    unfold formatD
    split_ifs <;> simp
  unfold text
  split <;> simp [bool, signed, formatU, formatLlx]

theorem str2config_eq {str : Str} (some_ : str ≠ []) :
    config.str2config str = config.storeParsed config.type.bits (config.type.parser str) := by
  unfold str2config
  rw [if_neg some_]
  cases config.type <;> rfl

theorem overwrite_low (bytes : BitVec 64) (within : bits ≤ 64) (fits : val < 2 ^ bits) :
    (overwrite bytes bits val).toNat % 2 ^ bits = val := by
  unfold overwrite
  rw [BitVec.toNat_ofNat, Nat.mod_mod_of_dvd _ (Nat.pow_dvd_pow 2 within), Nat.mul_add_mod_of_lt fits]

theorem boolOf_overwrite (bytes : BitVec 64) (bool : val ≤ 1) :
    (boolOf (overwrite bytes 8 val)).toNat = val := by
  have low : (overwrite bytes 8 val).toNat % 256 = val := overwrite_low bytes (by decide) (by omega)
  unfold boolOf
  rw [low]
  interval_cases val <;> rfl

theorem u32Of_overwrite (bytes : BitVec 64) (fits : val < 4294967296) :
    u32Of (overwrite bytes 32 val) = val :=
  overwrite_low bytes (by decide : 32 ≤ 64) fits

theorem toNat_overwrite (bytes : BitVec 64) (fits : val < 18446744073709551616) :
    (overwrite bytes 64 val).toNat = val := by
  have low := overwrite_low bytes (Nat.le_refl 64) fits
  rwa [Nat.mod_eq_of_lt (overwrite bytes 64 val).isLt] at low

theorem value_store (config : Mconfig) (fits : val < 2 ^ config.type.bits)
    (bool : config.type.bits = 8 → val ≤ 1) :
    (config.store config.type.bits val).value = val := by
  obtain ⟨type, union, pointee⟩ := config
  cases type with
  | pbool => exact boolOf_overwrite pointee (bool rfl)
  | bool => exact boolOf_overwrite union (bool rfl)
  | pi32 => exact u32Of_overwrite pointee fits
  | pu32 => exact u32Of_overwrite pointee fits
  | i32 => exact u32Of_overwrite union fits
  | u32 => exact u32Of_overwrite union fits
  | pu64 => exact toNat_overwrite pointee fits
  | u64 => exact toNat_overwrite union fits

theorem faithful_iff_read (config : Mconfig) : config.Faithful ↔ ∀ other :
    Mconfig, other.type = config.type →
    0 < (other.storeParsed config.type.bits (config.type.parser config.text)).2 ∧
      (other.storeParsed config.type.bits (config.type.parser config.text)).1.value = config.value := by
  constructor
  · intro faithful other same
    have fits : (config.text.length : Int) < config.text.length + 1 := Int.lt_succ _
    have round := faithful.roundTrip other _ same fits
    rwa [config2str_fits fits, str2config_eq config.text_some, same] at round
  · intro read
    refine ⟨fun other size same fits => ?_, config.str2config_kept⟩
    rw [config2str_fits fits, str2config_eq config.text_some, same]
    exact read other same

theorem faithful_ok (read : config.type.parser config.text = .ok val)
    (fits : val < 2 ^ config.type.bits) (bool : config.type.bits = 8 → val ≤ 1) :
    config.Faithful ↔ val = config.value := by
  rw [faithful_iff_read, read]
  constructor
  · intro round
    rw [← value_store config fits bool]
    exact (round config rfl).2
  · rintro same other type
    rw [← type] at fits bool ⊢
    exact ⟨Int.one_pos, (value_store other fits bool).trans same⟩

theorem faithful_error {ret : Int} (read : config.type.parser config.text = .error ret)
    (failed : ret ≤ 0) :
    ¬config.Faithful := by
  rw [faithful_iff_read, read]
  intro round
  exact absurd (round config rfl).1 (Int.not_lt.mpr failed)

theorem faithful_bool {b : Bool} (printed : config.text = formatBool b)
    (parser : config.type.parser = parserValueBool) (byte : config.type.bits = 8)
    (none_ : b = false → config.value = 0) : config.Faithful ↔ config.value = 1 := by
  cases b with
  | true =>
    have read : config.type.parser config.text = .ok 1 := by
      rw [printed, parser]
      rfl
    rw [faithful_ok read (by rw [byte]; decide) (fun _ => Nat.le_refl 1)]
    exact eq_comm
  | false =>
    have read : config.type.parser config.text = .error 0 := by
      rw [printed, parser]
      rfl
    refine iff_of_false (faithful_error read (Int.le_refl 0)) ?_
    rw [none_ rfl]
    decide

theorem faithful_number (read : config.type.parser config.text = .ok config.value)
    (fits : config.value < 2 ^ config.type.bits)
    (word : config.type.bits = 32 ∨ config.type.bits = 64) : config.Faithful :=
  (faithful_ok read fits fun byte => by omega).mpr rfl

theorem faithful_pu64 (union pointee : BitVec 64) :
    (Mconfig.mk .pu64 union pointee).Faithful ↔ pointee.toNat < 10 := by
  have exact_ := parserValueU64_formatLlx pointee.toNat
  have digits : parserValueU64 (formatLlx pointee.toNat) = kstrtoull 0 (formatLlx pointee.toNat) :=
    parserValue_digits (by decide) (by decide) pointee.toNat
  have parser : (Mconfig.mk .pu64 union pointee).type.parser (Mconfig.mk .pu64 union pointee).text =
    kstrtoull 0 (formatLlx pointee.toNat) := digits
  rw [digits] at exact_
  cases read : kstrtoull 0 (formatLlx pointee.toNat) with
  | ok val =>
    rw [read, Except.ok.injEq] at exact_
    rw [faithful_ok (parser.trans read) (kstrtoull_ok read) nofun]
    exact exact_
  | error ret =>
    refine iff_of_false (faithful_error (parser.trans read) (Int.le_of_lt (kstrtoull_error read))) fun one => ?_
    cases read.symm.trans (exact_.mpr one)

theorem round_trip_iff (config : Mconfig) : config.Faithful ↔ config.Readable := by
  obtain ⟨type, union, pointee⟩ := config
  have pointeeFits : u32Of pointee < 4294967296 := Nat.mod_lt _ (by decide)
  have unionFits : u32Of union < 4294967296 := Nat.mod_lt _ (by decide)
  cases type with
  | pbool => exact faithful_bool rfl rfl rfl fun none_ => congrArg Bool.toNat none_
  | bool =>
    refine faithful_bool rfl rfl rfl fun none_ => ?_
    have zero : union = 0 := by simpa using none_
    rw [zero]
    rfl
  | pi32 => exact iff_of_true (faithful_number (parserValueU32_formatU pointeeFits) pointeeFits (.inl rfl)) trivial
  | pu32 => exact iff_of_true (faithful_number (parserValueU32_formatD pointeeFits) pointeeFits (.inl rfl)) trivial
  | i32 => exact iff_of_true (faithful_number (parserValueU32_formatD unionFits) unionFits (.inl rfl)) trivial
  | u32 => exact iff_of_true (faithful_number (parserValueU32_formatU unionFits) unionFits (.inl rfl)) trivial
  | pu64 => exact faithful_pu64 union pointee
  | u64 => exact iff_of_true (faithful_number (parserValueU64_prefixed union.isLt) union.isLt (.inr rfl)) trivial

theorem values_not_read_back : ¬∀ config : Mconfig, config.Faithful := by
  intro all
  have sixteen := ((all ⟨.pu64, 0, 16⟩).roundTrip ⟨.pu64, 0, 0⟩ 32 rfl (by decide)).2
  exact absurd sixteen (by decide)

end Mconfig

end UnionpiTiger.Configs
