import UnionpiTiger.Dvbcsa.Key
import UnionpiTiger.Dvbcsa.Stream

set_option autoImplicit false

namespace UnionpiTiger.Dvbcsa

open Lib

def Block.bytes (w : Block) : List UInt8 := [w.w0, w.w1, w.w2, w.w3, w.w4, w.w5, w.w6, w.w7]

def Block.xor (w v : Block) : Block where
  w0 := w.w0 ^^^ v.w0
  w1 := w.w1 ^^^ v.w1
  w2 := w.w2 ^^^ v.w2
  w3 := w.w3 ^^^ v.w3
  w4 := w.w4 ^^^ v.w4
  w5 := w.w5 ^^^ v.w5
  w6 := w.w6 ^^^ v.w6
  w7 := w.w7 ^^^ v.w7

def blockAt (data : List UInt8) (i : Nat) : Block where
  w0 := data.getD i 0
  w1 := data.getD (i + 1) 0
  w2 := data.getD (i + 2) 0
  w3 := data.getD (i + 3) 0
  w4 := data.getD (i + 4) 0
  w5 := data.getD (i + 5) 0
  w6 := data.getD (i + 6) 0
  w7 := data.getD (i + 7) 0

def writeBlock (data : List UInt8) (i : Nat) (w : Block) : List UInt8 :=
  data.take i ++ (w.bytes ++ data.drop (i + 8))

def onBlock (f : Block → Block) (i : Nat) (data : List UInt8) : List UInt8 :=
  writeBlock data i (f (blockAt data i))

def dvbcsaXor64 (b a : Nat) (data : List UInt8) : List UInt8 :=
  writeBlock data b ((blockAt data b).xor (blockAt data a))

def xorBehind (key : Key) (data : List UInt8) : List UInt8 :=
  data.take 8 ++ dvbcsaStreamXor key.cws (data.take 8) (data.drop 8)

def decryptBlocks (key : Key) (len : Nat) (data : List UInt8) : List UInt8 :=
  (List.range (len / 8 - 1)).foldl
    (fun data i => onBlock (dvbcsaBlockDecrypt key.sch) (8 * (i + 1))
      (dvbcsaXor64 (8 * i) (8 * (i + 1)) data))
    (onBlock (dvbcsaBlockDecrypt key.sch) 0 data)

def encryptBlocks (key : Key) (len : Nat) (data : List UInt8) : List UInt8 :=
  (List.range (len / 8 - 1)).foldr
    (fun i data => onBlock (dvbcsaBlockEncrypt key.sch) (8 * i)
      (dvbcsaXor64 (8 * i) (8 * (i + 1)) data))
    (onBlock (dvbcsaBlockEncrypt key.sch) (8 * (len / 8 - 1)) data)

def dvbcsaDecrypt (key : Key) (data : List UInt8) : List UInt8 :=
  if data.length < 8 then data else decryptBlocks key data.length (xorBehind key data)

def dvbcsaEncrypt (key : Key) (data : List UInt8) : List UInt8 :=
  if data.length < 8 then data else xorBehind key (encryptBlocks key data.length data)

variable {data : List UInt8} {i j : Nat}

theorem length_writeBlock (w : Block) (within : i + 8 ≤ data.length) :
    (writeBlock data i w).length = data.length := by
  simp only [writeBlock, List.length_append, List.length_take, List.length_drop, Block.bytes,
    List.length_cons, List.length_nil]
  omega

theorem writeBlock_split (first last : List UInt8) (w v : Block) :
    writeBlock (first ++ (w.bytes ++ last)) first.length v = first ++ (v.bytes ++ last) := by
  have behind : (first ++ (w.bytes ++ last)).drop (first.length + 8) = last := by
    rw [← List.drop_drop, List.drop_left]
    rfl
  rw [writeBlock, List.take_left, behind]

theorem blockAt_split (first last : List UInt8) (w : Block) :
    blockAt (first ++ (w.bytes ++ last)) first.length = w := by
  simp [blockAt, Block.bytes, List.getD_eq_getElem?_getD]

theorem exists_split (within : i + 8 ≤ data.length) :
    ∃ first last, data = first ++ ((blockAt data i).bytes ++ last) ∧ first.length = i := by
  refine ⟨data.take i, data.drop (i + 8), ?_, by rw [List.length_take]; omega⟩
  have eight : ∀ tail : List UInt8, 8 ≤ tail.length →
      tail = (blockAt tail 0).bytes ++ tail.drop 8 := by
    intro tail enough
    match tail, enough with
    | b0 :: b1 :: b2 :: b3 :: b4 :: b5 :: b6 :: b7 :: rest, _ => rfl
  have here : blockAt (data.drop i) 0 = blockAt data i := by
    simp [blockAt, List.getD_eq_getElem?_getD]
  conv_lhs => rw [← List.take_append_drop i data]
  rw [← here, ← List.drop_drop]
  congr 1
  exact eight _ (by rw [List.length_drop]; omega)

theorem onBlock_split (f : Block → Block) (first last : List UInt8) (w : Block) :
    onBlock f first.length (first ++ (w.bytes ++ last)) = first ++ ((f w).bytes ++ last) := by
  rw [onBlock, blockAt_split, writeBlock_split]

theorem dvbcsaXor64_split (first last : List UInt8) (w v : Block) :
    dvbcsaXor64 first.length (first.length + 8) (first ++ (w.bytes ++ (v.bytes ++ last))) =
      first ++ ((w.xor v).bytes ++ (v.bytes ++ last)) := by
  have behind : blockAt (first ++ (w.bytes ++ (v.bytes ++ last))) (first.length + 8) = v := by
    have moved := blockAt_split (first ++ w.bytes) last v
    rwa [List.length_append, List.append_assoc] at moved
  rw [dvbcsaXor64, blockAt_split, behind, writeBlock_split]

theorem Block.xor_xor (w v : Block) : (w.xor v).xor v = w := by
  simp only [Block.xor, xor_cancel]

variable {n : Nat}

theorem onBlock_back {f g : Block → Block} (back : ∀ w, g (f w) = w) (within : i + 8 ≤ data.length) :
    onBlock g i (onBlock f i data) = data := by
  obtain ⟨first, last, split, rfl⟩ := exists_split within
  rw [split, onBlock_split, onBlock_split, back]

theorem onBlock_inverses {f g : Block → Block} (inverses : Inverses (fun _ => True) f g)
    (within : i + 8 ≤ n) :
    Inverses (fun data : List UInt8 => data.length = n) (onBlock f i) (onBlock g i) where
  acts := fun data length => (length_writeBlock _ (by omega)).trans length
  undoes := fun data length => (length_writeBlock _ (by omega)).trans length
  back := fun data length => onBlock_back (fun w => inverses.back w trivial) (by omega)
  forth := fun data length => onBlock_back (fun w => inverses.forth w trivial) (by omega)

theorem dvbcsaXor64_twice (within : i + 16 ≤ data.length) :
    dvbcsaXor64 i (i + 8) (dvbcsaXor64 i (i + 8) data) = data := by
  obtain ⟨first, last, split, rfl⟩ := @exists_split data i (by omega)
  have lengths := congrArg List.length split
  simp only [List.length_append, Block.bytes, List.length_cons, List.length_nil] at lengths
  obtain ⟨none_, rest, second, empty⟩ := @exists_split last 0 (by omega)
  rw [List.eq_nil_of_length_eq_zero empty, List.nil_append] at second
  rw [split, second, dvbcsaXor64_split, dvbcsaXor64_split, Block.xor_xor]

theorem dvbcsaXor64_inverses (within : i + 16 ≤ n) :
    Inverses (fun data : List UInt8 => data.length = n) (dvbcsaXor64 i (i + 8))
      (dvbcsaXor64 i (i + 8)) where
  acts := fun data length => (length_writeBlock _ (by omega)).trans length
  undoes := fun data length => (length_writeBlock _ (by omega)).trans length
  back := fun data length => dvbcsaXor64_twice (by omega)
  forth := fun data length => dvbcsaXor64_twice (by omega)

theorem chained (key : Key) (enough : 8 ≤ n) :
    Inverses (fun data : List UInt8 => data.length = n) (encryptBlocks key n)
      (decryptBlocks key n) := by
  have blocks := Nat.div_mul_le_self n 8
  have cipher : ∀ i, 8 * i + 8 ≤ n → Inverses (fun data : List UInt8 => data.length = n)
      (onBlock (dvbcsaBlockEncrypt key.sch) (8 * i)) (onBlock (dvbcsaBlockDecrypt key.sch) (8 * i)) :=
    fun i within => onBlock_inverses (blockCipher key.sch) within
  have turns := (Inverses.loop (List.range (n / 8 - 1)) fun i mem =>
    have below := List.mem_range.mp mem
    (cipher i (by omega)).symm.trans (@dvbcsaXor64_inverses (8 * i) n (by omega))).symm
  have whole := (cipher (n / 8 - 1) (by omega)).trans turns
  have regrouped : decryptBlocks key n = onBlock (dvbcsaBlockDecrypt key.sch) (8 * (n / 8 - 1)) ∘
      fun data => (List.range (n / 8 - 1)).foldl
        (fun data i => dvbcsaXor64 (8 * i) (8 * i + 8)
          (onBlock (dvbcsaBlockDecrypt key.sch) (8 * i) data)) data :=
    funext fun data => foldl_turns (fun i => onBlock (dvbcsaBlockDecrypt key.sch) (8 * i))
      (fun i => dvbcsaXor64 (8 * i) (8 * i + 8)) (n / 8 - 1) data
  rw [regrouped]
  exact whole

theorem xorBehind_twice (key : Key) (enough : 8 ≤ data.length) :
    xorBehind key (xorBehind key data) = data := by
  have eight : (data.take 8).length = 8 := by
    rw [List.length_take]
    omega
  have first : (xorBehind key data).take 8 = data.take 8 := by
    rw [xorBehind, List.take_left' eight]
  have behind : (xorBehind key data).drop 8 = dvbcsaStreamXor key.cws (data.take 8) (data.drop 8) := by
    rw [xorBehind, List.drop_left' eight]
  rw [xorBehind, first, behind, dvbcsaStreamXor, dvbcsaStreamXor, streamFrom_twice,
    List.take_append_drop]

theorem length_xorBehind (key : Key) (data : List UInt8) :
    (xorBehind key data).length = data.length := by
  rw [xorBehind, List.length_append, dvbcsaStreamXor, length_streamFrom, ← List.length_append,
    List.take_append_drop]

theorem packetCipher (key : Key) (n : Nat) :
    Inverses (fun data : List UInt8 => data.length = n) (dvbcsaEncrypt key) (dvbcsaDecrypt key) := by
  by_cases short : n < 8
  · refine Inverses.refl.congr ?_ ?_
    · rintro data rfl
      exact if_pos short
    · rintro data rfl
      exact if_pos short
  · have stream : Inverses (fun data : List UInt8 => data.length = n) (xorBehind key)
      (xorBehind key) := {
      acts := fun data length => (length_xorBehind key data).trans length
      undoes := fun data length => (length_xorBehind key data).trans length
      back := fun data length => xorBehind_twice key (by omega)
      forth := fun data length => xorBehind_twice key (by omega) }
    refine ((chained key (Nat.not_lt.mp short)).trans stream).congr ?_ ?_
    · rintro data rfl
      exact if_neg short
    · rintro data rfl
      exact if_neg short

theorem dvbcsa_round_trip (cw data : List UInt8) :
    dvbcsaDecrypt (dvbcsaKeySet cw) (dvbcsaEncrypt (dvbcsaKeySet cw) data) = data ∧
      dvbcsaEncrypt (dvbcsaKeySet cw) (dvbcsaDecrypt (dvbcsaKeySet cw) data) = data :=
  ⟨(packetCipher (dvbcsaKeySet cw) data.length).back data rfl,
    (packetCipher (dvbcsaKeySet cw) data.length).forth data rfl⟩

end UnionpiTiger.Dvbcsa
