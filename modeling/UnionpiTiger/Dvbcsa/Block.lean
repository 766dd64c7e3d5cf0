import UnionpiTiger.Lib.Inverses

set_option autoImplicit false

namespace UnionpiTiger.Dvbcsa

open Lib

def csaBlockPerm : Array UInt8 := #[
  0x00,0x02,0x80,0x82,0x20,0x22,0xa0,0xa2,0x10,0x12,0x90,0x92,0x30,0x32,0xb0,0xb2,
  0x04,0x06,0x84,0x86,0x24,0x26,0xa4,0xa6,0x14,0x16,0x94,0x96,0x34,0x36,0xb4,0xb6,
  0x40,0x42,0xc0,0xc2,0x60,0x62,0xe0,0xe2,0x50,0x52,0xd0,0xd2,0x70,0x72,0xf0,0xf2,
  0x44,0x46,0xc4,0xc6,0x64,0x66,0xe4,0xe6,0x54,0x56,0xd4,0xd6,0x74,0x76,0xf4,0xf6,
  0x01,0x03,0x81,0x83,0x21,0x23,0xa1,0xa3,0x11,0x13,0x91,0x93,0x31,0x33,0xb1,0xb3,
  0x05,0x07,0x85,0x87,0x25,0x27,0xa5,0xa7,0x15,0x17,0x95,0x97,0x35,0x37,0xb5,0xb7,
  0x41,0x43,0xc1,0xc3,0x61,0x63,0xe1,0xe3,0x51,0x53,0xd1,0xd3,0x71,0x73,0xf1,0xf3,
  0x45,0x47,0xc5,0xc7,0x65,0x67,0xe5,0xe7,0x55,0x57,0xd5,0xd7,0x75,0x77,0xf5,0xf7,
  0x08,0x0a,0x88,0x8a,0x28,0x2a,0xa8,0xaa,0x18,0x1a,0x98,0x9a,0x38,0x3a,0xb8,0xba,
  0x0c,0x0e,0x8c,0x8e,0x2c,0x2e,0xac,0xae,0x1c,0x1e,0x9c,0x9e,0x3c,0x3e,0xbc,0xbe,
  0x48,0x4a,0xc8,0xca,0x68,0x6a,0xe8,0xea,0x58,0x5a,0xd8,0xda,0x78,0x7a,0xf8,0xfa,
  0x4c,0x4e,0xcc,0xce,0x6c,0x6e,0xec,0xee,0x5c,0x5e,0xdc,0xde,0x7c,0x7e,0xfc,0xfe,
  0x09,0x0b,0x89,0x8b,0x29,0x2b,0xa9,0xab,0x19,0x1b,0x99,0x9b,0x39,0x3b,0xb9,0xbb,
  0x0d,0x0f,0x8d,0x8f,0x2d,0x2f,0xad,0xaf,0x1d,0x1f,0x9d,0x9f,0x3d,0x3f,0xbd,0xbf,
  0x49,0x4b,0xc9,0xcb,0x69,0x6b,0xe9,0xeb,0x59,0x5b,0xd9,0xdb,0x79,0x7b,0xf9,0xfb,
  0x4d,0x4f,0xcd,0xcf,0x6d,0x6f,0xed,0xef,0x5d,0x5f,0xdd,0xdf,0x7d,0x7f,0xfd,0xff]

def dvbcsaBlockSbox : Array UInt8 := #[
  0x3a,0xea,0x68,0xfe,0x33,0xe9,0x88,0x1a,0x83,0xcf,0xe1,0x7f,0xba,0xe2,0x38,0x12,
  0xe8,0x27,0x61,0x95,0x0c,0x36,0xe5,0x70,0xa2,0x06,0x82,0x7c,0x17,0xa3,0x26,0x49,
  0xbe,0x7a,0x6d,0x47,0xc1,0x51,0x8f,0xf3,0xcc,0x5b,0x67,0xbd,0xcd,0x18,0x08,0xc9,
  0xff,0x69,0xef,0x03,0x4e,0x48,0x4a,0x84,0x3f,0xb4,0x10,0x04,0xdc,0xf5,0x5c,0xc6,
  0x16,0xab,0xac,0x4c,0xf1,0x6a,0x2f,0x3c,0x3b,0xd4,0xd5,0x94,0xd0,0xc4,0x63,0x62,
  0x71,0xa1,0xf9,0x4f,0x2e,0xaa,0xc5,0x56,0xe3,0x39,0x93,0xce,0x65,0x64,0xe4,0x58,
  0x6c,0x19,0x42,0x79,0xdd,0xee,0x96,0xf6,0x8a,0xec,0x1e,0x85,0x53,0x45,0xde,0xbb,
  0x7e,0x0a,0x9a,0x13,0x2a,0x9d,0xc2,0x5e,0x5a,0x1f,0x32,0x35,0x9c,0xa8,0x73,0x30,
  0x29,0x3d,0xe7,0x92,0x87,0x1b,0x2b,0x4b,0xa5,0x57,0x97,0x40,0x15,0xe6,0xbc,0x0e,
  0xeb,0xc3,0x34,0x2d,0xb8,0x44,0x25,0xa4,0x1c,0xc7,0x23,0xed,0x90,0x6e,0x50,0x00,
  0x99,0x9e,0x4d,0xd9,0xda,0x8d,0x6f,0x5f,0x3e,0xd7,0x21,0x74,0x86,0xdf,0x6b,0x05,
  0x8e,0x5d,0x37,0x11,0xd2,0x28,0x75,0xd6,0xa7,0x77,0x24,0xbf,0xf0,0xb0,0x02,0xb7,
  0xf8,0xfc,0x81,0x09,0xb1,0x01,0x76,0x91,0x7d,0x0f,0xc8,0xa0,0xf2,0xcb,0x78,0x60,
  0xd1,0xf7,0xe0,0xb5,0x98,0x22,0xb3,0x20,0x1d,0xa6,0xdb,0x7b,0x59,0x9f,0xae,0x31,
  0xfb,0xd3,0xb6,0xca,0x43,0x72,0x07,0xf4,0xd8,0x41,0x14,0x55,0x0d,0x54,0x8b,0xb9,
  0xad,0x46,0x0b,0xaf,0x80,0x52,0x2c,0xfa,0x8c,0x89,0x66,0xfd,0xb2,0xa9,0x9b,0xc0]

-- A dvbcsa_block_t.
structure Block where
  w0 : UInt8
  w1 : UInt8
  w2 : UInt8
  w3 : UInt8
  w4 : UInt8
  w5 : UInt8
  w6 : UInt8
  w7 : UInt8
deriving DecidableEq, Repr

def dvbcsaKeysbuffSize : Nat := 56

-- One turn of the loop of dvbcsa_block_decrypt, and of that of dvbcsa_block_encrypt.
def decryptRound (k : UInt8) (w : Block) : Block :=
  let s := dvbcsaBlockSbox.getD (k ^^^ w.w6).toNat 0
  let l := w.w7 ^^^ s
  { w7 := w.w6
    w6 := w.w5 ^^^ csaBlockPerm.getD s.toNat 0
    w5 := w.w4
    w4 := w.w3 ^^^ l
    w3 := w.w2 ^^^ l
    w2 := w.w1 ^^^ l
    w1 := w.w0
    w0 := l }

def encryptRound (k : UInt8) (w : Block) : Block :=
  let s := dvbcsaBlockSbox.getD (k ^^^ w.w7).toNat 0
  let l := w.w1
  { w1 := w.w2 ^^^ w.w0
    w2 := w.w3 ^^^ w.w0
    w3 := w.w4 ^^^ w.w0
    w4 := w.w5
    w5 := w.w6 ^^^ csaBlockPerm.getD s.toNat 0
    w6 := w.w7
    w7 := w.w0 ^^^ s
    w0 := l }

def dvbcsaBlockDecrypt (key : List UInt8) (w : Block) : Block :=
  (List.range dvbcsaKeysbuffSize).foldr (fun i w => decryptRound (key.getD i 0) w) w

def dvbcsaBlockEncrypt (key : List UInt8) (w : Block) : Block :=
  (List.range dvbcsaKeysbuffSize).foldl (fun w i => encryptRound (key.getD i 0) w) w

theorem xor_cancel (a b : UInt8) : a ^^^ b ^^^ b = a := by
  rw [UInt8.xor_assoc, UInt8.xor_self, UInt8.xor_zero]

theorem decryptRound_encryptRound (k : UInt8) (w : Block) : decryptRound k (encryptRound k w) = w := by
  simp only [decryptRound, encryptRound, xor_cancel]

theorem encryptRound_decryptRound (k : UInt8) (w : Block) : encryptRound k (decryptRound k w) = w := by
  simp only [decryptRound, encryptRound, xor_cancel]

theorem blockCipher (key : List UInt8) :
    Inverses (fun _ => True) (dvbcsaBlockEncrypt key) (dvbcsaBlockDecrypt key) :=
  Inverses.loop _ fun i _ =>
    { acts := fun _ _ => trivial
      undoes := fun _ _ => trivial
      back := fun w _ => decryptRound_encryptRound (key.getD i 0) w
      forth := fun w _ => encryptRound_decryptRound (key.getD i 0) w }

end UnionpiTiger.Dvbcsa
