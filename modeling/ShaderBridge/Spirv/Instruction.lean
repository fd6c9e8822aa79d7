import ShaderBridge.Spirv.Op

/-!
SPIR-V instructions and their binary form. A literal string is its UTF-8 bytes packed
little-endian into words, then a zero terminator that takes a word of its own when the bytes
fill their last word.
-/

namespace ShaderBridge.Spirv

/-- A SPIR-V instruction. -/
structure Instruction where
  op : Op
  resultType : Option Nat := none
  result : Option Nat := none
  operands : List Nat := []
  deriving DecidableEq, Repr, Inhabited

namespace Instruction

/-- The number of words the instruction takes. -/
def wordCount (i : Instruction) : Nat :=
  1 + i.resultType.toList.length + i.result.toList.length + i.operands.length

/-- The instruction's binary form. -/
def encode (i : Instruction) : List Nat :=
  (i.wordCount * 65536 + i.op.code) :: (i.resultType.toList ++ i.result.toList ++ i.operands)

theorem length_encode (i : Instruction) : i.encode.length = i.wordCount := by
  simp only [encode, wordCount, List.length_cons, List.length_append]
  omega

end Instruction

/-- Four bytes as a little-endian word. -/
def packWord (b0 b1 b2 b3 : UInt8) : Nat :=
  b0.toNat + 256 * b1.toNat + 65536 * b2.toNat + 16777216 * b3.toNat

/-- Bytes packed little-endian four to a word, the last word padded with zeros. -/
def packBytes : List UInt8 → List Nat
  | [] => []
  | [a] => [packWord a 0 0 0]
  | [a, b] => [packWord a b 0 0]
  | [a, b, c] => [packWord a b c 0]
  | a :: b :: c :: d :: rest => packWord a b c d :: packBytes rest

/-- The words of a literal string: its UTF-8 bytes packed, then a terminator word when they fill
their last word. -/
def stringWords (s : String) : List Nat :=
  let bytes := s.toUTF8.data.toList
  packBytes bytes ++ if bytes.length % 4 = 0 then [0] else []

theorem length_packBytes (bs : List UInt8) : (packBytes bs).length = (bs.length + 3) / 4 := by
  induction bs using packBytes.induct with
  | case1 => rfl
  | case2 => simp [packBytes]
  | case3 => simp [packBytes]
  | case4 => simp [packBytes]
  | case5 a b c d rest ih =>
    simp only [packBytes, List.length_cons, ih]
    omega

/-- Packing a NUL after the bytes adds a word of zeros exactly when the bytes fill their last
word; otherwise the NUL is part of the last word's padding. -/
theorem packBytes_append_zero (bs : List UInt8) :
    packBytes (bs ++ [0]) = packBytes bs ++ if bs.length % 4 = 0 then [0] else [] := by
  induction bs using packBytes.induct with
  | case1 => rfl
  | case2 => rfl
  | case3 => rfl
  | case4 => rfl
  | case5 a b c d rest ih =>
    have hmod : (rest.length + 1 + 1 + 1 + 1) % 4 = rest.length % 4 := by omega
    simp only [List.cons_append, packBytes, ih, List.length_cons, hmod, List.cons_append]

/-- The words of a literal string are its bytes and a terminating NUL, packed. -/
theorem stringWords_eq_packBytes (s : String) :
    stringWords s = packBytes (s.toUTF8.data.toList ++ [0]) :=
  (packBytes_append_zero _).symm

/-- A literal string takes one word per four bytes, plus one: its terminating NUL always fits in
the last word. -/
theorem length_stringWords (s : String) : (stringWords s).length = s.utf8ByteSize / 4 + 1 := by
  have size : s.toUTF8.data.toList.length = s.utf8ByteSize := by
    simp only [Array.length_toList, String.toUTF8_eq_toByteArray, ← String.size_toByteArray]
    rfl
  simp only [stringWords_eq_packBytes, length_packBytes, List.length_append, size,
    List.length_singleton]
  omega

end ShaderBridge.Spirv
