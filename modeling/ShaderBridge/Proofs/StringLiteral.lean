import ShaderBridge.Spirv.Instruction

/-!
Literal strings in a module: a string with no NUL byte takes one word per four bytes plus one,
and reads back from its words.
-/

namespace ShaderBridge.Spirv

/-- The four bytes of a word, least significant first. -/
def wordBytes (w : Nat) : List UInt8 :=
  [w.toUInt8, (w / 256).toUInt8, (w / 65536).toUInt8, (w / 16777216).toUInt8]

/-- The string a literal's words hold: their bytes up to the first NUL, decoded as UTF-8. -/
def readLiteral (words : List Nat) : Option String :=
  String.fromUTF8? ((words.flatMap wordBytes).takeWhile (· ≠ 0)).toByteArray

theorem wordBytes_packWord (a b c d : UInt8) : wordBytes (packWord a b c d) = [a, b, c, d] := by
  have := a.toNat_lt
  have := b.toNat_lt
  have := c.toNat_lt
  have := d.toNat_lt
  simp only [wordBytes, packWord, List.cons.injEq, ← UInt8.toNat_inj, Nat.toUInt8_eq,
    UInt8.toNat_ofNat', Nat.reducePow, and_true]
  omega

/-- Packing bytes and reading them back gives the bytes, padded with zeros to a whole word. -/
theorem flatMap_wordBytes_packBytes (bs : List UInt8) :
    (packBytes bs).flatMap wordBytes = bs ++ List.replicate ((4 - bs.length % 4) % 4) 0 := by
  induction bs using packBytes.induct with
  | case1 => rfl
  | case2 a => simp [packBytes, wordBytes_packWord]
  | case3 a b => simp [packBytes, wordBytes_packWord]
  | case4 a b c => simp [packBytes, wordBytes_packWord]
  | case5 a b c d rest ih =>
    have hpad : (rest.length + 1 + 1 + 1 + 1) % 4 = rest.length % 4 := by omega
    simp [packBytes, wordBytes_packWord, ih, hpad]

/-- The words of a literal hold the string's bytes and then one to four zero bytes: its NUL and
the padding of the last word. -/
theorem flatMap_wordBytes_stringWords (s : String) :
    (stringWords s).flatMap wordBytes =
      s.toUTF8.data.toList ++ List.replicate (4 - s.utf8ByteSize % 4) 0 := by
  have size : s.toUTF8.data.toList.length = s.utf8ByteSize := by
    simp only [Array.length_toList, String.toUTF8_eq_toByteArray, ← String.size_toByteArray]
    rfl
  have hpad : 4 - s.utf8ByteSize % 4 = 1 + (4 - (s.utf8ByteSize + 1) % 4) % 4 := by omega
  rw [stringWords_eq_packBytes, flatMap_wordBytes_packBytes, List.length_append, size, List.length_singleton,
    hpad, ← List.replicate_append_replicate, List.replicate_one, List.append_assoc]

theorem takeWhile_append_replicate_zero {bs : List UInt8} (hbs : (0 : UInt8) ∉ bs) {k : Nat}
    (hk : 0 < k) : (bs ++ List.replicate k 0).takeWhile (· ≠ 0) = bs := by
  have hall : ∀ x ∈ bs, decide (x ≠ 0) = true := fun x hx => by
    simpa using ne_of_mem_of_not_mem hx hbs
  obtain ⟨j, rfl⟩ : ∃ j, k = j + 1 := ⟨k - 1, by omega⟩
  rw [List.takeWhile_append_of_pos hall, List.replicate_succ, List.takeWhile_cons_of_neg (by simp),
    List.append_nil]

/-- A string with no NUL byte reads back from its words. -/
theorem readLiteral_stringWords {s : String} (hs : (0 : UInt8) ∉ s.toUTF8.data.toList) :
    readLiteral (stringWords s) = some s := by
  have hbytes : s.toUTF8.data.toList.toByteArray = s.toUTF8 :=
    ByteArray.ext (by rw [List.data_toByteArray, Array.toArray_toList])
  rw [readLiteral, flatMap_wordBytes_stringWords,
    takeWhile_append_replicate_zero hs (by omega), hbytes, String.fromUTF8?,
    String.toUTF8_eq_toByteArray, dif_pos s.isValidUTF8]
  rfl

/-- A literal string of `n` bytes with no NUL takes `n / 4 + 1` words, whose bytes are its own
followed by one to four zeros; it reads back from them, and its terminating NUL, byte `n`, lies
in the last word. -/
theorem stringWords_literal (s : String) (hs : (0 : UInt8) ∉ s.toUTF8.data.toList) :
    (stringWords s).length = s.utf8ByteSize / 4 + 1 ∧
    (∃ k, 1 ≤ k ∧ k ≤ 4 ∧
      (stringWords s).flatMap wordBytes = s.toUTF8.data.toList ++ List.replicate k 0) ∧
    readLiteral (stringWords s) = some s ∧
    4 * ((stringWords s).length - 1) ≤ s.utf8ByteSize ∧
      s.utf8ByteSize < 4 * (stringWords s).length := by
  have hlength := length_stringWords s
  refine ⟨hlength, ⟨4 - s.utf8ByteSize % 4, by omega, by omega,
    flatMap_wordBytes_stringWords s⟩, readLiteral_stringWords hs, ?_, ?_⟩
  all_goals rw [hlength]; omega

/-- The entry point's name takes two words: its four letters, then a word of zeros. -/
theorem stringWords_literal_main :
    (0 : UInt8) ∉ "main".toUTF8.data.toList ∧
    (stringWords "main").length = "main".utf8ByteSize / 4 + 1 ∧
    (∃ k, 1 ≤ k ∧ k ≤ 4 ∧
      (stringWords "main").flatMap wordBytes = "main".toUTF8.data.toList ++ List.replicate k 0) ∧
    readLiteral (stringWords "main") = some "main" ∧
    4 * ((stringWords "main").length - 1) ≤ "main".utf8ByteSize ∧
      "main".utf8ByteSize < 4 * (stringWords "main").length :=
  have hs : (0 : UInt8) ∉ "main".toUTF8.data.toList := by decide
  ⟨hs, stringWords_literal "main" hs⟩

end ShaderBridge.Spirv
