import ShaderBridge.Converter

/-!
Bytecode given as bytes converts as the tokens it stores, the size limit's error included.
-/

namespace ShaderBridge

open Bytecode

/-- Bytes past the size limit, and only those, are refused as too large. -/
theorem tokensFromBytes_eq_tooLarge_iff (bs : List UInt8) :
    tokensFromBytes bs = .error (.bytecodeTooLarge bs.length maxBytecodeBytes) ↔
      maxBytecodeBytes < bs.length := by
  unfold tokensFromBytes
  split
  case isTrue hlarge => exact iff_of_true rfl hlarge
  case isFalse hsmall =>
    refine iff_of_false ?_ hsmall
    split <;> simp

/-- Within the size limit, bytes that are no whole number of tokens, and only those, are refused
for their length. -/
theorem tokensFromBytes_eq_invalid_iff {bs : List UInt8} (hsize : bs.length ≤ maxBytecodeBytes) :
    tokensFromBytes bs = .error (.invalidByteLength bs.length) ↔ bs.length % 4 ≠ 0 := by
  unfold tokensFromBytes
  rw [if_neg (Nat.not_lt.2 hsize)]
  split
  case isTrue hpartial => exact iff_of_true rfl hpartial
  case isFalse hwhole => exact iff_of_false (by simp) hwhole

/-- Bytes within the size limit that hold whole tokens are read as the tokens whose bytes they
are. -/
theorem tokensFromBytes_eq_ok {bs : List UInt8} (hsize : bs.length ≤ maxBytecodeBytes)
    (hwhole : bs.length % 4 = 0) : tokensFromBytes bs = .ok (tokensOfBytes bs) := by
  unfold tokensFromBytes
  rw [if_neg (Nat.not_lt.2 hsize), if_neg (fun hpartial => hpartial hwhole)]

/-- The bytes of a token stream within the size limit are read back as the stream. -/
theorem tokensFromBytes_bytesOfTokens {ts : List UInt32} (hsize : ts.length ≤ maxTokens) :
    tokensFromBytes (bytesOfTokens ts) = .ok ts := by
  have hlength := length_bytesOfTokens ts
  have hbytes : (bytesOfTokens ts).length ≤ maxBytecodeBytes := by
    rw [hlength]
    unfold maxTokens maxBytecodeBytes at *
    omega
  rw [tokensFromBytes_eq_ok hbytes (by omega), tokensOfBytes_bytesOfTokens]

namespace Converter

/-- A stream of more tokens than the limit is refused as too large, by its size in bytes. -/
theorem compile_tooLarge (c : Converter) {ts : List UInt32} (hsize : maxTokens < ts.length) :
    c.compile ts.toArray = .error (.bytecodeTooLarge (4 * ts.length) maxBytecodeBytes) := by
  unfold compile
  rw [List.size_toArray, if_pos hsize]

/-- Converting the bytes of a token stream is converting the stream. -/
theorem compileBytes_bytesOfTokens (c : Converter) (ts : List UInt32) :
    c.compileBytes (bytesOfTokens ts) = c.compile ts.toArray := by
  by_cases hsize : ts.length ≤ maxTokens
  case pos =>
    simp only [compileBytes, tokensFromBytes_bytesOfTokens hsize, bind, Except.bind]
  case neg =>
    -- both refuse the stream as too large, with its size in bytes
    have hbytes : maxBytecodeBytes < (bytesOfTokens ts).length := by
      rw [length_bytesOfTokens]
      unfold maxTokens maxBytecodeBytes at *
      omega
    have hrefused := (tokensFromBytes_eq_tooLarge_iff _).2 hbytes
    rw [length_bytesOfTokens] at hrefused
    simp only [compileBytes, hrefused, bind, Except.bind,
      c.compile_tooLarge (Nat.lt_of_not_le hsize)]

/-- The byte and token entry points agree: converting the bytes of a token stream is converting
the stream, and bytes are refused exactly when too large or not whole tokens. -/
theorem bytes_agree_with_tokens (c : Converter) :
    (∀ ts : List UInt32, c.compileBytes (bytesOfTokens ts) = c.compile ts.toArray ∧
      (65536 < ts.length →
        c.compile ts.toArray = .error (.bytecodeTooLarge (4 * ts.length) 262144))) ∧
    ∀ bs : List UInt8,
      (tokensFromBytes bs = .error (.bytecodeTooLarge bs.length 262144) ↔ 262144 < bs.length) ∧
      (bs.length ≤ 262144 →
        (tokensFromBytes bs = .error (.invalidByteLength bs.length) ↔ bs.length % 4 ≠ 0)) ∧
      (bs.length ≤ 262144 → bs.length % 4 = 0 →
        ∃ ts, tokensFromBytes bs = .ok ts ∧ bytesOfTokens ts = bs) := by
  refine ⟨fun ts => ⟨c.compileBytes_bytesOfTokens ts, c.compile_tooLarge⟩, fun bs => ?_⟩
  refine ⟨tokensFromBytes_eq_tooLarge_iff bs, tokensFromBytes_eq_invalid_iff, ?_⟩
  intro hsize hwhole
  exact ⟨tokensOfBytes bs, tokensFromBytes_eq_ok hsize hwhole,
    bytesOfTokens_tokensOfBytes bs hwhole⟩

end Converter

end ShaderBridge
