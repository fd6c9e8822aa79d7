/-!
Bytecode as bytes: tokens stored little-endian, four bytes each. The two directions are
inverse on byte strings of whole tokens.
-/

namespace ShaderBridge.Bytecode

/-- The token stored in four bytes, least significant byte first. -/
def tokenOfBytes (b0 b1 b2 b3 : UInt8) : UInt32 :=
  UInt32.ofNat (b0.toNat + 256 * b1.toNat + 65536 * b2.toNat + 16777216 * b3.toNat)

/-- The four bytes of a token, least significant first. -/
def tokenBytes (t : UInt32) : List UInt8 :=
  [UInt8.ofNat t.toNat, UInt8.ofNat (t.toNat / 256), UInt8.ofNat (t.toNat / 65536),
    UInt8.ofNat (t.toNat / 16777216)]

/-- The tokens stored in a byte string, four bytes each; a last group of fewer than four bytes
is dropped. -/
def tokensOfBytes : List UInt8 → List UInt32
  | b0 :: b1 :: b2 :: b3 :: rest => tokenOfBytes b0 b1 b2 b3 :: tokensOfBytes rest
  | _ => []

/-- The bytes that store a token stream. -/
def bytesOfTokens (ts : List UInt32) : List UInt8 := ts.flatMap tokenBytes

theorem length_tokenBytes (t : UInt32) : (tokenBytes t).length = 4 := rfl

theorem length_bytesOfTokens (ts : List UInt32) : (bytesOfTokens ts).length = 4 * ts.length := by
  induction ts with
  | nil => rfl
  | cons t ts ih =>
    simp only [bytesOfTokens, List.flatMap_cons, List.length_append, length_tokenBytes] at ih ⊢
    rw [ih, List.length_cons]
    omega

/-- A token read back from its bytes is the token. -/
theorem tokenOfBytes_tokenBytes (t : UInt32) :
    tokenOfBytes (UInt8.ofNat t.toNat) (UInt8.ofNat (t.toNat / 256))
      (UInt8.ofNat (t.toNat / 65536)) (UInt8.ofNat (t.toNat / 16777216)) = t := by
  have bound := t.toNat_lt
  apply UInt32.toNat_inj.mp
  simp only [tokenOfBytes, UInt8.toNat_ofNat', UInt32.toNat_ofNat']
  omega

/-- The bytes of a token read from four bytes are those bytes. -/
theorem tokenBytes_tokenOfBytes (b0 b1 b2 b3 : UInt8) :
    tokenBytes (tokenOfBytes b0 b1 b2 b3) = [b0, b1, b2, b3] := by
  have h0 := b0.toNat_lt
  have h1 := b1.toNat_lt
  have h2 := b2.toNat_lt
  have h3 := b3.toNat_lt
  have value : (tokenOfBytes b0 b1 b2 b3).toNat =
      b0.toNat + 256 * b1.toNat + 65536 * b2.toNat + 16777216 * b3.toNat := by
    simp only [tokenOfBytes, UInt32.toNat_ofNat']
    omega
  simp only [tokenBytes, value, List.cons.injEq, and_true]
  refine ⟨?_, ?_, ?_, ?_⟩ <;> apply UInt8.toNat_inj.mp <;> simp only [UInt8.toNat_ofNat'] <;> omega

/-- Reading the bytes of a token list gives the list back. -/
theorem tokensOfBytes_bytesOfTokens (ts : List UInt32) : tokensOfBytes (bytesOfTokens ts) = ts := by
  induction ts with
  | nil => rfl
  | cons t ts ih =>
    simp only [bytesOfTokens, List.flatMap_cons, tokenBytes, List.cons_append, List.nil_append]
      at ih ⊢
    rw [tokensOfBytes, tokenOfBytes_tokenBytes, ih]

/-- A byte string of whole tokens is the bytes of the tokens it stores. -/
theorem bytesOfTokens_tokensOfBytes (bs : List UInt8) (h : bs.length % 4 = 0) :
    bytesOfTokens (tokensOfBytes bs) = bs := by
  induction bs using tokensOfBytes.induct with
  | case1 b0 b1 b2 b3 rest ih =>
    simp only [List.length_cons] at h
    simp only [tokensOfBytes, bytesOfTokens, List.flatMap_cons, tokenBytes_tokenOfBytes,
      List.cons_append, List.nil_append] at ih ⊢
    rw [ih (by omega)]
  | case2 bs hshort =>
    match bs, hshort, h with
    | [], _, _ => rfl
    | [_], _, h => simp at h
    | [_, _], _, h => simp at h
    | [_, _, _], _, h => simp at h
    | _ :: _ :: _ :: _ :: _, hshort, _ => exact absurd rfl (hshort _ _ _ _ _)

end ShaderBridge.Bytecode
