/-!
Lowercase hexadecimal text. Error messages print tokens as eight hex digits and opcodes as
four, and digests print every byte as two: in each case the number is written in base 16 with
the digits `0-9a-f`, padded with zeros on the left to a least width and never cut.
-/

namespace ShaderBridge.Hex

/-- The lowercase hex digit of a number below 16. -/
def digit (n : Nat) : Char :=
  if n < 10 then Char.ofNat (48 + n) else Char.ofNat (87 + n)

/-- The base-16 digits of `n`, most significant first; zero has the single digit `0`. -/
def digits (n : Nat) : List Char :=
  if n < 16 then [digit n] else digits (n / 16) ++ [digit (n % 16)]
termination_by n
decreasing_by omega

/-- `n` in lowercase hex with at least `width` digits, padded with zeros on the left. -/
def padded (width n : Nat) : String :=
  let ds := digits n
  String.ofList (List.replicate (width - ds.length) '0' ++ ds)

/-- A byte string as two lowercase hex digits per byte, in order. -/
def ofBytes (bytes : List UInt8) : String :=
  String.join (bytes.map fun b => padded 2 b.toNat)

theorem digits_ne_nil (n : Nat) : digits n ≠ [] := by
  unfold digits
  split <;> simp

/-- The number a hex digit stands for; a character that is no lowercase hex digit reads as 0. -/
def digitValue (c : Char) : Nat :=
  if '0' ≤ c ∧ c ≤ '9' then c.toNat - 48
  else if 'a' ≤ c ∧ c ≤ 'f' then c.toNat - 87
  else 0

/-- The number that hex digits stand for, most significant first. -/
def value (ds : List Char) : Nat := ds.foldl (fun acc c => 16 * acc + digitValue c) 0

theorem digitValue_digit_all : ∀ d, d < 16 → digitValue (digit d) = d := by decide

theorem digitValue_digit {d : Nat} (h : d < 16) : digitValue (digit d) = d :=
  digitValue_digit_all d h

theorem value_append_digit (ds : List Char) (c : Char) :
    value (ds ++ [c]) = 16 * value ds + digitValue c := by
  simp [value, List.foldl_append]

/-- Reading the digits back gives the number. -/
theorem value_digits (n : Nat) : value (digits n) = n := by
  rw [digits]
  split
  · simp [value, digitValue_digit (by assumption : n < 16)]
  · rw [value_append_digit, value_digits (n / 16), digitValue_digit (Nat.mod_lt n (by decide))]
    omega
termination_by n
decreasing_by omega

theorem value_zeros_append (k : Nat) (ds : List Char) :
    value (List.replicate k '0' ++ ds) = value ds := by
  have zeros : ∀ k acc, (List.replicate k '0').foldl (fun acc c => 16 * acc + digitValue c) acc =
      16 ^ k * acc := by
    intro k
    induction k with
    | zero => intro acc; simp
    | succ k ih =>
      intro acc
      rw [List.replicate_succ, List.foldl_cons, ih]
      simp [digitValue, Nat.pow_succ]
      exact (Nat.mul_assoc (16 ^ k) 16 acc).symm
  simp only [value, List.foldl_append, zeros, Nat.mul_zero]

/-- Zero padding does not change the number the text stands for. -/
theorem value_padded (width n : Nat) : value (padded width n).toList = n := by
  simp [padded, value_zeros_append, value_digits]

end ShaderBridge.Hex
