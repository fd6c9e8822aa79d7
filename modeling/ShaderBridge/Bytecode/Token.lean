/-!
Tokens of D3D9 shader bytecode and their bit fields, each read as
`(bits / 2 ^ lo) % 2 ^ width`.
-/

namespace ShaderBridge

/-- One 32-bit token of a shader's bytecode. -/
structure Token where
  bits : UInt32
  deriving DecidableEq, Repr, Inhabited

namespace Token

/-- The `width` bits of the token that start at bit `lo`. -/
def field (t : Token) (lo width : Nat) : Nat :=
  t.bits.toNat / Nat.pow 2 lo % Nat.pow 2 width

/-- Whether bit `i` of the token is set. -/
def bit (t : Token) (i : Nat) : Bool :=
  t.bits.toNat.testBit i

/-- The opcode of an instruction token: its low 16 bits. -/
def opcode (t : Token) : Nat := t.field 0 16

/-- Opcode-specific control bits (bits 16 to 23), such as the projection and bias flags of a
texture load. -/
def control (t : Token) : Nat := t.field 16 8

/-- The number of operand tokens after an instruction token (bits 24 to 27). Streams of shader
model 1 leave it zero and the count follows from the opcode instead. -/
def length (t : Token) : Nat := t.field 24 4

/-- The number of tokens a comment token covers (bits 16 to 30). -/
def commentLength (t : Token) : Nat := t.field 16 15

/-- Bit 28 of an instruction token: the instruction is predicated. -/
def predicated (t : Token) : Bool := t.bit 28

/-- Bit 31: operand tokens are parameter tokens and have it set. -/
def isParameter (t : Token) : Bool := t.bit 31

/-- The register type of a parameter token, split over bits 28 to 30 (low three bits) and bits
11 to 12 (high two bits). -/
def registerType (t : Token) : Nat := t.field 28 3 + 8 * t.field 11 2

/-- The register number of a parameter token (bits 0 to 10). -/
def registerNumber (t : Token) : Nat := t.field 0 11

/-- Bit 13 of a parameter token: the register is addressed relative to an address register. -/
def relative (t : Token) : Bool := t.bit 13

/-- The token read as a two's-complement 32-bit integer. -/
def toInt32 (t : Token) : Int :=
  if t.bits.toNat < 0x80000000 then t.bits.toNat else (t.bits.toNat : Int) - 0x100000000

theorem field_lt (t : Token) (lo width : Nat) : t.field lo width < Nat.pow 2 width :=
  Nat.mod_lt _ (Nat.two_pow_pos width)

end Token

end ShaderBridge
