import ShaderBridge.Bytecode.Token

/-!
Write masks, swizzles and modifiers of operand tokens.
-/

namespace ShaderBridge

/-- The components a destination write changes: bit `i` for component `i` of `xyzw`. -/
structure WriteMask where
  bits : Nat
  deriving DecidableEq, Repr, Inhabited

namespace WriteMask

/-- The mask that writes all four components. -/
def all : WriteMask := ⟨15⟩

/-- Whether the mask writes component `i`. -/
def writes (m : WriteMask) (i : Nat) : Bool := m.bits.testBit i

end WriteMask

/-- For each result component `xyzw`, the source component it reads. -/
structure Swizzle where
  x : Fin 4
  y : Fin 4
  z : Fin 4
  w : Fin 4
  deriving DecidableEq, Repr, Inhabited

namespace Swizzle

/-- Reads a swizzle byte: two bits per component, `x` in the lowest two. -/
def ofByte (b : Nat) : Swizzle :=
  ⟨⟨b % 4, Nat.mod_lt _ (by decide)⟩, ⟨b / 4 % 4, Nat.mod_lt _ (by decide)⟩,
    ⟨b / 16 % 4, Nat.mod_lt _ (by decide)⟩, ⟨b / 64 % 4, Nat.mod_lt _ (by decide)⟩⟩

/-- The swizzle that reads every component in place. -/
def identity : Swizzle := ⟨0, 1, 2, 3⟩

/-- The selected source components, in the order `xyzw`. -/
def toList (s : Swizzle) : List Nat := [s.x.val, s.y.val, s.z.val, s.w.val]

end Swizzle

/-- Source modifiers of D3D9 operands. The converter lowers negation and absolute value; the
rest are rejected. -/
inductive SourceModifier where
  | none
  | negate
  | bias
  | biasNegate
  | sign
  | signNegate
  | complement
  | x2
  | x2Negate
  | dz
  | dw
  | abs
  | absNegate
  | not
  | unknown (code : Nat)
  deriving DecidableEq, Repr, Inhabited

namespace SourceModifier

/-- The modifier a four-bit code selects. -/
def ofCode : Nat → SourceModifier
  | 0 => .none
  | 1 => .negate
  | 2 => .bias
  | 3 => .biasNegate
  | 4 => .sign
  | 5 => .signNegate
  | 6 => .complement
  | 7 => .x2
  | 8 => .x2Negate
  | 9 => .dz
  | 10 => .dw
  | 11 => .abs
  | 12 => .absNegate
  | 13 => .not
  | code => .unknown code

/-- The modifier's name as messages print it. -/
def name : SourceModifier → String
  | .none => "None"
  | .negate => "Negate"
  | .bias => "Bias"
  | .biasNegate => "BiasNegate"
  | .sign => "Sign"
  | .signNegate => "SignNegate"
  | .complement => "Comp"
  | .x2 => "X2"
  | .x2Negate => "X2Negate"
  | .dz => "Dz"
  | .dw => "Dw"
  | .abs => "Abs"
  | .absNegate => "AbsNegate"
  | .not => "Not"
  | .unknown code => s!"Unknown({code})"

end SourceModifier

/-- The result shift of a destination: a signed four-bit power of two that scales the result.
Codes 1 to 3 multiply by 2, 4 and 8; codes 15, 14 and 13 (that is -1, -2, -3) divide. -/
inductive ResultShift where
  | none
  | mul2
  | mul4
  | mul8
  | div2
  | div4
  | div8
  | unknown (code : Nat)
  deriving DecidableEq, Repr, Inhabited

namespace ResultShift

/-- The shift a four-bit code selects. -/
def ofCode : Nat → ResultShift
  | 0 => .none
  | 1 => .mul2
  | 2 => .mul4
  | 3 => .mul8
  | 15 => .div2
  | 14 => .div4
  | 13 => .div8
  | code => .unknown code

/-- The shift's name as listings print it. -/
def name : ResultShift → String
  | .none => "None"
  | .mul2 => "Mul2"
  | .mul4 => "Mul4"
  | .mul8 => "Mul8"
  | .div2 => "Div2"
  | .div4 => "Div4"
  | .div8 => "Div8"
  | .unknown code => s!"Unknown({code})"

/-- The scale factor of a shift that changes the result, as IEEE single-precision bits:
2, 4, 8, 0.5, 0.25 or 0.125. No shift and unknown shifts have none. -/
def factorBits : ResultShift → Option Nat
  | .mul2 => some 0x40000000
  | .mul4 => some 0x40800000
  | .mul8 => some 0x41000000
  | .div2 => some 0x3F000000
  | .div4 => some 0x3E800000
  | .div8 => some 0x3E000000
  | .none | .unknown _ => Option.none

end ResultShift

/-- The result modifiers of a destination operand. -/
structure ResultModifier where
  saturate : Bool
  partialPrecision : Bool
  centroid : Bool
  shift : ResultShift
  deriving DecidableEq, Repr, Inhabited

namespace Token

/-- The write mask of a destination token (bits 16 to 19). -/
def writeMask (t : Token) : WriteMask := ⟨t.field 16 4⟩

/-- The result modifiers of a destination token. -/
def resultModifier (t : Token) : ResultModifier where
  saturate := t.bit 20
  partialPrecision := t.bit 21
  centroid := t.bit 22
  shift := ResultShift.ofCode (t.field 24 4)

/-- The swizzle of a source token (bits 16 to 23). -/
def swizzle (t : Token) : Swizzle := Swizzle.ofByte (t.field 16 8)

/-- The source modifier of a source token (bits 24 to 27). -/
def sourceModifier (t : Token) : SourceModifier := SourceModifier.ofCode (t.field 24 4)

end Token

end ShaderBridge
