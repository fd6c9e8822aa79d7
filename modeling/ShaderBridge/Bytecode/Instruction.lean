import ShaderBridge.Bytecode.Cursor

/-!
Decoded instructions. Each instruction the converter lowers is read from its operand tokens into
one of the shapes below; the reader of an opcode reads its operands in the order they stand in
the stream, destination first.
-/

namespace ShaderBridge

/-- Operations with one source. -/
inductive UnaryOp where
  /-- Fractional part, per component. -/
  | frc
  /-- Absolute value, per component. -/
  | abs
  /-- Reciprocal of a scalar. -/
  | rcp
  /-- Reciprocal square root of a scalar's magnitude. -/
  | rsq
  /-- Two to the power of a scalar. -/
  | exp
  /-- Base-two logarithm of a scalar's magnitude. -/
  | log
  deriving DecidableEq, Repr, Inhabited

/-- Operations with two sources. -/
inductive BinaryOp where
  | add
  | sub
  | mul
  | min
  | max
  /-- `1.0` where the first source is less than the second, else `0.0`. -/
  | slt
  /-- `1.0` where the first source is at least the second, else `0.0`. -/
  | sge
  /-- A scalar's magnitude raised to a scalar power. -/
  | pow
  /-- Dot product of the first three components. -/
  | dp3
  /-- Dot product of all four components. -/
  | dp4
  deriving DecidableEq, Repr, Inhabited

/-- Operations with three sources. -/
inductive TernaryOp where
  /-- `a * b + c`. -/
  | mad
  /-- `a * b + (1 - a) * c`. -/
  | lrp
  deriving DecidableEq, Repr, Inhabited

/-- A decoded instruction. -/
inductive Instruction where
  | nop
  /-- A declaration of the destination register, with its usage or texture type. -/
  | dcl (decl : Declaration) (dst : Destination)
  /-- A float constant register defined by four IEEE single-precision bit patterns. -/
  | define (dst : Destination) (values : List UInt32)
  /-- An integer constant register defined by four 32-bit values. -/
  | defineInt (dst : Destination) (values : List UInt32)
  /-- A boolean constant register: true iff the token is not zero. -/
  | defineBool (dst : Destination) (value : UInt32)
  | mov (dst : Destination) (src : Source)
  /-- A move into the address register that rounds to the nearest integer. -/
  | mova (dst : Destination) (src : Source)
  | unary (op : UnaryOp) (dst : Destination) (a : Source)
  | binary (op : BinaryOp) (dst : Destination) (a b : Source)
  | ternary (op : TernaryOp) (dst : Destination) (a b c : Source)
  /-- A texture load; the control bits select the plain, projected (1) or biased (2) form, and
  `tokenIndex` is where the instruction stands. -/
  | texld (control : Nat) (tokenIndex : Nat) (dst : Destination) (coord sampler : Source)
  /-- A texture load at the level of detail in the coordinate's `w`. -/
  | texldl (dst : Destination) (coord sampler : Source)
  deriving Repr, Inhabited

namespace Instruction

open Scan

/-- Reads `n` tokens. -/
def tokens (n : Nat) : Scan (List UInt32) :=
  match n with
  | 0 => pure []
  | n + 1 => do
    let t ← next
    let rest ← tokens n
    pure (t.bits :: rest)

/-- How the operands of `opcode` are read, for an instruction token with control bits `control`
at `tokenIndex`; none for an opcode the converter does not lower in this stage. Texture loads
without an explicit level of detail exist in pixel shaders only. -/
def reader (version : ShaderVersion) (opcode : Opcode) (control tokenIndex : Nat) :
    Option (Scan Instruction) :=
  let dst := destination version
  let src := source version
  let unaryOf (op : UnaryOp) : Scan Instruction := do
    let d ← dst
    let a ← src
    pure (.unary op d a)
  let binaryOf (op : BinaryOp) : Scan Instruction := do
    let d ← dst
    let a ← src
    let b ← src
    pure (.binary op d a b)
  let ternaryOf (op : TernaryOp) : Scan Instruction := do
    let d ← dst
    let a ← src
    let b ← src
    let c ← src
    pure (.ternary op d a b c)
  match opcode with
  | .nop => some do
    let c ← get
    skip c.remaining
    pure .nop
  | .dcl => some do
    let t ← next
    let d ← dst
    pure (.dcl t.declaration d)
  | .define => some do
    let d ← dst
    let vs ← tokens 4
    pure (.define d vs)
  | .defineInt => some do
    let d ← dst
    let vs ← tokens 4
    pure (.defineInt d vs)
  | .defineBool => some do
    let d ← dst
    let t ← next
    pure (.defineBool d t.bits)
  | .mov => some do
    let d ← dst
    let s ← src
    pure (.mov d s)
  | .mova => some do
    let d ← dst
    let s ← src
    pure (.mova d s)
  | .frc => some (unaryOf .frc)
  | .abs => some (unaryOf .abs)
  | .rcp => some (unaryOf .rcp)
  | .rsq => some (unaryOf .rsq)
  | .exp => some (unaryOf .exp)
  | .log => some (unaryOf .log)
  | .add => some (binaryOf .add)
  | .sub => some (binaryOf .sub)
  | .mul => some (binaryOf .mul)
  | .min => some (binaryOf .min)
  | .max => some (binaryOf .max)
  | .slt => some (binaryOf .slt)
  | .sge => some (binaryOf .sge)
  | .pow => some (binaryOf .pow)
  | .dp3 => some (binaryOf .dp3)
  | .dp4 => some (binaryOf .dp4)
  | .mad => some (ternaryOf .mad)
  | .lrp => some (ternaryOf .lrp)
  | .tex =>
    if version.stage = .pixel then some do
      let d ← dst
      let coord ← src
      let sampler ← src
      pure (.texld control tokenIndex d coord sampler)
    else none
  | .texldl => some do
    let d ← dst
    let coord ← src
    let sampler ← src
    pure (.texldl d coord sampler)
  | .comment | .endShader | .unknown _ => none

end Instruction

end ShaderBridge
