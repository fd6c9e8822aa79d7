import ShaderBridge.Lowering.Operand

/-!
Arithmetic instructions: vector operations on four floats, scalar operations on one replicated
component, and dot products of three or four components.
-/

namespace ShaderBridge

open Spirv

namespace Lowering

/-- Lowers `mov`. A move into the address register rounds down to integers. -/
def mov (dst : Destination) (src : Source) : LowerM Unit := do
  let value ← source src 4
  if dst.reg.file = .addr then writeAddress dst value false
  else writeDestination dst value 4

/-- Lowers `mova`, which writes the address register only, rounding to nearest. -/
def mova (dst : Destination) (src : Source) : LowerM Unit := do
  if dst.reg.file ≠ .addr then fail (.unsupportedRegister dst.reg .movaDestination)
  let value ← source src 4
  writeAddress dst value true

/-- 1.0 in the components where `op a b` holds, 0.0 elsewhere. -/
def compareSelect (op : Op) (a b : Nat) : LowerM Nat := do
  let bvec4 ← typeId (TypeDesc.vector Op.typeBool 4)
  let condition ← compute op bvec4 [a, b]
  let vec4 ← floatType 4
  let ones ← build (Builder.vec4Constant [oneBits, oneBits, oneBits, oneBits])
  let zeros ← build (Builder.vec4Constant [0, 0, 0, 0])
  compute Op.select vec4 [condition, ones, zeros]

/-- Lowers an operation with one source. -/
def unary (op : UnaryOp) (dst : Destination) (a : Source) : LowerM Unit := do
  match op with
  | .frc | .abs =>
    let x ← source a 4
    let vec4 ← floatType 4
    let value ← glslCall (if op = .frc then .fract else .fAbs) vec4 [x]
    writeDestination dst value 4
  | .rcp | .rsq | .exp | .log =>
    let x ← source a 1
    let float ← floatType 1
    let value ← match op with
      | .rcp => do
        let one ← float32 oneBits
        compute Op.fDiv float [one, x]
      | .rsq => do
        let magnitude ← glslCall .fAbs float [x]
        glslCall .inverseSqrt float [magnitude]
      | .exp => glslCall .exp2 float [x]
      | _ => do
        let magnitude ← glslCall .fAbs float [x]
        glslCall .log2 float [magnitude]
    writeDestination dst value 1

/-- Lowers an operation with two sources. -/
def binary (op : BinaryOp) (dst : Destination) (a b : Source) : LowerM Unit := do
  match op with
  | .pow =>
    let x ← source a 1
    let y ← source b 1
    let float ← floatType 1
    let magnitude ← glslCall .fAbs float [x]
    let value ← glslCall .pow float [magnitude, y]
    writeDestination dst value 1
  | .dp3 | .dp4 =>
    let width := if op = .dp3 then 3 else 4
    let x ← source a width
    let y ← source b width
    let float ← floatType 1
    let value ← compute Op.dot float [x, y]
    writeDestination dst value 1
  | .add | .sub | .mul | .min | .max | .slt | .sge =>
    let x ← source a 4
    let y ← source b 4
    let vec4 ← floatType 4
    let value ← match op with
      | .add => compute Op.fAdd vec4 [x, y]
      | .sub => compute Op.fSub vec4 [x, y]
      | .mul => compute Op.fMul vec4 [x, y]
      | .min => glslCall .fMin vec4 [x, y]
      | .max => glslCall .fMax vec4 [x, y]
      | .slt => compareSelect Op.fOrdLessThan x y
      | _ => compareSelect Op.fOrdGreaterThanEqual x y
    writeDestination dst value 4

/-- Lowers an operation with three sources. -/
def ternary (op : TernaryOp) (dst : Destination) (a b c : Source) : LowerM Unit := do
  let x ← source a 4
  let y ← source b 4
  let z ← source c 4
  let vec4 ← floatType 4
  let value ← match op with
    | .mad => do
      let product ← compute Op.fMul vec4 [x, y]
      compute Op.fAdd vec4 [product, z]
    | .lrp => glslCall .fMix vec4 [z, y, x]
  writeDestination dst value 4

end Lowering

end ShaderBridge
