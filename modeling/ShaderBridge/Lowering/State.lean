import ShaderBridge.Bytecode.Program
import ShaderBridge.Spirv.Builder
import ShaderBridge.Layout
import ShaderBridge.Slots

/-!
The state of lowering one shader, and the small steps every lowering rule is made of. Each
register holds the id of its current value.
-/

namespace ShaderBridge

/-- Conversion options. -/
structure Options where
  /-- Negate the y component of the position output, which maps D3D clip space onto a viewport
  whose y axis points down. -/
  flipY : Bool := true
  /-- Vertex colour inputs arrive as four packed bytes in BGRA order and are unpacked in the
  shader. -/
  packedColors : Bool := true
  deriving DecidableEq, Repr, Inhabited

/-- The variable behind an input or output register. -/
structure InterfaceVar where
  id : Nat
  type : Spirv.TypeDesc
  builtIn : Option Spirv.BuiltIn
  /-- The usage a declaration gave the register, if it was declared. -/
  usage : Option Usage
  deriving Repr, Inhabited

/-- The texture and sampler variables of a declared sampler register. -/
structure SamplerVars where
  image : Nat
  sampler : Nat
  textureType : TextureType
  deriving Repr, Inhabited

/-- The state of lowering one shader. -/
structure Lowering where
  options : Options
  registry : ConstantRegistry
  version : ShaderVersion
  builder : Spirv.Builder
  /-- The id of the GLSL.std.450 import. -/
  glsl : Nat
  /-- The id of the entry point function. -/
  entryPoint : Nat
  /-- The id of each register's current value. -/
  values : List (Register × Nat) := []
  /-- Constant registers defined by an immediate definition, each once. -/
  defined : List Register := []
  /-- Interface variable ids, in order of creation. -/
  interface : Array Nat := #[]
  inputs : List (Register × InterfaceVar) := []
  outputs : List (Register × InterfaceVar) := []
  /-- The variable of the float constant block, once declared. -/
  floatBlock : Option Nat := none
  samplers : List (Nat × SamplerVars) := []
  vertexInputs : Array VertexAttribute := #[]
  /-- The bytes per vertex of the attributes declared so far. -/
  stride : Nat := 0
  descriptors : Array DescriptorBinding := #[]
  writesDepth : Bool := false

/-- A lowering step: it changes the state, or fails with the reason the shader cannot be
converted. -/
abbrev LowerM := StateT Lowering (Except ConvertError)

namespace Lowering

/-- Runs a module building step on the state's builder. -/
def build (step : Spirv.BuildM α) : LowerM α := fun s =>
  let (a, b) := step s.builder
  .ok (a, { s with builder := b })

/-- Fails with `e`. -/
def fail (e : ConvertError) : LowerM α := fun _ => .error e

/-- The shader's stage. -/
def stage : LowerM Stage := fun s => .ok (s.version.stage, s)

/-- The stage mask of the shader. -/
def stageMask : LowerM Nat := fun s => .ok (s.version.stage.mask, s)

def alloc : LowerM Nat := build Spirv.Builder.alloc

def emit (i : Spirv.Instruction) : LowerM Unit := build (Spirv.Builder.emit i)

def typeId (d : Spirv.TypeDesc) : LowerM Nat := build (Spirv.Builder.typeId d)

/-- The float scalar type for width 1, the float vector type of that width otherwise. -/
def floatType (width : Nat) : LowerM Nat := build (Spirv.Builder.floatType width)

def float32 (bits : Nat) : LowerM Nat := build (Spirv.Builder.float32 bits)

def int32 (bits : Nat) : LowerM Nat := build (Spirv.Builder.int32 bits)

/-- Emits an instruction with a result of type `ty` and returns its id. -/
def compute (op : Spirv.Op) (ty : Nat) (operands : List Nat) : LowerM Nat := do
  let id ← alloc
  emit { op := op, resultType := some ty, result := some id, operands := operands }
  pure id

/-- Calls a GLSL.std.450 instruction. -/
def glslCall (op : Spirv.GlslOp) (ty : Nat) (args : List Nat) : LowerM Nat := do
  let s ← get
  compute Spirv.Op.extInst ty (s.glsl :: op.code :: args)

/-- Component `index` of a composite. -/
def extract (ty composite index : Nat) : LowerM Nat :=
  compute Spirv.Op.compositeExtract ty [composite, index]

/-- The components of `a` and `b` (numbered on after `a`'s) selected by `components`. -/
def shuffle (ty a b : Nat) (components : List Nat) : LowerM Nat :=
  compute Spirv.Op.vectorShuffle ty (a :: b :: components)

/-- A float scalar replicated into a four-component vector. -/
def splat (scalar : Nat) : LowerM Nat := do
  let vec4 ← floatType 4
  compute Spirv.Op.compositeConstruct vec4 [scalar, scalar, scalar, scalar]

/-- The first `width` components of a four-component float vector. -/
def truncate (value width : Nat) : LowerM Nat :=
  if width = 4 then pure value
  else if width = 1 then do
    let float ← floatType 1
    extract float value 0
  else do
    let ty ← floatType width
    shuffle ty value value (List.range width)

/-- The current value of a register, if it has one. -/
def valueOf? (reg : Register) : LowerM (Option Nat) := fun s => .ok (s.values.lookup reg, s)

/-- Binds a register to a new value. -/
def bindValue (reg : Register) (id : Nat) : LowerM Unit := modify fun s =>
  { s with values := (reg, id) :: s.values.filter (·.1 != reg) }

end Lowering

end ShaderBridge
