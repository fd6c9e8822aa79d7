import ShaderBridge.Lowering.State

/-!
Declarations: interface variables of input and output registers, texture and sampler variables,
and immediate constant definitions. A register declared a second time keeps its first
declaration.
-/

namespace ShaderBridge

open Spirv

/-- The image dimensionality of a texture type; an unknown type samples like a 2D texture. -/
def TextureType.dim : TextureType → Dim
  | .texture1D => .dim1D
  | .textureCube => .cube
  | .texture3D => .dim3D
  | .texture2D | .unknown _ => .dim2D

/-- How an interface variable meets the other pipeline stage. -/
inductive InterfaceSlot where
  | location (n : Nat)
  | builtIn (b : BuiltIn)
  deriving DecidableEq, Repr, Inhabited

/-- The storage class of the variable behind a register of `file`. -/
def RegisterFile.storageClass (file : RegisterFile) : StorageClass :=
  match file with
  | .input | .texture => StorageClass.input
  | .const => StorageClass.uniform
  | .sampler => StorageClass.uniformConstant
  | f => if f.isOutput then StorageClass.output else StorageClass.function

namespace Lowering

/-- A debug name instruction. -/
def nameOf (id : Nat) (name : String) : Spirv.Instruction :=
  { op := Op.name, operands := id :: stringWords name }

/-- A decoration instruction. -/
def decoration (id : Nat) (d : Decoration) (operands : List Nat) : Spirv.Instruction :=
  { op := Op.decorate, operands := id :: d.code :: operands }

/-- Creates the interface variable of `reg`, of type `ty`, placed by `slot`. -/
def interfaceVariable (reg : Register) (ty : TypeDesc) (slot : InterfaceSlot) : LowerM Nat := do
  let sc := reg.file.storageClass
  let pointer ← build (Builder.pointerTypeId ty sc)
  let id ← alloc
  build (Builder.declare
    { op := Op.var, resultType := some pointer, result := some id, operands := [sc.code] })
  build (Builder.annotate (match slot with
    | .location n => decoration id .location [n]
    | .builtIn b => decoration id .builtIn [b.code]))
  build (Builder.addName (nameOf id reg.display))
  modify fun s => { s with interface := s.interface.push id }
  pure id

/-- Declares a vertex input `v#`: an attribute of the vertex buffer at the next free offset,
read through an input variable at location `#`. Packed colours are unsigned integer vectors,
every other input four floats. -/
def declareVertexInput (reg : Register) (usage : Usage) : LowerM Unit := do
  let s ← get
  if (s.inputs.lookup reg).isSome then return
  if maxVertexInputs ≤ s.vertexInputs.size then fail (.tooManyVertexInputs maxVertexInputs)
  let some format := usage.vertexFormat s.options.packedColors
    | fail (.unsupportedUsage reg usage)
  let ty := if s.options.packedColors ∧ usage = .color then TypeDesc.uintVector 4 else TypeDesc.vec4
  let id ← interfaceVariable reg ty (.location reg.index)
  modify fun s => { s with
    inputs := (reg, ⟨id, ty, none, some usage⟩) :: s.inputs
    vertexInputs := s.vertexInputs.push ⟨0, reg.index, format, s.stride⟩
    stride := s.stride + format.size }

/-- Declares a pixel input at the varying location of its usage. -/
def declarePixelInput (reg : Register) (usage : Usage) (index : Nat) : LowerM Unit := do
  let s ← get
  if (s.inputs.lookup reg).isSome then return
  let some location := usage.varyingLocation index | fail (.unsupportedUsage reg usage)
  let id ← interfaceVariable reg TypeDesc.vec4 (.location location)
  modify fun s => { s with inputs := (reg, ⟨id, TypeDesc.vec4, none, some usage⟩) :: s.inputs }

/-- Creates the variable of an output register. -/
def createOutput (reg : Register) (ty : TypeDesc) (slot : InterfaceSlot) (usage : Option Usage) :
    LowerM Unit := do
  let id ← interfaceVariable reg ty slot
  let builtIn := match slot with
    | .builtIn b => some b
    | .location _ => none
  modify fun s => { s with outputs := (reg, ⟨id, ty, builtIn, usage⟩) :: s.outputs }

/-- Declares a model 3 vertex output `o#`: position and point size (usage index 0) are
built-ins, other usages take their varying location. Point size is a float scalar. -/
def declareOutput (reg : Register) (usage : Usage) (index : Nat) : LowerM Unit := do
  let s ← get
  if (s.outputs.lookup reg).isSome then return
  let slot ← match usage, index with
    | .position, 0 => pure (.builtIn .position)
    | .pointSize, 0 => pure (.builtIn .pointSize)
    | _, _ => match usage.varyingLocation index with
      | some location => pure (.location location)
      | none => fail (.unsupportedUsage reg usage)
  let ty := if usage = .pointSize then TypeDesc.float else TypeDesc.vec4
  createOutput reg ty slot (some usage)

/-- Creates, at its first write, the variable of an output register of shader models 1 and 2, at
the location or built-in its file and index imply. -/
def ensureOutput (reg : Register) : LowerM Unit := do
  let s ← get
  if (s.outputs.lookup reg).isSome then return
  let slot ← match reg.file, reg.index with
    | .rastOut, 0 => pure (.builtIn .position)
    | .rastOut, 1 => pure (.location ((Usage.fog.varyingLocation 0).getD 0))
    | .rastOut, 2 => pure (.builtIn .pointSize)
    | .attrOut, i | .colorOut, i => pure (.location i)
    | .texCoordOut, i => match Usage.texCoord.varyingLocation i with
      | some location => pure (.location location)
      | none => fail (.unsupportedRegister reg .texCoordOutput)
    | .depthOut, _ => do
      modify fun s => { s with writesDepth := true }
      pure (.builtIn .fragDepth)
    | .output, _ => fail (.undeclaredRegister reg)
    | _, _ => fail (.unsupportedRegister reg .output)
  let scalar := (reg.file = .rastOut ∧ (reg.index = 1 ∨ reg.index = 2)) ∨ reg.file = .depthOut
  createOutput reg (if scalar then TypeDesc.float else TypeDesc.vec4) slot none

/-- Declares sampler `s#`: a texture variable and a sampler variable, bound where the registry
says, and their two descriptors. -/
def declareSampler (index : Nat) (type : TextureType) : LowerM Unit := do
  let reg : Register := ⟨.sampler, index⟩
  if let .unknown _ := type then fail (.unsupportedRegister reg .samplerTextureType)
  let s ← get
  if (s.samplers.lookup index).isSome then return
  let slot := s.registry.sampler s.version.stage index
  let imagePointer ← build (Builder.pointerTypeId (TypeDesc.image type.dim)
    StorageClass.uniformConstant)
  let samplerPointer ← build (Builder.pointerTypeId TypeDesc.sampler StorageClass.uniformConstant)
  let image ← alloc
  let sampler ← alloc
  for (id, pointer, binding, name) in
      [(image, imagePointer, slot.textureBinding, reg.display ++ "_texture"),
       (sampler, samplerPointer, slot.samplerBinding, reg.display ++ "_sampler")] do
    build (Builder.declare { op := Op.var, resultType := some pointer, result := some id,
                             operands := [StorageClass.uniformConstant.code] })
    build (Builder.annotate (decoration id .descriptorSet [slot.set]))
    build (Builder.annotate (decoration id .binding [binding]))
    build (Builder.addName (nameOf id name))
  let stages ← stageMask
  modify fun s => { s with
    descriptors := (s.descriptors.push ⟨slot.set, slot.textureBinding, .sampledTexture type,
      stages, 1⟩).push ⟨slot.set, slot.samplerBinding, .sampler, stages, 1⟩
    samplers := (index, ⟨image, sampler, type⟩) :: s.samplers }

/-- Lowers `dcl`: samplers in any stage, vertex inputs and model 3 outputs of vertex shaders,
and pixel inputs. Pixel inputs before model 3 carry no usage: `v#` are colours and `t#` texture
coordinates of index `#`. -/
def declare (decl : Declaration) (dst : Destination) : LowerM Unit := do
  let s ← get
  let reg := dst.reg
  match reg.file, s.version.stage with
  | .sampler, _ => declareSampler reg.index decl.textureType
  | .input, .vertex => declareVertexInput reg decl.usage
  | .output, .vertex => declareOutput reg decl.usage decl.usageIndex
  | .input, .pixel =>
    if 3 ≤ s.version.major then declarePixelInput reg decl.usage decl.usageIndex
    else declarePixelInput reg .color reg.index
  | .texture, .pixel => declarePixelInput reg .texCoord reg.index
  | _, _ => fail (.unsupportedRegister reg .declaration)

/-- Checks that an immediate definition names a register of the expected file within the
stage's register count for it. -/
def checkDefinition (reg : Register) (expected : RegisterFile) (file : ConstantFile) :
    LowerM Unit := do
  if reg.file ≠ expected then fail (.unsupportedRegister reg .constantDefinition)
  let s ← get
  let count := (s.registry.slot s.version.stage file).registerCount
  if count ≤ reg.index then fail (.registerIndexTooLarge reg.index count)

/-- Binds a defined constant register; a later definition of the register replaces the
earlier one. -/
def bindDefined (reg : Register) (id : Nat) : LowerM Unit := do
  modify fun s => if s.defined.contains reg then s else { s with defined := reg :: s.defined }
  bindValue reg id

/-- Lowers `def`: the register becomes the vector constant of the four bit patterns. -/
def define (dst : Destination) (values : List UInt32) : LowerM Unit := do
  checkDefinition dst.reg .const .float
  let id ← build (Builder.vec4Constant (values.map UInt32.toNat))
  bindDefined dst.reg id

/-- Lowers `defi`: the register becomes the integer vector constant of the four values. -/
def defineInt (dst : Destination) (values : List UInt32) : LowerM Unit := do
  let parts ← values.mapM fun v => int32 v.toNat
  checkDefinition dst.reg .constInt .int
  let id ← build (Builder.composite TypeDesc.ivec4 parts)
  bindDefined dst.reg id

/-- Lowers `defb`: the register becomes the boolean constant that the token is not zero. -/
def defineBool (dst : Destination) (value : UInt32) : LowerM Unit := do
  checkDefinition dst.reg .constBool .bool
  let id ← build (Builder.boolean (value != 0))
  bindDefined dst.reg id

end Lowering

end ShaderBridge
