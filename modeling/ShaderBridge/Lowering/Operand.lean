import ShaderBridge.Lowering.Declare

/-!
Reading and writing registers. An unwritten register reads as zero, an input register's variable
or a float constant block element; a write applies shift, saturation and write mask.
-/

namespace ShaderBridge

open Spirv

namespace Lowering

/-- IEEE single-precision bits of 1.0. -/
def oneBits : Nat := 0x3F800000

/-- IEEE single-precision bits of 1/255, rounded to nearest. -/
def inverse255Bits : Nat := 0x3B808081

/-- Packed colour bytes (BGRA, as unsigned integers) to normalized RGBA floats. -/
def unpackColor (packed : Nat) : LowerM Nat := do
  let vec4 ← floatType 4
  let floats ← compute Op.convertUToF vec4 [packed]
  let scale ← float32 inverse255Bits
  let normalized ← compute Op.vectorTimesScalar vec4 [floats, scale]
  shuffle vec4 normalized normalized [2, 1, 0, 3]

/-- Loads an input register from its variable, unpacking a packed colour. -/
def loadInput (reg : Register) : LowerM Nat := do
  let some var := (← get).inputs.lookup reg | fail (.undeclaredRegister reg)
  let ty ← typeId var.type
  let loaded ← compute Op.load ty [var.id]
  if var.type = TypeDesc.uintVector 4 ∧ var.usage = some .color then unpackColor loaded
  else pure loaded

/-- Where the stage's float constants live. -/
def floatSlot : LowerM ConstantSlot := fun s =>
  .ok (s.registry.slot s.version.stage .float, s)

/-- The stage's float constant slot, after checking that `reg` lies within it. -/
def checkFloatConstant (reg : Register) : LowerM ConstantSlot := do
  let slot ← floatSlot
  if slot.registerCount ≤ reg.index then fail (.registerIndexTooLarge reg.index slot.registerCount)
  pure slot

/-- The variable of the float constant block, declared with its decorations, names and
descriptor at first use. -/
def constantBlock : LowerM Nat := do
  if let some id := (← get).floatBlock then return id
  let slot ← floatSlot
  let vec4 ← typeId TypeDesc.vec4
  let length ← build (Builder.uint32 slot.blockRegisters)
  let array ← typeId (TypeDesc.array vec4 length)
  let blockDesc := TypeDesc.struct [array]
  let block ← typeId blockDesc
  let pointer ← build (Builder.pointerTypeId blockDesc StorageClass.uniform)
  let var ← alloc
  build (Builder.declare { op := Op.var, resultType := some pointer, result := some var,
                           operands := [StorageClass.uniform.code] })
  build (Builder.annotate (decoration array .arrayStride [16]))
  build (Builder.annotate (decoration block .block []))
  build (Builder.annotate
    { op := Op.memberDecorate, operands := [block, 0, Decoration.offset.code, 0] })
  build (Builder.annotate (decoration var .descriptorSet [slot.set]))
  build (Builder.annotate (decoration var .binding [slot.binding]))
  build (Builder.addName (nameOf block "D3D9FloatConstants"))
  build (Builder.addName { op := Op.memberName, operands := block :: 0 :: stringWords "c" })
  build (Builder.addName (nameOf var "c"))
  let stages ← stageMask
  modify fun s => { s with
    descriptors := s.descriptors.push ⟨slot.set, slot.binding, .uniformBuffer, stages, 1⟩
    floatBlock := some var }
  pure var

/-- Loads the constant block element whose index is the integer value `index`. -/
def blockElement (index : Nat) : LowerM Nat := do
  let block ← constantBlock
  let pointer ← build (Builder.pointerTypeId TypeDesc.vec4 StorageClass.uniform)
  let member ← int32 0
  let element ← compute Op.accessChain pointer [block, member, index]
  let ty ← typeId TypeDesc.vec4
  compute Op.load ty [element]

/-- Loads a float constant register from the constant block. -/
def loadConstant (reg : Register) : LowerM Nat := do
  let slot ← checkFloatConstant reg
  -- the element is a 32-bit word, so the sum wraps
  let element ← int32 ((slot.base + reg.index) % UInt32.size)
  blockElement element

/-- The current value of a register, created at its first read. -/
def read (reg : Register) : LowerM Nat := do
  match ← valueOf? reg with
  | some id => pure id
  | none =>
    let id ← match reg.file with
      | .temp => build (Builder.null TypeDesc.vec4)
      | .input | .texture => loadInput reg
      | .const => loadConstant reg
      | .addr | .constInt | .constBool => fail (.undeclaredRegister reg)
      | file =>
        if file.isOutput then build (Builder.null TypeDesc.vec4)
        else fail (.unsupportedRegister reg .registerRead)
    bindValue reg id
    pure id

/-- Where the run-time register `index` is the index of the constant register `reg` and `reg`
has a value, that value replaces `value`. The types are a bool, a four-bool vector and a
four-float vector. -/
def selectDefined (index boolType bvec4 vec4 value : Nat) (reg : Register) : LowerM Nat := do
  let some definedValue ← valueOf? reg | pure value
  let target ← int32 reg.index
  let hit ← compute Op.iEqual boolType [index, target]
  let condition ← compute Op.compositeConstruct bvec4 [hit, hit, hit, hit]
  compute Op.select vec4 [condition, definedValue, value]

/-- The value of a source register, indexed by its address register when it is addressed
relatively. -/
def addressed (src : Source) : LowerM Nat := do
  let some relative := src.relative | read src.reg
  if src.reg.file ≠ .const then fail (.unsupportedRegister src.reg .relativeAddressing)
  if relative.reg.file ≠ .addr then
    fail (.unsupportedRegister relative.reg .relativeAddressRegister)
  let slot ← checkFloatConstant src.reg
  let some address ← valueOf? relative.reg | fail (.undeclaredRegister relative.reg)
  let int ← build (Builder.scalarType Op.typeInt)
  let offset ← extract int address relative.component.val
  let register ← int32 src.reg.index
  let unclamped ← compute Op.iAdd int [offset, register]
  let low ← int32 0
  let high ← int32 (slot.registerCount - 1)
  let index ← glslCall .sClamp int [unclamped, low, high]
  let base ← int32 slot.base
  let element ← compute Op.iAdd int [base, index]
  let value ← blockElement element
  let defined := Register.sort ((← get).defined.filter (·.file == .const))
  if defined.isEmpty then return value
  let boolType ← typeId TypeDesc.bool
  let bvec4 ← typeId (TypeDesc.vector Op.typeBool 4)
  let vec4 ← floatType 4
  defined.foldlM (selectDefined index boolType bvec4 vec4) value

/-- The value of a source operand, swizzled and narrowed to `width` components, with its
modifier applied. A scalar read takes the replicated component: `w` in shader model 1, the
first swizzle component otherwise. -/
def source (src : Source) (width : Nat) : LowerM Nat := do
  let file := src.reg.file
  unless file = .temp ∨ file = .input ∨ file = .texture ∨ file = .const ∨ file.isOutput do
    fail (.unsupportedRegister src.reg .arithmeticSource)
  let base ← addressed src
  let s ← get
  let value ← if width = 4 ∧ src.swizzle = Swizzle.identity then pure base
    else if width = 1 then do
      let component := if s.version.isModel1 then src.swizzle.w.val else src.swizzle.x.val
      let float ← floatType 1
      extract float base component
    else do
      let ty ← floatType width
      shuffle ty base base (src.swizzle.toList.take width)
  let ty ← floatType width
  match src.modifier with
  | .none => pure value
  | .negate => compute Op.fNegate ty [value]
  | .abs => glslCall .fAbs ty [value]
  | .absNegate => do
    let magnitude ← glslCall .fAbs ty [value]
    compute Op.fNegate ty [magnitude]
  | modifier => fail (.unsupportedSourceModifier src.reg modifier)

/-- Merges `value` into the previous value of `reg` outside the components of `mask`; both
have the type `ty`. An address register without a value merges into zero. -/
def mergeMask (reg : Register) (mask : WriteMask) (value : Nat) (ty : TypeDesc) : LowerM Nat := do
  if mask = WriteMask.all then return value
  let previous ← match ← valueOf? reg with
    | some id => pure id
    | none => if reg.file = .addr then build (Builder.null ty) else read reg
  let components := (List.range 4).map fun i => if mask.writes i then 4 + i else i
  let tyId ← typeId ty
  shuffle tyId previous value components

/-- Writes a result to a temporary or output register. `value` is a four-float vector, or for
`width` 1 a float that is replicated. -/
def writeDestination (dst : Destination) (value width : Nat) : LowerM Unit := do
  let file := dst.reg.file
  if file ≠ .temp ∧ !file.isOutput then fail (.unsupportedRegister dst.reg .destination)
  if file.isOutput then ensureOutput dst.reg
  let vec4 ← floatType 4
  let value ← if width = 1 then splat value else pure value
  let value ← match dst.modifier.shift with
    | .unknown code => fail (.unsupportedResultShift code)
    | shift => match shift.factorBits with
      | none => pure value
      | some bits => do
        let scale ← float32 bits
        compute Op.vectorTimesScalar vec4 [value, scale]
  let value ← if dst.modifier.saturate then do
      let zeros ← build (Builder.vec4Constant [0, 0, 0, 0])
      let ones ← build (Builder.vec4Constant [oneBits, oneBits, oneBits, oneBits])
      glslCall .fClamp vec4 [value, zeros, ones]
    else pure value
  let value ← mergeMask dst.reg dst.mask value TypeDesc.vec4
  bindValue dst.reg value

/-- Writes a float vector to the address register, rounded to nearest (`mova`) or down (`mov`),
as signed integers. Result modifiers do not apply. -/
def writeAddress (dst : Destination) (value : Nat) (round : Bool) : LowerM Unit := do
  let vec4 ← floatType 4
  let rounded ← glslCall (if round then .round else .floor) vec4 [value]
  let ivec4 ← typeId TypeDesc.ivec4
  let converted ← compute Op.convertFToS ivec4 [rounded]
  let merged ← mergeMask dst.reg dst.mask converted TypeDesc.ivec4
  bindValue dst.reg merged

end Lowering

end ShaderBridge
