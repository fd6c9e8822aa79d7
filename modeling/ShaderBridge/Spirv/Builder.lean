import ShaderBridge.Spirv.Types

/-!
Building a module together with its type table and constant pool. Types and constants are
interned: asking again for one returns the id it was declared with.
-/

namespace ShaderBridge.Spirv

/-- The constants declared so far, by identity. -/
structure ConstantPool where
  scalars : List ((Nat × Nat) × Nat) := []
  composites : List ((Nat × List Nat) × Nat) := []
  nulls : List (Nat × Nat) := []
  deriving Repr, Inhabited

/-- A module with its type table and constant pool. -/
structure Builder where
  module : Module := {}
  types : TypeTable := {}
  constants : ConstantPool := {}
  deriving Repr, Inhabited

/-- A step of module building. -/
abbrev BuildM := StateM Builder

namespace Builder

/-- Hands out a fresh id. -/
def alloc : BuildM Nat := modifyGet fun b =>
  (b.module.nextId, { b with module := { b.module with nextId := b.module.nextId + 1 } })

/-- Declares a capability, unless it is declared already. -/
def requireCapability (c : Capability) : BuildM Unit := modify fun b =>
  { b with module := b.module.requireCapability c }

/-- Appends an extended instruction set import. -/
def addImport (i : Instruction) : BuildM Unit := modify fun b =>
  { b with module := { b.module with imports := b.module.imports.push i } }

/-- Appends to the memory model section. -/
def addMemoryModel (i : Instruction) : BuildM Unit := modify fun b =>
  { b with module := { b.module with memoryModel := b.module.memoryModel.push i } }

/-- Appends an entry point. -/
def addEntryPoint (i : Instruction) : BuildM Unit := modify fun b =>
  { b with module := { b.module with entryPoints := b.module.entryPoints.push i } }

/-- Appends an execution mode. -/
def addExecutionMode (i : Instruction) : BuildM Unit := modify fun b =>
  { b with module := { b.module with executionModes := b.module.executionModes.push i } }

/-- Appends a debug name. -/
def addName (i : Instruction) : BuildM Unit := modify fun b =>
  { b with module := { b.module with names := b.module.names.push i } }

/-- Appends an annotation. -/
def annotate (i : Instruction) : BuildM Unit := modify fun b =>
  { b with module := { b.module with annotations := b.module.annotations.push i } }

/-- Appends a type, constant or global variable declaration. -/
def declare (i : Instruction) : BuildM Unit := modify fun b =>
  { b with module := { b.module with declarations := b.module.declarations.push i } }

/-- Appends an instruction to the function bodies. -/
def emit (i : Instruction) : BuildM Unit := modify fun b =>
  { b with module := { b.module with functions := b.module.functions.push i } }

/-- The declaration of a type that names no other declared type, under id `id`. Kinds the
table does not know are declared as `OpTypeVoid`; missing arguments read as zero. -/
def leafDeclaration (d : TypeDesc) (id : Nat) : Instruction :=
  match d.kind with
  | .bool => { op := Op.typeBool, result := id }
  | .float => { op := Op.typeFloat, result := id, operands := [32] }
  | .int => { op := Op.typeInt, result := id, operands := [32, d.signedness] }
  | .sampler => { op := Op.typeSampler, result := id }
  | .array =>
    { op := Op.typeArray, result := id,
      operands := [d.arguments.headD 0, (d.arguments.drop 1).headD 0] }
  | .struct => { op := Op.typeStruct, result := id, operands := d.arguments }
  | .function =>
    { op := Op.typeFunction, result := id, operands := d.arguments.headD 0 :: d.arguments.drop 1 }
  | .pointer =>
    { op := Op.typePointer, result := id,
      operands := [d.storageClass.code, d.arguments.headD 0] }
  | _ => { op := Op.typeVoid, result := id }

/-- The id of the type `d` describes, declaring it and the types it names on first use. A
vector declares its component type first, a matrix its column vector, an image its sampled
float type (and a 1D image the `Sampled1D` capability), a sampled image its image type. -/
def typeId (d : TypeDesc) : BuildM Nat := do
  match d.key?.bind (← get).types.find? with
  | some id => pure id
  | none =>
    let decl ← match _hkind : d.kind with
      | .vector => do
        let component ← typeId d.componentDesc
        let id ← alloc
        pure { op := Op.typeVector, result := some id, operands := [component, d.componentCount] }
      | .matrix => do
        let column ← typeId (TypeDesc.vector d.secondary d.componentCount)
        let id ← alloc
        pure { op := Op.typeMatrix, result := some id, operands := [column, d.componentCount] }
      | .image => do
        let sampled ← typeId TypeDesc.float
        if d.dim = .dim1D then requireCapability Capability.sampled1D
        let id ← alloc
        pure { op := Op.typeImage, result := some id,
               operands := [sampled, d.dim.code, 0, 0, 0, 1, 0] }
      | .sampledImage => do
        let image ← typeId (TypeDesc.image d.dim)
        let id ← alloc
        pure { op := Op.typeSampledImage, result := some id, operands := [image] }
      | _ => do
        let id ← alloc
        pure (leafDeclaration d id)
    declare decl
    let id := decl.result.getD 0
    match d.key? with
    | some k => modify fun b => { b with types := b.types.insert k id }
    | none => pure ()
    pure id
termination_by d.depth
decreasing_by
  · rw [TypeDesc.depth_componentDesc, TypeDesc.depth, _hkind]; decide
  · rw [TypeDesc.depth_vector, TypeDesc.depth, _hkind]; decide
  · rw [TypeDesc.depth_float, TypeDesc.depth, _hkind]; decide
  · rw [TypeDesc.depth_image, TypeDesc.depth, _hkind]; decide

/-- The id of a pointer into `storageClass` to the type `pointee` describes. -/
def pointerTypeId (pointee : TypeDesc) (storageClass : StorageClass) : BuildM Nat := do
  let p ← typeId pointee
  typeId (TypeDesc.pointer p storageClass)

/-- The id of the float scalar (`count` 1) or float vector type. -/
def floatType (count : Nat) : BuildM Nat := typeId (TypeDesc.floatN count)

/-- The id of the scalar type of kind `kind`: signed integer, boolean, or else float. -/
def scalarType (kind : Op) : BuildM Nat :=
  typeId (if kind = Op.typeInt then TypeDesc.int true
    else if kind = Op.typeBool then TypeDesc.bool else TypeDesc.float)

/-- The id of a scalar constant of type `d` with the 32-bit pattern `bits`. -/
def scalar (d : TypeDesc) (bits : Nat) : BuildM Nat := do
  let ty ← typeId d
  match (← get).constants.scalars.lookup (ty, bits) with
  | some id => pure id
  | none =>
    let id ← alloc
    declare { op := Op.constant, resultType := some ty, result := some id, operands := [bits] }
    modify fun b => { b with constants :=
      { b.constants with scalars := ((ty, bits), id) :: b.constants.scalars } }
    pure id

/-- The id of a float constant with IEEE single-precision bits `bits`. -/
def float32 (bits : Nat) : BuildM Nat := scalar TypeDesc.float bits

/-- The id of a signed integer constant with two's-complement bits `bits`. -/
def int32 (bits : Nat) : BuildM Nat := scalar (TypeDesc.int true) bits

/-- The id of an unsigned integer constant. -/
def uint32 (value : Nat) : BuildM Nat := scalar (TypeDesc.int false) value

/-- The id of a boolean constant. -/
def boolean (value : Bool) : BuildM Nat := do
  let ty ← typeId TypeDesc.bool
  let bits := if value then 1 else 0
  match (← get).constants.scalars.lookup (ty, bits) with
  | some id => pure id
  | none =>
    let id ← alloc
    declare { op := if value then Op.constantTrue else Op.constantFalse,
              resultType := some ty, result := some id }
    modify fun b => { b with constants :=
      { b.constants with scalars := ((ty, bits), id) :: b.constants.scalars } }
    pure id

/-- The id of a composite constant of type `d` with the given constituents. -/
def composite (d : TypeDesc) (parts : List Nat) : BuildM Nat := do
  let ty ← typeId d
  match (← get).constants.composites.lookup (ty, parts) with
  | some id => pure id
  | none =>
    let id ← alloc
    declare { op := Op.constantComposite, resultType := some ty, result := some id,
              operands := parts }
    modify fun b => { b with constants :=
      { b.constants with composites := ((ty, parts), id) :: b.constants.composites } }
    pure id

/-- The id of the four-component float constant with the given component bits. -/
def vec4Constant (bits : List Nat) : BuildM Nat := do
  let parts ← bits.mapM float32
  composite TypeDesc.vec4 parts

/-- The id of the null constant of type `d`. -/
def null (d : TypeDesc) : BuildM Nat := do
  let ty ← typeId d
  match (← get).constants.nulls.lookup ty with
  | some id => pure id
  | none =>
    let id ← alloc
    declare { op := Op.constantNull, resultType := some ty, result := some id }
    modify fun b => { b with constants :=
      { b.constants with nulls := (ty, id) :: b.constants.nulls } }
    pure id

end Builder

end ShaderBridge.Spirv
