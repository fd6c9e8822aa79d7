import ShaderBridge.Spirv.Module

/-!
Descriptions of SPIR-V types and the keys that identify them: two descriptions declare one type
iff they have one key.
-/

namespace ShaderBridge.Spirv

/-- The kinds of type a description can declare, read off its primary opcode. -/
inductive TypeKind where
  | void
  | bool
  | int
  | float
  | vector
  | matrix
  | image
  | sampler
  | sampledImage
  | array
  | struct
  | function
  | pointer
  /-- Any other opcode: declared as a fresh `OpTypeVoid` and never shared. -/
  | other
  deriving DecidableEq, Repr, Inhabited

/-- The kind of type an opcode declares. -/
def TypeKind.ofOp (op : Op) : TypeKind :=
  match op.code with
  | 19 => .void
  | 20 => .bool
  | 21 => .int
  | 22 => .float
  | 23 => .vector
  | 24 => .matrix
  | 25 => .image
  | 26 => .sampler
  | 27 => .sampledImage
  | 28 => .array
  | 30 => .struct
  | 33 => .function
  | 32 => .pointer
  | _ => .other

/-- A structural description of a SPIR-V type. -/
structure TypeDesc where
  primary : Op := Op.typeVoid
  secondary : Op := Op.nop
  storageClass : StorageClass := StorageClass.function
  componentCount : Nat := 0
  arguments : List Nat := []
  deriving DecidableEq, Repr, Inhabited

/-- What identifies a type in the table. -/
inductive TypeKey where
  | void
  | bool
  | float
  | sampler
  | int (signedness : Nat)
  | aggregate (primary component count signedness : Nat)
  | composite (primary : Nat) (arguments : List Nat)
  | pointer (storageClass pointee : Nat)
  deriving DecidableEq, Repr, Inhabited

namespace TypeDesc

def void : TypeDesc := {}

def bool : TypeDesc := { primary := Op.typeBool }

def float : TypeDesc := { primary := Op.typeFloat }

/-- A 32-bit integer type. -/
def int (signed : Bool) : TypeDesc :=
  { primary := Op.typeInt, arguments := [if signed then 1 else 0] }

/-- A vector of `count` components of kind `component` (`OpTypeFloat`, `OpTypeInt` for signed
integers, or `OpTypeBool`). -/
def vector (component : Op) (count : Nat) : TypeDesc :=
  { primary := Op.typeVector, secondary := component, componentCount := count }

/-- A vector of unsigned integers. -/
def uintVector (count : Nat) : TypeDesc :=
  { vector Op.typeInt count with arguments := [0] }

def vec4 : TypeDesc := vector Op.typeFloat 4

def ivec4 : TypeDesc := vector Op.typeInt 4

/-- A float scalar for a count of 1, a float vector of `count` components otherwise. -/
def floatN (count : Nat) : TypeDesc :=
  if count = 1 then float else vector Op.typeFloat count

/-- A sampled float image of dimensionality `dim`. -/
def image (dim : Dim) : TypeDesc :=
  { primary := Op.typeImage, secondary := Op.typeFloat, arguments := [dim.code] }

def sampler : TypeDesc := { primary := Op.typeSampler }

/-- An image of dimensionality `dim` combined with a sampler. -/
def sampledImage (dim : Dim) : TypeDesc :=
  { image dim with primary := Op.typeSampledImage }

/-- An array of the type with id `element`, of the length held by the constant with id
`length`. -/
def array (element length : Nat) : TypeDesc :=
  { primary := Op.typeArray, arguments := [element, length] }

/-- A struct with members of the given type ids. -/
def struct (members : List Nat) : TypeDesc :=
  { primary := Op.typeStruct, arguments := members }

/-- A function type with return type `result` and parameter types `parameters`. -/
def function (result : Nat) (parameters : List Nat) : TypeDesc :=
  { primary := Op.typeFunction, arguments := result :: parameters }

/-- A pointer into storage class `storageClass` to the type with id `pointee`. -/
def pointer (pointee : Nat) (storageClass : StorageClass) : TypeDesc :=
  { primary := Op.typePointer, storageClass := storageClass, arguments := [pointee] }

/-- The kind of type the description declares. -/
def kind (d : TypeDesc) : TypeKind := TypeKind.ofOp d.primary

/-- The signedness of an integer description: its first argument, signed (1) if it has none. -/
def signedness (d : TypeDesc) : Nat := d.arguments.headD 1

/-- Whether the description is the float scalar. -/
def isScalarFloat (d : TypeDesc) : Bool := d.primary = Op.typeFloat

/-- The image dimensionality of an image description: its first argument, 2D if that names no
other. -/
def dim (d : TypeDesc) : Dim := Dim.ofCode (d.arguments.headD 1)

/-- The component type of a vector: a signed or unsigned integer, a boolean, or else a float. -/
def componentDesc (d : TypeDesc) : TypeDesc :=
  if d.secondary = Op.typeInt then int (d.signedness ≠ 0)
  else if d.secondary = Op.typeBool then bool
  else float

/-- The key of a description; descriptions of unknown kinds have none. -/
def key? (d : TypeDesc) : Option TypeKey :=
  match d.kind with
  | .void => some .void
  | .bool => some .bool
  | .float => some .float
  | .sampler => some .sampler
  | .int => some (.int d.signedness)
  | .vector | .matrix =>
    some (.aggregate d.primary.code d.secondary.code d.componentCount
      (if d.secondary = Op.typeInt then d.signedness else 0))
  | .image | .sampledImage | .array | .struct | .function =>
    some (.composite d.primary.code d.arguments)
  | .pointer => some (.pointer d.storageClass.code (d.arguments.headD 0))
  | .other => none

/-- How many layers of other types declaring this one may first declare: a vector its
component, an image its sampled float, a matrix its column vector, a sampled image its image. -/
def depth (d : TypeDesc) : Nat :=
  match d.kind with
  | .matrix | .sampledImage => 2
  | .vector | .image => 1
  | _ => 0

theorem depth_componentDesc (d : TypeDesc) : d.componentDesc.depth = 0 := by
  unfold componentDesc
  split
  · rfl
  · split <;> rfl

theorem depth_float : float.depth = 0 := rfl

theorem depth_vector (c : Op) (n : Nat) : (vector c n).depth = 1 := rfl

theorem depth_image (dim : Dim) : (image dim).depth = 1 := rfl

end TypeDesc

/-- The ids of the types declared so far, by key. -/
structure TypeTable where
  entries : List (TypeKey × Nat) := []
  deriving Repr, Inhabited

namespace TypeTable

/-- The id of the type with key `k`, if declared. -/
def find? (t : TypeTable) (k : TypeKey) : Option Nat := t.entries.lookup k

/-- Records that the type with key `k` has id `id`. -/
def insert (t : TypeTable) (k : TypeKey) (id : Nat) : TypeTable := ⟨(k, id) :: t.entries⟩

/-- Inserting changes the id of exactly one key. -/
theorem find?_insert (t : TypeTable) (k k' : TypeKey) (id : Nat) :
    (t.insert k id).find? k' = if k' = k then some id else t.find? k' := by
  by_cases h : k' = k
  · subst h
    simp [insert, find?]
  · have hne : (k' == k) = false := beq_false_of_ne h
    simp [insert, find?, List.lookup_cons, hne, h]

end TypeTable

end ShaderBridge.Spirv
