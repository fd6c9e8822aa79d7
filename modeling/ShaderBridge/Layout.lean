import ShaderBridge.Bytecode.Usage
import ShaderBridge.Bytecode.Version

/-!
Pipeline layout facts: the vertex format each input usage reads, the location each varying usage
occupies (shared by vertex outputs and pixel inputs), and the descriptors a shader binds.
-/

namespace ShaderBridge

/-- Vertex buffer formats of vertex input attributes. -/
inductive VertexFormat where
  | float32
  | float32x2
  | float32x3
  | float32x4
  /-- Four packed bytes, unpacked into normalized floats by the shader. -/
  | uint8x4
  deriving DecidableEq, Repr, Inhabited

namespace VertexFormat

/-- The format's size in bytes. -/
def size : VertexFormat → Nat
  | .float32 => 4
  | .float32x2 => 8
  | .float32x3 => 12
  | .float32x4 => 16
  | .uint8x4 => 4

/-- The format's name as listings print it. -/
def name : VertexFormat → String
  | .float32 => "Float32"
  | .float32x2 => "Float32x2"
  | .float32x3 => "Float32x3"
  | .float32x4 => "Float32x4"
  | .uint8x4 => "Uint8x4"

end VertexFormat

namespace Usage

/-- The vertex buffer format of an input declared with this usage. Colours are packed bytes when
`packedColors` is set and four floats otherwise; unknown usages have no format. -/
def vertexFormat (u : Usage) (packedColors : Bool) : Option VertexFormat :=
  match u with
  | .position | .normal | .tangent | .binormal => some .float32x3
  | .positionT | .blendWeight | .blendIndices | .sample => some .float32x4
  | .texCoord => some .float32x2
  | .color => some (if packedColors then .uint8x4 else .float32x4)
  | .pointSize | .fog | .depth | .tessFactor => some .float32
  | .unknown _ => none

/-- The interface location of a varying with this usage and usage index, if it has one. -/
def varyingLocation (u : Usage) (index : Nat) : Option Nat :=
  match u with
  | .color => if index ≤ 3 then some index else none
  | .texCoord => if index ≤ 7 then some (4 + index) else none
  | .fog => if index = 0 then some 12 else none
  | .normal => if index = 0 then some 13 else none
  | .tangent => if index = 0 then some 14 else none
  | .binormal => if index = 0 then some 15 else none
  | _ => none

end Usage

/-- One vertex buffer attribute that a vertex shader input reads. -/
structure VertexAttribute where
  binding : Nat
  /-- The `v#` register index. -/
  location : Nat
  format : VertexFormat
  /-- Byte offset within the vertex: the sizes of the attributes declared before it. -/
  offset : Nat
  deriving DecidableEq, Repr, Inhabited

/-- What a descriptor binds. -/
inductive DescriptorKind where
  /-- The block of float constants `c#`. -/
  | uniformBuffer
  | sampledTexture (type : TextureType)
  | sampler
  deriving DecidableEq, Repr, Inhabited

/-- The kind's name as listings print it. -/
def DescriptorKind.name : DescriptorKind → String
  | .uniformBuffer => "UniformBuffer"
  | .sampledTexture t => "SampledTexture(" ++ t.name ++ ")"
  | .sampler => "Sampler"

/-- The stage mask of a shader stage: 1 for vertex, 2 for fragment shaders. -/
def Stage.mask : Stage → Nat
  | .vertex => 1
  | .pixel => 2

/-- A descriptor a shader binds. -/
structure DescriptorBinding where
  set : Nat
  binding : Nat
  kind : DescriptorKind
  /-- The stage mask of the shaders that see it. -/
  stages : Nat
  count : Nat
  deriving DecidableEq, Repr, Inhabited

end ShaderBridge
