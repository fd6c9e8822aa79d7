import ShaderBridge.Bytecode.Token

/-!
Declaration tokens. A `dcl` instruction carries, before its destination, a token that gives the
register's semantic: a usage (bits 0 to 4) with a usage index (bits 16 to 19) for inputs and
outputs, or a texture type (bits 27 to 30) for samplers.
-/

namespace ShaderBridge

/-- The semantic a declaration gives an input or output register. -/
inductive Usage where
  | position
  | blendWeight
  | blendIndices
  | normal
  | pointSize
  | texCoord
  | tangent
  | binormal
  | tessFactor
  | positionT
  | color
  | fog
  | depth
  | sample
  | unknown (code : Nat)
  deriving DecidableEq, Repr, Inhabited

namespace Usage

/-- The usage a five-bit code selects. -/
def ofCode : Nat → Usage
  | 0 => .position
  | 1 => .blendWeight
  | 2 => .blendIndices
  | 3 => .normal
  | 4 => .pointSize
  | 5 => .texCoord
  | 6 => .tangent
  | 7 => .binormal
  | 8 => .tessFactor
  | 9 => .positionT
  | 10 => .color
  | 11 => .fog
  | 12 => .depth
  | 13 => .sample
  | code => .unknown code

/-- The usage's name as messages print it. -/
def name : Usage → String
  | .position => "Position"
  | .blendWeight => "BlendWeight"
  | .blendIndices => "BlendIndices"
  | .normal => "Normal"
  | .pointSize => "PointSize"
  | .texCoord => "TexCoord"
  | .tangent => "Tangent"
  | .binormal => "Binormal"
  | .tessFactor => "TessFactor"
  | .positionT => "PositionT"
  | .color => "Color"
  | .fog => "Fog"
  | .depth => "Depth"
  | .sample => "Sample"
  | .unknown code => s!"Unknown({code})"

end Usage

/-- The kind of texture a sampler declaration binds. -/
inductive TextureType where
  | texture1D
  | texture2D
  | textureCube
  | texture3D
  | unknown (code : Nat)
  deriving DecidableEq, Repr, Inhabited

namespace TextureType

/-- The texture type a four-bit code selects. -/
def ofCode : Nat → TextureType
  | 1 => .texture1D
  | 2 => .texture2D
  | 3 => .textureCube
  | 4 => .texture3D
  | code => .unknown code

/-- The type's name as listings print it. -/
def name : TextureType → String
  | .texture1D => "Texture1D"
  | .texture2D => "Texture2D"
  | .textureCube => "TextureCube"
  | .texture3D => "Texture3D"
  | .unknown code => s!"Unknown({code})"

/-- Coordinate components needed to sample a texture of this type; an unknown type samples like
a 2D texture. -/
def coordinateCount : TextureType → Nat
  | .texture1D => 1
  | .texture2D | .unknown _ => 2
  | .textureCube | .texture3D => 3

end TextureType

/-- What a declaration token says about the register declared after it. -/
structure Declaration where
  usage : Usage
  usageIndex : Nat
  textureType : TextureType
  deriving DecidableEq, Repr, Inhabited

namespace Token

/-- The usage field of a declaration token (bits 0 to 4). -/
def usage (t : Token) : Usage := Usage.ofCode (t.field 0 5)

/-- The usage index of a declaration token (bits 16 to 19). -/
def usageIndex (t : Token) : Nat := t.field 16 4

/-- The texture type of a sampler declaration token (bits 27 to 30). -/
def textureType (t : Token) : TextureType := TextureType.ofCode (t.field 27 4)

/-- The declaration a token carries. -/
def declaration (t : Token) : Declaration := ⟨t.usage, t.usageIndex, t.textureType⟩

end Token

end ShaderBridge
