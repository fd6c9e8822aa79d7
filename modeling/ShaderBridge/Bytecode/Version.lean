/-!
Shader stages and version tokens: `0xFFFE_MMmm` for vertex and `0xFFFF_MMmm` for pixel
shaders, and the profiles the converter accepts.
-/

namespace ShaderBridge

/-- The pipeline stage a shader runs in. -/
inductive Stage where
  | vertex
  | pixel
  deriving DecidableEq, Repr, Inhabited

/-- The stage and shader model named by a version token. -/
structure ShaderVersion where
  stage : Stage
  major : Nat
  minor : Nat
  deriving DecidableEq, Repr, Inhabited

namespace ShaderVersion

/-- Reads a version token: its high half selects the stage, its two low bytes are the major
and minor version. Any other high half is not a version token. -/
def ofToken? (token : UInt32) : Option ShaderVersion :=
  let n := token.toNat
  let major := n / 256 % 256
  let minor := n % 256
  if n / 65536 = 0xFFFE then some ⟨.vertex, major, minor⟩
  else if n / 65536 = 0xFFFF then some ⟨.pixel, major, minor⟩
  else none

/-- The versions the converter lowers: vs_1_1, any model 2 profile up to 2.1, and model 3.0. -/
def isSupported : ShaderVersion → Bool
  | ⟨.vertex, 1, minor⟩ => minor == 1
  | ⟨_, 2, minor⟩ => minor ≤ 1
  | ⟨_, 3, minor⟩ => minor == 0
  | _ => false

/-- Shader model 1 streams carry no operand counts and address constants relative to `a0.x`
implicitly. -/
def isModel1 (v : ShaderVersion) : Bool := v.major < 2

end ShaderVersion

end ShaderBridge
