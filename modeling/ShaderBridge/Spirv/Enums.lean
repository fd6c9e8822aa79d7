/-!
SPIR-V enumerants the converter writes: storage classes, capabilities, decorations, built-ins,
dimensions, execution models and modes, image operands and GLSL.std.450 instructions.
-/

namespace ShaderBridge.Spirv

/-- A storage class of pointers and variables. -/
structure StorageClass where
  code : Nat
  deriving DecidableEq, Repr, Inhabited

namespace StorageClass

def uniformConstant : StorageClass := ⟨0⟩
def input : StorageClass := ⟨1⟩
def uniform : StorageClass := ⟨2⟩
def output : StorageClass := ⟨3⟩
def function : StorageClass := ⟨7⟩

/-- Whether the SPIR-V grammar defines storage class `code`. -/
def isKnown (code : Nat) : Bool :=
  code ≤ 12 || [4172, 5068, 5076, 5328, 5329, 5338, 5339, 5342, 5343, 5349, 5385, 5402, 5605,
    5936, 5937].contains code

end StorageClass

/-- A capability a module declares. -/
structure Capability where
  code : Nat
  deriving DecidableEq, Repr, Inhabited

namespace Capability

def shader : Capability := ⟨1⟩
def sampled1D : Capability := ⟨43⟩

/-- The capabilities the SPIR-V grammar of the 1.3.268 headers defines, as inclusive ranges. -/
def knownRanges : List (Nat × Nat) :=
  [(0, 15), (17, 25), (27, 71), (4165, 4168), (4422, 4423), (4427, 4431), (4433, 4437),
    (4439, 4439), (4441, 4442), (4445, 4445), (4447, 4450), (4464, 4468), (4471, 4472),
    (4478, 4479), (4484, 4486), (5008, 5010), (5013, 5013), (5015, 5016), (5055, 5055),
    (5067, 5067), (5249, 5249), (5251, 5251), (5254, 5255), (5259, 5260), (5265, 5266),
    (5282, 5284), (5288, 5288), (5291, 5291), (5297, 5297), (5301, 5312), (5336, 5336),
    (5340, 5341), (5345, 5347), (5350, 5350), (5353, 5353), (5357, 5357), (5363, 5363),
    (5372, 5373), (5378, 5381), (5383, 5383), (5390, 5391), (5409, 5409),
    (5568, 5570), (5579, 5579), (5582, 5584), (5603, 5604), (5606, 5606), (5612, 5613),
    (5616, 5617), (5619, 5619), (5629, 5629), (5696, 5698), (5817, 5817), (5821, 5821),
    (5824, 5824), (5837, 5837), (5844, 5845), (5886, 5886), (5888, 5888), (5892, 5892),
    (5897, 5898), (5904, 5904), (5906, 5906), (5908, 5908), (5910, 5910), (5916, 5916),
    (5920, 5920), (5922, 5922), (5935, 5935), (5939, 5939), (5943, 5943), (5945, 5945),
    (5948, 5948), (6016, 6020), (6022, 6022), (6025, 6026), (6033, 6034), (6089, 6089),
    (6094, 6095), (6114, 6115), (6141, 6141), (6146, 6146), (6161, 6161),
    (6167, 6167), (6169, 6169), (6171, 6171), (6174, 6174), (6400, 6400), (6441, 6441)]

/-- Whether the SPIR-V grammar defines capability `code`. -/
def isKnown (code : Nat) : Bool :=
  knownRanges.any fun r => r.1 ≤ code && code ≤ r.2

end Capability

/-- Decorations the converter attaches. -/
inductive Decoration where
  | block
  | arrayStride
  | builtIn
  | location
  | binding
  | descriptorSet
  | offset
  deriving DecidableEq, Repr, Inhabited

/-- The number of a decoration. -/
def Decoration.code : Decoration → Nat
  | .block => 2
  | .arrayStride => 6
  | .builtIn => 11
  | .location => 30
  | .binding => 33
  | .descriptorSet => 34
  | .offset => 35

/-- Built-in variables the converter binds outputs to. -/
inductive BuiltIn where
  | position
  | pointSize
  | fragDepth
  deriving DecidableEq, Repr, Inhabited

/-- The number of a built-in. -/
def BuiltIn.code : BuiltIn → Nat
  | .position => 0
  | .pointSize => 1
  | .fragDepth => 22

/-- Image dimensionalities. -/
inductive Dim where
  | dim1D
  | dim2D
  | dim3D
  | cube
  deriving DecidableEq, Repr, Inhabited

/-- The number of a dimensionality. -/
def Dim.code : Dim → Nat
  | .dim1D => 0
  | .dim2D => 1
  | .dim3D => 2
  | .cube => 3

/-- The dimensionality a number names; numbers other than 1D, 3D and cube read as 2D. -/
def Dim.ofCode : Nat → Dim
  | 0 => .dim1D
  | 2 => .dim3D
  | 3 => .cube
  | _ => .dim2D

/-- Execution models of entry points. -/
inductive ExecutionModel where
  | vertex
  | fragment
  deriving DecidableEq, Repr, Inhabited

/-- The number of an execution model. -/
def ExecutionModel.code : ExecutionModel → Nat
  | .vertex => 0
  | .fragment => 4

/-- Execution modes of fragment entry points. -/
inductive ExecutionMode where
  | originUpperLeft
  | depthReplacing
  deriving DecidableEq, Repr, Inhabited

/-- The number of an execution mode. -/
def ExecutionMode.code : ExecutionMode → Nat
  | .originUpperLeft => 7
  | .depthReplacing => 12

/-- Image operand masks of sample instructions. -/
inductive ImageOperand where
  | bias
  | lod
  deriving DecidableEq, Repr, Inhabited

/-- The mask bit of an image operand. -/
def ImageOperand.code : ImageOperand → Nat
  | .bias => 1
  | .lod => 2

/-- The GLSL.std.450 extended instructions the converter calls. -/
inductive GlslOp where
  | round
  | fAbs
  | floor
  | fract
  | pow
  | exp2
  | log2
  | inverseSqrt
  | fMin
  | fMax
  | fClamp
  | sClamp
  | fMix
  deriving DecidableEq, Repr, Inhabited

/-- The number of an extended instruction in GLSL.std.450. -/
def GlslOp.code : GlslOp → Nat
  | .round => 1
  | .fAbs => 4
  | .floor => 8
  | .fract => 10
  | .pow => 26
  | .exp2 => 29
  | .log2 => 30
  | .inverseSqrt => 32
  | .fMin => 37
  | .fMax => 40
  | .fClamp => 43
  | .sClamp => 45
  | .fMix => 46

end ShaderBridge.Spirv
