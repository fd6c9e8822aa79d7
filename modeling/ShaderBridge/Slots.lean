import ShaderBridge.Bytecode.Version

/-!
Where shader constants and samplers are bound: a registry answers, for a stage, where each
constant file and each sampler lives. The standard layout shares one float block of 512
registers between the stages.
-/

namespace ShaderBridge

/-- The constant register files: `c#`, `i#` and `b#`. -/
inductive ConstantFile where
  | float
  | int
  | bool
  deriving DecidableEq, Repr, Inhabited

/-- Where a stage's registers of one constant file live. -/
structure ConstantSlot where
  set : Nat
  binding : Nat
  /-- The block element that holds register 0 of the stage. -/
  base : Nat
  /-- How many registers the stage may address. -/
  registerCount : Nat
  /-- How many elements the whole block has; it may be shared with the other stage. -/
  blockRegisters : Nat
  deriving DecidableEq, Repr, Inhabited

/-- Where a sampler register's texture and sampler are bound. -/
structure SamplerSlot where
  set : Nat
  textureBinding : Nat
  samplerBinding : Nat
  deriving DecidableEq, Repr, Inhabited

/-- The texture of sampler `index` at binding `2 index` of `set`, its sampler at the next
binding. -/
def SamplerSlot.paired (set index : Nat) : SamplerSlot := ⟨set, 2 * index, 2 * index + 1⟩

/-- Answers where constants and samplers are bound. -/
structure ConstantRegistry where
  slot : Stage → ConstantFile → ConstantSlot
  sampler : Stage → Nat → SamplerSlot

/-- The standard layout, parameterised by its descriptor sets. -/
structure SlotLayout where
  constantSet : Nat := 0
  vertexSamplerSet : Nat := 1
  pixelSamplerSet : Nat := 2
  deriving DecidableEq, Repr, Inhabited

namespace SlotLayout

/-- Where the standard layout puts a stage's constant file: `N` registers (256 floats, 16
integers or booleans), pixel registers after the vertex ones in a block of `2 N`. -/
def slot (l : SlotLayout) (stage : Stage) (file : ConstantFile) : ConstantSlot :=
  let count := match file with
    | .float => 256
    | .int | .bool => 16
  let base := match stage with
    | .vertex => 0
    | .pixel => count
  ⟨l.constantSet, 0, base, count, 2 * count⟩

/-- Where the standard layout puts a stage's sampler `index`. -/
def sampler (l : SlotLayout) (stage : Stage) (index : Nat) : SamplerSlot :=
  match stage with
  | .vertex => SamplerSlot.paired l.vertexSamplerSet index
  | .pixel => SamplerSlot.paired l.pixelSamplerSet index

/-- The layout as a registry. -/
def registry (l : SlotLayout) : ConstantRegistry := ⟨l.slot, l.sampler⟩

end SlotLayout

end ShaderBridge
