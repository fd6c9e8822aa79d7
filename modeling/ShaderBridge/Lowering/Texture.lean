import ShaderBridge.Lowering.Operand

/-!
Texture sampling: `texld` at an implicit level of detail, projected or biased by `w`, and
`texldl` at the explicit level `w`.
-/

namespace ShaderBridge

open Spirv

namespace Lowering

/-- Loads the texture and sampler of a sampler operand and combines them; also returns the
declared texture type. -/
def sampledImage (src : Source) : LowerM (Nat × TextureType) := do
  if src.reg.file ≠ .sampler then fail (.unsupportedRegister src.reg .textureSamplerOperand)
  let some vars := (← get).samplers.lookup src.reg.index | fail (.undeclaredRegister src.reg)
  let dim := vars.textureType.dim
  let imageType ← typeId (TypeDesc.image dim)
  let samplerType ← typeId TypeDesc.sampler
  let sampledType ← typeId (TypeDesc.sampledImage dim)
  let image ← compute Op.load imageType [vars.image]
  let sampler ← compute Op.load samplerType [vars.sampler]
  let combined ← compute Op.sampledImage sampledType [image, sampler]
  pure (combined, vars.textureType)

/-- Samples a combined image; `operands` are the image operand mask and its ids. -/
def sample (op : Op) (image coordinates : Nat) (operands : List Nat) : LowerM Nat := do
  let vec4 ← floatType 4
  compute op vec4 (image :: coordinates :: operands)

/-- Lowers `texld` with control bits `control`: 0 samples plainly, 1 projects (not for cube
textures), 2 biases the level of detail; other control values are not lowered. -/
def texld (control tokenIndex : Nat) (dst : Destination) (coord sampler : Source) :
    LowerM Unit := do
  let (image, type) ← sampledImage sampler
  let width := type.coordinateCount
  let full ← source coord 4
  let value ← match control with
    | 0 => do
      let coordinates ← truncate full width
      sample Op.imageSampleImplicitLod image coordinates []
    | 1 => do
      if type = .textureCube then
        fail (.unsupportedRegister sampler.reg .projectedCubeSampling)
      let ty ← floatType (width + 1)
      let coordinates ← shuffle ty full full (List.range width ++ [3])
      sample Op.imageSampleProjImplicitLod image coordinates []
    | 2 => do
      let coordinates ← truncate full width
      let float ← floatType 1
      let bias ← extract float full 3
      sample Op.imageSampleImplicitLod image coordinates [ImageOperand.bias.code, bias]
    | _ => fail (.unsupportedOpcode .tex tokenIndex)
  writeDestination dst value 4

/-- Lowers `texldl`. -/
def texldl (dst : Destination) (coord sampler : Source) : LowerM Unit := do
  let (image, type) ← sampledImage sampler
  let full ← source coord 4
  let coordinates ← truncate full type.coordinateCount
  let float ← floatType 1
  let lod ← extract float full 3
  let value ← sample Op.imageSampleExplicitLod image coordinates [ImageOperand.lod.code, lod]
  writeDestination dst value 4

end Lowering

end ShaderBridge
