import ShaderBridge.Lowering.Shader
import ShaderBridge.Bytecode.Bytes

/-!
The converter: D3D9 shader bytecode in, SPIR-V words and layout out. A converter holds only its
options and constant registry, and bytecode is at most 65536 tokens.
-/

namespace ShaderBridge

/-- A converter: options and the registry that places constants and samplers. -/
structure Converter where
  options : Options := {}
  registry : ConstantRegistry := SlotLayout.registry {}

/-- The tokens of little-endian bytecode. -/
def tokensFromBytes (bytes : List UInt8) : Except ConvertError (List UInt32) :=
  if maxBytecodeBytes < bytes.length then
    .error (.bytecodeTooLarge bytes.length maxBytecodeBytes)
  else if bytes.length % 4 ≠ 0 then .error (.invalidByteLength bytes.length)
  else .ok (Bytecode.tokensOfBytes bytes)

/-- A converted shader handed to a module loader: the layout, the module's size in bytes, and
what the loader made of the words. -/
structure Loaded (α : Type) where
  vertexInputs : List VertexAttribute
  descriptors : List DescriptorBinding
  size : Nat
  module : α

namespace Converter

/-- Converts a token stream. -/
def compile (c : Converter) (tokens : Array UInt32) : Except ConvertError Shader :=
  if maxTokens < tokens.size then .error (.bytecodeTooLarge (4 * tokens.size) maxBytecodeBytes)
  else do
    let p ← Program.decode tokens
    p.lower c.options c.registry

/-- Converts little-endian bytecode. -/
def compileBytes (c : Converter) (bytes : List UInt8) : Except ConvertError Shader := do
  let tokens ← tokensFromBytes bytes
  c.compile tokens.toArray

/-- Converts a token stream and hands the words to `loader`; a loader's refusal is an error. -/
def load (c : Converter) (loader : List Nat → Except String α) (tokens : Array UInt32) :
    Except ConvertError (Loaded α) := do
  let shader ← c.compile tokens
  match loader shader.words with
  | .error message => .error (.moduleLoad message)
  | .ok m => .ok ⟨shader.vertexInputs, shader.descriptors, shader.size, m⟩

end Converter

end ShaderBridge
