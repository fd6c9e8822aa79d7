import ShaderBridge.Lowering.Arith
import ShaderBridge.Lowering.Texture

/-!
Lowering a whole shader: the fixed opening, each instruction in order, then the stores of the
outputs, the end of the function and the entry point.
-/

namespace ShaderBridge

open Spirv

/-- A converted shader: its module and the layout the pipeline needs. -/
structure Shader where
  stage : Stage
  module : Spirv.Module
  vertexInputs : List VertexAttribute
  descriptors : List DescriptorBinding
  deriving Repr, Inhabited

namespace Shader

/-- The module's words, header first. -/
def words (s : Shader) : List Nat := s.module.words

/-- The module's size in bytes. -/
def size (s : Shader) : Nat := 4 * s.words.length

/-- The id bound as the module header records it. -/
def idBound (s : Shader) : Nat := s.words.getD 3 0

/-- The header records the module's id bound. -/
theorem idBound_eq_bound (s : Shader) : s.idBound = s.module.bound := by
  simp [idBound, words, Spirv.Module.words, Spirv.Module.header]

end Shader

namespace Lowering

/-- The module's fixed opening: capability, import, memory model, and the entry function up to
its first label. Returns the import's and the function's ids. -/
def opening : BuildM (Nat × Nat) := do
  Builder.requireCapability Capability.shader
  let glsl ← Builder.alloc
  Builder.addImport { op := Op.extInstImport, result := some glsl,
                      operands := stringWords "GLSL.std.450" }
  Builder.addMemoryModel { op := Op.memoryModel, operands := [0, 1] }
  let void ← Builder.typeId TypeDesc.void
  let fnType ← Builder.typeId (TypeDesc.function void [])
  let entry ← Builder.alloc
  let label ← Builder.alloc
  Builder.addName (nameOf entry "main")
  Builder.emit { op := Op.function, resultType := some void, result := some entry,
                 operands := [0, fnType] }
  Builder.emit { op := Op.label, result := some label }
  pure (glsl, entry)

/-- The state at the start of lowering a shader of version `version`. -/
def start (options : Options) (registry : ConstantRegistry) (version : ShaderVersion) :
    Lowering :=
  let ((glsl, entry), builder) := opening {}
  { options, registry, version, builder, glsl, entryPoint := entry }

/-- Lowers one instruction. -/
def instruction : Instruction → LowerM Unit
  | .nop => pure ()
  | .dcl decl dst => declare decl dst
  | .define dst values => define dst values
  | .defineInt dst values => defineInt dst values
  | .defineBool dst value => defineBool dst value
  | .mov dst src => mov dst src
  | .mova dst src => mova dst src
  | .unary op dst a => unary op dst a
  | .binary op dst a b => binary op dst a b
  | .ternary op dst a b c => ternary op dst a b c
  | .texld control tokenIndex dst coord sampler => texld control tokenIndex dst coord sampler
  | .texldl dst coord sampler => texldl dst coord sampler

/-- A position with its y component negated. -/
def flipY (position : Nat) : LowerM Nat := do
  let float ← floatType 1
  let y ← extract float position 1
  let negated ← compute Op.fNegate float [y]
  let vec4 ← floatType 4
  compute Op.compositeInsert vec4 [negated, position, 1]

/-- Stores every output register's final value to its variable, in register order. An output
never written stores zero; the position is flipped when the options say so; scalar outputs
store their first component. -/
def storeOutputs : LowerM Unit := do
  let s ← get
  let registers := Register.sort (s.outputs.map (·.1))
  for reg in registers do
    let some var := s.outputs.lookup reg | pure ()
    let value ← read reg
    let value ← if var.builtIn = some .position ∧ s.options.flipY then flipY value
      else pure value
    let value ← if var.type.isScalarFloat then do
        let float ← floatType 1
        extract float value 0
      else pure value
    emit { op := Op.store, operands := [var.id, value] }

/-- An execution mode of the entry point. -/
def executionMode (entry : Nat) (mode : ExecutionMode) : Spirv.Instruction :=
  { op := Op.executionMode, operands := [entry, mode.code] }

/-- Closes the function and the module, and reads off the shader. -/
def finish : LowerM Shader := do
  storeOutputs
  emit { op := Op.returnVoid }
  emit { op := Op.functionEnd }
  let s ← get
  let model := match s.version.stage with
    | .vertex => ExecutionModel.vertex
    | .pixel => ExecutionModel.fragment
  let interface := model.code :: s.entryPoint :: stringWords "main" ++ s.interface.toList
  build (Builder.addEntryPoint { op := Op.entryPoint, operands := interface })
  if s.version.stage = .pixel then
    build (Builder.addExecutionMode (executionMode s.entryPoint .originUpperLeft))
    if s.writesDepth then
      build (Builder.addExecutionMode (executionMode s.entryPoint .depthReplacing))
  let s ← get
  pure ⟨s.version.stage, s.builder.module, s.vertexInputs.toList, s.descriptors.toList⟩

/-- Lowers a decoded shader: its instructions in order, then the fault that stopped decoding,
if any, and otherwise the module's end. -/
def program (p : Program) : LowerM Shader := do
  p.body.forM instruction
  match p.fault with
  | some e => fail e
  | none => finish

end Lowering

/-- Lowers a decoded shader with the given options and registry. -/
def Program.lower (p : Program) (options : Options) (registry : ConstantRegistry) :
    Except ConvertError Shader :=
  (Lowering.program p).run' (Lowering.start options registry p.version)

end ShaderBridge
