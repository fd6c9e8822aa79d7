import ShaderBridge.Text.Hex
import ShaderBridge.Bytecode.Token
import ShaderBridge.Bytecode.Version
import ShaderBridge.Bytecode.Opcode
import ShaderBridge.Bytecode.Register
import ShaderBridge.Bytecode.Modifier
import ShaderBridge.Bytecode.Usage
import ShaderBridge.Bytecode.Operand
import ShaderBridge.Error
import ShaderBridge.Bytecode.Cursor
import ShaderBridge.Bytecode.Instruction
import ShaderBridge.Bytecode.Program
import ShaderBridge.Spirv.Op
import ShaderBridge.Spirv.Enums
import ShaderBridge.Spirv.Instruction
import ShaderBridge.Spirv.Module
import ShaderBridge.Spirv.Types
import ShaderBridge.Spirv.Builder
import ShaderBridge.Layout
import ShaderBridge.Slots
import ShaderBridge.Lowering.State
import ShaderBridge.Lowering.Declare
import ShaderBridge.Lowering.Operand
import ShaderBridge.Lowering.Arith
import ShaderBridge.Lowering.Texture
import ShaderBridge.Lowering.Shader
import ShaderBridge.Bytecode.Bytes
import ShaderBridge.Converter
import ShaderBridge.Hash.Blake3
import ShaderBridge.Cache
import ShaderBridge.Proofs.Ids
import ShaderBridge.Proofs.DefineBeforeUse
import ShaderBridge.Proofs.Decode
import ShaderBridge.Proofs.Closure
import ShaderBridge.Proofs.Framing
import ShaderBridge.Proofs.Assembly
import ShaderBridge.Proofs.ScopedShader
import ShaderBridge.Proofs.TypeTable
import ShaderBridge.Proofs.CacheTransparency
import ShaderBridge.Proofs.EntryInterface
import ShaderBridge.Proofs.InterfaceSlots
import ShaderBridge.Proofs.ByteStream
import ShaderBridge.Proofs.VertexLayout
import ShaderBridge.Proofs.Lockstep
import ShaderBridge.Proofs.IndexBounds
import ShaderBridge.Proofs.Padding
import ShaderBridge.Proofs.StringLiteral
import ShaderBridge.Proofs.CursorBounds
import ShaderBridge.Proofs.TypeInterning
import ShaderBridge.Proofs.IgnoredTokens
import ShaderBridge.Proofs.VertexInputs
import ShaderBridge.Proofs.ConstantBlock
import ShaderBridge.Proofs.Descriptors
import ShaderBridge.Proofs.BuildInvariant
import ShaderBridge.Proofs.ConstantPools
import ShaderBridge.Proofs.UniqueDeclarations
import ShaderBridge.Proofs.Evaluation
import ShaderBridge.Proofs.RelativeConstants
import ShaderBridge.Proofs.ConstantTracking
