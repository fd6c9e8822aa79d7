import ShaderBridge.Bytecode.Opcode
import ShaderBridge.Bytecode.Register
import ShaderBridge.Bytecode.Modifier
import ShaderBridge.Bytecode.Usage
import ShaderBridge.Text.Hex

/-!
Why a conversion fails. Decoding faults come from the token stream itself and carry the index
of the token where they were found; the other errors say which instruction, register, modifier
or usage the converter does not lower. Each error has one message, written by `message`.
-/

namespace ShaderBridge

/-- What went wrong while reading tokens. -/
inductive DecodeFault where
  /-- A token was needed past the stream or the open instruction. -/
  | endOfStream
  /-- A comment or skip ran past the tokens left. -/
  | skipPastEnd (count remaining : Nat)
  /-- An instruction declared more operand tokens than the stream has. -/
  | lengthPastEnd (length remaining : Nat)
  /-- An instruction left some of its declared operand tokens unread. -/
  | unconsumed (opcode : Opcode) (left : Nat)
  /-- An operand token lacks the parameter bit. -/
  | notParameter (token : UInt32)
  /-- A register number past the file's largest index. -/
  | indexTooLarge (file : RegisterFile) (index max : Nat)
  /-- A destination with relative addressing. -/
  | relativeDestination
  /-- A relative-address token that is itself relatively addressed. -/
  | nestedRelative
  deriving DecidableEq, Repr, Inhabited

namespace DecodeFault

/-- The text of the fault. -/
def message : DecodeFault → String
  | .endOfStream => "unexpected end of token stream"
  | .skipPastEnd count remaining =>
    s!"cannot skip {count} tokens, only {remaining} remaining"
  | .lengthPastEnd length remaining =>
    s!"instruction length {length} exceeds remaining tokens {remaining}"
  | .unconsumed opcode left =>
    "opcode " ++ opcode.mnemonic ++ s!" left {left} operand tokens unconsumed"
  | .notParameter token =>
    "expected parameter token, got 0x" ++ Hex.padded 8 token.toNat
  | .indexTooLarge file index max =>
    s!"register index {index} in " ++ file.name ++ s!" exceeds maximum {max}"
  | .relativeDestination => "relative addressing on a destination is not supported"
  | .nestedRelative => "nested relative addressing not supported"

end DecodeFault

/-- A decoding fault at a token index. -/
structure DecodeError where
  tokenIndex : Nat
  fault : DecodeFault
  deriving DecidableEq, Repr, Inhabited

/-- The text of a decoding error: where, then what. -/
def DecodeError.message (e : DecodeError) : String :=
  s!"D3D9 shader decode error at token {e.tokenIndex}: " ++ e.fault.message

/-- The role in which a register was met when it could not be lowered. -/
inductive RegisterUse where
  | predicatedInstruction
  | declaration
  | texCoordOutput
  | output
  | constantDefinition
  | registerRead
  | relativeAddressing
  | relativeAddressRegister
  | arithmeticSource
  | destination
  | movaDestination
  | samplerTextureType
  | textureSamplerOperand
  | projectedCubeSampling
  deriving DecidableEq, Repr, Inhabited

/-- How messages name each role. -/
def RegisterUse.description : RegisterUse → String
  | .predicatedInstruction => "predicated instruction"
  | .declaration => "declaration"
  | .texCoordOutput => "texture coordinate output"
  | .output => "output"
  | .constantDefinition => "constant definition"
  | .registerRead => "register read"
  | .relativeAddressing => "relative addressing"
  | .relativeAddressRegister => "relative address register"
  | .arithmeticSource => "arithmetic source"
  | .destination => "destination"
  | .movaDestination => "mova destination"
  | .samplerTextureType => "sampler texture type"
  | .textureSamplerOperand => "texture sampler operand"
  | .projectedCubeSampling => "projected cube texture sampling"

/-- The largest shader accepted, in bytes; the token limit is a quarter of it. -/
def maxBytecodeBytes : Nat := 262144

/-- The largest shader accepted, in tokens. -/
def maxTokens : Nat := maxBytecodeBytes / 4

/-- The most vertex input attributes one shader may declare. -/
def maxVertexInputs : Nat := 32

/-- Why converting a shader failed. -/
inductive ConvertError where
  | decode (e : DecodeError)
  | unsupportedVersion (token : UInt32)
  /-- An opcode the converter does not lower, at the index of its instruction token. -/
  | unsupportedOpcode (opcode : Opcode) (tokenIndex : Nat)
  | unsupportedRegister (reg : Register) (use : RegisterUse)
  | unsupportedSourceModifier (reg : Register) (modifier : SourceModifier)
  | unsupportedResultShift (code : Nat)
  | unsupportedUsage (reg : Register) (usage : Usage)
  | undeclaredRegister (reg : Register)
  | registerIndexTooLarge (index count : Nat)
  | tooManyVertexInputs (max : Nat)
  | bytecodeTooLarge (length max : Nat)
  | invalidByteLength (length : Nat)
  | moduleLoad (message : String)
  deriving DecidableEq, Repr, Inhabited

namespace ConvertError

/-- The text of the error. -/
def message : ConvertError → String
  | .decode e => e.message
  | .unsupportedVersion token =>
    "unsupported shader version token 0x" ++ Hex.padded 8 token.toNat
  | .unsupportedOpcode opcode tokenIndex =>
    "unsupported opcode " ++ opcode.mnemonic ++ " (0x" ++ Hex.padded 4 opcode.code ++
      s!") at token {tokenIndex}"
  | .unsupportedRegister reg use =>
    "unsupported register " ++ reg.display ++ " in " ++ use.description
  | .unsupportedSourceModifier reg modifier =>
    "unsupported source modifier " ++ modifier.name ++ " on " ++ reg.display
  | .unsupportedResultShift code => s!"unsupported result shift {code}"
  | .unsupportedUsage reg usage =>
    "unsupported declaration usage " ++ usage.name ++ " for " ++ reg.display
  | .undeclaredRegister reg =>
    "register " ++ reg.display ++ " is read before it is declared or defined"
  | .registerIndexTooLarge index count =>
    s!"register index {index} exceeds the {count} registers of its constant slot"
  | .tooManyVertexInputs max =>
    s!"shader declares more than {max} vertex input attributes"
  | .bytecodeTooLarge length max =>
    s!"shader bytecode length {length} exceeds maximum {max} bytes"
  | .invalidByteLength length =>
    s!"shader bytecode length {length} is not a multiple of 4"
  | .moduleLoad message => "shader module load failed: " ++ message

end ConvertError

end ShaderBridge
