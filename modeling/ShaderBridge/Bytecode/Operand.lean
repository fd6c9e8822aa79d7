import ShaderBridge.Bytecode.Register
import ShaderBridge.Bytecode.Modifier

/-!
Decoded operands. A destination is a register with a write mask and result modifiers; a source
is a register with a swizzle, a modifier and, for `c[a0.k + n]`, the address register and
component it is indexed by.
-/

namespace ShaderBridge

/-- A destination operand. Its mask is never empty: an empty mask in the token means all four
components. -/
structure Destination where
  reg : Register
  mask : WriteMask
  modifier : ResultModifier
  deriving DecidableEq, Repr, Inhabited

/-- The register and component that index a relatively addressed source. -/
structure RelativeAddress where
  reg : Register
  component : Fin 4
  deriving DecidableEq, Repr, Inhabited

/-- A source operand. -/
structure Source where
  reg : Register
  swizzle : Swizzle
  modifier : SourceModifier
  relative : Option RelativeAddress
  deriving DecidableEq, Repr, Inhabited

end ShaderBridge
