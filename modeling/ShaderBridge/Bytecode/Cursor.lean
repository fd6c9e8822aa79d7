import ShaderBridge.Error
import ShaderBridge.Bytecode.Operand
import ShaderBridge.Bytecode.Usage

/-!
A cursor over a token stream, with a limit at the end of the open instruction's operands.
Reading is a `Scan`, which fails with a `DecodeError`.
-/

namespace ShaderBridge

/-- A position in a token stream and the limit that reads stop at. -/
structure Cursor where
  tokens : Array UInt32
  pos : Nat
  limit : Nat
  deriving Repr, Inhabited

namespace Cursor

/-- A cursor at the start of a stream, limited by its end. -/
def start (tokens : Array UInt32) : Cursor := ⟨tokens, 0, tokens.size⟩

/-- Tokens left before the limit. -/
def remaining (c : Cursor) : Nat := c.limit - c.pos

/-- Whether the whole stream has been read. -/
def atEnd (c : Cursor) : Bool := c.tokens.size ≤ c.pos

/-- The next token, if it lies before the limit. -/
def peek (c : Cursor) : Option Token :=
  if c.pos < c.limit then c.tokens[c.pos]?.map Token.mk else none

end Cursor

/-- Reading from a cursor: the value read, or the decoding error and the cursor where it
arose. -/
abbrev Scan := EStateM DecodeError Cursor

namespace Scan

/-- The position of the next token. -/
def position : Scan Nat := fun c => .ok c.pos c

/-- Fails with `fault` at token `index`, keeping the cursor. -/
def fail (index : Nat) (fault : DecodeFault) : Scan α := fun c => .error ⟨index, fault⟩ c

/-- Reads the next token. -/
def next : Scan Token := fun c =>
  match c.peek with
  | some t => .ok t { c with pos := c.pos + 1 }
  | none => .error ⟨c.pos, .endOfStream⟩ c

/-- Steps over `count` tokens, which must lie before the limit. -/
def skip (count : Nat) : Scan Unit := fun c =>
  if count ≤ c.remaining then .ok () { c with pos := c.pos + count }
  else .error ⟨c.pos, .skipPastEnd count c.remaining⟩ c

/-- Opens an instruction of `count` operand tokens: later reads stop after them. The
instruction must fit in the stream. -/
def begin (count : Nat) : Scan Unit := fun c =>
  if c.pos + count ≤ c.tokens.size then .ok () { c with limit := c.pos + count }
  else .error ⟨c.pos, .lengthPastEnd count (c.tokens.size - c.pos)⟩ c

/-- Closes the open instruction of `opcode`: the limit returns to the end of the stream, and
operand tokens left unread are a fault. -/
def finish (opcode : Opcode) : Scan Unit := fun c =>
  let left := c.remaining
  let c := { c with limit := c.tokens.size }
  if left = 0 then .ok () c else .error ⟨c.pos, .unconsumed opcode left⟩ c

/-- Reads a parameter token and the register it names. The register of a relative-address
token is read with `relative` set. -/
def register (version : ShaderVersion) (relative : Bool) : Scan (Token × Register) := do
  let index ← position
  let t ← next
  if !t.isParameter then fail index (.notParameter t.bits)
  else
    let file := RegisterFile.ofType t.registerType version relative
    if file.maxIndex < t.registerNumber then
      fail index (.indexTooLarge file t.registerNumber file.maxIndex)
    else pure (t, ⟨file, t.registerNumber⟩)

/-- Reads a destination operand. Destinations cannot be relatively addressed, and an empty
write mask writes all four components. -/
def destination (version : ShaderVersion) : Scan Destination := do
  let index ← position
  let (t, reg) ← register version false
  if t.relative then fail index .relativeDestination
  else
    let mask := if t.writeMask.bits = 0 then WriteMask.all else t.writeMask
    pure ⟨reg, mask, t.resultModifier⟩

/-- Reads a source operand. A relatively addressed source of shader model 1 is indexed by
`a0.x` implicitly; from model 2 on, a second token names the address register, and its first
swizzle component selects the component. -/
def source (version : ShaderVersion) : Scan Source := do
  let (t, reg) ← register version false
  let relative ← if !t.relative then pure none
    else if version.isModel1 then pure (some ⟨⟨.addr, 0⟩, Swizzle.identity.x⟩)
    else do
      let index ← position
      let (address, addressReg) ← register version true
      if address.relative then fail index .nestedRelative
      else pure (some ⟨addressReg, address.swizzle.x⟩)
  pure ⟨reg, t.swizzle, t.sourceModifier, relative⟩

end Scan

end ShaderBridge
