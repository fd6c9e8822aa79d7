import ShaderBridge.Spirv.Instruction
import ShaderBridge.Spirv.Enums

/-!
A SPIR-V module under construction: an id counter and the sections of the logical layout, and
its binary form after a five-word header.
-/

namespace ShaderBridge.Spirv

/-- The SPIR-V magic number. -/
def magic : Nat := 0x07230203

/-- SPIR-V version 1.0. -/
def version : Nat := 0x00010000

/-- The generator word of the header. -/
def generator : Nat := 1

/-- A module under construction. -/
structure Module where
  /-- The next id to hand out. -/
  nextId : Nat := 1
  /-- Declared capabilities, each once, in the order first required. -/
  capabilities : Array Capability := #[]
  extensions : Array Instruction := #[]
  imports : Array Instruction := #[]
  memoryModel : Array Instruction := #[]
  entryPoints : Array Instruction := #[]
  executionModes : Array Instruction := #[]
  names : Array Instruction := #[]
  annotations : Array Instruction := #[]
  declarations : Array Instruction := #[]
  functions : Array Instruction := #[]
  deriving Repr, Inhabited

namespace Module

/-- The empty module. -/
def empty : Module := {}

/-- Hands out a fresh id. -/
def alloc (m : Module) : Nat × Module := (m.nextId, { m with nextId := m.nextId + 1 })

/-- One past the highest id handed out. -/
def bound (m : Module) : Nat := m.nextId

/-- Declares a capability, unless it is declared already. -/
def requireCapability (m : Module) (c : Capability) : Module :=
  if m.capabilities.contains c then m else { m with capabilities := m.capabilities.push c }

/-- The capability section's instructions. -/
def capabilityInstructions (m : Module) : List Instruction :=
  m.capabilities.toList.map fun c => { op := .capability, operands := [c.code] }

/-- Every instruction of the module, section by section in layout order. -/
def instructions (m : Module) : List Instruction :=
  m.capabilityInstructions ++ m.extensions.toList ++ m.imports.toList ++ m.memoryModel.toList ++
    m.entryPoints.toList ++ m.executionModes.toList ++ m.names.toList ++
    m.annotations.toList ++ m.declarations.toList ++ m.functions.toList

/-- The module header: magic number, version, generator, id bound and a reserved zero. -/
def header (m : Module) : List Nat := [magic, version, generator, m.bound, 0]

/-- The module's binary form. -/
def words (m : Module) : List Nat :=
  m.header ++ m.instructions.flatMap Instruction.encode

end Module

end ShaderBridge.Spirv
