import ShaderBridge.Proofs.EntryInterface

/-!
Separated interfaces. Each input and output register sits at one slot: fixed by its file and
index (`Register.slotIn`), or, for model 3 vertex outputs and pixel inputs, by the usage of its
first declaration (`Program.slotOf`). A program whose registers take distinct slots, and which
writes only outputs of its own stage, converts to a `Separated` module.
-/

namespace ShaderBridge

open Std.Do Spirv

/-- The output files of a stage: position, fog, point size, colours, texture coordinates and the
model 3 outputs of a vertex shader; colours and depth of a pixel shader. -/
def RegisterFile.OutputOf (stage : Stage) (f : RegisterFile) : Prop :=
  match stage with
  | .vertex => f = .rastOut ∨ f = .attrOut ∨ f = .texCoordOut ∨ f = .output
  | .pixel => f = .colorOut ∨ f = .depthOut

instance (stage : Stage) : DecidablePred (RegisterFile.OutputOf stage) := fun _ => by
  cases stage <;> unfold RegisterFile.OutputOf <;> infer_instance

/-- The output files of a vertex shader are none of a pixel shader's. -/
theorem RegisterFile.OutputOf.vertex {f : RegisterFile} {stage : Stage} (h : f.OutputOf stage)
    (hf : f = .rastOut ∨ f = .attrOut ∨ f = .texCoordOut) : stage = .vertex := by
  cases stage
  · rfl
  · rcases h with rfl | rfl <;> simp at hf

/-- The output files of a pixel shader are none of a vertex shader's. -/
theorem RegisterFile.OutputOf.pixel {f : RegisterFile} {stage : Stage} (h : f.OutputOf stage)
    (hf : f = .colorOut ∨ f = .depthOut) : stage = .pixel := by
  cases stage
  · rcases h with rfl | rfl | rfl | rfl <;> simp at hf
  · rfl

/-- The built-ins a stage may write: the position and the point size of a vertex shader, the
fragment depth of a pixel shader. -/
def Stage.builtIns : Stage → List BuiltIn
  | .vertex => [.position, .pointSize]
  | .pixel => [.fragDepth]

/-- Where the variable of a register sits when its file and index fix it: vertex inputs at their
index, pixel inputs and texture coordinates at the varying locations of colours and texture
coordinates, a stage's outputs where their first write places them. -/
def Register.slotIn (stage : Stage) (reg : Register) : Option InterfaceSlot :=
  match stage, reg.file with
  | .vertex, .input => some (.location reg.index)
  | .vertex, .rastOut =>
    match reg.index with
    | 0 => some (.builtIn .position)
    | 1 => some (.location 12)
    | 2 => some (.builtIn .pointSize)
    | _ => none
  | .vertex, .attrOut => some (.location reg.index)
  | .vertex, .texCoordOut => (Usage.texCoord.varyingLocation reg.index).map .location
  | .pixel, .input => (Usage.color.varyingLocation reg.index).map .location
  | .pixel, .texture => (Usage.texCoord.varyingLocation reg.index).map .location
  | .pixel, .colorOut => some (.location reg.index)
  | .pixel, .depthOut => some (.builtIn .fragDepth)
  | _, _ => none

/-- The register of `stage` whose file and index put its variable at `slot`, among the outputs
when `output` is set and among the inputs otherwise. -/
def InterfaceSlot.registerIn (stage : Stage) (output : Bool) : InterfaceSlot → Register
  | .location n =>
    match stage, output with
    | .vertex, false => ⟨.input, n⟩
    | .vertex, true =>
      if n = 12 then ⟨.rastOut, 1⟩ else if n < 4 then ⟨.attrOut, n⟩ else ⟨.texCoordOut, n - 4⟩
    | .pixel, false => if n < 4 then ⟨.input, n⟩ else ⟨.texture, n - 4⟩
    | .pixel, true => ⟨.colorOut, n⟩
  | .builtIn .position => ⟨.rastOut, 0⟩
  | .builtIn .pointSize => ⟨.rastOut, 2⟩
  | .builtIn .fragDepth => ⟨.depthOut, 0⟩

theorem Usage.varyingLocation_color_eq_some {index n : Nat} :
    Usage.color.varyingLocation index = some n ↔ index ≤ 3 ∧ n = index := by
  simp [Usage.varyingLocation, eq_comm]

theorem Usage.varyingLocation_texCoord_eq_some {index n : Nat} :
    Usage.texCoord.varyingLocation index = some n ↔ index ≤ 7 ∧ n = 4 + index := by
  simp [Usage.varyingLocation, eq_comm]

namespace Register

variable {stage : Stage} {reg reg' : Register} {slot : InterfaceSlot}

/-- Reading the slot table backwards finds the register, on its side of the interface. -/
theorem registerIn_slotIn (hreg : reg.InRange) (h : reg.slotIn stage = some slot) :
    slot.registerIn stage reg.file.isOutput = reg := by
  obtain ⟨f, i⟩ := reg
  have hi : i ≤ f.maxIndex := hreg
  -- one case per stage and file with a slot; the file's index bound keeps its locations apart
  -- from those of the other files on its side
  cases stage <;> cases f <;>
    simp only [slotIn, Option.map_eq_some_iff, Usage.varyingLocation_color_eq_some,
      Usage.varyingLocation_texCoord_eq_some, reduceCtorEq, Option.some.injEq] at h <;>
    simp only [RegisterFile.maxIndex] at hi
  case vertex.input =>
    subst h
    rfl
  case vertex.rastOut =>
    rcases (by omega : i = 0 ∨ i = 1 ∨ i = 2) with rfl | rfl | rfl <;> cases h <;> rfl
  case vertex.attrOut =>
    subst h
    simp [InterfaceSlot.registerIn, RegisterFile.isOutput, show i ≠ 12 by omega,
      show i < 4 by omega]
  case vertex.texCoordOut =>
    obtain ⟨n, ⟨hle, rfl⟩, rfl⟩ := h
    simp [InterfaceSlot.registerIn, RegisterFile.isOutput, show 4 + i ≠ 12 by omega]
  case pixel.input =>
    obtain ⟨n, ⟨hle, rfl⟩, rfl⟩ := h
    simp [InterfaceSlot.registerIn, RegisterFile.isOutput, show n < 4 by omega]
  case pixel.texture =>
    obtain ⟨n, ⟨hle, rfl⟩, rfl⟩ := h
    simp [InterfaceSlot.registerIn, RegisterFile.isOutput]
  case pixel.colorOut =>
    subst h
    rfl
  case pixel.depthOut =>
    subst h
    obtain rfl : i = 0 := by omega
    rfl

/-- No two registers in range on one side of the interface share a slot. -/
theorem slotIn_injective (hreg : reg.InRange) (hreg' : reg'.InRange)
    (hside : reg.file.isOutput = reg'.file.isOutput) (h : reg.slotIn stage = some slot)
    (h' : reg'.slotIn stage = some slot) : reg = reg' := by
  rw [← registerIn_slotIn hreg h, ← registerIn_slotIn hreg' h', hside]

/-- A register with a fixed slot has an input or an output variable, as its file says. -/
theorem storageClass_of_slotIn (h : reg.slotIn stage = some slot) :
    reg.file.storageClass = if reg.file.isOutput then StorageClass.output else StorageClass.input := by
  obtain ⟨f, i⟩ := reg
  cases stage <;> cases f <;> simp only [slotIn, reduceCtorEq] at h <;> rfl

/-- A register placed by a built-in is an output, and the built-in one its stage may write. -/
theorem slotIn_builtIn {b : BuiltIn} (h : reg.slotIn stage = some (.builtIn b)) :
    reg.file.isOutput ∧ b ∈ stage.builtIns := by
  obtain ⟨f, i⟩ := reg
  cases stage <;> cases f <;>
    simp only [slotIn, Option.map_eq_some_iff, reduceCtorEq, Option.some.injEq,
      InterfaceSlot.builtIn.injEq, and_false, exists_false] at h
  case vertex.rastOut =>
    split at h <;> simp only [Option.some.injEq, InterfaceSlot.builtIn.injEq, reduceCtorEq] at h <;>
      subst h <;> simp [RegisterFile.isOutput, Stage.builtIns]
  case pixel.depthOut =>
    subst h
    simp [RegisterFile.isOutput, Stage.builtIns]

end Register

/-- A slot table for `stage`: a register with a slot has an input or an output variable, as its
file says, and a register placed by a built-in is an output the stage may write. -/
structure SlotTable (stage : Stage) (σ : Register → Option InterfaceSlot) : Prop where
  storageClass : ∀ reg slot, σ reg = some slot →
    reg.file.storageClass = if reg.file.isOutput then StorageClass.output else StorageClass.input
  builtIn : ∀ reg b, σ reg = some (.builtIn b) → reg.file.isOutput ∧ b ∈ stage.builtIns

namespace SlotTable

variable {stage : Stage} {σ : Register → Option InterfaceSlot} {reg reg' : Register}
  {slot slot' : InterfaceSlot}

/-- Two registers with slots whose variables are of one storage class are on one side of the
interface. -/
theorem isOutput_eq (ht : SlotTable stage σ) (h : σ reg = some slot) (h' : σ reg' = some slot')
    (hsc : reg.file.storageClass = reg'.file.storageClass) :
    reg.file.isOutput = reg'.file.isOutput := by
  rw [ht.storageClass reg slot h, ht.storageClass reg' slot' h'] at hsc
  cases hr : reg.file.isOutput <;> cases hr' : reg'.file.isOutput <;>
    simp [hr, hr', StorageClass.output, StorageClass.input] at hsc ⊢

end SlotTable

/-- Fixed slots make a slot table for every stage. -/
theorem Register.slotIn_table (stage : Stage) : SlotTable stage (Register.slotIn stage) :=
  ⟨fun _ _ h => Register.storageClass_of_slotIn h, fun _ _ h => Register.slotIn_builtIn h⟩

/-- The slot a declared usage and usage index give a register of `stage`: the position and the
point size of index 0 of a vertex shader are built-ins, other usages sit at their varying
locations. -/
def Usage.slot (stage : Stage) (usage : Usage) (index : Nat) : Option InterfaceSlot :=
  match stage, usage, index with
  | .vertex, .position, 0 => some (.builtIn .position)
  | .vertex, .pointSize, 0 => some (.builtIn .pointSize)
  | _, usage, index => (usage.varyingLocation index).map .location

/-- A declared built-in is the position or the point size of a vertex shader. -/
theorem Usage.slot_builtIn {stage : Stage} {usage : Usage} {index : Nat} {b : BuiltIn}
    (h : usage.slot stage index = some (.builtIn b)) : stage = .vertex ∧ b ∈ Stage.vertex.builtIns := by
  unfold Usage.slot at h
  split at h <;> simp_all [Stage.builtIns]

/-- Whether a file's registers take their slots from their declarations: the outputs `o#` of a
vertex shader, and the inputs `v#` of a pixel shader of model 3. -/
def ShaderVersion.DeclaresSlot (v : ShaderVersion) (f : RegisterFile) : Prop :=
  v.stage = .vertex ∧ f = .output ∨ v.stage = .pixel ∧ f = .input ∧ 3 ≤ v.major

instance (v : ShaderVersion) : DecidablePred v.DeclaresSlot := fun _ => by
  unfold ShaderVersion.DeclaresSlot
  infer_instance

/-- The declaration an instruction makes of `reg`. -/
def Instruction.declarationOf (reg : Register) : Instruction → Option Declaration
  | .dcl decl dst => if dst.reg = reg then some decl else none
  | _ => none

/-- The register an instruction declares. -/
def Instruction.declared? : Instruction → Option Register
  | .dcl _ dst => some dst.reg
  | _ => none

namespace Program

/-- The registers the program's instructions write or declare. -/
def registers (p : Program) : List Register :=
  p.body.filterMap fun ins => ins.destination?.map (·.reg)

/-- Where the variable of a register the program writes or declares sits: by the usage of its
first declaration where its file takes slots from declarations, by its file and index
otherwise. -/
def slotOf (p : Program) (reg : Register) : Option InterfaceSlot :=
  if reg ∈ p.registers then
    if p.version.DeclaresSlot reg.file then
      (p.body.findSome? (·.declarationOf reg)).bind fun decl =>
        decl.usage.slot p.version.stage decl.usageIndex
    else reg.slotIn p.version.stage
  else none

/-- No two registers the program writes or declares share a slot on one side of the interface:
in model 3, no two declarations repeat a usage and usage index, nor take the slot of a register
whose file and index fix it. -/
def SlotsDistinct (p : Program) : Prop :=
  ∀ reg ∈ p.registers, ∀ reg' ∈ p.registers, reg.file.isOutput = reg'.file.isOutput →
    (p.slotOf reg).isSome → p.slotOf reg = p.slotOf reg' → reg = reg'

instance (p : Program) : Decidable p.SlotsDistinct := by
  unfold SlotsDistinct
  infer_instance

variable {p : Program} {reg reg' : Register} {slot : InterfaceSlot}

theorem mem_registers_of_slotOf (h : p.slotOf reg = some slot) : reg ∈ p.registers := by
  unfold slotOf at h
  split at h
  · assumption
  · cases h

theorem mem_registers {ins : Instruction} (hins : ins ∈ p.body) {dst : Destination}
    (hd : ins.destination? = some dst) : dst.reg ∈ p.registers :=
  List.mem_filterMap.2 ⟨ins, hins, by rw [hd]; rfl⟩

/-- A register of a file that does not take slots from declarations sits where its file and
index put it. -/
theorem slotOf_fixed (hreg : reg ∈ p.registers) (hfixed : ¬p.version.DeclaresSlot reg.file) :
    p.slotOf reg = reg.slotIn p.version.stage := by
  simp [slotOf, hreg, hfixed]

/-- A register of a file that takes slots from declarations sits where its first declaration
puts it. -/
theorem slotOf_declared (hreg : reg ∈ p.registers) (hdecl : p.version.DeclaresSlot reg.file)
    {decl : Declaration} (hfirst : p.body.findSome? (·.declarationOf reg) = some decl) :
    p.slotOf reg = decl.usage.slot p.version.stage decl.usageIndex := by
  simp [slotOf, hreg, hdecl, hfirst]

/-- A register with a slot has an input or an output variable, as its file says. -/
theorem slotOf_storageClass (h : p.slotOf reg = some slot) :
    reg.file.storageClass =
      if reg.file.isOutput then StorageClass.output else StorageClass.input := by
  have hreg := mem_registers_of_slotOf h
  by_cases hdecl : p.version.DeclaresSlot reg.file
  · -- the files whose declarations give slots: vertex outputs and pixel inputs
    rcases hdecl with ⟨-, hf⟩ | ⟨-, hf, -⟩ <;>
      simp [hf, RegisterFile.storageClass, RegisterFile.isOutput]
  · rw [slotOf_fixed hreg hdecl] at h
    exact Register.storageClass_of_slotIn h

/-- A register placed by a built-in is an output, and the built-in one its stage may write. -/
theorem slotOf_builtIn {b : BuiltIn} (h : p.slotOf reg = some (.builtIn b)) :
    reg.file.isOutput ∧ b ∈ p.version.stage.builtIns := by
  have hreg := mem_registers_of_slotOf h
  by_cases hdecl : p.version.DeclaresSlot reg.file
  · simp only [slotOf, hreg, hdecl, if_true] at h
    obtain ⟨decl, -, hslot⟩ := Option.bind_eq_some_iff.1 h
    obtain ⟨hstage, hb⟩ := Usage.slot_builtIn hslot
    -- declared built-ins are those of vertex shaders, whose declared slots are outputs
    rcases hdecl with ⟨-, hf⟩ | ⟨hpixel, -⟩
    · exact ⟨by simp [hf, RegisterFile.isOutput], hstage ▸ hb⟩
    · exact absurd (hpixel.symm.trans hstage) (by decide)
  · rw [slotOf_fixed hreg hdecl] at h
    exact Register.slotIn_builtIn h

theorem slotOf_table (p : Program) : SlotTable p.version.stage p.slotOf :=
  ⟨fun _ _ h => slotOf_storageClass h, fun _ _ h => slotOf_builtIn h⟩

/-- Distinct slots make the slots of a program injective on each side of the interface. -/
theorem slotOf_injective (hslots : p.SlotsDistinct) (hside : reg.file.isOutput = reg'.file.isOutput)
    (h : p.slotOf reg = some slot) (h' : p.slotOf reg' = some slot) : reg = reg' :=
  hslots reg (mem_registers_of_slotOf h) reg' (mem_registers_of_slotOf h') hside (by simp [h])
    (h.trans h'.symm)

/-- A program whose registers are in range and of files with fixed slots has distinct slots,
the slot table giving each slot to one register on each side. -/
theorem slotsDistinct_of_fixed
    (hfixed : ∀ reg ∈ p.registers, reg.InRange ∧ ¬p.version.DeclaresSlot reg.file) :
    p.SlotsDistinct := by
  intro reg hreg reg' hreg' hside hsome heq
  obtain ⟨slot, hslot⟩ := Option.isSome_iff_exists.1 hsome
  rw [slotOf_fixed hreg (hfixed reg hreg).2] at hslot heq
  rw [slotOf_fixed hreg' (hfixed reg' hreg').2, hslot] at heq
  exact Register.slotIn_injective (hfixed reg hreg).1 (hfixed reg' hreg').1 hside hslot heq.symm

/-- The first declaration of a register that no earlier instruction declares. -/
theorem findSome?_declarationOf {pre post : List Instruction} {decl : Declaration}
    {dst : Destination} (hfresh : dst.reg ∉ pre.filterMap Instruction.declared?) :
    (pre ++ .dcl decl dst :: post).findSome? (·.declarationOf dst.reg) = some decl := by
  have hnone : pre.findSome? (·.declarationOf dst.reg) = none := by
    rw [List.findSome?_eq_none_iff]
    intro ins hins
    cases ins with
    | dcl decl' dst' =>
      -- an earlier declaration of the register would be among those of `pre`
      have hne : dst'.reg ≠ dst.reg := fun heq =>
        hfresh (List.mem_filterMap.2 ⟨_, hins, by rw [Instruction.declared?, heq]⟩)
      simp [Instruction.declarationOf, hne]
    | _ => rfl
  rw [List.findSome?_append, hnone]
  simp [Instruction.declarationOf]

end Program

/-- Two placements are one only for one slot and one variable. -/
theorem InterfaceSlot.decoration_inj {slot slot' : InterfaceSlot} {x x' : Nat}
    (h : slot.decoration x = slot'.decoration x') : slot = slot' ∧ x = x' := by
  cases slot with
  | location n =>
    cases slot' with
    | location n' =>
      simp only [decoration, Lowering.decoration, Spirv.Instruction.mk.injEq, List.cons.injEq,
        true_and, and_true] at h
      simp [h.1, h.2]
    | builtIn b' => simp [decoration, Lowering.decoration, Decoration.code] at h
  | builtIn b =>
    obtain ⟨hslot, hx⟩ := decoration_eq_builtIn h
    exact ⟨hslot.symm, hx.symm⟩

namespace Spirv.Module

variable {m m' : Module} {stage : Stage}

theorem mem_variablesOf {sc : StorageClass} {x : Nat} :
    x ∈ m.variablesOf sc ↔ ∃ i ∈ m.declarations.toList, i.IsVariableOf sc ∧ i.result = some x := by
  simp [variablesOf, and_assoc]

theorem variablesOf_subset (hd : m.declarations.toList ⊆ m'.declarations.toList)
    (sc : StorageClass) : m.variablesOf sc ⊆ m'.variablesOf sc := fun _ hx => by
  obtain ⟨i, hi, hrest⟩ := mem_variablesOf.1 hx
  exact mem_variablesOf.2 ⟨i, hd hi, hrest⟩

/-- In a module whose declarations have distinct results, a variable has one storage class. -/
theorem storageClass_eq_of_mem_variablesOf
    (hres : (m.declarations.toList.filterMap (·.result)).Nodup) {sc sc' : StorageClass} {x : Nat}
    (hx : x ∈ m.variablesOf sc) (hx' : x ∈ m.variablesOf sc') : sc = sc' := by
  obtain ⟨i, hi, ⟨-, hsc⟩, hix⟩ := mem_variablesOf.1 hx
  obtain ⟨j, hj, ⟨-, hsc'⟩, hjx⟩ := mem_variablesOf.1 hx'
  have hij := eq_of_result_eq hres hi hj hix hjx
  rw [hij, hsc'] at hsc
  cases sc
  cases sc'
  simp_all

/-- A module's interface is separated for stage `stage`: no location places two variables of one
storage class, no built-in decorates two variables, and every built-in is an output variable
of a built-in the stage may write. -/
structure Separated (stage : Stage) (m : Module) : Prop where
  locations : ∀ sc n x y, x ∈ m.variablesOf sc → y ∈ m.variablesOf sc →
    (InterfaceSlot.location n).decoration x ∈ m.annotations.toList →
    (InterfaceSlot.location n).decoration y ∈ m.annotations.toList → x = y
  builtIns : ∀ b x y, (InterfaceSlot.builtIn b).decoration x ∈ m.annotations.toList →
    (InterfaceSlot.builtIn b).decoration y ∈ m.annotations.toList → x = y
  legal : ∀ b x, (InterfaceSlot.builtIn b).decoration x ∈ m.annotations.toList →
    b ∈ stage.builtIns ∧ x ∈ m.variablesOf .output

/-- The placements of a module are the slots `σ` gives the registers `regs`, each paired with the
id of its variable, which is of its register's storage class. -/
structure SlottedBy (σ : Register → Option InterfaceSlot) (regs : List (Register × Nat))
    (m : Module) : Prop where
  declared : ∀ p ∈ regs, p.2 ∈ m.variablesOf p.1.file.storageClass
  placements : ∀ a ∈ m.annotations.toList, a.IsPlacement →
    ∃ p ∈ regs, ∃ slot, σ p.1 = some slot ∧ a = slot.decoration p.2

variable {σ : Register → Option InterfaceSlot} {regs : List (Register × Nat)}

/-- More declarations, and no placements but the old ones, keep a module slotted. -/
theorem SlottedBy.mono (h : m.SlottedBy σ regs)
    (hd : m.declarations.toList ⊆ m'.declarations.toList)
    (ha : ∀ a ∈ m'.annotations.toList, a.IsPlacement → a ∈ m.annotations.toList) :
    m'.SlottedBy σ regs :=
  ⟨fun p hp => variablesOf_subset hd _ (h.declared p hp),
    fun a hmem hp => h.placements a (ha a hmem hp) hp⟩

/-- Being slotted by registers depends on which registers, not on their order. -/
theorem SlottedBy.congr (h : m.SlottedBy σ regs) {regs' : List (Register × Nat)}
    (hregs : ∀ p, p ∈ regs' ↔ p ∈ regs) : m.SlottedBy σ regs' :=
  ⟨fun p hp => h.declared p ((hregs p).1 hp), fun a hmem hp => by
    obtain ⟨p, hp', hrest⟩ := h.placements a hmem hp
    exact ⟨p, (hregs p).2 hp', hrest⟩⟩

/-- Declaring the variable `x` of register `reg` and placing it by the register's slot adds the
register to those that slot the module. -/
theorem SlottedBy.push_interface (h : m.SlottedBy σ regs) {reg : Register}
    {slot : InterfaceSlot} (hslot : σ reg = some slot) (pointer x : Nat) :
    ((m.push .declarations
        { op := Op.var, resultType := some pointer, result := some x,
          operands := [reg.file.storageClass.code] }).push .annotations
      (slot.decoration x)).SlottedBy σ (regs ++ [(reg, x)]) := by
  refine ⟨fun p hp => ?_, fun a hmem hp => ?_⟩
  · simp only [List.mem_append, List.mem_singleton] at hp
    rcases hp with hp | rfl
    · exact variablesOf_subset (by simp [push]) _ (h.declared p hp)
    · exact mem_variablesOf.2 ⟨{ op := Op.var, resultType := some pointer, result := some x,
                                   operands := [reg.file.storageClass.code] },
        by simp [push], ⟨rfl, rfl⟩, rfl⟩
  · simp only [push, Array.toList_push, List.mem_append, List.mem_singleton] at hmem
    rcases hmem with hmem | rfl
    · obtain ⟨p, hp, hrest⟩ := h.placements a hmem hp
      exact ⟨p, List.mem_append_left _ hp, hrest⟩
    · exact ⟨(reg, x), by simp, slot, hslot, rfl⟩

/-- A module slotted by distinct registers, whose declarations have distinct results, is
separated when its slot table gives each slot to one register on each side of the interface. -/
theorem SlottedBy.separated (h : m.SlottedBy σ regs) (ht : SlotTable stage σ)
    (hinj : ∀ reg reg' slot, reg.file.isOutput = reg'.file.isOutput → σ reg = some slot →
      σ reg' = some slot → reg = reg')
    (hkeys : (regs.map Prod.fst).Nodup) (hres : (m.declarations.toList.filterMap (·.result)).Nodup) :
    m.Separated stage := by
  have hplaced : ∀ slot x, slot.decoration x ∈ m.annotations.toList →
      ∃ p ∈ regs, p.2 = x ∧ σ p.1 = some slot := by
    intro slot x hx
    obtain ⟨p, hp, slot', hslot', heq⟩ := h.placements _ hx (slot.isPlacement_decoration x)
    obtain ⟨rfl, rfl⟩ := InterfaceSlot.decoration_inj heq
    exact ⟨p, hp, rfl, hslot'⟩
  have hone : ∀ p ∈ regs, ∀ q ∈ regs, ∀ slot, σ p.1 = some slot → σ q.1 = some slot →
      p.1.file.isOutput = q.1.file.isOutput → p.2 = q.2 := by
    intro p hp q hq slot hps hqs hside
    rw [List.inj_on_of_nodup_map hkeys hp hq (hinj _ _ slot hside hps hqs)]
  refine ⟨fun sc n x y hx hy hnx hny => ?_, fun b x y hbx hby => ?_, fun b x hbx => ?_⟩
  · obtain ⟨p, hp, rfl, hps⟩ := hplaced _ _ hnx
    obtain ⟨q, hq, rfl, hqs⟩ := hplaced _ _ hny
    -- both variables are of storage class `sc`, so both registers are on its side
    have hpsc := storageClass_eq_of_mem_variablesOf hres hx (h.declared p hp)
    have hqsc := storageClass_eq_of_mem_variablesOf hres hy (h.declared q hq)
    exact hone p hp q hq _ hps hqs (ht.isOutput_eq hps hqs (hpsc.symm.trans hqsc))
  · obtain ⟨p, hp, rfl, hps⟩ := hplaced _ _ hbx
    obtain ⟨q, hq, rfl, hqs⟩ := hplaced _ _ hby
    -- a built-in places outputs only
    rw [hone p hp q hq _ hps hqs (by rw [(ht.builtIn _ _ hps).1, (ht.builtIn _ _ hqs).1])]
  · obtain ⟨p, hp, rfl, hps⟩ := hplaced _ _ hbx
    obtain ⟨hout, hlegal⟩ := ht.builtIn _ _ hps
    have hvar := h.declared p hp
    rw [RegisterFile.storageClass_of_isOutput hout] at hvar
    exact ⟨hlegal, hvar⟩

/-- Declarations and decorations as they were keep a module slotted. -/
theorem SlottedBy.of_eq (h : m.SlottedBy σ regs) (hd : m'.declarations = m.declarations)
    (ha : m'.annotations = m.annotations) : m'.SlottedBy σ regs :=
  h.mono (by rw [hd]; exact List.Subset.refl _) fun _ hmem _ => ha ▸ hmem

end Spirv.Module

namespace Lowering

/-- The registers recorded with an interface variable, inputs then outputs, each paired with the
id of its variable. -/
def recorded (s : Lowering) : List (Register × Nat) :=
  s.inputs.map (fun p => (p.1, p.2.id)) ++ s.outputs.map (fun p => (p.1, p.2.id))

/-- The registers of a counted interface are distinct and in range: inputs and outputs each
once, and no register both, as their files differ. -/
theorem InterfaceCount.recorded {k : Nat} {s : Lowering} (h : s.Interfaced k) :
    (s.recorded.map Prod.fst).Nodup ∧ ∀ p ∈ s.recorded, p.1.InRange := by
  have hin : ∀ r ∈ s.inputs.map Prod.fst, ¬r.file.isOutput := by
    intro r hr
    obtain ⟨p, hp, rfl⟩ := List.mem_map.1 hr
    rcases (h.inputs p hp).2.1 with hfile | hfile <;> simp [hfile, RegisterFile.isOutput]
  have hout : ∀ r ∈ s.outputs.map Prod.fst, r.file.isOutput := by
    intro r hr
    obtain ⟨p, hp, rfl⟩ := List.mem_map.1 hr
    exact (h.outputs p hp).2
  refine ⟨?_, fun p hp => ?_⟩
  · simp only [Lowering.recorded, List.map_append, List.map_map]
    refine List.nodup_append.2 ⟨h.inputs_nodup, h.outputs_nodup, fun r hr r' hr' heq => ?_⟩
    subst heq
    exact hin r hr (hout r hr')
  · simp only [Lowering.recorded, List.mem_append, List.mem_map] at hp
    rcases hp with ⟨q, hq, rfl⟩ | ⟨q, hq, rfl⟩
    · exact (h.inputs q hq).1
    · exact (h.outputs q hq).1

/-- The register has its variable recorded: among the outputs for a register of an output file,
among the inputs otherwise. -/
def HasVariable (s : Lowering) (reg : Register) : Prop :=
  ((if reg.file.isOutput then s.outputs else s.inputs).lookup reg).isSome

/-- A recorded variable stays recorded while the inputs and outputs only grow at their heads. -/
theorem HasVariable.mono {s s' : Lowering} {reg : Register} (h : s.HasVariable reg)
    (hin : ∃ l, s'.inputs = l ++ s.inputs) (hout : ∃ l, s'.outputs = l ++ s.outputs) :
    s'.HasVariable reg := by
  obtain ⟨li, hi⟩ := hin
  obtain ⟨lo, ho⟩ := hout
  unfold HasVariable at h ⊢
  rw [hi, ho]
  split at h <;> simp_all [List.lookup_append]

/-- What lowering program `prog` keeps for its interface: the module's placements are the slots
of the recorded registers and of the registers `pending`, declared and placed but not yet
recorded, and each register of `D` whose declaration gives its slot has its variable. -/
structure Slotting (prog : Program) (D : List Register) (pending : List (Register × Nat))
    (s : Lowering) : Prop where
  version : s.version = prog.version
  declared : ∀ reg ∈ D, prog.version.DeclaresSlot reg.file → s.HasVariable reg
  slotted : s.builder.module.SlottedBy prog.slotOf (s.recorded ++ pending)

namespace Slotting

variable {prog : Program} {D : List Register} {pending : List (Register × Nat)} {s s' : Lowering}

/-- `Slotting` reads the version, the module, the inputs and the outputs of the state. -/
theorem of_eq (h : s.Slotting prog D pending) (hv : s'.version = s.version)
    (hb : s'.builder = s.builder) (hi : s'.inputs = s.inputs) (ho : s'.outputs = s.outputs) :
    s'.Slotting prog D pending := by
  have hr : s'.recorded = s.recorded := by simp only [recorded, hi, ho]
  exact ⟨hv.trans h.version,
    fun reg hreg hd => (h.declared reg hreg hd).mono ⟨[], hi⟩ ⟨[], ho⟩, hb ▸ hr ▸ h.slotted⟩

/-- A module grown by declarations, and by decorations that place nothing, keeps the state
slotting. -/
theorem of_module (h : s.Slotting prog D pending) (hv : s'.version = s.version)
    (hi : s'.inputs = s.inputs) (ho : s'.outputs = s.outputs)
    (hd : s.builder.module.declarations.toList ⊆ s'.builder.module.declarations.toList)
    (ha : ∀ a ∈ s'.builder.module.annotations.toList, a.IsPlacement →
      a ∈ s.builder.module.annotations.toList) :
    s'.Slotting prog D pending := by
  have hr : s'.recorded = s.recorded := by simp only [recorded, hi, ho]
  exact ⟨hv.trans h.version, fun reg hreg hdecl => (h.declared reg hreg hdecl).mono ⟨[], hi⟩ ⟨[], ho⟩,
    hr ▸ h.slotted.mono hd ha⟩

theorem withBuilder (h : s.Slotting prog D pending) {b : Builder}
    (hb : Builder.TypeStep s.builder b) :
    ({ s with builder := b } : Lowering).Slotting prog D pending :=
  h.of_module rfl rfl rfl hb.grows.declarations_subset fun _ hmem _ => hb.grows.2 ▸ hmem

theorem emit (h : s.Slotting prog D pending) (i : Spirv.Instruction) :
    (s.withModule (s.builder.module.push .functions i)).Slotting prog D pending :=
  h.of_module rfl rfl rfl (List.Subset.refl _) fun _ hmem _ => hmem

/-- Fewer declared registers ask less. -/
theorem mono_declared (h : s.Slotting prog D pending) {D' : List Register} (hD : D' ⊆ D) :
    s.Slotting prog D' pending :=
  ⟨h.version, fun reg hreg => h.declared reg (hD hreg), h.slotted⟩

/-- A declared register whose variable is recorded joins the declared registers. -/
theorem record (h : s.Slotting prog D pending) {reg : Register} (hreg : s.HasVariable reg) :
    s.Slotting prog (reg :: D) pending := by
  refine ⟨h.version, fun r hr hdecl => ?_, h.slotted⟩
  rcases List.mem_cons.1 hr with rfl | hr
  · exact hreg
  · exact h.declared r hr hdecl

/-- A declared register of a file with fixed slots joins the declared registers. -/
theorem record_fixed (h : s.Slotting prog D pending) {reg : Register}
    (hfixed : ¬prog.version.DeclaresSlot reg.file) : s.Slotting prog (reg :: D) pending := by
  refine ⟨h.version, fun r hr hdecl => ?_, h.slotted⟩
  rcases List.mem_cons.1 hr with rfl | hr
  · exact absurd hdecl hfixed
  · exact h.declared r hr hdecl

/-- A register whose declaration gives its slot and whose variable is not recorded was not
declared before. -/
theorem not_mem_declared (h : s.Slotting prog D pending) (reg : Register)
    (hnone : ¬s.HasVariable reg) : prog.version.DeclaresSlot reg.file → reg ∉ D :=
  fun hdecl hreg => hnone (h.declared reg hreg hdecl)

/-- Declaring the variable `x` of register `reg` with its slot's placement makes `reg` pending. -/
theorem push_interface (h : s.Slotting prog D []) {reg : Register} {slot : InterfaceSlot}
    (hslot : prog.slotOf reg = some slot) (pointer x : Nat) (n : Spirv.Instruction) :
    ({ s with
        builder := { s.builder with
          module := ((s.builder.module.push .declarations
              { op := Op.var, resultType := some pointer, result := some x,
                operands := [reg.file.storageClass.code] }).push .annotations
            (slot.decoration x)).push .names n }
        interface := s.interface.push x } : Lowering).Slotting prog D [(reg, x)] := by
  refine ⟨h.version, h.declared, ?_⟩
  have hpush := h.slotted.push_interface hslot pointer x
  rw [List.append_nil] at hpush
  exact hpush.of_eq rfl rfl

/-- Recording the pending register of a new variable as an input. -/
theorem add_input (h : s.Slotting prog D [(reg, x)]) {var : InterfaceVar} (hx : var.id = x)
    (hv : s'.version = s.version) (hb : s'.builder = s.builder)
    (hin : s'.inputs = (reg, var) :: s.inputs) (hout : s'.outputs = s.outputs) :
    s'.Slotting prog D [] := by
  refine ⟨hv.trans h.version,
    fun r hr hdecl => (h.declared r hr hdecl).mono ⟨[(reg, var)], hin⟩ ⟨[], hout⟩,
    hb ▸ h.slotted.congr fun p => ?_⟩
  simp only [recorded, hin, hout, hx, List.map_cons, List.cons_append, List.append_nil,
    List.mem_cons, List.mem_append]
  tauto

/-- Recording the pending register of a new variable as an output. -/
theorem add_output (h : s.Slotting prog D [(reg, x)]) {var : InterfaceVar} (hx : var.id = x)
    (hv : s'.version = s.version) (hb : s'.builder = s.builder)
    (hin : s'.inputs = s.inputs) (hout : s'.outputs = (reg, var) :: s.outputs) :
    s'.Slotting prog D [] := by
  refine ⟨hv.trans h.version,
    fun r hr hdecl => (h.declared r hr hdecl).mono ⟨[], hin⟩ ⟨[(reg, var)], hout⟩,
    hb ▸ h.slotted.congr fun p => ?_⟩
  simp only [recorded, hin, hout, hx, List.map_cons, List.append_nil, List.mem_cons,
    List.mem_append]
  tauto

end Slotting

variable {prog : Program} {D : List Register}

/-- A type step keeps a sound, declared builder so, and the state slotting. -/
theorem build_slotting {α : Type} {x : BuildM α} {pending : List (Register × Nat)}
    (hx : ∀ b : Builder, b.module.Declared → b.TypesSound → Builder.TypeStep b (x b).2) :
    ⦃fun s => ⌜(s.builder.module.Declared ∧ s.builder.TypesSound) ∧ s.Slotting prog D pending⌝⦄
      build x
    ⦃⇓? _ s => ⌜(s.builder.module.Declared ∧ s.builder.TypesSound) ∧
      s.Slotting prog D pending⌝⦄ :=
  fun s ⟨⟨hm, hs⟩, h⟩ =>
    have hstep := hx s.builder hm hs
    ⟨⟨hstep.declared, hstep.sound⟩, h.withBuilder hstep⟩

/-- A type step keeps a framed, placing state slotting. -/
theorem build_slotted {α : Type} {x : BuildM α}
    (hx : ∀ b : Builder, b.module.Declared → b.TypesSound → Builder.TypeStep b (x b).2) :
    ⦃fun s => ⌜(s.Framed ∧ s.Placing prog.version.stage) ∧ s.Slotting prog D []⌝⦄ build x
      ⦃⇓? _ s => ⌜s.Slotting prog D []⌝⦄ :=
  fun s hs => hs.2.withBuilder (hx s.builder hs.1.1.1.toDeclared hs.1.2.types)

/-- The steps that compute values keep a state framed, placing and slotting. -/
theorem slotting_basic (prog : Program) (D : List Register) :
    Basic (fun s => (s.Framed ∧ s.Placing prog.version.stage) ∧ s.Slotting prog D []) where
  alloc := keeps_and (placing_basic _).alloc
    (build_slotted fun _ hm hs => Builder.alloc_typeStep hm hs)
  emit i hi := keeps_and ((placing_basic _).emit i hi) fun _ hs => hs.2.emit i
  typeId _ hd := keeps_and ((placing_basic _).typeId _ hd)
    (build_slotted fun _ hm hs => (Builder.typeId_typeStep hm hs hd).1)
  pointerTypeId _ sc hd := keeps_and ((placing_basic _).pointerTypeId _ sc hd)
    (build_slotted fun _ hm hs => Builder.pointerTypeId_typeStep hm hs hd sc)
  null _ hd := keeps_and ((placing_basic _).null _ hd)
    (build_slotted fun _ hm hs => Builder.null_typeStep hm hs hd)
  float32 bits := keeps_and ((placing_basic _).float32 bits)
    (build_slotted fun _ hm hs => Builder.float32_typeStep hm hs bits)
  int32 bits := keeps_and ((placing_basic _).int32 bits)
    (build_slotted fun _ hm hs => Builder.int32_typeStep hm hs bits)
  vec4Constant _ hbits := keeps_and ((placing_basic _).vec4Constant _ hbits)
    (build_slotted fun _ hm hs => Builder.vec4Constant_typeStep hm hs hbits)
  composite _ hlen := keeps_and ((placing_basic _).composite _ hlen)
    (build_slotted fun _ hm hs => Builder.composite_typeStep hm hs TypeDesc.canonical_ivec4 hlen)
  boolean value := keeps_and ((placing_basic _).boolean value)
    (build_slotted fun _ hm hs => Builder.boolean_typeStep hm hs value)
  bindValue reg id := keeps_and ((placing_basic _).bindValue reg id)
    fun _ hs => hs.2.of_eq rfl rfl rfl rfl
  markDefined s reg hs := ⟨(placing_basic _).markDefined s reg hs.1,
    hs.2.of_eq rfl rfl rfl rfl⟩

section

set_option mvcgen.warning false

attribute [local spec] declare_spec annotate_spec addName_spec

/-- The interface variable of a register with a slot leaves the register pending. -/
theorem interfaceVariable_slotting (reg : Register) (ty : TypeDesc) (slot : InterfaceSlot)
    (hty : ty.Canonical) (hslot : prog.slotOf reg = some slot) :
    ⦃fun s => ⌜(s.builder.module.Declared ∧ s.builder.TypesSound) ∧ s.Slotting prog D []⌝⦄
      interfaceVariable reg ty slot ⦃⇓? x s => ⌜s.Slotting prog D [(reg, x)]⌝⦄ := by
  have hpointer := @build_slotting prog D _ (Builder.pointerTypeId ty reg.file.storageClass) []
    fun _ hm hs => Builder.pointerTypeId_typeStep hm hs hty _
  have halloc : ⦃fun s => ⌜(s.builder.module.Declared ∧ s.builder.TypesSound) ∧
        s.Slotting prog D []⌝⦄ alloc
      ⦃⇓? _ s => ⌜(s.builder.module.Declared ∧ s.builder.TypesSound) ∧ s.Slotting prog D []⌝⦄ :=
    build_slotting fun _ hm hs => Builder.alloc_typeStep hm hs
  mvcgen [interfaceVariable, hpointer, halloc]
  rename_i pointer _ _ x s hs _
  dsimp +zetaDelta only
  exact hs.2.push_interface hslot pointer x _

/-- Creating the variable of an output register with a slot records it. -/
theorem createOutput_slotting (reg : Register) (ty : TypeDesc) (slot : InterfaceSlot)
    (usage : Option Usage) (hty : ty.Canonical) (hslot : prog.slotOf reg = some slot) :
    ⦃fun s => ⌜(s.builder.module.Declared ∧ s.builder.TypesSound) ∧ s.Slotting prog D []⌝⦄
      createOutput reg ty slot usage
      ⦃⇓? _ s => ⌜s.Slotting prog D [] ∧ (s.outputs.lookup reg).isSome⌝⦄ := by
  have hvar := @interfaceVariable_slotting prog D reg ty slot hty hslot
  mvcgen [createOutput, hvar] with
    (have h := ‹Slotting prog D [(reg, _)] _›
     dsimp +zetaDelta only
     exact ⟨h.add_output rfl rfl rfl rfl rfl, by simp⟩)

/-- A framed, placing and slotting state is ready for an interface variable, and so is the state
with its depth flag or its other bookkeeping changed. -/
theorem Slotting.prepared {s s' : Lowering}
    (h : (s.Framed ∧ s.Placing prog.version.stage) ∧ s.Slotting prog D [])
    (hv : s'.version = s.version) (hb : s'.builder = s.builder) (hi : s'.inputs = s.inputs)
    (ho : s'.outputs = s.outputs) :
    (s'.builder.module.Declared ∧ s'.builder.TypesSound) ∧ s'.Slotting prog D [] :=
  ⟨⟨hb ▸ h.1.1.1.toDeclared, hb ▸ h.1.2.types⟩, h.2.of_eq hv hb hi ho⟩

theorem declareVertexInput_slotting (reg : Register) (usage : Usage)
    (hslot : prog.slotOf reg = some (.location reg.index)) :
    ⦃fun s => ⌜(s.Framed ∧ s.Placing prog.version.stage) ∧ s.Slotting prog D []⌝⦄
      declareVertexInput reg usage ⦃⇓? _ s => ⌜s.Slotting prog D []⌝⦄ := by
  have hvar := fun ty (hty : TypeDesc.Canonical ty) =>
    @interfaceVariable_slotting prog D reg ty _ hty hslot
  have hty : ∀ packed : Bool,
      (if packed = true ∧ usage = .color then TypeDesc.uintVector 4 else TypeDesc.vec4).Canonical := by
    intro packed
    split <;> simp
  mvcgen [declareVertexInput, hvar] with
    first
    | exact hty _
    | exact ‹(Framed _ ∧ _) ∧ _›.2
    | (refine Slotting.prepared ‹_› ?_ ?_ ?_ ?_ <;> rfl)
    | (have h := ‹Slotting prog D [(reg, _)] _›
       exact h.add_input rfl rfl rfl rfl rfl)

/-- A pixel input is declared at the slot of its usage, which is its register's slot unless an
earlier declaration gave the register its slot and variable. -/
theorem declarePixelInput_slotting (reg : Register) (usage : Usage) (index : Nat)
    (hfile : reg.file.isOutput = false)
    (hslot : (prog.version.DeclaresSlot reg.file → reg ∉ D) →
      prog.slotOf reg = usage.slot .pixel index) :
    ⦃fun s => ⌜(s.Framed ∧ s.Placing prog.version.stage) ∧ s.Slotting prog D []⌝⦄
      declarePixelInput reg usage index ⦃⇓? _ s => ⌜s.Slotting prog (reg :: D) []⌝⦄ := by
  have hvar := fun n (hn : prog.slotOf reg = some (.location n)) =>
    @interfaceVariable_slotting prog D reg TypeDesc.vec4 _ TypeDesc.canonical_vec4 hn
  mvcgen [declarePixelInput, hvar] with
    first
    | exact Slotting.prepared ‹_› rfl rfl rfl rfl
    | -- a register declared before keeps its variable
      (have hs := ‹(Framed _ ∧ _) ∧ _›.2
       exact hs.record (by simpa [HasVariable, hfile] using ‹(List.lookup reg _).isSome = true›))
    | -- a register not recorded was not declared before, so this declaration gives its slot
      (have hs := ‹(Framed _ ∧ _) ∧ _›.2
       have hfresh := hs.not_mem_declared reg
         (by simpa [HasVariable, hfile] using ‹¬(List.lookup reg _).isSome = true›)
       rw [hslot hfresh]
       simp [Usage.slot, ‹usage.varyingLocation index = _›])
    | (have h := ‹Slotting prog D [(reg, _)] _›
       dsimp +zetaDelta only
       refine Slotting.record ?_ (by simp [HasVariable, hfile])
       exact h.add_input rfl rfl rfl rfl rfl)

/-- A model 3 vertex output is declared at the slot of its usage, which is its register's slot
unless an earlier declaration gave the register its slot and variable. -/
theorem declareOutput_slotting (reg : Register) (usage : Usage) (index : Nat)
    (hfile : reg.file.isOutput = true)
    (hslot : (prog.version.DeclaresSlot reg.file → reg ∉ D) →
      prog.slotOf reg = usage.slot .vertex index) :
    ⦃fun s => ⌜(s.Framed ∧ s.Placing prog.version.stage) ∧ s.Slotting prog D []⌝⦄
      declareOutput reg usage index ⦃⇓? _ s => ⌜s.Slotting prog (reg :: D) []⌝⦄ := by
  have hcreate := fun ty slot (hty : TypeDesc.Canonical ty) (hs : prog.slotOf reg = some slot) =>
    @createOutput_slotting prog D reg ty slot (some usage) hty hs
  have hty : ∀ scalar : Prop, [Decidable scalar] →
      (if scalar then TypeDesc.float else TypeDesc.vec4).Canonical := by
    intro scalar _
    split <;> simp
  mvcgen [declareOutput, hcreate] with
    first
    | exact hty _
    | exact Slotting.prepared ‹_› rfl rfl rfl rfl
    | -- a register declared before keeps its variable
      (have hs := ‹(Framed _ ∧ _) ∧ _›.2
       exact hs.record (by simpa [HasVariable, hfile] using ‹(List.lookup reg _).isSome = true›))
    | (intro h hout
       exact h.record (by simpa [HasVariable, hfile] using hout))
    | -- a register not recorded was not declared before, so this declaration gives its slot
      (have hs := ‹(Framed _ ∧ _) ∧ _›.2
       have hfresh := hs.not_mem_declared reg
         (by simpa [HasVariable, hfile] using ‹¬(List.lookup reg _).isSome = true›)
       rw [hslot hfresh]
       unfold Usage.slot
       split <;> simp_all)

/-- An output register whose file and index fix its slot, among those the program writes, sits at
that slot. -/
theorem ensureOutput_slotting (reg : Register) (hreg : reg ∈ prog.registers)
    (hown : reg.file.isOutput → reg.file.OutputOf prog.version.stage) :
    ⦃fun s => ⌜(s.Framed ∧ s.Placing prog.version.stage) ∧ s.Slotting prog D []⌝⦄ ensureOutput reg
      ⦃⇓? _ s => ⌜s.Slotting prog D []⌝⦄ := by
  have hcreate := fun ty slot (hty : TypeDesc.Canonical ty) (hslot : prog.slotOf reg = some slot) =>
    @createOutput_slotting prog D reg ty slot none hty hslot
  have hty : ∀ scalar : Prop, [Decidable scalar] →
      (if scalar then TypeDesc.float else TypeDesc.vec4).Canonical := by
    intro scalar _
    split <;> simp
  -- the file of each branch fixes the stage, and with it the slot the table gives
  have hvertex : reg.file = .rastOut ∨ reg.file = .attrOut ∨ reg.file = .texCoordOut →
      prog.version.stage = .vertex := fun hf =>
    (hown (by rcases hf with hf | hf | hf <;> rw [hf] <;> rfl)).vertex hf
  have hpixel : reg.file = .colorOut ∨ reg.file = .depthOut → prog.version.stage = .pixel :=
    fun hf => (hown (by rcases hf with hf | hf <;> rw [hf] <;> rfl)).pixel hf
  mvcgen [ensureOutput, hcreate] with
    first
    | exact hty _
    | exact ‹(Framed _ ∧ _) ∧ _›.2
    | exact fun h _ => h
    | -- the depth flag is no part of what an interface variable needs
      (refine Slotting.prepared ‹_› ?_ ?_ ?_ ?_ <;> rfl)
    | (rw [prog.slotOf_fixed hreg (by simp [ShaderVersion.DeclaresSlot, ‹reg.file = _›])]
       first
       | (have hf : reg.file = .texCoordOut := ‹_›
          simp [Register.slotIn, hvertex (.inr (.inr hf)), hf, ‹reg.index = _›,
            ‹Usage.texCoord.varyingLocation _ = _›])
       | (have hf : reg.file = .rastOut ∨ reg.file = .attrOut := by simp [‹reg.file = _›]
          simp [Register.slotIn, hvertex (hf.imp_right .inl), ‹reg.file = _›, ‹reg.index = _›,
            Usage.varyingLocation])
       | (have hf : reg.file = .colorOut ∨ reg.file = .depthOut := by simp [‹reg.file = _›]
          simp [Register.slotIn, hpixel hf, ‹reg.file = _›, ‹reg.index = _›]))

theorem declareSampler_slotting (index : Nat) (type : TextureType) :
    ⦃fun s => ⌜(s.Framed ∧ s.Placing prog.version.stage) ∧ s.Slotting prog D []⌝⦄
      declareSampler index type ⦃⇓? _ s => ⌜s.Slotting prog D []⌝⦄ := by
  have himage := fun dim => (slotting_basic prog D).pointerTypeId (TypeDesc.image dim)
    StorageClass.uniformConstant (TypeDesc.canonical_image dim)
  have hsampler := (slotting_basic prog D).pointerTypeId TypeDesc.sampler
    StorageClass.uniformConstant TypeDesc.canonical_sampler
  have halloc := (slotting_basic prog D).alloc
  -- the loop over the two variables, unrolled
  simp only [declareSampler, List.forIn_cons, List.forIn_nil]
  mvcgen [himage, hsampler, halloc]
  -- a sampler declared before is kept
  · exact ‹(Framed _ ∧ _) ∧ _›.2
  rename_i s hs _
  dsimp +zetaDelta only
  refine hs.2.of_module ?_ ?_ ?_ (fun i hi => by simp [Module.push, hi]) fun a ha hp => ?_
  any_goals rfl
  -- the texture and the sampler variable are bound by descriptors, and placed by nothing
  simp only [Module.push, Array.toList_push, List.append_assoc, List.singleton_append,
    List.mem_append, List.mem_cons, List.not_mem_nil, or_false, or_assoc] at ha
  rcases ha with ha | rfl | rfl | rfl | rfl
  · exact ha
  all_goals simp at hp

theorem constantBlock_slotting :
    ⦃fun s => ⌜(s.Framed ∧ s.Placing prog.version.stage) ∧ s.Slotting prog D []⌝⦄ constantBlock
      ⦃⇓? _ s => ⌜s.Slotting prog D []⌝⦄ := by
  have htype := (slotting_basic prog D).typeId
  have huint : ∀ n,
      ⦃fun s => ⌜(s.Framed ∧ s.Placing prog.version.stage) ∧ s.Slotting prog D []⌝⦄
        build (Builder.uint32 n)
        ⦃⇓? _ s => ⌜(s.Framed ∧ s.Placing prog.version.stage) ∧ s.Slotting prog D []⌝⦄ := fun n =>
    keeps_and (build_placing fun _ hm hs => Builder.uint32_typeStep hm hs n)
      (build_slotted fun _ hm hs => Builder.uint32_typeStep hm hs n)
  have hpointer := (slotting_basic prog D).pointerTypeId
  have halloc := (slotting_basic prog D).alloc
  mvcgen [constantBlock, htype, huint, hpointer, halloc]
  -- a block declared before is kept; the types asked for are canonical
  · exact ‹(Framed _ ∧ _) ∧ _›.2
  · exact TypeDesc.canonical_vec4
  · exact TypeDesc.canonical_struct _
  · exact TypeDesc.canonical_struct _
  rename_i s hs _
  dsimp +zetaDelta only
  refine hs.2.of_module ?_ ?_ ?_ (fun i hi => by simp [Module.push, hi]) fun a ha hp => ?_
  any_goals rfl
  -- the decorations of the block's types and variable place nothing
  simp only [Module.push, Array.toList_push, List.append_assoc, List.singleton_append,
    List.mem_append, List.mem_cons, List.not_mem_nil, or_false, or_assoc] at ha
  rcases ha with ha | rfl | rfl | rfl | rfl | rfl
  · exact ha
  all_goals first
    | simp at hp
    | simp [Instruction.IsPlacement, Op.memberDecorate, Op.decorate] at hp

theorem loadInput_slotting (reg : Register) :
    ⦃fun s => ⌜(s.Framed ∧ s.Placing prog.version.stage) ∧ s.Slotting prog D []⌝⦄ loadInput reg
      ⦃⇓? _ s => ⌜(s.Framed ∧ s.Placing prog.version.stage) ∧ s.Slotting prog D []⌝⦄ := by
  have htype := (slotting_basic prog D).typeId
  have hcompute := (slotting_basic prog D).compute_keeps
  have hunpack := (slotting_basic prog D).unpackColor_keeps
  mvcgen [loadInput, htype, hcompute, hunpack] with
    first
    | simp
    | -- the variable of an input register has the type of a recorded input
      (obtain ⟨_, hmem⟩ := snd_mem_of_lookup ‹List.lookup _ _ = some _›
       exact (‹(Framed _ ∧ _) ∧ _›.1.1.2.inputs _ hmem).2.2)

/-- A declaration of a register of the program places its variable at the register's slot, and
records the register among those declared. -/
theorem declare_slotting (decl : Declaration) (dst : Destination)
    (hreg : dst.reg ∈ prog.registers)
    (hfirst : dst.reg ∉ D → prog.body.findSome? (·.declarationOf dst.reg) = some decl) :
    ⦃fun s => ⌜(s.Framed ∧ s.Placing prog.version.stage) ∧ s.Slotting prog D []⌝⦄
      declare decl dst ⦃⇓? _ s => ⌜s.Slotting prog (dst.reg :: D) []⌝⦄ := by
  -- a first declaration gives the slot of a register whose file takes slots from declarations
  have hdeclared : ∀ stage, prog.version.stage = stage → prog.version.DeclaresSlot dst.reg.file →
      dst.reg ∉ D → prog.slotOf dst.reg = decl.usage.slot stage decl.usageIndex := by
    intro stage hstage hdecl hfresh
    rw [prog.slotOf_declared hreg hdecl (hfirst hfresh), hstage]
  -- any other declaration places its register at the slot its file and index fix
  have hfixed : ∀ stage, prog.version.stage = stage → ¬prog.version.DeclaresSlot dst.reg.file →
      prog.slotOf dst.reg = dst.reg.slotIn stage := by
    intro stage hstage hfixed
    rw [prog.slotOf_fixed hreg hfixed, hstage]
  have hsampler := fun index type => @declareSampler_slotting prog D index type
  have hvertex := fun usage (hslot : prog.slotOf dst.reg = some (.location dst.reg.index)) =>
    @declareVertexInput_slotting prog D dst.reg usage hslot
  have hpixel := @declarePixelInput_slotting prog D dst.reg
  have houtput := @declareOutput_slotting prog D dst.reg
  mvcgen [declare, hsampler, hvertex, hpixel, houtput] with
    first
    | (have hfile : dst.reg.file = _ := ‹_›
       rw [hfile]
       rfl)
    | (have hs := ‹(Framed _ ∧ _) ∧ _›
       have hst := ‹(_ : Lowering).version.stage = _›
       have hfile : dst.reg.file = _ := ‹_›
       rw [hs.2.version] at hst
       first
       | -- samplers and vertex inputs are of files with fixed slots
         (intro h
          refine h.record_fixed ?_
          simp [ShaderVersion.DeclaresSlot, hfile, hst])
       | -- a vertex input sits at its index
         (rw [hfixed _ hst]
          · simp [Register.slotIn, hfile]
          · simp [ShaderVersion.DeclaresSlot, hfile, hst])
       | -- a vertex output's first declaration gives its slot
         (have hdecl : prog.version.DeclaresSlot dst.reg.file := .inl ⟨hst, hfile⟩
          intro hfresh
          exact hdeclared _ hst hdecl (hfresh (hfile ▸ hdecl)))
       | -- so does a model 3 pixel input's
         (have hmajor := ‹3 ≤ (_ : Lowering).version.major›
          rw [hs.2.version] at hmajor
          have hdecl : prog.version.DeclaresSlot dst.reg.file := .inr ⟨hst, hfile, hmajor⟩
          intro hfresh
          exact hdeclared _ hst hdecl (hfresh (hfile ▸ hdecl)))
       | -- earlier pixel inputs sit at the varying location of their index's colour
         (have hmajor := ‹¬3 ≤ (_ : Lowering).version.major›
          rw [hs.2.version] at hmajor
          intro _
          rw [hfixed _ hst]
          · simp +zetaDelta [Register.slotIn, Usage.slot, hfile]
          · simp [ShaderVersion.DeclaresSlot, hfile, hmajor])
       | -- texture coordinates at that of their index's texture coordinate
         (intro _
          rw [hfixed _ hst]
          · simp +zetaDelta [Register.slotIn, Usage.slot, hfile]
          · simp [ShaderVersion.DeclaresSlot, hfile]))

/-- The registers the instructions declare. -/
def declaredIn (body : List Instruction) : List Register :=
  body.filterMap Instruction.declared?

/-- Being framed, placing and slotting is closed under the primitive steps of lowering, outputs
included for the registers the program writes of its stage's own files. -/
theorem slotting_closed (prog : Program) (D : List Register) :
    ClosedOn (fun reg => reg.InRange ∧ reg ∈ prog.registers ∧
        (reg.file.isOutput → reg.file.OutputOf prog.version.stage))
      (fun s => (s.Framed ∧ s.Placing prog.version.stage) ∧ s.Slotting prog D []) :=
  { slotting_basic prog D with
    loadInput := loadInput_slotting
    constantBlock := keeps_and (placing_closed _).constantBlock constantBlock_slotting
    ensureOutput := fun reg hreg =>
      keeps_and ((placing_closed _).ensureOutput reg hreg.1)
        (ensureOutput_slotting reg hreg.2.1 hreg.2.2) }

/-- One well formed instruction of the program, which writes no output of another stage's files,
keeps the state framed, placing and slotting, and joins the register it declares to those
declared. -/
theorem instruction_slotting {pre post : List Instruction} {ins : Instruction}
    (hbody : prog.body = pre ++ ins :: post) (hins : ins.WellFormed)
    (hown : ∀ dst ∈ ins.destination?, dst.reg.file.isOutput →
      dst.reg.file.OutputOf prog.version.stage) :
    ⦃fun s => ⌜(s.Framed ∧ s.Placing prog.version.stage) ∧ s.Slotting prog (declaredIn pre) []⌝⦄
      instruction ins
      ⦃⇓? _ s => ⌜(s.Framed ∧ s.Placing prog.version.stage) ∧
        s.Slotting prog (declaredIn (pre ++ [ins])) []⌝⦄ := by
  have hmem : ins ∈ prog.body := by simp [hbody]
  cases hd : ins.declared? with
  | none =>
    -- an instruction that declares nothing keeps the declared registers
    have hpre : declaredIn (pre ++ [ins]) = declaredIn pre := by simp [declaredIn, hd]
    rw [hpre]
    refine (slotting_closed prog _).instruction_keeps ins hins
      (fun dst hdst => ⟨hins.destination_inRange hdst, Program.mem_registers hmem hdst,
        hown dst hdst⟩) ?_
    rintro decl dst rfl -
    simp [Instruction.declared?] at hd
  | some reg =>
    obtain ⟨decl, dst, rfl, rfl⟩ : ∃ decl dst, ins = .dcl decl dst ∧ dst.reg = reg := by
      cases ins <;> simp_all [Instruction.declared?]
    have hpre : declaredIn (pre ++ [.dcl decl dst]) ⊆ dst.reg :: declaredIn pre := by
      simp [declaredIn, Instruction.declared?]
    have hreg : dst.reg ∈ prog.registers := Program.mem_registers hmem rfl
    -- the first declaration of a register not declared before is this one
    have hfirst : dst.reg ∉ declaredIn pre →
        prog.body.findSome? (·.declarationOf dst.reg) = some decl := fun hfresh => by
      rw [hbody]
      exact Program.findSome?_declarationOf hfresh
    intro s hs
    exact triple_weaken (keeps_and (keeps_and (declare_framed decl dst hins)
      (declare_placing decl dst hins)) (declare_slotting decl dst hreg hfirst))
      (fun _ h => ⟨h.1, h.2.mono_declared hpre⟩) s hs

/-- A module with the declarations and decorations of a framed, placing and slotting state is
slotted by distinct registers. -/
theorem Slotting.finished {s : Lowering}
    (h : (s.Framed ∧ s.Placing prog.version.stage) ∧ s.Slotting prog D [])
    {m : Module} (hd : m.declarations = s.builder.module.declarations)
    (ha : m.annotations = s.builder.module.annotations) :
    ∃ regs, m.SlottedBy prog.slotOf regs ∧ (regs.map Prod.fst).Nodup := by
  have hslotted := h.2.slotted.of_eq hd ha
  rw [List.append_nil] at hslotted
  exact ⟨s.recorded, hslotted, (InterfaceCount.recorded h.1.1.2).1⟩

attribute [local spec] emit_spec addEntryPoint_spec addExecutionMode_spec

/-- Finishing a framed, placing and slotting state gives a module slotted by distinct
registers. -/
theorem finish_slotted :
    ⦃fun s => ⌜(s.Framed ∧ s.Placing prog.version.stage) ∧ s.Slotting prog D []⌝⦄ finish
      ⦃⇓? r _ => ⌜∃ regs, r.module.SlottedBy prog.slotOf regs ∧ (regs.map Prod.fst).Nodup⌝⦄ := by
  have hstore := (slotting_closed prog D).reading.storeOutputs_keeps
  mvcgen [finish, hstore]
  all_goals
    dsimp +zetaDelta only
    exact Slotting.finished ‹_› rfl rfl

/-- Lowering a program of well formed instructions that write no output of another stage's files,
from a framed, placing and slotting state, finishes a module slotted by distinct registers. -/
theorem program_slotted (prog : Program) (hwf : ∀ ins ∈ prog.body, ins.WellFormed)
    (hown : ∀ ins ∈ prog.body, ∀ dst ∈ ins.destination?,
      dst.reg.file.isOutput → dst.reg.file.OutputOf prog.version.stage) :
    ⦃fun s => ⌜(s.Framed ∧ s.Placing prog.version.stage) ∧ s.Slotting prog [] []⌝⦄ program prog
      ⦃⇓? r _ => ⌜∃ regs, r.module.SlottedBy prog.slotOf regs ∧ (regs.map Prod.fst).Nodup⌝⦄ := by
  -- the instructions in turn, each told the registers declared before it
  have body : ⦃fun s => ⌜(s.Framed ∧ s.Placing prog.version.stage) ∧
        s.Slotting prog (declaredIn []) []⌝⦄
      prog.body.forM instruction
      ⦃⇓? _ s => ⌜(s.Framed ∧ s.Placing prog.version.stage) ∧
        s.Slotting prog (declaredIn prog.body) []⌝⦄ :=
    forM_triple_split (I := fun pre s => (s.Framed ∧ s.Placing prog.version.stage) ∧
        s.Slotting prog (declaredIn pre) [])
      fun pre ins post hbody =>
        have hmem : ins ∈ prog.body := by simp [hbody]
        instruction_slotting hbody (hwf ins hmem) (hown ins hmem)
  have hfinish := @finish_slotted prog (declaredIn prog.body)
  mvcgen [program, body, hfinish]

end

/-- Lowering starts slotting: nothing is recorded, declared or placed yet. -/
theorem start_slotting (options : Options) (registry : ConstantRegistry) (prog : Program) :
    (start options registry prog.version).Slotting prog [] [] := by
  have hannotations : (start options registry prog.version).builder.module.annotations = #[] :=
    opening_placed.1
  have hrecorded : (start options registry prog.version).recorded = [] := rfl
  refine ⟨rfl, fun _ hreg => absurd hreg List.not_mem_nil, fun _ hp => ?_, fun a ha _ => ?_⟩
  · simp [hrecorded] at hp
  · simp [hannotations] at ha

end Lowering

/-- Every shader whose registers take distinct slots, and whose instructions write and declare
outputs of its own stage only, converts to a module with a separated interface. -/
theorem Converter.compile_interfaceSeparated {c : Converter} {tokens : Array UInt32}
    {shader : Shader} {p : Program} (h : c.compile tokens = .ok shader)
    (hp : Program.decode tokens = .ok p) (hslots : p.SlotsDistinct)
    (hown : ∀ ins ∈ p.body, ∀ dst ∈ ins.destination?,
      dst.reg.file.isOutput → dst.reg.file.OutputOf p.version.stage) :
    shader.module.Separated shader.stage := by
  obtain ⟨p', hp', hlower⟩ := Converter.compile_eq_ok h
  obtain rfl : p = p' := Except.ok.inj (hp.symm.trans hp')
  obtain ⟨s', hrun⟩ := Program.lower_eq_ok hlower
  have hwf := Program.decode_wellFormed hp
  obtain ⟨hstage, -, -⟩ := Lowering.triple_run (Lowering.program_entryPoint p hwf)
    ⟨Lowering.start_framed _ _ _, Lowering.start_placing _ _ _⟩ hrun
  obtain ⟨regs, hslotted, hkeys⟩ := Lowering.triple_run (Lowering.program_slotted p hwf hown)
    ⟨⟨Lowering.start_framed _ _ _, Lowering.start_placing _ _ _⟩,
      Lowering.start_slotting _ _ p⟩ hrun
  rw [hstage]
  -- the module's ids are distinct, so each variable has one storage class
  exact hslotted.separated p.slotOf_table (fun _ _ _ => p.slotOf_injective hslots) hkeys
    (Converter.compile_ids h).declarations_nodup

/-- A vertex shader of model 3 that declares its position and first colour as outputs, and
writes both, converts to a module with a separated interface. -/
theorem Converter.compile_position_color_separated :
    ∃ t : Array UInt32, t = #[0xFFFE0300, 0x0200001F, 0x80000000, 0xE00F0000, 0x0200001F,
        0x8000000A, 0xE00F0001, 0x02000001, 0xE00F0000, 0xA0E40000, 0x02000001, 0xE00F0001,
        0xA0E40000, 0x0000FFFF] ∧
    ∃ shader p, Converter.compile {} t = .ok shader ∧ Program.decode t = .ok p ∧
      p.SlotsDistinct ∧
      (∀ ins ∈ p.body, ∀ dst ∈ ins.destination?,
        dst.reg.file.isOutput → dst.reg.file.OutputOf p.version.stage) ∧
      shader.module.Separated shader.stage := by
  obtain ⟨shader, hc⟩ := exists_eq_ok_of_toBool
    (show (Converter.compile {} #[0xFFFE0300, 0x0200001F, 0x80000000, 0xE00F0000, 0x0200001F,
        0x8000000A, 0xE00F0001, 0x02000001, 0xE00F0000, 0xA0E40000, 0x02000001, 0xE00F0001,
        0xA0E40000, 0x0000FFFF]).toBool = true by decide +kernel)
  obtain ⟨p, hp⟩ := exists_eq_ok_of_toBool
    (show (Program.decode #[0xFFFE0300, 0x0200001F, 0x80000000, 0xE00F0000, 0x0200001F,
        0x8000000A, 0xE00F0001, 0x02000001, 0xE00F0000, 0xA0E40000, 0x02000001, 0xE00F0001,
        0xA0E40000, 0x0000FFFF]).toBool = true by decide +kernel)
  -- the two outputs take the position built-in and the first colour's varying location
  have hchecks : (Program.decode #[0xFFFE0300, 0x0200001F, 0x80000000, 0xE00F0000, 0x0200001F,
        0x8000000A, 0xE00F0001, 0x02000001, 0xE00F0000, 0xA0E40000, 0x02000001, 0xE00F0001,
        0xA0E40000, 0x0000FFFF]).map (fun p => decide (p.SlotsDistinct ∧
      ∀ ins ∈ p.body, ∀ dst ∈ ins.destination?,
        dst.reg.file.isOutput → dst.reg.file.OutputOf p.version.stage)) = .ok true := by
    decide +kernel
  rw [hp] at hchecks
  obtain ⟨hslots, hown⟩ := of_decide_eq_true (Except.ok.inj hchecks)
  exact ⟨_, rfl, shader, p, hc, hp, hslots, hown,
    Converter.compile_interfaceSeparated hc hp hslots hown⟩

/-- A conversion whose module places two distinct output variables at one location has no
separated interface; the evaluation of the conversion checks the four facts at once. -/
theorem Converter.not_separated_of_shared {c : Converter} {tokens : Array UInt32} {x y n : Nat}
    (hxy : x ≠ y)
    (hshared : (c.compile tokens).map (fun shader => decide (
      x ∈ shader.module.variablesOf .output ∧ y ∈ shader.module.variablesOf .output ∧
      (InterfaceSlot.location n).decoration x ∈ shader.module.annotations.toList ∧
      (InterfaceSlot.location n).decoration y ∈ shader.module.annotations.toList)) = .ok true) :
    ∃ shader, c.compile tokens = .ok shader ∧ ¬shader.module.Separated shader.stage := by
  cases hc : c.compile tokens with
  | error e => simp [hc, Except.map] at hshared
  | ok shader =>
    simp only [hc, Except.map, Except.ok.injEq, decide_eq_true_eq] at hshared
    obtain ⟨hx, hy, hdx, hdy⟩ := hshared
    exact ⟨shader, rfl, fun hsep => hxy (hsep.locations _ n x y hx hy hdx hdy)⟩

/-- Two output variables at one location: a vertex shader of model 2 writing the colour output
oD0 and the pixel colour output oC0 places both at location 0, and a vertex shader of model 3
declaring o0 and o1 both as texture coordinate 0 places both at location 4. -/
theorem Converter.compile_outputs_share_location :
    (∃ shader, Converter.compile {}
        #[0xFFFE0200, 0x02000001, 0xD00F0000, 0xA0E40000, 0x02000001, 0x800F0800, 0xA0E40000,
          0x0000FFFF] = .ok shader ∧ ¬shader.module.Separated shader.stage) ∧
    (∃ shader, Converter.compile {}
        #[0xFFFE0300, 0x0200001F, 0x80000005, 0xE00F0000, 0x0200001F, 0x80000005, 0xE00F0001,
          0x0000FFFF] = .ok shader ∧ ¬shader.module.Separated shader.stage) :=
  ⟨Converter.not_separated_of_shared (x := 20) (y := 21) (n := 0) (by decide) (by decide +kernel),
    Converter.not_separated_of_shared (x := 9) (y := 10) (n := 4) (by decide) (by decide +kernel)⟩

end ShaderBridge
