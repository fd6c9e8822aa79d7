import ShaderBridge.Proofs.Scope

/-!
Lowering defines every id before it names it: `Lowering.Scoped` holds between the steps, each
specified against a ghost module `m₀` it grows from.
-/

namespace ShaderBridge

open Std.Do Spirv Spirv.Module

namespace Lowering

/-- The ids a lowering state keeps for later steps. -/
def heldIds (s : Lowering) : List Nat :=
  s.glsl :: s.entryPoint :: s.values.map (·.2) ++ s.interface.toList ++
    s.inputs.map (·.2.id) ++ s.outputs.map (·.2.id) ++ s.floatBlock.toList ++
    s.samplers.map (·.2.image) ++ s.samplers.map (·.2.sampler)

/-- The builder is scoped, every id the state keeps is defined, and the input variables' types
name only declared ids. -/
structure Scoped (s : Lowering) : Prop where
  builder : s.builder.Scoped
  held : s.heldIds ⊆ s.builder.module.available
  inputTypes : ∀ p ∈ s.inputs, p.2.type.namedIds ⊆ s.builder.module.declIds

theorem mem_heldIds {s : Lowering} {x : Nat} : x ∈ s.heldIds ↔ x = s.glsl ∨ x = s.entryPoint ∨
    (∃ p ∈ s.values, p.2 = x) ∨ x ∈ s.interface.toList ∨ (∃ p ∈ s.inputs, p.2.id = x) ∨
    (∃ p ∈ s.outputs, p.2.id = x) ∨ s.floatBlock = some x ∨ (∃ p ∈ s.samplers, p.2.image = x) ∨
    ∃ p ∈ s.samplers, p.2.sampler = x := by
  simp only [heldIds, List.mem_cons, List.mem_append, List.mem_map, Option.mem_toList, or_assoc]

namespace Scoped

variable {s : Lowering}

/-! Each way a step changes the state keeps it scoped. The states are written field by field, as
the steps leave them. -/

theorem withBuilder {b : Builder} (h : s.Scoped) (hb : b.Scoped)
    (grow : s.builder.module.Grows b.module) : Scoped { s with builder := b } :=
  ⟨hb, fun _ hx => grow.available _ (h.held hx), fun p hp _ hx => grow.declIds _ (h.inputTypes p hp hx)⟩

/-- The fields the invariant does not read may change freely. -/
theorem unread {defined : List Register} {vertexInputs : Array VertexAttribute} {stride : Nat}
    {descriptors : Array DescriptorBinding} {writesDepth : Bool} (h : s.Scoped) :
    Scoped { s with
      defined := defined, vertexInputs := vertexInputs, stride := stride,
      descriptors := descriptors, writesDepth := writesDepth } :=
  ⟨h.builder, h.held, h.inputTypes⟩

theorem bindValue {reg : Register} {id : Nat} (h : s.Scoped)
    (hid : id ∈ s.builder.module.available) :
    Scoped { s with values := (reg, id) :: s.values.filter (·.1 != reg) } := by
  have held : ∀ x ∈ s.heldIds, x ∈ s.builder.module.available := fun _ hx => h.held hx
  refine ⟨h.builder, fun x hx => ?_, h.inputTypes⟩
  simp only [mem_heldIds, List.mem_cons, List.mem_filter] at hx held
  grind

theorem pushInterface {id : Nat} (h : s.Scoped) (hid : id ∈ s.builder.module.available) :
    Scoped { s with interface := s.interface.push id } := by
  have held : ∀ x ∈ s.heldIds, x ∈ s.builder.module.available := fun _ hx => h.held hx
  refine ⟨h.builder, fun x hx => ?_, h.inputTypes⟩
  simp only [mem_heldIds, Array.toList_push, List.mem_append, List.mem_singleton] at hx held
  grind

theorem addInput {reg : Register} {var : InterfaceVar} {vertexInputs : Array VertexAttribute}
    {stride : Nat} (h : s.Scoped) (hid : var.id ∈ s.builder.module.available)
    (hty : var.type.namedIds ⊆ s.builder.module.declIds) :
    Scoped { s with
      inputs := (reg, var) :: s.inputs, vertexInputs := vertexInputs, stride := stride } := by
  have held : ∀ x ∈ s.heldIds, x ∈ s.builder.module.available := fun _ hx => h.held hx
  refine ⟨h.builder, fun x hx => ?_, fun p hp => ?_⟩
  · simp only [mem_heldIds, List.mem_cons] at hx held
    grind
  · rcases List.mem_cons.1 hp with rfl | hp
    · exact hty
    · exact h.inputTypes p hp

theorem addOutput {reg : Register} {var : InterfaceVar} (h : s.Scoped)
    (hid : var.id ∈ s.builder.module.available) :
    Scoped { s with outputs := (reg, var) :: s.outputs } := by
  have held : ∀ x ∈ s.heldIds, x ∈ s.builder.module.available := fun _ hx => h.held hx
  refine ⟨h.builder, fun x hx => ?_, h.inputTypes⟩
  simp only [mem_heldIds, List.mem_cons] at hx held
  grind

theorem addSampler {index : Nat} {vars : SamplerVars} {descriptors : Array DescriptorBinding}
    (h : s.Scoped) (himage : vars.image ∈ s.builder.module.available)
    (hsampler : vars.sampler ∈ s.builder.module.available) :
    Scoped { s with descriptors := descriptors, samplers := (index, vars) :: s.samplers } := by
  have held : ∀ x ∈ s.heldIds, x ∈ s.builder.module.available := fun _ hx => h.held hx
  refine ⟨h.builder, fun x hx => ?_, h.inputTypes⟩
  simp only [mem_heldIds, List.mem_cons] at hx held
  grind

theorem setFloatBlock {id : Nat} {descriptors : Array DescriptorBinding} (h : s.Scoped)
    (hid : id ∈ s.builder.module.available) :
    Scoped { s with descriptors := descriptors, floatBlock := some id } := by
  have held : ∀ x ∈ s.heldIds, x ∈ s.builder.module.available := fun _ hx => h.held hx
  refine ⟨h.builder, fun x hx => ?_, h.inputTypes⟩
  simp only [mem_heldIds] at hx held
  grind

/-! What the state keeps is defined. -/

theorem glsl_mem (h : s.Scoped) : s.glsl ∈ s.builder.module.available :=
  h.held (mem_heldIds.2 (.inl rfl))

theorem entryPoint_mem (h : s.Scoped) : s.entryPoint ∈ s.builder.module.available :=
  h.held (mem_heldIds.2 (.inr (.inl rfl)))

theorem interface_subset (h : s.Scoped) : s.interface.toList ⊆ s.builder.module.available :=
  fun _ hx => h.held (mem_heldIds.2 (.inr (.inr (.inr (.inl hx)))))

theorem mem_of_value {reg : Register} {id : Nat} (h : s.Scoped)
    (hl : s.values.lookup reg = some id) : id ∈ s.builder.module.available := by
  obtain ⟨a, ha⟩ := snd_mem_of_lookup hl
  exact h.held (mem_heldIds.2 (.inr (.inr (.inl ⟨_, ha, rfl⟩))))

theorem mem_of_input {reg : Register} {var : InterfaceVar} (h : s.Scoped)
    (hl : s.inputs.lookup reg = some var) :
    var.id ∈ s.builder.module.available ∧ var.type.namedIds ⊆ s.builder.module.declIds := by
  obtain ⟨a, ha⟩ := snd_mem_of_lookup hl
  exact ⟨h.held (mem_heldIds.2 (.inr (.inr (.inr (.inr (.inl ⟨_, ha, rfl⟩)))))),
    h.inputTypes (a, var) ha⟩

theorem mem_of_output {reg : Register} {var : InterfaceVar} (h : s.Scoped)
    (hl : s.outputs.lookup reg = some var) : var.id ∈ s.builder.module.available := by
  obtain ⟨a, ha⟩ := snd_mem_of_lookup hl
  exact h.held (mem_heldIds.2 (.inr (.inr (.inr (.inr (.inr (.inl ⟨_, ha, rfl⟩)))))))

theorem mem_of_floatBlock {id : Nat} (h : s.Scoped) (hb : s.floatBlock = some id) :
    id ∈ s.builder.module.available :=
  h.held (mem_heldIds.2 (.inr (.inr (.inr (.inr (.inr (.inr (.inl hb))))))))

theorem mem_of_sampler {index : Nat} {vars : SamplerVars} (h : s.Scoped)
    (hl : s.samplers.lookup index = some vars) :
    vars.image ∈ s.builder.module.available ∧ vars.sampler ∈ s.builder.module.available := by
  obtain ⟨a, ha⟩ := snd_mem_of_lookup hl
  exact ⟨h.held (mem_heldIds.2 (.inr (.inr (.inr (.inr (.inr (.inr (.inr (.inl ⟨_, ha, rfl⟩))))))))),
    h.held (mem_heldIds.2 (.inr (.inr (.inr (.inr (.inr (.inr (.inr (.inr ⟨_, ha, rfl⟩)))))))))⟩

end Scoped

theorem idOperands_nameOf (id : Nat) (name : String) : (nameOf id name).idOperands = [id] := by
  simp [nameOf, Instruction.idOperands_mk, Op.layout, Op.name, OperandLayout.ids]

theorem idOperands_decoration (id : Nat) (d : Decoration) (operands : List Nat) :
    (decoration id d operands).idOperands = [id] := by
  simp [decoration, Instruction.idOperands_mk, Op.layout, Op.decorate, OperandLayout.ids]

/-- A variable declaration names its pointer type only: its operand is a storage class. -/
theorem idOperands_var (pointer id code : Nat) :
    Instruction.idOperands
      { op := Op.var, resultType := some pointer, result := some id, operands := [code] } =
      [pointer] := by
  simp [Instruction.idOperands_mk, Op.layout, Op.var, OperandLayout.ids]

/-- A module building step run inside lowering keeps the state scoped, and what its
specification promises of the builder holds of the state's builder. -/
theorem build_scoped {α : Type} {x : BuildM α} {P : Builder → Prop} {R : α → Builder → Prop}
    (hx : ∀ m₀ : Module, ⦃fun b => ⌜m₀.Grows b.module ∧ b.Scoped ∧ P b⌝⦄ x
      ⦃⇓ r b => ⌜m₀.Grows b.module ∧ b.Scoped ∧ R r b⌝⦄) (m₀ : Module) :
    ⦃fun s => ⌜m₀ ≤ s.builder.module ∧ s.Scoped ∧ P s.builder⌝⦄ build x
      ⦃⇓? r s => ⌜m₀ ≤ s.builder.module ∧ s.Scoped ∧ R r s.builder⌝⦄ := by
  rintro s ⟨hg, hs, hp⟩
  obtain ⟨grow, hb, hr⟩ := hx s.builder.module s.builder ⟨Grows.refl _, hs.builder, hp⟩
  exact ⟨hg.trans grow, hs.withBuilder hb grow, hr⟩

/-- `build_scoped` for a step that asks nothing of the builder. -/
theorem build_scoped_returns {α : Type} {x : BuildM α} {R : α → Builder → Prop}
    (hx : ∀ m₀ : Module, ⦃fun b => ⌜m₀.Grows b.module ∧ b.Scoped⌝⦄ x
      ⦃⇓ r b => ⌜m₀.Grows b.module ∧ b.Scoped ∧ R r b⌝⦄) (m₀ : Module) :
    ⦃fun s => ⌜m₀ ≤ s.builder.module ∧ s.Scoped⌝⦄ build x
      ⦃⇓? r s => ⌜m₀ ≤ s.builder.module ∧ s.Scoped ∧ R r s.builder⌝⦄ := by
  rintro s ⟨hg, hs⟩
  obtain ⟨grow, hb, hr⟩ := hx s.builder.module s.builder ⟨Grows.refl _, hs.builder⟩
  exact ⟨hg.trans grow, hs.withBuilder hb grow, hr⟩

section

set_option mvcgen.warning false

theorem alloc_scoped (m₀ : Module) :
    ⦃fun s => ⌜m₀ ≤ s.builder.module ∧ s.Scoped⌝⦄ alloc
      ⦃⇓? _ s => ⌜m₀ ≤ s.builder.module ∧ s.Scoped⌝⦄ := by
  mvcgen [alloc_spec]
  rename_i s h
  exact ⟨Grows.bump_right h.1, h.2.withBuilder h.2.builder.bump (Grows.refl _).bump_right⟩

/-- Appending an instruction its section admits, to a section after the declarations and
outside the function bodies. -/
theorem append_scoped {x : LowerM Unit} {sec : Section} {i : Spirv.Instruction}
    (hx : ∀ {Q : Post Unit},
      Triple x (spred(fun s => Q.1 () (s.withModule (s.builder.module.push sec i)))) Q)
    (m₀ : Module) :
    ⦃fun s => ⌜m₀ ≤ s.builder.module ∧ s.Scoped ∧ s.builder.module.Admits sec i⌝⦄ x
      ⦃⇓? _ s => ⌜m₀ ≤ s.builder.module ∧ s.Scoped⌝⦄ := by
  mvcgen [hx]
  rename_i s h
  exact ⟨Grows.push_right h.1 _ _,
    h.2.1.withBuilder (h.2.1.builder.push h.2.2) ((Grows.refl _).push_right _ _)⟩

@[local spec] theorem emit_scoped (m₀ : Module) (i : Spirv.Instruction) :
    ⦃fun s => ⌜m₀ ≤ s.builder.module ∧ s.Scoped ∧ i.idOperands ⊆ s.builder.module.available⌝⦄
      emit i
      ⦃⇓? _ s => ⌜m₀ ≤ s.builder.module ∧ s.Scoped ∧
        ∀ r, i.result = some r → r ∈ s.builder.module.available⌝⦄ :=
  build_scoped (fun m₀ => Builder.emit_scoped m₀ i) m₀

@[local spec] theorem declareInstruction_scoped (m₀ : Module) (i : Spirv.Instruction) :
    ⦃fun s => ⌜m₀ ≤ s.builder.module ∧ s.Scoped ∧ i.idOperands ⊆ s.builder.module.declIds⌝⦄
      build (Builder.declare i)
      ⦃⇓? _ s => ⌜m₀ ≤ s.builder.module ∧ s.Scoped ∧
        ∀ r, i.result = some r → r ∈ s.builder.module.declIds⌝⦄ :=
  build_scoped (fun m₀ => Builder.declare_scoped m₀ i) m₀

@[local spec] theorem annotate_scoped (m₀ : Module) (i : Spirv.Instruction) :
    ⦃fun s => ⌜m₀ ≤ s.builder.module ∧ s.Scoped ∧ i.idOperands ⊆ s.builder.module.available⌝⦄
      build (Builder.annotate i) ⦃⇓? _ s => ⌜m₀ ≤ s.builder.module ∧ s.Scoped⌝⦄ :=
  append_scoped annotate_spec m₀

@[local spec] theorem addName_scoped (m₀ : Module) (i : Spirv.Instruction) :
    ⦃fun s => ⌜m₀ ≤ s.builder.module ∧ s.Scoped ∧ i.idOperands ⊆ s.builder.module.available⌝⦄
      build (Builder.addName i) ⦃⇓? _ s => ⌜m₀ ≤ s.builder.module ∧ s.Scoped⌝⦄ :=
  append_scoped addName_spec m₀

@[local spec] theorem addEntryPoint_scoped (m₀ : Module) (i : Spirv.Instruction) :
    ⦃fun s => ⌜m₀ ≤ s.builder.module ∧ s.Scoped ∧ i.idOperands ⊆ s.builder.module.available⌝⦄
      build (Builder.addEntryPoint i) ⦃⇓? _ s => ⌜m₀ ≤ s.builder.module ∧ s.Scoped⌝⦄ :=
  append_scoped addEntryPoint_spec m₀

@[local spec] theorem addExecutionMode_scoped (m₀ : Module) (i : Spirv.Instruction) :
    ⦃fun s => ⌜m₀ ≤ s.builder.module ∧ s.Scoped ∧ i.idOperands ⊆ s.builder.module.available⌝⦄
      build (Builder.addExecutionMode i) ⦃⇓? _ s => ⌜m₀ ≤ s.builder.module ∧ s.Scoped⌝⦄ :=
  append_scoped addExecutionMode_spec m₀

@[local spec] theorem typeId_scoped (m₀ : Module) (d : TypeDesc) :
    ⦃fun s => ⌜m₀ ≤ s.builder.module ∧ s.Scoped ∧ d.namedIds ⊆ s.builder.module.declIds⌝⦄
      typeId d ⦃⇓? r s => ⌜m₀ ≤ s.builder.module ∧ s.Scoped ∧ r ∈ s.builder.module.declIds⌝⦄ :=
  build_scoped (fun m₀ => Builder.typeId_scoped m₀ d) m₀

@[local spec] theorem pointerTypeId_scoped (m₀ : Module) (d : TypeDesc) (sc : StorageClass) :
    ⦃fun s => ⌜m₀ ≤ s.builder.module ∧ s.Scoped ∧ d.namedIds ⊆ s.builder.module.declIds⌝⦄
      build (Builder.pointerTypeId d sc)
      ⦃⇓? r s => ⌜m₀ ≤ s.builder.module ∧ s.Scoped ∧ r ∈ s.builder.module.declIds⌝⦄ :=
  build_scoped (fun m₀ => Builder.pointerTypeId_scoped m₀ d sc) m₀

@[local spec] theorem null_scoped (m₀ : Module) (d : TypeDesc) :
    ⦃fun s => ⌜m₀ ≤ s.builder.module ∧ s.Scoped ∧ d.namedIds ⊆ s.builder.module.declIds⌝⦄
      build (Builder.null d)
      ⦃⇓? r s => ⌜m₀ ≤ s.builder.module ∧ s.Scoped ∧ r ∈ s.builder.module.declIds⌝⦄ :=
  build_scoped (fun m₀ => Builder.null_scoped m₀ d) m₀

@[local spec] theorem composite_scoped (m₀ : Module) (d : TypeDesc) (parts : List Nat) :
    ⦃fun s => ⌜m₀ ≤ s.builder.module ∧ s.Scoped ∧
      (d.namedIds ⊆ s.builder.module.declIds ∧ parts ⊆ s.builder.module.declIds)⌝⦄
      build (Builder.composite d parts)
      ⦃⇓? r s => ⌜m₀ ≤ s.builder.module ∧ s.Scoped ∧ r ∈ s.builder.module.declIds⌝⦄ :=
  build_scoped (fun m₀ => Builder.composite_scoped m₀ d parts) m₀

@[local spec] theorem floatType_scoped (m₀ : Module) (width : Nat) :
    ⦃fun s => ⌜m₀ ≤ s.builder.module ∧ s.Scoped⌝⦄ floatType width
      ⦃⇓? r s => ⌜m₀ ≤ s.builder.module ∧ s.Scoped ∧ r ∈ s.builder.module.declIds⌝⦄ :=
  build_scoped_returns (fun m₀ => Builder.floatType_scoped m₀ width) m₀

@[local spec] theorem float32_scoped (m₀ : Module) (bits : Nat) :
    ⦃fun s => ⌜m₀ ≤ s.builder.module ∧ s.Scoped⌝⦄ float32 bits
      ⦃⇓? r s => ⌜m₀ ≤ s.builder.module ∧ s.Scoped ∧ r ∈ s.builder.module.declIds⌝⦄ :=
  build_scoped_returns (fun m₀ => Builder.float32_scoped m₀ bits) m₀

@[local spec] theorem int32_scoped (m₀ : Module) (bits : Nat) :
    ⦃fun s => ⌜m₀ ≤ s.builder.module ∧ s.Scoped⌝⦄ int32 bits
      ⦃⇓? r s => ⌜m₀ ≤ s.builder.module ∧ s.Scoped ∧ r ∈ s.builder.module.declIds⌝⦄ :=
  build_scoped_returns (fun m₀ => Builder.int32_scoped m₀ bits) m₀

@[local spec] theorem uint32_scoped (m₀ : Module) (value : Nat) :
    ⦃fun s => ⌜m₀ ≤ s.builder.module ∧ s.Scoped⌝⦄ build (Builder.uint32 value)
      ⦃⇓? r s => ⌜m₀ ≤ s.builder.module ∧ s.Scoped ∧ r ∈ s.builder.module.declIds⌝⦄ :=
  build_scoped_returns (fun m₀ => Builder.uint32_scoped m₀ value) m₀

@[local spec] theorem boolean_scoped (m₀ : Module) (value : Bool) :
    ⦃fun s => ⌜m₀ ≤ s.builder.module ∧ s.Scoped⌝⦄ build (Builder.boolean value)
      ⦃⇓? r s => ⌜m₀ ≤ s.builder.module ∧ s.Scoped ∧ r ∈ s.builder.module.declIds⌝⦄ :=
  build_scoped_returns (fun m₀ => Builder.boolean_scoped m₀ value) m₀

@[local spec] theorem scalarType_scoped (m₀ : Module) (kind : Op) :
    ⦃fun s => ⌜m₀ ≤ s.builder.module ∧ s.Scoped⌝⦄ build (Builder.scalarType kind)
      ⦃⇓? r s => ⌜m₀ ≤ s.builder.module ∧ s.Scoped ∧ r ∈ s.builder.module.declIds⌝⦄ :=
  build_scoped_returns (fun m₀ => Builder.scalarType_scoped m₀ kind) m₀

@[local spec] theorem vec4Constant_scoped (m₀ : Module) (bits : List Nat) :
    ⦃fun s => ⌜m₀ ≤ s.builder.module ∧ s.Scoped⌝⦄ build (Builder.vec4Constant bits)
      ⦃⇓? r s => ⌜m₀ ≤ s.builder.module ∧ s.Scoped ∧ r ∈ s.builder.module.declIds⌝⦄ :=
  build_scoped_returns (fun m₀ => Builder.vec4Constant_scoped m₀ bits) m₀

attribute [local grind →] Scoped.mem_of_value Scoped.mem_of_input Scoped.mem_of_output
  Scoped.mem_of_sampler Scoped.mem_of_floatBlock Scoped.glsl_mem Scoped.entryPoint_mem
attribute [local grind ←] Scoped.unread Scoped.bindValue Scoped.pushInterface Scoped.addInput
  Scoped.addOutput Scoped.addSampler Scoped.setFloatBlock OperandLayout.ids_subset
-- Growth is an order: a membership becomes an atom below the module, so that the order solver
-- carries it along chains of steps.
attribute [local grind =] mem_available_iff_atom_le mem_declIds_iff_declAtom_le
attribute [local grind →] mem_available_of_mem_declIds
attribute [local grind =] List.cons_subset TypeDesc.namedIds_vector TypeDesc.namedIds_vec4
  TypeDesc.namedIds_ivec4 TypeDesc.namedIds_float TypeDesc.namedIds_bool TypeDesc.namedIds_int
  TypeDesc.namedIds_uintVector TypeDesc.namedIds_image TypeDesc.namedIds_sampler
  TypeDesc.namedIds_sampledImage TypeDesc.namedIds_array TypeDesc.namedIds_struct
attribute [local grind .] List.nil_subset

-- Constant vectors are known by their spec only: unfolding one while matching a step against
-- its spec would evaluate the whole list of constants it builds.
attribute [local irreducible] Builder.vec4Constant

@[local spec] theorem compute_scoped (m₀ : Module) (op : Op) (ty : Nat) (operands : List Nat) :
    ⦃fun s => ⌜m₀ ≤ s.builder.module ∧ s.Scoped ∧
      (ty ∈ s.builder.module.available ∧ op.layout.ids operands ⊆ s.builder.module.available)⌝⦄
      compute op ty operands
      ⦃⇓? r s => ⌜m₀ ≤ s.builder.module ∧ s.Scoped ∧ r ∈ s.builder.module.available⌝⦄ := by
  mvcgen [compute, alloc_scoped] with
    ((try simp only [Instruction.idOperands_mk, Option.toList_some, List.singleton_append,
      List.cons_subset]); grind)

@[local spec] theorem glslCall_scoped (m₀ : Module) (op : GlslOp) (ty : Nat) (args : List Nat) :
    ⦃fun s => ⌜m₀ ≤ s.builder.module ∧ s.Scoped ∧
      (ty ∈ s.builder.module.available ∧ args ⊆ s.builder.module.available)⌝⦄
      glslCall op ty args
      ⦃⇓? r s => ⌜m₀ ≤ s.builder.module ∧ s.Scoped ∧ r ∈ s.builder.module.available⌝⦄ := by
  mvcgen [glslCall] with
    ((try simp only [Op.layout, Op.extInst, OperandLayout.ids, List.take_succ_cons, List.take_zero,
      List.drop_succ_cons, List.drop_zero, List.singleton_append, List.cons_subset]); grind)

@[local spec] theorem extract_scoped (m₀ : Module) (ty composite index : Nat) :
    ⦃fun s => ⌜m₀ ≤ s.builder.module ∧ s.Scoped ∧
      (ty ∈ s.builder.module.available ∧ composite ∈ s.builder.module.available)⌝⦄
      extract ty composite index
      ⦃⇓? r s => ⌜m₀ ≤ s.builder.module ∧ s.Scoped ∧ r ∈ s.builder.module.available⌝⦄ := by
  mvcgen [extract] with
    ((try simp only [Op.layout, Op.compositeExtract, OperandLayout.ids, List.take_succ_cons,
      List.take_zero, List.cons_subset, List.nil_subset, and_true]); grind)

@[local spec] theorem shuffle_scoped (m₀ : Module) (ty a b : Nat) (components : List Nat) :
    ⦃fun s => ⌜m₀ ≤ s.builder.module ∧ s.Scoped ∧ (ty ∈ s.builder.module.available ∧
      a ∈ s.builder.module.available ∧ b ∈ s.builder.module.available)⌝⦄
      shuffle ty a b components
      ⦃⇓? r s => ⌜m₀ ≤ s.builder.module ∧ s.Scoped ∧ r ∈ s.builder.module.available⌝⦄ := by
  mvcgen [shuffle] with
    ((try simp only [Op.layout, Op.vectorShuffle, OperandLayout.ids, List.take_succ_cons,
      List.take_zero, List.cons_subset, List.nil_subset, and_true]); grind)

@[local spec] theorem splat_scoped (m₀ : Module) (x : Nat) :
    ⦃fun s => ⌜m₀ ≤ s.builder.module ∧ s.Scoped ∧ x ∈ s.builder.module.available⌝⦄ splat x
      ⦃⇓? r s => ⌜m₀ ≤ s.builder.module ∧ s.Scoped ∧ r ∈ s.builder.module.available⌝⦄ := by
  mvcgen [splat] with grind

@[local spec] theorem truncate_scoped (m₀ : Module) (value width : Nat) :
    ⦃fun s => ⌜m₀ ≤ s.builder.module ∧ s.Scoped ∧ value ∈ s.builder.module.available⌝⦄
      truncate value width
      ⦃⇓? r s => ⌜m₀ ≤ s.builder.module ∧ s.Scoped ∧ r ∈ s.builder.module.available⌝⦄ := by
  mvcgen [truncate] with grind

attribute [local grind =] idOperands_nameOf idOperands_decoration idOperands_var

@[local spec] theorem interfaceVariable_scoped (m₀ : Module) (reg : Register) (ty : TypeDesc)
    (slot : InterfaceSlot) :
    ⦃fun s => ⌜m₀ ≤ s.builder.module ∧ s.Scoped ∧ ty.namedIds ⊆ s.builder.module.declIds⌝⦄
      interfaceVariable reg ty slot
      ⦃⇓? r s => ⌜m₀ ≤ s.builder.module ∧ s.Scoped ∧ r ∈ s.builder.module.available⌝⦄ := by
  mvcgen [interfaceVariable, alloc_scoped] with (try split) <;> grind

@[local spec] theorem declareVertexInput_scoped (m₀ : Module) (reg : Register) (usage : Usage) :
    ⦃fun s => ⌜m₀ ≤ s.builder.module ∧ s.Scoped⌝⦄ declareVertexInput reg usage
      ⦃⇓? _ s => ⌜m₀ ≤ s.builder.module ∧ s.Scoped⌝⦄ := by
  mvcgen [declareVertexInput] with grind

@[local spec] theorem declarePixelInput_scoped (m₀ : Module) (reg : Register) (usage : Usage)
    (index : Nat) :
    ⦃fun s => ⌜m₀ ≤ s.builder.module ∧ s.Scoped⌝⦄ declarePixelInput reg usage index
      ⦃⇓? _ s => ⌜m₀ ≤ s.builder.module ∧ s.Scoped⌝⦄ := by
  mvcgen [declarePixelInput] with grind

@[local spec] theorem createOutput_scoped (m₀ : Module) (reg : Register) (ty : TypeDesc)
    (slot : InterfaceSlot) (usage : Option Usage) :
    ⦃fun s => ⌜m₀ ≤ s.builder.module ∧ s.Scoped ∧ ty.namedIds ⊆ s.builder.module.declIds⌝⦄
      createOutput reg ty slot usage ⦃⇓? _ s => ⌜m₀ ≤ s.builder.module ∧ s.Scoped⌝⦄ := by
  mvcgen [createOutput] with grind

@[local spec] theorem declareOutput_scoped (m₀ : Module) (reg : Register) (usage : Usage)
    (index : Nat) :
    ⦃fun s => ⌜m₀ ≤ s.builder.module ∧ s.Scoped⌝⦄ declareOutput reg usage index
      ⦃⇓? _ s => ⌜m₀ ≤ s.builder.module ∧ s.Scoped⌝⦄ := by
  mvcgen [declareOutput] with grind

@[local spec] theorem ensureOutput_scoped (m₀ : Module) (reg : Register) :
    ⦃fun s => ⌜m₀ ≤ s.builder.module ∧ s.Scoped⌝⦄ ensureOutput reg
      ⦃⇓? _ s => ⌜m₀ ≤ s.builder.module ∧ s.Scoped⌝⦄ := by
  mvcgen [ensureOutput] with grind

@[local spec] theorem declareSampler_scoped (m₀ : Module) (index : Nat) (type : TextureType) :
    ⦃fun s => ⌜m₀ ≤ s.builder.module ∧ s.Scoped⌝⦄ declareSampler index type
      ⦃⇓? _ s => ⌜m₀ ≤ s.builder.module ∧ s.Scoped⌝⦄ := by
  mvcgen [declareSampler, List.forIn_cons, List.forIn_nil, alloc_scoped] with
    grind

@[local spec] theorem declare_scoped (m₀ : Module) (decl : Declaration) (dst : Destination) :
    ⦃fun s => ⌜m₀ ≤ s.builder.module ∧ s.Scoped⌝⦄ declare decl dst
      ⦃⇓? _ s => ⌜m₀ ≤ s.builder.module ∧ s.Scoped⌝⦄ := by
  mvcgen [declare]

@[local spec] theorem checkDefinition_scoped (m₀ : Module) (reg : Register)
    (expected : RegisterFile) (file : ConstantFile) :
    ⦃fun s => ⌜m₀ ≤ s.builder.module ∧ s.Scoped⌝⦄ checkDefinition reg expected file
      ⦃⇓? _ s => ⌜m₀ ≤ s.builder.module ∧ s.Scoped⌝⦄ := by
  mvcgen [checkDefinition]

@[local spec] theorem bindValue_scoped (m₀ : Module) (reg : Register) (id : Nat) :
    ⦃fun s => ⌜m₀ ≤ s.builder.module ∧ s.Scoped ∧ id ∈ s.builder.module.available⌝⦄
      bindValue reg id ⦃⇓? _ s => ⌜m₀ ≤ s.builder.module ∧ s.Scoped⌝⦄ := by
  mvcgen [bindValue] with grind

@[local spec] theorem bindDefined_scoped (m₀ : Module) (reg : Register) (id : Nat) :
    ⦃fun s => ⌜m₀ ≤ s.builder.module ∧ s.Scoped ∧ id ∈ s.builder.module.available⌝⦄
      bindDefined reg id ⦃⇓? _ s => ⌜m₀ ≤ s.builder.module ∧ s.Scoped⌝⦄ := by
  mvcgen [bindDefined] with grind

@[local spec] theorem define_scoped (m₀ : Module) (dst : Destination) (values : List UInt32) :
    ⦃fun s => ⌜m₀ ≤ s.builder.module ∧ s.Scoped⌝⦄ define dst values
      ⦃⇓? _ s => ⌜m₀ ≤ s.builder.module ∧ s.Scoped⌝⦄ := by
  mvcgen [define] with grind

/-- Mapping a step that returns declared ids over a list returns declared ids. -/
theorem mapM_scoped {β : Type} {xs : List β} {f : β → LowerM Nat}
    (hf : ∀ (m₀ : Module) (a : β), ⦃fun s => ⌜m₀ ≤ s.builder.module ∧ s.Scoped⌝⦄ f a
      ⦃⇓? r s => ⌜m₀ ≤ s.builder.module ∧ s.Scoped ∧ r ∈ s.builder.module.declIds⌝⦄)
    (m₀ : Module) :
    ⦃fun s => ⌜m₀ ≤ s.builder.module ∧ s.Scoped⌝⦄ xs.mapM f
      ⦃⇓? rs s => ⌜m₀ ≤ s.builder.module ∧ s.Scoped ∧ rs ⊆ s.builder.module.declIds⌝⦄ := by
  induction xs generalizing m₀ with
  | nil =>
    rw [List.mapM_nil]
    exact fun _ h => ⟨h.1, h.2, List.nil_subset _⟩
  | cons x xs ih =>
    rw [List.mapM_cons]
    mvcgen [hf, ih] with grind

@[local spec] theorem defineInt_scoped (m₀ : Module) (dst : Destination) (values : List UInt32) :
    ⦃fun s => ⌜m₀ ≤ s.builder.module ∧ s.Scoped⌝⦄ defineInt dst values
      ⦃⇓? _ s => ⌜m₀ ≤ s.builder.module ∧ s.Scoped⌝⦄ := by
  have parts : ∀ m₀ : Module, ⦃fun s => ⌜m₀ ≤ s.builder.module ∧ s.Scoped⌝⦄
      values.mapM (fun v => int32 v.toNat)
      ⦃⇓? rs s => ⌜m₀ ≤ s.builder.module ∧ s.Scoped ∧ rs ⊆ s.builder.module.declIds⌝⦄ :=
    mapM_scoped fun m₀ v => int32_scoped m₀ v.toNat
  mvcgen [defineInt, parts] with grind

@[local spec] theorem defineBool_scoped (m₀ : Module) (dst : Destination) (value : UInt32) :
    ⦃fun s => ⌜m₀ ≤ s.builder.module ∧ s.Scoped⌝⦄ defineBool dst value
      ⦃⇓? _ s => ⌜m₀ ≤ s.builder.module ∧ s.Scoped⌝⦄ := by
  mvcgen [defineBool] with grind

@[local spec] theorem unpackColor_scoped (m₀ : Module) (packed : Nat) :
    ⦃fun s => ⌜m₀ ≤ s.builder.module ∧ s.Scoped ∧ packed ∈ s.builder.module.available⌝⦄
      unpackColor packed
      ⦃⇓? r s => ⌜m₀ ≤ s.builder.module ∧ s.Scoped ∧ r ∈ s.builder.module.available⌝⦄ := by
  mvcgen [unpackColor] with grind

@[local spec] theorem loadInput_scoped (m₀ : Module) (reg : Register) :
    ⦃fun s => ⌜m₀ ≤ s.builder.module ∧ s.Scoped⌝⦄ loadInput reg
      ⦃⇓? r s => ⌜m₀ ≤ s.builder.module ∧ s.Scoped ∧ r ∈ s.builder.module.available⌝⦄ := by
  mvcgen [loadInput] with grind

@[local spec] theorem checkFloatConstant_scoped (m₀ : Module) (reg : Register) :
    ⦃fun s => ⌜m₀ ≤ s.builder.module ∧ s.Scoped⌝⦄ checkFloatConstant reg
      ⦃⇓? _ s => ⌜m₀ ≤ s.builder.module ∧ s.Scoped⌝⦄ := by
  mvcgen [checkFloatConstant]

@[local spec] theorem constantBlock_scoped (m₀ : Module) :
    ⦃fun s => ⌜m₀ ≤ s.builder.module ∧ s.Scoped⌝⦄ constantBlock
      ⦃⇓? r s => ⌜m₀ ≤ s.builder.module ∧ s.Scoped ∧ r ∈ s.builder.module.available⌝⦄ := by
  mvcgen [constantBlock, alloc_scoped] with
    ((try simp only [Instruction.idOperands_mk, Op.layout, Op.memberDecorate, Op.memberName,
      Op.var, OperandLayout.ids, List.take_succ_cons, List.take_zero, List.drop_succ_cons,
      List.drop_zero, Option.toList_none, Option.toList_some, List.nil_append,
      List.append_nil]); grind)

@[local spec] theorem blockElement_scoped (m₀ : Module) (index : Nat) :
    ⦃fun s => ⌜m₀ ≤ s.builder.module ∧ s.Scoped ∧ index ∈ s.builder.module.available⌝⦄
      blockElement index
      ⦃⇓? r s => ⌜m₀ ≤ s.builder.module ∧ s.Scoped ∧ r ∈ s.builder.module.available⌝⦄ := by
  mvcgen [blockElement] with grind

@[local spec] theorem loadConstant_scoped (m₀ : Module) (reg : Register) :
    ⦃fun s => ⌜m₀ ≤ s.builder.module ∧ s.Scoped⌝⦄ loadConstant reg
      ⦃⇓? r s => ⌜m₀ ≤ s.builder.module ∧ s.Scoped ∧ r ∈ s.builder.module.available⌝⦄ := by
  mvcgen [loadConstant] with grind

@[local spec] theorem read_scoped (m₀ : Module) (reg : Register) :
    ⦃fun s => ⌜m₀ ≤ s.builder.module ∧ s.Scoped⌝⦄ read reg
      ⦃⇓? r s => ⌜m₀ ≤ s.builder.module ∧ s.Scoped ∧ r ∈ s.builder.module.available⌝⦄ := by
  mvcgen [read] with grind

@[local spec] theorem selectDefined_scoped (m₀ : Module) (index boolType bvec4 vec4 value : Nat)
    (reg : Register) :
    ⦃fun s => ⌜m₀ ≤ s.builder.module ∧ s.Scoped ∧
      [value, index, boolType, bvec4, vec4] ⊆ s.builder.module.available⌝⦄
      selectDefined index boolType bvec4 vec4 value reg
      ⦃⇓? r s => ⌜m₀ ≤ s.builder.module ∧ s.Scoped ∧
        [r, index, boolType, bvec4, vec4] ⊆ s.builder.module.available⌝⦄ := by
  mvcgen [selectDefined] with grind

/-- Selecting over the defined constant registers returns a defined id; the index and the types
the selections use stay defined along the fold. -/
theorem selectDefined_fold_scoped (m₀ : Module) (index boolType bvec4 vec4 value : Nat)
    (defined : List Register) :
    ⦃fun s => ⌜m₀ ≤ s.builder.module ∧ s.Scoped ∧
      [value, index, boolType, bvec4, vec4] ⊆ s.builder.module.available⌝⦄
      defined.foldlM (selectDefined index boolType bvec4 vec4) value
      ⦃⇓? r s => ⌜m₀ ≤ s.builder.module ∧ s.Scoped ∧
        [r, index, boolType, bvec4, vec4] ⊆ s.builder.module.available⌝⦄ :=
  foldlM_triple (fun acc reg => selectDefined_scoped m₀ index boolType bvec4 vec4 acc reg) value

@[local spec] theorem addressed_scoped (m₀ : Module) (src : Source) :
    ⦃fun s => ⌜m₀ ≤ s.builder.module ∧ s.Scoped⌝⦄ addressed src
      ⦃⇓? r s => ⌜m₀ ≤ s.builder.module ∧ s.Scoped ∧ r ∈ s.builder.module.available⌝⦄ := by
  mvcgen [addressed, selectDefined_fold_scoped, - Spec.foldlM_list] with grind

end

end Lowering

end ShaderBridge
