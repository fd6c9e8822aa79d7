import ShaderBridge.Proofs.Assembly

/-!
Every converted module defines each id before it names it: the steps that lower whole
instructions and the end of lowering keep `Lowering.Scoped`.
-/

namespace ShaderBridge

open Std.Do Spirv Spirv.Module

namespace Spirv

/-- Whether each instruction names only ids of `outer` and results of the instructions before
it can be computed. -/
instance decidableUsesBefore : (outer : List Nat) → (is : List Instruction) →
    Decidable (UsesBefore outer is)
  | _, [] => isTrue trivial
  | outer, i :: is =>
    haveI := decidableUsesBefore (outer ++ i.result.toList) is
    inferInstanceAs (Decidable ((∀ x ∈ i.idOperands, x ∈ outer) ∧
      UsesBefore (outer ++ i.result.toList) is))

instance (m : Module) : Decidable m.Scoped :=
  decidable_of_iff (UsesBefore [] m.declarations.toList ∧
      UsesBefore (m.importIds ++ m.declIds) m.functions.toList ∧
      ∀ i ∈ m.entryPoints.toList ++ m.executionModes.toList ++ m.names.toList ++
        m.annotations.toList, ∀ x ∈ i.idOperands, x ∈ m.available)
    ⟨fun ⟨h₁, h₂, h₃⟩ => ⟨h₁, h₂, h₃⟩, fun h => ⟨h.1, h.2, h.3⟩⟩

instance (b : Builder) : Decidable b.Scoped :=
  decidable_of_iff (b.module.Scoped ∧ (∀ p ∈ b.types.entries, p.2 ∈ b.module.declIds) ∧
      (∀ p ∈ b.constants.scalars, p.2 ∈ b.module.declIds) ∧
      (∀ p ∈ b.constants.composites, p.2 ∈ b.module.declIds) ∧
      ∀ p ∈ b.constants.nulls, p.2 ∈ b.module.declIds)
    ⟨fun ⟨h₁, h₂, h₃, h₄, h₅⟩ => ⟨h₁, h₂, h₃, h₄, h₅⟩, fun h => ⟨h.1, h.2, h.3, h.4, h.5⟩⟩

end Spirv

namespace Lowering

section

set_option mvcgen.warning false

attribute [local spec] emit_scoped declareInstruction_scoped annotate_scoped addName_scoped
  addEntryPoint_scoped addExecutionMode_scoped typeId_scoped pointerTypeId_scoped null_scoped
  composite_scoped floatType_scoped float32_scoped int32_scoped uint32_scoped boolean_scoped
  scalarType_scoped vec4Constant_scoped compute_scoped glslCall_scoped extract_scoped
  shuffle_scoped splat_scoped truncate_scoped ensureOutput_scoped declare_scoped define_scoped
  defineInt_scoped defineBool_scoped bindValue_scoped bindDefined_scoped unpackColor_scoped
  loadInput_scoped read_scoped addressed_scoped

attribute [local grind →] Scoped.mem_of_value Scoped.mem_of_input Scoped.mem_of_output
  Scoped.mem_of_sampler Scoped.mem_of_floatBlock Scoped.glsl_mem Scoped.entryPoint_mem
attribute [local grind ←] Scoped.unread Scoped.bindValue Scoped.pushInterface Scoped.addInput
  Scoped.addOutput Scoped.addSampler Scoped.setFloatBlock OperandLayout.ids_subset
attribute [local grind =] mem_available_iff_atom_le mem_declIds_iff_declAtom_le
attribute [local grind →] mem_available_of_mem_declIds
attribute [local grind =] List.cons_subset TypeDesc.namedIds_vector TypeDesc.namedIds_vec4
  TypeDesc.namedIds_ivec4 TypeDesc.namedIds_float TypeDesc.namedIds_bool TypeDesc.namedIds_int
  TypeDesc.namedIds_uintVector TypeDesc.namedIds_image TypeDesc.namedIds_sampler
  TypeDesc.namedIds_sampledImage TypeDesc.namedIds_array TypeDesc.namedIds_struct
attribute [local grind .] List.nil_subset

attribute [local irreducible] Builder.vec4Constant

/-- A source names the id its register holds and the ids computed from it by the swizzle and
the modifier. -/
theorem source_scoped (m₀ : Module) (src : Source) (width : Nat) :
    ⦃fun s => ⌜m₀ ≤ s.builder.module ∧ s.Scoped⌝⦄ source src width
      ⦃⇓? r s => ⌜m₀ ≤ s.builder.module ∧ s.Scoped ∧ r ∈ s.builder.module.available⌝⦄ := by
  -- each step names what the one before returned: available then, and still so, since the
  -- module only grows
  mvcgen [source, addressed_scoped] with grind

/-- Merging names the previous value, read or zero, and the merged value. -/
theorem mergeMask_scoped (m₀ : Module) (reg : Register) (mask : WriteMask) (value : Nat)
    (ty : TypeDesc) :
    ⦃fun s => ⌜m₀ ≤ s.builder.module ∧ s.Scoped ∧
      (value ∈ s.builder.module.available ∧ ty.namedIds ⊆ s.builder.module.declIds)⌝⦄
      mergeMask reg mask value ty
      ⦃⇓? r s => ⌜m₀ ≤ s.builder.module ∧ s.Scoped ∧ r ∈ s.builder.module.available⌝⦄ := by
  mvcgen [mergeMask, read_scoped] with grind

/-- A write names the value, scaled and saturated in turn, and the register's output variable. -/
theorem writeDestination_scoped (m₀ : Module) (dst : Destination) (value width : Nat) :
    ⦃fun s => ⌜m₀ ≤ s.builder.module ∧ s.Scoped ∧ value ∈ s.builder.module.available⌝⦄
      writeDestination dst value width
      ⦃⇓? _ s => ⌜m₀ ≤ s.builder.module ∧ s.Scoped⌝⦄ := by
  mvcgen [writeDestination, mergeMask_scoped] with grind

theorem writeAddress_scoped (m₀ : Module) (dst : Destination) (value : Nat) (round : Bool) :
    ⦃fun s => ⌜m₀ ≤ s.builder.module ∧ s.Scoped ∧ value ∈ s.builder.module.available⌝⦄
      writeAddress dst value round
      ⦃⇓? _ s => ⌜m₀ ≤ s.builder.module ∧ s.Scoped⌝⦄ := by
  mvcgen [writeAddress, mergeMask_scoped] with grind

theorem compareSelect_scoped (m₀ : Module) (op : Op) (a b : Nat) :
    ⦃fun s => ⌜m₀ ≤ s.builder.module ∧ s.Scoped ∧
      (a ∈ s.builder.module.available ∧ b ∈ s.builder.module.available)⌝⦄
      compareSelect op a b
      ⦃⇓? r s => ⌜m₀ ≤ s.builder.module ∧ s.Scoped ∧ r ∈ s.builder.module.available⌝⦄ := by
  mvcgen [compareSelect] with grind

/-- The combined image names the two variables the sampler declared. -/
theorem sampledImage_scoped (m₀ : Module) (src : Source) :
    ⦃fun s => ⌜m₀ ≤ s.builder.module ∧ s.Scoped⌝⦄ sampledImage src
      ⦃⇓? r s => ⌜m₀ ≤ s.builder.module ∧ s.Scoped ∧ r.1 ∈ s.builder.module.available⌝⦄ := by
  mvcgen [sampledImage] with grind

/-- A sample names the combined image, the coordinates and the ids after the image operand
mask. -/
theorem sample_scoped (m₀ : Module) (op : Op) (image coordinates : Nat) (operands : List Nat)
    (hop : op.layout = .imageSample) :
    ⦃fun s => ⌜m₀ ≤ s.builder.module ∧ s.Scoped ∧ (image ∈ s.builder.module.available ∧
      coordinates ∈ s.builder.module.available ∧ operands.drop 1 ⊆ s.builder.module.available)⌝⦄
      sample op image coordinates operands
      ⦃⇓? r s => ⌜m₀ ≤ s.builder.module ∧ s.Scoped ∧ r ∈ s.builder.module.available⌝⦄ := by
  mvcgen [sample] with
    (simp only [hop, OperandLayout.ids, List.take_succ_cons, List.take_zero, List.drop_succ_cons,
      List.cons_append] at *
     grind)

/-! The instructions: each reads its sources in turn, computes from the ids read and writes the
result. An id read first is still available when the next source has been read, as the module
only grows. -/

theorem mov_scoped (m₀ : Module) (dst : Destination) (src : Source) :
    ⦃fun s => ⌜m₀ ≤ s.builder.module ∧ s.Scoped⌝⦄ mov dst src
      ⦃⇓? _ s => ⌜m₀ ≤ s.builder.module ∧ s.Scoped⌝⦄ := by
  mvcgen [mov, source_scoped, writeAddress_scoped, writeDestination_scoped] with grind

theorem mova_scoped (m₀ : Module) (dst : Destination) (src : Source) :
    ⦃fun s => ⌜m₀ ≤ s.builder.module ∧ s.Scoped⌝⦄ mova dst src
      ⦃⇓? _ s => ⌜m₀ ≤ s.builder.module ∧ s.Scoped⌝⦄ := by
  mvcgen [mova, source_scoped, writeAddress_scoped] with grind

theorem unary_scoped (m₀ : Module) (op : UnaryOp) (dst : Destination) (a : Source) :
    ⦃fun s => ⌜m₀ ≤ s.builder.module ∧ s.Scoped⌝⦄ unary op dst a
      ⦃⇓? _ s => ⌜m₀ ≤ s.builder.module ∧ s.Scoped⌝⦄ := by
  mvcgen [unary, source_scoped, writeDestination_scoped] with grind

theorem binary_scoped (m₀ : Module) (op : BinaryOp) (dst : Destination) (a b : Source) :
    ⦃fun s => ⌜m₀ ≤ s.builder.module ∧ s.Scoped⌝⦄ binary op dst a b
      ⦃⇓? _ s => ⌜m₀ ≤ s.builder.module ∧ s.Scoped⌝⦄ := by
  mvcgen [binary, source_scoped, compareSelect_scoped, writeDestination_scoped] with grind

theorem ternary_scoped (m₀ : Module) (op : TernaryOp) (dst : Destination) (a b c : Source) :
    ⦃fun s => ⌜m₀ ≤ s.builder.module ∧ s.Scoped⌝⦄ ternary op dst a b c
      ⦃⇓? _ s => ⌜m₀ ≤ s.builder.module ∧ s.Scoped⌝⦄ := by
  mvcgen [ternary, source_scoped, writeDestination_scoped] with grind

theorem texld_scoped (m₀ : Module) (control tokenIndex : Nat) (dst : Destination)
    (coord sampler : Source) :
    ⦃fun s => ⌜m₀ ≤ s.builder.module ∧ s.Scoped⌝⦄ texld control tokenIndex dst coord sampler
      ⦃⇓? _ s => ⌜m₀ ≤ s.builder.module ∧ s.Scoped⌝⦄ := by
  -- that the sampling opcodes have the sampling layout is decided
  mvcgen [texld, sampledImage_scoped, source_scoped, sample_scoped, writeDestination_scoped] with
    first | decide | grind

theorem texldl_scoped (m₀ : Module) (dst : Destination) (coord sampler : Source) :
    ⦃fun s => ⌜m₀ ≤ s.builder.module ∧ s.Scoped⌝⦄ texldl dst coord sampler
      ⦃⇓? _ s => ⌜m₀ ≤ s.builder.module ∧ s.Scoped⌝⦄ := by
  mvcgen [texldl, sampledImage_scoped, source_scoped, sample_scoped, writeDestination_scoped] with
    first | decide | grind

theorem instruction_scoped (m₀ : Module) (ins : Instruction) :
    ⦃fun s => ⌜m₀ ≤ s.builder.module ∧ s.Scoped⌝⦄ instruction ins
      ⦃⇓? _ s => ⌜m₀ ≤ s.builder.module ∧ s.Scoped⌝⦄ := by
  cases ins <;> mvcgen [instruction, mov_scoped, mova_scoped, unary_scoped, binary_scoped,
    ternary_scoped, texld_scoped, texldl_scoped]

theorem flipY_scoped (m₀ : Module) (position : Nat) :
    ⦃fun s => ⌜m₀ ≤ s.builder.module ∧ s.Scoped ∧ position ∈ s.builder.module.available⌝⦄
      flipY position
      ⦃⇓? r s => ⌜m₀ ≤ s.builder.module ∧ s.Scoped ∧ r ∈ s.builder.module.available⌝⦄ := by
  mvcgen [flipY] with
    ((try simp only [Op.layout, Op.compositeInsert, OperandLayout.ids, List.take_succ_cons,
      List.take_zero]); grind)

attribute [local spec] flipY_scoped

/-- Storing the outputs from a scoped state: each store names an output variable of the state
the loop started from and a value read since. -/
theorem storeOutputs_scoped_from (m₀ : Module) (s₀ : Lowering) :
    ⦃fun s => ⌜s = s₀ ∧ m₀ ≤ s.builder.module ∧ s.Scoped⌝⦄ storeOutputs
      ⦃⇓? _ s => ⌜m₀ ≤ s.builder.module ∧ s.Scoped⌝⦄ := by
  mvcgen [storeOutputs] invariants
    · ⇓? _ s => ⌜s₀.builder.module ≤ s.builder.module ∧ m₀ ≤ s.builder.module ∧ s.Scoped⌝
  with
    ((try simp only [Instruction.idOperands_mk, Op.layout, Op.store, OperandLayout.ids,
      List.take_succ_cons, List.take_zero, Option.toList_none, List.nil_append]); grind)

theorem storeOutputs_scoped (m₀ : Module) :
    ⦃fun s => ⌜m₀ ≤ s.builder.module ∧ s.Scoped⌝⦄ storeOutputs
      ⦃⇓? _ s => ⌜m₀ ≤ s.builder.module ∧ s.Scoped⌝⦄ :=
  fun s hs => storeOutputs_scoped_from m₀ s s ⟨rfl, hs⟩

/-- The entry point names the function and the interface variables; its name is a literal. -/
theorem idOperands_entryPoint (model entry : Nat) (interface : List Nat) :
    ({ op := Op.entryPoint, operands := model :: entry :: stringWords "main" ++ interface } :
      Spirv.Instruction).idOperands = entry :: interface := by
  have hmain : stringWords "main" = [0x6E69616D, 0] := by decide
  simp [Instruction.idOperands, Op.layout, Op.entryPoint, OperandLayout.ids, hmain,
    stringWordCount, hasZeroByte]

theorem idOperands_executionMode (entry : Nat) (mode : ExecutionMode) :
    (executionMode entry mode).idOperands = [entry] := rfl

/-- Returning and ending the function name no id. -/
theorem idOperands_return : ({ op := Op.returnVoid } : Spirv.Instruction).idOperands = [] ∧
    ({ op := Op.functionEnd } : Spirv.Instruction).idOperands = [] :=
  ⟨rfl, rfl⟩

attribute [local grind =] idOperands_entryPoint idOperands_executionMode

/-- The shader read off at the end of lowering defines every id before naming it. -/
theorem finish_scoped (m₀ : Module) :
    ⦃fun s => ⌜m₀ ≤ s.builder.module ∧ s.Scoped⌝⦄ finish ⦃⇓? r _ => ⌜r.module.Scoped⌝⦄ := by
  have hstore := storeOutputs_scoped
  mvcgen [finish, hstore] with
    ((try simp +zetaDelta only [idOperands_entryPoint, idOperands_executionMode] at *)
     grind [Scoped.builder, Builder.Scoped.module, Scoped.interface_subset, idOperands_return])

attribute [local spec] instruction_scoped

/-- Lowering a program from a scoped state reads off a module that defines every id before
naming it. -/
theorem program_scoped (m₀ : Module) (p : Program) :
    ⦃fun s => ⌜m₀ ≤ s.builder.module ∧ s.Scoped⌝⦄ program p ⦃⇓? r _ => ⌜r.module.Scoped⌝⦄ := by
  have body : ⦃fun s => ⌜m₀ ≤ s.builder.module ∧ s.Scoped⌝⦄ p.body.forM instruction
      ⦃⇓? _ s => ⌜m₀ ≤ s.builder.module ∧ s.Scoped⌝⦄ :=
    forM_keeps fun ins _ => instruction_scoped m₀ ins
  have hfinish := finish_scoped m₀
  mvcgen [program, body, hfinish]

end

/-- Lowering starts scoped: the opening declarations name only what they declare before, and
the import and the entry point are defined. -/
theorem start_scoped (options : Options) (registry : ConstantRegistry) (version : ShaderVersion) :
    (start options registry version).Scoped := by
  have hopening : (opening {}).2.Scoped ∧ (opening {}).1.1 ∈ (opening {}).2.module.available ∧
      (opening {}).1.2 ∈ (opening {}).2.module.available := by
    decide +kernel
  obtain ⟨hbuilder, hglsl, hentry⟩ := hopening
  refine ⟨hbuilder, fun x hx => ?_, fun _ hp => (List.not_mem_nil hp).elim⟩
  -- the import and the entry point are the only ids the start state holds
  rcases mem_heldIds.1 hx with rfl | rfl | ⟨_, hp, -⟩ | hx | ⟨_, hp, -⟩ | ⟨_, hp, -⟩ | hx |
    ⟨_, hp, -⟩ | ⟨_, hp, -⟩
  · exact hglsl
  · exact hentry
  all_goals first
    | exact (List.not_mem_nil hp).elim
    | exact (List.not_mem_nil hx).elim
    | cases hx

end Lowering

/-- Every shader the converter produces defines each id before naming it. -/
theorem Converter.compile_scoped {c : Converter} {tokens : Array UInt32} {shader : Shader}
    (h : c.compile tokens = .ok shader) :
    UsesBefore [] shader.module.declarations.toList ∧
      UsesBefore (shader.module.importIds ++ shader.module.declIds)
        shader.module.functions.toList ∧
      ∀ i ∈ shader.module.entryPoints.toList ++ shader.module.executionModes.toList ++
        shader.module.names.toList ++ shader.module.annotations.toList,
        ∀ x ∈ i.idOperands, x ∈ shader.module.available := by
  obtain ⟨p, -, hlower⟩ := Converter.compile_eq_ok h
  obtain ⟨s', hrun⟩ := Program.lower_eq_ok hlower
  have hscoped : shader.module.Scoped :=
    Lowering.triple_run (Lowering.program_scoped _ p)
      ⟨le_iff_grows.2 (Module.Grows.refl _), Lowering.start_scoped _ _ _⟩ hrun
  exact ⟨hscoped.declarations, hscoped.functions, hscoped.debug⟩

/-- A model 2 vertex shader that declares a position in `v0` and a colour in `v1`, defines `c0`,
adds the undefined `c3` to the position and scales the colour by `c0` converts to a module that
defines each id before naming it. -/
theorem Converter.compile_color_vertex_scoped :
    ∃ t : Array UInt32, t = #[0xFFFE0200, 0x0200001F, 0x80000000, 0x900F0000, 0x0200001F,
        0x8000000A, 0x900F0001, 0x05000051, 0xA00F0000, 0x3F800000, 0x00000000, 0x00000000,
        0x3F800000, 0x03000002, 0x800F0000, 0x90E40000, 0xA0E40003, 0x02000001, 0xC00F0000,
        0x80E40000, 0x03000005, 0xD00F0000, 0x90E40001, 0xA0E40000, 0x0000FFFF] ∧
    ∃ shader, Converter.compile {} t = .ok shader ∧
      UsesBefore [] shader.module.declarations.toList ∧
      UsesBefore (shader.module.importIds ++ shader.module.declIds)
        shader.module.functions.toList ∧
      ∀ i ∈ shader.module.entryPoints.toList ++ shader.module.executionModes.toList ++
        shader.module.names.toList ++ shader.module.annotations.toList,
        ∀ x ∈ i.idOperands, x ∈ shader.module.available := by
  obtain ⟨shader, hc⟩ := exists_eq_ok_of_toBool
    (show (Converter.compile {} #[0xFFFE0200, 0x0200001F, 0x80000000, 0x900F0000, 0x0200001F,
        0x8000000A, 0x900F0001, 0x05000051, 0xA00F0000, 0x3F800000, 0x00000000, 0x00000000,
        0x3F800000, 0x03000002, 0x800F0000, 0x90E40000, 0xA0E40003, 0x02000001, 0xC00F0000,
        0x80E40000, 0x03000005, 0xD00F0000, 0x90E40001, 0xA0E40000, 0x0000FFFF]).toBool = true by decide +kernel)
  exact ⟨_, rfl, shader, hc, Converter.compile_scoped hc⟩

end ShaderBridge
