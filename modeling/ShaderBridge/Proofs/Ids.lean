import ShaderBridge.Proofs.Steps

/-!
Ids of the emitted module: the results of its instructions are exactly the ids below its bound,
each once. `IdsExact` holds between the steps of lowering.
-/

namespace ShaderBridge

open Std.Do

namespace Spirv.Module

/-- The result ids of the module's instructions, in layout order. -/
def results (m : Module) : List Nat := m.instructions.filterMap (·.result)

theorem results_push_perm (m : Module) (sec : Section) (i : Instruction) :
    (m.push sec i).results.Perm (m.results ++ i.result.toList) := by
  rw [List.perm_iff_count]
  intro n
  cases sec <;> cases hr : i.result <;>
    simp [results, push, instructions, capabilityInstructions, List.filterMap_append, hr,
      List.count_append, List.count_cons] <;>
    omega

@[simp] theorem results_bump (m : Module) : m.bump.results = m.results := rfl

@[simp] theorem results_requireCapability (m : Module) (c : Capability) :
    (m.requireCapability c).results = m.results := by
  unfold requireCapability
  split
  · rfl
  · simp [results, instructions, capabilityInstructions, List.filterMap_append]

@[simp] theorem mem_results_push {m : Module} {sec : Section} {i : Instruction} {r : Nat} :
    r ∈ (m.push sec i).results ↔ r ∈ m.results ∨ i.result = some r := by
  simp [(results_push_perm m sec i).mem_iff]

@[simp] theorem length_results_push (m : Module) (sec : Section) (i : Instruction) :
    (m.push sec i).results.length = m.results.length + i.result.toList.length := by
  simp [(results_push_perm m sec i).length_eq]

@[simp] theorem nodup_results_push {m : Module} {sec : Section} {i : Instruction} :
    (m.push sec i).results.Nodup ↔ m.results.Nodup ∧ ∀ r, i.result = some r → r ∉ m.results := by
  rw [(results_push_perm m sec i).nodup_iff, List.nodup_append]
  cases i.result <;> simp [eq_comm, imp_not_comm]

/-- Every id handed out so far is the result of exactly one instruction, and no instruction has
any other result. -/
structure IdsExact (m : Module) : Prop where
  nodup : m.results.Nodup
  bounded : ∀ r ∈ m.results, 0 < r ∧ r < m.nextId
  length_eq : m.results.length + 1 = m.nextId

@[simp] theorem count_results_push (m : Module) (sec : Section) (i : Instruction) (r : Nat) :
    (m.push sec i).results.count r = m.results.count r + if i.result = some r then 1 else 0 := by
  rw [(results_push_perm m sec i).count_eq, List.count_append]
  cases i.result <;> simp [List.count_singleton]

theorem IdsExact.empty : IdsExact {} :=
  ⟨List.nodup_nil, by simp [results, instructions, capabilityInstructions], rfl⟩

/-- The ids handed out are `1, …, nextId - 1`, each the result of one instruction. -/
theorem IdsExact.perm_range {m : Module} (h : IdsExact m) :
    m.results.Perm (List.range' 1 (m.nextId - 1)) := by
  have hsub : m.results ⊆ List.range' 1 (m.nextId - 1) := fun r hr => by
    have := h.bounded r hr
    simp only [List.mem_range'_1]
    omega
  apply (h.nodup.subperm hsub).perm_of_length_le
  simp only [List.length_range']
  have := h.length_eq
  omega

/-- `IdsExact` as a count of every id: ids `1, …, nextId - 1` are results once, no other number
is. This is the form the steps are checked in, since appending an instruction adds to one count. -/
theorem idsExact_iff_count {m : Module} : IdsExact m ↔
    0 < m.nextId ∧ ∀ r, m.results.count r = if 0 < r ∧ r < m.nextId then 1 else 0 := by
  constructor
  · intro h
    refine ⟨by have := h.length_eq; omega, fun r => ?_⟩
    rw [h.perm_range.count_eq, List.count_range_1']
    have := h.length_eq
    split_ifs <;> omega
  · rintro ⟨hpos, hcount⟩
    have hperm : m.results.Perm (List.range' 1 (m.nextId - 1)) :=
      List.perm_iff_count.2 fun r => by
        rw [hcount r, List.count_range_1']
        split_ifs <;> omega
    refine ⟨hperm.nodup_iff.2 List.nodup_range', fun r hr => ?_, ?_⟩
    · have := List.mem_range'_1.1 (hperm.subset hr)
      omega
    · rw [hperm.length_eq, List.length_range']
      omega

/-- Handing out an id and appending the instruction it is the result of keeps every id defined
once. -/
theorem IdsExact.define {m : Module} {sec : Section} {i : Instruction} (h : IdsExact m)
    (hi : i.result = some m.nextId) : IdsExact (m.bump.push sec i) := by
  have hfresh : m.nextId ∉ m.results := fun hr => by have := h.bounded _ hr; omega
  refine ⟨?_, ?_, ?_⟩
  · simp only [nodup_results_push, results_bump, hi, Option.some.injEq, forall_eq']
    exact ⟨h.nodup, hfresh⟩
  · intro r hr
    simp only [mem_results_push, results_bump, hi, Option.some.injEq] at hr
    rcases hr with hr | rfl
    · have := h.bounded r hr
      simp only [push_nextId, bump_nextId]
      omega
    · have := h.length_eq
      simp only [push_nextId, bump_nextId]
      omega
  · simp only [length_results_push, results_bump, hi, Option.toList_some, List.length_singleton,
      push_nextId, bump_nextId, h.length_eq]

/-- Appending an instruction without a result keeps every id defined once. -/
theorem IdsExact.push {m : Module} {sec : Section} {i : Instruction} (h : IdsExact m)
    (hi : i.result = none) : IdsExact (m.push sec i) := by
  refine ⟨?_, ?_, ?_⟩
  · simp only [nodup_results_push, hi, reduceCtorEq, false_implies, implies_true, and_true]
    exact h.nodup
  · intro r hr
    simp only [mem_results_push, hi, reduceCtorEq, or_false] at hr
    simpa using h.bounded r hr
  · simpa [hi] using h.length_eq

theorem IdsExact.requireCapability {m : Module} (h : IdsExact m) (c : Capability) :
    IdsExact (m.requireCapability c) := by
  refine ⟨?_, ?_, ?_⟩
  · simpa using h.nodup
  · intro r hr
    simpa using h.bounded r (by simpa using hr)
  · simpa using h.length_eq

end Spirv.Module

namespace Spirv.Builder

open Spirv.Module

@[simp] theorem leafDeclaration_result (d : TypeDesc) (id : Nat) :
    (leafDeclaration d id).result = some id := by
  unfold leafDeclaration
  split <;> rfl

section

set_option mvcgen.warning false

theorem idsExact_iff {m : Module} : IdsExact m ↔
    m.results.Nodup ∧ (∀ r ∈ m.results, 0 < r ∧ r < m.nextId) ∧ m.results.length + 1 = m.nextId :=
  ⟨fun h => ⟨h.1, h.2, h.3⟩, fun h => ⟨h.1, h.2.1, h.2.2⟩⟩

@[simp] theorem nameOf_result (id : Nat) (name : String) :
    (Lowering.nameOf id name).result = none := rfl

@[simp] theorem decoration_result (id : Nat) (d : Decoration) (operands : List Nat) :
    (Lowering.decoration id d operands).result = none := rfl

attribute [local spec] alloc_spec requireCapability_spec addImport_spec addMemoryModel_spec
  addName_spec declare_spec emit_spec

attribute [local grind =] idsExact_iff mem_results_push length_results_push nodup_results_push
  results_bump results_requireCapability push_nextId bump_nextId requireCapability_nextId
  leafDeclaration_result nameOf_result decoration_result

theorem typeId_ids_lt (n : Nat) (d : TypeDesc) :
    ⦃fun b => ⌜IdsExact b.module ∧ d.depth < n⌝⦄ typeId d ⦃⇓ _ b => ⌜IdsExact b.module⌝⦄ := by
  induction n generalizing d with
  | zero => exact fun _ h => absurd h.2 (Nat.not_lt_zero _)
  | succ n ih =>
    rw [typeId]
    mvcgen [ih] with
      grind [TypeDesc.depth, TypeDesc.depth_componentDesc, TypeDesc.depth_vector,
        TypeDesc.depth_image, TypeDesc.depth_float]

@[local spec] theorem typeId_ids (d : TypeDesc) :
    ⦃fun b => ⌜IdsExact b.module⌝⦄ typeId d ⦃⇓ _ b => ⌜IdsExact b.module⌝⦄ :=
  fun b h => typeId_ids_lt (d.depth + 1) d b ⟨h, Nat.lt_succ_self _⟩

@[local spec] theorem pointerTypeId_ids (d : TypeDesc) (sc : StorageClass) :
    ⦃fun b => ⌜IdsExact b.module⌝⦄ pointerTypeId d sc ⦃⇓ _ b => ⌜IdsExact b.module⌝⦄ := by
  mvcgen [pointerTypeId]

@[local spec] theorem scalar_ids (d : TypeDesc) (bits : Nat) :
    ⦃fun b => ⌜IdsExact b.module⌝⦄ scalar d bits ⦃⇓ _ b => ⌜IdsExact b.module⌝⦄ := by
  mvcgen [scalar] with grind

@[local spec] theorem boolean_ids (v : Bool) :
    ⦃fun b => ⌜IdsExact b.module⌝⦄ boolean v ⦃⇓ _ b => ⌜IdsExact b.module⌝⦄ := by
  mvcgen [boolean] with grind

@[local spec] theorem composite_ids (d : TypeDesc) (parts : List Nat) :
    ⦃fun b => ⌜IdsExact b.module⌝⦄ composite d parts ⦃⇓ _ b => ⌜IdsExact b.module⌝⦄ := by
  mvcgen [composite] with grind

@[local spec] theorem null_ids (d : TypeDesc) :
    ⦃fun b => ⌜IdsExact b.module⌝⦄ null d ⦃⇓ _ b => ⌜IdsExact b.module⌝⦄ := by
  mvcgen [null] with grind

/-- A building step that keeps `IdsExact` keeps it when mapped over a list. -/
theorem mapM_ids {β γ : Type} {f : β → BuildM γ}
    (hf : ∀ a, ⦃fun b => ⌜IdsExact b.module⌝⦄ f a ⦃⇓ _ b => ⌜IdsExact b.module⌝⦄) (xs : List β) :
    ⦃fun b => ⌜IdsExact b.module⌝⦄ xs.mapM f ⦃⇓ _ b => ⌜IdsExact b.module⌝⦄ := by
  induction xs with
  | nil => mvcgen
  | cons x xs ih =>
    rw [List.mapM_cons]
    mvcgen [hf, ih]

@[local spec] theorem float32_ids (bits : Nat) :
    ⦃fun b => ⌜IdsExact b.module⌝⦄ float32 bits ⦃⇓ _ b => ⌜IdsExact b.module⌝⦄ := by
  mvcgen [float32]

@[local spec] theorem int32_ids (bits : Nat) :
    ⦃fun b => ⌜IdsExact b.module⌝⦄ int32 bits ⦃⇓ _ b => ⌜IdsExact b.module⌝⦄ := by
  mvcgen [int32]

@[local spec] theorem uint32_ids (value : Nat) :
    ⦃fun b => ⌜IdsExact b.module⌝⦄ uint32 value ⦃⇓ _ b => ⌜IdsExact b.module⌝⦄ := by
  mvcgen [uint32]

@[local spec] theorem vec4Constant_ids (bits : List Nat) :
    ⦃fun b => ⌜IdsExact b.module⌝⦄ vec4Constant bits ⦃⇓ _ b => ⌜IdsExact b.module⌝⦄ := by
  have parts := mapM_ids float32_ids bits
  mvcgen [vec4Constant, parts]

@[local spec] theorem floatType_ids (n : Nat) :
    ⦃fun b => ⌜IdsExact b.module⌝⦄ floatType n ⦃⇓ _ b => ⌜IdsExact b.module⌝⦄ := by
  mvcgen [floatType]

@[local spec] theorem scalarType_ids (kind : Op) :
    ⦃fun b => ⌜IdsExact b.module⌝⦄ scalarType kind ⦃⇓ _ b => ⌜IdsExact b.module⌝⦄ := by
  mvcgen [scalarType]

/-- The fixed opening of every module defines the ids it hands out. -/
theorem opening_ids :
    ⦃fun b => ⌜IdsExact b.module⌝⦄ Lowering.opening ⦃⇓ _ b => ⌜IdsExact b.module⌝⦄ := by
  mvcgen [Lowering.opening] with grind

end

end Spirv.Builder

namespace Lowering

open Spirv Spirv.Module

section

set_option mvcgen.warning false

attribute [local spec] alloc_spec emit_spec declare_spec annotate_spec addName_spec
  addEntryPoint_spec addExecutionMode_spec

attribute [local grind =] Builder.idsExact_iff mem_results_push length_results_push
  nodup_results_push results_bump results_requireCapability push_nextId bump_nextId
  requireCapability_nextId Builder.nameOf_result Builder.decoration_result

-- Constant vectors are known by their spec only: unfolding one while matching a step against
-- its spec would evaluate the whole list of constants it builds.
attribute [local irreducible] Builder.vec4Constant

@[local spec] theorem typeId_ids (d : TypeDesc) :
    ⦃fun s => ⌜IdsExact s.builder.module⌝⦄ typeId d ⦃⇓? _ s => ⌜IdsExact s.builder.module⌝⦄ :=
  build_keeps (Builder.typeId_ids d)

@[local spec] theorem floatType_ids (n : Nat) :
    ⦃fun s => ⌜IdsExact s.builder.module⌝⦄ floatType n ⦃⇓? _ s => ⌜IdsExact s.builder.module⌝⦄ :=
  build_keeps (Builder.floatType_ids n)

@[local spec] theorem float32_ids (bits : Nat) :
    ⦃fun s => ⌜IdsExact s.builder.module⌝⦄ float32 bits ⦃⇓? _ s => ⌜IdsExact s.builder.module⌝⦄ :=
  build_keeps (Builder.float32_ids bits)

@[local spec] theorem int32_ids (bits : Nat) :
    ⦃fun s => ⌜IdsExact s.builder.module⌝⦄ int32 bits ⦃⇓? _ s => ⌜IdsExact s.builder.module⌝⦄ :=
  build_keeps (Builder.int32_ids bits)

@[local spec] theorem pointerTypeId_ids (d : TypeDesc) (sc : StorageClass) :
    ⦃fun s => ⌜IdsExact s.builder.module⌝⦄ build (Builder.pointerTypeId d sc)
      ⦃⇓? _ s => ⌜IdsExact s.builder.module⌝⦄ :=
  build_keeps (Builder.pointerTypeId_ids d sc)

@[local spec] theorem uint32_ids (value : Nat) :
    ⦃fun s => ⌜IdsExact s.builder.module⌝⦄ build (Builder.uint32 value)
      ⦃⇓? _ s => ⌜IdsExact s.builder.module⌝⦄ :=
  build_keeps (Builder.uint32_ids value)

@[local spec] theorem null_ids (d : TypeDesc) :
    ⦃fun s => ⌜IdsExact s.builder.module⌝⦄ build (Builder.null d)
      ⦃⇓? _ s => ⌜IdsExact s.builder.module⌝⦄ :=
  build_keeps (Builder.null_ids d)

@[local spec] theorem vec4Constant_ids (bits : List Nat) :
    ⦃fun s => ⌜IdsExact s.builder.module⌝⦄ build (Builder.vec4Constant bits)
      ⦃⇓? _ s => ⌜IdsExact s.builder.module⌝⦄ :=
  build_keeps (Builder.vec4Constant_ids bits)

@[local spec] theorem composite_ids (d : TypeDesc) (parts : List Nat) :
    ⦃fun s => ⌜IdsExact s.builder.module⌝⦄ build (Builder.composite d parts)
      ⦃⇓? _ s => ⌜IdsExact s.builder.module⌝⦄ :=
  build_keeps (Builder.composite_ids d parts)

@[local spec] theorem boolean_ids (v : Bool) :
    ⦃fun s => ⌜IdsExact s.builder.module⌝⦄ build (Builder.boolean v)
      ⦃⇓? _ s => ⌜IdsExact s.builder.module⌝⦄ :=
  build_keeps (Builder.boolean_ids v)

@[local spec] theorem scalarType_ids (kind : Op) :
    ⦃fun s => ⌜IdsExact s.builder.module⌝⦄ build (Builder.scalarType kind)
      ⦃⇓? _ s => ⌜IdsExact s.builder.module⌝⦄ :=
  build_keeps (Builder.scalarType_ids kind)

@[local spec] theorem compute_ids (op : Op) (ty : Nat) (operands : List Nat) :
    ⦃fun s => ⌜IdsExact s.builder.module⌝⦄ compute op ty operands
      ⦃⇓? _ s => ⌜IdsExact s.builder.module⌝⦄ := by
  mvcgen [compute] with grind

@[local spec] theorem glslCall_ids (op : GlslOp) (ty : Nat) (args : List Nat) :
    ⦃fun s => ⌜IdsExact s.builder.module⌝⦄ glslCall op ty args
      ⦃⇓? _ s => ⌜IdsExact s.builder.module⌝⦄ := by
  mvcgen [glslCall]

@[local spec] theorem extract_ids (ty composite index : Nat) :
    ⦃fun s => ⌜IdsExact s.builder.module⌝⦄ extract ty composite index
      ⦃⇓? _ s => ⌜IdsExact s.builder.module⌝⦄ := by
  mvcgen [extract]

@[local spec] theorem shuffle_ids (ty a b : Nat) (components : List Nat) :
    ⦃fun s => ⌜IdsExact s.builder.module⌝⦄ shuffle ty a b components
      ⦃⇓? _ s => ⌜IdsExact s.builder.module⌝⦄ := by
  mvcgen [shuffle]

@[local spec] theorem splat_ids (x : Nat) :
    ⦃fun s => ⌜IdsExact s.builder.module⌝⦄ splat x ⦃⇓? _ s => ⌜IdsExact s.builder.module⌝⦄ := by
  mvcgen [splat]

@[local spec] theorem truncate_ids (value width : Nat) :
    ⦃fun s => ⌜IdsExact s.builder.module⌝⦄ truncate value width
      ⦃⇓? _ s => ⌜IdsExact s.builder.module⌝⦄ := by
  mvcgen [truncate]

@[local spec] theorem interfaceVariable_ids (reg : Register) (ty : TypeDesc) (slot : InterfaceSlot) :
    ⦃fun s => ⌜IdsExact s.builder.module⌝⦄ interfaceVariable reg ty slot
      ⦃⇓? _ s => ⌜IdsExact s.builder.module⌝⦄ := by
  mvcgen [interfaceVariable] with grind

@[local spec] theorem declareVertexInput_ids (reg : Register) (usage : Usage) :
    ⦃fun s => ⌜IdsExact s.builder.module⌝⦄ declareVertexInput reg usage
      ⦃⇓? _ s => ⌜IdsExact s.builder.module⌝⦄ := by
  mvcgen [declareVertexInput]

@[local spec] theorem declarePixelInput_ids (reg : Register) (usage : Usage) (index : Nat) :
    ⦃fun s => ⌜IdsExact s.builder.module⌝⦄ declarePixelInput reg usage index
      ⦃⇓? _ s => ⌜IdsExact s.builder.module⌝⦄ := by
  mvcgen [declarePixelInput]

@[local spec] theorem createOutput_ids (reg : Register) (ty : TypeDesc) (slot : InterfaceSlot)
    (usage : Option Usage) :
    ⦃fun s => ⌜IdsExact s.builder.module⌝⦄ createOutput reg ty slot usage
      ⦃⇓? _ s => ⌜IdsExact s.builder.module⌝⦄ := by
  mvcgen [createOutput]

@[local spec] theorem declareOutput_ids (reg : Register) (usage : Usage) (index : Nat) :
    ⦃fun s => ⌜IdsExact s.builder.module⌝⦄ declareOutput reg usage index
      ⦃⇓? _ s => ⌜IdsExact s.builder.module⌝⦄ := by
  mvcgen [declareOutput]

@[local spec] theorem ensureOutput_ids (reg : Register) :
    ⦃fun s => ⌜IdsExact s.builder.module⌝⦄ ensureOutput reg
      ⦃⇓? _ s => ⌜IdsExact s.builder.module⌝⦄ := by
  mvcgen [ensureOutput]

@[local spec] theorem declareSampler_ids (index : Nat) (type : TextureType) :
    ⦃fun s => ⌜IdsExact s.builder.module⌝⦄ declareSampler index type
      ⦃⇓? _ s => ⌜IdsExact s.builder.module⌝⦄ := by
  mvcgen [declareSampler, List.forIn_cons, List.forIn_nil] with
    (simp +zetaDelta only [idsExact_iff_count, count_results_push, results_bump, push_nextId,
      bump_nextId, Builder.nameOf_result, Builder.decoration_result] at *; grind)

@[local spec] theorem declare_ids (decl : Declaration) (dst : Destination) :
    ⦃fun s => ⌜IdsExact s.builder.module⌝⦄ declare decl dst
      ⦃⇓? _ s => ⌜IdsExact s.builder.module⌝⦄ := by
  mvcgen [declare]

@[local spec] theorem checkDefinition_ids (reg : Register) (expected : RegisterFile)
    (file : ConstantFile) :
    ⦃fun s => ⌜IdsExact s.builder.module⌝⦄ checkDefinition reg expected file
      ⦃⇓? _ s => ⌜IdsExact s.builder.module⌝⦄ := by
  mvcgen [checkDefinition]

@[local spec] theorem bindValue_ids (reg : Register) (id : Nat) :
    ⦃fun s => ⌜IdsExact s.builder.module⌝⦄ bindValue reg id
      ⦃⇓? _ s => ⌜IdsExact s.builder.module⌝⦄ := by
  mvcgen [bindValue]

@[local spec] theorem bindDefined_ids (reg : Register) (id : Nat) :
    ⦃fun s => ⌜IdsExact s.builder.module⌝⦄ bindDefined reg id
      ⦃⇓? _ s => ⌜IdsExact s.builder.module⌝⦄ := by
  mvcgen [bindDefined] with grind

@[local spec] theorem define_ids (dst : Destination) (values : List UInt32) :
    ⦃fun s => ⌜IdsExact s.builder.module⌝⦄ define dst values
      ⦃⇓? _ s => ⌜IdsExact s.builder.module⌝⦄ := by
  mvcgen [define]

@[local spec] theorem defineInt_ids (dst : Destination) (values : List UInt32) :
    ⦃fun s => ⌜IdsExact s.builder.module⌝⦄ defineInt dst values
      ⦃⇓? _ s => ⌜IdsExact s.builder.module⌝⦄ := by
  have parts : ⦃fun s => ⌜IdsExact s.builder.module⌝⦄ values.mapM (fun v => int32 v.toNat)
      ⦃⇓? _ s => ⌜IdsExact s.builder.module⌝⦄ :=
    mapM_keeps fun v => int32_ids v.toNat
  mvcgen [defineInt, parts]

@[local spec] theorem defineBool_ids (dst : Destination) (value : UInt32) :
    ⦃fun s => ⌜IdsExact s.builder.module⌝⦄ defineBool dst value
      ⦃⇓? _ s => ⌜IdsExact s.builder.module⌝⦄ := by
  mvcgen [defineBool]

@[local spec] theorem unpackColor_ids (packed : Nat) :
    ⦃fun s => ⌜IdsExact s.builder.module⌝⦄ unpackColor packed
      ⦃⇓? _ s => ⌜IdsExact s.builder.module⌝⦄ := by
  mvcgen [unpackColor]

@[local spec] theorem loadInput_ids (reg : Register) :
    ⦃fun s => ⌜IdsExact s.builder.module⌝⦄ loadInput reg ⦃⇓? _ s => ⌜IdsExact s.builder.module⌝⦄ := by
  mvcgen [loadInput]

@[local spec] theorem checkFloatConstant_ids (reg : Register) :
    ⦃fun s => ⌜IdsExact s.builder.module⌝⦄ checkFloatConstant reg
      ⦃⇓? _ s => ⌜IdsExact s.builder.module⌝⦄ := by
  mvcgen [checkFloatConstant]

@[local spec] theorem constantBlock_ids :
    ⦃fun s => ⌜IdsExact s.builder.module⌝⦄ constantBlock ⦃⇓? _ s => ⌜IdsExact s.builder.module⌝⦄ := by
  mvcgen [constantBlock] with
    (simp +zetaDelta only [idsExact_iff_count, count_results_push, results_bump,
      push_nextId, bump_nextId, Builder.nameOf_result, Builder.decoration_result] at *; grind)

@[local spec] theorem blockElement_ids (index : Nat) :
    ⦃fun s => ⌜IdsExact s.builder.module⌝⦄ blockElement index
      ⦃⇓? _ s => ⌜IdsExact s.builder.module⌝⦄ := by
  mvcgen [blockElement]

@[local spec] theorem loadConstant_ids (reg : Register) :
    ⦃fun s => ⌜IdsExact s.builder.module⌝⦄ loadConstant reg
      ⦃⇓? _ s => ⌜IdsExact s.builder.module⌝⦄ := by
  mvcgen [loadConstant]

@[local spec] theorem read_ids (reg : Register) :
    ⦃fun s => ⌜IdsExact s.builder.module⌝⦄ read reg ⦃⇓? _ s => ⌜IdsExact s.builder.module⌝⦄ := by
  mvcgen [read]

@[local spec] theorem selectDefined_ids (index boolType bvec4 vec4 value : Nat) (reg : Register) :
    ⦃fun s => ⌜IdsExact s.builder.module⌝⦄ selectDefined index boolType bvec4 vec4 value reg
      ⦃⇓? _ s => ⌜IdsExact s.builder.module⌝⦄ := by
  mvcgen [selectDefined]

@[local spec] theorem addressed_ids (src : Source) :
    ⦃fun s => ⌜IdsExact s.builder.module⌝⦄ addressed src
      ⦃⇓? _ s => ⌜IdsExact s.builder.module⌝⦄ := by
  mvcgen [addressed] invariants
    · ⇓? _ s => ⌜IdsExact s.builder.module⌝
  with grind

@[local spec] theorem source_ids (src : Source) (width : Nat) :
    ⦃fun s => ⌜IdsExact s.builder.module⌝⦄ source src width
      ⦃⇓? _ s => ⌜IdsExact s.builder.module⌝⦄ := by
  mvcgen [source]

@[local spec] theorem mergeMask_ids (reg : Register) (mask : WriteMask) (value : Nat)
    (ty : TypeDesc) :
    ⦃fun s => ⌜IdsExact s.builder.module⌝⦄ mergeMask reg mask value ty
      ⦃⇓? _ s => ⌜IdsExact s.builder.module⌝⦄ := by
  mvcgen [mergeMask]

@[local spec] theorem writeDestination_ids (dst : Destination) (value width : Nat) :
    ⦃fun s => ⌜IdsExact s.builder.module⌝⦄ writeDestination dst value width
      ⦃⇓? _ s => ⌜IdsExact s.builder.module⌝⦄ := by
  mvcgen [writeDestination]

@[local spec] theorem writeAddress_ids (dst : Destination) (value : Nat) (round : Bool) :
    ⦃fun s => ⌜IdsExact s.builder.module⌝⦄ writeAddress dst value round
      ⦃⇓? _ s => ⌜IdsExact s.builder.module⌝⦄ := by
  mvcgen [writeAddress]

@[local spec] theorem compareSelect_ids (op : Op) (a b : Nat) :
    ⦃fun s => ⌜IdsExact s.builder.module⌝⦄ compareSelect op a b
      ⦃⇓? _ s => ⌜IdsExact s.builder.module⌝⦄ := by
  mvcgen [compareSelect]

@[local spec] theorem sampledImage_ids (src : Source) :
    ⦃fun s => ⌜IdsExact s.builder.module⌝⦄ sampledImage src
      ⦃⇓? _ s => ⌜IdsExact s.builder.module⌝⦄ := by
  mvcgen [sampledImage]

@[local spec] theorem sample_ids (op : Op) (image coordinates : Nat) (operands : List Nat) :
    ⦃fun s => ⌜IdsExact s.builder.module⌝⦄ sample op image coordinates operands
      ⦃⇓? _ s => ⌜IdsExact s.builder.module⌝⦄ := by
  mvcgen [sample]

/-- Lowering any instruction keeps every id defined once. -/
theorem instruction_ids (ins : Instruction) :
    ⦃fun s => ⌜IdsExact s.builder.module⌝⦄ instruction ins
      ⦃⇓? _ s => ⌜IdsExact s.builder.module⌝⦄ := by
  cases ins <;>
    mvcgen [instruction, mov, mova, unary, binary, ternary, texld, texldl]

@[local spec] theorem flipY_ids (position : Nat) :
    ⦃fun s => ⌜IdsExact s.builder.module⌝⦄ flipY position
      ⦃⇓? _ s => ⌜IdsExact s.builder.module⌝⦄ := by
  mvcgen [flipY]

@[local spec] theorem storeOutputs_ids :
    ⦃fun s => ⌜IdsExact s.builder.module⌝⦄ storeOutputs ⦃⇓? _ s => ⌜IdsExact s.builder.module⌝⦄ := by
  mvcgen [storeOutputs] invariants
    · ⇓? _ s => ⌜IdsExact s.builder.module⌝
  with grind

/-- The shader read off at the end of lowering has every id defined once. -/
theorem finish_ids :
    ⦃fun s => ⌜IdsExact s.builder.module⌝⦄ finish ⦃⇓? r _ => ⌜IdsExact r.module⌝⦄ := by
  mvcgen [finish] with
    (simp +zetaDelta only [idsExact_iff_count, count_results_push, push_nextId, executionMode]
      at *; grind)

/-- Lowering a whole program keeps every id defined once, up to the shader it reads off. -/
theorem program_ids (p : Program) :
    ⦃fun s => ⌜IdsExact s.builder.module⌝⦄ program p ⦃⇓? r _ => ⌜IdsExact r.module⌝⦄ := by
  have body : ⦃fun s => ⌜IdsExact s.builder.module⌝⦄ p.body.forM instruction
      ⦃⇓? _ s => ⌜IdsExact s.builder.module⌝⦄ :=
    forM_triple (I := fun _ s => IdsExact s.builder.module) (fun _ ins _ => instruction_ids ins) []
  mvcgen [program, body, finish_ids]

end

theorem start_ids (options : Options) (registry : ConstantRegistry) (version : ShaderVersion) :
    IdsExact (start options registry version).builder.module :=
  Builder.opening_ids {} IdsExact.empty

end Lowering

open Spirv.Module

theorem Program.lower_ids {p : Program} {options : Options} {registry : ConstantRegistry}
    {shader : Shader} (h : p.lower options registry = .ok shader) : IdsExact shader.module := by
  unfold Program.lower at h
  cases hrun : Lowering.program p (Lowering.start options registry p.version) with
  | error e => simp [StateT.run', hrun] at h
  | ok r =>
    obtain ⟨r, s'⟩ := r
    simp only [StateT.run', hrun, Functor.map, Except.map, Except.ok.injEq] at h
    subst h
    exact Lowering.triple_run (Lowering.program_ids p) (Lowering.start_ids _ _ _) hrun

theorem Converter.compile_ids {c : Converter} {tokens : Array UInt32} {shader : Shader}
    (h : c.compile tokens = .ok shader) : IdsExact shader.module := by
  unfold Converter.compile at h
  split at h
  · cases h
  · cases hp : Program.decode tokens with
    | error e => simp [hp, bind, Except.bind] at h
    | ok p =>
      simp only [hp, bind, Except.bind] at h
      exact Program.lower_ids h

/-- The first five words of a shader are the module header, with the id bound in the fourth. -/
theorem Shader.words_take_header (shader : Shader) :
    shader.words.take 5 = [0x07230203, 0x00010000, 1, shader.idBound, 0] := by
  simp [Shader.words, Spirv.Module.words, Spirv.Module.header, Shader.idBound_eq_bound,
    Spirv.magic, Spirv.version, Spirv.generator]

/-- A converted shader's words open with the SPIR-V header, its size counts four bytes a word,
and the results of its instructions are the ids below the header's bound, each once. -/
theorem Converter.compile_ids_below_bound {c : Converter} {tokens : Array UInt32}
    {shader : Shader} (h : c.compile tokens = .ok shader) :
    shader.words.take 5 = [0x07230203, 0x00010000, 1, shader.idBound, 0] ∧
      shader.size = 4 * shader.words.length ∧
      shader.module.results.Perm (List.range' 1 (shader.idBound - 1)) := by
  refine ⟨shader.words_take_header, rfl, ?_⟩
  rw [Shader.idBound_eq_bound]
  exact (Converter.compile_ids h).perm_range

/-- A model 2 vertex shader that declares a position in `v0` and a colour in `v1`, defines `c0`,
adds the undefined `c3` to the position and scales the colour by `c0` converts, and its module
numbers its ids exactly. -/
theorem Converter.compile_color_vertex_ids_below_bound :
    ∃ t : Array UInt32, t = #[0xFFFE0200, 0x0200001F, 0x80000000, 0x900F0000, 0x0200001F,
        0x8000000A, 0x900F0001, 0x05000051, 0xA00F0000, 0x3F800000, 0x00000000, 0x00000000,
        0x3F800000, 0x03000002, 0x800F0000, 0x90E40000, 0xA0E40003, 0x02000001, 0xC00F0000,
        0x80E40000, 0x03000005, 0xD00F0000, 0x90E40001, 0xA0E40000, 0x0000FFFF] ∧
    ∃ shader, Converter.compile {} t = .ok shader ∧
      shader.words.take 5 = [0x07230203, 0x00010000, 1, shader.idBound, 0] ∧
      shader.size = 4 * shader.words.length ∧
      shader.module.results.Perm (List.range' 1 (shader.idBound - 1)) := by
  obtain ⟨shader, hc⟩ := exists_eq_ok_of_toBool
    (show (Converter.compile {} #[0xFFFE0200, 0x0200001F, 0x80000000, 0x900F0000, 0x0200001F,
        0x8000000A, 0x900F0001, 0x05000051, 0xA00F0000, 0x3F800000, 0x00000000, 0x00000000,
        0x3F800000, 0x03000002, 0x800F0000, 0x90E40000, 0xA0E40003, 0x02000001, 0xC00F0000,
        0x80E40000, 0x03000005, 0xD00F0000, 0x90E40001, 0xA0E40000, 0x0000FFFF]).toBool = true by decide +kernel)
  exact ⟨_, rfl, shader, hc, Converter.compile_ids_below_bound hc⟩

end ShaderBridge
