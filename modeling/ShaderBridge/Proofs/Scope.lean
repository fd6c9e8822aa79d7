import ShaderBridge.Proofs.Operands

/-!
A converted module defines every id before it names it: the invariant `Lowering.Scoped` and the
specifications of the building steps against it.
-/

namespace ShaderBridge

open Std.Do

namespace Spirv

/-- The ids the declaration of a type names besides the types the table declares for it: an
array's element and length, a struct's members, a function's result and parameters, a pointer's
pointee. -/
def TypeDesc.namedIds (d : TypeDesc) : List Nat :=
  match d.kind with
  | .array => [d.arguments.headD 0, (d.arguments.drop 1).headD 0]
  | .struct => d.arguments
  | .function => d.arguments.headD 0 :: d.arguments.drop 1
  | .pointer => [d.arguments.headD 0]
  | _ => []

namespace TypeDesc

@[simp] theorem namedIds_componentDesc (d : TypeDesc) : d.componentDesc.namedIds = [] := by
  unfold componentDesc
  split
  · rfl
  · split <;> rfl

@[simp] theorem namedIds_vector (c : Op) (n : Nat) : (vector c n).namedIds = [] := rfl

@[simp] theorem namedIds_vec4 : vec4.namedIds = [] := rfl

@[simp] theorem namedIds_ivec4 : ivec4.namedIds = [] := rfl

@[simp] theorem namedIds_void : void.namedIds = [] := rfl

@[simp] theorem namedIds_bool : bool.namedIds = [] := rfl

@[simp] theorem namedIds_float : float.namedIds = [] := rfl

@[simp] theorem namedIds_int (signed : Bool) : (int signed).namedIds = [] := rfl

@[simp] theorem namedIds_uintVector (count : Nat) : (uintVector count).namedIds = [] := rfl

@[simp] theorem namedIds_floatN (count : Nat) : (floatN count).namedIds = [] := by
  unfold floatN
  split <;> rfl

@[simp] theorem namedIds_image (dim : Dim) : (image dim).namedIds = [] := rfl

@[simp] theorem namedIds_sampler : sampler.namedIds = [] := rfl

@[simp] theorem namedIds_sampledImage (dim : Dim) : (sampledImage dim).namedIds = [] := rfl

@[simp] theorem namedIds_array (element length : Nat) :
    (array element length).namedIds = [element, length] := rfl

@[simp] theorem namedIds_struct (members : List Nat) : (struct members).namedIds = members := rfl

@[simp] theorem namedIds_pointer (pointee : Nat) (sc : StorageClass) :
    (pointer pointee sc).namedIds = [pointee] := rfl

end TypeDesc

theorem TypeTable.entries_insert (t : TypeTable) (k : TypeKey) (id : Nat) :
    (t.insert k id).entries = (k, id) :: t.entries := rfl

theorem snd_mem_of_lookup {α β : Type} [BEq α] {l : List (α × β)} {k : α} {v : β}
    (h : l.lookup k = some v) : ∃ a, (a, v) ∈ l := by
  induction l with
  | nil => simp at h
  | cons p l ih =>
    obtain ⟨a, b⟩ := p
    simp only [List.lookup_cons] at h
    split at h
    · cases h
      exact ⟨a, by simp⟩
    · obtain ⟨a', h'⟩ := ih h
      exact ⟨a', by simp [h']⟩

namespace Builder

open Spirv.Module

/-- The leaf declaration of a type names exactly the ids its description names. -/
theorem idOperands_leafDeclaration (d : TypeDesc) (id : Nat) :
    (leafDeclaration d id).idOperands = d.namedIds := by
  unfold leafDeclaration TypeDesc.namedIds
  cases d.kind <;> rfl

/-- The module is scoped, and the type table and the constant pool hand out only results of
declarations. -/
structure Scoped (b : Builder) : Prop where
  module : b.module.Scoped
  types : ∀ p ∈ b.types.entries, p.2 ∈ b.module.declIds
  scalars : ∀ p ∈ b.constants.scalars, p.2 ∈ b.module.declIds
  composites : ∀ p ∈ b.constants.composites, p.2 ∈ b.module.declIds
  nulls : ∀ p ∈ b.constants.nulls, p.2 ∈ b.module.declIds

namespace Scoped

variable {b : Builder}

/-! Each way a step changes the builder keeps it scoped. The builders are written field by
field, as the steps leave them. -/

theorem of_module {m : Module} (h : b.Scoped) (hm : m.Scoped)
    (grow : ∀ x ∈ b.module.declIds, x ∈ m.declIds) : Scoped ⟨m, b.types, b.constants⟩ :=
  ⟨hm, fun p hp => grow _ (h.types p hp), fun p hp => grow _ (h.scalars p hp),
    fun p hp => grow _ (h.composites p hp), fun p hp => grow _ (h.nulls p hp)⟩

theorem push {sec : Section} {i : Instruction} (h : b.Scoped) (hi : b.module.Admits sec i) :
    Scoped ⟨b.module.push sec i, b.types, b.constants⟩ :=
  h.of_module (h.module.push hi) fun _ hx => mem_declIds_push.2 (.inl hx)

theorem bump (h : b.Scoped) : Scoped ⟨b.module.bump, b.types, b.constants⟩ :=
  h.of_module h.module.bump fun _ hx => hx

theorem requireCapability (h : b.Scoped) (c : Capability) :
    Scoped ⟨b.module.requireCapability c, b.types, b.constants⟩ :=
  h.of_module (h.module.requireCapability c) fun _ hx => by simpa using hx

theorem insertType {k : TypeKey} {id : Nat} (h : b.Scoped) (hid : id ∈ b.module.declIds) :
    Scoped ⟨b.module, b.types.insert k id, b.constants⟩ := by
  refine ⟨h.module, fun p hp => ?_, h.scalars, h.composites, h.nulls⟩
  rcases List.mem_cons.1 hp with rfl | hp
  · exact hid
  · exact h.types p hp

theorem addScalar {k : Nat × Nat} {id : Nat} (h : b.Scoped) (hid : id ∈ b.module.declIds) :
    Scoped ⟨b.module, b.types, { b.constants with scalars := (k, id) :: b.constants.scalars }⟩ := by
  refine ⟨h.module, h.types, fun p hp => ?_, h.composites, h.nulls⟩
  rcases List.mem_cons.1 hp with rfl | hp
  · exact hid
  · exact h.scalars p hp

theorem addComposite {k : Nat × List Nat} {id : Nat} (h : b.Scoped)
    (hid : id ∈ b.module.declIds) :
    Scoped ⟨b.module, b.types,
      { b.constants with composites := (k, id) :: b.constants.composites }⟩ := by
  refine ⟨h.module, h.types, h.scalars, fun p hp => ?_, h.nulls⟩
  rcases List.mem_cons.1 hp with rfl | hp
  · exact hid
  · exact h.composites p hp

theorem addNull {k id : Nat} (h : b.Scoped) (hid : id ∈ b.module.declIds) :
    Scoped ⟨b.module, b.types, { b.constants with nulls := (k, id) :: b.constants.nulls }⟩ := by
  refine ⟨h.module, h.types, h.scalars, h.composites, fun p hp => ?_⟩
  rcases List.mem_cons.1 hp with rfl | hp
  · exact hid
  · exact h.nulls p hp

/-! What the tables hand out is declared. -/

theorem mem_declIds_of_find {d : TypeDesc} {id : Nat} (h : b.Scoped)
    (hf : d.key?.bind b.types.find? = some id) : id ∈ b.module.declIds := by
  obtain ⟨k, -, hk⟩ := Option.bind_eq_some_iff.1 hf
  obtain ⟨a, ha⟩ := snd_mem_of_lookup hk
  exact h.types (a, id) ha

theorem mem_declIds_of_scalar {k : Nat × Nat} {id : Nat} (h : b.Scoped)
    (hl : b.constants.scalars.lookup k = some id) : id ∈ b.module.declIds := by
  obtain ⟨a, ha⟩ := snd_mem_of_lookup hl
  exact h.scalars (a, id) ha

theorem mem_declIds_of_composite {k : Nat × List Nat} {id : Nat} (h : b.Scoped)
    (hl : b.constants.composites.lookup k = some id) : id ∈ b.module.declIds := by
  obtain ⟨a, ha⟩ := snd_mem_of_lookup hl
  exact h.composites (a, id) ha

theorem mem_declIds_of_null {k id : Nat} (h : b.Scoped)
    (hl : b.constants.nulls.lookup k = some id) : id ∈ b.module.declIds := by
  obtain ⟨a, ha⟩ := snd_mem_of_lookup hl
  exact h.nulls (a, id) ha

end Scoped

theorem mk_module_types_constants (b : Builder) : Builder.mk b.module b.types b.constants = b :=
  rfl

end Builder

namespace Module

theorem Grows.push_right {m₀ m : Module} (h : m₀.Grows m) (sec : Section) (i : Instruction) :
    m₀.Grows (m.push sec i) :=
  ⟨fun x hx => mem_declIds_push.2 (.inl (h.declIds x hx)),
    fun x hx => mem_available_push.2 (.inl (h.available x hx))⟩

theorem Grows.bump_right {m₀ m : Module} (h : m₀.Grows m) : m₀.Grows m.bump := ⟨h.1, h.2⟩

theorem Grows.requireCapability_right {m₀ m : Module} (h : m₀.Grows m) (c : Capability) :
    m₀.Grows (m.requireCapability c) :=
  ⟨fun x hx => by simpa using h.declIds x hx, fun x hx => by simpa using h.available x hx⟩

theorem Grows.mem_declIds {m m' : Module} {x : Nat} (h : m.Grows m') (hx : x ∈ m.declIds) :
    x ∈ m'.declIds := h.declIds x hx

theorem Grows.mem_available {m m' : Module} {x : Nat} (h : m.Grows m') (hx : x ∈ m.available) :
    x ∈ m'.available := h.available x hx

end Module

namespace Builder

open Spirv.Module

section

set_option mvcgen.warning false

/-! Specifications of the steps that change the module. Each is stated against a ghost module
`m₀` the builder has grown from: the step keeps it growing and keeps the builder scoped, and asks
of the instruction it appends what that instruction's section admits. -/

theorem alloc_scoped (m₀ : Module) :
    ⦃fun b => ⌜m₀.Grows b.module ∧ b.Scoped⌝⦄ alloc ⦃⇓ _ b => ⌜m₀.Grows b.module ∧ b.Scoped⌝⦄ := by
  mvcgen [alloc_spec]
  rename_i b h
  exact ⟨h.1.bump_right, h.2.bump⟩

theorem requireCapability_scoped (m₀ : Module) (c : Capability) :
    ⦃fun b => ⌜m₀.Grows b.module ∧ b.Scoped⌝⦄ requireCapability c
      ⦃⇓ _ b => ⌜m₀.Grows b.module ∧ b.Scoped⌝⦄ := by
  mvcgen [requireCapability_spec]
  rename_i b h
  exact ⟨h.1.requireCapability_right c, h.2.requireCapability c⟩

theorem declare_scoped (m₀ : Module) (i : Instruction) :
    ⦃fun b => ⌜m₀.Grows b.module ∧ b.Scoped ∧ i.idOperands ⊆ b.module.declIds⌝⦄ declare i
      ⦃⇓ _ b => ⌜m₀.Grows b.module ∧ b.Scoped ∧ ∀ r, i.result = some r → r ∈ b.module.declIds⌝⦄ := by
  mvcgen [declare_spec]
  rename_i b h
  exact ⟨h.1.push_right _ _, h.2.1.push h.2.2, fun r hr => mem_declIds_push.2 (.inr ⟨rfl, hr⟩)⟩

theorem emit_scoped (m₀ : Module) (i : Instruction) :
    ⦃fun b => ⌜m₀.Grows b.module ∧ b.Scoped ∧ i.idOperands ⊆ b.module.available⌝⦄ emit i
      ⦃⇓ _ b => ⌜m₀.Grows b.module ∧ b.Scoped ∧
        ∀ r, i.result = some r → r ∈ b.module.available⌝⦄ := by
  mvcgen [emit_spec]
  rename_i b h
  exact ⟨h.1.push_right _ _, h.2.1.push h.2.2,
    fun r hr => mem_available_push.2 (.inr ⟨.inr (.inr rfl), hr⟩)⟩

/-- Appending to a section after the declarations and outside the function bodies: an entry
point, an execution mode, a name or a decoration. -/
theorem append_scoped {x : BuildM Unit} {sec : Section} {i : Instruction}
    (hx : ∀ {Q : Post Unit},
      Triple x (spred(fun b => Q.1 () { b with module := b.module.push sec i })) Q)
    (m₀ : Module) :
    ⦃fun b => ⌜m₀.Grows b.module ∧ b.Scoped ∧ b.module.Admits sec i⌝⦄ x
      ⦃⇓ _ b => ⌜m₀.Grows b.module ∧ b.Scoped⌝⦄ := by
  mvcgen [hx]
  rename_i b h
  exact ⟨h.1.push_right _ _, h.2.1.push h.2.2⟩

attribute [local grind =] mk_module_types_constants leafDeclaration_result
attribute [local grind →] Scoped.mem_declIds_of_find Scoped.mem_declIds_of_scalar
  Scoped.mem_declIds_of_composite Scoped.mem_declIds_of_null Grows.mem_declIds
  Grows.mem_available Grows.trans
attribute [local grind ←] Scoped.insertType Scoped.addScalar Scoped.addComposite Scoped.addNull
  Grows.refl

theorem typeId_scoped_lt (m₀ : Module) (n : Nat) (d : TypeDesc) :
    ⦃fun b => ⌜m₀.Grows b.module ∧ b.Scoped ∧ d.namedIds ⊆ b.module.declIds ∧ d.depth < n⌝⦄
      typeId d
    ⦃⇓ r b => ⌜m₀.Grows b.module ∧ b.Scoped ∧ r ∈ b.module.declIds⌝⦄ := by
  induction n generalizing m₀ d with
  | zero => exact fun _ h => absurd h.2.2.2 (Nat.not_lt_zero _)
  | succ n ih =>
    rw [typeId]
    mvcgen [ih, alloc_scoped, requireCapability_scoped, declare_scoped]
    with
      ((try simp +zetaDelta only [Instruction.idOperands_mk, Op.layout, Op.typeVector,
        Op.typeMatrix, Op.typeImage, Op.typeSampledImage, OperandLayout.ids, List.take_succ_cons,
        List.take_zero, Option.toList_none, List.nil_append, List.cons_subset, List.nil_subset,
        and_true, idOperands_leafDeclaration, Option.getD_some, TypeDesc.namedIds_componentDesc,
        TypeDesc.namedIds_vector, TypeDesc.namedIds_float, TypeDesc.namedIds_image]);
        grind [TypeDesc.depth, TypeDesc.depth_componentDesc, TypeDesc.depth_vector,
          TypeDesc.depth_image, TypeDesc.depth_float])

theorem typeId_scoped (m₀ : Module) (d : TypeDesc) :
    ⦃fun b => ⌜m₀.Grows b.module ∧ b.Scoped ∧ d.namedIds ⊆ b.module.declIds⌝⦄ typeId d
      ⦃⇓ r b => ⌜m₀.Grows b.module ∧ b.Scoped ∧ r ∈ b.module.declIds⌝⦄ :=
  fun b h => typeId_scoped_lt m₀ (d.depth + 1) d b ⟨h.1, h.2.1, h.2.2, Nat.lt_succ_self _⟩

theorem pointerTypeId_scoped (m₀ : Module) (pointee : TypeDesc) (sc : StorageClass) :
    ⦃fun b => ⌜m₀.Grows b.module ∧ b.Scoped ∧ pointee.namedIds ⊆ b.module.declIds⌝⦄
      pointerTypeId pointee sc
      ⦃⇓ r b => ⌜m₀.Grows b.module ∧ b.Scoped ∧ r ∈ b.module.declIds⌝⦄ := by
  mvcgen [pointerTypeId, typeId_scoped] with
    ((try simp only [TypeDesc.namedIds_pointer, List.cons_subset, List.nil_subset, and_true]);
      grind)

theorem scalar_scoped (m₀ : Module) (d : TypeDesc) (bits : Nat) :
    ⦃fun b => ⌜m₀.Grows b.module ∧ b.Scoped ∧ d.namedIds ⊆ b.module.declIds⌝⦄ scalar d bits
      ⦃⇓ r b => ⌜m₀.Grows b.module ∧ b.Scoped ∧ r ∈ b.module.declIds⌝⦄ := by
  mvcgen [scalar, typeId_scoped, alloc_scoped, declare_scoped] with
    ((try simp only [Instruction.idOperands_mk, Op.layout, Op.constant, OperandLayout.ids,
      List.take_zero, Option.toList_some, List.append_nil, List.cons_subset, List.nil_subset,
      and_true]); grind)

theorem floatType_scoped (m₀ : Module) (count : Nat) :
    ⦃fun b => ⌜m₀.Grows b.module ∧ b.Scoped⌝⦄ floatType count
      ⦃⇓ r b => ⌜m₀.Grows b.module ∧ b.Scoped ∧ r ∈ b.module.declIds⌝⦄ := by
  mvcgen [floatType, typeId_scoped] with grind [TypeDesc.namedIds_floatN]

theorem scalarType_scoped (m₀ : Module) (kind : Op) :
    ⦃fun b => ⌜m₀.Grows b.module ∧ b.Scoped⌝⦄ scalarType kind
      ⦃⇓ r b => ⌜m₀.Grows b.module ∧ b.Scoped ∧ r ∈ b.module.declIds⌝⦄ := by
  mvcgen [scalarType, typeId_scoped] with
    (split <;> try split) <;> grind [TypeDesc.namedIds_int, TypeDesc.namedIds_bool,
      TypeDesc.namedIds_float]

theorem float32_scoped (m₀ : Module) (bits : Nat) :
    ⦃fun b => ⌜m₀.Grows b.module ∧ b.Scoped⌝⦄ float32 bits
      ⦃⇓ r b => ⌜m₀.Grows b.module ∧ b.Scoped ∧ r ∈ b.module.declIds⌝⦄ := by
  mvcgen [float32, scalar_scoped] with grind [TypeDesc.namedIds_float]

theorem int32_scoped (m₀ : Module) (bits : Nat) :
    ⦃fun b => ⌜m₀.Grows b.module ∧ b.Scoped⌝⦄ int32 bits
      ⦃⇓ r b => ⌜m₀.Grows b.module ∧ b.Scoped ∧ r ∈ b.module.declIds⌝⦄ := by
  mvcgen [int32, scalar_scoped] with grind [TypeDesc.namedIds_int]

theorem uint32_scoped (m₀ : Module) (value : Nat) :
    ⦃fun b => ⌜m₀.Grows b.module ∧ b.Scoped⌝⦄ uint32 value
      ⦃⇓ r b => ⌜m₀.Grows b.module ∧ b.Scoped ∧ r ∈ b.module.declIds⌝⦄ := by
  mvcgen [uint32, scalar_scoped] with grind [TypeDesc.namedIds_int]

theorem boolean_scoped (m₀ : Module) (value : Bool) :
    ⦃fun b => ⌜m₀.Grows b.module ∧ b.Scoped⌝⦄ boolean value
      ⦃⇓ r b => ⌜m₀.Grows b.module ∧ b.Scoped ∧ r ∈ b.module.declIds⌝⦄ := by
  mvcgen [boolean, typeId_scoped, alloc_scoped, declare_scoped] with
    ((try simp only [Instruction.idOperands_mk, OperandLayout.ids_nil, Option.toList_some,
      List.append_nil, List.cons_subset, List.nil_subset, and_true]); grind [TypeDesc.namedIds_bool])

theorem composite_scoped (m₀ : Module) (d : TypeDesc) (parts : List Nat) :
    ⦃fun b => ⌜m₀.Grows b.module ∧ b.Scoped ∧ d.namedIds ⊆ b.module.declIds ∧
      parts ⊆ b.module.declIds⌝⦄ composite d parts
      ⦃⇓ r b => ⌜m₀.Grows b.module ∧ b.Scoped ∧ r ∈ b.module.declIds⌝⦄ := by
  mvcgen [composite, typeId_scoped, alloc_scoped, declare_scoped] with
    ((try simp only [Instruction.idOperands_mk, Op.layout, Op.constantComposite,
      OperandLayout.ids, Option.toList_some, List.singleton_append, List.cons_subset]); grind)

theorem null_scoped (m₀ : Module) (d : TypeDesc) :
    ⦃fun b => ⌜m₀.Grows b.module ∧ b.Scoped ∧ d.namedIds ⊆ b.module.declIds⌝⦄ null d
      ⦃⇓ r b => ⌜m₀.Grows b.module ∧ b.Scoped ∧ r ∈ b.module.declIds⌝⦄ := by
  mvcgen [null, typeId_scoped, alloc_scoped, declare_scoped] with
    ((try simp only [Instruction.idOperands_mk, OperandLayout.ids_nil, Option.toList_some,
      List.append_nil, List.cons_subset, List.nil_subset, and_true]); grind)

/-- Mapping a step that returns declared ids over a list returns declared ids. -/
theorem mapM_scoped {β : Type} {xs : List β} {f : β → BuildM Nat}
    (hf : ∀ (m₀ : Module) (a : β), ⦃fun b => ⌜m₀.Grows b.module ∧ b.Scoped⌝⦄ f a
      ⦃⇓ r b => ⌜m₀.Grows b.module ∧ b.Scoped ∧ r ∈ b.module.declIds⌝⦄) (m₀ : Module) :
    ⦃fun b => ⌜m₀.Grows b.module ∧ b.Scoped⌝⦄ xs.mapM f
      ⦃⇓ rs b => ⌜m₀.Grows b.module ∧ b.Scoped ∧ rs ⊆ b.module.declIds⌝⦄ := by
  induction xs generalizing m₀ with
  | nil =>
    rw [List.mapM_nil]
    exact fun _ h => ⟨h.1, h.2, List.nil_subset _⟩
  | cons x xs ih =>
    rw [List.mapM_cons]
    mvcgen [hf, ih] with grind [List.cons_subset]

theorem vec4Constant_scoped (m₀ : Module) (bits : List Nat) :
    ⦃fun b => ⌜m₀.Grows b.module ∧ b.Scoped⌝⦄ vec4Constant bits
      ⦃⇓ r b => ⌜m₀.Grows b.module ∧ b.Scoped ∧ r ∈ b.module.declIds⌝⦄ := by
  have parts : ∀ m₀ : Module, ⦃fun b => ⌜m₀.Grows b.module ∧ b.Scoped⌝⦄ bits.mapM float32
      ⦃⇓ rs b => ⌜m₀.Grows b.module ∧ b.Scoped ∧ rs ⊆ b.module.declIds⌝⦄ :=
    mapM_scoped float32_scoped
  mvcgen [vec4Constant, parts, composite_scoped] with
    grind [TypeDesc.vec4, TypeDesc.namedIds_vector]

end

end Builder

end Spirv

end ShaderBridge

