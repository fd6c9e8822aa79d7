import ShaderBridge.Proofs.EntryInterface
import ShaderBridge.Proofs.Lockstep

/-!
The vertex input layout of a vertex shader: one attribute per declared input `v#` in order of
first declaration, and one input variable reading each attribute.
-/

namespace ShaderBridge

open Std.Do Spirv

/-- The type a vertex shader reads an attribute of format `f` as: four unsigned integers for
packed bytes, four floats otherwise. -/
def VertexFormat.inputType (f : VertexFormat) : TypeDesc :=
  if f = .uint8x4 then TypeDesc.uintVector 4 else TypeDesc.vec4

/-- Only a colour, with colours packed, has the packed format. -/
theorem Usage.inputType_vertexFormat {u : Usage} {packed : Bool} {f : VertexFormat}
    (h : u.vertexFormat packed = some f) :
    f.inputType = if packed = true ∧ u = .color then TypeDesc.uintVector 4 else TypeDesc.vec4 := by
  cases u <;> cases packed <;> simp only [Usage.vertexFormat, Option.some.injEq, reduceCtorEq] at h <;>
    subst h <;> simp [VertexFormat.inputType]

/-- Attributes laid out one after another from the vertex's start: each at the sum of the sizes
of those before it. -/
def VertexAttribute.Consecutive (attributes : List VertexAttribute) : Prop :=
  ∀ i (hi : i < attributes.length),
    attributes[i].offset = ((attributes.take i).map (·.format.size)).sum

/-- An attribute placed after all the others keeps them consecutive. -/
theorem VertexAttribute.Consecutive.append {attributes : List VertexAttribute}
    (h : Consecutive attributes) {a : VertexAttribute}
    (ha : a.offset = (attributes.map (·.format.size)).sum) : Consecutive (attributes ++ [a]) := by
  intro i hi
  rw [List.length_append, List.length_singleton] at hi
  rcases Nat.lt_succ_iff_lt_or_eq.1 hi with hi | rfl
  · rw [List.getElem_append_left hi, List.take_append_of_le_length hi.le]
    exact h i hi
  · rw [List.getElem_append_right (Nat.le_refl _), List.take_left' rfl]
    simpa using ha

/-! ### The inputs a program declares -/

/-- The input register `v#` an instruction declares, with the usage it declares. -/
def Instruction.inputDeclaration? : Instruction → Option (Register × Usage)
  | .dcl decl dst => if dst.reg.file = .input then some (dst.reg, decl.usage) else none
  | _ => none

/-- Adds a declaration unless its register is declared already. -/
def declareFirst (declared : List (Register × Usage)) (d : Register × Usage) :
    List (Register × Usage) :=
  if d.1 ∈ declared.map Prod.fst then declared else declared ++ [d]

/-- The input registers `v#` that instructions declare, in order of first declaration, each with
the usage of its first declaration. -/
def declaredInputs (body : List Instruction) : List (Register × Usage) :=
  (body.filterMap Instruction.inputDeclaration?).foldl declareFirst []

theorem declaredInputs_append_of_none {pre : List Instruction} {ins : Instruction}
    (h : ins.inputDeclaration? = none) : declaredInputs (pre ++ [ins]) = declaredInputs pre := by
  simp [declaredInputs, List.filterMap_append, h]

theorem declaredInputs_append_of_some {pre : List Instruction} {ins : Instruction}
    {d : Register × Usage} (h : ins.inputDeclaration? = some d) :
    declaredInputs (pre ++ [ins]) = declareFirst (declaredInputs pre) d := by
  simp [declaredInputs, List.filterMap_append, h]

/-- Each register is declared once. -/
theorem nodup_declaredInputs (body : List Instruction) :
    ((declaredInputs body).map Prod.fst).Nodup := by
  -- the registers kept stay distinct at each step of the fold
  suffices h : ∀ (ds declared : List (Register × Usage)), (declared.map Prod.fst).Nodup →
      ((ds.foldl declareFirst declared).map Prod.fst).Nodup from h _ [] List.nodup_nil
  intro ds
  induction ds with
  | nil => exact fun _ h => h
  | cons d ds ih =>
    intro declared h
    refine ih _ ?_
    unfold declareFirst
    split
    · exact h
    · rw [List.map_append, List.map_singleton, List.nodup_append]
      exact ⟨h, List.nodup_singleton _, fun a ha b hb hab => by simp_all⟩

/-- Every declared input is declared by an instruction. -/
theorem exists_of_mem_declaredInputs {body : List Instruction} {d : Register × Usage}
    (hd : d ∈ declaredInputs body) : ∃ ins ∈ body, ins.inputDeclaration? = some d := by
  suffices h : ∀ (ds declared : List (Register × Usage)), d ∈ ds.foldl declareFirst declared →
      d ∈ declared ∨ d ∈ ds by
    rcases h _ [] hd with hd | hd
    · cases hd
    · simpa using hd
  intro ds
  induction ds with
  | nil => exact fun _ h => .inl h
  | cons e ds ih =>
    intro declared h
    rcases ih _ h with h | h
    · unfold declareFirst at h
      split at h
      · exact .inl h
      · rcases List.mem_append.1 h with h | h
        · exact .inl h
        · exact .inr (by simp_all)
    · exact .inr (List.mem_cons_of_mem e h)

/-- An instruction that declares an input is a declaration of a register `v#`. -/
theorem Instruction.eq_dcl_of_inputDeclaration? {ins : Instruction} {d : Register × Usage}
    (h : ins.inputDeclaration? = some d) :
    ∃ decl dst, ins = .dcl decl dst ∧ d = (dst.reg, decl.usage) ∧ dst.reg.file = .input := by
  cases ins <;> simp only [inputDeclaration?, reduceCtorEq] at h
  case dcl decl dst =>
    split at h
    · exact ⟨decl, dst, rfl, (Option.some.inj h).symm, ‹_›⟩
    · cases h

/-- The inputs that well formed instructions declare are input registers `v#` in range. -/
theorem input_of_mem_declaredInputs {body : List Instruction}
    (hwf : ∀ ins ∈ body, ins.WellFormed) {d : Register × Usage} (hd : d ∈ declaredInputs body) :
    d.1.file = .input ∧ d.1.InRange := by
  obtain ⟨ins, hins, hdecl⟩ := exists_of_mem_declaredInputs hd
  obtain ⟨decl, dst, rfl, rfl, hfile⟩ := Instruction.eq_dcl_of_inputDeclaration? hdecl
  exact ⟨hfile, hwf _ hins⟩

/-- Well formed instructions declare inputs of distinct indices, each below 16. -/
theorem index_declaredInputs {body : List Instruction} (hwf : ∀ ins ∈ body, ins.WellFormed) :
    ((declaredInputs body).map (·.1.index)).Nodup ∧ ∀ d ∈ declaredInputs body, d.1.index < 16 := by
  have hinput := fun d (hd : d ∈ declaredInputs body) => input_of_mem_declaredInputs hwf hd
  refine ⟨?_, fun d hd => (hinput d hd).2.index_lt (hinput d hd).1 (by decide)⟩
  -- the declared registers are distinct, and all of one file, so their indices are distinct
  have hinj : ∀ r ∈ (declaredInputs body).map Prod.fst, ∀ r' ∈ (declaredInputs body).map Prod.fst,
      r.index = r'.index → r = r' := by
    simp only [List.mem_map]
    rintro _ ⟨⟨⟨file, index⟩, usage⟩, hd, rfl⟩ _ ⟨⟨⟨file', index'⟩, usage'⟩, hd', rfl⟩ hindex
    have hfile := (hinput _ hd).1.trans (hinput _ hd').1.symm
    simp_all
  have hnodup := (nodup_declaredInputs body).map_on hinj
  rwa [List.map_map] at hnodup

/-! ### Input variables of a module -/

namespace Spirv.Module

variable {m m' m'' : Module}

@[simp] theorem variablesOf_push_names (sc : StorageClass) (i : Instruction) :
    (m.push .names i).variablesOf sc = m.variablesOf sc := rfl

@[simp] theorem variablesOf_push_annotations (sc : StorageClass) (i : Instruction) :
    (m.push .annotations i).variablesOf sc = m.variablesOf sc := rfl

@[simp] theorem variablesOf_push_functions (sc : StorageClass) (i : Instruction) :
    (m.push .functions i).variablesOf sc = m.variablesOf sc := rfl

@[simp] theorem variablesOf_bump (sc : StorageClass) : m.bump.variablesOf sc = m.variablesOf sc :=
  rfl

theorem variablesOf_push_declarations {sc : StorageClass} {i : Instruction}
    (hi : ¬i.IsVariableOf sc) : (m.push .declarations i).variablesOf sc = m.variablesOf sc := by
  simp [variablesOf, push, hi]

/-- Declaring a variable of storage class `sc` appends it to the variables of that class. -/
theorem variablesOf_push_variable (pointer x : Nat) (sc : StorageClass) :
    (m.push .declarations
      { op := Op.var, resultType := some pointer, result := some x, operands := [sc.code] }).variablesOf
        sc = m.variablesOf sc ++ [x] := by
  simp [variablesOf, push, Instruction.IsVariableOf]

/-- A variable of a class other than `sc` is no variable of class `sc`. -/
theorem not_isVariableOf_var {pointer x : Nat} {sc sc' : StorageClass} (h : sc ≠ sc') :
    ¬({ op := Op.var, resultType := some pointer, result := some x, operands := [sc.code] } :
      Instruction).IsVariableOf sc' := by
  rintro ⟨-, hcode⟩
  simp only [List.cons.injEq, and_true] at hcode
  exact h (by cases sc; cases sc'; simp_all)

/-- `x` is an input variable of `m` whose pointer type points to the type `ty`. -/
def InputTyped (m : Module) (x : Nat) (ty : TypeDesc) : Prop :=
  ∃ pointer pointee,
    ({ op := Op.var, resultType := some pointer, result := some x,
       operands := [StorageClass.input.code] } : Instruction) ∈ m.declarations.toList ∧
    m.DeclaresKey (.pointer StorageClass.input.code pointee) pointer ∧ m.DeclaresDesc ty pointee

theorem InputTyped.mono (h : m.declarations.toList ⊆ m'.declarations.toList) {x : Nat}
    {ty : TypeDesc} (hx : m.InputTyped x ty) : m'.InputTyped x ty := by
  obtain ⟨pointer, pointee, hvar, hpointer, hpointee⟩ := hx
  exact ⟨pointer, pointee, h hvar, hpointer.mono h, hpointee.mono h⟩

/-- Variable `x` of `m` can read attribute `a`: it is placed at the attribute's location, and is
an input variable of the type the attribute's format is read as. -/
def HoldsAttribute (m : Module) (x : Nat) (a : VertexAttribute) : Prop :=
  (InterfaceSlot.location a.location).decoration x ∈ m.annotations.toList ∧
    m.InputTyped x a.format.inputType

/-- Variable `x` of `m` reads attribute `a`: its one decoration places it at the attribute's
location, and it is an input variable of the type the attribute's format is read as. -/
def ReadsAttribute (m : Module) (x : Nat) (a : VertexAttribute) : Prop :=
  m.annotationsOf x = [(InterfaceSlot.location a.location).decoration x] ∧
    m.InputTyped x a.format.inputType

/-- `m'` is `m` with more declarations and decorations, and the same input variables. -/
structure KeepsInputs (m m' : Module) : Prop where
  declarations : m.declarations.toList ⊆ m'.declarations.toList
  annotations : m.annotations.toList ⊆ m'.annotations.toList
  inputVariables : m'.variablesOf .input = m.variablesOf .input

namespace KeepsInputs

theorem refl (m : Module) : KeepsInputs m m :=
  ⟨List.Subset.refl _, List.Subset.refl _, rfl⟩

theorem trans (h₁ : KeepsInputs m m') (h₂ : KeepsInputs m' m'') : KeepsInputs m m'' :=
  ⟨List.Subset.trans h₁.1 h₂.1, List.Subset.trans h₁.2 h₂.2, h₂.3.trans h₁.3⟩

theorem push_declarations (h : KeepsInputs m m') {i : Instruction}
    (hi : ¬i.IsVariableOf .input) : KeepsInputs m (m'.push .declarations i) :=
  ⟨fun j hj => by simp [push, h.1 hj], h.2, (variablesOf_push_declarations hi).trans h.3⟩

theorem push_annotations (h : KeepsInputs m m') (i : Instruction) :
    KeepsInputs m (m'.push .annotations i) :=
  ⟨h.1, fun j hj => by simp [push, h.2 hj], h.3⟩

theorem push_names (h : KeepsInputs m m') (i : Instruction) : KeepsInputs m (m'.push .names i) :=
  ⟨h.1, h.2, h.3⟩

theorem push_functions (h : KeepsInputs m m') (i : Instruction) :
    KeepsInputs m (m'.push .functions i) :=
  ⟨h.1, h.2, h.3⟩

theorem bump (h : KeepsInputs m m') : KeepsInputs m m'.bump :=
  ⟨h.1, h.2, h.3⟩

end KeepsInputs

theorem HoldsAttribute.mono (hd : m.declarations.toList ⊆ m'.declarations.toList)
    (ha : m.annotations.toList ⊆ m'.annotations.toList) {x : Nat} {a : VertexAttribute}
    (hx : m.HoldsAttribute x a) : m'.HoldsAttribute x a :=
  ⟨ha hx.1, hx.2.mono hd⟩

/-- In a placed module whose declarations have distinct results, a variable that can read an
attribute reads it: the attribute's location is its one decoration. -/
theorem HoldsAttribute.reads (hplaced : m.Placed)
    (hres : (m.declarations.toList.filterMap (·.result)).Nodup) {x : Nat} {a : VertexAttribute}
    (hx : m.HoldsAttribute x a) : m.ReadsAttribute x a := by
  obtain ⟨_, _, hvar, -⟩ := hx.2
  -- an input variable is an interface variable, placed by its one decoration
  have hinterface : x ∈ m.interfaceIds := List.mem_filterMap.2 ⟨_, List.mem_filter.2 ⟨hvar,
    decide_eq_true ((Instruction.isInterfaceVariable_var _ _ _).2 (.inl rfl))⟩, rfl⟩
  obtain ⟨slot, -, hslot⟩ := hplaced.annotationsOf_eq hres hinterface
  have hmem : (InterfaceSlot.location a.location).decoration x ∈ m.annotationsOf x :=
    List.mem_filter.2 ⟨hx.1, by simp⟩
  rw [hslot, List.mem_singleton] at hmem
  exact ⟨hmem ▸ hslot, hx.2⟩

end Spirv.Module

/-- Declaring types and constants declares no variable. -/
theorem Spirv.Builder.Extends.keepsInputs {b b' : Builder} (h : b.Extends b') :
    Module.KeepsInputs b.module b'.module := by
  obtain ⟨⟨new, hd, hops⟩, ha⟩ := h
  have hnone : new.filter (·.IsVariableOf .input) = [] := by
    refine List.filter_eq_nil_iff.2 fun i hi hvar => ?_
    exact absurd ((of_decide_eq_true hvar).1 ▸ hops i hi) (by decide)
  refine ⟨?_, ?_, ?_⟩
  · rw [hd]
    exact List.subset_append_left _ _
  · rw [ha]
    exact List.Subset.refl _
  · simp only [Module.variablesOf, hd, List.filter_append, hnone, List.append_nil]

/-! ### What lowering a vertex shader keeps -/

namespace Lowering

/-- What lowering a vertex shader keeps of its inputs `declared` so far: their variables, their
attributes laid out in order, the stride, and input variables that read them. -/
structure LaysInputs (packed : Bool) (declared : List (Register × Usage)) (s : Lowering) :
    Prop where
  options : s.options.packedColors = packed
  keys : ∀ reg, reg ∈ s.inputs.map Prod.fst ↔ reg ∈ declared.map Prod.fst
  attributes : List.Forall₂ (fun a d => a.binding = 0 ∧ a.location = d.1.index ∧
      d.2.vertexFormat packed = some a.format) s.vertexInputs.toList declared
  consecutive : VertexAttribute.Consecutive s.vertexInputs.toList
  stride : s.stride = (s.vertexInputs.toList.map (·.format.size)).sum
  inputVariables : List.Forall₂ s.builder.module.HoldsAttribute
    (s.builder.module.variablesOf .input) s.vertexInputs.toList

namespace LaysInputs

variable {packed : Bool} {declared : List (Register × Usage)} {s s' : Lowering}

/-- A module grown without input variables keeps a state laying inputs, its options, inputs and
attributes as they were. -/
theorem of_module (h : s.LaysInputs packed declared)
    (hm : Module.KeepsInputs s.builder.module s'.builder.module) (ho : s'.options = s.options)
    (hi : s'.inputs = s.inputs) (hv : s'.vertexInputs = s.vertexInputs)
    (hs : s'.stride = s.stride) : s'.LaysInputs packed declared where
  options := by
    rw [ho]
    exact h.options
  keys := by
    rw [hi]
    exact h.keys
  attributes := by
    rw [hv]
    exact h.attributes
  consecutive := by
    rw [hv]
    exact h.consecutive
  stride := by
    rw [hs, hv]
    exact h.stride
  inputVariables := by
    rw [hm.inputVariables, hv]
    exact h.inputVariables.imp fun _ _ hx => hx.mono hm.declarations hm.annotations

/-- A type step keeps the inputs laid. -/
theorem withBuilder (h : s.LaysInputs packed declared) {b : Builder}
    (hb : Builder.TypeStep s.builder b) :
    ({ s with builder := b } : Lowering).LaysInputs packed declared :=
  h.of_module hb.grows.keepsInputs rfl rfl rfl rfl

/-- A first declaration of input `reg` with a usage of format `format`: its attribute follows
the others at the stride, and its variable, the one new input variable, can read it. -/
theorem record (h : s.LaysInputs packed declared) {reg : Register} {usage : Usage}
    {format : VertexFormat} {x : Nat} (hformat : usage.vertexFormat packed = some format)
    (ho : s'.options = s.options) (hi : s'.inputs.map Prod.fst = reg :: s.inputs.map Prod.fst)
    (hv : s'.vertexInputs = s.vertexInputs.push ⟨0, reg.index, format, s.stride⟩)
    (hs : s'.stride = s.stride + format.size)
    (hdecl : s.builder.module.declarations.toList ⊆ s'.builder.module.declarations.toList)
    (hann : s.builder.module.annotations.toList ⊆ s'.builder.module.annotations.toList)
    (hvars : s'.builder.module.variablesOf .input = s.builder.module.variablesOf .input ++ [x])
    (hx : s'.builder.module.HoldsAttribute x ⟨0, reg.index, format, s.stride⟩) :
    s'.LaysInputs packed (declared ++ [(reg, usage)]) where
  options := by
    rw [ho]
    exact h.options
  keys r := by
    rw [hi, List.map_append, List.map_singleton, List.mem_cons, List.mem_append,
      List.mem_singleton, h.keys, or_comm]
  attributes := by
    rw [hv, Array.toList_push]
    exact List.rel_append h.attributes (.cons ⟨rfl, rfl, hformat⟩ .nil)
  consecutive := by
    rw [hv, Array.toList_push]
    exact h.consecutive.append h.stride
  stride := by
    rw [hs, hv, Array.toList_push, List.map_append, List.sum_append, h.stride]
    simp
  inputVariables := by
    rw [hvars, hv, Array.toList_push]
    exact List.rel_append (h.inputVariables.imp fun _ _ hy => hy.mono hdecl hann) (.cons hx .nil)

end LaysInputs

section

set_option mvcgen.warning false

variable {packed : Bool} {declared : List (Register × Usage)}

/-- A type step inside lowering keeps a vertex shader's inputs laid. -/
theorem build_laysInputs {α : Type} {x : BuildM α}
    (hx : ∀ b : Builder, b.module.Declared → b.TypesSound → Builder.TypeStep b (x b).2) :
    ⦃fun s => ⌜(s.Framed ∧ s.Placing .vertex) ∧ s.LaysInputs packed declared⌝⦄ build x
      ⦃⇓? _ s => ⌜s.LaysInputs packed declared⌝⦄ :=
  fun s ⟨⟨⟨ho, _⟩, hp⟩, h⟩ => h.withBuilder (hx s.builder ho.toDeclared hp.types)

/-- A type step keeps the module declared, its type table sound, and the inputs laid. -/
theorem build_typed {α : Type} {x : BuildM α}
    (hx : ∀ b : Builder, b.module.Declared → b.TypesSound → Builder.TypeStep b (x b).2) :
    ⦃fun s => ⌜(s.builder.module.Declared ∧ s.builder.TypesSound) ∧ s.LaysInputs packed declared⌝⦄
      build x
      ⦃⇓? _ s => ⌜(s.builder.module.Declared ∧ s.builder.TypesSound) ∧
        s.LaysInputs packed declared⌝⦄ :=
  fun s ⟨⟨hm, hs⟩, h⟩ =>
    have hstep := hx s.builder hm hs
    ⟨⟨hstep.declared, hstep.sound⟩, h.withBuilder hstep⟩

/-- The steps that compute values keep a vertex shader framed and placing, and its inputs
laid. -/
theorem laysInputs_basic (packed : Bool) (declared : List (Register × Usage)) :
    Basic (fun s => (s.Framed ∧ s.Placing .vertex) ∧ s.LaysInputs packed declared) where
  alloc := keeps_and (placing_basic .vertex).alloc
    (build_laysInputs fun _ hm hs => Builder.alloc_typeStep hm hs)
  emit i hi := keeps_and ((placing_basic .vertex).emit i hi)
    fun _ hs => hs.2.of_module ((Module.KeepsInputs.refl _).push_functions i) rfl rfl rfl rfl
  typeId _ hd := keeps_and ((placing_basic .vertex).typeId _ hd)
    (build_laysInputs fun _ hm hs => (Builder.typeId_typeStep hm hs hd).1)
  pointerTypeId _ sc hd := keeps_and ((placing_basic .vertex).pointerTypeId _ sc hd)
    (build_laysInputs fun _ hm hs => Builder.pointerTypeId_typeStep hm hs hd sc)
  null _ hd := keeps_and ((placing_basic .vertex).null _ hd)
    (build_laysInputs fun _ hm hs => Builder.null_typeStep hm hs hd)
  float32 bits := keeps_and ((placing_basic .vertex).float32 bits)
    (build_laysInputs fun _ hm hs => Builder.float32_typeStep hm hs bits)
  int32 bits := keeps_and ((placing_basic .vertex).int32 bits)
    (build_laysInputs fun _ hm hs => Builder.int32_typeStep hm hs bits)
  vec4Constant _ hbits := keeps_and ((placing_basic .vertex).vec4Constant _ hbits)
    (build_laysInputs fun _ hm hs => Builder.vec4Constant_typeStep hm hs hbits)
  composite _ hlen := keeps_and ((placing_basic .vertex).composite _ hlen)
    (build_laysInputs fun _ hm hs => Builder.composite_typeStep hm hs TypeDesc.canonical_ivec4 hlen)
  boolean value := keeps_and ((placing_basic .vertex).boolean value)
    (build_laysInputs fun _ hm hs => Builder.boolean_typeStep hm hs value)
  bindValue reg id := keeps_and ((placing_basic .vertex).bindValue reg id)
    fun _ hs => hs.2.of_module (.refl _) rfl rfl rfl rfl
  markDefined s reg hs := ⟨(placing_basic .vertex).markDefined s reg hs.1,
    hs.2.of_module (.refl _) rfl rfl rfl rfl⟩

/-- A framed, placing state has its module declared and its type table sound. -/
theorem typed_of_placing {s : Lowering}
    (h : (s.Framed ∧ s.Placing .vertex) ∧ s.LaysInputs packed declared) :
    (s.builder.module.Declared ∧ s.builder.TypesSound) ∧ s.LaysInputs packed declared :=
  ⟨⟨h.1.1.1.toDeclared, h.1.2.types⟩, h.2⟩

/-- Setting the depth flag keeps the module and the inputs. -/
theorem typed_setDepth {s : Lowering}
    (h : (s.Framed ∧ s.Placing .vertex) ∧ s.LaysInputs packed declared) :
    (s.builder.module.Declared ∧ s.builder.TypesSound) ∧
      ({ s with writesDepth := true } : Lowering).LaysInputs packed declared :=
  ⟨(typed_of_placing h).1, h.2.of_module (.refl _) rfl rfl rfl rfl⟩

theorem loadInput_laysInputs (reg : Register) :
    ⦃fun s => ⌜(s.Framed ∧ s.Placing .vertex) ∧ s.LaysInputs packed declared⌝⦄ loadInput reg
      ⦃⇓? _ s => ⌜(s.Framed ∧ s.Placing .vertex) ∧ s.LaysInputs packed declared⌝⦄ := by
  have hB := laysInputs_basic packed declared
  have htype := hB.typeId
  have hcompute := hB.compute_keeps
  have hunpack := hB.unpackColor_keeps
  mvcgen [loadInput, htype, hcompute, hunpack] with
    first
    | simp
    | -- the variable of an input register has the type of a recorded input
      (obtain ⟨_, hmem⟩ := snd_mem_of_lookup ‹List.lookup _ _ = some _›
       exact (‹(Framed _ ∧ _) ∧ _›.1.1.2.inputs _ hmem).2.2)

attribute [local spec] declare_spec annotate_spec addName_spec

theorem constantBlock_laysInputs :
    ⦃fun s => ⌜(s.Framed ∧ s.Placing .vertex) ∧ s.LaysInputs packed declared⌝⦄ constantBlock
      ⦃⇓? _ s => ⌜s.LaysInputs packed declared⌝⦄ := by
  have hB := laysInputs_basic packed declared
  have htype := hB.typeId
  have hpointer := hB.pointerTypeId
  have halloc := hB.alloc
  have huint := fun n => keeps_and
    (@build_placing .vertex _ (Builder.uint32 n) fun _ hm hs => Builder.uint32_typeStep hm hs n)
    (@build_laysInputs packed declared _ (Builder.uint32 n)
      fun _ hm hs => Builder.uint32_typeStep hm hs n)
  mvcgen [constantBlock, htype, hpointer, halloc, huint]
  -- the block declared before
  · exact ‹(Framed _ ∧ _) ∧ _›.2
  · exact TypeDesc.canonical_vec4
  · exact TypeDesc.canonical_struct _
  · exact TypeDesc.canonical_struct _
  rename_i s hs _
  dsimp +zetaDelta only
  refine hs.2.of_module ?_ rfl rfl rfl rfl
  dsimp only
  -- the block's variable is a uniform; its decorations and names leave the declarations alone
  exact ((((((((((Module.KeepsInputs.refl _).push_declarations (Module.not_isVariableOf_var
    (by decide))).push_annotations _).push_annotations _).push_annotations _).push_annotations
    _).push_annotations _).push_names _).push_names _).push_names _)

/-- The variable of a register that is no input adds no input variable. -/
theorem interfaceVariable_laysInputs (reg : Register) (ty : TypeDesc) (slot : InterfaceSlot)
    (hty : ty.Canonical) (hsc : reg.file.storageClass ≠ .input) :
    ⦃fun s => ⌜(s.builder.module.Declared ∧ s.builder.TypesSound) ∧ s.LaysInputs packed declared⌝⦄
      interfaceVariable reg ty slot ⦃⇓? _ s => ⌜s.LaysInputs packed declared⌝⦄ := by
  have hpointer := @build_typed packed declared _ (Builder.pointerTypeId ty reg.file.storageClass)
    fun _ hm hs => Builder.pointerTypeId_typeStep hm hs hty _
  have halloc : ⦃fun s => ⌜(s.builder.module.Declared ∧ s.builder.TypesSound) ∧
      s.LaysInputs packed declared⌝⦄ alloc ⦃⇓? _ s => ⌜(s.builder.module.Declared ∧
      s.builder.TypesSound) ∧ s.LaysInputs packed declared⌝⦄ :=
    build_typed fun _ hm hs => Builder.alloc_typeStep hm hs
  mvcgen [interfaceVariable, hpointer, halloc]
  rename_i s hs _
  dsimp +zetaDelta only
  refine hs.2.of_module ?_ rfl rfl rfl rfl
  dsimp only
  exact (((Module.KeepsInputs.refl _).push_declarations (Module.not_isVariableOf_var hsc)).push_annotations
    _).push_names _

/-- Creating the variable of a register that is no input adds no input variable. -/
theorem createOutput_laysInputs (reg : Register) (ty : TypeDesc) (slot : InterfaceSlot)
    (usage : Option Usage) (hty : ty.Canonical) (hsc : reg.file.storageClass ≠ .input) :
    ⦃fun s => ⌜(s.builder.module.Declared ∧ s.builder.TypesSound) ∧ s.LaysInputs packed declared⌝⦄
      createOutput reg ty slot usage ⦃⇓? _ s => ⌜s.LaysInputs packed declared⌝⦄ := by
  have hvar := @interfaceVariable_laysInputs packed declared reg ty slot hty hsc
  mvcgen [createOutput, hvar]
  rename_i hs _
  dsimp +zetaDelta only
  exact hs.of_module (.refl _) rfl rfl rfl rfl

theorem ensureOutput_laysInputs (reg : Register) :
    ⦃fun s => ⌜(s.Framed ∧ s.Placing .vertex) ∧ s.LaysInputs packed declared⌝⦄ ensureOutput reg
      ⦃⇓? _ s => ⌜s.LaysInputs packed declared⌝⦄ := by
  have hcreate := fun ty slot (hty : TypeDesc.Canonical ty) hsc =>
    @createOutput_laysInputs packed declared reg ty slot none hty hsc
  -- fog, point size and depth are float scalars, every other output four floats
  have hty : ∀ scalar : Prop, [Decidable scalar] →
      (if scalar then TypeDesc.float else TypeDesc.vec4).Canonical := by
    intro scalar _
    split <;> simp
  mvcgen [ensureOutput, hcreate] with
    first
    | exact hty _
    | (rw [‹reg.file = _›]; decide)
    | exact ‹(Framed _ ∧ _) ∧ _›.2
    | exact typed_of_placing ‹_›
    | -- the depth flag is set before the fragment depth's variable is created
      (dsimp +zetaDelta only
       exact typed_setDepth ‹_›)

theorem declareSampler_laysInputs (index : Nat) (type : TextureType) :
    ⦃fun s => ⌜(s.Framed ∧ s.Placing .vertex) ∧ s.LaysInputs packed declared⌝⦄
      declareSampler index type ⦃⇓? _ s => ⌜s.LaysInputs packed declared⌝⦄ := by
  have hB := laysInputs_basic packed declared
  have himage := fun dim => hB.pointerTypeId (TypeDesc.image dim) StorageClass.uniformConstant
    (TypeDesc.canonical_image dim)
  have hsampler := hB.pointerTypeId TypeDesc.sampler StorageClass.uniformConstant
    TypeDesc.canonical_sampler
  have halloc := hB.alloc
  -- the loop over the two variables, unrolled
  simp only [declareSampler, List.forIn_cons, List.forIn_nil]
  mvcgen [himage, hsampler, halloc]
  -- a sampler declared before is kept
  · exact ‹(Framed _ ∧ _) ∧ _›.2
  rename_i s hs _
  dsimp +zetaDelta only
  refine hs.2.of_module ?_ rfl rfl rfl rfl
  dsimp only
  -- the texture and the sampler variable are uniform constants, each decorated and named
  exact ((((((((Module.KeepsInputs.refl _).push_declarations (Module.not_isVariableOf_var
    (by decide))).push_annotations _).push_annotations _).push_names _).push_declarations
    (Module.not_isVariableOf_var (by decide))).push_annotations _).push_annotations _).push_names _

theorem declareOutput_laysInputs (reg : Register) (usage : Usage) (index : Nat)
    (hout : reg.file.isOutput) :
    ⦃fun s => ⌜(s.Framed ∧ s.Placing .vertex) ∧ s.LaysInputs packed declared⌝⦄
      declareOutput reg usage index ⦃⇓? _ s => ⌜s.LaysInputs packed declared⌝⦄ := by
  have hsc : reg.file.storageClass ≠ .input := by
    rw [RegisterFile.storageClass_of_isOutput hout]
    decide
  have hcreate := fun ty slot (hty : TypeDesc.Canonical ty) =>
    @createOutput_laysInputs packed declared reg ty slot (some usage) hty hsc
  -- the point size is a float scalar, every other output four floats
  have hty : ∀ u : Usage, (if u = .pointSize then TypeDesc.float else TypeDesc.vec4).Canonical := by
    intro u
    split <;> simp
  mvcgen [declareOutput, hcreate] with
    first
    | exact hty _
    | exact ‹(Framed _ ∧ _) ∧ _›.2
    | exact typed_of_placing ‹_›

/-- A pointer type step keeps a vertex shader's state, and the pointer it returns points to the
type asked for. -/
theorem pointerTypeId_laysInputs (d : TypeDesc) (hd : d.Canonical) (sc : StorageClass) :
    ⦃fun s => ⌜(s.Framed ∧ s.Placing .vertex) ∧ s.LaysInputs packed declared⌝⦄
      build (Builder.pointerTypeId d sc)
      ⦃⇓? r s => ⌜((s.Framed ∧ s.Placing .vertex) ∧ s.LaysInputs packed declared) ∧
        ∃ t, s.builder.module.DeclaresDesc d t ∧
          s.builder.module.DeclaresKey (.pointer sc.code t) r⌝⦄ :=
  fun s hs =>
    ⟨(laysInputs_basic packed declared).pointerTypeId d sc hd s hs,
      (Builder.run_of_triple (Builder.pointerTypeId_sound s.builder d sc) s.builder
        ⟨.refl _, hs.1.2.types, hd⟩).2.2⟩

/-- A vertex input's first declaration adds its attribute and its variable; a later one
changes nothing. -/
theorem declareVertexInput_laysInputs (reg : Register) (usage : Usage) (hfile : reg.file = .input) :
    ⦃fun s => ⌜(s.Framed ∧ s.Placing .vertex) ∧ s.LaysInputs packed declared⌝⦄
      declareVertexInput reg usage
      ⦃⇓? _ s => ⌜s.LaysInputs packed (declareFirst declared (reg, usage))⌝⦄ := by
  have hpointer := fun ty (hty : TypeDesc.Canonical ty) sc =>
    @pointerTypeId_laysInputs packed declared ty hty sc
  mvcgen [declareVertexInput, interfaceVariable, hpointer, alloc_spec]
  -- a register declared before keeps its first declaration
  · rename_i s hs hsome
    rw [declareFirst, if_pos ((hs.2.keys reg).1 ((isSome_lookup_iff_mem_keys _ _).1 hsome))]
    exact hs.2
  -- the variable's type: four unsigned integers or four floats
  · dsimp +zetaDelta only
    split <;> simp
  rename_i s hs hnew _ _ format hformat ty sc pointer s₁ hs₁ _ _
  dsimp +zetaDelta only
  have hfresh : reg ∉ declared.map Prod.fst :=
    fun h => hnew ((isSome_lookup_iff_mem_keys _ _).2 ((hs.2.keys reg).2 h))
  rw [declareFirst, if_neg hfresh]
  obtain ⟨⟨⟨hopen, -⟩, -⟩, hlaid⟩ := hs₁.1
  obtain ⟨pointee, hpointee, hpointer⟩ := hs₁.2
  dsimp +zetaDelta only at hpointee hpointer
  rw [hs.2.options] at hformat hpointee
  have hsc : reg.file.storageClass = StorageClass.input := by
    rw [hfile]
    rfl
  rw [hsc] at hpointer
  -- the module gains the variable's declaration, its location and its name
  have hdecl : ∀ i ∈ s₁.builder.module.declarations.toList,
      i ∈ (((s₁.builder.module.bump.push .declarations
        { op := Op.var, resultType := some pointer, result := some s₁.builder.module.nextId,
          operands := [StorageClass.input.code] }).push .annotations
        (decoration s₁.builder.module.nextId .location [reg.index])).push .names
        (nameOf s₁.builder.module.nextId reg.display)).declarations.toList := fun i hi => by
    simp [Module.push, hi]
  refine @LaysInputs.record packed declared s₁ _ hlaid reg usage format s₁.builder.module.nextId
    hformat rfl rfl rfl rfl ?_ ?_ ?_ ?_ <;> dsimp only <;> rw [hsc]
  · exact hdecl
  · intro i hi
    simp [Module.push, hi]
  · rw [Module.variablesOf_push_names, Module.variablesOf_push_annotations,
      Module.variablesOf_push_variable, Module.variablesOf_bump]
  · refine ⟨by simp [Module.push, InterfaceSlot.decoration], pointer, pointee, by simp [Module.push],
      hpointer.mono hdecl, ?_⟩
    rw [Usage.inputType_vertexFormat hformat]
    exact hpointee.mono hdecl

/-- A declaration of anything but an input register keeps the inputs declared so far. -/
theorem declare_laysInputs (decl : Declaration) (dst : Destination) (hfile : dst.reg.file ≠ .input) :
    ⦃fun s => ⌜(s.Framed ∧ s.Placing .vertex) ∧ s.LaysInputs packed declared⌝⦄ declare decl dst
      ⦃⇓? _ s => ⌜s.LaysInputs packed declared⌝⦄ := by
  have hsampler := fun index type => @declareSampler_laysInputs packed declared index type
  have houtput := fun usage index hout =>
    @declareOutput_laysInputs packed declared dst.reg usage index hout
  -- the branches of input registers and of pixel shaders are not taken
  have hvertex : ∀ usage, ⦃fun _ => ⌜False⌝⦄ declareVertexInput dst.reg usage
      ⦃⇓? _ s => ⌜s.LaysInputs packed declared⌝⦄ := fun _ _ h => h.elim
  have hpixel : ∀ usage index, ⦃fun _ => ⌜False⌝⦄ declarePixelInput dst.reg usage index
      ⦃⇓? _ s => ⌜s.LaysInputs packed declared⌝⦄ := fun _ _ _ h => h.elim
  mvcgen [declare, hsampler, hvertex, hpixel, houtput] with
    first
    | (rw [‹dst.reg.file = _›]; rfl)
    | exact hfile ‹_›
    | (obtain ⟨⟨-, hplacing⟩, -⟩ := ‹(Framed _ ∧ _) ∧ _›
       exact absurd (hplacing.stage.symm.trans ‹_›) (by decide))

/-- A declaration of input register `v#` declares it, unless it was declared before. -/
theorem declare_laysInputs_input (decl : Declaration) (dst : Destination)
    (hfile : dst.reg.file = .input) :
    ⦃fun s => ⌜(s.Framed ∧ s.Placing .vertex) ∧ s.LaysInputs packed declared⌝⦄ declare decl dst
      ⦃⇓? _ s => ⌜s.LaysInputs packed (declareFirst declared (dst.reg, decl.usage))⌝⦄ := by
  have hvertex := fun usage => @declareVertexInput_laysInputs packed declared dst.reg usage hfile
  -- the branches of samplers, outputs and pixel shaders are not taken
  have hsampler : ∀ index type, ⦃fun _ => ⌜False⌝⦄ declareSampler index type
      ⦃⇓? _ s => ⌜s.LaysInputs packed (declareFirst declared (dst.reg, decl.usage))⌝⦄ :=
    fun _ _ _ h => h.elim
  have houtput : ∀ usage index, ⦃fun _ => ⌜False⌝⦄ declareOutput dst.reg usage index
      ⦃⇓? _ s => ⌜s.LaysInputs packed (declareFirst declared (dst.reg, decl.usage))⌝⦄ :=
    fun _ _ _ h => h.elim
  have hpixel : ∀ usage index, ⦃fun _ => ⌜False⌝⦄ declarePixelInput dst.reg usage index
      ⦃⇓? _ s => ⌜s.LaysInputs packed (declareFirst declared (dst.reg, decl.usage))⌝⦄ :=
    fun _ _ _ h => h.elim
  mvcgen [declare, hsampler, hvertex, hpixel, houtput] with
    first
    | exact absurd (hfile.symm.trans ‹_›) (by decide)
    | (obtain ⟨⟨-, hplacing⟩, -⟩ := ‹(Framed _ ∧ _) ∧ _›
       exact absurd (hplacing.stage.symm.trans ‹_›) (by decide))

/-- Laying out a vertex shader's inputs is closed under the primitive steps of lowering. -/
theorem laysInputs_closed (packed : Bool) (declared : List (Register × Usage)) :
    Closed (fun s => (s.Framed ∧ s.Placing .vertex) ∧ s.LaysInputs packed declared) :=
  { laysInputs_basic packed declared with
    loadInput := loadInput_laysInputs
    constantBlock := keeps_and (placing_closed .vertex).constantBlock constantBlock_laysInputs
    ensureOutput := fun reg hreg =>
      keeps_and ((placing_closed .vertex).ensureOutput reg hreg) (ensureOutput_laysInputs reg) }

/-- One well formed instruction of a vertex shader keeps its state framed and placing, and lays
out the inputs declared by the instructions before it and by itself. -/
theorem instruction_laysInputs (pre : List Instruction) (ins : Instruction) (hins : ins.WellFormed) :
    ⦃fun s => ⌜(s.Framed ∧ s.Placing .vertex) ∧ s.LaysInputs packed (declaredInputs pre)⌝⦄
      instruction ins
      ⦃⇓? _ s => ⌜(s.Framed ∧ s.Placing .vertex) ∧
        s.LaysInputs packed (declaredInputs (pre ++ [ins]))⌝⦄ := by
  cases hd : ins.inputDeclaration? with
  | some d =>
    -- a declaration of an input register `v#`
    obtain ⟨decl, dst, rfl, rfl, hfile⟩ := Instruction.eq_dcl_of_inputDeclaration? hd
    rw [declaredInputs_append_of_some hd]
    exact keeps_and (keeps_and (declare_framed decl dst hins) (declare_placing decl dst hins))
      (declare_laysInputs_input decl dst hfile)
  | none =>
    rw [declaredInputs_append_of_none hd]
    refine (laysInputs_closed packed _).instruction_keeps ins hins ?_
    rintro decl dst rfl hreg
    have hfile : dst.reg.file ≠ .input := fun hfile => by
      simp [Instruction.inputDeclaration?, hfile] at hd
    exact keeps_and (keeps_and (declare_framed decl dst hreg) (declare_placing decl dst hreg))
      (declare_laysInputs decl dst hfile)

attribute [local spec] emit_spec addEntryPoint_spec addExecutionMode_spec

/-- Finishing a vertex shader reads its attributes and module off a state laying its inputs. -/
theorem finish_laysInputs :
    ⦃fun s => ⌜(s.Framed ∧ s.Placing .vertex) ∧ s.LaysInputs packed declared⌝⦄ finish
      ⦃⇓? r s => ⌜s.LaysInputs packed declared ∧ r.module = s.builder.module ∧
        r.vertexInputs = s.vertexInputs.toList⌝⦄ := by
  have hstore := (laysInputs_closed packed declared).reading.storeOutputs_keeps
  mvcgen [finish, hstore] with
    -- closing the function, the entry point and the execution modes leave the declarations and
    -- the decorations as they were
    (obtain ⟨-, hlaid⟩ := ‹(Framed _ ∧ _) ∧ _›
     exact hlaid.of_module ⟨List.Subset.refl _, List.Subset.refl _, rfl⟩ rfl rfl rfl rfl)

/-- Lowering a vertex shader of well formed instructions lays out, to the end, the inputs its
instructions declare. -/
theorem program_laysInputs (p : Program) (hwf : ∀ ins ∈ p.body, ins.WellFormed) :
    ⦃fun s => ⌜(s.Framed ∧ s.Placing .vertex) ∧ s.LaysInputs packed []⌝⦄ program p
      ⦃⇓? r s => ⌜s.LaysInputs packed (declaredInputs p.body) ∧ r.module = s.builder.module ∧
        r.vertexInputs = s.vertexInputs.toList⌝⦄ := by
  -- the instructions run one after another, each adding its own declaration
  have body := forM_triple
    (I := fun pre s => (s.Framed ∧ s.Placing .vertex) ∧ s.LaysInputs packed (declaredInputs pre))
    (fun pre ins hins => instruction_laysInputs pre ins (hwf ins hins)) []
  rw [List.nil_append] at body
  have hfinish := @finish_laysInputs packed (declaredInputs p.body)
  mvcgen [program, body, hfinish]

end

/-- Lowering starts with no input declared and no attribute: the opening module declares no
variable. -/
theorem start_laysInputs (options : Options) (registry : ConstantRegistry) (version : ShaderVersion) :
    (start options registry version).LaysInputs options.packedColors [] where
  options := rfl
  keys _ := Iff.rfl
  attributes := .nil
  consecutive _ hi := absurd hi (Nat.not_lt_zero _)
  stride := rfl
  inputVariables := by
    have hvars : (opening {}).2.module.variablesOf .input = [] := by decide +kernel
    show List.Forall₂ _ ((opening {}).2.module.variablesOf .input) []
    rw [hvars]
    exact .nil

/-! ### Pixel shaders -/

/-- A pixel shader's state: its stage is the pixel stage, and no vertex attribute is laid out. -/
structure LaysNoAttributes (s : Lowering) : Prop where
  stage : s.version.stage = .pixel
  vertexInputs : s.vertexInputs = #[]

/-- `LaysNoAttributes` reads the version and the attributes of the state only. -/
theorem LaysNoAttributes.of_eq {s s' : Lowering} (h : s.LaysNoAttributes)
    (hv : s'.version = s.version) (hi : s'.vertexInputs = s.vertexInputs) : s'.LaysNoAttributes :=
  ⟨hv ▸ h.stage, hi ▸ h.vertexInputs⟩

section

set_option mvcgen.warning false

/-- A module building step lays out no attribute. -/
theorem build_laysNoAttributes {α : Type} (x : BuildM α) :
    ⦃fun s => ⌜s.LaysNoAttributes⌝⦄ build x ⦃⇓? _ s => ⌜s.LaysNoAttributes⌝⦄ :=
  fun _ hs => hs.of_eq rfl rfl

theorem laysNoAttributes_basic : Basic LaysNoAttributes where
  alloc := build_laysNoAttributes _
  emit _ _ := build_laysNoAttributes _
  typeId _ _ := build_laysNoAttributes _
  pointerTypeId _ _ _ := build_laysNoAttributes _
  null _ _ := build_laysNoAttributes _
  float32 _ := build_laysNoAttributes _
  int32 _ := build_laysNoAttributes _
  vec4Constant _ _ := build_laysNoAttributes _
  composite _ _ := build_laysNoAttributes _
  boolean _ := build_laysNoAttributes _
  bindValue _ _ := fun _ hs => hs.of_eq rfl rfl
  markDefined _ _ hs := hs.of_eq rfl rfl

theorem loadInput_laysNoAttributes (reg : Register) :
    ⦃fun s => ⌜s.LaysNoAttributes⌝⦄ loadInput reg ⦃⇓? _ s => ⌜s.LaysNoAttributes⌝⦄ := by
  have hbuild := @build_laysNoAttributes
  mvcgen [loadInput, unpackColor, typeId, floatType, float32, compute, shuffle, alloc, emit,
    hbuild]

theorem constantBlock_laysNoAttributes :
    ⦃fun s => ⌜s.LaysNoAttributes⌝⦄ constantBlock ⦃⇓? _ s => ⌜s.LaysNoAttributes⌝⦄ := by
  have hbuild := @build_laysNoAttributes
  mvcgen [constantBlock, typeId, alloc, hbuild] with
    (have hs := ‹LaysNoAttributes _›
     exact hs.of_eq rfl rfl)

theorem ensureOutput_laysNoAttributes (reg : Register) :
    ⦃fun s => ⌜s.LaysNoAttributes⌝⦄ ensureOutput reg ⦃⇓? _ s => ⌜s.LaysNoAttributes⌝⦄ := by
  have hbuild := @build_laysNoAttributes
  mvcgen [ensureOutput, createOutput, interfaceVariable, alloc, hbuild] with
    (have hs := ‹LaysNoAttributes _›
     exact hs.of_eq rfl rfl)

theorem laysNoAttributes_closed : Closed LaysNoAttributes :=
  { laysNoAttributes_basic with
    loadInput := loadInput_laysNoAttributes
    constantBlock := constantBlock_laysNoAttributes
    ensureOutput := fun reg _ => ensureOutput_laysNoAttributes reg }

theorem declareSampler_laysNoAttributes (index : Nat) (type : TextureType) :
    ⦃fun s => ⌜s.LaysNoAttributes⌝⦄ declareSampler index type ⦃⇓? _ s => ⌜s.LaysNoAttributes⌝⦄ := by
  have hbuild := @build_laysNoAttributes
  -- the loop over the two variables, unrolled
  simp only [declareSampler, List.forIn_cons, List.forIn_nil]
  mvcgen [alloc, stageMask, hbuild] with
    (have hs := ‹LaysNoAttributes _›
     exact hs.of_eq rfl rfl)

/-- A pixel shader declares samplers and inputs at varying locations, and no attribute: the
branches that lay out attributes are those of vertex shaders. -/
theorem declare_laysNoAttributes (decl : Declaration) (dst : Destination) :
    ⦃fun s => ⌜s.LaysNoAttributes⌝⦄ declare decl dst ⦃⇓? _ s => ⌜s.LaysNoAttributes⌝⦄ := by
  have hbuild := @build_laysNoAttributes
  have hvertex : ∀ usage, ⦃fun _ => ⌜False⌝⦄ declareVertexInput dst.reg usage
      ⦃⇓? _ s => ⌜s.LaysNoAttributes⌝⦄ := fun _ _ h => h.elim
  have houtput : ∀ usage index, ⦃fun _ => ⌜False⌝⦄ declareOutput dst.reg usage index
      ⦃⇓? _ s => ⌜s.LaysNoAttributes⌝⦄ := fun _ _ _ h => h.elim
  have hsampler := declareSampler_laysNoAttributes
  mvcgen [declare, hsampler, hvertex, houtput, declarePixelInput, interfaceVariable, alloc,
    hbuild] with
    first
    | (have hs := ‹LaysNoAttributes _›
       exact hs.of_eq rfl rfl)
    | (have hs := ‹LaysNoAttributes _›
       exact absurd (hs.stage.symm.trans ‹_›) (by decide))

/-- Lowering a pixel shader of well formed instructions lays out no vertex attribute. -/
theorem program_laysNoAttributes (p : Program) (hwf : ∀ ins ∈ p.body, ins.WellFormed) :
    ⦃fun s => ⌜s.LaysNoAttributes⌝⦄ program p ⦃⇓? r _ => ⌜r.vertexInputs = []⌝⦄ := by
  have hbuild := @build_laysNoAttributes
  have body : ⦃fun s => ⌜s.LaysNoAttributes⌝⦄ p.body.forM instruction
      ⦃⇓? _ s => ⌜s.LaysNoAttributes⌝⦄ :=
    forM_keeps fun ins hins => laysNoAttributes_closed.instruction_keeps ins (hwf ins hins)
      (fun decl dst _ _ => declare_laysNoAttributes decl dst)
  have hstore := laysNoAttributes_closed.reading.storeOutputs_keeps
  mvcgen [program, body, finish, hstore, emit, hbuild] with
    (have hs := ‹LaysNoAttributes _›
     rw [hs.vertexInputs])

end

end Lowering

/-- Every vertex shader the converter produces lays out one attribute per declared input `v#`, in
order of first declaration, and one input variable reading each; a pixel shader lays out none. -/
theorem Converter.compile_vertexInputs {c : Converter} {tokens : Array UInt32} {shader : Shader}
    {p : Program} (h : c.compile tokens = .ok shader) (hp : Program.decode tokens = .ok p) :
    (shader.stage = .vertex →
      List.Forall₂ (fun a d => a.binding = 0 ∧ a.location = d.1.index ∧
          d.2.vertexFormat c.options.packedColors = some a.format)
        shader.vertexInputs (declaredInputs p.body) ∧
      VertexAttribute.Consecutive shader.vertexInputs ∧
      (shader.vertexInputs.map (·.location)).Nodup ∧
      (∀ a ∈ shader.vertexInputs, a.location < 16) ∧
      (shader.module.variablesOf .input).Nodup ∧
      List.Forall₂ shader.module.ReadsAttribute (shader.module.variablesOf .input)
        shader.vertexInputs) ∧
    (shader.stage = .pixel → shader.vertexInputs = []) := by
  obtain ⟨p', hp', hlower⟩ := Converter.compile_eq_ok h
  obtain rfl : p = p' := Except.ok.inj (hp.symm.trans hp')
  obtain ⟨s', hrun⟩ := Program.lower_eq_ok hlower
  have hwf := Program.decode_wellFormed hp
  have hstart := Lowering.start_placing c.options c.registry p.version
  obtain ⟨hstage, hplaced, -⟩ := Lowering.triple_run (Lowering.program_entryPoint p hwf)
    ⟨Lowering.start_framed _ _ _, hstart⟩ hrun
  refine ⟨fun hvertex => ?_, fun hpixel => ?_⟩
  · obtain ⟨hlaid, hmodule, hinputs⟩ := Lowering.triple_run (Lowering.program_laysInputs p hwf)
      ⟨⟨Lowering.start_framed _ _ _, hstage.symm.trans hvertex ▸ hstart⟩,
        Lowering.start_laysInputs _ _ _⟩ hrun
    have hattributes := hlaid.attributes
    have hvars := hlaid.inputVariables
    rw [← hinputs] at hattributes
    rw [← hmodule, ← hinputs] at hvars
    -- the locations are the indices of the declared registers
    have hlocations : shader.vertexInputs.map (·.location) =
        (declaredInputs p.body).map (·.1.index) := by
      rw [← List.forall₂_eq_eq_eq, List.forall₂_map_left_iff, List.forall₂_map_right_iff]
      exact hattributes.imp fun _ _ h => h.2.1
    obtain ⟨hnodup, hlt⟩ := index_declaredInputs hwf
    -- the results of the module's declarations are distinct
    have hres := (Converter.compile_ids h).declarations_nodup
    refine ⟨hattributes, hinputs ▸ hlaid.consecutive, hlocations ▸ hnodup, fun a ha => ?_,
      hres.sublist (List.filter_sublist.filterMap _),
      hvars.imp fun _ _ hx => hx.reads hplaced hres⟩
    obtain ⟨d, hd, hindex⟩ := List.mem_map.1 (hlocations ▸ List.mem_map_of_mem ha)
    exact hindex ▸ hlt d hd
  · exact Lowering.triple_run (Lowering.program_laysNoAttributes p hwf)
      ⟨hstage.symm.trans hpixel, rfl⟩ hrun

/-- A model 2 vertex shader that declares a position in `v0` and a colour in `v1`, and moves
them to `oPos` and `oD0`, lays out three floats at offset 0 and four packed bytes at offset 12. -/
theorem Converter.compile_vertexInputs_position_color :
    ∃ shader p, Converter.compile {} #[0xFFFE0200, 0x0200001F, 0x80000000, 0x900F0000, 0x0200001F,
        0x8000000A, 0x900F0001, 0x02000001, 0xC00F0000, 0x90E40000, 0x02000001, 0xD00F0000,
        0x90E40001, 0x0000FFFF] = .ok shader ∧
      Program.decode #[0xFFFE0200, 0x0200001F, 0x80000000, 0x900F0000, 0x0200001F,
        0x8000000A, 0x900F0001, 0x02000001, 0xC00F0000, 0x90E40000, 0x02000001, 0xD00F0000,
        0x90E40001, 0x0000FFFF] = .ok p ∧
      shader.vertexInputs = [⟨0, 0, .float32x3, 0⟩, ⟨0, 1, .uint8x4, 12⟩] ∧
      ((shader.stage = .vertex →
        List.Forall₂ (fun a d => a.binding = 0 ∧ a.location = d.1.index ∧
            d.2.vertexFormat ({} : Converter).options.packedColors = some a.format)
          shader.vertexInputs (declaredInputs p.body) ∧
        VertexAttribute.Consecutive shader.vertexInputs ∧
        (shader.vertexInputs.map (·.location)).Nodup ∧
        (∀ a ∈ shader.vertexInputs, a.location < 16) ∧
        (shader.module.variablesOf .input).Nodup ∧
        List.Forall₂ shader.module.ReadsAttribute (shader.module.variablesOf .input)
          shader.vertexInputs) ∧
      (shader.stage = .pixel → shader.vertexInputs = [])) := by
  have hinputs : (Converter.compile {} #[0xFFFE0200, 0x0200001F, 0x80000000, 0x900F0000, 0x0200001F,
        0x8000000A, 0x900F0001, 0x02000001, 0xC00F0000, 0x90E40000, 0x02000001, 0xD00F0000,
        0x90E40001, 0x0000FFFF]).toOption.map (·.vertexInputs) =
      some [⟨0, 0, .float32x3, 0⟩, ⟨0, 1, .uint8x4, 12⟩] := by decide +kernel
  have hdecode : (Program.decode #[0xFFFE0200, 0x0200001F, 0x80000000, 0x900F0000, 0x0200001F,
        0x8000000A, 0x900F0001, 0x02000001, 0xC00F0000, 0x90E40000, 0x02000001, 0xD00F0000,
        0x90E40001, 0x0000FFFF]).toBool = true := by
    decide +kernel
  obtain ⟨shader, hc⟩ : ∃ shader, Converter.compile {} #[0xFFFE0200, 0x0200001F, 0x80000000, 0x900F0000, 0x0200001F,
        0x8000000A, 0x900F0001, 0x02000001, 0xC00F0000, 0x90E40000, 0x02000001, 0xD00F0000,
        0x90E40001, 0x0000FFFF] = .ok shader := by
    cases hc : Converter.compile {} #[0xFFFE0200, 0x0200001F, 0x80000000, 0x900F0000, 0x0200001F,
        0x8000000A, 0x900F0001, 0x02000001, 0xC00F0000, 0x90E40000, 0x02000001, 0xD00F0000,
        0x90E40001, 0x0000FFFF] with
    | error e => simp [hc, Except.toOption] at hinputs
    | ok shader => exact ⟨shader, rfl⟩
  obtain ⟨p, hp⟩ : ∃ p, Program.decode #[0xFFFE0200, 0x0200001F, 0x80000000, 0x900F0000, 0x0200001F,
        0x8000000A, 0x900F0001, 0x02000001, 0xC00F0000, 0x90E40000, 0x02000001, 0xD00F0000,
        0x90E40001, 0x0000FFFF] = .ok p := by
    cases hp : Program.decode #[0xFFFE0200, 0x0200001F, 0x80000000, 0x900F0000, 0x0200001F,
        0x8000000A, 0x900F0001, 0x02000001, 0xC00F0000, 0x90E40000, 0x02000001, 0xD00F0000,
        0x90E40001, 0x0000FFFF] with
    | error e => simp [hp, Except.toBool] at hdecode
    | ok p => exact ⟨p, rfl⟩
  rw [hc] at hinputs
  exact ⟨shader, p, hc, hp, Option.some.inj hinputs, Converter.compile_vertexInputs hc hp⟩

end ShaderBridge
