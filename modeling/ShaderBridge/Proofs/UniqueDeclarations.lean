import ShaderBridge.Proofs.ConstantBlock
import ShaderBridge.Proofs.ConstantPools

/-!
No declaration twice: a converted module declares every type, capability and constant once, and
the vector constant of a `def` or `defi` holds its immediate tokens.
-/

namespace ShaderBridge

open Std.Do Spirv

namespace Spirv.Module

/-- Under id `p` the module declares the scalar constant of bits `bit` whose type is declared
with opcode `op` and literal operands `operands`. -/
def ScalarConstant (m : Module) (op : Op) (operands : List Nat) (p bit : Nat) : Prop :=
  ∃ c, m.Declares c op operands ∧
    ({ op := Op.constant, resultType := some c, result := some p, operands := [bit] } :
      Instruction) ∈ m.declarations.toList

/-- Under id `x` the module declares a vector constant whose components are, in order, scalar
constants of the bits `bits`, all of one component type declared with opcode `op` and literal
operands `operands`, and whose type is the vector of that component type. -/
def VectorConstant (m : Module) (op : Op) (operands : List Nat) (x : Nat) (bits : List Nat) :
    Prop :=
  ∃ c v parts, m.Declares c op operands ∧ m.Declares v Op.typeVector [c, bits.length] ∧
    ({ op := Op.constantComposite, resultType := some v, result := some x, operands := parts } :
      Instruction) ∈ m.declarations.toList ∧
    List.Forall₂ (fun p bit =>
      ({ op := Op.constant, resultType := some c, result := some p, operands := [bit] } :
        Instruction) ∈ m.declarations.toList) parts bits

/-- What the module declares once: each type up to its result id, each capability, each scalar
constant by type and bits, each composite constant by type and constituents, each null constant
by type, and `true` and `false`. -/
structure Deduplicated (m : Module) : Prop where
  types : ((m.declarations.toList.filter fun i => decide i.IsType).map
    fun i => { i with result := none }).Nodup
  capabilities : m.capabilities.toList.Nodup
  scalars : ((m.declarations.toList.filter (·.op = Op.constant)).map
    fun i => (i.resultType, i.operands)).Nodup
  composites : ((m.declarations.toList.filter (·.op = Op.constantComposite)).map
    fun i => (i.resultType, i.operands)).Nodup
  nulls : ((m.declarations.toList.filter (·.op = Op.constantNull)).map (·.resultType)).Nodup
  booleans : ∀ value : Bool, m.declarations.toList.countP
    (·.op = if value then Op.constantTrue else Op.constantFalse) ≤ 1

variable {m m' : Module}

theorem Declares.mono (h : m.declarations.toList ⊆ m'.declarations.toList) {id : Nat} {op : Op}
    {operands : List Nat} (hd : m.Declares id op operands) : m'.Declares id op operands :=
  h hd

theorem ScalarConstant.mono (h : m.declarations.toList ⊆ m'.declarations.toList) {op : Op}
    {operands : List Nat} {p bit : Nat} (hp : m.ScalarConstant op operands p bit) :
    m'.ScalarConstant op operands p bit :=
  hp.imp fun _ hc => ⟨hc.1.mono h, h hc.2⟩

theorem VectorConstant.mono (h : m.declarations.toList ⊆ m'.declarations.toList) {op : Op}
    {operands : List Nat} {x : Nat} {bits : List Nat} (hx : m.VectorConstant op operands x bits) :
    m'.VectorConstant op operands x bits := by
  obtain ⟨c, v, parts, hc, hv, hx, hparts⟩ := hx
  exact ⟨c, v, parts, hc.mono h, hv.mono h, h hx, hparts.imp fun _ _ hp => h hp⟩

/-! ### Uniqueness in a deduplicated module -/

/-- A module whose type declarations differ apart from their result ids declares a type under one
id at most. -/
theorem declares_unique
    (htypes : ((m.declarations.toList.filter fun i => decide i.IsType).map
      fun i => { i with result := none }).Nodup) {op : Op} {operands : List Nat}
    (hop : ({ op := op } : Instruction).IsType) {c c' : Nat} (hc : m.Declares c op operands)
    (hc' : m.Declares c' op operands) : c = c' := by
  have hmem : ∀ {id}, m.Declares id op operands →
      ({ op := op, result := some id, operands := operands } : Instruction) ∈
        m.declarations.toList.filter fun i => decide i.IsType :=
    fun hd => List.mem_filter.2 ⟨hd, decide_eq_true hop⟩
  have hsame := List.inj_on_of_nodup_map htypes (hmem hc) (hmem hc') rfl
  simpa using hsame

/-- A module declares a scalar constant of one type and bits under one id at most. -/
theorem Deduplicated.constant_unique (h : m.Deduplicated) {c p p' bit : Nat}
    (hp : ({ op := Op.constant, resultType := some c, result := some p, operands := [bit] } :
      Instruction) ∈ m.declarations.toList)
    (hp' : ({ op := Op.constant, resultType := some c, result := some p', operands := [bit] } :
      Instruction) ∈ m.declarations.toList) : p = p' := by
  have hsame := List.inj_on_of_nodup_map h.scalars (List.mem_filter.2 ⟨hp, by simp⟩)
    (List.mem_filter.2 ⟨hp', by simp⟩) rfl
  simpa using hsame

/-- A module declares a composite constant of one type and constituents under one id at most. -/
theorem Deduplicated.composite_unique (h : m.Deduplicated) {v x x' : Nat} {parts : List Nat}
    (hx :
      ({ op := Op.constantComposite, resultType := some v, result := some x, operands := parts } :
        Instruction) ∈ m.declarations.toList)
    (hx' :
      ({ op := Op.constantComposite, resultType := some v, result := some x', operands := parts } :
        Instruction) ∈ m.declarations.toList) : x = x' := by
  have hsame := List.inj_on_of_nodup_map h.composites (List.mem_filter.2 ⟨hx, by simp⟩)
    (List.mem_filter.2 ⟨hx', by simp⟩) rfl
  simpa using hsame

/-- Two vector constants of one component type of a deduplicated module whose results are
distinct are one exactly when their bits are. -/
theorem Deduplicated.vectorConstant_eq_iff (h : m.Deduplicated)
    (hres : (m.declarations.toList.filterMap (·.result)).Nodup) {op : Op} {operands : List Nat}
    (hop : ({ op := op } : Instruction).IsType) {x y : Nat} {bits bits' : List Nat}
    (hx : m.VectorConstant op operands x bits) (hy : m.VectorConstant op operands y bits') :
    x = y ↔ bits = bits' := by
  obtain ⟨c, v, parts, hc, hv, hxdecl, hparts⟩ := hx
  obtain ⟨c', v', parts', hc', hv', hydecl, hparts'⟩ := hy
  -- the component types are one, since the module declares a type once
  obtain rfl := declares_unique h.types hop hc hc'
  constructor
  · -- one id is one composite instruction, and its constituents are constants of one bits each
    rintro rfl
    have hxy := eq_of_result_eq hres hxdecl hydecl rfl rfl
    simp only [Instruction.mk.injEq, true_and] at hxy
    obtain ⟨-, rfl⟩ := hxy
    refine List.right_unique_forall₂' (fun _ _ _ hb hb' => ?_) hparts hparts'
    have hsame := eq_of_result_eq hres hb hb' rfl rfl
    simpa using hsame
  · -- equal bits name equal constants, so one vector type and one composite constant
    rintro rfl
    obtain rfl : parts = parts' := by
      refine List.left_unique_forall₂' (fun _ _ _ hp hp' => ?_) hparts hparts'
      exact h.constant_unique hp hp'
    obtain rfl := declares_unique h.types
      (show ({ op := Op.typeVector } : Instruction).IsType by decide) hv hv'
    exact h.composite_unique hxdecl hydecl

end Spirv.Module

theorem Spirv.TypeTable.declarationOf_resultType (T : TypeTable) (k : TypeKey) :
    (T.declarationOf k).resultType = none := by
  cases k <;> simp only [TypeTable.declarationOf] <;> split_ifs <;> rfl

/-! ### Vector constants of a pooled builder -/

namespace Spirv.Builder

variable {b : Builder}

/-- A pooled builder declares the type its table records for a key, with the opcode and the
literal operands the key gives. -/
theorem Pooled.declares_key (h : b.Pooled) {k : TypeKey} {id : Nat}
    (hf : b.types.find? k = some id) :
    b.module.Declares id (b.types.declarationOf k).op (b.types.declarationOf k).operands := by
  have hmem := h.declares_of_find hf
  have hty := TypeTable.declarationOf_resultType b.types k
  generalize b.types.declarationOf k = i at hmem hty ⊢
  cases i
  subst hty
  exact hmem

/-- A pooled builder whose capabilities are distinct has a deduplicated module. -/
theorem Pooled.deduplicated (h : b.Pooled) (hcap : b.module.capabilities.toList.Nodup) :
    b.module.Deduplicated :=
  ⟨h.types_distinct, hcap, h.scalars_nodup, h.composites_nodup, h.nulls_nodup, h.booleans⟩

/-- A scalar constant that a pooled builder records for a type other than the boolean type is
declared, of the type its key gives. -/
theorem Pooled.scalarConstant (h : b.Pooled) {k : TypeKey} (hbool : k ≠ .bool) {c p bit : Nat}
    (hc : b.types.find? k = some c) (hl : b.constants.scalars.lookup (c, bit) = some p) :
    b.module.ScalarConstant (b.types.declarationOf k).op (b.types.declarationOf k).operands p
      bit := by
  obtain ⟨l₁, l₂, hsplit, -⟩ := List.lookup_eq_some_iff.1 hl
  have hmem : ((c, bit), p) ∈ b.constants.scalars := by
    rw [hsplit]
    exact List.mem_append_right _ List.mem_cons_self
  refine ⟨c, h.declares_key hc, ?_⟩
  -- the entry is no boolean one: the boolean type's id is another key's
  rcases h.scalarDeclared _ hmem with hb | hdecl
  · exact absurd (h.types.find?_inj hb hc).symm hbool
  · exact hdecl

/-- The composite constant that a pooled builder records under a vector type, of constituents
that are scalar constants of the vector's component type, is the vector constant of their
bits. -/
theorem Pooled.vectorConstant (h : b.Pooled) {component signedness v x : Nat}
    {parts bits : List Nat} {op : Op} {operands : List Nat}
    (hdecl : ∀ T : TypeTable,
      T.declarationOf (TypeKey.component component signedness) = { op := op, operands := operands })
    (hop : ({ op := op } : Instruction).IsType)
    (hv : b.types.find? (.aggregate Op.typeVector.code component bits.length signedness) = some v)
    (hx : b.constants.composites.lookup (v, parts) = some x)
    (hparts : List.Forall₂ (fun p bit => b.module.ScalarConstant op operands p bit) parts bits) :
    b.module.VectorConstant op operands x bits := by
  have hmatrix : Op.typeVector.code ≠ Op.typeMatrix.code := by decide
  -- the vector type names its component type, which the table has
  obtain ⟨c, hc, -⟩ := h.types.named_before _ (TypeTable.mem_of_find? hv)
    (TypeKey.component component signedness) (by simp [TypeKey.named, hmatrix])
  have hcomponent : b.module.Declares c op operands := by
    simpa [hdecl] using h.declares_key hc
  have hvector : b.module.Declares v Op.typeVector [c, bits.length] := by
    simpa [TypeTable.declarationOf, hmatrix, hc] using h.declares_key hv
  obtain ⟨l₁, l₂, hsplit, -⟩ := List.lookup_eq_some_iff.1 hx
  have hcomposite := h.compositeDeclared ((v, parts), x) (by
    rw [hsplit]
    exact List.mem_append_right _ List.mem_cons_self)
  refine ⟨c, v, parts, hcomponent, hvector, hcomposite, hparts.imp fun p bit hp => ?_⟩
  -- every constituent's type is the component type, declared once
  obtain ⟨c', hc', hmem⟩ := hp
  rwa [Module.declares_unique h.types_distinct hop hc' hcomponent] at hmem

theorem mapM_cons_run {β γ : Type} (f : β → BuildM γ) (x : β) (xs : List β) (b : Builder) :
    (x :: xs).mapM f b = ((f x b).1 :: (xs.mapM f (f x b).2).1, (xs.mapM f (f x b).2).2) := by
  simp only [List.mapM_cons]
  rfl

section

variable {d : TypeDesc} {k : TypeKey} {op : Op} {operands : List Nat}

/-- Scalar constants of one type other than the boolean type, asked for one after another from a
pooled builder, are declared as constants of the bits asked for, and the builder stays pooled
and only appends. -/
theorem mapM_scalar_run {β : Type} (hd : d.Canonical) (hk : d.key? = some k) (hbool : k ≠ .bool)
    (hdecl : ∀ T : TypeTable, T.declarationOf k = { op := op, operands := operands })
    {f : β → BuildM Nat} {g : β → Nat} (hf : ∀ a, f a = scalar d (g a)) (xs : List β)
    (h : b.Pooled) :
    (xs.mapM f b).2.Pooled ∧
      b.module.declarations.toList <+: (xs.mapM f b).2.module.declarations.toList ∧
      List.Forall₂ (fun p bit => (xs.mapM f b).2.module.ScalarConstant op operands p bit)
        (xs.mapM f b).1 (xs.map g) := by
  have hcanon : k.Canonical := by
    obtain ⟨k', hk', hcanon⟩ := hd.key_canonical
    obtain rfl : k = k' := Option.some.inj (hk.symm.trans hk')
    exact hcanon
  induction xs generalizing b with
  | nil => exact ⟨h, List.prefix_refl _, .nil⟩
  | cons x xs ih =>
    rw [mapM_cons_run]
    -- the first constant, then the rest from the builder the first leaves
    obtain ⟨h₁, c, hc, hl⟩ := run_of_triple (scalar_pooled hk hcanon (g x)) b h
    have hgrow₁ := run_of_triple ((growing_kept _).scalar d (g x) hd) b (List.prefix_refl _)
    rw [← hf x] at h₁ hc hl hgrow₁
    obtain ⟨h₂, hgrow₂, hrest⟩ := ih h₁
    refine ⟨h₂, hgrow₁.trans hgrow₂, .cons ?_ hrest⟩
    have hhead := h₁.scalarConstant hbool hc hl
    rw [hdecl] at hhead
    exact hhead.mono hgrow₂.subset

/-- A composite constant of a vector type, asked for from a pooled builder with constituents
that are scalar constants of the vector's component type, is the vector constant of their
bits. -/
theorem composite_vectorConstant {component signedness : Nat} {parts bits : List Nat}
    (hk : d.key? = some (.aggregate Op.typeVector.code component bits.length signedness))
    (hcanon : TypeKey.Canonical (.aggregate Op.typeVector.code component bits.length signedness))
    (hdecl : ∀ T : TypeTable,
      T.declarationOf (TypeKey.component component signedness) = { op := op, operands := operands })
    (hop : ({ op := op } : Instruction).IsType) (hd : d.Canonical) (h : b.Pooled)
    (hparts : List.Forall₂ (fun p bit => b.module.ScalarConstant op operands p bit) parts bits) :
    (composite d parts b).2.Pooled ∧
      (composite d parts b).2.module.VectorConstant op operands (composite d parts b).1 bits := by
  obtain ⟨h', v, hv, hx⟩ := run_of_triple (composite_pooled hk hcanon parts) b h
  have hgrow := run_of_triple ((growing_kept _).composite d parts hd) b (List.prefix_refl _)
  exact ⟨h', h'.vectorConstant hdecl hop hv hx (hparts.imp fun _ _ hp => hp.mono hgrow.subset)⟩

end

/-- The four-component float constant asked for from a pooled builder is the vector constant of
the bits asked for, and the builder stays pooled. -/
theorem vec4Constant_vector {bits : List Nat} (hlen : bits.length = 4) (h : b.Pooled) :
    (vec4Constant bits b).2.Pooled ∧
      (vec4Constant bits b).2.module.VectorConstant Op.typeFloat [32] (vec4Constant bits b).1
        bits := by
  obtain ⟨h₁, -, hparts⟩ := mapM_scalar_run (k := .float) TypeDesc.canonical_float rfl (by decide)
    (fun _ => rfl) (g := id) (fun _ => rfl) bits h
  rw [List.map_id] at hparts
  have hk : TypeDesc.vec4.key? =
      some (.aggregate Op.typeVector.code Op.typeFloat.code bits.length 0) := by
    rw [hlen]
    rfl
  exact composite_vectorConstant hk ⟨rfl, .inl ⟨rfl, rfl⟩⟩ (fun _ => rfl) (by decide)
    TypeDesc.canonical_vec4 h₁ hparts

/-! ### The opening of a module -/

/-- The empty builder is pooled. -/
theorem Pooled.empty : ({} : Builder).Pooled := by
  refine ⟨TypeTable.interned_empty, ?_, ?_, ?_, ?_, ?_, ?_, ?_, ?_, ?_, ?_⟩ <;> simp

theorem Pooled.requireCapability (h : b.Pooled) (c : Capability) :
    Pooled { b with module := b.module.requireCapability c } :=
  h.extend (h.types.of_nextId_le (by simp) (by simp [Module.typeSection])) (fun _ _ hf => hf) rfl
    ⟨[], by simp, nofun⟩

set_option mvcgen.warning false in
/-- The fixed opening of a module keeps a builder pooled. -/
theorem opening_pooled : ⦃fun b => ⌜b.Pooled⌝⦄ Lowering.opening ⦃⇓ _ b => ⌜b.Pooled⌝⦄ := by
  have hcapability : ∀ c, ⦃fun b => ⌜b.Pooled⌝⦄ requireCapability c ⦃⇓ _ b => ⌜b.Pooled⌝⦄ :=
    fun c => triple_of_run fun _ h => h.requireCapability c
  have himport : ∀ i, ⦃fun b => ⌜b.Pooled⌝⦄ addImport i ⦃⇓ _ b => ⌜b.Pooled⌝⦄ :=
    fun i => triple_of_run fun b h => pooled_kept.push b .imports i (by decide) h
  have hmemory : ∀ i, ⦃fun b => ⌜b.Pooled⌝⦄ addMemoryModel i ⦃⇓ _ b => ⌜b.Pooled⌝⦄ :=
    fun i => triple_of_run fun b h => pooled_kept.push b .memoryModel i (by decide) h
  have hvoid := pooled_kept.typeId TypeDesc.void TypeDesc.canonical_void
  have hfunction : ∀ void, ⦃fun b => ⌜b.Pooled⌝⦄ typeId (TypeDesc.function void [])
      ⦃⇓ _ b => ⌜b.Pooled⌝⦄ :=
    fun _ => pooled_kept.typeId _ (TypeDesc.canonical_function _)
  have halloc := pooled_kept.keeps_alloc
  have hname := pooled_kept.keeps_addName
  have hemit := pooled_kept.keeps_emit
  mvcgen [Lowering.opening, hcapability, himport, hmemory, hvoid, hfunction, halloc, hname, hemit]

end Spirv.Builder

namespace Spirv.Module

/-- The module holds the constant an instruction defines: a `def` the float vector constant of
its four tokens, a `defi` the integer vector constant of its four tokens. -/
def DefinesConstant (m : Module) : ShaderBridge.Instruction → Prop
  | .define _ values => ∃ x, m.VectorConstant Op.typeFloat [32] x (values.map UInt32.toNat)
  | .defineInt _ values => ∃ x, m.VectorConstant Op.typeInt [32, 1] x (values.map UInt32.toNat)
  | _ => True

theorem DefinesConstant.mono {m m' : Module} (h : m.declarations.toList ⊆ m'.declarations.toList)
    {ins : ShaderBridge.Instruction} (hins : m.DefinesConstant ins) : m'.DefinesConstant ins := by
  cases ins with
  | define _ _ => exact hins.imp fun _ hx => hx.mono h
  | defineInt _ _ => exact hins.imp fun _ hx => hx.mono h
  | _ => trivial

/-- The capabilities a declared module lists are distinct. -/
theorem Declared.capabilities_nodup {m : Module} (h : m.Declared) :
    m.capabilities.toList.Nodup := by
  rw [h.capabilities]
  split <;> decide

end Spirv.Module

namespace Lowering

section

set_option mvcgen.warning false

theorem mapM_build {β γ : Type} (f : β → BuildM γ) (xs : List β) :
    xs.mapM (fun a => build (f a)) = build (xs.mapM f) := by
  induction xs with
  | nil => rfl
  | cons x xs ih =>
    simp only [List.mapM_cons, ih]
    rfl

/-- Lowering `def` from a pooled state declares the float vector constant of its four tokens. -/
theorem define_vectorConstant (dst : Destination) (values : List UInt32)
    (hvalues : values.length = 4) :
    ⦃fun s => ⌜s.builder.Pooled⌝⦄ define dst values
      ⦃⇓? _ s => ⌜∃ x, s.builder.module.VectorConstant Op.typeFloat [32] x
        (values.map UInt32.toNat)⌝⦄ := by
  have hvector : ⦃fun s => ⌜s.builder.Pooled⌝⦄
      build (Builder.vec4Constant (values.map UInt32.toNat))
      ⦃⇓? _ s => ⌜∃ x, s.builder.module.VectorConstant Op.typeFloat [32] x
        (values.map UInt32.toNat)⌝⦄ :=
    build_lift (P := Builder.Pooled)
      (R := fun _ b => ∃ x, b.module.VectorConstant Op.typeFloat [32] x (values.map UInt32.toNat))
      (Builder.triple_of_run fun _ h =>
        ⟨_, (Builder.vec4Constant_vector (by rw [List.length_map, hvalues]) h).2⟩)
  have hbind := @bindDefined_builds
    fun b => ∃ x, b.module.VectorConstant Op.typeFloat [32] x (values.map UInt32.toNat)
  mvcgen [define, checkDefinition, hvector, hbind]

/-- Lowering `defi` from a pooled state declares the integer vector constant of its four
tokens. -/
theorem defineInt_vectorConstant (dst : Destination) (values : List UInt32)
    (hvalues : values.length = 4) :
    ⦃fun s => ⌜s.builder.Pooled⌝⦄ defineInt dst values
      ⦃⇓? _ s => ⌜∃ x, s.builder.module.VectorConstant Op.typeInt [32, 1] x
        (values.map UInt32.toNat)⌝⦄ := by
  -- the four signed integer constants, then the composite of them
  have hparts : ⦃fun s => ⌜s.builder.Pooled⌝⦄ values.mapM (fun v => int32 v.toNat)
      ⦃⇓? parts s => ⌜s.builder.Pooled ∧ List.Forall₂
        (fun p bit => s.builder.module.ScalarConstant Op.typeInt [32, 1] p bit) parts
        (values.map UInt32.toNat)⌝⦄ := by
    rw [show (values.mapM fun v => int32 v.toNat) =
      build (values.mapM fun v => Builder.int32 v.toNat) from mapM_build _ _]
    refine build_lift (P := Builder.Pooled) (R := fun parts b => b.Pooled ∧ List.Forall₂
      (fun p bit => b.module.ScalarConstant Op.typeInt [32, 1] p bit) parts
      (values.map UInt32.toNat)) (Builder.triple_of_run fun _ h => ?_)
    have hrun := Builder.mapM_scalar_run (k := .int 1) (TypeDesc.canonical_int true) rfl
      (by decide) (fun _ => rfl) (f := fun v => Builder.int32 v.toNat) (g := UInt32.toNat)
      (fun _ => rfl) values h
    exact ⟨hrun.1, hrun.2.2⟩
  have hk : TypeDesc.ivec4.key? =
      some (.aggregate Op.typeVector.code Op.typeInt.code (values.map UInt32.toNat).length 1) := by
    rw [List.length_map, hvalues]
    rfl
  have hcomposite : ∀ parts, ⦃fun s => ⌜s.builder.Pooled ∧ List.Forall₂
        (fun p bit => s.builder.module.ScalarConstant Op.typeInt [32, 1] p bit) parts
        (values.map UInt32.toNat)⌝⦄ build (Builder.composite TypeDesc.ivec4 parts)
      ⦃⇓? _ s => ⌜∃ x, s.builder.module.VectorConstant Op.typeInt [32, 1] x
        (values.map UInt32.toNat)⌝⦄ := fun parts =>
    build_lift (P := fun b => b.Pooled ∧ List.Forall₂
        (fun p bit => b.module.ScalarConstant Op.typeInt [32, 1] p bit) parts
        (values.map UInt32.toNat))
      (R := fun _ b => ∃ x, b.module.VectorConstant Op.typeInt [32, 1] x (values.map UInt32.toNat))
      (Builder.triple_of_run fun _ h => ⟨_, (Builder.composite_vectorConstant hk
      ⟨rfl, .inr (.inr ⟨rfl, le_refl 1⟩)⟩ (fun _ => rfl) (by decide) TypeDesc.canonical_ivec4
      h.1 h.2).2⟩)
  have hbind := @bindDefined_builds
    fun b => ∃ x, b.module.VectorConstant Op.typeInt [32, 1] x (values.map UInt32.toNat)
  mvcgen [defineInt, checkDefinition, hparts, hcomposite, hbind]

/-- Lowering a well formed instruction from a framed and pooled state declares the constant it
defines. -/
theorem instruction_definesConstant (ins : Instruction) (hins : ins.WellFormed) :
    ⦃fun s => ⌜s.Framed ∧ s.builder.Pooled⌝⦄ instruction ins
      ⦃⇓? _ s => ⌜s.builder.module.DefinesConstant ins⌝⦄ := by
  cases ins with
  | define dst values => exact fun s h => define_vectorConstant dst values hins.2 s h.2
  | defineInt dst values => exact fun s h => defineInt_vectorConstant dst values hins.2 s h.2
  | _ => exact triple_weaken (instruction_kept Builder.pooled_kept _ hins) fun _ _ => trivial

/-- One well formed instruction keeps a state framed, pooled and holding the constants the
instructions before it define, and adds the constant it defines. -/
theorem instruction_defines (pre : List Instruction) (ins : Instruction) (hins : ins.WellFormed) :
    ⦃fun s => ⌜s.Framed ∧ s.builder.Pooled ∧ ∀ i ∈ pre, s.builder.module.DefinesConstant i⌝⦄
      instruction ins
      ⦃⇓? _ s => ⌜s.Framed ∧ s.builder.Pooled ∧
        ∀ i ∈ pre ++ [ins], s.builder.module.DefinesConstant i⌝⦄ := by
  intro s₀ hs₀
  obtain ⟨hframed, hpooled, hpre⟩ := hs₀
  -- the declarations of the state stay at the front of the module's declarations
  have hkept := instruction_kept
    (Builder.pooled_kept.and (Builder.growing_kept s₀.builder.module.declarations.toList)) ins hins
  have hnew : ⦃fun s => ⌜(s.Framed ∧ s.builder.Pooled ∧
        s₀.builder.module.declarations.toList <+: s.builder.module.declarations.toList) ∧ True⌝⦄
      instruction ins ⦃⇓? _ s => ⌜s.builder.module.DefinesConstant ins⌝⦄ :=
    fun s h => instruction_definesConstant ins hins s ⟨h.1.1, h.1.2.1⟩
  refine triple_weaken (keeps_and hkept hnew) (fun s hs => ?_) s₀
    ⟨⟨hframed, hpooled, List.prefix_refl _⟩, trivial⟩
  obtain ⟨⟨hframed', hpooled', hgrow⟩, hdefines⟩ := hs
  refine ⟨hframed', hpooled', fun i hi => ?_⟩
  rcases List.mem_append.1 hi with hi | hi
  · exact (hpre i hi).mono hgrow.subset
  · rw [List.mem_singleton.1 hi]
    exact hdefines

/-- Lowering a program of well formed instructions from a framed and pooled state leaves a
pooled builder holding the constants every instruction defines, and its module is the
shader's. -/
theorem program_defines (p : Program) (hwf : ∀ ins ∈ p.body, ins.WellFormed) :
    ⦃fun s => ⌜s.Framed ∧ s.builder.Pooled ∧ ∀ i ∈ ([] : List Instruction),
      s.builder.module.DefinesConstant i⌝⦄ program p
      ⦃⇓? r s => ⌜(s.builder.Pooled ∧ ∀ i ∈ p.body, s.builder.module.DefinesConstant i) ∧
        s.builder.module = r.module⌝⦄ := by
  have body := forM_triple
    (I := fun pre s => s.Framed ∧ s.builder.Pooled ∧ ∀ i ∈ pre, s.builder.module.DefinesConstant i)
    (fun pre ins hins => instruction_defines pre ins (hwf ins hins)) []
  rw [List.nil_append] at body
  -- finishing appends to the module only, so the constants stay
  have hfinish := finish_kept (Builder.pooled_kept.and
    (Builder.monotone_kept (fun m => ∀ i ∈ p.body, m.DefinesConstant i)
      fun _ _ h hgrow i hi => (h i hi).mono hgrow.subset))
  mvcgen [program, body, hfinish]

end

theorem start_pooled (options : Options) (registry : ConstantRegistry) (version : ShaderVersion) :
    (start options registry version).builder.Pooled :=
  Builder.run_of_triple Builder.opening_pooled {} Builder.Pooled.empty

end Lowering

/-- Every shader the converter produces declares each type, capability and constant once, and holds
the vector constant of each `def` and `defi` at its tokens. -/
theorem Converter.compile_deduplicated {c : Converter} {tokens : Array UInt32} {shader : Shader}
    (h : c.compile tokens = .ok shader) :
    shader.module.Deduplicated ∧
      (∀ x y bits bits', shader.module.VectorConstant Op.typeFloat [32] x bits →
        shader.module.VectorConstant Op.typeFloat [32] y bits' → (x = y ↔ bits = bits')) ∧
      (∀ x y bits bits', shader.module.VectorConstant Op.typeInt [32, 1] x bits →
        shader.module.VectorConstant Op.typeInt [32, 1] y bits' → (x = y ↔ bits = bits')) ∧
      ∃ p, Program.decode tokens = .ok p ∧
        (∀ dst values, .define dst values ∈ p.body →
          ∃ x, shader.module.VectorConstant Op.typeFloat [32] x (values.map UInt32.toNat)) ∧
        ∀ dst values, .defineInt dst values ∈ p.body →
          ∃ x, shader.module.VectorConstant Op.typeInt [32, 1] x (values.map UInt32.toNat) := by
  obtain ⟨p, hp, hlower⟩ := Converter.compile_eq_ok h
  obtain ⟨s', hrun⟩ := Program.lower_eq_ok hlower
  have hstart : (Lowering.start c.options c.registry p.version).Framed ∧
      (Lowering.start c.options c.registry p.version).builder.Pooled ∧
      ∀ i ∈ ([] : List Instruction),
        (Lowering.start c.options c.registry p.version).builder.module.DefinesConstant i :=
    ⟨Lowering.start_framed _ _ _, Lowering.start_pooled _ _ _,
      fun _ hi => (List.not_mem_nil hi).elim⟩
  obtain ⟨⟨hpooled, hdefines⟩, hmodule⟩ :=
    Lowering.triple_run (Lowering.program_defines p (Program.decode_wellFormed hp)) hstart hrun
  -- the shader's module is the one the pooled builder holds
  have hcap := (Converter.compile_laid h).1.capabilities_nodup
  rw [← hmodule] at hcap ⊢
  have hdedup := hpooled.deduplicated hcap
  have hres := (Converter.compile_ids h).declarations_nodup
  rw [← hmodule] at hres
  exact ⟨hdedup, fun _ _ _ _ => hdedup.vectorConstant_eq_iff hres (by decide),
    fun _ _ _ _ => hdedup.vectorConstant_eq_iff hres (by decide), p, hp,
    fun _ _ hmem => hdefines _ hmem, fun _ _ hmem => hdefines _ hmem⟩

/-- A pixel shader of model 2.0 defining `c0` as `(0.0, -0.0, 1.0, NaN)` converts to a module
without duplicate declarations that holds the vector constant of those four bit patterns. -/
theorem Converter.compile_signed_zero_deduplicated :
    ∃ shader, Converter.compile {} #[0xFFFF0200, 0x05000051, 0xA00F0000, 0x00000000, 0x80000000,
        0x3F800000, 0x7FC00000, 0x0000FFFF] = .ok shader ∧
      shader.module.Deduplicated ∧
      (∀ x y bits bits', shader.module.VectorConstant Op.typeFloat [32] x bits →
        shader.module.VectorConstant Op.typeFloat [32] y bits' → (x = y ↔ bits = bits')) ∧
      (∀ x y bits bits', shader.module.VectorConstant Op.typeInt [32, 1] x bits →
        shader.module.VectorConstant Op.typeInt [32, 1] y bits' → (x = y ↔ bits = bits')) ∧
      ∃ p, Program.decode #[0xFFFF0200, 0x05000051, 0xA00F0000, 0x00000000, 0x80000000,
          0x3F800000, 0x7FC00000, 0x0000FFFF] = .ok p ∧
        (∀ dst values, .define dst values ∈ p.body →
          ∃ x, shader.module.VectorConstant Op.typeFloat [32] x (values.map UInt32.toNat)) ∧
        ∀ dst values, .defineInt dst values ∈ p.body →
          ∃ x, shader.module.VectorConstant Op.typeInt [32, 1] x (values.map UInt32.toNat) := by
  have hok : (Converter.compile {} #[0xFFFF0200, 0x05000051, 0xA00F0000, 0x00000000, 0x80000000,
      0x3F800000, 0x7FC00000, 0x0000FFFF]).toBool = true := by decide +kernel
  cases hc : Converter.compile {} #[0xFFFF0200, 0x05000051, 0xA00F0000, 0x00000000, 0x80000000,
      0x3F800000, 0x7FC00000, 0x0000FFFF] with
  | error e => simp [hc, Except.toBool] at hok
  | ok shader => exact ⟨shader, rfl, Converter.compile_deduplicated hc⟩

end ShaderBridge
