import ShaderBridge.Proofs.Framing

/-!
Soundness of the type table: every key it records names a declaration of that type, and the
steps that declare types and constants extend the builder.
-/

namespace ShaderBridge

open Std.Do

namespace Spirv

@[simp] theorem Dim.ofCode_code (dim : Dim) : Dim.ofCode dim.code = dim := by
  cases dim <;> rfl

/-- The opcode that declares a type of each kind the table knows. -/
def TypeKind.opcode : TypeKind → Nat
  | .void => 19
  | .bool => 20
  | .int => 21
  | .float => 22
  | .vector => 23
  | .matrix => 24
  | .image => 25
  | .sampler => 26
  | .sampledImage => 27
  | .array => 28
  | .struct => 30
  | .function => 33
  | .pointer => 32
  | .other => 0

theorem TypeKind.code_of_ofOp {op : Op} {k : TypeKind} (h : TypeKind.ofOp op = k)
    (hk : k ≠ .other) : op.code = k.opcode := by
  unfold TypeKind.ofOp at h
  split at h <;> subst h <;> simp_all [opcode]

namespace TypeKey

/-- The key of a vector's component type, from the component opcode and signedness the vector's
key records. -/
def component (component signedness : Nat) : TypeKey :=
  if component = Op.typeInt.code then .int (if signedness = 0 then 0 else 1)
  else if component = Op.typeBool.code then .bool
  else .float

/-- How many layers of types the declaration of a key names through other keys: a matrix its
column vector and that vector's component, a sampled image its image and that image's sampled
float, a vector its component, an image its sampled float. -/
def rank : TypeKey → Nat
  | .aggregate primary .. => if primary = Op.typeMatrix.code then 2 else 1
  | .composite primary _ =>
    if primary = Op.typeSampledImage.code then 2 else if primary = Op.typeImage.code then 1 else 0
  | _ => 0

@[simp] theorem rank_component (c s : Nat) : (component c s).rank = 0 := by
  unfold component
  split
  · rfl
  · split <;> rfl

end TypeKey

namespace Module

@[simp] theorem declarations_bump (m : Module) : m.bump.declarations = m.declarations := rfl

@[simp] theorem annotations_bump (m : Module) : m.bump.annotations = m.annotations := rfl

@[simp] theorem declarations_push_declarations (m : Module) (i : Instruction) :
    (m.push .declarations i).declarations = m.declarations.push i := rfl

@[simp] theorem declarations_requireCapability (m : Module) (c : Capability) :
    (m.requireCapability c).declarations = m.declarations := by
  unfold requireCapability
  split <;> rfl

@[simp] theorem annotations_requireCapability (m : Module) (c : Capability) :
    (m.requireCapability c).annotations = m.annotations := by
  unfold requireCapability
  split <;> rfl

/-- The module declares the type or constant `op` on `operands` under id `id`. -/
def Declares (m : Module) (id : Nat) (op : Op) (operands : List Nat) : Prop :=
  ({ op := op, result := some id, operands := operands } : Instruction) ∈ m.declarations.toList

/-- The module declares under id `id` the type that key `k` identifies: the key fixes the
opcode and the literal operands, and the ids the declaration names are of the types the key
names. -/
def DeclaresKey (m : Module) (k : TypeKey) (id : Nat) : Prop :=
  match k with
  | .void => m.Declares id Op.typeVoid []
  | .bool => m.Declares id Op.typeBool []
  | .float => m.Declares id Op.typeFloat [32]
  | .sampler => m.Declares id Op.typeSampler []
  | .int signedness => m.Declares id Op.typeInt [32, signedness]
  | .aggregate primary component count signedness =>
    if primary = Op.typeMatrix.code then
      ∃ column, m.Declares id Op.typeMatrix [column, count] ∧
        m.DeclaresKey (.aggregate Op.typeVector.code component count
          (if component = Op.typeInt.code then 1 else 0)) column
    else
      ∃ comp, m.Declares id Op.typeVector [comp, count] ∧
        m.DeclaresKey (TypeKey.component component signedness) comp
  | .composite primary arguments =>
    if primary = Op.typeImage.code then
      ∃ sampled, m.Declares id Op.typeImage
          [sampled, (Dim.ofCode (arguments.headD 1)).code, 0, 0, 0, 1, 0] ∧
        m.DeclaresKey .float sampled
    else if primary = Op.typeSampledImage.code then
      ∃ image, m.Declares id Op.typeSampledImage [image] ∧
        m.DeclaresKey (.composite Op.typeImage.code [(Dim.ofCode (arguments.headD 1)).code]) image
    else if primary = Op.typeArray.code then
      m.Declares id Op.typeArray [arguments.headD 0, (arguments.drop 1).headD 0]
    else if primary = Op.typeStruct.code then m.Declares id Op.typeStruct arguments
    else m.Declares id Op.typeFunction (arguments.headD 0 :: arguments.drop 1)
  | .pointer storageClass pointee => m.Declares id Op.typePointer [storageClass, pointee]
termination_by k.rank
decreasing_by
  all_goals first
    | (rw [TypeKey.rank_component]; simp_all [TypeKey.rank, Op.typeMatrix])
    | simp_all [TypeKey.rank, Op.typeMatrix, Op.typeVector, Op.typeImage, Op.typeSampledImage]

/-- Declarations are only ever added: what a module declares, a module with more declarations
declares. -/
theorem DeclaresKey.mono {m m' : Module} (h : m.declarations.toList ⊆ m'.declarations.toList)
    {k : TypeKey} {id : Nat} (hk : m.DeclaresKey k id) : m'.DeclaresKey k id := by
  -- one case per key, the recursive ones carrying the named type's declaration along
  fun_induction DeclaresKey m k id <;> rw [DeclaresKey] <;> (try simp only [↓reduceIte, *]) <;>
    first
    | exact h hk
    | (obtain ⟨x, hx, hrec⟩ := hk
       exact ⟨x, h hx, by simp_all⟩)

end Module

namespace TypeDesc

@[simp] theorem key_void : void.key? = some .void := rfl

@[simp] theorem key_bool : bool.key? = some .bool := rfl

@[simp] theorem key_float : float.key? = some .float := rfl

@[simp] theorem key_sampler : sampler.key? = some .sampler := rfl

@[simp] theorem key_int (signed : Bool) :
    (int signed).key? = some (.int (if signed then 1 else 0)) := by
  cases signed <;> rfl

@[simp] theorem key_image (dim : Dim) :
    (image dim).key? = some (.composite Op.typeImage.code [dim.code]) := rfl

@[simp] theorem key_pointer (pointee : Nat) (sc : StorageClass) :
    (pointer pointee sc).key? = some (.pointer sc.code pointee) := rfl

/-- A vector's component type has the key its own key records. -/
theorem key_componentDesc (d : TypeDesc) :
    d.componentDesc.key? =
      some (TypeKey.component d.secondary.code (if d.secondary = Op.typeInt then d.signedness else 0)) := by
  unfold componentDesc TypeKey.component
  obtain ⟨c⟩ := d.secondary
  by_cases hint : c = 21
  · simp [hint, Op.typeInt]
  · by_cases hbool : c = 20 <;> simp [hint, hbool, Op.typeInt, Op.typeBool]

end TypeDesc

namespace Module

open TypeDesc

/-- The module declares under `id` the type that `d` describes, as its key identifies it. -/
def DeclaresDesc (m : Module) (d : TypeDesc) (id : Nat) : Prop :=
  ∀ k, d.key? = some k → m.DeclaresKey k id

theorem DeclaresDesc.mono {m m' : Module} (h : m.declarations.toList ⊆ m'.declarations.toList)
    {d : TypeDesc} {id : Nat} (hd : m.DeclaresDesc d id) : m'.DeclaresDesc d id :=
  fun k hk => (hd k hk).mono h

variable {m : Module} {d : TypeDesc} {id : Nat}

theorem declaresDesc_vector {comp : Nat} (hkind : d.kind = .vector)
    (hdecl : m.Declares id Op.typeVector [comp, d.componentCount])
    (hcomp : m.DeclaresDesc d.componentDesc comp) : m.DeclaresDesc d id := by
  intro k hk
  have hcode := TypeKind.code_of_ofOp hkind (by decide)
  simp only [key?, hkind, Option.some.injEq] at hk
  subst hk
  rw [DeclaresKey, if_neg (by rw [hcode]; decide)]
  exact ⟨comp, hdecl, hcomp _ (key_componentDesc d)⟩

theorem declaresDesc_image {sampled : Nat} (hkind : d.kind = .image)
    (hdecl : m.Declares id Op.typeImage [sampled, d.dim.code, 0, 0, 0, 1, 0])
    (hsampled : m.DeclaresDesc float sampled) : m.DeclaresDesc d id := by
  intro k hk
  have hcode := TypeKind.code_of_ofOp hkind (by decide)
  simp only [key?, hkind, Option.some.injEq] at hk
  subst hk
  rw [DeclaresKey, if_pos (by rw [hcode]; rfl)]
  exact ⟨sampled, hdecl, hsampled _ key_float⟩

theorem declaresDesc_sampledImage {image : Nat} (hkind : d.kind = .sampledImage)
    (hdecl : m.Declares id Op.typeSampledImage [image])
    (himage : m.DeclaresDesc (TypeDesc.image d.dim) image) : m.DeclaresDesc d id := by
  intro k hk
  have hcode := TypeKind.code_of_ofOp hkind (by decide)
  simp only [key?, hkind, Option.some.injEq] at hk
  subst hk
  rw [DeclaresKey, if_neg (by rw [hcode]; decide), if_pos (by rw [hcode]; rfl)]
  exact ⟨image, hdecl, himage _ (key_image _)⟩

/-- A type that names no other declared type is declared by its leaf declaration. -/
theorem declaresDesc_leaf (hkind : d.kind ≠ .vector ∧ d.kind ≠ .matrix ∧ d.kind ≠ .image ∧
      d.kind ≠ .sampledImage)
    (hmem : Builder.leafDeclaration d id ∈ m.declarations.toList) : m.DeclaresDesc d id := by
  intro k hk
  unfold Builder.leafDeclaration at hmem
  simp only [key?] at hk
  cases hkd : d.kind <;>
    simp only [hkd, Option.some.injEq, reduceCtorEq, ne_eq, not_true_eq_false, false_and,
      and_false] at hk hmem hkind
  -- the composite kinds are told apart by their opcode
  all_goals
    subst hk
    rw [DeclaresKey]
    first
    | exact hmem
    | (have hcode := TypeKind.code_of_ofOp hkd (by decide)
       simp only [hcode, TypeKind.opcode, Op.typeImage, Op.typeSampledImage, Op.typeArray,
         Op.typeStruct, ↓reduceIte]
       exact hmem)

end Module

theorem TypeTable.mem_of_find? {t : TypeTable} {k : TypeKey} {id : Nat} (h : t.find? k = some id) :
    (k, id) ∈ t.entries := by
  obtain ⟨entries⟩ := t
  simp only [TypeTable.find?] at h ⊢
  induction entries with
  | nil => simp at h
  | cons p entries ih =>
    obtain ⟨a, v⟩ := p
    by_cases hk : k = a
    · subst hk
      simp_all
    · simp only [List.lookup_cons, beq_false_of_ne hk] at h
      exact .tail _ (ih h)

namespace Builder

/-- Every key the type table records names the id of a declaration of its type. -/
def TypesSound (b : Builder) : Prop := ∀ p ∈ b.types.entries, b.module.DeclaresKey p.1 p.2

namespace TypesSound

variable {b : Builder} {m : Module} {d : TypeDesc} {id : Nat}

theorem declaresDesc_of_find (h : b.TypesSound) (hf : d.key?.bind b.types.find? = some id) :
    b.module.DeclaresDesc d id := by
  obtain ⟨k, hk, hfind⟩ := Option.bind_eq_some_iff.1 hf
  intro k' hk'
  obtain rfl : k' = k := Option.some_injective _ (hk'.symm.trans hk)
  exact h _ (TypeTable.mem_of_find? hfind)

/-- Declaring more, and recording the type just declared, keeps the table sound. -/
theorem record (h : b.TypesSound) (hm : b.module.declarations.toList ⊆ m.declarations.toList)
    (hd : m.DeclaresDesc d id) (t : TypeTable)
    (ht : t = b.types ∨ ∃ k, d.key? = some k ∧ t = b.types.insert k id) :
    TypesSound ⟨m, t, b.constants⟩ ∧ m.DeclaresDesc d id := by
  refine ⟨?_, hd⟩
  rcases ht with rfl | ⟨k, hk, rfl⟩
  · exact fun p hp => (h p hp).mono hm
  · intro p hp
    rcases List.mem_cons.1 hp with rfl | hp
    · exact hd k hk
    · exact (h p hp).mono hm

theorem extend (h : b.TypesSound) (hm : b.module.declarations.toList ⊆ m.declarations.toList)
    (c : ConstantPool) : TypesSound ⟨m, b.types, c⟩ :=
  fun p hp => (h p hp).mono hm

end TypesSound

/-- `b` is `b₀` with more types and constants declared: its declarations are those of `b₀`
followed by type and constant declarations, and its decorations are those of `b₀`. -/
def Extends (b₀ b : Builder) : Prop :=
  (∃ new, b.module.declarations.toList = b₀.module.declarations.toList ++ new ∧
    ∀ i ∈ new, i.op ∈ Op.declarationOps) ∧ b.module.annotations = b₀.module.annotations

namespace Extends

theorem refl (b : Builder) : b.Extends b := ⟨⟨[], by simp, by simp⟩, rfl⟩

theorem trans {b₀ b₁ b₂ : Builder} (h₁ : b₀.Extends b₁) (h₂ : b₁.Extends b₂) : b₀.Extends b₂ := by
  obtain ⟨⟨new₁, hd₁, hn₁⟩, ha₁⟩ := h₁
  obtain ⟨⟨new₂, hd₂, hn₂⟩, ha₂⟩ := h₂
  refine ⟨⟨new₁ ++ new₂, by rw [hd₂, hd₁, List.append_assoc], fun i hi => ?_⟩, ha₂.trans ha₁⟩
  rcases List.mem_append.1 hi with hi | hi
  · exact hn₁ i hi
  · exact hn₂ i hi

theorem declarations_subset {b₀ b : Builder} (h : b₀.Extends b) :
    b₀.module.declarations.toList ⊆ b.module.declarations.toList := by
  obtain ⟨⟨new, hd, -⟩, -⟩ := h
  rw [hd]
  exact List.subset_append_left _ _

/-- Changing the module's other sections, the types or the constants keeps an extension. -/
theorem of_module {b₀ b : Builder} (h : b₀.Extends b) {m : Module}
    (hd : m.declarations = b.module.declarations) (ha : m.annotations = b.module.annotations)
    (t : TypeTable) (c : ConstantPool) : b₀.Extends ⟨m, t, c⟩ :=
  ⟨hd ▸ h.1, ha.trans h.2⟩

/-- Declaring a type or a constant keeps an extension. -/
theorem push {b₀ b : Builder} (h : b₀.Extends b) {m : Module}
    (hd : m.declarations = b.module.declarations) (ha : m.annotations = b.module.annotations)
    {i : Instruction} (hi : i.op ∈ Op.declarationOps) (t : TypeTable) (c : ConstantPool) :
    b₀.Extends ⟨m.push .declarations i, t, c⟩ := by
  obtain ⟨⟨new, hnew, hops⟩, hann⟩ := h
  refine ⟨⟨new ++ [i], ?_, fun j hj => ?_⟩, ha.trans hann⟩
  · simp [Module.push, hd, hnew]
  · rcases List.mem_append.1 hj with hj | hj
    · exact hops j hj
    · rw [List.mem_singleton.1 hj]
      exact hi

end Extends

theorem leafDeclaration_op_mem (d : TypeDesc) (id : Nat) :
    (leafDeclaration d id).op ∈ Op.declarationOps := by
  unfold leafDeclaration
  split <;> simp [Op.declarationOps]

section

set_option mvcgen.warning false

attribute [local spec] alloc_spec requireCapability_spec declare_spec

theorem typeId_sound_lt (b₀ : Builder) (n : Nat) (d : TypeDesc) :
    ⦃fun b => ⌜b₀.Extends b ∧ b.TypesSound ∧ d.Canonical ∧ d.depth < n⌝⦄ typeId d
      ⦃⇓ r b => ⌜b₀.Extends b ∧ b.TypesSound ∧ b.module.DeclaresDesc d r⌝⦄ := by
  induction n generalizing d with
  | zero => exact fun _ h => absurd h.2.2.2 (Nat.not_lt_zero _)
  | succ n ih =>
    rw [typeId]
    mvcgen [ih] with
      (obtain ⟨hext, hs, hd, hdepth⟩ := ‹Builder.Extends _ _ ∧ Builder.TypesSound _ ∧ TypeDesc.Canonical _ ∧ _›
       first
       | exact absurd ‹d.kind = .matrix› hd.kind_ne_matrix
       | exact ⟨hext, hs, hs.declaresDesc_of_find ‹_›⟩
       | exact ⟨hext, hs, by simp, by grind [TypeDesc.depth, TypeDesc.depth_componentDesc,
            TypeDesc.depth_float, TypeDesc.depth_image]⟩
       | (dsimp +zetaDelta only [leafDeclaration_result, Option.getD_some]
          first
          | (refine ⟨hext.push (by simp) (by simp) (leafDeclaration_op_mem _ _) _ _,
               hs.record (by simp) (Module.declaresDesc_leaf ?_ (by simp)) _ (by simp_all)⟩
             subst_vars
             exact ⟨‹_›, ‹_›, ‹_›, ‹_›⟩)
          | (obtain ⟨hext', hs', hnamed⟩ :=
               ‹Builder.Extends _ _ ∧ Builder.TypesSound _ ∧ Module.DeclaresDesc _ _ _›
             refine ⟨hext'.push (by simp) (by simp) (by dsimp only; decide) _ _,
               hs'.record (by simp) ?_ _ (by simp_all)⟩
             first
             | exact Module.declaresDesc_vector ‹_› (by simp [Module.Declares]) (hnamed.mono (by simp))
             | exact Module.declaresDesc_image ‹_› (by simp [Module.Declares]) (hnamed.mono (by simp))
             | exact Module.declaresDesc_sampledImage ‹_› (by simp [Module.Declares])
                (hnamed.mono (by simp)))))

theorem typeId_sound (b₀ : Builder) (d : TypeDesc) :
    ⦃fun b => ⌜b₀.Extends b ∧ b.TypesSound ∧ d.Canonical⌝⦄ typeId d
      ⦃⇓ r b => ⌜b₀.Extends b ∧ b.TypesSound ∧ b.module.DeclaresDesc d r⌝⦄ :=
  fun b h => typeId_sound_lt b₀ (d.depth + 1) d b ⟨h.1, h.2.1, h.2.2, Nat.lt_succ_self _⟩

theorem pointerTypeId_sound (b₀ : Builder) (pointee : TypeDesc) (sc : StorageClass) :
    ⦃fun b => ⌜b₀.Extends b ∧ b.TypesSound ∧ pointee.Canonical⌝⦄ pointerTypeId pointee sc
      ⦃⇓ r b => ⌜b₀.Extends b ∧ b.TypesSound ∧
        ∃ t, b.module.DeclaresDesc pointee t ∧ b.module.DeclaresKey (.pointer sc.code t) r⌝⦄ := by
  mvcgen [pointerTypeId, typeId_sound] with
    first
    | exact ⟨.refl _, ‹_ ∧ _›.2⟩
    | exact ⟨.refl _, ‹_ ∧ _ ∧ _›.2.1, TypeDesc.canonical_pointer _ _⟩
    | (intro hext hs hdesc
       obtain ⟨hext₀, -, -⟩ := ‹b₀.Extends _ ∧ _›
       obtain ⟨hext₁, -, hpointee⟩ := ‹Builder.Extends _ _ ∧ _ ∧ Module.DeclaresDesc _ pointee _›
       exact ⟨hext₀.trans (hext₁.trans hext), hs, _, hpointee.mono hext.declarations_subset,
         hdesc _ (TypeDesc.key_pointer _ _)⟩)

/-- Declaring a constant extends the builder and keeps its type table sound. -/
theorem declare_constant {b₀ b : Builder} (hext : b₀.Extends b) (hs : b.TypesSound)
    {i : Instruction} (hi : i.op ∈ Op.declarationOps) (c : ConstantPool) :
    b₀.Extends ⟨b.module.bump.push .declarations i, b.types, c⟩ ∧
      TypesSound ⟨b.module.bump.push .declarations i, b.types, c⟩ :=
  ⟨hext.push (by simp) (by simp) hi _ _, hs.extend (by simp) c⟩

theorem scalar_sound (b₀ : Builder) (d : TypeDesc) (bits : Nat) :
    ⦃fun b => ⌜b₀.Extends b ∧ b.TypesSound ∧ d.Canonical⌝⦄ scalar d bits
      ⦃⇓ _ b => ⌜b₀.Extends b ∧ b.TypesSound⌝⦄ := by
  mvcgen [scalar, typeId_sound] with
    first
    | exact ⟨.refl _, ‹_ ∧ _›.2⟩
    | (obtain ⟨hext₀, -⟩ := ‹b₀.Extends _ ∧ _›
       obtain ⟨hext, hs, -⟩ := ‹Builder.Extends _ _ ∧ Builder.TypesSound _ ∧ Module.DeclaresDesc _ _ _›
       first
       | exact ⟨hext₀.trans hext, hs⟩
       | exact declare_constant (hext₀.trans hext) hs (by dsimp only; decide) _)

theorem float32_sound (b₀ : Builder) (bits : Nat) :
    ⦃fun b => ⌜b₀.Extends b ∧ b.TypesSound⌝⦄ float32 bits
      ⦃⇓ _ b => ⌜b₀.Extends b ∧ b.TypesSound⌝⦄ :=
  fun b h => scalar_sound b₀ _ bits b ⟨h.1, h.2, TypeDesc.canonical_float⟩

theorem int32_sound (b₀ : Builder) (bits : Nat) :
    ⦃fun b => ⌜b₀.Extends b ∧ b.TypesSound⌝⦄ int32 bits
      ⦃⇓ _ b => ⌜b₀.Extends b ∧ b.TypesSound⌝⦄ :=
  fun b h => scalar_sound b₀ _ bits b ⟨h.1, h.2, TypeDesc.canonical_int true⟩

theorem uint32_sound (b₀ : Builder) (value : Nat) :
    ⦃fun b => ⌜b₀.Extends b ∧ b.TypesSound⌝⦄ uint32 value
      ⦃⇓ _ b => ⌜b₀.Extends b ∧ b.TypesSound⌝⦄ :=
  fun b h => scalar_sound b₀ _ value b ⟨h.1, h.2, TypeDesc.canonical_int false⟩

theorem boolean_sound (b₀ : Builder) (value : Bool) :
    ⦃fun b => ⌜b₀.Extends b ∧ b.TypesSound⌝⦄ boolean value
      ⦃⇓ _ b => ⌜b₀.Extends b ∧ b.TypesSound⌝⦄ := by
  mvcgen [boolean, typeId_sound] with
    first
    | exact ⟨.refl _, ‹_ ∧ _›.2, TypeDesc.canonical_bool⟩
    | (obtain ⟨hext₀, -⟩ := ‹b₀.Extends _ ∧ _›
       obtain ⟨hext, hs, -⟩ := ‹Builder.Extends _ _ ∧ Builder.TypesSound _ ∧ Module.DeclaresDesc _ _ _›
       first
       | exact ⟨hext₀.trans hext, hs⟩
       | exact declare_constant (hext₀.trans hext) hs (by dsimp only; split <;> decide) _)

theorem composite_sound (b₀ : Builder) (d : TypeDesc) (parts : List Nat) :
    ⦃fun b => ⌜b₀.Extends b ∧ b.TypesSound ∧ d.Canonical⌝⦄ composite d parts
      ⦃⇓ _ b => ⌜b₀.Extends b ∧ b.TypesSound⌝⦄ := by
  mvcgen [composite, typeId_sound] with
    first
    | exact ⟨.refl _, ‹_ ∧ _›.2⟩
    | (obtain ⟨hext₀, -⟩ := ‹b₀.Extends _ ∧ _›
       obtain ⟨hext, hs, -⟩ := ‹Builder.Extends _ _ ∧ Builder.TypesSound _ ∧ Module.DeclaresDesc _ _ _›
       first
       | exact ⟨hext₀.trans hext, hs⟩
       | exact declare_constant (hext₀.trans hext) hs (by dsimp only; decide) _)

theorem null_sound (b₀ : Builder) (d : TypeDesc) :
    ⦃fun b => ⌜b₀.Extends b ∧ b.TypesSound ∧ d.Canonical⌝⦄ null d
      ⦃⇓ _ b => ⌜b₀.Extends b ∧ b.TypesSound⌝⦄ := by
  mvcgen [null, typeId_sound] with
    first
    | exact ⟨.refl _, ‹_ ∧ _›.2⟩
    | (obtain ⟨hext₀, -⟩ := ‹b₀.Extends _ ∧ _›
       obtain ⟨hext, hs, -⟩ := ‹Builder.Extends _ _ ∧ Builder.TypesSound _ ∧ Module.DeclaresDesc _ _ _›
       first
       | exact ⟨hext₀.trans hext, hs⟩
       | exact declare_constant (hext₀.trans hext) hs (by dsimp only; decide) _)

/-- Mapping a step that extends the builder soundly over a list extends it soundly. -/
theorem mapM_sound {β : Type} {xs : List β} {f : β → BuildM Nat}
    (hf : ∀ (b₀ : Builder) (a : β), ⦃fun b => ⌜b₀.Extends b ∧ b.TypesSound⌝⦄ f a
      ⦃⇓ _ b => ⌜b₀.Extends b ∧ b.TypesSound⌝⦄) (b₀ : Builder) :
    ⦃fun b => ⌜b₀.Extends b ∧ b.TypesSound⌝⦄ xs.mapM f
      ⦃⇓ _ b => ⌜b₀.Extends b ∧ b.TypesSound⌝⦄ := by
  induction xs generalizing b₀ with
  | nil =>
    rw [List.mapM_nil]
    exact fun _ h => h
  | cons x xs ih =>
    rw [List.mapM_cons]
    mvcgen [hf, ih] with
      first
      | exact ⟨.refl _, ‹_ ∧ _›.2⟩
      | exact ⟨‹b₀.Extends _ ∧ _›.1.trans (‹Builder.Extends _ _ ∧ _›.1.trans ‹_ ∧ _›.1), ‹_ ∧ _›.2⟩

theorem vec4Constant_sound (b₀ : Builder) (bits : List Nat) :
    ⦃fun b => ⌜b₀.Extends b ∧ b.TypesSound⌝⦄ vec4Constant bits
      ⦃⇓ _ b => ⌜b₀.Extends b ∧ b.TypesSound⌝⦄ := by
  have parts := @mapM_sound Nat bits float32 float32_sound
  mvcgen [vec4Constant, parts, composite_sound] with
    first
    | exact ⟨.refl _, ‹_ ∧ _›.2⟩
    | exact ⟨‹b₀.Extends _ ∧ _›.1.trans ‹_ ∧ _›.1, ‹_ ∧ _›.2, TypeDesc.canonical_vec4⟩

end

end Builder

end Spirv

end ShaderBridge
