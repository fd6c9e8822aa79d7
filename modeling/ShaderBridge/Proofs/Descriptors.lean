import ShaderBridge.Proofs.ConstantBlock
import ShaderBridge.Proofs.VertexInputs

/-!
The descriptors a converted shader binds: the float constant block and each declared sampler,
where the registry puts them, and no other variable; distinct registry slots give distinct
bindings.
-/

namespace ShaderBridge

open Std.Do Spirv

/-! ### The descriptors of a stage -/

/-- What a stage binds: its float constant block, and the texture and the sampler of each
sampler register. -/
inductive Resource where
  | block
  | texture (index : Nat)
  | sampler (index : Nat)
  deriving DecidableEq, Repr

namespace ConstantRegistry

variable (R : ConstantRegistry) (stage : Stage)

/-- The descriptor of the stage's float constant block. -/
def blockDescriptor : DescriptorBinding :=
  ⟨(R.slot stage .float).set, (R.slot stage .float).binding, .uniformBuffer, stage.mask, 1⟩

/-- The descriptor of the texture of sampler `index`, of texture type `type`. -/
def textureDescriptor (index : Nat) (type : TextureType) : DescriptorBinding :=
  ⟨(R.sampler stage index).set, (R.sampler stage index).textureBinding, .sampledTexture type,
    stage.mask, 1⟩

/-- The descriptor of the sampler of sampler `index`. -/
def samplerDescriptor (index : Nat) : DescriptorBinding :=
  ⟨(R.sampler stage index).set, (R.sampler stage index).samplerBinding, .sampler, stage.mask, 1⟩

/-- The texture's and the sampler's descriptors of a declared sampler. -/
def samplerDescriptors (p : Nat × TextureType) : List DescriptorBinding :=
  [R.textureDescriptor stage p.1 p.2, R.samplerDescriptor stage p.1]

/-- The descriptor set and binding where the registry puts a resource of the stage. -/
def point : Resource → Nat × Nat
  | .block => ((R.slot stage .float).set, (R.slot stage .float).binding)
  | .texture index => ((R.sampler stage index).set, (R.sampler stage index).textureBinding)
  | .sampler index => ((R.sampler stage index).set, (R.sampler stage index).samplerBinding)

/-- The resources of a stage whose constant block is bound when `block` holds, and whose
samplers `D` are declared: the block first, then each sampler's texture and sampler. -/
def resources (block : Prop) [Decidable block] (D : List (Nat × TextureType)) : List Resource :=
  (if block then [.block] else []) ++ D.flatMap fun p => [.texture p.1, .sampler p.1]

/-- The block, and the texture and sampler of distinct samplers, are distinct resources. -/
theorem nodup_resources (block : Prop) [Decidable block] {D : List (Nat × TextureType)}
    (hD : (D.map Prod.fst).Nodup) : (resources block D).Nodup := by
  have hsamplers : (D.flatMap fun p => [Resource.texture p.1, .sampler p.1]).Nodup := by
    refine List.nodup_flatMap.2 ⟨fun _ _ => by simp, ?_⟩
    -- distinct samplers own disjoint resources
    refine (List.pairwise_map.1 hD).imp fun hne => ?_
    simp [Ne.symm hne]
  refine List.nodup_append.2 ⟨?_, hsamplers, ?_⟩
  · split <;> simp
  · intro a ha b hb hab
    split at ha <;> simp_all

/-- The (set, binding) pairs of the descriptors of a stage's block and samplers are the points of
its resources. -/
theorem points_descriptors (block : Prop) [Decidable block] (D : List (Nat × TextureType)) :
    ((if block then [R.blockDescriptor stage] else []) ++ D.flatMap (R.samplerDescriptors stage)).map
        (fun d => (d.set, d.binding)) =
      (resources block D).map (R.point stage) := by
  simp only [resources, List.map_append, List.map_flatMap]
  split <;> simp [blockDescriptor, samplerDescriptors, textureDescriptor, samplerDescriptor, point]

end ConstantRegistry

namespace Spirv.Instruction

/-- A descriptor set or binding decoration: what binds a variable to a descriptor. -/
def IsBinding (i : Instruction) : Prop :=
  i.op = Op.decorate ∧
    (i.operands[1]? = some Decoration.descriptorSet.code ∨
      i.operands[1]? = some Decoration.binding.code)

instance : DecidablePred IsBinding := fun _ => inferInstanceAs (Decidable (_ ∧ _))

/-- A decoration binds a variable exactly when it is a descriptor set or a binding. -/
@[simp] theorem isBinding_decoration (x : Nat) (d : Decoration) (operands : List Nat) :
    (Lowering.decoration x d operands).IsBinding ↔ d = .descriptorSet ∨ d = .binding := by
  cases d <;> simp [IsBinding, Lowering.decoration, Decoration.code]

/-- A member decoration binds nothing. -/
@[simp] theorem not_isBinding_memberDecorate (operands : List Nat) :
    ¬({ op := Op.memberDecorate, operands := operands } : Instruction).IsBinding := by
  simp [IsBinding, Op.memberDecorate, Op.decorate]

end Spirv.Instruction

/-- The samplers declared by `D` and then a declaration of sampler `p.1` of texture type `p.2`:
a sampler is declared by its first declaration, and a later one is ignored. -/
def addSampler (D : List (Nat × TextureType)) (p : Nat × TextureType) : List (Nat × TextureType) :=
  if p.1 ∈ D.map Prod.fst then D else D ++ [p]

/-- The sampler a declaration of a sampler register `s#` declares, with its texture type. -/
def Instruction.samplerDeclaration? : Instruction → Option (Nat × TextureType)
  | .dcl decl dst =>
    if dst.reg.file = .sampler then some (dst.reg.index, decl.textureType) else none
  | _ => none

/-- The samplers that instructions declare, in order of first declaration, each with the texture
type of its first declaration. -/
def declaredSamplers (body : List Instruction) : List (Nat × TextureType) :=
  (body.filterMap Instruction.samplerDeclaration?).foldl addSampler []

theorem declaredSamplers_append_of_none {pre : List Instruction} {ins : Instruction}
    (h : ins.samplerDeclaration? = none) : declaredSamplers (pre ++ [ins]) = declaredSamplers pre := by
  simp [declaredSamplers, List.filterMap_append, h]

theorem declaredSamplers_append_of_some {pre : List Instruction} {ins : Instruction}
    {d : Nat × TextureType} (h : ins.samplerDeclaration? = some d) :
    declaredSamplers (pre ++ [ins]) = addSampler (declaredSamplers pre) d := by
  simp [declaredSamplers, List.filterMap_append, h]

theorem Instruction.eq_dcl_of_samplerDeclaration? {ins : Instruction} {d : Nat × TextureType}
    (h : ins.samplerDeclaration? = some d) :
    ∃ decl dst, ins = .dcl decl dst ∧ d = (dst.reg.index, decl.textureType) ∧
      dst.reg.file = .sampler := by
  cases ins <;> simp only [samplerDeclaration?, reduceCtorEq] at h
  case dcl decl dst =>
    split at h
    · exact ⟨decl, dst, rfl, (Option.some.inj h).symm, ‹_›⟩
    · cases h

/-- Each sampler is declared once. -/
theorem nodup_declaredSamplers (body : List Instruction) :
    ((declaredSamplers body).map Prod.fst).Nodup := by
  -- the samplers kept stay distinct at each step of the fold
  suffices h : ∀ (ds D : List (Nat × TextureType)), (D.map Prod.fst).Nodup →
      ((ds.foldl addSampler D).map Prod.fst).Nodup from h _ [] List.nodup_nil
  intro ds
  induction ds with
  | nil => exact fun _ h => h
  | cons d ds ih =>
    intro D h
    refine ih _ ?_
    unfold addSampler
    split
    · exact h
    · rw [List.map_append, List.map_singleton, List.nodup_append]
      exact ⟨h, List.nodup_singleton _, fun a ha b hb hab => by simp_all⟩

/-! ### Binding decorations and variables while lowering -/

namespace Lowering

/-- The decorations binding variable `x` to descriptor `d`: its set and its binding. -/
def bindingsOf (x : Nat) (d : DescriptorBinding) : List Spirv.Instruction :=
  [decoration x .descriptorSet [d.set], decoration x .binding [d.binding]]

/-- The decorations binding a declared sampler's texture and sampler variables. -/
def samplerBindings (R : ConstantRegistry) (stage : Stage) (p : Nat × SamplerVars) :
    List Spirv.Instruction :=
  bindingsOf p.2.image (R.textureDescriptor stage p.1 p.2.textureType) ++
    bindingsOf p.2.sampler (R.samplerDescriptor stage p.1)

/-- The samplers of a state, in order of declaration, with their texture types. -/
def declared (s : Lowering) : List (Nat × TextureType) :=
  s.samplers.reverse.map fun p => (p.1, p.2.textureType)

/-- A sampler is among the declared ones exactly when the state has its variables. -/
theorem mem_declared_iff (s : Lowering) (index : Nat) :
    index ∈ s.declared.map Prod.fst ↔ (s.samplers.lookup index).isSome := by
  simp [declared]

/-- What binds descriptors agrees with the registry `R`, the block and the samplers `D`: recorded
descriptors, binding decorations and uniform variables. -/
structure Bound (R : ConstantRegistry) (D : List (Nat × TextureType)) (s : Lowering) : Prop where
  registry : s.registry = R
  declared : s.declared = D
  textures : s.descriptors.toList.filter (·.kind ≠ .uniformBuffer) =
    D.flatMap (s.registry.samplerDescriptors s.version.stage)
  block : s.descriptors.toList.filter (·.kind = .uniformBuffer) =
    s.floatBlock.toList.map fun _ => s.registry.blockDescriptor s.version.stage
  bindings : (s.builder.module.annotations.toList.filter (·.IsBinding)).Perm
    (s.floatBlock.toList.flatMap (bindingsOf · (s.registry.blockDescriptor s.version.stage)) ++
      s.samplers.reverse.flatMap (samplerBindings s.registry s.version.stage))
  uniform : s.builder.module.variablesOf .uniform = s.floatBlock.toList
  uniformConstant : s.builder.module.variablesOf .uniformConstant =
    s.samplers.reverse.flatMap fun p => [p.2.image, p.2.sampler]

variable {R : ConstantRegistry} {D : List (Nat × TextureType)}

/-- What binding descriptors depends on: the registry, the stage, the descriptors, the block,
the samplers, and the module's binding decorations and uniform and uniform constant variables. -/
abbrev BindingView := ConstantRegistry × Stage × Array DescriptorBinding × Option Nat ×
  List (Nat × SamplerVars) × List Spirv.Instruction × List Nat × List Nat

/-- The state's `BindingView`. -/
def bindingView (s : Lowering) : BindingView :=
  (s.registry, s.version.stage, s.descriptors, s.floatBlock, s.samplers,
    s.builder.module.annotations.toList.filter (·.IsBinding),
    s.builder.module.variablesOf .uniform, s.builder.module.variablesOf .uniformConstant)

/-- `Bound` reads what binding descriptors depends on, and nothing else. -/
theorem Bound.of_view {s s' : Lowering} (h : s.Bound R D) (hv : s'.bindingView = s.bindingView) :
    s'.Bound R D := by
  simp only [bindingView, Prod.mk.injEq] at hv
  obtain ⟨hr, hst, hd, hf, hs, ha, hu, hc⟩ := hv
  refine ⟨hr.trans h.registry, ?_, ?_, ?_, ?_, ?_, ?_⟩
  · rw [Lowering.declared, hs]
    exact h.declared
  · rw [hd, hr, hst]
    exact h.textures
  · rw [hd, hf, hr, hst]
    exact h.block
  · rw [ha, hf, hs, hr, hst]
    exact h.bindings
  · rw [hu, hf]
    exact h.uniform
  · rw [hc, hs]
    exact h.uniformConstant

/-- Declaring the float constant block where none was declared: one uniform buffer descriptor,
the block's variable as the one uniform variable, and its two binding decorations. -/
theorem Bound.addBlock {s s' : Lowering} (h : s.Bound R D) (hf : s.floatBlock = none) (x : Nat)
    (hr : s'.registry = s.registry) (hst : s'.version.stage = s.version.stage)
    (hd : s'.descriptors = s.descriptors.push (s.registry.blockDescriptor s.version.stage))
    (hf' : s'.floatBlock = some x) (hs : s'.samplers = s.samplers)
    (hb : s'.builder.module.annotations.toList.filter (·.IsBinding) =
      s.builder.module.annotations.toList.filter (·.IsBinding) ++
        bindingsOf x (s.registry.blockDescriptor s.version.stage))
    (hu : s'.builder.module.variablesOf .uniform = s.builder.module.variablesOf .uniform ++ [x])
    (hc : s'.builder.module.variablesOf .uniformConstant =
      s.builder.module.variablesOf .uniformConstant) :
    s'.Bound R D := by
  have hblock := h.block
  have hbindings := h.bindings
  have huniform := h.uniform
  rw [hf] at hblock hbindings huniform
  refine ⟨hr.trans h.registry, ?_, ?_, ?_, ?_, ?_, ?_⟩
  · rw [Lowering.declared, hs]
    exact h.declared
  · rw [hd, hr, hst, Array.toList_push, List.filter_append, h.textures]
    simp [ConstantRegistry.blockDescriptor]
  · simp [hd, hf', hr, hst, hblock, ConstantRegistry.blockDescriptor]
  · rw [hb, hf', hs, hr, hst]
    simpa using (hbindings.append_right _).trans List.perm_append_comm
  · rw [hu, hf', huniform]
    rfl
  · rw [hc, hs]
    exact h.uniformConstant

/-- Declaring sampler \x7bindex\x7d for the first time: its texture's and sampler's descriptors,
its two variables as uniform constants, and their binding decorations. -/
theorem Bound.addSampler {s s' : Lowering} (h : s.Bound R D) (index : Nat) (vars : SamplerVars)
    (hr : s'.registry = s.registry) (hst : s'.version.stage = s.version.stage)
    (hd : s'.descriptors =
      (s.descriptors.push (s.registry.textureDescriptor s.version.stage index vars.textureType)).push
        (s.registry.samplerDescriptor s.version.stage index))
    (hf : s'.floatBlock = s.floatBlock) (hs : s'.samplers = (index, vars) :: s.samplers)
    (hb : s'.builder.module.annotations.toList.filter (·.IsBinding) =
      s.builder.module.annotations.toList.filter (·.IsBinding) ++
        samplerBindings s.registry s.version.stage (index, vars))
    (hu : s'.builder.module.variablesOf .uniform = s.builder.module.variablesOf .uniform)
    (hc : s'.builder.module.variablesOf .uniformConstant =
      s.builder.module.variablesOf .uniformConstant ++ [vars.image, vars.sampler]) :
    s'.Bound R (D ++ [(index, vars.textureType)]) := by
  refine ⟨hr.trans h.registry, ?_, ?_, ?_, ?_, ?_, ?_⟩
  · simp [Lowering.declared, hs, ← h.declared]
  · rw [hd, hr, hst, Array.toList_push, Array.toList_push, List.filter_append,
      List.filter_append, h.textures]
    simp [ConstantRegistry.samplerDescriptors, ConstantRegistry.textureDescriptor,
      ConstantRegistry.samplerDescriptor]
  · simp [hd, hf, hr, hst, h.block, ConstantRegistry.textureDescriptor,
      ConstantRegistry.samplerDescriptor]
  · rw [hb, hf, hs, hr, hst]
    simpa using h.bindings.append_right _
  · rw [hu, hf]
    exact h.uniform
  · rw [hc, hs, h.uniformConstant]
    simp

end Lowering

/-- Declaring types and constants declares no variable. -/
theorem Spirv.Builder.Extends.variablesOf {b b' : Builder} (h : b.Extends b') (sc : StorageClass) :
    b'.module.variablesOf sc = b.module.variablesOf sc := by
  obtain ⟨⟨new, hd, hops⟩, -⟩ := h
  have hnone : new.filter (·.IsVariableOf sc) = [] := by
    refine List.filter_eq_nil_iff.2 fun i hi hvar => ?_
    exact absurd ((of_decide_eq_true hvar).1 ▸ hops i hi) (by decide)
  simp only [Module.variablesOf, hd, List.filter_append, hnone, List.append_nil]

namespace Spirv.Module

/-- `m'` is `m` with no binding decoration and no uniform or uniform constant variable more. -/
structure KeepsBindings (m m' : Module) : Prop where
  bindings : m'.annotations.toList.filter (·.IsBinding) = m.annotations.toList.filter (·.IsBinding)
  uniform : m'.variablesOf .uniform = m.variablesOf .uniform
  uniformConstant : m'.variablesOf .uniformConstant = m.variablesOf .uniformConstant

namespace KeepsBindings

variable {m m' : Module}

theorem refl (m : Module) : KeepsBindings m m := ⟨rfl, rfl, rfl⟩

theorem push_annotations (h : KeepsBindings m m') {i : Instruction} (hi : ¬i.IsBinding) :
    KeepsBindings m (m'.push .annotations i) :=
  ⟨by simp [push, hi, h.bindings], h.uniform, h.uniformConstant⟩

theorem push_declarations (h : KeepsBindings m m') {i : Instruction}
    (hu : ¬i.IsVariableOf .uniform) (hc : ¬i.IsVariableOf .uniformConstant) :
    KeepsBindings m (m'.push .declarations i) :=
  ⟨h.bindings, (variablesOf_push_declarations hu).trans h.uniform,
    (variablesOf_push_declarations hc).trans h.uniformConstant⟩

theorem push_names (h : KeepsBindings m m') (i : Instruction) :
    KeepsBindings m (m'.push .names i) :=
  ⟨h.bindings, h.uniform, h.uniformConstant⟩

theorem push_functions (h : KeepsBindings m m') (i : Instruction) :
    KeepsBindings m (m'.push .functions i) :=
  ⟨h.bindings, h.uniform, h.uniformConstant⟩

end KeepsBindings

end Spirv.Module

namespace Lowering

/-- A module grown by no binding decoration and no uniform or uniform constant variable keeps
what binding descriptors depends on. -/
theorem bindingView_of_keeps {s s' : Lowering}
    (hm : Module.KeepsBindings s.builder.module s'.builder.module) (hr : s'.registry = s.registry)
    (hv : s'.version = s.version) (hd : s'.descriptors = s.descriptors)
    (hf : s'.floatBlock = s.floatBlock) (hs : s'.samplers = s.samplers) :
    s'.bindingView = s.bindingView := by
  simp only [bindingView, hr, hv, hd, hf, hs, hm.bindings, hm.uniform, hm.uniformConstant]

/-- A type step keeps what binding descriptors depends on. -/
theorem bindingView_withBuilder {s : Lowering} {b : Builder} (hb : Builder.TypeStep s.builder b) :
    ({ s with builder := b } : Lowering).bindingView = s.bindingView := by
  simp only [bindingView, show b.module.annotations = _ from hb.grows.2, hb.grows.variablesOf]

section

set_option mvcgen.warning false

attribute [local irreducible] Builder.vec4Constant

attribute [local spec] declare_spec annotate_spec addName_spec

variable {stage : Stage} {v : BindingView} {R : ConstantRegistry} {D : List (Nat × TextureType)}

/-- A type step inside lowering keeps what binding descriptors depends on. -/
theorem build_viewing {α : Type} {x : BuildM α}
    (hx : ∀ b : Builder, b.module.Declared → b.TypesSound → Builder.TypeStep b (x b).2) :
    ⦃fun s => ⌜(s.Framed ∧ s.Placing stage) ∧ s.bindingView = v⌝⦄ build x
      ⦃⇓? _ s => ⌜s.bindingView = v⌝⦄ :=
  fun s ⟨⟨⟨ho, _⟩, hp⟩, h⟩ => (bindingView_withBuilder (hx s.builder ho.toDeclared hp.types)).trans h

/-- The steps that compute values keep a shader framed and placing, and what binding descriptors
depends on. -/
theorem viewing_basic (stage : Stage) (v : BindingView) :
    Basic (fun s => (s.Framed ∧ s.Placing stage) ∧ s.bindingView = v) where
  alloc := keeps_and (placing_basic stage).alloc
    (build_viewing fun _ hm hs => Builder.alloc_typeStep hm hs)
  emit i hi := keeps_and ((placing_basic stage).emit i hi) fun _ hs => hs.2
  typeId _ hd := keeps_and ((placing_basic stage).typeId _ hd)
    (build_viewing fun _ hm hs => (Builder.typeId_typeStep hm hs hd).1)
  pointerTypeId _ sc hd := keeps_and ((placing_basic stage).pointerTypeId _ sc hd)
    (build_viewing fun _ hm hs => Builder.pointerTypeId_typeStep hm hs hd sc)
  null _ hd := keeps_and ((placing_basic stage).null _ hd)
    (build_viewing fun _ hm hs => Builder.null_typeStep hm hs hd)
  float32 bits := keeps_and ((placing_basic stage).float32 bits)
    (build_viewing fun _ hm hs => Builder.float32_typeStep hm hs bits)
  int32 bits := keeps_and ((placing_basic stage).int32 bits)
    (build_viewing fun _ hm hs => Builder.int32_typeStep hm hs bits)
  vec4Constant _ hbits := keeps_and ((placing_basic stage).vec4Constant _ hbits)
    (build_viewing fun _ hm hs => Builder.vec4Constant_typeStep hm hs hbits)
  composite _ hlen := keeps_and ((placing_basic stage).composite _ hlen)
    (build_viewing fun _ hm hs => Builder.composite_typeStep hm hs TypeDesc.canonical_ivec4 hlen)
  boolean value := keeps_and ((placing_basic stage).boolean value)
    (build_viewing fun _ hm hs => Builder.boolean_typeStep hm hs value)
  bindValue reg id := keeps_and ((placing_basic stage).bindValue reg id) fun _ hs => hs.2
  markDefined s reg hs := ⟨(placing_basic stage).markDefined s reg hs.1, hs.2⟩

/-- A type step keeps the module declared, its type table sound, and what binding descriptors
depends on. -/
theorem build_typedView {α : Type} {x : BuildM α}
    (hx : ∀ b : Builder, b.module.Declared → b.TypesSound → Builder.TypeStep b (x b).2) :
    ⦃fun s => ⌜(s.builder.module.Declared ∧ s.builder.TypesSound) ∧ s.bindingView = v⌝⦄ build x
      ⦃⇓? _ s => ⌜(s.builder.module.Declared ∧ s.builder.TypesSound) ∧ s.bindingView = v⌝⦄ :=
  fun s ⟨⟨hm, hs⟩, h⟩ =>
    have hstep := hx s.builder hm hs
    ⟨⟨hstep.declared, hstep.sound⟩, (bindingView_withBuilder hstep).trans h⟩

theorem loadInput_viewing (reg : Register) :
    ⦃fun s => ⌜(s.Framed ∧ s.Placing stage) ∧ s.bindingView = v⌝⦄ loadInput reg
      ⦃⇓? _ s => ⌜(s.Framed ∧ s.Placing stage) ∧ s.bindingView = v⌝⦄ := by
  have hB := viewing_basic stage v
  have htype := hB.typeId
  have hcompute := hB.compute_keeps
  have hunpack := hB.unpackColor_keeps
  mvcgen [loadInput, htype, hcompute, hunpack] with
    first
    | simp
    | -- the variable of an input register has the type of a recorded input
      (obtain ⟨_, hmem⟩ := snd_mem_of_lookup ‹List.lookup _ _ = some _›
       exact (‹(Framed _ ∧ _) ∧ _›.1.1.2.inputs _ hmem).2.2)

/-- The variable of a register that is neither a uniform nor a uniform constant, placed by its
location or built-in, binds no descriptor. -/
theorem interfaceVariable_viewing (reg : Register) (ty : TypeDesc) (slot : InterfaceSlot)
    (hty : ty.Canonical) (hu : reg.file.storageClass ≠ .uniform)
    (hc : reg.file.storageClass ≠ .uniformConstant) :
    ⦃fun s => ⌜(s.builder.module.Declared ∧ s.builder.TypesSound) ∧ s.bindingView = v⌝⦄
      interfaceVariable reg ty slot ⦃⇓? _ s => ⌜s.bindingView = v⌝⦄ := by
  have hpointer := @build_typedView v _ (Builder.pointerTypeId ty reg.file.storageClass)
    fun _ hm hs => Builder.pointerTypeId_typeStep hm hs hty _
  have halloc : ⦃fun s => ⌜(s.builder.module.Declared ∧ s.builder.TypesSound) ∧ s.bindingView = v⌝⦄
      alloc ⦃⇓? _ s => ⌜(s.builder.module.Declared ∧ s.builder.TypesSound) ∧ s.bindingView = v⌝⦄ :=
    build_typedView fun _ hm hs => Builder.alloc_typeStep hm hs
  mvcgen [interfaceVariable, hpointer, halloc]
  rename_i s hs _
  dsimp +zetaDelta only
  refine Eq.trans ?_ hs.2
  refine bindingView_of_keeps ?_ rfl rfl rfl rfl rfl
  refine (((Module.KeepsBindings.refl _).push_declarations (Module.not_isVariableOf_var hu)
    (Module.not_isVariableOf_var hc)).push_annotations ?_).push_names _
  cases slot <;> simp

theorem createOutput_viewing (reg : Register) (ty : TypeDesc) (slot : InterfaceSlot)
    (usage : Option Usage) (hty : ty.Canonical) (hout : reg.file.isOutput) :
    ⦃fun s => ⌜(s.builder.module.Declared ∧ s.builder.TypesSound) ∧ s.bindingView = v⌝⦄
      createOutput reg ty slot usage ⦃⇓? _ s => ⌜s.bindingView = v⌝⦄ := by
  have hsc := RegisterFile.storageClass_of_isOutput hout
  have hvar := @interfaceVariable_viewing v reg ty slot hty (by rw [hsc]; decide)
    (by rw [hsc]; decide)
  mvcgen [createOutput, hvar]

/-- A framed, placing state has its module declared and its type table sound. -/
theorem typedView_of_placing {s : Lowering} (h : (s.Framed ∧ s.Placing stage) ∧ s.bindingView = v) :
    (s.builder.module.Declared ∧ s.builder.TypesSound) ∧ s.bindingView = v :=
  ⟨⟨h.1.1.1.toDeclared, h.1.2.types⟩, h.2⟩

/-- The variable of an output register binds no descriptor. -/
theorem ensureOutput_viewing (reg : Register) :
    ⦃fun s => ⌜(s.Framed ∧ s.Placing stage) ∧ s.bindingView = v⌝⦄ ensureOutput reg
      ⦃⇓? _ s => ⌜s.bindingView = v⌝⦄ := by
  have hcreate := fun ty slot (hty : TypeDesc.Canonical ty) hout =>
    @createOutput_viewing v reg ty slot none hty hout
  -- fog, point size and depth are float scalars, every other output four floats
  have hty : ∀ scalar : Prop, [Decidable scalar] →
      (if scalar then TypeDesc.float else TypeDesc.vec4).Canonical := by
    intro scalar _
    split <;> simp
  mvcgen [ensureOutput, hcreate] with
    first
    | exact hty _
    | (rw [‹reg.file = _›]; rfl)
    | exact ‹(Framed _ ∧ _) ∧ _›.2
    | exact typedView_of_placing ‹_›
    | -- the depth flag is no part of the view
      (dsimp +zetaDelta only
       exact typedView_of_placing ‹_›)

theorem declareVertexInput_viewing (reg : Register) (usage : Usage) (hfile : reg.file = .input) :
    ⦃fun s => ⌜(s.Framed ∧ s.Placing stage) ∧ s.bindingView = v⌝⦄ declareVertexInput reg usage
      ⦃⇓? _ s => ⌜s.bindingView = v⌝⦄ := by
  have hsc : reg.file.storageClass = .input := by
    rw [hfile]
    rfl
  have hvar := fun ty slot (hty : TypeDesc.Canonical ty) =>
    @interfaceVariable_viewing v reg ty slot hty (by rw [hsc]; decide) (by rw [hsc]; decide)
  have hty : ∀ packed : Bool,
      (if packed = true ∧ usage = .color then TypeDesc.uintVector 4 else TypeDesc.vec4).Canonical := by
    intro packed
    split <;> simp
  mvcgen [declareVertexInput, hvar] with
    first
    | exact hty _
    | exact ‹(Framed _ ∧ _) ∧ _›.2
    | exact typedView_of_placing ‹_›

theorem declarePixelInput_viewing (reg : Register) (usage : Usage) (index : Nat)
    (hfile : reg.file = .input ∨ reg.file = .texture) :
    ⦃fun s => ⌜(s.Framed ∧ s.Placing stage) ∧ s.bindingView = v⌝⦄
      declarePixelInput reg usage index ⦃⇓? _ s => ⌜s.bindingView = v⌝⦄ := by
  have hsc : reg.file.storageClass = .input := by
    rcases hfile with hfile | hfile <;> rw [hfile] <;> rfl
  have hvar := fun slot =>
    @interfaceVariable_viewing v reg TypeDesc.vec4 slot TypeDesc.canonical_vec4
      (by rw [hsc]; decide) (by rw [hsc]; decide)
  mvcgen [declarePixelInput, hvar] with
    first
    | exact ‹(Framed _ ∧ _) ∧ _›.2
    | exact typedView_of_placing ‹_›

theorem declareOutput_viewing (reg : Register) (usage : Usage) (index : Nat)
    (hout : reg.file.isOutput) :
    ⦃fun s => ⌜(s.Framed ∧ s.Placing stage) ∧ s.bindingView = v⌝⦄
      declareOutput reg usage index ⦃⇓? _ s => ⌜s.bindingView = v⌝⦄ := by
  have hcreate := fun ty slot (hty : TypeDesc.Canonical ty) =>
    @createOutput_viewing v reg ty slot (some usage) hty hout
  -- the point size is a float scalar, every other output four floats
  have hty : ∀ u : Usage, (if u = .pointSize then TypeDesc.float else TypeDesc.vec4).Canonical := by
    intro u
    split <;> simp
  mvcgen [declareOutput, hcreate] with
    first
    | exact hty _
    | exact ‹(Framed _ ∧ _) ∧ _›.2
    | exact typedView_of_placing ‹_›

/-- A declaration of anything but a sampler binds no descriptor. -/
theorem declare_viewing (decl : Declaration) (dst : Destination) (hfile : dst.reg.file ≠ .sampler) :
    ⦃fun s => ⌜(s.Framed ∧ s.Placing stage) ∧ s.bindingView = v⌝⦄ declare decl dst
      ⦃⇓? _ s => ⌜s.bindingView = v⌝⦄ := by
  have hvertex := fun usage hfile => @declareVertexInput_viewing stage v dst.reg usage hfile
  have hpixel := fun usage index hfile =>
    @declarePixelInput_viewing stage v dst.reg usage index hfile
  have houtput := fun usage index hout => @declareOutput_viewing stage v dst.reg usage index hout
  -- the branch of samplers is not taken
  have hsampler : ∀ index type, ⦃fun _ => ⌜False⌝⦄ declareSampler index type
      ⦃⇓? _ s => ⌜s.bindingView = v⌝⦄ := fun _ _ _ h => h.elim
  mvcgen [declare, hsampler, hvertex, hpixel, houtput] with
    first
    | exact hfile ‹_›
    | exact .inl ‹_›
    | exact .inr ‹_›
    | (rw [‹dst.reg.file = _›]; rfl)

/-- The block is declared once: where it exists nothing changes, and where it does not, its
descriptor, its variable and its two binding decorations are added. -/
theorem constantBlock_bound :
    ⦃fun s => ⌜(s.Framed ∧ s.Placing stage) ∧ s.Bound R D⌝⦄ constantBlock
      ⦃⇓? _ s => ⌜s.Bound R D⌝⦄ := by
  intro s₀ hs₀
  -- the steps before the declaration of the variable keep the starting state's view
  have hB := viewing_basic stage s₀.bindingView
  have htype := hB.typeId
  have hpointer := hB.pointerTypeId
  have halloc := hB.alloc
  have huint := fun n => keeps_and
    (@build_placing stage _ (Builder.uint32 n) fun _ hm hs => Builder.uint32_typeStep hm hs n)
    (@build_viewing stage s₀.bindingView _ (Builder.uint32 n)
      fun _ hm hs => Builder.uint32_typeStep hm hs n)
  mvcgen [constantBlock, htype, hpointer, halloc, huint]
  -- the block declared before
  · exact hs₀.2
  · exact TypeDesc.canonical_vec4
  · exact hs₀.1
  · exact TypeDesc.canonical_struct _
  · exact TypeDesc.canonical_struct _
  have hnone : s₀.floatBlock = none :=
    Option.eq_none_iff_forall_ne_some.2 fun id h =>
      ‹∀ id, _ = some id → False› id (‹s₀.floatBlock = _›.symm.trans h)
  rename_i var s hs _
  have hv := hs.2
  simp only [bindingView, Prod.mk.injEq] at hv
  obtain ⟨hr, hst, -, hf, -⟩ := hv
  dsimp +zetaDelta only
  refine (hs₀.2.of_view hs.2).addBlock (hf.trans hnone) var rfl rfl ?_ rfl rfl ?_ ?_ ?_
  · simp [ConstantRegistry.blockDescriptor, hr, hst]
  · simp [Module.push, bindingsOf, ConstantRegistry.blockDescriptor, hr, hst]
  · simp [Module.variablesOf_push_variable]
  · simp [Module.variablesOf_push_declarations
      (@Module.not_isVariableOf_var _ _ .uniform .uniformConstant (by decide))]

/-- A sampler's first declaration adds its two descriptors, variables and their bindings; a
later one changes nothing. -/
theorem declareSampler_bound (index : Nat) (type : TextureType) :
    ⦃fun s => ⌜(s.Framed ∧ s.Placing stage) ∧ s.Bound R D⌝⦄ declareSampler index type
      ⦃⇓? _ s => ⌜s.Bound R (addSampler D (index, type))⌝⦄ := by
  intro s₀ hs₀
  -- the steps before the declaration of the variables keep the starting state's view
  have hB := viewing_basic stage s₀.bindingView
  have himage := fun dim => hB.pointerTypeId (TypeDesc.image dim) StorageClass.uniformConstant
    (TypeDesc.canonical_image dim)
  have hsampler := hB.pointerTypeId TypeDesc.sampler StorageClass.uniformConstant
    TypeDesc.canonical_sampler
  have halloc := hB.alloc
  -- the loop over the two variables, unrolled
  simp only [declareSampler, List.forIn_cons, List.forIn_nil]
  mvcgen [himage, hsampler, halloc]
  -- a sampler declared before is kept
  · have hmem : index ∈ D.map Prod.fst := by
      rw [← hs₀.2.declared, mem_declared_iff]
      exact ‹_›
    rw [addSampler, if_pos hmem]
    exact hs₀.2
  · exact hs₀.1
  have hfresh : index ∉ D.map Prod.fst := by
    rw [← hs₀.2.declared, mem_declared_iff]
    exact ‹¬(s₀.samplers.lookup index).isSome = true›
  rename_i image _ _ sampler s hs _
  have hv := hs.2
  simp only [bindingView, Prod.mk.injEq] at hv
  obtain ⟨hr, hst, -⟩ := hv
  dsimp +zetaDelta only
  rw [addSampler, if_neg hfresh]
  refine (hs₀.2.of_view hs.2).addSampler index ⟨image, sampler, _⟩ rfl rfl ?_ rfl rfl ?_ ?_ ?_
  · simp [ConstantRegistry.textureDescriptor, ConstantRegistry.samplerDescriptor, hr, hst]
  · simp [Module.push, samplerBindings, bindingsOf, ConstantRegistry.textureDescriptor,
      ConstantRegistry.samplerDescriptor, hr, hst]
  · simp [Module.variablesOf_push_declarations
      (@Module.not_isVariableOf_var _ _ .uniformConstant .uniform (by decide))]
  · simp [Module.variablesOf_push_variable]

/-- A declaration of a sampler register declares that sampler. -/
theorem declare_bound_sampler (decl : Declaration) (dst : Destination)
    (hfile : dst.reg.file = .sampler) :
    ⦃fun s => ⌜(s.Framed ∧ s.Placing stage) ∧ s.Bound R D⌝⦄ declare decl dst
      ⦃⇓? _ s => ⌜s.Bound R (addSampler D (dst.reg.index, decl.textureType))⌝⦄ := by
  have hsampler := @declareSampler_bound stage R D dst.reg.index decl.textureType
  simp only [declare, hfile]
  mvcgen [hsampler]

/-- A step that keeps what binding descriptors depends on keeps `Bound`. -/
theorem keeps_bound {α : Type} {x : LowerM α} {P Q : Lowering → Prop}
    (hx : ∀ v, ⦃fun s => ⌜P s ∧ s.bindingView = v⌝⦄ x ⦃⇓? _ s => ⌜Q s ∧ s.bindingView = v⌝⦄) :
    ⦃fun s => ⌜P s ∧ s.Bound R D⌝⦄ x ⦃⇓? _ s => ⌜Q s ∧ s.Bound R D⌝⦄ := by
  intro s hs
  exact triple_weaken (hx s.bindingView) (fun _ h => ⟨h.1, hs.2.of_view h.2⟩) s ⟨hs.1, rfl⟩

/-- The steps that compute values keep a shader framed, placing and bound. -/
theorem bound_basic (stage : Stage) (R : ConstantRegistry) (D : List (Nat × TextureType)) :
    Basic (fun s => (s.Framed ∧ s.Placing stage) ∧ s.Bound R D) where
  alloc := keeps_bound fun v => (viewing_basic stage v).alloc
  emit i hi := keeps_bound fun v => (viewing_basic stage v).emit i hi
  typeId d hd := keeps_bound fun v => (viewing_basic stage v).typeId d hd
  pointerTypeId d sc hd := keeps_bound fun v => (viewing_basic stage v).pointerTypeId d sc hd
  null d hd := keeps_bound fun v => (viewing_basic stage v).null d hd
  float32 bits := keeps_bound fun v => (viewing_basic stage v).float32 bits
  int32 bits := keeps_bound fun v => (viewing_basic stage v).int32 bits
  vec4Constant bits hbits := keeps_bound fun v => (viewing_basic stage v).vec4Constant bits hbits
  composite parts hlen := keeps_bound fun v => (viewing_basic stage v).composite parts hlen
  boolean value := keeps_bound fun v => (viewing_basic stage v).boolean value
  bindValue reg id := keeps_bound fun v => (viewing_basic stage v).bindValue reg id
  markDefined s reg hs := ⟨(placing_basic stage).markDefined s reg hs.1, hs.2.of_view rfl⟩

/-- Binding descriptors is closed under the primitive steps of lowering. -/
theorem bound_closed (stage : Stage) (R : ConstantRegistry) (D : List (Nat × TextureType)) :
    Closed (fun s => (s.Framed ∧ s.Placing stage) ∧ s.Bound R D) :=
  { bound_basic stage R D with
    loadInput := fun reg => keeps_bound fun _ => loadInput_viewing reg
    constantBlock := keeps_and (placing_closed stage).constantBlock constantBlock_bound
    ensureOutput := fun reg hreg => keeps_bound fun _ =>
      keeps_and ((placing_closed stage).ensureOutput reg hreg) (ensureOutput_viewing reg) }

/-- One well formed instruction keeps a shader framed, placing and bound to the samplers declared
by the instructions before it and by itself. -/
theorem instruction_bound (pre : List Instruction) (ins : Instruction) (hins : ins.WellFormed) :
    ⦃fun s => ⌜(s.Framed ∧ s.Placing stage) ∧ s.Bound R (declaredSamplers pre)⌝⦄
      instruction ins
      ⦃⇓? _ s => ⌜(s.Framed ∧ s.Placing stage) ∧
        s.Bound R (declaredSamplers (pre ++ [ins]))⌝⦄ := by
  cases hd : ins.samplerDeclaration? with
  | some d =>
    -- a declaration of a sampler register `s#`
    obtain ⟨decl, dst, rfl, rfl, hfile⟩ := Instruction.eq_dcl_of_samplerDeclaration? hd
    rw [declaredSamplers_append_of_some hd]
    exact keeps_and (keeps_and (declare_framed decl dst hins) (declare_placing decl dst hins))
      (declare_bound_sampler decl dst hfile)
  | none =>
    rw [declaredSamplers_append_of_none hd]
    refine (bound_closed stage R _).instruction_keeps ins hins ?_
    rintro decl dst rfl hreg
    have hfile : dst.reg.file ≠ .sampler := fun hfile => by
      simp [Instruction.samplerDeclaration?, hfile] at hd
    exact keeps_bound fun _ =>
      keeps_and (keeps_and (declare_framed decl dst hreg) (declare_placing decl dst hreg))
        (declare_viewing decl dst hfile)

attribute [local spec] emit_spec addEntryPoint_spec addExecutionMode_spec

/-- Finishing a shader reads its stage, module and descriptors off a bound state. -/
theorem finish_bound :
    ⦃fun s => ⌜(s.Framed ∧ s.Placing stage) ∧ s.Bound R D⌝⦄ finish
      ⦃⇓? r s => ⌜s.Bound R D ∧ r.stage = s.version.stage ∧ r.module = s.builder.module ∧
        r.descriptors = s.descriptors.toList⌝⦄ := by
  have hstore := (bound_closed stage R D).reading.storeOutputs_keeps
  mvcgen [finish, hstore] with
    first
    | rfl
    | -- closing the function, the entry point and the execution modes bind nothing
      (obtain ⟨-, hbound⟩ := ‹(Framed _ ∧ _) ∧ _›
       exact hbound.of_view (bindingView_of_keeps ⟨rfl, rfl, rfl⟩ rfl rfl rfl rfl rfl))

/-- Lowering a shader of well formed instructions binds, to the end, the samplers its
instructions declare. -/
theorem program_bound (p : Program) (hwf : ∀ ins ∈ p.body, ins.WellFormed) :
    ⦃fun s => ⌜(s.Framed ∧ s.Placing stage) ∧ s.Bound R []⌝⦄ program p
      ⦃⇓? r s => ⌜s.Bound R (declaredSamplers p.body) ∧ r.stage = s.version.stage ∧
        r.module = s.builder.module ∧ r.descriptors = s.descriptors.toList⌝⦄ := by
  -- the instructions run one after another, each adding the sampler it declares
  have body := forM_triple
    (I := fun pre s => (s.Framed ∧ s.Placing stage) ∧ s.Bound R (declaredSamplers pre))
    (fun pre ins hins => instruction_bound pre ins (hwf ins hins)) []
  rw [List.nil_append] at body
  have hfinish := @finish_bound stage R (declaredSamplers p.body)
  mvcgen [program, body, hfinish]

end

/-- Lowering starts with no descriptor, no block, no sampler, and an opening module that binds
nothing. -/
theorem start_bound (options : Options) (registry : ConstantRegistry) (version : ShaderVersion) :
    (start options registry version).Bound registry [] where
  registry := rfl
  declared := rfl
  textures := rfl
  block := rfl
  bindings := by
    have hnone : (opening {}).2.module.annotations.toList.filter (·.IsBinding) = [] := by
      decide +kernel
    show List.Perm ((opening {}).2.module.annotations.toList.filter (·.IsBinding)) []
    rw [hnone]
  uniform := by
    show (opening {}).2.module.variablesOf .uniform = []
    decide +kernel
  uniformConstant := by
    show (opening {}).2.module.variablesOf .uniformConstant = []
    decide +kernel

end Lowering

/-- Every conversion records a texture and a sampler descriptor for each declared sampler, and the
block's exactly when a float constant read misses the `def`s, each where the registry puts it,
and binds the module's variables there alone. -/
theorem Converter.compile_descriptors {c : Converter} {tokens : Array UInt32} {shader : Shader}
    (h : c.compile tokens = .ok shader) :
    ∃ p, Program.decode tokens = .ok p ∧
      shader.descriptors.filter (·.kind ≠ .uniformBuffer) =
        (declaredSamplers p.body).flatMap (c.registry.samplerDescriptors shader.stage) ∧
      shader.descriptors.filter (·.kind = .uniformBuffer) =
        (if ReadsConstantBlock p.body then [c.registry.blockDescriptor shader.stage] else []) ∧
      (∀ d ∈ shader.descriptors, d.stages = shader.stage.mask ∧ d.count = 1) ∧
      (∃ (block : Option Nat) (samplers : List (Nat × SamplerVars)),
        (block.isSome ↔ ReadsConstantBlock p.body) ∧
        samplers.map (fun q => (q.1, q.2.textureType)) = declaredSamplers p.body ∧
        shader.module.variablesOf .uniform = block.toList ∧
        shader.module.variablesOf .uniformConstant =
          samplers.flatMap (fun q => [q.2.image, q.2.sampler]) ∧
        (shader.module.annotations.toList.filter (·.IsBinding)).Perm
          (block.toList.flatMap (Lowering.bindingsOf · (c.registry.blockDescriptor shader.stage)) ++
            samplers.flatMap (Lowering.samplerBindings c.registry shader.stage))) ∧
      (Function.Injective (c.registry.point shader.stage) →
        (shader.descriptors.map fun d => (d.set, d.binding)).Nodup) := by
  obtain ⟨p, hp, hlower⟩ := Converter.compile_eq_ok h
  obtain ⟨s, hrun⟩ := Program.lower_eq_ok hlower
  have hwf := Program.decode_wellFormed hp
  obtain ⟨hbound, hstage, hmodule, hdescriptors⟩ := Lowering.triple_run
    (Lowering.program_bound p hwf)
    ⟨⟨Lowering.start_framed _ _ _, Lowering.start_placing _ _ _⟩, Lowering.start_bound _ _ _⟩ hrun
  have hblock := Lowering.triple_run (Lowering.program_tracksBlock p hwf)
    ⟨Lowering.start_framed _ _ _, Lowering.start_tracksBlock _ _ _⟩ hrun
  -- the descriptors and the module are read off the final state, of the converter's registry
  have htextures := hbound.textures
  have huniform := hbound.block
  have hbindings := hbound.bindings
  rw [hbound.registry, ← hstage, ← hdescriptors] at htextures huniform
  rw [hbound.registry, ← hstage, ← hmodule] at hbindings
  -- the block's descriptor is recorded exactly when the program reads the block
  have hbuffer : shader.descriptors.filter (·.kind = .uniformBuffer) =
      (if ReadsConstantBlock p.body then [c.registry.blockDescriptor shader.stage] else []) := by
    rw [huniform]
    cases hf : s.floatBlock with
    | none => simp [← hblock, hf]
    | some x => simp [← hblock, hf]
  refine ⟨p, hp, htextures, hbuffer, ?_, ⟨s.floatBlock, s.samplers.reverse, hblock, ?_,
    hmodule ▸ hbound.uniform, hmodule ▸ hbound.uniformConstant, hbindings⟩, ?_⟩
  · intro d hd
    by_cases hkind : d.kind = .uniformBuffer
    · have hmem : d ∈ shader.descriptors.filter (·.kind = .uniformBuffer) :=
        List.mem_filter.2 ⟨hd, decide_eq_true hkind⟩
      rw [hbuffer] at hmem
      split at hmem <;> simp_all [ConstantRegistry.blockDescriptor]
    · have hmem : d ∈ shader.descriptors.filter (·.kind ≠ .uniformBuffer) :=
        List.mem_filter.2 ⟨hd, decide_eq_true hkind⟩
      rw [htextures] at hmem
      obtain ⟨q, -, hq⟩ := List.mem_flatMap.1 hmem
      simp only [ConstantRegistry.samplerDescriptors, List.mem_cons, List.not_mem_nil,
        or_false] at hq
      rcases hq with rfl | rfl <;>
        simp [ConstantRegistry.textureDescriptor, ConstantRegistry.samplerDescriptor]
  · rw [← hbound.declared]
    rfl
  · -- the descriptors are, up to order, those of the block and of the declared samplers
    intro hR
    have hperm := List.filter_append_perm
      (fun d : DescriptorBinding => decide (d.kind = .uniformBuffer)) shader.descriptors
    simp only [← decide_not] at hperm
    rw [hbuffer, htextures] at hperm
    refine ((hperm.map fun d => (d.set, d.binding)).nodup_iff).1 ?_
    rw [ConstantRegistry.points_descriptors]
    exact (ConstantRegistry.nodup_resources _ (nodup_declaredSamplers p.body)).map hR

/-- A model 2 pixel shader that declares the 2D sampler `s0` converts under the standard layout,
with the descriptors and bindings of its sampler. -/
theorem Converter.compile_descriptors_sampler :
    ∃ shader, Converter.compile {} #[0xFFFF0200, 0x0200001F, 0x90000000, 0xA00F0800, 0x0000FFFF] =
        .ok shader ∧
      ∃ p, Program.decode #[0xFFFF0200, 0x0200001F, 0x90000000, 0xA00F0800, 0x0000FFFF] = .ok p ∧
        shader.descriptors.filter (·.kind ≠ .uniformBuffer) =
          (declaredSamplers p.body).flatMap
            (({} : Converter).registry.samplerDescriptors shader.stage) ∧
        shader.descriptors.filter (·.kind = .uniformBuffer) =
          (if ReadsConstantBlock p.body then
            [({} : Converter).registry.blockDescriptor shader.stage] else []) ∧
        (∀ d ∈ shader.descriptors, d.stages = shader.stage.mask ∧ d.count = 1) ∧
        (∃ (block : Option Nat) (samplers : List (Nat × SamplerVars)),
          (block.isSome ↔ ReadsConstantBlock p.body) ∧
          samplers.map (fun q => (q.1, q.2.textureType)) = declaredSamplers p.body ∧
          shader.module.variablesOf .uniform = block.toList ∧
          shader.module.variablesOf .uniformConstant =
            samplers.flatMap (fun q => [q.2.image, q.2.sampler]) ∧
          (shader.module.annotations.toList.filter (·.IsBinding)).Perm
            (block.toList.flatMap
                (Lowering.bindingsOf · (({} : Converter).registry.blockDescriptor shader.stage)) ++
              samplers.flatMap (Lowering.samplerBindings ({} : Converter).registry shader.stage))) ∧
        (Function.Injective (({} : Converter).registry.point shader.stage) →
          (shader.descriptors.map fun d => (d.set, d.binding)).Nodup) := by
  have hok : (Converter.compile {}
      #[0xFFFF0200, 0x0200001F, 0x90000000, 0xA00F0800, 0x0000FFFF]).toBool = true := by
    decide +kernel
  obtain ⟨shader, hc⟩ : ∃ shader, Converter.compile {}
      #[0xFFFF0200, 0x0200001F, 0x90000000, 0xA00F0800, 0x0000FFFF] = .ok shader := by
    cases hc : Converter.compile {} #[0xFFFF0200, 0x0200001F, 0x90000000, 0xA00F0800, 0x0000FFFF] with
    | error e => simp [hc, Except.toBool] at hok
    | ok shader => exact ⟨shader, rfl⟩
  exact ⟨shader, hc, Converter.compile_descriptors hc⟩

end ShaderBridge
