import ShaderBridge.Proofs.EntryInterface

/-!
Invariants of the module builder: a property every building step keeps holds throughout
lowering, and of the module a program lowers to.
-/

namespace ShaderBridge

open Std.Do Spirv

namespace Spirv.Builder

/-- `I` is kept by the steps of module building that lowering takes: handing out an id,
appending an instruction to a section other than the declarations, declaring a variable, and
asking for the types and constants lowering asks for. -/
structure Kept (I : Builder → Prop) : Prop where
  bump : ∀ b, I b → I { b with module := b.module.bump }
  push : ∀ b sec i, sec ≠ .declarations → I b → I { b with module := b.module.push sec i }
  pushVariable : ∀ b i, i.op = Op.var → I b → I { b with module := b.module.push .declarations i }
  typeId : ∀ d, d.Canonical → ⦃fun b => ⌜I b⌝⦄ typeId d ⦃⇓ _ b => ⌜I b⌝⦄
  scalar : ∀ d bits, d.Canonical → ⦃fun b => ⌜I b⌝⦄ scalar d bits ⦃⇓ _ b => ⌜I b⌝⦄
  boolean : ∀ value, ⦃fun b => ⌜I b⌝⦄ boolean value ⦃⇓ _ b => ⌜I b⌝⦄
  composite : ∀ d parts, d.Canonical → ⦃fun b => ⌜I b⌝⦄ composite d parts ⦃⇓ _ b => ⌜I b⌝⦄
  null : ∀ d, d.Canonical → ⦃fun b => ⌜I b⌝⦄ null d ⦃⇓ _ b => ⌜I b⌝⦄

namespace Kept

/-- Two properties that module building keeps are kept together: its steps are deterministic. -/
theorem and {I J : Builder → Prop} (hI : Kept I) (hJ : Kept J) : Kept fun b => I b ∧ J b where
  bump b h := ⟨hI.bump b h.1, hJ.bump b h.2⟩
  push b sec i hsec h := ⟨hI.push b sec i hsec h.1, hJ.push b sec i hsec h.2⟩
  pushVariable b i hi h := ⟨hI.pushVariable b i hi h.1, hJ.pushVariable b i hi h.2⟩
  typeId d hd := triple_of_run fun b h =>
    ⟨run_of_triple (hI.typeId d hd) b h.1, run_of_triple (hJ.typeId d hd) b h.2⟩
  scalar d bits hd := triple_of_run fun b h =>
    ⟨run_of_triple (hI.scalar d bits hd) b h.1, run_of_triple (hJ.scalar d bits hd) b h.2⟩
  boolean value := triple_of_run fun b h =>
    ⟨run_of_triple (hI.boolean value) b h.1, run_of_triple (hJ.boolean value) b h.2⟩
  composite d parts hd := triple_of_run fun b h =>
    ⟨run_of_triple (hI.composite d parts hd) b h.1, run_of_triple (hJ.composite d parts hd) b h.2⟩
  null d hd := triple_of_run fun b h =>
    ⟨run_of_triple (hI.null d hd) b h.1, run_of_triple (hJ.null d hd) b h.2⟩

section

set_option mvcgen.warning false

variable {I : Builder → Prop} (hI : Kept I)
include hI

theorem keeps_alloc : ⦃fun b => ⌜I b⌝⦄ alloc ⦃⇓ _ b => ⌜I b⌝⦄ :=
  triple_of_run fun b hb => hI.bump b hb

theorem keeps_declare (i : Instruction) (hi : i.op = Op.var) :
    ⦃fun b => ⌜I b⌝⦄ declare i ⦃⇓ _ b => ⌜I b⌝⦄ :=
  triple_of_run fun b hb => hI.pushVariable b i hi hb

theorem keeps_annotate (i : Instruction) : ⦃fun b => ⌜I b⌝⦄ annotate i ⦃⇓ _ b => ⌜I b⌝⦄ :=
  triple_of_run fun b hb => hI.push b .annotations i (by decide) hb

theorem keeps_addName (i : Instruction) : ⦃fun b => ⌜I b⌝⦄ addName i ⦃⇓ _ b => ⌜I b⌝⦄ :=
  triple_of_run fun b hb => hI.push b .names i (by decide) hb

theorem keeps_emit (i : Instruction) : ⦃fun b => ⌜I b⌝⦄ emit i ⦃⇓ _ b => ⌜I b⌝⦄ :=
  triple_of_run fun b hb => hI.push b .functions i (by decide) hb

theorem keeps_addEntryPoint (i : Instruction) :
    ⦃fun b => ⌜I b⌝⦄ addEntryPoint i ⦃⇓ _ b => ⌜I b⌝⦄ :=
  triple_of_run fun b hb => hI.push b .entryPoints i (by decide) hb

theorem keeps_addExecutionMode (i : Instruction) :
    ⦃fun b => ⌜I b⌝⦄ addExecutionMode i ⦃⇓ _ b => ⌜I b⌝⦄ :=
  triple_of_run fun b hb => hI.push b .executionModes i (by decide) hb

theorem keeps_pointerTypeId (d : TypeDesc) (sc : StorageClass) (hd : d.Canonical) :
    ⦃fun b => ⌜I b⌝⦄ pointerTypeId d sc ⦃⇓ _ b => ⌜I b⌝⦄ := by
  have htype := hI.typeId
  mvcgen [pointerTypeId, htype] with
    first
    | exact hd
    | exact fun _ _ => TypeDesc.canonical_pointer _ _

theorem keeps_float32 (bits : Nat) : ⦃fun b => ⌜I b⌝⦄ float32 bits ⦃⇓ _ b => ⌜I b⌝⦄ :=
  hI.scalar _ bits TypeDesc.canonical_float

theorem keeps_int32 (bits : Nat) : ⦃fun b => ⌜I b⌝⦄ int32 bits ⦃⇓ _ b => ⌜I b⌝⦄ :=
  hI.scalar _ bits (TypeDesc.canonical_int true)

theorem keeps_uint32 (value : Nat) : ⦃fun b => ⌜I b⌝⦄ uint32 value ⦃⇓ _ b => ⌜I b⌝⦄ :=
  hI.scalar _ value (TypeDesc.canonical_int false)

theorem keeps_vec4Constant (bits : List Nat) :
    ⦃fun b => ⌜I b⌝⦄ vec4Constant bits ⦃⇓ _ b => ⌜I b⌝⦄ := by
  have hparts := mapM_length (hI.keeps_float32) bits
  have hcomposite := hI.composite
  mvcgen [vec4Constant, hparts, hcomposite] with
    first
    | exact ‹_ ∧ I _›.2
    | exact fun _ _ _ => TypeDesc.canonical_vec4

end

end Kept

end Spirv.Builder

namespace Lowering

section

set_option mvcgen.warning false

-- Constant vectors are known by their specifications only.
attribute [local irreducible] Builder.vec4Constant

variable {I : Builder → Prop}

/-- A step that keeps the state framed, and keeps a property of the builder, keeps both. -/
theorem framed_kept {α : Type} {x : LowerM α}
    (hframed : ⦃fun s => ⌜s.Framed⌝⦄ x ⦃⇓? _ s => ⌜s.Framed⌝⦄)
    (hx : ⦃fun s => ⌜I s.builder⌝⦄ x ⦃⇓? _ s => ⌜I s.builder⌝⦄) :
    ⦃fun s => ⌜s.Framed ∧ I s.builder⌝⦄ x ⦃⇓? _ s => ⌜s.Framed ∧ I s.builder⌝⦄ :=
  keeps_and hframed fun s hs => hx s hs.2

/-- Binding a defined register leaves the builder as it is. -/
theorem bindDefined_builds (reg : Register) (id : Nat) :
    ⦃fun s => ⌜I s.builder⌝⦄ bindDefined reg id ⦃⇓? _ s => ⌜I s.builder⌝⦄ := by
  mvcgen [bindDefined, bindValue] with
    (simp +zetaDelta only []
     split <;> exact ‹I _›)

variable (hI : Builder.Kept I)
include hI

/-! ### The steps that append to the module -/

theorem alloc_builds : ⦃fun s => ⌜I s.builder⌝⦄ alloc ⦃⇓? _ s => ⌜I s.builder⌝⦄ :=
  build_keeps hI.keeps_alloc

theorem emit_builds (i : Spirv.Instruction) :
    ⦃fun s => ⌜I s.builder⌝⦄ emit i ⦃⇓? _ s => ⌜I s.builder⌝⦄ :=
  build_keeps (hI.keeps_emit i)

theorem declareVariable_builds (i : Spirv.Instruction) (hi : i.op = Op.var) :
    ⦃fun s => ⌜I s.builder⌝⦄ build (Builder.declare i) ⦃⇓? _ s => ⌜I s.builder⌝⦄ :=
  build_keeps (hI.keeps_declare i hi)

theorem annotate_builds (i : Spirv.Instruction) :
    ⦃fun s => ⌜I s.builder⌝⦄ build (Builder.annotate i) ⦃⇓? _ s => ⌜I s.builder⌝⦄ :=
  build_keeps (hI.keeps_annotate i)

theorem addName_builds (i : Spirv.Instruction) :
    ⦃fun s => ⌜I s.builder⌝⦄ build (Builder.addName i) ⦃⇓? _ s => ⌜I s.builder⌝⦄ :=
  build_keeps (hI.keeps_addName i)

theorem pointerTypeId_builds (d : TypeDesc) (sc : StorageClass) (hd : d.Canonical) :
    ⦃fun s => ⌜I s.builder⌝⦄ build (Builder.pointerTypeId d sc) ⦃⇓? _ s => ⌜I s.builder⌝⦄ :=
  build_keeps (hI.keeps_pointerTypeId d sc hd)

/-- A kept property of the builder is kept, with the frame, by the steps of lowering that
compute values. -/
theorem kept_basic : Basic fun s => s.Framed ∧ I s.builder where
  alloc := framed_kept framed_basic.alloc (alloc_builds hI)
  emit i hi := framed_kept (framed_basic.emit i hi) (emit_builds hI i)
  typeId d hd := framed_kept (framed_basic.typeId d hd) (build_keeps (hI.typeId d hd))
  pointerTypeId d sc hd :=
    framed_kept (framed_basic.pointerTypeId d sc hd) (pointerTypeId_builds hI d sc hd)
  null d hd := framed_kept (framed_basic.null d hd) (build_keeps (hI.null d hd))
  float32 bits := framed_kept (framed_basic.float32 bits) (build_keeps (hI.keeps_float32 bits))
  int32 bits := framed_kept (framed_basic.int32 bits) (build_keeps (hI.keeps_int32 bits))
  vec4Constant bits hbits :=
    framed_kept (framed_basic.vec4Constant bits hbits) (build_keeps (hI.keeps_vec4Constant bits))
  composite parts hlen := framed_kept (framed_basic.composite parts hlen)
    (build_keeps (hI.composite TypeDesc.ivec4 parts TypeDesc.canonical_ivec4))
  boolean value := framed_kept (framed_basic.boolean value) (build_keeps (hI.boolean value))
  bindValue _ _ := fun _ hs => hs
  markDefined _ _ hs := hs

theorem loadInput_kept (reg : Register) :
    ⦃fun s => ⌜s.Framed ∧ I s.builder⌝⦄ loadInput reg ⦃⇓? _ s => ⌜s.Framed ∧ I s.builder⌝⦄ := by
  have htype := (kept_basic hI).typeId
  have hcompute := (kept_basic hI).compute_keeps
  have hunpack := (kept_basic hI).unpackColor_keeps
  mvcgen [loadInput, htype, hcompute, hunpack] with
    first
    | simp
    | -- the variable of an input register has the type of a recorded input
      (obtain ⟨_, hmem⟩ := snd_mem_of_lookup ‹List.lookup _ _ = some _›
       exact (‹Framed _ ∧ _›.1.2.inputs _ hmem).2.2)

/-! ### The steps that declare variables

They ask for types that are canonical whatever the state, so they keep a kept property of the
builder on their own, and the frame comes from the lemmas that keep it. -/

theorem constantBlock_builds :
    ⦃fun s => ⌜I s.builder⌝⦄ constantBlock ⦃⇓? _ s => ⌜I s.builder⌝⦄ := by
  have htype := fun d hd => build_keeps (hI.typeId d hd)
  have huint := fun value => build_keeps (hI.keeps_uint32 value)
  have hpointer := pointerTypeId_builds hI
  have halloc := alloc_builds hI
  have hdeclare := declareVariable_builds hI
  have hannotate := annotate_builds hI
  have hname := addName_builds hI
  mvcgen [constantBlock, typeId, htype, hpointer, halloc, huint, hdeclare, hannotate, hname] with
    simp +zetaDelta

theorem interfaceVariable_builds (reg : Register) (ty : TypeDesc) (slot : InterfaceSlot)
    (hty : ty.Canonical) :
    ⦃fun s => ⌜I s.builder⌝⦄ interfaceVariable reg ty slot ⦃⇓? _ s => ⌜I s.builder⌝⦄ := by
  have hpointer := pointerTypeId_builds hI
  have halloc := alloc_builds hI
  have hdeclare := declareVariable_builds hI
  have hannotate := annotate_builds hI
  have hname := addName_builds hI
  mvcgen [interfaceVariable, hpointer, halloc, hdeclare, hannotate, hname]

theorem createOutput_builds (reg : Register) (ty : TypeDesc) (slot : InterfaceSlot)
    (usage : Option Usage) (hty : ty.Canonical) :
    ⦃fun s => ⌜I s.builder⌝⦄ createOutput reg ty slot usage ⦃⇓? _ s => ⌜I s.builder⌝⦄ := by
  have hvar := interfaceVariable_builds hI reg ty slot hty
  mvcgen [createOutput, hvar]

theorem ensureOutput_builds (reg : Register) :
    ⦃fun s => ⌜I s.builder⌝⦄ ensureOutput reg ⦃⇓? _ s => ⌜I s.builder⌝⦄ := by
  have hcreate := fun ty slot hty => createOutput_builds hI reg ty slot none hty
  mvcgen [ensureOutput, hcreate] with
    simp +zetaDelta [apply_ite TypeDesc.Canonical]

theorem declareSampler_builds (index : Nat) (type : TextureType) :
    ⦃fun s => ⌜I s.builder⌝⦄ declareSampler index type ⦃⇓? _ s => ⌜I s.builder⌝⦄ := by
  have hpointer := pointerTypeId_builds hI
  have halloc := alloc_builds hI
  have hdeclare := declareVariable_builds hI
  have hannotate := annotate_builds hI
  have hname := addName_builds hI
  -- the loop over the two variables, unrolled
  simp only [declareSampler, List.forIn_cons, List.forIn_nil]
  mvcgen [hpointer, halloc, hdeclare, hannotate, hname] with
    simp

theorem declare_builds (decl : Declaration) (dst : Destination) :
    ⦃fun s => ⌜I s.builder⌝⦄ declare decl dst ⦃⇓? _ s => ⌜I s.builder⌝⦄ := by
  have hvar := interfaceVariable_builds hI dst.reg
  have hcreate := createOutput_builds hI dst.reg
  have hsampler := declareSampler_builds hI
  mvcgen [declare, declareVertexInput, declarePixelInput, declareOutput, hvar, hcreate, hsampler]
    with simp +zetaDelta [apply_ite TypeDesc.Canonical]

/-- A kept property of the builder is closed, with the frame, under the primitive steps of
lowering. -/
theorem kept_closed : Closed fun s => s.Framed ∧ I s.builder :=
  { kept_basic hI with
    loadInput := loadInput_kept hI
    constantBlock := framed_kept constantBlock_framed (constantBlock_builds hI)
    ensureOutput := fun reg hreg => framed_kept (ensureOutput_framed reg hreg)
      (ensureOutput_builds hI reg) }

/-- Ending the function and adding the entry point and its modes from a framed state keeps a kept
property of the builder, and the shader's module is the builder's. -/
theorem finish_kept :
    ⦃fun s => ⌜s.Framed ∧ I s.builder⌝⦄ finish
      ⦃⇓? r s => ⌜I s.builder ∧ s.builder.module = r.module⌝⦄ := by
  have hstore := (kept_closed hI).reading.storeOutputs_keeps
  have hemit := emit_builds hI
  have hentry := fun i => build_keeps (hI.keeps_addEntryPoint i)
  have hmode := fun i => build_keeps (hI.keeps_addExecutionMode i)
  mvcgen [finish, hstore, hemit, hentry, hmode] with
    exact ‹_ ∧ I _›.2

/-- Lowering a well formed instruction from a framed state keeps a kept property of the builder
with the frame. -/
theorem instruction_kept (ins : Instruction) (hins : ins.WellFormed) :
    ⦃fun s => ⌜s.Framed ∧ I s.builder⌝⦄ instruction ins ⦃⇓? _ s => ⌜s.Framed ∧ I s.builder⌝⦄ :=
  (kept_closed hI).instruction_keeps ins hins
    (fun decl dst _ hreg => framed_kept (declare_framed decl dst hreg) (declare_builds hI decl dst))

end

end Lowering

end ShaderBridge
