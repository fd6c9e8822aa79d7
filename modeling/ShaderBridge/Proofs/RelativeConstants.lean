import ShaderBridge.Proofs.Evaluation

/-!
What a read of a float constant register computes. A relative read `c[a0.k + n]` yields the
`def` of the register the clamped address names, or else its element of the constant block; a
static read of `c[n]` yields the same at address `0`.
-/

namespace ShaderBridge

open Std.Do Spirv Spirv.Module

/-! ### Steps that continue the module -/

namespace Spirv.Module.Continues

variable {m₀ m : Module}

/-- Appending to any section continues a module: only the declarations and the function are
read, and both grow at their end. -/
theorem push (h : m₀.Continues m) (sec : Section) (i : Instruction) : m₀.Continues (m.push sec i) := by
  cases sec with
  | declarations =>
    refine ⟨h.declarations.trans ?_, h.functions⟩
    simp only [Module.push, Array.toList_push]
    exact List.prefix_append _ _
  | functions =>
    refine ⟨h.declarations, h.functions.trans ?_⟩
    simp only [Module.push, Array.toList_push]
    exact List.prefix_append _ _
  | _ => exact ⟨h.declarations, h.functions⟩

theorem bump (h : m₀.Continues m) : m₀.Continues m.bump := ⟨h.declarations, h.functions⟩

end Spirv.Module.Continues

namespace Spirv.Builder

variable {α : Type} {m₀ : Module}

/-- A building step that keeps the sections after the declarations of an opened module, and only
appends declarations, continues the module. -/
theorem continues_of_declared {x : BuildM α}
    {Pre : Array Instruction × Array Instruction × Array Instruction → Builder → Prop}
    (h : ∀ after, ⦃fun b => ⌜Pre after b⌝⦄ x ⦃⇓ _ b => ⌜b.module.DeclaredWith after⌝⦄)
    (hpre : ∀ b, b.module.Opened → Pre b.module.afterDeclarations b)
    (hgrow : ∀ l, ⦃fun b => ⌜l <+: b.module.declarations.toList⌝⦄ x
      ⦃⇓ _ b => ⌜l <+: b.module.declarations.toList⌝⦄) :
    ⦃fun b => ⌜b.module.Opened ∧ m₀.Continues b.module⌝⦄ x ⦃⇓ _ b => ⌜m₀.Continues b.module⌝⦄ :=
  triple_of_run fun b ⟨hopen, hm⟩ => by
    have hafter := (run_of_triple (h b.module.afterDeclarations) b (hpre b hopen)).2
    have hdecl := run_of_triple (hgrow b.module.declarations.toList) b (List.prefix_refl _)
    -- the function body is the last of the sections after the declarations
    have hfun : (x b).2.module.functions = b.module.functions := congrArg (·.2.2) hafter
    exact hm.trans ⟨hdecl, by rw [hfun]⟩

theorem alloc_continues :
    ⦃fun b => ⌜b.module.Opened ∧ m₀.Continues b.module⌝⦄ alloc ⦃⇓ _ b => ⌜m₀.Continues b.module⌝⦄ :=
  triple_of_run fun _ h => h.2.bump

theorem emit_continues (i : Instruction) :
    ⦃fun b => ⌜b.module.Opened ∧ m₀.Continues b.module⌝⦄ emit i
      ⦃⇓ _ b => ⌜m₀.Continues b.module⌝⦄ :=
  triple_of_run fun _ h => h.2.push .functions i

theorem typeId_continues (d : TypeDesc) (hd : d.Canonical) :
    ⦃fun b => ⌜b.module.Opened ∧ m₀.Continues b.module⌝⦄ typeId d
      ⦃⇓ _ b => ⌜m₀.Continues b.module⌝⦄ :=
  continues_of_declared (typeId_declared · d) (fun _ hb => ⟨⟨hb.toDeclared, rfl⟩, hd⟩)
    fun l => (growing_kept l).typeId d hd

theorem pointerTypeId_continues (d : TypeDesc) (sc : StorageClass) (hd : d.Canonical) :
    ⦃fun b => ⌜b.module.Opened ∧ m₀.Continues b.module⌝⦄ pointerTypeId d sc
      ⦃⇓ _ b => ⌜m₀.Continues b.module⌝⦄ :=
  continues_of_declared (pointerTypeId_declared · d sc) (fun _ hb => ⟨⟨hb.toDeclared, rfl⟩, hd⟩)
    fun l => (growing_kept l).keeps_pointerTypeId d sc hd

theorem null_continues (d : TypeDesc) (hd : d.Canonical) :
    ⦃fun b => ⌜b.module.Opened ∧ m₀.Continues b.module⌝⦄ null d
      ⦃⇓ _ b => ⌜m₀.Continues b.module⌝⦄ :=
  continues_of_declared (null_declared · d) (fun _ hb => ⟨⟨hb.toDeclared, rfl⟩, hd⟩)
    fun l => (growing_kept l).null d hd

theorem float32_continues (bits : Nat) :
    ⦃fun b => ⌜b.module.Opened ∧ m₀.Continues b.module⌝⦄ float32 bits
      ⦃⇓ _ b => ⌜m₀.Continues b.module⌝⦄ :=
  continues_of_declared (float32_declared · bits) (fun _ hb => ⟨hb.toDeclared, rfl⟩)
    fun l => (growing_kept l).keeps_float32 bits

theorem int32_continues (bits : Nat) :
    ⦃fun b => ⌜b.module.Opened ∧ m₀.Continues b.module⌝⦄ int32 bits
      ⦃⇓ _ b => ⌜m₀.Continues b.module⌝⦄ :=
  continues_of_declared (int32_declared · bits) (fun _ hb => ⟨hb.toDeclared, rfl⟩)
    fun l => (growing_kept l).keeps_int32 bits

theorem uint32_continues (value : Nat) :
    ⦃fun b => ⌜b.module.Opened ∧ m₀.Continues b.module⌝⦄ uint32 value
      ⦃⇓ _ b => ⌜m₀.Continues b.module⌝⦄ :=
  continues_of_declared (uint32_declared · value) (fun _ hb => ⟨hb.toDeclared, rfl⟩)
    fun l => (growing_kept l).keeps_uint32 value

/-- The 32-bit integer constant asked for from a pooled builder is declared as a constant of the
signed integer type. -/
theorem int32_scalarConstant (bits : Nat) {b : Builder} (h : b.Pooled) :
    (int32 bits b).2.Pooled ∧
      (int32 bits b).2.module.ScalarConstant Op.typeInt [32, 1] (int32 bits b).1 bits := by
  obtain ⟨h', c, hc, hl⟩ := run_of_triple
    (scalar_pooled (d := TypeDesc.int true) (k := .int 1) rfl trivial bits) b h
  exact ⟨h', h'.scalarConstant (by decide) hc hl⟩

theorem vec4Constant_continues (bits : List Nat) (hbits : bits.length = 4) :
    ⦃fun b => ⌜b.module.Opened ∧ m₀.Continues b.module⌝⦄ vec4Constant bits
      ⦃⇓ _ b => ⌜m₀.Continues b.module⌝⦄ :=
  continues_of_declared (vec4Constant_declared · bits) (fun _ hb => ⟨⟨hb.toDeclared, rfl⟩, hbits⟩)
    fun l => (growing_kept l).keeps_vec4Constant bits

theorem composite_continues (parts : List Nat) (hlen : parts.length ≤ 4) :
    ⦃fun b => ⌜b.module.Opened ∧ m₀.Continues b.module⌝⦄ composite TypeDesc.ivec4 parts
      ⦃⇓ _ b => ⌜m₀.Continues b.module⌝⦄ :=
  continues_of_declared (composite_declared · TypeDesc.ivec4 parts)
    (fun _ hb => ⟨⟨hb.toDeclared, rfl⟩, by simp, hlen⟩)
    fun l => (growing_kept l).composite TypeDesc.ivec4 parts TypeDesc.canonical_ivec4

theorem boolean_continues (value : Bool) :
    ⦃fun b => ⌜b.module.Opened ∧ m₀.Continues b.module⌝⦄ boolean value
      ⦃⇓ _ b => ⌜m₀.Continues b.module⌝⦄ :=
  continues_of_declared (boolean_declared · value) (fun _ hb => ⟨hb.toDeclared, rfl⟩)
    fun l => (growing_kept l).boolean value

end Spirv.Builder

/-- The index that a relative read `c[a0.k + n]`, of a stage with `count` float constant
registers, computes where component `k` of `a0` holds `a`: `SClamp(a + n, 0, count - 1)`, the
sum wrapping at 32 bits and the clamp signed. -/
def relativeIndex (a : BitVec 32) (n count : Nat) : BitVec 32 :=
  sClamp (a + BitVec.ofNat 32 n) 0 (BitVec.ofNat 32 (count - 1))

namespace Lowering

/-- The state of a read: framed, with pools that account for its module, and a module that
continues `m₀`. -/
def Continuing (m₀ : Module) (s : Lowering) : Prop :=
  (s.Framed ∧ s.builder.Pooled) ∧ m₀.Continues s.builder.module

variable {α : Type} {m₀ : Module}

theorem Continuing.continues {s : Lowering} (h : Continuing m₀ s) :
    m₀.Continues s.builder.module :=
  h.2

/-- A building step that continues an opened module continues the module of a framed state. -/
theorem build_continuing {x : BuildM α}
    (hframed : ⦃fun s => ⌜s.Framed ∧ s.builder.Pooled⌝⦄ build x
      ⦃⇓? _ s => ⌜s.Framed ∧ s.builder.Pooled⌝⦄)
    (hx : ⦃fun b => ⌜b.module.Opened ∧ m₀.Continues b.module⌝⦄ x
      ⦃⇓ _ b => ⌜m₀.Continues b.module⌝⦄) :
    ⦃fun s => ⌜Continuing m₀ s⌝⦄ build x ⦃⇓? _ s => ⌜Continuing m₀ s⌝⦄ :=
  keeps_and hframed fun s hs => hx s.builder ⟨hs.1.1.1, hs.2⟩

/-- The steps that compute values keep a read's state. -/
theorem continuing_basic (m₀ : Module) : Basic (Continuing m₀) where
  alloc := build_continuing (kept_basic Builder.pooled_kept).alloc Builder.alloc_continues
  emit i hi := build_continuing ((kept_basic Builder.pooled_kept).emit i hi) (Builder.emit_continues i)
  typeId d hd := build_continuing ((kept_basic Builder.pooled_kept).typeId d hd)
    (Builder.typeId_continues d hd)
  pointerTypeId d sc hd := build_continuing ((kept_basic Builder.pooled_kept).pointerTypeId d sc hd)
    (Builder.pointerTypeId_continues d sc hd)
  null d hd := build_continuing ((kept_basic Builder.pooled_kept).null d hd) (Builder.null_continues d hd)
  float32 bits := build_continuing ((kept_basic Builder.pooled_kept).float32 bits)
    (Builder.float32_continues bits)
  int32 bits := build_continuing ((kept_basic Builder.pooled_kept).int32 bits)
    (Builder.int32_continues bits)
  vec4Constant bits hbits := build_continuing ((kept_basic Builder.pooled_kept).vec4Constant bits hbits)
    (Builder.vec4Constant_continues bits hbits)
  composite parts hlen := build_continuing ((kept_basic Builder.pooled_kept).composite parts hlen)
    (Builder.composite_continues parts hlen)
  boolean value := build_continuing ((kept_basic Builder.pooled_kept).boolean value)
    (Builder.boolean_continues value)
  bindValue _ _ := fun _ hs => hs
  markDefined _ _ hs := hs

section

set_option mvcgen.warning false

attribute [local spec] declare_spec annotate_spec addName_spec

theorem uint32_continuing (value : Nat) :
    ⦃fun s => ⌜Continuing m₀ s⌝⦄ build (Builder.uint32 value) ⦃⇓? _ s => ⌜Continuing m₀ s⌝⦄ :=
  build_continuing
    (framed_kept (uint32_framed value) (build_keeps (Builder.pooled_kept.keeps_uint32 value)))
    (Builder.uint32_continues value)

/-- The block's variable and its decorations and names come after the types it asks for, and
touch neither the declarations before nor the function. -/
theorem constantBlock_continuing :
    ⦃fun s => ⌜Continuing m₀ s⌝⦄ constantBlock ⦃⇓? _ s => ⌜Continuing m₀ s⌝⦄ := by
  have hB := continuing_basic m₀
  have htype := hB.typeId
  have hpointer := hB.pointerTypeId
  have halloc := hB.alloc
  have huint := @uint32_continuing m₀
  have hmodule : ⦃fun s => ⌜Continuing m₀ s⌝⦄ constantBlock
      ⦃⇓? _ s => ⌜m₀.Continues s.builder.module⌝⦄ := by
    mvcgen [constantBlock, htype, hpointer, halloc, huint] with
      first
      | exact TypeDesc.canonical_vec4
      | exact TypeDesc.canonical_struct _
      | -- the variable is declared after the types, then decorated and named
        ((try dsimp +zetaDelta only)
         repeat refine Module.Continues.push ?_ _ _
         apply Continuing.continues
         assumption)
  exact keeps_and (kept_closed Builder.pooled_kept).constantBlock hmodule

theorem loadInput_continuing (reg : Register) :
    ⦃fun s => ⌜Continuing m₀ s⌝⦄ loadInput reg ⦃⇓? _ s => ⌜Continuing m₀ s⌝⦄ := by
  have hB := continuing_basic m₀
  have htype := hB.typeId
  have hcompute := hB.compute_keeps
  have hunpack := hB.unpackColor_keeps
  mvcgen [loadInput, htype, hcompute, hunpack] with
    first
    | simp
    | -- the variable of an input register has the type of a recorded input
      (obtain ⟨_, hmem⟩ := snd_mem_of_lookup ‹List.lookup _ _ = some _›
       exact (‹Continuing m₀ _›.1.1.2.inputs _ hmem).2.2)

/-- An interface variable is declared after its pointer type, then decorated and named. -/
theorem interfaceVariable_continues (reg : Register) (ty : TypeDesc) (slot : InterfaceSlot)
    (hty : ty.Canonical) :
    ⦃fun s => ⌜Continuing m₀ s⌝⦄ interfaceVariable reg ty slot
      ⦃⇓? _ s => ⌜m₀.Continues s.builder.module⌝⦄ := by
  have hpointer := (continuing_basic m₀).pointerTypeId
  have halloc := (continuing_basic m₀).alloc
  mvcgen [interfaceVariable, hpointer, halloc] with
    (dsimp +zetaDelta only
     repeat refine Module.Continues.push ?_ _ _
     apply Continuing.continues
     assumption)

theorem ensureOutput_continuing (reg : Register) (hreg : reg.InRange) :
    ⦃fun s => ⌜Continuing m₀ s⌝⦄ ensureOutput reg ⦃⇓? _ s => ⌜Continuing m₀ s⌝⦄ := by
  have hvariable := @interfaceVariable_continues m₀ reg
  have hmodule : ⦃fun s => ⌜Continuing m₀ s⌝⦄ ensureOutput reg
      ⦃⇓? _ s => ⌜m₀.Continues s.builder.module⌝⦄ := by
    mvcgen [ensureOutput, createOutput, hvariable] with
      first
      | exact Continuing.continues ‹_›
      | simp +zetaDelta [apply_ite TypeDesc.Canonical]
  exact keeps_and ((kept_closed Builder.pooled_kept).ensureOutput reg hreg) hmodule

/-- The texture and sampler variables come after their pointer types, then are decorated and
named. -/
theorem declareSampler_continues (index : Nat) (type : TextureType) :
    ⦃fun s => ⌜Continuing m₀ s⌝⦄ declareSampler index type
      ⦃⇓? _ s => ⌜m₀.Continues s.builder.module⌝⦄ := by
  have hpointer := (continuing_basic m₀).pointerTypeId
  have halloc := (continuing_basic m₀).alloc
  -- the loop over the two variables, unrolled
  simp only [declareSampler, List.forIn_cons, List.forIn_nil]
  mvcgen [hpointer, halloc] with
    first
    | ((try dsimp +zetaDelta only)
       repeat refine Module.Continues.push ?_ _ _
       apply Continuing.continues
       assumption)
    | simp

theorem declare_continues (decl : Declaration) (dst : Destination) :
    ⦃fun s => ⌜Continuing m₀ s⌝⦄ declare decl dst ⦃⇓? _ s => ⌜m₀.Continues s.builder.module⌝⦄ := by
  have hsampler := @declareSampler_continues m₀
  have hvariable := @interfaceVariable_continues m₀ dst.reg
  mvcgen [declare, hsampler, declareVertexInput, declarePixelInput, declareOutput, createOutput,
    hvariable] with
    first
    | exact Continuing.continues ‹_›
    | simp +zetaDelta [apply_ite TypeDesc.Canonical]

theorem declare_continuing (decl : Declaration) (dst : Destination) (hreg : dst.reg.InRange) :
    ⦃fun s => ⌜Continuing m₀ s⌝⦄ declare decl dst ⦃⇓? _ s => ⌜Continuing m₀ s⌝⦄ :=
  keeps_and (framed_kept (declare_framed decl dst hreg) (declare_builds Builder.pooled_kept decl dst))
    (declare_continues decl dst)

/-- The steps of lowering continue the module of a framed, pooled state. -/
theorem continuing_closed (m₀ : Module) : Closed (Continuing m₀) :=
  { continuing_basic m₀ with
    loadInput := loadInput_continuing
    constantBlock := constantBlock_continuing
    ensureOutput := ensureOutput_continuing }

end

/-! ### The steps of a read -/

/-- `s` binds the registers as `s₀` does, under `s₀`'s registry and version: what the steps of a
relatively addressed read keep. -/
structure SameRegisters (s₀ s : Lowering) : Prop where
  values : s.values = s₀.values
  defined : s.defined = s₀.defined
  registry : s.registry = s₀.registry
  version : s.version = s₀.version

namespace SameRegisters

@[refl] theorem refl (s : Lowering) : SameRegisters s s := ⟨rfl, rfl, rfl, rfl⟩

theorem trans {s₁ s₂ s₃ : Lowering} (h₁ : SameRegisters s₁ s₂) (h₂ : SameRegisters s₂ s₃) :
    SameRegisters s₁ s₃ :=
  ⟨h₂.values.trans h₁.values, h₂.defined.trans h₁.defined, h₂.registry.trans h₁.registry,
    h₂.version.trans h₁.version⟩

end SameRegisters

/-- One or more steps of a read from `s` to `t`: the state stays framed and pooled and binds the
registers as before, and the module continues. -/
structure ReadStep (s t : Lowering) : Prop where
  framed : t.Framed
  pooled : t.builder.Pooled
  same : SameRegisters s t
  continues : s.builder.module.Continues t.builder.module

theorem ReadStep.trans {s₁ s₂ s₃ : Lowering} (h₁ : ReadStep s₁ s₂) (h₂ : ReadStep s₂ s₃) :
    ReadStep s₁ s₃ :=
  ⟨h₂.framed, h₂.pooled, h₁.same.trans h₂.same, h₁.continues.trans h₂.continues⟩

section

set_option mvcgen.warning false

variable {s t : Lowering}

theorem build_sameRegisters (s₀ : Lowering) (x : BuildM α) :
    ⦃fun s => ⌜SameRegisters s₀ s⌝⦄ build x ⦃⇓? _ s => ⌜SameRegisters s₀ s⌝⦄ :=
  fun _ h => ⟨h.values, h.defined, h.registry, h.version⟩

theorem compute_sameRegisters (s₀ : Lowering) (op : Op) (ty : Nat) (operands : List Nat) :
    ⦃fun s => ⌜SameRegisters s₀ s⌝⦄ compute op ty operands ⦃⇓? _ s => ⌜SameRegisters s₀ s⌝⦄ := by
  have hbuild := fun {β : Type} (x : BuildM β) => build_sameRegisters s₀ x
  mvcgen [compute, alloc, emit, hbuild]

/-- A step that continues the module of every framed, pooled state and binds no register, run
from a framed, pooled state, is a step of a read. -/
theorem ReadStep.of_run {x : LowerM α} {a : α}
    (hc : ∀ m₀, ⦃fun s => ⌜Continuing m₀ s⌝⦄ x ⦃⇓? _ s => ⌜Continuing m₀ s⌝⦄)
    (hb : ∀ s₀, ⦃fun s => ⌜SameRegisters s₀ s⌝⦄ x ⦃⇓? _ s => ⌜SameRegisters s₀ s⌝⦄)
    (hs : s.Framed ∧ s.builder.Pooled) (h : x s = .ok (a, t)) : ReadStep s t :=
  have hcont := triple_run (hc s.builder.module) ⟨hs, .refl _⟩ h
  ⟨hcont.1.1, hcont.1.2, triple_run (hb s) (.refl s) h, hcont.2⟩

/-- A computation appends its instruction to the function. -/
theorem compute_emits (op : Op) (ty : Nat) (operands : List Nat) :
    ⦃fun _ => ⌜True⌝⦄ compute op ty operands
      ⦃⇓? r s => ⌜({ op := op, resultType := some ty, result := some r, operands := operands } :
        Spirv.Instruction) ∈ s.builder.module.functions.toList⌝⦄ := by
  mvcgen [compute, alloc_spec, emit_spec] with simp [Module.push]

theorem compute_step {op : Op} {ty : Nat} {operands : List Nat} {r : Nat}
    (hop : op ∈ Op.blockOps) (hlen : operands.length ≤ 6) (hs : s.Framed ∧ s.builder.Pooled)
    (h : compute op ty operands s = .ok (r, t)) :
    ReadStep s t ∧ ({ op := op, resultType := some ty, result := some r, operands := operands } :
      Spirv.Instruction) ∈ t.builder.module.functions.toList :=
  ⟨.of_run (fun m₀ => (continuing_basic m₀).compute_keeps op ty operands hop hlen)
    (fun s₀ => compute_sameRegisters s₀ op ty operands) hs h,
    triple_run (compute_emits op ty operands) trivial h⟩

theorem typeId_step {d : TypeDesc} {r : Nat} (hd : d.Canonical) (hs : s.Framed ∧ s.builder.Pooled)
    (h : typeId d s = .ok (r, t)) : ReadStep s t :=
  .of_run (fun m₀ => (continuing_basic m₀).typeId d hd) (fun s₀ => build_sameRegisters s₀ _) hs h

/-- A 32-bit integer constant asked for from a pooled state is declared as such. -/
theorem int32_step {bits r : Nat} (hs : s.Framed ∧ s.builder.Pooled)
    (h : int32 bits s = .ok (r, t)) :
    ReadStep s t ∧ t.builder.module.ScalarConstant Op.typeInt [32, 1] r bits :=
  ⟨.of_run (fun m₀ => (continuing_basic m₀).int32 bits) (fun s₀ => build_sameRegisters s₀ _) hs h,
    triple_run (build_lift (R := fun r b => b.module.ScalarConstant Op.typeInt [32, 1] r bits)
      (Builder.triple_of_run fun _ hb => (Builder.int32_scalarConstant bits hb).2)) hs.2 h⟩

theorem ReadStep.refl (hs : s.Framed ∧ s.builder.Pooled) : ReadStep s s :=
  ⟨hs.1, hs.2, .refl s, .refl _⟩

theorem ReadStep.state {s₀ : Lowering} (h : ReadStep s₀ s) : s.Framed ∧ s.builder.Pooled :=
  ⟨h.framed, h.pooled⟩

theorem pure_eq_ok {a : α} {r : α × Lowering} : (pure a : LowerM α) s = .ok r ↔ r = (a, s) := by
  constructor
  · intro h
    cases h
    rfl
  · rintro rfl
    rfl

/-- Looking up a register's value changes nothing. -/
theorem valueOf?_eq_ok {reg : Register} {x : Option Nat} :
    valueOf? reg s = .ok (x, t) ↔ s.values.lookup reg = x ∧ s = t := by
  rw [show valueOf? reg s = .ok (s.values.lookup reg, s) from rfl, Except.ok.injEq, Prod.mk.injEq]

theorem glslCall_step {op : GlslOp} {ty r : Nat} {args : List Nat} (hlen : args.length ≤ 4)
    (hs : s.Framed ∧ s.builder.Pooled) (h : glslCall op ty args s = .ok (r, t)) :
    ReadStep s t ∧
      ({ op := Op.extInst, resultType := some ty, result := some r,
         operands := s.glsl :: op.code :: args } : Spirv.Instruction) ∈
        t.builder.module.functions.toList :=
  -- the call reads the import's id, then computes
  compute_step (by decide) (by simp only [List.length_cons]; omega) hs h

/-- Declaring the constant block binds no register. -/
theorem constantBlock_sameRegisters (s₀ : Lowering) :
    ⦃fun s => ⌜SameRegisters s₀ s⌝⦄ constantBlock ⦃⇓? _ s => ⌜SameRegisters s₀ s⌝⦄ := by
  have hbuild := fun {β : Type} (x : BuildM β) => build_sameRegisters s₀ x
  mvcgen [constantBlock, typeId, alloc, hbuild] with
    -- the block's variable and descriptor are recorded
    (have h := ‹SameRegisters s₀ _›
     exact ⟨h.values, h.defined, h.registry, h.version⟩)

theorem pointerTypeId_step {d : TypeDesc} {sc : StorageClass} {r : Nat} (hd : d.Canonical)
    (hs : s.Framed ∧ s.builder.Pooled) (h : build (Builder.pointerTypeId d sc) s = .ok (r, t)) :
    ReadStep s t :=
  .of_run (fun m₀ => (continuing_basic m₀).pointerTypeId d sc hd)
    (fun s₀ => build_sameRegisters s₀ _) hs h

/-- An element of the constant block is loaded through an access chain of the index it is
given: in every run it is the block's element at the index's value. -/
theorem blockElement_run {index r : Nat} (hs : s.Framed ∧ s.builder.Pooled)
    (h : blockElement index s = .ok (r, t)) :
    ReadStep s t ∧
      (∃ i ∈ t.builder.module.functions.toList, i.op = Op.accessChain ∧
        i.operands.getLast? = some index) ∧
      ∀ block ρ, t.builder.module.Ensures block ρ (∀ e, ρ index = .scalar e → ρ r = block e) := by
  simp only [blockElement, bind_eq_ok] at h
  obtain ⟨var, s₁, h₁, pointer, s₂, h₂, member, s₃, h₃, element, s₄, h₄, ty, s₅, h₅, h₆⟩ := h
  have step₁ : ReadStep s s₁ :=
    .of_run (fun _ => constantBlock_continuing) constantBlock_sameRegisters hs h₁
  have step₂ := pointerTypeId_step TypeDesc.canonical_vec4 step₁.state h₂
  have step₃ := (int32_step step₂.state h₃).1
  obtain ⟨step₄, hchain⟩ := compute_step (by decide) (by simp) step₃.state h₄
  have step₅ := typeId_step TypeDesc.canonical_vec4 step₄.state h₅
  obtain ⟨step₆, hload⟩ := compute_step (by decide) (by simp) step₅.state h₆
  refine ⟨step₁.trans (step₂.trans (step₃.trans (step₄.trans (step₅.trans step₆)))),
    ⟨_, (step₅.continues.trans step₆.continues).functions.subset hchain, rfl, rfl⟩,
    fun block ρ T hT hrun e he => ?_⟩
  have hT₄ := step₅.continues.trans (step₆.continues.trans hT)
  exact (ensures_respects hload T hT hrun).result_eq (Instruction.eval?_load
    ((ensures_respects hchain T hT₄ hrun).result_eq (Instruction.eval?_accessChain he)))

/-! ### The clamped index -/

/-- The index a relative read computes: component `k` of the address register's value `address`
plus the register number `n`, clamped to the stage's `count` registers. Returns the integer type
and the index. -/
def clampedIndex (address k n count : Nat) : LowerM (Nat × Nat) := do
  let int ← build (Builder.scalarType Op.typeInt)
  let offset ← extract int address k
  let register ← int32 n
  let unclamped ← compute Op.iAdd int [offset, register]
  let low ← int32 0
  let high ← int32 (count - 1)
  let index ← glslCall .sClamp int [unclamped, low, high]
  pure (int, index)

/-- The index is `SClamp(address[k] + n, 0, count - 1)` in every run, the sum wrapping at
`2 ^ 32`. -/
theorem clampedIndex_run {address k n count int index : Nat} (hs : s.Framed ∧ s.builder.Pooled)
    (h : clampedIndex address k n count s = .ok ((int, index), t)) :
    ReadStep s t ∧ ∀ block ρ, t.builder.module.Ensures block ρ
      (∀ a, (ρ address).component? k = some (.scalar a) →
        ρ index = .scalar (relativeIndex a n count)) := by
  simp only [clampedIndex, bind_eq_ok, pure_eq_ok, Prod.mk.injEq] at h
  obtain ⟨int', s₁, h₁, offset, s₂, h₂, register, s₃, h₃, unclamped, s₄, h₄, low, s₅, h₅, high,
    s₆, h₆, index', s₇, h₇, ⟨rfl, rfl⟩, rfl⟩ := h
  have step₁ := typeId_step (d := TypeDesc.int true) (TypeDesc.canonical_int true) hs h₁
  obtain ⟨step₂, hoffset⟩ := compute_step (by decide) (by simp) step₁.state h₂
  obtain ⟨step₃, hregister⟩ := int32_step step₂.state h₃
  obtain ⟨step₄, hunclamped⟩ := compute_step (by decide) (by simp) step₃.state h₄
  obtain ⟨step₅, hlow⟩ := int32_step step₄.state h₅
  obtain ⟨step₆, hhigh⟩ := int32_step step₅.state h₆
  obtain ⟨step₇, hindex⟩ := glslCall_step (by simp) step₆.state h₇
  refine ⟨step₁.trans (step₂.trans (step₃.trans (step₄.trans (step₅.trans (step₆.trans step₇))))),
    fun block ρ T hT hrun a ha => ?_⟩
  -- every step's module is continued by `T`
  have hT₆ := step₇.continues.trans hT
  have hT₅ := step₆.continues.trans hT₆
  have hT₄ := step₅.continues.trans hT₅
  have hT₃ := step₄.continues.trans hT₄
  have hT₂ := step₃.continues.trans hT₃
  have hoffsetT : ρ offset = .scalar a :=
    (ensures_respects hoffset T hT₂ hrun).result_eq (by rw [Instruction.eval?_compositeExtract]; exact ha)
  have hunclampedT : ρ unclamped = .scalar (a + BitVec.ofNat 32 n) :=
    (ensures_respects hunclamped T hT₄ hrun).result_eq
      (Instruction.eval?_iAdd hoffsetT (ensures_scalarConstant hregister T hT₃ hrun))
  exact (ensures_respects hindex T hT hrun).result_eq (Instruction.eval?_sClamp hunclampedT
    (ensures_scalarConstant hlow T hT₅ hrun) (ensures_scalarConstant hhigh T hT₆ hrun))

/-! ### The selection of defined registers -/

/-- What one selection gives: the value `values` binds to `reg`, where the run-time index `i` names
`reg`, or else `v`. -/
def selectStep (ρ : Nat → Value) (values : List (Register × Nat)) (i : BitVec 32) (v : Value)
    (reg : Register) : Value :=
  match values.lookup reg with
  | some d => if i = BitVec.ofNat 32 reg.index then ρ d else v
  | none => v

/-- What the chain of selections over `regs` gives from `v`. -/
def selectValue (ρ : Nat → Value) (values : List (Register × Nat)) (i : BitVec 32)
    (regs : List Register) (v : Value) : Value :=
  regs.foldl (selectStep ρ values i) v

theorem selectDefined_sameRegisters (s₀ : Lowering) (index boolType bvec4 vec4 value : Nat)
    (reg : Register) :
    ⦃fun s => ⌜SameRegisters s₀ s⌝⦄ selectDefined index boolType bvec4 vec4 value reg
      ⦃⇓? _ s => ⌜SameRegisters s₀ s⌝⦄ := by
  have hbuild := fun {β : Type} (x : BuildM β) => build_sameRegisters s₀ x
  have hcompute := compute_sameRegisters s₀
  mvcgen [selectDefined, int32, hbuild, hcompute]

/-- One selection: where the register has a value, the index is compared with its number, and the
comparison, repeated in each component, selects between that value and the value so far. -/
theorem selectDefined_run {index boolType bvec4 vec4 value r : Nat} {reg : Register}
    (hs : s.Framed ∧ s.builder.Pooled)
    (h : selectDefined index boolType bvec4 vec4 value reg s = .ok (r, t)) :
    ReadStep s t ∧ ∀ block ρ, t.builder.module.Ensures block ρ
      (∀ i, ρ index = .scalar i → (ρ value).HasWidth 4 →
        (∀ d, s.values.lookup reg = some d → (ρ d).HasWidth 4) →
          ρ r = selectStep ρ s.values i (ρ value) reg) := by
  have hclosed := fun m₀ => (continuing_closed m₀).selectDefined_keeps index boolType bvec4 vec4
    value reg
  have step := ReadStep.of_run hclosed
    (fun s₀ => selectDefined_sameRegisters s₀ index boolType bvec4 vec4 value reg) hs h
  refine ⟨step, fun block ρ T hT hrun i hi hvalue hdefined => ?_⟩
  simp only [selectDefined, bind_eq_ok] at h
  obtain ⟨dv?, s₁, h₁, h⟩ := h
  obtain ⟨rfl, rfl⟩ := valueOf?_eq_ok.1 h₁
  cases hdv : s.values.lookup reg with
  | none =>
    -- no value: the value so far stays
    rw [hdv] at h
    obtain ⟨rfl, rfl⟩ := Prod.mk.inj (Except.ok.inj h)
    simp [selectStep, hdv]
  | some dv =>
    rw [hdv] at h
    simp only [bind_eq_ok] at h
    obtain ⟨target, s₂, h₂, hit, s₃, h₃, condition, s₄, h₄, h₅⟩ := h
    obtain ⟨step₂, htarget⟩ := int32_step hs h₂
    obtain ⟨step₃, hhit⟩ := compute_step (by decide) (by simp) step₂.state h₃
    obtain ⟨step₄, hcondition⟩ := compute_step (by decide) (by simp) step₃.state h₄
    obtain ⟨step₅, hselect⟩ := compute_step (by decide) (by simp) step₄.state h₅
    have hT₄ := step₅.continues.trans hT
    have hT₃ := step₄.continues.trans hT₄
    have hT₂ := step₃.continues.trans hT₃
    have hhitT : ρ hit = .bool (i == BitVec.ofNat 32 reg.index) :=
      (ensures_respects hhit T hT₃ hrun).result_eq
        (Instruction.eval?_iEqual hi (ensures_scalarConstant htarget T hT₂ hrun))
    have hconditionT : ρ condition = .vector (List.replicate 4 (.bool (i == BitVec.ofNat 32 reg.index))) := by
      rw [(ensures_respects hcondition T hT₄ hrun).result_eq (Instruction.eval?_compositeConstruct _)]
      simp [hhitT]
    rw [(ensures_respects hselect T hT hrun).result_eq (by
      rw [Instruction.eval?_select, hconditionT]
      exact Value.select_replicate _ (hdefined dv hdv) hvalue)]
    simp [selectStep, hdv, beq_iff_eq]

/-- A selection between vectors of four components is one. -/
theorem selectStep_hasWidth {ρ : Nat → Value} {values : List (Register × Nat)} {i : BitVec 32}
    {v : Value} {reg : Register} (hv : v.HasWidth 4)
    (hd : ∀ d, values.lookup reg = some d → (ρ d).HasWidth 4) :
    (selectStep ρ values i v reg).HasWidth 4 := by
  unfold selectStep
  split
  · split
    · exact hd _ ‹_›
    · exact hv
  · exact hv

/-- The chain of selections over a list of registers, from the value so far. -/
theorem selectChain_run {index boolType bvec4 vec4 : Nat} :
    ∀ (regs : List Register) {value r : Nat} {s t : Lowering}, s.Framed ∧ s.builder.Pooled →
      regs.foldlM (selectDefined index boolType bvec4 vec4) value s = .ok (r, t) →
      ReadStep s t ∧ ∀ block ρ, t.builder.module.Ensures block ρ
        (∀ i, ρ index = .scalar i → (ρ value).HasWidth 4 →
          (∀ reg ∈ regs, ∀ d, s.values.lookup reg = some d → (ρ d).HasWidth 4) →
            ρ r = selectValue ρ s.values i regs (ρ value))
  | [], value, r, s, t, hs, h => by
    -- no register: the value stays
    rw [List.foldlM_nil, pure_eq_ok] at h
    obtain ⟨rfl, rfl⟩ := Prod.mk.inj h
    exact ⟨.refl hs, fun _ _ _ _ _ _ _ _ _ => rfl⟩
  | reg :: regs, value, r, s, t, hs, h => by
    rw [List.foldlM_cons, bind_eq_ok] at h
    obtain ⟨mid, s₁, h₁, h₂⟩ := h
    obtain ⟨step₁, hmid⟩ := selectDefined_run hs h₁
    obtain ⟨step₂, hrest⟩ := selectChain_run regs step₁.state h₂
    refine ⟨step₁.trans step₂, fun block ρ T hT hrun i hi hvalue hdefined => ?_⟩
    have hd := hdefined reg List.mem_cons_self
    -- the first selection, then the rest from its value
    have hmidT := hmid block ρ T (step₂.continues.trans hT) hrun i hi hvalue hd
    rw [step₁.same.values] at hrest
    rw [hrest block ρ T hT hrun i hi (hmidT ▸ selectStep_hasWidth hvalue hd)
      (fun reg' h' => hdefined reg' (List.mem_cons_of_mem _ h')), hmidT]
    rfl

/-- The selections a relative read ends with: one for each float constant register defined, in
order of their numbers. -/
def selectAll (index value : Nat) : LowerM Nat := do
  let defined := Register.sort ((← get).defined.filter (·.file == .const))
  if defined.isEmpty then return value
  let boolType ← typeId TypeDesc.bool
  let bvec4 ← typeId (TypeDesc.vector Op.typeBool 4)
  let vec4 ← floatType 4
  defined.foldlM (selectDefined index boolType bvec4 vec4) value

/-- The float constant registers defined in `s`, in order of their numbers. -/
def definedFloatRegisters (s : Lowering) : List Register :=
  Register.sort (s.defined.filter (·.file == .const))

theorem selectAll_run {index value r : Nat} (hs : s.Framed ∧ s.builder.Pooled)
    (h : selectAll index value s = .ok (r, t)) :
    ReadStep s t ∧ ∀ block ρ, t.builder.module.Ensures block ρ
      (∀ i, ρ index = .scalar i → (ρ value).HasWidth 4 →
        (∀ reg ∈ s.definedFloatRegisters, ∀ d, s.values.lookup reg = some d → (ρ d).HasWidth 4) →
          ρ r = selectValue ρ s.values i s.definedFloatRegisters (ρ value)) := by
  simp only [selectAll, bind_eq_ok] at h
  obtain ⟨s', s₁, h₁, h⟩ := h
  obtain ⟨rfl, rfl⟩ : s' = s ∧ s = s₁ := by
    cases h₁
    exact ⟨rfl, rfl⟩
  split at h
  · -- no float constant register is defined
    rename_i hempty
    obtain ⟨rfl, rfl⟩ := Prod.mk.inj (pure_eq_ok.1 h)
    refine ⟨.refl hs, fun _ _ _ _ _ _ _ _ _ => ?_⟩
    rw [definedFloatRegisters, List.isEmpty_iff.1 hempty]
    rfl
  · simp only [bind_eq_ok] at h
    obtain ⟨boolType, s₂, h₂, bvec4, s₃, h₃, vec4, s₄, h₄, h₅⟩ := h
    have step₂ := typeId_step TypeDesc.canonical_bool hs h₂
    have step₃ := typeId_step (TypeDesc.canonical_vector_bool 4) step₂.state h₃
    have step₄ := typeId_step (d := TypeDesc.floatN 4) (TypeDesc.canonical_floatN 4) step₃.state h₄
    obtain ⟨step₅, hchain⟩ := selectChain_run _ step₄.state h₅
    have hsame := step₂.same.trans (step₃.same.trans step₄.same)
    rw [hsame.values] at hchain
    exact ⟨step₂.trans (step₃.trans (step₄.trans step₅)), hchain⟩

/-- A relatively addressed read: the checks of the registers' files and of `c[n]`, the clamped
index, the block element at the slot's base past it, then the selections of the defined
registers. -/
theorem addressed_relative_eq {src : Source} {rel : RelativeAddress}
    (hrel : src.relative = some rel) :
    addressed src =
      (if src.reg.file ≠ .const then fail (.unsupportedRegister src.reg .relativeAddressing)
      else if rel.reg.file ≠ .addr then
        fail (.unsupportedRegister rel.reg .relativeAddressRegister)
      else do
        let slot ← checkFloatConstant src.reg
        let some address ← valueOf? rel.reg | fail (.undeclaredRegister rel.reg)
        let (int, index) ← clampedIndex address rel.component.val src.reg.index
          slot.registerCount
        let base ← int32 slot.base
        let element ← compute Op.iAdd int [base, index]
        let value ← blockElement element
        selectAll index value) := by
  simp only [addressed, hrel, clampedIndex, selectAll, bind_assoc, pure_bind]
  split_ifs <;> rfl

end

end Lowering

/-! ### The register a relative read names -/

namespace Spirv

/-- A signed clamp to `[0, count - 1]`, for `count` up to `2 ^ 31`, lies below `count`. -/
theorem sClamp_toNat_lt {x : BitVec 32} {count : Nat} (hpos : 0 < count)
    (hcount : count ≤ 2 ^ 31) : (sClamp x 0 (BitVec.ofNat 32 (count - 1))).toNat < count := by
  -- both bounds are below `2 ^ 31`, so read the same signed and unsigned
  have hhi : (BitVec.ofNat 32 (count - 1)).toNat = count - 1 := by
    rw [BitVec.toNat_ofNat]
    omega
  have h0 : (0 : BitVec 32).toNat = 0 := rfl
  unfold sClamp
  simp only [BitVec.slt_iff_toInt_lt, BitVec.toInt_eq_toNat_cond, hhi, h0]
  split_ifs <;> omega

/-- A number of `[0, count - 1]` is clamped to itself. -/
theorem sClamp_ofNat {n count : Nat} (hn : n < count) (hcount : count ≤ 2 ^ 31) :
    sClamp (BitVec.ofNat 32 n) 0 (BitVec.ofNat 32 (count - 1)) = BitVec.ofNat 32 n := by
  have hhi : (BitVec.ofNat 32 (count - 1)).toNat = count - 1 := by
    rw [BitVec.toNat_ofNat]
    omega
  have hn' : (BitVec.ofNat 32 n).toNat = n := by
    rw [BitVec.toNat_ofNat]
    omega
  have h0 : (0 : BitVec 32).toNat = 0 := rfl
  unfold sClamp
  simp only [BitVec.slt_iff_toInt_lt, BitVec.toInt_eq_toNat_cond, hhi, hn', h0]
  rw [if_neg (by split_ifs <;> omega), if_neg (by split_ifs <;> omega)]

end Spirv

/-- The float constant register that the relative read names. -/
def relativeRegister (a : BitVec 32) (n count : Nat) : Register :=
  ⟨.const, (relativeIndex a n count).toNat⟩

theorem relativeRegister_index_lt (a : BitVec 32) {n count : Nat} (hpos : 0 < count)
    (hcount : count ≤ 2 ^ 31) : (relativeRegister a n count).index < count :=
  sClamp_toNat_lt hpos hcount

/-- At address `0`, a relative read of `c[n]` names `c[n]`. -/
theorem relativeRegister_zero {n count : Nat} (hn : n < count) (hcount : count ≤ 2 ^ 31) :
    relativeRegister 0 n count = ⟨.const, n⟩ := by
  rw [relativeRegister, relativeIndex,
    show (0 : BitVec 32) + BitVec.ofNat 32 n = BitVec.ofNat 32 n by simp,
    sClamp_ofNat hn hcount, BitVec.toNat_ofNat, Nat.mod_eq_of_lt (by omega)]

/-- The value of the float constant register `reg` in a run on the constant block `block`: the
words of its latest `def`, where `defs` has them, or else its element of the block, `base`
elements in. -/
def constantValue (defs : Register → Option (List Nat)) (block : BitVec 32 → Value) (base : Nat)
    (reg : Register) : Value :=
  match defs reg with
  | some words => .vector (words.map fun w => .scalar (BitVec.ofNat 32 w))
  | none => block (BitVec.ofNat 32 (base + reg.index))

/-! ### Vector constants and sorted registers -/

namespace Spirv.Module

variable {block : BitVec 32 → Value} {ρ : Nat → Value} {m : Module} {op : Op}
  {operands : List Nat} {x : Nat} {bits : List Nat}

/-- A vector constant holds the vector of its words in a run. -/
theorem VectorConstant.value (h : m.Runs block ρ) (hx : m.VectorConstant op operands x bits) :
    ρ x = .vector (bits.map fun b => .scalar (BitVec.ofNat 32 b)) := by
  obtain ⟨c, v, parts, -, -, hcomposite, hparts⟩ := hx
  rw [h.constants.composite _ _ _ hcomposite]
  clear hcomposite
  congr 1
  -- each constituent is the scalar constant of its word
  induction hparts with
  | nil => rfl
  | cons hp _ ih => rw [List.map_cons, List.map_cons, ih, h.constants.scalar _ _ _ hp]

/-- A vector constant of the module holds its words in every run. -/
theorem ensures_vectorConstant (hx : m.VectorConstant op operands x bits) :
    m.Ensures block ρ (ρ x = .vector (bits.map fun b => .scalar (BitVec.ofNat 32 b))) :=
  fun _ hT hrun => (VectorConstant.mono hT.declarations.subset hx).value hrun

end Spirv.Module

namespace Register

theorem mem_insertSorted {r x : Register} {xs : List Register} :
    x ∈ insertSorted r xs ↔ x = r ∨ x ∈ xs := by
  induction xs with
  | nil => simp [insertSorted]
  | cons y ys ih =>
    by_cases hr : r.precedes y
    · simp [insertSorted, hr]
    · simp only [insertSorted, hr, Bool.false_eq_true, ↓reduceIte, List.mem_cons, ih]
      tauto

/-- Sorting keeps the registers. -/
theorem mem_sort {x : Register} {xs : List Register} : x ∈ sort xs ↔ x ∈ xs := by
  induction xs with
  | nil => rfl
  | cons y ys ih => rw [sort, mem_insertSorted, ih, List.mem_cons]

end Register

/-- Binding a register leaves the value of every other register. -/
theorem lookup_filter_ne {values : List (Register × Nat)} {reg r : Register} (hr : r ≠ reg) :
    (values.filter (·.1 != reg)).lookup r = values.lookup r := by
  induction values with
  | nil => rfl
  | cons p ps ih =>
    obtain ⟨k, x⟩ := p
    by_cases hk : k = reg
    · subst hk
      have hne : (r == k) = false := beq_eq_false_iff_ne.2 hr
      simp [List.lookup, hne, ih]
    · simp [hk, List.lookup, ih]

/-- After binding `reg` to `id`, `reg` has `id` and every other register its value before. -/
theorem lookup_bind (values : List (Register × Nat)) (reg r : Register) (id : Nat) :
    ((reg, id) :: values.filter (·.1 != reg)).lookup r =
      if r = reg then some id else values.lookup r := by
  by_cases hr : r = reg
  · subst hr
    simp [List.lookup]
  · have hne : (r == reg) = false := beq_eq_false_iff_ne.2 hr
    simp [List.lookup, hr, hne, lookup_filter_ne hr]

namespace Lowering

/-! ### The selections over defined registers, evaluated -/

section

variable {ρ : Nat → Value} {values : List (Register × Nat)} {i : BitVec 32} {v : Value}

/-- A selection on a float constant register other than the one `i` names keeps the value so
far. -/
theorem selectStep_of_ne {reg : Register} (hfile : reg.file = .const) (hlt : reg.index < 2 ^ 32)
    (hne : reg ≠ ⟨.const, i.toNat⟩) : selectStep ρ values i v reg = v := by
  unfold selectStep
  split
  · rw [if_neg]
    rintro rfl
    apply hne
    -- the index names the register: its number fits in 32 bits
    obtain ⟨file, index⟩ := reg
    simp only at hfile
    rw [hfile, BitVec.toNat_ofNat, Nat.mod_eq_of_lt hlt]
  · rfl

/-- A selection on the register `i` names gives its value, where it has one. -/
theorem selectStep_self :
    selectStep ρ values i v ⟨.const, i.toNat⟩ =
      ((values.lookup ⟨.const, i.toNat⟩).map ρ).getD v := by
  have hi : i = BitVec.ofNat 32 i.toNat := by rw [BitVec.ofNat_toNat, BitVec.setWidth_eq]
  unfold selectStep
  split
  · rename_i d hd
    rw [if_pos hi, hd]
    rfl
  · rename_i hd
    rw [hd]
    rfl

/-- The selections over float constant registers, from `v`: the value of the register `i`
names, where it is one of them and has a value, or else `v`. -/
theorem selectValue_eq {regs : List Register}
    (hregs : ∀ reg ∈ regs, reg.file = .const ∧ reg.index < 2 ^ 32) :
    selectValue ρ values i regs v =
      if (⟨.const, i.toNat⟩ : Register) ∈ regs then
        ((values.lookup ⟨.const, i.toNat⟩).map ρ).getD v
      else v := by
  induction regs generalizing v with
  | nil => rfl
  | cons reg regs ih =>
    have hrest := ih (fun r hr => hregs r (List.mem_cons_of_mem _ hr))
      (v := selectStep ρ values i v reg)
    rw [show selectValue ρ values i (reg :: regs) v =
      selectValue ρ values i regs (selectStep ρ values i v reg) from rfl, hrest]
    by_cases hreg : reg = ⟨.const, i.toNat⟩
    · -- the register `i` names: its value is selected, once or again later
      rw [hreg, selectStep_self, if_pos List.mem_cons_self]
      cases values.lookup ⟨.const, i.toNat⟩ <;> simp
    · -- another register: the value so far stays
      have ⟨hfile, hlt⟩ := hregs reg List.mem_cons_self
      rw [selectStep_of_ne hfile hlt hreg]
      simp [List.mem_cons, Ne.symm hreg]

end

/-! ### Following the float constant registers -/

/-- `s` holds the float constant registers as `s₀` does: the same values and definitions,
under the same registry and version. -/
structure SameConstants (s₀ s : Lowering) : Prop where
  values : ∀ reg, reg.file = .const → s.values.lookup reg = s₀.values.lookup reg
  defined : ∀ reg, reg.file = .const → (reg ∈ s.defined ↔ reg ∈ s₀.defined)
  registry : s.registry = s₀.registry
  version : s.version = s₀.version

theorem SameRegisters.sameConstants {s₀ s : Lowering} (h : SameRegisters s₀ s) :
    SameConstants s₀ s :=
  ⟨fun _ _ => by rw [h.values], fun _ _ => by rw [h.defined], h.registry, h.version⟩

/-- The float constant registers of `s` follow `defs` under the stage's slot `slot`: a register
is defined exactly when `defs` has its words, four of them, and has a value then; and in every
run each register with a value holds its constant value. -/
structure TracksConstants (slot : ConstantSlot) (defs : Register → Option (List Nat))
    (s : Lowering) : Prop where
  framed : s.Framed
  pooled : s.builder.Pooled
  registry : s.registry.slot s.version.stage .float = slot
  defined : ∀ reg, reg.file = .const → (reg ∈ s.defined ↔ (defs reg).isSome)
  words : ∀ reg words, defs reg = some words →
    reg.file = .const ∧ reg.index < slot.registerCount ∧ words.length = 4
  bound : ∀ reg, (defs reg).isSome → (s.values.lookup reg).isSome
  value : ∀ reg x, reg.file = .const → s.values.lookup reg = some x → ∀ block ρ,
    s.builder.module.Ensures block ρ (ρ x = constantValue defs block slot.base reg)

namespace TracksConstants

variable {slot : ConstantSlot} {defs : Register → Option (List Nat)} {s t : Lowering}

/-- A register with words is a float constant register. -/
theorem file_eq (h : s.TracksConstants slot defs) {reg : Register} (hd : (defs reg).isSome) :
    reg.file = .const := by
  obtain ⟨words, hw⟩ := Option.isSome_iff_exists.1 hd
  exact (h.words reg words hw).1

/-- The tracked constants stay so in a framed, pooled state that holds the float constant
registers as `s` does, its module continuing `s`'s. -/
theorem of_frame (h : s.TracksConstants slot defs) (hsame : SameConstants s t) (hframed : t.Framed)
    (hpooled : t.builder.Pooled) (hc : s.builder.module.Continues t.builder.module) :
    t.TracksConstants slot defs where
  framed := hframed
  pooled := hpooled
  registry := by rw [hsame.registry, hsame.version]; exact h.registry
  defined reg hreg := (hsame.defined reg hreg).trans (h.defined reg hreg)
  words := h.words
  bound reg hd := by
    rw [hsame.values reg (h.file_eq hd)]
    exact h.bound reg hd
  value reg x hreg hx block ρ :=
    (h.value reg x hreg (by rwa [← hsame.values reg hreg]) block ρ).mono hc

theorem of_step (h : s.TracksConstants slot defs) (hstep : ReadStep s t) :
    t.TracksConstants slot defs :=
  h.of_frame hstep.same.sameConstants hstep.framed hstep.pooled hstep.continues

/-- The float constant registers defined are those `defs` has words for. -/
theorem mem_definedFloatRegisters (h : s.TracksConstants slot defs) {reg : Register} :
    reg ∈ s.definedFloatRegisters ↔ reg.file = .const ∧ (defs reg).isSome := by
  rw [definedFloatRegisters, Register.mem_sort, List.mem_filter, beq_iff_eq]
  constructor
  · rintro ⟨hmem, hfile⟩
    exact ⟨hfile, (h.defined reg hfile).1 hmem⟩
  · rintro ⟨hfile, hd⟩
    exact ⟨(h.defined reg hfile).2 hd, hfile⟩

/-- The value of a defined register is a vector of four components in every run. -/
theorem hasWidth (h : s.TracksConstants slot defs) {reg : Register} {d : Nat}
    (hreg : reg ∈ s.definedFloatRegisters) (hd : s.values.lookup reg = some d) (block ρ) :
    s.builder.module.Ensures block ρ ((ρ d).HasWidth 4) := by
  obtain ⟨hfile, hwords⟩ := h.mem_definedFloatRegisters.1 hreg
  obtain ⟨words, hw⟩ := Option.isSome_iff_exists.1 hwords
  refine fun T hT hrun => ⟨words.map fun w => .scalar (BitVec.ofNat 32 w), ?_,
    (List.length_map _).trans (h.words reg words hw).2.2⟩
  rw [h.value reg d hfile hd block ρ T hT hrun, constantValue, hw]

/-- The selections over the defined registers, from the block element of the register `i`
names, give that register's constant value in every run. -/
theorem selectValue_eq (h : s.TracksConstants slot defs) (hcount : slot.registerCount ≤ 2 ^ 32)
    (i : BitVec 32) (block ρ) :
    s.builder.module.Ensures block ρ
      (selectValue ρ s.values i s.definedFloatRegisters
        (block (BitVec.ofNat 32 (slot.base + i.toNat))) =
        constantValue defs block slot.base ⟨.const, i.toNat⟩) := by
  intro T hT hrun
  have hregs : ∀ reg ∈ s.definedFloatRegisters, reg.file = .const ∧ reg.index < 2 ^ 32 := by
    intro reg hreg
    obtain ⟨hfile, hwords⟩ := h.mem_definedFloatRegisters.1 hreg
    obtain ⟨words, hw⟩ := Option.isSome_iff_exists.1 hwords
    exact ⟨hfile, Nat.lt_of_lt_of_le (h.words reg words hw).2.1 hcount⟩
  rw [Lowering.selectValue_eq hregs]
  by_cases hmem : (⟨.const, i.toNat⟩ : Register) ∈ s.definedFloatRegisters
  · -- a defined register: its value is the constant of its words
    obtain ⟨x, hx⟩ := Option.isSome_iff_exists.1
      (h.bound _ (h.mem_definedFloatRegisters.1 hmem).2)
    rw [if_pos hmem, hx]
    exact h.value _ x rfl hx block ρ T hT hrun
  · -- no definition: the block element stays
    have hnone : defs ⟨.const, i.toNat⟩ = none := by
      rw [← Option.not_isSome_iff_eq_none]
      exact fun hd => hmem (h.mem_definedFloatRegisters.2 ⟨rfl, hd⟩)
    rw [if_neg hmem, constantValue, hnone]

/-- Binding a float constant register without a definition to its element of the block keeps
the constants tracked. -/
theorem bindLoaded (h : s.TracksConstants slot defs) {reg : Register} {r : Nat}
    (hfile : reg.file = .const) (hnone : defs reg = none)
    (hr : ∀ block ρ, s.builder.module.Ensures block ρ
      (ρ r = block (BitVec.ofNat 32 (slot.base + reg.index)))) :
    TracksConstants slot defs { s with values := (reg, r) :: s.values.filter (·.1 != reg) } where
  framed := h.framed
  pooled := h.pooled
  registry := h.registry
  defined := h.defined
  words := h.words
  bound reg' hd := by
    rw [isSome_lookup_bind]
    exact .inr (h.bound reg' hd)
  value reg' x hreg' hx block ρ := by
    rw [lookup_bind] at hx
    split at hx
    · -- the register just loaded
      rename_i heq
      subst heq
      cases hx
      rw [constantValue, hnone]
      exact hr block ρ
    · exact h.value reg' x hreg' hx block ρ

end TracksConstants

section

variable {slot : ConstantSlot} {defs : Register → Option (List Nat)} {s t : Lowering}

/-- A float constant register is loaded as its element of the block: the slot's base past its
number, the sum wrapping at 32 bits. -/
theorem loadConstant_run {reg : Register} {r : Nat} (hs : s.Framed ∧ s.builder.Pooled)
    (h : loadConstant reg s = .ok (r, t)) :
    ReadStep s t ∧ reg.index < (s.registry.slot s.version.stage .float).registerCount ∧
      ∀ block ρ, t.builder.module.Ensures block ρ
        (ρ r = block (BitVec.ofNat 32 ((s.registry.slot s.version.stage .float).base + reg.index))) := by
  simp only [loadConstant, bind_eq_ok] at h
  obtain ⟨slot', s₁, h₁, element, s₂, h₂, h₃⟩ := h
  obtain ⟨rfl, hlt, rfl⟩ := checkFloatConstant_eq_ok h₁
  obtain ⟨step₂, helement⟩ := int32_step hs h₂
  obtain ⟨step₃, -, hload⟩ := blockElement_run step₂.state h₃
  refine ⟨step₂.trans step₃, hlt, fun block ρ T hT hrun => ?_⟩
  rw [hload block ρ T hT hrun _ (ensures_scalarConstant helement T (step₃.continues.trans hT) hrun)]
  -- the word of the element is taken modulo `2 ^ 32`, as the bit vector is
  congr 1
  apply BitVec.eq_of_toNat_eq
  simp [BitVec.toNat_ofNat, UInt32.size]

/-- A read of a float constant register from a state that tracks the float constants keeps them
tracked, and yields the register's constant value in every run. -/
theorem TracksConstants.read_const (h : s.TracksConstants slot defs) {reg : Register} {v : Nat}
    (hfile : reg.file = .const) (hread : read reg s = .ok (v, t)) :
    t.TracksConstants slot defs ∧
      ∀ block ρ, t.builder.module.Ensures block ρ (ρ v = constantValue defs block slot.base reg) := by
  simp only [read, bind_eq_ok] at hread
  obtain ⟨x?, s₁, hval, hread⟩ := hread
  obtain ⟨rfl, rfl⟩ := valueOf?_eq_ok.1 hval
  cases hx : s.values.lookup reg with
  | some x =>
    -- the register has its value already
    simp only [hx, pure_eq_ok, Prod.mk.injEq] at hread
    obtain ⟨rfl, rfl⟩ := hread
    exact ⟨h, h.value reg _ hfile hx⟩
  | none =>
    simp only [hx, hfile, bind_eq_ok] at hread
    obtain ⟨r, s₂, hload, u, s₃, hbind, hpure⟩ := hread
    obtain ⟨step, -, hr⟩ := loadConstant_run ⟨h.framed, h.pooled⟩ hload
    rw [h.registry] at hr
    -- a register without a value has no definition
    have hnone : defs reg = none := by
      rw [← Option.not_isSome_iff_eq_none]
      intro hd
      have hbound := h.bound reg hd
      rw [hx] at hbound
      exact absurd hbound (by decide)
    cases hbind
    obtain ⟨rfl, rfl⟩ := Prod.mk.inj (pure_eq_ok.1 hpure)
    refine ⟨(h.of_step step).bindLoaded hfile hnone hr, fun block ρ => ?_⟩
    rw [constantValue, hnone]
    exact hr block ρ

/-- A relative read `c[a0.k + n]` from a framed, pooled state, as the code it emits computes. It
reads only a float constant register `c[n]` of the stage, through the value of `a0`; in every
run where component `k` of `a0` holds `a`, it loads the block element at the slot's base past
`relativeIndex a n count`, then selects by that index among the defined registers' values. -/
theorem addressed_relative_run {slot : ConstantSlot} {src : Source} {rel : RelativeAddress}
    {v : Nat} (hs : s.Framed ∧ s.builder.Pooled)
    (hslot : s.registry.slot s.version.stage .float = slot) (hrel : src.relative = some rel)
    (h : addressed src s = .ok (v, t)) :
    src.reg.file = .const ∧ src.reg.index < slot.registerCount ∧ ReadStep s t ∧
      ∃ address element, s.values.lookup rel.reg = some address ∧
        (∃ i ∈ t.builder.module.functions.toList, i.op = Op.accessChain ∧
          i.operands.getLast? = some element) ∧
        ∀ block ρ, t.builder.module.Ensures block ρ
          (∀ a, (ρ address).component? rel.component = some (.scalar a) →
            ρ element = .scalar (BitVec.ofNat 32
              (slot.base + (relativeIndex a src.reg.index slot.registerCount).toNat)) ∧
            ((∀ e, (block e).HasWidth 4) →
              (∀ reg ∈ s.definedFloatRegisters, ∀ d, s.values.lookup reg = some d →
                (ρ d).HasWidth 4) →
              ρ v = selectValue ρ s.values (relativeIndex a src.reg.index slot.registerCount)
                s.definedFloatRegisters (block (BitVec.ofNat 32
                  (slot.base + (relativeIndex a src.reg.index slot.registerCount).toNat))))) := by
  rw [addressed_relative_eq hrel] at h
  -- the checks of the two registers' files
  split_ifs at h with hconst haddress
  · exact absurd h (by simp [fail])
  · exact absurd h (by simp [fail])
  obtain ⟨slot', s₁, hcheck, h⟩ := bind_eq_ok.1 h
  obtain ⟨rfl, hlt, hs₁⟩ := checkFloatConstant_eq_ok hcheck
  rw [hs₁, hslot] at h
  rw [hslot] at hlt
  obtain ⟨address?, s₂, hval, h⟩ := bind_eq_ok.1 h
  obtain ⟨rfl, rfl⟩ := valueOf?_eq_ok.1 hval
  cases haddr : s.values.lookup rel.reg with
  | none =>
    simp only [haddr] at h
    exact absurd h (by simp [fail])
  | some address =>
  simp only [haddr] at h
  obtain ⟨⟨int, index⟩, s₃, h₃, h⟩ := bind_eq_ok.1 h
  obtain ⟨step₃, hindex⟩ := clampedIndex_run hs h₃
  obtain ⟨base, s₄, h₄, h⟩ := bind_eq_ok.1 h
  obtain ⟨step₄, hbase⟩ := int32_step step₃.state h₄
  obtain ⟨element, s₅, h₅, h⟩ := bind_eq_ok.1 h
  obtain ⟨step₅, helement⟩ := compute_step (by decide) (by simp) step₄.state h₅
  obtain ⟨value, s₆, h₆, h₇⟩ := bind_eq_ok.1 h
  obtain ⟨step₆, ⟨chain, hchain, hop⟩, hvalue⟩ := blockElement_run step₅.state h₆
  obtain ⟨step₇, hselect⟩ := selectAll_run step₆.state h₇
  -- the selections see the registers as `s` has them
  have hsame := step₃.same.trans (step₄.same.trans (step₅.same.trans step₆.same))
  rw [hsame.values, definedFloatRegisters, hsame.defined, ← definedFloatRegisters] at hselect
  refine ⟨of_not_not hconst, hlt, step₃.trans (step₄.trans (step₅.trans (step₆.trans step₇))),
    address, element, rfl, ⟨chain, step₇.continues.functions.subset hchain, hop⟩,
    fun block ρ T hT hrun a ha => ?_⟩
  -- every step's module is continued by `T`
  have hT₆ := step₇.continues.trans hT
  have hT₅ := step₆.continues.trans hT₆
  have hT₄ := step₅.continues.trans hT₅
  have hT₃ := step₄.continues.trans hT₄
  have hindexT := hindex block ρ T hT₃ hrun a ha
  have helementT : ρ element = .scalar (BitVec.ofNat 32
      (slot.base + (relativeIndex a src.reg.index slot.registerCount).toNat)) := by
    rw [(ensures_respects helement T hT₅ hrun).result_eq
      (Instruction.eval?_iAdd (ensures_scalarConstant hbase T hT₄ hrun) hindexT),
      ← BitVec.ofNat_add_ofNat, BitVec.ofNat_toNat, BitVec.setWidth_eq]
  have hvalueT := hvalue block ρ T hT₆ hrun _ helementT
  refine ⟨helementT, fun hblock hdefined => ?_⟩
  rw [hselect block ρ T hT hrun _ hindexT (hvalueT ▸ hblock _) hdefined, hvalueT]

/-- A relative read `c[a0.k + n]` from a state that tracks the float constants, under a slot whose
elements lie below `2 ^ 31`: in every run where component `k` of `a0` holds `a`, it yields the
constant value of the register `relativeRegister a n count` names, whose block element it
loads. -/
theorem TracksConstants.addressed_relative (htracks : s.TracksConstants slot defs) {src : Source}
    {rel : RelativeAddress} {v : Nat} (hrel : src.relative = some rel)
    (hbound : slot.base + slot.registerCount < 2 ^ 31) (h : addressed src s = .ok (v, t)) :
    src.reg.file = .const ∧ src.reg.index < slot.registerCount ∧ ReadStep s t ∧
      ∃ address element, s.values.lookup rel.reg = some address ∧
        (∃ i ∈ t.builder.module.functions.toList, i.op = Op.accessChain ∧
          i.operands.getLast? = some element) ∧
        ∀ block ρ, (∀ e, (block e).HasWidth 4) → t.builder.module.Ensures block ρ
          (∀ a, (ρ address).component? rel.component = some (.scalar a) →
            ρ element = .scalar (BitVec.ofNat 32
              (slot.base + (relativeRegister a src.reg.index slot.registerCount).index)) ∧
            ρ v = constantValue defs block slot.base
              (relativeRegister a src.reg.index slot.registerCount)) := by
  obtain ⟨hfile, hlt, hstep, address, element, haddr, hchain, hvalue⟩ :=
    addressed_relative_run ⟨htracks.framed, htracks.pooled⟩ htracks.registry hrel h
  refine ⟨hfile, hlt, hstep, address, element, haddr, hchain,
    fun block ρ hblock T hT hrun a ha => ?_⟩
  have hsT := hstep.continues.trans hT
  obtain ⟨helement, hselect⟩ := hvalue block ρ T hT hrun a ha
  refine ⟨helement, ?_⟩
  -- the selections over the defined registers give the constant value of the one named
  rw [hselect hblock fun reg hreg d hd => htracks.hasWidth hreg hd block ρ T hsT hrun]
  exact htracks.selectValue_eq (by omega) _ block ρ T hsT hrun

end

end Lowering

end ShaderBridge
