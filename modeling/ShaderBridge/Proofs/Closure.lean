import ShaderBridge.Proofs.DefineBeforeUse
import ShaderBridge.Proofs.Decode

/-!
Properties every instruction keeps because the primitive steps of lowering keep them.
`Computes I` asks it of the steps that compute values, `Basic I` also of binding registers, and
`Closed I` also of the steps that create variables on demand, each for the arguments lowering
gives them. `Reading A I` asks it of whole reads instead, so that `I` may follow what the float
constant registers hold; every closed property is one.
-/

namespace ShaderBridge

open Std.Do

namespace Spirv

/-- The instructions a function body holds between its label and its return: loads and stores,
extended instructions, composite operations, conversions, arithmetic, comparisons, selection and
sampling. -/
def Op.blockOps : List Op :=
  [load, store, accessChain, extInst, vectorShuffle, compositeConstruct, compositeExtract,
    compositeInsert, sampledImage, imageSampleImplicitLod, imageSampleExplicitLod,
    imageSampleProjImplicitLod, convertFToS, convertUToF, fNegate, iAdd, fAdd, fSub, fMul, fDiv,
    vectorTimesScalar, dot, select, iEqual, fOrdLessThan, fOrdGreaterThanEqual]

/-- An instruction of a block, with at most six operand words. -/
def Instruction.InBlock (i : Instruction) : Prop := i.op ∈ Op.blockOps ∧ i.operands.length ≤ 6

/-- The descriptions the converter asks the type table for; matrices and kinds the table does
not know are left out. -/
def TypeDesc.Canonical (d : TypeDesc) : Prop :=
  match d.kind with
  | .void | .bool | .float | .int | .sampler => True
  | .vector =>
    d.secondary = Op.typeFloat ∨ d.secondary = Op.typeBool ∨
      d.secondary = Op.typeInt ∧ d.signedness ≤ 1
  | .image | .sampledImage => d.arguments = [d.dim.code]
  | .array => d.arguments.length = 2
  | .struct => d.arguments.length ≤ 2
  | .function => 1 ≤ d.arguments.length ∧ d.arguments.length ≤ 2
  | .pointer => d.arguments.length = 1
  | .matrix | .other => False

namespace TypeDesc

@[simp] theorem canonical_void : void.Canonical := trivial

@[simp] theorem canonical_bool : bool.Canonical := trivial

@[simp] theorem canonical_float : float.Canonical := trivial

@[simp] theorem canonical_sampler : sampler.Canonical := trivial

@[simp] theorem canonical_int (signed : Bool) : (int signed).Canonical := trivial

@[simp] theorem canonical_vector_float (n : Nat) : (vector Op.typeFloat n).Canonical :=
  .inl rfl

@[simp] theorem canonical_vector_bool (n : Nat) : (vector Op.typeBool n).Canonical :=
  .inr (.inl rfl)

@[simp] theorem canonical_vec4 : vec4.Canonical := canonical_vector_float 4

@[simp] theorem canonical_ivec4 : ivec4.Canonical := .inr (.inr ⟨rfl, by decide⟩)

@[simp] theorem canonical_uintVector (n : Nat) : (uintVector n).Canonical :=
  .inr (.inr ⟨rfl, Nat.zero_le 1⟩)

@[simp] theorem canonical_floatN (n : Nat) : (floatN n).Canonical := by
  unfold floatN
  split
  · exact canonical_float
  · exact canonical_vector_float n

@[simp] theorem canonical_image (dim : Dim) : (image dim).Canonical := by
  cases dim <;> rfl

@[simp] theorem canonical_sampledImage (dim : Dim) : (sampledImage dim).Canonical := by
  cases dim <;> rfl

@[simp] theorem canonical_array (element length : Nat) : (array element length).Canonical := rfl

@[simp] theorem canonical_struct (member : Nat) : (struct [member]).Canonical :=
  Nat.le_succ 1

@[simp] theorem canonical_function (result : Nat) : (function result []).Canonical :=
  ⟨Nat.le_refl 1, Nat.le_succ 1⟩

@[simp] theorem canonical_pointer (pointee : Nat) (sc : StorageClass) :
    (pointer pointee sc).Canonical := rfl

end TypeDesc

end Spirv

/-- A texture is sampled at no more than three coordinates. -/
@[simp] theorem TextureType.coordinateCount_lt_four (t : TextureType) : t.coordinateCount < 4 := by
  cases t <;> simp [TextureType.coordinateCount]

@[simp] theorem TextureType.coordinateCount_le_four (t : TextureType) : t.coordinateCount ≤ 4 :=
  Nat.le_of_lt t.coordinateCount_lt_four

/-- The destination operand of an instruction: every instruction but `nop` names one. -/
def Instruction.destination? : Instruction → Option Destination
  | .nop => none
  | .dcl _ dst | .define dst _ | .defineInt dst _ | .defineBool dst _ | .mov dst _ | .mova dst _
  | .unary _ dst _ | .binary _ dst _ _ | .ternary _ dst _ _ _ | .texld _ _ dst _ _
  | .texldl dst _ _ => some dst

/-- A well formed instruction writes a register in range. -/
theorem Instruction.WellFormed.destination_inRange {ins : Instruction} (h : ins.WellFormed)
    {dst : Destination} (hd : ins.destination? = some dst) : dst.reg.InRange := by
  cases ins <;> simp only [destination?, reduceCtorEq, Option.some.injEq] at hd <;> subst hd <;>
    simp_all [WellFormed]

namespace Lowering

open Spirv

variable {I : Lowering → Prop}

/-- `I` is kept by the primitive steps of lowering that compute values: handing out ids,
appending block instructions, and interning types and constants. -/
structure Computes (I : Lowering → Prop) : Prop where
  alloc : ⦃fun s => ⌜I s⌝⦄ alloc ⦃⇓? _ s => ⌜I s⌝⦄
  emit : ∀ i, i.InBlock → ⦃fun s => ⌜I s⌝⦄ emit i ⦃⇓? _ s => ⌜I s⌝⦄
  typeId : ∀ d, d.Canonical → ⦃fun s => ⌜I s⌝⦄ typeId d ⦃⇓? _ s => ⌜I s⌝⦄
  pointerTypeId : ∀ d sc, d.Canonical →
    ⦃fun s => ⌜I s⌝⦄ build (Builder.pointerTypeId d sc) ⦃⇓? _ s => ⌜I s⌝⦄
  null : ∀ d, d.Canonical → ⦃fun s => ⌜I s⌝⦄ build (Builder.null d) ⦃⇓? _ s => ⌜I s⌝⦄
  float32 : ∀ bits, ⦃fun s => ⌜I s⌝⦄ float32 bits ⦃⇓? _ s => ⌜I s⌝⦄
  int32 : ∀ bits, ⦃fun s => ⌜I s⌝⦄ int32 bits ⦃⇓? _ s => ⌜I s⌝⦄
  vec4Constant : ∀ bits, bits.length = 4 →
    ⦃fun s => ⌜I s⌝⦄ build (Builder.vec4Constant bits) ⦃⇓? _ s => ⌜I s⌝⦄
  composite : ∀ parts, parts.length ≤ 4 →
    ⦃fun s => ⌜I s⌝⦄ build (Builder.composite TypeDesc.ivec4 parts) ⦃⇓? _ s => ⌜I s⌝⦄
  boolean : ∀ value, ⦃fun s => ⌜I s⌝⦄ build (Builder.boolean value) ⦃⇓? _ s => ⌜I s⌝⦄

/-- `I` is kept by the primitive steps that compute values and by binding registers, defined
constant registers among them. -/
structure Basic (I : Lowering → Prop) : Prop extends Computes I where
  bindValue : ∀ reg id, ⦃fun s => ⌜I s⌝⦄ bindValue reg id ⦃⇓? _ s => ⌜I s⌝⦄
  markDefined : ∀ s reg, I s → I { s with defined := reg :: s.defined }

/-- `I` is kept by the steps instructions are made of: the primitives that compute values,
reading any register, binding or defining a register of another file than the float constants,
declaring the constant block, and the output variables of the registers `A` admits. Only reads
and `def`s bind a float constant register, so `I` may say what it holds. -/
structure Reading (A : Register → Prop) (I : Lowering → Prop) : Prop extends Computes I where
  read : ∀ reg, ⦃fun s => ⌜I s⌝⦄ read reg ⦃⇓? _ s => ⌜I s⌝⦄
  bindValue : ∀ reg id, reg.file ≠ .const →
    ⦃fun s => ⌜I s⌝⦄ bindValue reg id ⦃⇓? _ s => ⌜I s⌝⦄
  markDefined : ∀ s reg, reg.file ≠ .const → I s → I { s with defined := reg :: s.defined }
  constantBlock : ⦃fun s => ⌜I s⌝⦄ constantBlock ⦃⇓? _ s => ⌜I s⌝⦄
  ensureOutput : ∀ reg, A reg → ⦃fun s => ⌜I s⌝⦄ ensureOutput reg ⦃⇓? _ s => ⌜I s⌝⦄

/-- `I` is closed under the primitive steps of lowering: those of `Basic`, and the three that
create a variable on demand, the variable of an output for the registers `A` admits. -/
structure ClosedOn (A : Register → Prop) (I : Lowering → Prop) : Prop extends Basic I where
  loadInput : ∀ reg, ⦃fun s => ⌜I s⌝⦄ loadInput reg ⦃⇓? _ s => ⌜I s⌝⦄
  constantBlock : ⦃fun s => ⌜I s⌝⦄ constantBlock ⦃⇓? _ s => ⌜I s⌝⦄
  ensureOutput : ∀ reg, A reg → ⦃fun s => ⌜I s⌝⦄ ensureOutput reg ⦃⇓? _ s => ⌜I s⌝⦄

/-- `I` is closed under the primitive steps of lowering, outputs of every register in range
included. -/
abbrev Closed (I : Lowering → Prop) : Prop := ClosedOn Register.InRange I

section

set_option mvcgen.warning false

-- Constant vectors are known by their specifications only: unfolding one while matching a step
-- against its specification would evaluate the whole list of constants it builds.
attribute [local irreducible] Builder.vec4Constant

/-- Checking a constant register changes nothing. -/
theorem checkFloatConstant_keeps (reg : Register) :
    ⦃fun s => ⌜I s⌝⦄ checkFloatConstant reg ⦃⇓? _ s => ⌜I s⌝⦄ := by
  mvcgen [checkFloatConstant]

namespace Computes

variable (hB : Computes I)
include hB

theorem floatType_keeps (n : Nat) : ⦃fun s => ⌜I s⌝⦄ floatType n ⦃⇓? _ s => ⌜I s⌝⦄ :=
  hB.typeId (TypeDesc.floatN n) (TypeDesc.canonical_floatN n)

theorem intType_keeps :
    ⦃fun s => ⌜I s⌝⦄ build (Builder.scalarType Op.typeInt) ⦃⇓? _ s => ⌜I s⌝⦄ :=
  hB.typeId (TypeDesc.int true) (TypeDesc.canonical_int true)

theorem compute_keeps (op : Op) (ty : Nat) (operands : List Nat) (hop : op ∈ Op.blockOps)
    (hlen : operands.length ≤ 6) :
    ⦃fun s => ⌜I s⌝⦄ compute op ty operands ⦃⇓? _ s => ⌜I s⌝⦄ := by
  have halloc := hB.alloc
  have hemit := hB.emit
  mvcgen [compute, halloc, hemit]

theorem glslCall_keeps (op : GlslOp) (ty : Nat) (args : List Nat) (hlen : args.length ≤ 4) :
    ⦃fun s => ⌜I s⌝⦄ glslCall op ty args ⦃⇓? _ s => ⌜I s⌝⦄ := by
  have hcompute := hB.compute_keeps
  mvcgen [glslCall, hcompute] with
    (simp only [List.length_cons]; omega)

theorem extract_keeps (ty composite index : Nat) :
    ⦃fun s => ⌜I s⌝⦄ extract ty composite index ⦃⇓? _ s => ⌜I s⌝⦄ := by
  have hcompute := hB.compute_keeps
  mvcgen [extract, hcompute] with (intros; simp_all +decide)

theorem shuffle_keeps (ty a b : Nat) (components : List Nat) (hlen : components.length ≤ 4) :
    ⦃fun s => ⌜I s⌝⦄ shuffle ty a b components ⦃⇓? _ s => ⌜I s⌝⦄ := by
  have hcompute := hB.compute_keeps
  mvcgen [shuffle, hcompute] with ((intros; simp_all +decide) <;> omega)

theorem splat_keeps (x : Nat) : ⦃fun s => ⌜I s⌝⦄ splat x ⦃⇓? _ s => ⌜I s⌝⦄ := by
  have hcompute := hB.compute_keeps
  have hfloat := hB.floatType_keeps
  mvcgen [splat, hcompute, hfloat] with (intros; simp_all +decide)

theorem truncate_keeps (value width : Nat) (hwidth : width ≤ 4) :
    ⦃fun s => ⌜I s⌝⦄ truncate value width ⦃⇓? _ s => ⌜I s⌝⦄ := by
  have hfloat := hB.floatType_keeps
  have hextract := hB.extract_keeps
  have hshuffle := hB.shuffle_keeps
  mvcgen [truncate, hfloat, hextract, hshuffle] with (intros; simp_all +decide)

theorem unpackColor_keeps (packed : Nat) :
    ⦃fun s => ⌜I s⌝⦄ unpackColor packed ⦃⇓? _ s => ⌜I s⌝⦄ := by
  have hfloat := hB.floatType_keeps
  have hcompute := hB.compute_keeps
  have hconst := hB.float32
  have hshuffle := hB.shuffle_keeps
  mvcgen [unpackColor, hfloat, hcompute, hconst, hshuffle] with (intros; simp_all +decide)

/-- A load of a block element keeps `I` when declaring the block does. -/
theorem blockElement_keeps (hblock : ⦃fun s => ⌜I s⌝⦄ constantBlock ⦃⇓? _ s => ⌜I s⌝⦄)
    (index : Nat) : ⦃fun s => ⌜I s⌝⦄ blockElement index ⦃⇓? _ s => ⌜I s⌝⦄ := by
  have hpointer := hB.pointerTypeId
  have hint := hB.int32
  have hcompute := hB.compute_keeps
  have htype := hB.typeId
  mvcgen [blockElement, hblock, hpointer, hint, hcompute, htype] with (intros; simp_all +decide)

theorem selectDefined_keeps (index boolType bvec4 vec4 value : Nat) (reg : Register) :
    ⦃fun s => ⌜I s⌝⦄ selectDefined index boolType bvec4 vec4 value reg ⦃⇓? _ s => ⌜I s⌝⦄ := by
  have hint := hB.int32
  have hcompute := hB.compute_keeps
  mvcgen [selectDefined, hint, hcompute] with (intros; simp_all +decide)

theorem compareSelect_keeps (op : Op) (a b : Nat) (hop : op ∈ Op.blockOps) :
    ⦃fun s => ⌜I s⌝⦄ compareSelect op a b ⦃⇓? _ s => ⌜I s⌝⦄ := by
  have htype := hB.typeId
  have hcompute := hB.compute_keeps
  have hfloat := hB.floatType_keeps
  have hvec4 := hB.vec4Constant
  mvcgen [compareSelect, htype, hcompute, hfloat, hvec4] with (intros; simp_all +decide)

theorem sampledImage_keeps (src : Source) :
    ⦃fun s => ⌜I s⌝⦄ sampledImage src ⦃⇓? _ s => ⌜I s⌝⦄ := by
  have htype := hB.typeId
  have hcompute := hB.compute_keeps
  mvcgen [sampledImage, htype, hcompute] with simp_all +decide

theorem sample_keeps (op : Op) (image coordinates : Nat) (operands : List Nat)
    (hop : op ∈ Op.blockOps) (hlen : operands.length ≤ 4) :
    ⦃fun s => ⌜I s⌝⦄ sample op image coordinates operands ⦃⇓? _ s => ⌜I s⌝⦄ := by
  have hfloat := hB.floatType_keeps
  have hcompute := hB.compute_keeps
  mvcgen [sample, hfloat, hcompute] with ((intros; simp_all) <;> omega)

theorem flipY_keeps (position : Nat) : ⦃fun s => ⌜I s⌝⦄ flipY position ⦃⇓? _ s => ⌜I s⌝⦄ := by
  have hfloat := hB.floatType_keeps
  have hextract := hB.extract_keeps
  have hcompute := hB.compute_keeps
  mvcgen [flipY, hfloat, hextract, hcompute] with (intros; simp_all +decide)

end Computes

/-! The constant definitions change the state only through the primitives: they intern a
constant, record the register as defined and bind it. -/

/-- Binding a defined constant register keeps `I` when binding it and marking it defined do. -/
theorem bindDefined_keeps {reg : Register} {id : Nat}
    (hbind : ⦃fun s => ⌜I s⌝⦄ bindValue reg id ⦃⇓? _ s => ⌜I s⌝⦄)
    (hmark : ∀ s, I s → I { s with defined := reg :: s.defined }) :
    ⦃fun s => ⌜I s⌝⦄ bindDefined reg id ⦃⇓? _ s => ⌜I s⌝⦄ := by
  mvcgen [bindDefined, hbind] with
    (simp +zetaDelta only []
     split
     · assumption
     · exact hmark _ ‹_›)

namespace Basic

variable (hB : Basic I)
include hB

theorem define_keeps (dst : Destination) (values : List UInt32) (hvalues : values.length = 4) :
    ⦃fun s => ⌜I s⌝⦄ define dst values ⦃⇓? _ s => ⌜I s⌝⦄ := by
  have hvector := hB.vec4Constant
  have hbind := fun reg id => bindDefined_keeps (hB.bindValue reg id) (hB.markDefined · reg)
  mvcgen [define, checkDefinition, hvector, hbind] with
    simp [hvalues]

end Basic

namespace Reading

variable {A : Register → Prop} (hR : Reading A I)
include hR

theorem bindDefined_keeps (reg : Register) (hreg : reg.file ≠ .const) (id : Nat) :
    ⦃fun s => ⌜I s⌝⦄ bindDefined reg id ⦃⇓? _ s => ⌜I s⌝⦄ :=
  Lowering.bindDefined_keeps (hR.bindValue reg id hreg) (hR.markDefined · reg hreg)

/-- The integer and boolean definitions bind registers of their own files. -/
theorem defineInt_keeps (dst : Destination) (values : List UInt32) (hvalues : values.length = 4) :
    ⦃fun s => ⌜I s⌝⦄ defineInt dst values ⦃⇓? _ s => ⌜I s⌝⦄ := by
  -- the four parts are interned one by one, so there are as many of them as values
  have hparts := mapM_length (fun v : UInt32 => hR.int32 v.toNat) values
  have hcomposite := hR.composite
  have hbind := hR.bindDefined_keeps
  mvcgen [defineInt, checkDefinition, hparts, hcomposite, hbind] with
    (obtain ⟨hlen, hI⟩ := ‹_ = values.length ∧ I _›
     first
     | exact hI
     | omega
     | (intros; simp_all))

theorem defineBool_keeps (dst : Destination) (value : UInt32) :
    ⦃fun s => ⌜I s⌝⦄ defineBool dst value ⦃⇓? _ s => ⌜I s⌝⦄ := by
  have hboolean := hR.boolean
  have hbind := hR.bindDefined_keeps
  mvcgen [defineBool, checkDefinition, hboolean, hbind] with
    (intros; simp_all)

theorem addressed_keeps (src : Source) : ⦃fun s => ⌜I s⌝⦄ addressed src ⦃⇓? _ s => ⌜I s⌝⦄ := by
  have hread := hR.read
  have hcheck := checkFloatConstant_keeps (I := I)
  have hintType := hR.intType_keeps
  have htype := hR.typeId
  have hextract := hR.extract_keeps
  have hint := hR.int32
  have hcompute := hR.compute_keeps
  have hglsl := hR.glslCall_keeps
  have helement := hR.blockElement_keeps hR.constantBlock
  have hfloat := hR.floatType_keeps
  have hselect := hR.selectDefined_keeps
  mvcgen [addressed, hread, hcheck, hintType, htype, hextract, hint, hcompute, hglsl, helement,
    hfloat, hselect] invariants
    · ⇓? _ s => ⌜I s⌝
  with (intros; simp_all +decide)

theorem source_keeps (src : Source) (width : Nat) (hwidth : width ≤ 4) :
    ⦃fun s => ⌜I s⌝⦄ source src width ⦃⇓? _ s => ⌜I s⌝⦄ := by
  have haddressed := hR.addressed_keeps
  have hfloat := hR.floatType_keeps
  have hextract := hR.extract_keeps
  have hshuffle := hR.shuffle_keeps
  have hcompute := hR.compute_keeps
  have hglsl := hR.glslCall_keeps
  mvcgen [source, haddressed, hfloat, hextract, hshuffle, hcompute, hglsl] with
    (intros; simp_all +decide)

theorem mergeMask_keeps (reg : Register) (mask : WriteMask) (value : Nat) (ty : TypeDesc)
    (hty : ty.Canonical) :
    ⦃fun s => ⌜I s⌝⦄ mergeMask reg mask value ty ⦃⇓? _ s => ⌜I s⌝⦄ := by
  have hnull := hR.null
  have hread := hR.read
  have htype := hR.typeId
  have hshuffle := hR.shuffle_keeps
  mvcgen [mergeMask, hnull, hread, htype, hshuffle] with (intros; simp_all +decide +zetaDelta)

/-- A write binds a temporary or an output register, which is no float constant register. -/
theorem writeDestination_keeps (dst : Destination) (value width : Nat) (hdst : A dst.reg) :
    ⦃fun s => ⌜I s⌝⦄ writeDestination dst value width ⦃⇓? _ s => ⌜I s⌝⦄ := by
  have houtput := hR.ensureOutput
  have hfloat := hR.floatType_keeps
  have hsplat := hR.splat_keeps
  have hconst := hR.float32
  have hcompute := hR.compute_keeps
  have hvec4 := hR.vec4Constant
  have hglsl := hR.glslCall_keeps
  have hmerge := hR.mergeMask_keeps
  have hbind := hR.bindValue
  mvcgen [writeDestination, houtput, hfloat, hsplat, hconst, hcompute, hvec4, hglsl, hmerge,
    hbind] with
    first
    | (intro _ _ hconst; simp_all +decide +zetaDelta)
    | simp_all +decide

theorem writeAddress_keeps (dst : Destination) (value : Nat) (round : Bool)
    (hdst : dst.reg.file ≠ .const) :
    ⦃fun s => ⌜I s⌝⦄ writeAddress dst value round ⦃⇓? _ s => ⌜I s⌝⦄ := by
  have hfloat := hR.floatType_keeps
  have hglsl := hR.glslCall_keeps
  have htype := hR.typeId
  have hcompute := hR.compute_keeps
  have hmerge := hR.mergeMask_keeps
  have hbind := hR.bindValue
  mvcgen [writeAddress, hfloat, hglsl, htype, hcompute, hmerge, hbind] with simp_all +decide

theorem mov_keeps (dst : Destination) (src : Source) (hdst : A dst.reg) :
    ⦃fun s => ⌜I s⌝⦄ mov dst src ⦃⇓? _ s => ⌜I s⌝⦄ := by
  have hsource := hR.source_keeps
  have haddress := hR.writeAddress_keeps
  have hwrite := hR.writeDestination_keeps
  mvcgen [mov, hsource, haddress, hwrite] with (intros; simp_all)

theorem mova_keeps (dst : Destination) (src : Source) :
    ⦃fun s => ⌜I s⌝⦄ mova dst src ⦃⇓? _ s => ⌜I s⌝⦄ := by
  have hsource := hR.source_keeps
  have haddress := hR.writeAddress_keeps
  mvcgen [mova, hsource, haddress] with (intros; simp_all)

theorem unary_keeps (op : UnaryOp) (dst : Destination) (a : Source) (hdst : A dst.reg) :
    ⦃fun s => ⌜I s⌝⦄ unary op dst a ⦃⇓? _ s => ⌜I s⌝⦄ := by
  have hsource := hR.source_keeps
  have hfloat := hR.floatType_keeps
  have hglsl := hR.glslCall_keeps
  have hconst := hR.float32
  have hcompute := hR.compute_keeps
  have hwrite := hR.writeDestination_keeps
  mvcgen [unary, hsource, hfloat, hglsl, hconst, hcompute, hwrite] with simp_all +decide

theorem binary_keeps (op : BinaryOp) (dst : Destination) (a b : Source)
    (hdst : A dst.reg) :
    ⦃fun s => ⌜I s⌝⦄ binary op dst a b ⦃⇓? _ s => ⌜I s⌝⦄ := by
  have hsource := hR.source_keeps
  have hfloat := hR.floatType_keeps
  have hglsl := hR.glslCall_keeps
  have hcompute := hR.compute_keeps
  have hcompare := hR.compareSelect_keeps
  have hwrite := hR.writeDestination_keeps
  mvcgen [binary, hsource, hfloat, hglsl, hcompute, hcompare, hwrite] with simp_all +decide

theorem ternary_keeps (op : TernaryOp) (dst : Destination) (a b c : Source)
    (hdst : A dst.reg) :
    ⦃fun s => ⌜I s⌝⦄ ternary op dst a b c ⦃⇓? _ s => ⌜I s⌝⦄ := by
  have hsource := hR.source_keeps
  have hfloat := hR.floatType_keeps
  have hglsl := hR.glslCall_keeps
  have hcompute := hR.compute_keeps
  have hwrite := hR.writeDestination_keeps
  mvcgen [ternary, hsource, hfloat, hglsl, hcompute, hwrite] with simp_all +decide

theorem texld_keeps (control tokenIndex : Nat) (dst : Destination) (coord sampler : Source)
    (hdst : A dst.reg) :
    ⦃fun s => ⌜I s⌝⦄ texld control tokenIndex dst coord sampler ⦃⇓? _ s => ⌜I s⌝⦄ := by
  have himage := hR.sampledImage_keeps
  have hsource := hR.source_keeps
  have htruncate := hR.truncate_keeps
  have hsample := hR.sample_keeps
  have hfloat := hR.floatType_keeps
  have hshuffle := hR.shuffle_keeps
  have hextract := hR.extract_keeps
  have hwrite := hR.writeDestination_keeps
  mvcgen [texld, himage, hsource, htruncate, hsample, hfloat, hshuffle, hextract, hwrite] with
    (intros; simp_all +decide +zetaDelta)

theorem texldl_keeps (dst : Destination) (coord sampler : Source) (hdst : A dst.reg) :
    ⦃fun s => ⌜I s⌝⦄ texldl dst coord sampler ⦃⇓? _ s => ⌜I s⌝⦄ := by
  have himage := hR.sampledImage_keeps
  have hsource := hR.source_keeps
  have htruncate := hR.truncate_keeps
  have hsample := hR.sample_keeps
  have hfloat := hR.floatType_keeps
  have hextract := hR.extract_keeps
  have hwrite := hR.writeDestination_keeps
  mvcgen [texldl, himage, hsource, htruncate, hsample, hfloat, hextract, hwrite] with
    (intros; simp_all +decide +zetaDelta)

theorem storeOutputs_keeps : ⦃fun s => ⌜I s⌝⦄ storeOutputs ⦃⇓? _ s => ⌜I s⌝⦄ := by
  have hread := hR.read
  have hflip := hR.flipY_keeps
  have hfloat := hR.floatType_keeps
  have hextract := hR.extract_keeps
  have hemit := hR.emit
  mvcgen [storeOutputs, hread, hflip, hfloat, hextract, hemit] invariants
    · ⇓? _ s => ⌜I s⌝
  with simp +decide [Spirv.Instruction.InBlock]

/-- Every well formed instruction keeps `I` when its declarations and its `def`s do and its
destination is admitted; a declaration or a `def` is asked of only when the instruction is
one. -/
theorem instruction_keeps (ins : Instruction) (hins : ins.WellFormed)
    (hwrite : ∀ dst, ins.destination? = some dst → A dst.reg)
    (hdeclare : ∀ decl dst, ins = .dcl decl dst → dst.reg.InRange →
      ⦃fun s => ⌜I s⌝⦄ declare decl dst ⦃⇓? _ s => ⌜I s⌝⦄)
    (hdefine : ∀ dst values, ins = .define dst values → values.length = 4 →
      ⦃fun s => ⌜I s⌝⦄ define dst values ⦃⇓? _ s => ⌜I s⌝⦄) :
    ⦃fun s => ⌜I s⌝⦄ instruction ins ⦃⇓? _ s => ⌜I s⌝⦄ := by
  cases ins with
  | nop => mvcgen [instruction]
  | dcl decl dst => exact hdeclare decl dst rfl hins
  | define dst values => exact hdefine dst values rfl hins.2
  | defineInt dst values => exact hR.defineInt_keeps dst values hins.2
  | defineBool dst value => exact hR.defineBool_keeps dst value
  | mov dst src => exact hR.mov_keeps dst src (hwrite dst rfl)
  | mova dst src => exact hR.mova_keeps dst src
  | unary op dst a => exact hR.unary_keeps op dst a (hwrite dst rfl)
  | binary op dst a b => exact hR.binary_keeps op dst a b (hwrite dst rfl)
  | ternary op dst a b c => exact hR.ternary_keeps op dst a b c (hwrite dst rfl)
  | texld control tokenIndex dst coord sampler =>
    exact hR.texld_keeps control tokenIndex dst coord sampler (hwrite dst rfl)
  | texldl dst coord sampler => exact hR.texldl_keeps dst coord sampler (hwrite dst rfl)

end Reading

namespace ClosedOn

variable {A : Register → Prop} (hC : ClosedOn A I)
include hC

theorem loadConstant_keeps (reg : Register) :
    ⦃fun s => ⌜I s⌝⦄ loadConstant reg ⦃⇓? _ s => ⌜I s⌝⦄ := by
  have hcheck := checkFloatConstant_keeps (I := I)
  have hint := hC.int32
  have helement := hC.blockElement_keeps hC.constantBlock
  mvcgen [loadConstant, hcheck, hint, helement]

theorem read_keeps (reg : Register) : ⦃fun s => ⌜I s⌝⦄ read reg ⦃⇓? _ s => ⌜I s⌝⦄ := by
  have hnull := hC.null
  have hinput := hC.loadInput
  have hconstant := hC.loadConstant_keeps
  have hbind := hC.bindValue
  mvcgen [read, hnull, hinput, hconstant, hbind] with simp

/-- A property closed under the primitives is kept by the steps instructions are made of. -/
theorem reading : Reading A I :=
  { hC.toComputes with
    read := hC.read_keeps
    bindValue := fun reg id _ => hC.bindValue reg id
    markDefined := fun s reg _ => hC.markDefined s reg
    constantBlock := hC.constantBlock
    ensureOutput := hC.ensureOutput }

/-- Every well formed instruction keeps `I` when its declarations do and its destination is
admitted; a declaration is asked of only when the instruction is one. -/
theorem instruction_keeps (ins : Instruction) (hins : ins.WellFormed)
    (hwrite : ∀ dst, ins.destination? = some dst → A dst.reg)
    (hdeclare : ∀ decl dst, ins = .dcl decl dst → dst.reg.InRange →
      ⦃fun s => ⌜I s⌝⦄ declare decl dst ⦃⇓? _ s => ⌜I s⌝⦄) :
    ⦃fun s => ⌜I s⌝⦄ instruction ins ⦃⇓? _ s => ⌜I s⌝⦄ :=
  hC.reading.instruction_keeps ins hins hwrite hdeclare
    fun dst values _ hvalues => hC.define_keeps dst values hvalues

end ClosedOn

/-- Every well formed instruction keeps a closed `I` when its declarations do. -/
theorem Closed.instruction_keeps (hC : Closed I) (ins : Instruction) (hins : ins.WellFormed)
    (hdeclare : ∀ decl dst, ins = .dcl decl dst → dst.reg.InRange →
      ⦃fun s => ⌜I s⌝⦄ declare decl dst ⦃⇓? _ s => ⌜I s⌝⦄) :
    ⦃fun s => ⌜I s⌝⦄ instruction ins ⦃⇓? _ s => ⌜I s⌝⦄ :=
  ClosedOn.instruction_keeps hC ins hins (fun _ hd => hins.destination_inRange hd) hdeclare

end

end Lowering

end ShaderBridge
