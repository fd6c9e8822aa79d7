import ShaderBridge.Proofs.IndexBounds
import ShaderBridge.Proofs.Lockstep
import ShaderBridge.Proofs.EntryInterface

/-!
When the block of float constants is declared: exactly when the program reads a float constant
register that no earlier `def` defined, or reads one relatively (`ReadsConstantBlock`).
-/

namespace ShaderBridge

open Std.Do Spirv

/-! ### Reads of the constant block -/

/-- The source operands an instruction reads through its registers, in order. A texture load
reads its coordinates so, and its sampler through the sampler's variables. -/
def Instruction.sources : Instruction → List Source
  | .mov _ a | .mova _ a | .unary _ _ a | .texld _ _ _ a _ | .texldl _ a _ => [a]
  | .binary _ _ a b => [a, b]
  | .ternary _ _ a b c => [a, b, c]
  | _ => []

/-- The float constant register an immediate definition `def` defines. -/
def Instruction.definedConstant? : Instruction → Option Register
  | .define dst _ => some dst.reg
  | _ => none

/-- The float constant registers that instructions define, in order. -/
def definedConstants (body : List Instruction) : List Register :=
  body.filterMap Instruction.definedConstant?

/-- A source reads the constant block, the registers `defined` being defined: it reads a float
constant register relatively, or one that is not defined. -/
def Source.ReadsBlock (defined : List Register) (src : Source) : Prop :=
  src.reg.file = .const ∧ (src.relative.isSome ∨ src.reg ∉ defined)

instance (defined : List Register) : DecidablePred (Source.ReadsBlock defined) :=
  fun _ => inferInstanceAs (Decidable (_ ∧ _))

/-- Some instruction reads the constant block, the registers defined by the instructions before
it being defined. -/
def ReadsConstantBlock (body : List Instruction) : Prop :=
  ∃ i, ∃ hi : i < body.length,
    ∃ src ∈ body[i].sources, src.ReadsBlock (definedConstants (body.take i))

instance (body : List Instruction) : Decidable (ReadsConstantBlock body) :=
  inferInstanceAs (Decidable (∃ i, ∃ _ : i < body.length, _))

theorem definedConstants_append (pre : List Instruction) (ins : Instruction) :
    definedConstants (pre ++ [ins]) = definedConstants pre ++ ins.definedConstant?.toList := by
  cases h : ins.definedConstant? <;> simp [definedConstants, List.filterMap_append, h]

theorem not_readsConstantBlock_nil : ¬ReadsConstantBlock [] :=
  fun ⟨_, hi, _⟩ => Nat.not_lt_zero _ hi

/-- Running one more instruction reads the constant block when it has been read, or when the
instruction reads it. -/
theorem readsConstantBlock_append (pre : List Instruction) (ins : Instruction) :
    ReadsConstantBlock (pre ++ [ins]) ↔
      ReadsConstantBlock pre ∨ ∃ src ∈ ins.sources, src.ReadsBlock (definedConstants pre) := by
  constructor
  · rintro ⟨i, hi, src, hsrc, hreads⟩
    rw [List.length_append, List.length_singleton] at hi
    rcases Nat.lt_succ_iff_lt_or_eq.1 hi with hi | rfl
    · -- an instruction before the last
      rw [List.getElem_append_left hi] at hsrc
      rw [List.take_append_of_le_length hi.le] at hreads
      exact .inl ⟨i, hi, src, hsrc, hreads⟩
    · -- the last instruction
      rw [List.getElem_concat_length rfl] at hsrc
      rw [List.take_left' rfl] at hreads
      exact .inr ⟨src, hsrc, hreads⟩
  · rintro (⟨i, hi, src, hsrc, hreads⟩ | ⟨src, hsrc, hreads⟩)
    · refine ⟨i, by simp; omega, src, ?_, ?_⟩
      · rwa [List.getElem_append_left hi]
      · rwa [List.take_append_of_le_length hi.le]
    · refine ⟨pre.length, by simp, src, ?_, ?_⟩
      · rwa [List.getElem_concat_length rfl]
      · rwa [List.take_left' rfl]

/-- A register bound to a value has one, as have the registers that had one. -/
theorem isSome_lookup_bind (values : List (Register × Nat)) (reg r : Register) (id : Nat) :
    (((reg, id) :: values.filter (·.1 != reg)).lookup r).isSome ↔
      r = reg ∨ (values.lookup r).isSome := by
  rw [isSome_lookup_iff_mem_keys, isSome_lookup_iff_mem_keys, List.map_cons, keys_filter,
    List.mem_cons, List.mem_filter, bne_iff_ne]
  by_cases hr : r = reg <;> simp [hr]

/-- A register that a write accepts, a temporary or an output, is no float constant register. -/
theorem RegisterFile.ne_const_of_writable {f : RegisterFile}
    (h : ¬(f ≠ .temp ∧ (!f.isOutput) = true)) : f ≠ .const := by
  rintro rfl
  exact h ⟨by decide, by decide⟩

/-- An output register is no float constant register. -/
theorem RegisterFile.ne_const_of_isOutput {f : RegisterFile} (h : f.isOutput) : f ≠ .const := by
  rintro rfl
  exact absurd h (by decide)

/-! ### Following the constant block through lowering -/

namespace Lowering

/-- The constant block exists exactly when `M` holds; the registers `D` have values; and a float
constant register with a value is one of `D`, unless `M` holds. -/
structure TracksBlock (M : Prop) (D : List Register) (s : Lowering) : Prop where
  block : s.floatBlock.isSome ↔ M
  defined : ∀ r ∈ D, (s.values.lookup r).isSome
  read : ∀ r, r.file = .const → (s.values.lookup r).isSome → r ∈ D ∨ M

namespace TracksBlock

variable {M M' : Prop} {D : List Register} {s s' : Lowering}

/-- `TracksBlock` reads the constant block and the values of the state only. -/
theorem of_eq (h : s.TracksBlock M D) (hf : s'.floatBlock = s.floatBlock)
    (hv : s'.values = s.values) : s'.TracksBlock M D :=
  ⟨hf ▸ h.block, hv ▸ h.defined, hv ▸ h.read⟩

/-- `TracksBlock` reads which registers have values and whether the block exists, both of
which lowering's view of the state records. -/
theorem of_view (h : s.TracksBlock M D) (hv : view s' = view s) : s'.TracksBlock M D := by
  simp only [view, Prod.mk.injEq] at hv
  obtain ⟨-, -, -, hkeys, -, -, -, hblock, -⟩ := hv
  refine ⟨hblock ▸ h.block, fun r hr => ?_, fun r hr hval => h.read r hr ?_⟩
  · rw [isSome_lookup_of_keys hkeys]
    exact h.defined r hr
  · rwa [← isSome_lookup_of_keys hkeys]

theorem congr (h : s.TracksBlock M D) (hM : M ↔ M') : s.TracksBlock M' D :=
  ⟨h.block.trans hM, h.defined, fun r hr hv => (h.read r hr hv).imp_right hM.1⟩

/-- Binding a register that is no float constant register, one of `D`, or bound once the block
was read. -/
theorem bind (h : s.TracksBlock M D) {reg : Register} {id : Nat}
    (hv : s'.values = (reg, id) :: s.values.filter (·.1 != reg)) (hf : s'.floatBlock = s.floatBlock)
    (hreg : reg.file = .const → reg ∈ D ∨ M) : s'.TracksBlock M D where
  block := hf ▸ h.block
  defined r hr := by
    rw [hv, isSome_lookup_bind]
    exact .inr (h.defined r hr)
  read r hr hval := by
    rw [hv, isSome_lookup_bind] at hval
    rcases hval with rfl | hval
    · exact hreg hr
    · exact h.read r hr hval

/-- Binding a defined register defines it. -/
theorem define (h : s.TracksBlock M D) {reg : Register} {id : Nat}
    (hv : s'.values = (reg, id) :: s.values.filter (·.1 != reg)) (hf : s'.floatBlock = s.floatBlock) :
    s'.TracksBlock M (D ++ [reg]) where
  block := hf ▸ h.block
  defined r hr := by
    rw [hv, isSome_lookup_bind]
    rcases List.mem_append.1 hr with hr | hr
    · exact .inr (h.defined r hr)
    · exact .inl (List.mem_singleton.1 hr)
  read r hr hval := by
    rw [hv, isSome_lookup_bind] at hval
    rcases hval with rfl | hval
    · exact .inl (List.mem_append_right _ (List.mem_singleton_self _))
    · exact (h.read r hr hval).imp_left (List.mem_append_left _)

/-- Once the block exists, it is read. -/
theorem declared (h : s.TracksBlock M D) (hf : s'.floatBlock.isSome)
    (hv : s'.values = s.values) : s'.TracksBlock True D :=
  ⟨iff_true_intro hf, hv ▸ h.defined, fun _ _ _ => .inr trivial⟩

/-- A register that has a value reads as it: the read adds nothing to the block's reads. -/
theorem bound (h : s.TracksBlock M D) {reg : Register} (hv : (s.values.lookup reg).isSome) :
    s.TracksBlock (M ∨ reg.file = .const ∧ reg ∉ D) D :=
  h.congr ⟨.inl, fun hm => hm.elim id fun ⟨hc, hd⟩ => (h.read reg hc hv).resolve_left hd⟩

/-- A register of a file other than the float constants', bound at its first read. -/
theorem bindOther (h : s.TracksBlock M D) {reg : Register} {id : Nat}
    (hv : s'.values = (reg, id) :: s.values.filter (·.1 != reg)) (hf : s'.floatBlock = s.floatBlock)
    (hreg : reg.file ≠ .const) : s'.TracksBlock (M ∨ reg.file = .const ∧ reg ∉ D) D :=
  (h.bind hv hf fun hc => absurd hc hreg).congr
    ⟨.inl, fun hm => hm.resolve_right fun ⟨hc, _⟩ => hreg hc⟩

/-- A float constant register that had no value in `s₀`, so is not defined, bound once its
block element is loaded: the read is of the block. -/
theorem bindLoaded (h : s.TracksBlock True D) {s₀ : Lowering} (h₀ : s₀.TracksBlock M D)
    {reg : Register} {id : Nat} (hnone : s₀.values.lookup reg = none) (hc : reg.file = .const)
    (hv : s'.values = (reg, id) :: s.values.filter (·.1 != reg)) (hf : s'.floatBlock = s.floatBlock) :
    s'.TracksBlock (M ∨ reg.file = .const ∧ reg ∉ D) D :=
  have hnot : reg ∉ D := fun hd => by simpa [hnone] using h₀.defined reg hd
  (h.bind hv hf fun _ => .inr trivial).congr (iff_true_intro (.inr ⟨hc, hnot⟩)).symm

/-- A relatively addressed read of a float constant register reads the block. -/
theorem relative (h : s.TracksBlock True D) {src : Source} (hc : src.reg.file = .const)
    (hrel : src.relative.isSome) : s.TracksBlock (M ∨ src.ReadsBlock D) D :=
  h.congr (iff_true_intro (.inr ⟨hc, .inl hrel⟩)).symm

/-- A read without relative addressing is a read of its register. -/
theorem direct {src : Source} (h : s.TracksBlock (M ∨ src.reg.file = .const ∧ src.reg ∉ D) D)
    (hrel : src.relative = none) : s.TracksBlock (M ∨ src.ReadsBlock D) D :=
  h.congr (by simp [Source.ReadsBlock, hrel])

/-- A read of a register of a file other than the float constants' reads no block. -/
theorem other {reg : Register} (h : s.TracksBlock (M ∨ reg.file = .const ∧ reg ∉ D) D)
    (hreg : reg.file ≠ .const) : s.TracksBlock M D :=
  h.congr ⟨fun hm => hm.resolve_right fun ⟨hc, _⟩ => hreg hc, .inl⟩

end TracksBlock

section

set_option mvcgen.warning false

-- Constant vectors are known by their specifications only: unfolding one while matching a step
-- against its specification would evaluate the whole list of constants it builds.
attribute [local irreducible] Builder.vec4Constant

variable {M : Prop} {D : List Register}

/-- A step that only builds the module keeps the constant block and the registers with
values. -/
theorem Inert.tracksBlock {α : Type} {x : LowerM α} (hx : Inert x) :
    ⦃fun s => ⌜s.TracksBlock M D⌝⦄ x ⦃⇓? _ s => ⌜s.TracksBlock M D⌝⦄ := by
  intro s h
  obtain ⟨a, t, hrun, hview⟩ := hx s
  -- the postcondition is read at the one outcome of the step
  change (wp⟦(x s : Except ConvertError (α × Lowering))⟧
    (fun r => ⌜r.2.TracksBlock M D⌝, fun _ => ⌜True⌝, ())).down
  rw [hrun]
  exact h.of_view hview

/-- A module building step keeps the constant block and the values. -/
theorem build_tracksBlock {α : Type} (x : BuildM α) :
    ⦃fun s => ⌜s.TracksBlock M D⌝⦄ build x ⦃⇓? _ s => ⌜s.TracksBlock M D⌝⦄ :=
  fun _ h => h.of_eq rfl rfl

theorem bindValue_tracksBlock (reg : Register) (id : Nat) (hreg : reg.file = .const → reg ∈ D ∨ M) :
    ⦃fun s => ⌜s.TracksBlock M D⌝⦄ bindValue reg id ⦃⇓? _ s => ⌜s.TracksBlock M D⌝⦄ :=
  fun _ h => h.bind rfl rfl hreg

theorem loadInput_tracksBlock (reg : Register) :
    ⦃fun s => ⌜s.TracksBlock M D⌝⦄ loadInput reg ⦃⇓? _ s => ⌜s.TracksBlock M D⌝⦄ := by
  have hbuild := @build_tracksBlock M D
  mvcgen [loadInput, unpackColor, typeId, floatType, float32, compute, shuffle, alloc, emit,
    hbuild]

/-- The constant block exists after it is asked for. -/
theorem constantBlock_tracksBlock :
    ⦃fun s => ⌜s.TracksBlock M D⌝⦄ constantBlock ⦃⇓? _ s => ⌜s.TracksBlock True D⌝⦄ := by
  have hbuild := @build_tracksBlock M D
  mvcgen [constantBlock, typeId, alloc, hbuild] with
    (have h := ‹TracksBlock M D _›
     first
     | exact h.declared (by simp [‹_ = some _›]) rfl
     | (dsimp +zetaDelta only
        exact h.declared rfl rfl))

theorem blockElement_tracksBlock (index : Nat) :
    ⦃fun s => ⌜s.TracksBlock M D⌝⦄ blockElement index ⦃⇓? _ s => ⌜s.TracksBlock True D⌝⦄ := by
  have hbuild := @build_tracksBlock True D
  have hblock := @constantBlock_tracksBlock M D
  mvcgen [blockElement, hblock, int32, compute, typeId, alloc, emit, hbuild]

theorem loadConstant_tracksBlock (reg : Register) :
    ⦃fun s => ⌜s.TracksBlock M D⌝⦄ loadConstant reg ⦃⇓? _ s => ⌜s.TracksBlock True D⌝⦄ := by
  have hbuild := @build_tracksBlock M D
  have helement := @blockElement_tracksBlock M D
  mvcgen [loadConstant, checkFloatConstant, int32, helement, hbuild]

/-- Reading a register reads the constant block when it is a float constant register that is
not defined. -/
theorem read_tracksBlock (reg : Register) :
    ⦃fun s => ⌜s.TracksBlock M D⌝⦄ read reg
      ⦃⇓? _ s => ⌜s.TracksBlock (M ∨ reg.file = .const ∧ reg ∉ D) D⌝⦄ := by
  have hbuild := @build_tracksBlock M D
  have hinput := @loadInput_tracksBlock M D
  have hconst := @loadConstant_tracksBlock M D
  mvcgen [read, hbuild, hinput, hconst, bindValue] with
    first
    | exact ‹TracksBlock M D _›.bound (by simp [‹List.lookup reg _ = some _›])
    | (dsimp +zetaDelta only
       first
       | exact ‹TracksBlock M D _›.bindOther rfl rfl (fun hc => by simp_all)
       | exact ‹TracksBlock True D _›.bindLoaded ‹TracksBlock M D _› ‹_ = none› ‹_› rfl rfl)

theorem selectDefined_tracksBlock (index boolType bvec4 vec4 value : Nat) (reg : Register) :
    ⦃fun s => ⌜s.TracksBlock M D⌝⦄ selectDefined index boolType bvec4 vec4 value reg
      ⦃⇓? _ s => ⌜s.TracksBlock M D⌝⦄ := by
  have hbuild := @build_tracksBlock M D
  mvcgen [selectDefined, int32, compute, alloc, emit, hbuild]

/-- A source reads the constant block when it reads a float constant register relatively, or
one that is not defined. -/
theorem addressed_tracksBlock (src : Source) :
    ⦃fun s => ⌜s.TracksBlock M D⌝⦄ addressed src
      ⦃⇓? _ s => ⌜s.TracksBlock (M ∨ src.ReadsBlock D) D⌝⦄ := by
  have hread := @read_tracksBlock M D src.reg
  have helement := @blockElement_tracksBlock M D
  have hselect := @selectDefined_tracksBlock True D
  mvcgen [addressed, hread, checkFloatConstant, extract, int32, compute, glslCall, alloc, emit,
    helement, typeId, floatType, hselect, build_spec] invariants
    · ⇓? _ s => ⌜s.TracksBlock True D⌝
  with
    first
    | (have h := ‹TracksBlock M D _›
       exact h.of_eq rfl rfl)
    | (have h := ‹TracksBlock True D _›
       first
       | exact h.of_eq rfl rfl
       | exact h.relative (of_not_not ‹_›) (by simp [‹src.relative = some _›]))
    | (intro h
       first
       | exact h.relative (of_not_not ‹_›) (by simp [‹src.relative = some _›])
       | exact h.direct (by simp_all [Option.eq_none_iff_forall_ne_some]))

theorem source_tracksBlock (src : Source) (width : Nat) :
    ⦃fun s => ⌜s.TracksBlock M D⌝⦄ source src width
      ⦃⇓? _ s => ⌜s.TracksBlock (M ∨ src.ReadsBlock D) D⌝⦄ := by
  have haddressed := @addressed_tracksBlock M D src
  mvcgen [source, haddressed, floatType, extract, shuffle, compute, glslCall, alloc, emit,
    build_spec] with
    (have h := ‹TracksBlock (M ∨ _) D _›
     exact h.of_eq rfl rfl)

/-- Merging into the previous value of a register that is no float constant register. -/
theorem mergeMask_tracksBlock (reg : Register) (mask : WriteMask) (value : Nat) (ty : TypeDesc)
    (hreg : reg.file ≠ .const) :
    ⦃fun s => ⌜s.TracksBlock M D⌝⦄ mergeMask reg mask value ty ⦃⇓? _ s => ⌜s.TracksBlock M D⌝⦄ := by
  have hread := @read_tracksBlock M D reg
  mvcgen [mergeMask, hread, typeId, shuffle, compute, alloc, emit, build_spec] with
    first
    | (have h := ‹TracksBlock (M ∨ _) D _›
       exact (h.other hreg).of_eq rfl rfl)
    | (have h := ‹TracksBlock M D _›
       exact h.of_eq rfl rfl)

theorem ensureOutput_tracksBlock (reg : Register) :
    ⦃fun s => ⌜s.TracksBlock M D⌝⦄ ensureOutput reg ⦃⇓? _ s => ⌜s.TracksBlock M D⌝⦄ := by
  mvcgen [ensureOutput, createOutput, interfaceVariable, alloc, build_spec] with
    (have h := ‹TracksBlock M D _›
     exact h.of_eq rfl rfl)

/-- Writing a temporary or output register, the only registers a write accepts. -/
theorem writeDestination_tracksBlock (dst : Destination) (value width : Nat) :
    ⦃fun s => ⌜s.TracksBlock M D⌝⦄ writeDestination dst value width
      ⦃⇓? _ s => ⌜s.TracksBlock M D⌝⦄ := by
  have houtput := @ensureOutput_tracksBlock M D dst.reg
  have hmerge := fun mask value ty (hreg : dst.reg.file ≠ .const) =>
    @mergeMask_tracksBlock M D dst.reg mask value ty hreg
  have hbind := fun id (hreg : dst.reg.file = .const → dst.reg ∈ D ∨ M) =>
    @bindValue_tracksBlock M D dst.reg id hreg
  mvcgen [writeDestination, houtput, hmerge, hbind, floatType, splat, float32, compute, glslCall,
    alloc, emit, build_spec] with
    first
    | exact RegisterFile.ne_const_of_writable ‹_›
    | (intro _ _ hc
       exact absurd hc (RegisterFile.ne_const_of_writable ‹_›))
    | (have h := ‹TracksBlock M D _›
       exact h.of_eq rfl rfl)


theorem writeAddress_tracksBlock (dst : Destination) (value : Nat) (round : Bool)
    (hdst : dst.reg.file ≠ .const) :
    ⦃fun s => ⌜s.TracksBlock M D⌝⦄ writeAddress dst value round ⦃⇓? _ s => ⌜s.TracksBlock M D⌝⦄ := by
  have hmerge := fun mask value ty => @mergeMask_tracksBlock M D dst.reg mask value ty hdst
  have hbind := @bindValue_tracksBlock M D dst.reg
  mvcgen [writeAddress, hmerge, hbind, floatType, glslCall, typeId, compute, alloc, emit,
    build_spec] with
    first
    | (intro _ _ hc
       exact absurd hc hdst)
    | (have h := ‹TracksBlock M D _›
       exact h.of_eq rfl rfl)

theorem mov_tracksBlock (dst : Destination) (src : Source) :
    ⦃fun s => ⌜s.TracksBlock M D⌝⦄ mov dst src
      ⦃⇓? _ s => ⌜s.TracksBlock (M ∨ src.ReadsBlock D) D⌝⦄ := by
  have hsource := @source_tracksBlock M D src 4
  have haddress := fun value round (hdst : dst.reg.file ≠ .const) =>
    @writeAddress_tracksBlock (M ∨ src.ReadsBlock D) D dst value round hdst
  have hwrite := @writeDestination_tracksBlock (M ∨ src.ReadsBlock D) D dst
  mvcgen [mov, hsource, haddress, hwrite] with
    (intro _ _
     rw [‹dst.reg.file = _›]
     decide)

theorem mova_tracksBlock (dst : Destination) (src : Source) :
    ⦃fun s => ⌜s.TracksBlock M D⌝⦄ mova dst src
      ⦃⇓? _ s => ⌜s.TracksBlock (M ∨ src.ReadsBlock D) D⌝⦄ := by
  have hsource := @source_tracksBlock M D src 4
  have haddress := fun value round (hdst : dst.reg.file ≠ .const) =>
    @writeAddress_tracksBlock (M ∨ src.ReadsBlock D) D dst value round hdst
  mvcgen [mova, hsource, haddress] with
    (intro _ _
     rw [of_not_not ‹¬dst.reg.file ≠ _›]
     decide)

theorem unary_tracksBlock (op : UnaryOp) (dst : Destination) (a : Source) :
    ⦃fun s => ⌜s.TracksBlock M D⌝⦄ unary op dst a
      ⦃⇓? _ s => ⌜s.TracksBlock (M ∨ a.ReadsBlock D) D⌝⦄ := by
  have hsource := @source_tracksBlock M D a
  have hwrite := @writeDestination_tracksBlock (M ∨ a.ReadsBlock D) D dst
  mvcgen [unary, hsource, hwrite, floatType, float32, glslCall, compute, alloc, emit, build_spec]
    with
    (have h := ‹TracksBlock (M ∨ _) D _›
     exact h.of_eq rfl rfl)

theorem floatType_tracksBlock (width : Nat) :
    ⦃fun s => ⌜s.TracksBlock M D⌝⦄ floatType width ⦃⇓? _ s => ⌜s.TracksBlock M D⌝⦄ :=
  Inert.tracksBlock (floatType_inert width)

theorem compute_tracksBlock (op : Op) (ty : Nat) (operands : List Nat) :
    ⦃fun s => ⌜s.TracksBlock M D⌝⦄ compute op ty operands ⦃⇓? _ s => ⌜s.TracksBlock M D⌝⦄ :=
  Inert.tracksBlock (compute_inert op ty operands)

theorem glslCall_tracksBlock (op : GlslOp) (ty : Nat) (args : List Nat) :
    ⦃fun s => ⌜s.TracksBlock M D⌝⦄ glslCall op ty args ⦃⇓? _ s => ⌜s.TracksBlock M D⌝⦄ :=
  Inert.tracksBlock (glslCall_inert op ty args)

theorem typeId_tracksBlock (d : TypeDesc) :
    ⦃fun s => ⌜s.TracksBlock M D⌝⦄ typeId d ⦃⇓? _ s => ⌜s.TracksBlock M D⌝⦄ :=
  Inert.tracksBlock (typeId_inert d)

theorem compareSelect_tracksBlock (op : Op) (a b : Nat) :
    ⦃fun s => ⌜s.TracksBlock M D⌝⦄ compareSelect op a b ⦃⇓? _ s => ⌜s.TracksBlock M D⌝⦄ :=
  Inert.tracksBlock (compareSelect_inert op a b)

theorem binary_tracksBlock (op : BinaryOp) (dst : Destination) (a b : Source) :
    ⦃fun s => ⌜s.TracksBlock M D⌝⦄ binary op dst a b
      ⦃⇓? _ s => ⌜s.TracksBlock ((M ∨ a.ReadsBlock D) ∨ b.ReadsBlock D) D⌝⦄ := by
  have hfirst := @source_tracksBlock M D a
  have hsecond := @source_tracksBlock (M ∨ a.ReadsBlock D) D b
  have hfloat := @floatType_tracksBlock ((M ∨ a.ReadsBlock D) ∨ b.ReadsBlock D) D
  have hcompute := @compute_tracksBlock ((M ∨ a.ReadsBlock D) ∨ b.ReadsBlock D) D
  have hglsl := @glslCall_tracksBlock ((M ∨ a.ReadsBlock D) ∨ b.ReadsBlock D) D
  have hcompare := @compareSelect_tracksBlock ((M ∨ a.ReadsBlock D) ∨ b.ReadsBlock D) D
  have hwrite := @writeDestination_tracksBlock ((M ∨ a.ReadsBlock D) ∨ b.ReadsBlock D) D dst
  mvcgen [binary, hfirst, hsecond, hfloat, hcompute, hglsl, hcompare, hwrite]

theorem ternary_tracksBlock (op : TernaryOp) (dst : Destination) (a b c : Source) :
    ⦃fun s => ⌜s.TracksBlock M D⌝⦄ ternary op dst a b c
      ⦃⇓? _ s => ⌜s.TracksBlock (((M ∨ a.ReadsBlock D) ∨ b.ReadsBlock D) ∨ c.ReadsBlock D) D⌝⦄ := by
  have hfirst := @source_tracksBlock M D a
  have hsecond := @source_tracksBlock (M ∨ a.ReadsBlock D) D b
  have hthird := @source_tracksBlock ((M ∨ a.ReadsBlock D) ∨ b.ReadsBlock D) D c
  have hfloat := @floatType_tracksBlock (((M ∨ a.ReadsBlock D) ∨ b.ReadsBlock D) ∨ c.ReadsBlock D) D
  have hcompute := @compute_tracksBlock (((M ∨ a.ReadsBlock D) ∨ b.ReadsBlock D) ∨ c.ReadsBlock D) D
  have hglsl := @glslCall_tracksBlock (((M ∨ a.ReadsBlock D) ∨ b.ReadsBlock D) ∨ c.ReadsBlock D) D
  have hwrite :=
    @writeDestination_tracksBlock (((M ∨ a.ReadsBlock D) ∨ b.ReadsBlock D) ∨ c.ReadsBlock D) D dst
  mvcgen [ternary, hfirst, hsecond, hthird, hfloat, hcompute, hglsl, hwrite]

theorem sampledImage_tracksBlock (src : Source) :
    ⦃fun s => ⌜s.TracksBlock M D⌝⦄ sampledImage src ⦃⇓? _ s => ⌜s.TracksBlock M D⌝⦄ := by
  mvcgen [sampledImage, typeId_tracksBlock, compute_tracksBlock]

theorem texld_tracksBlock (control tokenIndex : Nat) (dst : Destination) (coord sampler : Source) :
    ⦃fun s => ⌜s.TracksBlock M D⌝⦄ texld control tokenIndex dst coord sampler
      ⦃⇓? _ s => ⌜s.TracksBlock (M ∨ coord.ReadsBlock D) D⌝⦄ := by
  have himage := @sampledImage_tracksBlock M D sampler
  have hsource := @source_tracksBlock M D coord 4
  have htruncate := fun value width =>
    @Inert.tracksBlock (M ∨ coord.ReadsBlock D) D _ _ (truncate_inert value width)
  have hsample := fun op image coordinates operands =>
    @Inert.tracksBlock (M ∨ coord.ReadsBlock D) D _ _ (sample_inert op image coordinates operands)
  have hfloat := @floatType_tracksBlock (M ∨ coord.ReadsBlock D) D
  have hshuffle := fun ty x y components =>
    @Inert.tracksBlock (M ∨ coord.ReadsBlock D) D _ _ (shuffle_inert ty x y components)
  have hextract := fun ty composite index =>
    @Inert.tracksBlock (M ∨ coord.ReadsBlock D) D _ _ (extract_inert ty composite index)
  have hwrite := @writeDestination_tracksBlock (M ∨ coord.ReadsBlock D) D dst
  mvcgen [texld, himage, hsource, htruncate, hsample, hfloat, hshuffle, hextract, hwrite]

theorem texldl_tracksBlock (dst : Destination) (coord sampler : Source) :
    ⦃fun s => ⌜s.TracksBlock M D⌝⦄ texldl dst coord sampler
      ⦃⇓? _ s => ⌜s.TracksBlock (M ∨ coord.ReadsBlock D) D⌝⦄ := by
  have himage := @sampledImage_tracksBlock M D sampler
  have hsource := @source_tracksBlock M D coord 4
  have htruncate := fun value width =>
    @Inert.tracksBlock (M ∨ coord.ReadsBlock D) D _ _ (truncate_inert value width)
  have hsample := fun op image coordinates operands =>
    @Inert.tracksBlock (M ∨ coord.ReadsBlock D) D _ _ (sample_inert op image coordinates operands)
  have hfloat := @floatType_tracksBlock (M ∨ coord.ReadsBlock D) D
  have hextract := fun ty composite index =>
    @Inert.tracksBlock (M ∨ coord.ReadsBlock D) D _ _ (extract_inert ty composite index)
  have hwrite := @writeDestination_tracksBlock (M ∨ coord.ReadsBlock D) D dst
  mvcgen [texldl, himage, hsource, htruncate, hsample, hfloat, hextract, hwrite]

theorem interfaceVariable_tracksBlock (reg : Register) (ty : TypeDesc) (slot : InterfaceSlot) :
    ⦃fun s => ⌜s.TracksBlock M D⌝⦄ interfaceVariable reg ty slot ⦃⇓? _ s => ⌜s.TracksBlock M D⌝⦄ :=
  Inert.tracksBlock (interfaceVariable_inert reg ty slot)

/-- Declarations create variables and record descriptors; they bind no register. -/
theorem declare_tracksBlock (decl : Declaration) (dst : Destination) :
    ⦃fun s => ⌜s.TracksBlock M D⌝⦄ declare decl dst ⦃⇓? _ s => ⌜s.TracksBlock M D⌝⦄ := by
  have hvariable := @interfaceVariable_tracksBlock M D
  have hsampler : ∀ index type,
      ⦃fun s => ⌜s.TracksBlock M D⌝⦄ declareSampler index type ⦃⇓? _ s => ⌜s.TracksBlock M D⌝⦄ := by
    intro index type
    -- the loop over the two variables, unrolled
    simp only [declareSampler, List.forIn_cons, List.forIn_nil]
    mvcgen [alloc] with
      (have h := ‹TracksBlock M D _›
       exact h.of_eq rfl rfl)
  mvcgen [declare, hsampler, declareVertexInput, declarePixelInput, declareOutput, createOutput,
    hvariable] with
    (have h := ‹TracksBlock M D _›
     exact h.of_eq rfl rfl)

/-- An immediate definition of a float constant register defines it. -/
theorem define_tracksBlock (dst : Destination) (values : List UInt32) :
    ⦃fun s => ⌜s.TracksBlock M D⌝⦄ define dst values ⦃⇓? _ s => ⌜s.TracksBlock M (D ++ [dst.reg])⌝⦄ := by
  mvcgen [define, checkDefinition, bindDefined, bindValue, build_spec] with
    (have h := ‹TracksBlock M D _›
     dsimp +zetaDelta only
     split
     · exact h.define rfl rfl
     · exact h.define rfl rfl)

/-- An integer or boolean constant register is bound; it is no float constant register. -/
theorem defineInt_tracksBlock (dst : Destination) (values : List UInt32) :
    ⦃fun s => ⌜s.TracksBlock M D⌝⦄ defineInt dst values ⦃⇓? _ s => ⌜s.TracksBlock M D⌝⦄ := by
  have hparts := @Inert.tracksBlock M D _ _ (Inert.mapM values fun v => int32_inert v.toNat)
  mvcgen [defineInt, hparts, checkDefinition, bindDefined, bindValue, build_spec] with
    (have h := ‹TracksBlock M D _›
     dsimp +zetaDelta only
     have hfile : dst.reg.file = .constInt := of_not_not ‹_›
     split
     · exact h.bind rfl rfl fun hc => absurd (hfile.symm.trans hc) (by decide)
     · exact h.bind rfl rfl fun hc => absurd (hfile.symm.trans hc) (by decide))

theorem defineBool_tracksBlock (dst : Destination) (value : UInt32) :
    ⦃fun s => ⌜s.TracksBlock M D⌝⦄ defineBool dst value ⦃⇓? _ s => ⌜s.TracksBlock M D⌝⦄ := by
  mvcgen [defineBool, checkDefinition, bindDefined, bindValue, build_spec] with
    (have h := ‹TracksBlock M D _›
     dsimp +zetaDelta only
     have hfile : dst.reg.file = .constBool := of_not_not ‹_›
     split
     · exact h.bind rfl rfl fun hc => absurd (hfile.symm.trans hc) (by decide)
     · exact h.bind rfl rfl fun hc => absurd (hfile.symm.trans hc) (by decide))

/-- Reading a register of a file other than the float constants' reads no block. -/
theorem read_tracksBlock_of_ne (reg : Register) (hreg : reg.file ≠ .const) :
    ⦃fun s => ⌜s.TracksBlock M D⌝⦄ read reg ⦃⇓? _ s => ⌜s.TracksBlock M D⌝⦄ :=
  triple_weaken (read_tracksBlock reg) fun _ h => h.other hreg

/-- Storing the outputs reads output registers only. -/
theorem storeOutputs_tracksBlock :
    ⦃fun s => ⌜s.Framed ∧ s.TracksBlock M D⌝⦄ storeOutputs ⦃⇓? _ s => ⌜s.TracksBlock M D⌝⦄ := by
  have hread := @read_tracksBlock_of_ne M D
  have hflip := fun position => @Inert.tracksBlock M D _ _ (flipY_inert position)
  have hfloat := @floatType_tracksBlock M D
  have hextract := fun ty composite index =>
    @Inert.tracksBlock M D _ _ (extract_inert ty composite index)
  have hemit := fun i => @Inert.tracksBlock M D _ _ (emit_inert i)
  mvcgen [storeOutputs, hread, hflip, hfloat, hextract, hemit] invariants
    · ⇓? _ s => ⌜s.TracksBlock M D⌝
  with
    first
    | exact ‹Framed _ ∧ TracksBlock M D _›.2
    | -- a register with an output variable is an output register
      (obtain ⟨p, hp, rfl⟩ := List.mem_map.1 ((isSome_lookup_iff_mem_keys _ _).1
         (Option.isSome_of_eq_some ‹List.lookup _ _ = some _›))
       exact RegisterFile.ne_const_of_isOutput (‹Framed _ ∧ _›.1.2.outputs p hp).2)

/-- The reads and definitions a step is followed by may be restated. -/
theorem tracksBlock_conseq {α : Type} {x : LowerM α} {M₁ M₂ : Prop} {D₁ D₂ : List Register}
    (h : ⦃fun s => ⌜s.TracksBlock M D⌝⦄ x ⦃⇓? _ s => ⌜s.TracksBlock M₁ D₁⌝⦄) (hM : M₁ ↔ M₂)
    (hD : D₁ = D₂) : ⦃fun s => ⌜s.TracksBlock M D⌝⦄ x ⦃⇓? _ s => ⌜s.TracksBlock M₂ D₂⌝⦄ :=
  triple_weaken h fun _ hs => hD ▸ hs.congr hM

/-- An instruction reads the constant block when one of its sources does, and defines the float
constant register a `def` names. -/
theorem instruction_tracksBlock (ins : Instruction) :
    ⦃fun s => ⌜s.TracksBlock M D⌝⦄ instruction ins
      ⦃⇓? _ s => ⌜s.TracksBlock (M ∨ ∃ src ∈ ins.sources, src.ReadsBlock D)
        (D ++ ins.definedConstant?.toList)⌝⦄ := by
  cases ins with
  | nop =>
    exact tracksBlock_conseq (by mvcgen [instruction]) (by simp [Instruction.sources])
      (by simp [Instruction.definedConstant?])
  | dcl decl dst =>
    exact tracksBlock_conseq (declare_tracksBlock decl dst) (by simp [Instruction.sources])
      (by simp [Instruction.definedConstant?])
  | define dst values =>
    exact tracksBlock_conseq (define_tracksBlock dst values) (by simp [Instruction.sources])
      (by simp [Instruction.definedConstant?])
  | defineInt dst values =>
    exact tracksBlock_conseq (defineInt_tracksBlock dst values) (by simp [Instruction.sources])
      (by simp [Instruction.definedConstant?])
  | defineBool dst value =>
    exact tracksBlock_conseq (defineBool_tracksBlock dst value) (by simp [Instruction.sources])
      (by simp [Instruction.definedConstant?])
  | mov dst a =>
    exact tracksBlock_conseq (mov_tracksBlock dst a) (by simp [Instruction.sources])
      (by simp [Instruction.definedConstant?])
  | mova dst a =>
    exact tracksBlock_conseq (mova_tracksBlock dst a) (by simp [Instruction.sources])
      (by simp [Instruction.definedConstant?])
  | unary op dst a =>
    exact tracksBlock_conseq (unary_tracksBlock op dst a) (by simp [Instruction.sources])
      (by simp [Instruction.definedConstant?])
  | binary op dst a b =>
    exact tracksBlock_conseq (binary_tracksBlock op dst a b)
      (by simp [Instruction.sources, or_assoc]) (by simp [Instruction.definedConstant?])
  | ternary op dst a b c =>
    exact tracksBlock_conseq (ternary_tracksBlock op dst a b c)
      (by simp [Instruction.sources, or_assoc]) (by simp [Instruction.definedConstant?])
  | texld control tokenIndex dst coord sampler =>
    exact tracksBlock_conseq (texld_tracksBlock control tokenIndex dst coord sampler)
      (by simp [Instruction.sources]) (by simp [Instruction.definedConstant?])
  | texldl dst coord sampler =>
    exact tracksBlock_conseq (texldl_tracksBlock dst coord sampler)
      (by simp [Instruction.sources]) (by simp [Instruction.definedConstant?])

/-- Lowering instructions from a framed state follows the reads of the block: each instruction
reads it when the program so far does. -/
theorem body_tracksBlock (body : List Instruction) (hwf : ∀ ins ∈ body, ins.WellFormed) :
    ⦃fun s => ⌜s.Framed ∧ s.TracksBlock False []⌝⦄ body.forM instruction
      ⦃⇓? _ s => ⌜s.Framed ∧ s.TracksBlock (ReadsConstantBlock body) (definedConstants body)⌝⦄ := by
  have hstep : ∀ pre, ∀ ins ∈ body,
      ⦃fun s => ⌜s.Framed ∧ s.TracksBlock (ReadsConstantBlock pre) (definedConstants pre)⌝⦄
        instruction ins
      ⦃⇓? _ s => ⌜s.Framed ∧
        s.TracksBlock (ReadsConstantBlock (pre ++ [ins])) (definedConstants (pre ++ [ins]))⌝⦄ := by
    intro pre ins hins
    have hframed := framed_closed.instruction_keeps ins (hwf ins hins)
      (fun decl dst _ hreg => declare_framed decl dst hreg)
    have htracks := tracksBlock_conseq (instruction_tracksBlock ins)
      (readsConstantBlock_append pre ins).symm (definedConstants_append pre ins).symm
    exact keeps_and hframed fun s hs => htracks s hs.2
  have hrun := forM_triple hstep []
  simp only [List.nil_append] at hrun
  intro s hs
  refine hrun s ⟨hs.1, hs.2.congr ?_⟩
  exact ⟨False.elim, not_readsConstantBlock_nil⟩

attribute [local spec] emit_spec addEntryPoint_spec addExecutionMode_spec

/-- Lowering a program of well formed instructions ends with the constant block declared exactly
when the program reads it. -/
theorem program_tracksBlock (p : Program) (hwf : ∀ ins ∈ p.body, ins.WellFormed) :
    ⦃fun s => ⌜s.Framed ∧ s.TracksBlock False []⌝⦄ program p
      ⦃⇓? _ s => ⌜s.floatBlock.isSome ↔ ReadsConstantBlock p.body⌝⦄ := by
  have body := body_tracksBlock p.body hwf
  have hstore := @storeOutputs_tracksBlock (ReadsConstantBlock p.body) (definedConstants p.body)
  mvcgen [program, body, finish, hstore] with
    exact ‹TracksBlock _ _ _›.block

end

/-- Lowering starts with no constant block and no register value. -/
theorem start_tracksBlock (options : Options) (registry : ConstantRegistry) (version : ShaderVersion) :
    (start options registry version).TracksBlock False [] where
  block := ⟨fun h => Option.not_isSome_iff_eq_none.2 rfl h, False.elim⟩
  defined _ h := absurd h List.not_mem_nil
  read _ _ h := absurd h (Option.not_isSome_iff_eq_none.2 rfl)

end Lowering

end ShaderBridge
