import ShaderBridge.Proofs.Assembly

/-!
The index arithmetic of a conversion stays in range: register numbers fit a byte, constant block
elements stay below `2 ^ 31`, and the vertex stride within `16 * 16` bytes.
-/

namespace ShaderBridge

open Std.Do Spirv

/-- A constant slot whose fields are below `2 ^ 20`. -/
def ConstantSlot.Bounded (slot : ConstantSlot) : Prop :=
  slot.set < 2 ^ 20 ∧ slot.binding < 2 ^ 20 ∧ slot.base < 2 ^ 20 ∧
    slot.registerCount < 2 ^ 20 ∧ slot.blockRegisters < 2 ^ 20

instance (slot : ConstantSlot) : Decidable slot.Bounded :=
  inferInstanceAs (Decidable (_ ∧ _ ∧ _ ∧ _ ∧ _))

/-- A registry all of whose constant slots are bounded. -/
def ConstantRegistry.Bounded (r : ConstantRegistry) : Prop :=
  ∀ stage file, (r.slot stage file).Bounded

/-- The standard layout in its default descriptor sets is bounded. -/
theorem SlotLayout.registry_bounded : (SlotLayout.registry {}).Bounded := by
  intro stage file
  cases stage <;> cases file <;> decide

theorem RegisterFile.maxIndex_le (f : RegisterFile) : f.maxIndex ≤ 255 := by
  cases f <;> simp [RegisterFile.maxIndex]

/-- A register within its file has a number below `2 ^ 8`: narrowing it to a byte, or to a
32-bit integer, is exact. -/
theorem Register.InRange.lt_two_pow_eight {r : Register} (h : r.InRange) : r.index < 2 ^ 8 :=
  Nat.lt_of_le_of_lt (h.trans r.file.maxIndex_le) (by decide)

namespace Lowering

variable {α β : Type}

/-- A sequence of steps succeeds exactly when its first step does and the rest succeeds from
where it left the state. -/
theorem bind_eq_ok {x : LowerM α} {f : α → LowerM β} {s : Lowering} {r : β × Lowering} :
    (x >>= f) s = .ok r ↔ ∃ a s', x s = .ok (a, s') ∧ f a s' = .ok r := by
  show (x s >>= fun p => f p.1 p.2) = _ ↔ _
  cases x s with
  | error e => simp [bind, Except.bind]
  | ok p =>
    obtain ⟨a, s'⟩ := p
    simp [bind, Except.bind]

theorem fail_bind_ne_ok {e : ConvertError} {f : α → LowerM β} {s : Lowering}
    {r : β × Lowering} : (fail e >>= f) s ≠ .ok r := by
  simp [bind_eq_ok, fail]

/-- The check of a float constant register passes only for a register below the stage's count,
returns the stage's slot and changes nothing. -/
theorem checkFloatConstant_eq_ok {reg : Register} {s s' : Lowering} {slot : ConstantSlot}
    (h : checkFloatConstant reg s = .ok (slot, s')) :
    slot = s.registry.slot s.version.stage .float ∧ reg.index < slot.registerCount ∧ s' = s := by
  simp only [checkFloatConstant, floatSlot, bind_eq_ok] at h
  obtain ⟨slot', s₁, hslot, hcheck⟩ := h
  cases hslot
  split at hcheck
  · cases hcheck
  · cases hcheck
    exact ⟨rfl, by omega, rfl⟩

/-- A float constant register read from the block lies within the stage's registers. -/
theorem loadConstant_lt {reg : Register} {s t : Lowering} {v : Nat}
    (h : loadConstant reg s = .ok (v, t)) :
    reg.index < (s.registry.slot s.version.stage .float).registerCount := by
  simp only [loadConstant, bind_eq_ok] at h
  obtain ⟨slot, s₁, hcheck, -⟩ := h
  obtain ⟨rfl, hlt, -⟩ := checkFloatConstant_eq_ok hcheck
  exact hlt

/-- With a bounded registry, the block element `base + #` a float constant register is loaded
from is below `2 ^ 31`, a non-negative 32-bit integer. -/
theorem loadConstant_element_lt {reg : Register} {s t : Lowering} {v : Nat}
    (hregistry : s.registry.Bounded) (h : loadConstant reg s = .ok (v, t)) :
    (s.registry.slot s.version.stage .float).base + reg.index < 2 ^ 31 := by
  have hlt := loadConstant_lt h
  obtain ⟨-, -, hbase, hcount, -⟩ := hregistry s.version.stage .float
  omega

/-- A relatively addressed read that succeeds passed the check of its constant register, so the
stage has at least one register to clamp the address to. -/
theorem addressed_lt {src : Source} {rel : RelativeAddress} (hrel : src.relative = some rel)
    {s t : Lowering} {v : Nat} (h : addressed src s = .ok (v, t)) :
    src.reg.index < (s.registry.slot s.version.stage .float).registerCount := by
  simp only [addressed, hrel] at h
  -- the register and the address register are checked first, then the constant
  split at h
  · exact absurd h fail_bind_ne_ok
  split at h
  · exact absurd h fail_bind_ne_ok
  obtain ⟨slot, s₁, hcheck, -⟩ := bind_eq_ok.1 h
  obtain ⟨rfl, hlt, -⟩ := checkFloatConstant_eq_ok hcheck
  exact hlt

/-- A vertex attribute takes at most sixteen bytes. -/
theorem VertexFormat.size_le (f : VertexFormat) : f.size ≤ 16 := by
  cases f <;> decide

/-- At most sixteen of a list of distinct registers within their files are input registers. -/
theorem countP_input_le {inputs : List (Register × InterfaceVar)}
    (hnodup : (inputs.map Prod.fst).Nodup) (hrange : ∀ p ∈ inputs, p.1.InRange) :
    inputs.countP (·.1.file = .input) ≤ 16 := by
  rw [List.countP_eq_length_filter]
  have hsub : ((inputs.filter (·.1.file = .input)).map Prod.fst) ⊆ RegisterFile.input.registers := by
    intro r hr
    obtain ⟨p, hp, rfl⟩ := List.mem_map.1 hr
    obtain ⟨hmem, hfile⟩ := List.mem_filter.1 hp
    have hreg := Register.mem_registers (hrange p hmem)
    rwa [of_decide_eq_true hfile] at hreg
  have hdistinct : ((inputs.filter (·.1.file = .input)).map Prod.fst).Nodup :=
    hnodup.sublist (List.filter_sublist.map _)
  calc (inputs.filter (·.1.file = .input)).length
      = ((inputs.filter (·.1.file = .input)).map Prod.fst).length := (List.length_map _).symm
    _ ≤ RegisterFile.input.registers.length := hdistinct.length_le_of_subset hsub
    _ = 16 := rfl

/-- What bounds the vertex stride: at most sixteen bytes for each input register `v#` with a
variable, those registers distinct and within their files. -/
structure Strided (s : Lowering) : Prop where
  stride_le : s.stride ≤ 16 * s.inputs.countP (·.1.file = .input)
  nodup : (s.inputs.map Prod.fst).Nodup
  inRange : ∀ p ∈ s.inputs, p.1.InRange

/-- The stride of a strided state is within sixteen attributes of sixteen bytes. -/
theorem Strided.stride_le_256 {s : Lowering} (h : s.Strided) : s.stride ≤ 16 * 16 :=
  h.stride_le.trans (Nat.mul_le_mul_left 16 (countP_input_le h.nodup h.inRange))

/-- `Strided` reads the stride and the inputs of the state only. -/
theorem Strided.of_eq {s s' : Lowering} (h : s.Strided) (hstride : s'.stride = s.stride)
    (hinputs : s'.inputs = s.inputs) : s'.Strided := by
  refine ⟨?_, ?_, ?_⟩
  · rw [hstride, hinputs]
    exact h.stride_le
  · rw [hinputs]
    exact h.nodup
  · rw [hinputs]
    exact h.inRange

/-- Recording a new input register keeps a state strided when the stride grows by at most
sixteen bytes, and only for a register `v#`. -/
theorem Strided.record {s s' : Lowering} {reg : Register} {var : InterfaceVar} (h : s.Strided)
    (hinputs : s'.inputs = (reg, var) :: s.inputs) (hnew : reg ∉ s.inputs.map Prod.fst)
    (hreg : reg.InRange) (hstride : s'.stride ≤ s.stride + if reg.file = .input then 16 else 0) :
    s'.Strided := by
  have hcount : s'.inputs.countP (·.1.file = .input) =
      s.inputs.countP (·.1.file = .input) + if reg.file = .input then 1 else 0 := by
    rw [hinputs, List.countP_cons]
    simp
  refine ⟨?_, ?_, ?_⟩
  · have := h.stride_le
    rw [hcount]
    split at hstride <;> simp_all <;> omega
  · rw [hinputs, List.map_cons]
    exact List.nodup_cons.2 ⟨hnew, h.nodup⟩
  · intro p hp
    rw [hinputs] at hp
    rcases List.mem_cons.1 hp with rfl | hp
    · exact hreg
    · exact h.inRange p hp

section

set_option mvcgen.warning false

-- Constant vectors are known by their specifications only.
attribute [local irreducible] Builder.vec4Constant

/-- A module building step changes the builder and nothing else of the state. -/
theorem build_spec {x : BuildM α} {Q : Post α} :
    Triple (build x) (spred(fun s => Q.1 (x s.builder).1 { s with builder := (x s.builder).2 })) Q :=
  fun _ h => h

attribute [local spec] build_spec

/-- The steps that compute values touch neither the inputs nor the stride. -/
theorem strided_basic : Basic Strided where
  alloc := fun _ hs => hs.of_eq rfl rfl
  emit _ _ := fun _ hs => hs.of_eq rfl rfl
  typeId _ _ := fun _ hs => hs.of_eq rfl rfl
  pointerTypeId _ _ _ := fun _ hs => hs.of_eq rfl rfl
  null _ _ := fun _ hs => hs.of_eq rfl rfl
  float32 _ := fun _ hs => hs.of_eq rfl rfl
  int32 _ := fun _ hs => hs.of_eq rfl rfl
  vec4Constant _ _ := fun _ hs => hs.of_eq rfl rfl
  composite _ _ := fun _ hs => hs.of_eq rfl rfl
  boolean _ := fun _ hs => hs.of_eq rfl rfl
  bindValue _ _ := fun _ hs => hs.of_eq rfl rfl
  markDefined _ _ hs := hs.of_eq rfl rfl

theorem loadInput_strided (reg : Register) :
    ⦃fun s => ⌜s.Strided⌝⦄ loadInput reg ⦃⇓? _ s => ⌜s.Strided⌝⦄ := by
  mvcgen [loadInput, unpackColor, typeId, floatType, float32, compute, shuffle, alloc, emit] with
    (have hs := ‹Strided _›
     exact hs.of_eq rfl rfl)

theorem constantBlock_strided :
    ⦃fun s => ⌜s.Strided⌝⦄ constantBlock ⦃⇓? _ s => ⌜s.Strided⌝⦄ := by
  mvcgen [constantBlock, typeId, alloc] with
    (have hs := ‹Strided _›
     exact hs.of_eq rfl rfl)

theorem ensureOutput_strided (reg : Register) :
    ⦃fun s => ⌜s.Strided⌝⦄ ensureOutput reg ⦃⇓? _ s => ⌜s.Strided⌝⦄ := by
  mvcgen [ensureOutput, createOutput, interfaceVariable, alloc] with
    (have hs := ‹Strided _›
     exact hs.of_eq rfl rfl)

/-- `Strided` is closed under the primitive steps of lowering. -/
theorem strided_closed : Closed Strided :=
  { strided_basic with
    loadInput := loadInput_strided
    constantBlock := constantBlock_strided
    ensureOutput := fun reg _ => ensureOutput_strided reg }

theorem declareVertexInput_strided (reg : Register) (usage : Usage) (hreg : reg.InRange)
    (hfile : reg.file = .input) :
    ⦃fun s => ⌜s.Strided⌝⦄ declareVertexInput reg usage ⦃⇓? _ s => ⌜s.Strided⌝⦄ := by
  -- a new attribute of at most sixteen bytes, for the new input register `v#`
  mvcgen [declareVertexInput, interfaceVariable, alloc] with
    (have hs := ‹Strided _›
     refine hs.record rfl (not_mem_keys_of_lookup
       (Option.not_isSome_iff_eq_none.1 ‹¬(List.lookup reg _).isSome = true›)) hreg ?_
     rw [if_pos hfile]
     exact Nat.add_le_add_left (VertexFormat.size_le _) _)

theorem declarePixelInput_strided (reg : Register) (usage : Usage) (index : Nat)
    (hreg : reg.InRange) :
    ⦃fun s => ⌜s.Strided⌝⦄ declarePixelInput reg usage index ⦃⇓? _ s => ⌜s.Strided⌝⦄ := by
  mvcgen [declarePixelInput, interfaceVariable, alloc] with
    (have hs := ‹Strided _›
     exact hs.record rfl (not_mem_keys_of_lookup
       (Option.not_isSome_iff_eq_none.1 ‹¬(List.lookup reg _).isSome = true›)) hreg
       (Nat.le_add_right _ _))

theorem declareSampler_strided (index : Nat) (type : TextureType) :
    ⦃fun s => ⌜s.Strided⌝⦄ declareSampler index type ⦃⇓? _ s => ⌜s.Strided⌝⦄ := by
  -- the loop over the two variables, unrolled
  simp only [declareSampler, List.forIn_cons, List.forIn_nil]
  mvcgen [alloc] with
    (have hs := ‹Strided _›
     exact hs.of_eq rfl rfl)

theorem declareOutput_strided (reg : Register) (usage : Usage) (index : Nat) :
    ⦃fun s => ⌜s.Strided⌝⦄ declareOutput reg usage index ⦃⇓? _ s => ⌜s.Strided⌝⦄ := by
  mvcgen [declareOutput, createOutput, interfaceVariable, alloc] with
    (have hs := ‹Strided _›
     exact hs.of_eq rfl rfl)

/-- A declaration keeps the state strided: only a vertex input adds to the stride, and it is
declared for an input register `v#`. -/
theorem declare_strided (decl : Declaration) (dst : Destination) (hreg : dst.reg.InRange) :
    ⦃fun s => ⌜s.Strided⌝⦄ declare decl dst ⦃⇓? _ s => ⌜s.Strided⌝⦄ := by
  have hsampler := declareSampler_strided
  have hvertex := fun usage hfile => declareVertexInput_strided dst.reg usage hreg hfile
  have hpixel := fun usage index => declarePixelInput_strided dst.reg usage index hreg
  have houtput := declareOutput_strided dst.reg
  mvcgen [declare, hsampler, hvertex, hpixel, houtput]

/-- Lowering a program of well formed instructions keeps the state strided to the end. -/
theorem program_strided (p : Program) (hwf : ∀ ins ∈ p.body, ins.WellFormed) :
    ⦃fun s => ⌜s.Strided⌝⦄ program p ⦃⇓? _ s => ⌜s.Strided⌝⦄ := by
  have body : ⦃fun s => ⌜s.Strided⌝⦄ p.body.forM instruction ⦃⇓? _ s => ⌜s.Strided⌝⦄ :=
    forM_keeps fun ins hins => strided_closed.instruction_keeps ins (hwf ins hins)
      (fun decl dst _ => declare_strided decl dst)
  have hstore := strided_closed.reading.storeOutputs_keeps
  mvcgen [program, body, finish, hstore, emit] with
    (have hs := ‹Strided _›
     exact hs.of_eq rfl rfl)

end

/-- Lowering starts strided: no input and no stride yet. -/
theorem start_strided (options : Options) (registry : ConstantRegistry) (version : ShaderVersion) :
    (start options registry version).Strided :=
  ⟨Nat.zero_le _, List.nodup_nil, fun _ hp => (List.not_mem_nil hp).elim⟩

end Lowering

/-- In every conversion with a registry of bounded slots, register numbers, constant block elements,
clamp bounds and the vertex stride stay in range. -/
theorem Converter.compile_indexInRange {c : Converter} {tokens : Array UInt32} {shader : Shader}
    (hregistry : c.registry.Bounded) (h : c.compile tokens = .ok shader) :
    ∃ p final, Program.decode tokens = .ok p ∧
      (Lowering.program p).run (Lowering.start c.options c.registry p.version) =
        .ok (shader, final) ∧
      (∀ ins ∈ p.body, ins.WellFormed) ∧ (∀ r : Register, r.InRange → r.index < 2 ^ 8) ∧
      (∀ (reg : Register) (s t : Lowering) (v : Nat), s.registry = c.registry →
        Lowering.loadConstant reg s = .ok (v, t) →
        reg.index < (c.registry.slot s.version.stage .float).registerCount ∧
          (c.registry.slot s.version.stage .float).base + reg.index < 2 ^ 31) ∧
      (∀ (src : Source) (rel : RelativeAddress) (s t : Lowering) (v : Nat),
        src.relative = some rel → Lowering.addressed src s = .ok (v, t) →
        src.reg.index < (s.registry.slot s.version.stage .float).registerCount) ∧
      final.stride ≤ 16 * 16 := by
  obtain ⟨p, hp, hlower⟩ := Converter.compile_eq_ok h
  obtain ⟨final, hrun⟩ := Program.lower_eq_ok hlower
  have hwf := Program.decode_wellFormed hp
  have hstrided := Lowering.triple_run (Lowering.program_strided p hwf)
    (Lowering.start_strided _ _ _) hrun
  refine ⟨p, final, hp, hrun, hwf, fun _ hr => hr.lt_two_pow_eight, ?_,
    fun _ _ _ _ _ hrel haddr => Lowering.addressed_lt hrel haddr, hstrided.stride_le_256⟩
  intro reg s t v hs hload
  rw [← hs]
  exact ⟨Lowering.loadConstant_lt hload, Lowering.loadConstant_element_lt (hs ▸ hregistry) hload⟩

/-- A model 2 vertex shader that declares `v0` and moves `c0` to `oPos` converts under the
standard layout, whose slots are bounded, with its index arithmetic in range. -/
theorem Converter.compile_position_constant_inRange :
    ({} : Converter).registry.Bounded ∧
    ∃ shader, Converter.compile {} #[0xFFFE0200, 0x0200001F, 0x80000000, 0x900F0000,
        0x02000001, 0xC00F0000, 0xA0E40000, 0x0000FFFF] = .ok shader ∧
      ∃ p final, Program.decode #[0xFFFE0200, 0x0200001F, 0x80000000, 0x900F0000,
          0x02000001, 0xC00F0000, 0xA0E40000, 0x0000FFFF] = .ok p ∧
        (Lowering.program p).run (Lowering.start {} (SlotLayout.registry {}) p.version) =
          .ok (shader, final) ∧
        (∀ ins ∈ p.body, ins.WellFormed) ∧ (∀ r : Register, r.InRange → r.index < 2 ^ 8) ∧
        (∀ (reg : Register) (s t : Lowering) (v : Nat), s.registry = SlotLayout.registry {} →
          Lowering.loadConstant reg s = .ok (v, t) →
          reg.index < ((SlotLayout.registry {}).slot s.version.stage .float).registerCount ∧
            ((SlotLayout.registry {}).slot s.version.stage .float).base + reg.index < 2 ^ 31) ∧
        (∀ (src : Source) (rel : RelativeAddress) (s t : Lowering) (v : Nat),
          src.relative = some rel → Lowering.addressed src s = .ok (v, t) →
          src.reg.index < (s.registry.slot s.version.stage .float).registerCount) ∧
        final.stride ≤ 16 * 16 := by
  have hok : (Converter.compile {} #[0xFFFE0200, 0x0200001F, 0x80000000, 0x900F0000,
      0x02000001, 0xC00F0000, 0xA0E40000, 0x0000FFFF]).toBool = true := by
    decide +kernel
  refine ⟨SlotLayout.registry_bounded, ?_⟩
  cases hc : Converter.compile {} #[0xFFFE0200, 0x0200001F, 0x80000000, 0x900F0000,
      0x02000001, 0xC00F0000, 0xA0E40000, 0x0000FFFF] with
  | error e => simp [hc, Except.toBool] at hok
  | ok shader =>
    exact ⟨shader, rfl, Converter.compile_indexInRange SlotLayout.registry_bounded hc⟩

end ShaderBridge
