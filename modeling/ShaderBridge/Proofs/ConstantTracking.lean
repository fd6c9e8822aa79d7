import ShaderBridge.Proofs.RelativeConstants

/-!
The float constant registers through lowering. After any instructions, each float constant
register with a value holds in every run the words of its latest `def`, or else its element of
the constant block; so a relative read `c[a0.k + n]` yields the value of the register its clamped
address names, and agrees at address `0` with the static read of `c[n]`.
-/

namespace ShaderBridge

open Std.Do Spirv Spirv.Module

/-! ### The latest definitions -/

/-- The definitions after `ins`: a `def` gives its register its four tokens. -/
def Instruction.redefine (ins : Instruction) (defs : Register → Option (List Nat)) :
    Register → Option (List Nat) :=
  match ins with
  | .define dst values => Function.update defs dst.reg (some (values.map UInt32.toNat))
  | _ => defs

/-- The words of the latest `def` of each register among `body`. -/
def latestDefinitions (body : List Instruction) : Register → Option (List Nat) :=
  body.foldl (fun defs ins => ins.redefine defs) fun _ => none

theorem latestDefinitions_append (pre : List Instruction) (ins : Instruction) :
    latestDefinitions (pre ++ [ins]) = ins.redefine (latestDefinitions pre) := by
  simp [latestDefinitions]

namespace Lowering

variable {α : Type} {slot : ConstantSlot} {defs : Register → Option (List Nat)}

/-! ### Steps that hold the float constant registers -/

namespace SameConstants

variable {s₀ s : Lowering}

@[refl] theorem refl (s : Lowering) : SameConstants s s :=
  ⟨fun _ _ => rfl, fun _ _ => Iff.rfl, rfl, rfl⟩

/-- Binding a register of another file holds the float constant registers. -/
theorem bind (h : SameConstants s₀ s) {reg : Register} {id : Nat} (hreg : reg.file ≠ .const) :
    SameConstants s₀ { s with values := (reg, id) :: s.values.filter (·.1 != reg) } where
  values r hr := by
    rw [lookup_bind, if_neg (fun heq : r = reg => hreg (heq ▸ hr))]
    exact h.values r hr
  defined := h.defined
  registry := h.registry
  version := h.version

/-- Defining a register of another file holds the float constant registers. -/
theorem markDefined (h : SameConstants s₀ s) {reg : Register} (hreg : reg.file ≠ .const) :
    SameConstants s₀ { s with defined := reg :: s.defined } where
  values := h.values
  defined r hr := by
    rw [List.mem_cons, or_iff_right (fun heq : r = reg => hreg (heq ▸ hr))]
    exact h.defined r hr
  registry := h.registry
  version := h.version

end SameConstants

namespace TracksConstants

variable {s : Lowering}

/-- Binding a register of another file keeps the constants tracked. -/
theorem bindOther (h : s.TracksConstants slot defs) {reg : Register} {id : Nat}
    (hreg : reg.file ≠ .const) :
    TracksConstants slot defs { s with values := (reg, id) :: s.values.filter (·.1 != reg) } :=
  h.of_frame ((SameConstants.refl s).bind hreg) h.framed h.pooled (.refl _)

/-- Defining a register of another file keeps the constants tracked. -/
theorem markOther (h : s.TracksConstants slot defs) {reg : Register} (hreg : reg.file ≠ .const) :
    TracksConstants slot defs { s with defined := reg :: s.defined } :=
  h.of_frame ((SameConstants.refl s).markDefined hreg) h.framed h.pooled (.refl _)

/-- A `def` of the float constant register `reg`, in the slot, bound to the vector constant `x`
of its four words, makes the tracked definitions those updated at `reg`. -/
theorem define (h : s.TracksConstants slot defs) {reg : Register} {bits : List Nat} {x : Nat}
    (hfile : reg.file = .const) (hlt : reg.index < slot.registerCount) (hlen : bits.length = 4)
    (hx : s.builder.module.VectorConstant Op.typeFloat [32] x bits) {defined : List Register}
    (hdefined : ∀ r, r ∈ defined ↔ r = reg ∨ r ∈ s.defined) :
    TracksConstants slot (Function.update defs reg (some bits))
      { s with defined := defined, values := (reg, x) :: s.values.filter (·.1 != reg) } where
  framed := h.framed
  pooled := h.pooled
  registry := h.registry
  defined r hr := by
    rw [hdefined]
    by_cases hreg : r = reg
    · simp [hreg]
    · rw [Function.update_of_ne hreg, ← h.defined r hr]
      simp [hreg]
  words r w hw := by
    by_cases hreg : r = reg
    · subst hreg
      rw [Function.update_self, Option.some.injEq] at hw
      subst hw
      exact ⟨hfile, hlt, hlen⟩
    · rw [Function.update_of_ne hreg] at hw
      exact h.words r w hw
  bound r hr := by
    rw [isSome_lookup_bind]
    by_cases hreg : r = reg
    · exact .inl hreg
    · rw [Function.update_of_ne hreg] at hr
      exact .inr (h.bound r hr)
  value r y hr hy block ρ := by
    rw [lookup_bind] at hy
    split at hy
    · -- the register just defined holds its vector constant
      rename_i heq
      subst heq
      cases hy
      rw [constantValue, Function.update_self]
      exact ensures_vectorConstant hx
    · rename_i hne
      simpa only [constantValue, Function.update_of_ne hne] using h.value r y hr hy block ρ

end TracksConstants

/-- What a step promises of every run that succeeds, it promises as a triple. -/
theorem triple_of_run {x : LowerM α} {P : Lowering → Prop} {R : α → Lowering → Prop}
    (h : ∀ s a t, P s → x s = .ok (a, t) → R a t) :
    ⦃fun s => ⌜P s⌝⦄ x ⦃⇓? a s => ⌜R a s⌝⦄ := by
  intro s hs
  -- the postcondition is read at the one outcome of the step from `s`
  change (wp⟦(x s : Except ConvertError (α × Lowering))⟧
    (fun r => ⌜R r.1 r.2⌝, fun _ => ⌜True⌝, ())).down
  cases hx : x s with
  | error e => trivial
  | ok r => exact h s r.1 r.2 hs hx

/-- A step that continues the module of every framed, pooled state and binds no register keeps
the constants tracked. -/
theorem tracks_of_frame {x : LowerM α}
    (hc : ∀ m₀, ⦃fun s => ⌜Continuing m₀ s⌝⦄ x ⦃⇓? _ s => ⌜Continuing m₀ s⌝⦄)
    (hb : ∀ s₀, ⦃fun s => ⌜SameRegisters s₀ s⌝⦄ x ⦃⇓? _ s => ⌜SameRegisters s₀ s⌝⦄) :
    ⦃fun s => ⌜s.TracksConstants slot defs⌝⦄ x ⦃⇓? _ s => ⌜s.TracksConstants slot defs⌝⦄ :=
  triple_of_run fun _ _ _ hs h => hs.of_step (.of_run hc hb ⟨hs.framed, hs.pooled⟩ h)

section

set_option mvcgen.warning false

-- Constant vectors are known by their specifications only.
attribute [local irreducible] Builder.vec4Constant

/-! The steps that create variables record them without binding a register. -/

theorem interfaceVariable_sameRegisters (s₀ : Lowering) (reg : Register) (ty : TypeDesc)
    (slot : InterfaceSlot) :
    ⦃fun s => ⌜SameRegisters s₀ s⌝⦄ interfaceVariable reg ty slot
      ⦃⇓? _ s => ⌜SameRegisters s₀ s⌝⦄ := by
  have hbuild := fun {β : Type} (x : BuildM β) => build_sameRegisters s₀ x
  mvcgen [interfaceVariable, alloc, hbuild] with
    (have h := ‹SameRegisters s₀ _›
     exact ⟨h.values, h.defined, h.registry, h.version⟩)

theorem ensureOutput_sameRegisters (s₀ : Lowering) (reg : Register) :
    ⦃fun s => ⌜SameRegisters s₀ s⌝⦄ ensureOutput reg ⦃⇓? _ s => ⌜SameRegisters s₀ s⌝⦄ := by
  have hvariable := interfaceVariable_sameRegisters s₀ reg
  mvcgen [ensureOutput, createOutput, hvariable] with
    (have h := ‹SameRegisters s₀ _›
     exact ⟨h.values, h.defined, h.registry, h.version⟩)

theorem declareSampler_sameRegisters (s₀ : Lowering) (index : Nat) (type : TextureType) :
    ⦃fun s => ⌜SameRegisters s₀ s⌝⦄ declareSampler index type ⦃⇓? _ s => ⌜SameRegisters s₀ s⌝⦄ := by
  have hbuild := fun {β : Type} (x : BuildM β) => build_sameRegisters s₀ x
  -- the loop over the two variables, unrolled
  simp only [declareSampler, List.forIn_cons, List.forIn_nil]
  mvcgen [alloc, hbuild] with
    (have h := ‹SameRegisters s₀ _›
     exact ⟨h.values, h.defined, h.registry, h.version⟩)

theorem declare_sameRegisters (s₀ : Lowering) (decl : Declaration) (dst : Destination) :
    ⦃fun s => ⌜SameRegisters s₀ s⌝⦄ declare decl dst ⦃⇓? _ s => ⌜SameRegisters s₀ s⌝⦄ := by
  have hsampler := declareSampler_sameRegisters s₀
  have hvariable := interfaceVariable_sameRegisters s₀ dst.reg
  mvcgen [declare, hsampler, declareVertexInput, declarePixelInput, declareOutput, createOutput,
    hvariable] with
    (have h := ‹SameRegisters s₀ _›
     exact ⟨h.values, h.defined, h.registry, h.version⟩)

/-! ### The steps of an instruction -/

/-- A building step that continues the module of every framed, pooled state keeps the constants
tracked. -/
theorem build_tracks {x : BuildM α}
    (hc : ∀ m₀, ⦃fun s => ⌜Continuing m₀ s⌝⦄ build x ⦃⇓? _ s => ⌜Continuing m₀ s⌝⦄) :
    ⦃fun s => ⌜s.TracksConstants slot defs⌝⦄ build x ⦃⇓? _ s => ⌜s.TracksConstants slot defs⌝⦄ :=
  tracks_of_frame hc (build_sameRegisters · x)

theorem tracks_computes : Computes (TracksConstants slot defs) where
  alloc := build_tracks fun m₀ => (continuing_basic m₀).alloc
  emit i hi := build_tracks fun m₀ => (continuing_basic m₀).emit i hi
  typeId d hd := build_tracks fun m₀ => (continuing_basic m₀).typeId d hd
  pointerTypeId d sc hd := build_tracks fun m₀ => (continuing_basic m₀).pointerTypeId d sc hd
  null d hd := build_tracks fun m₀ => (continuing_basic m₀).null d hd
  float32 bits := build_tracks fun m₀ => (continuing_basic m₀).float32 bits
  int32 bits := build_tracks fun m₀ => (continuing_basic m₀).int32 bits
  vec4Constant bits hbits := build_tracks fun m₀ => (continuing_basic m₀).vec4Constant bits hbits
  composite parts hlen := build_tracks fun m₀ => (continuing_basic m₀).composite parts hlen
  boolean value := build_tracks fun m₀ => (continuing_basic m₀).boolean value

theorem constantBlock_tracks :
    ⦃fun s => ⌜s.TracksConstants slot defs⌝⦄ constantBlock
      ⦃⇓? _ s => ⌜s.TracksConstants slot defs⌝⦄ :=
  tracks_of_frame (fun m₀ => (continuing_closed m₀).constantBlock) constantBlock_sameRegisters

theorem loadInput_tracks (reg : Register) :
    ⦃fun s => ⌜s.TracksConstants slot defs⌝⦄ loadInput reg
      ⦃⇓? _ s => ⌜s.TracksConstants slot defs⌝⦄ := by
  have hB : Computes (TracksConstants slot defs) := tracks_computes
  have htype := hB.typeId
  have hcompute := hB.compute_keeps
  have hunpack := hB.unpackColor_keeps
  mvcgen [loadInput, htype, hcompute, hunpack] with
    first
    | simp
    | -- the variable of an input register has the type of a recorded input
      (obtain ⟨_, hmem⟩ := snd_mem_of_lookup ‹List.lookup _ _ = some _›
       exact (‹TracksConstants slot defs _›.framed.2.inputs _ hmem).2.2)

theorem loadConstant_tracks (reg : Register) :
    ⦃fun s => ⌜s.TracksConstants slot defs⌝⦄ loadConstant reg
      ⦃⇓? _ s => ⌜s.TracksConstants slot defs⌝⦄ := by
  have hB : Computes (TracksConstants slot defs) := tracks_computes
  have hcheck := checkFloatConstant_keeps (I := TracksConstants slot defs)
  have hint := hB.int32
  have helement := hB.blockElement_keeps constantBlock_tracks
  mvcgen [loadConstant, hcheck, hint, helement]

theorem bindValue_tracks (reg : Register) (id : Nat) (hreg : reg.file ≠ .const) :
    ⦃fun s => ⌜s.TracksConstants slot defs⌝⦄ bindValue reg id
      ⦃⇓? _ s => ⌜s.TracksConstants slot defs⌝⦄ := by
  mvcgen [bindValue] with
    exact ‹TracksConstants slot defs _›.bindOther hreg

/-- A read keeps the constants tracked: a float constant register is bound to its constant
value, any other register only builds the module. -/
theorem read_tracks (reg : Register) :
    ⦃fun s => ⌜s.TracksConstants slot defs⌝⦄ read reg ⦃⇓? _ s => ⌜s.TracksConstants slot defs⌝⦄ := by
  by_cases hreg : reg.file = .const
  · exact triple_of_run fun s _ _ hs h => (hs.read_const hreg h).1
  · have hB : Computes (TracksConstants slot defs) := tracks_computes
    have hnull := hB.null
    have hinput := @loadInput_tracks slot defs
    have hconstant := @loadConstant_tracks slot defs reg
    have hbind := @bindValue_tracks slot defs reg
    mvcgen [read, hnull, hinput, hconstant, hbind] with simp_all

/-- Tracking the float constant registers is kept by the steps instructions are made of. -/
theorem tracks_reading : Reading Register.InRange (TracksConstants slot defs) :=
  { tracks_computes with
    read := read_tracks
    bindValue := bindValue_tracks
    markDefined := fun _ _ hreg hs => hs.markOther hreg
    constantBlock := constantBlock_tracks
    ensureOutput := fun reg hreg => tracks_of_frame
      (fun m₀ => (continuing_closed m₀).ensureOutput reg hreg) (ensureOutput_sameRegisters · reg) }

theorem declare_tracks (decl : Declaration) (dst : Destination) (hreg : dst.reg.InRange) :
    ⦃fun s => ⌜s.TracksConstants slot defs⌝⦄ declare decl dst
      ⦃⇓? _ s => ⌜s.TracksConstants slot defs⌝⦄ :=
  tracks_of_frame (fun _ => declare_continuing decl dst hreg) (declare_sameRegisters · decl dst)

/-- The check of a `def` of a float constant register finds it in the slot. -/
theorem checkDefinition_tracks (reg : Register) :
    ⦃fun s => ⌜s.TracksConstants slot defs⌝⦄ checkDefinition reg .const .float
      ⦃⇓? _ s => ⌜s.TracksConstants slot defs ∧ reg.file = .const ∧
        reg.index < slot.registerCount⌝⦄ := by
  mvcgen [checkDefinition] with
    (refine ⟨‹_›, of_not_not ‹_›, ?_⟩
     rw [← ‹TracksConstants slot defs _›.registry]
     exact Nat.lt_of_not_le ‹_›)

/-- A `def` of a float constant register makes its words the register's latest definition. -/
theorem define_tracks (dst : Destination) (values : List UInt32) (hvalues : values.length = 4) :
    ⦃fun s => ⌜s.TracksConstants slot defs⌝⦄ define dst values
      ⦃⇓? _ s => ⌜s.TracksConstants slot (Function.update defs dst.reg
        (some (values.map UInt32.toNat)))⌝⦄ := by
  have hlen : (values.map UInt32.toNat).length = 4 := by rw [List.length_map, hvalues]
  have hcheck := @checkDefinition_tracks slot defs dst.reg
  -- the vector constant of the four words, interned with the constants tracked
  have hvector : ⦃fun s => ⌜s.TracksConstants slot defs ∧ dst.reg.file = .const ∧
        dst.reg.index < slot.registerCount⌝⦄
      build (Builder.vec4Constant (values.map UInt32.toNat))
      ⦃⇓? x s => ⌜(s.TracksConstants slot defs ∧ dst.reg.file = .const ∧
        dst.reg.index < slot.registerCount) ∧
        s.builder.module.VectorConstant Op.typeFloat [32] x (values.map UInt32.toNat)⌝⦄ :=
    fun s hs => ⟨⟨tracks_computes.vec4Constant _ hlen s hs.1, hs.2⟩,
      (Builder.vec4Constant_vector hlen hs.1.pooled).2⟩
  mvcgen [define, hcheck, hvector, bindDefined, bindValue] with
    (obtain ⟨⟨h, hfile, hlt⟩, hx⟩ := ‹(TracksConstants slot defs _ ∧ _) ∧ _›
     dsimp +zetaDelta only
     split
     · -- defined before: the list of defined registers stays
       exact h.define hfile hlt hlen hx fun _ =>
         (or_iff_right_of_imp fun heq => heq ▸ List.contains_iff_mem.1 ‹_›).symm
     · exact h.define hfile hlt hlen hx fun _ => List.mem_cons)

/-- Every well formed instruction keeps the float constant registers tracked, with the words of
a `def` as the latest definition of its register. -/
theorem instruction_tracks (ins : Instruction) (hins : ins.WellFormed) :
    ⦃fun s => ⌜s.TracksConstants slot defs⌝⦄ instruction ins
      ⦃⇓? _ s => ⌜s.TracksConstants slot (ins.redefine defs)⌝⦄ := by
  cases ins with
  | define dst values => exact define_tracks dst values hins.2
  | _ =>
    -- the other instructions keep the definitions
    exact tracks_reading.instruction_keeps _ hins (fun _ hd => hins.destination_inRange hd)
      (fun decl dst _ hreg => declare_tracks decl dst hreg) fun _ _ h _ => by cases h

end

/-- Well formed instructions keep the float constant registers tracked, with their latest
definitions. -/
theorem body_tracks (body : List Instruction) (hwf : ∀ ins ∈ body, ins.WellFormed) :
    ⦃fun s => ⌜s.TracksConstants slot (latestDefinitions [])⌝⦄ body.forM instruction
      ⦃⇓? _ s => ⌜s.TracksConstants slot (latestDefinitions body)⌝⦄ := by
  have h := forM_triple (I := fun pre s => s.TracksConstants slot (latestDefinitions pre))
    (fun pre ins hins => by
      rw [latestDefinitions_append]
      exact instruction_tracks ins (hwf ins hins)) []
  rwa [List.nil_append] at h

/-- Lowering starts with no register bound or defined: the float constant registers follow no
definition. -/
theorem start_tracks (options : Options) (registry : ConstantRegistry) (version : ShaderVersion) :
    (start options registry version).TracksConstants (registry.slot version.stage .float)
      (latestDefinitions []) where
  framed := start_framed options registry version
  pooled := start_pooled options registry version
  registry := rfl
  defined _ _ := iff_of_false List.not_mem_nil Bool.false_ne_true
  words _ _ h := absurd h.symm (Option.some_ne_none _)
  bound _ h := absurd h Bool.false_ne_true
  value _ x _ h := absurd h.symm (Option.some_ne_none x)

end Lowering

end ShaderBridge
