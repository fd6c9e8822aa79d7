import ShaderBridge.Proofs.Framing

/-!
The layout of every converted module. While a shader is lowered its module stays `Opened` and
its interface counted, so every instruction fits its first word, and the finished module is
`Laid`.
-/

namespace ShaderBridge

open Std.Do Spirv

/-- The registers of a file within its range. -/
def RegisterFile.registers (f : RegisterFile) : List Register :=
  (List.range (f.maxIndex + 1)).map (⟨f, ·⟩)

theorem Register.mem_registers {r : Register} (h : r.InRange) : r ∈ r.file.registers := by
  simp only [RegisterFile.registers, List.mem_map, List.mem_range]
  exact ⟨r.index, Nat.lt_succ_of_le h, rfl⟩

/-- A register in range is in range of the file it is known to be of. -/
theorem Register.InRange.of_file {r : Register} {f : RegisterFile} (h : r.InRange)
    (hf : r.file = f) : (⟨f, r.index⟩ : Register).InRange := by
  cases r
  cases hf
  exact h

theorem RegisterFile.prefixName_size_le (f : RegisterFile) : f.prefixName.utf8ByteSize ≤ 6 := by
  cases f <;> simp only [RegisterFile.prefixName] <;> decide

/-- A string has at most four bytes per character. -/
theorem String.utf8ByteSize_ofList_le (l : List Char) :
    (String.ofList l).utf8ByteSize ≤ 4 * l.length := by
  induction l with
  | nil => simp
  | cons c l ih =>
    rw [String.ofList_cons, String.utf8ByteSize_append, String.utf8ByteSize_singleton,
      List.length_cons]
    have := c.utf8Size_le_four
    omega

/-- The name of a register in range has at most 18 bytes: a prefix of at most six and at most
three digits. -/
theorem Register.display_size_le (r : Register) (h : r.InRange) : r.display.utf8ByteSize ≤ 18 := by
  have hindex : r.index < 1000 := by
    have := h
    unfold Register.InRange at this
    cases hf : r.file <;> simp only [hf, RegisterFile.maxIndex] at this <;> omega
  unfold Register.display
  split <;> try decide
  -- a prefix and the decimal digits of the index
  rename_i f i _ _ _ _
  have hi : i < 10 ^ 3 := hindex
  rw [String.utf8ByteSize_append, Nat.toString_eq_ofList_toDigits]
  have hdigits := Nat.toDigits_length 10 i 3 (by norm_num) hi
  have hbytes := String.utf8ByteSize_ofList_le (Nat.toDigits 10 i)
  have hprefix := f.prefixName_size_le
  omega

/-- A key that a list of pairs looks up to nothing is none of its keys. -/
theorem not_mem_keys_of_lookup {α β : Type} [BEq α] [LawfulBEq α] {l : List (α × β)} {k : α}
    (h : l.lookup k = none) : k ∉ l.map Prod.fst := by
  induction l with
  | nil => simp
  | cons p l ih =>
    obtain ⟨a, b⟩ := p
    simp only [List.lookup_cons] at h
    split at h
    · cases h
    · rename_i hne
      simp only [List.map_cons, List.mem_cons, not_or]
      exact ⟨fun e => by simp [e] at hne, ih h⟩

theorem RegisterFile.storageClass_ne_function_of_isOutput {f : RegisterFile} (h : f.isOutput) :
    f.storageClass ≠ StorageClass.function := by
  cases f <;> simp [RegisterFile.isOutput] at h <;> decide

namespace Lowering

/-- The interface of the entry point, counted: one variable for each recorded register, distinct
and in range, besides `pending` variables whose register is not recorded yet. -/
structure InterfaceCount (pending : Nat) (interface : Array Nat)
    (inputs outputs : List (Register × InterfaceVar)) : Prop where
  size : interface.size = inputs.length + outputs.length + pending
  inputs_nodup : (inputs.map Prod.fst).Nodup
  inputs : ∀ p ∈ inputs,
    p.1.InRange ∧ (p.1.file = .input ∨ p.1.file = .texture) ∧ p.2.type.Canonical
  outputs_nodup : (outputs.map Prod.fst).Nodup
  outputs : ∀ p ∈ outputs, p.1.InRange ∧ p.1.file.isOutput

/-- The state's interface is counted. -/
abbrev Interfaced (pending : Nat) (s : Lowering) : Prop :=
  InterfaceCount pending s.interface s.inputs s.outputs

namespace InterfaceCount

variable {k : Nat} {interface : Array Nat} {inputs outputs : List (Register × InterfaceVar)}

/-- A new variable is pending until its register is recorded. -/
theorem push (h : InterfaceCount k interface inputs outputs) (id : Nat) :
    InterfaceCount (k + 1) (interface.push id) inputs outputs := by
  refine ⟨?_, h.inputs_nodup, h.inputs, h.outputs_nodup, h.outputs⟩
  rw [Array.size_push, h.size]
  omega

/-- Recording the register of a pending variable as an input. -/
theorem add_input (h : InterfaceCount (k + 1) interface inputs outputs) {reg : Register}
    (var : InterfaceVar) (hnew : reg ∉ inputs.map Prod.fst) (hreg : reg.InRange)
    (hfile : reg.file = .input ∨ reg.file = .texture) (hty : var.type.Canonical) :
    InterfaceCount k interface ((reg, var) :: inputs) outputs := by
  refine ⟨?_, ?_, ?_, h.outputs_nodup, h.outputs⟩
  · rw [h.size, List.length_cons]
    omega
  · exact List.nodup_cons.2 ⟨hnew, h.inputs_nodup⟩
  · intro p hp
    rcases List.mem_cons.1 hp with rfl | hp
    · exact ⟨hreg, hfile, hty⟩
    · exact h.inputs p hp

/-- Recording the register of a pending variable as an output. -/
theorem add_output (h : InterfaceCount (k + 1) interface inputs outputs) {reg : Register}
    (var : InterfaceVar) (hnew : reg ∉ outputs.map Prod.fst) (hreg : reg.InRange)
    (hfile : reg.file.isOutput) :
    InterfaceCount k interface inputs ((reg, var) :: outputs) := by
  refine ⟨?_, h.inputs_nodup, h.inputs, ?_, ?_⟩
  · rw [h.size, List.length_cons]
    omega
  · exact List.nodup_cons.2 ⟨hnew, h.outputs_nodup⟩
  · intro p hp
    rcases List.mem_cons.1 hp with rfl | hp
    · exact ⟨hreg, hfile⟩
    · exact h.outputs p hp

end InterfaceCount

/-- There are 24 input and texture coordinate registers and 34 output registers. -/
theorem Interfaced.size_le {k : Nat} {s : Lowering} (h : s.Interfaced k) :
    s.interface.size ≤ 58 + k := by
  have hin : (s.inputs.map Prod.fst).length ≤
      (RegisterFile.input.registers ++ RegisterFile.texture.registers).length := by
    refine h.inputs_nodup.length_le_of_subset fun r hr => ?_
    obtain ⟨p, hp, rfl⟩ := List.mem_map.1 hr
    obtain ⟨hrange, hfile, -⟩ := h.inputs p hp
    have hmem := Register.mem_registers hrange
    rcases hfile with hfile | hfile <;> rw [hfile] at hmem <;> simp [hmem]
  have hout : (s.outputs.map Prod.fst).length ≤
      ([RegisterFile.rastOut, .attrOut, .texCoordOut, .output, .colorOut, .depthOut].flatMap
        RegisterFile.registers).length := by
    refine h.outputs_nodup.length_le_of_subset fun r hr => ?_
    obtain ⟨p, hp, rfl⟩ := List.mem_map.1 hr
    obtain ⟨hrange, hfile⟩ := h.outputs p hp
    have hmem := Register.mem_registers hrange
    simp only [List.mem_flatMap, List.mem_cons, List.not_mem_nil, or_false]
    refine ⟨p.1.file, ?_, hmem⟩
    revert hfile
    cases p.1.file <;> simp [RegisterFile.isOutput]
  simp only [List.length_map] at hin hout
  have hsize := h.size
  have hinputs : (RegisterFile.input.registers ++ RegisterFile.texture.registers).length = 24 := by
    decide
  have houtputs : ([RegisterFile.rastOut, .attrOut, .texCoordOut, .output, .colorOut,
      .depthOut].flatMap RegisterFile.registers).length = 34 := by
    decide
  omega

end Lowering

/-- A building step that keeps a property of the module keeps the module opened when the
property, for the sections after the declarations as they are, follows from its being opened. -/
theorem Spirv.Builder.opened_of_declared {α : Type} {x : BuildM α}
    {Pre : Array Instruction × Array Instruction × Array Instruction → Builder → Prop}
    (h : ∀ after, ⦃fun b => ⌜Pre after b⌝⦄ x ⦃⇓ _ b => ⌜b.module.DeclaredWith after⌝⦄)
    (hpre : ∀ b, b.module.Opened → Pre b.module.afterDeclarations b) :
    ⦃fun b => ⌜b.module.Opened⌝⦄ x ⦃⇓ _ b => ⌜b.module.Opened⌝⦄ :=
  Builder.triple_of_run fun b hb => by
    have hrun := Builder.run_of_triple (h b.module.afterDeclarations) b (hpre b hb)
    exact hb.of_declared hrun.1 hrun.2

/-- A decoration instruction is an annotation. -/
theorem Lowering.decoration_isDecoration (id : Nat) (d : Decoration) (operands : List Nat) :
    (Lowering.decoration id d operands).IsDecoration :=
  .inl rfl

theorem Lowering.decoration_fits (id : Nat) (d : Decoration) (operands : List Nat)
    (h : operands.length ≤ 1) : (Lowering.decoration id d operands).Fits :=
  Instruction.fits_of_length (show Op.decorate.code < 65536 by decide)
    (by simp only [Lowering.decoration, List.length_cons]; omega)

/-- A variable of a storage class other than `Function` is a global declaration. -/
theorem Spirv.Instruction.isDeclaration_variable {sc : StorageClass}
    (h : sc ≠ StorageClass.function) (pointer id : Nat) :
    ({ op := Op.var, resultType := some pointer, result := some id, operands := [sc.code] } :
      Spirv.Instruction).IsDeclaration :=
  .inr ⟨rfl, fun e => h (by cases sc; simpa [StorageClass.function] using e)⟩

namespace Spirv.Module.Opened

variable {m : Module}

/-- Declaring a global variable keeps the module opened. -/
theorem push_variable (h : m.Opened) {sc : StorageClass} (hsc : sc ≠ StorageClass.function)
    (pointer id : Nat) :
    (m.push .declarations
      { op := Op.var, resultType := some pointer, result := some id, operands := [sc.code] }).Opened :=
  h.push_declarations (Instruction.isDeclaration_variable hsc pointer id)
    (Instruction.fits_of_length (show Op.var.code < 65536 by decide) (by simp)) rfl

/-- Decorating with at most one literal keeps the module opened. -/
theorem push_decoration (h : m.Opened) (id : Nat) (d : Decoration) {operands : List Nat}
    (hlen : operands.length ≤ 1) : (m.push .annotations (Lowering.decoration id d operands)).Opened :=
  h.push_annotations (Lowering.decoration_isDecoration id d operands)
    (Lowering.decoration_fits id d operands hlen)

/-- Naming an id with fewer than 2^16 bytes keeps the module opened. -/
theorem push_name (h : m.Opened) (id : Nat) {name : String} (hname : name.utf8ByteSize < 65536) :
    (m.push .names (Lowering.nameOf id name)).Opened :=
  h.push_names (Lowering.nameOf_isName id name) (Lowering.nameOf_fits id name hname)

/-- Returning from the function, ending it and adding one entry point lays the module out. -/
theorem close (h : m.Opened) {e : Instruction} (he : e.op = Op.entryPoint) (hfit : e.Fits) :
    (((m.push .functions { op := Op.returnVoid }).push .functions { op := Op.functionEnd }).push
      .entryPoints e).Laid := by
  have hdecl : (((m.push .functions { op := Op.returnVoid }).push .functions
      { op := Op.functionEnd }).push .entryPoints e).Declared :=
    ((h.toDeclared.push_after (.inr (.inr rfl))).push_after (.inr (.inr rfl))).push_after (.inl rfl)
  obtain ⟨f, l, body, hfs, hf, hffit, hl, hlfit, hbody⟩ := h.functions
  refine ⟨hdecl, ⟨e, ?_, he, hfit⟩, ?_, f, l, body, ?_, hf, hffit, hl, hlfit, hbody⟩
  · simp [Module.push, h.entryPoints]
  · simp [Module.push, h.executionModes]
  · simp [Module.push, hfs]

end Spirv.Module.Opened

/-- An execution mode keeps the module laid out. -/
theorem Spirv.Module.Laid.push_executionMode {m : Module} {i : Instruction} (h : m.Laid)
    (hi : i.op = Op.executionMode) (hfit : i.Fits) : (m.push .executionModes i).Laid := by
  refine ⟨h.toDeclared.push_after (.inr (.inl rfl)), h.entryPoint, ?_, h.functions⟩
  intro x hx
  simp only [Module.push, Array.mem_push] at hx
  rcases hx with hx | rfl
  · exact h.executionModes x hx
  · exact ⟨hi, hfit⟩

/-- The entry point of a shader with at most 58 interface variables fits its first word. -/
theorem Lowering.entryPoint_fits (model entry : Nat) (interface : Array Nat)
    (h : interface.size ≤ 58) :
    ({ op := Op.entryPoint, operands := model :: entry :: stringWords "main" ++ interface.toList } :
      Spirv.Instruction).Fits := by
  have hmain : (stringWords "main").length = 2 := by
    rw [length_stringWords]
    decide
  refine Instruction.fits_of_length (show Op.entryPoint.code < 65536 by decide) ?_
  simp only [List.length_cons, List.length_append, hmain, Array.length_toList]
  omega

namespace Lowering

section

set_option mvcgen.warning false

/-- Lowering the elements of a list in turn keeps a property that each of them keeps. -/
theorem forM_keeps {β : Type} {xs : List β} {f : β → LowerM PUnit} {I : Lowering → Prop}
    (hf : ∀ a ∈ xs, ⦃fun s => ⌜I s⌝⦄ f a ⦃⇓? _ s => ⌜I s⌝⦄) :
    ⦃fun s => ⌜I s⌝⦄ xs.forM f ⦃⇓? _ s => ⌜I s⌝⦄ := by
  induction xs with
  | nil =>
    simp only [List.forM_eq_forM, List.forM_nil]
    mvcgen
  | cons x xs ih =>
    have step := hf x List.mem_cons_self
    have rest := ih fun a ha => hf a (List.mem_cons_of_mem x ha)
    simp only [List.forM_eq_forM, List.forM_cons] at rest ⊢
    mvcgen [step, rest]

/-- What lowering keeps for the module's layout: the module opened and the interface counted. -/
def Framed (s : Lowering) : Prop := s.builder.module.Opened ∧ s.Interfaced 0

/-- A building step that keeps a property of the builder keeps it inside lowering, together with
any property of the rest of the state. -/
theorem build_keeps_with {α : Type} {x : BuildM α} {P : Builder → Prop} {R : Lowering → Prop}
    (h : ⦃fun b => ⌜P b⌝⦄ x ⦃⇓ _ b => ⌜P b⌝⦄) (hR : ∀ s b, R { s with builder := b } ↔ R s) :
    ⦃fun s => ⌜P s.builder ∧ R s⌝⦄ build x ⦃⇓? _ s => ⌜P s.builder ∧ R s⌝⦄ :=
  fun s hs => ⟨h s.builder hs.1, (hR s _).2 hs.2⟩

/-- A building step that keeps the module opened keeps the state framed. -/
theorem build_framed {α : Type} {x : BuildM α}
    (h : ⦃fun b => ⌜b.module.Opened⌝⦄ x ⦃⇓ _ b => ⌜b.module.Opened⌝⦄) :
    ⦃fun s => ⌜s.Framed⌝⦄ build x ⦃⇓? _ s => ⌜s.Framed⌝⦄ :=
  build_keeps_with (R := Interfaced 0) h fun _ _ => Iff.rfl

-- Constant vectors are known by their specifications only.
attribute [local irreducible] Builder.vec4Constant

/-- The steps that compute values keep the state framed. -/
theorem framed_basic : Basic Framed where
  alloc := build_framed (Builder.triple_of_run fun _ hb => hb.bump)
  emit _ hi := build_framed (Builder.triple_of_run fun _ hb => hb.push_functions hi)
  typeId d hd := build_framed (Builder.opened_of_declared (Builder.typeId_declared · d)
    fun _ hb => ⟨⟨hb.toDeclared, rfl⟩, hd⟩)
  pointerTypeId d sc hd := build_framed (Builder.opened_of_declared
    (Builder.pointerTypeId_declared · d sc) fun _ hb => ⟨⟨hb.toDeclared, rfl⟩, hd⟩)
  null d hd := build_framed (Builder.opened_of_declared (Builder.null_declared · d)
    fun _ hb => ⟨⟨hb.toDeclared, rfl⟩, hd⟩)
  float32 bits := build_framed (Builder.opened_of_declared (Builder.float32_declared · bits)
    fun _ hb => ⟨hb.toDeclared, rfl⟩)
  int32 bits := build_framed (Builder.opened_of_declared (Builder.int32_declared · bits)
    fun _ hb => ⟨hb.toDeclared, rfl⟩)
  vec4Constant bits hbits := build_framed (Builder.opened_of_declared
    (Builder.vec4Constant_declared · bits) fun _ hb => ⟨⟨hb.toDeclared, rfl⟩, hbits⟩)
  composite parts hlen := build_framed (Builder.opened_of_declared
    (Builder.composite_declared · TypeDesc.ivec4 parts)
    fun _ hb => ⟨⟨hb.toDeclared, rfl⟩, by simp, hlen⟩)
  boolean value := build_framed (Builder.opened_of_declared (Builder.boolean_declared · value)
    fun _ hb => ⟨hb.toDeclared, rfl⟩)
  bindValue _ _ := fun _ hs => hs
  markDefined _ _ hs := hs

theorem loadInput_framed (reg : Register) :
    ⦃fun s => ⌜s.Framed⌝⦄ loadInput reg ⦃⇓? _ s => ⌜s.Framed⌝⦄ := by
  have htype := framed_basic.typeId
  have hcompute := framed_basic.compute_keeps
  have hunpack := framed_basic.unpackColor_keeps
  mvcgen [loadInput, htype, hcompute, hunpack] with
    first
    | simp
    | -- the variable of an input register has the type of a recorded input
      (obtain ⟨_, hmem⟩ := snd_mem_of_lookup ‹List.lookup _ _ = some _›
       exact (‹Framed _›.2.inputs _ hmem).2.2)

theorem uint32_framed (value : Nat) :
    ⦃fun s => ⌜s.Framed⌝⦄ build (Builder.uint32 value) ⦃⇓? _ s => ⌜s.Framed⌝⦄ :=
  build_framed (Builder.opened_of_declared (Builder.uint32_declared · value)
    fun _ hb => ⟨hb.toDeclared, rfl⟩)

attribute [local spec] declare_spec annotate_spec addName_spec


theorem constantBlock_framed :
    ⦃fun s => ⌜s.Framed⌝⦄ constantBlock ⦃⇓? _ s => ⌜s.Framed⌝⦄ := by
  have htype := framed_basic.typeId
  have hpointer := framed_basic.pointerTypeId
  have halloc := framed_basic.alloc
  have huint := uint32_framed
  mvcgen -trivial [constantBlock, htype, hpointer, halloc, huint] with
    first
    | -- the module after the block's declaration, decorations and names
      (obtain ⟨hopen, hcount⟩ := ‹Framed _›
       simp +zetaDelta only [Framed]
       refine ⟨?_, hcount⟩
       repeat
         first
         | apply Module.Opened.push_names
         | apply Module.Opened.push_annotations
         | apply Module.Opened.push_declarations
         | apply Module.Opened.bump
       all_goals first
         | exact hopen
         | exact Lowering.nameOf_isName _ _
         | exact Lowering.nameOf_fits _ _ (by decide)
         | exact decoration_isDecoration _ _ _
         | exact decoration_fits _ _ _ (by simp)
         | exact .inr rfl
         | exact Instruction.isDeclaration_variable (by decide) _ _
         | rfl
         | (apply Instruction.fits_of_length <;>
              (try simp only [length_stringWords, List.length_cons, List.length_nil]) <;> decide))
    | simp +zetaDelta

/-- Creating the variable of a register leaves it pending in the interface, and keeps any
property of the inputs and outputs. -/
theorem interfaceVariable_counted (reg : Register) (ty : TypeDesc) (slot : InterfaceSlot)
    (hreg : reg.InRange) (hsc : reg.file.storageClass ≠ StorageClass.function)
    (hty : ty.Canonical) (Q : List (Register × InterfaceVar) → List (Register × InterfaceVar) → Prop) :
    ⦃fun s => ⌜s.builder.module.Opened ∧ s.Interfaced 0 ∧ Q s.inputs s.outputs⌝⦄
      interfaceVariable reg ty slot
    ⦃⇓? _ s => ⌜s.builder.module.Opened ∧ s.Interfaced 1 ∧ Q s.inputs s.outputs⌝⦄ := by
  have hpointer := build_keeps_with (R := fun s => s.Interfaced 0 ∧ Q s.inputs s.outputs)
    (Builder.opened_of_declared (Builder.pointerTypeId_declared · ty reg.file.storageClass)
      fun _ hb => ⟨⟨hb.toDeclared, rfl⟩, hty⟩) fun _ _ => Iff.rfl
  have hname : reg.display.utf8ByteSize < 65536 := by
    have := reg.display_size_le hreg
    omega
  have halloc : ⦃fun s => ⌜s.builder.module.Opened ∧ s.Interfaced 0 ∧ Q s.inputs s.outputs⌝⦄
      alloc ⦃⇓? _ s => ⌜s.builder.module.Opened ∧ s.Interfaced 0 ∧ Q s.inputs s.outputs⌝⦄ :=
    build_keeps_with (P := fun b => b.module.Opened)
      (R := fun s => s.Interfaced 0 ∧ Q s.inputs s.outputs)
      (Builder.triple_of_run fun _ hb => hb.bump) fun _ _ => Iff.rfl
  cases slot <;> mvcgen -trivial [interfaceVariable, hpointer, halloc]
  all_goals first
    | exact ‹_›
    | (obtain ⟨hopen, hcount, hq⟩ := ‹_ ∧ Interfaced 0 _ ∧ _›
       refine ⟨?_, hcount.push _, hq⟩
       simp +zetaDelta only []
       exact ((hopen.push_variable hsc _ _).push_decoration _ _ (by simp)).push_name _ hname)

theorem declareVertexInput_framed (reg : Register) (usage : Usage) (hreg : reg.InRange)
    (hfile : reg.file = .input) :
    ⦃fun s => ⌜s.Framed⌝⦄ declareVertexInput reg usage ⦃⇓? _ s => ⌜s.Framed⌝⦄ := by
  have hsc : reg.file.storageClass ≠ StorageClass.function := by
    rw [hfile]
    decide
  have hvar := fun ty slot (hty : TypeDesc.Canonical ty) =>
    interfaceVariable_counted reg ty slot hreg hsc hty fun inputs _ => reg ∉ inputs.map Prod.fst
  -- packed colours are unsigned integer vectors, every other input four floats
  have hty : ∀ packed : Bool,
      (if packed = true ∧ usage = .color then TypeDesc.uintVector 4 else TypeDesc.vec4).Canonical := by
    intro packed
    split <;> simp
  mvcgen [declareVertexInput, hvar] with
    first
    | exact hty _
    | exact ⟨‹Framed _›.1, ‹Framed _›.2,
        not_mem_keys_of_lookup (Option.not_isSome_iff_eq_none.1 ‹¬(List.lookup reg _).isSome = true›)⟩
    | (obtain ⟨hopen, hcount, hnew⟩ := ‹_ ∧ Interfaced 1 _ ∧ _›
       simp +zetaDelta only [Framed]
       exact ⟨hopen, hcount.add_input _ hnew hreg (.inl hfile) (hty _)⟩)

theorem createOutput_framed (reg : Register) (ty : TypeDesc) (slot : InterfaceSlot)
    (usage : Option Usage) (hreg : reg.InRange) (hout : reg.file.isOutput) (hty : ty.Canonical) :
    ⦃fun s => ⌜s.Framed ∧ reg ∉ s.outputs.map Prod.fst⌝⦄
      createOutput reg ty slot usage
    ⦃⇓? _ s => ⌜s.Framed⌝⦄ := by
  have hvar := interfaceVariable_counted reg ty slot hreg
    (RegisterFile.storageClass_ne_function_of_isOutput hout) hty
    fun _ outputs => reg ∉ outputs.map Prod.fst
  mvcgen [createOutput, hvar] with
    first
    | (obtain ⟨⟨hopen, hcount⟩, hnew⟩ := ‹Framed _ ∧ _›
       exact ⟨hopen, hcount, hnew⟩)
    | (obtain ⟨hopen, hcount, hnew⟩ := ‹_ ∧ Interfaced 1 _ ∧ _›
       simp +zetaDelta only [Framed]
       exact ⟨hopen, hcount.add_output _ hnew hreg hout⟩)

theorem ensureOutput_framed (reg : Register) (hreg : reg.InRange) :
    ⦃fun s => ⌜s.Framed⌝⦄ ensureOutput reg ⦃⇓? _ s => ⌜s.Framed⌝⦄ := by
  have hcreate := fun ty slot hout hty => createOutput_framed reg ty slot none hreg hout hty
  mvcgen [ensureOutput, hcreate] with
    first
    | (rw [‹reg.file = _›]; rfl)
    | (split <;> simp)
    | exact ⟨‹Framed _›,
        not_mem_keys_of_lookup (Option.not_isSome_iff_eq_none.1 ‹¬(List.lookup reg _).isSome = true›)⟩

theorem declareSampler_framed (index : Nat) (type : TextureType)
    (hreg : (⟨.sampler, index⟩ : Register).InRange) :
    ⦃fun s => ⌜s.Framed⌝⦄ declareSampler index type ⦃⇓? _ s => ⌜s.Framed⌝⦄ := by
  have hpointer := framed_basic.pointerTypeId
  have halloc := framed_basic.alloc
  -- the texture and the sampler variable are named after the register with a suffix
  have hname : ∀ suffix : String, suffix.utf8ByteSize ≤ 8 →
      ((⟨.sampler, index⟩ : Register).display ++ suffix).utf8ByteSize < 65536 := by
    intro suffix hsuffix
    have := Register.display_size_le _ hreg
    rw [String.utf8ByteSize_append]
    omega
  have hsc : StorageClass.uniformConstant ≠ StorageClass.function := by decide
  -- the loop over the two variables, unrolled
  simp only [declareSampler, List.forIn_cons, List.forIn_nil]
  mvcgen -trivial [hpointer, halloc] with
    first
    | -- the module after both variables, their decorations and their names
      (obtain ⟨hopen, hcount⟩ := ‹Framed _›
       simp +zetaDelta only [Framed]
       refine ⟨?_, hcount⟩
       refine Module.Opened.push_name ?_ _ (hname _ (by decide))
       exact hopen.push_variable hsc _ _ |>.push_decoration _ _ (by simp)
         |>.push_decoration _ _ (by simp) |>.push_name _ (hname _ (by decide))
         |>.push_variable hsc _ _ |>.push_decoration _ _ (by simp)
         |>.push_decoration _ _ (by simp))
    | exact ‹Framed _›
    | simp
    | trivial

theorem declarePixelInput_framed (reg : Register) (usage : Usage) (index : Nat)
    (hreg : reg.InRange) (hfile : reg.file = .input ∨ reg.file = .texture) :
    ⦃fun s => ⌜s.Framed⌝⦄ declarePixelInput reg usage index ⦃⇓? _ s => ⌜s.Framed⌝⦄ := by
  have hsc : reg.file.storageClass ≠ StorageClass.function := by
    rcases hfile with hfile | hfile <;> rw [hfile] <;> decide
  have hvar := fun slot => interfaceVariable_counted reg TypeDesc.vec4 slot hreg hsc (by simp)
    fun inputs _ => reg ∉ inputs.map Prod.fst
  mvcgen [declarePixelInput, hvar] with
    first
    | exact ⟨‹Framed _›.1, ‹Framed _›.2,
        not_mem_keys_of_lookup (Option.not_isSome_iff_eq_none.1 ‹¬(List.lookup reg _).isSome = true›)⟩
    | (obtain ⟨hopen, hcount, hnew⟩ := ‹_ ∧ Interfaced 1 _ ∧ _›
       simp +zetaDelta only [Framed]
       exact ⟨hopen, hcount.add_input _ hnew hreg hfile (by simp)⟩)

theorem declareOutput_framed (reg : Register) (usage : Usage) (index : Nat)
    (hreg : reg.InRange) (hout : reg.file.isOutput) :
    ⦃fun s => ⌜s.Framed⌝⦄ declareOutput reg usage index ⦃⇓? _ s => ⌜s.Framed⌝⦄ := by
  have hcreate := fun ty slot hty => createOutput_framed reg ty slot (some usage) hreg hout hty
  mvcgen [declareOutput, hcreate] with
    first
    | (simp +zetaDelta only []
       split <;> simp)
    | exact ⟨‹Framed _›,
        not_mem_keys_of_lookup (Option.not_isSome_iff_eq_none.1 ‹¬(List.lookup reg _).isSome = true›)⟩

theorem declare_framed (decl : Declaration) (dst : Destination) (hreg : dst.reg.InRange) :
    ⦃fun s => ⌜s.Framed⌝⦄ declare decl dst ⦃⇓? _ s => ⌜s.Framed⌝⦄ := by
  have hsampler := fun index type => declareSampler_framed index type
  have hvertex := fun usage hfile => declareVertexInput_framed dst.reg usage hreg hfile
  have hpixel := fun usage index hfile => declarePixelInput_framed dst.reg usage index hreg hfile
  have houtput := fun usage index hout => declareOutput_framed dst.reg usage index hreg hout
  mvcgen [declare, hsampler, hvertex, hpixel, houtput] with
    first
    | exact hreg.of_file ‹_›
    | (rw [‹dst.reg.file = _›]; rfl)
    | exact .inl ‹_›
    | exact .inr ‹_›

/-- `Framed` is closed under the primitive steps of lowering. -/
theorem framed_closed : Closed Framed :=
  { framed_basic with
    loadInput := loadInput_framed
    constantBlock := constantBlock_framed
    ensureOutput := ensureOutput_framed }

attribute [local spec] emit_spec addEntryPoint_spec addExecutionMode_spec

/-- Ending the function and adding the entry point and its modes lays out a framed module. -/
theorem finish_laid : ⦃fun s => ⌜s.Framed⌝⦄ finish ⦃⇓? r _ => ⌜r.module.Laid⌝⦄ := by
  have hstore := framed_closed.reading.storeOutputs_keeps
  have hmode : ∀ entry mode, (executionMode entry mode).Fits := fun _ _ =>
    Instruction.fits_of_length (show Op.executionMode.code < 65536 by decide)
      (by simp [executionMode])
  mvcgen [finish, hstore] with
    (obtain ⟨hopen, hcount⟩ := ‹Framed _›
     repeat refine Module.Laid.push_executionMode ?_ rfl (hmode _ _)
     exact hopen.close rfl (entryPoint_fits _ _ _ (by simpa using hcount.size_le)))

/-- Lowering a program of well formed instructions from a framed state lays the module out. -/
theorem program_laid (p : Program) (hwf : ∀ ins ∈ p.body, ins.WellFormed) :
    ⦃fun s => ⌜s.Framed⌝⦄ program p ⦃⇓? r _ => ⌜r.module.Laid⌝⦄ := by
  have body : ⦃fun s => ⌜s.Framed⌝⦄ p.body.forM instruction ⦃⇓? _ s => ⌜s.Framed⌝⦄ :=
    forM_keeps fun ins hins => framed_closed.instruction_keeps ins (hwf ins hins)
      (fun decl dst _ => declare_framed decl dst)
  mvcgen [program, body, finish_laid]

end

/-- Lowering starts framed: the module opened, and no interface variable yet. -/
theorem start_framed (options : Options) (registry : ConstantRegistry) (version : ShaderVersion) :
    (start options registry version).Framed :=
  ⟨Builder.run_of_triple Builder.opening_opened {} rfl,
    ⟨rfl, List.nodup_nil, fun _ hp => (List.not_mem_nil hp).elim, List.nodup_nil,
      fun _ hp => (List.not_mem_nil hp).elim⟩⟩

end Lowering

/-- Every shader the converter produces is laid out section by section, and the words after its
header split, by the word count and opcode in each first word, into its instructions in order. -/
theorem Converter.compile_laid {c : Converter} {tokens : Array UInt32} {shader : Shader}
    (h : c.compile tokens = .ok shader) :
    shader.module.Laid ∧
      Spirv.frame (shader.words.drop 5) = some (shader.module.instructions.map Spirv.Instruction.framed) := by
  obtain ⟨p, hp, hlower⟩ := Converter.compile_eq_ok h
  obtain ⟨s', hrun⟩ := Program.lower_eq_ok hlower
  have hlaid : shader.module.Laid :=
    Lowering.triple_run (Lowering.program_laid p (Program.decode_wellFormed hp))
      (Lowering.start_framed _ _ _) hrun
  exact ⟨hlaid, hlaid.frame⟩

/-- A model 2 vertex shader that declares a position in `v0` and a colour in `v1`, defines `c0`,
adds the undefined `c3` to the position and scales the colour by `c0` converts to a module laid
out section by section. -/
theorem Converter.compile_color_vertex_laid :
    ∃ t : Array UInt32, t = #[0xFFFE0200, 0x0200001F, 0x80000000, 0x900F0000, 0x0200001F,
        0x8000000A, 0x900F0001, 0x05000051, 0xA00F0000, 0x3F800000, 0x00000000, 0x00000000,
        0x3F800000, 0x03000002, 0x800F0000, 0x90E40000, 0xA0E40003, 0x02000001, 0xC00F0000,
        0x80E40000, 0x03000005, 0xD00F0000, 0x90E40001, 0xA0E40000, 0x0000FFFF] ∧
    ∃ shader, Converter.compile {} t = .ok shader ∧
      shader.module.Laid ∧
      Spirv.frame (shader.words.drop 5) =
        some (shader.module.instructions.map Spirv.Instruction.framed) := by
  obtain ⟨shader, hc⟩ := exists_eq_ok_of_toBool
    (show (Converter.compile {} #[0xFFFE0200, 0x0200001F, 0x80000000, 0x900F0000, 0x0200001F,
        0x8000000A, 0x900F0001, 0x05000051, 0xA00F0000, 0x3F800000, 0x00000000, 0x00000000,
        0x3F800000, 0x03000002, 0x800F0000, 0x90E40000, 0xA0E40003, 0x02000001, 0xC00F0000,
        0x80E40000, 0x03000005, 0xD00F0000, 0x90E40001, 0xA0E40000, 0x0000FFFF]).toBool = true by decide +kernel)
  exact ⟨_, rfl, shader, hc, Converter.compile_laid hc⟩

end ShaderBridge
