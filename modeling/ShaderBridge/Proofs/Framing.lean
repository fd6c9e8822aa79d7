import ShaderBridge.Proofs.Closure

/-!
The binary form of a module read back instruction by instruction (`frame`), and the layout the
converter gives its modules (`Module.Laid`).
-/

namespace ShaderBridge.Spirv

/-- The word count a first word holds: its high 16 bits. -/
def wordCountOf (w : Nat) : Nat := w / 65536 % 65536

/-- The opcode a first word holds: its low 16 bits. -/
def opcodeOf (w : Nat) : Nat := w % 65536

/-- Splits a word stream into instructions, each as long as the word count in the high half of
its first word says, and reads each as its opcode and the words after the first. A count of zero,
or one that runs past the end of the stream, splits nothing. -/
def frame (words : List Nat) : Option (List (Nat × List Nat)) :=
  match words with
  | [] => some []
  | w :: rest =>
    if wordCountOf w = 0 ∨ rest.length + 1 < wordCountOf w then none
    else (frame (rest.drop (wordCountOf w - 1))).map
      ((opcodeOf w, rest.take (wordCountOf w - 1)) :: ·)
termination_by words.length
decreasing_by simp only [List.length_drop, List.length_cons]; omega

namespace Instruction

/-- The instruction's word count and opcode fit the 16 bits each that its first word gives
them. -/
def Fits (i : Instruction) : Prop := i.wordCount < 65536 ∧ i.op.code < 65536

instance (i : Instruction) : Decidable i.Fits := inferInstanceAs (Decidable (_ ∧ _))

theorem one_le_wordCount (i : Instruction) : 1 ≤ i.wordCount := by
  unfold wordCount
  omega

/-- The first word of an encoding gives back the word count. -/
theorem wordCountOf_encode {i : Instruction} (h : i.Fits) :
    wordCountOf (i.wordCount * 65536 + i.op.code) = i.wordCount := by
  unfold wordCountOf
  obtain ⟨hcount, hop⟩ := h
  omega

/-- The first word of an encoding gives back the opcode. -/
theorem opcodeOf_encode {i : Instruction} (h : i.Fits) :
    opcodeOf (i.wordCount * 65536 + i.op.code) = i.op.code := by
  unfold opcodeOf
  obtain ⟨-, hop⟩ := h
  omega

/-- The opcode and the words after the first: the result type, the result and the operands. -/
def framed (i : Instruction) : Nat × List Nat :=
  (i.op.code, i.resultType.toList ++ i.result.toList ++ i.operands)

/-- An instruction that fits its first word is split off the front of a stream whole. -/
theorem frame_encode_append {i : Instruction} (h : i.Fits) (rest : List Nat) :
    frame (i.encode ++ rest) = (frame rest).map (i.framed :: ·) := by
  have hlen := length_encode i
  have hone := one_le_wordCount i
  -- the words after the first: the instruction's own, then the rest of the stream
  obtain ⟨tail, htail, hframed⟩ : ∃ tail, i.encode = (i.wordCount * 65536 + i.op.code) :: tail ∧
      i.framed = (i.op.code, tail) :=
    ⟨_, rfl, rfl⟩
  have htail_len : tail.length = i.wordCount - 1 := by
    rw [htail, List.length_cons] at hlen
    omega
  rw [htail, List.cons_append, frame, wordCountOf_encode h, opcodeOf_encode h,
    if_neg (by simp; omega), ← htail_len, List.take_left, List.drop_left, hframed]

end Instruction

/-- A stream of encodings that each fit their first word splits into those instructions. -/
theorem frame_flatMap_encode {is : List Instruction} (h : ∀ i ∈ is, i.Fits) :
    frame (is.flatMap Instruction.encode) = some (is.map Instruction.framed) := by
  induction is with
  | nil => simp [frame]
  | cons i is ih =>
    have hi : i.Fits := h i (List.mem_cons_self ..)
    have hrest := ih fun j hj => h j (List.mem_cons_of_mem _ hj)
    rw [List.flatMap_cons, i.frame_encode_append hi, hrest, List.map_cons, Option.map_some]

/-- The opcodes of type and constant declarations. -/
def Op.declarationOps : List Op :=
  [Op.typeVoid, Op.typeBool, Op.typeInt, Op.typeFloat, Op.typeVector, Op.typeMatrix,
    Op.typeImage, Op.typeSampler, Op.typeSampledImage, Op.typeArray, Op.typeStruct,
    Op.typePointer, Op.typeFunction, Op.constantTrue, Op.constantFalse, Op.constant,
    Op.constantComposite, Op.constantNull]

namespace Instruction

/-- A debug name: `OpName` or `OpMemberName`. -/
def IsName (i : Instruction) : Prop := i.op = Op.name ∨ i.op = Op.memberName

/-- A decoration: `OpDecorate` or `OpMemberDecorate`. -/
def IsDecoration (i : Instruction) : Prop := i.op = Op.decorate ∨ i.op = Op.memberDecorate

/-- A declaration of the module's global part: a type, a constant, or a variable of a storage
class other than `Function`. -/
def IsDeclaration (i : Instruction) : Prop :=
  i.op ∈ Op.declarationOps ∨ i.op = Op.var ∧ i.operands ≠ [StorageClass.function.code]

/-- Whether the instruction declares a 1D image type. -/
def isImage1D (i : Instruction) : Bool :=
  i.op == Op.typeImage && i.operands[1]? == some Dim.dim1D.code

/-- An instruction fits its first word when its opcode and operand count do. -/
theorem fits_of_length {i : Instruction} (hop : i.op.code < 65536)
    (hlen : i.operands.length < 65533) : i.Fits := by
  have hres : i.resultType.toList.length ≤ 1 ∧ i.result.toList.length ≤ 1 := by
    cases i.resultType <;> cases i.result <;> simp
  exact ⟨by unfold wordCount; omega, hop⟩

/-- A block instruction has at most nine words. -/
theorem InBlock.fits {i : Instruction} (h : i.InBlock) : i.Fits := by
  have hcode : ∀ o ∈ Op.blockOps, o.code < 65536 := by decide
  exact fits_of_length (hcode i.op h.1) (by have := h.2; omega)

end Instruction

namespace Module

/-- Whether the module declares a 1D image type. -/
def declaresImage1D (m : Module) : Bool := m.declarations.any Instruction.isImage1D

/-- The import of the GLSL.std.450 extended instructions under id `id`. -/
def glslImport (id : Nat) : Instruction :=
  { op := Op.extInstImport, result := some id, operands := stringWords "GLSL.std.450" }

/-- The logical addressing model with the GLSL450 memory model. -/
def logicalGlsl450 : Instruction := { op := Op.memoryModel, operands := [0, 1] }

/-- The sections of a converted module that have their final shape while its function is still
being lowered. -/
structure Declared (m : Module) : Prop where
  capabilities : m.capabilities.toList =
    Capability.shader :: if m.declaresImage1D then [Capability.sampled1D] else []
  extensions : m.extensions = #[]
  imports : ∃ id, m.imports = #[glslImport id]
  memoryModel : m.memoryModel = #[logicalGlsl450]
  names : ∀ i ∈ m.names, i.IsName ∧ i.Fits
  annotations : ∀ i ∈ m.annotations, i.IsDecoration ∧ i.Fits
  declarations : ∀ i ∈ m.declarations, i.IsDeclaration ∧ i.Fits

/-- A module while its function is lowered: no entry point or execution mode yet, and one
function, opened by `OpFunction` and `OpLabel`, whose body so far is block instructions. -/
structure Opened (m : Module) : Prop extends m.Declared where
  entryPoints : m.entryPoints = #[]
  executionModes : m.executionModes = #[]
  functions : ∃ f l body, m.functions.toList = f :: l :: body ∧
    f.op = Op.function ∧ f.Fits ∧ l.op = Op.label ∧ l.Fits ∧ ∀ i ∈ body, i.InBlock

/-- A finished module: one entry point, its execution modes, and the function closed by
`OpReturn` and `OpFunctionEnd`. -/
structure Laid (m : Module) : Prop extends m.Declared where
  entryPoint : ∃ e, m.entryPoints = #[e] ∧ e.op = Op.entryPoint ∧ e.Fits
  executionModes : ∀ i ∈ m.executionModes, i.op = Op.executionMode ∧ i.Fits
  functions : ∃ f l body, m.functions.toList =
      f :: l :: body ++ [{ op := Op.returnVoid }, { op := Op.functionEnd }] ∧
    f.op = Op.function ∧ f.Fits ∧ l.op = Op.label ∧ l.Fits ∧ ∀ i ∈ body, i.InBlock

/-- The sections after the declarations: entry points, execution modes and the function. -/
def afterDeclarations (m : Module) : Array Instruction × Array Instruction × Array Instruction :=
  (m.entryPoints, m.executionModes, m.functions)

/-- The sections of `Declared` are in shape, and the later sections are `after`: what declaring
types and constants keeps. -/
abbrev DeclaredWith (after : Array Instruction × Array Instruction × Array Instruction)
    (m : Module) : Prop :=
  m.Declared ∧ m.afterDeclarations = after

end Module

theorem Dim.code_eq_dim1D_iff (dim : Dim) : dim.code = Dim.dim1D.code ↔ dim = .dim1D := by
  cases dim <;> decide

namespace TypeDesc

@[simp] theorem canonical_componentDesc (d : TypeDesc) : d.componentDesc.Canonical := by
  unfold componentDesc
  split
  · exact canonical_int _
  · split
    · exact canonical_bool
    · exact canonical_float

theorem Canonical.kind_ne_matrix {d : TypeDesc} (h : d.Canonical) : d.kind ≠ .matrix := by
  intro hk
  simp only [Canonical, hk] at h

end TypeDesc

theorem Op.declarationOps_code_lt : ∀ o ∈ Op.declarationOps, o.code < 65536 := by decide

namespace Module

variable {m : Module} {i : Instruction}

@[simp] theorem declaresImage1D_bump : m.bump.declaresImage1D = m.declaresImage1D := rfl

@[simp] theorem declaresImage1D_push_declarations :
    (m.push .declarations i).declaresImage1D = (m.declaresImage1D || i.isImage1D) := by
  simp [declaresImage1D, push]

theorem requireCapability_eq (c : Capability) : m.requireCapability c =
    { m with capabilities :=
      if m.capabilities.contains c then m.capabilities else m.capabilities.push c } := by
  unfold requireCapability
  split <;> rfl

@[simp] theorem afterDeclarations_bump : m.bump.afterDeclarations = m.afterDeclarations := rfl

@[simp] theorem afterDeclarations_push_declarations :
    (m.push .declarations i).afterDeclarations = m.afterDeclarations := rfl

@[simp] theorem afterDeclarations_requireCapability (c : Capability) :
    (m.requireCapability c).afterDeclarations = m.afterDeclarations := by
  rw [requireCapability_eq]
  rfl

namespace Declared

theorem bump (h : m.Declared) : m.bump.Declared :=
  ⟨h.1, h.2, h.3, h.4, h.5, h.6, h.7⟩

/-- The sections after the declarations are no part of `Declared`. -/
theorem push_after (h : m.Declared) {sec : Section}
    (hsec : sec = .entryPoints ∨ sec = .executionModes ∨ sec = .functions) :
    (m.push sec i).Declared := by
  rcases hsec with rfl | rfl | rfl <;> exact ⟨h.1, h.2, h.3, h.4, h.5, h.6, h.7⟩

theorem push_names (h : m.Declared) (hi : i.IsName) (hfit : i.Fits) :
    (m.push .names i).Declared := by
  refine ⟨h.1, h.2, h.3, h.4, ?_, h.6, h.7⟩
  intro x hx
  rcases Array.mem_push.1 hx with hx | rfl
  · exact h.names x hx
  · exact ⟨hi, hfit⟩

theorem push_annotations (h : m.Declared) (hi : i.IsDecoration) (hfit : i.Fits) :
    (m.push .annotations i).Declared := by
  refine ⟨h.1, h.2, h.3, h.4, h.5, ?_, h.7⟩
  intro x hx
  rcases Array.mem_push.1 hx with hx | rfl
  · exact h.annotations x hx
  · exact ⟨hi, hfit⟩

/-- A declaration other than a 1D image keeps the capabilities what they must be. -/
theorem push_declarations (h : m.Declared) (hi : i.IsDeclaration) (hfit : i.Fits)
    (himage : i.isImage1D = false) : (m.push .declarations i).Declared := by
  refine ⟨?_, h.2, h.3, h.4, h.5, h.6, ?_⟩
  · rw [declaresImage1D_push_declarations, himage, Bool.or_false]
    exact h.capabilities
  · intro x hx
    rcases Array.mem_push.1 hx with hx | rfl
    · exact h.declarations x hx
    · exact ⟨hi, hfit⟩

/-- A 1D image is declared after `Sampled1D` is required, which adds the capability the first
time. -/
theorem push_image1D (h : m.Declared) (hi : i.IsDeclaration) (hfit : i.Fits)
    (himage : i.isImage1D = true) :
    ((m.requireCapability Capability.sampled1D).push .declarations i).Declared := by
  rw [requireCapability_eq]
  refine ⟨?_, h.2, h.3, h.4, h.5, h.6, ?_⟩
  · have hcaps := h.capabilities
    have hmem : Capability.sampled1D ∈ m.capabilities ↔
        Capability.sampled1D ∈ m.capabilities.toList := Array.mem_toList_iff.symm
    simp only [declaresImage1D_push_declarations, himage, Bool.or_true, if_true]
    simp only [push, Array.contains_iff_mem]
    -- the capability is there already exactly when a 1D image was declared before
    cases hdecl : m.declaresImage1D
    · simp only [hdecl, Bool.false_eq_true, if_false] at hcaps
      rw [if_neg (by rw [hmem, hcaps]; decide), Array.toList_push, hcaps]
      rfl
    · simp only [hdecl, if_true] at hcaps
      rw [if_pos (by rw [hmem, hcaps]; decide), hcaps]
  · intro x hx
    rcases Array.mem_push.1 hx with hx | rfl
    · exact h.declarations x hx
    · exact ⟨hi, hfit⟩

end Declared

namespace DeclaredWith

variable {after : Array Instruction × Array Instruction × Array Instruction}

/-- A type or constant other than an image, with at most four operands, declared under a fresh
id. -/
theorem declare (h : m.DeclaredWith after) {o : Op} (ho : o ∈ Op.declarationOps)
    (himage : o ≠ Op.typeImage) (resultType result : Option Nat) {operands : List Nat}
    (hlen : operands.length ≤ 4) :
    (m.bump.push .declarations ⟨o, resultType, result, operands⟩).DeclaredWith after := by
  have hres : resultType.toList.length ≤ 1 ∧ result.toList.length ≤ 1 := by
    cases resultType <;> cases result <;> simp
  refine ⟨h.1.bump.push_declarations (.inl ho) ⟨?_, Op.declarationOps_code_lt o ho⟩ ?_, h.2⟩
  · simp only [Instruction.wordCount]
    omega
  · simp [Instruction.isImage1D, himage]

section

variable (sampled code id : Nat)

/-- The declaration of an image type with the given sampled type and dimensionality code. -/
abbrev imageDeclaration : Instruction :=
  { op := Op.typeImage, result := some id, operands := [sampled, code, 0, 0, 0, 1, 0] }

theorem imageDeclaration_isDeclaration : (imageDeclaration sampled code id).IsDeclaration :=
  .inl (show Op.typeImage ∈ Op.declarationOps by decide)

theorem imageDeclaration_fits : (imageDeclaration sampled code id).Fits :=
  ⟨by simp [Instruction.wordCount], show Op.typeImage.code < 65536 by decide⟩

/-- A 1D image type declared under a fresh id after `Sampled1D` is required. -/
theorem declare_image1D (h : m.DeclaredWith after) (hcode : code = Dim.dim1D.code) :
    ((m.requireCapability Capability.sampled1D).bump.push .declarations
      (imageDeclaration sampled code id)).DeclaredWith after := by
  have hpush := h.1.bump.push_image1D (imageDeclaration_isDeclaration sampled code id)
    (imageDeclaration_fits sampled code id) (by simp [Instruction.isImage1D, hcode])
  refine ⟨?_, by simp [h.2]⟩
  rw [requireCapability_eq] at hpush ⊢
  exact hpush

/-- An image type of another dimensionality declared under a fresh id. -/
theorem declare_image (h : m.DeclaredWith after) (hcode : code ≠ Dim.dim1D.code) :
    (m.bump.push .declarations (imageDeclaration sampled code id)).DeclaredWith after :=
  ⟨h.1.bump.push_declarations (imageDeclaration_isDeclaration sampled code id)
    (imageDeclaration_fits sampled code id) (by simp [Instruction.isImage1D, hcode]), h.2⟩

end

/-- The declaration of a leaf type fits its first word and is no image. -/
theorem declare_leaf (h : m.DeclaredWith after) {d : TypeDesc} (hd : d.Canonical) (id : Nat) :
    (m.bump.push .declarations (Builder.leafDeclaration d id)).DeclaredWith after := by
  unfold Builder.leafDeclaration
  split <;> rename_i hkind <;> simp only [TypeDesc.Canonical, hkind] at hd <;>
    refine h.declare (by decide) (by decide) _ _ ?_ <;>
    (try simp only [List.length_cons, List.length_nil, List.length_drop]) <;> omega

end DeclaredWith

/-- The module with only its fixed prelude: the capability `Shader`, the GLSL.std.450 import and
the memory model. -/
theorem prelude_declaredWith (nextId id : Nat) :
    ({ nextId, capabilities := #[Capability.shader], imports := #[glslImport id],
       memoryModel := #[logicalGlsl450] } : Module).DeclaredWith (#[], #[], #[]) :=
  ⟨⟨by simp [declaresImage1D], rfl, ⟨id, rfl⟩, rfl, by simp, by simp, by simp⟩, rfl⟩

theorem DeclaredWith.bump {after : Array Instruction × Array Instruction × Array Instruction}
    (h : m.DeclaredWith after) :
    m.bump.DeclaredWith after :=
  ⟨h.1.bump, h.2⟩

/-- A module with its prelude and declarations and nothing after them is opened by a debug name,
`OpFunction` and `OpLabel`. -/
theorem DeclaredWith.opened_function (h : m.DeclaredWith (#[], #[], #[]))
    {n f l : Instruction} (hn : n.IsName) (hnfit : n.Fits) (hf : f.op = Op.function)
    (hffit : f.Fits) (hl : l.op = Op.label) (hlfit : l.Fits) :
    (((m.push .names n).push .functions f).push .functions l).Opened := by
  obtain ⟨hdecl, hafter⟩ := h
  simp only [afterDeclarations, Prod.mk.injEq] at hafter
  obtain ⟨he, hx, hfs⟩ := hafter
  have hpush : Declared (((m.push .names n).push .functions f).push .functions l) :=
    ((hdecl.push_names hn hnfit).push_after (.inr (.inr rfl))).push_after (.inr (.inr rfl))
  exact ⟨hpush, he, hx, f, l, [], by simp [push, hfs], hf, hffit, hl, hlfit, by simp⟩

namespace Opened

/-- A step that keeps the sections of `Declared` in shape and the later sections as they were
keeps the module opened. -/
theorem of_declared {m' : Module} (h : m.Opened) (h' : m'.Declared)
    (hafter : m'.afterDeclarations = m.afterDeclarations) : m'.Opened := by
  simp only [afterDeclarations, Prod.mk.injEq] at hafter
  obtain ⟨he, hx, hf⟩ := hafter
  refine ⟨h', ?_, ?_, ?_⟩
  · rw [he]
    exact h.entryPoints
  · rw [hx]
    exact h.executionModes
  · rw [hf]
    exact h.functions

theorem bump (h : m.Opened) : m.bump.Opened :=
  ⟨h.toDeclared.bump, h.entryPoints, h.executionModes, h.functions⟩

theorem push_functions (h : m.Opened) (hi : i.InBlock) : (m.push .functions i).Opened := by
  refine ⟨h.toDeclared.push_after (.inr (.inr rfl)), h.entryPoints, h.executionModes, ?_⟩
  obtain ⟨f, l, body, hfs, hf, hfit, hl, hlfit, hbody⟩ := h.functions
  refine ⟨f, l, body ++ [i], ?_, hf, hfit, hl, hlfit, ?_⟩
  · simp [push, Array.toList_push, hfs]
  · intro x hx
    rcases List.mem_append.1 hx with hx | hx
    · exact hbody x hx
    · rw [List.mem_singleton.1 hx]
      exact hi

theorem push_names (h : m.Opened) (hi : i.IsName) (hfit : i.Fits) :
    (m.push .names i).Opened :=
  ⟨h.toDeclared.push_names hi hfit, h.entryPoints, h.executionModes, h.functions⟩

theorem push_annotations (h : m.Opened) (hi : i.IsDecoration) (hfit : i.Fits) :
    (m.push .annotations i).Opened :=
  ⟨h.toDeclared.push_annotations hi hfit, h.entryPoints, h.executionModes, h.functions⟩

theorem push_declarations (h : m.Opened) (hi : i.IsDeclaration) (hfit : i.Fits)
    (himage : i.isImage1D = false) : (m.push .declarations i).Opened :=
  ⟨h.toDeclared.push_declarations hi hfit himage, h.entryPoints, h.executionModes, h.functions⟩

end Opened

theorem glslImport_fits (id : Nat) : (glslImport id).Fits := by
  simp only [Instruction.Fits, Instruction.wordCount, glslImport, length_stringWords,
    Option.toList_some, Option.toList_none, List.length_singleton, List.length_nil]
  decide

/-- Every instruction of a finished module fits its first word. -/
theorem Laid.fits (h : m.Laid) : ∀ i ∈ m.instructions, i.Fits := by
  obtain ⟨id, himports⟩ := h.imports
  obtain ⟨e, hentry, -, hefit⟩ := h.entryPoint
  obtain ⟨f, l, body, hfs, -, hffit, -, hlfit, hbody⟩ := h.functions
  intro i hi
  simp only [instructions, capabilityInstructions, List.mem_append, Array.mem_toList_iff,
    List.mem_map, h.extensions, himports, h.memoryModel, hentry, hfs, List.mem_cons,
    List.not_mem_nil, or_false] at hi
  rcases hi with (((((((hi | rfl) | rfl) | rfl) | hi) | hi) | hi) | hi) |
    ((rfl | rfl | hi) | rfl | rfl)
  · -- a capability takes two words
    obtain ⟨c, -, rfl⟩ := hi
    exact ⟨by simp [Instruction.wordCount], by simp [Op.capability]⟩
  · exact glslImport_fits id
  · decide
  · exact hefit
  · exact (h.executionModes i hi).2
  · exact (h.names i hi).2
  · exact (h.annotations i hi).2
  · exact (h.declarations i hi).2
  · exact hffit
  · exact hlfit
  · exact (hbody i hi).fits
  · decide
  · decide

/-- The words of a finished module after its header split into its instructions, section by
section. -/
theorem Laid.frame (h : m.Laid) :
    frame (m.words.drop 5) = some (m.instructions.map Instruction.framed) := by
  have hheader : m.header.length = 5 := rfl
  rw [words, ← hheader, List.drop_left]
  exact frame_flatMap_encode h.fits

end Module

open Std.Do

theorem Lowering.nameOf_isName (id : Nat) (name : String) : (Lowering.nameOf id name).IsName :=
  .inl rfl

/-- A debug name fits its first word when the name has fewer than 2^16 bytes. -/
theorem Lowering.nameOf_fits (id : Nat) (name : String) (h : name.utf8ByteSize < 65536) :
    (Lowering.nameOf id name).Fits :=
  Instruction.fits_of_length (show Op.name.code < 65536 by decide)
    (by simp [Lowering.nameOf, length_stringWords]; omega)

namespace Builder

/-- A triple of a building step says what holds of the step's result and builder. -/
theorem triple_of_run {α : Type} {x : BuildM α} {P : Builder → Prop} {R : α → Builder → Prop}
    (h : ∀ b, P b → R (x b).1 (x b).2) : ⦃fun b => ⌜P b⌝⦄ x ⦃⇓ a b => ⌜R a b⌝⦄ :=
  fun b hb => h b hb

theorem run_of_triple {α : Type} {x : BuildM α} {P : Builder → Prop} {R : α → Builder → Prop}
    (h : ⦃fun b => ⌜P b⌝⦄ x ⦃⇓ a b => ⌜R a b⌝⦄) (b : Builder) (hb : P b) : R (x b).1 (x b).2 :=
  h b hb

section

set_option mvcgen.warning false

attribute [local spec] alloc_spec requireCapability_spec addImport_spec addMemoryModel_spec
  addName_spec declare_spec emit_spec

variable (after : Array Instruction × Array Instruction × Array Instruction)

theorem typeId_declared_lt (n : Nat) (d : TypeDesc) :
    ⦃fun b => ⌜b.module.DeclaredWith after ∧ d.Canonical ∧ d.depth < n⌝⦄ typeId d
      ⦃⇓ _ b => ⌜b.module.DeclaredWith after⌝⦄ := by
  induction n generalizing d with
  | zero => exact fun _ h => absurd h.2.2 (Nat.not_lt_zero _)
  | succ n ih =>
    rw [typeId]
    mvcgen [ih] with
      (obtain ⟨hm, hd, hdepth⟩ := ‹Module.DeclaredWith _ _ ∧ TypeDesc.Canonical _ ∧ _›
       first
       | exact absurd ‹d.kind = .matrix› hd.kind_ne_matrix
       | exact hm
       | exact ⟨hm, by simp, by grind [TypeDesc.depth, TypeDesc.depth_componentDesc,
            TypeDesc.depth_float, TypeDesc.depth_image]⟩
       | ((try dsimp +zetaDelta only)
          first
          | refine Module.DeclaredWith.declare ?_ (by decide) (by decide) _ _ (by simp)
          | refine Module.DeclaredWith.declare_leaf ?_ hd _
          | refine Module.DeclaredWith.declare_image1D _ _ _ ?_ (by rw [‹d.dim = _›])
          | refine Module.DeclaredWith.declare_image _ _ _ ?_ (by rwa [Ne, Dim.code_eq_dim1D_iff])
          -- the state after the component type, or else the one the declaration started in
          assumption))

theorem typeId_declared (d : TypeDesc) :
    ⦃fun b => ⌜b.module.DeclaredWith after ∧ d.Canonical⌝⦄ typeId d
      ⦃⇓ _ b => ⌜b.module.DeclaredWith after⌝⦄ :=
  fun b h => typeId_declared_lt after (d.depth + 1) d b ⟨h.1, h.2, Nat.lt_succ_self _⟩

theorem pointerTypeId_declared (d : TypeDesc) (sc : StorageClass) :
    ⦃fun b => ⌜b.module.DeclaredWith after ∧ d.Canonical⌝⦄ pointerTypeId d sc
      ⦃⇓ _ b => ⌜b.module.DeclaredWith after⌝⦄ := by
  have htype := typeId_declared after
  mvcgen [pointerTypeId, htype]

theorem scalar_declared (d : TypeDesc) (bits : Nat) :
    ⦃fun b => ⌜b.module.DeclaredWith after ∧ d.Canonical⌝⦄ scalar d bits
      ⦃⇓ _ b => ⌜b.module.DeclaredWith after⌝⦄ := by
  have htype := typeId_declared after
  mvcgen [scalar, htype] with
    first
    | exact ‹_›
    | (refine Module.DeclaredWith.declare ?_ (by decide) (by decide) _ _ (by simp)
       assumption)

theorem boolean_declared (value : Bool) :
    ⦃fun b => ⌜b.module.DeclaredWith after⌝⦄ boolean value
      ⦃⇓ _ b => ⌜b.module.DeclaredWith after⌝⦄ := by
  have htype := typeId_declared after
  mvcgen [boolean, htype] with
    first
    | exact ⟨‹_›, TypeDesc.canonical_bool⟩
    | exact ‹_›
    | (refine Module.DeclaredWith.declare ?_ (by split <;> decide) (by split <;> decide) _ _
        (by simp)
       assumption)

theorem composite_declared (d : TypeDesc) (parts : List Nat) :
    ⦃fun b => ⌜b.module.DeclaredWith after ∧ d.Canonical ∧ parts.length ≤ 4⌝⦄ composite d parts
      ⦃⇓ _ b => ⌜b.module.DeclaredWith after⌝⦄ := by
  have htype := typeId_declared after
  mvcgen [composite, htype] with
    (obtain ⟨hm, hd, hlen⟩ := ‹Module.DeclaredWith _ _ ∧ TypeDesc.Canonical _ ∧ _›
     first
     | exact ⟨hm, hd⟩
     | exact ‹_›
     | (refine Module.DeclaredWith.declare ?_ (by decide) (by decide) _ _ hlen
        assumption))

theorem null_declared (d : TypeDesc) :
    ⦃fun b => ⌜b.module.DeclaredWith after ∧ d.Canonical⌝⦄ null d
      ⦃⇓ _ b => ⌜b.module.DeclaredWith after⌝⦄ := by
  have htype := typeId_declared after
  mvcgen [null, htype] with
    first
    | exact ‹_›
    | (refine Module.DeclaredWith.declare ?_ (by decide) (by decide) _ _ (by simp)
       assumption)

theorem float32_declared (bits : Nat) :
    ⦃fun b => ⌜b.module.DeclaredWith after⌝⦄ float32 bits
      ⦃⇓ _ b => ⌜b.module.DeclaredWith after⌝⦄ := by
  have hscalar := scalar_declared after
  mvcgen [float32, hscalar]

theorem int32_declared (bits : Nat) :
    ⦃fun b => ⌜b.module.DeclaredWith after⌝⦄ int32 bits
      ⦃⇓ _ b => ⌜b.module.DeclaredWith after⌝⦄ := by
  have hscalar := scalar_declared after
  mvcgen [int32, hscalar]

theorem uint32_declared (value : Nat) :
    ⦃fun b => ⌜b.module.DeclaredWith after⌝⦄ uint32 value
      ⦃⇓ _ b => ⌜b.module.DeclaredWith after⌝⦄ := by
  have hscalar := scalar_declared after
  mvcgen [uint32, hscalar]

/-- A building step that keeps a property of the builder keeps it over a list, and gives one
result per element. -/
theorem mapM_length {β γ : Type} {f : β → BuildM γ} {P : Builder → Prop}
    (hf : ∀ a, ⦃fun b => ⌜P b⌝⦄ f a ⦃⇓ _ b => ⌜P b⌝⦄) (xs : List β) :
    ⦃fun b => ⌜P b⌝⦄ xs.mapM f ⦃⇓ r b => ⌜r.length = xs.length ∧ P b⌝⦄ := by
  induction xs with
  | nil =>
    rw [List.mapM_nil]
    mvcgen
  | cons x xs ih =>
    rw [List.mapM_cons]
    mvcgen [hf, ih] with simp_all

theorem vec4Constant_declared (bits : List Nat) :
    ⦃fun b => ⌜b.module.DeclaredWith after ∧ bits.length = 4⌝⦄ vec4Constant bits
      ⦃⇓ _ b => ⌜b.module.DeclaredWith after⌝⦄ := by
  have hparts := mapM_length (float32_declared after) bits
  have hcomposite := composite_declared after
  mvcgen [vec4Constant, hparts, hcomposite] with
    (obtain ⟨hm, hlen⟩ := ‹Module.DeclaredWith _ _ ∧ _ = 4›
     first
     | exact hm
     | (obtain ⟨hparts, hm'⟩ := ‹_ = bits.length ∧ _›
        exact ⟨hm', TypeDesc.canonical_vec4, by omega⟩))

/-- The fixed opening leaves the module opened. -/
theorem opening_opened :
    ⦃fun b => ⌜b = {}⌝⦄ Lowering.opening ⦃⇓ _ b => ⌜b.module.Opened⌝⦄ := by
  have htype := typeId_declared (#[], #[], #[])
  mvcgen [Lowering.opening, htype] with
    first
    | (subst ‹_ = ({} : Builder)›
       rw [Module.requireCapability_eq, if_neg (by simp)]
       exact ⟨Module.prelude_declaredWith _ _, TypeDesc.canonical_void⟩)
    | exact ⟨‹_›, TypeDesc.canonical_function _⟩
    | exact (‹Module.DeclaredWith _ _›.bump.bump).opened_function (Lowering.nameOf_isName _ _)
        (Lowering.nameOf_fits _ _ (by decide)) rfl
        (Instruction.fits_of_length (by simp [Op.function]) (by simp)) rfl
        (Instruction.fits_of_length (by simp [Op.label]) (by simp))

end

end Builder

end ShaderBridge.Spirv
