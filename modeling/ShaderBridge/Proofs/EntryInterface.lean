import ShaderBridge.Proofs.Assembly
import ShaderBridge.Proofs.Ids
import ShaderBridge.Proofs.TypeTable

/-!
The entry point's interface: each input and output variable once, in declaration order, placed
by one location or built-in, with the stage's execution modes.
-/

namespace ShaderBridge

open Std.Do Spirv

/-- The decoration that places an interface variable `x`. -/
def InterfaceSlot.decoration (slot : InterfaceSlot) (x : Nat) : Spirv.Instruction :=
  match slot with
  | .location n => Lowering.decoration x .location [n]
  | .builtIn b => Lowering.decoration x .builtIn [b.code]

/-- Locations are the sixteen of the interface. -/
def InterfaceSlot.InRange : InterfaceSlot → Prop
  | .location n => n < 16
  | .builtIn _ => True

instance : DecidablePred InterfaceSlot.InRange
  | .location n => inferInstanceAs (Decidable (n < 16))
  | .builtIn _ => inferInstanceAs (Decidable True)

/-- Every varying location is one of the sixteen. -/
theorem Usage.varyingLocation_lt {u : Usage} {index n : Nat}
    (h : u.varyingLocation index = some n) : n < 16 := by
  unfold Usage.varyingLocation at h
  split at h <;> (try split at h) <;> simp at h <;> omega

/-- A register in range of a file of at most sixteen registers has an index below 16. -/
theorem Register.InRange.index_lt {reg : Register} (h : reg.InRange) {f : RegisterFile}
    (hfile : reg.file = f) (hf : f.maxIndex < 16) : reg.index < 16 := by
  have hle : reg.index ≤ reg.file.maxIndex := h
  rw [hfile] at hle
  omega

theorem RegisterFile.storageClass_of_isOutput {f : RegisterFile} (h : f.isOutput) :
    f.storageClass = StorageClass.output := by
  cases f <;> simp [RegisterFile.isOutput] at h <;> rfl

namespace Spirv.Instruction

/-- The id an annotation is about: its first operand. -/
def target (i : Instruction) : Option Nat := i.operands.head?

/-- A global variable of storage class `sc`. -/
def IsVariableOf (sc : StorageClass) (i : Instruction) : Prop :=
  i.op = Op.var ∧ i.operands = [sc.code]

/-- An input or output variable: what the entry point lists. -/
def IsInterfaceVariable (i : Instruction) : Prop :=
  i.IsVariableOf .input ∨ i.IsVariableOf .output

/-- A location or built-in decoration: what places a variable in the interface. -/
def IsPlacement (i : Instruction) : Prop :=
  i.op = Op.decorate ∧
    (i.operands[1]? = some Decoration.location.code ∨ i.operands[1]? = some Decoration.builtIn.code)

instance (sc : StorageClass) : DecidablePred (IsVariableOf sc) :=
  fun _ => inferInstanceAs (Decidable (_ ∧ _))

instance : DecidablePred IsInterfaceVariable := fun _ => inferInstanceAs (Decidable (_ ∨ _))

instance : DecidablePred IsPlacement := fun _ => inferInstanceAs (Decidable (_ ∧ _))

/-- A variable is an interface variable exactly when it is an input or an output. -/
theorem isInterfaceVariable_var (pointer x : Nat) (sc : StorageClass) :
    ({ op := Op.var, resultType := some pointer, result := some x, operands := [sc.code] } :
      Instruction).IsInterfaceVariable ↔ sc = .input ∨ sc = .output := by
  cases sc
  simp [IsInterfaceVariable, IsVariableOf, StorageClass.input, StorageClass.output]

theorem not_isInterfaceVariable_of_op {i : Instruction} (h : i.op ≠ Op.var) :
    ¬i.IsInterfaceVariable := by
  rintro (hv | hv) <;> exact h hv.1

/-- A decoration places a variable exactly when it is a location or a built-in. -/
@[simp] theorem isPlacement_decoration (x : Nat) (d : Decoration) (operands : List Nat) :
    (Lowering.decoration x d operands).IsPlacement ↔ d = .location ∨ d = .builtIn := by
  cases d <;> simp [IsPlacement, Lowering.decoration, Decoration.code]

@[simp] theorem target_decoration (x : Nat) (d : Decoration) (operands : List Nat) :
    (Lowering.decoration x d operands).target = some x := rfl

end Spirv.Instruction

namespace InterfaceSlot

@[simp] theorem target_decoration (slot : InterfaceSlot) (x : Nat) :
    (slot.decoration x).target = some x := by
  cases slot <;> rfl

theorem isPlacement_decoration (slot : InterfaceSlot) (x : Nat) : (slot.decoration x).IsPlacement := by
  cases slot <;> exact ⟨rfl, by simp [decoration, Lowering.decoration]⟩

/-- A built-in decoration is the placement of its variable by that built-in. -/
theorem decoration_eq_builtIn {slot : InterfaceSlot} {x x' : Nat} {b : BuiltIn}
    (h : (builtIn b).decoration x' = slot.decoration x) : slot = .builtIn b ∧ x = x' := by
  cases slot with
  | location n => simp [decoration, Lowering.decoration, Decoration.code] at h
  | builtIn b' =>
    simp only [decoration, Lowering.decoration, Spirv.Instruction.mk.injEq, List.cons.injEq,
      true_and, and_true] at h
    obtain ⟨rfl, hcode⟩ := h
    cases b <;> cases b' <;> simp_all [BuiltIn.code]

end InterfaceSlot

namespace Spirv.Module

/-- The ids of the module's variables of storage class `sc`, in declaration order. -/
def variablesOf (m : Module) (sc : StorageClass) : List Nat :=
  (m.declarations.toList.filter (·.IsVariableOf sc)).filterMap (·.result)

/-- The ids of the module's input and output variables, in declaration order. -/
def interfaceIds (m : Module) : List Nat :=
  (m.declarations.toList.filter (·.IsInterfaceVariable)).filterMap (·.result)

/-- The annotations about id `x`. -/
def annotationsOf (m : Module) (x : Nat) : List Spirv.Instruction :=
  m.annotations.toList.filter (·.target = some x)

/-- The placements of the module, in order. -/
def placements (m : Module) : List Spirv.Instruction :=
  m.annotations.toList.filter (·.IsPlacement)

/-- Some output variable of the module is the fragment depth. -/
def WritesFragDepth (m : Module) : Prop :=
  ∃ x ∈ m.variablesOf .output, (InterfaceSlot.builtIn .fragDepth).decoration x ∈ m.annotations.toList

/-- The decorations of a module place its interface: its placements are, in order, one in range
for each interface variable; built-ins decorate output variables; every other decoration is
about the result of a declaration that is no interface variable. -/
structure Placed (m : Module) : Prop where
  placements : List.Forall₂ (fun a x => ∃ slot : InterfaceSlot, slot.InRange ∧ a = slot.decoration x)
    m.placements m.interfaceIds
  builtIns : ∀ b x, (InterfaceSlot.builtIn b).decoration x ∈ m.annotations.toList →
    x ∈ m.variablesOf .output
  others : ∀ a ∈ m.annotations.toList, ¬a.IsPlacement →
    ∃ i ∈ m.declarations.toList, ¬i.IsInterfaceVariable ∧ i.result.isSome ∧ i.result = a.target

variable {m m' : Module}

@[simp] theorem mem_push_declarations {i j : Instruction} :
    i ∈ (m.push .declarations j).declarations.toList ↔ i ∈ m.declarations.toList ∨ i = j := by
  simp [push]

/-- Two instructions of a list whose results are distinct are one if they have the same
result. -/
theorem eq_of_result_eq {l : List Instruction} (hl : (l.filterMap (·.result)).Nodup) {i j : Instruction}
    (hi : i ∈ l) (hj : j ∈ l) {x : Nat} (hix : i.result = some x) (hjx : j.result = some x) :
    i = j := by
  induction l with
  | nil => cases hi
  | cons a l ih =>
    have hrest : (l.filterMap (·.result)).Nodup := hl.sublist (List.sublist_cons_self _ _ |>.filterMap _)
    -- the head's result occurs nowhere after it
    have hhead : ∀ k ∈ l, a.result = some x → k.result = some x → False := by
      intro k hk hax hkx
      rw [List.filterMap_cons, hax] at hl
      exact (List.nodup_cons.1 hl).1 (List.mem_filterMap.2 ⟨k, hk, hkx⟩)
    rcases List.mem_cons.1 hi with rfl | hi'
    · rcases List.mem_cons.1 hj with rfl | hj'
      · rfl
      · exact (hhead j hj' hix hjx).elim
    · rcases List.mem_cons.1 hj with rfl | hj'
      · exact (hhead i hi' hjx hix).elim
      · exact ih hrest hi' hj'

/-- A module whose declarations and decorations grow by declarations that are no interface
variables keeps its interface placed. -/
theorem Placed.append_declarations (h : m.Placed) {new : List Instruction}
    (hnew : ∀ i ∈ new, ¬i.IsInterfaceVariable)
    (hd : m'.declarations.toList = m.declarations.toList ++ new)
    (ha : m'.annotations = m.annotations) : m'.Placed := by
  have hids : m'.interfaceIds = m.interfaceIds := by
    have hnone : new.filter (·.IsInterfaceVariable) = [] :=
      List.filter_eq_nil_iff.2 fun i hi => by simpa using hnew i hi
    simp only [interfaceIds, hd, List.filter_append, hnone, List.append_nil]
  have hvars : m.variablesOf .output ⊆ m'.variablesOf .output := by
    simp only [variablesOf, hd, List.filter_append, List.filterMap_append]
    exact List.subset_append_left _ _
  refine ⟨?_, fun b x hx => hvars (h.builtIns b x (ha ▸ hx)), fun a hmem hp => ?_⟩
  · rw [hids, Module.placements, ha]
    exact h.placements
  · obtain ⟨i, hi, hrest⟩ := h.others a (ha ▸ hmem) hp
    exact ⟨i, by rw [hd]; exact List.mem_append_left _ hi, hrest⟩

/-- A module that declares an array type under `id` has its declaration. -/
theorem DeclaresDesc.array_mem {e l id : Nat} (h : m.DeclaresDesc (TypeDesc.array e l) id) :
    ({ op := Op.typeArray, result := some id, operands := [e, l] } : Instruction) ∈
      m.declarations.toList := by
  have hkey := h _ rfl
  rw [DeclaresKey] at hkey
  simpa [TypeDesc.array, Declares, Op.typeArray, Op.typeImage, Op.typeSampledImage] using hkey

/-- A module that declares a struct type under `id` has its declaration. -/
theorem DeclaresDesc.struct_mem {members : List Nat} {id : Nat}
    (h : m.DeclaresDesc (TypeDesc.struct members) id) :
    ({ op := Op.typeStruct, result := some id, operands := members } : Instruction) ∈
      m.declarations.toList := by
  have hkey := h _ rfl
  rw [DeclaresKey] at hkey
  simpa [TypeDesc.struct, Declares, Op.typeArray, Op.typeImage, Op.typeSampledImage,
    Op.typeStruct] using hkey

/-- Whether a module's interface is placed depends on its declarations and decorations only. -/
theorem Placed.of_eq (h : m.Placed) (hd : m'.declarations = m.declarations)
    (ha : m'.annotations = m.annotations) : m'.Placed :=
  @Placed.append_declarations _ _ h [] (fun _ hi => absurd hi List.not_mem_nil)
    (by rw [hd, List.append_nil]) ha

/-- A decoration that places nothing, about the result of a declaration that is no interface
variable, keeps the interface placed. -/
theorem Placed.push_nonPlacement (h : m.Placed) {a : Instruction} (hp : ¬a.IsPlacement)
    (hdecl : ∃ i ∈ m.declarations.toList, ¬i.IsInterfaceVariable ∧ i.result.isSome ∧
      i.result = a.target) :
    (m.push .annotations a).Placed := by
  have hplace : (m.push .annotations a).placements = m.placements := by
    simp [Module.placements, push, hp]
  refine ⟨?_, fun b x hx => ?_, fun a' hmem hp' => ?_⟩
  · rw [hplace]
    exact h.placements
  · simp only [push, Array.toList_push, List.mem_append, List.mem_singleton] at hx
    rcases hx with hx | rfl
    · exact h.builtIns b x hx
    · exact absurd (.intro rfl (.inr rfl)) hp
  · simp only [push, Array.toList_push, List.mem_append, List.mem_singleton] at hmem
    rcases hmem with hmem | rfl
    · exact h.others a' hmem hp'
    · exact hdecl

theorem interfaceIds_push_interface {v : Instruction} (hv : v.IsInterfaceVariable) {x : Nat}
    (hx : v.result = some x) : (m.push .declarations v).interfaceIds = m.interfaceIds ++ [x] := by
  simp [interfaceIds, push, hv, hx]

/-- Placing `x` by a slot other than the fragment depth decorates nothing as the fragment depth. -/
theorem fragDepth_mem_push_placement {slot : InterfaceSlot} (hslot : slot ≠ .builtIn .fragDepth)
    (x y : Nat) :
    (InterfaceSlot.builtIn .fragDepth).decoration y ∈
        (m.push .annotations (slot.decoration x)).annotations.toList ↔
      (InterfaceSlot.builtIn .fragDepth).decoration y ∈ m.annotations.toList := by
  simp only [push, Array.toList_push, List.mem_append, List.mem_singleton, or_iff_left_iff_imp]
  intro h
  exact absurd (InterfaceSlot.decoration_eq_builtIn h).1 hslot

/-- Declaring an interface variable `x` with its placement keeps the interface placed, when the
placement is in range and a built-in places an output. -/
theorem Placed.push_interface (h : m.Placed) {v : Instruction} (hv : v.IsInterfaceVariable)
    {x : Nat} (hx : v.result = some x) {slot : InterfaceSlot} (hslot : slot.InRange)
    (hbuilt : ∀ b, slot = .builtIn b → v.IsVariableOf .output) :
    ((m.push .declarations v).push .annotations (slot.decoration x)).Placed := by
  have hids : ((m.push .declarations v).push .annotations (slot.decoration x)).interfaceIds =
      m.interfaceIds ++ [x] :=
    interfaceIds_push_interface hv hx
  have hplace : ((m.push .declarations v).push .annotations (slot.decoration x)).placements =
      m.placements ++ [slot.decoration x] := by
    simp [Module.placements, push, slot.isPlacement_decoration x]
  refine ⟨?_, fun b x' hmem => ?_, fun a hmem hp => ?_⟩
  · rw [hids, hplace]
    exact List.rel_append h.placements (.cons ⟨slot, hslot, rfl⟩ .nil)
  · simp only [push, Array.toList_push, List.mem_append, List.mem_singleton] at hmem
    rcases hmem with hmem | heq
    · have hold := h.builtIns b x' hmem
      simp only [variablesOf, List.mem_filterMap, List.mem_filter] at hold ⊢
      obtain ⟨i, ⟨hi, hvar⟩, hres⟩ := hold
      exact ⟨i, ⟨by simp only [push, Array.toList_push, List.mem_append]; exact .inl hi, hvar⟩, hres⟩
    · -- the new placement is a built-in only when the new variable is an output
      obtain ⟨rfl, rfl⟩ := InterfaceSlot.decoration_eq_builtIn heq
      simp [variablesOf, push, hbuilt b rfl, hx]
  · simp only [push, Array.toList_push, List.mem_append, List.mem_singleton] at hmem
    rcases hmem with hmem | rfl
    · obtain ⟨i, hi, hrest⟩ := h.others a hmem hp
      exact ⟨i, by simp [push, hi], hrest⟩
    · exact absurd (slot.isPlacement_decoration x) hp

/-- Declaring what is no interface variable keeps the interface placed. -/
theorem Placed.push_declaration (h : m.Placed) {i : Instruction} (hi : ¬i.IsInterfaceVariable) :
    (m.push .declarations i).Placed :=
  @Placed.append_declarations _ _ h [i] (by simpa using hi) (by simp [push]) rfl

theorem Placed.push_name (h : m.Placed) (i : Instruction) : (m.push .names i).Placed :=
  h.of_eq rfl rfl

@[simp] theorem annotations_push_names (a : Instruction) :
    (m.push .names a).annotations = m.annotations := rfl

@[simp] theorem annotations_push_declarations (a : Instruction) :
    (m.push .declarations a).annotations = m.annotations := rfl

/-- A decoration that places nothing is no placement of any slot. -/
theorem decoration_mem_push_annotations {a : Instruction} (hp : ¬a.IsPlacement)
    (slot : InterfaceSlot) (x : Nat) :
    slot.decoration x ∈ (m.push .annotations a).annotations.toList ↔
      slot.decoration x ∈ m.annotations.toList := by
  simp only [push, Array.toList_push, List.mem_append, List.mem_singleton, or_iff_left_iff_imp]
  rintro rfl
  exact absurd (slot.isPlacement_decoration x) hp

@[simp] theorem interfaceIds_push_annotations (a : Instruction) :
    (m.push .annotations a).interfaceIds = m.interfaceIds := rfl

@[simp] theorem interfaceIds_push_names (a : Instruction) :
    (m.push .names a).interfaceIds = m.interfaceIds := rfl

theorem interfaceIds_push_declaration {i : Instruction} (hi : ¬i.IsInterfaceVariable) :
    (m.push .declarations i).interfaceIds = m.interfaceIds := by
  simp [interfaceIds, push, hi]

/-- The interface variables' ids are among the declarations' results, in order. -/
theorem interfaceIds_sublist (m : Module) :
    List.Sublist m.interfaceIds (m.declarations.toList.filterMap (·.result)) :=
  List.filter_sublist.filterMap _

/-- A placed module whose declarations have distinct results decorates each interface variable
with its placement alone. -/
theorem Placed.annotationsOf_eq (h : m.Placed)
    (hres : (m.declarations.toList.filterMap (·.result)).Nodup) {x : Nat}
    (hx : x ∈ m.interfaceIds) :
    ∃ slot : InterfaceSlot, slot.InRange ∧ m.annotationsOf x = [slot.decoration x] := by
  have hnodup : m.interfaceIds.Nodup := hres.sublist m.interfaceIds_sublist
  -- no other decoration is about `x`: it would be about a second declaration with result `x`
  have hothers : ∀ a ∈ m.annotations.toList, a.target = some x → a.IsPlacement := by
    intro a ha hax
    by_contra hp
    obtain ⟨i, hi, hni, -, hix⟩ := h.others a ha hp
    obtain ⟨j, hj, hjx⟩ := List.mem_filterMap.1 hx
    obtain ⟨hj, hjvar⟩ := List.mem_filter.1 hj
    have hij := eq_of_result_eq hres hi hj (hix.trans hax) hjx
    exact hni (hij ▸ of_decide_eq_true hjvar)
  have hfilter : m.annotationsOf x = m.placements.filter (·.target = some x) := by
    rw [annotationsOf, Module.placements, List.filter_filter]
    refine List.filter_congr fun a ha => ?_
    by_cases hax : a.target = some x
    · simp [hax, hothers a ha hax]
    · simp [hax]
  -- the placements about `x` correspond to the occurrences of `x` in the interface: one
  have hone : List.Forall₂ (fun a y => ∃ slot : InterfaceSlot, slot.InRange ∧ a = slot.decoration y)
      (m.placements.filter (·.target = some x)) (m.interfaceIds.filter (· = x)) := by
    refine List.rel_filter (fun a y hR => ?_) h.placements
    obtain ⟨slot, -, rfl⟩ := hR
    simp
  rw [List.filter_eq, List.count_eq_one_of_mem hnodup hx, List.replicate_one] at hone
  obtain ⟨a, u, ⟨slot, hslot, rfl⟩, hu, heq⟩ := List.forall₂_cons_right_iff.1 hone
  rw [List.forall₂_nil_right_iff.1 hu] at heq
  exact ⟨slot, hslot, hfilter.trans heq⟩

instance (m : Module) : Decidable m.WritesFragDepth := inferInstanceAs (Decidable (∃ x ∈ _, _))

/-- In a placed module some output is the fragment depth exactly when some id is decorated as
the fragment depth. -/
theorem Placed.writesFragDepth_iff (h : m.Placed) :
    m.WritesFragDepth ↔
      ∃ x, (InterfaceSlot.builtIn .fragDepth).decoration x ∈ m.annotations.toList :=
  ⟨fun ⟨x, _, hx⟩ => ⟨x, hx⟩, fun ⟨x, hx⟩ => ⟨x, h.builtIns _ x hx, hx⟩⟩

/-- A module without decorations and without interface variables is placed. -/
theorem placed_of_annotations_eq (ha : m.annotations = #[]) (hi : m.interfaceIds = []) :
    m.Placed where
  placements := by simp [placements, ha, hi]
  builtIns _ _ h := by simp [ha] at h
  others _ h := by simp [ha] at h

end Spirv.Module

/-- The execution model of a stage's entry point. -/
def Stage.executionModel : Stage → ExecutionModel
  | .vertex => .vertex
  | .pixel => .fragment

/-- The execution modes of the entry point `entry` of a stage: none for a vertex shader; for a
pixel shader the upper-left origin, and depth replacing when `depth` says the depth is written. -/
def Stage.executionModes (stage : Stage) (entry : Nat) (depth : Bool) : List Spirv.Instruction :=
  match stage with
  | .vertex => []
  | .pixel => Lowering.executionMode entry .originUpperLeft ::
      if depth then [Lowering.executionMode entry .depthReplacing] else []

namespace Spirv.Module

/-- The entry point of a finished module of stage `stage` is its function `entry`: the one
entry point, of the stage's execution model, names it `main` and lists the module's input and
output variables in declaration order, and the execution modes are the stage's. -/
structure EntryPointOf (stage : Stage) (m : Module) (entry : Nat) : Prop where
  function : ∃ f, m.functions.toList.head? = some f ∧ f.op = Op.function ∧ f.result = some entry
  entryPoint : m.entryPoints.toList =
    [{ op := Op.entryPoint,
       operands := stage.executionModel.code :: entry :: stringWords "main" ++ m.interfaceIds }]
  executionModes : m.executionModes.toList = stage.executionModes entry (decide m.WritesFragDepth)

/-- The entry point's interface of a finished module of stage `stage`: the entry point is the
module's function, and it lists each input and output variable once, each carrying one
decoration, the location below 16 or the built-in that places it. -/
structure EntryInterface (stage : Stage) (m : Module) : Prop where
  entryPoint : ∃ entry, m.EntryPointOf stage entry
  nodup : m.interfaceIds.Nodup
  annotations : ∀ x ∈ m.interfaceIds,
    ∃ slot : InterfaceSlot, slot.InRange ∧ m.annotationsOf x = [slot.decoration x]

end Spirv.Module

namespace Spirv.Builder

/-- `b'` is `b` with more types and constants declared: its type table sound, its module still
declared in shape, and the sections after the declarations as they were. What every type and
constant step does. -/
structure TypeStep (b b' : Builder) : Prop where
  grows : b.Extends b'
  sound : b'.TypesSound
  declared : b'.module.Declared
  after : b'.module.afterDeclarations = b.module.afterDeclarations

namespace TypeStep

/-- A step whose triples say that it extends a sound table soundly and keeps the module in shape
is a type step. -/
theorem of_run {α : Type} {x : BuildM α} {b : Builder}
    (hsound : b.Extends (x b).2 ∧ (x b).2.TypesSound)
    (hdecl : (x b).2.module.DeclaredWith b.module.afterDeclarations) : TypeStep b (x b).2 :=
  ⟨hsound.1, hsound.2, hdecl.1, hdecl.2⟩

theorem functions {b b' : Builder} (h : TypeStep b b') : b'.module.functions = b.module.functions :=
  congrArg (·.2.2) h.after

theorem opened {b b' : Builder} (h : TypeStep b b') (ho : b.module.Opened) : b'.module.Opened :=
  ho.of_declared h.declared h.after

end TypeStep

/-- Declarations that are types or constants are no interface variables. -/
theorem Extends.placed {b b' : Builder} (h : b.Extends b') (hp : b.module.Placed) :
    b'.module.Placed := by
  obtain ⟨⟨new, hd, hops⟩, ha⟩ := h
  refine hp.append_declarations (fun i hi hvar => ?_) hd ha
  have hvar : i.op = Op.var := by rcases hvar with hvar | hvar <;> exact hvar.1
  exact absurd (hvar ▸ hops i hi) (by decide)

theorem Extends.interfaceIds {b b' : Builder} (h : b.Extends b') :
    b'.module.interfaceIds = b.module.interfaceIds := by
  obtain ⟨⟨new, hd, hops⟩, -⟩ := h
  have hnone : new.filter (·.IsInterfaceVariable) = [] := by
    refine List.filter_eq_nil_iff.2 fun i hi hvar => ?_
    have hvar : i.op = Op.var := by rcases of_decide_eq_true hvar with hvar | hvar <;> exact hvar.1
    exact absurd (hvar ▸ hops i hi) (by decide)
  simp only [Module.interfaceIds, hd, List.filter_append, hnone, List.append_nil]

section

variable {b : Builder} (hm : b.module.Declared) (hs : b.TypesSound)
include hm hs

theorem alloc_typeStep : TypeStep b (alloc b).2 :=
  ⟨⟨⟨[], (List.append_nil _).symm, by simp⟩, rfl⟩,
    @TypesSound.extend b b.module.bump hs (List.Subset.refl _) b.constants, hm.bump, rfl⟩

theorem typeId_typeStep {d : TypeDesc} (hd : d.Canonical) :
    TypeStep b (typeId d b).2 ∧ (typeId d b).2.module.DeclaresDesc d (typeId d b).1 := by
  obtain ⟨hext, hsound, hdesc⟩ := run_of_triple (typeId_sound b d) b ⟨.refl b, hs, hd⟩
  exact ⟨.of_run ⟨hext, hsound⟩ (run_of_triple (typeId_declared _ d) b ⟨⟨hm, rfl⟩, hd⟩), hdesc⟩

theorem pointerTypeId_typeStep {d : TypeDesc} (hd : d.Canonical) (sc : StorageClass) :
    TypeStep b (pointerTypeId d sc b).2 :=
  have hsound := run_of_triple (pointerTypeId_sound b d sc) b ⟨.refl b, hs, hd⟩
  .of_run ⟨hsound.1, hsound.2.1⟩ (run_of_triple (pointerTypeId_declared _ d sc) b ⟨⟨hm, rfl⟩, hd⟩)

theorem null_typeStep {d : TypeDesc} (hd : d.Canonical) : TypeStep b (null d b).2 :=
  .of_run (run_of_triple (null_sound b d) b ⟨.refl b, hs, hd⟩)
    (run_of_triple (null_declared _ d) b ⟨⟨hm, rfl⟩, hd⟩)

theorem float32_typeStep (bits : Nat) : TypeStep b (float32 bits b).2 :=
  .of_run (run_of_triple (float32_sound b bits) b ⟨.refl b, hs⟩)
    (run_of_triple (float32_declared _ bits) b ⟨hm, rfl⟩)

theorem int32_typeStep (bits : Nat) : TypeStep b (int32 bits b).2 :=
  .of_run (run_of_triple (int32_sound b bits) b ⟨.refl b, hs⟩)
    (run_of_triple (int32_declared _ bits) b ⟨hm, rfl⟩)

theorem uint32_typeStep (value : Nat) : TypeStep b (uint32 value b).2 :=
  .of_run (run_of_triple (uint32_sound b value) b ⟨.refl b, hs⟩)
    (run_of_triple (uint32_declared _ value) b ⟨hm, rfl⟩)

theorem boolean_typeStep (value : Bool) : TypeStep b (boolean value b).2 :=
  .of_run (run_of_triple (boolean_sound b value) b ⟨.refl b, hs⟩)
    (run_of_triple (boolean_declared _ value) b ⟨hm, rfl⟩)

theorem composite_typeStep {d : TypeDesc} (hd : d.Canonical) {parts : List Nat}
    (hparts : parts.length ≤ 4) : TypeStep b (composite d parts b).2 :=
  .of_run (run_of_triple (composite_sound b d parts) b ⟨.refl b, hs, hd⟩)
    (run_of_triple (composite_declared _ d parts) b ⟨⟨hm, rfl⟩, hd, hparts⟩)

theorem vec4Constant_typeStep {bits : List Nat} (hbits : bits.length = 4) :
    TypeStep b (vec4Constant bits b).2 :=
  .of_run (run_of_triple (vec4Constant_sound b bits) b ⟨.refl b, hs⟩)
    (run_of_triple (vec4Constant_declared _ bits) b ⟨⟨hm, rfl⟩, hbits⟩)

end

end Spirv.Builder

namespace Lowering

/-- What lowering a shader of stage `stage` keeps for its entry point: a sound type table, a placed
interface, the depth flag, and the function as the entry point. -/
structure Placing (stage : Stage) (s : Lowering) : Prop where
  stage : s.version.stage = stage
  types : s.builder.TypesSound
  placed : s.builder.module.Placed
  interface : s.builder.module.interfaceIds = s.interface.toList
  depth : s.writesDepth = true ↔
    ∃ x, (InterfaceSlot.builtIn .fragDepth).decoration x ∈ s.builder.module.annotations.toList
  entry : ∃ f, s.builder.module.functions.toList.head? = some f ∧ f.op = Op.function ∧
    f.result = some s.entryPoint

/-- `s` is placing but for its depth flag, which may already be set for a fragment depth that
`slot` is about to place: the state between setting the flag and declaring the variable. -/
def PlacingFor (stage : Stage) (slot : InterfaceSlot) (s : Lowering) : Prop :=
  ∃ w, ({ s with writesDepth := w } : Lowering).Placing stage ∧
    s.writesDepth = (w || decide (slot = .builtIn .fragDepth))

namespace Placing

variable {stage : Stage} {s s' : Lowering}

/-- `Placing` reads the version, the builder, the interface list, the depth flag and the entry
point of the state, and nothing else. -/
theorem of_eq (h : s.Placing stage) (hv : s'.version = s.version) (hb : s'.builder = s.builder)
    (hi : s'.interface = s.interface) (hw : s'.writesDepth = s.writesDepth)
    (he : s'.entryPoint = s.entryPoint) : s'.Placing stage := by
  obtain ⟨hstage, htypes, hplaced, hinterface, hdepth, hentry⟩ := h
  refine ⟨hv ▸ hstage, hb ▸ htypes, hb ▸ hplaced, hb ▸ hi ▸ hinterface, hw ▸ hb ▸ hdepth, ?_⟩
  rw [hb, he]
  exact hentry

/-- A type step keeps the interface placed. -/
theorem withBuilder (h : s.Placing stage) {b : Builder} (hb : Builder.TypeStep s.builder b) :
    ({ s with builder := b } : Lowering).Placing stage where
  stage := h.stage
  types := hb.sound
  placed := hb.grows.placed h.placed
  interface := hb.grows.interfaceIds.trans h.interface
  depth := by rw [show b.module.annotations = _ from hb.grows.2]; exact h.depth
  entry := by rw [show b.module.functions = _ from hb.functions]; exact h.entry

/-- A state whose module declares more than a placing state's, with the same types recorded, the
same function and entry point, and its interface placed and listed, is placing. -/
theorem of_module (h : s.Placing stage) (hv : s'.version = s.version)
    (ht : s'.builder.types = s.builder.types)
    (hdecl : s.builder.module.declarations.toList ⊆ s'.builder.module.declarations.toList)
    (hp : s'.builder.module.Placed) (hi : s'.builder.module.interfaceIds = s'.interface.toList)
    (hdepth : s'.writesDepth = true ↔
      ∃ x, (InterfaceSlot.builtIn .fragDepth).decoration x ∈ s'.builder.module.annotations.toList)
    (hf : s'.builder.module.functions = s.builder.module.functions)
    (he : s'.entryPoint = s.entryPoint) : s'.Placing stage where
  stage := hv ▸ h.stage
  types p hmem := (h.types p (ht ▸ hmem)).mono hdecl
  placed := hp
  interface := hi
  depth := hdepth
  entry := by
    rw [hf, he]
    exact h.entry

/-- Appending to the function keeps its first instruction. -/
theorem emit (h : s.Placing stage) (i : Spirv.Instruction) :
    (s.withModule (s.builder.module.push .functions i)).Placing stage where
  stage := h.stage
  types := @Builder.TypesSound.extend _ (s.builder.module.push .functions i) h.types
    (List.Subset.refl _) _
  placed := h.placed.of_eq rfl rfl
  interface := h.interface
  depth := h.depth
  entry := by
    obtain ⟨f, hf, hrest⟩ := h.entry
    refine ⟨f, ?_, hrest⟩
    simp only [Module.push, Array.toList_push, List.head?_append, hf, Option.some_or]

/-- Declaring an interface variable `x`, placing it by a slot in range and naming it, and
listing it in the interface makes a state placing again, when a built-in places an output. -/
theorem push_interface {slot : InterfaceSlot} (h : s.PlacingFor stage slot)
    {v : Spirv.Instruction} (hv : v.IsInterfaceVariable) {x : Nat} (hx : v.result = some x)
    (hslot : slot.InRange) (hbuilt : ∀ b, slot = .builtIn b → v.IsVariableOf .output)
    (n : Spirv.Instruction) :
    ({ s with
        builder := { s.builder with
          module := ((s.builder.module.push .declarations v).push .annotations
            (slot.decoration x)).push .names n }
        interface := s.interface.push x } : Lowering).Placing stage := by
  obtain ⟨w, h, hw⟩ := h
  have hi : s.builder.module.interfaceIds = s.interface.toList := h.interface
  have hd : w = true ↔ ∃ y, _ ∈ s.builder.module.annotations.toList := h.depth
  refine h.of_module rfl rfl (fun i hi => by simp [Module.push, hi])
    ((h.placed.push_interface hv hx hslot hbuilt).push_name n) ?_ ?_ (by simp only [Module.push])
    rfl
  · show (((s.builder.module.push .declarations v).push .annotations
      (slot.decoration x)).push .names n).interfaceIds = (s.interface.push x).toList
    rw [Array.toList_push, ← hi, Module.interfaceIds_push_names,
      Module.interfaceIds_push_annotations, Module.interfaceIds_push_interface hv hx]
  · show s.writesDepth = true ↔ ∃ y, _ ∈ (((s.builder.module.push .declarations v).push
      .annotations (slot.decoration x)).push .names n).annotations.toList
    rw [hw]
    by_cases hfrag : slot = .builtIn .fragDepth
    · -- the depth flag is set for the fragment depth placed now
      simp only [hfrag, decide_true, Bool.or_true, true_iff]
      exact ⟨x, by simp [Module.push]⟩
    · simp only [hfrag, decide_false, Bool.or_false, hd, Module.annotations_push_names,
        Module.fragDepth_mem_push_placement hfrag, Module.annotations_push_declarations]

end Placing

/-- A framed, placing state is opened and placing for a slot other than the fragment depth. -/
theorem Placing.opened_placingFor {stage : Stage} {s : Lowering} (h : s.Framed ∧ s.Placing stage)
    {slot : InterfaceSlot} (hslot : slot ≠ .builtIn .fragDepth) :
    s.builder.module.Opened ∧ s.PlacingFor stage slot :=
  ⟨h.1.1, s.writesDepth, h.2, by simp [hslot]⟩

/-- Setting the depth flag of a framed, placing state makes it placing for the fragment depth. -/
theorem Placing.opened_setDepth {stage : Stage} {s : Lowering} (h : s.Framed ∧ s.Placing stage) :
    ({ s with writesDepth := true } : Lowering).builder.module.Opened ∧
      ({ s with writesDepth := true } : Lowering).PlacingFor stage (.builtIn .fragDepth) :=
  ⟨h.1.1, s.writesDepth, h.2, by simp⟩

/-- The module that finishing a framed, placing state produces: the function closed, the entry
point added on the function with the state's interface list, and the stage's execution modes
under the depth flag. -/
theorem Placing.finished {stage : Stage} {s : Lowering} (h : s.Framed ∧ s.Placing stage)
    {m : Module} (hd : m.declarations = s.builder.module.declarations)
    (ha : m.annotations = s.builder.module.annotations)
    (hf : m.functions =
      (s.builder.module.functions.push { op := Op.returnVoid }).push { op := Op.functionEnd })
    (he : m.entryPoints = s.builder.module.entryPoints.push
      { op := Op.entryPoint,
        operands := s.version.stage.executionModel.code :: s.entryPoint :: stringWords "main" ++
          s.interface.toList })
    (hm : m.executionModes.toList =
      s.builder.module.executionModes.toList ++
        s.version.stage.executionModes s.entryPoint s.writesDepth) :
    s.version.stage = stage ∧ m.Placed ∧ ∃ entry, m.EntryPointOf stage entry := by
  obtain ⟨⟨hopen, -⟩, hp⟩ := h
  have hplaced : m.Placed := hp.placed.of_eq hd ha
  have hids : m.interfaceIds = s.interface.toList := by
    rw [← hp.interface]
    simp only [Module.interfaceIds, hd]
  -- the depth flag says whether some output is the fragment depth
  have hdepth : s.writesDepth = decide m.WritesFragDepth := by
    rw [Bool.eq_iff_iff, decide_eq_true_iff, hplaced.writesFragDepth_iff, ha]
    exact hp.depth
  obtain ⟨f, hf0, hop, hres⟩ := hp.entry
  refine ⟨hp.stage, hplaced, s.entryPoint, ⟨f, ?_, hop, hres⟩, ?_, ?_⟩
  · simp [hf, hf0]
  · rw [he, hopen.entryPoints, hids, hp.stage]
    rfl
  · rw [hm, hopen.executionModes, hdepth, hp.stage]
    rfl

/-- A step that keeps `I`, and takes `J` to `J'` where `I` holds, takes `I` and `J` to `I` and
`J'`. -/
theorem keeps_and {α : Type} {x : LowerM α} {I J J' : Lowering → Prop}
    (hI : ⦃fun s => ⌜I s⌝⦄ x ⦃⇓? _ s => ⌜I s⌝⦄) (hJ : ⦃fun s => ⌜I s ∧ J s⌝⦄ x ⦃⇓? _ s => ⌜J' s⌝⦄) :
    ⦃fun s => ⌜I s ∧ J s⌝⦄ x ⦃⇓? _ s => ⌜I s ∧ J' s⌝⦄ := by
  intro s hs
  have h₁ := hI s hs.1
  have h₂ := hJ s hs
  -- both postconditions are read at the one outcome of the step from `s`
  change (wp⟦(x s : Except ConvertError (α × Lowering))⟧
    (fun r => ⌜I r.2⌝, fun _ => ⌜True⌝, ())).down at h₁
  change (wp⟦(x s : Except ConvertError (α × Lowering))⟧
    (fun r => ⌜J' r.2⌝, fun _ => ⌜True⌝, ())).down at h₂
  change (wp⟦(x s : Except ConvertError (α × Lowering))⟧
    (fun r => ⌜I r.2 ∧ J' r.2⌝, fun _ => ⌜True⌝, ())).down
  cases hx : x s with
  | error e => trivial
  | ok r =>
    rw [hx] at h₁ h₂
    exact ⟨h₁, h₂⟩

variable {stage : Stage}

/-- A type step inside lowering keeps the state framed and placing. -/
theorem build_placing {α : Type} {x : BuildM α}
    (hx : ∀ b : Builder, b.module.Declared → b.TypesSound → Builder.TypeStep b (x b).2) :
    ⦃fun s => ⌜s.Framed ∧ s.Placing stage⌝⦄ build x ⦃⇓? _ s => ⌜s.Framed ∧ s.Placing stage⌝⦄ :=
  fun s ⟨⟨ho, hi⟩, hp⟩ =>
    have hstep := hx s.builder ho.toDeclared hp.types
    ⟨⟨hstep.opened ho, hi⟩, hp.withBuilder hstep⟩

/-- A type step inside lowering keeps the module opened and the state placing for a slot. -/
theorem build_placingFor {α : Type} {x : BuildM α} {slot : InterfaceSlot}
    (hx : ∀ b : Builder, b.module.Declared → b.TypesSound → Builder.TypeStep b (x b).2) :
    ⦃fun s => ⌜s.builder.module.Opened ∧ s.PlacingFor stage slot⌝⦄ build x
      ⦃⇓? _ s => ⌜s.builder.module.Opened ∧ s.PlacingFor stage slot⌝⦄ :=
  fun s ⟨ho, w, hp, hw⟩ =>
    have hstep := hx s.builder ho.toDeclared hp.types
    ⟨hstep.opened ho, w, hp.withBuilder hstep, hw⟩

/-- The steps that compute values keep the state framed and placing. -/
theorem placing_basic (stage : Stage) : Basic (fun s => s.Framed ∧ s.Placing stage) where
  alloc := build_placing fun _ hm hs => Builder.alloc_typeStep hm hs
  emit i hi := keeps_and (framed_basic.emit i hi) fun _ hs => hs.2.emit i
  typeId _ hd := build_placing fun _ hm hs => (Builder.typeId_typeStep hm hs hd).1
  pointerTypeId _ sc hd := build_placing fun _ hm hs => Builder.pointerTypeId_typeStep hm hs hd sc
  null _ hd := build_placing fun _ hm hs => Builder.null_typeStep hm hs hd
  float32 bits := build_placing fun _ hm hs => Builder.float32_typeStep hm hs bits
  int32 bits := build_placing fun _ hm hs => Builder.int32_typeStep hm hs bits
  vec4Constant _ hbits := build_placing fun _ hm hs => Builder.vec4Constant_typeStep hm hs hbits
  composite _ hlen := build_placing
    fun _ hm hs => Builder.composite_typeStep hm hs TypeDesc.canonical_ivec4 hlen
  boolean value := build_placing fun _ hm hs => Builder.boolean_typeStep hm hs value
  bindValue reg id := keeps_and (framed_basic.bindValue reg id)
    fun _ hs => hs.2.of_eq rfl rfl rfl rfl rfl
  markDefined _ _ hs := ⟨hs.1, hs.2.of_eq rfl rfl rfl rfl rfl⟩

/-- Lowering keeps the module opened and the interface placed, and the declarations `D` among
the module's: the form in which a step's facts about the ids it returns outlive later steps. -/
def Keeping (stage : Stage) (D : List Spirv.Instruction) (s : Lowering) : Prop :=
  s.builder.module.Opened ∧ s.Placing stage ∧ D ⊆ s.builder.module.declarations.toList

theorem Keeping.restart {D : List Spirv.Instruction} {s : Lowering} (h : s.Keeping stage D) :
    s.Keeping stage s.builder.module.declarations.toList :=
  ⟨h.1, h.2.1, List.Subset.refl _⟩

/-- A type step keeps what `Keeping` asks. -/
theorem keeping_typeStep (D : List Spirv.Instruction) (s : Lowering) (b : Builder)
    (hb : Builder.TypeStep s.builder b) (h : s.Keeping stage D) :
    ({ s with builder := b } : Lowering).Keeping stage D :=
  ⟨hb.opened h.1, h.2.1.withBuilder hb, List.Subset.trans h.2.2 hb.grows.declarations_subset⟩

theorem build_keeping {α : Type} {x : BuildM α} (D : List Spirv.Instruction)
    (hx : ∀ b : Builder, b.module.Declared → b.TypesSound → Builder.TypeStep b (x b).2) :
    ⦃fun s => ⌜s.Keeping stage D⌝⦄ build x ⦃⇓? _ s => ⌜s.Keeping stage D⌝⦄ :=
  fun s h => keeping_typeStep D s _ (hx s.builder h.1.toDeclared h.2.1.types) h

theorem typeId_keeping (D : List Spirv.Instruction) {d : TypeDesc} (hd : d.Canonical) :
    ⦃fun s => ⌜s.Keeping stage D⌝⦄ typeId d
      ⦃⇓? r s => ⌜s.Keeping stage D ∧ s.builder.module.DeclaresDesc d r⌝⦄ :=
  fun s h =>
    have hstep := Builder.typeId_typeStep h.1.toDeclared h.2.1.types hd
    ⟨keeping_typeStep D s _ hstep.1 h, hstep.2⟩

section

set_option mvcgen.warning false

attribute [local spec] declare_spec annotate_spec addName_spec

theorem constantBlock_placing :
    ⦃fun s => ⌜s.Framed ∧ s.Placing stage⌝⦄ constantBlock ⦃⇓? _ s => ⌜s.Placing stage⌝⦄ := by
  have htype := fun D d (hd : TypeDesc.Canonical d) => @typeId_keeping stage D d hd
  have huint := fun D n => @build_keeping stage _ (Builder.uint32 n) D
    fun _ hm hs => Builder.uint32_typeStep hm hs n
  have hpointer := fun D d (hd : TypeDesc.Canonical d) sc =>
    @build_keeping stage _ (Builder.pointerTypeId d sc) D
      fun _ hm hs => Builder.pointerTypeId_typeStep hm hs hd sc
  have halloc : ∀ D, ⦃fun s => ⌜s.Keeping stage D⌝⦄ alloc ⦃⇓? _ s => ⌜s.Keeping stage D⌝⦄ :=
    fun D => build_keeping D fun _ hm hs => Builder.alloc_typeStep hm hs
  mvcgen [constantBlock, htype, huint, hpointer, halloc]
  -- each step keeps the declarations of the state it starts in
  all_goals try exact (‹Lowering›).builder.module.declarations.toList
  all_goals try exact Keeping.restart (And.left ‹_›)
  all_goals try exact ⟨‹Framed _ ∧ _›.1.1, ‹Framed _ ∧ _›.2, List.Subset.refl _⟩
  all_goals try exact ‹Framed _ ∧ _›.2
  all_goals try exact TypeDesc.canonical_struct _
  all_goals try simp
  rename_i array _ _ harray block _ hblock pointer _ _ blockVar s hs _
  -- the array and the block were declared as types before the block's variable
  have harr := hs.2.2 (hblock.1.2.2 harray.2.array_mem)
  have hblk := hs.2.2 hblock.2.struct_mem
  have hvar := (Instruction.isInterfaceVariable_var pointer blockVar StorageClass.uniform).not.2
    (by decide)
  have htypes : ∀ {i : Spirv.Instruction}, i.op ∈ [Op.typeArray, Op.typeStruct] →
      ¬i.IsInterfaceVariable := fun hi =>
    Instruction.not_isInterfaceVariable_of_op fun h => by
      simp [h, Op.typeArray, Op.typeStruct, Op.var] at hi
  dsimp +zetaDelta only
  refine hs.2.1.of_module ?_ ?_ ?_ ?_ ?_ ?_ ?_ ?_
  · rfl
  · rfl
  · intro i hi
    simp [Module.push, hi]
  · -- each decoration is about the array, the block or the block's variable, and places nothing
    refine ((((((((hs.2.1.placed.push_declaration hvar).push_nonPlacement (by simp) ?_).push_nonPlacement
      (by simp) ?_).push_nonPlacement (by simp [Instruction.IsPlacement, Op.memberDecorate,
      Op.decorate]) ?_).push_nonPlacement (by simp) ?_).push_nonPlacement (by simp) ?_).push_name
      _).push_name _).push_name _
    · exact ⟨_, Module.mem_push_declarations.2 (.inl harr), htypes (by simp), rfl, rfl⟩
    · exact ⟨_, Module.mem_push_declarations.2 (.inl hblk), htypes (by simp), rfl, rfl⟩
    · exact ⟨_, Module.mem_push_declarations.2 (.inl hblk), htypes (by simp), rfl, rfl⟩
    · exact ⟨_, Module.mem_push_declarations.2 (.inr rfl), hvar, rfl, rfl⟩
    · exact ⟨_, Module.mem_push_declarations.2 (.inr rfl), hvar, rfl, rfl⟩
  · rw [← hs.2.1.interface]
    simp only [Module.interfaceIds_push_names, Module.interfaceIds_push_annotations,
      Module.interfaceIds_push_declaration hvar]
  · rw [hs.2.1.depth]
    simp (disch := first | simp | simp [Instruction.IsPlacement, Op.memberDecorate, Op.decorate])
      only [Module.annotations_push_names, Module.decoration_mem_push_annotations,
        Module.annotations_push_declarations]
  · simp only [Module.push]
  · rfl

/-- The interface variable of a register: an input or an output, placed in range, and by a
built-in only if it is an output. -/
theorem interfaceVariable_placing (reg : Register) (ty : TypeDesc) (slot : InterfaceSlot)
    (hty : ty.Canonical) (hsc : reg.file.storageClass = .input ∨ reg.file.storageClass = .output)
    (hslot : slot.InRange) (hbuilt : ∀ b, slot = .builtIn b → reg.file.storageClass = .output) :
    ⦃fun s => ⌜s.builder.module.Opened ∧ s.PlacingFor stage slot⌝⦄
      interfaceVariable reg ty slot ⦃⇓? _ s => ⌜s.Placing stage⌝⦄ := by
  have hpointer := @build_placingFor stage _ (Builder.pointerTypeId ty reg.file.storageClass) slot
    fun _ hm hs => Builder.pointerTypeId_typeStep hm hs hty _
  have halloc : ⦃fun s => ⌜s.builder.module.Opened ∧ s.PlacingFor stage slot⌝⦄ alloc
      ⦃⇓? _ s => ⌜s.builder.module.Opened ∧ s.PlacingFor stage slot⌝⦄ :=
    build_placingFor fun _ hm hs => Builder.alloc_typeStep hm hs
  mvcgen [interfaceVariable, hpointer, halloc]
  rename_i pointer _ _ x s hs _
  dsimp +zetaDelta only
  -- the variable is of the register's storage class, an output where a built-in places it
  have hv := (Instruction.isInterfaceVariable_var pointer x reg.file.storageClass).2 hsc
  exact Placing.push_interface hs.2 hv rfl hslot (fun b hb => ⟨rfl, by rw [hbuilt b hb]⟩) _


/-- Creating an output keeps the state placing. -/
theorem createOutput_placing (reg : Register) (ty : TypeDesc) (slot : InterfaceSlot)
    (usage : Option Usage) (hout : reg.file.isOutput) (hty : ty.Canonical) (hslot : slot.InRange) :
    ⦃fun s => ⌜s.builder.module.Opened ∧ s.PlacingFor stage slot⌝⦄
      createOutput reg ty slot usage ⦃⇓? _ s => ⌜s.Placing stage⌝⦄ := by
  have hsc := RegisterFile.storageClass_of_isOutput hout
  have hvar := @interfaceVariable_placing stage reg ty slot hty (.inr hsc) hslot
    fun _ _ => hsc
  mvcgen [createOutput, hvar] with
    (have h : Placing stage _ := ‹_›
     exact h.of_eq rfl rfl rfl rfl rfl)

theorem declareVertexInput_placing (reg : Register) (usage : Usage) (hreg : reg.InRange)
    (hfile : reg.file = .input) :
    ⦃fun s => ⌜s.Framed ∧ s.Placing stage⌝⦄ declareVertexInput reg usage
      ⦃⇓? _ s => ⌜s.Placing stage⌝⦄ := by
  have hsc : reg.file.storageClass = .input := by
    rw [hfile]
    rfl
  -- a vertex input is placed at its register's index, below 16
  have hlocation : (InterfaceSlot.location reg.index).InRange := hreg.index_lt hfile (by decide)
  have hvar := fun ty (hty : TypeDesc.Canonical ty) =>
    @interfaceVariable_placing stage reg ty _ hty (.inl hsc) hlocation nofun
  have hty : ∀ packed : Bool,
      (if packed = true ∧ usage = .color then TypeDesc.uintVector 4 else TypeDesc.vec4).Canonical := by
    intro packed
    split <;> simp
  mvcgen [declareVertexInput, hvar] with
    first
    | exact hty _
    | exact ‹Framed _ ∧ _›.2
    | exact Placing.opened_placingFor ‹_› (by simp)
    | (have h : Placing stage _ := ‹_›
       exact h.of_eq rfl rfl rfl rfl rfl)

theorem declarePixelInput_placing (reg : Register) (usage : Usage) (index : Nat)
    (hfile : reg.file = .input ∨ reg.file = .texture) :
    ⦃fun s => ⌜s.Framed ∧ s.Placing stage⌝⦄ declarePixelInput reg usage index
      ⦃⇓? _ s => ⌜s.Placing stage⌝⦄ := by
  have hsc : reg.file.storageClass = .input := by
    rcases hfile with hfile | hfile <;> rw [hfile] <;> rfl
  -- a pixel input is placed at the varying location of its usage
  have hvar := fun n (hn : (InterfaceSlot.location n).InRange) =>
    @interfaceVariable_placing stage reg TypeDesc.vec4 _ (by simp) (.inl hsc) hn nofun
  mvcgen [declarePixelInput, hvar] with
    first
    | exact Usage.varyingLocation_lt ‹_›
    | exact ‹Framed _ ∧ _›.2
    | exact Placing.opened_placingFor ‹_› (by simp)
    | (have h : Placing stage _ := ‹_›
       exact h.of_eq rfl rfl rfl rfl rfl)

theorem declareOutput_placing (reg : Register) (usage : Usage) (index : Nat)
    (hout : reg.file.isOutput) :
    ⦃fun s => ⌜s.Framed ∧ s.Placing stage⌝⦄ declareOutput reg usage index
      ⦃⇓? _ s => ⌜s.Placing stage⌝⦄ := by
  have hcreate := fun ty slot (hty : TypeDesc.Canonical ty) (hslot : slot.InRange) =>
    @createOutput_placing stage reg ty slot (some usage) hout hty hslot
  -- the point size is a float scalar, every other output four floats
  have hty : ∀ u : Usage, (if u = .pointSize then TypeDesc.float else TypeDesc.vec4).Canonical := by
    intro u
    split <;> simp
  mvcgen [declareOutput, hcreate] with
    first
    | exact hty _
    | exact Usage.varyingLocation_lt ‹_›
    | exact ‹Framed _ ∧ _›.2
    | exact Placing.opened_placingFor ‹_› (by simp)

theorem ensureOutput_placing (reg : Register) (hreg : reg.InRange) :
    ⦃fun s => ⌜s.Framed ∧ s.Placing stage⌝⦄ ensureOutput reg ⦃⇓? _ s => ⌜s.Placing stage⌝⦄ := by
  have hcreate := fun ty slot hout (hty : TypeDesc.Canonical ty) (hslot : slot.InRange) =>
    @createOutput_placing stage reg ty slot none hout hty hslot
  -- fog, point size and depth are float scalars, every other output four floats
  have hty : ∀ scalar : Prop, [Decidable scalar] →
      (if scalar then TypeDesc.float else TypeDesc.vec4).Canonical := by
    intro scalar _
    split <;> simp
  mvcgen [ensureOutput, hcreate] with
    first
    | exact hty _
    | (rw [‹reg.file = _›]; rfl)
    | decide
    | exact ‹reg.index = _› ▸ hreg.index_lt ‹_› (by decide)
    | exact Usage.varyingLocation_lt ‹_›
    | exact ‹Framed _ ∧ _›.2
    | exact Placing.opened_placingFor ‹_› (by simp)
    | exact Placing.opened_setDepth ‹_›


theorem declareSampler_placing (index : Nat) (type : TextureType) :
    ⦃fun s => ⌜s.Framed ∧ s.Placing stage⌝⦄ declareSampler index type
      ⦃⇓? _ s => ⌜s.Placing stage⌝⦄ := by
  have himage := fun dim => (placing_basic stage).pointerTypeId (TypeDesc.image dim)
    StorageClass.uniformConstant (TypeDesc.canonical_image dim)
  have hsampler := (placing_basic stage).pointerTypeId TypeDesc.sampler
    StorageClass.uniformConstant TypeDesc.canonical_sampler
  have halloc := (placing_basic stage).alloc
  -- the loop over the two variables, unrolled
  simp only [declareSampler, List.forIn_cons, List.forIn_nil]
  mvcgen [himage, hsampler, halloc]
  -- a sampler declared before is kept
  · exact ‹Framed _ ∧ _›.2
  rename_i s hs _
  dsimp +zetaDelta only
  -- the texture and the sampler variable are uniform constants, outside the interface
  have hvar : ∀ pointer x, ¬({ op := Op.var, resultType := some pointer, result := some x,
                               operands := [StorageClass.uniformConstant.code] } :
      Spirv.Instruction).IsInterfaceVariable :=
    fun pointer x => (Instruction.isInterfaceVariable_var pointer x _).not.2 (by decide)
  refine hs.2.of_module rfl rfl (fun i hi => by simp [Module.push, hi]) ?_ ?_ ?_
    (by simp only [Module.push]) rfl
  · -- each decoration is about the variable declared just before it, and places nothing
    refine (((((((hs.2.placed.push_declaration (hvar _ _)).push_nonPlacement (by simp) ?_).push_nonPlacement
      (by simp) ?_).push_name _).push_declaration (hvar _ _)).push_nonPlacement (by simp) ?_).push_nonPlacement
      (by simp) ?_).push_name _
    all_goals exact ⟨_, Module.mem_push_declarations.2 (.inr rfl), hvar _ _, rfl, rfl⟩
  · rw [← hs.2.interface]
    simp only [Module.interfaceIds_push_names, Module.interfaceIds_push_annotations,
      Module.interfaceIds_push_declaration (hvar _ _)]
  · rw [hs.2.depth]
    simp (disch := simp) only [Module.annotations_push_names, Module.decoration_mem_push_annotations,
      Module.annotations_push_declarations]


theorem declare_placing (decl : Declaration) (dst : Destination) (hreg : dst.reg.InRange) :
    ⦃fun s => ⌜s.Framed ∧ s.Placing stage⌝⦄ declare decl dst ⦃⇓? _ s => ⌜s.Placing stage⌝⦄ := by
  have hsampler := fun index type => @declareSampler_placing stage index type
  have hvertex := fun usage hfile =>
    @declareVertexInput_placing stage dst.reg usage hreg hfile
  have hpixel := fun usage index hfile =>
    @declarePixelInput_placing stage dst.reg usage index hfile
  have houtput := fun usage index hout =>
    @declareOutput_placing stage dst.reg usage index hout
  mvcgen [declare, hsampler, hvertex, hpixel, houtput] with
    first
    | (rw [‹dst.reg.file = _›]; rfl)
    | exact .inl ‹_›
    | exact .inr ‹_›

theorem loadInput_placing (reg : Register) :
    ⦃fun s => ⌜s.Framed ∧ s.Placing stage⌝⦄ loadInput reg ⦃⇓? _ s => ⌜s.Placing stage⌝⦄ := by
  have htype := (placing_basic stage).typeId
  have hcompute := (placing_basic stage).compute_keeps
  have hunpack := (placing_basic stage).unpackColor_keeps
  mvcgen [loadInput, htype, hcompute, hunpack] with
    first
    | simp
    | exact ‹Framed _ ∧ _›.2
    | -- the variable of an input register has the type of a recorded input
      (obtain ⟨_, hmem⟩ := snd_mem_of_lookup ‹List.lookup _ _ = some _›
       exact (‹Framed _ ∧ _›.1.2.inputs _ hmem).2.2)

/-- Being framed and placing is closed under the primitive steps of lowering. -/
theorem placing_closed (stage : Stage) : Closed (fun s => s.Framed ∧ s.Placing stage) :=
  { placing_basic stage with
    loadInput := fun reg => keeps_and (loadInput_framed reg) (loadInput_placing reg)
    constantBlock := keeps_and constantBlock_framed constantBlock_placing
    ensureOutput := fun reg hreg =>
      keeps_and (ensureOutput_framed reg hreg) (ensureOutput_placing reg hreg) }


attribute [local spec] emit_spec addEntryPoint_spec addExecutionMode_spec

/-- Closing the function, adding the entry point and the stage's execution modes finishes a
module whose entry point is the function and whose interface is placed. -/
theorem finish_entryPoint :
    ⦃fun s => ⌜s.Framed ∧ s.Placing stage⌝⦄ finish
      ⦃⇓? r _ => ⌜r.stage = stage ∧ r.module.Placed ∧ ∃ entry, r.module.EntryPointOf stage entry⌝⦄ := by
  have hstore := (placing_closed stage).reading.storeOutputs_keeps
  mvcgen [finish, hstore]
  all_goals
    dsimp +zetaDelta only
    refine Placing.finished ‹_› ?_ ?_ ?_ ?_ ?_
  all_goals try rfl
  -- the execution modes of a pixel shader with and without depth, and of a vertex shader
  next hpixel hdepth => simp [Module.push, Stage.executionModes, hpixel, hdepth]
  next hpixel hdepth => simp [Module.push, Stage.executionModes, hpixel, hdepth]
  next hpixel =>
    cases hstage : ‹Lowering›.version.stage with
    | vertex => simp [Module.push, Stage.executionModes]
    | pixel => exact absurd hstage hpixel


/-- Lowering a program of well formed instructions from a framed, placing state finishes a
module whose entry point is its function and whose interface is placed. -/
theorem program_entryPoint (p : Program) (hwf : ∀ ins ∈ p.body, ins.WellFormed) :
    ⦃fun s => ⌜s.Framed ∧ s.Placing stage⌝⦄ program p
      ⦃⇓? r _ => ⌜r.stage = stage ∧ r.module.Placed ∧ ∃ entry, r.module.EntryPointOf stage entry⌝⦄ := by
  have body : ⦃fun s => ⌜s.Framed ∧ s.Placing stage⌝⦄ p.body.forM instruction
      ⦃⇓? _ s => ⌜s.Framed ∧ s.Placing stage⌝⦄ :=
    forM_keeps fun ins hins => (placing_closed stage).instruction_keeps ins (hwf ins hins)
      (fun decl dst _ hreg => keeps_and (declare_framed decl dst hreg) (declare_placing decl dst hreg))
  mvcgen [program, body, finish_entryPoint]
end

/-- The opening records the void type and the entry function's type, both of which it
declares. -/
theorem opening_typesSound : (opening {}).2.TypesSound := by
  have hentries : (opening {}).2.types.entries =
      [(.composite Op.typeFunction.code [2], 3), (.void, 2)] := by
    decide +kernel
  have hdecls : (opening {}).2.module.declarations.toList =
      [{ op := Op.typeVoid, result := some 2 },
       { op := Op.typeFunction, result := some 3, operands := [2] }] := by
    decide +kernel
  intro p hp
  rw [hentries] at hp
  simp only [List.mem_cons, List.not_mem_nil, or_false] at hp
  rcases hp with rfl | rfl
  · rw [Module.DeclaresKey]
    simp [Module.Declares, hdecls, Op.typeImage, Op.typeSampledImage, Op.typeArray, Op.typeStruct,
      Op.typeFunction]
  · rw [Module.DeclaresKey]
    simp [Module.Declares, hdecls]

/-- The opening declares no variable and no decoration, and its function is the entry point. -/
theorem opening_placed : (opening {}).2.module.annotations = #[] ∧
    (opening {}).2.module.interfaceIds = [] ∧
    ∃ f, (opening {}).2.module.functions.toList.head? = some f ∧ f.op = Op.function ∧
      f.result = some (opening {}).1.2 :=
  ⟨by decide +kernel, by decide +kernel,
    { op := Op.function, resultType := some 2, result := some 4, operands := [0, 3] },
    by decide +kernel, rfl, by decide +kernel⟩

/-- Lowering starts placing for the stage of its version. -/
theorem start_placing (options : Options) (registry : ConstantRegistry) (version : ShaderVersion) :
    (start options registry version).Placing version.stage := by
  obtain ⟨hannotations, hids, hentry⟩ := opening_placed
  exact {
    stage := rfl
    types := opening_typesSound
    placed := Module.placed_of_annotations_eq hannotations hids
    interface := hids
    depth := by
      show false = true ↔ ∃ x, _ ∈ (opening {}).2.module.annotations.toList
      simp [hannotations]
    entry := hentry }

end Lowering

/-- A decoded program has the version its first token names. -/
theorem Program.decode_version {tokens : Array UInt32} {p : Program}
    (h : Program.decode tokens = .ok p) : tokens[0]?.bind ShaderVersion.ofToken? = some p.version := by
  unfold Program.decode at h
  split at h
  · cases h
  · rename_i first hfirst
    split at h
    · rename_i version hversion
      split at h
      · cases h
        simp [hfirst, hversion]
      · cases h
    · cases h

/-- The declarations of a module whose results are distinct have distinct results. -/
theorem Spirv.Module.IdsExact.declarations_nodup {m : Module} (h : m.IdsExact) :
    (m.declarations.toList.filterMap (·.result)).Nodup :=
  h.nodup.sublist (List.Sublist.filterMap _
    ((List.sublist_append_right _ _).trans (List.sublist_append_left _ _)))

/-- Every shader the converter produces has its version's stage and one entry point listing each
interface variable once, in declaration order, each placed once, with the stage's modes. -/
theorem Converter.compile_entryInterface {c : Converter} {tokens : Array UInt32} {shader : Shader}
    (h : c.compile tokens = .ok shader) :
    (tokens[0]?.bind ShaderVersion.ofToken?).map ShaderVersion.stage = some shader.stage ∧
      shader.module.EntryInterface shader.stage := by
  obtain ⟨p, hp, hlower⟩ := Converter.compile_eq_ok h
  obtain ⟨s', hrun⟩ := Program.lower_eq_ok hlower
  obtain ⟨hstage, hplaced, hentry⟩ :=
    Lowering.triple_run (Lowering.program_entryPoint p (Program.decode_wellFormed hp))
      ⟨Lowering.start_framed _ _ _, Lowering.start_placing _ _ _⟩ hrun
  -- the module's ids are distinct, so each interface variable is the target of its placement only
  have hres := (Converter.compile_ids h).declarations_nodup
  refine ⟨?_, ?_⟩
  · rw [Program.decode_version hp, hstage]
    rfl
  · rw [hstage]
    exact ⟨hentry, hres.sublist shader.module.interfaceIds_sublist,
      fun x hx => hplaced.annotationsOf_eq hres hx⟩

/-- A model 2 pixel shader that samples a 2D texture at `t0` into `oC0` and writes the depth
from `c0.x` converts to a module with its entry point and interface, depth replacing. -/
theorem Converter.compile_depth_pixel_entryInterface :
    ∃ t : Array UInt32, t = #[0xFFFF0200, 0x0200001F, 0x80000000, 0xB00F0000, 0x0200001F,
        0x90000000, 0xA00F0800, 0x05000051, 0xA00F0000, 0x3E800000, 0x3F000000, 0x3F400000,
        0x3F800000, 0x03000042, 0x800F0000, 0xB0E40000, 0xA0E40800, 0x02000001, 0x800F0800,
        0x80E40000, 0x02000001, 0x90010800, 0xA0000000, 0x0000FFFF] ∧
    ∃ shader, Converter.compile {} t = .ok shader ∧
      (t[0]?.bind ShaderVersion.ofToken?).map ShaderVersion.stage = some shader.stage ∧
      shader.module.EntryInterface shader.stage := by
  obtain ⟨shader, hc⟩ := exists_eq_ok_of_toBool
    (show (Converter.compile {} #[0xFFFF0200, 0x0200001F, 0x80000000, 0xB00F0000, 0x0200001F,
        0x90000000, 0xA00F0800, 0x05000051, 0xA00F0000, 0x3E800000, 0x3F000000, 0x3F400000,
        0x3F800000, 0x03000042, 0x800F0000, 0xB0E40000, 0xA0E40800, 0x02000001, 0x800F0800,
        0x80E40000, 0x02000001, 0x90010800, 0xA0000000, 0x0000FFFF]).toBool = true by decide +kernel)
  exact ⟨_, rfl, shader, hc, Converter.compile_entryInterface hc⟩

end ShaderBridge
