import ShaderBridge.Proofs.Ids

/-!
The ids an instruction names, read off its operand words by the SPIR-V grammar, and the rule
that a module defines every id before it names it.
-/

namespace ShaderBridge.Spirv

/-- Where the id operands of an instruction stand among its operand words. -/
inductive OperandLayout where
  /-- Every operand is an id. -/
  | allIds
  /-- The first `n` operands are ids, literals follow. -/
  | idsThen (n : Nat)
  /-- The first `n` operands are literals, ids follow. -/
  | literalsThen (n : Nat)
  /-- An extended instruction: the set's id, the instruction's number, then ids. -/
  | extInst
  /-- An image sample: the sampled image and the coordinate, then an operand mask and the ids
  it announces. -/
  | imageSample
  /-- An entry point: the execution model, the function, its name as a literal string, then
  the interface variables. -/
  | entryPoint
  deriving DecidableEq, Repr

/-- Whether one of the four bytes of a word is zero. -/
def hasZeroByte (w : Nat) : Bool :=
  w % 256 = 0 || w / 256 % 256 = 0 || w / 65536 % 256 = 0 || w / 16777216 % 256 = 0

/-- How many words a literal string at the head of `words` takes: up to and including the first
word holding a zero byte, the string's terminator. -/
def stringWordCount : List Nat → Nat
  | [] => 0
  | w :: ws => if hasZeroByte w then 1 else stringWordCount ws + 1

/-- The id operands among `operands`. -/
def OperandLayout.ids : OperandLayout → List Nat → List Nat
  | .allIds, operands => operands
  | .idsThen n, operands => operands.take n
  | .literalsThen n, operands => operands.drop n
  | .extInst, operands => operands.take 1 ++ operands.drop 2
  | .imageSample, operands => operands.take 2 ++ operands.drop 3
  | .entryPoint, operands =>
    (operands.drop 1).take 1 ++ (operands.drop 2).drop (stringWordCount (operands.drop 2))

/-- The layout of an opcode's operands. Opcodes outside the table are read as taking only ids. -/
def Op.layout (op : Op) : OperandLayout :=
  match op.code with
  -- no id operands: nop, imports, memory model, capabilities, scalar and sampler types,
  -- scalar and null constants, function end, labels, return
  | 0 | 11 | 14 | 17 | 19 | 20 | 21 | 22 | 26 | 41 | 42 | 43 | 46 | 56 | 248 | 253 => .idsThen 0
  -- names, execution modes, vector, matrix and image types, loads, decorations, extraction
  | 5 | 6 | 16 | 23 | 24 | 25 | 61 | 71 | 72 | 81 => .idsThen 1
  -- stores, shuffles, insertion
  | 62 | 79 | 82 => .idsThen 2
  -- pointer types, functions and variables open with a literal
  | 32 | 54 | 59 => .literalsThen 1
  | 12 => .extInst
  | 87 | 88 | 91 => .imageSample
  | 15 => .entryPoint
  | _ => .allIds

@[simp] theorem OperandLayout.ids_nil (l : OperandLayout) : l.ids [] = [] := by
  cases l <;> simp [OperandLayout.ids]

/-- Dropping `j` words after the first `k` leaves a sublist. -/
theorem take_append_drop_sublist (operands : List Nat) (k j : Nat) :
    (operands.take k ++ operands.drop (k + j)).Sublist operands := by
  have h := (List.append_sublist_append_left (operands.take k)).2
    (List.drop_sublist_drop_left operands (Nat.le_add_right k j))
  rwa [List.take_append_drop] at h

theorem OperandLayout.ids_sublist (l : OperandLayout) (operands : List Nat) :
    (l.ids operands).Sublist operands := by
  cases l with
  | allIds => exact List.Sublist.refl _
  | idsThen n => exact List.take_sublist _ _
  | literalsThen n => exact List.drop_sublist _ _
  | extInst => exact take_append_drop_sublist operands 1 1
  | imageSample => exact take_append_drop_sublist operands 2 1
  | entryPoint =>
    -- the string and the function's id sit in the operands after the execution model
    have h := take_append_drop_sublist (operands.drop 1) 1 (stringWordCount (operands.drop 2))
    rw [← List.drop_drop, List.drop_drop (l := operands)] at h
    exact h.trans (List.drop_sublist 1 operands)

theorem OperandLayout.ids_subset {l : OperandLayout} {operands ids : List Nat}
    (h : operands ⊆ ids) : l.ids operands ⊆ ids :=
  fun _ hx => h ((l.ids_sublist operands).subset hx)

namespace Instruction

/-- The ids an instruction names: its result type, then the id operands of its layout. -/
def idOperands (i : Instruction) : List Nat := i.resultType.toList ++ i.op.layout.ids i.operands

theorem idOperands_mk (op : Op) (ty result : Option Nat) (operands : List Nat) :
    (Instruction.mk op ty result operands).idOperands = ty.toList ++ op.layout.ids operands := rfl

end Instruction

/-- Each instruction of `is` names only ids of `outer` and results of the instructions before
it. -/
def UsesBefore : List Nat → List Instruction → Prop
  | _, [] => True
  | outer, i :: is => (∀ x ∈ i.idOperands, x ∈ outer) ∧ UsesBefore (outer ++ i.result.toList) is

theorem UsesBefore.mono {outer outer' : List Nat} {is : List Instruction} (h : UsesBefore outer is)
    (hsub : outer ⊆ outer') : UsesBefore outer' is := by
  induction is generalizing outer outer' with
  | nil => trivial
  | cons i is ih =>
    obtain ⟨hi, hrest⟩ := h
    have hsub' : outer ++ i.result.toList ⊆ outer' ++ i.result.toList :=
      List.append_subset.2 ⟨fun x hx => List.subset_append_left _ _ (hsub hx),
        List.subset_append_right _ _⟩
    exact ⟨fun x hx => hsub (hi x hx), ih hrest hsub'⟩

/-- Appending an instruction keeps the rule when it names only ids of `outer` and results of
the instructions already there. -/
theorem usesBefore_append_singleton {outer : List Nat} {is : List Instruction}
    {i : Instruction} :
    UsesBefore outer (is ++ [i]) ↔
      UsesBefore outer is ∧ ∀ x ∈ i.idOperands, x ∈ outer ++ is.filterMap (·.result) := by
  induction is generalizing outer with
  | nil => simp [UsesBefore]
  | cons j is ih =>
    simp only [List.cons_append, UsesBefore, ih, List.filterMap_cons]
    cases j.result <;> simp [and_assoc]

namespace Module

/-- The results of the declarations: types, constants and global variables. -/
def declIds (m : Module) : List Nat := m.declarations.toList.filterMap (·.result)

/-- The results of the extended instruction set imports. -/
def importIds (m : Module) : List Nat := m.imports.toList.filterMap (·.result)

/-- The results of the function bodies' instructions. -/
def functionIds (m : Module) : List Nat := m.functions.toList.filterMap (·.result)

/-- The ids the module defines: imports, declarations and function results. -/
def available (m : Module) : List Nat := m.importIds ++ m.declIds ++ m.functionIds

@[simp] theorem declIds_push (m : Module) (sec : Section) (i : Instruction) :
    (m.push sec i).declIds = m.declIds ++ if sec = .declarations then i.result.toList else [] := by
  cases sec <;> cases hr : i.result <;> simp [declIds, push, List.filterMap_append, hr]

@[simp] theorem importIds_push (m : Module) (sec : Section) (i : Instruction) :
    (m.push sec i).importIds = m.importIds ++ if sec = .imports then i.result.toList else [] := by
  cases sec <;> cases hr : i.result <;> simp [importIds, push, List.filterMap_append, hr]

@[simp] theorem functionIds_push (m : Module) (sec : Section) (i : Instruction) :
    (m.push sec i).functionIds =
      m.functionIds ++ if sec = .functions then i.result.toList else [] := by
  cases sec <;> cases hr : i.result <;> simp [functionIds, push, List.filterMap_append, hr]

theorem mem_declIds_push {m : Module} {sec : Section} {i : Instruction} {x : Nat} :
    x ∈ (m.push sec i).declIds ↔ x ∈ m.declIds ∨ sec = .declarations ∧ i.result = some x := by
  cases sec <;> simp [eq_comm]

theorem mem_available_push {m : Module} {sec : Section} {i : Instruction} {x : Nat} :
    x ∈ (m.push sec i).available ↔ x ∈ m.available ∨
      (sec = .imports ∨ sec = .declarations ∨ sec = .functions) ∧ i.result = some x := by
  cases sec <;> simp [available, eq_comm] <;> tauto

@[simp] theorem declIds_bump (m : Module) : m.bump.declIds = m.declIds := rfl

@[simp] theorem available_bump (m : Module) : m.bump.available = m.available := rfl

@[simp] theorem declIds_requireCapability (m : Module) (c : Capability) :
    (m.requireCapability c).declIds = m.declIds := by
  unfold requireCapability
  split <;> rfl

@[simp] theorem available_requireCapability (m : Module) (c : Capability) :
    (m.requireCapability c).available = m.available := by
  unfold requireCapability
  split <;> rfl

theorem declIds_subset_available (m : Module) : m.declIds ⊆ m.available := fun _ hx => by
  simp [available, hx]

/-- Every id is defined before it is named: the declarations name earlier declarations, the
function bodies name imports, declarations and earlier results of the bodies, and entry points,
execution modes, names and decorations name ids the module defines. -/
structure Scoped (m : Module) : Prop where
  declarations : UsesBefore [] m.declarations.toList
  functions : UsesBefore (m.importIds ++ m.declIds) m.functions.toList
  debug : ∀ i ∈ m.entryPoints.toList ++ m.executionModes.toList ++ m.names.toList ++
    m.annotations.toList, ∀ x ∈ i.idOperands, x ∈ m.available

/-- What an instruction appended to section `sec` may name: nothing is asked of imports and of
the memory model, declarations name declarations, the rest names defined ids. -/
def Admits (m : Module) : Section → Instruction → Prop
  | .imports, _ | .memoryModel, _ => True
  | .declarations, i => ∀ x ∈ i.idOperands, x ∈ m.declIds
  | _, i => ∀ x ∈ i.idOperands, x ∈ m.available

theorem Scoped.empty : Scoped {} where
  declarations := trivial
  functions := trivial
  debug := by simp

theorem Scoped.bump {m : Module} (h : m.Scoped) : m.bump.Scoped :=
  ⟨h.declarations, h.functions, h.debug⟩

theorem Scoped.requireCapability {m : Module} (h : m.Scoped) (c : Capability) :
    (m.requireCapability c).Scoped := by
  unfold Module.requireCapability
  split
  · exact h
  · exact ⟨h.declarations, h.functions, h.debug⟩

/-- Appending an instruction that names only what its section admits keeps the module scoped. -/
theorem Scoped.push {m : Module} {sec : Section} {i : Instruction} (h : m.Scoped)
    (hi : m.Admits sec i) : (m.push sec i).Scoped := by
  -- ids defined before the push stay defined after it
  have hgrow : ∀ x ∈ m.available, x ∈ (m.push sec i).available := fun x hx =>
    mem_available_push.2 (.inl hx)
  have hdebug : ∀ j ∈ m.entryPoints.toList ++ m.executionModes.toList ++ m.names.toList ++
      m.annotations.toList, ∀ x ∈ j.idOperands, x ∈ (m.push sec i).available :=
    fun j hj x hx => hgrow x (h.debug j hj x hx)
  have houter : m.importIds ++ m.declIds ⊆ (m.push sec i).importIds ++ (m.push sec i).declIds :=
    fun x hx => by
      simp only [importIds_push, declIds_push, List.mem_append] at hx ⊢
      tauto
  cases sec with
  | declarations =>
    refine ⟨?_, h.functions.mono houter, hdebug⟩
    simp only [Module.push, Array.toList_push, usesBefore_append_singleton, List.nil_append]
    exact ⟨h.declarations, hi⟩
  | functions =>
    refine ⟨h.declarations, ?_, hdebug⟩
    have hF : (m.push .functions i).functions.toList = m.functions.toList ++ [i] := by
      simp [Module.push]
    rw [hF, usesBefore_append_singleton]
    refine ⟨h.functions.mono houter, fun x hx => ?_⟩
    simpa [available, functionIds, List.append_assoc] using hi x hx
  | imports => exact ⟨h.declarations, h.functions.mono houter, hdebug⟩
  | memoryModel => exact ⟨h.declarations, h.functions, hdebug⟩
  | entryPoints | executionModes | names | annotations =>
    refine ⟨h.declarations, h.functions, fun j hj x hx => ?_⟩
    simp only [Module.push, Array.toList_push, List.mem_append, List.mem_singleton] at hj
    by_cases hji : j = i
    · subst hji
      exact hgrow x (hi x hx)
    · exact hgrow x (h.debug j (by simp only [List.mem_append]; tauto) x hx)

/-- The ids `m'` declares and defines include those of `m`. -/
structure Grows (m m' : Module) : Prop where
  declIds : ∀ x ∈ m.declIds, x ∈ m'.declIds
  available : ∀ x ∈ m.available, x ∈ m'.available

theorem grows_iff {m m' : Module} : Grows m m' ↔
    (∀ x ∈ m.declIds, x ∈ m'.declIds) ∧ ∀ x ∈ m.available, x ∈ m'.available :=
  ⟨fun h => ⟨h.1, h.2⟩, fun h => ⟨h.1, h.2⟩⟩

@[refl] theorem Grows.refl (m : Module) : Grows m m := ⟨fun _ h => h, fun _ h => h⟩

theorem Grows.trans {m₁ m₂ m₃ : Module} (h₁ : Grows m₁ m₂) (h₂ : Grows m₂ m₃) : Grows m₁ m₃ :=
  ⟨fun x h => h₂.declIds x (h₁.declIds x h), fun x h => h₂.available x (h₁.available x h)⟩

theorem mem_available_of_mem_declIds {m : Module} {x : Nat} (h : x ∈ m.declIds) :
    x ∈ m.available := m.declIds_subset_available h

/-- Growing is a preorder on modules: `m ≤ m'` when `m'` declares and defines every id `m` does. -/
instance : Preorder Module where
  le := Grows
  le_refl := Grows.refl
  le_trans _ _ _ := Grows.trans

theorem le_iff_grows {m m' : Module} : m ≤ m' ↔ m.Grows m' := Iff.rfl

/-- The module whose function body defines `x` and nothing else. -/
def atom (x : Nat) : Module := { functions := #[{ op := Op.nop, result := some x }] }

/-- The module that declares `x` and nothing else. -/
def declAtom (x : Nat) : Module := { declarations := #[{ op := Op.nop, result := some x }] }

/-- A module defines `x` exactly when it grows from `atom x`: definedness is read off the
preorder, and so carries along every chain of growing modules. -/
theorem mem_available_iff_atom_le {x : Nat} {m : Module} : x ∈ m.available ↔ atom x ≤ m := by
  simp only [le_iff_grows, grows_iff]
  simp [atom, declIds, available, importIds, functionIds]

theorem mem_declIds_iff_declAtom_le {x : Nat} {m : Module} :
    x ∈ m.declIds ↔ declAtom x ≤ m := by
  simp only [le_iff_grows, grows_iff]
  constructor
  · intro h
    refine ⟨fun y hy => ?_, fun y hy => ?_⟩
    · simp [declAtom, declIds] at hy
      exact hy ▸ h
    · simp [declAtom, available, importIds, declIds, functionIds] at hy
      exact hy ▸ mem_available_of_mem_declIds h
  · intro h
    exact h.1 x (by simp [declAtom, declIds])

end Module

end ShaderBridge.Spirv
