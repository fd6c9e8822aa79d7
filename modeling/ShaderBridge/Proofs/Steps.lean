import Mathlib
import ShaderBridge.Converter

/-!
The elementary steps of building a module and of lowering a shader, specified in the form
`Std.Do` reads, so that `mvcgen` turns a statement about a lowering function into conditions on
what it appends.
-/

namespace ShaderBridge

open Std.Do

namespace Spirv

/-- The sections instructions are appended to, in layout order after the capabilities. -/
inductive Section where
  | imports
  | memoryModel
  | entryPoints
  | executionModes
  | names
  | annotations
  | declarations
  | functions
  deriving DecidableEq, Repr

namespace Module

/-- The module after handing out its next id. -/
def bump (m : Module) : Module := { m with nextId := m.nextId + 1 }

/-- The module with `i` appended to section `sec`. -/
def push (m : Module) : Section → Instruction → Module
  | .imports, i => { m with imports := m.imports.push i }
  | .memoryModel, i => { m with memoryModel := m.memoryModel.push i }
  | .entryPoints, i => { m with entryPoints := m.entryPoints.push i }
  | .executionModes, i => { m with executionModes := m.executionModes.push i }
  | .names, i => { m with names := m.names.push i }
  | .annotations, i => { m with annotations := m.annotations.push i }
  | .declarations, i => { m with declarations := m.declarations.push i }
  | .functions, i => { m with functions := m.functions.push i }

@[simp] theorem bump_nextId (m : Module) : m.bump.nextId = m.nextId + 1 := rfl

@[simp] theorem push_nextId (m : Module) (sec : Section) (i : Instruction) :
    (m.push sec i).nextId = m.nextId := by
  cases sec <;> rfl

@[simp] theorem requireCapability_nextId (m : Module) (c : Capability) :
    (m.requireCapability c).nextId = m.nextId := by
  unfold requireCapability
  split <;> rfl

end Module

namespace Builder

variable {α : Type} {i : Instruction}

/-- Postconditions of module building steps. -/
abbrev Post (α : Type) := PostCond α (.arg Builder .pure)

theorem alloc_spec {Q : Post Nat} :
    Triple alloc (spred(fun b => Q.1 b.module.nextId { b with module := b.module.bump })) Q :=
  fun _ h => h

theorem requireCapability_spec {c : Capability} {Q : Post Unit} :
    Triple (requireCapability c)
      (spred(fun b => Q.1 () { b with module := b.module.requireCapability c })) Q :=
  fun _ h => h

theorem addImport_spec {Q : Post Unit} :
    Triple (addImport i) (spred(fun b => Q.1 () { b with module := b.module.push .imports i })) Q :=
  fun _ h => h

theorem addMemoryModel_spec {Q : Post Unit} :
    Triple (addMemoryModel i)
      (spred(fun b => Q.1 () { b with module := b.module.push .memoryModel i })) Q :=
  fun _ h => h

theorem addName_spec {Q : Post Unit} :
    Triple (addName i) (spred(fun b => Q.1 () { b with module := b.module.push .names i })) Q :=
  fun _ h => h

theorem declare_spec {Q : Post Unit} :
    Triple (declare i)
      (spred(fun b => Q.1 () { b with module := b.module.push .declarations i })) Q :=
  fun _ h => h

theorem emit_spec {Q : Post Unit} :
    Triple (emit i) (spred(fun b => Q.1 () { b with module := b.module.push .functions i })) Q :=
  fun _ h => h

end Builder

end Spirv

namespace Lowering

open Spirv

variable {α : Type} {i : Spirv.Instruction}

/-- Postconditions of lowering steps. -/
abbrev Post (α : Type) := PostCond α (.arg Lowering (.except ConvertError .pure))

/-- The state with its module replaced. -/
abbrev withModule (s : Lowering) (m : Module) : Lowering :=
  { s with builder := { s.builder with module := m } }

theorem alloc_spec {Q : Post Nat} :
    Triple alloc (spred(fun s => Q.1 s.builder.module.nextId (s.withModule s.builder.module.bump)))
      Q :=
  fun _ h => h

theorem emit_spec {Q : Post Unit} :
    Triple (emit i) (spred(fun s => Q.1 () (s.withModule (s.builder.module.push .functions i)))) Q :=
  fun _ h => h

theorem declare_spec {Q : Post Unit} :
    Triple (build (Builder.declare i))
      (spred(fun s => Q.1 () (s.withModule (s.builder.module.push .declarations i)))) Q :=
  fun _ h => h

theorem annotate_spec {Q : Post Unit} :
    Triple (build (Builder.annotate i))
      (spred(fun s => Q.1 () (s.withModule (s.builder.module.push .annotations i)))) Q :=
  fun _ h => h

theorem addName_spec {Q : Post Unit} :
    Triple (build (Builder.addName i))
      (spred(fun s => Q.1 () (s.withModule (s.builder.module.push .names i)))) Q :=
  fun _ h => h

theorem addEntryPoint_spec {Q : Post Unit} :
    Triple (build (Builder.addEntryPoint i))
      (spred(fun s => Q.1 () (s.withModule (s.builder.module.push .entryPoints i)))) Q :=
  fun _ h => h

theorem addExecutionMode_spec {Q : Post Unit} :
    Triple (build (Builder.addExecutionMode i))
      (spred(fun s => Q.1 () (s.withModule (s.builder.module.push .executionModes i)))) Q :=
  fun _ h => h

@[spec] theorem fail_spec {e : ConvertError} {Q : Post α} :
    Triple (fail e : LowerM α) (spred(fun _ => Q.2.1 e)) Q :=
  fun _ h => h

@[spec] theorem stage_spec {Q : Post Stage} :
    Triple stage (spred(fun s => Q.1 s.version.stage s)) Q :=
  fun _ h => h

@[spec] theorem stageMask_spec {Q : Post Nat} :
    Triple stageMask (spred(fun s => Q.1 s.version.stage.mask s)) Q :=
  fun _ h => h

@[spec] theorem valueOf?_spec {reg : Register} {Q : Post (Option Nat)} :
    Triple (valueOf? reg) (spred(fun s => Q.1 (s.values.lookup reg) s)) Q :=
  fun _ h => h

@[spec] theorem floatSlot_spec {Q : Post ConstantSlot} :
    Triple floatSlot (spred(fun s => Q.1 (s.registry.slot s.version.stage .float) s)) Q :=
  fun _ h => h

/-- What a triple says of a module building step on its own holds of the builder that the step
leaves when it runs inside lowering. -/
theorem build_lift {x : BuildM α} {P : Builder → Prop} {R : α → Builder → Prop}
    (h : ⦃fun b => ⌜P b⌝⦄ x ⦃⇓ a b => ⌜R a b⌝⦄) :
    ⦃fun s => ⌜P s.builder⌝⦄ build x ⦃⇓? a s => ⌜R a s.builder⌝⦄ :=
  fun s hP => h s.builder hP

/-- A property of the builder that a module building step keeps is kept by the step run inside
lowering. -/
theorem build_keeps {x : BuildM α} {I : Builder → Prop}
    (h : ⦃fun b => ⌜I b⌝⦄ x ⦃⇓ _ b => ⌜I b⌝⦄) :
    ⦃fun s => ⌜I s.builder⌝⦄ build x ⦃⇓? _ s => ⌜I s.builder⌝⦄ :=
  build_lift h

/-- What a triple promises of a step holds after a run of it that succeeds. -/
theorem triple_run {x : LowerM α} {P : Lowering → Prop} {R : α → Lowering → Prop}
    (h : ⦃fun s => ⌜P s⌝⦄ x ⦃⇓? a s => ⌜R a s⌝⦄) {s s' : Lowering} {a : α} (hP : P s)
    (hrun : x.run s = .ok (a, s')) : R a s' := by
  have post := h s hP
  -- the weakest precondition of a state and exception step, read at one state, is the
  -- postcondition of the outcome it has there
  change (wp⟦(x s : Except ConvertError (α × Lowering))⟧
    (fun r => ⌜R r.1 r.2⌝, fun _ => ⌜True⌝, ())).down at post
  rw [show x s = .ok (a, s') from hrun] at post
  exact post

/-- The postcondition of a step may be weakened. -/
theorem triple_weaken {α : Type} {x : LowerM α} {P R R' : Lowering → Prop}
    (h : ⦃fun s => ⌜P s⌝⦄ x ⦃⇓? _ s => ⌜R s⌝⦄) (hR : ∀ s, R s → R' s) :
    ⦃fun s => ⌜P s⌝⦄ x ⦃⇓? _ s => ⌜R' s⌝⦄ := by
  intro s hs
  have hpost := h s hs
  -- the postcondition is read at the one outcome of the step from `s`
  change (wp⟦(x s : Except ConvertError (α × Lowering))⟧
    (fun r => ⌜R r.2⌝, fun _ => ⌜True⌝, ())).down at hpost
  change (wp⟦(x s : Except ConvertError (α × Lowering))⟧
    (fun r => ⌜R' r.2⌝, fun _ => ⌜True⌝, ())).down
  cases hx : x s with
  | error e => trivial
  | ok r =>
    rw [hx] at hpost
    exact hR _ hpost

section

set_option mvcgen.warning false

/-- Lowering the elements of a list in turn: a property of the state indexed by the elements
lowered so far, kept by each step, holds after all of them. -/
theorem forM_triple {β : Type} {xs : List β} {f : β → LowerM PUnit} {I : List β → Lowering → Prop}
    (hf : ∀ pre, ∀ a ∈ xs, ⦃fun s => ⌜I pre s⌝⦄ f a ⦃⇓? _ s => ⌜I (pre ++ [a]) s⌝⦄)
    (pre : List β) : ⦃fun s => ⌜I pre s⌝⦄ xs.forM f ⦃⇓? _ s => ⌜I (pre ++ xs) s⌝⦄ := by
  induction xs generalizing pre with
  | nil =>
    simp only [List.forM_eq_forM, List.forM_nil, List.append_nil]
    mvcgen
  | cons x xs ih =>
    have step := hf pre x List.mem_cons_self
    have rest := ih (fun pre a ha => hf pre a (List.mem_cons_of_mem x ha)) (pre ++ [x])
    simp only [List.append_assoc, List.cons_append, List.nil_append] at rest
    simp only [List.forM_eq_forM, List.forM_cons] at rest ⊢
    mvcgen [step, rest]

/-- Lowering the elements of a list in turn, each step told where in the list it stands: a
property indexed by the elements lowered so far, kept by each step, holds after all of them. -/
theorem forM_triple_split {β : Type} {xs : List β} {f : β → LowerM PUnit}
    {I : List β → Lowering → Prop}
    (hf : ∀ pre a post, xs = pre ++ a :: post →
      ⦃fun s => ⌜I pre s⌝⦄ f a ⦃⇓? _ s => ⌜I (pre ++ [a]) s⌝⦄) :
    ⦃fun s => ⌜I [] s⌝⦄ xs.forM f ⦃⇓? _ s => ⌜I xs s⌝⦄ := by
  -- the suffix still to lower, after the prefix `pre`
  suffices h : ∀ rest pre, xs = pre ++ rest →
      ⦃fun s => ⌜I pre s⌝⦄ rest.forM f ⦃⇓? _ s => ⌜I (pre ++ rest) s⌝⦄ from h xs [] rfl
  intro rest
  induction rest with
  | nil =>
    intro pre _
    simp only [List.forM_eq_forM, List.forM_nil, List.append_nil]
    mvcgen
  | cons a rest ih =>
    intro pre hxs
    have step := hf pre a rest hxs
    have tail := ih (pre ++ [a]) (by simp [hxs])
    simp only [List.append_assoc, List.cons_append, List.nil_append] at tail
    simp only [List.forM_eq_forM, List.forM_cons] at tail ⊢
    mvcgen [step, tail]

/-- A lowering step that keeps a property of the state keeps it when mapped over a list. -/
theorem mapM_keeps {β γ : Type} {xs : List β} {f : β → LowerM γ} {I : Lowering → Prop}
    (hf : ∀ a, ⦃fun s => ⌜I s⌝⦄ f a ⦃⇓? _ s => ⌜I s⌝⦄) :
    ⦃fun s => ⌜I s⌝⦄ xs.mapM f ⦃⇓? _ s => ⌜I s⌝⦄ := by
  induction xs with
  | nil => mvcgen
  | cons x xs ih =>
    rw [List.mapM_cons]
    mvcgen [hf, ih]

/-- Mapping a step that keeps a property over a list keeps it and gives one result for each
element. -/
theorem mapM_length {β γ : Type} {f : β → LowerM γ} {I : Lowering → Prop}
    (hf : ∀ a, ⦃fun s => ⌜I s⌝⦄ f a ⦃⇓? _ s => ⌜I s⌝⦄) (xs : List β) :
    ⦃fun s => ⌜I s⌝⦄ xs.mapM f ⦃⇓? r s => ⌜r.length = xs.length ∧ I s⌝⦄ := by
  induction xs with
  | nil =>
    rw [List.mapM_nil]
    mvcgen
  | cons x xs ih =>
    rw [List.mapM_cons]
    mvcgen [hf, ih] with simp_all

/-- Folding a lowering step over a list: a property of the state and the accumulator that each
step keeps holds of the result. -/
theorem foldlM_triple {β γ : Type} {xs : List β} {f : γ → β → LowerM γ}
    {I : γ → Lowering → Prop}
    (hf : ∀ acc a, ⦃fun s => ⌜I acc s⌝⦄ f acc a ⦃⇓? r s => ⌜I r s⌝⦄) (init : γ) :
    ⦃fun s => ⌜I init s⌝⦄ xs.foldlM f init ⦃⇓? r s => ⌜I r s⌝⦄ := by
  induction xs generalizing init with
  | nil =>
    rw [List.foldlM_nil]
    mvcgen
  | cons x xs ih =>
    rw [List.foldlM_cons]
    mvcgen [hf, ih, - Spec.foldlM_list]

end

end Lowering

/-- An outcome that reads as a success has its result. -/
theorem exists_eq_ok_of_toBool {ε α : Type} {x : Except ε α} (h : x.toBool = true) :
    ∃ a, x = .ok a := by
  cases x with
  | error e => exact absurd h (by simp [Except.toBool])
  | ok a => exact ⟨a, rfl⟩

end ShaderBridge
