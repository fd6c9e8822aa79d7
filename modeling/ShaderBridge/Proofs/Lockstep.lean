import ShaderBridge.Proofs.Steps
import ShaderBridge.Proofs.VertexLayout

/-!
Two lowerings of one shader run in lockstep: what lowering decides and records depends on the
options only through the packing of colours, never on the ids handed out.
-/

namespace ShaderBridge

open Std.Do

/-- A key is looked up in an association list exactly when it is one of the list's keys. -/
theorem isSome_lookup_iff_mem_keys {α β : Type} [BEq α] [LawfulBEq α] (l : List (α × β)) (k : α) :
    (l.lookup k).isSome ↔ k ∈ l.map Prod.fst := by
  induction l with
  | nil => simp
  | cons p l ih =>
    obtain ⟨a, b⟩ := p
    by_cases hk : k = a
    · subst hk
      simp
    · simp [List.lookup_cons, beq_false_of_ne hk, ih, hk]

/-- Association lists with the same keys look up the same keys. -/
theorem isSome_lookup_of_keys {α β γ : Type} [BEq α] [LawfulBEq α] {l₁ : List (α × β)}
    {l₂ : List (α × γ)} (h : l₁.map Prod.fst = l₂.map Prod.fst) (k : α) :
    (l₁.lookup k).isSome = (l₂.lookup k).isSome := by
  rw [Bool.eq_iff_iff, isSome_lookup_iff_mem_keys, isSome_lookup_iff_mem_keys, h]

/-- Looking a key up after mapping the values maps the value looked up. -/
theorem lookup_map_snd {α β γ : Type} [BEq α] (l : List (α × β)) (f : β → γ) (k : α) :
    (l.map fun p => (p.1, f p.2)).lookup k = (l.lookup k).map f := by
  induction l with
  | nil => rfl
  | cons p l ih =>
    obtain ⟨a, b⟩ := p
    cases h : k == a <;> simp [List.lookup_cons, h, ih]

/-- The keys left by removing a key from an association list. -/
theorem keys_filter {α β : Type} [BEq α] (l : List (α × β)) (k : α) :
    (l.filter (·.1 != k)).map Prod.fst = (l.map Prod.fst).filter (· != k) := by
  induction l with
  | nil => rfl
  | cons p l ih => by_cases h : (p.1 != k) = true <;> simp [h, ih]

/-- Two shaders agree on all but what packing colours changes: the stage, the descriptors, and
vertex input attributes that are the layouts of one list of declared inputs, colours packed as
`c₁` and `c₂` say. -/
structure Shader.Alike (c₁ c₂ : Bool) (sh₁ sh₂ : Shader) : Prop where
  stage : sh₁.stage = sh₂.stage
  descriptors : sh₁.descriptors = sh₂.descriptors
  vertexInputs : ∃ declared : List (Nat × Usage),
    sh₁.vertexInputs = Usage.vertexLayout c₁ declared ∧
      sh₂.vertexInputs = Usage.vertexLayout c₂ declared

namespace Lowering

/-- What lowering reads of a state to decide its course and its layout: everything but the
module, the ids and the list of interface variables. -/
def view (s : Lowering) :=
  (s.options, s.registry, s.version, s.values.map Prod.fst, s.defined, s.inputs.map Prod.fst,
    s.outputs.map Prod.fst, s.floatBlock.isSome, s.samplers.map (fun p => (p.1, p.2.textureType)),
    s.descriptors, s.vertexInputs, s.stride, s.writesDepth)

/-- Two lowering states are alike: they agree on all that lowering reads to decide its course, and
their vertex inputs are one layout with colours packed as `c₁` and `c₂` say. -/
structure Alike (c₁ c₂ : Bool) (s₁ s₂ : Lowering) : Prop where
  packed₁ : s₁.options.packedColors = c₁
  packed₂ : s₂.options.packedColors = c₂
  registry : s₁.registry = s₂.registry
  version : s₁.version = s₂.version
  values : s₁.values.map Prod.fst = s₂.values.map Prod.fst
  defined : s₁.defined = s₂.defined
  inputs : s₁.inputs.map Prod.fst = s₂.inputs.map Prod.fst
  outputs : s₁.outputs.map Prod.fst = s₂.outputs.map Prod.fst
  floatBlock : s₁.floatBlock.isSome = s₂.floatBlock.isSome
  samplers : s₁.samplers.map (fun p => (p.1, p.2.textureType)) =
    s₂.samplers.map (fun p => (p.1, p.2.textureType))
  descriptors : s₁.descriptors = s₂.descriptors
  writesDepth : s₁.writesDepth = s₂.writesDepth
  layout : ∃ declared : List (Nat × Usage),
    s₁.vertexInputs.toList = Usage.vertexLayout c₁ declared ∧
    s₁.stride = Usage.vertexStride c₁ declared ∧
    s₂.vertexInputs.toList = Usage.vertexLayout c₂ declared ∧
    s₂.stride = Usage.vertexStride c₂ declared

variable {c₁ c₂ : Bool}

/-- States with the views of alike states are alike. -/
theorem Alike.of_view {s₁ s₂ t₁ t₂ : Lowering} (h : Alike c₁ c₂ s₁ s₂) (h₁ : view t₁ = view s₁)
    (h₂ : view t₂ = view s₂) : Alike c₁ c₂ t₁ t₂ := by
  simp only [view, Prod.mk.injEq] at h₁ h₂
  obtain ⟨o₁, r₁, v₁, va₁, d₁, i₁, ou₁, f₁, sa₁, de₁, vi₁, st₁, w₁⟩ := h₁
  obtain ⟨o₂, r₂, v₂, va₂, d₂, i₂, ou₂, f₂, sa₂, de₂, vi₂, st₂, w₂⟩ := h₂
  obtain ⟨declared, hl₁, hs₁, hl₂, hs₂⟩ := h.layout
  exact ⟨o₁ ▸ h.packed₁, o₂ ▸ h.packed₂, r₁ ▸ r₂ ▸ h.registry, v₁ ▸ v₂ ▸ h.version,
    va₁ ▸ va₂ ▸ h.values, d₁ ▸ d₂ ▸ h.defined, i₁ ▸ i₂ ▸ h.inputs, ou₁ ▸ ou₂ ▸ h.outputs,
    f₁ ▸ f₂ ▸ h.floatBlock, sa₁ ▸ sa₂ ▸ h.samplers, de₁ ▸ de₂ ▸ h.descriptors,
    w₁ ▸ w₂ ▸ h.writesDepth, ⟨declared, vi₁ ▸ hl₁, st₁ ▸ hs₁, vi₂ ▸ hl₂, st₂ ▸ hs₂⟩⟩

/-- Replacing the builders keeps states alike. -/
theorem Alike.withBuilder {s₁ s₂ : Lowering} (h : Alike c₁ c₂ s₁ s₂) (b₁ b₂ : Spirv.Builder) :
    Alike c₁ c₂ { s₁ with builder := b₁ } { s₂ with builder := b₂ } :=
  h.of_view rfl rfl

/-- Alike states have values for the same registers. -/
theorem Alike.isSome_lookup_values {s₁ s₂ : Lowering} (h : Alike c₁ c₂ s₁ s₂) (reg : Register) :
    (s₁.values.lookup reg).isSome = (s₂.values.lookup reg).isSome :=
  isSome_lookup_of_keys h.values reg

section

variable {α β : Type}

/-- The outcomes of two steps agree: both fail with one error, or both succeed with results
related by `R` and alike states. -/
def Agree (c₁ c₂ : Bool) (R : α → α → Prop) :
    Except ConvertError (α × Lowering) → Except ConvertError (α × Lowering) → Prop
  | .ok (a₁, t₁), .ok (a₂, t₂) => R a₁ a₂ ∧ Alike c₁ c₂ t₁ t₂
  | .error e₁, .error e₂ => e₁ = e₂
  | _, _ => False

/-- Two steps run in lockstep: from alike states their outcomes agree. -/
def Lockstep (c₁ c₂ : Bool) (R : α → α → Prop) (x₁ x₂ : LowerM α) : Prop :=
  ∀ s₁ s₂, Alike c₁ c₂ s₁ s₂ → Agree c₁ c₂ R (x₁ s₁) (x₂ s₂)

/-- A step that only builds the module: it succeeds, and leaves all that lowering reads as it
was. -/
def Inert (x : LowerM α) : Prop := ∀ s, ∃ a t, x s = .ok (a, t) ∧ view t = view s

variable {R : α → α → Prop} {S : β → β → Prop} {x x₁ x₂ : LowerM α} {f f₁ f₂ : α → LowerM β}

namespace Lockstep

theorem pure {a₁ a₂ : α} (h : R a₁ a₂) : Lockstep c₁ c₂ R (pure a₁) (pure a₂) :=
  fun _ _ hs => ⟨h, hs⟩

/-- Returning any two values runs in lockstep, when nothing is asked of them. -/
theorem pure_free (a₁ a₂ : α) :
    Lockstep c₁ c₂ (fun _ _ => True) (Pure.pure a₁) (Pure.pure a₂) :=
  Lockstep.pure trivial

theorem bind (hx : Lockstep c₁ c₂ R x₁ x₂) (hf : ∀ a₁ a₂, R a₁ a₂ → Lockstep c₁ c₂ S (f₁ a₁) (f₂ a₂)) :
    Lockstep c₁ c₂ S (x₁ >>= f₁) (x₂ >>= f₂) := by
  intro s₁ s₂ hs
  have hagree := hx s₁ s₂ hs
  show Agree c₁ c₂ S (StateT.bind x₁ f₁ s₁) (StateT.bind x₂ f₂ s₂)
  simp only [StateT.bind]
  cases h₁ : x₁ s₁ with
  | error e₁ =>
    cases h₂ : x₂ s₂ with
    | error e₂ =>
      rw [h₁, h₂] at hagree
      exact hagree
    | ok r₂ =>
      rw [h₁, h₂] at hagree
      exact hagree.elim
  | ok r₁ =>
    cases h₂ : x₂ s₂ with
    | error e₂ =>
      rw [h₁, h₂] at hagree
      exact hagree.elim
    | ok r₂ =>
      rw [h₁, h₂] at hagree
      exact hf r₁.1 r₂.1 hagree.1 r₁.2 r₂.2 hagree.2

theorem fail (e : ConvertError) : Lockstep c₁ c₂ R (fail e) (fail e) :=
  fun _ _ _ => rfl

theorem get : Lockstep c₁ c₂ (Alike c₁ c₂) get get :=
  fun _ _ hs => ⟨hs, hs⟩

theorem modify {g₁ g₂ : Lowering → Lowering}
    (hg : ∀ s₁ s₂, Alike c₁ c₂ s₁ s₂ → Alike c₁ c₂ (g₁ s₁) (g₂ s₂)) :
    Lockstep c₁ c₂ (fun _ _ => True) (modify g₁) (modify g₂) :=
  fun s₁ s₂ hs => ⟨trivial, hg s₁ s₂ hs⟩

theorem mono {R' : α → α → Prop} (h : Lockstep c₁ c₂ R x₁ x₂) (hR : ∀ a₁ a₂, R a₁ a₂ → R' a₁ a₂) :
    Lockstep c₁ c₂ R' x₁ x₂ := by
  intro s₁ s₂ hs
  have hagree := h s₁ s₂ hs
  cases h₁ : x₁ s₁ <;> cases h₂ : x₂ s₂ <;> rw [h₁, h₂] at hagree
  case error.error => exact hagree
  case ok.ok r₁ r₂ => exact ⟨hR _ _ hagree.1, hagree.2⟩
  all_goals exact hagree.elim

theorem fail_bind (e : ConvertError) (g₁ g₂ : α → LowerM β) :
    Lockstep c₁ c₂ S (Lowering.fail e >>= g₁) (Lowering.fail e >>= g₂) :=
  fun _ _ _ => rfl

/-- Two steps that only build the module run in lockstep, whatever they return. -/
theorem of_inert (h₁ : Inert x₁) (h₂ : Inert x₂) : Lockstep c₁ c₂ (fun _ _ => True) x₁ x₂ := by
  intro s₁ s₂ hs
  obtain ⟨a₁, t₁, hrun₁, hview₁⟩ := h₁ s₁
  obtain ⟨a₂, t₂, hrun₂, hview₂⟩ := h₂ s₂
  rw [hrun₁, hrun₂]
  exact ⟨trivial, hs.of_view hview₁ hview₂⟩

/-- A step that only builds the module, then steps in lockstep, run in lockstep. -/
theorem inert_bind (h₁ : Inert x₁) (h₂ : Inert x₂) (hf : ∀ a₁ a₂, Lockstep c₁ c₂ S (f₁ a₁) (f₂ a₂)) :
    Lockstep c₁ c₂ S (x₁ >>= f₁) (x₂ >>= f₂) :=
  bind (of_inert h₁ h₂) fun a₁ a₂ _ => hf a₁ a₂

/-- A module building step, then steps in lockstep, run in lockstep. -/
theorem build_bind (step₁ step₂ : Spirv.BuildM α) (hf : ∀ a₁ a₂, Lockstep c₁ c₂ S (f₁ a₁) (f₂ a₂)) :
    Lockstep c₁ c₂ S (build step₁ >>= f₁) (build step₂ >>= f₂) := by
  refine bind (R := fun _ _ => True) ?_ fun a₁ a₂ _ => hf a₁ a₂
  intro s₁ s₂ hs
  exact ⟨trivial, hs.withBuilder _ _⟩

/-- Loops over one list whose bodies run in lockstep, yielding alike, run in lockstep. -/
theorem forIn {γ : Type} (xs : List β) (init : γ) {g₁ g₂ : β → γ → LowerM (ForInStep γ)}
    (h : ∀ a b, Lockstep c₁ c₂ Eq (g₁ a b) (g₂ a b)) :
    Lockstep c₁ c₂ Eq (ForIn.forIn xs init g₁) (ForIn.forIn xs init g₂) := by
  induction xs generalizing init with
  | nil => exact Lockstep.pure rfl
  | cons a as ih =>
    simp only [List.forIn_cons]
    refine bind (h a init) fun r₁ r₂ hr => ?_
    subst hr
    cases r₁ with
    | done b => exact Lockstep.pure rfl
    | yield b => exact ih b

/-- Lowering the elements of one list in turn, each in lockstep, runs in lockstep. -/
theorem forM (xs : List β) {g₁ g₂ : β → LowerM PUnit}
    (h : ∀ a, Lockstep c₁ c₂ (fun _ _ => True) (g₁ a) (g₂ a)) :
    Lockstep c₁ c₂ (fun _ _ => True) (xs.forM g₁) (xs.forM g₂) := by
  induction xs with
  | nil => exact Lockstep.pure trivial
  | cons a as ih =>
    simp only [List.forM_eq_forM, List.forM_cons] at ih ⊢
    exact bind (h a) fun _ _ _ => ih

/-- Folding steps that run in lockstep, whatever the accumulators, over one list runs in
lockstep. -/
theorem foldlM {γ : Type} (xs : List β) {g₁ g₂ : γ → β → LowerM γ}
    (h : ∀ acc₁ acc₂ a, Lockstep c₁ c₂ (fun _ _ => True) (g₁ acc₁ a) (g₂ acc₂ a)) (init₁ init₂ : γ) :
    Lockstep c₁ c₂ (fun _ _ => True) (xs.foldlM g₁ init₁) (xs.foldlM g₂ init₂) := by
  induction xs generalizing init₁ init₂ with
  | nil => exact Lockstep.pure trivial
  | cons a as ih =>
    simp only [List.foldlM_cons]
    exact bind (h init₁ init₂ a) fun acc₁ acc₂ _ => ih acc₁ acc₂

end Lockstep

namespace Inert

theorem pure (a : α) : Inert (Pure.pure a : LowerM α) := fun s => ⟨a, s, rfl, rfl⟩

theorem bind (hx : Inert x) (hf : ∀ a, Inert (f a)) : Inert (x >>= f) := by
  intro s
  obtain ⟨a, t, hrun, hview⟩ := hx s
  obtain ⟨b, u, hrun', hview'⟩ := hf a t
  refine ⟨b, u, ?_, hview'.trans hview⟩
  show StateT.bind x f s = _
  simp only [StateT.bind, hrun]
  exact hrun'

theorem build (step : Spirv.BuildM α) : Inert (build step) := fun _ => ⟨_, _, rfl, rfl⟩

theorem get : Inert (MonadState.get : LowerM Lowering) := fun s => ⟨s, s, rfl, rfl⟩

theorem modify {g : Lowering → Lowering} (hg : ∀ s, view (g s) = view s) : Inert (modify g) :=
  fun s => ⟨(), g s, rfl, hg s⟩

theorem forIn {γ : Type} (xs : List β) (init : γ) {g : β → γ → LowerM (ForInStep γ)}
    (h : ∀ a b, Inert (g a b)) : Inert (ForIn.forIn xs init g) := by
  induction xs generalizing init with
  | nil => exact pure init
  | cons a as ih =>
    simp only [List.forIn_cons]
    refine bind (h a init) fun r => ?_
    cases r with
    | done b => exact pure b
    | yield b => exact ih b

theorem mapM (xs : List β) {g : β → LowerM α} (h : ∀ a, Inert (g a)) : Inert (xs.mapM g) := by
  induction xs with
  | nil => exact pure []
  | cons a as ih =>
    simp only [List.mapM_cons]
    exact bind (h a) fun b => bind ih fun bs => pure (b :: bs)

theorem ite {c : Prop} [Decidable c] {y : LowerM α} (hx : c → Inert x) (hy : ¬c → Inert y) :
    Inert (if c then x else y) := by
  split
  case isTrue h => exact hx h
  case isFalse h => exact hy h

end Inert

/-- A step that only builds the module and returns `a`. -/
def Yields (x : LowerM α) (a : α) : Prop := ∀ s, ∃ t, x s = .ok (a, t) ∧ view t = view s

namespace Yields

theorem pure (a : α) : Yields (Pure.pure a : LowerM α) a := fun s => ⟨s, rfl, rfl⟩

theorem bind {b : β} (hx : Inert x) (hf : ∀ a, Yields (f a) b) : Yields (x >>= f) b := by
  intro s
  obtain ⟨a, t, hrun, hview⟩ := hx s
  obtain ⟨u, hrun', hview'⟩ := hf a t
  refine ⟨u, ?_, hview'.trans hview⟩
  show StateT.bind x f s = _
  simp only [StateT.bind, hrun]
  exact hrun'

theorem ite {c : Prop} [Decidable c] {y : LowerM α} {a : α} (hx : c → Yields x a)
    (hy : ¬c → Yields y a) : Yields (if c then x else y) a := by
  split
  case isTrue h => exact hx h
  case isFalse h => exact hy h

end Yields

/-- Two steps that only build the module and return one value run in lockstep, even where
they branch on what alike states need not share. -/
theorem Lockstep.of_yields (a : α) (h₁ : Yields x₁ a) (h₂ : Yields x₂ a) :
    Lockstep c₁ c₂ Eq x₁ x₂ := by
  intro s₁ s₂ hs
  obtain ⟨t₁, hrun₁, hview₁⟩ := h₁ s₁
  obtain ⟨t₂, hrun₂, hview₂⟩ := h₂ s₂
  rw [hrun₁, hrun₂]
  exact ⟨rfl, hs.of_view hview₁ hview₂⟩

/-- Steps that first name a value run in lockstep when they do with the values named. -/
theorem Lockstep.have_ {γ : Type} (v₁ v₂ : γ) {g₁ g₂ : γ → LowerM α}
    (h : Lockstep c₁ c₂ R (g₁ v₁) (g₂ v₂)) :
    Lockstep c₁ c₂ R (have v := v₁; g₁ v) (have v := v₂; g₂ v) :=
  h

/-- Branches on conditions that hold together run in lockstep when their branches do. -/
theorem Lockstep.ite_iff {c c' : Prop} [Decidable c] [Decidable c'] {y₁ y₂ : LowerM α}
    (hc : c ↔ c') (hx : c → c' → Lockstep c₁ c₂ R x₁ x₂) (hy : ¬c → ¬c' → Lockstep c₁ c₂ R y₁ y₂) :
    Lockstep c₁ c₂ R (if c then x₁ else y₁) (if c' then x₂ else y₂) := by
  by_cases h : c
  case pos => rw [if_pos h, if_pos (hc.1 h)]; exact hx h (hc.1 h)
  case neg => rw [if_neg h, if_neg (mt hc.2 h)]; exact hy h (mt hc.2 h)

theorem Lockstep.ite {c : Prop} [Decidable c] {y₁ y₂ : LowerM α} (hx : c → Lockstep c₁ c₂ R x₁ x₂)
    (hy : ¬c → Lockstep c₁ c₂ R y₁ y₂) :
    Lockstep c₁ c₂ R (if c then x₁ else y₁) (if c then x₂ else y₂) := by
  split
  case isTrue h => exact hx h
  case isFalse h => exact hy h

/-- Steps that share a continuation, a join point, run in lockstep when the continuations do
for any arguments, and the steps do for any continuations that do. The continuation stays
abstract, so the branches that call it are proved once each. -/
theorem Lockstep.join {γ : Type} {k₁ k₂ : γ → LowerM α} {b₁ b₂ : (γ → LowerM α) → LowerM α}
    (hk : ∀ v₁ v₂, Lockstep c₁ c₂ R (k₁ v₁) (k₂ v₂))
    (hb : ∀ j₁ j₂ : γ → LowerM α, (∀ v₁ v₂, Lockstep c₁ c₂ R (j₁ v₁) (j₂ v₂)) →
      Lockstep c₁ c₂ R (b₁ j₁) (b₂ j₂)) :
    Lockstep c₁ c₂ R (have j := k₁; b₁ j) (have j := k₂; b₂ j) :=
  hb k₁ k₂ hk

end

/-! ### Steps that only build the module -/

section Inert

variable {α : Type}

theorem alloc_inert : Inert alloc := Inert.build _

theorem emit_inert (i : Spirv.Instruction) : Inert (emit i) := Inert.build _

theorem typeId_inert (d : Spirv.TypeDesc) : Inert (typeId d) := Inert.build _

theorem floatType_inert (width : Nat) : Inert (floatType width) := Inert.build _

theorem float32_inert (bits : Nat) : Inert (float32 bits) := Inert.build _

theorem int32_inert (bits : Nat) : Inert (int32 bits) := Inert.build _

theorem compute_inert (op : Spirv.Op) (ty : Nat) (operands : List Nat) :
    Inert (compute op ty operands) :=
  Inert.bind alloc_inert fun id => Inert.bind (emit_inert _) fun _ => Inert.pure id

theorem glslCall_inert (op : Spirv.GlslOp) (ty : Nat) (args : List Nat) :
    Inert (glslCall op ty args) :=
  Inert.bind Inert.get fun _ => compute_inert _ _ _

theorem extract_inert (ty composite index : Nat) : Inert (extract ty composite index) :=
  compute_inert _ _ _

theorem shuffle_inert (ty a b : Nat) (components : List Nat) : Inert (shuffle ty a b components) :=
  compute_inert _ _ _

theorem splat_inert (scalar : Nat) : Inert (splat scalar) :=
  Inert.bind (floatType_inert 4) fun _ => compute_inert _ _ _

theorem truncate_inert (value width : Nat) : Inert (truncate value width) := by
  unfold truncate
  refine Inert.ite (fun _ => Inert.pure value) fun _ => Inert.ite (fun _ => ?_) fun _ => ?_
  · exact Inert.bind (floatType_inert 1) fun _ => extract_inert _ _ _
  · exact Inert.bind (floatType_inert width) fun _ => shuffle_inert _ _ _ _

theorem unpackColor_inert (packed : Nat) : Inert (unpackColor packed) :=
  Inert.bind (floatType_inert 4) fun _ => Inert.bind (compute_inert _ _ _) fun _ =>
    Inert.bind (float32_inert _) fun _ => Inert.bind (compute_inert _ _ _) fun _ =>
      shuffle_inert _ _ _ _

theorem compareSelect_inert (op : Spirv.Op) (a b : Nat) : Inert (compareSelect op a b) :=
  Inert.bind (typeId_inert _) fun _ => Inert.bind (compute_inert _ _ _) fun _ =>
    Inert.bind (floatType_inert 4) fun _ => Inert.bind (Inert.build _) fun _ =>
      Inert.bind (Inert.build _) fun _ => compute_inert _ _ _

theorem sample_inert (op : Spirv.Op) (image coordinates : Nat) (operands : List Nat) :
    Inert (sample op image coordinates operands) :=
  Inert.bind (floatType_inert 4) fun _ => compute_inert _ _ _

theorem flipY_inert (position : Nat) : Inert (flipY position) :=
  Inert.bind (floatType_inert 1) fun _ => Inert.bind (extract_inert _ _ _) fun _ =>
    Inert.bind (compute_inert _ _ _) fun _ => Inert.bind (floatType_inert 4) fun _ =>
      compute_inert _ _ _

/-- Creating an interface variable builds the module and lists the variable only. -/
theorem interfaceVariable_inert (reg : Register) (ty : Spirv.TypeDesc) (slot : InterfaceSlot) :
    Inert (interfaceVariable reg ty slot) :=
  Inert.bind (Inert.build _) fun _ => Inert.bind alloc_inert fun id =>
    Inert.bind (Inert.build _) fun _ => Inert.bind (Inert.build _) fun _ =>
      Inert.bind (Inert.build _) fun _ => Inert.bind (Inert.modify fun _ => rfl) fun _ =>
        Inert.pure id

end Inert

/-! ### Steps that read or record what lowering decides by -/

section Steps

theorem valueOf?_lockstep (reg : Register) :
    Lockstep c₁ c₂ (fun o₁ o₂ => o₁.isSome = o₂.isSome) (valueOf? reg) (valueOf? reg) :=
  fun _ _ hs => ⟨hs.isSome_lookup_values reg, hs⟩

theorem stageMask_lockstep : Lockstep c₁ c₂ Eq stageMask stageMask :=
  fun _ _ hs => ⟨hs.version ▸ rfl, hs⟩

theorem floatSlot_lockstep : Lockstep c₁ c₂ Eq floatSlot floatSlot :=
  fun _ _ hs => ⟨hs.registry ▸ hs.version ▸ rfl, hs⟩

/-- Binding a register to a value gives it a value on both sides, whatever the value. -/
theorem bindValue_lockstep (reg : Register) (id₁ id₂ : Nat) :
    Lockstep c₁ c₂ (fun _ _ => True) (bindValue reg id₁) (bindValue reg id₂) := by
  refine Lockstep.modify fun s₁ s₂ hs => { hs with values := ?_ }
  simp only [List.map_cons, keys_filter, hs.values]

theorem checkFloatConstant_lockstep (reg : Register) :
    Lockstep c₁ c₂ Eq (checkFloatConstant reg) (checkFloatConstant reg) := by
  unfold checkFloatConstant
  refine Lockstep.bind floatSlot_lockstep fun slot₁ slot₂ hslot => ?_
  subst hslot
  dsimp only
  exact Lockstep.ite (fun _ => Lockstep.fail_bind _ _ _) fun _ => Lockstep.pure rfl

/-- Alike states have variables for the same input registers. -/
theorem Alike.isSome_lookup_inputs {s₁ s₂ : Lowering} (h : Alike c₁ c₂ s₁ s₂) (reg : Register) :
    (s₁.inputs.lookup reg).isSome = (s₂.inputs.lookup reg).isSome :=
  isSome_lookup_of_keys h.inputs reg

/-- Alike states have variables for the same output registers. -/
theorem Alike.isSome_lookup_outputs {s₁ s₂ : Lowering} (h : Alike c₁ c₂ s₁ s₂) (reg : Register) :
    (s₁.outputs.lookup reg).isSome = (s₂.outputs.lookup reg).isSome :=
  isSome_lookup_of_keys h.outputs reg

/-- Alike states have the same number of vertex input attributes. -/
theorem Alike.size_vertexInputs {s₁ s₂ : Lowering} (h : Alike c₁ c₂ s₁ s₂) :
    s₁.vertexInputs.size = s₂.vertexInputs.size := by
  obtain ⟨declared, hl₁, -, hl₂, -⟩ := h.layout
  rw [← Array.length_toList, ← Array.length_toList, hl₁, hl₂, Usage.length_vertexLayout c₁ c₂]

/-- Creating the variable of an output register records the register on both sides. -/
theorem createOutput_lockstep (reg : Register) (ty₁ ty₂ : Spirv.TypeDesc) (slot : InterfaceSlot)
    (usage : Option Usage) :
    Lockstep c₁ c₂ (fun _ _ => True) (createOutput reg ty₁ slot usage)
      (createOutput reg ty₂ slot usage) := by
  unfold createOutput
  refine Lockstep.inert_bind (interfaceVariable_inert _ _ _) (interfaceVariable_inert _ _ _)
    fun id₁ id₂ => Lockstep.modify fun s₁ s₂ hs => { hs with outputs := ?_ }
  simp only [List.map_cons, hs.outputs]

/-- Declaring a vertex input declares it on both sides, its attribute in the format the
packing of colours gives on each. -/
theorem declareVertexInput_lockstep (reg : Register) (usage : Usage) :
    Lockstep c₁ c₂ (fun _ _ => True) (declareVertexInput reg usage)
      (declareVertexInput reg usage) := by
  unfold declareVertexInput
  refine Lockstep.bind Lockstep.get fun t₁ t₂ ht => ?_
  dsimp only
  rw [ht.packed₁, ht.packed₂]
  refine Lockstep.ite_iff (by rw [ht.isSome_lookup_inputs]) (fun _ _ => Lockstep.pure_free () ())
    fun _ _ => ?_
  refine Lockstep.ite_iff (by rw [ht.size_vertexInputs]) (fun _ _ => Lockstep.fail_bind _ _ _)
    fun _ _ => ?_
  have hsome := Usage.isSome_vertexFormat usage c₁ c₂
  cases hf₁ : usage.vertexFormat c₁ <;> cases hf₂ : usage.vertexFormat c₂ <;>
    simp only [hf₁, hf₂, Option.isSome, Bool.false_eq_true, Bool.true_eq_false] at hsome
  case none.none => exact Lockstep.fail _
  case some.some f₁ f₂ =>
    refine Lockstep.inert_bind (interfaceVariable_inert _ _ _) (interfaceVariable_inert _ _ _)
      fun id₁ id₂ => Lockstep.modify fun s₁ s₂ hs => ?_
    obtain ⟨declared, hl₁, hs₁, hl₂, hs₂⟩ := hs.layout
    -- the new input is the last declared one on both sides
    refine { hs with
      inputs := by simp only [List.map_cons, hs.inputs]
      layout := ⟨declared ++ [(reg.index, usage)], ?_, ?_, ?_, ?_⟩ }
    · rw [Array.toList_push, hl₁, hs₁, Usage.vertexLayout_append _ _ _ _ _ hf₁]
    · rw [hs₁, Usage.vertexStride_append _ _ _ _ _ hf₁]
    · rw [Array.toList_push, hl₂, hs₂, Usage.vertexLayout_append _ _ _ _ _ hf₂]
    · rw [hs₂, Usage.vertexStride_append _ _ _ _ _ hf₂]

theorem declarePixelInput_lockstep (reg : Register) (usage : Usage) (index : Nat) :
    Lockstep c₁ c₂ (fun _ _ => True) (declarePixelInput reg usage index)
      (declarePixelInput reg usage index) := by
  unfold declarePixelInput
  refine Lockstep.bind Lockstep.get fun t₁ t₂ ht => ?_
  refine Lockstep.ite_iff (by rw [ht.isSome_lookup_inputs]) (fun _ _ => Lockstep.pure_free () ())
    fun _ _ => ?_
  cases usage.varyingLocation index with
  | none => exact Lockstep.fail _
  | some location =>
    refine Lockstep.inert_bind (interfaceVariable_inert _ _ _) (interfaceVariable_inert _ _ _)
      fun id₁ id₂ => Lockstep.modify fun s₁ s₂ hs => { hs with inputs := ?_ }
    simp only [List.map_cons, hs.inputs]

theorem declareOutput_lockstep (reg : Register) (usage : Usage) (index : Nat) :
    Lockstep c₁ c₂ (fun _ _ => True) (declareOutput reg usage index)
      (declareOutput reg usage index) := by
  unfold declareOutput
  refine Lockstep.bind Lockstep.get fun t₁ t₂ ht => ?_
  dsimp only
  refine Lockstep.ite_iff (by rw [ht.isSome_lookup_outputs]) (fun _ _ => Lockstep.pure_free () ())
    fun _ _ => ?_
  -- the slot is chosen by the declaration alone
  split <;> simp only [pure_bind]
  case h_3 =>
    split
    case h_1 => exact createOutput_lockstep _ _ _ _ _
    case h_2 => exact Lockstep.fail_bind _ _ _
  all_goals exact createOutput_lockstep _ _ _ _ _

theorem ensureOutput_lockstep (reg : Register) :
    Lockstep c₁ c₂ (fun _ _ => True) (ensureOutput reg) (ensureOutput reg) := by
  unfold ensureOutput
  refine Lockstep.bind Lockstep.get fun t₁ t₂ ht => ?_
  refine Lockstep.ite_iff (by rw [ht.isSome_lookup_outputs]) (fun _ _ => Lockstep.pure_free () ())
    fun _ _ => ?_
  -- the slot is chosen by the register alone
  split <;> simp only [pure_bind]
  case h_6 =>
    split
    case h_1 => exact createOutput_lockstep _ _ _ _ _
    case h_2 => exact Lockstep.fail_bind _ _ _
  case h_7 =>
    exact Lockstep.bind (Lockstep.modify fun _ _ hs => { hs with writesDepth := rfl }) fun _ _ _ =>
      createOutput_lockstep _ _ _ _ _
  case h_8 | h_9 => exact Lockstep.fail_bind _ _ _
  all_goals exact createOutput_lockstep _ _ _ _ _

/-- Alike states have declared the same samplers. -/
theorem Alike.isSome_lookup_samplers {s₁ s₂ : Lowering} (h : Alike c₁ c₂ s₁ s₂) (index : Nat) :
    (s₁.samplers.lookup index).isSome = (s₂.samplers.lookup index).isSome := by
  have hkeys := congrArg (List.map Prod.fst) h.samplers
  simp only [List.map_map, Function.comp_def] at hkeys
  exact isSome_lookup_of_keys hkeys index

/-- Declaring a sampler declares it on both sides, with its type and its descriptors. -/
theorem declareSampler_lockstep (index : Nat) (type : TextureType) :
    Lockstep c₁ c₂ (fun _ _ => True) (declareSampler index type) (declareSampler index type) := by
  unfold declareSampler
  split
  case h_1 => exact Lockstep.fail_bind _ _ _
  refine Lockstep.have_ _ _ (Lockstep.have_ _ _ ?_)
  refine Lockstep.bind Lockstep.get fun t₁ t₂ ht => ?_
  refine Lockstep.ite_iff (by rw [ht.isSome_lookup_samplers]) (fun _ _ => Lockstep.pure_free () ())
    fun _ _ => ?_
  refine Lockstep.have_ _ _ ?_
  -- the pointer types, the two ids and the loop declaring the variables only build the module
  refine Lockstep.build_bind _ _ ?_
  intro _ _
  refine Lockstep.build_bind _ _ ?_
  intro _ _
  unfold alloc
  refine Lockstep.build_bind _ _ ?_
  intro image₁ image₂
  refine Lockstep.build_bind _ _ ?_
  intro sampler₁ sampler₂
  refine Lockstep.inert_bind ?_ ?_ ?_
  case refine_1 | refine_2 =>
    apply Inert.forIn
    rintro ⟨id, pointer, binding, name⟩ _
    exact Inert.bind (Inert.build _) fun _ => Inert.bind (Inert.build _) fun _ =>
      Inert.bind (Inert.build _) fun _ => Inert.bind (Inert.build _) fun _ => Inert.pure _
  intro _ _
  refine Lockstep.bind stageMask_lockstep ?_
  intro stages₁ stages₂ hstages
  subst hstages
  refine Lockstep.modify fun s₁ s₂ hs => { hs with samplers := ?_, descriptors := ?_ }
  · simp only [List.map_cons, hs.samplers]
  · rw [hs.descriptors, ht.registry, ht.version]

/-- Declaring a register declares it on both sides: sampler, vertex input, output or pixel
input as the file and stage say. -/
theorem declare_lockstep (decl : Declaration) (dst : Destination) :
    Lockstep c₁ c₂ (fun _ _ => True) (declare decl dst) (declare decl dst) := by
  unfold declare
  refine Lockstep.bind Lockstep.get fun t₁ t₂ ht => ?_
  dsimp only
  rw [ht.version]
  split
  case h_1 => exact declareSampler_lockstep _ _
  case h_2 => exact declareVertexInput_lockstep _ _
  case h_3 => exact declareOutput_lockstep _ _ _
  case h_4 =>
    exact Lockstep.ite (fun _ => declarePixelInput_lockstep _ _ _)
      fun _ => declarePixelInput_lockstep _ _ _
  case h_5 => exact declarePixelInput_lockstep _ _ _
  case h_6 => exact Lockstep.fail _

/-- The check of an immediate definition fails on both sides alike: the register count it
checks against comes from the registry. -/
theorem checkDefinition_lockstep (reg : Register) (expected : RegisterFile) (file : ConstantFile) :
    Lockstep c₁ c₂ (fun _ _ => True) (checkDefinition reg expected file)
      (checkDefinition reg expected file) := by
  unfold checkDefinition
  dsimp only
  refine Lockstep.ite (fun _ => Lockstep.fail_bind _ _ _) fun _ => ?_
  refine Lockstep.bind Lockstep.get fun t₁ t₂ ht => ?_
  rw [ht.registry, ht.version]
  exact Lockstep.ite (fun _ => Lockstep.fail _) fun _ => Lockstep.pure_free () ()

/-- Binding a defined constant records the definition on both sides. -/
theorem bindDefined_lockstep (reg : Register) (id₁ id₂ : Nat) :
    Lockstep c₁ c₂ (fun _ _ => True) (bindDefined reg id₁) (bindDefined reg id₂) := by
  unfold bindDefined
  refine Lockstep.bind (Lockstep.modify fun s₁ s₂ hs => ?_) fun _ _ _ => bindValue_lockstep _ _ _
  have hcontains : s₁.defined.contains reg = s₂.defined.contains reg := by rw [hs.defined]
  by_cases h : s₂.defined.contains reg
  case pos =>
    rw [if_pos (hcontains.trans h), if_pos h]
    exact hs
  case neg =>
    rw [if_neg (hcontains ▸ h), if_neg h]
    exact { hs with defined := by rw [hs.defined] }

theorem define_lockstep (dst : Destination) (values : List UInt32) :
    Lockstep c₁ c₂ (fun _ _ => True) (define dst values) (define dst values) := by
  unfold define
  refine Lockstep.bind (checkDefinition_lockstep _ _ _) fun _ _ _ => ?_
  exact Lockstep.build_bind _ _ fun _ _ => bindDefined_lockstep _ _ _

theorem defineInt_lockstep (dst : Destination) (values : List UInt32) :
    Lockstep c₁ c₂ (fun _ _ => True) (defineInt dst values) (defineInt dst values) := by
  unfold defineInt
  refine Lockstep.inert_bind (Inert.mapM _ fun _ => int32_inert _)
    (Inert.mapM _ fun _ => int32_inert _) fun _ _ => ?_
  refine Lockstep.bind (checkDefinition_lockstep _ _ _) fun _ _ _ => ?_
  exact Lockstep.build_bind _ _ fun _ _ => bindDefined_lockstep _ _ _

theorem defineBool_lockstep (dst : Destination) (value : UInt32) :
    Lockstep c₁ c₂ (fun _ _ => True) (defineBool dst value) (defineBool dst value) := by
  unfold defineBool
  refine Lockstep.bind (checkDefinition_lockstep _ _ _) fun _ _ _ => ?_
  exact Lockstep.build_bind _ _ fun _ _ => bindDefined_lockstep _ _ _

theorem loadInput_lockstep (reg : Register) :
    Lockstep c₁ c₂ (fun _ _ => True) (loadInput reg) (loadInput reg) := by
  unfold loadInput
  refine Lockstep.bind Lockstep.get fun t₁ t₂ ht => ?_
  have hsome := ht.isSome_lookup_inputs reg
  cases h₁ : t₁.inputs.lookup reg <;> cases h₂ : t₂.inputs.lookup reg
  case none.none => exact Lockstep.fail _
  case some.some var₁ var₂ =>
    -- the variables' types may differ, by the packing of colours; loading only builds
    exact Lockstep.of_inert
      (Inert.bind (typeId_inert _) fun _ => Inert.bind (compute_inert _ _ _) fun _ =>
        Inert.ite (fun _ => unpackColor_inert _) fun _ => Inert.pure _)
      (Inert.bind (typeId_inert _) fun _ => Inert.bind (compute_inert _ _ _) fun _ =>
        Inert.ite (fun _ => unpackColor_inert _) fun _ => Inert.pure _)
  all_goals simp [h₁, h₂] at hsome

theorem constantBlock_lockstep :
    Lockstep c₁ c₂ (fun _ _ => True) constantBlock constantBlock := by
  unfold constantBlock
  refine Lockstep.bind Lockstep.get ?_
  intro t₁ t₂ ht
  have hblock := ht.floatBlock
  cases h₁ : t₁.floatBlock <;> cases h₂ : t₂.floatBlock
  case some.some => exact Lockstep.pure_free _ _
  case none.none =>
    refine Lockstep.bind floatSlot_lockstep ?_
    intro slot₁ slot₂ hslot
    subst hslot
    unfold typeId alloc
    dsimp only
    -- the types, the variable and its decorations and names only build the module
    repeat (refine Lockstep.build_bind _ _ ?_; intro _ _)
    refine Lockstep.bind stageMask_lockstep ?_
    intro stages₁ stages₂ hstages
    subst hstages
    refine Lockstep.bind (Lockstep.modify fun s₁ s₂ hs =>
      { hs with descriptors := by rw [hs.descriptors], floatBlock := rfl }) ?_
    intro _ _ _
    exact Lockstep.pure_free _ _
  all_goals simp [h₁, h₂] at hblock

theorem blockElement_lockstep (index₁ index₂ : Nat) :
    Lockstep c₁ c₂ (fun _ _ => True) (blockElement index₁) (blockElement index₂) := by
  unfold blockElement
  refine Lockstep.bind constantBlock_lockstep ?_
  intro _ _ _
  exact Lockstep.of_inert
    (Inert.bind (Inert.build _) fun _ => Inert.bind (int32_inert _) fun _ =>
      Inert.bind (compute_inert _ _ _) fun _ => Inert.bind (typeId_inert _) fun _ =>
        compute_inert _ _ _)
    (Inert.bind (Inert.build _) fun _ => Inert.bind (int32_inert _) fun _ =>
      Inert.bind (compute_inert _ _ _) fun _ => Inert.bind (typeId_inert _) fun _ =>
        compute_inert _ _ _)

theorem loadConstant_lockstep (reg : Register) :
    Lockstep c₁ c₂ (fun _ _ => True) (loadConstant reg) (loadConstant reg) := by
  unfold loadConstant
  refine Lockstep.bind (checkFloatConstant_lockstep reg) ?_
  intro slot₁ slot₂ hslot
  subst hslot
  refine Lockstep.inert_bind (int32_inert _) (int32_inert _) ?_
  intro _ _
  exact blockElement_lockstep _ _

/-- Reading a register reads it on both sides: from its value, or by creating one the same way,
failing alike. -/
theorem read_lockstep (reg : Register) :
    Lockstep c₁ c₂ (fun _ _ => True) (read reg) (read reg) := by
  unfold read
  refine Lockstep.bind (valueOf?_lockstep reg) ?_
  intro o₁ o₂ ho
  -- the new value is bound to the register and returned
  have bound : ∀ id₁ id₂ : Nat, True → Lockstep c₁ c₂ (fun _ _ => True)
      (bindValue reg id₁ >>= fun _ => Pure.pure id₁) (bindValue reg id₂ >>= fun _ => Pure.pure id₂) :=
    fun id₁ id₂ _ => Lockstep.bind (bindValue_lockstep reg id₁ id₂) fun _ _ _ =>
      Lockstep.pure_free id₁ id₂
  cases o₁ <;> cases o₂
  case some.some => exact Lockstep.pure_free _ _
  case none.none =>
    dsimp only
    split
    case h_1 => exact Lockstep.bind (Lockstep.of_inert (Inert.build _) (Inert.build _)) bound
    case h_2 | h_3 => exact Lockstep.bind (loadInput_lockstep reg) bound
    case h_4 => exact Lockstep.bind (loadConstant_lockstep reg) bound
    case h_5 | h_6 | h_7 => exact Lockstep.fail_bind _ _ _
    case h_8 =>
      exact Lockstep.ite (fun _ => Lockstep.bind (Lockstep.of_inert (Inert.build _) (Inert.build _))
        bound) fun _ => Lockstep.fail_bind _ _ _
  all_goals simp at ho

theorem selectDefined_lockstep (index₁ index₂ boolType₁ boolType₂ bvec₁ bvec₂ vec₁ vec₂
    value₁ value₂ : Nat) (reg : Register) :
    Lockstep c₁ c₂ (fun _ _ => True) (selectDefined index₁ boolType₁ bvec₁ vec₁ value₁ reg)
      (selectDefined index₂ boolType₂ bvec₂ vec₂ value₂ reg) := by
  unfold selectDefined
  refine Lockstep.bind (valueOf?_lockstep reg) ?_
  intro o₁ o₂ ho
  cases o₁ <;> cases o₂
  case none.none => exact Lockstep.pure_free _ _
  case some.some =>
    exact Lockstep.of_inert
      (Inert.bind (int32_inert _) fun _ => Inert.bind (compute_inert _ _ _) fun _ =>
        Inert.bind (compute_inert _ _ _) fun _ => compute_inert _ _ _)
      (Inert.bind (int32_inert _) fun _ => Inert.bind (compute_inert _ _ _) fun _ =>
        Inert.bind (compute_inert _ _ _) fun _ => compute_inert _ _ _)
  all_goals simp at ho

theorem addressed_lockstep (src : Source) :
    Lockstep c₁ c₂ (fun _ _ => True) (addressed src) (addressed src) := by
  unfold addressed
  cases src.relative
  case none => exact read_lockstep _
  case some relative =>
    refine Lockstep.have_ _ _ ?_
    refine Lockstep.ite (fun _ => Lockstep.fail_bind _ _ _) fun _ => ?_
    refine Lockstep.have_ _ _ ?_
    refine Lockstep.ite (fun _ => Lockstep.fail_bind _ _ _) fun _ => ?_
    refine Lockstep.bind (checkFloatConstant_lockstep _) ?_
    intro slot₁ slot₂ hslot
    subst hslot
    refine Lockstep.bind (valueOf?_lockstep _) ?_
    intro o₁ o₂ ho
    cases o₁ <;> cases o₂
    case none.none => exact Lockstep.fail _
    case some.some address₁ address₂ =>
      -- the address arithmetic only builds the module
      refine Lockstep.build_bind _ _ ?_
      intro _ _
      refine Lockstep.inert_bind (extract_inert _ _ _) (extract_inert _ _ _) ?_
      intro _ _
      refine Lockstep.inert_bind (int32_inert _) (int32_inert _) ?_
      intro _ _
      refine Lockstep.inert_bind (compute_inert _ _ _) (compute_inert _ _ _) ?_
      intro _ _
      refine Lockstep.inert_bind (int32_inert _) (int32_inert _) ?_
      intro _ _
      refine Lockstep.inert_bind (int32_inert _) (int32_inert _) ?_
      intro _ _
      refine Lockstep.inert_bind (glslCall_inert _ _ _) (glslCall_inert _ _ _) ?_
      intro index₁ index₂
      refine Lockstep.inert_bind (int32_inert _) (int32_inert _) ?_
      intro _ _
      refine Lockstep.inert_bind (compute_inert _ _ _) (compute_inert _ _ _) ?_
      intro element₁ element₂
      refine Lockstep.bind (blockElement_lockstep _ _) ?_
      intro value₁ value₂ _
      refine Lockstep.bind Lockstep.get ?_
      intro t₁ t₂ ht
      rw [ht.defined]
      refine Lockstep.ite (fun _ => Lockstep.pure_free _ _) fun _ => ?_
      refine Lockstep.inert_bind (typeId_inert _) (typeId_inert _) ?_
      intro bool₁ bool₂
      refine Lockstep.inert_bind (typeId_inert _) (typeId_inert _) ?_
      intro bvec₁ bvec₂
      refine Lockstep.inert_bind (floatType_inert _) (floatType_inert _) ?_
      intro vec₁ vec₂
      exact Lockstep.foldlM _ (fun acc₁ acc₂ reg => selectDefined_lockstep index₁ index₂ bool₁ bool₂
        bvec₁ bvec₂ vec₁ vec₂ acc₁ acc₂ reg) _ _
    all_goals simp at ho

theorem source_lockstep (src : Source) (width : Nat) :
    Lockstep c₁ c₂ (fun _ _ => True) (source src width) (source src width) := by
  unfold source
  extract_lets file modified swizzled
  -- the modifier applied to any two values
  have hmodified : ∀ v₁ v₂, Lockstep c₁ c₂ (fun _ _ => True) (modified v₁) (modified v₂) := by
    intro v₁ v₂
    simp only [modified]
    refine Lockstep.inert_bind (floatType_inert _) (floatType_inert _) ?_
    intro _ _
    split
    case h_1 => exact Lockstep.pure_free _ _
    case h_2 => exact Lockstep.of_inert (compute_inert _ _ _) (compute_inert _ _ _)
    case h_3 => exact Lockstep.of_inert (glslCall_inert _ _ _) (glslCall_inert _ _ _)
    case h_4 =>
      exact Lockstep.of_inert (Inert.bind (glslCall_inert _ _ _) fun _ => compute_inert _ _ _)
        (Inert.bind (glslCall_inert _ _ _) fun _ => compute_inert _ _ _)
    case h_5 => exact Lockstep.fail _
  -- the register read, then its components selected, which only builds the module
  have hswizzled : Lockstep c₁ c₂ (fun _ _ => True) (swizzled ()) (swizzled ()) := by
    simp only [swizzled]
    refine Lockstep.bind (addressed_lockstep src) ?_
    intro base₁ base₂ _
    refine Lockstep.bind Lockstep.get ?_
    intro t₁ t₂ _
    refine Lockstep.ite (fun _ => Lockstep.bind (Lockstep.pure_free _ _) fun _ _ _ => hmodified _ _)
      fun _ => Lockstep.ite (fun _ => ?_) fun _ => ?_
    · exact Lockstep.inert_bind (floatType_inert _) (floatType_inert _) fun _ _ =>
        Lockstep.bind (Lockstep.of_inert (extract_inert _ _ _) (extract_inert _ _ _)) fun _ _ _ =>
          hmodified _ _
    · exact Lockstep.inert_bind (floatType_inert _) (floatType_inert _) fun _ _ =>
        Lockstep.bind (Lockstep.of_inert (shuffle_inert _ _ _ _) (shuffle_inert _ _ _ _))
          fun _ _ _ => hmodified _ _
  exact Lockstep.ite (fun _ => hswizzled) fun _ => Lockstep.fail_bind _ _ _

theorem mergeMask_lockstep (reg : Register) (mask : WriteMask) (value₁ value₂ : Nat)
    (ty : Spirv.TypeDesc) :
    Lockstep c₁ c₂ (fun _ _ => True) (mergeMask reg mask value₁ ty) (mergeMask reg mask value₂ ty) := by
  unfold mergeMask
  refine Lockstep.ite (fun _ => Lockstep.pure_free _ _) fun _ => ?_
  refine Lockstep.bind (valueOf?_lockstep reg) ?_
  intro o₁ o₂ ho
  extract_lets components merged₁ merged₂
  -- the previous value merged with the new one, whatever the ids, only builds the module
  have hmerged : ∀ p₁ p₂, True → Lockstep c₁ c₂ (fun _ _ => True) (merged₁ p₁) (merged₂ p₂) :=
    fun _ _ _ => Lockstep.of_inert (Inert.bind (typeId_inert _) fun _ => shuffle_inert _ _ _ _)
      (Inert.bind (typeId_inert _) fun _ => shuffle_inert _ _ _ _)
  cases o₁ <;> cases o₂
  case some.some => exact Lockstep.bind (Lockstep.pure_free _ _) hmerged
  case none.none =>
    exact Lockstep.ite (fun _ => Lockstep.bind (Lockstep.of_inert (Inert.build _) (Inert.build _))
      hmerged) fun _ => Lockstep.bind (read_lockstep reg) hmerged
  all_goals simp at ho

theorem writeDestination_lockstep (dst : Destination) (value₁ value₂ width : Nat) :
    Lockstep c₁ c₂ (fun _ _ => True) (writeDestination dst value₁ width)
      (writeDestination dst value₂ width) := by
  unfold writeDestination
  extract_lets file stored computed₁ checked₁ computed₂ checked₂
  -- the result merged into the register and bound to it
  have hstored : ∀ v₁ v₂, True → Lockstep c₁ c₂ (fun _ _ => True) (stored v₁) (stored v₂) := by
    intro v₁ v₂ _
    simp only [stored]
    exact Lockstep.bind (mergeMask_lockstep _ _ _ _ _) fun _ _ _ => bindValue_lockstep _ _ _
  -- the result replicated, scaled and saturated, which only builds the module, then stored
  have hcomputed : ∀ r₁ r₂ : Unit, Lockstep c₁ c₂ (fun _ _ => True) (computed₁ r₁) (computed₂ r₂) := by
    intro _ _
    simp -zeta only [computed₁, computed₂]
    refine Lockstep.inert_bind (floatType_inert _) (floatType_inert _) ?_
    intro vec₁ vec₂
    extract_lets saturated₁ shifted₁ saturated₂ shifted₂
    have hsaturated : ∀ v₁ v₂, True →
        Lockstep c₁ c₂ (fun _ _ => True) (saturated₁ v₁) (saturated₂ v₂) := by
      intro _ _ _
      simp only [saturated₁, saturated₂]
      refine Lockstep.ite (fun _ => ?_) fun _ => ?_
      · refine Lockstep.build_bind _ _ ?_
        intro _ _
        refine Lockstep.build_bind _ _ ?_
        intro _ _
        refine Lockstep.bind (Lockstep.of_inert (glslCall_inert _ _ _) (glslCall_inert _ _ _)) ?_
        exact hstored
      · refine Lockstep.bind (Lockstep.pure_free _ _) ?_
        exact hstored
    have hshifted : ∀ v₁ v₂, True →
        Lockstep c₁ c₂ (fun _ _ => True) (shifted₁ v₁) (shifted₂ v₂) := by
      intro _ _ _
      simp -zeta only [shifted₁, shifted₂]
      split
      case h_1 => exact Lockstep.fail_bind _ _ _
      case h_2 =>
        split
        case h_1 =>
          refine Lockstep.bind (Lockstep.pure_free _ _) ?_
          exact hsaturated
        case h_2 =>
          refine Lockstep.inert_bind (float32_inert _) (float32_inert _) ?_
          intro _ _
          refine Lockstep.bind (Lockstep.of_inert (compute_inert _ _ _) (compute_inert _ _ _)) ?_
          exact hsaturated
    refine Lockstep.ite (fun _ => ?_) fun _ => ?_
    · refine Lockstep.bind (Lockstep.of_inert (splat_inert _) (splat_inert _)) ?_
      exact hshifted
    · refine Lockstep.bind (Lockstep.pure_free _ _) ?_
      exact hshifted
  have hchecked : Lockstep c₁ c₂ (fun _ _ => True) (checked₁ ()) (checked₂ ()) := by
    simp only [checked₁, checked₂]
    exact Lockstep.ite (fun _ => Lockstep.bind (ensureOutput_lockstep _) fun r₁ r₂ _ =>
      hcomputed r₁ r₂) fun _ => hcomputed () ()
  exact Lockstep.ite (fun _ => Lockstep.fail_bind _ _ _) fun _ => hchecked

theorem writeAddress_lockstep (dst : Destination) (value₁ value₂ : Nat) (round : Bool) :
    Lockstep c₁ c₂ (fun _ _ => True) (writeAddress dst value₁ round)
      (writeAddress dst value₂ round) := by
  unfold writeAddress
  -- rounding and converting only build the module
  refine Lockstep.inert_bind (floatType_inert _) (floatType_inert _) ?_
  intro _ _
  refine Lockstep.inert_bind (glslCall_inert _ _ _) (glslCall_inert _ _ _) ?_
  intro _ _
  refine Lockstep.inert_bind (typeId_inert _) (typeId_inert _) ?_
  intro _ _
  refine Lockstep.inert_bind (compute_inert _ _ _) (compute_inert _ _ _) ?_
  intro _ _
  refine Lockstep.bind (mergeMask_lockstep _ _ _ _ _) ?_
  intro _ _ _
  exact bindValue_lockstep _ _ _

theorem mov_lockstep (dst : Destination) (src : Source) :
    Lockstep c₁ c₂ (fun _ _ => True) (mov dst src) (mov dst src) := by
  unfold mov
  refine Lockstep.bind (source_lockstep src 4) ?_
  intro _ _ _
  exact Lockstep.ite (fun _ => writeAddress_lockstep _ _ _ _)
    fun _ => writeDestination_lockstep _ _ _ _

theorem mova_lockstep (dst : Destination) (src : Source) :
    Lockstep c₁ c₂ (fun _ _ => True) (mova dst src) (mova dst src) := by
  unfold mova
  extract_lets moved
  have hmoved : Lockstep c₁ c₂ (fun _ _ => True) (moved ()) (moved ()) := by
    simp only [moved]
    refine Lockstep.bind (source_lockstep src 4) ?_
    intro _ _ _
    exact writeAddress_lockstep _ _ _ _
  exact Lockstep.ite (fun _ => Lockstep.fail_bind _ _ _) fun _ => hmoved

theorem unary_lockstep (op : UnaryOp) (dst : Destination) (a : Source) :
    Lockstep c₁ c₂ (fun _ _ => True) (unary op dst a) (unary op dst a) := by
  unfold unary
  split
  case h_1 | h_2 =>
    refine Lockstep.bind (source_lockstep a 4) ?_
    intro _ _ _
    refine Lockstep.inert_bind (floatType_inert _) (floatType_inert _) ?_
    intro _ _
    refine Lockstep.inert_bind (glslCall_inert _ _ _) (glslCall_inert _ _ _) ?_
    intro _ _
    exact writeDestination_lockstep _ _ _ _
  all_goals
    refine Lockstep.bind (source_lockstep a 1) ?_
    intro _ _ _
    refine Lockstep.inert_bind (floatType_inert _) (floatType_inert _) ?_
    intro _ _
    extract_lets written
    have hwritten : ∀ v₁ v₂, True →
        Lockstep c₁ c₂ (fun _ _ => True) (written v₁) (written v₂) := fun _ _ _ => by
      simp only [written]
      exact writeDestination_lockstep _ _ _ _
    dsimp only
  case h_3 =>
    refine Lockstep.inert_bind (float32_inert _) (float32_inert _) ?_
    intro _ _
    exact Lockstep.bind (Lockstep.of_inert (compute_inert _ _ _) (compute_inert _ _ _)) hwritten
  case h_4 | h_6 =>
    refine Lockstep.inert_bind (glslCall_inert _ _ _) (glslCall_inert _ _ _) ?_
    intro _ _
    exact Lockstep.bind (Lockstep.of_inert (glslCall_inert _ _ _) (glslCall_inert _ _ _)) hwritten
  case h_5 =>
    exact Lockstep.bind (Lockstep.of_inert (glslCall_inert _ _ _) (glslCall_inert _ _ _)) hwritten

theorem binary_lockstep (op : BinaryOp) (dst : Destination) (a b : Source) :
    Lockstep c₁ c₂ (fun _ _ => True) (binary op dst a b) (binary op dst a b) := by
  unfold binary
  split
  case h_1 =>
    refine Lockstep.bind (source_lockstep a 1) ?_
    intro _ _ _
    refine Lockstep.bind (source_lockstep b 1) ?_
    intro _ _ _
    refine Lockstep.inert_bind (floatType_inert _) (floatType_inert _) ?_
    intro _ _
    refine Lockstep.inert_bind (glslCall_inert _ _ _) (glslCall_inert _ _ _) ?_
    intro _ _
    refine Lockstep.inert_bind (glslCall_inert _ _ _) (glslCall_inert _ _ _) ?_
    intro _ _
    exact writeDestination_lockstep _ _ _ _
  case h_2 | h_3 =>
    refine Lockstep.have_ _ _ ?_
    refine Lockstep.bind (source_lockstep a _) ?_
    intro _ _ _
    refine Lockstep.bind (source_lockstep b _) ?_
    intro _ _ _
    refine Lockstep.inert_bind (floatType_inert _) (floatType_inert _) ?_
    intro _ _
    refine Lockstep.inert_bind (compute_inert _ _ _) (compute_inert _ _ _) ?_
    intro _ _
    exact writeDestination_lockstep _ _ _ _
  -- the componentwise operations, whose result only builds the module
  all_goals
    refine Lockstep.bind (source_lockstep a 4) ?_
    intro _ _ _
    refine Lockstep.bind (source_lockstep b 4) ?_
    intro _ _ _
    refine Lockstep.build_bind _ _ ?_
    intro _ _
    dsimp only
    refine Lockstep.inert_bind ?_ ?_ ?_
    rotate_left 2
    · intro _ _
      exact writeDestination_lockstep _ _ _ _
  case h_4.refine_1 | h_4.refine_2 | h_5.refine_1 | h_5.refine_2 | h_6.refine_1 | h_6.refine_2 =>
    exact compute_inert _ _ _
  case h_7.refine_1 | h_7.refine_2 | h_8.refine_1 | h_8.refine_2 => exact glslCall_inert _ _ _
  all_goals exact compareSelect_inert _ _ _

theorem ternary_lockstep (op : TernaryOp) (dst : Destination) (a b c : Source) :
    Lockstep c₁ c₂ (fun _ _ => True) (ternary op dst a b c) (ternary op dst a b c) := by
  unfold ternary
  refine Lockstep.bind (source_lockstep a 4) ?_
  intro _ _ _
  refine Lockstep.bind (source_lockstep b 4) ?_
  intro _ _ _
  refine Lockstep.bind (source_lockstep c 4) ?_
  intro _ _ _
  refine Lockstep.inert_bind (floatType_inert _) (floatType_inert _) ?_
  intro _ _
  extract_lets written
  have hwritten : ∀ v₁ v₂, True →
      Lockstep c₁ c₂ (fun _ _ => True) (written v₁) (written v₂) := fun _ _ _ => by
    simp only [written]
    exact writeDestination_lockstep _ _ _ _
  split
  case h_1 =>
    refine Lockstep.inert_bind (compute_inert _ _ _) (compute_inert _ _ _) ?_
    intro _ _
    exact Lockstep.bind (Lockstep.of_inert (compute_inert _ _ _) (compute_inert _ _ _)) hwritten
  case h_2 =>
    exact Lockstep.bind (Lockstep.of_inert (glslCall_inert _ _ _) (glslCall_inert _ _ _)) hwritten

/-- Alike states have declared the same samplers with the same texture types. -/
theorem Alike.lookup_samplers_textureType {s₁ s₂ : Lowering} (h : Alike c₁ c₂ s₁ s₂)
    (index : Nat) :
    (s₁.samplers.lookup index).map (·.textureType) =
      (s₂.samplers.lookup index).map (·.textureType) := by
  rw [← lookup_map_snd, ← lookup_map_snd, h.samplers]

/-- Combining a sampler operand's texture and sampler gives the same texture type on both
sides. -/
theorem sampledImage_lockstep (src : Source) :
    Lockstep c₁ c₂ (fun p₁ p₂ => p₁.2 = p₂.2) (sampledImage src) (sampledImage src) := by
  unfold sampledImage
  extract_lets sampled
  have hsampled : Lockstep c₁ c₂ (fun p₁ p₂ => p₁.2 = p₂.2) (sampled ()) (sampled ()) := by
    simp -zeta only [sampled]
    refine Lockstep.bind Lockstep.get ?_
    intro t₁ t₂ ht
    have htype := ht.lookup_samplers_textureType src.reg.index
    cases h₁ : t₁.samplers.lookup src.reg.index <;> cases h₂ : t₂.samplers.lookup src.reg.index
    case none.none => exact Lockstep.fail _
    case some.some vars₁ vars₂ =>
      rw [h₁, h₂] at htype
      -- loading and combining only build the module
      refine Lockstep.have_ _ _ ?_
      refine Lockstep.inert_bind (typeId_inert _) (typeId_inert _) ?_
      intro _ _
      refine Lockstep.inert_bind (typeId_inert _) (typeId_inert _) ?_
      intro _ _
      refine Lockstep.inert_bind (typeId_inert _) (typeId_inert _) ?_
      intro _ _
      refine Lockstep.inert_bind (compute_inert _ _ _) (compute_inert _ _ _) ?_
      intro _ _
      refine Lockstep.inert_bind (compute_inert _ _ _) (compute_inert _ _ _) ?_
      intro _ _
      refine Lockstep.inert_bind (compute_inert _ _ _) (compute_inert _ _ _) ?_
      intro _ _
      exact Lockstep.pure (Option.some.inj htype)
    all_goals simp [h₁, h₂] at htype
  exact Lockstep.ite (fun _ => Lockstep.fail_bind _ _ _) fun _ => hsampled

theorem texld_lockstep (control tokenIndex : Nat) (dst : Destination) (coord sampler : Source) :
    Lockstep c₁ c₂ (fun _ _ => True) (texld control tokenIndex dst coord sampler)
      (texld control tokenIndex dst coord sampler) := by
  unfold texld
  refine Lockstep.bind (sampledImage_lockstep sampler) ?_
  intro p₁ p₂ hp
  obtain ⟨image₁, type₁⟩ := p₁
  obtain ⟨image₂, type₂⟩ := p₂
  dsimp only at hp
  subst hp
  dsimp only
  refine Lockstep.bind (source_lockstep coord 4) ?_
  intro _ _ _
  -- the coordinates and the sample only build the module; the sampling mode is the same
  split
  case h_1 =>
    refine Lockstep.inert_bind (truncate_inert _ _) (truncate_inert _ _) ?_
    intro _ _
    refine Lockstep.inert_bind (sample_inert _ _ _ _) (sample_inert _ _ _ _) ?_
    intro _ _
    exact writeDestination_lockstep _ _ _ _
  case h_2 =>
    refine Lockstep.ite (fun _ => Lockstep.fail_bind _ _ _) fun _ => ?_
    refine Lockstep.inert_bind (floatType_inert _) (floatType_inert _) ?_
    intro _ _
    refine Lockstep.inert_bind (shuffle_inert _ _ _ _) (shuffle_inert _ _ _ _) ?_
    intro _ _
    refine Lockstep.inert_bind (sample_inert _ _ _ _) (sample_inert _ _ _ _) ?_
    intro _ _
    exact writeDestination_lockstep _ _ _ _
  case h_3 =>
    refine Lockstep.inert_bind (truncate_inert _ _) (truncate_inert _ _) ?_
    intro _ _
    refine Lockstep.inert_bind (floatType_inert _) (floatType_inert _) ?_
    intro _ _
    refine Lockstep.inert_bind (extract_inert _ _ _) (extract_inert _ _ _) ?_
    intro _ _
    refine Lockstep.inert_bind (sample_inert _ _ _ _) (sample_inert _ _ _ _) ?_
    intro _ _
    exact writeDestination_lockstep _ _ _ _
  case h_4 => exact Lockstep.fail_bind _ _ _

theorem texldl_lockstep (dst : Destination) (coord sampler : Source) :
    Lockstep c₁ c₂ (fun _ _ => True) (texldl dst coord sampler) (texldl dst coord sampler) := by
  unfold texldl
  refine Lockstep.bind (sampledImage_lockstep sampler) ?_
  intro p₁ p₂ hp
  obtain ⟨image₁, type₁⟩ := p₁
  obtain ⟨image₂, type₂⟩ := p₂
  dsimp only at hp
  subst hp
  dsimp only
  refine Lockstep.bind (source_lockstep coord 4) ?_
  intro _ _ _
  refine Lockstep.inert_bind (truncate_inert _ _) (truncate_inert _ _) ?_
  intro _ _
  refine Lockstep.inert_bind (floatType_inert _) (floatType_inert _) ?_
  intro _ _
  refine Lockstep.inert_bind (extract_inert _ _ _) (extract_inert _ _ _) ?_
  intro _ _
  refine Lockstep.inert_bind (sample_inert _ _ _ _) (sample_inert _ _ _ _) ?_
  intro _ _
  exact writeDestination_lockstep _ _ _ _

/-- Every instruction lowers in lockstep. -/
theorem instruction_lockstep (ins : Instruction) :
    Lockstep c₁ c₂ (fun _ _ => True) (instruction ins) (instruction ins) := by
  cases ins with
  | nop => exact Lockstep.pure_free () ()
  | dcl decl dst => exact declare_lockstep decl dst
  | define dst values => exact define_lockstep dst values
  | defineInt dst values => exact defineInt_lockstep dst values
  | defineBool dst value => exact defineBool_lockstep dst value
  | mov dst src => exact mov_lockstep dst src
  | mova dst src => exact mova_lockstep dst src
  | unary op dst a => exact unary_lockstep op dst a
  | binary op dst a b => exact binary_lockstep op dst a b
  | ternary op dst a b c => exact ternary_lockstep op dst a b c
  | texld control tokenIndex dst coord sampler =>
    exact texld_lockstep control tokenIndex dst coord sampler
  | texldl dst coord sampler => exact texldl_lockstep dst coord sampler

theorem storeOutputs_lockstep : Lockstep c₁ c₂ (fun _ _ => True) storeOutputs storeOutputs := by
  unfold storeOutputs
  refine Lockstep.bind Lockstep.get ?_
  intro t₁ t₂ ht
  refine Lockstep.have_ _ _ ?_
  -- both sides store the same registers, in the same order
  rw [congrArg Register.sort ht.outputs]
  refine Lockstep.bind (Lockstep.forIn _ _ ?_) ?_
  · intro reg _
    have hsome := ht.isSome_lookup_outputs reg
    cases h₁ : t₁.outputs.lookup reg <;> cases h₂ : t₂.outputs.lookup reg
    case none.none => exact Lockstep.pure rfl
    case some.some var₁ var₂ =>
      refine Lockstep.bind (read_lockstep reg) ?_
      intro _ _ _
      -- flipping the position, narrowing and storing only build the module, whatever the
      -- options and the variable's type
      refine Lockstep.of_yields (ForInStep.yield ()) ?_ ?_
      all_goals
        extract_lets stored narrowed
        have hstored : ∀ v, Yields (stored v) (ForInStep.yield ()) := fun _ => by
          simp only [stored]
          exact Yields.bind (emit_inert _) fun _ => Yields.pure _
        have hnarrowed : ∀ v, Yields (narrowed v) (ForInStep.yield ()) := fun _ => by
          simp only [narrowed]
          exact Yields.ite (fun _ => Yields.bind (floatType_inert _) fun _ =>
            Yields.bind (extract_inert _ _ _) hstored) fun _ => Yields.bind (Inert.pure _) hstored
        exact Yields.ite (fun _ => Yields.bind (flipY_inert _) hnarrowed)
          fun _ => Yields.bind (Inert.pure _) hnarrowed
    all_goals simp [h₁, h₂] at hsome
  · intro _ _ _
    exact Lockstep.pure_free _ _

/-- Closing the module gives alike shaders. -/
theorem finish_lockstep : Lockstep c₁ c₂ (Shader.Alike c₁ c₂) finish finish := by
  unfold finish
  refine Lockstep.bind storeOutputs_lockstep ?_
  intro _ _ _
  refine Lockstep.inert_bind (emit_inert _) (emit_inert _) ?_
  intro _ _
  refine Lockstep.inert_bind (emit_inert _) (emit_inert _) ?_
  intro _ _
  refine Lockstep.bind Lockstep.get ?_
  intro t₁ t₂ ht
  rw [ht.version, ht.writesDepth]
  refine Lockstep.have_ _ _ (Lockstep.have_ _ _ ?_)
  refine Lockstep.build_bind _ _ ?_
  intro _ _
  extract_lets closed
  -- the shader is read off alike states
  have hclosed : ∀ r₁ r₂ : Unit, Lockstep c₁ c₂ (Shader.Alike c₁ c₂) (closed r₁) (closed r₂) := by
    intro _ _
    simp only [closed]
    refine Lockstep.bind Lockstep.get ?_
    intro u₁ u₂ hu
    obtain ⟨declared, hl₁, -, hl₂, -⟩ := hu.layout
    exact Lockstep.pure ⟨by rw [hu.version], by rw [hu.descriptors], declared, hl₁, hl₂⟩
  -- the execution modes only build the module
  refine Lockstep.ite (fun _ => ?_) fun _ => hclosed () ()
  refine Lockstep.build_bind _ _ ?_
  intro _ _
  exact Lockstep.ite (fun _ => Lockstep.build_bind _ _ fun r₁ r₂ => hclosed r₁ r₂)
    fun _ => hclosed () ()

/-- Lowering a decoded program runs in lockstep, to alike shaders. -/
theorem program_lockstep (p : Program) :
    Lockstep c₁ c₂ (Shader.Alike c₁ c₂) (program p) (program p) := by
  unfold program
  refine Lockstep.bind (Lockstep.forM _ fun ins => instruction_lockstep ins) ?_
  intro _ _ _
  split
  case h_1 => exact Lockstep.fail _
  case h_2 => exact finish_lockstep

end Steps

/-- Lowering starts from alike states under any two options. -/
theorem Alike.of_start (o₁ o₂ : Options) (registry : ConstantRegistry) (version : ShaderVersion) :
    Alike o₁.packedColors o₂.packedColors (start o₁ registry version)
      (start o₂ registry version) := by
  unfold start
  exact ⟨rfl, rfl, rfl, rfl, rfl, rfl, rfl, rfl, rfl, rfl, rfl, rfl, [], rfl, rfl, rfl, rfl⟩

/-- Outcomes that agree read off results that agree: one error, or related results. -/
theorem Agree.results {c₁ c₂ : Bool} {α : Type} {R : α → α → Prop}
    {x₁ x₂ : Except ConvertError (α × Lowering)} (h : Agree c₁ c₂ R x₁ x₂) :
    (∀ e, Prod.fst <$> x₁ = .error e ↔ Prod.fst <$> x₂ = .error e) ∧
      ∀ a₁ a₂, Prod.fst <$> x₁ = .ok a₁ → Prod.fst <$> x₂ = .ok a₂ → R a₁ a₂ := by
  cases x₁ <;> cases x₂
  case error.error e₁ e₂ =>
    have he : e₁ = e₂ := h
    subst he
    exact ⟨fun _ => Iff.rfl, fun _ _ h₁ => nomatch h₁⟩
  case ok.ok r₁ r₂ =>
    refine ⟨fun _ => iff_of_false (nomatch ·) (nomatch ·), ?_⟩
    rintro a₁ a₂ ⟨⟩ ⟨⟩
    exact h.1
  all_goals exact h.elim

end Lowering

namespace Shader.Alike

variable {c₁ c₂ : Bool} {sh₁ sh₂ : Shader}

/-- Alike shaders under one packing of colours have the same vertex inputs. -/
theorem vertexInputs_eq (h : Shader.Alike c₁ c₂ sh₁ sh₂) (hpacked : c₁ = c₂) :
    sh₁.vertexInputs = sh₂.vertexInputs := by
  obtain ⟨declared, h₁, h₂⟩ := h.vertexInputs
  rw [h₁, h₂, hpacked]

/-- Of alike shaders, the one with colours unpacked has the vertex inputs of the packed one
with colours read as four floats. -/
theorem vertexInputs_unpacked (h : Shader.Alike true false sh₁ sh₂) :
    sh₂.vertexInputs = VertexAttribute.unpackColors sh₁.vertexInputs := by
  obtain ⟨declared, h₁, h₂⟩ := h.vertexInputs
  rw [h₁, h₂, Usage.vertexLayout_unpacked]

end Shader.Alike

/-- Lowering one program under two options fails under both with one error, or succeeds under
both with alike shaders. -/
theorem Program.lower_alike (p : Program) (o₁ o₂ : Options) (registry : ConstantRegistry) :
    (∀ e, p.lower o₁ registry = .error e ↔ p.lower o₂ registry = .error e) ∧
      ∀ sh₁ sh₂, p.lower o₁ registry = .ok sh₁ → p.lower o₂ registry = .ok sh₂ →
        Shader.Alike o₁.packedColors o₂.packedColors sh₁ sh₂ :=
  (Lowering.program_lockstep p _ _ (Lowering.Alike.of_start o₁ o₂ registry p.version)).results

/-- Options change only what they are for: under any two options a conversion fails alike or
succeeds alike, with the same stage and descriptors, and vertex inputs that differ by packing. -/
theorem Converter.compile_options_effect (o₁ o₂ : Options) (registry : ConstantRegistry)
    (tokens : Array UInt32) :
    (∀ e, (Converter.mk o₁ registry).compile tokens = .error e ↔
      (Converter.mk o₂ registry).compile tokens = .error e) ∧
    ∀ sh₁ sh₂, (Converter.mk o₁ registry).compile tokens = .ok sh₁ →
      (Converter.mk o₂ registry).compile tokens = .ok sh₂ →
      sh₁.stage = sh₂.stage ∧ sh₁.descriptors = sh₂.descriptors ∧
      (o₁.packedColors = o₂.packedColors → sh₁.vertexInputs = sh₂.vertexInputs) ∧
      (o₁.packedColors = true → o₂.packedColors = false →
        sh₂.vertexInputs = VertexAttribute.unpackColors sh₁.vertexInputs) := by
  unfold Converter.compile
  split
  case isTrue => exact ⟨fun _ => Iff.rfl, fun _ _ h₁ => nomatch h₁⟩
  case isFalse =>
    cases Program.decode tokens with
    | error e => exact ⟨fun _ => Iff.rfl, fun _ _ h₁ => nomatch h₁⟩
    | ok p =>
      obtain ⟨herrors, hshaders⟩ := Program.lower_alike p o₁ o₂ registry
      refine ⟨herrors, fun sh₁ sh₂ h₁ h₂ => ?_⟩
      have halike := hshaders sh₁ sh₂ h₁ h₂
      refine ⟨halike.stage, halike.descriptors, halike.vertexInputs_eq, fun hp₁ hp₂ => ?_⟩
      rw [hp₁, hp₂] at halike
      exact halike.vertexInputs_unpacked

end ShaderBridge
