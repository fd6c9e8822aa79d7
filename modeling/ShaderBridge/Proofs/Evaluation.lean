import ShaderBridge.Proofs.UniqueDeclarations

/-!
Values of a run of the shader's function: the integer and selection instructions that index the
float constant block are interpreted, every other instruction is opaque.
-/

namespace ShaderBridge.Spirv

/-- A value in a run of the shader's function: a 32-bit scalar (an integer, or the bits of a
float), a boolean, a vector of values, or a pointer to an element of the float constant
block. -/
inductive Value where
  | scalar (bits : BitVec 32)
  | bool (b : Bool)
  | vector (components : List Value)
  | element (index : BitVec 32)
  deriving Inhabited

/-- GLSL.std.450 `SClamp`: `x` clamped between `lo` and `hi`, all read as signed integers. -/
def sClamp (x lo hi : BitVec 32) : BitVec 32 :=
  if x.slt lo then lo else if hi.slt x then hi else x

namespace Value

/-- Component `k` of a vector. -/
def component? : Value → Nat → Option Value
  | .vector cs, k => cs[k]?
  | _, _ => none

/-- The component a condition component picks: the first operand's for `true`. -/
def pick : Value → Value → Value → Value
  | .bool true, a, _ => a
  | _, _, b => b

/-- `OpSelect`: a boolean condition picks one operand whole, a vector of booleans picks each
component from the operand it names; vectors of different widths select nothing. -/
def select : Value → Value → Value → Option Value
  | .bool c, a, b => some (if c then a else b)
  | .vector cs, .vector as, .vector bs =>
    if as.length = cs.length ∧ bs.length = cs.length then
      some (.vector (List.zipWith3 pick cs as bs))
    else none
  | _, _, _ => none

/-- A vector of `n` components. -/
def HasWidth (v : Value) (n : Nat) : Prop := ∃ cs, v = .vector cs ∧ cs.length = n

/-- Picking per component with a condition of one repeated boolean picks one list whole. -/
theorem zipWith3_pick_replicate (c : Bool) :
    ∀ as bs : List Value, as.length = bs.length →
      List.zipWith3 pick (List.replicate as.length (.bool c)) as bs = if c then as else bs
  | [], [], _ => by cases c <;> rfl
  | a :: as, b :: bs, h => by
    rw [List.length_cons, List.replicate_succ, List.zipWith3,
      zipWith3_pick_replicate c as bs (Nat.succ_injective h)]
    cases c <;> simp [pick]
  | [], _ :: _, h => absurd h (by simp)
  | _ :: _, [], h => absurd h (by simp)

/-- A condition whose components are all one boolean picks one operand whole. -/
theorem select_replicate (c : Bool) {n : Nat} {a b : Value} (ha : a.HasWidth n)
    (hb : b.HasWidth n) :
    (Value.vector (List.replicate n (.bool c))).select a b = some (if c then a else b) := by
  obtain ⟨as, rfl, rfl⟩ := ha
  obtain ⟨bs, rfl, hbs⟩ := hb
  simp only [select, List.length_replicate, hbs, and_self, ↓reduceIte,
    zipWith3_pick_replicate c as bs hbs.symm]
  cases c <;> rfl

end Value

namespace Instruction

/-- What an instruction computes from the values `ρ` gives its operands, when it is one of the
interpreted instructions applied to values of the right shape; `block` gives the elements of the
float constant block. -/
def eval? (block : BitVec 32 → Value) (ρ : Nat → Value) (i : Instruction) : Option Value :=
  if i.op = Op.compositeExtract then
    match i.operands with
    | [c, k] => (ρ c).component? k
    | _ => none
  else if i.op = Op.compositeConstruct then some (.vector (i.operands.map ρ))
  else if i.op = Op.iAdd then
    match i.operands.map ρ with
    | [.scalar x, .scalar y] => some (.scalar (x + y))
    | _ => none
  else if i.op = Op.iEqual then
    match i.operands.map ρ with
    | [.scalar x, .scalar y] => some (.bool (x == y))
    | _ => none
  else if i.op = Op.extInst then
    match i.operands with
    | [_, code, x, lo, hi] =>
      if code = GlslOp.sClamp.code then
        match ρ x, ρ lo, ρ hi with
        | .scalar x, .scalar lo, .scalar hi => some (.scalar (sClamp x lo hi))
        | _, _, _ => none
      else none
    | _ => none
  else if i.op = Op.accessChain then
    -- a chain into the block: its member, then the element
    match i.operands with
    | [_, _, e] =>
      match ρ e with
      | .scalar e => some (.element e)
      | _ => none
    | _ => none
  else if i.op = Op.load then
    match i.operands.map ρ with
    | [.element e] => some (block e)
    | _ => none
  else if i.op = Op.select then
    match i.operands.map ρ with
    | [c, a, b] => c.select a b
    | _ => none
  else none

/-- The values `ρ` give the result of `i` what `i` computes. -/
def Respects (block : BitVec 32 → Value) (ρ : Nat → Value) (i : Instruction) : Prop :=
  ∀ r v, i.result = some r → i.eval? block ρ = some v → ρ r = v

variable {block : BitVec 32 → Value} {ρ : Nat → Value} {ty r : Nat}

/-- What a run gives the result of an instruction that computes a value. -/
theorem Respects.result_eq {operands : List Nat} {op : Op} {v : Value}
    (h : Respects block ρ { op := op, resultType := some ty, result := some r, operands := operands })
    (hv : eval? block ρ { op := op, resultType := some ty, result := some r, operands := operands } =
      some v) : ρ r = v :=
  h r v rfl hv

@[simp] theorem eval?_compositeExtract (c k : Nat) :
    eval? block ρ
      { op := Op.compositeExtract, resultType := some ty, result := some r, operands := [c, k] } =
      (ρ c).component? k := by
  simp [eval?]

@[simp] theorem eval?_compositeConstruct (parts : List Nat) :
    eval? block ρ
      { op := Op.compositeConstruct, resultType := some ty, result := some r, operands := parts } =
      some (.vector (parts.map ρ)) := by
  simp [eval?, Op.compositeConstruct, Op.compositeExtract]

theorem eval?_iAdd {a b : Nat} {x y : BitVec 32} (ha : ρ a = .scalar x) (hb : ρ b = .scalar y) :
    eval? block ρ { op := Op.iAdd, resultType := some ty, result := some r, operands := [a, b] } =
      some (.scalar (x + y)) := by
  simp [eval?, Op.iAdd, Op.compositeConstruct, Op.compositeExtract, ha, hb]

theorem eval?_iEqual {a b : Nat} {x y : BitVec 32} (ha : ρ a = .scalar x) (hb : ρ b = .scalar y) :
    eval? block ρ { op := Op.iEqual, resultType := some ty, result := some r, operands := [a, b] } =
      some (.bool (x == y)) := by
  simp [eval?, Op.iEqual, Op.iAdd, Op.compositeConstruct, Op.compositeExtract, ha, hb]

theorem eval?_sClamp {set x lo hi : Nat} {x' lo' hi' : BitVec 32} (hx : ρ x = .scalar x')
    (hlo : ρ lo = .scalar lo') (hhi : ρ hi = .scalar hi') :
    eval? block ρ
      { op := Op.extInst, resultType := some ty, result := some r,
        operands := [set, GlslOp.sClamp.code, x, lo, hi] } =
      some (.scalar (sClamp x' lo' hi')) := by
  simp [eval?, Op.extInst, Op.iEqual, Op.iAdd, Op.compositeConstruct, Op.compositeExtract, hx,
    hlo, hhi]

theorem eval?_accessChain {base member e : Nat} {e' : BitVec 32} (he : ρ e = .scalar e') :
    eval? block ρ
      { op := Op.accessChain, resultType := some ty, result := some r,
        operands := [base, member, e] } = some (.element e') := by
  simp [eval?, Op.accessChain, Op.extInst, Op.iEqual, Op.iAdd, Op.compositeConstruct,
    Op.compositeExtract, he]

theorem eval?_load {p : Nat} {e : BitVec 32} (hp : ρ p = .element e) :
    eval? block ρ { op := Op.load, resultType := some ty, result := some r, operands := [p] } =
      some (block e) := by
  simp [eval?, Op.load, Op.accessChain, Op.extInst, Op.iEqual, Op.iAdd, Op.compositeConstruct,
    Op.compositeExtract, hp]

theorem eval?_select (c a b : Nat) :
    eval? block ρ
      { op := Op.select, resultType := some ty, result := some r, operands := [c, a, b] } =
      (ρ c).select (ρ a) (ρ b) := by
  simp [eval?, Op.select, Op.load, Op.accessChain, Op.extInst, Op.iEqual, Op.iAdd,
    Op.compositeConstruct, Op.compositeExtract]

end Instruction

namespace Module

/-- The values `ρ` give every scalar constant of the module its literal word, and every
composite constant the vector of its constituents' values. -/
structure ConstantsHold (ρ : Nat → Value) (m : Module) : Prop where
  scalar : ∀ ty p bit,
    ({ op := Op.constant, resultType := some ty, result := some p, operands := [bit] } :
      Instruction) ∈ m.declarations.toList → ρ p = .scalar (BitVec.ofNat 32 bit)
  composite : ∀ ty p parts,
    ({ op := Op.constantComposite, resultType := some ty, result := some p, operands := parts } :
      Instruction) ∈ m.declarations.toList → ρ p = .vector (parts.map ρ)

/-- `ρ` is a run of the module's function on the float constant block `block`: the constants
hold their values and every instruction of the function computes its result. -/
structure Runs (block : BitVec 32 → Value) (ρ : Nat → Value) (m : Module) : Prop where
  constants : m.ConstantsHold ρ
  respects : ∀ i ∈ m.functions.toList, i.Respects block ρ

/-- `m'` continues `m`: its declarations and its function begin with those of `m`. -/
structure Continues (m m' : Module) : Prop where
  declarations : m.declarations.toList <+: m'.declarations.toList
  functions : m.functions.toList <+: m'.functions.toList

namespace Continues

variable {m₁ m₂ m₃ : Module}

@[refl] theorem refl (m : Module) : m.Continues m := ⟨List.prefix_refl _, List.prefix_refl _⟩

theorem trans (h₁ : m₁.Continues m₂) (h₂ : m₂.Continues m₃) : m₁.Continues m₃ :=
  ⟨h₁.declarations.trans h₂.declarations, h₁.functions.trans h₂.functions⟩

end Continues

variable {block : BitVec 32 → Value} {ρ : Nat → Value} {m m' : Module}

/-- A scalar constant has its literal word in a run. -/
theorem ScalarConstant.value (h : m.Runs block ρ) {op : Op} {operands : List Nat} {p bit : Nat}
    (hp : m.ScalarConstant op operands p bit) : ρ p = .scalar (BitVec.ofNat 32 bit) := by
  obtain ⟨c, -, hmem⟩ := hp
  exact h.constants.scalar c p bit hmem

/-- What every run of every module that continues `m` satisfies: what `m` computes can no longer
change. -/
def Ensures (block : BitVec 32 → Value) (ρ : Nat → Value) (m : Module) (P : Prop) : Prop :=
  ∀ T, m.Continues T → T.Runs block ρ → P

/-- What a module ensures, every module that continues it ensures. -/
theorem Ensures.mono {P : Prop} (h : m.Ensures block ρ P) (hm : m.Continues m') :
    m'.Ensures block ρ P :=
  fun T hT hrun => h T (hm.trans hT) hrun

/-- An instruction of the function is respected by every run. -/
theorem ensures_respects {i : Instruction} (hi : i ∈ m.functions.toList) :
    m.Ensures block ρ (i.Respects block ρ) :=
  fun _ hT hrun => hrun.respects i (hT.functions.subset hi)

/-- A scalar constant of the module holds its word in every run. -/
theorem ensures_scalarConstant {op : Op} {operands : List Nat} {p bit : Nat}
    (hp : m.ScalarConstant op operands p bit) :
    m.Ensures block ρ (ρ p = .scalar (BitVec.ofNat 32 bit)) :=
  fun _ hT hrun => (hp.mono hT.declarations.subset).value hrun

end Module

end ShaderBridge.Spirv
