import ShaderBridge.Proofs.BuildInvariant
import ShaderBridge.Proofs.TypeInterning

/-!
The pools of the module builder: `Pooled` says no type, capability or constant is declared
twice, and every building step of lowering keeps it.
-/

namespace ShaderBridge.Spirv

open Std.Do

/-- A type declaration: its opcode is one of the type opcodes, `OpTypeVoid` (19) to
`OpTypeForwardPointer` (39). -/
def Instruction.IsType (i : Instruction) : Prop := 19 ≤ i.op.code ∧ i.op.code ≤ 39

instance : DecidablePred Instruction.IsType := fun _ => inferInstanceAs (Decidable (_ ∧ _))

/-- A constant declaration: its opcode is one of `OpConstantTrue` (41) to `OpConstantNull` (46). -/
def Instruction.IsConstant (i : Instruction) : Prop := 41 ≤ i.op.code ∧ i.op.code ≤ 46

theorem Instruction.IsType.not_isConstant {i : Instruction} (h : i.IsType) : ¬i.IsConstant :=
  fun hc => by unfold Instruction.IsType at h; unfold Instruction.IsConstant at hc; omega

theorem leafDeclaration_isType (d : TypeDesc) (id : Nat) :
    (Builder.leafDeclaration d id).IsType := by
  unfold Builder.leafDeclaration
  split <;> simp only [Instruction.IsType] <;> decide

/-- A description lowering asks for has a key, and it is canonical. -/
theorem TypeDesc.Canonical.key_canonical {d : TypeDesc} (hd : d.Canonical) :
    ∃ k, d.key? = some k ∧ k.Canonical := by
  unfold TypeDesc.Canonical at hd
  unfold TypeDesc.key?
  cases hkd : d.kind <;> simp only [hkd] at hd ⊢ <;> refine ⟨_, rfl, ?_⟩
  case vector =>
    have hfloat : Op.typeFloat ≠ Op.typeInt := by decide
    have hbool : Op.typeBool ≠ Op.typeInt := by decide
    refine ⟨TypeKind.code_of_ofOp hkd (by decide), ?_⟩
    rcases hd with h | h | ⟨h, hs⟩ <;> rw [h]
    · exact .inl ⟨rfl, if_neg hfloat⟩
    · exact .inr (.inl ⟨rfl, if_neg hbool⟩)
    · exact .inr (.inr ⟨rfl, (if_pos rfl).trans_le hs⟩)
  case image => exact .inl ⟨.inl (TypeKind.code_of_ofOp hkd (by decide)), d.dim, hd⟩
  case sampledImage => exact .inl ⟨.inr (TypeKind.code_of_ofOp hkd (by decide)), d.dim, hd⟩
  case array => exact .inr (.inl ⟨TypeKind.code_of_ofOp hkd (by decide), hd⟩)
  case struct => exact .inr (.inr (.inl (TypeKind.code_of_ofOp hkd (by decide))))
  case function =>
    exact .inr (.inr (.inr ⟨TypeKind.code_of_ofOp hkd (by decide), List.ne_nil_of_length_pos hd.1⟩))
  all_goals trivial

/-! ### The type section of a module -/

namespace Module

/-- The module with only its type declarations in the declarations section. -/
def typeSection (m : Module) : Module :=
  { m with declarations := m.declarations.filter fun i => decide i.IsType }

variable {m : Module} {i : Instruction}

@[simp] theorem typeSection_nextId : m.typeSection.nextId = m.nextId := rfl

@[simp] theorem declarations_typeSection :
    m.typeSection.declarations.toList = m.declarations.toList.filter fun i => decide i.IsType := by
  simp [typeSection]

theorem typeSection_bump : m.bump.typeSection = m.typeSection.bump := rfl

theorem typeSection_push_of_isType (h : i.IsType) :
    (m.push .declarations i).typeSection = m.typeSection.push .declarations i := by
  simp [typeSection, push, h]

theorem typeSection_push_of_not_isType (h : ¬i.IsType) :
    (m.push .declarations i).typeSection = m.typeSection := by
  simp [typeSection, push, h]

theorem declarations_push_of_ne {sec : Section} (h : sec ≠ .declarations) :
    (m.push sec i).declarations = m.declarations := by
  cases sec <;> first | rfl | exact absurd rfl h

theorem typeSection_requireCapability (c : Capability) :
    (m.requireCapability c).typeSection = m.typeSection.requireCapability c := by
  by_cases h : m.capabilities.contains c <;>
    simp only [requireCapability, typeSection, h, Bool.false_eq_true, ↓reduceIte]

end Module

namespace Builder

/-- The builder with only the type declarations in its module's declarations section. -/
def typeView (b : Builder) : Builder := { b with module := b.module.typeSection }

theorem record_typeView (b : Builder) (k : TypeKey) {decl : Instruction} (h : decl.IsType) :
    (b.record k decl).typeView = b.typeView.record k decl := by
  simp only [record, typeView, Module.typeSection_push_of_isType h, Module.typeSection_bump]

/-- Asking for a type with a canonical key commutes with taking the type view: the type table,
the next id and the capabilities are all the call reads, and it declares only types. -/
theorem typeId_typeView {d : TypeDesc} {k : TypeKey} (hk : d.key? = some k) (hcanon : k.Canonical)
    (b : Builder) : typeId d b.typeView = ((typeId d b).1, (typeId d b).2.typeView) := by
  -- on the depth of the description, as `typeId` recurses
  induction hdepth : d.depth using Nat.strong_induction_on generalizing d k b with
  | _ n ih =>
  cases hfind : b.types.find? k with
  | some id =>
    have hhit : d.key?.bind b.types.find? = some id := by rw [hk, Option.bind_some, hfind]
    rw [typeId_hit hhit, typeId_hit (b := b.typeView) hhit]
  | none =>
  rcases TypeDesc.kind_cases_of_key hk hcanon with hleaf | hv | hi | hs
  · rw [typeId_leaf hk hfind hleaf, typeId_leaf (b := b.typeView) hk hfind hleaf,
      record_typeView _ _ (leafDeclaration_isType _ _)]
    rfl
  · -- a vector: its component first
    obtain ⟨kc, hkc, -, -⟩ := declarationOf_vector hv hk
    obtain ⟨kc', hkc', hcanonc⟩ := (TypeDesc.constructed_componentDesc d).key_canonical
    obtain rfl : kc = kc' := Option.some.inj (hkc.symm.trans hkc')
    have hlt : d.componentDesc.depth < n := by
      rw [← hdepth, TypeDesc.depth_componentDesc, TypeDesc.depth, hv]
      decide
    rw [typeId_vector hk hfind hv, typeId_vector (b := b.typeView) hk hfind hv]
    dsimp only
    rw [ih _ hlt hkc hcanonc b rfl, record_typeView _ _ (by simp only [Instruction.IsType]; decide)]
    rfl
  · -- an image: the float type first, then the capability a 1D image needs
    have hlt : TypeDesc.float.depth < n := by
      rw [← hdepth, TypeDesc.depth_float, TypeDesc.depth, hi]
      decide
    rw [typeId_image hk hfind hi, typeId_image (b := b.typeView) hk hfind hi]
    dsimp only
    rw [ih _ hlt (d := TypeDesc.float) (k := .float) rfl trivial b rfl]
    split
    · rw [show ({ (typeId TypeDesc.float b).2.typeView with
          module := (typeId TypeDesc.float b).2.typeView.module.requireCapability
            Capability.sampled1D } : Builder) =
          ({ (typeId TypeDesc.float b).2 with
            module := (typeId TypeDesc.float b).2.module.requireCapability
              Capability.sampled1D } : Builder).typeView by
          simp only [typeView, Module.typeSection_requireCapability],
        record_typeView _ _ (by simp only [Instruction.IsType]; decide)]
      rfl
    · rw [record_typeView _ _ (by simp only [Instruction.IsType]; decide)]
      rfl
  · -- a sampled image: its image first
    have hlt : (TypeDesc.image d.dim).depth < n := by
      rw [← hdepth, TypeDesc.depth_image, TypeDesc.depth, hs]
      decide
    rw [typeId_sampledImage hk hfind hs, typeId_sampledImage (b := b.typeView) hk hfind hs]
    dsimp only
    rw [ih _ hlt (d := TypeDesc.image d.dim) (k := .composite Op.typeImage.code [d.dim.code])
      rfl (Or.inl ⟨.inl rfl, d.dim, rfl⟩) b rfl, record_typeView _ _ (by simp only [Instruction.IsType]; decide)]
    rfl

/-! ### Asking for a type declares types only -/

/-- `b` is `b₀` with types declared and nothing else the pools read: the same constants, and
the declarations of `b₀` followed by type declarations. -/
structure AddsTypes (b₀ b : Builder) : Prop where
  constants : b.constants = b₀.constants
  declarations : ∃ new, b.module.declarations.toList = b₀.module.declarations.toList ++ new ∧
    ∀ i ∈ new, i.IsType

namespace AddsTypes

theorem refl (b : Builder) : b.AddsTypes b := ⟨rfl, [], by simp, nofun⟩

theorem trans {b₀ b₁ b₂ : Builder} (h₁ : b₀.AddsTypes b₁) (h₂ : b₁.AddsTypes b₂) :
    b₀.AddsTypes b₂ := by
  obtain ⟨hc₁, new₁, hd₁, hn₁⟩ := h₁
  obtain ⟨hc₂, new₂, hd₂, hn₂⟩ := h₂
  refine ⟨hc₂.trans hc₁, new₁ ++ new₂, by rw [hd₂, hd₁, List.append_assoc], fun i hi => ?_⟩
  rcases List.mem_append.1 hi with hi | hi
  · exact hn₁ i hi
  · exact hn₂ i hi

theorem record (b : Builder) (k : TypeKey) {decl : Instruction} (h : decl.IsType) :
    b.AddsTypes (b.record k decl) :=
  ⟨rfl, [decl], by simp [Builder.record], by simpa using h⟩

theorem requireCapability (b : Builder) (c : Capability) :
    b.AddsTypes { b with module := b.module.requireCapability c } :=
  ⟨rfl, [], by rw [List.append_nil]; exact congrArg Array.toList (Module.declarations_requireCapability _ _),
    nofun⟩

end AddsTypes

/-- Asking for a type with a canonical key declares types and nothing else. -/
theorem typeId_addsTypes {d : TypeDesc} {k : TypeKey} (hk : d.key? = some k)
    (hcanon : k.Canonical) (b : Builder) : b.AddsTypes (typeId d b).2 := by
  -- on the depth of the description, as `typeId` recurses
  induction hdepth : d.depth using Nat.strong_induction_on generalizing d k b with
  | _ n ih =>
  cases hfind : b.types.find? k with
  | some id =>
    rw [typeId_hit (by rw [hk, Option.bind_some, hfind])]
    exact .refl b
  | none =>
  rcases TypeDesc.kind_cases_of_key hk hcanon with hleaf | hv | hi | hs
  · rw [typeId_leaf hk hfind hleaf]
    exact .record b k (leafDeclaration_isType _ _)
  · obtain ⟨kc, hkc, -, -⟩ := declarationOf_vector hv hk
    obtain ⟨kc', hkc', hcanonc⟩ := (TypeDesc.constructed_componentDesc d).key_canonical
    obtain rfl : kc = kc' := Option.some.inj (hkc.symm.trans hkc')
    have hlt : d.componentDesc.depth < n := by
      rw [← hdepth, TypeDesc.depth_componentDesc, TypeDesc.depth, hv]
      decide
    rw [typeId_vector hk hfind hv]
    exact (ih _ hlt hkc hcanonc b rfl).trans
      (.record _ k (by simp only [Instruction.IsType]; decide))
  · have hlt : TypeDesc.float.depth < n := by
      rw [← hdepth, TypeDesc.depth_float, TypeDesc.depth, hi]
      decide
    have hfloat := ih _ hlt (d := TypeDesc.float) (k := .float) rfl trivial b rfl
    rw [typeId_image hk hfind hi]
    dsimp only
    split
    · exact (hfloat.trans (.requireCapability _ _)).trans
        (.record _ k (by simp only [Instruction.IsType]; decide))
    · exact hfloat.trans (.record _ k (by simp only [Instruction.IsType]; decide))
  · have hlt : (TypeDesc.image d.dim).depth < n := by
      rw [← hdepth, TypeDesc.depth_image, TypeDesc.depth, hs]
      decide
    rw [typeId_sampledImage hk hfind hs]
    exact (ih _ hlt (d := TypeDesc.image d.dim) (k := .composite Op.typeImage.code [d.dim.code])
      rfl (Or.inl ⟨.inl rfl, d.dim, rfl⟩) b rfl).trans
      (.record _ k (by simp only [Instruction.IsType]; decide))

end Builder

/-- An interned table stays interned in a module with the same declarations and more ids
handed out. -/
theorem TypeTable.Interned.of_nextId_le {T : TypeTable} {m m' : Module} (hT : T.Interned m)
    (hnext : m.nextId ≤ m'.nextId) (hdecl : m'.declarations = m.declarations) : T.Interned m' where
  keys_nodup := hT.keys_nodup
  ids_desc := hT.ids_desc
  ids_lt p hp := Nat.lt_of_lt_of_le (hT.ids_lt p hp) hnext
  canonical := hT.canonical
  named_before := hT.named_before
  declarations := hdecl ▸ hT.declarations

namespace Builder

/-! ### The invariant of the pools -/

/-- The pools account for the module's declarations: each type and constant is recorded under its
key, no key twice, and every recorded entry is declared. -/
structure Pooled (b : Builder) : Prop where
  types : b.types.Interned b.module.typeSection
  scalar : ∀ i ∈ b.module.declarations.toList, i.op = Op.constant →
    ∃ ty bits, i.resultType = some ty ∧ i.operands = [bits] ∧
      (ty, bits) ∈ b.constants.scalars.map Prod.fst
  boolean : ∀ i ∈ b.module.declarations.toList, ∀ value : Bool,
    i.op = (if value then Op.constantTrue else Op.constantFalse) →
    ∃ ty, i.resultType = some ty ∧ b.types.find? .bool = some ty ∧
      (ty, if value then 1 else 0) ∈ b.constants.scalars.map Prod.fst
  composite : ∀ i ∈ b.module.declarations.toList, i.op = Op.constantComposite →
    ∃ ty, i.resultType = some ty ∧ (ty, i.operands) ∈ b.constants.composites.map Prod.fst
  null : ∀ i ∈ b.module.declarations.toList, i.op = Op.constantNull →
    ∃ ty, i.resultType = some ty ∧ ty ∈ b.constants.nulls.map Prod.fst
  scalars_nodup : ((b.module.declarations.toList.filter (·.op = Op.constant)).map
    fun i => (i.resultType, i.operands)).Nodup
  composites_nodup : ((b.module.declarations.toList.filter (·.op = Op.constantComposite)).map
    fun i => (i.resultType, i.operands)).Nodup
  nulls_nodup : ((b.module.declarations.toList.filter (·.op = Op.constantNull)).map
    (·.resultType)).Nodup
  booleans : ∀ value : Bool, b.module.declarations.toList.countP
    (·.op = if value then Op.constantTrue else Op.constantFalse) ≤ 1
  scalarDeclared : ∀ e ∈ b.constants.scalars, b.types.find? .bool = some e.1.1 ∨
    { op := Op.constant, resultType := some e.1.1, result := some e.2, operands := [e.1.2] } ∈
      b.module.declarations.toList
  compositeDeclared : ∀ e ∈ b.constants.composites,
    { op := Op.constantComposite, resultType := some e.1.1, result := some e.2, operands := e.1.2 } ∈
      b.module.declarations.toList

namespace Pooled

variable {b : Builder}

/-- Declaring anything but constants, with the constants and the table's ids kept, keeps the
pools accounting for the declarations. -/
theorem extend (h : b.Pooled) {b' : Builder} (htypes : b'.types.Interned b'.module.typeSection)
    (hfind : ∀ k id, b.types.find? k = some id → b'.types.find? k = some id)
    (hconst : b'.constants = b.constants)
    (hdecl : ∃ new, b'.module.declarations.toList = b.module.declarations.toList ++ new ∧
      ∀ i ∈ new, ¬i.IsConstant) : b'.Pooled := by
  obtain ⟨new, hd, hnew⟩ := hdecl
  -- the new declarations are no constants, so every constant is an old one
  have hold : ∀ i ∈ b'.module.declarations.toList, i.IsConstant → i ∈ b.module.declarations.toList := by
    intro i hi hc
    rw [hd] at hi
    rcases List.mem_append.1 hi with hi | hi
    · exact hi
    · exact absurd hc (hnew i hi)
  have hconstant : ∀ o : Op, 41 ≤ o.code → o.code ≤ 46 → ∀ i : Instruction, i.op = o → i.IsConstant :=
    fun o h₁ h₂ i hi => by unfold Instruction.IsConstant; rw [hi]; exact ⟨h₁, h₂⟩
  have hfilter : ∀ o : Op, 41 ≤ o.code → o.code ≤ 46 →
      b'.module.declarations.toList.filter (·.op = o) = b.module.declarations.toList.filter (·.op = o) := by
    intro o h₁ h₂
    rw [hd, List.filter_append, List.filter_eq_nil_iff.2 fun i hi hio =>
      hnew i hi (hconstant o h₁ h₂ i (of_decide_eq_true hio)), List.append_nil]
  refine ⟨htypes, ?_, ?_, ?_, ?_, ?_, ?_, ?_, ?_, ?_, ?_⟩
  · intro i hi hop
    rw [hconst]
    exact h.scalar i (hold i hi (hconstant _ (by decide) (by decide) i hop)) hop
  · intro i hi value hop
    obtain ⟨ty, hty, hbool, hkey⟩ := h.boolean i (hold i hi (hconstant _ (by split <;> decide)
      (by split <;> decide) i hop)) value hop
    exact ⟨ty, hty, hfind _ _ hbool, hconst ▸ hkey⟩
  · intro i hi hop
    rw [hconst]
    exact h.composite i (hold i hi (hconstant _ (by decide) (by decide) i hop)) hop
  · intro i hi hop
    rw [hconst]
    exact h.null i (hold i hi (hconstant _ (by decide) (by decide) i hop)) hop
  · rw [hfilter _ (by decide) (by decide)]
    exact h.scalars_nodup
  · rw [hfilter _ (by decide) (by decide)]
    exact h.composites_nodup
  · rw [hfilter _ (by decide) (by decide)]
    exact h.nulls_nodup
  · intro value
    rw [List.countP_eq_length_filter, hfilter _ (by split <;> decide) (by split <;> decide),
      ← List.countP_eq_length_filter]
    exact h.booleans value
  · intro e he
    rw [hconst] at he
    rcases h.scalarDeclared e he with hbool | hmem
    · exact .inl (hfind _ _ hbool)
    · exact .inr (hd ▸ List.mem_append_left _ hmem)
  · intro e he
    rw [hconst] at he
    exact hd ▸ List.mem_append_left _ (h.compositeDeclared e he)

end Pooled

/-! ### Declaring a constant -/

section Push

variable {m : Module} {d i : Instruction}

theorem mem_push_constant :
    i ∈ (m.bump.push .declarations d).declarations.toList ↔ i ∈ m.declarations.toList ∨ i = d := by
  simp

theorem filter_push_of_ne {o : Op} (hop : d.op ≠ o) :
    (m.bump.push .declarations d).declarations.toList.filter (·.op = o) =
      m.declarations.toList.filter (·.op = o) := by
  simp [hop]

theorem filter_push_self {o : Op} (hop : d.op = o) :
    (m.bump.push .declarations d).declarations.toList.filter (·.op = o) =
      m.declarations.toList.filter (·.op = o) ++ [d] := by
  simp [hop]

/-- A constant declared under the next id keeps the table interned in the type section. -/
theorem interned_push_constant {T : TypeTable} (hT : T.Interned m.typeSection) (hd : d.IsConstant) :
    T.Interned (m.bump.push .declarations d).typeSection := by
  rw [Module.typeSection_push_of_not_isType fun ht => ht.not_isConstant hd, Module.typeSection_bump]
  exact hT.of_nextId_le (Nat.le_succ _) rfl

end Push

namespace Pooled

variable {b : Builder}

/-- Declaring a missing scalar constant under the next id, and recording it in the scalar pool,
keeps the builder pooled. -/
theorem addScalar (h : b.Pooled) {ty bits : Nat} (hmiss : b.constants.scalars.lookup (ty, bits) = none) :
    Pooled ⟨b.module.bump.push .declarations
        { op := Op.constant, resultType := some ty, result := some b.module.nextId, operands := [bits] },
      b.types, { b.constants with scalars := ((ty, bits), b.module.nextId) :: b.constants.scalars }⟩ := by
  have hnew := not_mem_keys_of_lookup hmiss
  refine ⟨interned_push_constant h.types (show 41 ≤ Op.constant.code ∧ Op.constant.code ≤ 46 by decide),
    ?_, ?_, ?_, ?_, ?_, ?_, ?_, ?_, ?_, ?_⟩ <;> dsimp only
  · intro i hi hop
    rcases mem_push_constant.1 hi with hi | rfl
    · obtain ⟨ty', bits', hty, hops, hkey⟩ := h.scalar i hi hop
      exact ⟨ty', bits', hty, hops, List.mem_cons_of_mem _ hkey⟩
    · exact ⟨ty, bits, rfl, rfl, List.mem_cons_self⟩
  · intro i hi value hop
    rcases mem_push_constant.1 hi with hi | rfl
    · obtain ⟨ty', hty, hbool, hkey⟩ := h.boolean i hi value hop
      exact ⟨ty', hty, hbool, List.mem_cons_of_mem _ hkey⟩
    · have hop' : Op.constant = if value then Op.constantTrue else Op.constantFalse := hop
      cases value <;> exact absurd hop' (by decide)
  · intro i hi hop
    rcases mem_push_constant.1 hi with hi | rfl
    · exact h.composite i hi hop
    · exact absurd (show Op.constant = Op.constantComposite from hop) (by decide)
  · intro i hi hop
    rcases mem_push_constant.1 hi with hi | rfl
    · exact h.null i hi hop
    · exact absurd (show Op.constant = Op.constantNull from hop) (by decide)
  · -- the new constant's type and bits were not recorded, so no constant had them
    rw [filter_push_self (o := Op.constant) rfl, List.map_append, List.nodup_append]
    refine ⟨h.scalars_nodup, List.nodup_singleton _, fun x hx y hy hxy => ?_⟩
    obtain ⟨i, hi, rfl⟩ := List.mem_map.1 hx
    obtain ⟨hi, hop⟩ := List.mem_filter.1 hi
    obtain ⟨ty', bits', hty, hops, hkey⟩ := h.scalar i hi (of_decide_eq_true hop)
    rw [List.mem_singleton.1 hy, hty, hops] at hxy
    simp only [Prod.mk.injEq, Option.some.injEq, List.cons.injEq, and_true] at hxy
    rw [hxy.1, hxy.2] at hkey
    exact hnew hkey
  · rw [filter_push_of_ne (show Op.constant ≠ Op.constantComposite by decide)]
    exact h.composites_nodup
  · rw [filter_push_of_ne (show Op.constant ≠ Op.constantNull by decide)]
    exact h.nulls_nodup
  · intro value
    rw [List.countP_eq_length_filter, filter_push_of_ne (show Op.constant ≠ _ by cases value <;> decide),
      ← List.countP_eq_length_filter]
    exact h.booleans value
  · intro e he
    rcases List.mem_cons.1 he with rfl | he
    · exact .inr (mem_push_constant.2 (.inr rfl))
    · exact (h.scalarDeclared e he).imp_right fun hmem => mem_push_constant.2 (.inl hmem)
  · intro e he
    exact mem_push_constant.2 (.inl (h.compositeDeclared e he))

/-- Declaring a missing boolean constant of the boolean type under the next id, and recording it
in the scalar pool, keeps the builder pooled: it is the first declaration of its value. -/
theorem addBoolean (h : b.Pooled) (value : Bool) {ty : Nat} (hty : b.types.find? .bool = some ty)
    (hmiss : b.constants.scalars.lookup (ty, if value then 1 else 0) = none) :
    Pooled ⟨b.module.bump.push .declarations
        { op := if value then Op.constantTrue else Op.constantFalse, resultType := some ty,
          result := some b.module.nextId },
      b.types, { b.constants with
        scalars := ((ty, if value then 1 else 0), b.module.nextId) :: b.constants.scalars }⟩ := by
  have hnew := not_mem_keys_of_lookup hmiss
  have hops : ∀ o : Op, (o = Op.constant ∨ o = Op.constantComposite ∨ o = Op.constantNull) →
      (if value then Op.constantTrue else Op.constantFalse) ≠ o := by
    rintro o (rfl | rfl | rfl) <;> cases value <;> decide
  refine ⟨interned_push_constant h.types (show 41 ≤ (if value then Op.constantTrue else
      Op.constantFalse).code ∧ (if value then Op.constantTrue else Op.constantFalse).code ≤ 46 by
      cases value <;> decide),
    ?_, ?_, ?_, ?_, ?_, ?_, ?_, ?_, ?_, ?_⟩ <;> dsimp only
  · intro i hi hop
    rcases mem_push_constant.1 hi with hi | rfl
    · obtain ⟨ty', bits', hty', hops', hkey⟩ := h.scalar i hi hop
      exact ⟨ty', bits', hty', hops', List.mem_cons_of_mem _ hkey⟩
    · exact absurd hop (hops _ (.inl rfl))
  · intro i hi value' hop
    rcases mem_push_constant.1 hi with hi | rfl
    · obtain ⟨ty', hty', hbool, hkey⟩ := h.boolean i hi value' hop
      exact ⟨ty', hty', hbool, List.mem_cons_of_mem _ hkey⟩
    · have hop' : (if value then Op.constantTrue else Op.constantFalse) =
          (if value' then Op.constantTrue else Op.constantFalse) := hop
      obtain rfl : value = value' := by
        cases value <;> cases value' <;> first | rfl | exact absurd hop' (by decide)
      exact ⟨ty, rfl, hty, List.mem_cons_self⟩
  · intro i hi hop
    rcases mem_push_constant.1 hi with hi | rfl
    · exact h.composite i hi hop
    · exact absurd hop (hops _ (.inr (.inl rfl)))
  · intro i hi hop
    rcases mem_push_constant.1 hi with hi | rfl
    · exact h.null i hi hop
    · exact absurd hop (hops _ (.inr (.inr rfl)))
  · rw [filter_push_of_ne (hops _ (.inl rfl))]
    exact h.scalars_nodup
  · rw [filter_push_of_ne (hops _ (.inr (.inl rfl)))]
    exact h.composites_nodup
  · rw [filter_push_of_ne (hops _ (.inr (.inr rfl)))]
    exact h.nulls_nodup
  · intro value'
    by_cases hv : value' = value
    · -- a boolean constant of this value would have its entry in the pool already
      subst hv
      have hnone : b.module.declarations.toList.countP
          (·.op = if value' then Op.constantTrue else Op.constantFalse) = 0 := by
        refine List.countP_eq_zero.2 fun i hi hop => ?_
        obtain ⟨ty', -, hbool, hkey⟩ := h.boolean i hi value' (of_decide_eq_true hop)
        rw [Option.some.inj (hbool.symm.trans hty)] at hkey
        exact hnew hkey
      rw [List.countP_eq_length_filter,
        filter_push_self (o := if value' then Op.constantTrue else Op.constantFalse) rfl, List.length_append,
        ← List.countP_eq_length_filter, hnone]
      rfl
    · have hne : (if value then Op.constantTrue else Op.constantFalse) ≠
          (if value' then Op.constantTrue else Op.constantFalse) := by
        cases value <;> cases value' <;> first | exact absurd rfl hv | decide
      rw [List.countP_eq_length_filter, filter_push_of_ne hne, ← List.countP_eq_length_filter]
      exact h.booleans value'
  · intro e he
    rcases List.mem_cons.1 he with rfl | he
    · exact .inl hty
    · exact (h.scalarDeclared e he).imp_right fun hmem => mem_push_constant.2 (.inl hmem)
  · intro e he
    exact mem_push_constant.2 (.inl (h.compositeDeclared e he))

/-- Declaring a missing composite constant under the next id, and recording it in the composite
pool, keeps the builder pooled. -/
theorem addComposite (h : b.Pooled) {ty : Nat} {parts : List Nat}
    (hmiss : b.constants.composites.lookup (ty, parts) = none) :
    Pooled ⟨b.module.bump.push .declarations
        { op := Op.constantComposite, resultType := some ty, result := some b.module.nextId,
          operands := parts },
      b.types, { b.constants with
        composites := ((ty, parts), b.module.nextId) :: b.constants.composites }⟩ := by
  have hnew := not_mem_keys_of_lookup hmiss
  refine ⟨interned_push_constant h.types
      (show 41 ≤ Op.constantComposite.code ∧ Op.constantComposite.code ≤ 46 by decide),
    ?_, ?_, ?_, ?_, ?_, ?_, ?_, ?_, ?_, ?_⟩ <;> dsimp only
  · intro i hi hop
    rcases mem_push_constant.1 hi with hi | rfl
    · exact h.scalar i hi hop
    · exact absurd (show Op.constantComposite = Op.constant from hop) (by decide)
  · intro i hi value hop
    rcases mem_push_constant.1 hi with hi | rfl
    · exact h.boolean i hi value hop
    · have hop' : Op.constantComposite = if value then Op.constantTrue else Op.constantFalse := hop
      cases value <;> exact absurd hop' (by decide)
  · intro i hi hop
    rcases mem_push_constant.1 hi with hi | rfl
    · obtain ⟨ty', hty, hkey⟩ := h.composite i hi hop
      exact ⟨ty', hty, List.mem_cons_of_mem _ hkey⟩
    · exact ⟨ty, rfl, List.mem_cons_self⟩
  · intro i hi hop
    rcases mem_push_constant.1 hi with hi | rfl
    · exact h.null i hi hop
    · exact absurd (show Op.constantComposite = Op.constantNull from hop) (by decide)
  · rw [filter_push_of_ne (show Op.constantComposite ≠ Op.constant by decide)]
    exact h.scalars_nodup
  · -- the new constant's type and constituents were not recorded, so no constant had them
    rw [filter_push_self (o := Op.constantComposite) rfl, List.map_append, List.nodup_append]
    refine ⟨h.composites_nodup, List.nodup_singleton _, fun x hx y hy hxy => ?_⟩
    obtain ⟨i, hi, rfl⟩ := List.mem_map.1 hx
    obtain ⟨hi, hop⟩ := List.mem_filter.1 hi
    obtain ⟨ty', hty, hkey⟩ := h.composite i hi (of_decide_eq_true hop)
    rw [List.mem_singleton.1 hy, hty] at hxy
    simp only [Prod.mk.injEq, Option.some.injEq] at hxy
    rw [hxy.1, hxy.2] at hkey
    exact hnew hkey
  · rw [filter_push_of_ne (show Op.constantComposite ≠ Op.constantNull by decide)]
    exact h.nulls_nodup
  · intro value
    rw [List.countP_eq_length_filter,
      filter_push_of_ne (show Op.constantComposite ≠ _ by cases value <;> decide),
      ← List.countP_eq_length_filter]
    exact h.booleans value
  · intro e he
    exact (h.scalarDeclared e he).imp_right fun hmem => mem_push_constant.2 (.inl hmem)
  · intro e he
    rcases List.mem_cons.1 he with rfl | he
    · exact mem_push_constant.2 (.inr rfl)
    · exact mem_push_constant.2 (.inl (h.compositeDeclared e he))

/-- Declaring a missing null constant under the next id, and recording it in the null pool,
keeps the builder pooled. -/
theorem addNull (h : b.Pooled) {ty : Nat} (hmiss : b.constants.nulls.lookup ty = none) :
    Pooled ⟨b.module.bump.push .declarations
        { op := Op.constantNull, resultType := some ty, result := some b.module.nextId },
      b.types, { b.constants with nulls := (ty, b.module.nextId) :: b.constants.nulls }⟩ := by
  have hnew := not_mem_keys_of_lookup hmiss
  refine ⟨interned_push_constant h.types
      (show 41 ≤ Op.constantNull.code ∧ Op.constantNull.code ≤ 46 by decide),
    ?_, ?_, ?_, ?_, ?_, ?_, ?_, ?_, ?_, ?_⟩ <;> dsimp only
  · intro i hi hop
    rcases mem_push_constant.1 hi with hi | rfl
    · exact h.scalar i hi hop
    · exact absurd (show Op.constantNull = Op.constant from hop) (by decide)
  · intro i hi value hop
    rcases mem_push_constant.1 hi with hi | rfl
    · exact h.boolean i hi value hop
    · have hop' : Op.constantNull = if value then Op.constantTrue else Op.constantFalse := hop
      cases value <;> exact absurd hop' (by decide)
  · intro i hi hop
    rcases mem_push_constant.1 hi with hi | rfl
    · exact h.composite i hi hop
    · exact absurd (show Op.constantNull = Op.constantComposite from hop) (by decide)
  · intro i hi hop
    rcases mem_push_constant.1 hi with hi | rfl
    · obtain ⟨ty', hty, hkey⟩ := h.null i hi hop
      exact ⟨ty', hty, List.mem_cons_of_mem _ hkey⟩
    · exact ⟨ty, rfl, List.mem_cons_self⟩
  · rw [filter_push_of_ne (show Op.constantNull ≠ Op.constant by decide)]
    exact h.scalars_nodup
  · rw [filter_push_of_ne (show Op.constantNull ≠ Op.constantComposite by decide)]
    exact h.composites_nodup
  · -- the new constant's type was not recorded, so no null constant had it
    rw [filter_push_self (o := Op.constantNull) rfl, List.map_append, List.nodup_append]
    refine ⟨h.nulls_nodup, List.nodup_singleton _, fun x hx y hy hxy => ?_⟩
    obtain ⟨i, hi, rfl⟩ := List.mem_map.1 hx
    obtain ⟨hi, hop⟩ := List.mem_filter.1 hi
    obtain ⟨ty', hty, hkey⟩ := h.null i hi (of_decide_eq_true hop)
    rw [List.mem_singleton.1 hy, hty, Option.some.injEq] at hxy
    rw [hxy] at hkey
    exact hnew hkey
  · intro value
    rw [List.countP_eq_length_filter,
      filter_push_of_ne (show Op.constantNull ≠ _ by cases value <;> decide),
      ← List.countP_eq_length_filter]
    exact h.booleans value
  · intro e he
    exact (h.scalarDeclared e he).imp_right fun hmem => mem_push_constant.2 (.inl hmem)
  · intro e he
    exact mem_push_constant.2 (.inl (h.compositeDeclared e he))

end Pooled

/-! ### The building steps keep the pools -/

/-- Asking a pooled builder for a type with a canonical key keeps it pooled, returns the id the
table records for the key afterwards, and keeps the ids the table had. -/
theorem typeId_pooled {d : TypeDesc} {k : TypeKey} (hk : d.key? = some k) (hcanon : k.Canonical)
    {b : Builder} (h : b.Pooled) :
    (typeId d b).2.Pooled ∧ (typeId d b).2.types.find? k = some (typeId d b).1 ∧
      ∀ k' id, b.types.find? k' = some id → (typeId d b).2.types.find? k' = some id := by
  -- the interning results hold of the type view, which the call commutes with
  have hres := typeId_resolves_of_key hk hcanon (b := b.typeView) h.types
  rw [typeId_typeView hk hcanon] at hres
  obtain ⟨new, hint, -⟩ := hres.interns
  have hfind : ∀ k' id, b.types.find? k' = some id → (typeId d b).2.types.find? k' = some id :=
    fun _ _ h' => hint.find?_eq h'
  obtain ⟨hconst, new', hd, hnew⟩ := typeId_addsTypes hk hcanon b
  exact ⟨h.extend hres.interned hfind hconst ⟨new', hd, fun i hi => (hnew i hi).not_isConstant⟩,
    hres.find?_eq, hfind⟩

section

set_option mvcgen.warning false

attribute [local spec] alloc_spec declare_spec

variable {d : TypeDesc} {k : TypeKey} (hk : d.key? = some k) (hcanon : k.Canonical)
include hk hcanon

theorem typeId_pooled_spec :
    ⦃fun b => ⌜b.Pooled⌝⦄ typeId d ⦃⇓ r b => ⌜b.Pooled ∧ b.types.find? k = some r⌝⦄ :=
  triple_of_run fun _ h => ⟨(typeId_pooled hk hcanon h).1, (typeId_pooled hk hcanon h).2.1⟩

/-- A scalar constant of a type with a canonical key is the one the scalar pool records under the
type and the bits. -/
theorem scalar_pooled (bits : Nat) :
    ⦃fun b => ⌜b.Pooled⌝⦄ scalar d bits
      ⦃⇓ r b => ⌜b.Pooled ∧ ∃ ty, b.types.find? k = some ty ∧
        b.constants.scalars.lookup (ty, bits) = some r⌝⦄ := by
  have htype := typeId_pooled_spec hk hcanon
  mvcgen [scalar, htype] with
    (obtain ⟨hpool, hty⟩ := ‹Pooled _ ∧ _›
     first
     | exact ⟨hpool, _, hty, ‹_›⟩
     | exact ⟨hpool.addScalar ‹_›, _, hty, List.lookup_cons_self⟩)

/-- A composite constant of a type with a canonical key is the one the composite pool records
under the type and the constituents. -/
theorem composite_pooled (parts : List Nat) :
    ⦃fun b => ⌜b.Pooled⌝⦄ composite d parts
      ⦃⇓ r b => ⌜b.Pooled ∧ ∃ ty, b.types.find? k = some ty ∧
        b.constants.composites.lookup (ty, parts) = some r⌝⦄ := by
  have htype := typeId_pooled_spec hk hcanon
  mvcgen [composite, htype] with
    (obtain ⟨hpool, hty⟩ := ‹Pooled _ ∧ _›
     first
     | exact ⟨hpool, _, hty, ‹_›⟩
     | exact ⟨hpool.addComposite ‹_›, _, hty, List.lookup_cons_self⟩)

theorem null_pooled : ⦃fun b => ⌜b.Pooled⌝⦄ null d ⦃⇓ _ b => ⌜b.Pooled⌝⦄ := by
  have htype := typeId_pooled_spec hk hcanon
  mvcgen [null, htype] with
    (obtain ⟨hpool, -⟩ := ‹Pooled _ ∧ _›
     first
     | exact hpool
     | exact hpool.addNull ‹_›)

omit hk hcanon in
theorem boolean_pooled (value : Bool) :
    ⦃fun b => ⌜b.Pooled⌝⦄ boolean value ⦃⇓ _ b => ⌜b.Pooled⌝⦄ := by
  have htype := typeId_pooled_spec (d := TypeDesc.bool) (k := .bool) rfl trivial
  mvcgen [boolean, htype] with
    (obtain ⟨hpool, hty⟩ := ‹Pooled _ ∧ _›
     first
     | exact hpool
     | exact hpool.addBoolean value hty ‹_›)

end

/-- Every step of module building that lowering takes keeps the builder pooled. -/
theorem pooled_kept : Kept Pooled where
  bump _ h := h.extend (h.types.of_nextId_le (Nat.le_succ _) rfl) (fun _ _ hf => hf) rfl
    ⟨[], by simp, nofun⟩
  push _ sec i hsec h := h.extend
    (h.types.of_nextId_le (by simp) (by simp [Module.typeSection, Module.declarations_push_of_ne hsec]))
    (fun _ _ hf => hf) rfl ⟨[], by simp [Module.declarations_push_of_ne hsec], nofun⟩
  pushVariable _ i hi h := h.extend
    (by
      rw [Module.typeSection_push_of_not_isType fun ht => by
        unfold Instruction.IsType at ht; rw [hi] at ht; exact absurd ht (by decide)]
      exact h.types)
    (fun _ _ hf => hf) rfl
    ⟨[i], by simp, fun j hj hc => by
      rw [List.mem_singleton.1 hj] at hc; unfold Instruction.IsConstant at hc; rw [hi] at hc
      exact absurd hc (by decide)⟩
  typeId d hd :=
    have ⟨_, hk, hcanon⟩ := hd.key_canonical
    triple_of_run fun _ h => (typeId_pooled hk hcanon h).1
  scalar d bits hd :=
    have ⟨_, hk, hcanon⟩ := hd.key_canonical
    triple_of_run fun b h => (run_of_triple (scalar_pooled hk hcanon bits) b h).1
  boolean := boolean_pooled
  composite d parts hd :=
    have ⟨_, hk, hcanon⟩ := hd.key_canonical
    triple_of_run fun b h => (run_of_triple (composite_pooled hk hcanon parts) b h).1
  null d hd :=
    have ⟨_, hk, hcanon⟩ := hd.key_canonical
    null_pooled hk hcanon

/-! ### Declarations are only added -/

section Growing

set_option mvcgen.warning false

attribute [local spec] alloc_spec declare_spec

variable (l : List Instruction)

theorem prefix_push_constant {m : Module} {d : Instruction} (h : l <+: m.declarations.toList) :
    l <+: (m.bump.push .declarations d).declarations.toList := by
  simpa using h.trans (List.prefix_append _ [d])

theorem typeId_grows {d : TypeDesc} (hd : d.Canonical) :
    ⦃fun b => ⌜l <+: b.module.declarations.toList⌝⦄ typeId d
      ⦃⇓ _ b => ⌜l <+: b.module.declarations.toList⌝⦄ :=
  have ⟨_, hk, hcanon⟩ := hd.key_canonical
  triple_of_run fun b h => by
    obtain ⟨-, new, hdecl, -⟩ := typeId_addsTypes hk hcanon b
    rw [hdecl]
    exact h.trans (List.prefix_append _ _)

/-- The declarations a builder has stay, in order, at the front of its declarations: every step
of module building that lowering takes only appends. -/
theorem growing_kept : Kept fun b => l <+: b.module.declarations.toList where
  bump _ h := h
  push _ _ _ hsec h := by simpa [Module.declarations_push_of_ne hsec] using h
  pushVariable _ i _ h := by simpa using h.trans (List.prefix_append _ [i])
  typeId d hd := typeId_grows l hd
  scalar d _ hd := by
    have htype := typeId_grows l hd
    mvcgen [scalar, htype] with exact prefix_push_constant l ‹_›
  boolean _ := by
    have htype := typeId_grows l TypeDesc.canonical_bool
    mvcgen [boolean, htype] with exact prefix_push_constant l ‹_›
  composite d _ hd := by
    have htype := typeId_grows l hd
    mvcgen [composite, htype] with exact prefix_push_constant l ‹_›
  null d hd := by
    have htype := typeId_grows l hd
    mvcgen [null, htype] with exact prefix_push_constant l ‹_›

end Growing

/-- A property of the module that every module with more declarations after its own has too is
kept. -/
theorem monotone_kept (P : Module → Prop)
    (hP : ∀ m m', P m → m.declarations.toList <+: m'.declarations.toList → P m') :
    Kept fun b => P b.module where
  bump b h := hP _ _ h ((growing_kept _).bump b (List.prefix_refl _))
  push b sec i hsec h := hP _ _ h ((growing_kept _).push b sec i hsec (List.prefix_refl _))
  pushVariable b i hi h := hP _ _ h ((growing_kept _).pushVariable b i hi (List.prefix_refl _))
  typeId d hd := triple_of_run fun b h =>
    hP _ _ h (run_of_triple ((growing_kept _).typeId d hd) b (List.prefix_refl _))
  scalar d bits hd := triple_of_run fun b h =>
    hP _ _ h (run_of_triple ((growing_kept _).scalar d bits hd) b (List.prefix_refl _))
  boolean value := triple_of_run fun b h =>
    hP _ _ h (run_of_triple ((growing_kept _).boolean value) b (List.prefix_refl _))
  composite d parts hd := triple_of_run fun b h =>
    hP _ _ h (run_of_triple ((growing_kept _).composite d parts hd) b (List.prefix_refl _))
  null d hd := triple_of_run fun b h =>
    hP _ _ h (run_of_triple ((growing_kept _).null d hd) b (List.prefix_refl _))

/-! ### What a pooled module declares -/

namespace Pooled

variable {b : Builder}

/-- No two type declarations of a pooled builder are identical apart from their result ids. -/
theorem types_distinct (h : b.Pooled) :
    ((b.module.declarations.toList.filter fun i => decide i.IsType).map
      fun i => { i with result := none }).Nodup := by
  have hT := h.types
  have hdecl := hT.declarations
  rw [Module.declarations_typeSection] at hdecl
  rw [hdecl, List.map_map]
  -- with the result erased, a declaration of the table is the declaration its key gives
  have herase : ((fun i : Instruction => { i with result := none }) ∘
      fun p : TypeKey × Nat => { b.types.declarationOf p.1 with result := some p.2 }) =
      fun p => b.types.declarationOf p.1 :=
    funext fun p => TypeTable.erase_result_declarationOf _ p.1 _
  rw [herase]
  refine List.Nodup.map_on (fun p hp q hq hpq => ?_)
    (List.nodup_reverse.2 (List.Nodup.of_map Prod.fst hT.keys_nodup))
  rw [List.mem_reverse] at hp hq
  have hnamed : ∀ p ∈ b.types.entries, ∀ k ∈ p.1.named, ∃ id, b.types.find? k = some id :=
    fun p hp k hk => (hT.named_before p hp k hk).imp fun _ h => h.1
  -- equal declarations have equal keys, and a key has one id
  have hkey : p.1 = q.1 := hT.declarationOf_inj (hT.canonical p hp) (hT.canonical q hq)
    (hnamed p hp) (hnamed q hq) hpq
  have hid := TypeTable.find?_of_mem hT.keys_nodup hp
  rw [hkey, TypeTable.find?_of_mem hT.keys_nodup hq] at hid
  exact Prod.ext hkey (Option.some.inj hid).symm

/-- The type a pooled builder's table records is declared, as its key says. -/
theorem declares_of_find (h : b.Pooled) {k : TypeKey} {id : Nat} (hf : b.types.find? k = some id) :
    { b.types.declarationOf k with result := some id } ∈ b.module.declarations.toList := by
  have hmem : { b.types.declarationOf k with result := some id } ∈
      b.module.typeSection.declarations.toList := by
    rw [h.types.declarations]
    exact List.mem_map.2 ⟨(k, id), List.mem_reverse.2 (TypeTable.mem_of_find? hf), rfl⟩
  rw [Module.declarations_typeSection] at hmem
  exact (List.mem_filter.1 hmem).1

end Pooled

end Builder

end ShaderBridge.Spirv
