import ShaderBridge.Proofs.TypeTable

/-!
Interning of types: two requests get one id exactly when their keys are equal, and a type is
declared only for a key missing from the table, after the types it names.
-/

namespace ShaderBridge.Spirv

namespace TypeDesc

/-- A description built by one of the constructors, a vector's component being a float, a
signed integer or a boolean. -/
inductive Constructed : TypeDesc → Prop
  | void : Constructed void
  | bool : Constructed bool
  | float : Constructed float
  | int (signed : Bool) : Constructed (int signed)
  | vector {component : Op} (count : Nat)
      (hcomponent : component = Op.typeFloat ∨ component = Op.typeInt ∨ component = Op.typeBool) :
      Constructed (vector component count)
  | uintVector (count : Nat) : Constructed (uintVector count)
  | floatN (count : Nat) : Constructed (floatN count)
  | image (dim : Dim) : Constructed (image dim)
  | sampledImage (dim : Dim) : Constructed (sampledImage dim)
  | sampler : Constructed sampler
  | array (element length : Nat) : Constructed (array element length)
  | struct (members : List Nat) : Constructed (struct members)
  | function (result : Nat) (parameters : List Nat) : Constructed (function result parameters)
  | pointer (pointee : Nat) (storageClass : StorageClass) :
      Constructed (pointer pointee storageClass)

end TypeDesc

namespace TypeKey

/-- The keys of the types a key's declaration names by id: a vector's component, an image's
sampled float, a sampled image's image, and a matrix's column. -/
def named : TypeKey → List TypeKey
  | .aggregate primary component count signedness =>
    if primary = Op.typeMatrix.code then
      [.aggregate Op.typeVector.code component count (if component = Op.typeInt.code then 1 else 0)]
    else [TypeKey.component component signedness]
  | .composite primary arguments =>
    if primary = Op.typeImage.code then [.float]
    else if primary = Op.typeSampledImage.code then
      [.composite Op.typeImage.code [(Dim.ofCode (arguments.headD 1)).code]]
    else []
  | _ => []

/-- A key names keys of lower rank. -/
theorem rank_lt_of_mem_named {k k' : TypeKey} (h : k' ∈ k.named) : k'.rank < k.rank := by
  cases k with
  | aggregate primary component count signedness =>
    simp only [named] at h
    by_cases hm : primary = Op.typeMatrix.code
    · rw [if_pos hm, List.mem_singleton] at h
      subst h
      simp [rank, hm, Op.typeVector, Op.typeMatrix]
    · rw [if_neg hm, List.mem_singleton] at h
      subst h
      rw [rank_component, rank, if_neg hm]
      exact Nat.one_pos
  | composite primary arguments =>
    simp only [named] at h
    split at h
    · rw [List.mem_singleton] at h
      subst h
      simp_all [rank, Op.typeImage, Op.typeSampledImage]
    · split at h
      · rw [List.mem_singleton] at h
        subst h
        simp_all [rank, Op.typeImage, Op.typeSampledImage]
      · cases h
  | _ => cases h

/-- The keys of the descriptions lowering asks for. -/
def Canonical : TypeKey → Prop
  | .aggregate primary component _ signedness =>
    primary = Op.typeVector.code ∧
      (component = Op.typeFloat.code ∧ signedness = 0 ∨ component = Op.typeBool.code ∧ signedness = 0 ∨
        component = Op.typeInt.code ∧ signedness ≤ 1)
  | .composite primary arguments =>
    (primary = Op.typeImage.code ∨ primary = Op.typeSampledImage.code) ∧
        (∃ dim : Dim, arguments = [dim.code]) ∨
      primary = Op.typeArray.code ∧ arguments.length = 2 ∨ primary = Op.typeStruct.code ∨
      primary = Op.typeFunction.code ∧ arguments ≠ []
  | _ => True

end TypeKey

namespace TypeTable

/-- The declaration of the type with key `k`, apart from its result id: the key fixes the
opcode and the literal operands, and the table gives the ids of the types it names. -/
def declarationOf (T : TypeTable) : TypeKey → Instruction
  | .void => { op := Op.typeVoid }
  | .bool => { op := Op.typeBool }
  | .float => { op := Op.typeFloat, operands := [32] }
  | .sampler => { op := Op.typeSampler }
  | .int signedness => { op := Op.typeInt, operands := [32, signedness] }
  | .aggregate primary component count signedness =>
    if primary = Op.typeMatrix.code then
      { op := Op.typeMatrix,
        operands := [(T.find? (.aggregate Op.typeVector.code component count
          (if component = Op.typeInt.code then 1 else 0))).getD 0, count] }
    else
      { op := Op.typeVector,
        operands := [(T.find? (TypeKey.component component signedness)).getD 0, count] }
  | .composite primary arguments =>
    if primary = Op.typeImage.code then
      { op := Op.typeImage,
        operands := [(T.find? .float).getD 0, (Dim.ofCode (arguments.headD 1)).code, 0, 0, 0, 1, 0] }
    else if primary = Op.typeSampledImage.code then
      { op := Op.typeSampledImage,
        operands := [(T.find? (.composite Op.typeImage.code
          [(Dim.ofCode (arguments.headD 1)).code])).getD 0] }
    else if primary = Op.typeArray.code then
      { op := Op.typeArray, operands := [arguments.headD 0, (arguments.drop 1).headD 0] }
    else if primary = Op.typeStruct.code then { op := Op.typeStruct, operands := arguments }
    else { op := Op.typeFunction, operands := arguments.headD 0 :: arguments.drop 1 }
  | .pointer storageClass pointee => { op := Op.typePointer, operands := [storageClass, pointee] }

/-- A declaration reads the table only at the keys it names. -/
theorem declarationOf_congr {T T' : TypeTable} {k : TypeKey}
    (h : ∀ k' ∈ k.named, T.find? k' = T'.find? k') : T.declarationOf k = T'.declarationOf k := by
  cases k with
  | aggregate primary component count signedness =>
    by_cases hm : primary = Op.typeMatrix.code <;>
      simp_all [declarationOf, TypeKey.named]
  | composite primary arguments =>
    by_cases hi : primary = Op.typeImage.code
    · simp_all [declarationOf, TypeKey.named]
    · by_cases hs : primary = Op.typeSampledImage.code <;> simp_all [declarationOf, TypeKey.named]
  | _ => rfl

@[simp] theorem declarationOf_result (T : TypeTable) (k : TypeKey) : (T.declarationOf k).result = none := by
  cases k <;> simp only [declarationOf] <;> split_ifs <;> rfl

/-- The table is interned in module `m`: unique keys and ids handed out in order, and declarations
that are exactly the table's types, in id order. -/
structure Interned (T : TypeTable) (m : Module) : Prop where
  keys_nodup : (T.entries.map Prod.fst).Nodup
  ids_desc : (T.entries.map Prod.snd).Pairwise (· > ·)
  ids_lt : ∀ p ∈ T.entries, p.2 < m.nextId
  canonical : ∀ p ∈ T.entries, p.1.Canonical
  named_before : ∀ p ∈ T.entries, ∀ k ∈ p.1.named, ∃ id, T.find? k = some id ∧ id < p.2
  declarations :
    m.declarations.toList = T.entries.reverse.map fun p => { T.declarationOf p.1 with result := some p.2 }

theorem interned_empty : ({} : TypeTable).Interned {} :=
  ⟨List.nodup_nil, List.Pairwise.nil, nofun, nofun, nofun, rfl⟩

/-- The key recorded under id `id`, if any. -/
def keyOfId (T : TypeTable) (id : Nat) : Option TypeKey :=
  (T.entries.find? (·.2 == id)).map Prod.fst

/-- The key of the type a declaration declares, read off its opcode and literal operands, with
the types it names looked up by id in the table. -/
def keyOf (T : TypeTable) (i : Instruction) : Option TypeKey :=
  match i.op.code, i.operands with
  | 19, [] => some .void
  | 20, [] => some .bool
  | 22, [32] => some .float
  | 26, [] => some .sampler
  | 21, [32, signedness] => some (.int signedness)
  | 23, [component, count] => (T.keyOfId component).map fun
    | .int signedness => .aggregate 23 21 count signedness
    | .bool => .aggregate 23 20 count 0
    | _ => .aggregate 23 22 count 0
  | 25, [_, dim, 0, 0, 0, 1, 0] => some (.composite 25 [dim])
  | 27, [image] => (T.keyOfId image).map fun
    | .composite _ arguments => .composite 27 arguments
    | _ => .composite 27 []
  | 28, arguments => some (.composite 28 arguments)
  | 30, arguments => some (.composite 30 arguments)
  | 33, arguments => some (.composite 33 arguments)
  | 32, [storageClass, pointee] => some (.pointer storageClass pointee)
  | _, _ => none

theorem find?_of_mem {T : TypeTable} (hkeys : (T.entries.map Prod.fst).Nodup) {p : TypeKey × Nat}
    (hp : p ∈ T.entries) : T.find? p.1 = some p.2 := by
  obtain ⟨entries⟩ := T
  simp only [find?] at hkeys hp ⊢
  induction entries with
  | nil => cases hp
  | cons q entries ih =>
    obtain ⟨k, id⟩ := q
    simp only [List.map_cons, List.nodup_cons] at hkeys
    rcases List.mem_cons.1 hp with rfl | hp
    · exact List.lookup_cons_self
    · have hne : p.1 ≠ k := fun h => hkeys.1 (h ▸ List.mem_map_of_mem hp)
      rw [List.lookup_cons, beq_false_of_ne hne]
      exact ih hkeys.2 hp

theorem keyOfId_of_mem {T : TypeTable} (hids : (T.entries.map Prod.snd).Nodup) {p : TypeKey × Nat}
    (hp : p ∈ T.entries) : T.keyOfId p.2 = some p.1 := by
  obtain ⟨entries⟩ := T
  simp only [keyOfId] at hids hp ⊢
  induction entries with
  | nil => cases hp
  | cons q entries ih =>
    simp only [List.map_cons, List.nodup_cons] at hids
    rcases List.mem_cons.1 hp with rfl | hp
    · simp
    · have hne : q.2 ≠ p.2 := fun h => hids.1 (h ▸ List.mem_map_of_mem hp)
      rw [List.find?_cons_of_neg (by simpa using hne)]
      exact ih hids.2 hp

namespace Interned

variable {T : TypeTable} {m : Module}

theorem ids_nodup (hT : T.Interned m) : (T.entries.map Prod.snd).Nodup :=
  hT.ids_desc.imp fun h => Nat.ne_of_gt h

theorem keyOfId_of_find? (hT : T.Interned m) {k : TypeKey} {id : Nat} (h : T.find? k = some id) :
    T.keyOfId id = some k :=
  keyOfId_of_mem (p := (k, id)) hT.ids_nodup (mem_of_find? h)

/-- Distinct keys of the table have distinct ids. -/
theorem find?_inj (hT : T.Interned m) {k k' : TypeKey} {id : Nat} (h : T.find? k = some id)
    (h' : T.find? k' = some id) : k = k' :=
  Option.some.inj ((hT.keyOfId_of_find? h).symm.trans (hT.keyOfId_of_find? h'))

/-- Reading a type's key back from its declaration: for a key a constructor builds whose named
types are in the table, the key is the one the declaration declares. -/
theorem keyOf_declarationOf (hT : T.Interned m) {k : TypeKey} (hk : k.Canonical)
    (hnamed : ∀ k' ∈ k.named, ∃ id, T.find? k' = some id) : T.keyOf (T.declarationOf k) = some k := by
  cases k with
  | aggregate primary component count signedness =>
    obtain ⟨rfl, hcomponent⟩ := hk
    obtain ⟨id, hid⟩ := hnamed (TypeKey.component component signedness)
      (by simp [TypeKey.named, Op.typeVector, Op.typeMatrix])
    have hkey := hT.keyOfId_of_find? hid
    rw [declarationOf, if_neg (by decide), hid]
    -- the component's key, read back by id, tells the three component kinds apart
    have hcases : component = Op.typeFloat.code ∧ signedness = 0 ∨
        component = Op.typeBool.code ∧ signedness = 0 ∨ component = Op.typeInt.code ∧ signedness = 0 ∨
        component = Op.typeInt.code ∧ signedness = 1 := by omega
    rcases hcases with ⟨rfl, rfl⟩ | ⟨rfl, rfl⟩ | ⟨rfl, rfl⟩ | ⟨rfl, rfl⟩ <;>
      simp_all [keyOf, TypeKey.component, Op.typeVector, Op.typeInt, Op.typeBool, Op.typeFloat]
  | composite primary arguments =>
    rcases hk with ⟨hprimary, dim, rfl⟩ | ⟨rfl, hlength⟩ | rfl | ⟨rfl, hargs⟩
    · rcases hprimary with rfl | rfl
      · rw [declarationOf, if_pos rfl]
        simp [keyOf, Op.typeImage]
      · obtain ⟨id, hid⟩ := hnamed (.composite Op.typeImage.code [dim.code])
          (by simp [TypeKey.named, Op.typeSampledImage, Op.typeImage])
        have hkey := hT.keyOfId_of_find? hid
        rw [declarationOf, if_neg (by decide), if_pos rfl]
        simp_all [keyOf, Op.typeSampledImage, Op.typeImage]
    · obtain ⟨a, b, rfl⟩ := List.length_eq_two.1 hlength
      rfl
    · rfl
    · obtain ⟨a, rest, rfl⟩ : ∃ a rest, arguments = a :: rest := List.exists_cons_of_ne_nil hargs
      rfl
  | _ => rfl

/-- Two keys a constructor builds, whose named types are in the table, have the same
declaration only if they are the same key. -/
theorem declarationOf_inj (hT : T.Interned m) {k k' : TypeKey} (hk : k.Canonical)
    (hk' : k'.Canonical) (hnamed : ∀ k'' ∈ k.named, ∃ id, T.find? k'' = some id)
    (hnamed' : ∀ k'' ∈ k'.named, ∃ id, T.find? k'' = some id)
    (h : T.declarationOf k = T.declarationOf k') : k = k' := by
  have hback := hT.keyOf_declarationOf hk hnamed
  rw [h, hT.keyOf_declarationOf hk' hnamed'] at hback
  exact (Option.some.inj hback).symm

theorem of_eq (hT : T.Interned m) {m' : Module} (hnext : m'.nextId = m.nextId)
    (hdecl : m'.declarations = m.declarations) : T.Interned m' where
  keys_nodup := hT.keys_nodup
  ids_desc := hT.ids_desc
  ids_lt := hnext ▸ hT.ids_lt
  canonical := hT.canonical
  named_before := hT.named_before
  declarations := hdecl ▸ hT.declarations

end Interned

/-- A declaration of the table, its result id erased, is the declaration its key gives. -/
theorem erase_result_declarationOf (T : TypeTable) (k : TypeKey) (r : Option Nat) :
    ({ { T.declarationOf k with result := r } with result := none } : Instruction) =
      T.declarationOf k := by
  have h := declarationOf_result T k
  revert h
  generalize T.declarationOf k = i
  intro h
  cases i
  simp_all

/-- No two declarations of an interned table differ only in their result ids. -/
theorem Interned.declarations_differ {T : TypeTable} {m : Module} (hT : T.Interned m) :
    ∀ decl ∈ m.declarations.toList, ∀ decl' ∈ m.declarations.toList,
      decl.result ≠ decl'.result → { decl with result := none } ≠ { decl' with result := none } := by
  intro decl hdecl decl' hdecl' hresult hsame
  rw [hT.declarations] at hdecl hdecl'
  obtain ⟨p, hp, rfl⟩ := List.mem_map.1 hdecl
  obtain ⟨p', hp', rfl⟩ := List.mem_map.1 hdecl'
  rw [List.mem_reverse] at hp hp'
  rw [erase_result_declarationOf, erase_result_declarationOf] at hsame
  have hnamed : ∀ p ∈ T.entries, ∀ k ∈ p.1.named, ∃ id, T.find? k = some id :=
    fun p hp k hk => (hT.named_before p hp k hk).imp fun _ h => h.1
  -- equal declarations have equal keys, and a key has one id
  have hkey : p.1 = p'.1 := hT.declarationOf_inj (hT.canonical p hp) (hT.canonical p' hp')
    (hnamed p hp) (hnamed p' hp') hsame
  have hid := find?_of_mem hT.keys_nodup hp
  rw [hkey, find?_of_mem hT.keys_nodup hp'] at hid
  exact hresult (congrArg some (Option.some.inj hid).symm)

/-- Adding a key the table lacks keeps the ids of the keys it has. -/
theorem find?_insert_of_find? {T : TypeTable} {k k' : TypeKey} {id id' : Nat}
    (hmiss : T.find? k = none) (h : T.find? k' = some id') : (T.insert k id).find? k' = some id' := by
  have hne : k' ≠ k := by
    rintro rfl
    rw [hmiss] at h
    cases h
  rw [find?_insert, if_neg hne, h]

/-- Adding a key the table lacks keeps the declarations of the keys whose named types it has. -/
theorem declarationOf_insert {T : TypeTable} {k k₀ : TypeKey} {id : Nat} (hmiss : T.find? k = none)
    (hnamed : ∀ k' ∈ k₀.named, ∃ id', T.find? k' = some id') :
    (T.insert k id).declarationOf k₀ = T.declarationOf k₀ :=
  declarationOf_congr fun k' hk' => by
    obtain ⟨id', hid'⟩ := hnamed k' hk'
    rw [hid', find?_insert_of_find? hmiss hid']

/-- One step of interning: a missing key a constructor builds, whose named types are in the
table, is declared under the next id. -/
theorem Interned.insert {T : TypeTable} {m : Module} (hT : T.Interned m) {k : TypeKey}
    (hmiss : T.find? k = none) (hk : k.Canonical)
    (hnamed : ∀ k' ∈ k.named, ∃ id, T.find? k' = some id) :
    (T.insert k m.nextId).Interned
      (m.bump.push .declarations { T.declarationOf k with result := some m.nextId }) where
  keys_nodup := by
    refine List.nodup_cons.2 ⟨fun hmem => ?_, hT.keys_nodup⟩
    obtain ⟨p, hp, rfl⟩ := List.mem_map.1 hmem
    rw [find?_of_mem hT.keys_nodup hp] at hmiss
    cases hmiss
  ids_desc := by
    refine List.pairwise_cons.2 ⟨fun id hid => ?_, hT.ids_desc⟩
    obtain ⟨p, hp, rfl⟩ := List.mem_map.1 hid
    exact hT.ids_lt p hp
  ids_lt := by
    intro p hp
    rcases List.mem_cons.1 hp with rfl | hp
    · exact Nat.lt_succ_self _
    · exact Nat.lt_succ_of_lt (hT.ids_lt p hp)
  canonical := by
    intro p hp
    rcases List.mem_cons.1 hp with rfl | hp
    · exact hk
    · exact hT.canonical p hp
  named_before := by
    intro p hp k' hk'
    rcases List.mem_cons.1 hp with rfl | hp
    · obtain ⟨id, hid⟩ := hnamed k' hk'
      exact ⟨id, find?_insert_of_find? hmiss hid, hT.ids_lt _ (mem_of_find? hid)⟩
    · obtain ⟨id, hid, hlt⟩ := hT.named_before p hp k' hk'
      exact ⟨id, find?_insert_of_find? hmiss hid, hlt⟩
  declarations := by
    have hold : ∀ p ∈ T.entries.reverse,
        { (T.insert k m.nextId).declarationOf p.1 with result := some p.2 } =
          { T.declarationOf p.1 with result := some p.2 } := fun p hp => by
      rw [declarationOf_insert hmiss fun k' hk' =>
        (hT.named_before p (List.mem_reverse.1 hp) k' hk').imp fun _ h => h.1]
    rw [Module.declarations_push_declarations, Module.declarations_bump, Array.toList_push,
      hT.declarations, entries_insert, List.reverse_cons, List.map_append, List.map_congr_left hold,
      List.map_singleton, declarationOf_insert hmiss hnamed]

end TypeTable

namespace TypeDesc

/-- A constructed description has a key, and it is one of the keys constructors build. -/
theorem Constructed.key_canonical {d : TypeDesc} (hd : d.Constructed) :
    ∃ k, d.key? = some k ∧ k.Canonical := by
  cases hd with
  | vector count hcomponent =>
    have hfloat : Op.typeFloat ≠ Op.typeInt := by decide
    have hbool : Op.typeBool ≠ Op.typeInt := by decide
    rcases hcomponent with rfl | rfl | rfl
    · exact ⟨_, rfl, rfl, .inl ⟨rfl, if_neg hfloat⟩⟩
    · exact ⟨_, rfl, rfl, .inr (.inr ⟨rfl, (if_pos rfl).trans_le (Nat.le_refl 1)⟩)⟩
    · exact ⟨_, rfl, rfl, .inr (.inl ⟨rfl, if_neg hbool⟩)⟩
  | uintVector count => exact ⟨_, rfl, rfl, .inr (.inr ⟨rfl, (if_pos rfl).trans_le (Nat.zero_le 1)⟩)⟩
  | floatN count =>
    unfold TypeDesc.floatN
    split
    · exact ⟨_, rfl, trivial⟩
    · exact ⟨_, rfl, rfl, .inl ⟨rfl, if_neg (show Op.typeFloat ≠ Op.typeInt by decide)⟩⟩
  | image dim => exact ⟨_, rfl, .inl ⟨.inl rfl, dim, rfl⟩⟩
  | sampledImage dim => exact ⟨_, rfl, .inl ⟨.inr rfl, dim, rfl⟩⟩
  | array element length => exact ⟨_, rfl, .inr (.inl ⟨rfl, rfl⟩)⟩
  | struct members => exact ⟨_, rfl, .inr (.inr (.inl rfl))⟩
  | function result parameters => exact ⟨_, rfl, .inr (.inr (.inr ⟨rfl, List.cons_ne_nil _ _⟩))⟩
  | _ => exact ⟨_, rfl, trivial⟩

/-- A description with a canonical key is of a kind `typeId` knows other than a matrix: the
key of a matrix names the matrix opcode, which no canonical key does. -/
theorem kind_cases_of_key {d : TypeDesc} {k : TypeKey} (hk : d.key? = some k)
    (hcanon : k.Canonical) :
    (d.kind ≠ .vector ∧ d.kind ≠ .matrix ∧ d.kind ≠ .image ∧ d.kind ≠ .sampledImage) ∨
      d.kind = .vector ∨ d.kind = .image ∨ d.kind = .sampledImage := by
  cases hkd : d.kind
  case matrix =>
    simp only [key?, hkd, Option.some.injEq] at hk
    subst hk
    have hcode := TypeKind.code_of_ofOp hkd (by decide)
    exact absurd (hcode.symm.trans hcanon.1) (by decide)
  all_goals simp

theorem constructed_componentDesc (d : TypeDesc) : d.componentDesc.Constructed := by
  unfold componentDesc
  split
  · exact .int _
  · split
    · exact .bool
    · exact .float

end TypeDesc

namespace Builder

/-- The builder after `decl` is declared under the next id as the type with key `k`. -/
def record (b : Builder) (k : TypeKey) (decl : Instruction) : Builder :=
  { b with module := b.module.bump.push .declarations decl,
           types := b.types.insert k (decl.result.getD 0) }

/-! ### One call of `typeId`, by the kind of the description -/

section Equations

variable {d : TypeDesc} {b : Builder} {k : TypeKey}

theorem typeId_hit {id : Nat} (h : d.key?.bind b.types.find? = some id) : typeId d b = (id, b) := by
  rw [typeId]
  simp only [bind, StateT.bind, get, getThe, MonadStateOf.get, StateT.get, pure, h]
  rfl

theorem typeId_leaf (hk : d.key? = some k) (hmiss : b.types.find? k = none)
    (hkind : d.kind ≠ .vector ∧ d.kind ≠ .matrix ∧ d.kind ≠ .image ∧ d.kind ≠ .sampledImage) :
    typeId d b = ((leafDeclaration d b.module.nextId).result.getD 0,
      record b k (leafDeclaration d b.module.nextId)) := by
  rw [typeId]
  simp only [bind, StateT.bind, get, getThe, MonadStateOf.get, StateT.get, pure, hk,
    Option.bind_some, hmiss]
  -- the match on the kind is dependent: generalise the kind to reduce it
  generalize hK : d.kind = K at hkind
  obtain ⟨hv, hm, hi, hs⟩ := hkind
  cases K
  case vector => exact absurd rfl hv
  case matrix => exact absurd rfl hm
  case image => exact absurd rfl hi
  case sampledImage => exact absurd rfl hs
  all_goals rfl

theorem typeId_vector (hk : d.key? = some k) (hmiss : b.types.find? k = none)
    (hkind : d.kind = .vector) :
    typeId d b =
      let p := typeId d.componentDesc b
      (p.2.module.nextId, record p.2 k
        { op := Op.typeVector, result := some p.2.module.nextId, operands := [p.1, d.componentCount] }) := by
  rw [typeId]
  simp only [bind, StateT.bind, get, getThe, MonadStateOf.get, StateT.get, pure, hk,
    Option.bind_some, hmiss]
  generalize d.kind = K at hkind
  subst hkind
  rfl

theorem typeId_image (hk : d.key? = some k) (hmiss : b.types.find? k = none)
    (hkind : d.kind = .image) :
    typeId d b =
      let p := typeId TypeDesc.float b
      let b₁ := if d.dim = .dim1D then
        { p.2 with module := p.2.module.requireCapability Capability.sampled1D } else p.2
      (b₁.module.nextId, record b₁ k
        { op := Op.typeImage, result := some b₁.module.nextId,
          operands := [p.1, d.dim.code, 0, 0, 0, 1, 0] }) := by
  rw [typeId]
  simp only [bind, StateT.bind, get, getThe, MonadStateOf.get, StateT.get, pure, hk,
    Option.bind_some, hmiss]
  generalize d.kind = K at hkind
  subst hkind
  dsimp only
  split <;> rfl

theorem typeId_sampledImage (hk : d.key? = some k) (hmiss : b.types.find? k = none)
    (hkind : d.kind = .sampledImage) :
    typeId d b =
      let p := typeId (TypeDesc.image d.dim) b
      (p.2.module.nextId, record p.2 k
        { op := Op.typeSampledImage, result := some p.2.module.nextId, operands := [p.1] }) := by
  rw [typeId]
  simp only [bind, StateT.bind, get, getThe, MonadStateOf.get, StateT.get, pure, hk,
    Option.bind_some, hmiss]
  generalize d.kind = K at hkind
  subst hkind
  rfl

/-- A type that names no other type has a key that names none. -/
theorem named_leaf (hk : d.key? = some k)
    (hkind : d.kind ≠ .vector ∧ d.kind ≠ .matrix ∧ d.kind ≠ .image ∧ d.kind ≠ .sampledImage) :
    k.named = [] := by
  simp only [TypeDesc.key?] at hk
  cases hkd : d.kind <;>
    simp only [hkd, Option.some.injEq, reduceCtorEq, ne_eq, not_true_eq_false, false_and,
      and_false] at hk hkind
  all_goals
    subst hk
    first
    | rfl
    | (have hcode := TypeKind.code_of_ofOp hkd (by decide)
       simp only [TypeKey.named, hcode, TypeKind.opcode, Op.typeImage, Op.typeSampledImage,
         Nat.reduceEqDiff, ↓reduceIte])

/-- A type that names no other type is declared as its key says. -/
theorem leafDeclaration_eq (T : TypeTable) (hk : d.key? = some k)
    (hkind : d.kind ≠ .vector ∧ d.kind ≠ .matrix ∧ d.kind ≠ .image ∧ d.kind ≠ .sampledImage)
    (id : Nat) : leafDeclaration d id = { T.declarationOf k with result := some id } := by
  unfold leafDeclaration
  simp only [TypeDesc.key?] at hk
  cases hkd : d.kind <;>
    simp only [hkd, Option.some.injEq, reduceCtorEq, ne_eq, not_true_eq_false, false_and,
      and_false] at hk hkind
  -- the composite kinds are told apart by their opcode
  all_goals
    subst hk
    first
    | rfl
    | (have hcode := TypeKind.code_of_ofOp hkd (by decide)
       simp only [TypeTable.declarationOf, hcode, TypeKind.opcode, Op.typeImage,
         Op.typeSampledImage, Op.typeArray, Op.typeStruct, Nat.reduceEqDiff, ↓reduceIte])

/-- A vector's key names its component's, and its declaration the component's id. -/
theorem declarationOf_vector (hkind : d.kind = .vector) (hk : d.key? = some k) :
    ∃ kc, d.componentDesc.key? = some kc ∧ k.named = [kc] ∧ ∀ (T : TypeTable) c,
      T.find? kc = some c → T.declarationOf k = { op := Op.typeVector, operands := [c, d.componentCount] } := by
  have hcode : d.primary.code ≠ Op.typeMatrix.code := by
    rw [TypeKind.code_of_ofOp hkind (by decide)]
    decide
  simp only [TypeDesc.key?, hkind, Option.some.injEq] at hk
  subst hk
  refine ⟨_, TypeDesc.key_componentDesc d, by rw [TypeKey.named, if_neg hcode], fun T c hc => ?_⟩
  rw [TypeTable.declarationOf, if_neg hcode, hc]
  rfl

/-- An image's key names the float type's, and its declaration the float type's id. -/
theorem declarationOf_image (hkind : d.kind = .image) (hk : d.key? = some k) :
    k.named = [.float] ∧ ∀ (T : TypeTable) c, T.find? .float = some c →
      T.declarationOf k = { op := Op.typeImage, operands := [c, d.dim.code, 0, 0, 0, 1, 0] } := by
  have hcode : d.primary.code = Op.typeImage.code := TypeKind.code_of_ofOp hkind (by decide)
  simp only [TypeDesc.key?, hkind, Option.some.injEq] at hk
  subst hk
  refine ⟨by rw [TypeKey.named, if_pos hcode], fun T c hc => ?_⟩
  rw [TypeTable.declarationOf, if_pos hcode, hc]
  rfl

/-- A sampled image's key names its image's, and its declaration the image's id. -/
theorem declarationOf_sampledImage (hkind : d.kind = .sampledImage) (hk : d.key? = some k) :
    k.named = [.composite Op.typeImage.code [d.dim.code]] ∧ ∀ (T : TypeTable) c,
      T.find? (.composite Op.typeImage.code [d.dim.code]) = some c →
        T.declarationOf k = { op := Op.typeSampledImage, operands := [c] } := by
  have hcode : d.primary.code = Op.typeSampledImage.code := TypeKind.code_of_ofOp hkind (by decide)
  have himage : d.primary.code ≠ Op.typeImage.code := by
    rw [hcode]
    decide
  simp only [TypeDesc.key?, hkind, Option.some.injEq] at hk
  subst hk
  refine ⟨by rw [TypeKey.named, if_neg himage, if_pos hcode]; rfl, fun T c hc => ?_⟩
  rw [TypeTable.declarationOf, if_neg himage, if_pos hcode]
  simp only [TypeDesc.dim] at hc
  rw [hc]
  rfl

end Equations

/-- `b'` is `b` with the types `new` interned, the newest first, at the next ids and declared in
that order. -/
structure Interns (b b' : Builder) (new : List (TypeKey × Nat)) : Prop where
  entries_eq : b'.types.entries = new ++ b.types.entries
  missing : ∀ p ∈ new, b.types.find? p.1 = none
  ids_eq : new.reverse.map Prod.snd = List.range' b.module.nextId new.length
  nextId_eq : b'.module.nextId = b.module.nextId + new.length
  declarations_eq : b'.module.declarations.toList = b.module.declarations.toList ++
    new.reverse.map fun p => { b'.types.declarationOf p.1 with result := some p.2 }
  named_before : ∀ p ∈ new, ∀ k ∈ p.1.named, ∃ id, b'.types.find? k = some id ∧ id < p.2

namespace Interns

variable {b b₁ b₂ : Builder} {new new₁ new₂ : List (TypeKey × Nat)}

theorem refl (b : Builder) : b.Interns b [] :=
  ⟨rfl, nofun, rfl, rfl, by simp, nofun⟩

/-- Keys that were not added have the ids they had. -/
theorem find?_eq_of_ne (h : b.Interns b₁ new) {k : TypeKey} (hk : ∀ p ∈ new, p.1 ≠ k) :
    b₁.types.find? k = b.types.find? k := by
  have hnone : new.lookup k = none :=
    List.lookup_eq_none_iff.2 fun p hp => bne_iff_ne.2 (hk p hp).symm
  rw [TypeTable.find?, h.entries_eq, List.lookup_append, hnone, Option.none_or]
  rfl

/-- The keys of `b`'s table keep their ids. -/
theorem find?_eq (h : b.Interns b₁ new) {k : TypeKey} {id : Nat} (hk : b.types.find? k = some id) :
    b₁.types.find? k = some id := by
  rw [h.find?_eq_of_ne fun p hp hpk => ?_, hk]
  have hmiss := h.missing p hp
  rw [hpk, hk] at hmiss
  cases hmiss

/-- A key missing before and present after was given one of the new ids. -/
theorem nextId_le (h : b.Interns b₁ new) {k : TypeKey} {id : Nat}
    (hmiss : b.types.find? k = none) (hfind : b₁.types.find? k = some id) : b.module.nextId ≤ id := by
  have hnew : new.lookup k = some id := by
    rw [TypeTable.find?, h.entries_eq, List.lookup_append] at hfind
    rw [TypeTable.find?] at hmiss
    rw [hmiss, Option.or_none] at hfind
    exact hfind
  have hmem : id ∈ new.reverse.map Prod.snd :=
    List.mem_map.2 ⟨(k, id), List.mem_reverse.2 (@TypeTable.mem_of_find? ⟨new⟩ k id hnew), rfl⟩
  rw [h.ids_eq, List.mem_range'_1] at hmem
  exact hmem.1

theorem trans (h₁ : b.Interns b₁ new₁) (h₂ : b₁.Interns b₂ new₂) : b.Interns b₂ (new₂ ++ new₁) where
  entries_eq := by rw [h₂.entries_eq, h₁.entries_eq, List.append_assoc]
  missing := by
    intro p hp
    rcases List.mem_append.1 hp with hp | hp
    · cases hfind : b.types.find? p.1 with
      | none => rfl
      | some id =>
        have hmiss := h₂.missing p hp
        rw [h₁.find?_eq hfind] at hmiss
        cases hmiss
    · exact h₁.missing p hp
  ids_eq := by
    rw [List.reverse_append, List.map_append, h₁.ids_eq, h₂.ids_eq, h₁.nextId_eq,
      List.range'_append_1, List.length_append, Nat.add_comm]
  nextId_eq := by
    rw [h₂.nextId_eq, h₁.nextId_eq, List.length_append]
    omega
  declarations_eq := by
    -- the types added first name only types that keep their ids
    have hsame : ∀ p ∈ new₁.reverse, { b₂.types.declarationOf p.1 with result := some p.2 } =
        { b₁.types.declarationOf p.1 with result := some p.2 } := fun p hp => by
      rw [TypeTable.declarationOf_congr fun k hk => ?_]
      obtain ⟨id, hid, -⟩ := h₁.named_before p (List.mem_reverse.1 hp) k hk
      rw [hid, h₂.find?_eq hid]
    rw [h₂.declarations_eq, h₁.declarations_eq, List.reverse_append, List.map_append,
      List.map_congr_left hsame, List.append_assoc]
  named_before := by
    intro p hp k hk
    rcases List.mem_append.1 hp with hp | hp
    · exact h₂.named_before p hp k hk
    · obtain ⟨id, hid, hlt⟩ := h₁.named_before p hp k hk
      exact ⟨id, h₂.find?_eq hid, hlt⟩

/-- Changing the module but not its next id or its declarations interns nothing. -/
theorem of_module (b : Builder) {m : Module} (hnext : m.nextId = b.module.nextId)
    (hdecl : m.declarations = b.module.declarations) : b.Interns { b with module := m } [] :=
  ⟨rfl, nofun, rfl, hnext, by simp [hdecl], nofun⟩

/-- Declaring a missing key under the next id interns it. -/
theorem record (hb : b.types.Interned b.module) {k : TypeKey} (hmiss : b.types.find? k = none)
    (hnamed : ∀ k' ∈ k.named, ∃ id, b.types.find? k' = some id) :
    b.Interns (b.record k { b.types.declarationOf k with result := some b.module.nextId })
      [(k, b.module.nextId)] where
  entries_eq := rfl
  missing := by simpa using hmiss
  ids_eq := rfl
  nextId_eq := rfl
  declarations_eq := by
    simp only [Builder.record, Option.getD_some, Module.declarations_push_declarations,
      Module.declarations_bump, Array.toList_push, List.reverse_singleton, List.map_singleton,
      TypeTable.declarationOf_insert hmiss hnamed]
  named_before := by
    intro p hp k' hk'
    rw [List.mem_singleton] at hp
    subst hp
    obtain ⟨id, hid⟩ := hnamed k' hk'
    exact ⟨id, TypeTable.find?_insert_of_find? hmiss hid, hb.ids_lt _ (TypeTable.mem_of_find? hid)⟩

end Interns

/-- Asking `b` for the type with key `k` gave `r`: the table stays interned and records `k`
under the id returned, having grown from `b`'s only by keys of rank at most `k`'s. -/
structure Resolves (b : Builder) (k : TypeKey) (r : Nat × Builder) : Prop where
  interned : r.2.types.Interned r.2.module
  find?_eq : r.2.types.find? k = some r.1
  interns : ∃ new, b.Interns r.2 new ∧ ∀ p ∈ new, p.1.rank ≤ k.rank

namespace Resolves

variable {b b₁ : Builder} {k : TypeKey}

theorem hit (hb : b.types.Interned b.module) {id : Nat} (h : b.types.find? k = some id) :
    b.Resolves k (id, b) :=
  ⟨hb, h, [], Interns.refl b, nofun⟩

/-- The last step of a miss: after the calls for the types `k` names, which added only keys of
lower rank, `k` is declared under the next id. -/
theorem record {new : List (TypeKey × Nat)} (h₁ : b.Interns b₁ new)
    (hb₁ : b₁.types.Interned b₁.module) (hrank : ∀ p ∈ new, p.1.rank < k.rank)
    (hmiss : b.types.find? k = none) (hk : k.Canonical)
    (hnamed : ∀ k' ∈ k.named, ∃ id, b₁.types.find? k' = some id) :
    b.Resolves k (b₁.module.nextId,
      b₁.record k { b₁.types.declarationOf k with result := some b₁.module.nextId }) := by
  have hmiss₁ : b₁.types.find? k = none := by
    rw [h₁.find?_eq_of_ne fun p hp hpk => ?_, hmiss]
    have hlt := hrank p hp
    rw [hpk] at hlt
    exact Nat.lt_irrefl _ hlt
  refine ⟨hb₁.insert hmiss₁ hk hnamed, ?_, _, h₁.trans (Interns.record hb₁ hmiss₁ hnamed), ?_⟩
  · simp [Builder.record, TypeTable.find?_insert]
  · intro p hp
    rcases List.mem_append.1 hp with hp | hp
    · rw [List.mem_singleton.1 hp]
    · exact Nat.le_of_lt (hrank p hp)

end Resolves

/-- A call of `typeId` on a description with a canonical key, with the table interned,
returns the id its key has in the table afterwards, keeps the table interned, and declares
exactly the missing types among the description's and those it names. -/
theorem typeId_resolves_of_key {d : TypeDesc} {k : TypeKey} (hk : d.key? = some k)
    (hcanon : k.Canonical) {b : Builder} (hb : b.types.Interned b.module) :
    b.Resolves k (typeId d b) := by
  -- on the depth of the description, as `typeId` recurses
  induction hdepth : d.depth using Nat.strong_induction_on generalizing d k b with
  | _ n ih =>
  cases hfind : b.types.find? k with
  | some id =>
    rw [typeId_hit (by rw [hk, Option.bind_some, hfind])]
    exact Resolves.hit hb hfind
  | none =>
  rcases TypeDesc.kind_cases_of_key hk hcanon with hleaf | hv | hi | hs
  · rw [typeId_leaf hk hfind hleaf, leafDeclaration_eq b.types hk hleaf]
    exact Resolves.record (Interns.refl b) hb nofun hfind hcanon
      (by rw [named_leaf hk hleaf]; exact nofun)
  · -- a vector: its component first
    obtain ⟨kc, hkc, hnamed, hdecl⟩ := declarationOf_vector hv hk
    have hlt : d.componentDesc.depth < n := by
      rw [← hdepth, TypeDesc.depth_componentDesc, TypeDesc.depth, hv]
      decide
    obtain ⟨kc', hkc', hcanonc⟩ := (TypeDesc.constructed_componentDesc d).key_canonical
    obtain rfl : kc = kc' := Option.some.inj (hkc.symm.trans hkc')
    have hres := ih _ hlt hkc hcanonc hb rfl
    obtain ⟨new, hint, hrank⟩ := hres.interns
    have hkc_lt : kc.rank < k.rank := TypeKey.rank_lt_of_mem_named (by rw [hnamed]; exact .head _)
    have hr := Resolves.record hint hres.interned (fun p hp => Nat.lt_of_le_of_lt (hrank p hp) hkc_lt)
      hfind hcanon (by rw [hnamed]; simpa using ⟨_, hres.find?_eq⟩)
    rw [hdecl _ _ hres.find?_eq] at hr
    rw [typeId_vector hk hfind hv]
    exact hr
  · -- an image: the float type first, then the capability a 1D image needs
    obtain ⟨hnamed, hdecl⟩ := declarationOf_image hi hk
    have hlt : TypeDesc.float.depth < n := by
      rw [← hdepth, TypeDesc.depth_float, TypeDesc.depth, hi]
      decide
    have hres := ih _ hlt (d := TypeDesc.float) (k := .float) rfl trivial hb rfl
    obtain ⟨new, hint, hrank⟩ := hres.interns
    rw [typeId_image hk hfind hi]
    dsimp only
    generalize hb₁ : (if d.dim = .dim1D then { (typeId TypeDesc.float b).2 with
      module := (typeId TypeDesc.float b).2.module.requireCapability Capability.sampled1D }
      else (typeId TypeDesc.float b).2) = b₁
    have hstep : (typeId TypeDesc.float b).2.Interns b₁ [] ∧ b₁.types.Interned b₁.module := by
      subst hb₁
      split
      · exact ⟨Interns.of_module _ (by simp) (by simp), hres.interned.of_eq (by simp) (by simp)⟩
      · exact ⟨Interns.refl _, hres.interned⟩
    have hfloat := hstep.1.find?_eq hres.find?_eq
    have hkf_lt : TypeKey.float.rank < k.rank := TypeKey.rank_lt_of_mem_named (by rw [hnamed]; exact .head _)
    have hr := Resolves.record (hint.trans hstep.1) hstep.2
      (fun p hp => Nat.lt_of_le_of_lt (hrank p (by simpa using hp)) hkf_lt)
      hfind hcanon (by rw [hnamed]; simpa using ⟨_, hfloat⟩)
    rw [hdecl _ _ hfloat] at hr
    exact hr
  · -- a sampled image: its image first
    obtain ⟨hnamed, hdecl⟩ := declarationOf_sampledImage hs hk
    have hlt : (TypeDesc.image d.dim).depth < n := by
      rw [← hdepth, TypeDesc.depth_image, TypeDesc.depth, hs]
      decide
    have hres := ih _ hlt (d := TypeDesc.image d.dim) (k := .composite Op.typeImage.code [d.dim.code])
      rfl (Or.inl ⟨.inl rfl, d.dim, rfl⟩) hb rfl
    obtain ⟨new, hint, hrank⟩ := hres.interns
    have hki_lt : (TypeKey.composite Op.typeImage.code [d.dim.code]).rank < k.rank :=
      TypeKey.rank_lt_of_mem_named (by rw [hnamed]; exact .head _)
    have hr := Resolves.record hint hres.interned (fun p hp => Nat.lt_of_le_of_lt (hrank p hp) hki_lt)
      hfind hcanon (by rw [hnamed]; simpa using ⟨_, hres.find?_eq⟩)
    rw [hdecl _ _ hres.find?_eq] at hr
    rw [typeId_sampledImage hk hfind hs]
    exact hr

/-- A call of `typeId` on a constructed description, with the table interned, returns the id
its key has in the table afterwards, keeps the table interned, and declares exactly the
missing types among the description's and those it names. -/
theorem typeId_resolves {d : TypeDesc} (hd : d.Constructed) {b : Builder}
    (hb : b.types.Interned b.module) : ∃ k, d.key? = some k ∧ b.Resolves k (typeId d b) := by
  obtain ⟨k, hk, hcanon⟩ := hd.key_canonical
  exact ⟨k, hk, typeId_resolves_of_key hk hcanon hb⟩

theorem pointerTypeId_eq (pointee : TypeDesc) (sc : StorageClass) (b : Builder) :
    pointerTypeId pointee sc b =
      typeId (TypeDesc.pointer (typeId pointee b).1 sc) (typeId pointee b).2 := rfl

end Builder

/-- A request to the type table: the type a description describes, or a pointer into a storage
class to it. -/
inductive TypeRequest where
  | type (d : TypeDesc)
  | pointer (pointee : TypeDesc) (storageClass : StorageClass)

namespace TypeRequest

/-- Serves the request. -/
def run : TypeRequest → BuildM Nat
  | type d => Builder.typeId d
  | pointer pointee storageClass => Builder.pointerTypeId pointee storageClass

/-- The request's description is built by the constructors. -/
def Constructed : TypeRequest → Prop
  | type d => d.Constructed
  | pointer pointee _ => pointee.Constructed

/-- The key of the requested type, the table giving a pointee's id. -/
def key (T : TypeTable) : TypeRequest → Option TypeKey
  | type d => d.key?
  | pointer pointee storageClass => (pointee.key?.bind T.find?).map (TypeKey.pointer storageClass.code)

/-- A request's key stays its key as the table grows. -/
theorem key_of_interns {q : TypeRequest} {b b' : Builder} {new : List (TypeKey × Nat)}
    (h : b.Interns b' new) {k : TypeKey} (hk : q.key b.types = some k) : q.key b'.types = some k := by
  cases q with
  | type d => exact hk
  | pointer pointee sc =>
    obtain ⟨t, ht, rfl⟩ := Option.map_eq_some_iff.1 hk
    obtain ⟨kp, hkp, hfind⟩ := Option.bind_eq_some_iff.1 ht
    simp only [key, hkp, Option.bind_some, h.find?_eq hfind, Option.map_some]

/-- One request, served with the table interned, keeps it interned, interns the missing types
its key needs and returns the id of its key; a pointer missing once its pointee has an id is
declared after the pointee. -/
theorem run_interns {q : TypeRequest} (hq : q.Constructed) {b : Builder}
    (hb : b.types.Interned b.module) :
    (∃ k, q.key (q.run b).2.types = some k ∧ (q.run b).2.types.find? k = some (q.run b).1) ∧
    (q.run b).2.types.Interned (q.run b).2.module ∧ (∃ new, b.Interns (q.run b).2 new) ∧
    ∀ pointee sc, q = .pointer pointee sc →
      (Builder.typeId pointee b).2.types.find? (.pointer sc.code (Builder.typeId pointee b).1) = none →
        (Builder.typeId pointee b).1 < (q.run b).1 := by
  cases q with
  | type d =>
    obtain ⟨k, hk, hres⟩ := Builder.typeId_resolves hq hb
    obtain ⟨new, hint, -⟩ := hres.interns
    exact ⟨⟨k, hk, hres.find?_eq⟩, hres.interned, ⟨new, hint⟩, fun _ _ h => nomatch h⟩
  | pointer pointee sc =>
    obtain ⟨kp, hkp, hres₁⟩ := Builder.typeId_resolves hq hb
    obtain ⟨kptr, hkptr, hres₂⟩ := Builder.typeId_resolves (.pointer (Builder.typeId pointee b).1 sc)
      hres₁.interned
    obtain rfl : kptr = .pointer sc.code (Builder.typeId pointee b).1 := Option.some.inj hkptr.symm
    obtain ⟨new₁, hint₁, -⟩ := hres₁.interns
    obtain ⟨new₂, hint₂, -⟩ := hres₂.interns
    simp only [run, Builder.pointerTypeId_eq]
    refine ⟨⟨_, ?_, hres₂.find?_eq⟩, hres₂.interned, ⟨_, hint₁.trans hint₂⟩, ?_⟩
    · simp only [key, hkp, Option.bind_some, hint₂.find?_eq hres₁.find?_eq, Option.map_some]
    · rintro _ _ ⟨⟩ hmiss
      -- the pointer got a new id, above every id the pointee's call left in the table
      have hle := hint₂.nextId_le hmiss hres₂.find?_eq
      exact Nat.lt_of_lt_of_le (hres₁.interned.ids_lt _ (TypeTable.mem_of_find? hres₁.find?_eq)) hle

theorem mapM_run_cons (q : TypeRequest) (qs : List TypeRequest) (b : Builder) :
    (q :: qs).mapM run b =
      ((q.run b).1 :: (qs.mapM run (q.run b).2).1, (qs.mapM run (q.run b).2).2) := by
  simp only [List.mapM_cons]
  rfl

/-- A sequence of requests, served from an interned table, keeps it interned, only interns,
and answers each request with the id its key has in the final table. -/
theorem mapM_run_interns (reqs : List TypeRequest) (hreqs : ∀ q ∈ reqs, q.Constructed) {b : Builder}
    (hb : b.types.Interned b.module) :
    (reqs.mapM run b).2.types.Interned (reqs.mapM run b).2.module ∧
    (∃ new, b.Interns (reqs.mapM run b).2 new) ∧
    ∀ (i : Nat) (q : TypeRequest), reqs[i]? = some q → ∃ k id, q.key (reqs.mapM run b).2.types = some k ∧
      (reqs.mapM run b).2.types.find? k = some id ∧ (reqs.mapM run b).1[i]? = some id := by
  induction reqs generalizing b with
  | nil => exact ⟨hb, ⟨[], Builder.Interns.refl b⟩, fun _ _ h => nomatch h⟩
  | cons q qs ih =>
    obtain ⟨⟨k, hk, hfind⟩, hb₁, ⟨new₁, hint₁⟩, -⟩ := run_interns (hreqs q (.head _)) hb
    obtain ⟨hb₂, ⟨new₂, hint₂⟩, hrest⟩ := ih (fun q' hq' => hreqs q' (.tail _ hq')) hb₁
    rw [mapM_run_cons]
    refine ⟨hb₂, ⟨_, hint₁.trans hint₂⟩, ?_⟩
    rintro (_ | i) q' hq'
    · obtain rfl : q = q' := Option.some.inj hq'
      exact ⟨k, _, key_of_interns hint₂ hk, hint₂.find?_eq hfind, rfl⟩
    · exact hrest i q' hq'

/-- Type interning is exact on constructed descriptions: two requests get one id exactly when their
keys are equal, only missing keys are declared, and no two declarations differ in id alone. -/
theorem interning_exact (reqs : List TypeRequest) (hreqs : ∀ q ∈ reqs, q.Constructed) :
    (∀ (i j : Nat) (q q' : TypeRequest), reqs[i]? = some q → reqs[j]? = some q' →
      ((reqs.mapM run {}).1[i]? = (reqs.mapM run {}).1[j]? ↔
        q.key (reqs.mapM run {}).2.types = q'.key (reqs.mapM run {}).2.types)) ∧
    (∀ (i : Nat) (q : TypeRequest), reqs[i]? = some q →
      (∃ new, ((reqs.take i).mapM run {}).2.Interns (q.run ((reqs.take i).mapM run {}).2).2 new) ∧
      ∀ pointee sc, q = .pointer pointee sc →
        (Builder.typeId pointee ((reqs.take i).mapM run {}).2).2.types.find?
            (.pointer sc.code (Builder.typeId pointee ((reqs.take i).mapM run {}).2).1) = none →
          (Builder.typeId pointee ((reqs.take i).mapM run {}).2).1 <
            (q.run ((reqs.take i).mapM run {}).2).1) ∧
    ∀ decl ∈ (reqs.mapM run {}).2.module.declarations.toList,
      ∀ decl' ∈ (reqs.mapM run {}).2.module.declarations.toList,
        decl.result ≠ decl'.result → { decl with result := none } ≠ { decl' with result := none } := by
  have hempty : ({} : Builder).types.Interned ({} : Builder).module := TypeTable.interned_empty
  obtain ⟨hfinal, -, hids⟩ := mapM_run_interns reqs hreqs hempty
  refine ⟨fun i j q q' hq hq' => ?_, fun i q hq => ?_, hfinal.declarations_differ⟩
  · obtain ⟨k, id, hk, hfind, hi⟩ := hids i q hq
    obtain ⟨k', id', hk', hfind', hj⟩ := hids j q' hq'
    rw [hi, hj, hk, hk', Option.some.injEq, Option.some.injEq]
    constructor
    · rintro rfl
      exact hfinal.find?_inj hfind hfind'
    · rintro rfl
      exact Option.some.inj (hfind.symm.trans hfind')
  · -- the requests before the `i`-th leave the table interned
    have htake : ∀ q ∈ reqs.take i, q.Constructed := fun q hq => hreqs q (List.mem_of_mem_take hq)
    obtain ⟨hbefore, -, -⟩ := mapM_run_interns (reqs.take i) htake hempty
    obtain ⟨-, -, hint, hpointer⟩ := run_interns (hreqs q (List.mem_of_getElem? hq)) hbefore
    exact ⟨hint, hpointer⟩

/-- A four-component float vector and an input pointer to it, requested in turn. -/
theorem interning_exact_vec4_input :
    (∀ q ∈ [type TypeDesc.vec4, pointer TypeDesc.vec4 StorageClass.input], q.Constructed) ∧
    (∀ (i j : Nat) (q q' : TypeRequest),
      [type TypeDesc.vec4, pointer TypeDesc.vec4 StorageClass.input][i]? = some q →
      [type TypeDesc.vec4, pointer TypeDesc.vec4 StorageClass.input][j]? = some q' →
      (([type TypeDesc.vec4, pointer TypeDesc.vec4 StorageClass.input].mapM run {}).1[i]? =
          ([type TypeDesc.vec4, pointer TypeDesc.vec4 StorageClass.input].mapM run {}).1[j]? ↔
        q.key ([type TypeDesc.vec4, pointer TypeDesc.vec4 StorageClass.input].mapM run {}).2.types =
          q'.key ([type TypeDesc.vec4, pointer TypeDesc.vec4 StorageClass.input].mapM run {}).2.types)) ∧
    (∀ (i : Nat) (q : TypeRequest),
      [type TypeDesc.vec4, pointer TypeDesc.vec4 StorageClass.input][i]? = some q →
      (∃ new, (([type TypeDesc.vec4, pointer TypeDesc.vec4 StorageClass.input].take i).mapM run {}).2.Interns
        (q.run (([type TypeDesc.vec4, pointer TypeDesc.vec4 StorageClass.input].take i).mapM run {}).2).2
          new) ∧
      ∀ pointee sc, q = .pointer pointee sc →
        (Builder.typeId pointee
            (([type TypeDesc.vec4, pointer TypeDesc.vec4 StorageClass.input].take i).mapM run {}).2).2.types.find?
            (.pointer sc.code (Builder.typeId pointee
              (([type TypeDesc.vec4, pointer TypeDesc.vec4 StorageClass.input].take i).mapM run {}).2).1) =
            none →
          (Builder.typeId pointee
              (([type TypeDesc.vec4, pointer TypeDesc.vec4 StorageClass.input].take i).mapM run {}).2).1 <
            (q.run (([type TypeDesc.vec4, pointer TypeDesc.vec4 StorageClass.input].take i).mapM
              run {}).2).1) ∧
    ∀ decl ∈ ([type TypeDesc.vec4, pointer TypeDesc.vec4 StorageClass.input].mapM
        run {}).2.module.declarations.toList,
      ∀ decl' ∈ ([type TypeDesc.vec4, pointer TypeDesc.vec4 StorageClass.input].mapM
          run {}).2.module.declarations.toList,
        decl.result ≠ decl'.result → { decl with result := none } ≠ { decl' with result := none } :=
  have h : ∀ q ∈ [type TypeDesc.vec4, pointer TypeDesc.vec4 StorageClass.input], q.Constructed := by
    intro q hq
    rcases List.mem_pair.1 hq with rfl | rfl
    · exact .vector 4 (.inl rfl)
    · exact .vector 4 (.inl rfl)
  ⟨h, interning_exact _ h⟩

end TypeRequest

end ShaderBridge.Spirv
