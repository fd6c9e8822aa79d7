import ShaderBridge.Proofs.Padding

/-!
What a conversion ignores in a token stream: inserted comments and nops, what follows the end
token, an appended end token, and a repeated declaration.
-/

namespace ShaderBridge

/-- The stream with the tokens `ins` inserted before token `b`. -/
def insertAt (t : Array UInt32) (b : Nat) (ins : List UInt32) : Array UInt32 :=
  (t.toList.take b ++ ins ++ t.toList.drop b).toArray

section InsertAt

variable {t : Array UInt32} {b : Nat} {ins : List UInt32}

theorem size_insertAt (hb : b ≤ t.size) : (insertAt t b ins).size = t.size + ins.length := by
  simp [insertAt]
  omega

theorem getElem?_insertAt_of_lt (hb : b ≤ t.size) {k : Nat} (hk : k < b) :
    (insertAt t b ins)[k]? = t[k]? := by
  rw [insertAt, List.getElem?_toArray, List.append_assoc, List.getElem?_append_left (by simp; omega),
    List.getElem?_take_of_lt hk, Array.getElem?_toList]

theorem getElem?_insertAt_inserted (hb : b ≤ t.size) {j : Nat} (hj : j < ins.length) :
    (insertAt t b ins)[b + j]? = ins[j]? := by
  have htake : (t.toList.take b).length = b := by simp; omega
  rw [insertAt, List.getElem?_toArray, List.append_assoc, List.getElem?_append_right (by omega),
    htake, Nat.add_sub_cancel_left, List.getElem?_append_left hj]

theorem getElem?_insertAt_add (hb : b ≤ t.size) {k : Nat} (hk : b ≤ k) :
    (insertAt t b ins)[k + ins.length]? = t[k]? := by
  have htake : (t.toList.take b).length = b := by simp; omega
  rw [insertAt, List.getElem?_toArray, List.append_assoc, List.getElem?_append_right (by omega),
    List.getElem?_append_right (by omega), List.getElem?_drop, Array.getElem?_toList, htake]
  congr 1
  omega

end InsertAt

namespace Program

variable {v : ShaderVersion} {t : Array UInt32}

theorem ReadsTo.le_size {pos stop : Nat} {body : List Instruction} (h : ReadsTo v t pos stop body)
    (hpos : pos ≤ t.size) : stop ≤ t.size := by
  induction h with
  | refl => exact hpos
  | comment _ _ hfit _ ih => exact ih hfit
  | instruction _ _ hfit _ _ _ _ _ ih => exact ih hfit

/-- Inserting tokens at an item that reading reaches: the items before are read as before, the
inserted tokens as what they read, and the items after as before, standing further on. -/
theorem decodeFrom_insertAt {b stop : Nat} {pre post mid : List Instruction} {ins : List UInt32}
    (h₁ : ReadsTo v t 1 b pre) (h₂ : ReadsTo v t b stop post) (hstop : Stops t stop)
    (hb : b ≤ t.size) (hmid : ReadsTo v (insertAt t b ins) b (b + ins.length) mid) :
    decodeFrom v (insertAt t b ins) 1 =
      (pre ++ mid ++ post.map (Instruction.shift ins.length), none) := by
  have hbefore : ∀ k, 1 ≤ k → k < b → (insertAt t b ins)[k + 0]? = t[k]? :=
    fun k _ hk => getElem?_insertAt_of_lt hb hk
  have hafter : ∀ k, b ≤ k → (insertAt t b ins)[k + ins.length]? = t[k]? :=
    fun k hk => getElem?_insertAt_add hb hk
  have hstop' : Stops (insertAt t b ins) (stop + ins.length) := by
    rcases hstop with hend | ⟨w, hw, hend⟩
    · exact .inl (by rw [size_insertAt hb]; omega)
    · exact .inr ⟨w, by rw [hafter stop h₂.le, hw], hend⟩
  have hreads := ((h₁.shift hbefore).append hmid).append (h₂.shift fun k hk _ => hafter k hk)
  have hid : Instruction.shift 0 = id := funext Instruction.shift_zero
  rw [hid, List.map_id] at hreads
  rw [hreads.decodeFrom_eq, decodeFrom_stop hstop', List.append_nil]

/-- An inserted comment block is stepped over. -/
theorem ReadsTo.insertAt_comment {b : Nat} {w : UInt32} {rest : List UInt32} (hb : b ≤ t.size)
    (hcomment : Opcode.ofCode (Token.mk w).opcode = .comment)
    (hlength : (Token.mk w).commentLength = rest.length) :
    ReadsTo v (insertAt t b (w :: rest)) b (b + (w :: rest).length) [] := by
  have htoken := @getElem?_insertAt_inserted t b (w :: rest) hb 0 (by simp)
  rw [Nat.add_zero, List.getElem?_cons_zero] at htoken
  have hfit : b + 1 + (Token.mk w).commentLength ≤ (insertAt t b (w :: rest)).size := by
    rw [size_insertAt hb, hlength, List.length_cons]
    omega
  have hreads : ReadsTo v (insertAt t b (w :: rest)) b (b + 1 + (Token.mk w).commentLength) [] :=
    .comment htoken hcomment hfit (.refl _)
  rwa [List.length_cons, show b + (rest.length + 1) = b + 1 + (Token.mk w).commentLength by omega]

/-- An inserted nop, with the operand tokens its token declares, reads as a nop. -/
theorem ReadsTo.insertAt_nop {b : Nat} {w : UInt32} {rest : List UInt32} (hb : b ≤ t.size)
    (hnop : Opcode.ofCode (Token.mk w).opcode = .nop) (hpredicated : (Token.mk w).predicated = false)
    (hcount : operandCount v ⟨w⟩ = some rest.length) :
    ReadsTo v (insertAt t b (w :: rest)) b (b + (w :: rest).length) [.nop] := by
  have htoken := @getElem?_insertAt_inserted t b (w :: rest) hb 0 (by simp)
  rw [Nat.add_zero, List.getElem?_cons_zero] at htoken
  have hfit : b + 1 + rest.length ≤ (insertAt t b (w :: rest)).size := by
    rw [size_insertAt hb, List.length_cons]
    omega
  have hreader : Instruction.reader v (Opcode.ofCode (Token.mk w).opcode) (Token.mk w).control b =
      some (do let c ← get; Scan.skip c.remaining; pure .nop) := by
    rw [hnop]
    rfl
  have hscan : (do let c ← get; Scan.skip c.remaining; pure Instruction.nop : Scan Instruction).run
      ⟨insertAt t b (w :: rest), b + 1, b + 1 + rest.length⟩ =
        .ok .nop ⟨insertAt t b (w :: rest), b + 1 + rest.length, b + 1 + rest.length⟩ := by
    simp [EStateM.run, bind, EStateM.bind, get, getThe, MonadStateOf.get, EStateM.get, Scan.skip,
      Cursor.remaining, pure, EStateM.pure]
  have hreads : ReadsTo v (insertAt t b (w :: rest)) b (b + 1 + rest.length) [.nop] :=
    .instruction htoken hcount hfit hpredicated hreader hscan (by simp [Cursor.remaining]) (.refl _)
  rwa [List.length_cons, show b + (rest.length + 1) = b + 1 + rest.length by omega]

/-- A copy of the tokens of items that reading reaches, inserted further on, reads as the same
items standing further on. -/
theorem ReadsTo.insertAt_copy {a a' b : Nat} {items : List Instruction}
    (h : ReadsTo v t a a' items) (hab : a' ≤ b) (hb : b ≤ t.size) :
    ReadsTo v (insertAt t b ((t.toList.drop a).take (a' - a))) b
      (b + ((t.toList.drop a).take (a' - a)).length) (items.map (Instruction.shift (b - a))) := by
  have hle := h.le
  have hlength : ((t.toList.drop a).take (a' - a)).length = a' - a := by
    simp only [List.length_take, List.length_drop, Array.length_toList]
    omega
  have hagree : ∀ k, a ≤ k → k < a' →
      (insertAt t b ((t.toList.drop a).take (a' - a)))[k + (b - a)]? = t[k]? := by
    intro k hk hk'
    rw [show k + (b - a) = b + (k - a) by omega,
      getElem?_insertAt_inserted hb (by rw [hlength]; omega), List.getElem?_take_of_lt (by omega),
      List.getElem?_drop, Array.getElem?_toList, Nat.add_sub_cancel' hk]
  have hreads := h.shift hagree
  rw [show a + (b - a) = b by omega] at hreads
  rw [hlength, show b + (a' - a) = a' + (b - a) by omega]
  exact hreads

/-- A stream that agrees with another up to where reading it stops, and stops there too, reads
as the same instructions. -/
theorem decodeFrom_of_agree {t' : Array UInt32} {stop : Nat} {body : List Instruction}
    (h : ReadsTo v t 1 stop body) (hagree : ∀ k, 1 ≤ k → k < stop → t'[k]? = t[k]?)
    (hstop : Stops t' stop) : decodeFrom v t' 1 = (body, none) := by
  have hagree₀ : ∀ k, 1 ≤ k → k < stop → t'[k + 0]? = t[k]? := hagree
  have hreads := h.shift hagree₀
  have hid : Instruction.shift 0 = id := funext Instruction.shift_zero
  rw [hid, List.map_id] at hreads
  rw [hreads.decodeFrom_eq, Nat.add_zero, decodeFrom_stop hstop, List.append_nil]

end Program

namespace Lowering

open Std.Do Spirv

theorem texld_tokenIndex {control i : Nat} {dst : Destination} {coord sampler : Source}
    {s : Lowering} {r : Unit × Lowering} (h : texld control i dst coord sampler s = .ok r) (j : Nat) :
    texld control j dst coord sampler s = .ok r := by
  rcases control with _ | _ | _ | n
  · exact h
  · exact h
  · exact h
  · exfalso
    simp only [texld, bind_eq_ok] at h
    obtain ⟨_, _, -, _, _, -, _, _, hfail, -⟩ := h
    cases hfail

theorem instruction_shift {ins : Instruction} {s : Lowering} {r : Unit × Lowering}
    (h : instruction ins s = .ok r) (d : Nat) : instruction (ins.shift d) s = .ok r := by
  cases ins with
  | texld control i dst coord sampler => exact texld_tokenIndex h (i + d)
  | _ => exact h

theorem forM_shift {body : List Instruction} {s : Lowering} {r : Unit × Lowering}
    (h : body.forM instruction s = .ok r) (d : Nat) :
    (body.map (Instruction.shift d)).forM instruction s = .ok r := by
  induction body generalizing s with
  | nil => exact h
  | cons ins body ih =>
    simp only [List.forM_eq_forM, List.forM_cons, List.map_cons, bind_eq_ok] at h ⊢
    obtain ⟨u, s₁, h₁, h₂⟩ := h
    exact ⟨u, s₁, instruction_shift h₁ d, ih h₂⟩

theorem declareVertexInput_again {reg : Register} {usage : Usage} {s : Lowering}
    (h : reg ∈ s.inputs.map Prod.fst) : declareVertexInput reg usage s = .ok ((), s) := by
  have hsome := (isSome_lookup_iff_mem_keys s.inputs reg).2 h
  simp only [declareVertexInput, bind, StateT.bind, get, getThe, MonadStateOf.get, StateT.get,
    pure, Except.pure, Except.bind, StateT.pure, hsome, if_true]

theorem declareSampler_again {index : Nat} {type : TextureType} {s₀ s : Lowering} {r₀ : Unit × Lowering}
    (h₀ : declareSampler index type s₀ = .ok r₀) (h : index ∈ s.samplers.map Prod.fst) :
    declareSampler index type s = .ok ((), s) := by
  have hsome := (isSome_lookup_iff_mem_keys s.samplers index).2 h
  cases type with
  | unknown x =>
    simp only [declareSampler, bind_eq_ok] at h₀
    obtain ⟨_, _, hfail, -⟩ := h₀
    cases hfail
  | _ =>
    simp only [declareSampler, bind, StateT.bind, get, getThe, MonadStateOf.get, StateT.get,
      pure, Except.pure, Except.bind, StateT.pure, hsome, if_true]

theorem declareOutput_again {reg : Register} {usage : Usage} {index : Nat} {s : Lowering}
    (h : reg ∈ s.outputs.map Prod.fst) : declareOutput reg usage index s = .ok ((), s) := by
  have hsome := (isSome_lookup_iff_mem_keys s.outputs reg).2 h
  simp only [declareOutput, bind, StateT.bind, get, getThe, MonadStateOf.get, StateT.get,
    pure, Except.pure, Except.bind, StateT.pure, hsome, if_true]

theorem declarePixelInput_again {reg : Register} {usage : Usage} {index : Nat} {s : Lowering}
    (h : reg ∈ s.inputs.map Prod.fst) : declarePixelInput reg usage index s = .ok ((), s) := by
  have hsome := (isSome_lookup_iff_mem_keys s.inputs reg).2 h
  simp only [declarePixelInput, bind, StateT.bind, get, getThe, MonadStateOf.get, StateT.get,
    pure, Except.pure, Except.bind, StateT.pure, hsome, if_true]

/-- The variable a declaration of `dst` creates: a sampler's pair, an output's, or else an
input's. -/
def Declared (dst : Destination) (s : Lowering) : Prop :=
  match dst.reg.file with
  | .sampler => dst.reg.index ∈ s.samplers.map Prod.fst
  | .output => dst.reg ∈ s.outputs.map Prod.fst
  | _ => dst.reg ∈ s.inputs.map Prod.fst

/-- A declaration that lowered once lowers again, changing nothing, once its register has its
variable and the version is the same. -/
theorem declare_again {decl : Declaration} {dst : Destination} {s₀ s : Lowering}
    {r₀ : Unit × Lowering} (h₀ : declare decl dst s₀ = .ok r₀) (hd : Declared dst s)
    (hversion : s.version = s₀.version) : declare decl dst s = .ok ((), s) := by
  simp only [declare, bind, StateT.bind, get, getThe, MonadStateOf.get, StateT.get, pure,
    Except.pure, Except.bind] at h₀ ⊢
  rw [hversion]
  unfold Declared at hd
  cases hfile : dst.reg.file <;> cases hstage : s₀.version.stage <;>
    simp only [hfile, hstage] at h₀ hd ⊢
  all_goals first
    | cases h₀
    | exact declareSampler_again h₀ hd
    | exact declareVertexInput_again hd
    | exact declareOutput_again hd
    | exact declarePixelInput_again hd
    | (split <;> exact declarePixelInput_again hd)

theorem Declared.of_keeps {dst : Destination} {s₁ s : Lowering} (hd : Declared dst s₁)
    (hkeeps : Keeps s₁ s) : Declared dst s := by
  unfold Declared at hd ⊢
  split at hd
  · exact hkeeps.samplers hd
  · exact hkeeps.outputs hd
  · exact hkeeps.inputs hd

section

set_option mvcgen.warning false

attribute [local spec] build_spec

theorem declareVertexInput_declared (reg : Register) (usage : Usage) :
    ⦃fun _ => ⌜True⌝⦄ declareVertexInput reg usage ⦃⇓? _ s => ⌜reg ∈ s.inputs.map Prod.fst⌝⦄ := by
  mvcgen [declareVertexInput, interfaceVariable, alloc] with
    first
    | exact (isSome_lookup_iff_mem_keys _ _).1 ‹_›
    | simp +zetaDelta

theorem declarePixelInput_declared (reg : Register) (usage : Usage) (index : Nat) :
    ⦃fun _ => ⌜True⌝⦄ declarePixelInput reg usage index ⦃⇓? _ s => ⌜reg ∈ s.inputs.map Prod.fst⌝⦄ := by
  mvcgen [declarePixelInput, interfaceVariable, alloc] with
    first
    | exact (isSome_lookup_iff_mem_keys _ _).1 ‹_›
    | simp +zetaDelta

theorem declareOutput_declared (reg : Register) (usage : Usage) (index : Nat) :
    ⦃fun _ => ⌜True⌝⦄ declareOutput reg usage index ⦃⇓? _ s => ⌜reg ∈ s.outputs.map Prod.fst⌝⦄ := by
  mvcgen [declareOutput, createOutput, interfaceVariable, alloc] with
    first
    | exact (isSome_lookup_iff_mem_keys _ _).1 ‹_›
    | simp +zetaDelta

theorem declareSampler_declared (index : Nat) (type : TextureType) :
    ⦃fun _ => ⌜True⌝⦄ declareSampler index type ⦃⇓? _ s => ⌜index ∈ s.samplers.map Prod.fst⌝⦄ := by
  simp only [declareSampler, List.forIn_cons, List.forIn_nil]
  mvcgen [alloc] with
    first
    | exact (isSome_lookup_iff_mem_keys _ _).1 ‹_›
    | simp +zetaDelta

/-- A declaration that lowers leaves its register with its variable. -/
theorem declare_declared (decl : Declaration) (dst : Destination) :
    ⦃fun _ => ⌜True⌝⦄ declare decl dst ⦃⇓? _ s => ⌜Declared dst s⌝⦄ := by
  -- each case's own variable, read back through the register's file
  have hsampler : dst.reg.file = .sampler → ⦃fun _ => ⌜True⌝⦄
      declareSampler dst.reg.index decl.textureType ⦃⇓? _ s => ⌜Declared dst s⌝⦄ := fun hfile => by
    simpa only [Declared, hfile] using declareSampler_declared dst.reg.index decl.textureType
  have hvertex : ∀ usage, dst.reg.file = .input → ⦃fun _ => ⌜True⌝⦄
      declareVertexInput dst.reg usage ⦃⇓? _ s => ⌜Declared dst s⌝⦄ := fun usage hfile => by
    simpa only [Declared, hfile] using declareVertexInput_declared dst.reg usage
  have houtput : ∀ usage index, dst.reg.file = .output → ⦃fun _ => ⌜True⌝⦄
      declareOutput dst.reg usage index ⦃⇓? _ s => ⌜Declared dst s⌝⦄ := fun usage index hfile => by
    simpa only [Declared, hfile] using declareOutput_declared dst.reg usage index
  have hpixel : ∀ usage index, dst.reg.file = .input ∨ dst.reg.file = .texture → ⦃fun _ => ⌜True⌝⦄
      declarePixelInput dst.reg usage index ⦃⇓? _ s => ⌜Declared dst s⌝⦄ := fun usage index hfile => by
    rcases hfile with hfile | hfile <;>
      simpa only [Declared, hfile] using declarePixelInput_declared dst.reg usage index
  mvcgen [declare, hsampler, hvertex, houtput, hpixel] with
    first
    | exact .inl ‹_›
    | exact .inr ‹_›

end

/-- Lowering a program whose instructions are those of another with instructions added, that do
nothing where they stand, and with the later ones standing further on, gives the same result. -/
theorem program_insert {v : ShaderVersion} {pre mid post : List Instruction} {d : Nat}
    {s : Lowering} {r : Shader × Lowering} (h : program ⟨v, pre ++ post, none⟩ s = .ok r)
    (hmid : ∀ s₁, pre.forM instruction s = .ok ((), s₁) → mid.forM instruction s₁ = .ok ((), s₁)) :
    program ⟨v, pre ++ mid ++ post.map (Instruction.shift d), none⟩ s = .ok r := by
  simp only [program, bind_eq_ok, List.forM_eq_forM, List.forM_append] at h ⊢
  obtain ⟨u, s₂, ⟨u₁, s₁, hpre, hpost⟩, hfinish⟩ := h
  exact ⟨u, s₂, ⟨(), s₁, ⟨(), s₁, hpre, hmid s₁ hpre⟩, forM_shift hpost d⟩, hfinish⟩

theorem program_fault_none {p : Program} {s : Lowering} {r : Shader × Lowering}
    (h : program p s = .ok r) : p.fault = none := by
  cases hfault : p.fault with
  | none => rfl
  | some e =>
    simp only [program, hfault, bind_eq_ok] at h
    obtain ⟨_, _, -, hfail⟩ := h
    cases hfail

/-- A declaration lowered once and met again after more well formed instructions changes
nothing: lowering only adds variables, so its register still has its variable. -/
theorem forM_declare_again {pre rest : List Instruction} {decl : Declaration} {dst : Destination}
    {s s₁ : Lowering} (hwf : ∀ ins ∈ rest, ins.WellFormed)
    (h : (pre ++ .dcl decl dst :: rest).forM instruction s = .ok ((), s₁)) :
    [Instruction.dcl decl dst].forM instruction s₁ = .ok ((), s₁) := by
  simp only [List.forM_eq_forM, List.forM_append, List.forM_cons, bind_eq_ok] at h
  obtain ⟨_, s₂, -, _, s₃, hdcl, hrest⟩ := h
  have hdeclared : Declared dst s₃ := triple_run (declare_declared decl dst) trivial hdcl
  have hversion : s₃.version = s₂.version :=
    (triple_run (declare_keeps s₂ decl dst) (Keeps.refl s₂) hdcl).version
  have hkeeps : Keeps s₃ s₁ := triple_run
    (forM_keeps fun ins hins => instruction_keeps_declared s₃ ins (hwf ins hins)) (Keeps.refl s₃) hrest
  simp only [List.forM_eq_forM, List.forM_cons, List.forM_nil, bind_eq_ok]
  exact ⟨(), s₁, declare_again hdcl (hdeclared.of_keeps hkeeps) (hkeeps.version.trans hversion), rfl⟩

end Lowering

namespace Program

theorem decodeFrom_of_decode {t : Array UInt32} {p : Program} (hp : decode t = .ok p) :
    decodeFrom p.version t 1 = (p.body, p.fault) := by
  unfold decode at hp
  split at hp
  · cases hp
  · split at hp
    · split at hp
      · cases hp
        rfl
      · cases hp
    · cases hp

/-- A stream that starts with the same version token reads with the same version. -/
theorem decode_of_first {t t' : Array UInt32} {p : Program} (hp : decode t = .ok p)
    (hfirst : t'[0]? = t[0]?) :
    decode t' = .ok ⟨p.version, (decodeFrom p.version t' 1).1, (decodeFrom p.version t' 1).2⟩ := by
  unfold decode at hp ⊢
  rw [hfirst]
  split at hp
  · cases hp
  · split at hp
    · split at hp
      · cases hp
        simp only [*, if_true]
      · cases hp
    · cases hp

theorem one_le_size_of_decode {t : Array UInt32} {p : Program} (hp : decode t = .ok p) :
    1 ≤ t.size := by
  unfold decode at hp
  split at hp
  · cases hp
  · rename_i first hfirst
    exact (Array.getElem?_eq_some_iff.1 hfirst).1

end Program

/-- A conversion that succeeds succeeds alike on a stream of no more tokens than allowed, with
the same version token, that reads without a fault as instructions lowering to the same result. -/
theorem Converter.compile_eq_of_lowers {c : Converter} {t t' : Array UInt32} {shader : Shader}
    {p : Program} {body : List Instruction} (hok : c.compile t = .ok shader)
    (hp : Program.decode t = .ok p) (hfirst : t'[0]? = t[0]?) (hsize : t'.size ≤ maxTokens)
    (hdecode : Program.decodeFrom p.version t' 1 = (body, none))
    (hlower : ∀ r, Lowering.program p (Lowering.start c.options c.registry p.version) = .ok r →
      Lowering.program ⟨p.version, body, none⟩ (Lowering.start c.options c.registry p.version) =
        .ok r) :
    c.compile t' = c.compile t := by
  obtain ⟨p₁, hp₁, hlow⟩ := Converter.compile_eq_ok hok
  obtain rfl : p = p₁ := Except.ok.inj (hp.symm.trans hp₁)
  obtain ⟨final, hrun⟩ := Program.lower_eq_ok hlow
  have hp' := Program.decode_of_first hp hfirst
  rw [hdecode] at hp'
  rw [hok, Converter.compile, if_neg (Nat.not_lt.2 hsize), hp']
  simp only [bind, Except.bind, Program.lower, StateT.run', hlower _ hrun]
  rfl

/-- Tokens inserted at an item that reading reaches, read as instructions that do nothing where
they stand, leave the conversion as it was. -/
theorem Converter.compile_insertAt {c : Converter} {t : Array UInt32} {shader : Shader}
    {p : Program} {b : Nat} {pre mid : List Instruction} {ins : List UInt32}
    (hok : c.compile t = .ok shader) (hp : Program.decode t = .ok p)
    (hpre : Program.ReadsTo p.version t 1 b pre)
    (hmid : b ≤ t.size → Program.ReadsTo p.version (insertAt t b ins) b (b + ins.length) mid)
    (hnothing : (∀ ins ∈ pre, ins.WellFormed) → ∀ s₁,
      pre.forM Lowering.instruction (Lowering.start c.options c.registry p.version) = .ok ((), s₁) →
        mid.forM Lowering.instruction s₁ = .ok ((), s₁))
    (hsize : (insertAt t b ins).size ≤ maxTokens) :
    c.compile (insertAt t b ins) = c.compile t := by
  obtain ⟨p₁, hp₁, hlow⟩ := Converter.compile_eq_ok hok
  obtain rfl : p = p₁ := Except.ok.inj (hp.symm.trans hp₁)
  obtain ⟨final, hrun⟩ := Program.lower_eq_ok hlow
  have hdecode := Program.decodeFrom_of_decode hp
  rw [Lowering.program_fault_none hrun] at hdecode
  -- the items after the insertion, read up to where reading stops
  obtain ⟨stop, hreads, hstop⟩ := Program.readsTo_of_decodeFrom hdecode
  obtain ⟨post, hpost, hbody⟩ := hpre.split hreads hstop
  have hb : b ≤ t.size := hpre.le_size (Program.one_le_size_of_decode hp)
  have hwf : ∀ ins ∈ pre, ins.WellFormed := fun ins hins =>
    Program.decode_wellFormed hp ins (hbody ▸ List.mem_append_left post hins)
  refine Converter.compile_eq_of_lowers hok hp (getElem?_insertAt_of_lt hb hpre.le) hsize
    (Program.decodeFrom_insertAt hpre hpost hstop hb (hmid hb)) fun r hr => ?_
  have hp_eq : p = ⟨p.version, pre ++ post, none⟩ := by
    rw [← hbody, ← Lowering.program_fault_none hrun]
  rw [hp_eq] at hr
  exact Lowering.program_insert hr (hnothing hwf)

/-- A stream that agrees with another before the item where reading both stops converts alike. -/
theorem Converter.compile_of_agree {c : Converter} {t t' : Array UInt32} {shader : Shader}
    {p : Program} {stop : Nat} {body : List Instruction} (hok : c.compile t = .ok shader)
    (hp : Program.decode t = .ok p) (hreads : Program.ReadsTo p.version t 1 stop body)
    (hstop : Program.Stops t stop) (hstop' : Program.Stops t' stop)
    (hagree : ∀ k, k < stop → t'[k]? = t[k]?) (hsize : t'.size ≤ maxTokens) :
    c.compile t' = c.compile t := by
  have hdecode := Program.decodeFrom_of_decode hp
  rw [Program.decodeFrom_of_agree hreads (fun k _ hk => rfl) hstop, Prod.mk.injEq] at hdecode
  obtain ⟨hbody, hfault⟩ := hdecode
  refine Converter.compile_eq_of_lowers hok hp (hagree 0 hreads.le)
    hsize (Program.decodeFrom_of_agree hreads (fun k _ hk => hagree k hk) hstop') fun r hr => ?_
  rw [hbody, hfault]
  exact hr

/-- Comments, nops, what follows the end token, an appended end token and a repeated declaration do
not change a conversion that succeeds. -/
theorem Converter.compile_ignores_padding {c : Converter} {t : Array UInt32} {shader : Shader}
    (hok : c.compile t = .ok shader) {p : Program} (hp : Program.decode t = .ok p) :
    (∀ b pre w rest, Program.ReadsTo p.version t 1 b pre →
      Opcode.ofCode (Token.mk w).opcode = .comment → (Token.mk w).commentLength = rest.length →
      (insertAt t b (w :: rest)).size ≤ maxTokens →
      c.compile (insertAt t b (w :: rest)) = c.compile t) ∧
    (∀ b pre w rest, Program.ReadsTo p.version t 1 b pre →
      Opcode.ofCode (Token.mk w).opcode = .nop → (Token.mk w).predicated = false →
      Program.operandCount p.version ⟨w⟩ = some rest.length →
      (insertAt t b (w :: rest)).size ≤ maxTokens →
      c.compile (insertAt t b (w :: rest)) = c.compile t) ∧
    (∀ stop body w junk, Program.ReadsTo p.version t 1 stop body → t[stop]? = some w →
      Opcode.ofCode (Token.mk w).opcode = .endShader →
      (t.toList.take (stop + 1) ++ junk).toArray.size ≤ maxTokens →
      c.compile (t.toList.take (stop + 1) ++ junk).toArray = c.compile t) ∧
    (∀ body, Program.ReadsTo p.version t 1 t.size body → (t.push 0x0000FFFF).size ≤ maxTokens →
      c.compile (t.push 0x0000FFFF) = c.compile t) ∧
    (∀ a a' b pre decl dst mid, Program.ReadsTo p.version t 1 a pre →
      Program.ReadsTo p.version t a a' [.dcl decl dst] → Program.ReadsTo p.version t a' b mid →
      (insertAt t b ((t.toList.drop a).take (a' - a))).size ≤ maxTokens →
      c.compile (insertAt t b ((t.toList.drop a).take (a' - a))) = c.compile t) := by
  refine ⟨?comment, ?nop, ?truncate, ?append, ?copy⟩
  case comment =>
    intro b pre w rest hpre hcomment hlength hsize
    exact Converter.compile_insertAt hok hp hpre (fun hb => .insertAt_comment hb hcomment hlength)
      (fun _ _ _ => rfl) hsize
  case nop =>
    intro b pre w rest hpre hnop hpredicated hcount hsize
    exact Converter.compile_insertAt hok hp hpre
      (fun hb => .insertAt_nop hb hnop hpredicated hcount) (fun _ _ _ => rfl) hsize
  case truncate =>
    intro stop body w junk hreads hw hend hsize
    have hlt := (Array.getElem?_eq_some_iff.1 hw).1
    have hagree : ∀ k, k < stop + 1 → (t.toList.take (stop + 1) ++ junk).toArray[k]? = t[k]? :=
      fun k hk => by
        rw [List.getElem?_toArray, List.getElem?_append_left (by simp; omega),
          List.getElem?_take_of_lt hk, Array.getElem?_toList]
    exact Converter.compile_of_agree hok hp hreads (.inr ⟨w, hw, hend⟩)
      (.inr ⟨w, by rw [hagree stop (Nat.lt_succ_self _), hw], hend⟩)
      (fun k hk => hagree k (Nat.lt_succ_of_lt hk)) hsize
  case append =>
    intro body hreads hsize
    exact Converter.compile_of_agree hok hp hreads (.inl (Nat.le_refl _))
      (.inr ⟨0x0000FFFF, Array.getElem?_push_size, by decide⟩)
      (fun k hk => by rw [Array.getElem?_push_lt hk, Array.getElem?_eq_getElem hk]) hsize
  case copy =>
    intro a a' b pre decl dst mid hpre hdcl hmid hsize
    -- the copy reads as the same declaration, standing further on
    have hcopy := fun hb => hdcl.insertAt_copy hmid.le hb
    exact Converter.compile_insertAt hok hp ((hpre.append hdcl).append hmid) hcopy
      (fun hwf s₁ h => by
        rw [List.append_assoc, List.singleton_append] at h
        exact Lowering.forM_declare_again
          (fun ins hins => hwf ins (List.mem_append_right _ hins)) h) hsize


/-- A model 2 vertex shader that declares a position in `v0` and a colour in `v1`, defines `c0`,
adds the undefined `c3` to the position and scales the colour by `c0` converts, and so do its
padded variants, alike. -/
theorem Converter.compile_ignores_padding_color_vertex :
    ∃ t : Array UInt32, t = #[0xFFFE0200, 0x0200001F, 0x80000000, 0x900F0000, 0x0200001F,
        0x8000000A, 0x900F0001, 0x05000051, 0xA00F0000, 0x3F800000, 0x00000000, 0x00000000,
        0x3F800000, 0x03000002, 0x800F0000, 0x90E40000, 0xA0E40003, 0x02000001, 0xC00F0000,
        0x80E40000, 0x03000005, 0xD00F0000, 0x90E40001, 0xA0E40000, 0x0000FFFF] ∧
    ∃ shader p, Converter.compile {} t = .ok shader ∧ Program.decode t = .ok p ∧
      (∀ b pre w rest, Program.ReadsTo p.version t 1 b pre →
        Opcode.ofCode (Token.mk w).opcode = .comment → (Token.mk w).commentLength = rest.length →
        (insertAt t b (w :: rest)).size ≤ maxTokens →
        Converter.compile {} (insertAt t b (w :: rest)) = Converter.compile {} t) ∧
      (∀ b pre w rest, Program.ReadsTo p.version t 1 b pre →
        Opcode.ofCode (Token.mk w).opcode = .nop → (Token.mk w).predicated = false →
        Program.operandCount p.version ⟨w⟩ = some rest.length →
        (insertAt t b (w :: rest)).size ≤ maxTokens →
        Converter.compile {} (insertAt t b (w :: rest)) = Converter.compile {} t) ∧
      (∀ stop body w junk, Program.ReadsTo p.version t 1 stop body → t[stop]? = some w →
        Opcode.ofCode (Token.mk w).opcode = .endShader →
        (t.toList.take (stop + 1) ++ junk).toArray.size ≤ maxTokens →
        Converter.compile {} (t.toList.take (stop + 1) ++ junk).toArray = Converter.compile {} t) ∧
      (∀ body, Program.ReadsTo p.version t 1 t.size body → (t.push 0x0000FFFF).size ≤ maxTokens →
        Converter.compile {} (t.push 0x0000FFFF) = Converter.compile {} t) ∧
      (∀ a a' b pre decl dst mid, Program.ReadsTo p.version t 1 a pre →
        Program.ReadsTo p.version t a a' [.dcl decl dst] → Program.ReadsTo p.version t a' b mid →
        (insertAt t b ((t.toList.drop a).take (a' - a))).size ≤ maxTokens →
        Converter.compile {} (insertAt t b ((t.toList.drop a).take (a' - a))) =
          Converter.compile {} t) := by
  obtain ⟨shader, hc⟩ := exists_eq_ok_of_toBool
    (show (Converter.compile {} #[0xFFFE0200, 0x0200001F, 0x80000000, 0x900F0000, 0x0200001F,
        0x8000000A, 0x900F0001, 0x05000051, 0xA00F0000, 0x3F800000, 0x00000000, 0x00000000,
        0x3F800000, 0x03000002, 0x800F0000, 0x90E40000, 0xA0E40003, 0x02000001, 0xC00F0000,
        0x80E40000, 0x03000005, 0xD00F0000, 0x90E40001, 0xA0E40000, 0x0000FFFF]).toBool = true by decide +kernel)
  obtain ⟨p, hp⟩ := exists_eq_ok_of_toBool
    (show (Program.decode #[0xFFFE0200, 0x0200001F, 0x80000000, 0x900F0000, 0x0200001F,
        0x8000000A, 0x900F0001, 0x05000051, 0xA00F0000, 0x3F800000, 0x00000000, 0x00000000,
        0x3F800000, 0x03000002, 0x800F0000, 0x90E40000, 0xA0E40003, 0x02000001, 0xC00F0000,
        0x80E40000, 0x03000005, 0xD00F0000, 0x90E40001, 0xA0E40000, 0x0000FFFF]).toBool = true by decide +kernel)
  exact ⟨_, rfl, shader, p, hc, hp, Converter.compile_ignores_padding hc hp⟩

end ShaderBridge
