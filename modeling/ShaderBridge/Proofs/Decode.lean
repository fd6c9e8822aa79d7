import Mathlib
import ShaderBridge.Converter

/-!
The registers of a decoded shader lie within their files: the reader refuses a register number
above its file's largest index, so every register an instruction of a decoded program names, as
destination, source or address, is one of the finitely many registers of its file.
-/

namespace ShaderBridge

open Std.Do

/-- The register's index is at most its file's largest index. -/
def Register.InRange (r : Register) : Prop := r.index ≤ r.file.maxIndex

/-- A source's register and, for a relatively addressed source, its address register lie in
range. -/
def Source.InRange (s : Source) : Prop := s.reg.InRange ∧ ∀ a ∈ s.relative, a.reg.InRange

/-- Every register the instruction names lies in range, and a float or integer definition carries
four values. -/
def Instruction.WellFormed : Instruction → Prop
  | .nop => True
  | .dcl _ dst | .defineBool dst _ => dst.reg.InRange
  | .define dst values | .defineInt dst values => dst.reg.InRange ∧ values.length = 4
  | .mov dst a | .mova dst a | .unary _ dst a => dst.reg.InRange ∧ a.InRange
  | .binary _ dst a b => dst.reg.InRange ∧ a.InRange ∧ b.InRange
  | .ternary _ dst a b c => dst.reg.InRange ∧ a.InRange ∧ b.InRange ∧ c.InRange
  | .texld _ _ dst a b | .texldl dst a b => dst.reg.InRange ∧ a.InRange ∧ b.InRange

namespace Scan

/-- Postconditions of reading steps. -/
abbrev Post (α : Type) := PostCond α (.except DecodeError (.arg Cursor .pure))

/-- The weakest precondition of a reading step, read at one cursor, is the postcondition of the
outcome the step has there. -/
theorem wp_apply {α : Type} (x : Scan α) (Q : Post α) (c : Cursor) :
    wp⟦x⟧ Q c = match x.run c with
      | .ok a c' => Q.1 a c'
      | .error e c' => Q.2.1 e c' := by
  cases h : x.run c <;> simp only [WP.wp, PredTrans.apply, h]

/-- What a triple promises of the value read holds after every successful run. -/
theorem of_run {α : Type} {x : Scan α} {P : α → Prop}
    (h : ⦃fun _ => ⌜True⌝⦄ x ⦃⇓? a _ => ⌜P a⌝⦄) {c c' : Cursor} {a : α}
    (hrun : x.run c = .ok a c') : P a := by
  have post := h c trivial
  rw [wp_apply, hrun] at post
  exact post

end Scan

section

set_option mvcgen.warning false

namespace Scan

@[spec] theorem position_spec {Q : Post Nat} : Triple position (spred(fun c => Q.1 c.pos c)) Q :=
  fun _ h => h

@[spec] theorem fail_spec {α : Type} {i : Nat} {f : DecodeFault} {Q : Post α} :
    Triple (fail i f : Scan α) (spred(fun c => Q.2.1 ⟨i, f⟩ c)) Q :=
  fun _ h => h

@[spec] theorem next_spec : ⦃fun _ => ⌜True⌝⦄ next ⦃⇓? _ _ => ⌜True⌝⦄ := by
  intro c _
  rw [wp_apply]
  split <;> trivial

@[spec] theorem skip_spec (n : Nat) : ⦃fun _ => ⌜True⌝⦄ skip n ⦃⇓? _ _ => ⌜True⌝⦄ := by
  intro c _
  rw [wp_apply]
  split <;> trivial

/-- A register read is one its file has: a larger number is refused. -/
theorem register_inRange (v : ShaderVersion) (relative : Bool) :
    ⦃fun _ => ⌜True⌝⦄ register v relative ⦃⇓? r _ => ⌜r.2.InRange⌝⦄ := by
  mvcgen [register] with
    (simp only [Register.InRange]; omega)

theorem destination_inRange (v : ShaderVersion) :
    ⦃fun _ => ⌜True⌝⦄ destination v ⦃⇓? d _ => ⌜d.reg.InRange⌝⦄ := by
  mvcgen [destination, register_inRange]

/-- A source and its address register are in range; the implicit `a0` of shader model 1 is. -/
theorem source_inRange (v : ShaderVersion) :
    ⦃fun _ => ⌜True⌝⦄ source v ⦃⇓? s _ => ⌜s.InRange⌝⦄ := by
  mvcgen [source, register_inRange] with
    simp_all [Source.InRange, Register.InRange, RegisterFile.maxIndex]

end Scan

/-- Reading `n` tokens gives `n` values. -/
theorem Instruction.tokens_length (n : Nat) :
    ⦃fun _ => ⌜True⌝⦄ Instruction.tokens n ⦃⇓? vs _ => ⌜vs.length = n⌝⦄ := by
  induction n with
  | zero => mvcgen [Instruction.tokens]
  | succ n ih =>
    mvcgen [Instruction.tokens, ih] with
      (simp only [List.length_cons]; omega)

/-- Every instruction an opcode's reader reads is well formed. -/
theorem Instruction.reader_wellFormed {v : ShaderVersion} {op : Opcode} {control tokenIndex : Nat}
    {scan : Scan Instruction} (h : Instruction.reader v op control tokenIndex = some scan) :
    ⦃fun _ => ⌜True⌝⦄ scan ⦃⇓? i _ => ⌜i.WellFormed⌝⦄ := by
  unfold Instruction.reader at h
  split at h <;> (try split at h) <;> cases h <;>
    mvcgen [Scan.destination_inRange, Scan.source_inRange, Instruction.tokens_length]

end

theorem Program.decodeFrom_wellFormed (v : ShaderVersion) (tokens : Array UInt32) (pos : Nat) :
    ∀ ins ∈ (Program.decodeFrom v tokens pos).1, ins.WellFormed := by
  fun_induction Program.decodeFrom v tokens pos <;> simp_all
  -- the instruction read just before the fault that stopped reading
  · exact Scan.of_run (Instruction.reader_wellFormed ‹_›) ‹_›
  -- an instruction read in the middle of the stream
  · exact ⟨Scan.of_run (Instruction.reader_wellFormed ‹_›) ‹_›, ‹_›⟩

/-- Every instruction of a decoded shader is well formed. -/
theorem Program.decode_wellFormed {tokens : Array UInt32} {p : Program}
    (h : Program.decode tokens = .ok p) : ∀ ins ∈ p.body, ins.WellFormed := by
  unfold Program.decode at h
  split at h
  · cases h
  · split at h
    · split at h
      · cases h
        exact Program.decodeFrom_wellFormed _ _ _
      · cases h
    · cases h

/-- A conversion that succeeds decoded the tokens into a program and lowered it. -/
theorem Converter.compile_eq_ok {c : Converter} {tokens : Array UInt32} {shader : Shader}
    (h : c.compile tokens = .ok shader) :
    ∃ p, Program.decode tokens = .ok p ∧ p.lower c.options c.registry = .ok shader := by
  unfold Converter.compile at h
  split at h
  · cases h
  · cases hp : Program.decode tokens with
    | error e => simp [hp, bind, Except.bind] at h
    | ok p =>
      simp only [hp, bind, Except.bind] at h
      exact ⟨p, rfl, h⟩

/-- A lowering that succeeds ran the program from the start state to the state it read the
shader off. -/
theorem Program.lower_eq_ok {p : Program} {options : Options} {registry : ConstantRegistry}
    {shader : Shader} (h : p.lower options registry = .ok shader) :
    ∃ s', (Lowering.program p).run (Lowering.start options registry p.version) =
      .ok (shader, s') := by
  unfold Program.lower at h
  cases hrun : Lowering.program p (Lowering.start options registry p.version) with
  | error e => simp [StateT.run', hrun] at h
  | ok r =>
    obtain ⟨r, s'⟩ := r
    simp only [StateT.run', hrun, Functor.map, Except.map, Except.ok.injEq] at h
    subst h
    exact ⟨s', hrun⟩

end ShaderBridge
