import ShaderBridge.Proofs.IndexBounds
import ShaderBridge.Proofs.Lockstep

/-!
Reading and lowering are local: the same tokens elsewhere in a stream read and lower alike, and a
declaration met a second time changes nothing.
-/

namespace ShaderBridge

/-- `c'` holds the tokens that `c` has left before its limit, `d` positions further on. -/
structure Cursor.Shifted (d : Nat) (c c' : Cursor) : Prop where
  pos : c'.pos = c.pos + d
  limit : c'.limit = c.limit + d
  tokens : ∀ k, c.pos ≤ k → k < c.limit → c'.tokens[k + d]? = c.tokens[k]?

namespace Cursor.Shifted

variable {d : Nat} {c c' : Cursor}

theorem remaining (h : c.Shifted d c') : c'.remaining = c.remaining := by
  simp only [Cursor.remaining, h.pos, h.limit]
  omega

theorem peek (h : c.Shifted d c') : c'.peek = c.peek := by
  unfold Cursor.peek
  rw [h.pos, h.limit]
  by_cases hlt : c.pos < c.limit
  · rw [if_pos hlt, if_pos (by omega), h.tokens c.pos (Nat.le_refl _) hlt]
  · rw [if_neg hlt, if_neg (by omega)]

/-- Reading on within the window keeps the cursors shifted. -/
theorem advance (h : c.Shifted d c') (k : Nat) :
    ({ c with pos := c.pos + k } : Cursor).Shifted d { c' with pos := c'.pos + k } :=
  ⟨by simp only [h.pos]; omega, h.limit, fun j hj hlt => h.tokens j (by simp at hj; omega) hlt⟩

end Cursor.Shifted

namespace Scan

variable {α β α' β' : Type}

theorem run_bind_eq_ok {x : Scan α} {f : α → Scan β} {c c₂ : Cursor} {b : β} :
    (x >>= f).run c = .ok b c₂ ↔ ∃ a c₁, x.run c = .ok a c₁ ∧ (f a).run c₁ = .ok b c₂ := by
  cases hx : x c with
  | ok a c₁ => simp [EStateM.run, bind, EStateM.bind, hx]
  | error e c₁ => simp [EStateM.run, bind, EStateM.bind, hx]

/-- Where `x` reads `a` from the window of a cursor, `x'` reads a value related to `a` by `R`
from the same window placed `d` tokens further on, and leaves as much of it unread. -/
def Follows (R : α → β → Prop) (x : Scan α) (x' : Scan β) : Prop :=
  ∀ d c c' a c₁, c.Shifted d c' → x.run c = .ok a c₁ →
    ∃ a' c₁', x'.run c' = .ok a' c₁' ∧ R a a' ∧ c₁.Shifted d c₁'

namespace Follows

variable {R : β → β' → Prop}

theorem pure {a : β} {b : β'} (h : R a b) : Follows R (Pure.pure a) (Pure.pure b) := by
  intro d c c' a₀ c₁ hs hrun
  cases hrun
  exact ⟨b, c', rfl, h, hs⟩

theorem fail {i : Nat} {f : DecodeFault} {x' : Scan β'} : Follows R (Scan.fail i f) x' := by
  intro d c c' a c₁ _ hrun
  cases hrun

theorem fail_bind {i : Nat} {f : DecodeFault} {g : α → Scan β} {x' : Scan β'} :
    Follows R (Scan.fail i f >>= g) x' := by
  intro d c c' a c₁ _ hrun
  obtain ⟨_, _, hfail, _⟩ := run_bind_eq_ok.1 hrun
  cases hfail

theorem bind {S : α → α' → Prop} {x : Scan α} {x' : Scan α'} {f : α → Scan β} {g : α' → Scan β'}
    (hx : Follows S x x') (hf : ∀ a a', S a a' → Follows R (f a) (g a')) :
    Follows R (x >>= f) (x' >>= g) := by
  intro d c c' b c₂ hs hrun
  obtain ⟨a, c₁, hx₁, hf₁⟩ := run_bind_eq_ok.1 hrun
  obtain ⟨a', c₁', hx₁', hS, hs₁⟩ := hx d c c' a c₁ hs hx₁
  obtain ⟨b', c₂', hf₁', hR, hs₂⟩ := hf a a' hS d c₁ c₁' b c₂ hs₁ hf₁
  exact ⟨b', c₂', run_bind_eq_ok.2 ⟨a', c₁', hx₁', hf₁'⟩, hR, hs₂⟩

/-- A step that reads the same value on both sides, followed by steps that follow each other. -/
theorem bind_eq {x : Scan α} {f : α → Scan β} {g : α → Scan β'} (hx : Follows Eq x x)
    (hf : ∀ a, Follows R (f a) (g a)) : Follows R (x >>= f) (x >>= g) :=
  bind hx fun a _ h => by
    subst h
    exact hf a

theorem ite {p : Prop} [Decidable p] {x y : Scan β} {x' y' : Scan β'}
    (hx : p → Follows R x x') (hy : ¬p → Follows R y y') :
    Follows R (if p then x else y) (if p then x' else y') := by
  by_cases hp : p
  · simpa only [hp, if_true] using hx hp
  · simpa only [hp, if_false] using hy hp

end Follows

/-- The position read differs by the shift, but reading it moves nothing. -/
theorem position_follows : Follows (fun _ _ => True) position position := by
  intro d c c' a c₁ hs hrun
  cases hrun
  exact ⟨c'.pos, c', rfl, trivial, hs⟩

theorem next_follows : Follows Eq next next := by
  intro d c c' t c₁ hs hrun
  simp only [EStateM.run, next] at hrun
  cases hp : c.peek with
  | none => simp [hp] at hrun
  | some t' =>
    simp only [hp, EStateM.Result.ok.injEq] at hrun
    obtain ⟨rfl, rfl⟩ := hrun
    exact ⟨t', { c' with pos := c'.pos + 1 }, by simp [EStateM.run, next, hs.peek, hp], rfl,
      hs.advance 1⟩

theorem skip_follows (count : Nat) : Follows Eq (skip count) (skip count) := by
  intro d c c' u c₁ hs hrun
  simp only [EStateM.run, skip] at hrun
  split at hrun
  · cases hrun
    exact ⟨(), { c' with pos := c'.pos + count },
      by simp [EStateM.run, skip, hs.remaining, *], rfl, hs.advance count⟩
  · cases hrun

theorem register_follows (v : ShaderVersion) (relative : Bool) :
    Follows Eq (register v relative) (register v relative) := by
  unfold register
  refine Follows.bind position_follows fun i j _ => Follows.bind_eq next_follows fun t => ?_
  refine Follows.ite (fun _ => Follows.fail) fun _ => ?_
  exact Follows.ite (fun _ => Follows.fail) fun _ => Follows.pure rfl

theorem destination_follows (v : ShaderVersion) :
    Follows Eq (destination v) (destination v) := by
  unfold destination
  refine Follows.bind position_follows fun i j _ =>
    Follows.bind_eq (register_follows v false) fun ⟨t, reg⟩ => ?_
  exact Follows.ite (fun _ => Follows.fail) fun _ => Follows.pure rfl

theorem source_follows (v : ShaderVersion) : Follows Eq (source v) (source v) := by
  unfold source
  refine Follows.bind_eq (register_follows v false) fun ⟨t, reg⟩ => ?_
  -- the address of a relative source: implicit in model 1, a second token from model 2 on
  dsimp only
  have hkept : ∀ r, Follows Eq (pure r >>= fun relative =>
      (pure ⟨reg, t.swizzle, t.sourceModifier, relative⟩ : Scan Source))
      (pure r >>= fun relative => pure ⟨reg, t.swizzle, t.sourceModifier, relative⟩) :=
    fun _ => Follows.bind_eq (Follows.pure rfl) fun _ => Follows.pure rfl
  refine Follows.ite (fun _ => hkept _) fun _ => Follows.ite (fun _ => hkept _) fun _ => ?_
  refine Follows.bind position_follows fun i j _ =>
    Follows.bind_eq (register_follows v true) fun ⟨address, addressReg⟩ => ?_
  dsimp only
  exact Follows.ite (fun _ => Follows.fail_bind) fun _ => hkept _

theorem run_skip {count : Nat} {c : Cursor} (h : count ≤ c.remaining) :
    (skip count).run c = .ok () { c with pos := c.pos + count } := by
  simp [EStateM.run, skip, h]

theorem run_begin {count : Nat} {c : Cursor} (h : c.pos + count ≤ c.tokens.size) :
    (begin count).run c = .ok () { c with limit := c.pos + count } := by
  simp [EStateM.run, begin, h]

theorem run_finish {op : Opcode} {c : Cursor} (h : c.remaining = 0) :
    (finish op).run c = .ok () { c with limit := c.tokens.size } := by
  simp [EStateM.run, finish, h]

theorem le_remaining_of_run_skip {count : Nat} {c c' : Cursor} {u : Unit}
    (h : (skip count).run c = .ok u c') : count ≤ c.remaining := by
  simp only [EStateM.run, skip] at h
  split at h
  · assumption
  · cases h

theorem eq_of_run_begin {count : Nat} {c c' : Cursor} {u : Unit}
    (h : (begin count).run c = .ok u c') :
    c.pos + count ≤ c.tokens.size ∧ c' = { c with limit := c.pos + count } := by
  simp only [EStateM.run, begin] at h
  split at h
  · cases h
    exact ⟨‹_›, rfl⟩
  · cases h

theorem remaining_of_run_finish {op : Opcode} {c c' : Cursor} {u : Unit}
    (h : (finish op).run c = .ok u c') : c.remaining = 0 := by
  simp only [EStateM.run, finish] at h
  split at h
  · assumption
  · cases h

theorem tokens_follows (n : Nat) : Follows Eq (Instruction.tokens n) (Instruction.tokens n) := by
  induction n with
  | zero => exact Follows.pure rfl
  | succ n ih =>
    exact Follows.bind_eq next_follows fun _ => Follows.bind_eq ih fun _ => Follows.pure rfl

end Scan

/-- The instruction as read `d` tokens further on: a texture load records where it stands. -/
def Instruction.shift (d : Nat) : Instruction → Instruction
  | .texld control tokenIndex dst coord sampler => .texld control (tokenIndex + d) dst coord sampler
  | ins => ins

open Scan in
/-- An instruction is read from its operand tokens alone: the same tokens `d` positions further
on read as the same instruction, standing `d` positions further on. -/
theorem Instruction.reader_follows {v : ShaderVersion} {op : Opcode} {control tokenIndex : Nat}
    {scan : Scan Instruction} (d : Nat) (h : Instruction.reader v op control tokenIndex = some scan) :
    ∃ scan', Instruction.reader v op control (tokenIndex + d) = some scan' ∧
      Follows (fun i i' => i' = i.shift d) scan scan' := by
  cases op <;> simp only [Instruction.reader] at h ⊢
  -- the opcodes the converter does not lower have no reader
  case comment | endShader | unknown => cases h
  -- a nop steps over whatever operand tokens it has
  case nop =>
    cases h
    refine ⟨_, rfl, fun d' c c' a c₁ hs hrun => ?_⟩
    obtain ⟨c₀, _, hget, hrest⟩ := run_bind_eq_ok.1 hrun
    cases hget
    obtain ⟨u, c₂, hskip, hpure⟩ := run_bind_eq_ok.1 hrest
    obtain ⟨u', c₂', hskip', -, hs₂⟩ := skip_follows c.remaining d' c c' u c₂ hs hskip
    rw [← hs.remaining] at hskip'
    obtain ⟨rfl, rfl⟩ : Instruction.nop = a ∧ c₂ = c₁ := by
      simpa [EStateM.run, pure, EStateM.pure] using hpure
    exact ⟨.nop, c₂', run_bind_eq_ok.2 ⟨c', c', rfl, run_bind_eq_ok.2 ⟨u', c₂', hskip', rfl⟩⟩,
      rfl, hs₂⟩
  case tex =>
    by_cases hpixel : v.stage = .pixel
    · simp only [hpixel, if_true, Option.some.injEq] at h ⊢
      subst h
      refine ⟨_, rfl, ?_⟩
      exact Follows.bind_eq (destination_follows v) fun _ => Follows.bind_eq (source_follows v)
        fun _ => Follows.bind_eq (source_follows v) fun _ => Follows.pure rfl
    · simp only [hpixel, if_false, reduceCtorEq] at h
  -- every other reader reads its operands in turn and builds the instruction from them
  all_goals
    cases h
    refine ⟨_, rfl, ?_⟩
    repeat
      first
      | refine Follows.bind_eq (destination_follows v) fun _ => ?_
      | refine Follows.bind_eq (source_follows v) fun _ => ?_
      | refine Follows.bind_eq next_follows fun _ => ?_
      | refine Follows.bind_eq (tokens_follows 4) fun _ => ?_
    exact Follows.pure rfl

theorem Instruction.shift_zero (i : Instruction) : i.shift 0 = i := by
  cases i <;> rfl

namespace Program

/-- How many operand tokens follow the instruction token `t`: from shader model 2 on the token
says, in model 1 its opcode does. -/
def operandCount (v : ShaderVersion) (t : Token) : Option Nat :=
  if v.isModel1 then (Opcode.ofCode t.opcode).model1OperandCount else some t.length

/-- Reading a stream from the item at `pos` comes to the item at `stop` without a fault, having
read the instructions `body`. -/
inductive ReadsTo (v : ShaderVersion) (tokens : Array UInt32) : Nat → Nat → List Instruction → Prop
  | refl (pos : Nat) : ReadsTo v tokens pos pos []
  /-- A comment token and the tokens it covers are stepped over. -/
  | comment {pos stop : Nat} {body : List Instruction} {w : UInt32}
      (htoken : tokens[pos]? = some w) (hcomment : Opcode.ofCode (Token.mk w).opcode = .comment)
      (hfit : pos + 1 + (Token.mk w).commentLength ≤ tokens.size)
      (rest : ReadsTo v tokens (pos + 1 + (Token.mk w).commentLength) stop body) :
      ReadsTo v tokens pos stop body
  /-- An instruction token opens its operand tokens, and its reader reads all of them. -/
  | instruction {pos n stop : Nat} {body : List Instruction} {w : UInt32} {scan : Scan Instruction}
      {i : Instruction} {c : Cursor} (htoken : tokens[pos]? = some w)
      (hcount : operandCount v ⟨w⟩ = some n) (hfit : pos + 1 + n ≤ tokens.size)
      (hpredicated : (Token.mk w).predicated = false)
      (hreader : Instruction.reader v (Opcode.ofCode (Token.mk w).opcode) (Token.mk w).control pos =
        some scan)
      (hscan : scan.run ⟨tokens, pos + 1, pos + 1 + n⟩ = .ok i c) (hdone : c.remaining = 0)
      (rest : ReadsTo v tokens (pos + 1 + n) stop body) : ReadsTo v tokens pos stop (i :: body)

/-- Reading stops at `stop` without a fault: the stream ends there, or an end token stands
there. -/
def Stops (tokens : Array UInt32) (stop : Nat) : Prop :=
  tokens.size ≤ stop ∨ ∃ w, tokens[stop]? = some w ∧ Opcode.ofCode (Token.mk w).opcode = .endShader

section Decoding

variable {v : ShaderVersion} {tokens : Array UInt32}

theorem decodeFrom_stop {pos : Nat} (h : Stops tokens pos) : decodeFrom v tokens pos = ([], none) := by
  rw [decodeFrom]
  rcases h with hend | ⟨w, hw, hop⟩
  · rw [dif_neg (by omega)]
  · obtain ⟨hlt, rfl⟩ := Array.getElem?_eq_some_iff.1 hw
    rw [dif_pos hlt]
    simp only [hop]

theorem decodeFrom_comment {pos : Nat} {w : UInt32} (htoken : tokens[pos]? = some w)
    (hcomment : Opcode.ofCode (Token.mk w).opcode = .comment)
    (hfit : pos + 1 + (Token.mk w).commentLength ≤ tokens.size) :
    decodeFrom v tokens pos = decodeFrom v tokens (pos + 1 + (Token.mk w).commentLength) := by
  obtain ⟨hlt, rfl⟩ := Array.getElem?_eq_some_iff.1 htoken
  rw [decodeFrom, dif_pos hlt]
  simp only [hcomment]
  rw [Scan.run_skip (by simp only [Cursor.remaining]; omega)]

theorem decodeFrom_instruction {pos n : Nat} {w : UInt32} {scan : Scan Instruction}
    {i : Instruction} {c : Cursor} (htoken : tokens[pos]? = some w)
    (hcount : operandCount v ⟨w⟩ = some n) (hfit : pos + 1 + n ≤ tokens.size)
    (hpredicated : (Token.mk w).predicated = false)
    (hreader : Instruction.reader v (Opcode.ofCode (Token.mk w).opcode) (Token.mk w).control pos =
      some scan)
    (hscan : scan.run ⟨tokens, pos + 1, pos + 1 + n⟩ = .ok i c) (hdone : c.remaining = 0) :
    decodeFrom v tokens pos =
      (i :: (decodeFrom v tokens (pos + 1 + n)).1, (decodeFrom v tokens (pos + 1 + n)).2) := by
  obtain ⟨hlt, rfl⟩ := Array.getElem?_eq_some_iff.1 htoken
  rw [decodeFrom, dif_pos hlt]
  dsimp only
  split
  case h_1 hop => simp [hop, Instruction.reader] at hreader
  case h_2 hop => simp [hop, Instruction.reader] at hreader
  case h_3 =>
    simp only [operandCount] at hcount
    simp only [hcount]
    rw [Scan.run_begin (by simp only; omega)]
    simp only [hpredicated, hreader, Bool.false_eq_true, if_false]
    rw [hscan]
    simp only [Scan.run_finish hdone]

namespace ReadsTo

theorem le {pos stop : Nat} {body : List Instruction} (h : ReadsTo v tokens pos stop body) :
    pos ≤ stop := by
  induction h <;> omega

/-- The instructions read up to an item come first among those read from the start. -/
theorem decodeFrom_eq {pos b : Nat} {pre : List Instruction} (h : ReadsTo v tokens pos b pre) :
    decodeFrom v tokens pos = (pre ++ (decodeFrom v tokens b).1, (decodeFrom v tokens b).2) := by
  induction h with
  | refl => rfl
  | comment htoken hcomment hfit _ ih => rw [decodeFrom_comment htoken hcomment hfit, ih]
  | instruction htoken hcount hfit hpredicated hreader hscan hdone _ ih =>
    rw [decodeFrom_instruction htoken hcount hfit hpredicated hreader hscan hdone, ih]
    rfl

theorem append {pos mid stop : Nat} {pre post : List Instruction}
    (h₁ : ReadsTo v tokens pos mid pre) (h₂ : ReadsTo v tokens mid stop post) :
    ReadsTo v tokens pos stop (pre ++ post) := by
  induction h₁ with
  | refl => exact h₂
  | comment htoken hcomment hfit _ ih => exact .comment htoken hcomment hfit (ih h₂)
  | instruction htoken hcount hfit hpredicated hreader hscan hdone _ ih =>
    exact .instruction htoken hcount hfit hpredicated hreader hscan hdone (ih h₂)

/-- The stream that holds a token another stream holds is at least as long. -/
theorem lt_size_of_getElem?_eq {a b : Array UInt32} {i j : Nat} (h : a[i]? = b[j]?)
    (hj : j < b.size) : i < a.size := by
  by_contra hi
  rw [Array.getElem?_eq_none (by omega), Array.getElem?_eq_getElem hj] at h
  cases h

/-- The items read between `pos` and `stop` are read the same from a stream that holds their
tokens `d` positions further on, where each instruction stands `d` positions further on. -/
theorem shift {t' : Array UInt32} {d pos stop : Nat} {body : List Instruction}
    (h : ReadsTo v tokens pos stop body)
    (hagree : ∀ k, pos ≤ k → k < stop → t'[k + d]? = tokens[k]?) :
    ReadsTo v t' (pos + d) (stop + d) (body.map (Instruction.shift d)) := by
  induction h with
  | refl pos => exact .refl _
  | @comment pos stop body w htoken hcomment hfit rest ih =>
    have hle := rest.le
    have htoken' : t'[pos + d]? = some w := by rw [hagree pos (Nat.le_refl _) (by omega), htoken]
    -- the last token the comment covers stands in the other stream too
    have hlast := lt_size_of_getElem?_eq
      (hagree (pos + (Token.mk w).commentLength) (by omega) (by omega)) (by omega)
    have hrest := ih fun k hk hk' => hagree k (by omega) hk'
    rw [show pos + 1 + (Token.mk w).commentLength + d = pos + d + 1 + (Token.mk w).commentLength
      by omega] at hrest
    exact .comment htoken' hcomment (by omega) hrest
  | @instruction pos n stop body w scan i c htoken hcount hfit hpredicated hreader hscan hdone
      rest ih =>
    have hle := rest.le
    have htoken' : t'[pos + d]? = some w := by rw [hagree pos (Nat.le_refl _) (by omega), htoken]
    have hlast := lt_size_of_getElem?_eq (hagree (pos + n) (by omega) (by omega)) (by omega)
    obtain ⟨scan', hreader', hfollows⟩ := Instruction.reader_follows d hreader
    -- the operand tokens are read alike from their place in the other stream
    have hwindow : Cursor.Shifted d ⟨tokens, pos + 1, pos + 1 + n⟩ ⟨t', pos + d + 1, pos + d + 1 + n⟩ :=
      ⟨by simp only; omega, by simp only; omega, fun k hk hk' => hagree k (by simp at hk; omega)
        (by simp at hk'; omega)⟩
    obtain ⟨i', c', hscan', rfl, hc⟩ := hfollows d _ _ i c hwindow hscan
    have hrest := ih fun k hk hk' => hagree k (by omega) hk'
    rw [show pos + 1 + n + d = pos + d + 1 + n by omega] at hrest
    exact .instruction htoken' hcount (by omega) hpredicated hreader' hscan'
      (by rw [hc.remaining, hdone]) hrest

/-- Reading is determined by the stream: reading up to an item and reading up to where reading
stops agree up to that item. -/
theorem split {pos b stop : Nat} {pre body : List Instruction} (h₁ : ReadsTo v tokens pos b pre)
    (h₂ : ReadsTo v tokens pos stop body) (hstop : Stops tokens stop) :
    ∃ post, ReadsTo v tokens b stop post ∧ body = pre ++ post := by
  induction h₁ generalizing body with
  | refl => exact ⟨body, h₂, rfl⟩
  | @comment pos b pre w htoken hcomment hfit rest ih =>
    cases h₂ with
    | refl =>
      rcases hstop with hend | ⟨w', hw', hend⟩
      · have := (Array.getElem?_eq_some_iff.1 htoken).1
        omega
      · rw [htoken, Option.some.injEq] at hw'
        subst hw'
        rw [hcomment] at hend
        cases hend
    | comment htoken₂ hcomment₂ hfit₂ rest₂ =>
      rw [htoken, Option.some.injEq] at htoken₂
      subst htoken₂
      exact ih rest₂
    | instruction htoken₂ hcount₂ hfit₂ hpredicated₂ hreader₂ =>
      rw [htoken, Option.some.injEq] at htoken₂
      subst htoken₂
      rw [hcomment] at hreader₂
      cases hreader₂
  | @instruction pos n b pre w scan i c htoken hcount hfit hpredicated hreader hscan hdone rest ih =>
    cases h₂ with
    | refl =>
      rcases hstop with hend | ⟨w', hw', hend⟩
      · have := (Array.getElem?_eq_some_iff.1 htoken).1
        omega
      · rw [htoken, Option.some.injEq] at hw'
        subst hw'
        rw [hend] at hreader
        cases hreader
    | comment htoken₂ hcomment₂ =>
      rw [htoken, Option.some.injEq] at htoken₂
      subst htoken₂
      rw [hcomment₂] at hreader
      cases hreader
    | instruction htoken₂ hcount₂ hfit₂ hpredicated₂ hreader₂ hscan₂ hdone₂ rest₂ =>
      rw [htoken, Option.some.injEq] at htoken₂
      subst htoken₂
      rw [hcount, Option.some.injEq] at hcount₂
      subst hcount₂
      rw [hreader, Option.some.injEq] at hreader₂
      subst hreader₂
      rw [hscan] at hscan₂
      cases hscan₂
      obtain ⟨post, hpost, rfl⟩ := ih rest₂
      exact ⟨post, hpost, rfl⟩

end ReadsTo

/-- Reading without a fault goes from item to item up to where it stops. -/
theorem readsTo_of_decodeFrom {pos : Nat} {body : List Instruction}
    (h : decodeFrom v tokens pos = (body, none)) : ∃ stop, ReadsTo v tokens pos stop body ∧ Stops tokens stop := by
  fun_induction decodeFrom v tokens pos generalizing body
  case case1 pos hlt t c opcode hop u c' hskip ih =>
    obtain ⟨stop, hreads, hstops⟩ := ih h
    have hfit := Scan.le_remaining_of_run_skip hskip
    simp only [Cursor.remaining, c, t] at hfit
    exact ⟨stop, .comment (Array.getElem?_eq_getElem hlt) hop (by omega) hreads, hstops⟩
  case case3 pos hlt t opcode hop =>
    cases h
    exact ⟨pos, .refl pos, .inr ⟨_, Array.getElem?_eq_getElem hlt, hop⟩⟩
  case case10 pos hlt t c₀ opcode count n hcount u c₁ hbegin hpredicated scan hreader i c₂ hscan
      u' c₃ hfinish rest _ _ ih =>
    obtain ⟨hfit, rfl⟩ := Scan.eq_of_run_begin hbegin
    simp only [Prod.mk.injEq] at h
    obtain ⟨rfl, hnone⟩ := h
    obtain ⟨stop, hreads, hstops⟩ := ih (Prod.ext rfl hnone)
    refine ⟨stop, .instruction (Array.getElem?_eq_getElem hlt) ?_ (by simp only [c₀] at hfit; omega)
      (by simpa using hpredicated) hreader hscan (Scan.remaining_of_run_finish hfinish) hreads,
      hstops⟩
    simpa [operandCount, count] using hcount
  case case11 pos hge =>
    cases h
    exact ⟨pos, .refl pos, .inl (by omega)⟩
  -- every other way reading ends is a fault
  all_goals simp at h

end Decoding

end Program

namespace Lowering

open Std.Do Spirv

/-- What `s` keeps of `s₀`: the version, and the registers and samplers that have variables. -/
structure Keeps (s₀ s : Lowering) : Prop where
  version : s.version = s₀.version
  inputs : s₀.inputs.map Prod.fst ⊆ s.inputs.map Prod.fst
  outputs : s₀.outputs.map Prod.fst ⊆ s.outputs.map Prod.fst
  samplers : s₀.samplers.map Prod.fst ⊆ s.samplers.map Prod.fst

namespace Keeps

variable {s₀ s s' : Lowering}

theorem refl (s : Lowering) : Keeps s s :=
  ⟨rfl, List.Subset.refl _, List.Subset.refl _, List.Subset.refl _⟩

/-- A step that keeps the version and only adds variables keeps what was kept. -/
theorem step (h : Keeps s₀ s) (hversion : s'.version = s.version)
    (hinputs : s.inputs.map Prod.fst ⊆ s'.inputs.map Prod.fst)
    (houtputs : s.outputs.map Prod.fst ⊆ s'.outputs.map Prod.fst)
    (hsamplers : s.samplers.map Prod.fst ⊆ s'.samplers.map Prod.fst) : Keeps s₀ s' :=
  ⟨hversion.trans h.version, List.Subset.trans h.inputs hinputs,
    List.Subset.trans h.outputs houtputs, List.Subset.trans h.samplers hsamplers⟩

/-- A step that leaves the version and the variables as they are keeps what was kept. -/
theorem of_eq (h : Keeps s₀ s) (hversion : s'.version = s.version) (hinputs : s'.inputs = s.inputs)
    (houtputs : s'.outputs = s.outputs) (hsamplers : s'.samplers = s.samplers) : Keeps s₀ s' := by
  refine h.step hversion ?_ ?_ ?_
  · rw [hinputs]
    exact List.Subset.refl _
  · rw [houtputs]
    exact List.Subset.refl _
  · rw [hsamplers]
    exact List.Subset.refl _

end Keeps

section

set_option mvcgen.warning false

attribute [local irreducible] Builder.vec4Constant

attribute [local spec] build_spec

variable (s₀ : Lowering)

theorem keeps_basic : Basic (Keeps s₀) where
  alloc := fun _ hs => hs.of_eq rfl rfl rfl rfl
  emit _ _ := fun _ hs => hs.of_eq rfl rfl rfl rfl
  typeId _ _ := fun _ hs => hs.of_eq rfl rfl rfl rfl
  pointerTypeId _ _ _ := fun _ hs => hs.of_eq rfl rfl rfl rfl
  null _ _ := fun _ hs => hs.of_eq rfl rfl rfl rfl
  float32 _ := fun _ hs => hs.of_eq rfl rfl rfl rfl
  int32 _ := fun _ hs => hs.of_eq rfl rfl rfl rfl
  vec4Constant _ _ := fun _ hs => hs.of_eq rfl rfl rfl rfl
  composite _ _ := fun _ hs => hs.of_eq rfl rfl rfl rfl
  boolean _ := fun _ hs => hs.of_eq rfl rfl rfl rfl
  bindValue _ _ := fun _ hs => hs.of_eq rfl rfl rfl rfl
  markDefined _ _ hs := hs.of_eq rfl rfl rfl rfl

theorem loadInput_keeps (reg : Register) :
    ⦃fun s => ⌜Keeps s₀ s⌝⦄ loadInput reg ⦃⇓? _ s => ⌜Keeps s₀ s⌝⦄ := by
  mvcgen [loadInput, unpackColor, typeId, floatType, float32, compute, shuffle, alloc, emit] with
    (have hs := ‹Keeps _ _›
     exact hs.of_eq rfl rfl rfl rfl)

theorem constantBlock_keeps :
    ⦃fun s => ⌜Keeps s₀ s⌝⦄ constantBlock ⦃⇓? _ s => ⌜Keeps s₀ s⌝⦄ := by
  mvcgen [constantBlock, typeId, alloc] with
    (have hs := ‹Keeps _ _›
     exact hs.of_eq rfl rfl rfl rfl)

theorem ensureOutput_keeps (reg : Register) :
    ⦃fun s => ⌜Keeps s₀ s⌝⦄ ensureOutput reg ⦃⇓? _ s => ⌜Keeps s₀ s⌝⦄ := by
  mvcgen [ensureOutput, createOutput, interfaceVariable, alloc] with
    (have hs := ‹Keeps _ _›
     exact hs.step rfl (List.Subset.refl _) (List.subset_cons_self _ _) (List.Subset.refl _))

theorem declareVertexInput_keeps (reg : Register) (usage : Usage) :
    ⦃fun s => ⌜Keeps s₀ s⌝⦄ declareVertexInput reg usage ⦃⇓? _ s => ⌜Keeps s₀ s⌝⦄ := by
  mvcgen [declareVertexInput, interfaceVariable, alloc] with
    (have hs := ‹Keeps _ _›
     exact hs.step rfl (List.subset_cons_self _ _) (List.Subset.refl _) (List.Subset.refl _))

theorem declarePixelInput_keeps (reg : Register) (usage : Usage) (index : Nat) :
    ⦃fun s => ⌜Keeps s₀ s⌝⦄ declarePixelInput reg usage index ⦃⇓? _ s => ⌜Keeps s₀ s⌝⦄ := by
  mvcgen [declarePixelInput, interfaceVariable, alloc] with
    (have hs := ‹Keeps _ _›
     exact hs.step rfl (List.subset_cons_self _ _) (List.Subset.refl _) (List.Subset.refl _))

theorem declareOutput_keeps (reg : Register) (usage : Usage) (index : Nat) :
    ⦃fun s => ⌜Keeps s₀ s⌝⦄ declareOutput reg usage index ⦃⇓? _ s => ⌜Keeps s₀ s⌝⦄ := by
  mvcgen [declareOutput, createOutput, interfaceVariable, alloc] with
    (have hs := ‹Keeps _ _›
     exact hs.step rfl (List.Subset.refl _) (List.subset_cons_self _ _) (List.Subset.refl _))

theorem declareSampler_keeps (index : Nat) (type : TextureType) :
    ⦃fun s => ⌜Keeps s₀ s⌝⦄ declareSampler index type ⦃⇓? _ s => ⌜Keeps s₀ s⌝⦄ := by
  -- the loop over the two variables, unrolled
  simp only [declareSampler, List.forIn_cons, List.forIn_nil]
  mvcgen [alloc] with
    (have hs := ‹Keeps _ _›
     exact hs.step rfl (List.Subset.refl _) (List.Subset.refl _) (List.subset_cons_self _ _))

theorem declare_keeps (decl : Declaration) (dst : Destination) :
    ⦃fun s => ⌜Keeps s₀ s⌝⦄ declare decl dst ⦃⇓? _ s => ⌜Keeps s₀ s⌝⦄ := by
  have hsampler := declareSampler_keeps s₀
  have hvertex := declareVertexInput_keeps s₀ dst.reg
  have hpixel := declarePixelInput_keeps s₀ dst.reg
  have houtput := declareOutput_keeps s₀ dst.reg
  mvcgen [declare, hsampler, hvertex, hpixel, houtput]

/-- Lowering keeps what was declared: its steps only add variables. -/
theorem keeps_closed : Closed (Keeps s₀) :=
  { keeps_basic s₀ with
    loadInput := loadInput_keeps s₀
    constantBlock := constantBlock_keeps s₀
    ensureOutput := fun reg _ => ensureOutput_keeps s₀ reg }

/-- Every well formed instruction keeps what was declared. -/
theorem instruction_keeps_declared (ins : Instruction) (hins : ins.WellFormed) :
    ⦃fun s => ⌜Keeps s₀ s⌝⦄ instruction ins ⦃⇓? _ s => ⌜Keeps s₀ s⌝⦄ :=
  (keeps_closed s₀).instruction_keeps ins hins (fun decl dst _ _ => declare_keeps s₀ decl dst)

end

end Lowering

end ShaderBridge
