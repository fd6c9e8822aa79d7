import ShaderBridge.Bytecode.Cursor

/-!
The discipline of a cursor over any sequence of calls: the position stays within the limit and
the limit within the stream, failing reads move nothing, and no call reads past the limit.
-/

namespace ShaderBridge

namespace Scan

variable {α β : Type}

/-- The cursor a scan leaves behind, whether it succeeded or failed. -/
def exec (x : Scan α) (c : Cursor) : Cursor :=
  match x c with
  | .ok _ c' => c'
  | .error _ c' => c'

/-- The value a scan returns, or its error. -/
def outcome (x : Scan α) (c : Cursor) : Except DecodeError α :=
  match x c with
  | .ok a _ => .ok a
  | .error e _ => .error e

/-- Looks at the next token without moving. -/
def peek : Scan (Option Token) := fun c => .ok c.peek c

theorem exec_bind (x : Scan α) (f : α → Scan β) (c : Cursor) :
    (x >>= f).exec c = match x c with
      | .ok a c' => (f a).exec c'
      | .error _ c' => c' := by
  simp only [exec, bind, EStateM.bind]
  cases x c <;> rfl

theorem outcome_bind (x : Scan α) (f : α → Scan β) (c : Cursor) :
    (x >>= f).outcome c = match x c with
      | .ok a c' => (f a).outcome c'
      | .error e _ => .error e := by
  simp only [outcome, bind, EStateM.bind]
  cases x c <;> rfl

theorem bind_eq_ok {x : Scan α} {f : α → Scan β} {c c₂ : Cursor} {b : β} :
    (x >>= f) c = .ok b c₂ ↔ ∃ a c₁, x c = .ok a c₁ ∧ f a c₁ = .ok b c₂ := by
  simp only [bind, EStateM.bind]
  cases x c with
  | ok a c₁ =>
    constructor
    · intro h
      exact ⟨a, c₁, rfl, h⟩
    · rintro ⟨a', c₁', h₁, h₂⟩
      cases h₁
      exact h₂
  | error e c₁ => simp

theorem pure_eq_ok {a b : α} {c c' : Cursor} :
    (pure a : Scan α) c = .ok b c' ↔ a = b ∧ c = c' := by
  simp only [pure, EStateM.pure, EStateM.Result.ok.injEq]

theorem position_eq_ok {i : Nat} {c c' : Cursor} : position c = .ok i c' ↔ i = c.pos ∧ c' = c := by
  simp only [position, EStateM.Result.ok.injEq]
  exact ⟨fun ⟨h₁, h₂⟩ => ⟨h₁.symm, h₂.symm⟩, fun ⟨h₁, h₂⟩ => ⟨h₁.symm, h₂.symm⟩⟩

theorem fail_ne_ok {i : Nat} {f : DecodeFault} {a : α} {c c' : Cursor} : fail i f c ≠ .ok a c' := by
  simp [fail]

theorem exec_next (c : Cursor) :
    next.exec c = match c.peek with
      | some _ => { c with pos := c.pos + 1 }
      | none => c := by
  unfold exec next
  cases c.peek <;> rfl

theorem exec_skip (count : Nat) (c : Cursor) :
    (skip count).exec c = if count ≤ c.remaining then { c with pos := c.pos + count } else c := by
  by_cases hfit : count ≤ c.remaining <;> simp only [exec, skip, hfit, if_true, if_false]

theorem exec_begin (count : Nat) (c : Cursor) :
    (begin count).exec c =
      if c.pos + count ≤ c.tokens.size then { c with limit := c.pos + count } else c := by
  by_cases hfit : c.pos + count ≤ c.tokens.size <;>
    simp only [exec, begin, hfit, if_true, if_false]

theorem exec_finish (opcode : Opcode) (c : Cursor) :
    (finish opcode).exec c = { c with limit := c.tokens.size } := by
  by_cases hdone : c.remaining = 0 <;> simp only [exec, finish, hdone, if_true, if_false]

theorem outcome_begin (count : Nat) (c : Cursor) :
    (begin count).outcome c = if c.pos + count ≤ c.tokens.size then .ok ()
      else .error ⟨c.pos, .lengthPastEnd count (c.tokens.size - c.pos)⟩ := by
  by_cases hfit : c.pos + count ≤ c.tokens.size <;>
    simp only [outcome, begin, hfit, if_true, if_false]

theorem outcome_finish (opcode : Opcode) (c : Cursor) :
    (finish opcode).outcome c = if c.remaining = 0 then .ok ()
      else .error ⟨c.pos, .unconsumed opcode c.remaining⟩ := by
  by_cases hdone : c.remaining = 0 <;> simp only [outcome, finish, hdone, if_true, if_false]

end Scan

namespace Cursor

/-- `c` is a cursor over `tokens` whose position does not pass its limit, nor its limit the end
of the stream. -/
structure InBounds (tokens : Array UInt32) (c : Cursor) : Prop where
  tokens_eq : c.tokens = tokens
  pos_le_limit : c.pos ≤ c.limit
  limit_le_size : c.limit ≤ tokens.size

theorem start_inBounds (tokens : Array UInt32) : (start tokens).InBounds tokens :=
  ⟨rfl, Nat.zero_le _, Nat.le_refl _⟩

/-- A token is there to peek at exactly when the position is before the limit. -/
theorem peek_eq_some_iff {c : Cursor} {t : Token} :
    c.peek = some t ↔ c.pos < c.limit ∧ c.tokens[c.pos]? = some t.bits := by
  unfold peek
  split
  · constructor
    · intro h
      obtain ⟨w, hw, rfl⟩ := Option.map_eq_some_iff.1 h
      exact ⟨‹_›, hw⟩
    · rintro ⟨-, hw⟩
      rw [hw]
      rfl
  · simp only [reduceCtorEq, false_iff, not_and]
    intro hlt
    contradiction

theorem peek_eq_none_iff {tokens : Array UInt32} {c : Cursor} (h : c.InBounds tokens) :
    c.peek = none ↔ c.limit ≤ c.pos := by
  unfold peek
  split
  · have hsize : c.pos < c.tokens.size := by
      rw [h.tokens_eq]
      exact Nat.lt_of_lt_of_le ‹_› h.limit_le_size
    simp only [Option.map_eq_none_iff, Array.getElem?_eq_none_iff]
    omega
  · simp only [true_iff]
    omega

/-- `c` and `c'` stand at the same place with the same limit in streams of one length, and
agree on every token before the limit. -/
structure AgreeBelowLimit (c c' : Cursor) : Prop where
  pos_eq : c.pos = c'.pos
  limit_eq : c.limit = c'.limit
  size_eq : c.tokens.size = c'.tokens.size
  tokens_eq : ∀ i < c.limit, c.tokens[i]? = c'.tokens[i]?

namespace AgreeBelowLimit

variable {c c' : Cursor}

theorem remaining_eq (h : c.AgreeBelowLimit c') : c.remaining = c'.remaining := by
  simp only [remaining, h.pos_eq, h.limit_eq]

theorem peek_eq (h : c.AgreeBelowLimit c') : c.peek = c'.peek := by
  unfold peek
  rw [← h.pos_eq, ← h.limit_eq]
  split
  · rw [h.tokens_eq c.pos ‹_›]
  · rfl

theorem advance (h : c.AgreeBelowLimit c') (k : Nat) :
    ({ c with pos := c.pos + k } : Cursor).AgreeBelowLimit { c' with pos := c'.pos + k } :=
  ⟨by simp only [h.pos_eq], h.limit_eq, h.size_eq, h.tokens_eq⟩

end AgreeBelowLimit

end Cursor

namespace Scan

variable {α β : Type}

/-- `x` keeps `P`: from a cursor with `P` it leaves one with `P`, whether it fails or not. -/
def Keeps (P : Cursor → Prop) (x : Scan α) : Prop := ∀ c, P c → P (x.exec c)

/-- `x` depends on no token at or past the limit: on cursors that agree below it, it returns
the same and leaves cursors that again agree below it. -/
def Local (x : Scan α) : Prop :=
  ∀ c c', c.AgreeBelowLimit c' → x.outcome c = x.outcome c' ∧ (x.exec c).AgreeBelowLimit (x.exec c')

/-- `x` reads no token at or past the limit: on cursors that agree below it, it returns the same
and leaves them at the same position and limit. Unlike `Local`, the limit may move, as it does
when an instruction is opened or closed. -/
def Confined (x : Scan α) : Prop :=
  ∀ c c', c.AgreeBelowLimit c' → x.outcome c = x.outcome c' ∧
    (x.exec c).pos = (x.exec c').pos ∧ (x.exec c).limit = (x.exec c').limit

theorem Local.confined {x : Scan α} (hx : Local x) : Confined x := fun c c' h =>
  have ⟨hout, hexec⟩ := hx c c' h
  ⟨hout, hexec.pos_eq, hexec.limit_eq⟩

namespace Keeps

variable {P : Cursor → Prop}

theorem pure (a : α) : Keeps P (Pure.pure a : Scan α) := fun _ h => h

theorem fail (index : Nat) (fault : DecodeFault) : Keeps P (Scan.fail index fault : Scan α) :=
  fun _ h => h

theorem position : Keeps P Scan.position := fun _ h => h

theorem bind {x : Scan α} {f : α → Scan β} (hx : Keeps P x) (hf : ∀ a, Keeps P (f a)) :
    Keeps P (x >>= f) := by
  intro c hc
  have hstep := hx c hc
  rw [exec_bind]
  unfold exec at hstep
  cases hxc : x c with
  | ok a c' =>
    rw [hxc] at hstep
    exact hf a c' hstep
  | error e c' =>
    rw [hxc] at hstep
    exact hstep

theorem ite {p : Prop} [Decidable p] {x y : Scan α} (hx : p → Keeps P x) (hy : ¬p → Keeps P y) :
    Keeps P (if p then x else y) := by
  by_cases hp : p
  · simpa only [hp, if_true] using hx hp
  · simpa only [hp, if_false] using hy hp

end Keeps

namespace Local

theorem pure (a : α) : Local (Pure.pure a : Scan α) := fun _ _ h => ⟨rfl, h⟩

theorem fail (index : Nat) (fault : DecodeFault) : Local (Scan.fail index fault : Scan α) :=
  fun _ _ h => ⟨rfl, h⟩

theorem position : Local Scan.position := fun _ _ h => ⟨by simp [outcome, Scan.position, h.pos_eq], h⟩

theorem bind {x : Scan α} {f : α → Scan β} (hx : Local x) (hf : ∀ a, Local (f a)) :
    Local (x >>= f) := by
  intro c c' h
  obtain ⟨hout, hexec⟩ := hx c c' h
  rw [outcome_bind, outcome_bind, exec_bind, exec_bind]
  unfold outcome exec at *
  -- both runs of `x` end alike; only then does `f` run, from cursors that agree again
  cases hc : x c <;> cases hc' : x c' <;> simp only [hc, hc', reduceCtorEq,
    Except.ok.injEq, Except.error.injEq] at hout hexec ⊢
  · subst hout
    exact hf _ _ _ hexec
  · exact ⟨hout, hexec⟩

theorem ite {p : Prop} [Decidable p] {x y : Scan α} (hx : p → Local x) (hy : ¬p → Local y) :
    Local (if p then x else y) := by
  by_cases hp : p
  · simpa only [hp, if_true] using hx hp
  · simpa only [hp, if_false] using hy hp

end Local

theorem peek_local : Local peek := fun _ _ h => ⟨by simp [outcome, peek, h.peek_eq], h⟩

theorem next_local : Local next := by
  intro c c' h
  simp only [outcome, exec, next, ← h.peek_eq]
  cases c.peek with
  | some t => exact ⟨rfl, h.advance 1⟩
  | none => exact ⟨by rw [h.pos_eq], h⟩

theorem skip_local (count : Nat) : Local (skip count) := by
  intro c c' h
  have hremaining := h.remaining_eq
  by_cases hfit : count ≤ c.remaining
  · have hfit' : count ≤ c'.remaining := hremaining ▸ hfit
    simp only [outcome, exec, skip, hfit, hfit', if_true, true_and]
    exact h.advance count
  · have hfit' : ¬count ≤ c'.remaining := hremaining ▸ hfit
    simp only [outcome, exec, skip, hfit', if_false, h.pos_eq, hremaining, true_and]
    exact h

theorem register_local (v : ShaderVersion) (relative : Bool) : Local (register v relative) := by
  unfold register
  refine Local.bind Local.position fun index => Local.bind next_local fun t => ?_
  refine Local.ite (fun _ => Local.fail _ _) fun _ => ?_
  exact Local.ite (fun _ => Local.fail _ _) fun _ => Local.pure _

theorem destination_local (v : ShaderVersion) : Local (destination v) := by
  unfold destination
  refine Local.bind Local.position fun index =>
    Local.bind (register_local v false) fun ⟨t, reg⟩ => ?_
  exact Local.ite (fun _ => Local.fail _ _) fun _ => Local.pure _

theorem source_local (v : ShaderVersion) : Local (source v) := by
  unfold source
  refine Local.bind (register_local v false) fun ⟨t, reg⟩ => ?_
  -- the address of a relative source: implicit in model 1, a second token from model 2 on
  dsimp only
  have hjoin : ∀ r : Option RelativeAddress, Local (pure r >>= fun relative =>
      (pure ⟨reg, t.swizzle, t.sourceModifier, relative⟩ : Scan Source)) :=
    fun _ => Local.bind (Local.pure _) fun _ => Local.pure _
  refine Local.ite (fun _ => hjoin _) fun _ => Local.ite (fun _ => hjoin _) fun _ => ?_
  refine Local.bind Local.position fun index =>
    Local.bind (register_local v true) fun ⟨address, addressReg⟩ => ?_
  dsimp only
  exact Local.ite (fun _ => Local.bind (Local.fail _ _) fun _ => Local.pure _) fun _ => hjoin _

/-- Opening an instruction reads no token: it compares the position with the stream's length. -/
theorem begin_confined (count : Nat) : Confined (begin count) := by
  intro c c' h
  have hfit : c.pos + count ≤ c.tokens.size ↔ c'.pos + count ≤ c'.tokens.size := by
    rw [h.pos_eq, h.size_eq]
  refine ⟨?_, ?_, ?_⟩
  · simp only [outcome_begin, h.pos_eq, h.size_eq]
  · simp only [exec_begin, hfit]
    split <;> exact h.pos_eq
  · simp only [exec_begin, hfit]
    split
    · simp only [h.pos_eq]
    · exact h.limit_eq

/-- Closing an instruction reads no token: it compares the position with the limit. -/
theorem finish_confined (opcode : Opcode) : Confined (finish opcode) := by
  intro c c' h
  refine ⟨?_, ?_, ?_⟩
  · simp only [outcome_finish, h.remaining_eq, h.pos_eq]
  · simp only [exec_finish, h.pos_eq]
  · simp only [exec_finish, h.size_eq]

section InBounds

variable {tokens : Array UInt32}

theorem next_keeps : Keeps (Cursor.InBounds tokens) next := by
  intro c h
  rw [exec_next]
  cases hp : c.peek with
  | some t =>
    have hlt := (Cursor.peek_eq_some_iff.1 hp).1
    exact ⟨h.tokens_eq, by simp only; omega, h.limit_le_size⟩
  | none => exact h

theorem skip_keeps (count : Nat) : Keeps (Cursor.InBounds tokens) (skip count) := by
  intro c h
  rw [exec_skip]
  split
  · have := h.pos_le_limit
    exact ⟨h.tokens_eq, by simp only [Cursor.remaining] at *; omega, h.limit_le_size⟩
  · exact h

theorem begin_keeps (count : Nat) : Keeps (Cursor.InBounds tokens) (begin count) := by
  intro c h
  rw [exec_begin]
  split
  · exact ⟨h.tokens_eq, by simp only; omega, by simp only; rw [← h.tokens_eq]; assumption⟩
  · exact h

theorem finish_keeps (opcode : Opcode) : Keeps (Cursor.InBounds tokens) (finish opcode) := by
  intro c h
  have hsize : c.limit ≤ c.tokens.size := h.tokens_eq ▸ h.limit_le_size
  have := h.pos_le_limit
  rw [exec_finish]
  exact ⟨h.tokens_eq, by simp only; omega, by simp only [h.tokens_eq, Nat.le_refl]⟩

theorem register_keeps (v : ShaderVersion) (relative : Bool) :
    Keeps (Cursor.InBounds tokens) (register v relative) := by
  unfold register
  refine Keeps.bind Keeps.position fun index => Keeps.bind next_keeps fun t => ?_
  refine Keeps.ite (fun _ => Keeps.fail _ _) fun _ => ?_
  exact Keeps.ite (fun _ => Keeps.fail _ _) fun _ => Keeps.pure _

theorem destination_keeps (v : ShaderVersion) : Keeps (Cursor.InBounds tokens) (destination v) := by
  unfold destination
  refine Keeps.bind Keeps.position fun index =>
    Keeps.bind (register_keeps v false) fun ⟨t, reg⟩ => ?_
  exact Keeps.ite (fun _ => Keeps.fail _ _) fun _ => Keeps.pure _

theorem source_keeps (v : ShaderVersion) : Keeps (Cursor.InBounds tokens) (source v) := by
  unfold source
  refine Keeps.bind (register_keeps v false) fun ⟨t, reg⟩ => ?_
  dsimp only
  have hjoin : ∀ r : Option RelativeAddress, Keeps (Cursor.InBounds tokens) (pure r >>=
      fun relative => (pure ⟨reg, t.swizzle, t.sourceModifier, relative⟩ : Scan Source)) :=
    fun _ => Keeps.bind (Keeps.pure _) fun _ => Keeps.pure _
  refine Keeps.ite (fun _ => hjoin _) fun _ => Keeps.ite (fun _ => hjoin _) fun _ => ?_
  refine Keeps.bind Keeps.position fun index =>
    Keeps.bind (register_keeps v true) fun ⟨address, addressReg⟩ => ?_
  dsimp only
  exact Keeps.ite (fun _ => Keeps.bind (Keeps.fail _ _) fun _ => Keeps.pure _) fun _ => hjoin _

end InBounds

/-! Failing calls, and how far successful reads move. -/

variable {c c' : Cursor} {e : DecodeError}

theorem next_error (h : next c = .error e c') : c' = c := by
  simp only [next] at h
  split at h
  · cases h
  · cases h
    rfl

theorem skip_error {count : Nat} (h : skip count c = .error e c') : c' = c := by
  simp only [skip] at h
  split at h
  · cases h
  · cases h
    rfl

theorem begin_error {count : Nat} (h : begin count c = .error e c') : c' = c := by
  simp only [begin] at h
  split at h
  · cases h
  · cases h
    rfl

theorem outcome_finish_eq_ok_iff {tokens : Array UInt32} (h : c.InBounds tokens)
    (opcode : Opcode) : (finish opcode).outcome c = .ok () ↔ c.pos = c.limit := by
  have := h.pos_le_limit
  rw [outcome_finish]
  split
  · simp only [true_iff]
    simp only [Cursor.remaining] at *
    omega
  · simp only [reduceCtorEq, false_iff]
    simp only [Cursor.remaining] at *
    omega

/-- A register read takes the token at the position and moves past it. -/
theorem register_eq_ok {v : ShaderVersion} {relative : Bool} {t : Token} {reg : Register}
    (h : register v relative c = .ok (t, reg) c') :
    c.tokens[c.pos]? = some t.bits ∧ c' = { c with pos := c.pos + 1 } := by
  simp only [register, bind_eq_ok, position_eq_ok] at h
  obtain ⟨index, c₁, ⟨rfl, rfl⟩, t', c₂, hnext, hcheck⟩ := h
  simp only [next] at hnext
  split at hnext
  · rename_i t₀ hpeek
    simp only [EStateM.Result.ok.injEq] at hnext
    obtain ⟨rfl, rfl⟩ := hnext
    split at hcheck
    · exact absurd hcheck fail_ne_ok
    · split at hcheck
      · exact absurd hcheck fail_ne_ok
      · obtain ⟨h₁, rfl⟩ := pure_eq_ok.1 hcheck
        cases h₁
        exact ⟨(Cursor.peek_eq_some_iff.1 hpeek).2, rfl⟩
  · cases hnext

/-- A destination operand is one token. -/
theorem destination_eq_ok {v : ShaderVersion} {d : Destination}
    (h : destination v c = .ok d c') : c'.pos = c.pos + 1 := by
  simp only [destination, bind_eq_ok, position_eq_ok] at h
  obtain ⟨index, c₁, ⟨rfl, rfl⟩, ⟨t, reg⟩, c₂, hreg, hcheck⟩ := h
  obtain ⟨-, rfl⟩ := register_eq_ok hreg
  split at hcheck
  · exact absurd hcheck fail_ne_ok
  · rw [← (pure_eq_ok.1 hcheck).2]

/-- A source operand is one token, or two when it is relatively addressed in model 2 or
later, where a second token names the address register. -/
theorem source_eq_ok {v : ShaderVersion} {s : Source} (h : source v c = .ok s c') :
    ∃ w, c.tokens[c.pos]? = some w ∧
      c'.pos = c.pos + if (Token.mk w).relative && !v.isModel1 then 2 else 1 := by
  simp only [source, bind_eq_ok] at h
  obtain ⟨⟨t, reg⟩, c₁, hreg, hrest⟩ := h
  obtain ⟨htoken, rfl⟩ := register_eq_ok hreg
  refine ⟨t.bits, htoken, ?_⟩
  -- the address of a relative source: implicit in model 1, a second token from model 2 on
  by_cases hrel : t.relative
  · by_cases hmodel : v.isModel1
    · simp only [hrel, hmodel, Bool.not_true, Bool.false_eq_true, if_true, if_false, pure_bind,
        pure_eq_ok, Bool.and_false] at hrest ⊢
      rw [← hrest.2]
    · simp only [hrel, hmodel, Bool.not_true, Bool.not_false, Bool.false_eq_true, if_true,
        if_false, pure_bind, Bool.and_self, bind_eq_ok, position_eq_ok] at hrest ⊢
      obtain ⟨index, c₂, ⟨rfl, rfl⟩, ⟨address, addressReg⟩, c₃, haddress, hcheck⟩ := hrest
      obtain ⟨-, rfl⟩ := register_eq_ok haddress
      split at hcheck
      · obtain ⟨_, _, hfail, -⟩ := bind_eq_ok.1 hcheck
        exact absurd hfail fail_ne_ok
      · rw [← (pure_eq_ok.1 hcheck).2]
  · simp only [hrel, Bool.not_false, if_true, pure_bind, pure_eq_ok, Bool.false_and,
      Bool.false_eq_true, if_false] at hrest ⊢
    rw [← hrest.2]

end Scan

namespace Cursor

/-- A call a decoder makes on its cursor. -/
inductive Call where
  | peek
  | next
  | skip (count : Nat)
  | begin (count : Nat)
  | finish (opcode : Opcode)
  | destination (version : ShaderVersion)
  | source (version : ShaderVersion)

namespace Call

/-- What a call returns. -/
def Result : Call → Type
  | peek => Option Token
  | next => Token
  | skip _ | begin _ | finish _ => Unit
  | destination _ => Destination
  | source _ => Source

/-- The scan a call runs. -/
def scan : (k : Call) → Scan k.Result
  | peek => Scan.peek
  | next => Scan.next
  | skip count => Scan.skip count
  | begin count => Scan.begin count
  | finish opcode => Scan.finish opcode
  | destination version => Scan.destination version
  | source version => Scan.source version

/-- The cursor after a sequence of calls, each made whether the calls before it failed or
not. -/
def run (c : Cursor) : List Call → Cursor
  | [] => c
  | k :: ks => run (k.scan.exec c) ks

theorem step_inBounds {tokens : Array UInt32} {c : Cursor} (k : Call) (h : c.InBounds tokens) :
    (k.scan.exec c).InBounds tokens := by
  cases k with
  | peek => exact h
  | next => exact Scan.next_keeps c h
  | skip count => exact Scan.skip_keeps count c h
  | begin count => exact Scan.begin_keeps count c h
  | finish opcode => exact Scan.finish_keeps opcode c h
  | destination version => exact Scan.destination_keeps version c h
  | source version => exact Scan.source_keeps version c h

/-- Every call keeps a cursor in bounds, so every sequence of them does. -/
theorem run_inBounds {tokens : Array UInt32} {c : Cursor} (calls : List Call)
    (h : c.InBounds tokens) : (run c calls).InBounds tokens := by
  induction calls generalizing c with
  | nil => exact h
  | cons k ks ih => exact ih (step_inBounds k h)

/-- No call reads a token at or past the limit. -/
theorem confined (k : Call) : k.scan.Confined := by
  cases k with
  | peek => exact Scan.peek_local.confined
  | next => exact Scan.next_local.confined
  | skip count => exact (Scan.skip_local count).confined
  | begin count => exact Scan.begin_confined count
  | finish opcode => exact Scan.finish_confined opcode
  | destination version => exact (Scan.destination_local version).confined
  | source version => exact (Scan.source_local version).confined

/-- The cursor discipline at every cursor a sequence of calls reaches: bounds, failures that move
nothing, peeking, closing, confinement to the limit, and the tokens each read takes. -/
theorem run_discipline (tokens : Array UInt32) (calls : List Call) :
    let c := run (start tokens) calls
    c.InBounds tokens ∧
    (∀ e c', Scan.next c = .error e c' → c' = c) ∧
    (∀ n e c', Scan.skip n c = .error e c' → c' = c) ∧
    (∀ n e c', Scan.begin n c = .error e c' → c' = c) ∧
    (Scan.peek.exec c = c ∧ (∀ t, c.peek = some t ↔ c.pos < c.limit ∧ tokens[c.pos]? = some t.bits) ∧
      (c.peek = none ↔ c.limit ≤ c.pos)) ∧
    (∀ opcode, (Scan.finish opcode).exec c = { c with limit := tokens.size } ∧
      ((Scan.finish opcode).outcome c = .ok () ↔ c.pos = c.limit)) ∧
    (∀ (k : Call) c', c.AgreeBelowLimit c' → k.scan.outcome c = k.scan.outcome c' ∧
      (k.scan.exec c).pos = (k.scan.exec c').pos ∧ (k.scan.exec c).limit = (k.scan.exec c').limit) ∧
    (∀ v d c', Scan.destination v c = .ok d c' → c'.pos = c.pos + 1) ∧
    (∀ v s c', Scan.source v c = .ok s c' → ∃ w, tokens[c.pos]? = some w ∧
      c'.pos = c.pos + if (Token.mk w).relative && !v.isModel1 then 2 else 1) := by
  intro c
  have h : c.InBounds tokens := run_inBounds calls (start_inBounds tokens)
  have htokens := h.tokens_eq
  refine ⟨h, fun _ _ => Scan.next_error, fun _ _ _ => Scan.skip_error,
    fun _ _ _ => Scan.begin_error, ⟨rfl, fun _ => htokens ▸ peek_eq_some_iff,
    peek_eq_none_iff h⟩, fun opcode => ⟨htokens ▸ Scan.exec_finish opcode c,
    Scan.outcome_finish_eq_ok_iff h opcode⟩, fun k c' => confined k c c',
    fun _ _ _ => Scan.destination_eq_ok, fun _ _ _ hs => htokens ▸ Scan.source_eq_ok hs⟩

end Call

end Cursor

end ShaderBridge
