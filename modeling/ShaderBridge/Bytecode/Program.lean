import ShaderBridge.Bytecode.Instruction

/-!
Decoding a whole token stream into its version and instructions. Decoding stops at the first
fault and keeps the instructions before it, so lowering errors come in stream order.
-/

namespace ShaderBridge

/-- A shader's instructions as read from its tokens, with the fault that stopped reading, if
any. -/
structure Program where
  version : ShaderVersion
  body : List Instruction
  fault : Option ConvertError
  deriving Repr, Inhabited

namespace Program

/-- Reads the instructions that start at token `pos`. -/
def decodeFrom (version : ShaderVersion) (tokens : Array UInt32) (pos : Nat) :
    List Instruction × Option ConvertError :=
  if h : pos < tokens.size then
    let t : Token := ⟨tokens[pos]⟩
    let c : Cursor := ⟨tokens, pos + 1, tokens.size⟩
    let opcode := Opcode.ofCode t.opcode
    match opcode with
    | .comment =>
      match (Scan.skip t.commentLength).run c with
      | .ok _ _ => decodeFrom version tokens (pos + 1 + t.commentLength)
      | .error e _ => ([], some (.decode e))
    | .endShader => ([], none)
    | _ =>
      let count := if version.isModel1 then opcode.model1OperandCount else some t.length
      match count with
      | none => ([], some (.unsupportedOpcode opcode pos))
      | some n =>
        match (Scan.begin n).run c with
        | .error e _ => ([], some (.decode e))
        | .ok _ c =>
          if t.predicated then
            ([], some (.unsupportedRegister Register.predicate0 .predicatedInstruction))
          else
            match Instruction.reader version opcode t.control pos with
            | none => ([], some (.unsupportedOpcode opcode pos))
            | some scan =>
              match scan.run c with
              | .error e _ => ([], some (.decode e))
              | .ok i c =>
                match (Scan.finish opcode).run c with
                | .error e _ => ([i], some (.decode e))
                | .ok _ _ =>
                  let rest := decodeFrom version tokens (pos + 1 + n)
                  (i :: rest.1, rest.2)
  else ([], none)
termination_by tokens.size - pos

/-- Reads a shader: its version token, which must name a supported version, then its
instructions. -/
def decode (tokens : Array UInt32) : Except ConvertError Program :=
  match tokens[0]? with
  | none => .error (.decode ⟨0, .endOfStream⟩)
  | some first =>
    match ShaderVersion.ofToken? first with
    | some version =>
      if version.isSupported then
        let (body, fault) := decodeFrom version tokens 1
        .ok ⟨version, body, fault⟩
      else .error (.unsupportedVersion first)
    | none => .error (.unsupportedVersion first)

end Program

end ShaderBridge
