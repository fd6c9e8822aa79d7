/-!
Opcodes of D3D9 shader instructions, with the comment and end markers. Unknown codes are kept,
so reading a code and writing it back is the identity.
-/

namespace ShaderBridge

/-- The operations a D3D9 instruction token can name. -/
inductive Opcode where
  | nop
  | mov
  | add
  | sub
  | mad
  | mul
  | rcp
  | rsq
  | dp3
  | dp4
  | min
  | max
  | slt
  | sge
  | exp
  | log
  | lrp
  | frc
  | dcl
  | pow
  | abs
  | mova
  /-- `texld`, with its projected and biased forms chosen by the control bits. -/
  | tex
  | texldl
  /-- `def`: a float constant register defined from four immediate tokens. -/
  | define
  /-- `defi`: an integer constant register. -/
  | defineInt
  /-- `defb`: a boolean constant register. -/
  | defineBool
  | comment
  /-- The end-of-shader marker. -/
  | endShader
  | unknown (code : Nat)
  deriving DecidableEq, Repr, Inhabited

namespace Opcode

/-- The opcode an instruction token's low 16 bits select. -/
def ofCode : Nat → Opcode
  | 0 => .nop
  | 1 => .mov
  | 2 => .add
  | 3 => .sub
  | 4 => .mad
  | 5 => .mul
  | 6 => .rcp
  | 7 => .rsq
  | 8 => .dp3
  | 9 => .dp4
  | 10 => .min
  | 11 => .max
  | 12 => .slt
  | 13 => .sge
  | 14 => .exp
  | 15 => .log
  | 18 => .lrp
  | 19 => .frc
  | 31 => .dcl
  | 32 => .pow
  | 35 => .abs
  | 46 => .mova
  | 66 => .tex
  | 95 => .texldl
  | 81 => .define
  | 82 => .defineInt
  | 83 => .defineBool
  | 0xFFFE => .comment
  | 0xFFFF => .endShader
  | code => .unknown code

/-- The code of an opcode in an instruction token. -/
def code : Opcode → Nat
  | .nop => 0
  | .mov => 1
  | .add => 2
  | .sub => 3
  | .mad => 4
  | .mul => 5
  | .rcp => 6
  | .rsq => 7
  | .dp3 => 8
  | .dp4 => 9
  | .min => 10
  | .max => 11
  | .slt => 12
  | .sge => 13
  | .exp => 14
  | .log => 15
  | .lrp => 18
  | .frc => 19
  | .dcl => 31
  | .pow => 32
  | .abs => 35
  | .mova => 46
  | .tex => 66
  | .texldl => 95
  | .define => 81
  | .defineInt => 82
  | .defineBool => 83
  | .comment => 0xFFFE
  | .endShader => 0xFFFF
  | .unknown code => code

/-- The assembly mnemonic, as error messages print it. -/
def mnemonic : Opcode → String
  | .nop => "nop"
  | .mov => "mov"
  | .add => "add"
  | .sub => "sub"
  | .mad => "mad"
  | .mul => "mul"
  | .rcp => "rcp"
  | .rsq => "rsq"
  | .dp3 => "dp3"
  | .dp4 => "dp4"
  | .min => "min"
  | .max => "max"
  | .slt => "slt"
  | .sge => "sge"
  | .exp => "exp"
  | .log => "log"
  | .lrp => "lrp"
  | .frc => "frc"
  | .dcl => "dcl"
  | .pow => "pow"
  | .abs => "abs"
  | .mova => "mova"
  | .tex => "texld"
  | .texldl => "texldl"
  | .define => "def"
  | .defineInt => "defi"
  | .defineBool => "defb"
  | .comment => "comment"
  | .endShader => "end"
  | .unknown _ => "unknown"

/-- The name of the opcode's kind, as listings of opcodes print it. -/
def name : Opcode → String
  | .nop => "Nop"
  | .mov => "Mov"
  | .add => "Add"
  | .sub => "Sub"
  | .mad => "Mad"
  | .mul => "Mul"
  | .rcp => "Rcp"
  | .rsq => "Rsq"
  | .dp3 => "Dp3"
  | .dp4 => "Dp4"
  | .min => "Min"
  | .max => "Max"
  | .slt => "Slt"
  | .sge => "Sge"
  | .exp => "Exp"
  | .log => "Log"
  | .lrp => "Lrp"
  | .frc => "Frc"
  | .dcl => "Dcl"
  | .pow => "Pow"
  | .abs => "Abs"
  | .mova => "Mova"
  | .tex => "Tex"
  | .texldl => "TexLdl"
  | .define => "Def"
  | .defineInt => "DefI"
  | .defineBool => "DefB"
  | .comment => "Comment"
  | .endShader => "End"
  | .unknown code => s!"Unknown({code})"

/-- Operand tokens after an instruction token in a shader model 1 stream, where the token does
not carry the count. Every operand is one token there, since relative addressing is implicit.
Stream markers and unknown opcodes have no count. -/
def model1OperandCount : Opcode → Option Nat
  | .nop => some 0
  | .mov | .rcp | .rsq | .exp | .log | .frc | .abs | .mova | .dcl | .defineBool => some 2
  | .add | .sub | .mul | .dp3 | .dp4 | .min | .max | .slt | .sge | .pow | .tex | .texldl =>
    some 3
  | .mad | .lrp => some 4
  | .define | .defineInt => some 5
  | .comment | .endShader | .unknown _ => none

theorem code_ofCode (n : Nat) : (ofCode n).code = n := by
  unfold ofCode
  split <;> rfl

end Opcode

end ShaderBridge
