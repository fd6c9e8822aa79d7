import ShaderBridge.Bytecode.Token
import ShaderBridge.Bytecode.Version

/-!
Register files and registers. Type 3 is `a0` or `t#` by stage, and type 6 is `o#` or `oT#` by
shader model.
-/

namespace ShaderBridge

/-- The register files of D3D9 shaders. -/
inductive RegisterFile where
  /-- `r#`, temporaries. -/
  | temp
  /-- `v#`, vertex inputs or pixel colour inputs. -/
  | input
  /-- `c#`, float constants. -/
  | const
  /-- `a0`, the address register. -/
  | addr
  /-- `t#`, pixel shader texture coordinates. -/
  | texture
  /-- `oPos`, `oFog` and `oPts`. -/
  | rastOut
  /-- `oD#`, vertex colour outputs. -/
  | attrOut
  /-- `oT#`, vertex texture coordinate outputs. -/
  | texCoordOut
  /-- `o#`, model 3 vertex outputs. -/
  | output
  /-- `i#`, integer constants. -/
  | constInt
  /-- `oC#`, pixel colour outputs. -/
  | colorOut
  /-- `oDepth`. -/
  | depthOut
  /-- `s#`, samplers. -/
  | sampler
  /-- `b#`, boolean constants. -/
  | constBool
  /-- `aL`, the loop counter. -/
  | loop
  /-- `vPos` and `vFace`. -/
  | misc
  /-- `l#`, labels. -/
  | label
  /-- `p0`, the predicate register. -/
  | predicate
  | unknown (code : Nat)
  deriving DecidableEq, Repr, Inhabited

namespace RegisterFile

/-- The file a register type names. `relative` marks the register of a relative-address token,
where type 3 is always the address register. -/
def ofType (type : Nat) (version : ShaderVersion) (relative : Bool) : RegisterFile :=
  match type with
  | 0 => .temp
  | 1 => .input
  | 2 => .const
  | 3 => if relative then .addr else
      match version.stage with
      | .vertex => .addr
      | .pixel => .texture
  | 4 => .rastOut
  | 5 => .attrOut
  | 6 => if version.stage = .vertex ∧ 3 ≤ version.major then .output else .texCoordOut
  | 7 => .constInt
  | 8 => .colorOut
  | 9 => .depthOut
  | 10 => .sampler
  | 11 | 12 | 13 => .const
  | 14 => .constBool
  | 15 => .loop
  | 17 => .misc
  | 18 => .label
  | 19 => .predicate
  | code => .unknown code

/-- The file's name as messages print it. -/
def name : RegisterFile → String
  | .temp => "Temp"
  | .input => "Input"
  | .const => "Const"
  | .addr => "Addr"
  | .texture => "Texture"
  | .rastOut => "RastOut"
  | .attrOut => "AttrOut"
  | .texCoordOut => "TexCoordOut"
  | .output => "Output"
  | .constInt => "ConstInt"
  | .colorOut => "ColorOut"
  | .depthOut => "DepthOut"
  | .sampler => "Sampler"
  | .constBool => "ConstBool"
  | .loop => "Loop"
  | .misc => "MiscType"
  | .label => "Label"
  | .predicate => "Predicate"
  | .unknown code => s!"Unknown({code})"

/-- The prefix of the file's registers in assembly. -/
def prefixName : RegisterFile → String
  | .temp => "r"
  | .input => "v"
  | .const => "c"
  | .addr => "a"
  | .texture => "t"
  | .rastOut => "oRast"
  | .attrOut => "oD"
  | .texCoordOut => "oT"
  | .output => "o"
  | .constInt => "i"
  | .colorOut => "oC"
  | .depthOut => "oDepth"
  | .sampler => "s"
  | .constBool => "b"
  | .loop => "aL"
  | .misc => "misc"
  | .label => "l"
  | .predicate => "p"
  | .unknown _ => "?"

/-- The files whose registers a shader writes as its results. -/
def isOutput : RegisterFile → Bool
  | .rastOut | .attrOut | .texCoordOut | .output | .colorOut | .depthOut => true
  | _ => false

/-- The largest register index the converter accepts in each file. -/
def maxIndex : RegisterFile → Nat
  | .temp => 31
  | .input => 15
  | .texture => 7
  | .sampler => 15
  | .colorOut => 3
  | .output | .texCoordOut => 11
  | .rastOut => 2
  | .attrOut => 1
  | .addr | .depthOut => 0
  | _ => 255

/-- The position of the file in the register order: constructors in turn, unknown files last by
their code. -/
def rank : RegisterFile → Nat
  | .temp => 0
  | .input => 1
  | .const => 2
  | .addr => 3
  | .texture => 4
  | .rastOut => 5
  | .attrOut => 6
  | .texCoordOut => 7
  | .output => 8
  | .constInt => 9
  | .colorOut => 10
  | .depthOut => 11
  | .sampler => 12
  | .constBool => 13
  | .loop => 14
  | .misc => 15
  | .label => 16
  | .predicate => 17
  | .unknown code => 18 + code

end RegisterFile

/-- A register: a file and an index in it. -/
structure Register where
  file : RegisterFile
  index : Nat
  deriving DecidableEq, Repr, Inhabited

namespace Register

/-- The register's assembly name: the rasterizer outputs are `oPos`, `oFog` and `oPts`, the
depth output is `oDepth` at any index, and every other register is its file's prefix followed by
its index. -/
def display : Register → String
  | ⟨.rastOut, 0⟩ => "oPos"
  | ⟨.rastOut, 1⟩ => "oFog"
  | ⟨.rastOut, 2⟩ => "oPts"
  | ⟨.depthOut, _⟩ => "oDepth"
  | ⟨file, index⟩ => file.prefixName ++ toString index

/-- The sort key of a register: its file's rank, then its index. -/
def key (r : Register) : Nat × Nat := (r.file.rank, r.index)

/-- `a` comes no later than `b`: an earlier file, or the same file and an index no larger. -/
def precedes (a b : Register) : Bool :=
  a.key.1 < b.key.1 || (a.key.1 == b.key.1 && a.key.2 ≤ b.key.2)

/-- Inserts a register into a sorted list, before the first register it precedes. -/
def insertSorted (r : Register) : List Register → List Register
  | [] => [r]
  | x :: xs => if r.precedes x then r :: x :: xs else x :: insertSorted r xs

/-- Registers sorted by file, then by index. Distinct registers have distinct keys, so the
order is total and every sorting algorithm gives this list; insertion keeps it evaluable. -/
def sort : List Register → List Register
  | [] => []
  | r :: rs => insertSorted r (sort rs)

/-- The predicate register `p0`, which predicated instructions read. -/
def predicate0 : Register := ⟨.predicate, 0⟩

end Register

end ShaderBridge
