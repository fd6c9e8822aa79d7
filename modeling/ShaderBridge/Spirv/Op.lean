/-!
SPIR-V opcodes: numbers below `2 ^ 16`, those the converter writes named, and `Op.isKnown` for
the opcodes the grammar defines.
-/

namespace ShaderBridge.Spirv

/-- A SPIR-V opcode. -/
structure Op where
  code : Nat
  deriving DecidableEq, Repr, Inhabited

namespace Op

def nop : Op := ⟨0⟩
def name : Op := ⟨5⟩
def memberName : Op := ⟨6⟩
def extInstImport : Op := ⟨11⟩
def extInst : Op := ⟨12⟩
def memoryModel : Op := ⟨14⟩
def entryPoint : Op := ⟨15⟩
def executionMode : Op := ⟨16⟩
def capability : Op := ⟨17⟩
def typeVoid : Op := ⟨19⟩
def typeBool : Op := ⟨20⟩
def typeInt : Op := ⟨21⟩
def typeFloat : Op := ⟨22⟩
def typeVector : Op := ⟨23⟩
def typeMatrix : Op := ⟨24⟩
def typeImage : Op := ⟨25⟩
def typeSampler : Op := ⟨26⟩
def typeSampledImage : Op := ⟨27⟩
def typeArray : Op := ⟨28⟩
def typeRuntimeArray : Op := ⟨29⟩
def typeStruct : Op := ⟨30⟩
def typeOpaque : Op := ⟨31⟩
def typePointer : Op := ⟨32⟩
def typeFunction : Op := ⟨33⟩
def typeEvent : Op := ⟨34⟩
def constantTrue : Op := ⟨41⟩
def constantFalse : Op := ⟨42⟩
def constant : Op := ⟨43⟩
def constantComposite : Op := ⟨44⟩
def constantNull : Op := ⟨46⟩
def function : Op := ⟨54⟩
def functionEnd : Op := ⟨56⟩
def var : Op := ⟨59⟩
def load : Op := ⟨61⟩
def store : Op := ⟨62⟩
def accessChain : Op := ⟨65⟩
def decorate : Op := ⟨71⟩
def memberDecorate : Op := ⟨72⟩
def vectorShuffle : Op := ⟨79⟩
def compositeConstruct : Op := ⟨80⟩
def compositeExtract : Op := ⟨81⟩
def compositeInsert : Op := ⟨82⟩
def sampledImage : Op := ⟨86⟩
def imageSampleImplicitLod : Op := ⟨87⟩
def imageSampleExplicitLod : Op := ⟨88⟩
def imageSampleProjImplicitLod : Op := ⟨91⟩
def convertFToS : Op := ⟨110⟩
def convertUToF : Op := ⟨112⟩
def fNegate : Op := ⟨127⟩
def iAdd : Op := ⟨128⟩
def fAdd : Op := ⟨129⟩
def fSub : Op := ⟨131⟩
def fMul : Op := ⟨133⟩
def fDiv : Op := ⟨136⟩
def vectorTimesScalar : Op := ⟨142⟩
def dot : Op := ⟨148⟩
def select : Op := ⟨169⟩
def iEqual : Op := ⟨170⟩
def fOrdLessThan : Op := ⟨184⟩
def fOrdGreaterThanEqual : Op := ⟨190⟩
def label : Op := ⟨248⟩
def returnVoid : Op := ⟨253⟩

/-- The opcodes the SPIR-V grammar of the 1.3.268 headers defines, as inclusive ranges: the core
instructions, then those of the extensions, grouped by vendor block. -/
def knownRanges : List (Nat × Nat) :=
  [(0, 8), (10, 12), (14, 17), (19, 39), (41, 46), (48, 52), (54, 57), (59, 75), (77, 84),
    (86, 107), (109, 124), (126, 152), (154, 191), (194, 205), (207, 215), (218, 221),
    (224, 225), (227, 242), (245, 257), (259, 271), (274, 288), (291, 366), (400, 403),
    (4160, 4162), (4416, 4416), (4421, 4422), (4428, 4432), (4445, 4460), (4472, 4477),
    (4479, 4483), (5000, 5007), (5011, 5012), (5056, 5056), (5075, 5075), (5078, 5078),
    (5090, 5090), (5249, 5281), (5283, 5283), (5294, 5296), (5299, 5301), (5334, 5341),
    (5344, 5344), (5358, 5362), (5364, 5365), (5380, 5381), (5391, 5397), (5571, 5578),
    (5580, 5581), (5585, 5598), (5600, 5601), (5609, 5611), (5614, 5615), (5630, 5633),
    (5699, 5816), (5818, 5820), (5840, 5843), (5846, 5882), (5887, 5887), (5911, 5913),
    (5923, 5934), (5938, 5938), (5946, 5947), (5949, 5949), (6016, 6032), (6035, 6035),
    (6086, 6086), (6090, 6092), (6116, 6117), (6142, 6143), (6401, 6408)]

/-- Whether the SPIR-V grammar defines opcode `code`. -/
def isKnown (code : Nat) : Bool :=
  knownRanges.any fun r => r.1 ≤ code && code ≤ r.2

end Op

end ShaderBridge.Spirv
