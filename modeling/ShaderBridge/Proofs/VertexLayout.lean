import Mathlib
import ShaderBridge.Layout

/-!
The vertex buffer layout of declared vertex inputs, and how packing colours changes it.
-/

namespace ShaderBridge

namespace Usage

/-- The vertex buffer attributes of vertex inputs declared in order, each by its location and
usage, from byte `offset` on: binding 0, the format of the usage, one after another. An input
whose usage has no format has no attribute. -/
def vertexLayoutFrom (packed : Bool) : List (Nat × Usage) → Nat → List VertexAttribute
  | [], _ => []
  | (location, usage) :: rest, offset =>
    match usage.vertexFormat packed with
    | some format => ⟨0, location, format, offset⟩ :: vertexLayoutFrom packed rest (offset + format.size)
    | none => vertexLayoutFrom packed rest offset

/-- The vertex buffer attributes of vertex inputs declared in order, from the vertex's start. -/
def vertexLayout (packed : Bool) (declared : List (Nat × Usage)) : List VertexAttribute :=
  vertexLayoutFrom packed declared 0

/-- The bytes per vertex of the attributes of the declared inputs. -/
def vertexStride (packed : Bool) (declared : List (Nat × Usage)) : Nat :=
  (declared.filterMap fun d => (d.2.vertexFormat packed).map VertexFormat.size).sum

/-- Whether a usage has a vertex format does not depend on how colours are packed. -/
theorem isSome_vertexFormat (u : Usage) (packed packed' : Bool) :
    (u.vertexFormat packed).isSome = (u.vertexFormat packed').isSome := by
  cases u <;> rfl

theorem vertexLayoutFrom_append (packed : Bool) (declared : List (Nat × Usage)) (location : Nat)
    (usage : Usage) (offset : Nat) :
    vertexLayoutFrom packed (declared ++ [(location, usage)]) offset =
      vertexLayoutFrom packed declared offset ++
        ((usage.vertexFormat packed).map fun format =>
          ⟨0, location, format, offset + vertexStride packed declared⟩).toList := by
  induction declared generalizing offset with
  | nil =>
    cases h : usage.vertexFormat packed <;> simp [vertexLayoutFrom, vertexStride, h]
  | cons d rest ih =>
    obtain ⟨l, u⟩ := d
    cases h : u.vertexFormat packed with
    | none => simp [vertexLayoutFrom, vertexStride, h, ih]
    | some format =>
      simp only [List.cons_append, vertexLayoutFrom, h, ih, List.cons.injEq, true_and]
      simp [vertexStride, h, Nat.add_assoc]

/-- Declaring one more input appends its attribute, at the stride of those before it. -/
theorem vertexLayout_append (packed : Bool) (declared : List (Nat × Usage)) (location : Nat)
    (usage : Usage) (format : VertexFormat) (hformat : usage.vertexFormat packed = some format) :
    vertexLayout packed (declared ++ [(location, usage)]) =
      vertexLayout packed declared ++ [⟨0, location, format, vertexStride packed declared⟩] := by
  simp [vertexLayout, vertexLayoutFrom_append, hformat]

theorem vertexStride_append (packed : Bool) (declared : List (Nat × Usage)) (location : Nat)
    (usage : Usage) (format : VertexFormat) (hformat : usage.vertexFormat packed = some format) :
    vertexStride packed (declared ++ [(location, usage)]) =
      vertexStride packed declared + format.size := by
  simp [vertexStride, hformat]

theorem length_vertexLayoutFrom (packed : Bool) (declared : List (Nat × Usage)) (offset : Nat) :
    (vertexLayoutFrom packed declared offset).length =
      (declared.filter fun d => (d.2.vertexFormat packed).isSome).length := by
  induction declared generalizing offset with
  | nil => rfl
  | cons d rest ih =>
    obtain ⟨l, u⟩ := d
    cases h : u.vertexFormat packed <;> simp [vertexLayoutFrom, h, ih]

/-- The number of attributes does not depend on how colours are packed. -/
theorem length_vertexLayout (packed packed' : Bool) (declared : List (Nat × Usage)) :
    (vertexLayout packed declared).length = (vertexLayout packed' declared).length := by
  simp only [vertexLayout, length_vertexLayoutFrom, isSome_vertexFormat _ packed packed']

end Usage

namespace VertexAttribute

/-- Attributes read with colours as four floats: each four-byte attribute becomes a four-float
one, and the attributes after it move on by the 12 bytes more it takes. The attributes before
come `shift` bytes further on already. -/
def unpackColorsFrom (shift : Nat) : List VertexAttribute → List VertexAttribute
  | [] => []
  | a :: rest =>
    if a.format = .uint8x4 then
      { a with format := .float32x4, offset := a.offset + shift } :: unpackColorsFrom (shift + 12) rest
    else { a with offset := a.offset + shift } :: unpackColorsFrom shift rest

/-- Attributes read with colours as four floats rather than four bytes. -/
def unpackColors (attributes : List VertexAttribute) : List VertexAttribute :=
  unpackColorsFrom 0 attributes

end VertexAttribute

namespace Usage

/-- Only colours have another format unpacked: four floats where packed colours have four
bytes. -/
theorem vertexFormat_unpacked (u : Usage) :
    u.vertexFormat false =
      (u.vertexFormat true).map fun f => if f = .uint8x4 then .float32x4 else f := by
  cases u <;> rfl

theorem vertexLayoutFrom_unpacked (declared : List (Nat × Usage)) (offset shift : Nat) :
    vertexLayoutFrom false declared (offset + shift) =
      VertexAttribute.unpackColorsFrom shift (vertexLayoutFrom true declared offset) := by
  induction declared generalizing offset shift with
  | nil => rfl
  | cons d rest ih =>
    obtain ⟨location, usage⟩ := d
    have hunpacked := vertexFormat_unpacked usage
    cases hpacked : usage.vertexFormat true with
    | none =>
      rw [hpacked, Option.map_none] at hunpacked
      simp only [vertexLayoutFrom, hpacked, hunpacked, ih]
    | some format =>
      rw [hpacked, Option.map_some] at hunpacked
      by_cases hcolor : format = .uint8x4
      case pos =>
        -- a colour: four floats instead of four bytes, 12 bytes more for all after it
        subst hcolor
        rw [if_pos rfl] at hunpacked
        have hoffset : offset + shift + VertexFormat.float32x4.size =
            offset + VertexFormat.uint8x4.size + (shift + 12) := by
          simp only [VertexFormat.size]
          omega
        simp only [vertexLayoutFrom, hpacked, hunpacked, VertexAttribute.unpackColorsFrom,
          if_pos, hoffset, ih]
      case neg =>
        rw [if_neg hcolor] at hunpacked
        have hoffset : offset + shift + format.size = offset + format.size + shift := by omega
        simp only [vertexLayoutFrom, hpacked, hunpacked, VertexAttribute.unpackColorsFrom,
          if_neg hcolor, hoffset, ih]

/-- The layout with colours unpacked is the packed layout with colours read as four floats. -/
theorem vertexLayout_unpacked (declared : List (Nat × Usage)) :
    vertexLayout false declared = VertexAttribute.unpackColors (vertexLayout true declared) :=
  vertexLayoutFrom_unpacked declared 0 0

end Usage

end ShaderBridge
