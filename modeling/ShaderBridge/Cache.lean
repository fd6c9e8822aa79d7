import ShaderBridge.Converter

/-!
A cache of converted shaders, keyed by a hash of their bytecode (the converter's is BLAKE3,
`Blake3.hash`). A failed conversion is not stored, and new options empty the cache.
-/

namespace ShaderBridge

/-- Where the shader of a lookup came from. -/
inductive CacheSource where
  /-- Converted by this lookup. -/
  | converted
  /-- Stored by an earlier lookup. -/
  | memory
  deriving DecidableEq, Repr, Inhabited

/-- A successful lookup: the bytecode's hash, its shader, and where the shader came from. -/
structure CacheHit where
  hash : List UInt8
  shader : Shader
  source : CacheSource
  deriving Repr, Inhabited

/-- A converter and the shaders it converted, each under the hash of its bytecode. -/
structure ShaderCache where
  converter : Converter := {}
  entries : List (List UInt8 × Shader) := []

namespace ShaderCache

variable (hash : List UInt8 → List UInt8)

/-- An empty cache around `converter`. -/
def withConverter (converter : Converter) : ShaderCache := { converter }

/-- How many shaders are stored. -/
def size (c : ShaderCache) : Nat := c.entries.length

/-- Whether no shader is stored. -/
def isEmpty (c : ShaderCache) : Bool := c.entries.isEmpty

/-- The shader of `bytes`: the stored one if its hash was seen, otherwise converted now and
stored when the conversion succeeds. -/
def get (c : ShaderCache) (bytes : List UInt8) : Except ConvertError CacheHit × ShaderCache :=
  let key := hash bytes
  match c.entries.lookup key with
  | some shader => (.ok ⟨key, shader, .memory⟩, c)
  | none =>
    match c.converter.compileBytes bytes with
    | .ok shader => (.ok ⟨key, shader, .converted⟩, { c with entries := (key, shader) :: c.entries })
    | .error e => (.error e, c)

/-- Converts with `options` from now on; the stored shaders are dropped when they differ from
the current options. -/
def setOptions (c : ShaderCache) (options : Options) : ShaderCache :=
  if c.converter.options = options then c
  else { converter := { c.converter with options } }

end ShaderCache

end ShaderBridge
