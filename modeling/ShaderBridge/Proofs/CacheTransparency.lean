import Mathlib.Data.List.Dedup
import ShaderBridge.Cache
import ShaderBridge.Hash.Blake3

/-!
A shader cache is transparent: while its hash tells the bytecode looked up apart, every run of
requests gets the replies the client's own history gives.
-/

namespace ShaderBridge

/-- A request a client makes of a shader cache. -/
inductive CacheRequest where
  /-- The shader of a bytecode. -/
  | get (bytes : List UInt8)
  | setOptions (options : Options)
  /-- How many shaders the cache holds. -/
  | size

/-- The cache's answer to a request. -/
inductive CacheReply where
  | lookup (result : Except ConvertError CacheHit)
  | done
  | size (count : Nat)

/-- The bytecode that requests look up, in order. -/
def CacheRequest.lookups (reqs : List CacheRequest) : List (List UInt8) :=
  reqs.filterMap fun
    | .get bytes => some bytes
    | _ => none

namespace ShaderCache

variable (hash : List UInt8 → List UInt8)

/-- Serves one request. -/
def serve (c : ShaderCache) : CacheRequest → CacheReply × ShaderCache
  | .get bytes => (.lookup (c.get hash bytes).1, (c.get hash bytes).2)
  | .setOptions options => (.done, c.setOptions options)
  | .size => (.size c.size, c)

/-- Serves requests in turn: the replies, and the cache they leave. -/
def serveAll (c : ShaderCache) : List CacheRequest → List CacheReply × ShaderCache
  | [] => ([], c)
  | r :: rs => ((c.serve hash r).1 :: ((c.serve hash r).2.serveAll rs).1,
      ((c.serve hash r).2.serveAll rs).2)

/-- A lookup that fails leaves the cache as it was. -/
theorem get_error {c : ShaderCache} {bytes : List UInt8} {e : ConvertError}
    (h : (c.get hash bytes).1 = .error e) : (c.get hash bytes).2 = c := by
  cases hfound : c.entries.lookup (hash bytes) with
  | some shader => simp [get, hfound] at h
  | none =>
    cases hc : c.converter.compileBytes bytes with
    | ok shader => simp [get, hfound, hc] at h
    | error e' => simp [get, hfound, hc]

/-- Setting the options in force changes nothing. -/
theorem setOptions_self (c : ShaderCache) : c.setOptions c.converter.options = c := by
  simp [setOptions]

end ShaderCache

/-- What a client's own requests tell about a cache: the options in force and, newest first, the
bytecode of every lookup that succeeded since the options last changed. -/
structure CacheHistory where
  options : Options
  hits : List (List UInt8)

namespace CacheHistory

variable (registry : ConstantRegistry) (hash : List UInt8 → List UInt8)

/-- The reply of a transparent cache, and the history after it: a shader comes from memory when
the same bytecode was found since the options last changed. -/
def expect (h : CacheHistory) : CacheRequest → CacheReply × CacheHistory
  | .get bytes =>
    match ({ options := h.options, registry } : Converter).compileBytes bytes with
    | .ok shader =>
      (.lookup (.ok ⟨hash bytes, shader, if bytes ∈ h.hits then .memory else .converted⟩),
        { h with hits := bytes :: h.hits })
    | .error e => (.lookup (.error e), h)
  | .setOptions options => (.done, if h.options = options then h else ⟨options, []⟩)
  | .size => (.size h.hits.dedup.length, h)

/-- The replies of a transparent cache to requests in turn. -/
def expectAll (h : CacheHistory) : List CacheRequest → List CacheReply × CacheHistory
  | [] => ([], h)
  | r :: rs => ((h.expect registry hash r).1 :: ((h.expect registry hash r).2.expectAll rs).1,
      ((h.expect registry hash r).2.expectAll rs).2)

/-- The cache agrees with the history on the bytecode `S`: it holds a shader under the hash of a
bytecode of `S` exactly when that bytecode was found, and one shader for each bytecode found. -/
structure Matches (S : List (List UInt8)) (h : CacheHistory) (c : ShaderCache) : Prop where
  converter : c.converter = { options := h.options, registry }
  lookup : ∀ b ∈ S, c.entries.lookup (hash b) =
    if b ∈ h.hits then (c.converter.compileBytes b).toOption else none
  size : c.size = h.hits.dedup.length

/-- A new cache agrees with the empty history on any bytecode. -/
theorem matches_withConverter (S : List (List UInt8)) (options : Options) :
    Matches registry hash S ⟨options, []⟩ (ShaderCache.withConverter { options, registry }) :=
  ⟨rfl, fun _ _ => rfl, rfl⟩

end CacheHistory

namespace ShaderCache

open CacheHistory

variable {registry : ConstantRegistry} {hash : List UInt8 → List UInt8} {S : List (List UInt8)}
  {h : CacheHistory} {c : ShaderCache}

/-- A lookup of stored bytecode is served from memory, as the history says. -/
theorem get_matches_of_lookup (hm : Matches registry hash S h c) {b : List UInt8} (hb : b ∈ S)
    {shader : Shader} (hfound : c.entries.lookup (hash b) = some shader) :
    (c.serve hash (.get b)).1 = (h.expect registry hash (.get b)).1 ∧
      Matches registry hash S (h.expect registry hash (.get b)).2 (c.serve hash (.get b)).2 := by
  have hlookup := hm.lookup b hb
  rw [hfound] at hlookup
  -- only found bytecode is stored, and its shader is the conversion's
  have hhit : b ∈ h.hits := by
    by_contra hnot
    simp [hnot] at hlookup
  have hcompile : ({ options := h.options, registry } : Converter).compileBytes b = .ok shader := by
    rw [if_pos hhit] at hlookup
    rw [← hm.converter]
    cases hc : c.converter.compileBytes b <;> simp_all [Except.toOption]
  have hserve : c.serve hash (.get b) = (.lookup (.ok ⟨hash b, shader, .memory⟩), c) := by
    simp [serve, get, hfound]
  have hexpect : h.expect registry hash (.get b) =
      (.lookup (.ok ⟨hash b, shader, .memory⟩), { h with hits := b :: h.hits }) := by
    simp [expect, hcompile, hhit]
  rw [hserve, hexpect]
  refine ⟨rfl, hm.converter, fun b' hb' => ?_, ?_⟩
  · by_cases heq : b' = b
    · subst heq
      simp [hm.lookup _ hb', hhit]
    · simp [hm.lookup _ hb', heq]
  · simp [hm.size, List.dedup_cons_of_mem hhit]

/-- A lookup of bytecode not stored converts it, and stores the shader when the conversion
succeeds; the history records a first find. -/
theorem get_matches_of_lookup_none (hm : Matches registry hash S h c)
    (hinj : ∀ b ∈ S, ∀ b' ∈ S, hash b = hash b' → b = b') {b : List UInt8}
    (hb : b ∈ S) (hnone : c.entries.lookup (hash b) = none) :
    (c.serve hash (.get b)).1 = (h.expect registry hash (.get b)).1 ∧
      Matches registry hash S (h.expect registry hash (.get b)).2 (c.serve hash (.get b)).2 := by
  have hlookup := hm.lookup b hb
  rw [hnone, hm.converter] at hlookup
  cases hc : ({ options := h.options, registry } : Converter).compileBytes b with
  | error e =>
    have hserve : c.serve hash (.get b) = (.lookup (.error e), c) := by
      simp [serve, get, hnone, hm.converter, hc]
    have hexpect : h.expect registry hash (.get b) = (.lookup (.error e), h) := by
      simp [expect, hc]
    rw [hserve, hexpect]
    exact ⟨rfl, hm⟩
  | ok shader =>
    -- a bytecode found before would be stored: this is its first find
    have hnew : b ∉ h.hits := by
      intro hhit
      simp [hhit, hc, Except.toOption] at hlookup
    have hserve : c.serve hash (.get b) = (.lookup (.ok ⟨hash b, shader, .converted⟩),
        { c with entries := (hash b, shader) :: c.entries }) := by
      simp [serve, get, hnone, hm.converter, hc]
    have hexpect : h.expect registry hash (.get b) =
        (.lookup (.ok ⟨hash b, shader, .converted⟩), { h with hits := b :: h.hits }) := by
      simp [expect, hc, hnew]
    rw [hserve, hexpect]
    refine ⟨rfl, hm.converter, fun b' hb' => ?_, ?_⟩
    · by_cases heq : b' = b
      · subst heq
        simp [hm.converter, hc, Except.toOption]
      · -- the hash tells `b'` from `b`, so the new entry is not the one `b'` finds
        have hhash : (hash b' == hash b) = false :=
          beq_false_of_ne fun e => heq (hinj b' hb' b hb e)
        simp only [List.lookup_cons, hhash, List.mem_cons, heq, false_or]
        exact hm.lookup b' hb'
    · simp [size, List.dedup_cons_of_notMem hnew, ← hm.size]

/-- Every request gets the reply the history gives and keeps the cache in agreement with the
history, while the hash tells the bytecode of `S` apart. -/
theorem serve_matches (hm : Matches registry hash S h c)
    (hinj : ∀ b ∈ S, ∀ b' ∈ S, hash b = hash b' → b = b') (r : CacheRequest)
    (hr : ∀ b, r = .get b → b ∈ S) :
    (c.serve hash r).1 = (h.expect registry hash r).1 ∧
      Matches registry hash S (h.expect registry hash r).2 (c.serve hash r).2 := by
  cases r with
  | get b =>
    cases hfound : c.entries.lookup (hash b) with
    | some shader => exact get_matches_of_lookup hm (hr b rfl) hfound
    | none => exact get_matches_of_lookup_none hm hinj (hr b rfl) hfound
  | setOptions options =>
    have hopts : c.converter.options = h.options := by rw [hm.converter]
    by_cases hsame : h.options = options
    · have hserve : c.serve hash (.setOptions options) = (.done, c) := by
        simp [serve, setOptions, hopts, hsame]
      have hexpect : h.expect registry hash (.setOptions options) = (.done, h) := by
        simp [expect, hsame]
      rw [hserve, hexpect]
      exact ⟨rfl, hm⟩
    · -- new options empty the cache and start a new history
      have hserve : c.serve hash (.setOptions options) =
          (.done, { converter := { options, registry } }) := by
        simp [serve, setOptions, hsame, hm.converter]
      have hexpect : h.expect registry hash (.setOptions options) = (.done, ⟨options, []⟩) := by
        simp [expect, hsame]
      rw [hserve, hexpect]
      exact ⟨rfl, matches_withConverter registry hash S options⟩
  | size => exact ⟨congrArg CacheReply.size hm.size, hm⟩

/-- Requests served in turn get the replies the history gives, while the hash tells the
bytecode of `S` apart and every bytecode looked up is in `S`. -/
theorem serveAll_matches (hinj : ∀ b ∈ S, ∀ b' ∈ S, hash b = hash b' → b = b')
    (reqs : List CacheRequest) (hreqs : ∀ b ∈ CacheRequest.lookups reqs, b ∈ S)
    (hm : Matches registry hash S h c) :
    (c.serveAll hash reqs).1 = (h.expectAll registry hash reqs).1 := by
  -- on the requests, the agreement carried from each to the next
  induction reqs generalizing h c with
  | nil => rfl
  | cons r rs ih =>
    have hr : ∀ b, r = .get b → b ∈ S := fun b hb =>
      hreqs b (by simp [CacheRequest.lookups, hb])
    have hrest : ∀ b ∈ CacheRequest.lookups rs, b ∈ S := fun b hb =>
      hreqs b (by cases r <;> simp_all [CacheRequest.lookups])
    obtain ⟨hreply, hnext⟩ := serve_matches hm hinj r hr
    simp only [serveAll, expectAll, hreply, ih hrest hnext]

/-- A cache whose hash tells apart the bytecode a client looks up is transparent: its replies
are the history's, and a failed lookup or the options in force change nothing. -/
theorem serveAll_transparent (hash : List UInt8 → List UInt8) (options : Options)
    (registry : ConstantRegistry) (reqs : List CacheRequest)
    (hinj : ∀ b ∈ CacheRequest.lookups reqs, ∀ b' ∈ CacheRequest.lookups reqs,
      hash b = hash b' → b = b') :
    ((withConverter { options, registry }).serveAll hash reqs).1 =
        (CacheHistory.expectAll registry hash ⟨options, []⟩ reqs).1 ∧
      (∀ (c : ShaderCache) bytes e, (c.get hash bytes).1 = .error e →
        (c.get hash bytes).2 = c) ∧
      ∀ c : ShaderCache, c.setOptions c.converter.options = c :=
  ⟨serveAll_matches hinj reqs (fun _ hb => hb) (matches_withConverter registry hash _ options),
    fun _ _ _ => get_error hash, setOptions_self⟩

/-- The empty vertex shaders of models 1.1 and 2.0 looked up under BLAKE3, the first twice: the
hash tells them apart, the replies are the history's, and the second lookup of the first comes
from memory. -/
theorem serveAll_transparent_memory :
    (∀ b ∈ CacheRequest.lookups [.get [1, 1, 254, 255, 255, 255, 0, 0],
        .get [0, 2, 254, 255, 255, 255, 0, 0], .get [1, 1, 254, 255, 255, 255, 0, 0], .size],
      ∀ b' ∈ CacheRequest.lookups [.get [1, 1, 254, 255, 255, 255, 0, 0],
        .get [0, 2, 254, 255, 255, 255, 0, 0], .get [1, 1, 254, 255, 255, 255, 0, 0], .size],
      Blake3.hash b = Blake3.hash b' → b = b') ∧
    (((withConverter { options := {}, registry := SlotLayout.registry {} }).serveAll Blake3.hash
        [.get [1, 1, 254, 255, 255, 255, 0, 0], .get [0, 2, 254, 255, 255, 255, 0, 0],
          .get [1, 1, 254, 255, 255, 255, 0, 0], .size]).1 =
        (CacheHistory.expectAll (SlotLayout.registry {}) Blake3.hash ⟨{}, []⟩
          [.get [1, 1, 254, 255, 255, 255, 0, 0], .get [0, 2, 254, 255, 255, 255, 0, 0],
            .get [1, 1, 254, 255, 255, 255, 0, 0], .size]).1 ∧
      (∀ (c : ShaderCache) bytes e, (c.get Blake3.hash bytes).1 = .error e →
        (c.get Blake3.hash bytes).2 = c) ∧
      ∀ c : ShaderCache, c.setOptions c.converter.options = c) ∧
    ∃ hit, ((withConverter { options := {}, registry := SlotLayout.registry {} }).serveAll
        Blake3.hash [.get [1, 1, 254, 255, 255, 255, 0, 0], .get [0, 2, 254, 255, 255, 255, 0, 0],
          .get [1, 1, 254, 255, 255, 255, 0, 0], .size]).1[2]? = some (.lookup (.ok hit)) ∧
      hit.source = .memory := by
  have hdistinct : Blake3.hash [1, 1, 254, 255, 255, 255, 0, 0] ≠
      Blake3.hash [0, 2, 254, 255, 255, 255, 0, 0] := by decide +kernel
  have hinj : ∀ b ∈ CacheRequest.lookups [.get [1, 1, 254, 255, 255, 255, 0, 0],
        .get [0, 2, 254, 255, 255, 255, 0, 0], .get [1, 1, 254, 255, 255, 255, 0, 0], .size],
      ∀ b' ∈ CacheRequest.lookups [.get [1, 1, 254, 255, 255, 255, 0, 0],
        .get [0, 2, 254, 255, 255, 255, 0, 0], .get [1, 1, 254, 255, 255, 255, 0, 0], .size],
      Blake3.hash b = Blake3.hash b' → b = b' := by
    simp only [CacheRequest.lookups, List.filterMap_cons, List.filterMap_nil, List.mem_cons,
      List.not_mem_nil, or_false]
    -- two of the three lookups are of one bytecode, which BLAKE3 tells from the other
    rintro b (rfl | rfl | rfl) b' (rfl | rfl | rfl) h <;> simp_all
  have htransparent := serveAll_transparent Blake3.hash {} (SlotLayout.registry {}) _ hinj
  -- both shaders convert, so the history records the first before its second lookup
  have hok : (Converter.compileBytes { options := {}, registry := SlotLayout.registry {} }
      [1, 1, 254, 255, 255, 255, 0, 0]).toBool = true := by decide +kernel
  obtain ⟨shader, hshader⟩ : ∃ shader, Converter.compileBytes
      { options := {}, registry := SlotLayout.registry {} } [1, 1, 254, 255, 255, 255, 0, 0] =
        .ok shader := by
    cases hc : Converter.compileBytes { options := {}, registry := SlotLayout.registry {} }
      [1, 1, 254, 255, 255, 255, 0, 0] with
    | error e => simp [hc, Except.toBool] at hok
    | ok shader => exact ⟨shader, rfl⟩
  refine ⟨hinj, htransparent,
    ⟨Blake3.hash [1, 1, 254, 255, 255, 255, 0, 0], shader, .memory⟩, ?_, rfl⟩
  rw [htransparent.1]
  cases hc : Converter.compileBytes { options := {}, registry := SlotLayout.registry {} }
      [0, 2, 254, 255, 255, 255, 0, 0] <;>
    simp [CacheHistory.expectAll, CacheHistory.expect, hshader, hc]

end ShaderCache

end ShaderBridge
