/-!
The BLAKE3 hash of a byte string, in its default 32-byte form: 1024-byte chunks of 64-byte
blocks, whose chaining values are joined in a binary tree.
-/

namespace ShaderBridge.Blake3

/-- A compression state or a message block: sixteen 32-bit words. -/
abbrev Block := Vector UInt32 16

/-- A chaining value: eight 32-bit words. -/
abbrev ChainingValue := Vector UInt32 8

/-- The initial chaining value, shared with SHA-256. -/
def iv : ChainingValue :=
  #v[0x6A09E667, 0xBB67AE85, 0x3C6EF372, 0xA54FF53A, 0x510E527F, 0x9B05688C, 0x1F83D9AB,
     0x5BE0CD19]

/-- Flag of a chunk's first block. -/
def chunkStart : UInt32 := 1

/-- Flag of a chunk's last block. -/
def chunkEnd : UInt32 := 2

/-- Flag of a parent node. -/
def parent : UInt32 := 4

/-- Flag of the root node. -/
def root : UInt32 := 8

/-- Bytes in a block. -/
def blockBytes : Nat := 64

/-- Bytes in a chunk. -/
def chunkBytes : Nat := 1024

/-- `w` rotated right by `n` bits, `0 < n < 32`. -/
def rotr (w : UInt32) (n : UInt32) : UInt32 := (w >>> n) ||| (w <<< (32 - n))

/-- The quarter round: mixes words `a`, `b`, `c`, `d` of the state with message words `x`
and `y`. -/
def g (s : Block) (a b c d : Fin 16) (x y : UInt32) : Block :=
  let va := s.get a + s.get b + x
  let vd := rotr (s.get d ^^^ va) 16
  let vc := s.get c + vd
  let vb := rotr (s.get b ^^^ vc) 12
  let va := va + vb + y
  let vd := rotr (vd ^^^ va) 8
  let vc := vc + vd
  let vb := rotr (vb ^^^ vc) 7
  (((s.set a.val va a.isLt).set b.val vb b.isLt).set c.val vc c.isLt).set d.val vd d.isLt

/-- The quarter rounds of one round, as state words `a b c d` and message words `i j`: first
the four columns, then the four diagonals. -/
def quarterRounds : List (Fin 16 × Fin 16 × Fin 16 × Fin 16 × Fin 16 × Fin 16) :=
  [(0, 4, 8, 12, 0, 1), (1, 5, 9, 13, 2, 3), (2, 6, 10, 14, 4, 5), (3, 7, 11, 15, 6, 7),
   (0, 5, 10, 15, 8, 9), (1, 6, 11, 12, 10, 11), (2, 7, 8, 13, 12, 13), (3, 4, 9, 14, 14, 15)]

/-- One round over the message block `m`. -/
def round (s m : Block) : Block :=
  quarterRounds.foldl (fun s (a, b, c, d, i, j) => g s a b c d (m.get i) (m.get j)) s

/-- Where each message word of the next round comes from. -/
def messagePermutation : Vector (Fin 16) 16 :=
  #v[2, 6, 3, 10, 7, 0, 4, 13, 1, 11, 12, 5, 9, 14, 15, 8]

/-- The message block of the next round. -/
def permute (m : Block) : Block := Vector.ofFn fun i => m.get (messagePermutation.get i)

/-- `n` rounds, the message permuted after each. -/
def rounds : Nat → Block → Block → Block
  | 0, s, _ => s
  | n + 1, s, m => rounds n (round s m) (permute m)

/-- The state a compression starts from: the chaining value, the first half of the initial
value, the 64-bit counter in two words, the block's length and the flags. -/
def initialState (cv : ChainingValue) (counter blockLen : Nat) (flags : UInt32) : Block :=
  cv ++ #v[iv.get 0, iv.get 1, iv.get 2, iv.get 3, counter.toUInt32, (counter >>> 32).toUInt32,
    blockLen.toUInt32, flags]

/-- The chaining value that compressing `block` into `cv` gives: seven rounds, then the first
half of the state folded with the second. -/
def compress (cv : ChainingValue) (block : Block) (counter blockLen : Nat) (flags : UInt32) :
    ChainingValue :=
  let s := rounds 7 (initialState cv counter blockLen flags) block
  Vector.ofFn fun i => s.get ⟨i.val, by omega⟩ ^^^ s.get ⟨i.val + 8, by omega⟩

/-- The little-endian word of four bytes. -/
def bytesWord (b0 b1 b2 b3 : UInt8) : UInt32 :=
  b0.toUInt32 ||| (b1.toUInt32 <<< 8) ||| (b2.toUInt32 <<< 16) ||| (b3.toUInt32 <<< 24)

/-- The four little-endian bytes of a word. -/
def wordBytes (w : UInt32) : List UInt8 :=
  [w.toUInt8, (w >>> 8).toUInt8, (w >>> 16).toUInt8, (w >>> 24).toUInt8]

/-- The message block of at most 64 bytes, zero padded. -/
def blockWords (bytes : Array UInt8) : Block :=
  let byte := fun k => bytes.getD k 0
  Vector.ofFn fun i =>
    bytesWord (byte (4 * i.val)) (byte (4 * i.val + 1)) (byte (4 * i.val + 2))
      (byte (4 * i.val + 3))

/-- The chaining value of chunk `index`, `chunk` its at most 1024 bytes; `rootFlag` is added to
the last block's flags. An empty chunk is one empty block. -/
def chunkValue (chunk : Array UInt8) (index : Nat) (rootFlag : UInt32) : ChainingValue :=
  let count := max 1 ((chunk.size + blockBytes - 1) / blockBytes)
  (List.range count).foldl (fun cv j =>
    let block := chunk.extract (blockBytes * j) (blockBytes * (j + 1))
    let first := if j = 0 then chunkStart else 0
    let last := if j + 1 = count then chunkEnd ||| rootFlag else 0
    compress cv (blockWords block) index block.size (first ||| last)) iv

/-- The largest power of two below `n`, for `n ≥ 2`: how many chunks a left subtree takes. -/
def leftChunks (n : Nat) : Nat := Nat.pow 2 (Nat.log2 (n - 1))

theorem leftChunks_pos (n : Nat) : 0 < leftChunks n := Nat.two_pow_pos _

theorem leftChunks_lt (n : Nat) (h : 1 < n) : leftChunks n < n := by
  have := Nat.log2_self_le (n := n - 1) (by omega)
  unfold leftChunks
  rw [Nat.pow_eq]
  omega

/-- The chaining value of the subtree over `count` chunks from chunk `first`. -/
def subtree (input : Array UInt8) (first count : Nat) (rootFlag : UInt32) : ChainingValue :=
  if h : count ≤ 1 then
    chunkValue (input.extract (chunkBytes * first) (chunkBytes * (first + 1))) first rootFlag
  else
    let left := leftChunks count
    let l := subtree input first left 0
    let r := subtree input (first + left) (count - left) 0
    compress iv (l ++ r) 0 blockBytes (parent ||| rootFlag)
termination_by count
decreasing_by
  · exact leftChunks_lt count (by omega)
  · have := leftChunks_pos count; omega

/-- The hash's eight words. -/
def hashWords (input : Array UInt8) : ChainingValue :=
  subtree input 0 (max 1 ((input.size + chunkBytes - 1) / chunkBytes)) root

/-- The 32-byte BLAKE3 hash of `bytes`. -/
def hash (bytes : List UInt8) : List UInt8 := (hashWords bytes.toArray).toList.flatMap wordBytes

end ShaderBridge.Blake3
