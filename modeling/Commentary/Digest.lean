/-! The BLAKE3 digest of a sequence of bytes. Chunks of 1024 bytes are the leaves of a binary
tree; each node compresses one block on top of a chaining value. -/
namespace Commentary.Digest

abbrev Words (n : Nat) := Vector UInt32 n

def initial : Words 8 :=
  #v[0x6A09E667, 0xBB67AE85, 0x3C6EF372, 0xA54FF53A, 0x510E527F, 0x9B05688C, 0x1F83D9AB,
     0x5BE0CD19]

def permutation : Vector (Fin 16) 16 :=
  #v[2, 6, 3, 10, 7, 0, 4, 13, 1, 11, 12, 5, 9, 14, 15, 8]

def chunkStart : UInt32 := 1
def chunkEnd : UInt32 := 2
def parentNode : UInt32 := 4
def rootNode : UInt32 := 8

def rotateRight (word count : UInt32) : UInt32 :=
  (word >>> count) ||| (word <<< (32 - count))

/-- Mixes two words of the block into four words of the state. -/
def mix (s : Words 16) (a b c d : Fin 16) (x y : UInt32) : Words 16 :=
  let va := s.get a + s.get b + x
  let vd := rotateRight (s.get d ^^^ va) 16
  let vc := s.get c + vd
  let vb := rotateRight (s.get b ^^^ vc) 12
  let va := va + vb + y
  let vd := rotateRight (vd ^^^ va) 8
  let vc := vc + vd
  let vb := rotateRight (vb ^^^ vc) 7
  (((s.set a va).set b vb).set c vc).set d vd

/-- Mixes the columns of the state, then its diagonals. -/
def round (s m : Words 16) : Words 16 :=
  let s := mix s 0 4 8 12 m[0] m[1]
  let s := mix s 1 5 9 13 m[2] m[3]
  let s := mix s 2 6 10 14 m[4] m[5]
  let s := mix s 3 7 11 15 m[6] m[7]
  let s := mix s 0 5 10 15 m[8] m[9]
  let s := mix s 1 6 11 12 m[10] m[11]
  let s := mix s 2 7 8 13 m[12] m[13]
  mix s 3 4 9 14 m[14] m[15]

def permute (m : Words 16) : Words 16 :=
  permutation.map m.get

def rounds : Nat → Words 16 → Words 16 → Words 16
  | 0, s, _ => s
  | n + 1, s, m => rounds n (round s m) (permute m)

/-- What a node compresses, not yet compressed: the root is compressed differently. -/
structure Node where
  chain : Words 8
  block : Words 16
  counter : Nat
  length : Nat
  flags : UInt32

def Node.compress (n : Node) (extra : UInt32) : Words 8 :=
  let state : Words 16 := n.chain ++
    (#v[initial[0], initial[1], initial[2], initial[3], n.counter.toUInt32,
        (n.counter >>> 32).toUInt32, n.length.toUInt32, n.flags ||| extra] : Words 8)
  let s := rounds 7 state n.block
  Vector.ofFn fun i : Fin 8 => s[i.val] ^^^ s[i.val + 8]

def Node.chainValue (n : Node) : Words 8 :=
  n.compress 0

def word (bytes : List UInt8) : UInt32 :=
  bytes.foldr (fun b w => w <<< 8 ||| b.toUInt32) 0

/-- Up to 64 bytes as words, the first byte lowest, with zeros behind them. -/
def blockOf (bytes : List UInt8) : Words 16 :=
  Vector.ofFn fun i : Fin 16 => word ((bytes.drop (4 * i.val)).take 4)

def parent (left right : Node) : Node where
  chain := initial
  block := left.chainValue ++ right.chainValue
  counter := 0
  length := 64
  flags := parentNode

/-- The bytes in pieces of one size, the last one shorter. An empty input is one piece. -/
def pieces (size : Nat) (bytes : List UInt8) : List (List UInt8) :=
  (List.range (max 1 ((bytes.length + size - 1) / size))).map fun i =>
    (bytes.drop (size * i)).take size

/-- The last block of a chunk on top of the compressed blocks before it. -/
def chunk (counter : Nat) (bytes : List UInt8) : Node :=
  let blocks := pieces 64 bytes
  let nodeOf (chain : Words 8) (b : List UInt8) (flags : UInt32) : Node :=
    ⟨chain, blockOf b, counter, b.length, flags⟩
  let start : Words 8 × UInt32 := (initial, chunkStart)
  let (chain, flags) := blocks.dropLast.foldl
    (fun (chain, flags) b => ((nodeOf chain b flags).chainValue, 0)) start
  nodeOf chain (blocks.getLast?.getD []) (flags ||| chunkEnd)

def pairUp : List Node → List Node
  | a :: b :: rest => parent a b :: pairUp rest
  | list => list

/-- Pairs neighbours until one node is left. Each level has at most half the nodes of the one
below. -/
def top : Nat → List Node → Option Node
  | _, [] => none
  | _, [n] => some n
  | 0, _ => none
  | k + 1, list => top k (pairUp list)

def hexDigits (w : UInt32) : List Char :=
  [0, 1, 2, 3].flatMap fun i : Nat =>
    let byte := (w >>> (8 * i).toUInt32).toNat % 256
    [Nat.digitChar (byte / 16), Nat.digitChar (byte % 16)]

/-- The digest in hexadecimal. -/
def hex (bytes : List UInt8) : String :=
  let chunks := (pieces 1024 bytes).mapIdx chunk
  match top chunks.length chunks with
  | some n => String.ofList ((n.compress rootNode).toList.flatMap hexDigits)
  | none => ""

/-- The digest of a text in UTF-8. -/
def ofText (text : String) : String :=
  hex text.toUTF8.toList

end Commentary.Digest
