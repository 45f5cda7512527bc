import SelectorGuard.Text.Quoted

/-!
# The BLAKE3 hash

The input is cut into chunks of 1024 bytes, each chunk into blocks of 64 bytes, and each block is
compressed into a chaining value of eight words. The chaining values of the chunks are joined two
by two in a tree whose left part holds the largest power of two of chunks that leaves something
for the right part. The digest is the first 32 bytes of the output at the root.
-/

namespace SelectorGuard.Blake3

/-- The initial chaining value. -/
def initial : Array UInt32 :=
  #[0x6A09E667, 0xBB67AE85, 0x3C6EF372, 0xA54FF53A, 0x510E527F, 0x9B05688C, 0x1F83D9AB, 0x5BE0CD19]

/-- The order of the message words in the next round. -/
def permutation : List Nat :=
  [2, 6, 3, 10, 7, 0, 4, 13, 1, 11, 12, 5, 9, 14, 15, 8]

/-- Marks the first block of a chunk. -/
def chunkStart : UInt32 := 1

/-- Marks the last block of a chunk. -/
def chunkEnd : UInt32 := 2

/-- Marks a block that joins two chaining values. -/
def parent : UInt32 := 4

/-- Marks the last compression of all. -/
def root : UInt32 := 8

/-- Rotate a word to the right. -/
def rotate (w : UInt32) (n : UInt32) : UInt32 :=
  (w >>> n) ||| (w <<< (32 - n))

/-- Mix two message words into four words of the state. -/
def mix (s : Array UInt32) (a b c d : Nat) (x y : UInt32) : Array UInt32 :=
  let va := s.getD a 0 + s.getD b 0 + x
  let vd := rotate (s.getD d 0 ^^^ va) 16
  let vc := s.getD c 0 + vd
  let vb := rotate (s.getD b 0 ^^^ vc) 12
  let va := va + vb + y
  let vd := rotate (vd ^^^ va) 8
  let vc := vc + vd
  let vb := rotate (vb ^^^ vc) 7
  (((s.setIfInBounds a va).setIfInBounds b vb).setIfInBounds c vc).setIfInBounds d vd

/-- The columns and diagonals that one round mixes, with the message words for each. -/
def places : List (Nat × Nat × Nat × Nat × Nat) :=
  [(0, 4, 8, 12, 0), (1, 5, 9, 13, 2), (2, 6, 10, 14, 4), (3, 7, 11, 15, 6),
    (0, 5, 10, 15, 8), (1, 6, 11, 12, 10), (2, 7, 8, 13, 12), (3, 4, 9, 14, 14)]

/-- One round: mix the message into all columns, then into all diagonals. -/
def round (s m : Array UInt32) : Array UInt32 :=
  places.foldl (fun s p => mix s p.1 p.2.1 p.2.2.1 p.2.2.2.1 (m.getD p.2.2.2.2 0)
    (m.getD (p.2.2.2.2 + 1) 0)) s

/-- A number of rounds, the message words being reordered after each. -/
def rounds : Nat → Array UInt32 → Array UInt32 → Array UInt32
  | 0, s, _ => s
  | n + 1, s, m => rounds n (round s m) (permutation.map fun i => m.getD i 0).toArray

/-- Compress a block of sixteen words into a chaining value. -/
def compress (chaining block : Array UInt32) (counter : Nat) (size flags : UInt32) :
    Array UInt32 :=
  let start := chaining ++ initial.extract 0 4 ++
    #[counter.toUInt32, (counter / 0x100000000).toUInt32, size, flags]
  let s := rounds 7 start block
  ((List.range 8).map fun i => s.getD i 0 ^^^ s.getD (i + 8) 0).toArray

/-- A word from four bytes, the least significant first. -/
def wordOf (bytes : List UInt8) : UInt32 :=
  bytes.foldr (fun b w => w * 256 + b.toUInt32) 0

/-- The words of a block, filled up with zeros to sixteen. -/
def words (bytes : List UInt8) : Array UInt32 :=
  ((List.range 16).map fun i => wordOf ((bytes.drop (4 * i)).take 4)).toArray

/-- Cut bytes into pieces of a positive size, at least one piece, all but the last one full. -/
def cut (size : Nat) (bytes : List UInt8) : List (List UInt8) :=
  (List.range (max 1 ((bytes.length + size - 1) / size))).map fun i =>
    (bytes.drop (size * i)).take size

/-- The chaining value of a chunk, with flags to add to its last block. -/
def chunkValue (counter : Nat) (last : UInt32) (bytes : List UInt8) : Array UInt32 :=
  let rec go (chaining : Array UInt32) (first : UInt32) : List (List UInt8) → Array UInt32
    | [] => chaining
    | [block] =>
      compress chaining (words block) counter block.length.toUInt32 (first ||| chunkEnd ||| last)
    | block :: rest => go (compress chaining (words block) counter 64 first) 0 rest
  go initial chunkStart (cut 64 bytes)

/-- The number of chunks in the left part of a tree of two chunks or more. -/
def leftCount (chunks : Nat) : Nat :=
  Nat.pow 2 (Nat.log2 (chunks - 1))

/-- The chaining value of a tree over consecutive chunks, the first of which has a given number.
The first argument bounds the depth of the tree. -/
def treeValue : Nat → Nat → UInt32 → List (List UInt8) → Array UInt32
  | 0, _, _, _ => initial
  | depth + 1, counter, last, chunks =>
    match chunks with
    | [] => initial
    | [chunk] => chunkValue counter last chunk
    | _ =>
      let n := leftCount chunks.length
      let left := treeValue depth counter 0 (chunks.take n)
      let right := treeValue depth (counter + n) 0 (chunks.drop n)
      compress initial (left ++ right) 0 64 (parent ||| last)

/-- The bytes of a word, the least significant first. -/
def bytesOf (w : UInt32) : List UInt8 :=
  [w.toUInt8, (w >>> 8).toUInt8, (w >>> 16).toUInt8, (w >>> 24).toUInt8]

/-- The digest of a message: 32 bytes. -/
def digest (message : List UInt8) : List UInt8 :=
  let chunks := cut 1024 message
  (treeValue chunks.length 0 root chunks).toList.flatMap bytesOf

/-- The lower-case hexadecimal digits of bytes. -/
def hex (bytes : List UInt8) : String :=
  String.ofList (bytes.flatMap fun b => [Text.hexDigit (b.toNat / 16), Text.hexDigit b.toNat])

end SelectorGuard.Blake3
