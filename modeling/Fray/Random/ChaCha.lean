/-!
# ChaCha keystreams

The ChaCha block function with twelve rounds, and the stream of 32-bit words
that it makes of a key: block after block, with a 64-bit block counter from
zero and a nonce of zeros.
-/
namespace Fray.ChaCha

abbrev Block := Vector UInt32 16

def rotateLeft (word amount : UInt32) : UInt32 :=
  (word <<< amount) ||| (word >>> (32 - amount))

def rotateRight (word amount : UInt32) : UInt32 :=
  (word >>> amount) ||| (word <<< ((32 - amount) % 32))

/-- Mix four words of a block. -/
def quarterRound (a b c d : Fin 16) (block : Block) : Block :=
  let first (rotation : UInt32) (x y z : Fin 16) (block : Block) : Block :=
    let block := block.set x (block[x] + block[y])
    block.set z (rotateLeft (block[z] ^^^ block[x]) rotation)
  first 7 c d b (first 8 a b d (first 12 c d b (first 16 a b d block)))

/-- A column round and a diagonal round. -/
def doubleRound (block : Block) : Block :=
  let columns := quarterRound 3 7 11 15 (quarterRound 2 6 10 14
    (quarterRound 1 5 9 13 (quarterRound 0 4 8 12 block)))
  quarterRound 3 4 9 14 (quarterRound 2 7 8 13
    (quarterRound 1 6 11 12 (quarterRound 0 5 10 15 columns)))

/-- The words "expand 32-byte k", the key, the counter and the nonce. -/
def start (key : Vector UInt32 8) (counter : UInt64) : Block :=
  (#v[0x61707865, 0x3320646E, 0x79622D32, 0x6B206574] : Vector UInt32 4) ++ key
    ++ (#v[counter.toUInt32, (counter >>> 32).toUInt32, 0, 0] : Vector UInt32 4)

/-- One block of the keystream. -/
def block (key : Vector UInt32 8) (counter : UInt64) : Block :=
  let initial := start key counter
  let mixed := (List.range 6).foldl (fun block _ => doubleRound block) initial
  Vector.zipWith (· + ·) mixed initial

/-- A keystream: the current block, how many of its words are used, and the next block's number. -/
structure Stream where
  key : Vector UInt32 8
  current : Block
  used : Nat
  counter : UInt64

def Stream.ofKey (key : Vector UInt32 8) : Stream := ⟨key, block key 0, 0, 1⟩

/-- The next word of a keystream. -/
def Stream.next (stream : Stream) : UInt32 × Stream :=
  if h : stream.used < 16 then
    (stream.current[stream.used], { stream with used := stream.used + 1 })
  else
    let fresh := block stream.key stream.counter
    (fresh[0], { stream with current := fresh, used := 1, counter := stream.counter + 1 })

end Fray.ChaCha
