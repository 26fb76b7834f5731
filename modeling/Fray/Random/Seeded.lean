import Fray.Random.ChaCha
import Fray.Random.Source

/-!
# Seeded sources

A generator of words answers draws. A draw takes the upper half of the product
of a word and the bound. When the lower half is so large that a longer fraction
could still carry into the upper one, a second word decides the carry. A 64-bit
seed is spread over the eight words of a key by a permuted congruential
generator, and the key's ChaCha stream gives the words.
-/
namespace Fray

namespace Seed

/-- One step of the generator that spreads a seed. -/
def advance (state : UInt64) : UInt64 := state * 6364136223846793005 + 11634580027462260723

/-- The key word that a state gives: its high bits, rotated. -/
def word (state : UInt64) : UInt32 :=
  ChaCha.rotateRight ((((state >>> 18) ^^^ state) >>> 27).toUInt32) (state >>> 59).toUInt32

/-- The state after a number of steps. -/
def after : Nat → UInt64 → UInt64
  | 0, state => state
  | steps + 1, state => after steps (advance state)

def key (seed : UInt64) : Vector UInt32 8 :=
  Vector.ofFn fun i : Fin 8 => word (after (i.val + 1) seed)

end Seed

/-! ### Drawing with words -/

/-- Something that gives one 32-bit word after another. -/
class Generator (ρ : Type) where
  next : ρ → UInt32 × ρ

/-- A source that draws with the words of a generator. -/
structure Sampler (ρ : Type) where
  generator : ρ

/-- The whole part of a word's share of the bound. -/
def share (bound : Nat) (word : UInt32) : Nat := word.toNat * bound / Nat.pow 2 32

/-- The fraction of a word's share of the bound, in units of `2 ^ -32`. -/
def shareRest (bound : Nat) (word : UInt32) : Nat := word.toNat * bound % Nat.pow 2 32

def Sampler.draw {ρ : Type} [Generator ρ] (bound : Count) (source : Sampler ρ) :
    Count × Sampler ρ :=
  let n := bound.toNat
  if n = 0 then (0, source)
  else
    let first := Generator.next source.generator
    -- Only here can the next word still lift the fraction to a whole.
    if (Nat.pow 2 32 - n) % Nat.pow 2 32 < shareRest n first.1 then
      let second := Generator.next first.2
      let carry := (shareRest n first.1 + share n second.1) / Nat.pow 2 32
      (Count.ofNat (share n first.1 + carry), ⟨second.2⟩)
    else (Count.ofNat (share n first.1), ⟨first.2⟩)

instance {ρ : Type} [Generator ρ] : RandomSource (Sampler ρ) := ⟨Sampler.draw⟩

/-! ### Seeds -/

instance : Generator ChaCha.Stream := ⟨ChaCha.Stream.next⟩

abbrev Seeded := Sampler ChaCha.Stream

def Seeded.ofSeed (seed : UInt64) : Seeded := ⟨ChaCha.Stream.ofKey (Seed.key seed)⟩

end Fray
