import YourCloud.Foundation.Bytes
import Mathlib.Data.Nat.Bitwise

/-!
# SHA-256

The digest by which documents are pinned and approvals are remembered, on
natural numbers below `2 ^ 32`.  Nothing of its strength is used anywhere: the
results of the other modules hold of any digest, and this one makes them
computable.

## Main results

* `sha256_length` — a digest has thirty-two bytes.
* `sha256Hex_canonical` — its spelling is sixty-four lower-case digits.
-/

namespace YourCloud.Foundation

namespace Sha256

/-- The values of the words. -/
def word : Nat := 2 ^ 32

def rotate (x n : Nat) : Nat := (x >>> n) ||| (x <<< (32 - n)) % word

def complement (x : Nat) : Nat := word - 1 - x % word

def choose (x y z : Nat) : Nat := (x &&& y) ^^^ (complement x &&& z)

def majority (x y z : Nat) : Nat := (x &&& y) ^^^ (x &&& z) ^^^ (y &&& z)

def bigSigma0 (x : Nat) : Nat := rotate x 2 ^^^ rotate x 13 ^^^ rotate x 22

def bigSigma1 (x : Nat) : Nat := rotate x 6 ^^^ rotate x 11 ^^^ rotate x 25

def smallSigma0 (x : Nat) : Nat := rotate x 7 ^^^ rotate x 18 ^^^ x >>> 3

def smallSigma1 (x : Nat) : Nat := rotate x 17 ^^^ rotate x 19 ^^^ x >>> 10

/-- The constants of the sixty-four rounds. -/
def constants : List Nat :=
  [0x428a2f98, 0x71374491, 0xb5c0fbcf, 0xe9b5dba5, 0x3956c25b, 0x59f111f1, 0x923f82a4,
    0xab1c5ed5, 0xd807aa98, 0x12835b01, 0x243185be, 0x550c7dc3, 0x72be5d74, 0x80deb1fe,
    0x9bdc06a7, 0xc19bf174, 0xe49b69c1, 0xefbe4786, 0x0fc19dc6, 0x240ca1cc, 0x2de92c6f,
    0x4a7484aa, 0x5cb0a9dc, 0x76f988da, 0x983e5152, 0xa831c66d, 0xb00327c8, 0xbf597fc7,
    0xc6e00bf3, 0xd5a79147, 0x06ca6351, 0x14292967, 0x27b70a85, 0x2e1b2138, 0x4d2c6dfc,
    0x53380d13, 0x650a7354, 0x766a0abb, 0x81c2c92e, 0x92722c85, 0xa2bfe8a1, 0xa81a664b,
    0xc24b8b70, 0xc76c51a3, 0xd192e819, 0xd6990624, 0xf40e3585, 0x106aa070, 0x19a4c116,
    0x1e376c08, 0x2748774c, 0x34b0bcb5, 0x391c0cb3, 0x4ed8aa4a, 0x5b9cca4f, 0x682e6ff3,
    0x748f82ee, 0x78a5636f, 0x84c87814, 0x8cc70208, 0x90befffa, 0xa4506ceb, 0xbef9a3f7,
    0xc67178f2]

/-- The state of the compression. -/
structure Chain where
  a : Nat
  b : Nat
  c : Nat
  d : Nat
  e : Nat
  f : Nat
  g : Nat
  h : Nat
  deriving DecidableEq, Repr

def start : Chain :=
  ⟨0x6a09e667, 0xbb67ae85, 0x3c6ef372, 0xa54ff53a, 0x510e527f, 0x9b05688c, 0x1f83d9ab,
    0x5be0cd19⟩

/-- The message of one block and the words it is expanded to, newest first. -/
def expand : Nat → List Nat → List Nat
  | 0, schedule => schedule
  | more + 1, schedule =>
      let next := (smallSigma1 (schedule.getD 1 0) + schedule.getD 6 0 +
        smallSigma0 (schedule.getD 14 0) + schedule.getD 15 0) % word
      expand more (next :: schedule)

def round (chain : Chain) (constant message : Nat) : Chain :=
  let first := (chain.h + bigSigma1 chain.e + choose chain.e chain.f chain.g + constant +
    message) % word
  let second := (bigSigma0 chain.a + majority chain.a chain.b chain.c) % word
  { a := (first + second) % word
    b := chain.a
    c := chain.b
    d := chain.c
    e := (chain.d + first) % word
    f := chain.e
    g := chain.f
    h := chain.g }

def rounds : Chain → List Nat → List Nat → Chain
  | chain, constant :: constants, message :: schedule =>
      rounds (round chain constant message) constants schedule
  | chain, _, _ => chain

/-- One block of sixteen words. -/
def compress (chain : Chain) (block : List Nat) : Chain :=
  let result := rounds chain constants (expand 48 block.reverse).reverse
  { a := (chain.a + result.a) % word
    b := (chain.b + result.b) % word
    c := (chain.c + result.c) % word
    d := (chain.d + result.d) % word
    e := (chain.e + result.e) % word
    f := (chain.f + result.f) % word
    g := (chain.g + result.g) % word
    h := (chain.h + result.h) % word }

/-- Bytes as big-endian words. -/
def words : Bytes → List Nat
  | a :: b :: c :: d :: rest =>
      (a.toNat * 0x1000000 + b.toNat * 0x10000 + c.toNat * 0x100 + d.toNat) :: words rest
  | _ => []

/-- The message with its end marked and its length in bits. -/
def pad (message : Bytes) : Bytes :=
  message ++ 0x80 :: List.replicate ((119 - message.length % 64) % 64) 0 ++
    bigEndian 8 (8 * message.length)

def blocks : Nat → Chain → List Nat → Chain
  | 0, chain, _ => chain
  | more + 1, chain, message =>
      blocks more (compress chain (message.take 16)) (message.drop 16)

def Chain.bytes (chain : Chain) : Bytes :=
  [chain.a, chain.b, chain.c, chain.d, chain.e, chain.f, chain.g, chain.h].flatMap (bigEndian 4)

end Sha256

open Sha256

/-- The digest of a message. -/
def sha256 (message : Bytes) : Bytes :=
  let padded := words (pad message)
  (blocks (padded.length / 16) start padded).bytes

/-- Its spelling. -/
def sha256Hex (message : Bytes) : Bytes := hexEncode (sha256 message)

theorem sha256_length (message : Bytes) : (sha256 message).length = 32 := by
  simp only [sha256, Chain.bytes, List.flatMap_cons, List.flatMap_nil, List.length_append,
    bigEndian_length, List.length_nil]

theorem sha256Hex_canonical (message : Bytes) :
    exactly 64 isLowerHex (sha256Hex message) = true := by
  rw [exactly, sha256Hex, hexEncode_lower, hexEncode_length, sha256_length]
  rfl

example : sha256Hex (text "abc") =
    text "ba7816bf8f01cfea414140de5dae2223b00361a396177a9cb410ff61f20015ad" := by
  decide

end YourCloud.Foundation
