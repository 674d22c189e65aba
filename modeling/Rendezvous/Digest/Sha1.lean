/-!
# The secure hash of 160 bits

`sha1` pads a message to whole blocks of sixty-four bytes, stretches each block to eighty words and
stirs them into five words of state.  A hash has twenty bytes whatever the message (`length_sha1`).
-/

namespace Rendezvous.Digest

/-- The five words that the state consists of. -/
structure State where
  a : UInt32
  b : UInt32
  c : UInt32
  d : UInt32
  e : UInt32
  deriving Repr, DecidableEq

/-- The state before the first block. -/
def State.initial : State :=
  { a := 0x67452301, b := 0xEFCDAB89, c := 0x98BADCFE, d := 0x10325476, e := 0xC3D2E1F0 }

/-- Turn the bits of a word to the left. -/
def rotateLeft (x : UInt32) (n : UInt32) : UInt32 := (x <<< n) ||| (x >>> (32 - n))

/-- The lowest `width` bytes of a number, the highest of them first. -/
def bigEndian : (width : Nat) → (n : Nat) → List UInt8
  | 0, _ => []
  | width + 1, n => bigEndian width (n / 256) ++ [(n % 256).toUInt8]

/-- The word that four bytes make. -/
def wordOf (bytes : List UInt8) : UInt32 :=
  bytes.foldl (fun w b => (w <<< 8) ||| b.toUInt32) 0

/-- A message filled up to whole blocks: a one bit, zeros, and its length in bits. -/
def padded (message : List UInt8) : List UInt8 :=
  let n := message.length
  message ++ 0x80 :: (List.replicate ((119 - n % 64) % 64) 0 ++ bigEndian 8 (8 * n))

/-- Cut a list into pieces of the same length; `fuel` bounds their number. -/
def chunks {α : Type} (size : Nat) : (fuel : Nat) → List α → List (List α)
  | 0, _ => []
  | _ + 1, [] => []
  | fuel + 1, xs => xs.take size :: chunks size fuel (xs.drop size)

/-- Words of a schedule, the latest first, with `n` more derived from the ones before. -/
def extend : (n : Nat) → List UInt32 → List UInt32
  | 0, ws => ws
  | n + 1, ws =>
    let w := (ws.getD 2 0) ^^^ (ws.getD 7 0) ^^^ (ws.getD 13 0) ^^^ (ws.getD 15 0)
    extend n (rotateLeft w 1 :: ws)

/-- The eighty words of a block. -/
def schedule (block : List UInt8) : List UInt32 :=
  (extend 64 ((chunks 4 16 block).map wordOf).reverse).reverse

/-- The mixing function and the constant of a round. -/
def mix (round : Nat) (b c d : UInt32) : UInt32 × UInt32 :=
  if round < 20 then ((b &&& c) ||| ((~~~b) &&& d), 0x5A827999)
  else if round < 40 then (b ^^^ c ^^^ d, 0x6ED9EBA1)
  else if round < 60 then ((b &&& c) ||| (b &&& d) ||| (c &&& d), 0x8F1BBCDC)
  else (b ^^^ c ^^^ d, 0xCA62C1D6)

/-- One round with its word. -/
def State.round (s : State) (w : UInt32 × Nat) : State :=
  let (f, k) := mix w.2 s.b s.c s.d
  { a := rotateLeft s.a 5 + f + s.e + k + w.1, b := s.a, c := rotateLeft s.b 30, d := s.c, e := s.d }

/-- Stir a block into the state. -/
def State.absorb (s : State) (block : List UInt8) : State :=
  let t := (schedule block).zipIdx.foldl State.round s
  { a := s.a + t.a, b := s.b + t.b, c := s.c + t.c, d := s.d + t.d, e := s.e + t.e }

/-- The twenty bytes of the state. -/
def State.bytes (s : State) : List UInt8 :=
  [s.a, s.b, s.c, s.d, s.e].flatMap fun w => bigEndian 4 w.toNat

/-- The hash of a message. -/
def sha1 (message : List UInt8) : List UInt8 :=
  let bytes := padded message
  ((chunks 64 bytes.length bytes).foldl State.absorb .initial).bytes

@[simp] theorem length_bigEndian (width n : Nat) : (bigEndian width n).length = width := by
  induction width generalizing n with
  | zero => rfl
  | succ width ih => simp [bigEndian, ih]

theorem State.length_bytes (s : State) : s.bytes.length = 20 := by simp [bytes]

/-- Whatever the message, its hash has twenty bytes. -/
theorem length_sha1 (message : List UInt8) : (sha1 message).length = 20 := State.length_bytes _

end Rendezvous.Digest
