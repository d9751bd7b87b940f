/-!
# SHA-256

The digest of a sequence of octets. The message is closed by one set bit, padded with zeros and
ended by its length in bits, so that it falls into blocks of sixteen words; every block extends to
sixty-four words and drives as many rounds on a state of eight words.
-/

namespace NativeBoundary.Digest.Sha256

def roundConstants : List UInt32 := [
  0x428a2f98, 0x71374491, 0xb5c0fbcf, 0xe9b5dba5, 0x3956c25b, 0x59f111f1, 0x923f82a4, 0xab1c5ed5,
  0xd807aa98, 0x12835b01, 0x243185be, 0x550c7dc3, 0x72be5d74, 0x80deb1fe, 0x9bdc06a7, 0xc19bf174,
  0xe49b69c1, 0xefbe4786, 0x0fc19dc6, 0x240ca1cc, 0x2de92c6f, 0x4a7484aa, 0x5cb0a9dc, 0x76f988da,
  0x983e5152, 0xa831c66d, 0xb00327c8, 0xbf597fc7, 0xc6e00bf3, 0xd5a79147, 0x06ca6351, 0x14292967,
  0x27b70a85, 0x2e1b2138, 0x4d2c6dfc, 0x53380d13, 0x650a7354, 0x766a0abb, 0x81c2c92e, 0x92722c85,
  0xa2bfe8a1, 0xa81a664b, 0xc24b8b70, 0xc76c51a3, 0xd192e819, 0xd6990624, 0xf40e3585, 0x106aa070,
  0x19a4c116, 0x1e376c08, 0x2748774c, 0x34b0bcb5, 0x391c0cb3, 0x4ed8aa4a, 0x5b9cca4f, 0x682e6ff3,
  0x748f82ee, 0x78a5636f, 0x84c87814, 0x8cc70208, 0x90befffa, 0xa4506ceb, 0xbef9a3f7, 0xc67178f2]

structure State where
  a : UInt32
  b : UInt32
  c : UInt32
  d : UInt32
  e : UInt32
  f : UInt32
  g : UInt32
  h : UInt32
  deriving DecidableEq, Repr

def State.initial : State :=
  ⟨0x6a09e667, 0xbb67ae85, 0x3c6ef372, 0xa54ff53a, 0x510e527f, 0x9b05688c, 0x1f83d9ab,
    0x5be0cd19⟩

def State.add (first second : State) : State :=
  ⟨first.a + second.a, first.b + second.b, first.c + second.c, first.d + second.d,
    first.e + second.e, first.f + second.f, first.g + second.g, first.h + second.h⟩

def rotate (word amount : UInt32) : UInt32 :=
  (word >>> amount) ||| (word <<< (32 - amount))

def round (s : State) (constant word : UInt32) : State :=
  let mixed := rotate s.e 6 ^^^ rotate s.e 11 ^^^ rotate s.e 25
  let chosen := (s.e &&& s.f) ^^^ ((~~~s.e) &&& s.g)
  let first := s.h + mixed + chosen + constant + word
  let spread := rotate s.a 2 ^^^ rotate s.a 13 ^^^ rotate s.a 22
  let majority := (s.a &&& s.b) ^^^ (s.a &&& s.c) ^^^ (s.b &&& s.c)
  ⟨first + (spread + majority), s.a, s.b, s.c, s.d + first, s.e, s.f, s.g⟩

/-- Words to come, given the latest sixteen with the newest first. -/
def nextWord (latest : List UInt32) : UInt32 :=
  let two := latest.getD 1 0
  let fifteen := latest.getD 14 0
  latest.getD 15 0 + (rotate fifteen 7 ^^^ rotate fifteen 18 ^^^ (fifteen >>> 3)) +
    latest.getD 6 0 + (rotate two 17 ^^^ rotate two 19 ^^^ (two >>> 10))

def extend : Nat → List UInt32 → List UInt32
  | 0, words => words
  | count + 1, words => extend count (nextWord words :: words)

/-- The sixty-four words of a block of sixteen. -/
def schedule (block : List UInt32) : List UInt32 :=
  (extend 48 block.reverse).reverse

def compress (state : State) (block : List UInt32) : State :=
  state.add ((roundConstants.zip (schedule block)).foldl
    (fun s step => round s step.1 step.2) state)

def octetsOf : Nat → Nat → List UInt8
  | 0, _ => []
  | count + 1, value => octetsOf count (value / 256) ++ [UInt8.ofNat (value % 256)]

def padded (message : List UInt8) : List UInt8 :=
  let zeros := (119 - message.length % 64) % 64
  message ++ 0x80 :: List.replicate zeros 0 ++ octetsOf 8 (8 * message.length)

def wordsOf : List UInt8 → List UInt32
  | a :: b :: c :: d :: rest =>
      ((a.toUInt32 <<< 24) ||| (b.toUInt32 <<< 16) ||| (c.toUInt32 <<< 8) ||| d.toUInt32) ::
        wordsOf rest
  | _ => []

def absorb (state : State) (words : List UInt32) : State :=
  match words with
  | [] => state
  | word :: rest => absorb (compress state ((word :: rest).take 16)) (rest.drop 15)
termination_by words.length
decreasing_by simp only [List.length_drop, List.length_cons]; omega

def digest (message : List UInt8) : State :=
  absorb State.initial (wordsOf (padded message))

/-- The first eight octets of the digest as one number. -/
def leading64 (message : List UInt8) : Nat :=
  let state := digest message
  state.a.toNat * UInt32.size + state.b.toNat

theorem octetsOf_length (count value : Nat) : (octetsOf count value).length = count := by
  induction count generalizing value with
  | zero => rfl
  | succ count ih => simp [octetsOf, ih]

theorem padded_length (message : List UInt8) : (padded message).length % 64 = 0 := by
  simp only [padded, List.length_append, List.length_cons, List.length_replicate,
    octetsOf_length]
  omega

theorem wordsOf_length : (octets : List UInt8) → (wordsOf octets).length = octets.length / 4
  | [] | [_] | [_, _] | [_, _, _] => by simp [wordsOf]
  | _ :: _ :: _ :: _ :: rest => by
      simp only [wordsOf, List.length_cons, wordsOf_length rest]
      omega

/-- A padded message falls into blocks of sixteen words, and no octet of it is left over. -/
theorem wordsOf_padded_length (message : List UInt8) :
    (wordsOf (padded message)).length % 16 = 0 ∧
      4 * (wordsOf (padded message)).length = (padded message).length := by
  have blocks := padded_length message
  rw [wordsOf_length]
  omega

end NativeBoundary.Digest.Sha256
