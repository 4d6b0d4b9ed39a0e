/-! The 64-bit digest XXH64 of a list of bytes. -/

namespace DynValue.Digest

/-- The first multiplier. -/
def prime1 : UInt64 := 0x9E3779B185EBCA87

/-- The second multiplier. -/
def prime2 : UInt64 := 0xC2B2AE3D27D4EB4F

/-- The third multiplier. -/
def prime3 : UInt64 := 0x165667B19E3779F9

/-- The fourth multiplier. -/
def prime4 : UInt64 := 0x85EBCA77C2B2AE63

/-- The fifth multiplier. -/
def prime5 : UInt64 := 0x27D4EB2F165667C5

/-- The bits moved up by a number of places, those that leave at the top coming in at the bottom. -/
def rotate (x : UInt64) (places : UInt64) : UInt64 :=
  (x <<< places) ||| (x >>> (64 - places))

/-- The number that bytes spell, the least significant byte first. -/
def littleEndian (bytes : List UInt8) : UInt64 :=
  bytes.foldr (fun byte rest => byte.toUInt64 + rest * 256) 0

/-- A lane after one more word. -/
def round (lane word : UInt64) : UInt64 :=
  rotate (lane + word * prime2) 31 * prime1

/-- A digest after one more lane. -/
def merge (digest lane : UInt64) : UInt64 :=
  (digest ^^^ round 0 lane) * prime1 + prime4

/-- The four lanes of the digest of long inputs. -/
structure Lanes where
  /-- The first lane. -/
  a : UInt64
  /-- The second lane. -/
  b : UInt64
  /-- The third lane. -/
  c : UInt64
  /-- The fourth lane. -/
  d : UInt64

namespace Lanes

/-- The lanes before any input. -/
def start (seed : UInt64) : Lanes :=
  ⟨seed + prime1 + prime2, seed + prime2, seed, seed - prime1⟩

/-- The lanes after one more stripe of 32 bytes. -/
def stripe (lanes : Lanes) (bytes : List UInt8) : Lanes :=
  let word (i : Nat) := littleEndian ((bytes.drop (8 * i)).take 8)
  ⟨round lanes.a (word 0), round lanes.b (word 1), round lanes.c (word 2), round lanes.d (word 3)⟩

/-- The lanes after all whole stripes. -/
def absorb (lanes : Lanes) (bytes : List UInt8) : Lanes :=
  -- A last byte of the stripe is there exactly when the stripe is whole.
  match found : bytes.drop 31 with
  | [] => lanes
  | _ :: rest =>
    have := congrArg List.length found
    absorb (lanes.stripe bytes) rest
termination_by bytes.length
decreasing_by simp only [List.length_drop, List.length_cons] at this; omega

/-- The digest that the lanes add up to. -/
def sum (lanes : Lanes) : UInt64 :=
  let mixed := rotate lanes.a 1 + rotate lanes.b 7 + rotate lanes.c 12 + rotate lanes.d 18
  merge (merge (merge (merge mixed lanes.a) lanes.b) lanes.c) lanes.d

end Lanes

/-- The digest after single bytes. -/
def absorbBytes (digest : UInt64) (bytes : List UInt8) : UInt64 :=
  bytes.foldl (fun digest byte => rotate (digest ^^^ byte.toUInt64 * prime5) 11 * prime1) digest

/-- The digest after at most one group of four bytes and single bytes. -/
def absorbHalf (digest : UInt64) (bytes : List UInt8) : UInt64 :=
  if bytes.length < 4 then absorbBytes digest bytes
  else
    absorbBytes (rotate (digest ^^^ littleEndian (bytes.take 4) * prime1) 23 * prime2 + prime3)
      (bytes.drop 4)

/-- The digest after the bytes that do not fill a stripe. -/
def absorbTail (digest : UInt64) (bytes : List UInt8) : UInt64 :=
  if bytes.length < 8 then absorbHalf digest bytes
  else
    absorbTail (rotate (digest ^^^ round 0 (littleEndian (bytes.take 8))) 27 * prime1 + prime4)
      (bytes.drop 8)
termination_by bytes.length
decreasing_by simp only [List.length_drop]; omega

/-- The digest with its bits spread over the whole word. -/
def avalanche (digest : UInt64) : UInt64 :=
  let first := (digest ^^^ (digest >>> 33)) * prime2
  let second := (first ^^^ (first >>> 29)) * prime3
  second ^^^ (second >>> 32)

/-- The digest of bytes under a seed. -/
def xxh64 (seed : UInt64) (bytes : List UInt8) : UInt64 :=
  let start :=
    -- Inputs that fill no stripe start from the seed alone.
    if bytes.length < 32 then seed + prime5 else ((Lanes.start seed).absorb bytes).sum
  let tail := bytes.drop (bytes.length / 32 * 32)
  avalanche (absorbTail (start + bytes.length.toUInt64) tail)

end DynValue.Digest
