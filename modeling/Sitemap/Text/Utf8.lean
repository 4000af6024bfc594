/-!
# UTF-8

* `Utf8.encode` : the bytes of a text;
* `Utf8.step` : reads one character from bytes;
* `Utf8.decode` : the text of bytes, or the place and kind of the first fault;
* `Utf8.decodeLossy` : the text of bytes with each faulty byte replaced.

A fault spans the longest start of a valid sequence, at least one byte.
-/

namespace Sitemap

/-- What is wrong with a byte sequence. -/
inductive Utf8Fault where
  | start
  | continuation
  | truncated
  deriving DecidableEq, Repr

namespace Utf8

/-- The bytes of a character. -/
def encodeChar (c : Char) : List UInt8 :=
  let n := c.toNat
  let tail (shift : Nat) : UInt8 := (0x80 + n / shift % 64).toUInt8
  if n < 0x80 then [n.toUInt8]
  else if n < 0x800 then [(0xc0 + n / 64).toUInt8, tail 1]
  else if n < 0x10000 then [(0xe0 + n / 4096).toUInt8, tail 64, tail 1]
  else [(0xf0 + n / 262144).toUInt8, tail 4096, tail 64, tail 1]

def encode (s : String) : List UInt8 := s.toList.flatMap encodeChar

def isTail (b : UInt8) : Bool := 0x80 ≤ b && b ≤ 0xbf

def tailValue (b : UInt8) : Nat := b.toNat % 64

/-- The range of the second byte after a given first one, which excludes overlong forms,
surrogates and numbers beyond the last character; none if no character starts so. -/
def secondRange? (first : UInt8) : Option (UInt8 × UInt8) :=
  if first < 0xc2 || 0xf4 < first then none
  else if first == 0xe0 then some (0xa0, 0xbf)
  else if first == 0xed then some (0x80, 0x9f)
  else if first == 0xf0 then some (0x90, 0xbf)
  else if first == 0xf4 then some (0x80, 0x8f)
  else some (0x80, 0xbf)

/-- How many bytes follow a first byte. -/
def tailCount (first : UInt8) : Nat :=
  if first < 0xe0 then 1 else if first < 0xf0 then 2 else 3

/-- The bits of a first byte. -/
def headValue (first : UInt8) : Nat :=
  if first < 0xe0 then first.toNat % 32 else if first < 0xf0 then first.toNat % 16
  else first.toNat % 8

/-- Reads the bytes that continue a character: its number and how many bytes were read, or the
count of good bytes before a fault. -/
def readTail : (count value good : Nat) → List UInt8 → Except (Utf8Fault × Nat) (Nat × Nat)
  | 0, value, good, _ => .ok (value, good)
  | _ + 1, _, good, [] => .error (.truncated, good)
  | count + 1, value, good, b :: rest =>
    if isTail b then readTail count (value * 64 + tailValue b) (good + 1) rest
    else .error (.continuation, good)

/-- Reads one character after its first byte: the character and its length in bytes, or the fault
and its length. -/
def step (first : UInt8) (rest : List UInt8) : Except (Utf8Fault × Nat) (Char × Nat) :=
  if first < 0x80 then .ok (Char.ofNat first.toNat, 1)
  else
    match secondRange? first, rest with
    | none, _ => .error (.start, 1)
    | some _, [] => .error (.truncated, 1)
    | some (low, high), b :: rest' =>
      if low ≤ b && b ≤ high then
        match readTail (tailCount first - 1) (headValue first * 64 + tailValue b) 2 rest' with
        | .ok (n, length) => .ok (Char.ofNat n, length)
        | .error fault => .error fault
      else .error (.continuation, 1)

/-- Where decoding failed: the fault, its first byte, its offset and its length. -/
structure Failure where
  fault : Utf8Fault
  offset : Nat
  bytes : List UInt8
  deriving DecidableEq, Repr

/-- Decodes bytes from an offset on; `skip` counts bytes of a character already read. -/
def decodeFrom : (offset skip : Nat) → List UInt8 → Except Failure (List Char)
  | _, _, [] => .ok []
  | offset, skip + 1, _ :: rest => decodeFrom (offset + 1) skip rest
  | offset, 0, b :: rest =>
    match step b rest with
    | .ok (c, length) =>
      match decodeFrom (offset + 1) (length - 1) rest with
      | .ok cs => .ok (c :: cs)
      | .error e => .error e
    | .error (fault, length) => .error ⟨fault, offset, (b :: rest).take length⟩

def decode (bs : List UInt8) : Except Failure String :=
  (decodeFrom 0 0 bs).map String.ofList

/-- The characters of bytes with each faulty sequence replaced. -/
def decodeLossyFrom (replacement : Char) : (skip : Nat) → List UInt8 → List Char
  | _, [] => []
  | skip + 1, _ :: rest => decodeLossyFrom replacement skip rest
  | 0, b :: rest =>
    match step b rest with
    | .ok (c, length) => c :: decodeLossyFrom replacement (length - 1) rest
    | .error (_, length) => replacement :: decodeLossyFrom replacement (length - 1) rest

/-- The text of bytes with each faulty sequence replaced. -/
def decodeLossy (replacement : Char) (bs : List UInt8) : String :=
  String.ofList (decodeLossyFrom replacement 0 bs)

end Utf8

end Sitemap
