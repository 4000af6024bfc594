import Sitemap.Source.Statement
import Sitemap.Text.Encoding

/-!
# The encoding of source files

* `Source.declaredEncoding?` : the encoding that a comment line names;
* `Source.decodeSource?` : the text of a file's bytes, with decoders for the encodings that have no
  table;
* `Source.Input` : a source given as text or as bytes;
* `Source.parseInput?` : the statements of a source.

A file is UTF-8 unless its first or second line is a comment that names another encoding. A mark at
the start of the file only goes with UTF-8. Bytes that are no UTF-8 become a character that a
comment may hold and nothing else.
-/

namespace Sitemap.Source

def byteOf (c : Char) : UInt8 := c.toNat.toUInt8

/-- Every line end as a line feed, and one at the end. -/
def completeByteLines (bs : List UInt8) : List UInt8 :=
  let bs := go bs
  if bs.getLast? = some 10 then bs else bs ++ [10]
where
  go : List UInt8 → List UInt8
    | [] => []
    | 13 :: 10 :: rest => 10 :: go rest
    | b :: rest => (if b = 13 then 10 else b) :: go rest

def isEncodingByte (b : UInt8) : Bool :=
  let c := Char.ofNat b.toNat
  b < 0x80 && (c.isAlphanum || c == '-' || c == '_' || c == '.')

/-- The first name after the word `coding` and a colon or an equals sign. -/
def findEncoding? : List UInt8 → Option String
  | [] => none
  | b :: rest =>
    let word := "coding".toList.map byteOf
    if (b :: rest).take 6 = word ∧
        ((b :: rest)[6]? = some (byteOf ':') ∨ (b :: rest)[6]? = some (byteOf '=')) then
      let name := ((b :: rest).drop 7).dropWhile fun b => b = 32 ∨ b = 9
      match name.takeWhile isEncodingByte with
      | [] => findEncoding? rest
      | name => some (String.ofList (name.map fun b => Char.ofNat b.toNat))
    else findEncoding? rest

def isLineBlank (b : UInt8) : Bool := b == 32 || b == 9 || b == 12

def declaredEncoding? (line : List UInt8) : Option String :=
  match line.dropWhile isLineBlank with
  | b :: rest => if b = byteOf '#' then findEncoding? (b :: rest) else none
  | [] => none

/-- A line that holds nothing but perhaps a comment. -/
def isBareLine (line : List UInt8) : Bool :=
  match line.dropWhile isLineBlank with
  | [] => true
  | b :: _ => b = byteOf '#'

/-- The usual name of an encoding whose name has a known start. -/
def usualEncoding (name : String) : String :=
  let start := (name.toList.take 12).map fun c => if c = '_' then '-' else c.toLower
  let isOrExtends (known : String) : Bool :=
    start = known.toList || (known ++ "-").toList.isPrefixOf start
  if isOrExtends "utf-8" then "utf-8"
  else if isOrExtends "latin-1" || isOrExtends "iso-8859-1" || isOrExtends "iso-latin-1" then
    "iso-8859-1"
  else name

/-- The encoding that the first two lines declare. The second counts if the first is bare. -/
def sourceEncoding? (bs : List UInt8) : Option String :=
  let first := bs.takeWhile (· ≠ 10)
  let second := ((bs.dropWhile (· ≠ 10)).drop 1).takeWhile (· ≠ 10)
  match declaredEncoding? first with
  | some name => some (usualEncoding name)
  | none => if isBareLine first then (declaredEncoding? second).map usualEncoding else none

/-- The text of a file's bytes, with every line ended. A byte of zero is refused. -/
def decodeSource? (decoders : Decoders) (bs : List UInt8) : Option (List Char) := do
  if bs.contains 0 then none
  let (marked, bs) := match completeByteLines bs with
    | 0xef :: 0xbb :: 0xbf :: rest => (true, rest)
    | bs => (false, bs)
  match sourceEncoding? bs with
  | none => return (Utf8.decodeLossy '\x00' bs).toList
  | some name =>
    if name = "utf-8" then return (Utf8.decodeLossy '\x00' bs).toList
    else if marked then none
    else decoders.decode name bs

/-- A source. -/
inductive Input where
  | text (s : String)
  | bytes (decoders : Decoders) (bs : List UInt8)

def parseInput? : Input → Option (List Stmt)
  | .text s => if s.toList.contains '\x00' then none else parseModule? s.toList
  | .bytes decoders bs => do parseLines? (← decodeSource? decoders bs)

end Sitemap.Source
