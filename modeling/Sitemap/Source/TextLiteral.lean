import Sitemap.Source.Token
import Sitemap.Text.CharacterName

/-!
# String literals

* `Source.escape?` : what a backslash and the characters after it stand for;
* `Source.decodeText?` : the units of a literal's body;
* `Source.decodeBytes?` : the bytes of a literal's body;
* `Source.Piece`, `Source.readPieces?` : the parts of a formatted literal: plain text, and fields
  with an expression, a conversion and a format of their own.
-/

namespace Sitemap.Source

/-! ## Escapes -/

/-- The number written by exactly `count` hexadecimal digits. -/
def hexValue? (count : Nat) (cs : List Char) : Option Nat := do
  let ds := cs.take count
  if ds.length < count then none
  ds.foldlM (fun n d => (hexDigit? d).map (n * 16 + ·)) 0

def octalDigits (cs : List Char) : List Char :=
  (cs.take 3).takeWhile fun c => '0' ≤ c && c ≤ '7'

def octalValue (ds : List Char) : Nat := ds.foldl (fun n d => n * 8 + (d.toNat - 48)) 0

def unitOfNumber? (n : Nat) : Option TextUnit :=
  if 0x110000 ≤ n then none
  else if 0xd800 ≤ n ∧ n < 0xe000 then some (.half n)
  else some (.char (Char.ofNat n))

/-- Escapes of one letter. -/
def simpleEscape? (c : Char) : Option (List Char) :=
  match c with
  | '\n' => some []
  | '\\' => some ['\\']
  | '\'' => some ['\'']
  | '"' => some ['"']
  | 'a' => some ['\x07']
  | 'b' => some ['\x08']
  | 'f' => some ['\x0c']
  | 'n' => some ['\n']
  | 'r' => some ['\r']
  | 't' => some ['\t']
  | 'v' => some ['\x0b']
  | _ => none

/-- A character given by its name in braces. -/
def namedEscape? (cs : List Char) : Option (Char × Nat) :=
  match cs with
  | '\x7b' :: rest =>
    match rest.span (· ≠ '\x7d') with
    | (name, _ :: _) => (namedChar? name).map fun c => (c, name.length + 3)
    | _ => none
  | _ => none

/-- What a backslash before these characters stands for, and how many of them belong to it. An
unknown letter keeps its backslash. -/
def escape? (cs : List Char) : Option (List TextUnit × Nat) :=
  match cs with
  | [] => some ([.char '\\'], 0)
  | c :: rest =>
    match simpleEscape? c with
    | some out => some (out.map .char, 1)
    | none =>
      if '0' ≤ c ∧ c ≤ '7' then
        let ds := octalDigits cs
        some ([.char (Char.ofNat (octalValue ds))], ds.length)
      else if c = 'x' then (hexValue? 2 rest).map fun n => ([.char (Char.ofNat n)], 3)
      else if c = 'u' then
        ((hexValue? 4 rest).bind unitOfNumber?).map fun u => ([u], 5)
      else if c = 'U' then
        ((hexValue? 8 rest).bind unitOfNumber?).map fun u => ([u], 9)
      else if c = 'N' then (namedEscape? rest).map fun (c, count) => ([.char c], count)
      else some ([.char '\\', .char c], 1)

/-- The units of a body, after `skip` characters that belong to an escape. -/
def decodeTextFrom? : (skip : Nat) → List Char → Option (List TextUnit)
  | _, [] => some []
  | skip + 1, _ :: rest => decodeTextFrom? skip rest
  | 0, c :: rest =>
    if c = '\\' then do
      let (out, count) ← escape? rest
      return out ++ (← decodeTextFrom? count rest)
    else (decodeTextFrom? 0 rest).map (.char c :: ·)

/-- The units of a body; a raw one stands for itself. -/
def decodeText? (raw : Bool) (body : List Char) : Option (List TextUnit) :=
  if raw then some (body.map .char) else decodeTextFrom? 0 body

/-- What a backslash before these characters stands for among bytes. -/
def byteEscape? (cs : List Char) : Option (List UInt8 × Nat) :=
  match cs with
  | [] => none
  | c :: rest =>
    match simpleEscape? c with
    | some out => some (out.map fun c => c.toNat.toUInt8, 1)
    | none =>
      if '0' ≤ c ∧ c ≤ '7' then
        let ds := octalDigits cs
        some ([(octalValue ds).toUInt8], ds.length)
      else if c = 'x' then (hexValue? 2 rest).map fun n => ([n.toUInt8], 3)
      else some (['\\'.toNat.toUInt8, c.toNat.toUInt8], 1)

/-- The bytes of a body, after `skip` characters that belong to an escape. -/
def decodeBytesFrom? : (skip : Nat) → List Char → Option (List UInt8)
  | _, [] => some []
  | skip + 1, _ :: rest => decodeBytesFrom? skip rest
  | 0, c :: rest =>
    if c = '\\' then do
      let (out, count) ← byteEscape? rest
      return out ++ (← decodeBytesFrom? count rest)
    else (decodeBytesFrom? 0 rest).map (c.toNat.toUInt8 :: ·)

/-- The bytes of a body, which has to be ASCII. -/
def decodeBytes? (raw : Bool) (body : List Char) : Option (List UInt8) :=
  if body.any (fun c => 0x80 ≤ c.val) then none
  else if raw then some (body.map fun c => c.toNat.toUInt8)
  else decodeBytesFrom? 0 body

/-! ## Formatted literals -/

/-- A part of a formatted literal. The text of a field's expression is kept as written; `shown` is
what a field with an equals sign puts before its value. -/
inductive Piece where
  | literal (cs : List Char)
  | field (expression : List Char) (shown : Option (List Char)) (conversion : Option Char)
      (spec : Option (List Piece))

/-- Plain text up to a brace, whether the brace was doubled, and what follows. A doubled brace
stands for itself outside of formats, where a closing brace alone is a fault. `naming` is inside
the braces of a character's name. -/
def readPlain? (raw top : Bool) : (naming : Bool) → List Char →
    Option (List Char × Bool × List Char)
  | _, [] => some ([], false, [])
  | true, c :: rest =>
    (readPlain? raw top (c ≠ '\x7d') rest).map fun (cs, more) => (c :: cs, more)
  | false, c :: rest =>
    if c = '\\' ∧ !raw then
      match rest with
      | [] => some (['\\'], false, [])
      | d :: rest' =>
        if d = 'N' then
          match rest' with
          | '\x7b' :: rest'' =>
            (readPlain? raw top true rest'').map fun (cs, more) => ('\\' :: 'N' :: '\x7b' :: cs, more)
          | _ => none
        else if d = '\x7b' ∨ d = '\x7d' then
          (readPlain? raw top false (d :: rest')).map fun (cs, more) => ('\\' :: cs, more)
        else (readPlain? raw top false rest').map fun (cs, more) => ('\\' :: d :: cs, more)
    else if c = '\x7b' ∨ c = '\x7d' then
      if top then
        if rest.head? = some c then some ([c], true, rest.drop 1)
        else if c = '\x7d' then none
        else some ([], false, c :: rest)
      else some ([], false, c :: rest)
    else (readPlain? raw top false rest).map fun (cs, more) => (c :: cs, more)

/-- The text of a field's expression up to what ends it, and the rest. Strings and brackets are
matched; a backslash or a comment is a fault. The next `copy` characters belong to a mark that was
recognised before, and `quote` is the open string's mark, with whether it is threefold. -/
def readExpressionText? : (copy : Nat) → (quote : Option (Char × Bool)) →
    (brackets : List Char) → List Char → Option (List Char × List Char)
  | _, _, _, [] => none
  | copy + 1, quote, brackets, c :: rest =>
    (readExpressionText? copy quote brackets rest).map fun (cs, more) => (c :: cs, more)
  | 0, quote, brackets, c :: rest =>
    let goOn (copy : Nat) (quote : Option (Char × Bool)) (brackets : List Char) :=
      (readExpressionText? copy quote brackets rest).map fun (cs, more) => (c :: cs, more)
    let threefold := rest.take 2 = [c, c]
    if c = '\\' then none
    else match quote with
      | some (q, triple) =>
        if c ≠ q then goOn 0 quote brackets
        else if !triple then goOn 0 none brackets
        else if threefold then goOn 2 none brackets
        else goOn 0 quote brackets
      | none =>
        if c = '\'' ∨ c = '"' then
          if threefold then goOn 2 (some (c, true)) brackets else goOn 0 (some (c, false)) brackets
        else if c = '#' then none
        else if brackets.isEmpty ∧ ['!', '=', '<', '>'].contains c ∧ rest.head? = some '=' then
          goOn 1 none brackets
        else if brackets.isEmpty ∧ ['!', ':', '\x7d', '='].contains c then some ([], c :: rest)
        else (nest? [c] brackets).bind (goOn 0 none)

def isFieldBlank (c : Char) : Bool := c == ' ' || (9 ≤ c.toNat && c.toNat ≤ 13)

/-- Parts of a formatted literal up to its end or to the brace that ends a format. Formats nest
once: `level` is 0 outside of formats. -/
def readPieces? (raw : Bool) : (fuel level : Nat) → List Char → Option (List Piece × List Char)
  | 0, _, _ => none
  | fuel + 1, level, cs => do
    let (plain, doubled, rest) ← readPlain? raw (level = 0) false cs
    let first : List Piece := if plain.isEmpty then [] else [.literal plain]
    if doubled then
      let (more, rest) ← readPieces? raw fuel level rest
      return (first ++ more, rest)
    match rest with
    | '\x7b' :: rest =>
      if 2 ≤ level then none
      let (expression, rest) ← readExpressionText? 0 none [] rest
      if expression.all (fun c => c = ' ' ∨ c = '\t' ∨ c = '\n' ∨ c = '\x0c') then none
      let (shown, rest) := match rest with
        | '=' :: rest =>
          (some (expression ++ '=' :: rest.takeWhile isFieldBlank), rest.dropWhile isFieldBlank)
        | rest => (none, rest)
      let (conversion, rest) ← match rest with
        | '!' :: c :: rest =>
          if c = 's' ∨ c = 'r' ∨ c = 'a' then some (some c, rest) else none
        | rest => some (none, rest)
      let (spec, rest) ← match rest with
        | ':' :: rest => do
          let (spec, rest) ← readPieces? raw fuel (level + 1) rest
          some (some spec, rest)
        | rest => some (none, rest)
      match rest with
      | '\x7d' :: rest =>
        let conversion := if shown.isSome ∧ spec.isNone ∧ conversion.isNone then some 'r'
          else conversion
        let (more, rest) ← readPieces? raw fuel level rest
        return (first ++ .field expression shown conversion spec :: more, rest)
      | _ => none
    | rest => return (first, rest)

def pieces? (raw : Bool) (body : List Char) : Option (List Piece) := do
  match ← readPieces? raw (body.length + 1) 0 body with
  | (pieces, []) => some pieces
  | _ => none

end Sitemap.Source
