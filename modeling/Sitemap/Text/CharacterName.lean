import Sitemap.Text.CharSet
import Sitemap.Text.CharacterName.Table

/-!
# Names of characters

* `NameSearch` : a search for a name in a table of names, character by character;
* `codedName?` : the number of a character whose name ends in that number;
* `syllable?` : the number of a syllable of Hangul, whose name is made of those of its parts;
* `ideograph?` : the number of a unified ideograph;
* `namedChar?` : the character with a given name. Letters may be small, but for syllables and
  unified ideographs.
-/

namespace Sitemap

/-! ## Tables -/

/-- A search in a table: the words of the name, the number of the next name, the words of the last
name, the characters of the current item from the last to the first, and the number found. -/
structure NameSearch where
  query : List (List Char)
  next : Nat := 0
  words : List (List Char) := []
  item : List Char := []
  found? : Option Nat := none

namespace NameSearch

/-- Takes a complete item into account. -/
def finishItem (s : NameSearch) : NameSearch :=
  match s.item.reverse with
  | [] => s
  | '=' :: digits => { s with item := [], next := hexNumber digits }
  | digit :: rest =>
    let words := s.words.take (digit.toNat - '0'.toNat) ++ splitChars ' ' rest
    let found? := if s.found?.isNone && words == s.query then some s.next else s.found?
    { s with item := [], next := s.next + 1, words, found? }

def step (s : NameSearch) (c : Char) : NameSearch :=
  if c = '|' ∨ c = '\n' then s.finishItem else { s with item := c :: s.item }

def search (table : String) (name : List Char) : Option Nat :=
  (table.toList.foldl step { query := splitChars ' ' name }).finishItem.found?

end NameSearch

/-! ## Names that follow from the number -/

def after? (start name : List Char) : Option (List Char) :=
  if start.isPrefixOf name then some (name.drop start.length) else none

/-- A hexadecimal digit without small letters. -/
def isCapitalHexDigit (c : Char) : Bool := c.isDigit || ('A' ≤ c && c ≤ 'F')

/-- The value of hexadecimal digits without small letters. -/
def capitalHexNumber? (cs : List Char) : Option Nat :=
  if cs.all isCapitalHexDigit then some (hexNumber (cs.map Char.toLower)) else none

/-- Names that end in the number of the character, with the numbers in question. -/
def codedNames : List (String × CharSet) :=
  [("CJK COMPATIBILITY IDEOGRAPH-", .ofText "f900-fa6d fa70-fad9 2f800-2fa1d"),
    ("KHITAN SMALL SCRIPT CHARACTER-", .ofText "18b00-18cd5"),
    ("NUSHU CHARACTER-", .ofText "1b170-1b2fb")]

/-- The number of a character whose name ends in it. -/
def codedName? (name : List Char) : Option Nat :=
  codedNames.findSome? fun (start, codes) => do
    let digits ← after? start.toList name
    let n ← capitalHexNumber? digits
    if codes.containsNat n ∧ Nat.toDigits 16 n = digits.map Char.toLower then some n else none

/-- The first, second and third parts of syllables. -/
def syllableParts : List (List String) :=
  [["G", "GG", "N", "D", "DD", "R", "M", "B", "BB", "S", "SS", "", "J", "JJ", "C", "K", "T", "P",
      "H"],
    ["A", "AE", "YA", "YAE", "EO", "E", "YEO", "YE", "O", "WA", "WAE", "OE", "YO", "U", "WEO", "WE",
      "WI", "YU", "EU", "YI", "I"],
    ["", "G", "GG", "GS", "N", "NJ", "NH", "D", "L", "LG", "LM", "LB", "LS", "LT", "LP", "LH", "M",
      "B", "BS", "S", "SS", "NG", "J", "C", "K", "T", "P", "H"]]

/-- The longest of some parts that a name begins with: its place, and what follows it. -/
def longestPart? (parts : List String) (name : List Char) : Option (Nat × List Char) :=
  let found := parts.zipIdx.filterMap fun (part, i) =>
    (after? part.toList name).map fun rest => (i, rest)
  found.foldl (fun best (i, rest) =>
    match best with
    | some (j, shortest) => if rest.length < shortest.length then some (i, rest) else some (j, shortest)
    | none => some (i, rest)) none

/-- The number of the syllable whose parts have the given names one after the other. -/
def syllable? (name : List Char) : Option Nat := do
  let (n, rest) ← syllableParts.foldlM (fun (n, name) parts => do
    let (i, rest) ← longestPart? parts name
    return (n * parts.length + i, rest)) (0, name)
  if rest.isEmpty then some (0xac00 + n) else none

def unifiedIdeographs : CharSet := .ofText
  "3400-4dbf 4e00-9fff 20000-2a6df 2a700-2b738 2b740-2b81d 2b820-2cea1 2ceb0-2ebe0 30000-3134a"

/-- The number of the unified ideograph whose number is given by four or five digits. -/
def ideograph? (digits : List Char) : Option Nat := do
  let n ← capitalHexNumber? digits
  if (digits.length = 4 ∨ digits.length = 5) ∧ unifiedIdeographs.containsNat n then some n else none

/-! ## Names -/

/-- The number of the character with a given name. -/
def namedCode? (name : List Char) : Option Nat :=
  match after? "HANGUL SYLLABLE ".toList name, after? "CJK UNIFIED IDEOGRAPH-".toList name with
  | some parts, _ => syllable? parts
  | _, some digits => ideograph? digits
  | none, none =>
    let name := name.map Char.toUpper
    ((codedName? name).or (NameSearch.search characterNames name)).or
      (NameSearch.search characterAliases name)

def namedChar? (name : List Char) : Option Char := (namedCode? name).map Char.ofNat

end Sitemap
