/-!
# Control sequences

* `sequenceLength?` : the length of the control sequence that follows an escape character;
* `stripSequences` : a text without control sequences, as it is written where no terminal is.
-/

namespace Sitemap

def isSequenceParameter (c : Char) : Bool := c.isDigit || c == ';' || c == '?'

/-- The length of the control sequence that follows an escape character: a bracket, parameters and
a letter. -/
def sequenceLength? : List Char → Option Nat
  | '[' :: rest =>
    match rest.dropWhile isSequenceParameter with
    | c :: _ => if c.isAlpha then some ((rest.takeWhile isSequenceParameter).length + 2) else none
    | [] => none
  | _ => none

/-- The characters after some that are skipped, without control sequences. -/
def stripSequencesFrom : (skip : Nat) → List Char → List Char
  | _, [] => []
  | skip + 1, _ :: rest => stripSequencesFrom skip rest
  | 0, c :: rest =>
    if c = '\x1b' then
      match sequenceLength? rest with
      | some n => stripSequencesFrom n rest
      | none => c :: stripSequencesFrom 0 rest
    else c :: stripSequencesFrom 0 rest

/-- A text without control sequences. -/
def stripSequences (s : String) : String := String.ofList (stripSequencesFrom 0 s.toList)

end Sitemap
