import Sitemap.Priority

/-!
# Entries of a sitemap

* `Entry` : one page as the scan finds it;
* `Row` : one page as the document and the generated module take it, an entry or a bare tuple of
  values, whose fields need not fit;
* `Row.fields` : the three fields of a row;
* `Row.Fault` : why a row cannot be written;
* `Frequency.ofValue` : the frequency that a value stands for as a number.
-/

namespace Sitemap

/-- A page: the template of its path, how often it changes and its priority. -/
structure Entry where
  template : String
  frequency : Frequency
  priority : Binary64

/-- A page to be written. -/
inductive Row where
  | entry (template : Value) (frequency : Frequency) (priority : Value)
  | literal (fields : List Value)

namespace Row

/-- Why a row cannot be written, or not be encoded as part of a document. -/
inductive Fault where
  | tooFew (count : Nat)
  | tooMany
  | noPath (k : Value.Kind)
  | noPathOfClass (k : Value.Kind)
  | bytesPath
  | unboundPath
  | notText (k : Value.Kind)
  | value (fault : Value.Fault)
  | unencodable
  deriving DecidableEq

/-- The wording of a fault. -/
def Fault.message : Fault → String
  | tooFew n => "not enough values to unpack (expected 3, got " ++ toString n ++ ")"
  | tooMany => "too many values to unpack (expected 3)"
  | noPath k => "'" ++ k.name ++ "' object has no attribute 'startswith'"
  | noPathOfClass k => "type object '" ++ k.name ++ "' has no attribute 'startswith'"
  | bytesPath => "startswith first arg must be bytes or a tuple of bytes, not str"
  | unboundPath => "startswith() takes at least 1 argument (0 given)"
  | notText k => "can only concatenate str (not \"" ++ k.name ++ "\") to str"
  | value fault => fault.message
  | unencodable => "surrogates not allowed"

def fields : Row → Except Fault (Value × Value × Value)
  | entry template frequency priority => .ok (template, .str frequency.keyword, priority)
  | literal [template, frequency, priority] => .ok (template, frequency, priority)
  | literal fields =>
    if fields.length < 3 then .error (.tooFew fields.length) else .error .tooMany

end Row

/-- A row puts half of a pair into a document, which then cannot be encoded. -/
def Row.isUnpaired (row : Row) : Bool :=
  row.fields.toOption.any fun (template, frequency, _) =>
    template.isUnpaired || frequency.isUnpaired

def Entry.toRow (e : Entry) : Row := .entry (.str e.template) e.frequency (.float e.priority)

/-- The frequency whose number equals a value; what equals none of them means `always`. -/
def Frequency.ofValue (v : Value) : Except Value.Fault Frequency :=
  match v.unhashable? with
  | some k => .error (.unhashable k)
  | none => .ok ((Frequency.all.find? fun f => (Value.frequency f).same v).getD .always)

end Sitemap
