import Sitemap.Proofs.Except
import Sitemap.Source.Written

/-!
# Which expressions can be written

* `Expr.parts` : the expressions whose texts make up the text of an expression;
* `Expr.HasOwnText` : an expression adds to the texts of its parts what can be written: no integer
  of more than 4300 digits, and no field with a backslash;
* `Expr.IsWritable` : so does every expression in it, from the parts up;
* `writes_writtenAt` : these are the expressions that can be written, in every place.
-/

namespace Sitemap.Source

attribute [local instance (2000)] instPowNat

/-! ## Parts -/

def Keyword.part : Keyword → Expr
  | .mk _ value => value

def DictItem.parts : DictItem → List Expr
  | .pair key value => [key, value]
  | .spread value => [value]

def Clause.parts : Clause → List Expr
  | .mk _ target source conditions => target :: source :: conditions

def Comparison.part : Comparison → Expr
  | .mk _ right => right

def Parameter.parts : Parameter → List Expr
  | .plain _ fallback => fallback.toList
  | _ => []

def Expr.isField : Expr → Bool
  | .formatted _ _ _ => true
  | _ => false

def Expr.isJoined : Expr → Bool
  | .joined _ => true
  | _ => false

/-- The expressions whose texts make up the text of an expression. -/
def Expr.parts : Expr → List Expr
  | .name _ => []
  | .constant _ => []
  | .joined parts => parts.filter isField
  | .formatted value _ spec => value :: spec.toList.filter isJoined
  | .attribute value _ => [value]
  | .subscript value index => [value, index]
  | .slice lower upper step => lower.toList ++ upper.toList ++ step.toList
  | .starred value => [value]
  | .call function arguments keywords => function :: (arguments ++ keywords.map Keyword.part)
  | .boolOp _ operands => operands
  | .named target value => [target, value]
  | .binary left _ right => [left, right]
  | .unary _ operand => [operand]
  | .lambda parameters body => parameters.flatMap Parameter.parts ++ [body]
  | .conditional test body otherwise => [body, test, otherwise]
  | .dict items => items.flatMap DictItem.parts
  | .set items => items
  | .list items => items
  | .tuple items => items
  | .listComp element clauses => element :: clauses.flatMap Clause.parts
  | .setComp element clauses => element :: clauses.flatMap Clause.parts
  | .generator element clauses => element :: clauses.flatMap Clause.parts
  | .dictComp key value clauses => key :: value :: clauses.flatMap Clause.parts
  | .await value => [value]
  | .yield value => value.toList
  | .yieldFrom value => [value]
  | .compare left rest => left :: rest.map Comparison.part

/-! ## What can be written -/

/-- What an expression adds to the texts of its parts can be written: an integer has at most 4300
digits, and no backslash stands in a field. -/
def Expr.HasOwnText : Expr → Prop
  | .constant (.int n) => n < 10 ^ (4300 : Nat)
  | .formatted value _ _ =>
    ∀ text, value.writtenAt true Strength.test.next = .ok text → '\\' ∉ text.toList
  | _ => True

/-- An expression can be written if its parts can and it adds to them what can be written. -/
inductive Expr.IsWritable : Expr → Prop where
  | intro {e : Expr} (own : e.HasOwnText) (parts : ∀ x ∈ e.parts, x.IsWritable) : e.IsWritable

theorem Expr.isWritable_iff {e : Expr} :
    e.IsWritable ↔ e.HasOwnText ∧ ∀ x ∈ e.parts, x.IsWritable :=
  ⟨fun ⟨own, parts⟩ => ⟨own, parts⟩, fun h => .intro h.1 h.2⟩

/-- A text comes out. -/
def Writes {α : Type} (x : Except WrittenFault α) : Prop := ∃ text, x = .ok text

section Writes
variable {α β : Type} {x : Except WrittenFault α} {f : α → Except WrittenFault β}

@[simp] theorem writes_ok (a : α) : Writes (.ok a) := ⟨a, rfl⟩

@[simp] theorem writes_pure (a : α) : Writes (pure a) := ⟨a, rfl⟩

@[simp] theorem writes_map {g : α → β} : Writes (g <$> x) ↔ Writes x := by
  cases x with
  | error e => simp [Writes, Functor.map, Except.map]
  | ok a => simp [Writes, Functor.map, Except.map]

@[simp] theorem exists_eq_ok : (∃ a, x = .ok a) ↔ Writes x := Iff.rfl

@[simp] theorem writes_bind : Writes (x >>= f) ↔ ∃ a, x = .ok a ∧ Writes (f a) := by
  constructor
  · rintro ⟨b, h⟩
    obtain ⟨a, ha, hb⟩ := bind_eq_ok.1 h
    exact ⟨a, ha, b, hb⟩
  · rintro ⟨a, ha, b, hb⟩
    exact ⟨b, bind_eq_ok.2 ⟨a, ha, hb⟩⟩

end Writes

theorem writes_intText (n : Int) :
    Writes ((Value.intText n).mapError .value) ↔ n.natAbs < 10 ^ (4300 : Nat) := by
  unfold Value.intText
  split
  · rename_i h
    simp only [mapError_error, Writes]
    simp only [reduceCtorEq, exists_false, false_iff]
    exact Nat.not_lt.2 h
  · rename_i h
    simp only [mapError_ok, writes_ok, true_iff]
    exact Nat.lt_of_not_le h

theorem writes_fieldHead (text : String) (conversion : Option Char) :
    Writes (fieldHead text conversion) ↔ '\\' ∉ text.toList := by
  unfold fieldHead
  by_cases h : '\\' ∈ text.toList
  · simp [Writes, h]
  · simp [Writes, h]

theorem writes_constant (plain : Bool) (c : Constant) :
    Writes (c.written plain) ↔ (Expr.constant c).HasOwnText := by
  cases c with
  | int n => exact writes_intText n
  | _ => simp [Constant.written, Expr.HasOwnText]

theorem isWritable_tuple {items : List Expr} :
    (Expr.tuple items).IsWritable ↔ ∀ x ∈ items, x.IsWritable := by
  rw [Expr.isWritable_iff]
  exact and_iff_right trivial

theorem isWritable_joined {parts : List Expr} :
    (Expr.joined parts).IsWritable ↔ ∀ x ∈ parts.filter Expr.isField, x.IsWritable := by
  rw [Expr.isWritable_iff]
  exact and_iff_right trivial

/-- A field is written if its value can be written without a backslash, and its format can. What
comes behind it does not matter. -/
theorem writes_field {value : Expr} {conversion : Option Char} {spec : Option Expr}
    (ih : Writes (value.writtenAt true Strength.test.next) ↔ value.IsWritable)
    (ihspec : Writes (Expr.specText spec) ↔ ∀ x ∈ spec.toList.filter Expr.isJoined, x.IsWritable)
    (q : Prop) :
    (∃ text, value.writtenAt true Strength.test.next = .ok text ∧
      Writes (fieldHead text conversion) ∧ Writes (Expr.specText spec) ∧ q) ↔
      (Expr.formatted value conversion spec).IsWritable ∧ q := by
  rw [Expr.isWritable_iff, Expr.parts, List.forall_mem_cons, ← ih, ← ihspec]
  simp only [Expr.HasOwnText, writes_fieldHead]
  constructor
  · rintro ⟨text, htext, hfield, hspec, hq⟩
    refine ⟨⟨fun text' h => ?_, ⟨text, htext⟩, hspec⟩, hq⟩
    obtain rfl : text = text' := by simpa [htext] using h
    exact hfield
  · rintro ⟨⟨hfield, ⟨text, htext⟩, hspec⟩, hq⟩
    exact ⟨text, htext, hfield text htext, hspec, hq⟩

/-- An expression can be written in every place, or in none. The induction is on the writing of an
expression, with what comes out for each kind of list in it. -/
theorem writes_writtenAt (plain : Bool) (place : Strength) (e : Expr) :
    Writes (e.writtenAt plain place) ↔ e.IsWritable := by
  induction plain, place, e using Expr.writtenAt.induct
    (motive_2 := fun plain rest =>
      Writes (Expr.comparisonTexts plain rest) ↔ ∀ x ∈ rest.map Comparison.part, x.IsWritable)
    (motive_3 := fun plain value =>
      Writes (Expr.yieldedText plain value) ↔ ∀ x ∈ value.toList, x.IsWritable)
    (motive_4 := fun plain clauses =>
      Writes (Expr.clauseTexts plain clauses) ↔ ∀ x ∈ clauses.flatMap Clause.parts, x.IsWritable)
    (motive_5 := fun plain place es =>
      Writes (Expr.writtenAll plain place es) ↔ ∀ x ∈ es, x.IsWritable)
    (motive_6 := fun plain items =>
      Writes (Expr.itemTexts plain items) ↔ ∀ x ∈ items.flatMap DictItem.parts, x.IsWritable)
    (motive_7 := fun plain parameters =>
      Writes (Expr.parameterTexts plain parameters) ↔
        ∀ x ∈ parameters.flatMap Parameter.parts, x.IsWritable)
    (motive_8 := fun plain before e =>
      Writes (Expr.optionText plain before e) ↔ ∀ x ∈ e.toList, x.IsWritable)
    (motive_9 := fun plain place es =>
      Writes (Expr.writtenTighter plain place es) ↔ ∀ x ∈ es, x.IsWritable)
    (motive_10 := fun plain keywords =>
      Writes (Expr.keywordTexts plain keywords) ↔
        ∀ x ∈ keywords.map Keyword.part, x.IsWritable)
    (motive_11 := fun spec =>
      Writes (Expr.specText spec) ↔ ∀ x ∈ spec.toList.filter Expr.isJoined, x.IsWritable)
    (motive_12 := fun parts =>
      Writes (Expr.partTexts parts) ↔ ∀ x ∈ parts.filter Expr.isField, x.IsWritable) with
  | case1 plain place id =>
    rw [Expr.isWritable_iff]
    simp [Expr.writtenAt, Expr.HasOwnText, Expr.parts]
  | case2 plain place c =>
    rw [Expr.isWritable_iff]
    simpa [Expr.writtenAt, Expr.parts] using writes_constant plain c
  | case3 plain place parts ih =>
    rw [Expr.isWritable_iff]
    cases plain with
    | false => simpa [Expr.writtenAt, Expr.HasOwnText, Expr.parts] using ih
    | true => simpa [Expr.writtenAt, Expr.HasOwnText, Expr.parts] using ih
  | case4 plain place value conversion spec ih ihspec =>
    simpa [Expr.writtenAt] using writes_field ih ihspec True
  | case6 plain place value first others ih ihs =>
    rw [Expr.isWritable_iff]
    simpa [Expr.writtenAt, Expr.HasOwnText, Expr.parts] using
      and_congr ih (ihs.trans isWritable_tuple.symm)
  -- one part, or one list of parts
  | case5 _ _ _ _ ih | case9 _ _ _ ih | case11 _ _ _ _ _ ih | case14 _ _ _ _ ih
  | case17 _ _ _ ih | case18 _ _ _ ih | case19 _ _ _ ih | case20 _ _ _ ih | case25 _ _ _ ih
  | case26 _ _ _ ih | case27 _ _ _ ih =>
    rw [Expr.isWritable_iff]
    simpa [Expr.writtenAt, Expr.HasOwnText, Expr.parts] using ih
  -- two parts, or a part and a list of parts
  | case7 _ _ _ _ _ ih ihs | case12 _ _ _ _ ih ihs | case13 _ _ _ _ _ _ ih ihs
  | case21 _ _ _ _ ih ihs | case22 _ _ _ _ ih ihs | case23 _ _ _ _ ih ihs
  | case28 _ _ _ _ ih ihs =>
    rw [Expr.isWritable_iff]
    simpa [Expr.writtenAt, Expr.HasOwnText, Expr.parts] using and_congr ih ihs
  | case8 plain place lower upper step ihlower ihupper ihstep =>
    rw [Expr.isWritable_iff]
    simpa [Expr.writtenAt, Expr.HasOwnText, Expr.parts, List.forall_mem_append,
      -List.mem_append] using and_congr ihlower (and_congr ihupper ihstep)
  | case10 plain place function arguments keywords ih ihs ihkeywords =>
    rw [Expr.isWritable_iff]
    simpa [Expr.writtenAt, Expr.HasOwnText, Expr.parts, List.forall_mem_append,
      -List.mem_append] using and_congr ih (and_congr ihs ihkeywords)
  | case15 plain place parameters body ihs ih =>
    rw [Expr.isWritable_iff]
    simpa [Expr.writtenAt, Expr.HasOwnText, Expr.parts, List.forall_mem_append,
      -List.mem_append] using and_congr ihs ih
  | case16 plain place test body otherwise ihbody ihtest ihotherwise =>
    rw [Expr.isWritable_iff]
    simpa [Expr.writtenAt, Expr.HasOwnText, Expr.parts] using
      and_congr ihbody (and_congr ihtest ihotherwise)
  | case24 plain place key value clauses ihkey ih ihs =>
    rw [Expr.isWritable_iff]
    simpa [Expr.writtenAt, Expr.HasOwnText, Expr.parts] using and_congr ihkey (and_congr ih ihs)
  | case29 plain place => simp [Expr.writtenAll]
  | case30 plain place e rest ih ihs => simpa [Expr.writtenAll] using and_congr ih ihs
  | case31 plain place => simp [Expr.writtenTighter]
  | case32 plain place e rest ih ihs => simpa [Expr.writtenTighter] using and_congr ih ihs
  | case33 => simp [Expr.partTexts]
  | case34 _ _ _ ih | case35 _ _ _ ih => simpa [Expr.partTexts, Expr.isField] using ih
  | case36 value conversion spec rest ih ihspec ihs =>
    rw [List.filter_cons_of_pos rfl, List.forall_mem_cons, ← ihs]
    simpa [Expr.partTexts] using writes_field ih ihspec (Writes (Expr.partTexts rest))
  | case37 head rest htext hunpaired hfield ih =>
    have hother : head.isField = false := by
      cases head with
      | formatted value conversion spec => exact (hfield _ _ _ rfl).elim
      | _ => rfl
    rw [List.filter_cons_of_neg (by simp [hother]), Expr.partTexts]
    · exact ih
    · exact htext
    · exact hunpaired
    · exact hfield
  | case38 plain => simp [Expr.yieldedText]
  | case39 plain e ih => simpa [Expr.yieldedText] using ih
  | case40 plain before => simp [Expr.optionText]
  | case41 plain before e ih => simpa [Expr.optionText] using ih
  | case42 parts ih =>
    simpa [Expr.specText, Expr.isJoined] using ih.trans isWritable_joined.symm
  | case43 spec hspec =>
    have hnone : spec.toList.filter Expr.isJoined = [] := by
      cases spec with
      | none => rfl
      | some e =>
        cases e with
        | joined parts => exact (hspec parts rfl).elim
        | _ => rfl
    rw [hnone, Expr.specText]
    · simp
    · exact hspec
  | case44 plain => simp [Expr.keywordTexts]
  | case45 plain key value rest ih ihs =>
    simpa [Expr.keywordTexts, Keyword.part] using and_congr ih ihs
  | case46 plain => simp [Expr.parameterTexts]
  | case47 plain id fallback rest ih ihs =>
    simpa [Expr.parameterTexts, Parameter.parts, List.forall_mem_append, -List.mem_append] using
      and_congr ih ihs
  | case48 _ _ ih | case49 _ _ ih | case50 _ _ _ ih | case51 _ _ _ ih =>
    -- only a plain parameter has a default
    simpa [Expr.parameterTexts, Parameter.parts] using ih
  | case52 plain => simp [Expr.itemTexts]
  | case53 plain key value rest ihkey ih ihs =>
    simpa [Expr.itemTexts, DictItem.parts] using and_congr ihkey (and_congr ih ihs)
  | case54 plain value rest ih ihs =>
    simpa [Expr.itemTexts, DictItem.parts] using and_congr ih ihs
  | case55 plain => simp [Expr.clauseTexts]
  | case56 plain isAsync target source conditions rest ihtarget ih ihconditions ihs =>
    simpa [Expr.clauseTexts, Clause.parts, List.forall_mem_append, -List.mem_append] using
      and_congr ihtarget (and_congr ih (and_congr ihconditions ihs))
  | case57 plain => simp [Expr.comparisonTexts]
  | case58 plain op right rest ih ihs =>
    simpa [Expr.comparisonTexts, Comparison.part] using and_congr ih ihs

end Sitemap.Source
