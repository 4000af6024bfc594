import Sitemap.Proofs.Except
import Sitemap.Source.LiteralValue

/-!
# Where the evaluation of a literal overflows

* `IsTooLarge` : an integer that no finite number is near to;
* `Expr.Overflows` : the evaluation of an expression comes to a sum or a difference of such an
  integer and an imaginary number;
* `Expr.literal_eq_tooLarge_iff` : this is the one way in which evaluation fails other than by the
  expression being no literal.
-/

namespace Sitemap.Source

/-- An integer that no finite number is near to. -/
def IsTooLarge (n : Int) : Prop := ∃ negative, Binary64.ofInt n = .infinite negative

instance (n : Int) : Decidable (IsTooLarge n) :=
  decidable_of_iff ((Binary64.ofInt n = .infinite false) ∨ (Binary64.ofInt n = .infinite true)) (by
    simp [IsTooLarge])

theorem floatOfInt_eq_error {n : Int} {fault : Value.Fault} :
    Value.floatOfInt n = .error fault ↔ fault = .tooLarge ∧ IsTooLarge n := by
  unfold Value.floatOfInt IsTooLarge
  generalize Binary64.ofInt n = x
  cases x with
  | infinite negative => simp [Value.ofRounded, eq_comm]
  | nan => simp [Value.ofRounded]
  | finite s m q h => simp [Value.ofRounded]

/-! ## Displays -/

theorem literals_eq_mapM (es : List Expr) : Expr.literals es = es.mapM Expr.literal := by
  induction es with
  | nil => rfl
  | cons e rest ih => rw [Expr.literals, List.mapM_cons, ih]

def addLiteral (members : List Value) (e : Expr) : Except LiteralFault (List Value) := do
  addMember members (← e.literal)

theorem setLiteral_eq_foldlM (es : List Expr) : ∀ members : List Value,
    Expr.setLiteral members es = es.foldlM addLiteral members := by
  induction es with
  | nil => exact fun members => rfl
  | cons e rest ih =>
    intro members
    simp only [Expr.setLiteral, List.foldlM_cons, addLiteral, bind_assoc, ih]

/-- Entries with those of one more item. -/
def addItem (entries : List (Value × Value)) : DictItem → Except LiteralFault (List (Value × Value))
  | .pair key value => do
    let k ← key.literal
    let v ← value.literal
    if k.unhashable?.isSome then .error .notLiteral
    else .ok (Value.insertEntry k v entries)
  | .spread _ => .error .notLiteral

theorem dictLiteral_eq_foldlM (items : List DictItem) : ∀ entries : List (Value × Value),
    Expr.dictLiteral entries items = items.foldlM addItem entries := by
  induction items with
  | nil => exact fun entries => rfl
  | cons item rest ih =>
    intro entries
    cases item with
    | spread value => rfl
    | pair key value =>
      simp only [Expr.dictLiteral, List.foldlM_cons, addItem, bind_assoc, ih]
      refine bind_congr fun k => bind_congr fun v => ?_
      split
      · rfl
      · rfl

/-- Adding a member does not overflow; its evaluation may. -/
theorem addLiteral_eq_tooLarge {members : List Value} {e : Expr} :
    addLiteral members e = .error .tooLarge ↔ e.literal = .error .tooLarge := by
  rw [addLiteral, bind_eq_error]
  refine or_iff_left ?_
  rintro ⟨v, -, h⟩
  unfold addMember at h
  split at h
  · cases h
  · cases h

/-- A pair overflows in its key, or in the value behind a key that does not. -/
theorem addItem_eq_tooLarge {entries : List (Value × Value)} {item : DictItem} :
    addItem entries item = .error .tooLarge ↔ ∃ key value, item = .pair key value ∧
      (key.literal = .error .tooLarge ∨
        ∃ k, key.literal = .ok k ∧ value.literal = .error .tooLarge) := by
  cases item with
  | spread value => simp [addItem]
  | pair key value =>
    have hadd : ∀ k v : Value, (if k.unhashable?.isSome then Except.error LiteralFault.notLiteral
        else .ok (Value.insertEntry k v entries)) ≠ .error .tooLarge := by
      intro k v
      split
      · exact nofun
      · exact nofun
    simp only [addItem, bind_eq_error, hadd, and_false, exists_false, or_false]
    constructor
    · exact fun h => ⟨key, value, rfl, h⟩
    · rintro ⟨_, _, heq, h⟩
      cases heq
      exact h

/-! ## One step -/

/-- A sum or a difference fails if the integer in it is too large. -/
theorem complexLiteral_eq_tooLarge {minus : Bool} {left right : Expr} :
    complexLiteral minus left right = .error .tooLarge ↔
      ∃ n re im, left.signedNumber? = some (.int n) ∧ IsTooLarge n ∧
        right.number? = some (.complex re im) := by
  unfold complexLiteral
  constructor
  · intro h
    split at h
    · rename_i a re im hleft hright
      split at h
      · rename_i real hreal
        cases a with
        | int n =>
          refine ⟨n, re, im, hleft, ?_, hright⟩
          cases hfloat : Value.floatOfInt n with
          | error fault => exact (floatOfInt_eq_error.1 hfloat).2
          | ok x =>
            obtain rfl : .ok x = real := by simpa [Number.real?, hfloat, mapError_ok] using hreal
            cases minus <;> cases h
        | float x =>
          obtain rfl : .ok x = real := by simpa [Number.real?] using hreal
          cases minus <;> cases h
        | complex _ _ => cases hreal
      · cases h
    · cases h
  · rintro ⟨n, re, im, hleft, hlarge, hright⟩
    have hfloat : Value.floatOfInt n = .error .tooLarge := floatOfInt_eq_error.2 ⟨rfl, hlarge⟩
    simp only [hleft, hright, Number.real?, hfloat, mapError_error]
    rfl

/-! ## Overflow -/

/-- The evaluation of an expression comes to an integer too large beside an imaginary number. What
stands before it in a display has been evaluated. -/
inductive Expr.Overflows : Expr → Prop where
  | sum {left right : Expr} {op : BinaryOp} {n : Int} {re im : Binary64}
      (hop : op = .add ∨ op = .sub) (hleft : left.signedNumber? = some (.int n))
      (hlarge : IsTooLarge n) (hright : right.number? = some (.complex re im)) : Overflows (.binary left op right)
  | tuple {before after : List Expr} {e : Expr} {vs : List Value}
      (hbefore : before.mapM Expr.literal = .ok vs) (h : Overflows e) :
      Overflows (.tuple (before ++ e :: after))
  | list {before after : List Expr} {e : Expr} {vs : List Value}
      (hbefore : before.mapM Expr.literal = .ok vs) (h : Overflows e) :
      Overflows (.list (before ++ e :: after))
  | set {before after : List Expr} {e : Expr} {members : List Value}
      (hbefore : before.foldlM addLiteral [] = .ok members) (h : Overflows e) :
      Overflows (.set (before ++ e :: after))
  | key {before after : List DictItem} {key value : Expr} {entries : List (Value × Value)}
      (hbefore : before.foldlM addItem [] = .ok entries) (h : Overflows key) :
      Overflows (.dict (before ++ .pair key value :: after))
  | value {before after : List DictItem} {key value : Expr} {entries : List (Value × Value)}
      {k : Value} (hbefore : before.foldlM addItem [] = .ok entries) (hkey : key.literal = .ok k)
      (h : Overflows value) : Overflows (.dict (before ++ .pair key value :: after))

/-- What is neither a display, a sum nor a difference does not overflow. -/
theorem literal_ne_tooLarge {e : Expr} (htuple : ∀ items, e ≠ .tuple items)
    (hlist : ∀ items, e ≠ .list items) (hset : ∀ items, e ≠ .set items)
    (hdict : ∀ items, e ≠ .dict items) (hbinary : ∀ left op right, e ≠ .binary left op right) :
    e.literal ≠ .error .tooLarge := by
  unfold Expr.literal
  split
  · exact nofun
  · exact (htuple _ rfl).elim
  · exact (hlist _ rfl).elim
  · exact (hset _ rfl).elim
  · exact (hdict _ rfl).elim
  · exact nofun
  · exact (hbinary _ _ _ rfl).elim
  · exact (hbinary _ _ _ rfl).elim
  · split
    · exact nofun
    · exact nofun

theorem literal_binary_eq_tooLarge {left right : Expr} {op : BinaryOp} :
    (Expr.binary left op right).literal = .error .tooLarge ↔ (op = .add ∨ op = .sub) ∧
      ∃ n re im, left.signedNumber? = some (.int n) ∧ IsTooLarge n ∧
        right.number? = some (.complex re im) := by
  cases op with
  | add => simp [Expr.literal, complexLiteral_eq_tooLarge]
  | sub => simp [Expr.literal, complexLiteral_eq_tooLarge]
  | _ => simp [Expr.literal, Expr.signedNumber?, Expr.number?]

theorem literal_tuple_eq_tooLarge {items : List Expr} :
    (Expr.tuple items).literal = .error .tooLarge ↔ items.mapM Expr.literal = .error .tooLarge := by
  simp [Expr.literal, literals_eq_mapM]

theorem literal_list_eq_tooLarge {items : List Expr} :
    (Expr.list items).literal = .error .tooLarge ↔ items.mapM Expr.literal = .error .tooLarge := by
  simp [Expr.literal, literals_eq_mapM]

theorem literal_set_eq_tooLarge {items : List Expr} :
    (Expr.set items).literal = .error .tooLarge ↔
      items.foldlM addLiteral [] = .error .tooLarge := by
  simp [Expr.literal, setLiteral_eq_foldlM]

theorem literal_dict_eq_tooLarge {items : List DictItem} :
    (Expr.dict items).literal = .error .tooLarge ↔ items.foldlM addItem [] = .error .tooLarge := by
  simp [Expr.literal, dictLiteral_eq_foldlM]

/-- An expression that overflows fails to be evaluated. -/
theorem Expr.Overflows.literal {e : Expr} (h : e.Overflows) : e.literal = .error .tooLarge := by
  induction h with
  | sum hop hleft hlarge hright =>
    exact literal_binary_eq_tooLarge.2 ⟨hop, _, _, _, hleft, hlarge, hright⟩
  | tuple hbefore _ ih =>
    exact literal_tuple_eq_tooLarge.2 (mapM_eq_error.2 ⟨_, _, _, _, rfl, hbefore, ih⟩)
  | list hbefore _ ih =>
    exact literal_list_eq_tooLarge.2 (mapM_eq_error.2 ⟨_, _, _, _, rfl, hbefore, ih⟩)
  | set hbefore _ ih =>
    exact literal_set_eq_tooLarge.2
      (foldlM_eq_error.2 ⟨_, _, _, _, rfl, hbefore, addLiteral_eq_tooLarge.2 ih⟩)
  | key hbefore _ ih =>
    exact literal_dict_eq_tooLarge.2
      (foldlM_eq_error.2 ⟨_, _, _, _, rfl, hbefore, addItem_eq_tooLarge.2 ⟨_, _, rfl, .inl ih⟩⟩)
  | value hbefore hkey _ ih =>
    exact literal_dict_eq_tooLarge.2 (foldlM_eq_error.2
      ⟨_, _, _, _, rfl, hbefore, addItem_eq_tooLarge.2 ⟨_, _, rfl, .inr ⟨_, hkey, ih⟩⟩⟩)

theorem sizeOf_lt_append {α : Type} [SizeOf α] (before after : List α) (x : α) :
    sizeOf x < sizeOf (before ++ x :: after) :=
  List.sizeOf_lt_of_mem (by simp)

/-- An expression whose evaluation fails for the size of an integer overflows. The recursion is on
the size of the expression: the part that overflows is smaller. -/
theorem Expr.overflows_of_literal (e : Expr) (h : e.literal = .error .tooLarge) : e.Overflows := by
  cases e with
  | binary left op right =>
    obtain ⟨hop, n, re, im, hleft, hlarge, hright⟩ := literal_binary_eq_tooLarge.1 h
    exact .sum hop hleft hlarge hright
  | tuple items =>
    obtain ⟨before, e, after, vs, rfl, hbefore, he⟩ :=
      mapM_eq_error.1 (literal_tuple_eq_tooLarge.1 h)
    have hsize := sizeOf_lt_append before after e
    exact .tuple hbefore (overflows_of_literal e he)
  | list items =>
    obtain ⟨before, e, after, vs, rfl, hbefore, he⟩ :=
      mapM_eq_error.1 (literal_list_eq_tooLarge.1 h)
    have hsize := sizeOf_lt_append before after e
    exact .list hbefore (overflows_of_literal e he)
  | set items =>
    obtain ⟨before, e, after, vs, rfl, hbefore, he⟩ :=
      foldlM_eq_error.1 (literal_set_eq_tooLarge.1 h)
    have hsize := sizeOf_lt_append before after e
    exact .set hbefore (overflows_of_literal e (addLiteral_eq_tooLarge.1 he))
  | dict items =>
    obtain ⟨before, item, after, vs, rfl, hbefore, hitem⟩ :=
      foldlM_eq_error.1 (literal_dict_eq_tooLarge.1 h)
    obtain ⟨key, value, rfl, hkey | ⟨k, hkey, hvalue⟩⟩ := addItem_eq_tooLarge.1 hitem
    all_goals have hsize := sizeOf_lt_append before after (.pair key value)
    · exact .key hbefore (overflows_of_literal key hkey)
    · exact .value hbefore hkey (overflows_of_literal value hvalue)
  | _ =>
    refine (literal_ne_tooLarge ?_ ?_ ?_ ?_ ?_ h).elim
    all_goals exact nofun
termination_by sizeOf e
decreasing_by
  all_goals subst_vars
  all_goals simp only [Expr.tuple.sizeOf_spec, Expr.list.sizeOf_spec, Expr.set.sizeOf_spec,
    Expr.dict.sizeOf_spec, DictItem.pair.sizeOf_spec] at hsize ⊢
  all_goals omega

theorem Expr.literal_eq_tooLarge_iff {e : Expr} : e.literal = .error .tooLarge ↔ e.Overflows :=
  ⟨e.overflows_of_literal, Overflows.literal⟩

end Sitemap.Source
