import Sitemap.Proofs.Declaration.Listing
import Sitemap.Proofs.Source.Evaluation
import Sitemap.Proofs.Source.Writing

/-!
# Which decorators cannot be inspected

* `Resolver.Breaks` : a decorator is named by no dotted name, and what it is cannot be written; or
  one of its arguments overflows where all before have a value;
* `annotation_eq_error_iff` : these are the decorators without an annotation;
* `inspects_iff`, `inspect_succeeds_iff` : a source that can be parsed is inspected without a fault
  just if none of its classes has such a decorator.
-/

namespace Sitemap

open Source

/-- What a decorator is, without its arguments. -/
def Source.Expr.decoratorTarget : Expr → Expr
  | .call function _ _ => function
  | e => e

namespace Resolver
variable {r : Resolver}

/-- A decorator that the inspection fails at. -/
inductive Breaks (r : Resolver) : Expr → Prop where
  | target {d : Expr} (hname : d.decoratorTarget.dottedName? = none)
      (h : ¬ d.decoratorTarget.IsWritable) : r.Breaks d
  | argument {function e : Expr} {positional before after : List Expr} {keywords : List Keyword}
      {written : String} (hname : function.dottedName? = some written)
      (hsplit : positional ++ keywords.map Keyword.part = before ++ e :: after)
      (hbefore : ∀ x ∈ before, ∃ v, r.argument x = .ok (some v)) (h : e.Overflows) :
      r.Breaks (.call function positional keywords)

/-! ## Arguments -/

theorem argument_eq_error {e : Expr} {fault : Inspection.Fault} :
    r.argument e = .error fault ↔ fault = .tooLarge ∧ e.Overflows := by
  rw [← Expr.literal_eq_tooLarge_iff]
  unfold argument
  split
  · simp [Expr.literal, Expr.signedNumber?, Expr.number?]
  · cases hvalue : e.literal with
    | ok v => simp
    | error why =>
      cases why with
      | notLiteral => simp
      | tooLarge => simp [eq_comm]

/-- The arguments are evaluated from the left, up to the first without a value. -/
theorem arguments_eq_error {es : List Expr} {fault : Inspection.Fault} :
    r.arguments es = .error fault ↔ ∃ before e after, es = before ++ e :: after ∧
      (∀ x ∈ before, ∃ v, r.argument x = .ok (some v)) ∧ r.argument e = .error fault := by
  induction es with
  | nil => simp [arguments]
  | cons e rest ih =>
    rw [arguments, bind_eq_error]
    constructor
    · rintro (h | ⟨value, hvalue, h⟩)
      · exact ⟨[], e, rest, rfl, nofun, h⟩
      · cases value with
        | none => cases h
        | some v =>
          rcases bind_eq_error.1 h with h | ⟨values, -, h⟩
          · obtain ⟨before, e', after, rfl, hbefore, h⟩ := ih.1 h
            exact ⟨e :: before, e', after, rfl, List.forall_mem_cons.2 ⟨⟨v, hvalue⟩, hbefore⟩, h⟩
          · cases h
    · rintro ⟨before, e', after, hsplit, hbefore, h⟩
      cases before with
      | nil =>
        obtain ⟨rfl, rfl⟩ := List.cons.inj hsplit
        exact .inl h
      | cons e₀ before =>
        obtain ⟨rfl, rfl⟩ := List.cons.inj hsplit
        obtain ⟨⟨v, hv⟩, hbefore⟩ := List.forall_mem_cons.1 hbefore
        exact .inr ⟨some v, hv, bind_eq_error.2 (.inl (ih.2 ⟨before, e', after, rfl, hbefore, h⟩))⟩

/-! ## Decorators -/

/-- What the annotation of a decorator depends on: what it is, and for a call its arguments. -/
theorem annotation_eq (d : Expr) : r.annotation d = match d.decoratorTarget.dottedName? with
    | none => match d.decoratorTarget.written with
      | .ok text => .ok { written := text, name := none, resolved := false }
      | .error fault => .error (.unwritable fault)
    | some written => match d with
      | .call _ positional keywords => do
        match ← r.arguments (positional ++ keywords.map Keyword.part) with
        | none => return { written, name := r.resolve? written, resolved := false }
        | some values => return {
            written, name := r.resolve? written, args := values.take positional.length,
            kwargs := (keywords.map fun | .mk key _ => key).zip (values.drop positional.length) }
      | _ => .ok { written, name := r.resolve? written } := by
  cases d <;> rfl

/-- A decorator has no annotation just if it breaks. -/
theorem annotation_eq_error_iff {d : Expr} :
    (∃ fault, r.annotation d = .error fault) ↔ r.Breaks d := by
  rw [annotation_eq]
  cases hname : d.decoratorTarget.dottedName? with
  | none =>
    cases hwritten : d.decoratorTarget.written with
    | ok text =>
      have hwritable := (writes_writtenAt false .test _).1 ⟨text, hwritten⟩
      refine iff_of_false nofun fun hbreaks => ?_
      cases hbreaks with
      | target _ h => exact h hwritable
      | argument hname' => cases hname.symm.trans hname'
    | error fault =>
      refine iff_of_true ⟨_, rfl⟩ (.target hname fun hwritable => ?_)
      obtain ⟨text, htext⟩ := (writes_writtenAt false .test _).2 hwritable
      cases hwritten.symm.trans htext
  | some written =>
    have hcall : r.Breaks d ↔ ∃ function positional keywords,
        d = .call function positional keywords ∧
          ∃ fault, r.arguments (positional ++ keywords.map Keyword.part) = .error fault := by
      simp only [arguments_eq_error, argument_eq_error]
      constructor
      · rintro (⟨hname', -⟩ | ⟨-, hsplit, hbefore, h⟩)
        · cases hname.symm.trans hname'
        · exact ⟨_, _, _, rfl, _, _, _, _, hsplit, hbefore, rfl, h⟩
      · rintro ⟨function, positional, keywords, rfl, -, before, e, after, hsplit, hbefore, -, h⟩
        exact .argument hname hsplit hbefore h
    rw [hcall]
    cases d with
    | call function positional keywords =>
      constructor
      · rintro ⟨fault, h⟩
        rcases bind_eq_error.1 h with h | ⟨values, -, h⟩
        · exact ⟨_, _, _, rfl, fault, h⟩
        · cases values with
          | none => cases h
          | some values => cases h
      · rintro ⟨_, _, _, heq, fault, h⟩
        cases heq
        exact ⟨fault, bind_eq_error.2 (.inl h)⟩
    | _ =>
      refine iff_of_false nofun ?_
      rintro ⟨_, _, _, heq, -⟩
      cases heq

/-- A class has no declaration just if one of its decorators breaks. -/
theorem declare_eq_error_iff {scopes : List String} {c : ClassSite} :
    (∃ fault, r.declare scopes c = .error fault) ↔ ∃ d ∈ c.decorators, r.Breaks d := by
  have hlast := bind_ok_error_iff (x := c.decorators.mapM r.annotation) (f := fun annotations =>
    (⟨c.name, ".".intercalate (scopes ++ c.scopes ++ [c.name]), r.moduleName, r.path, c.line,
      annotations⟩ : Declaration))
  refine hlast.trans (mapM_fails_iff.trans ?_)
  simp only [annotation_eq_error_iff]

end Resolver

/-- A source that can be parsed is inspected without a fault just if none of its classes has a
decorator that breaks. -/
theorem inspects_iff {source : Input} {body : List Stmt}
    (hparse : Source.parseInput? source = some body) (moduleName path : String)
    (isPackage : Bool) :
    (∃ ds, inspect source moduleName path isPackage = .ok ds) ↔
      ∀ a c, IsClassAt body a c → ∀ d ∈ c.decorators,
        ¬ (Resolver.ofModule moduleName path isPackage body).Breaks d := by
  rw [inspect_of_parse hparse, exists_ok_iff, mapM_fails_iff]
  simp only [Resolver.declare_eq_error_iff, mem_classesOf_iff]
  constructor
  · exact fun h a c hc d hd hbreaks => h ⟨c, ⟨a, hc⟩, d, hd, hbreaks⟩
  · rintro h ⟨c, ⟨a, hc⟩, d, hd, hbreaks⟩
    exact h a c hc d hd hbreaks

/-- Inspection says of a source that cannot be parsed that it is unreadable, and it finds the
classes of every other one but for those with a decorator that breaks. -/
theorem inspect_succeeds_iff (source : Input) (moduleName path : String) (isPackage : Bool) :
    (Source.parseInput? source = none →
      inspect source moduleName path isPackage = .error (.unreadable path)) ∧
    ∀ body, Source.parseInput? source = some body →
      ((∃ ds, inspect source moduleName path isPackage = .ok ds) ↔
        ∀ a c, IsClassAt body a c → ∀ d ∈ c.decorators,
          ¬ (Resolver.ofModule moduleName path isPackage body).Breaks d) := by
  constructor
  · intro hparse
    rw [inspect, hparse]
  · exact fun body hparse => inspects_iff hparse moduleName path isPackage

theorem toList_append_ofList_append (s t : String) (cs : List Char) :
    (s ++ String.ofList cs ++ t).toList = s.toList ++ cs ++ t.toList := by
  rw [String.toList_append, String.toList_append, String.toList_ofList]

/-- A class whose decorator gets the sum of `2 ^ 1024` and an imaginary number. -/
def overflowingSource : String :=
  "@page(0x1" ++ String.ofList (List.replicate 256 '0') ++ "+1j)\nclass Page: pass\n"

theorem toList_overflowingSource : overflowingSource.toList =
    "@page(0x1".toList ++ List.replicate 256 '0' ++ "+1j)\nclass Page: pass\n".toList := by
  unfold overflowingSource
  exact toList_append_ofList_append _ _ _

theorem fault?_overflowingSource :
    fault? (inspect (.text overflowingSource) "" "<string>" false) = some .tooLarge := by
  -- the text is evaluated as its characters, without its bytes
  rw [inspect, Source.parseInput?, toList_overflowingSource]
  decide +kernel

/-- Inspection neither finds the class nor says that the source is unreadable. -/
theorem inspect_overflowingSource :
    inspect (.text overflowingSource) "" "<string>" false = .error .tooLarge :=
  fault?_eq_some.1 fault?_overflowingSource

/-- The source can be parsed, and the decorator of its class is one that breaks. -/
theorem exists_breaks_overflowingSource : ∃ body,
    Source.parseInput? (.text overflowingSource) = some body ∧ ∃ a c, IsClassAt body a c ∧
      ∃ d ∈ c.decorators, (Resolver.ofModule "" "<string>" false body).Breaks d := by
  have hfault := fault?_eq_some.1 fault?_overflowingSource
  obtain ⟨hnone, hsome⟩ := inspect_succeeds_iff (.text overflowingSource) "" "<string>" false
  cases hparse : Source.parseInput? (.text overflowingSource) with
  | none => cases hfault.symm.trans (hnone hparse)
  | some body =>
    refine ⟨body, rfl, ?_⟩
    by_contra hbreaks
    push Not at hbreaks
    obtain ⟨ds, hds⟩ := (hsome body hparse).2 hbreaks
    cases hfault.symm.trans hds

end Sitemap
