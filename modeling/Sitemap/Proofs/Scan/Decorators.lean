import Sitemap.Decorator
import Sitemap.Proofs.Except
import Sitemap.Scan

/-!
# What the scan reads is what the decorators leave

A class is read from its source without running it, so the arguments of its decorators are bound a
second time, by the scan, and from the first decorator on, while the decorators themselves are
applied from the last one up.

* `Represents` : the scan's bound arguments are those of the call (`bind_agree` for one keyword,
  `sitemapArguments_agree` for a call);
* `Decorator.asRead` : the annotation that a decorator is read as;
* `ReadMarks` : the first annotation of each kind gives the mark that is left (`readMarks_of_applyAll`);
* `entry?_iff_marks` : the entry of a class is what its marks say.
-/

namespace Sitemap

/-! ## Binding arguments -/

/-- The values that the scan has bound are those that the call has bound. -/
def Represents (s : SitemapArguments) (bound : List (String × Value)) : Prop :=
  bound.lookup "change_freq" = s.frequency ∧ bound.lookup "priority" = s.priority

theorem lookup_append_one (bound : List (String × Value)) (key other : String) (v : Value) :
    (bound ++ [(key, v)]).lookup other =
      (bound.lookup other).or (if other = key then some v else none) := by
  rw [List.lookup_append, List.lookup_cons, List.lookup_nil]
  by_cases h : other = key
  · simp [h]
  · simp [h, beq_eq_false_iff_ne.2 h]

/-- One keyword is bound, or refused, by both. -/
theorem bind_agree (s : SitemapArguments) (bound : List (String × Value)) (arg : String × Value)
    (h : Represents s bound) :
    Agree Represents (s.bind (some arg.1) arg.2) (sitemapSignature.bindKeyword bound arg) := by
  obtain ⟨key, v⟩ := arg
  obtain ⟨hf, hp⟩ := h
  unfold SitemapArguments.bind Signature.bindKeyword
  by_cases h1 : key = "change_freq"
  · subst h1
    cases hs : s.frequency with
    | none =>
      simp only [hf, hs, sitemapSignature]
      refine ⟨?_, ?_⟩
      · rw [lookup_append_one, hf, hs]; rfl
      · rw [lookup_append_one, hp]; simp
    | some w => simp [hf, hs, sitemapSignature, Agree]
  · by_cases h2 : key = "priority"
    · subst h2
      cases hs : s.priority with
      | none =>
        simp only [hp, hs, sitemapSignature]
        refine ⟨?_, ?_⟩
        · rw [lookup_append_one, hf]; simp
        · rw [lookup_append_one, hp, hs]; rfl
      | some w => simp [hp, hs, sitemapSignature, Agree]
    · simp [h1, h2, sitemapSignature, Agree]

/-! ## One decorator -/

def namedKeywords (kwargs : List (String × Value)) : List (Option String × Value) :=
  kwargs.map fun arg => (some arg.1, arg.2)

/-- The annotation that a decorator is read as, under any written name. -/
def Decorator.asRead (written : String) : Decorator → Annotation
  | .route c => { written, name := some routeAnnotation, args := c.args, kwargs := namedKeywords c.kwargs }
  | .sitemap c =>
    { written, name := some sitemapAnnotation, args := c.args, kwargs := namedKeywords c.kwargs }
  | .bareSitemap => { written, name := some sitemapAnnotation }

def Call.IsLiteral (c : Call) : Prop :=
  (∀ v ∈ c.args, v.kindOf ≠ .kind) ∧ ∀ arg ∈ c.kwargs, arg.2.kindOf ≠ .kind

def Decorator.IsLiteral : Decorator → Prop
  | .route c => c.IsLiteral
  | .sitemap c => c.IsLiteral
  | .bareSitemap => True

/-- The same frequency and priority; a frequency left out is a number to the scan and the constant
of that number to the decorator. -/
def SameMetadata (read left : Value × Value) : Prop :=
  read.2 = left.2 ∧ (read.1 = left.1 ∨ read.1 = .int 0 ∧ left.1 = Decorator.defaultFrequency)

/-- A call of the route decorator fits if it gives the template and nothing else. -/
theorem routeSignature_bind (c : Call) (bound : List (String × Value)) :
    routeSignature.bind c = .ok bound ↔ ∃ v, bound = [("template", v)] ∧
      (c.args = [v] ∧ c.kwargs = [] ∨ c.args = [] ∧ c.kwargs = [("template", v)]) := by
  obtain ⟨args, kwargs⟩ := c
  unfold Signature.bind
  match args, kwargs with
  | [], [] => simp [routeSignature, bind, Except.bind, pure, Except.pure]
  | [v], [] =>
    simp [routeSignature, bind, Except.bind, pure, Except.pure, eq_comm]
  | v :: w :: rest, [] => simp [routeSignature, bind, Except.bind, pure, Except.pure]
  | v :: rest, (k, w) :: more =>
    by_cases hk : k = "template" <;>
      simp [routeSignature, Signature.bindKeyword, hk, bind, Except.bind]
  | [], [(k, v)] =>
    by_cases hk : k = "template"
    · simp [routeSignature, Signature.bindKeyword, hk, bind, Except.bind, pure, Except.pure, eq_comm]
    · simp [routeSignature, Signature.bindKeyword, hk, bind, Except.bind]
  | [], (k, v) :: (l, w) :: more =>
    by_cases hk : k = "template"
    · by_cases hl : l = "template" <;>
        simp [routeSignature, Signature.bindKeyword, hk, hl, bind, Except.bind]
    · simp [routeSignature, Signature.bindKeyword, hk, bind, Except.bind]

/-- A call of the route decorator gives a value for the template, and nothing else. -/
def Call.GivesTemplate (c : Call) (v : Value) : Prop :=
  c.args = [v] ∧ c.kwargs = [] ∨ c.args = [] ∧ c.kwargs = [("template", v)]

theorem template_eq_ok (c : Call) (s : String) :
    Decorator.template c = .ok s ↔ ∃ v, c.GivesTemplate v ∧ v.text? = some s := by
  unfold Decorator.template
  rw [bind_eq_ok]
  constructor
  · rintro ⟨bound, hb, hs⟩
    obtain ⟨v, rfl, hv⟩ := (routeSignature_bind c bound).1 hb
    refine ⟨v, hv, ?_⟩
    cases htext : v.text? with
    | none => simp [htext, throw, throwThe, MonadExceptOf.throw] at hs
    | some text => simpa [htext, pure, Except.pure] using hs
  · rintro ⟨v, hv, htext⟩
    refine ⟨[("template", v)], (routeSignature_bind c _).2 ⟨_, rfl, hv⟩, ?_⟩
    simp [htext, pure, Except.pure]

/-- What the scan takes as the argument of a route decorator. -/
theorem asRead_templateValue_eq_ok (written : String) (c : Call) (v : Value) :
    (Decorator.asRead written (.route c)).templateValue = .ok v ↔ c.GivesTemplate v := by
  obtain ⟨args, kwargs⟩ := c
  unfold Annotation.templateValue Call.GivesTemplate
  match args, kwargs with
  | [], [] => simp [Decorator.asRead, Annotation.arity, namedKeywords]
  | [v], [] => simp [Decorator.asRead, Annotation.arity, namedKeywords]
  | v :: w :: rest, kwargs =>
    have harity : rest.length + 1 + 1 + kwargs.length ≠ 1 := by omega
    simp [Decorator.asRead, Annotation.arity, namedKeywords, harity]
  | [v], p :: more => simp [Decorator.asRead, Annotation.arity, namedKeywords]
  | [], [(k, v)] =>
    by_cases hk : k = "template" <;>
      simp [Decorator.asRead, Annotation.arity, namedKeywords, routeParameter, hk]
  | [], p :: q :: more => simp [Decorator.asRead, Annotation.arity, namedKeywords]

theorem asRead_template_eq_ok (written : String) (c : Call) (s : String) :
    (Decorator.asRead written (.route c)).template = .ok s ↔
      ∃ v, c.GivesTemplate v ∧ v.text? = some s := by
  unfold Annotation.template
  rw [bind_eq_ok]
  refine exists_congr fun v => and_congr (asRead_templateValue_eq_ok written c v) ?_
  cases v.text? <;> simp

/-- A route decorator takes exactly the arguments that the scan takes. -/
theorem template_agree (written : String) (c : Call) :
    Agree Eq (Decorator.asRead written (.route c)).template (Decorator.template c) :=
  Agree.of_ok_iff fun s => (asRead_template_eq_ok written c s).trans (template_eq_ok c s).symm

/-! ## The sitemap decorator -/

/-- Keywords are bound, or refused, by both, whatever is bound already. -/
theorem keywords_agree (kwargs : List (String × Value)) (s : SitemapArguments)
    (bound : List (String × Value)) (h : Represents s bound) :
    Agree Represents ((namedKeywords kwargs).foldlM (fun s (key, v) => s.bind key v) s)
      (kwargs.foldlM sitemapSignature.bindKeyword bound) := by
  unfold namedKeywords
  rw [List.foldlM_map]
  exact Agree.foldlM (fun s b arg h => bind_agree s b arg h) kwargs s bound h

theorem represents_positional (args : List Value) :
    Represents ⟨args[0]?, args[1]?⟩ (sitemapSignature.parameters.zip args) := by
  match args with
  | [] => exact ⟨rfl, rfl⟩
  | [v] => exact ⟨rfl, rfl⟩
  | v :: w :: rest => exact ⟨rfl, rfl⟩

/-- Of keyword arguments, only what was given is bound. -/
theorem bindKeyword_values (P : Value → Prop) (kwargs : List (String × Value))
    (hk : ∀ arg ∈ kwargs, P arg.2) (bound bound' : List (String × Value))
    (hb : ∀ arg ∈ bound, P arg.2)
    (h : kwargs.foldlM sitemapSignature.bindKeyword bound = .ok bound') :
    ∀ arg ∈ bound', P arg.2 := by
  refine foldlM_invariant (P := fun bound => ∀ arg ∈ bound, P arg.2) ?_ hb h
  intro arg harg bound next hbound hnext
  obtain ⟨key, v⟩ := arg
  simp only [Signature.bindKeyword] at hnext
  split at hnext
  · cases hnext
  · split at hnext
    · cases hnext
    · injection hnext with hnext
      rw [← hnext, List.forall_mem_append, List.forall_mem_singleton]
      exact ⟨hbound, hk (key, v) harg⟩

theorem sitemapSignature_bind (c : Call) :
    sitemapSignature.bind c =
      (c.kwargs.foldlM sitemapSignature.bindKeyword (sitemapSignature.parameters.zip c.args) >>=
        fun bound => if 2 < c.args.length then .error (.tooMany sitemapSignature c.args.length)
          else .ok bound) := by
  unfold Signature.bind
  congr 1

theorem sitemapSignature_bind_values (P : Value → Prop) (c : Call) (ha : ∀ v ∈ c.args, P v)
    (hk : ∀ arg ∈ c.kwargs, P arg.2) (bound : List (String × Value))
    (h : sitemapSignature.bind c = .ok bound) : ∀ arg ∈ bound, P arg.2 := by
  rw [sitemapSignature_bind, bind_eq_ok] at h
  obtain ⟨all, hall, h⟩ := h
  split at h
  · cases h
  · cases h
    refine bindKeyword_values P c.kwargs hk _ bound ?_ hall
    intro arg harg
    exact ha _ (List.of_mem_zip (a := arg.1) (b := arg.2) harg).2

/-- The arguments of a call as the scan binds them, positional ones being counted first. -/
def Call.scanned (c : Call) : Except Malformed SitemapArguments :=
  if 2 < c.args.length then .error (.sitemapArity (c.args.length + c.kwargs.length))
  else (namedKeywords c.kwargs).foldlM (fun s (key, v) => s.bind key v) ⟨c.args[0]?, c.args[1]?⟩

theorem asRead_sitemapArguments (written : String) (c : Call) :
    (Decorator.asRead written (.sitemap c)).sitemapArguments =
      (c.scanned >>= fun s =>
        .ok (s.frequency.getD (.int 0), s.priority.getD (.float (.ofRatio false 1 2)))) := by
  unfold Annotation.sitemapArguments Call.scanned
  by_cases h : 2 < c.args.length <;>
    simp [Decorator.asRead, Annotation.arity, sitemapParameters, namedKeywords, h] <;> rfl

/-- The scan and the call bind the same values, though the call counts positional arguments last. -/
theorem scanned_agree (c : Call) : Agree Represents c.scanned (sitemapSignature.bind c) := by
  have hkeys := keywords_agree c.kwargs _ _ (represents_positional c.args)
  rw [sitemapSignature_bind]
  unfold Call.scanned
  by_cases h : 2 < c.args.length
  · simp only [if_pos h]
    cases c.kwargs.foldlM sitemapSignature.bindKeyword (sitemapSignature.parameters.zip c.args) with
    | error e => exact Agree.error _ e
    | ok bound => exact Agree.error _ _
  · simp only [if_neg h]
    rw [show (fun bound => Except.ok bound) = (pure : _ → Except CallFault _) from rfl, bind_pure]
    exact hkeys

/-- A sitemap decorator takes exactly the literals that the scan takes. -/
theorem sitemapArguments_agree (written : String) (c : Call) (hc : c.IsLiteral) :
    Agree SameMetadata (Decorator.asRead written (.sitemap c)).sitemapArguments
      (Decorator.metadata c) := by
  rw [asRead_sitemapArguments]
  unfold Decorator.metadata
  have hvalues := sitemapSignature_bind_values (fun v => v.kindOf ≠ .kind) c hc.1 hc.2
  refine Agree.bind ((scanned_agree c).and_right hvalues) ?_
  rintro s bound ⟨⟨hf, hp⟩, hkind⟩
  rw [hf, hp]
  cases hs : s.frequency with
  | none => exact Agree.ok ⟨rfl, .inr ⟨rfl, rfl⟩⟩
  | some v =>
    obtain ⟨before, after, rfl, -⟩ := List.lookup_eq_some_iff.1 (hf.trans hs)
    have hv : v.kindOf ≠ .kind := hkind _ (List.mem_append_right _ List.mem_cons_self)
    cases v with
    | kind k => exact absurd rfl hv
    | _ => exact Agree.ok ⟨rfl, .inl rfl⟩

theorem bareSitemap_sameMetadata (written : String) :
    ∃ read, (Decorator.asRead written .bareSitemap).sitemapArguments = .ok read ∧
      SameMetadata read (Decorator.defaultFrequency, Decorator.defaultPriority) :=
  ⟨_, rfl, rfl, .inr ⟨rfl, rfl⟩⟩

theorem routeAnnotation_ne_sitemapAnnotation : some routeAnnotation ≠ some sitemapAnnotation := by
  decide

/-- A decorator is refused exactly if the scan refuses what it is read as. -/
theorem apply_error_iff (written : String) (m : Marks) (d : Decorator) (hd : d.IsLiteral) :
    ((d.asRead written).name = some routeAnnotation →
      ((∃ r, (d.asRead written).template = .error r) ↔ ∃ f, d.apply m = .error f)) ∧
    ((d.asRead written).name = some sitemapAnnotation →
      ((∃ r, (d.asRead written).sitemapArguments = .error r) ↔ ∃ f, d.apply m = .error f)) := by
  cases d with
  | route c =>
    refine ⟨fun _ => (template_agree written c).error_iff.trans ?_, fun h => ?_⟩
    · rw [show Decorator.apply m (.route c) =
        (Decorator.template c >>= fun t => .ok { m with route := some t }) from rfl]
      exact bind_ok_error_iff.symm
    · exact absurd h routeAnnotation_ne_sitemapAnnotation
  | sitemap c =>
    refine ⟨fun h => absurd h routeAnnotation_ne_sitemapAnnotation.symm, fun _ => ?_⟩
    refine (sitemapArguments_agree written c hd).error_iff.trans ?_
    rw [show Decorator.apply m (.sitemap c) =
      (Decorator.metadata c >>= fun p => .ok { m with sitemap := some p }) from rfl]
    exact bind_ok_error_iff.symm
  | bareSitemap =>
    refine ⟨fun h => absurd h routeAnnotation_ne_sitemapAnnotation.symm, fun _ => ?_⟩
    constructor <;> rintro ⟨_, h⟩ <;> cases h

/-! ## A stack of decorators -/

/-- The first annotation of each kind gives the mark of that kind, and no annotation gives none. -/
structure ReadMarks (annotations : List Annotation) (m : Marks) : Prop where
  route : Option.Rel (fun a template => a.template = .ok template)
    (annotations.find? (·.name == some routeAnnotation)) m.route
  sitemap : Option.Rel (fun a left => ∃ read, a.sitemapArguments = .ok read ∧ SameMetadata read left)
    (annotations.find? (·.name == some sitemapAnnotation)) m.sitemap

theorem rel_some_left {α β : Type} {R : α → β → Prop} {a : α} {y : Option β}
    (h : Option.Rel R (some a) y) : ∃ b, y = some b ∧ R a b := by
  cases h with
  | some hab => exact ⟨_, rfl, hab⟩

theorem rel_some_right {α β : Type} {R : α → β → Prop} {x : Option α} {b : β}
    (h : Option.Rel R x (some b)) : ∃ a, x = some a ∧ R a b := by
  cases h with
  | some hab => exact ⟨_, rfl, hab⟩

/-- One more decorator in front of a class is the last to be applied. -/
theorem ReadMarks.cons (written : String) {annotations : List Annotation} {m m' : Marks} {d : Decorator}
    (h : ReadMarks annotations m) (hd : d.IsLiteral) (happly : d.apply m = .ok m') :
    ReadMarks (d.asRead written :: annotations) m' := by
  cases d with
  | route c =>
    obtain ⟨template, htemplate, hm⟩ := bind_eq_ok.1 happly
    cases hm
    have hread : (Decorator.asRead written (.route c)).template = .ok template :=
      (asRead_template_eq_ok written c template).2 ((template_eq_ok c template).1 htemplate)
    exact ⟨.some hread, h.sitemap⟩
  | sitemap c =>
    obtain ⟨left, hleft, hm⟩ := bind_eq_ok.1 happly
    cases hm
    have hagree := sitemapArguments_agree written c hd
    rw [hleft] at hagree
    cases hread : (Decorator.asRead written (.sitemap c)).sitemapArguments with
    | error r =>
      rw [hread] at hagree
      exact hagree.elim
    | ok read =>
      rw [hread] at hagree
      exact ⟨h.route, .some ⟨read, hread, hagree⟩⟩
  | bareSitemap =>
    cases happly
    exact ⟨h.route, .some (bareSitemap_sameMetadata written)⟩

/-- What decorators leave on a class is what the annotations in source order are read as. -/
theorem readMarks_of_applyAll (ds : List (String × Decorator)) (m : Marks)
    (hds : ∀ x ∈ ds, x.2.IsLiteral)
    (h : Decorator.applyAll {} (ds.map Prod.snd).reverse = .ok m) :
    ReadMarks (ds.map fun x => x.2.asRead x.1) m := by
  induction ds generalizing m with
  | nil =>
    cases h
    exact ⟨.none, .none⟩
  | cons x rest ih =>
    unfold Decorator.applyAll at h ih
    rw [List.map_cons, List.reverse_cons, List.foldlM_append, bind_eq_ok] at h
    obtain ⟨before, hbefore, hlast⟩ := h
    rw [List.foldlM_cons, bind_eq_ok] at hlast
    obtain ⟨after, happly, hend⟩ := hlast
    cases hend
    have hrest := ih before (fun y hy => hds y (List.mem_cons_of_mem _ hy)) hbefore
    exact hrest.cons x.1 (hds x List.mem_cons_self) happly

/-! ## Entries -/

/-- The integer that a value is; the constant of a frequency is its number, and a truth value is
no integer here. -/
inductive Value.Integer : Value → Int → Prop where
  | int (n : Int) : Integer (.int n) n
  | frequency (f : Frequency) : Integer (.frequency f) f.ordinal

/-- A value is an integer or a floating-point number. -/
inductive Value.IsNumber : Value → Prop where
  | integer {v : Value} {n : Int} (h : v.Integer n) : IsNumber v
  | float (x : Binary64) : IsNumber (.float x)

theorem Value.ordinal?_eq_some (v : Value) (n : Int) : v.ordinal? = some n ↔ v.Integer n := by
  constructor
  · intro h
    cases v <;> cases h
    · exact .int _
    · exact .frequency _
  · rintro (_ | _) <;> rfl

theorem Value.priority?_eq_some (v : Value) (x : Binary64) :
    v.priority? = some x ↔ v.IsNumber ∧ Priority.ofValue v = .ok x := by
  constructor
  · intro h
    cases v <;> cases h
    · exact ⟨.integer (.int _), rfl⟩
    · exact ⟨.float _, rfl⟩
    · exact ⟨.integer (.frequency _), rfl⟩
  · rintro ⟨hnumber, hx⟩
    cases hnumber with
    | integer h =>
      cases h <;> cases hx <;> rfl
    | float y =>
      cases hx
      rfl

theorem SameMetadata.integer_iff {read left : Value × Value} (h : SameMetadata read left) (n : Int) :
    read.1.Integer n ↔ left.1.Integer n := by
  rcases h.2 with heq | ⟨hread, hleft⟩
  · rw [heq]
  · rw [hread, hleft, Decorator.defaultFrequency]
    constructor
    · rintro (_ | _)
      exact .frequency .always
    · rintro (_ | _)
      exact .int 0

theorem firstNamed_eq_ok {d : Declaration} {qualified : String} {a : Annotation} :
    d.firstNamed qualified = .ok a ↔
      d.annotations.find? (·.name == some qualified) = some a := by
  unfold Declaration.firstNamed
  cases d.annotations.find? (·.name == some qualified) with
  | none => simp
  | some b => simp

/-- An entry is a template, an integer and a number, read from the first annotations. -/
theorem entry?_eq_some (d : Declaration) (e : Entry) :
    d.entry? = some e ↔ ∃ a b read n,
      d.annotations.find? (·.name == some routeAnnotation) = some a ∧
      d.annotations.find? (·.name == some sitemapAnnotation) = some b ∧
      a.template = .ok e.template ∧ b.sitemapArguments = .ok read ∧
      read.1.Integer n ∧ e.frequency = .ofOrdinal n ∧
      read.2.IsNumber ∧ Priority.ofValue read.2 = .ok e.priority := by
  have hextract : d.entry? = some e ↔ d.extract = .ok e := by
    unfold Declaration.entry?
    cases d.extract with
    | error r => simp [Except.toOption]
    | ok e' => simp [Except.toOption]
  rw [hextract]
  unfold Declaration.extract
  simp only [bind_eq_ok, firstNamed_eq_ok]
  constructor
  · rintro ⟨a, ha, template, htemplate, b, hb, read, hread, h⟩
    split at h
    · cases h
    · rename_i n hn
      split at h
      · cases h
      · rename_i x hx
        cases h
        obtain ⟨hnumber, hclamp⟩ := (Value.priority?_eq_some _ _).1 hx
        exact ⟨a, b, read, n, ha, hb, htemplate, hread, (Value.ordinal?_eq_some _ _).1 hn, rfl,
          hnumber, hclamp⟩
  · rintro ⟨a, b, read, n, ha, hb, htemplate, hread, hn, hfrequency, hnumber, hclamp⟩
    refine ⟨a, ha, e.template, htemplate, b, hb, read, hread, ?_⟩
    rw [(Value.ordinal?_eq_some _ _).2 hn, (Value.priority?_eq_some _ _).2 ⟨hnumber, hclamp⟩]
    simp only [← hfrequency]
    rfl

/-- A class whose decorators can all be applied has an entry exactly if they leave a template, an
integer and a number on it, and its entry is made of these; and a single decorator is refused
exactly if the scan refuses its arguments. -/
theorem entry?_iff_marks :
    (∀ (ds : List (String × Decorator)) (d : Declaration) (m : Marks),
      d.annotations = ds.map (fun x => x.2.asRead x.1) → (∀ x ∈ ds, x.2.IsLiteral) →
      Decorator.applyAll {} (ds.map Prod.snd).reverse = .ok m →
      ∀ e, d.entry? = some e ↔ ∃ frequency priority n, m.route = some e.template ∧
        m.sitemap = some (frequency, priority) ∧ frequency.Integer n ∧
        e.frequency = .ofOrdinal n ∧ priority.IsNumber ∧ Priority.ofValue priority = .ok e.priority) ∧
    ∀ (written : String) (m : Marks) (d : Decorator), d.IsLiteral →
      ((d.asRead written).name = some routeAnnotation →
        ((∃ r, (d.asRead written).template = .error r) ↔ ∃ f, d.apply m = .error f)) ∧
      ((d.asRead written).name = some sitemapAnnotation →
        ((∃ r, (d.asRead written).sitemapArguments = .error r) ↔
          ∃ f, d.apply m = .error f)) := by
  refine ⟨?_, apply_error_iff⟩
  intro ds d m hd hds hm e
  have hreads := readMarks_of_applyAll ds m hds hm
  rw [← hd] at hreads
  rw [entry?_eq_some]
  constructor
  · rintro ⟨a, b, read, n, ha, hb, htemplate, hread, hn, hfrequency, hnumber, hclamp⟩
    obtain ⟨template, hroute, htemplate'⟩ := rel_some_left (ha ▸ hreads.route)
    obtain ⟨left, hsitemap, read', hread', hsame⟩ := rel_some_left (hb ▸ hreads.sitemap)
    obtain rfl : e.template = template := Except.ok.inj (htemplate.symm.trans htemplate')
    obtain rfl : read = read' := Except.ok.inj (hread.symm.trans hread')
    exact ⟨left.1, left.2, n, hroute, hsitemap, (hsame.integer_iff n).1 hn, hfrequency,
      hsame.1 ▸ hnumber, hsame.1 ▸ hclamp⟩
  · rintro ⟨frequency, priority, n, hroute, hsitemap, hn, hfrequency, hnumber, hclamp⟩
    obtain ⟨a, ha, htemplate⟩ := rel_some_right (hroute ▸ hreads.route)
    obtain ⟨b, hb, read, hread, hsame⟩ := rel_some_right (hsitemap ▸ hreads.sitemap)
    exact ⟨a, b, read, n, ha, hb, htemplate, hread, (hsame.integer_iff n).2 hn, hfrequency,
      hsame.1 ▸ hnumber, hsame.1 ▸ hclamp⟩

/-- A class that is put into the sitemap twice; the upper decorator is the one that counts. -/
def decoratedTwice : List (String × Decorator) :=
  [("sitemap_url", .sitemap { args := [.frequency .daily], kwargs := [("priority", .int 2)] }),
    ("route", .route { kwargs := [("template", .str "/news")] }), ("sitemap_url", .bareSitemap)]

theorem entry?_decoratedTwice :
    (∀ x ∈ decoratedTwice, x.2.IsLiteral) ∧
    Decorator.applyAll {} (decoratedTwice.map Prod.snd).reverse =
      .ok ⟨some "/news", some (.frequency .daily, .int 2)⟩ ∧
    Declaration.entry? ⟨"News", "News", "pages", "pages.py", 7,
      decoratedTwice.map fun x => x.2.asRead x.1⟩ = some ⟨"/news", .daily, .one⟩ ∧
    ∃ f, Decorator.apply {} (.route { args := [.int 4] }) = .error f := by
  have hliteral : ∀ x ∈ decoratedTwice, x.2.IsLiteral := by
    simp [decoratedTwice, Decorator.IsLiteral, Call.IsLiteral, Value.kindOf]
  refine ⟨hliteral, rfl, ?_, ?_⟩
  · refine (entry?_iff_marks.1 decoratedTwice _ _ rfl hliteral rfl _).2 ?_
    exact ⟨.frequency .daily, .int 2, 2, rfl, rfl, .frequency .daily, rfl, .integer (.int 2), rfl⟩
  · exact ((entry?_iff_marks.2 "route" {} (.route { args := [.int 4] })
      (by simp [Decorator.IsLiteral, Call.IsLiteral, Value.kindOf])).1 rfl).1 ⟨_, rfl⟩

end Sitemap
