import Sitemap.Proofs.Declaration.Faults
import Sitemap.Proofs.Declaration.Foreign
import Sitemap.Proofs.Declaration.ImportScope

/-!
# Spellings of a name

* `splitFirst_intercalate`, `insideOf?_intercalate` : dotted names are taken apart and compared part
  by part;
* `canonicalName_eq_of_spelling` : what the package exports again has the name of its definition;
* `Stmt.Denotes` : the ways in which an import statement makes a name stand for a dotted one;
* `Expr.dotted` : a name with attributes; `memberNumber?` : the number that it stands for as an
  argument;
* `resolves_spelling` : a written name resolves to what it stands for, however its first part was
  imported.
-/

namespace Sitemap

open Source

/-! ## Dotted names, part by part -/

/-- The part before the first point is the first part. -/
theorem splitFirst_intercalate {first : String} (h : '.' ∉ first.toList) (rest : List String) :
    splitFirst (".".intercalate (first :: rest)) =
      (first, if rest = [] then none else some (".".intercalate rest)) := by
  have hplain : ∀ c ∈ first.toList, decide (c ≠ '.') = true := by
    intro c hc
    rw [decide_eq_true_eq]
    rintro rfl
    exact h hc
  unfold splitFirst
  rw [List.span_eq_takeWhile_dropWhile]
  by_cases hrest : rest = []
  · have hchars : (".".intercalate (first :: rest)).toList = first.toList ++ [] := by
      simp [hrest]
    rw [hchars, List.takeWhile_append_of_pos hplain, List.dropWhile_append_of_pos hplain]
    simp [hrest]
  · have hchars : (".".intercalate (first :: rest)).toList =
        first.toList ++ '.' :: (".".intercalate rest).toList := by
      simp [String.intercalate_cons_of_ne_nil hrest]
    rw [hchars, List.takeWhile_append_of_pos hplain, List.dropWhile_append_of_pos hplain,
      List.takeWhile_cons_of_neg (by decide), List.dropWhile_cons_of_neg (by decide)]
    simp only [List.append_nil, String.ofList_toList, if_neg hrest]

def pointed (parts : List String) : List Char := parts.flatMap fun p => '.' :: p.toList

theorem toList_intercalate_append {front : List String} (h : front ≠ []) (rest : List String) :
    (".".intercalate (front ++ rest)).toList = (".".intercalate front).toList ++ pointed rest := by
  induction rest generalizing front with
  | nil => simp [pointed]
  | cons p rest ih =>
    rw [List.append_cons, ih (List.append_ne_nil_of_left_ne_nil h [p])]
    simp [String.intercalate_append_of_ne_nil h, pointed]

/-- A name that is inside another one has its parts at the beginning. -/
theorem prefix_of_insideOf? {front parts : List String} (hfront : front ≠ [])
    (hfronts : ∀ p ∈ front, IsPart p) (hne : parts ≠ []) (hparts : ∀ p ∈ parts, IsPart p)
    {rest : List Char}
    (h : insideOf? (".".intercalate front) (".".intercalate parts) = some rest) :
    front <+: parts := by
  unfold insideOf? at h
  split at h
  · rename_i hbegins
    obtain ⟨behind, hbehind⟩ := List.isPrefixOf_iff_prefix.1 hbegins
    have hpieces := nameParts_intercalate hne hparts
    rw [nameParts, ← hbehind] at hpieces
    rw [← hbehind, List.drop_left] at h
    cases behind with
    | nil =>
      rw [List.append_nil, ← nameParts, nameParts_intercalate hfront hfronts] at hpieces
      exact hpieces ▸ List.prefix_rfl
    | cons c behind =>
      dsimp only at h
      split at h
      · rename_i hc
        rw [hc, splitChars_eq_splitOn, List.splitOn_append_cons_self, List.map_append,
          ← splitChars_eq_splitOn, ← nameParts, nameParts_intercalate hfront hfronts] at hpieces
        exact ⟨_, hpieces⟩
      · cases h
  · cases h

/-- One dotted name is inside another one just if its parts are at the beginning. -/
theorem insideOf?_intercalate {front parts : List String} (hfront : front ≠ [])
    (hfronts : ∀ p ∈ front, IsPart p) (hne : parts ≠ []) (hparts : ∀ p ∈ parts, IsPart p) :
    insideOf? (".".intercalate front) (".".intercalate parts) =
      if front <+: parts then some (pointed (parts.drop front.length)) else none := by
  split
  · rename_i hbegins
    obtain ⟨rest, rfl⟩ := hbegins
    have hchars := toList_intercalate_append hfront rest
    have hbegins : (".".intercalate front).toList.isPrefixOf
        (".".intercalate (front ++ rest)).toList = true := by
      rw [hchars]
      exact List.isPrefixOf_iff_prefix.2 (List.prefix_append _ _)
    rw [insideOf?, if_pos hbegins, hchars, List.drop_left, List.drop_left]
    cases rest <;> rfl
  · rename_i hbegins
    rw [← Option.not_isSome_iff_eq_none, Option.isSome_iff_exists]
    rintro ⟨rest, hrest⟩
    exact hbegins (prefix_of_insideOf? hfront hfronts hne hparts hrest)

/-! ## Names that are exported again -/

def reexported : List String := ["route", "sitemap_url", "ChangeFreq"]

/-- The parts of the name of a definition that is exported again, and of what lies in it. -/
def definedParts (name : String) (tail : List String) : List String :=
  ownPackage :: "annotations" :: name :: tail

theorem reexports_eq : reexports = reexported.map fun name =>
    (".".intercalate [ownPackage, name], ".".intercalate (definedParts name [])) := by
  decide

theorem insideOf?_reexported {name : String} (hname : name ∈ reexported) {parts : List String}
    (hne : parts ≠ []) (hparts : ∀ p ∈ parts, IsPart p) :
    insideOf? (".".intercalate [ownPackage, name]) (".".intercalate parts) =
      if [ownPackage, name] <+: parts then some (pointed (parts.drop 2)) else none := by
  refine insideOf?_intercalate (List.cons_ne_nil _ _) ?_ hne hparts
  revert name
  decide

theorem intercalate_definedParts (name : String) (tail : List String) :
    ".".intercalate (definedParts name []) ++ String.ofList (pointed tail) =
      ".".intercalate (definedParts name tail) := by
  refine String.ext ?_
  have hne : definedParts name [] ≠ [] := List.cons_ne_nil _ _
  rw [String.toList_append, String.toList_ofList, ← toList_intercalate_append hne tail]
  rfl

section Canonical
variable {name : String} {tail : List String}

/-- What is exported again, or lies in it, has the name that its definition gives it. -/
theorem canonicalName_reexported (hname : name ∈ reexported)
    (hparts : ∀ p ∈ ownPackage :: name :: tail, IsPart p) :
    canonicalName (".".intercalate (ownPackage :: name :: tail)) =
      ".".intercalate (definedParts name tail) := by
  have hinside : ∀ n ∈ reexported, insideOf? (".".intercalate [ownPackage, n])
      (".".intercalate (ownPackage :: name :: tail)) =
        if n = name then some (pointed tail) else none := by
    intro n hn
    simpa using insideOf?_reexported hn (List.cons_ne_nil _ _) hparts
  have hroute := hinside "route" (by decide)
  have hsitemap := hinside "sitemap_url" (by decide)
  have hfrequency := hinside "ChangeFreq" (by decide)
  rw [← intercalate_definedParts, canonicalName, reexports_eq]
  simp only [reexported, List.map_cons, List.map_nil, List.findSome?_cons, hroute, hsitemap,
    hfrequency]
  simp only [reexported, List.mem_cons, List.not_mem_nil, or_false] at hname
  rcases hname with rfl | rfl | rfl <;> rfl

/-- The name that a definition gives is not changed. -/
theorem canonicalName_annotations
    (hparts : ∀ p ∈ ownPackage :: "annotations" :: tail, IsPart p) :
    canonicalName (".".intercalate (ownPackage :: "annotations" :: tail)) =
      ".".intercalate (ownPackage :: "annotations" :: tail) := by
  have hinside : ∀ n ∈ reexported, insideOf? (".".intercalate [ownPackage, n])
      (".".intercalate (ownPackage :: "annotations" :: tail)) = none := by
    intro n hn
    have hother : n ≠ "annotations" := by
      rintro rfl
      revert hn
      decide
    simpa [hother] using insideOf?_reexported hn (List.cons_ne_nil _ _) hparts
  rw [canonicalName, reexports_eq, List.findSome?_eq_none_iff.2, Option.getD_none]
  intro item hitem
  obtain ⟨n, hn, rfl⟩ := List.mem_map.1 hitem
  exact Option.map_eq_none_iff.2 (hinside n hn)

theorem canonicalName_eq_of_spelling {parts : List String} (hname : name ∈ reexported)
    (h : parts = ownPackage :: name :: tail ∨ parts = definedParts name tail)
    (hparts : ∀ p ∈ parts, IsPart p) :
    canonicalName (".".intercalate parts) = ".".intercalate (definedParts name tail) := by
  rcases h with rfl | rfl
  · exact canonicalName_reexported hname hparts
  · exact canonicalName_annotations hparts

end Canonical

/-! ## What an import makes a name stand for -/

/-- The item of an import statement with the given number makes a name stand for a dotted one: a
module under another name, the first part of a module, or what is taken from a module, under its own
name or another one. -/
inductive Source.Stmt.Denotes : Stmt → Nat → String → List String → Prop where
  | renamed {names : List Alias} {k : Nat} {item : Alias} {x : String} {parts : List String}
      (hitem : names[k]? = some item) (has : item.asName = some x) (hne : parts ≠ [])
      (hname : item.name = ".".intercalate parts) : Denotes (.imports names) k x parts
  | head {names : List Alias} {k : Nat} {item : Alias} {x : String} {more : List String}
      (hitem : names[k]? = some item) (has : item.asName = none)
      (hname : item.name = ".".intercalate (x :: more)) : Denotes (.imports names) k x [x]
  | taken {names : List Alias} {k : Nat} {item : Alias} {x : String} {parts : List String}
      (hitem : names[k]? = some item) (has : item.asName.getD item.name = x)
      (hparts : parts ≠ []) (hstar : item.name ≠ "*") :
      Denotes (.importsFrom (some (".".intercalate parts)) names 0) k x (parts ++ [item.name])

theorem Source.Stmt.Denotes.ne_nil {s : Stmt} {k : Nat} {x : String} {parts : List String}
    (h : s.Denotes k x parts) : parts ≠ [] := by
  cases h with
  | renamed hitem has hne hname => exact hne
  | head => exact List.cons_ne_nil _ _
  | taken => exact List.append_ne_nil_of_right_ne_nil _ (List.cons_ne_nil _ _)

/-- What a name stands for is what it is bound to. -/
theorem Source.Stmt.Denotes.bindsAt {s : Stmt} {k : Nat} {x : String} {parts : List String}
    (h : s.Denotes k x parts) (hx : '.' ∉ x.toList) (hparts : ∀ p ∈ parts, p ≠ "")
    (moduleName : String) (isPackage : Bool) :
    s.BindsAt moduleName isPackage k (x, ".".intercalate parts) := by
  cases h with
  | renamed hitem has _ hname =>
    rw [← hname]
    exact .renamed hitem has
  | head hitem has hname =>
    have hbinds : BindsAt moduleName isPackage _ k _ := .head hitem has
    rw [hname, splitFirst_intercalate hx] at hbinds
    rwa [String.intercalate_singleton]
  | @taken _ _ item _ init hitem has hinit hstar =>
    have hsource : importSource? moduleName isPackage 0 (some (".".intercalate init)) =
        some (".".intercalate init) := rfl
    have hnamed : (".".intercalate init).isEmpty = false := by
      rw [Bool.eq_false_iff, ne_eq, String.isEmpty_iff]
      exact fun hempty => hinit ((intercalate_eq_empty fun p hp =>
        hparts p (List.mem_append_left _ hp)).1 hempty)
    have hbinds := BindsAt.taken hitem hstar hsource
    rw [has, if_neg (by rw [hnamed]; exact Bool.false_ne_true)] at hbinds
    rwa [String.intercalate_append_of_ne_nil hinit (List.cons_ne_nil _ _),
      String.intercalate_singleton]

/-! ## What is written -/

def Source.Expr.dotted (x : String) (attributes : List String) : Expr :=
  attributes.foldl .attribute (.name x)

namespace Source.Expr

theorem dottedName?_foldl {e : Expr} {written : String} (h : e.dottedName? = some written)
    (attributes : List String) : (attributes.foldl .attribute e).dottedName? =
      some (".".intercalate (written :: attributes)) := by
  induction attributes generalizing e written with
  | nil => rw [List.foldl_nil, h, String.intercalate_singleton]
  | cons a attributes ih =>
    have hfirst : (Expr.attribute e a).dottedName? = some (written ++ "." ++ a) := by
      rw [dottedName?, h]
      rfl
    rw [List.foldl_cons, ih hfirst, String.intercalate_cons_append, String.intercalate_cons_cons]

theorem dottedName?_dotted (x : String) (attributes : List String) :
    (dotted x attributes).dottedName? = some (".".intercalate (x :: attributes)) :=
  dottedName?_foldl rfl attributes

theorem literal_of_dottedName? {e : Expr} {written : String} (h : e.dottedName? = some written) :
    e.literal = .error .notLiteral := by
  cases e with
  | name => simp [literal, signedNumber?, number?]
  | «attribute» => simp [literal, signedNumber?, number?]
  | _ => cases h

end Source.Expr

def memberNumber? (qualified : String) : Option Value :=
  if (splitLast qualified).1 = frequencyEnum then
    (Frequency.ofMemberName? (splitLast qualified).2).map fun f => .int f.ordinal
  else none

theorem memberNumber?_memberName (f : Frequency) :
    memberNumber? (".".intercalate (definedParts "ChangeFreq" [f.memberName])) =
      some (.int f.ordinal) := by
  have hmember : IsPart f.memberName := by cases f <;> decide
  have howner : ".".intercalate (definedParts "ChangeFreq" []) = frequencyEnum := by decide
  have hparts : definedParts "ChangeFreq" [f.memberName] =
      definedParts "ChangeFreq" [] ++ [f.memberName] := rfl
  rw [memberNumber?, hparts, splitLast_intercalate _ hmember, if_pos howner]
  simp

namespace Resolver
variable {r : Resolver}

theorem resolve?_of_lookup {x : String} {parts rest : List String} (hx : '.' ∉ x.toList)
    (hlookup : r.imports.lookup x = some (".".intercalate parts)) (hne : parts ≠ [])
    (hrest : ∀ p ∈ rest, p ≠ "") : r.resolve? (".".intercalate (x :: rest)) =
      some (canonicalName (".".intercalate (parts ++ rest))) := by
  rw [resolve?, splitFirst_intercalate hx]
  simp only [hlookup, Option.map_some]
  by_cases hnil : rest = []
  · simp [hnil]
  · have hnamed : (".".intercalate rest).isEmpty = false := by
      rw [Bool.eq_false_iff, ne_eq, String.isEmpty_iff]
      exact fun hempty => hnil ((intercalate_eq_empty hrest).1 hempty)
    simp [hnil, hnamed, String.intercalate_append_of_ne_nil hne hnil]

theorem annotation_of_dottedName? {e : Expr} {written : String} (h : e.dottedName? = some written) :
    r.annotation e = .ok { written, name := r.resolve? written } := by
  have htarget : e.decoratorTarget = e := by
    cases e with
    | call => cases h
    | _ => rfl
  rw [annotation_eq, htarget, h]
  cases e with
  | call => cases h
  | _ => rfl

theorem annotation_call_of_dottedName? {e : Expr} {written : String}
    (h : e.dottedName? = some written) (positional : List Expr) (keywords : List Keyword) :
    (r.annotation (.call e positional keywords)).map (fun a => (a.written, a.name)) =
      (r.arguments (positional ++ keywords.map Keyword.part)).map fun _ =>
        (written, r.resolve? written) := by
  rw [annotation_eq, Expr.decoratorTarget, h]
  dsimp only
  cases r.arguments (positional ++ keywords.map Keyword.part) with
  | error fault => rfl
  | ok values => cases values <;> rfl

theorem argument_of_dottedName? {e : Expr} {written : String} (h : e.dottedName? = some written) :
    r.argument e = .ok (r.frequencyNumber? e) := by
  have hliteral := Expr.literal_of_dottedName? h
  cases e with
  | name => simp only [argument, hliteral]
  | «attribute» => simp only [argument, hliteral]
  | _ => cases h

theorem frequencyNumber?_of_dottedName? {e : Expr} {written : String}
    (h : e.dottedName? = some written) :
    r.frequencyNumber? e = (r.resolve? written).bind memberNumber? := by
  rw [frequencyNumber?, h]
  rfl

end Resolver

/-! ## Every spelling resolves to the same name -/

/-- A name `x` whose last import makes it stand for a dotted name, with attributes behind it. As
written it resolves to the canonical form of the whole name: as a decorator, called or not, whatever
its arguments are as long as they have values at all, and as an argument, where it counts if it is
the constant of a frequency. What the package exports again resolves to its definition in both
spellings, and so the constants of frequencies give their numbers in both. -/
theorem resolves_spelling {moduleName : String} (path : String) {isPackage : Bool}
    {body : List Stmt} {place : List Nat} {k : Nat} {s : Stmt} {x : String}
    {parts attributes : List String} (hruns : Stmt.RunsAt body place s)
    (hdenotes : s.Denotes k x parts)
    (hlast : ∀ a t, ImportsAt moduleName isPackage body a (x, t) → ¬ place ++ [k] < a)
    (hx : IsPart x) (hparts : ∀ p ∈ parts ++ attributes, IsPart p) :
    (Resolver.ofModule moduleName path isPackage body).resolve?
        (".".intercalate (x :: attributes)) =
      some (canonicalName (".".intercalate (parts ++ attributes))) ∧
    Resolver.annotation (.ofModule moduleName path isPackage body) (.dotted x attributes) =
      .ok { written := ".".intercalate (x :: attributes),
            name := some (canonicalName (".".intercalate (parts ++ attributes))) } ∧
    (∀ (positional : List Expr) (keywords : List Keyword),
      (Resolver.annotation (.ofModule moduleName path isPackage body)
          (.call (.dotted x attributes) positional keywords)).map (fun a => (a.written, a.name)) =
        ((Resolver.ofModule moduleName path isPackage body).arguments
          (positional ++ keywords.map Keyword.part)).map fun _ =>
            (".".intercalate (x :: attributes),
              some (canonicalName (".".intercalate (parts ++ attributes))))) ∧
    (Resolver.ofModule moduleName path isPackage body).argument (.dotted x attributes) =
      .ok (memberNumber? (canonicalName (".".intercalate (parts ++ attributes)))) ∧
    (∀ name ∈ reexported, ∀ tail, (parts ++ attributes = ownPackage :: name :: tail ∨
        parts ++ attributes = definedParts name tail) →
      (Resolver.ofModule moduleName path isPackage body).resolve?
          (".".intercalate (x :: attributes)) =
        some (".".intercalate (definedParts name tail))) ∧
    ∀ f : Frequency, (parts ++ attributes = [ownPackage, "ChangeFreq", f.memberName] ∨
        parts ++ attributes = definedParts "ChangeFreq" [f.memberName]) →
      (Resolver.ofModule moduleName path isPackage body).argument (.dotted x attributes) =
        .ok (some (.int f.ordinal)) := by
  have hne : parts ≠ [] := hdenotes.ne_nil
  have hbinds := hdenotes.bindsAt hx.2 (fun p hp => (hparts p (List.mem_append_left _ hp)).1)
    moduleName isPackage
  have hlookup : (Resolver.ofModule moduleName path isPackage body).imports.lookup x =
      some (".".intercalate parts) :=
    lookup_ofModule_iff.2 ⟨place ++ [k], ⟨place, k, s, rfl, hruns, hbinds⟩, hlast⟩
  have hresolve := Resolver.resolve?_of_lookup hx.2 hlookup hne
    fun p hp => (hparts p (List.mem_append_right _ hp)).1
  have hwritten := Expr.dottedName?_dotted x attributes
  have hargument : (Resolver.ofModule moduleName path isPackage body).argument
      (.dotted x attributes) =
        .ok (memberNumber? (canonicalName (".".intercalate (parts ++ attributes)))) := by
    rw [Resolver.argument_of_dottedName? hwritten,
      Resolver.frequencyNumber?_of_dottedName? hwritten, hresolve, Option.bind_some]
  refine ⟨hresolve, ?_, fun positional keywords => ?_, hargument, fun name hname tail htarget => ?_,
    fun f htarget => ?_⟩
  · rw [Resolver.annotation_of_dottedName? hwritten, hresolve]
  · rw [Resolver.annotation_call_of_dottedName? hwritten, hresolve]
  · rw [hresolve, canonicalName_eq_of_spelling hname htarget hparts]
  · rw [hargument, canonicalName_eq_of_spelling (by decide) htarget hparts,
      memberNumber?_memberName]

/-- A module that takes the definitions of the package under another name, and overrides an import
that it has before. -/
def renamingBody : List Stmt :=
  [.importsFrom (some "other") [⟨"a", none⟩] 0,
    .importsFrom (some "sitemap_codegen") [⟨"annotations", some "a"⟩] 0]

/-- `@a.route`, and the argument `a.ChangeFreq.DAILY`. -/
theorem resolves_renamingBody :
    Resolver.annotation (.ofModule "app" "app.py" false renamingBody) (.dotted "a" ["route"]) =
      .ok { written := "a.route", name := some routeAnnotation } ∧
    (Resolver.ofModule "app" "app.py" false renamingBody).argument
      (.dotted "a" ["ChangeFreq", "DAILY"]) = .ok (some (.int 2)) := by
  have hruns : Stmt.RunsAt renamingBody [1]
      (.importsFrom (some "sitemap_codegen") [⟨"annotations", some "a"⟩] 0) :=
    ⟨1, [], _, rfl, rfl, .self _⟩
  have hdenotes : Stmt.Denotes (.importsFrom (some (".".intercalate ["sitemap_codegen"]))
      [⟨"annotations", some "a"⟩] 0) 0 "a" (["sitemap_codegen"] ++ ["annotations"]) :=
    @Stmt.Denotes.taken _ 0 ⟨"annotations", some "a"⟩ _ _ rfl rfl (List.cons_ne_nil _ _) (by decide)
  have hlast : ∀ a t, ImportsAt "app" false renamingBody a ("a", t) → ¬ [1] ++ [0] < a := by
    intro a t h
    generalize ("a", t) = binding at h
    obtain ⟨_, k, s, rfl, ⟨i, rest, u, rfl, hu, hopen⟩, hbinds⟩ := h
    rcases i with _ | _ | i
    · cases hu
      obtain ⟨rfl, rfl⟩ := (Stmt.openAt_iff_of_not_isOpen id).1 hopen
      simp [List.cons_lt_cons_iff]
    · cases hu
      obtain ⟨rfl, rfl⟩ := (Stmt.openAt_iff_of_not_isOpen id).1 hopen
      cases hbinds with
      | taken hitem =>
        rcases k with _ | k
        · decide
        · cases hitem
    · cases hu
  obtain ⟨-, hname, -⟩ := @resolves_spelling _ "app.py" _ _ _ _ _ _ _ ["route"] hruns hdenotes hlast
    (by decide) (by decide)
  obtain ⟨-, -, -, -, -, hnumber⟩ := @resolves_spelling _ "app.py" _ _ _ _ _ _ _
    ["ChangeFreq", "DAILY"] hruns hdenotes hlast (by decide) (by decide)
  have hwritten : ".".intercalate ["a", "route"] = "a.route" := by decide
  have hroute : canonicalName (".".intercalate (["sitemap_codegen"] ++ ["annotations"] ++
      ["route"])) = routeAnnotation := by decide
  rw [hwritten, hroute] at hname
  exact ⟨hname, hnumber .daily (.inr rfl)⟩

end Sitemap
