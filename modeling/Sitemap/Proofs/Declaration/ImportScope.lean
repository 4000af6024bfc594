import Sitemap.Proofs.Declaration.RelativeImports
import Sitemap.Proofs.Source.Places

/-!
# Imports in the scope of a module

* `Stmt.IsOpen`, `Stmt.OpenAt`, `Stmt.RunsAt` : a statement stands at an address inside another one
  or in a body, and all that is around it are `if` and `try` statements;
* `Stmt.BindsAt`, `ImportsAt` : an item of an import statement binds a name, and does so at an
  address in the scope of a module;
* `enumerates_scope` : the map is made from these bindings in the order of their addresses;
* `Stmt.outline` : a statement without the bodies that do not belong to the scope of a module;
* `exists_lookup_ofModule_iff`, `lookup_ofModule_iff`, `enumerates_names_ofModule` : the names that
  a module binds, their targets and their order;
* `ofModule_lastImport` : every name has the target of its last import, and no import is in a body
  that the outline leaves out.
-/

namespace Sitemap

open Source

namespace Source.Stmt

/-! ## Open statements -/

/-- The statements whose blocks belong to the scope around them. -/
def IsOpen : Stmt → Prop
  | .branch _ _ => True
  | .tryBlock _ _ _ _ => True
  | _ => False

/-- A statement stands at an address inside another one, and all around it are open. -/
inductive OpenAt : Stmt → List Nat → Stmt → Prop where
  | self (s : Stmt) : OpenAt s [] s
  | inside {s t u : Stmt} {block : List Stmt} {i j : Nat} {rest : List Nat} (hs : s.IsOpen)
      (hblock : s.blocks[j]? = some block) (ht : block[i]? = some t) (h : OpenAt t rest u) :
      OpenAt s (j :: i :: rest) u

/-- A statement stands at an address in a body, and all around it are open. -/
def RunsAt (body : List Stmt) (address : List Nat) (u : Stmt) : Prop :=
  ∃ i rest s, address = i :: rest ∧ body[i]? = some s ∧ s.OpenAt rest u

theorem OpenAt.exists_at {s u : Stmt} {a : List Nat} (h : s.OpenAt a u) :
    ∃ scopes, s.At a scopes u := by
  induction h with
  | self s => exact ⟨[], .self s⟩
  | inside _ hblock ht _ ih =>
    obtain ⟨scopes, hat⟩ := ih
    exact ⟨_, .inside hblock ht hat⟩

theorem RunsAt.unique {body : List Stmt} {a : List Nat} {u u' : Stmt} (h : RunsAt body a u)
    (h' : RunsAt body a u') : u' = u := by
  obtain ⟨i, rest, s, rfl, hs, hopen⟩ := h
  obtain ⟨j, rest', s', ha, hs', hopen'⟩ := h'
  obtain ⟨rfl, rfl⟩ := List.cons.inj ha
  obtain ⟨scopes, hat⟩ := hopen.exists_at
  obtain ⟨scopes', hat'⟩ := hopen'.exists_at
  exact (In.unique ⟨i, rest, s, rfl, hs, hat⟩ ⟨i, rest, s', rfl, hs', hat'⟩).2

theorem scopeOf_eq_flatMap (body : List Stmt) : scopeOf body = body.flatMap moduleScope := by
  induction body with
  | nil => rfl
  | cons s rest ih => rw [scopeOf, ih, List.flatMap_cons]

theorem scopeOfAll_eq_flatMap (bodies : List (List Stmt)) :
    scopeOfAll bodies = bodies.flatMap scopeOf := by
  induction bodies with
  | nil => rfl
  | cons body rest ih => rw [scopeOfAll, ih, List.flatMap_cons]

theorem moduleScope_of_isOpen {s : Stmt} (h : s.IsOpen) :
    s.moduleScope = s :: s.blocks.flatMap scopeOf := by
  cases s with
  | branch body otherwise => simp [moduleScope, blocks]
  | tryBlock body handlers otherwise final => simp [moduleScope, blocks, scopeOfAll_eq_flatMap]
  | _ => cases h

theorem moduleScope_of_not_isOpen {s : Stmt} (h : ¬ s.IsOpen) : s.moduleScope = [s] := by
  cases s with
  | branch => exact absurd trivial h
  | tryBlock => exact absurd trivial h
  | _ => rfl

theorem openAt_iff_of_not_isOpen {s u : Stmt} (h : ¬ s.IsOpen) {a : List Nat} :
    s.OpenAt a u ↔ a = [] ∧ u = s := by
  constructor
  · rintro (_ | ⟨hs, _, _, _⟩)
    · exact ⟨rfl, rfl⟩
    · exact absurd hs h
  · rintro ⟨rfl, rfl⟩
    exact .self u

/-! ## Bindings -/

/-- The item of an import statement with the given number binds a name to a target. Without another
name, what is imported whole binds its first part. A star binds nothing, and neither does what a
relative import names outside of everything. -/
inductive BindsAt (moduleName : String) (isPackage : Bool) :
    Stmt → Nat → String × String → Prop where
  | renamed {names : List Alias} {k : Nat} {item : Alias} {asName : String}
      (hitem : names[k]? = some item) (has : item.asName = some asName) :
      BindsAt moduleName isPackage (.imports names) k (asName, item.name)
  | head {names : List Alias} {k : Nat} {item : Alias} (hitem : names[k]? = some item)
      (has : item.asName = none) : BindsAt moduleName isPackage (.imports names) k
        ((splitFirst item.name).1, (splitFirst item.name).1)
  | taken {source : Option String} {names : List Alias} {level k : Nat} {item : Alias}
      {base : String} (hitem : names[k]? = some item) (hstar : item.name ≠ "*")
      (hsource : importSource? moduleName isPackage level source = some base) :
      BindsAt moduleName isPackage (.importsFrom source names level) k
        (item.asName.getD item.name, if base.isEmpty then item.name else base ++ "." ++ item.name)

section Bindings
variable {moduleName : String} {isPackage : Bool}

theorem BindsAt.unique {s : Stmt} {k : Nat} {b b' : String × String}
    (h : s.BindsAt moduleName isPackage k b) (h' : s.BindsAt moduleName isPackage k b') :
    b' = b := by
  cases h with
  | renamed hitem has =>
    cases h' with
    | renamed hitem' has' =>
      cases hitem.symm.trans hitem'
      cases has.symm.trans has'
      rfl
    | head hitem' has' =>
      cases hitem.symm.trans hitem'
      cases has.symm.trans has'
  | head hitem has =>
    cases h' with
    | renamed hitem' has' =>
      cases hitem.symm.trans hitem'
      cases has.symm.trans has'
    | head hitem' has' =>
      cases hitem.symm.trans hitem'
      rfl
  | taken hitem hstar hsource =>
    cases h' with
    | taken hitem' hstar' hsource' =>
      cases hitem.symm.trans hitem'
      cases hsource.symm.trans hsource'
      rfl

/-- The bindings of one statement are those of its items in order. -/
theorem enumerates_importBindings (s : Stmt) :
    Enumerates (fun a b => ∃ k, a = [k] ∧ s.BindsAt moduleName isPackage k b)
      (s.importBindings moduleName isPackage) := by
  cases s with
  | imports names =>
    refine (Enumerates.elements names).map.congr fun a b => ?_
    constructor
    · rintro ⟨item, ⟨k, rfl, hitem⟩, rfl⟩
      refine ⟨k, rfl, ?_⟩
      cases has : item.asName with
      | some asName => exact .renamed hitem has
      | none => exact .head hitem has
    · rintro ⟨k, rfl, hbinds⟩
      cases hbinds with
      | renamed hitem has => exact ⟨_, ⟨k, rfl, hitem⟩, by simp [has]⟩
      | head hitem has => exact ⟨_, ⟨k, rfl, hitem⟩, by simp [has]⟩
  | importsFrom source names level =>
    cases hsource : importSource? moduleName isPackage level source with
    | none =>
      simp only [importBindings, hsource]
      refine Enumerates.nil ?_
      rintro a b ⟨k, -, hbinds⟩
      cases hbinds with
      | taken _ _ hsource' => cases hsource.symm.trans hsource'
    | some base =>
      simp only [importBindings, hsource]
      refine ((Enumerates.elements names).filter ?_ _).map.congr fun a b => ?_
      · rintro a item item' ⟨k, rfl, hitem⟩ ⟨k', hk, hitem'⟩
        cases hk
        exact Option.some.inj (hitem'.symm.trans hitem)
      · constructor
        · rintro ⟨item, ⟨⟨k, rfl, hitem⟩, hstar⟩, rfl⟩
          exact ⟨k, rfl, .taken hitem (of_decide_eq_true hstar) hsource⟩
        · rintro ⟨k, rfl, hbinds⟩
          cases hbinds with
          | taken hitem hstar hsource' =>
            cases hsource.symm.trans hsource'
            exact ⟨_, ⟨⟨k, rfl, hitem⟩, decide_eq_true hstar⟩, rfl⟩
  | _ =>
    refine Enumerates.nil ?_
    rintro a b ⟨k, -, hbinds⟩
    cases hbinds

theorem importBindings_of_isOpen {s : Stmt} (h : s.IsOpen) :
    s.importBindings moduleName isPackage = [] := by
  cases s with
  | branch => rfl
  | tryBlock => rfl
  | _ => cases h

theorem not_bindsAt_of_isOpen {s : Stmt} (h : s.IsOpen) {k : Nat} {b : String × String} :
    ¬ s.BindsAt moduleName isPackage k b := by
  intro hbinds
  cases hbinds <;> cases h

end Bindings

end Source.Stmt

open Source.Stmt (BindsAt RunsAt)

/-- A name is bound to a target by an import in the scope of a module: the last number of the
address is that of the item in its statement. -/
def ImportsAt (moduleName : String) (isPackage : Bool) (body : List Stmt) (a : List Nat)
    (b : String × String) : Prop :=
  ∃ place k s, a = place ++ [k] ∧ RunsAt body place s ∧ s.BindsAt moduleName isPackage k b

section Scope
variable {moduleName : String} {isPackage : Bool} {body : List Stmt}

theorem ImportsAt.unique {a : List Nat} {b b' : String × String}
    (h : ImportsAt moduleName isPackage body a b) (h' : ImportsAt moduleName isPackage body a b') :
    b' = b := by
  obtain ⟨place, k, s, rfl, hruns, hbinds⟩ := h
  obtain ⟨place', k', s', ha, hruns', hbinds'⟩ := h'
  obtain ⟨rfl, hk⟩ := List.append_inj' ha rfl
  cases hk
  obtain rfl := hruns.unique hruns'
  exact hbinds.unique hbinds'

/-- A binding by an import in a statement or inside it. -/
def Source.Stmt.ImportsIn (moduleName : String) (isPackage : Bool) (s : Stmt) (a : List Nat)
    (b : String × String) : Prop :=
  ∃ place k u, a = place ++ [k] ∧ s.OpenAt place u ∧ u.BindsAt moduleName isPackage k b

theorem enumerates_scope_of_forall
    (h : ∀ s ∈ body, Enumerates (s.ImportsIn moduleName isPackage)
      (s.moduleScope.flatMap (Stmt.importBindings moduleName isPackage))) :
    Enumerates (ImportsAt moduleName isPackage body)
      ((Stmt.scopeOf body).flatMap (Stmt.importBindings moduleName isPackage)) := by
  rw [Stmt.scopeOf_eq_flatMap, List.flatMap_assoc]
  refine (Enumerates.flatMap h).congr fun a b => ?_
  constructor
  · rintro ⟨i, rest, s, rfl, hs, place, k, u, rfl, hopen, hbinds⟩
    exact ⟨i :: place, k, u, rfl, ⟨i, place, s, rfl, hs, hopen⟩, hbinds⟩
  · rintro ⟨place, k, u, rfl, ⟨i, rest, s, rfl, hs, hopen⟩, hbinds⟩
    exact ⟨i, rest ++ [k], s, rfl, hs, rest, k, u, rfl, hopen, hbinds⟩

/-- A statement that is not open has only the bindings of its own. -/
theorem enumerates_scope_of_not_isOpen {s : Stmt} (hs : ¬ s.IsOpen) :
    Enumerates (s.ImportsIn moduleName isPackage)
      (s.moduleScope.flatMap (Stmt.importBindings moduleName isPackage)) := by
  rw [Stmt.moduleScope_of_not_isOpen hs, List.flatMap_singleton]
  refine (Stmt.enumerates_importBindings s).congr fun a b => ?_
  constructor
  · rintro ⟨k, rfl, hbinds⟩
    exact ⟨[], k, s, rfl, .self s, hbinds⟩
  · rintro ⟨place, k, u, rfl, hopen, hbinds⟩
    obtain ⟨rfl, rfl⟩ := (Stmt.openAt_iff_of_not_isOpen hs).1 hopen
    exact ⟨k, rfl, hbinds⟩

/-- An open statement has the bindings in its blocks. -/
theorem enumerates_scope_of_isOpen {s : Stmt} (hs : s.IsOpen)
    (h : ∀ block ∈ s.blocks, Enumerates (ImportsAt moduleName isPackage block)
      ((Stmt.scopeOf block).flatMap (Stmt.importBindings moduleName isPackage))) :
    Enumerates (s.ImportsIn moduleName isPackage)
      (s.moduleScope.flatMap (Stmt.importBindings moduleName isPackage)) := by
  rw [Stmt.moduleScope_of_isOpen hs, List.flatMap_cons, Stmt.importBindings_of_isOpen hs,
    List.nil_append, List.flatMap_assoc]
  refine (Enumerates.flatMap h).congr fun a b => ?_
  constructor
  · rintro ⟨j, _, block, rfl, hblock, place, k, u, rfl, ⟨i, rest, t, rfl, ht, hopen⟩, hbinds⟩
    exact ⟨j :: i :: rest, k, u, rfl, .inside hs hblock ht hopen, hbinds⟩
  · rintro ⟨place, k, u, rfl, hopen, hbinds⟩
    cases hopen with
    | self => exact absurd hbinds (Stmt.not_bindsAt_of_isOpen hs)
    | @inside _ t _ block i j rest _ hblock ht hopen =>
      exact ⟨j, i :: rest ++ [k], block, rfl, hblock, i :: rest, k, u, rfl,
        ⟨i, rest, t, rfl, ht, hopen⟩, hbinds⟩

/-- The bindings in every statement of a body are enumerated: one case for each kind of open
statement. -/
theorem enumerates_scope_of_mem (moduleName : String) (isPackage : Bool) (body : List Stmt) :
    ∀ s ∈ body, Enumerates (s.ImportsIn moduleName isPackage)
      (s.moduleScope.flatMap (Stmt.importBindings moduleName isPackage)) := by
  induction body using Stmt.scopeOf.induct
    (motive_1 := fun s => Enumerates (s.ImportsIn moduleName isPackage)
      (s.moduleScope.flatMap (Stmt.importBindings moduleName isPackage)))
    (motive_2 := fun bodies => ∀ body ∈ bodies, ∀ s ∈ body,
      Enumerates (s.ImportsIn moduleName isPackage)
        (s.moduleScope.flatMap (Stmt.importBindings moduleName isPackage))) with
  | case1 body otherwise ihbody ihotherwise =>
    have hboth :=
      And.intro (enumerates_scope_of_forall ihbody) (enumerates_scope_of_forall ihotherwise)
    exact enumerates_scope_of_isOpen trivial (by simpa [Stmt.blocks] using hboth)
  | case2 body handlers otherwise final ihbody ihhandlers ihotherwise ihfinal =>
    refine enumerates_scope_of_isOpen trivial fun block hblock => ?_
    simp only [Stmt.blocks, List.mem_cons, List.mem_append, List.not_mem_nil, or_false] at hblock
    rcases hblock with rfl | hblock | rfl | rfl
    · exact enumerates_scope_of_forall ihbody
    · exact enumerates_scope_of_forall (ihhandlers block hblock)
    · exact enumerates_scope_of_forall ihotherwise
    · exact enumerates_scope_of_forall ihfinal
  | case3 s hbranch htry =>
    refine enumerates_scope_of_not_isOpen fun hs => ?_
    cases s with
    | branch => exact hbranch _ _ rfl
    | tryBlock => exact htry _ _ _ _ rfl
    | _ => cases hs
  | case4 => exact fun s hs => absurd hs List.not_mem_nil
  | case5 s rest ih ihrest => exact List.forall_mem_cons.2 ⟨ih, ihrest⟩
  | case6 block hblock => cases hblock
  | case7 body rest ih ihrest block hblock s hs =>
    rcases List.mem_cons.1 hblock with rfl | hblock
    · exact ih s hs
    · exact ihrest block hblock s hs

theorem enumerates_scope (moduleName : String) (isPackage : Bool) (body : List Stmt) :
    Enumerates (ImportsAt moduleName isPackage body)
      ((Stmt.scopeOf body).flatMap (Stmt.importBindings moduleName isPackage)) :=
  enumerates_scope_of_forall (enumerates_scope_of_mem moduleName isPackage body)

end Scope

/-! ## Outlines -/

mutual

/-- The statement without the bodies that do not belong to the scope of a module. Line numbers go
too, since a body moves what stands behind it. -/
def Source.Stmt.outline : Stmt → Stmt
  | .function name parameters _ => .function name parameters []
  | .classDef _ name decorators _ => .classDef 0 name decorators []
  | .loop _ _ => .loop [] []
  | .withBlock _ => .withBlock []
  | .cases _ => .cases []
  | .branch body otherwise => .branch (outlineOf body) (outlineOf otherwise)
  | .tryBlock body handlers otherwise final =>
    .tryBlock (outlineOf body) (outlineOfAll handlers) (outlineOf otherwise) (outlineOf final)
  | s => s

def Source.Stmt.outlineOf : List Stmt → List Stmt
  | [] => []
  | s :: rest => s.outline :: outlineOf rest

def Source.Stmt.outlineOfAll : List (List Stmt) → List (List Stmt)
  | [] => []
  | body :: rest => outlineOf body :: outlineOfAll rest

end

namespace Source.Stmt

theorem importBindings_outline (moduleName : String) (isPackage : Bool) (s : Stmt) :
    s.outline.importBindings moduleName isPackage = s.importBindings moduleName isPackage := by
  cases s <;> simp [outline, importBindings]

/-- What runs in an outline is the outline of what runs. -/
theorem scopeOf_outlineOf (body : List Stmt) :
    scopeOf (outlineOf body) = (scopeOf body).map outline := by
  induction body using scopeOf.induct
    (motive_1 := fun s => s.outline.moduleScope = s.moduleScope.map outline)
    (motive_2 := fun bodies => scopeOfAll (outlineOfAll bodies) = (scopeOfAll bodies).map outline)
    with
  | case1 body otherwise ihbody ihotherwise =>
    simp only [outline, moduleScope, ihbody, ihotherwise, List.map_cons, List.map_append]
  | case2 body handlers otherwise final ihbody ihhandlers ihotherwise ihfinal =>
    simp only [outline, moduleScope, ihbody, ihhandlers, ihotherwise, ihfinal, List.map_cons,
      List.map_append]
  | case3 s hbranch htry =>
    cases s with
    | branch => exact (hbranch _ _ rfl).elim
    | tryBlock => exact (htry _ _ _ _ rfl).elim
    | _ => simp only [outline, moduleScope, List.map_singleton]
  | case4 => rfl
  | case5 s rest ih ihrest => rw [outlineOf, scopeOf, scopeOf, ih, ihrest, List.map_append]
  | case6 => rfl
  | case7 body rest ih ihrest =>
    rw [outlineOfAll, scopeOfAll, scopeOfAll, ih, ihrest, List.map_append]

end Source.Stmt

theorem ImportMap.ofModule_outlineOf (moduleName : String) (isPackage : Bool) (body : List Stmt) :
    ofModule moduleName isPackage (Stmt.outlineOf body) = ofModule moduleName isPackage body := by
  unfold ofModule
  simp only [Stmt.scopeOf_outlineOf, List.flatMap_map, Stmt.importBindings_outline]

/-! ## The last import of a name wins -/

section Last
variable {moduleName : String} {isPackage : Bool} {body : List Stmt}

theorem ImportMap.ofModule_eq_bindAll (moduleName : String) (isPackage : Bool)
    (body : List Stmt) : ofModule moduleName isPackage body =
      bindAll ((Stmt.scopeOf body).flatMap (Stmt.importBindings moduleName isPackage)) [] := rfl

theorem enumerates_importedNames (moduleName : String) (isPackage : Bool) (body : List Stmt) :
    Enumerates (fun a n => ∃ t, ImportsAt moduleName isPackage body a (n, t))
      (((Stmt.scopeOf body).flatMap (Stmt.importBindings moduleName isPackage)).map Prod.fst) := by
  refine (enumerates_scope moduleName isPackage body).map.congr fun a n => ?_
  constructor
  · rintro ⟨⟨n, t⟩, hb, rfl⟩
    exact ⟨t, hb⟩
  · rintro ⟨t, hb⟩
    exact ⟨(n, t), hb, rfl⟩

theorem ImportsAt.name_unique (a : List Nat) (n n' : String)
    (h : ∃ t, ImportsAt moduleName isPackage body a (n, t))
    (h' : ∃ t, ImportsAt moduleName isPackage body a (n', t)) : n' = n := by
  obtain ⟨t, hb⟩ := h
  obtain ⟨t', hb'⟩ := h'
  exact congrArg Prod.fst (hb.unique hb')

theorem exists_lookup_ofModule_iff {n : String} :
    (∃ t, (ImportMap.ofModule moduleName isPackage body).lookup n = some t) ↔
      ∃ a t, ImportsAt moduleName isPackage body a (n, t) := by
  rw [ImportMap.exists_lookup_iff, ImportMap.ofModule_eq_bindAll, ImportMap.names_bindAll,
    List.mem_eraseDups]
  exact (enumerates_importedNames moduleName isPackage body).mem_iff ImportsAt.name_unique

theorem lookup_ofModule_iff {n t : String} :
    (ImportMap.ofModule moduleName isPackage body).lookup n = some t ↔
      ∃ a, ImportsAt moduleName isPackage body a (n, t) ∧
        ∀ a' t', ImportsAt moduleName isPackage body a' (n, t') → ¬ a < a' := by
  rw [ImportMap.ofModule_eq_bindAll, ImportMap.lookup_bindAll_iff,
    (enumerates_scope moduleName isPackage body).last_iff (fun _ _ _ h h' => h.unique h')
      (q := fun b => b.1 = n)]
  refine exists_congr fun a => and_congr_right fun _ => forall_congr' fun a' => ?_
  constructor
  · intro h t' hb'
    exact h (n, t') hb' rfl
  · rintro h ⟨_, t'⟩ hb' rfl
    exact h t' hb'

theorem enumerates_names_ofModule (moduleName : String) (isPackage : Bool) (body : List Stmt) :
    Enumerates (fun a n => (∃ t, ImportsAt moduleName isPackage body a (n, t)) ∧
        ∀ a' t', ImportsAt moduleName isPackage body a' (n, t') → ¬ a' < a)
      ((ImportMap.ofModule moduleName isPackage body).map Prod.fst) := by
  rw [ImportMap.ofModule_eq_bindAll, ImportMap.names_bindAll]
  refine ((enumerates_importedNames moduleName isPackage body).eraseDups
    ImportsAt.name_unique).congr fun a n => and_congr_right fun _ => ?_
  simp only [forall_exists_index]

end Last

/-- The imports in the scope of a module. A name is bound just if there is one for it, to the target
of the last one, and the names are in the order of their first imports. Bodies that do not belong to
the scope do not count. -/
theorem ofModule_lastImport (moduleName : String) (isPackage : Bool) (body : List Stmt) :
    (∀ n, (∃ t, (ImportMap.ofModule moduleName isPackage body).lookup n = some t) ↔
      ∃ a t, ImportsAt moduleName isPackage body a (n, t)) ∧
    (∀ n t, (ImportMap.ofModule moduleName isPackage body).lookup n = some t ↔
      ∃ a, ImportsAt moduleName isPackage body a (n, t) ∧
        ∀ a' t', ImportsAt moduleName isPackage body a' (n, t') → ¬ a < a') ∧
    Enumerates (fun a n => (∃ t, ImportsAt moduleName isPackage body a (n, t)) ∧
        ∀ a' t', ImportsAt moduleName isPackage body a' (n, t') → ¬ a' < a)
      ((ImportMap.ofModule moduleName isPackage body).map Prod.fst) ∧
    ∀ body', Stmt.outlineOf body' = Stmt.outlineOf body →
      ImportMap.ofModule moduleName isPackage body' =
        ImportMap.ofModule moduleName isPackage body := by
  refine ⟨fun n => exists_lookup_ofModule_iff, fun n t => lookup_ofModule_iff,
    enumerates_names_ofModule moduleName isPackage body, fun body' hbody => ?_⟩
  rw [← ImportMap.ofModule_outlineOf, hbody, ImportMap.ofModule_outlineOf]

/-- A module that tries one package, falls back to another, and has a function. -/
def fallbackBody (inner : List Stmt) : List Stmt :=
  [.branch [.tryBlock [.importsFrom (some "fast") [⟨"route", none⟩] 0]
      [[.importsFrom (some "slow.urls") [⟨"path", some "route"⟩] 0]] []
      [.imports [⟨"os.path", none⟩]]] [],
    .function "load" [] inner]

/-- The import in the handler comes last, and one in the function does not count. -/
theorem ofModule_fallbackBody :
    (∃ a, ImportsAt "app" false (fallbackBody []) a ("route", "slow.urls.path") ∧
      ∀ a' t', ImportsAt "app" false (fallbackBody []) a' ("route", t') → ¬ a < a') ∧
    Stmt.outlineOf (fallbackBody [.imports [⟨"late", some "route"⟩]]) =
      Stmt.outlineOf (fallbackBody []) ∧
    ImportMap.ofModule "app" false (fallbackBody [.imports [⟨"late", some "route"⟩]]) =
      ImportMap.ofModule "app" false (fallbackBody []) := by
  obtain ⟨-, hlookup, -, hbodies⟩ := ofModule_lastImport "app" false (fallbackBody [])
  exact ⟨(hlookup "route" "slow.urls.path").1 (by decide), rfl, hbodies _ rfl⟩

end Sitemap
