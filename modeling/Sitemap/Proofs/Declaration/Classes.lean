import Sitemap.Proofs.Declaration.Faults
import Sitemap.Proofs.Source.Grammar

/-!
# The declarations of a source are its classes

* `Declares` : a declaration says of a class what the class is;
* `inspect_classes` : the declarations of a source stand for its classes, each once and in order,
  with increasing lines.
-/

namespace Sitemap

open Source

/-- A declaration says what a class is: its names, its line, and the annotations of its
decorators. -/
structure Declares (r : Resolver) (c : ClassSite) (d : Declaration) : Prop where
  name : d.name = c.name
  qualname : d.qualname = ".".intercalate (c.scopes ++ [c.name])
  moduleName : d.moduleName = r.moduleName
  path : d.path = r.path
  line : d.line = c.line
  annotations : c.decorators.mapM r.annotation = .ok d.annotations

theorem declares_of_declare {r : Resolver} {c : ClassSite} {d : Declaration}
    (h : r.declare [] c = .ok d) : Declares r c d := by
  obtain ⟨annotations, hannotations, h⟩ := bind_eq_ok.1 h
  cases h
  exact ⟨rfl, rfl, rfl, rfl, rfl, hannotations⟩

theorem lines_of_declares {r : Resolver} {cs : List ClassSite} {ds : List Declaration}
    (h : List.Forall₂ (Declares r) cs ds) : cs.map (·.line) = ds.map (·.line) := by
  induction h with
  | nil => rfl
  | cons hd _ ih => rw [List.map_cons, List.map_cons, hd.line, ih]

/-- The declarations of a source without a decorator that breaks are its class statements: each
once, in the order of their addresses, named by the scopes around it, and on increasing lines. -/
theorem inspect_classes {source : Input} {body : List Stmt} {moduleName path : String}
    {isPackage : Bool} (hparse : Source.parseInput? source = some body)
    (hdecorators : ∀ a c, IsClassAt body a c → ∀ d ∈ c.decorators,
      ¬ (Resolver.ofModule moduleName path isPackage body).Breaks d) :
    ∃ ds places, inspect source moduleName path isPackage = .ok ds ∧
      places.Pairwise (· < ·) ∧ (∀ a, a ∈ places ↔ ∃ c, IsClassAt body a c) ∧
      List.Forall₂ (fun a d => ∃ c, IsClassAt body a c ∧
        Declares (Resolver.ofModule moduleName path isPackage body) c d) places ds ∧
      (ds.map (·.line)).Pairwise (· < ·) := by
  obtain ⟨ds, hds⟩ := (inspects_iff hparse moduleName path isPackage).2 hdecorators
  obtain ⟨places, hsorted, hmatch, hall⟩ := enumerates_classesOf body
  have hdeclared : List.Forall₂ (Declares (Resolver.ofModule moduleName path isPackage body))
      (classesOf body) ds := by
    rw [inspect_of_parse hparse] at hds
    exact (forall₂_of_mapM hds).imp fun c d => declares_of_declare
  refine ⟨ds, places, hds, hsorted, fun a => ⟨fun ha => ?_, ?_⟩, forall₂_comp hmatch hdeclared, ?_⟩
  · obtain ⟨c, -, hc⟩ := exists_of_mem_forall₂ hmatch a ha
    exact ⟨c, hc⟩
  · rintro ⟨c, hc⟩
    exact hall a c hc
  · rw [← lines_of_declares hdeclared]
    exact parseInput?_lines hparse

def nestedSource : String :=
  "class A:\n    def f(self):\n        class B: pass\n    class C: pass\n"

theorem names_nestedSource :
    (inspect (.text nestedSource) "" "<string>" false).toOption.map
      (·.map fun d => (d.qualname, d.line)) =
        some [("A", 1), ("A.f.<locals>.B", 3), ("A.C", 4)] := by
  decide +kernel

theorem inspect_nestedSource : ∃ body, Source.parseInput? (.text nestedSource) = some body ∧
    ∃ ds places, inspect (.text nestedSource) "" "<string>" false = .ok ds ∧
      places.Pairwise (· < ·) ∧ (∀ a, a ∈ places ↔ ∃ c, IsClassAt body a c) ∧
      List.Forall₂ (fun a d => ∃ c, IsClassAt body a c ∧
        Declares (Resolver.ofModule "" "<string>" false body) c d) places ds ∧
      (ds.map (·.line)).Pairwise (· < ·) := by
  obtain ⟨ds, hds, -⟩ := Option.map_eq_some_iff.1 names_nestedSource
  rw [← Option.mem_def, mem_toOption] at hds
  cases hparse : Source.parseInput? (.text nestedSource) with
  | none =>
    rw [inspect, hparse] at hds
    cases hds
  | some body => exact ⟨body, rfl, inspect_classes hparse ((inspects_iff hparse _ _ _).1 ⟨ds, hds⟩)⟩

/-- A class in a function, with a decorator that gets the sum of `2 ^ 1024` and an imaginary
number. -/
def overflowingFactory : String :=
  "def factory():\n    @page(0x1" ++ String.ofList (List.replicate 256 '0') ++
    "+1j)\n    class Page:\n        pass\n"

theorem toList_overflowingFactory : overflowingFactory.toList =
    "def factory():\n    @page(0x1".toList ++ List.replicate 256 '0' ++
      "+1j)\n    class Page:\n        pass\n".toList := by
  unfold overflowingFactory
  exact toList_append_ofList_append _ _ _

theorem fault?_overflowingFactory :
    fault? (inspect (.text overflowingFactory) "" "<string>" false) = some .tooLarge := by
  -- the text is evaluated as its characters, without its bytes
  rw [inspect, Source.parseInput?, toList_overflowingFactory]
  decide +kernel

/-- The source can be parsed, but its class is not declared. -/
theorem inspect_overflowingFactory :
    (∃ body, Source.parseInput? (.text overflowingFactory) = some body) ∧
      ∀ ds, inspect (.text overflowingFactory) "" "<string>" false ≠ .ok ds := by
  have hfault := fault?_eq_some.1 fault?_overflowingFactory
  constructor
  · cases hparse : Source.parseInput? (.text overflowingFactory) with
    | none =>
      rw [inspect, hparse] at hfault
      cases hfault
    | some body => exact ⟨body, rfl⟩
  · intro ds hds
    cases hfault.symm.trans hds

end Sitemap
