import Sitemap.Proofs.Store.Writing

/-!
# Trees of files

* `Store.IsTree` : every location is there once, with a directory around it, and has names that a
  path can have; `directory_take` : all that is around a location are directories;
* `SameShape` : files and directories are at the same locations; `at?_eq`, `isFile_eq` : paths
  lead to the same;
* `DiffersOnlyAt` : there is no difference but in the content of one file; `IsTree.set` : such a
  change leaves a tree.
-/

namespace Sitemap.Store

/-- The locations make a tree: each is there once and has a directory around it, and a path can
lead to it. -/
structure IsTree (s : Store) : Prop where
  nodup : s.locations.Nodup
  name : ∀ l ∈ s.locations, ∀ name ∈ l, IsName name ∧ name ≠ "." ∧ name ≠ ".."
  directory : ∀ l ∈ s.locations, s.item? l.dropLast = some .directory

/-- Files and directories are at the same locations. -/
structure SameShape (s t : Store) : Prop where
  directory : ∀ l, t.item? l = some .directory ↔ s.item? l = some .directory
  file : ∀ l, (∃ content, t.item? l = some (.file content)) ↔
    ∃ content, s.item? l = some (.file content)

/-- There is no difference but in the content of the file at a location. -/
structure DiffersOnlyAt (s t : Store) (at_ : Location) : Prop where
  before : ∃ content, s.item? at_ = some (.file content)
  after : ∃ content, t.item? at_ = some (.file content)
  elsewhere : ∀ l ≠ at_, t.item? l = s.item? l

section Locations
variable {s : Store} {l : Location}

theorem isSome_item?_iff (hne : l ≠ []) : (s.item? l).isSome ↔ l ∈ s.locations := by
  rw [item?, if_neg hne, List.lookup_isSome_iff, locations, List.mem_map]
  exact exists_congr fun p => and_congr_right fun _ => beq_iff_eq.trans eq_comm

theorem IsTree.directory_take (h : s.IsTree) (hl : (s.item? l).isSome) :
    ∀ n < l.length, s.item? (l.take n) = some .directory := by
  induction l using List.reverseRecOn with
  | nil => exact fun n hn => absurd hn (Nat.not_lt_zero n)
  | append_singleton init name ih =>
    have hinit := h.directory _ ((isSome_item?_iff (by simp)).1 hl)
    rw [List.dropLast_concat] at hinit
    exact (forall_take_concat (P := fun l => s.item? l = some .directory)).2
      ⟨ih (Option.isSome_of_eq_some hinit), hinit⟩

theorem IsTree.name_of_item? (h : s.IsTree) (hl : (s.item? l).isSome) :
    ∀ name ∈ l, IsName name ∧ name ≠ "." ∧ name ≠ ".." := by
  by_cases hne : l = []
  · subst hne
    exact nofun
  · exact h.name l ((isSome_item?_iff hne).1 hl)

end Locations

/-! ## The same shape -/

section Shape
variable {s t : Store}

theorem SameShape.isSome (h : SameShape s t) (l : Location) :
    (t.item? l).isSome = (s.item? l).isSome := by
  have hsome : ∀ u : Store, (u.item? l).isSome ↔
      u.item? l = some .directory ∨ ∃ content, u.item? l = some (.file content) := by
    intro u
    cases hu : u.item? l with
    | none => simp
    | some i => cases i <;> simp
  rw [Bool.eq_iff_iff, hsome, hsome, h.directory, h.file]

theorem SameShape.at?_eq (h : SameShape s t) (p : Path) : t.at? p = s.at? p := by
  ext l
  rw [at?_eq_some, at?_eq_some, follow_congr h.directory, h.isSome]

theorem SameShape.isFile_eq (h : SameShape s t) (path : String) :
    t.isFile path = s.isFile path := by
  have hfile : ∀ u : Store, u.isFile path = true ↔
      ∃ l, u.locate path = .ok l ∧ ∃ content, u.item? l = some (.file content) := by
    intro u
    simp only [isFile_iff, item_eq_ok]
    exact ⟨fun ⟨c, l, hl, hc⟩ => ⟨l, hl, c, hc⟩, fun ⟨l, hl, c, hc⟩ => ⟨c, l, hl, hc⟩⟩
  rw [Bool.eq_iff_iff, hfile, hfile]
  exact exists_congr fun l => and_congr (locate_congr h.directory) (h.file l)

theorem SameShape.mem_locations (h : SameShape s t) {l : Location} (hne : l ≠ []) :
    l ∈ t.locations ↔ l ∈ s.locations := by
  rw [← isSome_item?_iff hne, ← isSome_item?_iff hne, h.isSome]

theorem DiffersOnlyAt.sameShape {at_ : Location} (h : DiffersOnlyAt s t at_) : SameShape s t := by
  obtain ⟨old, hold⟩ := h.before
  obtain ⟨new, hnew⟩ := h.after
  constructor
  all_goals
    intro l
    by_cases hl : l = at_
    · simp [hl, hold, hnew]
    · rw [h.elsewhere l hl]

/-! ## Another content -/

section Content
variable {at_ : Location} {old : List UInt8} (hold : s.item? at_ = some (.file old))
  (new : List UInt8)
include hold

theorem ne_nil_of_file : at_ ≠ [] := by
  rintro rfl
  cases hold

theorem differsOnlyAt_set : DiffersOnlyAt s (s.set at_ (.file new)) at_ := by
  have hne := ne_nil_of_file hold
  refine ⟨⟨old, hold⟩, ⟨new, ?_⟩, fun l hl => ?_⟩
  · rw [item?_set hne, if_pos rfl]
  · rw [item?_set hne, if_neg hl]

theorem IsTree.set (h : s.IsTree) : (s.set at_ (.file new)).IsTree := by
  have hlocations : (s.set at_ (.file new)).locations = s.locations := locations_set
    ((isSome_item?_iff (ne_nil_of_file hold)).1 (Option.isSome_of_eq_some hold)) _
  have hshape := (differsOnlyAt_set hold new).sameShape
  refine ⟨hlocations ▸ h.nodup, hlocations ▸ h.name, fun l hl => ?_⟩
  exact (hshape.directory _).2 (h.directory l (hlocations ▸ hl))

end Content

end Shape

end Sitemap.Store
