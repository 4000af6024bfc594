import Sitemap.Proofs.Store.Following

/-!
# Writing a file

* `Store.locations` : all locations but the working directory;
* `item?_set`, `filter_locations_set` : what is at each location after one has changed;
* `IsTarget.locate_set`, `IsTarget.holds_set` : paths lead to where they did before a file was
  written;
* `IsTarget.readBytes_set`, `IsTarget.readBytes_set_of_ne` : that file has the new content, the
  others have theirs;
* `writeBytes_eq_ok` : what a success of writing says.
-/

namespace Sitemap.Store

/-! ## One location -/

/-- All locations but the working directory. -/
def locations (s : Store) : List Location := s.items.map Prod.fst

section Set
variable {s : Store} {at_ : Location}

theorem lookup_set_go (items : List (Location × Item)) (i : Item) (l : Location) :
    (set.go at_ i items).lookup l = if l = at_ then some i else items.lookup l := by
  induction items with
  | nil =>
    rw [set.go, List.lookup_cons]
    by_cases h : l = at_
    · simp [h]
    · have hlk : (l == at_) = false := by simpa using h
      simp [h, hlk]
  | cons first rest ih =>
    obtain ⟨k, j⟩ := first
    by_cases hk : k = at_
    · rw [set.go, if_pos hk, List.lookup_cons, List.lookup_cons]
      by_cases h : l = at_
      · simp [h, hk]
      · have hlk : (l == k) = false := by simpa [hk] using h
        simp [h, hlk]
    · rw [set.go, if_neg hk, List.lookup_cons, List.lookup_cons, ih]
      by_cases h : l = k
      · simp [h, hk]
      · have hlk : (l == k) = false := by simpa using h
        simp [hlk]

theorem item?_set (hat : at_ ≠ []) (i : Item) (l : Location) :
    (s.set at_ i).item? l = if l = at_ then some i else s.item? l := by
  unfold item? set
  by_cases hl : l = []
  · rw [if_pos hl, if_neg (fun h => hat (h.symm.trans hl)), if_pos hl]
  · rw [if_neg hl, if_neg hl, lookup_set_go]

theorem filter_locations_set (i : Item) :
    (s.set at_ i).locations.filter (· ≠ at_) = s.locations.filter (· ≠ at_) := by
  unfold locations set
  induction s.items with
  | nil => simp [set.go]
  | cons first rest ih =>
    obtain ⟨k, j⟩ := first
    by_cases hk : k = at_
    · simp [set.go, hk]
    · simpa [set.go, hk] using ih

theorem locations_set (hat : at_ ∈ s.locations) (i : Item) :
    (s.set at_ i).locations = s.locations := by
  unfold locations set at *
  generalize s.items = items at hat ⊢
  induction items with
  | nil => cases hat
  | cons first rest ih =>
    obtain ⟨k, j⟩ := first
    by_cases hk : k = at_
    · simp [set.go, hk]
    · have hrest : at_ ∈ rest.map Prod.fst :=
        (List.mem_cons.1 hat).resolve_left fun heq => hk heq.symm
      simp only [set.go, if_neg hk, List.map_cons, ih hrest]

end Set

/-! ## A file that is written -/

section Write
variable {s : Store} {path p : String} {at_ l l' : Location} {name : String}

theorem IsTarget.locate (h : s.IsTarget path at_) : s.locate path = .ok at_ := by
  have hname : at_.getLast? = some (at_.getLast h.ne_nil) := List.getLast?_eq_some_getLast h.ne_nil
  obtain ⟨init, hinit⟩ := List.getLast?_eq_some_iff.1 (h.last.trans hname)
  obtain ⟨hpoint, hpoints⟩ := h.name _ hname
  have hparent : s.follow init = .ok at_.dropLast := by
    simpa [hinit] using h.follow_parent
  refine locate_eq_ok.2 ⟨h.not_empty, ?_⟩
  rw [hinit, follow_concat]
  refine ⟨_, hparent, (step_name h.parent hpoint hpoints).trans ?_⟩
  rw [List.dropLast_concat_getLast]

variable (h : s.IsTarget path at_) (content : List UInt8)
include h

theorem IsTarget.item?_set_self : (s.set at_ (.file content)).item? at_ = some (.file content) := by
  rw [item?_set h.ne_nil, if_pos rfl]

theorem IsTarget.item?_set_of_ne (hl : l ≠ at_) :
    (s.set at_ (.file content)).item? l = s.item? l := by
  rw [item?_set h.ne_nil, if_neg hl]

theorem IsTarget.directory_set :
    (s.set at_ (.file content)).item? l = some .directory ↔ s.item? l = some .directory := by
  by_cases hl : l = at_
  · rw [hl, h.item?_set_self]
    exact ⟨nofun, fun hd => absurd hd h.not_directory⟩
  · rw [h.item?_set_of_ne content hl]

theorem IsTarget.follow_set (names : List String) :
    (s.set at_ (.file content)).follow names = .ok l ↔ s.follow names = .ok l :=
  follow_congr (fun _ => h.directory_set content) names

theorem IsTarget.locate_set :
    (s.set at_ (.file content)).locate p = .ok l ↔ s.locate p = .ok l :=
  locate_congr fun _ => h.directory_set content

theorem IsTarget.set : (s.set at_ (.file content)).IsTarget path at_ :=
  h.congr fun _ => h.directory_set content

theorem IsTarget.isSome_item?_set (hl : (s.item? l).isSome) :
    ((s.set at_ (.file content)).item? l).isSome := by
  rw [item?_set h.ne_nil]
  split
  · rfl
  · exact hl

theorem IsTarget.holds_set (hp : s.holds p = true) :
    (s.set at_ (.file content)).holds p = true := by
  obtain ⟨i, hi⟩ := holds_iff.1 hp
  obtain ⟨l, hl, hitem⟩ := item_eq_ok.1 hi
  obtain ⟨j, hj⟩ := Option.isSome_iff_exists.1
    (h.isSome_item?_set content (Option.isSome_of_eq_some hitem))
  exact holds_iff.2 ⟨j, item_eq_ok.2 ⟨l, (h.locate_set content).2 hl, hj⟩⟩

theorem IsTarget.item_set_of_ne (hp : s.locate p ≠ .ok at_) {i : Item} :
    (s.set at_ (.file content)).item p = .ok i ↔ s.item p = .ok i := by
  rw [item_eq_ok, item_eq_ok]
  refine exists_congr fun l => ?_
  rw [h.locate_set content]
  refine and_congr_right fun hl => ?_
  rw [h.item?_set_of_ne content fun hat => hp (hl.trans (congrArg _ hat))]

theorem IsTarget.isFile_set_of_ne (hp : s.locate p ≠ .ok at_) :
    (s.set at_ (.file content)).isFile p = s.isFile p := by
  rw [Bool.eq_iff_iff, isFile_iff, isFile_iff]
  exact exists_congr fun _ => h.item_set_of_ne content hp

theorem IsTarget.readBytes_set_of_ne (hp : s.locate p ≠ .ok at_) {bytes : List UInt8} :
    (s.set at_ (.file content)).readBytes p = .ok bytes ↔ s.readBytes p = .ok bytes := by
  rw [readBytes_eq_ok, readBytes_eq_ok, h.item_set_of_ne content hp]

theorem IsTarget.readBytes_set (hp : s.locate p = .ok at_) :
    (s.set at_ (.file content)).readBytes p = .ok content :=
  readBytes_eq_ok.2 (item_eq_ok.2 ⟨at_, (h.locate_set content).2 hp, h.item?_set_self content⟩)

end Write

theorem writeBytes_eq_ok {s t : Store} {path : String} {content : List UInt8}
    (h : s.writeBytes path content = .ok t) :
    ∃ at_, s.IsTarget path at_ ∧ t = s.set at_ (.file content) := by
  unfold writeBytes at h
  split at h
  · rename_i at_ hat
    cases h
    exact ⟨at_, target_eq_ok hat, rfl⟩
  · cases h

end Sitemap.Store
