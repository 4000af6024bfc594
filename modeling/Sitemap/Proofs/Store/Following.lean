import Mathlib.Data.List.Induction
import Sitemap.Proofs.Except
import Sitemap.Proofs.Store.Paths
import Sitemap.Store.Files

/-!
# Following paths

* `step_eq_ok`, `follow_concat` : what one more name does;
* `directory_of_follow`, `name_of_follow` : what is on the way to a location, and its names;
* `locate_eq_ok`, `item_eq_ok`, `at?_eq_some` : a path that leads to something;
* `follow_congr`, `locate_congr` : where a path leads depends on the directories only;
* `IsTarget`, `target_eq_ok` : a location that a path leads to, to be written to
  (`target_congr`: it depends on the directories only, too).
-/

namespace Sitemap.Store

section Steps
variable {s : Store} {names : List String} {name : String} {at_ l : Location}

/-- A name is followed from a directory only. -/
theorem step_eq_ok : s.step at_ name = .ok l ↔ s.item? at_ = some .directory ∧
    (name = "." ∧ l = at_ ∨ name = ".." ∧ at_ ≠ [] ∧ l = at_.dropLast ∨
      name ≠ "." ∧ name ≠ ".." ∧ l = at_ ++ [name]) := by
  unfold step
  split
  · rename_i h
    simp [h]
  · rename_i h
    simp [h]
  · rename_i h
    by_cases hpoint : name = "."
    · simp [h, hpoint, eq_comm]
    · by_cases hpoints : name = ".."
      · by_cases hroot : at_ = []
        · simp [hpoints, hroot]
        · simp [h, hpoints, hroot, eq_comm]
      · simp [h, hpoint, hpoints, eq_comm]

theorem step_name (hdirectory : s.item? at_ = some .directory) (hpoint : name ≠ ".")
    (hpoints : name ≠ "..") : s.step at_ name = .ok (at_ ++ [name]) :=
  step_eq_ok.2 ⟨hdirectory, .inr (.inr ⟨hpoint, hpoints, rfl⟩)⟩

theorem follow_append (names more : List String) :
    s.follow (names ++ more) = s.follow names >>= fun at_ => more.foldlM s.step at_ := by
  unfold follow
  rw [List.foldlM_append]

theorem follow_concat : s.follow (names ++ [name]) = .ok l ↔
    ∃ at_, s.follow names = .ok at_ ∧ s.step at_ name = .ok l := by
  rw [follow_append, bind_eq_ok]
  refine exists_congr fun at_ => and_congr_right fun _ => ?_
  rw [List.foldlM_cons, bind_eq_ok]
  constructor
  · rintro ⟨a, h, ha⟩
    cases ha
    exact h
  · exact fun h => ⟨l, h, rfl⟩

theorem directory_of_follow (h : s.follow names = .ok l) :
    ∀ n < l.length, s.item? (l.take n) = some .directory := by
  refine foldlM_invariant (P := fun l => ∀ n < l.length, s.item? (l.take n) = some .directory) ?_
    (fun _ hn => absurd hn (Nat.not_lt_zero _)) h
  intro name _ at_ l hat hstep
  obtain ⟨hdirectory, ⟨-, rfl⟩ | ⟨-, -, rfl⟩ | ⟨-, -, rfl⟩⟩ := step_eq_ok.1 hstep
  · exact hat
  · intro n hn
    rw [List.length_dropLast] at hn
    rw [List.dropLast_eq_take, List.take_take, Nat.min_eq_left (Nat.le_of_lt hn)]
    exact hat n (by omega)
  · exact (forall_take_concat (P := fun l => s.item? l = some .directory)).2 ⟨hat, hdirectory⟩

theorem name_of_follow (h : s.follow names = .ok l) :
    ∀ name ∈ l, name ∈ names ∧ name ≠ "." ∧ name ≠ ".." := by
  refine foldlM_invariant
    (P := fun l => ∀ name ∈ l, name ∈ names ∧ name ≠ "." ∧ name ≠ "..") ?_
    (fun _ hmem => absurd hmem List.not_mem_nil) h
  intro name hname at_ l hat hstep
  obtain ⟨-, ⟨-, rfl⟩ | ⟨-, -, rfl⟩ | ⟨hpoint, hpoints, rfl⟩⟩ := step_eq_ok.1 hstep
  · exact hat
  · exact fun name' hmem => hat name' (List.dropLast_subset _ hmem)
  · rw [List.forall_mem_append, List.forall_mem_singleton]
    exact ⟨hat, hname, hpoint, hpoints⟩

/-- Names lead further down along directories. -/
theorem foldlM_step {names : List String} (hnames : ∀ name ∈ names, name ≠ "." ∧ name ≠ "..")
    (hway : ∀ n < names.length, s.item? (at_ ++ names.take n) = some .directory) :
    names.foldlM s.step at_ = .ok (at_ ++ names) := by
  induction names generalizing at_ with
  | nil => simp; rfl
  | cons name names ih =>
    obtain ⟨hpoint, hpoints⟩ := hnames name List.mem_cons_self
    have hat : s.item? at_ = some .directory := by
      have h := hway 0 (by simp)
      rwa [List.take_zero, List.append_nil] at h
    rw [List.foldlM_cons, step_name hat hpoint hpoints]
    have hbelow : ∀ n < names.length,
        s.item? (at_ ++ [name] ++ names.take n) = some .directory := by
      intro n hn
      have h := hway (n + 1) (by simpa using hn)
      rw [List.append_assoc]
      rwa [List.take_succ_cons] at h
    have hrest := ih (fun name hmem => hnames name (List.mem_cons_of_mem _ hmem)) hbelow
    rw [List.append_assoc] at hrest
    exact hrest

end Steps

/-! ## The same directories -/

section Directories
variable {s t : Store} (h : ∀ l, t.item? l = some .directory ↔ s.item? l = some .directory)
include h

theorem step_congr {at_ l : Location} {name : String} :
    t.step at_ name = .ok l ↔ s.step at_ name = .ok l := by
  rw [step_eq_ok, step_eq_ok, h]

theorem follow_congr (names : List String) {l : Location} :
    t.follow names = .ok l ↔ s.follow names = .ok l := by
  induction names using List.reverseRecOn generalizing l with
  | nil => exact Iff.rfl
  | append_singleton names name ih =>
    rw [follow_concat, follow_concat]
    exact exists_congr fun l' => and_congr ih (step_congr h)

end Directories

/-! ## Paths -/

section Paths
variable {s : Store} {path : String} {l : Location}

theorem locate_eq_ok :
    s.locate path = .ok l ↔ path.isEmpty = false ∧ s.follow (pathNames path) = .ok l := by
  unfold locate
  cases path.isEmpty <;> simp

theorem locate_congr {t : Store}
    (h : ∀ l, t.item? l = some .directory ↔ s.item? l = some .directory) :
    t.locate path = .ok l ↔ s.locate path = .ok l := by
  rw [locate_eq_ok, locate_eq_ok, follow_congr h]

theorem locate_text {names : List String} (hnames : ∀ name ∈ names, IsName name)
    (hne : names ≠ []) : s.locate (Path.mk names).text = .ok l ↔ s.follow names = .ok l := by
  rw [locate_eq_ok, text_isEmpty hnames, pathNames_text hnames hne]
  exact and_iff_right rfl

theorem name_of_locate (h : s.locate path = .ok l) :
    ∀ name ∈ l, IsName name ∧ name ≠ "." ∧ name ≠ ".." := by
  intro name hmem
  obtain ⟨hname, hpoints⟩ := name_of_follow (locate_eq_ok.1 h).2 name hmem
  refine ⟨?_, hpoints⟩
  rcases pathNames_eq_or path with hnames | hnames
  · rw [hnames] at hname
    exact isName_of_mem_namesIn hname
  · rw [hnames, List.mem_append, List.mem_singleton] at hname
    exact isName_of_mem_namesIn (hname.resolve_right hpoints.1)

theorem item_eq_ok {i : Item} :
    s.item path = .ok i ↔ ∃ l, s.locate path = .ok l ∧ s.item? l = some i := by
  unfold item
  rw [bind_eq_ok]
  refine exists_congr fun l => and_congr_right fun _ => ?_
  cases s.item? l with
  | none => simp
  | some item => simp [pure, Except.pure]

theorem holds_iff : s.holds path = true ↔ ∃ i, s.item path = .ok i := by
  unfold holds
  cases s.item path <;> simp [Except.toOption]

theorem isFile_iff : s.isFile path = true ↔ ∃ content, s.item path = .ok (.file content) := by
  unfold isFile
  split
  · rename_i content h
    simp [h]
  · rename_i h
    simpa using h

theorem isDirectory_iff : s.isDirectory path = true ↔ s.item path = .ok .directory := by
  unfold isDirectory
  split
  · rename_i h
    simp [h]
  · rename_i h
    simpa using h

theorem readBytes_eq_ok {content : List UInt8} :
    s.readBytes path = .ok content ↔ s.item path = .ok (.file content) := by
  unfold readBytes
  split
  · rename_i h
    simp [h]
  · rename_i h
    simp [h]
  · rename_i h
    simp [h]

theorem at?_eq_some {p : Path} {l : Location} :
    s.at? p = some l ↔ s.follow p.names = .ok l ∧ (s.item? l).isSome := by
  unfold at?
  split
  · rename_i l' hl'
    rw [hl', Except.ok.injEq]
    constructor
    · intro hsome
      split at hsome
      · rename_i hitem
        cases hsome
        exact ⟨rfl, hitem⟩
      · cases hsome
    · rintro ⟨rfl, hitem⟩
      rw [if_pos hitem]
  · rename_i hl'
    simp [hl']

end Paths

/-! ## Targets -/

/-- A location that a path leads to and that a file can be written to: its directory is there, and
it is no directory itself. -/
structure IsTarget (s : Store) (path : String) (at_ : Location) : Prop where
  not_empty : path.isEmpty = false
  follow_parent : s.follow (pathNames path).dropLast = .ok at_.dropLast
  last : (pathNames path).getLast? = at_.getLast?
  ne_nil : at_ ≠ []
  name : ∀ name ∈ at_.getLast?, name ≠ "." ∧ name ≠ ".."
  parent : s.item? at_.dropLast = some .directory
  not_directory : s.item? at_ ≠ some .directory

theorem target_eq_ok {s : Store} {path : String} {at_ : Location} (h : s.target path = .ok at_) :
    s.IsTarget path at_ := by
  unfold target at h
  by_cases hempty : path.isEmpty
  · rw [if_pos hempty] at h
    cases h
  rw [if_neg hempty] at h
  obtain ⟨parent, hparent, h⟩ := bind_eq_ok.1 h
  split at h
  case h_1 | h_2 | h_3 => cases h
  case h_4 name hdirectory hlast =>
    split at h
    case isTrue => cases h
    case isFalse hpoints =>
      split at h
      case h_1 => cases h
      case h_2 hfree =>
        cases h
        exact {
          not_empty := by simpa using hempty
          follow_parent := by rw [List.dropLast_concat, hparent]
          last := by rw [List.getLast?_concat, hlast]
          ne_nil := by simp
          name := by simpa [not_or] using hpoints
          parent := by rw [List.dropLast_concat, hdirectory]
          not_directory := hfree }

theorem IsTarget.target_eq {s : Store} {path : String} {at_ : Location} (h : s.IsTarget path at_) :
    s.target path = .ok at_ := by
  have hlast := h.last.trans (List.getLast?_eq_some_getLast h.ne_nil)
  have hname := h.name _ (List.getLast?_eq_some_getLast h.ne_nil)
  have hat := h.not_directory
  rw [← List.dropLast_concat_getLast h.ne_nil] at hat
  unfold target
  rw [if_neg (Bool.eq_false_iff.1 h.not_empty)]
  refine bind_eq_ok.2 ⟨_, h.follow_parent, ?_⟩
  simp only [h.parent, hlast]
  rw [if_neg (not_or.2 hname), List.dropLast_concat_getLast]

section Directories
variable {s t : Store} {path : String} {at_ : Location}

theorem IsTarget.congr (h : ∀ l, t.item? l = some .directory ↔ s.item? l = some .directory)
    (hat : s.IsTarget path at_) : t.IsTarget path at_ where
  not_empty := hat.not_empty
  follow_parent := (follow_congr h _).2 hat.follow_parent
  last := hat.last
  ne_nil := hat.ne_nil
  name := hat.name
  parent := (h _).2 hat.parent
  not_directory := fun hdirectory => hat.not_directory ((h _).1 hdirectory)

theorem target_congr (h : ∀ l, t.item? l = some .directory ↔ s.item? l = some .directory) :
    t.target path = .ok at_ ↔ s.target path = .ok at_ := by
  constructor
  · intro htarget
    exact ((target_eq_ok htarget).congr fun l => (h l).symm).target_eq
  · intro htarget
    exact ((target_eq_ok htarget).congr h).target_eq

end Directories

end Sitemap.Store
