import Sitemap.Log.Setup
import Sitemap.Proofs.Store.Writing

/-!
# What stays in a store

* `Store.Frame` : outside some locations the files are the same, and directories stay
  (`refl`, `trans`, `mono`), so that names lead to where they did (`Frame.follow`);
* `Store.content` : what a file holds (`item?_append`: behind which something is put);
* `Store.Rewrites` : only what some files hold has changed (`frame`, `locate_eq`, `item_eq`);
* `item?_openFile`, `rewrites_write`, `setup_eq_ok` : opening a log file, writing to a log, and what
  setting it up leaves alone.
-/

namespace Sitemap

namespace Store

/-! ## Frames -/

/-- The files outside some locations are the same in two stores, and directories stay. -/
structure Frame (P : Location → Prop) (s t : Store) : Prop where
  file : ∀ l, ¬ P l → ∀ content, t.item? l = some (.file content) ↔ s.item? l = some (.file content)
  directory : ∀ l, s.item? l = some .directory → t.item? l = some .directory

/-- The files are the same. -/
abbrev SameFiles : Store → Store → Prop := Frame fun _ => False

section Frame
variable {P Q : Location → Prop} {s t u : Store} {path : String} {l : Location}

theorem Frame.refl (P : Location → Prop) (s : Store) : Frame P s s :=
  ⟨fun _ _ _ => Iff.rfl, fun _ h => h⟩

theorem Frame.trans (h : Frame P s t) (h' : Frame P t u) : Frame P s u where
  file l hl content := (h'.file l hl content).trans (h.file l hl content)
  directory l hl := h'.directory l (h.directory l hl)

theorem Frame.mono (h : Frame P s t) (hPQ : ∀ l, P l → Q l) : Frame Q s t where
  file l hl := h.file l fun hP => hl (hPQ l hP)
  directory := h.directory

theorem Frame.follow (h : Frame P s t) {names : List String} (hs : s.follow names = .ok l) :
    t.follow names = .ok l := by
  induction names using List.reverseRecOn generalizing l with
  | nil => exact hs
  | append_singleton names name ih =>
    obtain ⟨at_, hat, hstep⟩ := follow_concat.1 hs
    obtain ⟨hdirectory, hname⟩ := step_eq_ok.1 hstep
    exact follow_concat.2 ⟨at_, ih hat, step_eq_ok.2 ⟨h.directory _ hdirectory, hname⟩⟩

theorem frame_set {at_ : Location} (hne : at_ ≠ []) (hat : s.item? at_ ≠ some .directory)
    (i : Item) : Frame (· = at_) s (s.set at_ i) where
  file l hl content := by rw [item?_set hne, if_neg hl]
  directory l hl := by
    rw [item?_set hne]
    split
    · rename_i heq
      rw [heq] at hl
      exact absurd hl hat
    · exact hl

theorem sameFiles_set {at_ : Location} (hat : s.item? at_ = none) :
    s.SameFiles (s.set at_ .directory) := by
  have hne : at_ ≠ [] := by
    rintro rfl
    cases hat
  refine ⟨fun l _ content => ?_, (frame_set hne (by rw [hat]; nofun) _).directory⟩
  rw [item?_set hne]
  split
  · rename_i heq
    rw [heq, hat]
    exact ⟨nofun, nofun⟩
  · rfl

end Frame

/-! ## Contents -/

def content (s : Store) (l : Location) : List UInt8 :=
  match s.item? l with
  | some (.file content) => content
  | _ => []

theorem content_of_item? {s : Store} {l : Location} {content : List UInt8}
    (h : s.item? l = some (.file content)) : s.content l = content := by
  rw [Store.content, h]

theorem item?_of_target {s : Store} {path : String} {at_ : Location}
    (h : s.target path = .ok at_) (hat : (s.item? at_).isSome) :
    s.item? at_ = some (.file (s.content at_)) := by
  unfold content
  cases hitem : s.item? at_ with
  | none =>
    rw [hitem] at hat
    cases hat
  | some item =>
    cases item with
    | file content => rfl
    | directory => exact absurd hitem (target_eq_ok h).not_directory

theorem item?_append {s : Store} {at_ : Location} {content bytes : List UInt8}
    (hat : s.item? at_ = some (.file content)) (l : Location) :
    (s.append at_ bytes).item? l =
      if at_ = l then some (.file (content ++ bytes)) else s.item? l := by
  have hne : at_ ≠ [] := by
    rintro rfl
    cases hat
  unfold append
  rw [hat]
  simp only [item?_set hne, eq_comm]

/-! ## Contents that change -/

/-- Two stores have the same but for what the files at some locations hold. -/
def Rewrites (P : Location → Prop) (s t : Store) : Prop :=
  ∀ l, t.item? l = s.item? l ∨
    P l ∧ ∃ content content', s.item? l = some (.file content) ∧ t.item? l = some (.file content')

section Rewrites
variable {P Q : Location → Prop} {s t u : Store} {path : String} {at_ l : Location}

theorem Rewrites.refl (P : Location → Prop) (s : Store) : Rewrites P s s := fun _ => .inl rfl

theorem Rewrites.trans (h : Rewrites P s t) (h' : Rewrites P t u) : Rewrites P s u := by
  intro l
  rcases h l with hst | ⟨hP, c, c', hs, ht⟩
  · rcases h' l with htu | ⟨hP, c, c', ht, hu⟩
    · exact .inl (htu.trans hst)
    · exact .inr ⟨hP, c, c', hst ▸ ht, hu⟩
  · rcases h' l with htu | ⟨-, -, c'', -, hu⟩
    · exact .inr ⟨hP, c, c', hs, htu.trans ht⟩
    · exact .inr ⟨hP, c, c'', hs, hu⟩

theorem Rewrites.mono (h : Rewrites P s t) (hPQ : ∀ l, P l → Q l) : Rewrites Q s t :=
  fun l => (h l).imp_right fun ⟨hP, hfiles⟩ => ⟨hPQ l hP, hfiles⟩

theorem Rewrites.item?_eq (h : Rewrites P s t) (hl : ¬ P l) : t.item? l = s.item? l :=
  (h l).resolve_right fun ⟨hP, _⟩ => hl hP

theorem Rewrites.directory_iff (h : Rewrites P s t) :
    t.item? l = some .directory ↔ s.item? l = some .directory := by
  rcases h l with heq | ⟨-, c, c', hs, ht⟩
  · rw [heq]
  · rw [hs, ht]
    exact ⟨nofun, nofun⟩

theorem Rewrites.frame (h : Rewrites P s t) : Frame P s t where
  file l hl content := by rw [h.item?_eq hl]
  directory _ hl := h.directory_iff.2 hl

theorem Rewrites.step_eq (h : Rewrites P s t) (name : String) :
    t.step at_ name = s.step at_ name := by
  unfold step
  rcases h at_ with heq | ⟨-, c, c', hs, ht⟩
  · rw [heq]
  · rw [hs, ht]

theorem Rewrites.locate_eq (h : Rewrites P s t) (path : String) :
    t.locate path = s.locate path := by
  have hstep : t.step = s.step := by
    funext at_ name
    exact h.step_eq name
  unfold locate follow
  rw [hstep]

theorem Rewrites.item_eq (h : Rewrites P s t) (hpath : ∀ l, s.locate path = .ok l → ¬ P l) :
    t.item path = s.item path := by
  unfold item
  rw [h.locate_eq]
  cases hl : s.locate path with
  | error fault => rfl
  | ok l =>
    simp only [bind, Except.bind]
    rw [h.item?_eq (hpath l hl)]

theorem Rewrites.readBytes_eq (h : Rewrites P s t) (hpath : ∀ l, s.locate path = .ok l → ¬ P l) :
    t.readBytes path = s.readBytes path := by
  unfold readBytes
  rw [h.item_eq hpath]

theorem Rewrites.holdsText_eq (h : Rewrites P s t) (hpath : ∀ l, s.locate path = .ok l → ¬ P l)
    (text : String) : t.holdsText path text = s.holdsText path text := by
  unfold holdsText holds readText
  rw [h.item_eq hpath, h.readBytes_eq hpath]

theorem rewrites_set {content : List UInt8} (hat : s.item? at_ = some (.file content))
    (content' : List UInt8) : Rewrites (· = at_) s (s.set at_ (.file content')) := by
  have hne : at_ ≠ [] := by
    rintro rfl
    cases hat
  intro l
  rw [item?_set hne]
  split
  · rename_i heq
    exact .inr ⟨heq, content, content', heq ▸ hat, rfl⟩
  · exact .inl rfl

theorem rewrites_append (s : Store) (at_ : Location) (bytes : List UInt8) :
    Rewrites (· = at_) s (s.append at_ bytes) := by
  unfold append
  split
  · rename_i content hat
    exact rewrites_set hat _
  · exact .refl _ _

end Rewrites

end Store

/-! ## Logs -/

namespace Logging

def WritesTo (l : Logging) (at_ : Location) : Prop := .file at_ ∈ l.handlers

/-- A log only writes behind what its files hold. -/
theorem rewrites_write (l : Logging) (time : String) (s : Store) (r : Log.Record) :
    s.Rewrites l.WritesTo (l.write time s r) := by
  unfold write
  split
  · -- a step of the fold writes where its handler says
    have hhandlers : ∀ {step : Store → Log.Handler → Store},
        (∀ (s : Store) handler, s.Rewrites (fun l => .file l = handler) (step s handler)) →
        ∀ (handlers : List Log.Handler) (s : Store),
          s.Rewrites (.file · ∈ handlers) (handlers.foldl step s) := by
      intro step hstep handlers
      induction handlers with
      | nil => exact fun s => .refl _ s
      | cons handler handlers ih =>
        intro s
        refine .trans ?_ ((ih (step s handler)).mono fun l hl => List.mem_cons_of_mem _ hl)
        refine (hstep s handler).mono ?_
        rintro l rfl
        exact List.mem_cons_self
    refine hhandlers (fun s handler => ?_) l.handlers s
    cases handler with
    | console => exact .refl _ s
    | file at_ =>
      refine (Store.rewrites_append s at_ _).mono ?_
      rintro l rfl
      rfl
  · exact .refl _ s

/-- An opened file is there, with what it held, and nothing else has changed. -/
theorem item?_openFile {s t : Store} {path : String} {at_ : Location}
    (h : openFile s path = .ok (t, at_)) :
    s.target (Path.ofText path).condensed.text = .ok at_ ∧
      ∀ l, t.item? l = if at_ = l then some (.file (s.content at_)) else s.item? l := by
  unfold openFile at h
  simp only at h
  split at h
  · rename_i l hl
    cases h
    refine ⟨hl, fun l => ?_⟩
    by_cases hat : (s.item? at_).isSome = true
    · rw [if_pos hat]
      split
      · rename_i heq
        rw [← heq, Store.item?_of_target hl hat]
      · rfl
    · rw [if_neg hat, Store.item?_set (Store.target_eq_ok hl).ne_nil]
      have hnone := Option.not_isSome_iff_eq_none.1 hat
      unfold Store.content
      rw [hnone]
      simp only [eq_comm]
  · cases h

theorem openFile_eq_ok {s t : Store} {path : String} {at_ : Location}
    (h : openFile s path = .ok (t, at_)) :
    s.Frame (· = at_) t ∧ ∃ content, t.item? at_ = some (.file content) := by
  obtain ⟨htarget, hitem⟩ := item?_openFile h
  have hdirectory := (Store.target_eq_ok htarget).not_directory
  refine ⟨⟨fun l hl content => ?_, fun l hl => ?_⟩, _, (hitem at_).trans (if_pos rfl)⟩
  · rw [hitem, if_neg (Ne.symm hl)]
  · have hne : at_ ≠ l := fun heq => hdirectory (heq ▸ hl)
    rw [hitem, if_neg hne, hl]

/-- A log that is set up goes to one file at most, which may be new; without a path nothing
changes. -/
theorem setup_eq_ok {s t : Store} {level file : String} {l : Logging}
    (h : setup s level file = .ok (t, l)) :
    s.Frame l.WritesTo t ∧ (file = "" → t = s ∧ l.handlers = [.console]) := by
  unfold setup at h
  split at h
  case h_1 | h_2 => cases h
  case h_3 n _ =>
    split at h
    · cases h
      exact ⟨.refl _ _, fun _ => ⟨rfl, rfl⟩⟩
    · rename_i hfile
      split at h
      · rename_i opened at_ hopen
        cases h
        refine ⟨(openFile_eq_ok hopen).1.mono ?_, fun hempty => absurd rfl (hempty ▸ hfile)⟩
        rintro l rfl
        exact List.mem_cons_of_mem _ List.mem_cons_self
      · cases h

end Logging

end Sitemap
