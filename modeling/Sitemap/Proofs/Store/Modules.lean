import Sitemap.Proofs.Store.Directories
import Sitemap.Proofs.Text.Lines
import Sitemap.Proofs.Text.Utf8

/-!
# Writing a generated module

* `holdsText_iff`, `IsTarget.holdsText_set` : a path holds a text if it reads as that, so a file
  holds the text that was written;
* `writeModule_cases` : all that writing a module can do;
* `writeModule_eq_ok` : what was done if it succeeds in a directory that is there;
* `WriteFails`, `writeModule_eq_error_iff` : it fails exactly if one of its operations does;
* `writeModule_atomic` : a module is written as a whole or not at all.
-/

namespace Sitemap.Store

/-! ## The text of a file -/

section Texts
variable {s : Store} {path text source : String} {at_ : Location}

theorem IsTarget.holdsText_set (h : s.IsTarget path at_) (hreturn : '\r' ∉ source.toList) :
    (s.set at_ (.file (Utf8.encode source))).holdsText path source = .ok true := by
  have hbytes := h.readBytes_set (Utf8.encode source) h.locate
  have hholds : (s.set at_ (.file (Utf8.encode source))).holds path = true :=
    holds_iff.2 ⟨_, readBytes_eq_ok.1 hbytes⟩
  rw [holdsText, if_pos hholds, readText, hbytes]
  simp only [mapError_ok, bind, Except.bind, Utf8.decode_encode, unifyLines_eq_self hreturn,
    pure, Except.pure, Except.map, String.ofList_toList, beq_self_eq_true]

theorem holdsText_iff : s.holdsText path text = .ok true ↔ s.readText path = .ok text := by
  unfold holdsText
  cases hread : s.readText path with
  | error fault =>
    refine iff_of_false (fun h => ?_) nofun
    split at h <;> cases h
  | ok found =>
    -- what can be read is there
    obtain ⟨bytes, hbytes, -⟩ := bind_eq_ok.1 hread
    have hholds : s.holds path = true :=
      holds_iff.2 ⟨_, readBytes_eq_ok.1 (mapError_eq_ok.1 hbytes)⟩
    rw [if_pos hholds]
    simp [Except.map]

end Texts

/-! ## What writing can do -/

/-- Writing a module fails and creates directories on the way at most, or finds the module there, or
puts it where the path leads to once directories are created. -/
theorem writeModule_cases (s : Store) (path source : String) :
    let written := s.writeModule path source
    let parent := namesIn (splitPath path).1.toList
    (∃ fault, written = .failed written.store path fault ∧ s.holdsText path source ≠ .ok true ∧
      Creates parent s written.store) ∨
    (written.outcome = .ok false ∧ s.holdsText path source = .ok true ∧ written.store = s) ∨
    (written.outcome = .ok true ∧ s.holdsText path source = .ok false ∧
      ∃ made at_, Creates parent s made ∧ made.IsTarget path at_ ∧
        written.store = made.set at_ (.file (Utf8.encode source))) := by
  intro written parent
  have hdirectories := creates_makeDirectories s (splitPath path).1
  simp only [written]
  unfold writeModule
  cases hholds : s.holdsText path source with
  | error fault => exact .inl ⟨fault, rfl, nofun, .refl _ _⟩
  | ok there =>
    cases there with
    | true => exact .inr (.inl ⟨rfl, rfl, rfl⟩)
    | false =>
      dsimp only
      split
      · rename_i made e hmade
        rw [hmade] at hdirectories
        exact .inl ⟨_, rfl, nofun, hdirectories⟩
      · rename_i made hmade
        rw [hmade] at hdirectories
        cases hwrite : made.writeBytes path (Utf8.encode source) with
        | error e => exact .inl ⟨_, rfl, nofun, hdirectories⟩
        | ok t =>
          obtain ⟨at_, hat, rfl⟩ := writeBytes_eq_ok hwrite
          exact .inr (.inr ⟨rfl, rfl, made, at_, hdirectories, hat, rfl⟩)

section Outcomes
variable {s made : Store} {path source : String}

/-- A module that is written without a fault was there already, or is put at the location that the
path leads to. -/
theorem writeModule_eq_ok (hparent : (splitPath path).1 = "" ∨
      s.isDirectory (splitPath path).1 = true) {b : Bool}
    (h : (s.writeModule path source).outcome = .ok b) :
    s.holdsText path source = .ok true ∧ (s.writeModule path source).store = s ∨
    ∃ at_, s.IsTarget path at_ ∧
      (s.writeModule path source).store = s.set at_ (.file (Utf8.encode source)) := by
  have hmade : s.makeDirectories (splitPath path).1 = (s, none) := by
    rcases hparent with hempty | hdirectory
    · rw [hempty]
      rfl
    · exact makeDirectories_of_isDirectory hdirectory
  unfold writeModule at h ⊢
  cases hholds : s.holdsText path source with
  | error fault =>
    rw [hholds] at h
    cases h
  | ok there =>
    cases there with
    | true => exact .inl ⟨rfl, rfl⟩
    | false =>
      simp only [hholds, hmade] at h ⊢
      cases hwrite : s.writeBytes path (Utf8.encode source) with
      | error e =>
        rw [hwrite] at h
        cases h
      | ok t =>
        obtain ⟨at_, hat, rfl⟩ := writeBytes_eq_ok hwrite
        exact .inr ⟨at_, hat, rfl⟩

/-- What can fail when a module is written: its file is not readable, a directory before it cannot
be created, or the file cannot be written. -/
inductive WriteFails (s : Store) (path source : String) : TextFault → Prop
  | comparing {fault : TextFault} (h : s.holdsText path source = .error fault) :
      WriteFails s path source fault
  | creating {e : FileError} (hstale : s.holdsText path source = .ok false)
      (h : (s.makeDirectories (splitPath path).1).2 = some e) : WriteFails s path source (.file e)
  | writing {made : Store} {e : FileError} (hstale : s.holdsText path source = .ok false)
      (hmade : s.makeDirectories (splitPath path).1 = (made, none))
      (h : made.writeBytes path (Utf8.encode source) = .error e) :
      WriteFails s path source (.file e)

/-- The writing of a module fails by one of its operations. -/
theorem writeModule_eq_error_iff {fault : TextFault} :
    (s.writeModule path source).outcome = .error fault ↔ s.WriteFails path source fault := by
  constructor
  · intro h
    unfold writeModule at h
    split at h
    · rename_i fault' hholds
      cases h
      exact .comparing hholds
    · cases h
    · rename_i hstale
      split at h
      · rename_i made e hmade
        cases h
        exact .creating hstale (by rw [hmade])
      · rename_i made hmade
        split at h
        · rename_i e hwrite
          cases h
          exact .writing hstale hmade hwrite
        · cases h
  · intro h
    unfold writeModule
    cases h with
    | comparing h =>
      rw [h]
      rfl
    | creating hstale h =>
      rw [hstale]
      dsimp only
      split
      · rename_i made e' hmade
        rw [hmade] at h
        cases h
        rfl
      · rename_i made hmade
        rw [hmade] at h
        cases h
    | writing hstale hmade h =>
      simp only [hstale, hmade, h]
      rfl

end Outcomes

/-! ## All or nothing -/

theorem IsTarget.follow_namesIn {s : Store} {path : String} {at_ : Location}
    (h : s.IsTarget path at_) : s.follow (namesIn path.toList) = .ok at_ := by
  have hlast := List.getLast?_eq_some_getLast h.ne_nil
  rw [← pathNames_eq_of_getLast? (h.last.trans hlast) (h.name _ hlast).1]
  exact (locate_eq_ok.1 h.locate).2

/-- What is new beside a module that was written are directories before it on its path. -/
theorem created_of_isTarget {s made : Store} {path : String} {at_ l : Location}
    (hmade : Creates (namesIn (splitPath path).1.toList) s made) (hat : made.IsTarget path at_)
    (hl : made.item? l = some .directory) : s.item? l = some .directory ∨
      ∃ n < (namesIn path.toList).length, made.follow ((namesIn path.toList).take n) = .ok l := by
  refine (hmade.created l hl).imp_right ?_
  rintro ⟨way, hway, hfollow⟩
  have hbegins : way <+: namesIn path.toList :=
    hway.trans ⟨_, (namesIn_splitPath path).symm⟩
  obtain hlt | heq := hbegins.length_le.lt_or_eq
  · exact ⟨way.length, hlt, (List.prefix_iff_eq_take.1 hbegins) ▸ hfollow⟩
  · -- all names lead to the file
    rw [hbegins.eq_of_length heq, hat.follow_namesIn] at hfollow
    cases hfollow
    exact absurd hl hat.not_directory

/-- Writing a module is all or nothing. If it is written, its file holds the bytes of its text, the
other files are as they were and only directories before it on its path are new; a text without
carriage returns is found there from then on and not written again. It is left alone exactly if the
file reads as its text already, and then everything is as it was. If it fails, then because the file
is not readable, a directory cannot be created or the file cannot be written; the files are as they
were, and a fault of the files is recorded once. -/
theorem writeModule_atomic (s : Store) (path source : String) :
    let written := s.writeModule path source
    (written.outcome = .ok false ↔ s.readText path = .ok source) ∧
    match written.outcome with
    | .ok true =>
      (∃ at_, written.store.locate path = .ok at_ ∧
        written.store.item? at_ = some (.file (Utf8.encode source)) ∧
        s.Frame (· = at_) written.store) ∧
      (∀ l, written.store.item? l = some .directory → s.item? l = some .directory ∨
        ∃ n < (namesIn path.toList).length,
          written.store.follow ((namesIn path.toList).take n) = .ok l) ∧
      ('\r' ∉ source.toList → written.store.holdsText path source = .ok true ∧
        (written.store.writeModule path source).outcome = .ok false)
    | .ok false => written.store = s
    | .error fault => s.SameFiles written.store ∧
      (written.records = match fault with
        | .file e => [⟨.renderer, .error,
            "Error writing generated module to " ++ path ++ ": " ++ e.message⟩]
        | .decoding _ => []) ∧
      s.WriteFails path source fault := by
  intro written
  rcases s.writeModule_cases path source with ⟨fault, hfailed, hholds, hcreates⟩ |
    ⟨houtcome, hholds, hstore⟩ | ⟨houtcome, hholds, made, at_, hmade, hat, hstore⟩
  · have hout : written.outcome = .error fault := congrArg Written.outcome hfailed
    rw [hout]
    exact ⟨iff_of_false nofun fun hread => hholds (holdsText_iff.2 hread), hcreates.sameFiles,
      congrArg Written.records hfailed, writeModule_eq_error_iff.1 hout⟩
  · rw [show written.outcome = _ from houtcome]
    exact ⟨iff_of_true rfl (holdsText_iff.1 hholds), hstore⟩
  · rw [show written.outcome = _ from houtcome, show written.store = _ from hstore]
    have hstale : s.readText path ≠ .ok source := by
      rw [ne_eq, ← holdsText_iff, hholds]
      nofun
    refine ⟨iff_of_false nofun hstale, ⟨at_, (hat.locate_set _).2 hat.locate,
      hat.item?_set_self _, ?_⟩, fun l hl => ?_, fun hreturn => ?_⟩
    · exact (hmade.sameFiles.mono fun _ => False.elim).trans
        (frame_set hat.ne_nil hat.not_directory _)
    · simp only [hat.follow_set]
      exact created_of_isTarget hmade hat ((hat.directory_set _).1 hl)
    · have hthere := hat.holdsText_set hreturn
      refine ⟨hthere, ?_⟩
      unfold writeModule
      rw [hthere]

/-- Directories may stay behind a module that cannot be written. -/
example : let written := ({} : Store).writeModule "a/b/" ""
    written.outcome = .error (.file ⟨.isDirectory, "a/b/"⟩) ∧
      written.store.item? ["a", "b"] = some .directory := by decide +kernel

end Sitemap.Store
