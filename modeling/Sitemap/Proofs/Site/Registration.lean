import Mathlib.Data.List.Forall2
import Sitemap.Proofs.GeneratedModule.Loading
import Sitemap.Site

/-!
# Registering through a generated module

* `Endpoint.Alike`, `Site.Alike` : rows with the same fields, whatever holds them;
* `Endpoint.respond_alike` : endpoints that are alike answer alike;
* `Site.Answer.reply` : what an answer shows;
* `Site.Step.Replaces` : the same step, or a registration through a generated module in place of a
  direct one;
* `Site.step_alike` : what one step keeps;
* `Site.reply_of_replaces` : runs whose steps differ in that way have the same answers.
-/

namespace Sitemap

/-! ## Rows and endpoints -/

/-- A row that is an entry with a finite priority. -/
def Row.IsEntry (r : Row) : Prop := ∃ e : Entry, e.priority.IsFinite ∧ r = e.toRow

theorem exists_entries_of_isEntry {rows : List Row} (h : ∀ r ∈ rows, r.IsEntry) :
    ∃ entries : List Entry, (∀ e ∈ entries, e.priority.IsFinite) ∧
      rows = entries.map Entry.toRow := by
  obtain ⟨entries, hfinite, hrows⟩ := exists_map_eq (f := id) h
  exact ⟨entries, hfinite, by rwa [List.map_id] at hrows⟩

theorem Row.rendered_congr {r r' : Row} (h : r.fields = r'.fields) (base : String)
    (escaped : Bool) : r.rendered base escaped = r'.rendered base escaped := by
  unfold rendered
  rw [h]

theorem Row.mapM_congr {ε α : Type} {f : Row → Except ε α}
    (hf : ∀ r r' : Row, r.fields = r'.fields → f r = f r') {rows rows' : List Row}
    (h : rows.map Row.fields = rows'.map Row.fields) : rows.mapM f = rows'.mapM f := by
  rw [← List.forall₂_eq_eq_eq, List.forall₂_map_left_iff, List.forall₂_map_right_iff] at h
  induction h with
  | nil => rfl
  | cons hrow _ ih => rw [List.mapM_cons, List.mapM_cons, hf _ _ hrow, ih]

theorem Document.render_congr {rows rows' : List Row}
    (h : rows.map Row.fields = rows'.map Row.fields) (base : String) (escaped : Bool) :
    render base rows escaped = render base rows' escaped := by
  have hrows := Row.mapM_congr (fun _ _ hrow => Row.rendered_congr hrow base escaped) h
  rw [render, render, hrows]

theorem Row.any_isUnpaired_congr {rows rows' : List Row}
    (h : rows.map Row.fields = rows'.map Row.fields) :
    rows.any Row.isUnpaired = rows'.any Row.isUnpaired := by
  rw [← List.forall₂_eq_eq_eq, List.forall₂_map_left_iff, List.forall₂_map_right_iff] at h
  induction h with
  | nil => rfl
  | cons hrow _ ih => rw [List.any_cons, List.any_cons, ih, isUnpaired, isUnpaired, hrow]

theorem toUpper_get : "GET".toUpper = "GET" := by decide +kernel

namespace Endpoint

/-- Two endpoints differ at most in what holds the fields of their rows. -/
structure Alike (e e' : Endpoint) : Prop where
  path : e.path = e'.path
  url : e.url = e'.url
  rows : e.rows.map Row.fields = e'.rows.map Row.fields
  escaped : e.escaped = e'.escaped

variable {e e' : Endpoint}

theorem document_eq_render (h : e.rows.any Row.isUnpaired = false) :
    e.document = Document.render e.url e.rows e.escaped := by
  rw [document, h]
  exact bind_pure _

theorem Alike.document_eq (h : e.Alike e') : e.document = e'.document := by
  rw [document, document, h.url, h.escaped, Document.render_congr h.rows,
    Row.any_isUnpaired_congr h.rows]

theorem Alike.record_eq (h : e.Alike e') : e.record = e'.record := by
  have hlength : e.rows.length = e'.rows.length := by
    simpa only [List.length_map] using congrArg List.length h.rows
  rw [record, record, h.path, h.url, hlength]

theorem Alike.below (h : e.Alike e') (path : String) : (e.below path).Alike (e'.below path) :=
  ⟨congrArg (path ++ ·) h.path, h.url, h.rows, h.escaped⟩

section Requests
variable {es es' : List Endpoint}

theorem any_path_alike (h : List.Forall₂ Alike es es') (path : String) :
    es.any (·.path == path) = es'.any (·.path == path) := by
  induction h with
  | nil => rfl
  | cons he _ ih => rw [List.any_cons, List.any_cons, he.path, ih]

theorem find?_alike (h : List.Forall₂ Alike es es') (path : String) :
    Option.Rel Alike (es.find? (·.path == path)) (es'.find? (·.path == path)) := by
  induction h with
  | nil => exact .none
  | @cons e e' _ _ he _ ih =>
    rw [List.find?_cons, List.find?_cons, he.path]
    cases e'.path == path with
    | true => exact .some he
    | false => exact ih

theorem respond_alike (h : List.Forall₂ Alike es es') (method path : String) :
    respond es method path = respond es' method path := by
  have hany := any_path_alike h (routedPath (slashSibling path))
  have hfind := find?_alike h (routedPath path)
  unfold respond
  generalize es.find? (·.path == routedPath path) = found at hfind ⊢
  generalize es'.find? (·.path == routedPath path) = found' at hfind ⊢
  cases hfind with
  | none => simp only [hany]
  | some he => simp only [he.document_eq]

end Requests

end Endpoint

namespace Site

/-! ## Sites -/

/-- Two sites have endpoints that are alike and the same rows to be registered next. -/
structure Alike (s s' : Site) : Prop where
  application : List.Forall₂ Endpoint.Alike s.application s'.application
  routerPath : s.routerPath = s'.routerPath
  router : List.Forall₂ Endpoint.Alike s.router s'.router
  rows : s.rows = s'.rows

variable {s s' : Site}

theorem Alike.add (h : s.Alike s') (target : Target) {e e' : Endpoint} (he : e.Alike e') :
    (s.add target e).Alike (s'.add target e') := by
  cases target with
  | application =>
    exact ⟨List.rel_append h.application (.cons he .nil), h.routerPath, h.router, h.rows⟩
  | router =>
    refine ⟨h.application, h.routerPath, ?_, h.rows⟩
    simp only [Site.add, h.routerPath]
    exact List.rel_append h.router (.cons (he.below _) .nil)

theorem Alike.registerRows (h : s.Alike s') (target : Target) (url : String) {rows rows' : List Row}
    (hrows : rows.map Row.fields = rows'.map Row.fields) (escaped : Bool) :
    (s.registerRows target url rows escaped).1.Alike
        (s'.registerRows target url rows' escaped).1 ∧
      (s.registerRows target url rows escaped).2.Alike
        (s'.registerRows target url rows' escaped).2 := by
  have he : (Endpoint.ofRows url rows escaped).Alike (Endpoint.ofRows url rows' escaped) :=
    ⟨rfl, rfl, hrows, rfl⟩
  exact ⟨h.add target he, he⟩

/-- Entries can be registered in either way, and the generated module has rows with the same
fields. -/
theorem exists_register (s : Site) (hrows : ∀ r ∈ s.rows, r.IsEntry) (via : Via) (target : Target)
    (url : String) (escaped : Bool) :
    ∃ rows, rows.map Row.fields = s.rows.map Row.fields ∧
      s.register via target url escaped = .ok (s.registerRows target url rows escaped) := by
  cases via with
  | direct => exact ⟨s.rows, rfl, rfl⟩
  | generated =>
    obtain ⟨entries, hfinite, hentries⟩ := exists_entries_of_isEntry hrows
    refine ⟨entries.map Entry.literalRow, ?_, ?_⟩
    · rw [hentries, List.map_map, List.map_map]
      exact List.map_congr_left fun e _ => e.fields_literalRow
    · unfold register
      rw [hentries, GeneratedModule.emit_toRow]
      simp only [mapError_ok, bind, Except.bind, GeneratedModule.load_ofEntries hfinite]
      rfl

/-! ## Steps -/

/-- What an answer shows: of an endpoint its paths and the record about it, of a response its
status, its headers and its body. -/
inductive Reply where
  | done
  | badPath (fault : PathFault)
  | registered (paths : List String) (records : List Log.Record)
  | notRegistered (fault : GenerationFault)
  | response (status : Nat) (contentType : Option String) (contentLength : Nat) (body : String)
  | notRendered (fault : Row.Fault)

/-- What an answer shows. -/
def Answer.reply : Answer → Reply
  | .done => .done
  | .badPath fault => .badPath fault
  | .registered e => .registered [e.path] [e.record]
  | .notRegistered fault => .notRegistered fault
  | .response r => .response r.status r.contentType r.length r.body
  | .notRendered fault => .notRendered fault

/-- The same step, or a registration through a generated module in place of a direct one. -/
inductive Step.Replaces : Step → Step → Prop
  | same (x : Step) : Replaces x x
  | generated (target : Target) (url : String) (escaped : Bool) :
    Replaces (.register .direct target url escaped) (.register .generated target url escaped)

/-- A step that brings entries only. -/
def Step.BringsEntries : Step → Prop
  | .rows given => ∀ r ∈ given, r.IsEntry
  | .append row => row.IsEntry
  | _ => True

/-- Whatever way it is registered, an endpoint for the same rows shows the same and is alike. -/
theorem register_alike (h : s.Alike s') (hrows : ∀ r ∈ s.rows, r.IsEntry) (via via' : Via)
    (target : Target) (url : String) (escaped : Bool) :
    (s.step (.register via target url escaped)).1.Alike
        (s'.step (.register via' target url escaped)).1 ∧
      (s.step (.register via target url escaped)).2.reply =
        (s'.step (.register via' target url escaped)).2.reply := by
  obtain ⟨rows, halike, hregister⟩ := s.exists_register hrows via target url escaped
  obtain ⟨rows', halike', hregister'⟩ :=
    s'.exists_register (h.rows ▸ hrows) via' target url escaped
  have hboth : rows.map Row.fields = rows'.map Row.fields := by rw [halike, halike', h.rows]
  obtain ⟨hsite, he⟩ := h.registerRows target url hboth escaped
  simp only [step, hregister, hregister']
  refine ⟨hsite, ?_⟩
  simp only [Answer.reply, he.path, he.record_eq]

/-- Whether a router can have a path does not depend on the site. -/
theorem newRouter_cases (path : String) :
    (∀ s : Site, s.newRouter path = .ok { s with routerPath := path, router := [] }) ∨
      ∃ fault, ∀ s : Site, s.newRouter path = .error fault := by
  unfold newRouter
  by_cases hempty : path.isEmpty
  · exact .inl fun s => by rw [if_pos hempty]
  by_cases hstart : path.toList.head? ≠ some '/'
  · exact .inr ⟨.start, fun s => by rw [if_neg hempty, if_pos hstart]⟩
  by_cases hfinish : endsWithSlash path
  · exact .inr ⟨.finish, fun s => by rw [if_neg hempty, if_neg hstart, if_pos hfinish]⟩
  · exact .inl fun s => by rw [if_neg hempty, if_neg hstart, if_neg hfinish]

/-- One step keeps sites alike and shows the same. -/
theorem step_alike (h : s.Alike s') (hrows : ∀ r ∈ s.rows, r.IsEntry) {x y : Step}
    (hxy : x.Replaces y) :
    (s.step x).1.Alike (s'.step y).1 ∧ (s.step x).2.reply = (s'.step y).2.reply := by
  cases hxy with
  | generated target url escaped => exact register_alike h hrows _ _ target url escaped
  | same =>
    cases x with
    | rows rows => exact ⟨⟨h.application, h.routerPath, h.router, rfl⟩, rfl⟩
    | append row =>
      exact ⟨⟨h.application, h.routerPath, h.router, congrArg (· ++ [row]) h.rows⟩, rfl⟩
    | router path =>
      rcases newRouter_cases path with hnew | ⟨fault, hfault⟩
      · rw [step, step, hnew, hnew]
        exact ⟨⟨h.application, rfl, .nil, h.rows⟩, rfl⟩
      · rw [step, step, hfault, hfault]
        exact ⟨h, rfl⟩
    | includeRouter =>
      exact ⟨⟨List.rel_append h.application h.router, h.routerPath, h.router, h.rows⟩, rfl⟩
    | register via target url escaped => exact register_alike h hrows _ _ target url escaped
    | request method address =>
      have hrespond : s.respond method address = s'.respond method address :=
        Endpoint.respond_alike h.application _ _
      simp only [step, hrespond]
      split <;> exact ⟨h, rfl⟩

/-- A site whose rows are entries still has entries only after a step that brings no others. -/
theorem rows_step (hrows : ∀ r ∈ s.rows, r.IsEntry) {x : Step} (hx : x.BringsEntries) :
    ∀ r ∈ (s.step x).1.rows, r.IsEntry := by
  cases x with
  | rows given => exact hx
  | append row =>
    intro r hr
    rcases List.mem_append.1 hr with hr | hr
    · exact hrows r hr
    · rw [List.mem_singleton.1 hr]
      exact hx
  | router path =>
    rcases newRouter_cases path with hnew | ⟨fault, hfault⟩
    · simpa only [step, hnew] using hrows
    · simpa only [step, hfault] using hrows
  | includeRouter => exact hrows
  | register via target url escaped =>
    obtain ⟨rows, -, hregister⟩ := s.exists_register hrows via target url escaped
    simp only [step, hregister]
    cases target <;> exact hrows
  | request method address =>
    unfold step
    dsimp only
    split <;> exact hrows

/-! ## Runs -/

theorem reply_run_alike {xs ys : List Step} (hxy : List.Forall₂ Step.Replaces xs ys) :
    ∀ {s s' : Site}, s.Alike s' → (∀ r ∈ s.rows, r.IsEntry) → (∀ x ∈ xs, x.BringsEntries) →
      (run s xs).2.map Answer.reply = (run s' ys).2.map Answer.reply := by
  induction hxy with
  | nil => exact fun _ _ _ => rfl
  | cons hstep _ ih =>
    intro s s' h hrows hxs
    rw [List.forall_mem_cons] at hxs
    obtain ⟨halike, hreply⟩ := step_alike h hrows hstep
    simp only [run, List.map_cons]
    rw [hreply, ih halike (rows_step hrows hxs.1) hxs.2]

/-- In a run whose rows are entries, any of the direct registrations may go through a generated
module instead: every step shows the same paths, records, status, headers and body. -/
theorem reply_of_replaces {xs ys : List Step} (hxs : ∀ x ∈ xs, x.BringsEntries)
    (hxy : List.Forall₂ Step.Replaces xs ys) :
    (run {} xs).2.map Answer.reply = (run {} ys).2.map Answer.reply :=
  reply_run_alike hxy ⟨.nil, rfl, .nil, rfl⟩ nofun hxs

/-- A page is registered on a router, which is taken over, and another page comes too late. -/
def lateRun (via : Via) : List Step :=
  [.rows [Entry.toRow ⟨"/it's?a&b", .daily, .one⟩], .router "/a",
    .register via .router "http://x/" true, .includeRouter,
    .append (Entry.toRow ⟨"/late", .never, .zero true⟩), .request "GET" "/a/sitemap.xml"]

theorem reply_lateRun :
    ((∀ x ∈ lateRun .direct, x.BringsEntries) ∧
      List.Forall₂ Step.Replaces (lateRun .direct) (lateRun .generated)) ∧
    (run {} (lateRun .direct)).2.map Answer.reply =
      (run {} (lateRun .generated)).2.map Answer.reply := by
  have hentry : ∀ e : Entry, e.priority.IsFinite → e.toRow.IsEntry := fun e he => ⟨e, he, rfl⟩
  have hxs : ∀ x ∈ lateRun .direct, x.BringsEntries := by
    intro x hx
    simp only [lateRun, List.mem_cons, List.not_mem_nil, or_false] at hx
    rcases hx with rfl | rfl | rfl | rfl | rfl | rfl
    · exact List.forall_mem_singleton.2 (hentry _ ⟨_, _, _, _, rfl⟩)
    · trivial
    · trivial
    · trivial
    · exact hentry _ ⟨_, _, _, _, rfl⟩
    · trivial
  have hxy : List.Forall₂ Step.Replaces (lateRun .direct) (lateRun .generated) :=
    .cons (.same _) (.cons (.same _) (.cons (.generated _ _ _) (.cons (.same _) (.cons (.same _)
      (.cons (.same _) .nil)))))
  exact ⟨⟨hxs, hxy⟩, reply_of_replaces hxs hxy⟩

end Site

end Sitemap
