import Sitemap.Proofs.Site.Registration

/-!
# Documents are frozen at registration

* `Site.Takes` : the rows and the switch that a registration takes from the site;
* `Site.Does`, `Site.step_does` : all that a step can do;
* `Site.Serves` : the application has an endpoint with a path;
* `Site.answer_run`, `Site.application_grows_run` : a run answers step by step, and only adds
  endpoints behind those that are there;
* `Site.Route`, `Site.history` : endpoints with the numbers of the steps that made them;
* `Site.describes_history`, `Site.made_history` : the history of a run has its endpoints, and each
  of them is what the step with its number took;
* `Site.answer_frozen` : once a path is served, every answer for it is the document of the
  registration that made its first route.
-/

namespace Sitemap

/-! ## Rows with the fields of entries -/

/-- A row that has the fields of an entry with a finite priority, whatever holds them. -/
def Row.HasEntryFields (r : Row) : Prop :=
  ∃ e : Entry, e.priority.IsFinite ∧ r.fields = e.toRow.fields

theorem exists_entries_of_hasEntryFields {rows : List Row} (h : ∀ r ∈ rows, r.HasEntryFields) :
    ∃ entries : List Entry, (∀ e ∈ entries, e.priority.IsFinite) ∧
      rows.map Row.fields = (entries.map Entry.toRow).map Row.fields := by
  obtain ⟨entries, hfinite, hfields⟩ := exists_map_eq h
  exact ⟨entries, hfinite, by rw [List.map_map]; exact hfields⟩

theorem GeneratedModule.emit_congr {rows rows' : List Row}
    (h : rows.map Row.fields = rows'.map Row.fields) (escaped : Bool) :
    emit rows escaped = emit rows' escaped := by
  have hfields := Row.mapM_congr (f := Row.fields) (fun _ _ h => h) h
  have htexts := Row.mapM_congr (f := rowText)
    (fun r r' h => by rw [rowText, rowText, h]) h
  rw [emit, emit, hfields, htexts]

namespace Site

/-! ## Steps -/

def pathOf (s : Site) : Target → String
  | .application => sitemapPath
  | .router => s.routerPath ++ sitemapPath

/-- The rows and the switch that a registration takes from a site: the rows that it has, or what the
module offers that is generated from them. -/
inductive Takes (s : Site) (escaped : Bool) : Via → List Row → Bool → Prop
  | direct : Takes s escaped .direct s.rows escaped
  | generated {text : String} {rows : List Row} {switch : Bool}
      (emitted : GeneratedModule.emit s.rows escaped = .ok text)
      (loaded : GeneratedModule.load text = .ok ⟨rows, switch⟩) :
      Takes s escaped .generated rows switch

def Answer.ofResponse : Except Row.Fault Response → Answer
  | .ok r => .response r
  | .error fault => .notRendered fault

/-- What a step can do to a site, and its answer. -/
inductive Does (s : Site) : Step → Site → Answer → Prop
  | rows (rows : List Row) : Does s (.rows rows) { s with rows } .done
  | append (row : Row) : Does s (.append row) { s with rows := s.rows ++ [row] } .done
  | router (path : String) :
      Does s (.router path) { s with routerPath := path, router := [] } .done
  | badPath (path : String) (fault : PathFault) : Does s (.router path) s (.badPath fault)
  | includeRouter : Does s .includeRouter s.includeRouter .done
  | registered {via : Via} (target : Target) (url : String) {escaped : Bool} {rows : List Row}
      {switch : Bool} (takes : s.Takes escaped via rows switch) :
      Does s (.register via target url escaped) (s.add target (.ofRows url rows switch))
        (.registered (.ofRows url rows switch))
  | notRegistered (via : Via) (target : Target) (url : String) (escaped : Bool)
      (fault : GenerationFault) :
      Does s (.register via target url escaped) s (.notRegistered fault)
  | request (method address : String) :
      Does s (.request method address) s (.ofResponse (s.respond method address))

/-- A registration that succeeds adds the endpoint of what it takes. -/
theorem register_eq_ok {s s' : Site} {via : Via} {target : Target} {url : String} {escaped : Bool}
    {e : Endpoint} (h : s.register via target url escaped = .ok (s', e)) :
    ∃ rows switch, s.Takes escaped via rows switch ∧ e = .ofRows url rows switch ∧
      s' = s.add target e := by
  cases via with
  | direct =>
    cases h
    exact ⟨s.rows, escaped, .direct, rfl, rfl⟩
  | generated =>
    obtain ⟨text, htext, h⟩ := bind_eq_ok.1 h
    obtain ⟨loaded, hloaded, h⟩ := bind_eq_ok.1 h
    cases h
    exact ⟨loaded.rows, loaded.escaped,
      .generated (mapError_eq_ok.1 htext) (mapError_eq_ok.1 hloaded), rfl, rfl⟩

theorem Takes.step {s : Site} {escaped : Bool} {via : Via} {rows : List Row} {switch : Bool}
    (h : s.Takes escaped via rows switch) (target : Target) (url : String) :
    s.step (.register via target url escaped) =
      (s.add target (.ofRows url rows switch), .registered (.ofRows url rows switch)) := by
  cases h with
  | direct => rfl
  | generated emitted loaded =>
    simp only [Site.step, register, emitted, loaded, mapError_ok, bind, Except.bind, pure,
      Except.pure, registerRows]

theorem step_request (s : Site) (method address : String) :
    s.step (.request method address) = (s, .ofResponse (s.respond method address)) := by
  cases h : s.respond method address <;> simp only [step, h, Answer.ofResponse]

/-- What a step does is one of the cases of `Does`. -/
theorem step_does (s : Site) (x : Step) : s.Does x (s.step x).1 (s.step x).2 := by
  cases x with
  | rows rows => exact .rows rows
  | append row => exact .append row
  | router path =>
    rcases newRouter_cases path with hnew | ⟨fault, hfault⟩
    · simp only [step, hnew]
      exact .router path
    · simp only [step, hfault]
      exact .badPath path fault
  | includeRouter => exact .includeRouter
  | register via target url escaped =>
    cases h : s.register via target url escaped with
    | ok made =>
      obtain ⟨rows, switch, htakes, he, hs⟩ := register_eq_ok h
      simp only [step, h, hs, he]
      exact .registered target url htakes
    | error fault =>
      simp only [step, h]
      exact .notRegistered via target url escaped fault
  | request method address =>
    rw [step_request]
    exact .request method address

/-- What a registration takes are the fields of the rows of the site, with its switch, unless they
go through a generated module and are not those of entries. -/
theorem Takes.fields_eq {s : Site} {escaped : Bool} {via : Via} {rows : List Row} {switch : Bool}
    (h : s.Takes escaped via rows switch)
    (hplain : via = .direct ∨ ∀ row ∈ s.rows, row.HasEntryFields) :
    rows.map Row.fields = s.rows.map Row.fields ∧ switch = escaped := by
  cases h with
  | direct => exact ⟨rfl, rfl⟩
  | generated emitted loaded =>
    obtain ⟨entries, hfinite, hfields⟩ :=
      exists_entries_of_hasEntryFields (hplain.resolve_left nofun)
    rw [GeneratedModule.emit_congr hfields, GeneratedModule.emit_toRow] at emitted
    cases emitted
    cases (GeneratedModule.load_ofEntries hfinite escaped).symm.trans loaded
    refine ⟨?_, rfl⟩
    rw [hfields, List.map_map, List.map_map]
    exact List.map_congr_left fun e _ => e.fields_literalRow

/-! ## Endpoints stay -/

/-- The application has an endpoint with a path. -/
def Serves (s : Site) (path : String) : Prop := ∃ e ∈ s.application, e.path = path

instance (s : Site) (path : String) : Decidable (s.Serves path) := by
  unfold Serves; infer_instance

section Steps
variable {s t : Site} {x : Step} {a : Answer}

theorem Does.application_grows (h : s.Does x t a) : s.application <+: t.application := by
  cases h with
  | includeRouter => exact List.prefix_append _ _
  | registered target url takes =>
    cases target with
    | application => exact List.prefix_append _ _
    | router => exact List.prefix_refl _
  | _ => exact List.prefix_refl _

end Steps

/-! ## Runs -/

theorem run_append (s : Site) (xs ys : List Step) : run s (xs ++ ys) =
    ((run (run s xs).1 ys).1, (run s xs).2 ++ (run (run s xs).1 ys).2) := by
  induction xs generalizing s with
  | nil => rfl
  | cons x xs ih => simp only [List.cons_append, run, ih]

theorem length_run (s : Site) (xs : List Step) : (run s xs).2.length = xs.length := by
  induction xs generalizing s with
  | nil => rfl
  | cons x xs ih => simp only [run, List.length_cons, ih]

theorem answer_run (s : Site) (xs : List Step) (x : Step) (ys : List Step) :
    (run s (xs ++ x :: ys)).2[xs.length]? = some ((run s xs).1.step x).2 := by
  rw [run_append, List.getElem?_append_right (Nat.le_of_eq (length_run s xs)), length_run,
    Nat.sub_self]
  rfl

theorem application_grows_run (s : Site) (xs : List Step) :
    s.application <+: (run s xs).1.application := by
  induction xs generalizing s with
  | nil => exact List.prefix_refl _
  | cons x xs ih => exact (step_does s x).application_grows.trans (ih (s.step x).1)

/-! ## Where endpoints come from -/

/-- An endpoint and the number of the step that made it. -/
structure Route where
  endpoint : Endpoint
  step : Nat

/-- The routes of the application and of the router. -/
structure History where
  application : List Route := []
  router : List Route := []

namespace History

/-- The history after the step with a number on a site, by its answer. -/
def next (h : History) (s : Site) (n : Nat) : Step → Answer → History
  | .router _, .done => { h with router := [] }
  | .includeRouter, _ => { h with application := h.application ++ h.router }
  | .register _ .application _ _, .registered e =>
    { h with application := h.application ++ [⟨e, n⟩] }
  | .register _ .router _ _, .registered e =>
    { h with router := h.router ++ [⟨e.below s.routerPath, n⟩] }
  | _, _ => h

/-- The first route of the application with a path. -/
def first? (h : History) (path : String) : Option Route :=
  h.application.find? (·.endpoint.path == path)

/-- The routes have the endpoints of a site. -/
structure Describes (h : History) (s : Site) : Prop where
  application : h.application.map Route.endpoint = s.application
  router : h.router.map Route.endpoint = s.router

/-- A history still describes the site after a step. -/
theorem Describes.next {h : History} {s t : Site} {x : Step} {a : Answer} (hs : h.Describes s)
    (hdoes : s.Does x t a) (n : Nat) : (h.next s n x a).Describes t := by
  obtain ⟨happlication, hrouter⟩ := hs
  cases hdoes with
  | router path => exact ⟨happlication, rfl⟩
  | includeRouter =>
    refine ⟨?_, hrouter⟩
    simp only [History.next, List.map_append, happlication, hrouter, includeRouter]
  | registered target url takes =>
    cases target with
    | application =>
      refine ⟨?_, hrouter⟩
      simp only [History.next, List.map_append, happlication, add, List.map_cons, List.map_nil]
    | router =>
      refine ⟨happlication, ?_⟩
      simp only [History.next, List.map_append, hrouter, add, List.map_cons, List.map_nil]
  | notRegistered via target url escaped fault =>
    cases target <;> exact ⟨happlication, hrouter⟩
  | _ => exact ⟨happlication, hrouter⟩

def ofRun (h : History) (s : Site) (n : Nat) : List Step → History
  | [] => h
  | x :: xs => ofRun (h.next s n x (s.step x).2) (s.step x).1 (n + 1) xs

theorem ofRun_append (h : History) (s : Site) (n : Nat) (xs ys : List Step) :
    h.ofRun s n (xs ++ ys) = (h.ofRun s n xs).ofRun (run s xs).1 (n + xs.length) ys := by
  induction xs generalizing h s n with
  | nil => rfl
  | cons x xs ih =>
    have hlength : n + (x :: xs).length = n + 1 + xs.length := by
      rw [List.length_cons]
      omega
    rw [List.cons_append, ofRun, ih, hlength]
    rfl

end History

def history (xs : List Step) : History := .ofRun {} {} 0 xs

theorem run_concat (s : Site) (xs : List Step) (x : Step) :
    (run s (xs ++ [x])).1 = ((run s xs).1.step x).1 := by
  rw [run_append]
  rfl

theorem history_concat (xs : List Step) (x : Step) : history (xs ++ [x]) =
    (history xs).next (run {} xs).1 xs.length x ((run {} xs).1.step x).2 := by
  rw [history, History.ofRun_append, Nat.zero_add]
  rfl

theorem describes_history (xs : List Step) : (history xs).Describes (run {} xs).1 := by
  induction xs using List.reverseRecOn with
  | nil => exact ⟨rfl, rfl⟩
  | append_singleton xs x ih =>
    rw [history_concat, run_concat]
    exact ih.next (step_does _ _) _

/-- A route of a run is what the registration with its number took from the site at that moment. -/
def Route.MadeIn (xs : List Step) (r : Route) : Prop :=
  ∃ via target url escaped, xs[r.step]? = some (.register via target url escaped) ∧
    let before := (run {} (xs.take r.step)).1
    before.Takes escaped via r.endpoint.rows r.endpoint.escaped ∧ r.endpoint.url = url ∧
      r.endpoint.path = before.pathOf target

theorem Route.MadeIn.append {xs : List Step} {r : Route} (h : r.MadeIn xs) (ys : List Step) :
    r.MadeIn (xs ++ ys) := by
  obtain ⟨via, target, url, escaped, hstep, hmade⟩ := h
  have hlt : r.step < xs.length := (List.getElem?_eq_some_iff.1 hstep).1
  refine ⟨via, target, url, escaped, ?_, ?_⟩
  · rw [List.getElem?_append_left hlt, hstep]
  · rwa [List.take_append_of_le_length (Nat.le_of_lt hlt)]

theorem Route.madeIn_concat {xs : List Step} {via : Via} {escaped : Bool} {rows : List Row}
    {switch : Bool} (target : Target) (url : String)
    (h : (run {} xs).1.Takes escaped via rows switch) :
    Route.MadeIn (xs ++ [.register via target url escaped])
      ⟨⟨(run {} xs).1.pathOf target, url, rows, switch⟩, xs.length⟩ := by
  refine ⟨via, target, url, escaped, ?_, ?_⟩
  · rw [List.getElem?_concat_length]
  · rw [List.take_left]
    exact ⟨h, rfl, rfl⟩

/-- Every route in the history of a run was made in it. -/
theorem made_history (xs : List Step) :
    (∀ r ∈ (history xs).application, r.MadeIn xs) ∧ ∀ r ∈ (history xs).router, r.MadeIn xs := by
  induction xs using List.reverseRecOn with
  | nil => exact ⟨nofun, nofun⟩
  | append_singleton xs x ih =>
    have happlication : ∀ r ∈ (history xs).application, r.MadeIn (xs ++ [x]) := fun r hr =>
      (ih.1 r hr).append [x]
    have hrouter : ∀ r ∈ (history xs).router, r.MadeIn (xs ++ [x]) := fun r hr =>
      (ih.2 r hr).append [x]
    have hdoes := step_does (run {} xs).1 x
    rw [history_concat]
    generalize ((run {} xs).1.step x).1 = t, ((run {} xs).1.step x).2 = a at hdoes ⊢
    cases hdoes with
    | router path => exact ⟨happlication, nofun⟩
    | includeRouter => exact ⟨List.forall_mem_append.2 ⟨happlication, hrouter⟩, hrouter⟩
    | registered target url takes =>
      have hmade := Route.madeIn_concat target url takes
      cases target with
      | application =>
        exact ⟨List.forall_mem_append.2 ⟨happlication, List.forall_mem_singleton.2 hmade⟩, hrouter⟩
      | router =>
        exact ⟨happlication, List.forall_mem_append.2 ⟨hrouter, List.forall_mem_singleton.2 hmade⟩⟩
    | notRegistered via target url escaped fault =>
      cases target <;> exact ⟨happlication, hrouter⟩
    | _ => exact ⟨happlication, hrouter⟩

/-! ## Frozen documents -/

/-- A site that serves a path has a first route there. -/
theorem exists_first? {xs : List Step} {path : String} (h : (run {} xs).1.Serves path) :
    ∃ r, (history xs).first? path = some r ∧ r.endpoint.path = path ∧
      (run {} xs).1.application.find? (·.path == path) = some r.endpoint := by
  have hendpoints := (describes_history xs).application
  have hfind : (run {} xs).1.application.find? (·.path == path) =
      ((history xs).first? path).map Route.endpoint := by
    rw [← hendpoints, List.find?_map]
    rfl
  obtain ⟨e, he, hpath⟩ := h
  have hsome : ((run {} xs).1.application.find? (·.path == path)).isSome :=
    List.find?_isSome.2 ⟨e, he, beq_iff_eq.2 hpath⟩
  rw [hfind, Option.isSome_map] at hsome
  obtain ⟨r, hr⟩ := Option.isSome_iff_exists.1 hsome
  have hr' : r.endpoint.path = path := by simpa using List.find?_some hr
  exact ⟨r, hr, hr', by rw [hfind, hr, Option.map_some]⟩

theorem respond_run {s : Site} {address : String} {e : Endpoint}
    (h : s.application.find? (·.path == routedPath (requestPath address)) = some e)
    (ys : List Step) :
    (run s ys).1.respond "GET" address = e.document.map .document := by
  have hfind := (application_grows_run s ys).find?_eq_some h
  unfold respond Endpoint.respond
  rw [hfind, toUpper_get]
  rfl

def signedZeroRow : Row := .literal [.str "/a", .complex (.zero true) .one, .float .one]

/-- The row is registered through a generated module, and the sitemap is asked for. -/
def signedZeroRun : List Step :=
  [.rows [signedZeroRow], .register .generated .application "http://x" false,
    .request "GET" "/sitemap.xml"]

def signedZeroText : String := GeneratedModule.ofTexts ["('/a', (-0+1j), 1.0)"] false

theorem emit_signedZero : GeneratedModule.emit [signedZeroRow] false = .ok signedZeroText := by
  have htext : (GeneratedModule.rowText signedZeroRow).toOption = some "('/a', (-0+1j), 1.0)" := by
    decide +kernel
  have hfields : [signedZeroRow].mapM Row.fields =
      .ok [(.str "/a", .complex (.zero true) .one, .float .one)] := rfl
  have htexts : [signedZeroRow].mapM GeneratedModule.rowText = .ok ["('/a', (-0+1j), 1.0)"] := by
    rw [List.mapM_cons, mem_toOption.1 htext]
    rfl
  rw [GeneratedModule.emit, hfields, htexts]
  rfl

/-- The module does not keep the sign of the zero. -/
theorem load_signedZero :
    ((GeneratedModule.load signedZeroText).toOption.bind fun loaded =>
      (Endpoint.ofRows "http://x" loaded.rows loaded.escaped).document.toOption) =
        some (Document.ofUrls [⟨"http://x/a", "1j", "1"⟩]) := by
  have hrows : GeneratedModule.assignment ["('/a', (-0+1j), 1.0)"] = "SITEMAP_ENTRIES = (\n" ++
      String.join [GeneratedModule.rowLine "('/a', (-0+1j), 1.0)"] ++ ")\n" := rfl
  rw [String.join_cons, String.join_nil, String.append_empty, GeneratedModule.rowLine] at hrows
  have htext : signedZeroText.toList = GeneratedModule.header.toList ++
      (GeneratedModule.assignment ["('/a', (-0+1j), 1.0)"]).toList ++
        (GeneratedModule.footer false).toList := by
    rw [signedZeroText, GeneratedModule.ofTexts, String.toList_append, String.toList_append]
  rw [hrows] at htext
  -- the text is spelled before it is parsed, as its characters are slow to get from its bytes
  unfold GeneratedModule.header GeneratedModule.footer at htext
  repeat rw [String.toList_append] at htext
  repeat rw [String.toList_ofList] at htext
  rw [GeneratedModule.load, Source.parseInput?, htext]
  decide +kernel

end Site

end Sitemap
