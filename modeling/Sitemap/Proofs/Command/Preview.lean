import Sitemap.Proofs.Command.Frame
import Sitemap.Proofs.GeneratedModule.Loading
import Sitemap.Proofs.Site.Registration
import Sitemap.Proofs.Text.Terminal

/-!
# Previews and what is served

* `GeneratedModule.Loaded.served` : the answer of a fresh application to which a module is mapped;
* `served_literalRows` : a module for entries serves their document;
* `exists_loaded` : a run that writes the module leaves one that offers the entries of its scan;
* `run_previewing` : a preview prints the document of the entries, but for control sequences, unless
  it cannot be encoded;
* `run_preview` : the preview and what is served are the same but for these.
-/

namespace Sitemap

/-! ## What is served -/

/-- The answer to a request for the sitemap once a module is mapped to a fresh application under a
base address. -/
def GeneratedModule.Loaded.served (loaded : GeneratedModule.Loaded) (base : String) :
    Except Row.Fault Response :=
  (({} : Site).registerRows .application base loaded.rows loaded.escaped).1.respond "GET"
    "/sitemap.xml"

/-- A module for entries serves their document. -/
theorem served_literalRows (entries : List Entry) (escaped : Bool) (base : String) :
    (GeneratedModule.Loaded.mk (entries.map Entry.literalRow) escaped).served base =
      .ok (.document (Document.ofEntries base entries escaped)) := by
  have hfields : (entries.map Entry.literalRow).map Row.fields =
      (entries.map Entry.toRow).map Row.fields := by
    rw [List.map_map, List.map_map]
    exact List.map_congr_left fun e _ => e.fields_literalRow
  -- the fields of entries are whole texts
  have hwhole : (entries.map Entry.toRow).any Row.isUnpaired = false := by
    rw [List.any_map, List.any_eq_false]
    exact fun e _ => nofun
  have hdocument : (Endpoint.ofRows base (entries.map Entry.literalRow) escaped).document =
      .ok (Document.ofEntries base entries escaped) := by
    rw [Endpoint.document_eq_render ((Row.any_isUnpaired_congr hfields).trans hwhole)]
    exact (Document.render_congr hfields base escaped).trans (Document.render_toRow _ _ _)
  have hpath : routedPath (requestPath "/sitemap.xml") = sitemapPath := by decide
  have hfind : [Endpoint.ofRows base (entries.map Entry.literalRow) escaped].find?
      (·.path == sitemapPath) = some (.ofRows base (entries.map Entry.literalRow) escaped) :=
    List.find?_cons_of_pos (beq_self_eq_true _)
  simp only [GeneratedModule.Loaded.served, Site.respond, Site.registerRows, Site.add, hpath,
    toUpper_get, Endpoint.respond, List.nil_append, hfind, if_true, hdocument]
  rfl

/-! ## Control sequences in documents -/

/-- A control sequence in the base address stands in every document with a page, unless it is
escaped. -/
theorem hasSequence_ofEntries {base : String} (h : HasSequence base.toList) (e : Entry)
    (entries : List Entry) :
    HasSequence (Document.ofEntries base (e :: entries) false).toList := by
  have hlocation : HasSequence (joinLocation base e.template).toList := by
    unfold joinLocation
    split
    · rw [String.toList_append]
      exact h.append_right _
    · rw [String.toList_append]
      exact h.append_right _
  have hpage : HasSequence (Document.url (e.url base false)).toList := by
    unfold Document.url Entry.url
    simp only [Bool.false_eq_true, if_false, String.toList_append, List.append_assoc]
    exact ((hlocation.append_right _).append_left _).append_left _
  unfold Document.ofEntries Document.ofUrls
  simp only [List.map_cons, String.join_cons, String.toList_append, List.append_assoc]
  exact (hpage.append_right _).append_left _

namespace Command

/-! ## Runs -/

section Runs
variable {store : Store} {i : Invocation} {o : Options}

theorem exists_loaded (hread : Options.read i.arguments = .ok o) (ho : o.Generates)
    (hending : (run store i).ending = .status 0) :
    let config := o.config i.environment
    ∃ entries text, store.Finds i.decoders config.names config.sources entries ∧
      (run store i).store.readText config.output = .ok text ∧
      GeneratedModule.load text = .ok ⟨entries.map Entry.literalRow, config.escape⟩ := by
  intro config
  have hrun : run store i = runWith store i o := run_of_read hread
  rw [hrun] at hending ⊢
  obtain ⟨opened, logging, entries, hsetup, hfinds, htext⟩ :=
    runWith_writes ⟨ho.help, ho.check, ho.preview⟩ hrun hending (logApart_of_logFile ho.logFile)
  rw [(not_writesTo_of_setup hsetup ho.logFile).1] at hfinds
  exact ⟨entries, _, hfinds, htext, GeneratedModule.load_ofEntries hfinds.isFinite config.escape⟩

/-- A session that is asked for a preview shows the document of what it finds, unless that has half
of a pair, and changes nothing. -/
theorem Session.generate_preview {s : Session} (h : s.logging.handlers = [.console])
    {base : String} (hpreview : o.preview = some base) (hvalidate : o.validate = false)
    {config : Config} {found : PathScan}
    (hfound : (scanPaths s.decoders .none s.store config.names config.reportOmitted
      config.sources).result = .ok found) :
    (s.generate o config).store = s.store ∧
    (found.unpaired = true → (s.generate o config).ending = .escaped .unencodable ∧
      (s.generate o config).output = s.output) ∧
    (found.unpaired = false → (s.generate o config).ending = .status 0 ∧
      (s.generate o config).output =
        s.output ++ stripSequences (Document.ofEntries base found.entries config.escape)) := by
  obtain ⟨errors, hgenerate⟩ := exists_generate h o hfound
  rw [hgenerate, deliver, hpreview]
  cases hunpaired : found.unpaired with
  | true => exact ⟨rfl, fun _ => ⟨rfl, rfl⟩, fun h => Bool.noConfusion h⟩
  | false =>
    simp only [preview, hvalidate, Bool.false_eq_true, if_false]
    exact ⟨rfl, False.elim, fun _ => ⟨rfl, rfl⟩⟩

/-- A preview prints the document of the entries, but for control sequences, and changes nothing. If
a path template has half of a pair, it prints nothing and the fault escapes. -/
theorem run_previewing (hread : Options.read i.arguments = .ok o) (ho : o.Generates)
    (hvalidate : o.validate = false) (hending : (run store i).ending = .status 0)
    {found : PathScan}
    (hfound : (scanPaths i.decoders .none store (o.config i.environment).names
      (o.config i.environment).reportOmitted (o.config i.environment).sources).result = .ok found)
    {base : String} {arguments : List String}
    (hinserted : Options.Inserted ["--preview", base] i.arguments arguments) :
    let preview := run store { i with arguments }
    preview.store = store ∧
    (found.unpaired = true → preview.ending = .escaped .unencodable ∧ preview.output = "") ∧
    (found.unpaired = false → preview.ending = .status 0 ∧ preview.output =
      stripSequences (Document.ofEntries base found.entries (o.config i.environment).escape)) := by
  intro preview
  have hpreview : preview = runWith store { i with arguments } (Options.previewing base o) :=
    run_of_read (Options.read_inserted_preview hinserted hread ho.preview)
  rw [run_of_read hread] at hending
  obtain ⟨hverify, n, hlevel⟩ := runWith_verified ho.help hending
  have hgenerate := runWith_eq_generate (i := { i with arguments })
    (o := Options.previewing base o) ho.help ho.logFile rfl hverify hlevel
  have hprints := Session.generate_preview (s := opening store ⟨n, [.console]⟩ i) rfl
    (o := Options.previewing base o) rfl hvalidate hfound
  have hnone : (opening store ⟨n, [.console]⟩ i).output = "" := rfl
  rw [hnone, String.empty_append] at hprints
  rw [hpreview, hgenerate]
  exact hprints

/-- The preview shows what will be served: where a command line writes the module without a fault,
the same one with a preview put in prints, on the same files, what a fresh application answers for
the sitemap once that module is loaded and mapped under the base address of the preview. Only
control sequences are left out of what is printed: both are the same exactly if there is none. A
path template with half of a pair is no text that can be shown: then the preview prints nothing, and
the fault of its encoding escapes. -/
theorem run_preview (hread : Options.read i.arguments = .ok o) (ho : o.Generates)
    (hvalidate : o.validate = false) (hending : (run store i).ending = .status 0)
    {base : String} {arguments : List String}
    (hinserted : Options.Inserted ["--preview", base] i.arguments arguments) :
    let config := o.config i.environment
    let preview := run store { i with arguments }
    preview.store = store ∧
    ∃ found, (scanPaths i.decoders .none store config.names config.reportOmitted
        config.sources).result = .ok found ∧
      (found.unpaired = true → preview.ending = .escaped .unencodable ∧ preview.output = "") ∧
      (found.unpaired = false → ∃ text loaded body,
        (run store i).store.readText config.output = .ok text ∧
        GeneratedModule.load text = .ok loaded ∧ loaded.served base = .ok (.document body) ∧
        preview.ending = .status 0 ∧ preview.output = stripSequences body ∧
        (preview.output = body ↔ ¬ HasSequence body.toList)) := by
  intro config preview
  obtain ⟨entries, text, hfinds, htext, hload⟩ := exists_loaded hread ho hending
  obtain ⟨found, hfound, rfl⟩ := (Store.finds_iff config.reportOmitted).1 hfinds
  obtain ⟨hstore, hunpaired, hprints⟩ := run_previewing hread ho hvalidate hending hfound hinserted
  refine ⟨hstore, found, hfound, hunpaired, fun hwhole => ?_⟩
  obtain ⟨hstatus, houtput⟩ := hprints hwhole
  refine ⟨text, _, _, htext, hload, served_literalRows found.entries _ base, hstatus, houtput, ?_⟩
  rw [houtput]
  exact stripSequences_eq_self_iff

end Runs

theorem scanPaths_pageStore {found : PathScan}
    (h : (scanPaths .plain .none pageStore (pageOptions.config {}).names
      (pageOptions.config {}).reportOmitted (pageOptions.config {}).sources).result = .ok found) :
    found.entries ≠ [] ∧ found.unpaired = false := by
  have hall : ∀ found ∈ (scanPaths .plain .none pageStore (pageOptions.config {}).names
      (pageOptions.config {}).reportOmitted (pageOptions.config {}).sources).result.toOption,
      found.entries ≠ [] ∧ found.unpaired = false := by
    decide +kernel
  exact hall found (mem_toOption.2 h)

/-- A page whose path template is half of a pair. -/
def halfStore : Store where
  items := [(["page.py"], .file (Utf8.encode (pageSource "/\\ud800")))]

/-- The run over that page succeeds, with stand-ins for what the template spells. -/
theorem unpaired_halfStore : (run halfStore (pageRun "first")).ending = .status 0 ∧
    ∀ found, (scanPaths .plain .none halfStore (pageOptions.config {}).names
      (pageOptions.config {}).reportOmitted (pageOptions.config {}).sources).result = .ok found →
        found.unpaired = true := by
  have hall : (run halfStore (pageRun "first")).ending = .status 0 ∧
      ∀ found ∈ (scanPaths .plain .none halfStore (pageOptions.config {}).names
        (pageOptions.config {}).reportOmitted (pageOptions.config {}).sources).result.toOption,
        found.unpaired = true := by
    decide +kernel
  exact ⟨hall.1, fun found h => hall.2 found (mem_toOption.2 h)⟩

/-- Previews under a plain base address: of a page, and of one that cannot be shown. -/
theorem run_previewPage :
    let arguments := "--preview" :: "http://x" :: (pageRun "first").arguments
    (Options.read (pageRun "first").arguments = .ok pageOptions ∧ pageOptions.Generates ∧
      pageOptions.validate = false ∧ (run pageStore (pageRun "first")).ending = .status 0 ∧
      (run halfStore (pageRun "first")).ending = .status 0 ∧
      Options.Inserted ["--preview", "http://x"] (pageRun "first").arguments arguments) ∧
    (∃ text loaded body,
      (run pageStore (pageRun "first")).store.readText "sitemap_generated.py" = .ok text ∧
      GeneratedModule.load text = .ok loaded ∧
      loaded.served "http://x" = .ok (.document body) ∧
      (run pageStore { pageRun "first" with arguments }).output = stripSequences body) ∧
    (run halfStore { pageRun "first" with arguments }).ending = .escaped .unencodable := by
  have hinserted := Options.Inserted.front ["--preview", "http://x"] (pageRun "first").arguments
  obtain ⟨hstatus, hunpaired⟩ := unpaired_halfStore
  refine ⟨⟨read_pageRun, pageOptions_generates, rfl, pageRun_status, hstatus, hinserted⟩, ?_, ?_⟩
  · obtain ⟨-, found, hfound, -, hprints⟩ :=
      run_preview read_pageRun pageOptions_generates rfl pageRun_status hinserted
    obtain ⟨text, loaded, body, htext, hload, hserved, -, houtput, -⟩ :=
      hprints (scanPaths_pageStore hfound).2
    exact ⟨text, loaded, body, htext, hload, hserved, houtput⟩
  · obtain ⟨-, found, hfound, hescapes, -⟩ :=
      run_preview read_pageRun pageOptions_generates rfl hstatus hinserted
    exact (hescapes (hunpaired found hfound)).1

def colorBase : String := "http://x/\x1b[31m"

/-- Under a base address with a control sequence, the preview of a page is not what is served. -/
theorem run_previewColor :
    ∃ text loaded body,
      (run pageStore (pageRun "first")).store.readText "sitemap_generated.py" = .ok text ∧
      GeneratedModule.load text = .ok loaded ∧
      loaded.served colorBase = .ok (.document body) ∧
      (run pageStore { pageRun "first" with arguments :=
        "--preview" :: colorBase :: (pageRun "first").arguments }).output ≠ body := by
  obtain ⟨entries, text, hfinds, htext, hload⟩ :=
    exists_loaded read_pageRun pageOptions_generates pageRun_status
  obtain ⟨found, hfound, rfl⟩ :=
    (Store.finds_iff (pageOptions.config {}).reportOmitted).1 hfinds
  obtain ⟨hpages, hwhole⟩ := scanPaths_pageStore hfound
  obtain ⟨-, -, hprints⟩ := run_previewing read_pageRun pageOptions_generates rfl
    pageRun_status hfound (.front ["--preview", colorBase] _)
  obtain ⟨e, rest, hcons⟩ := List.exists_cons_of_ne_nil hpages
  refine ⟨text, _, _, htext, hload, served_literalRows _ _ colorBase, fun heq => ?_⟩
  have hcolor : HasSequence colorBase.toList :=
    ⟨"http://x/".toList, "[31m".toList, by decide, by decide⟩
  have hbody := hasSequence_ofEntries hcolor e rest
  rw [← hcons] at hbody
  exact stripSequences_eq_self_iff.1 ((hprints hwhole).2.symm.trans heq) hbody

end Command

end Sitemap
