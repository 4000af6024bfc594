import Mathlib.Data.List.FinRange
import Sitemap.Scan

/-!
# A scan reports every declaration once, or not at all

* `scan_eq_entry`, `scan_eq_omitted` : what a declaration has to be to give an entry, or to be left
  out;
* `omission?_ne_none_iff` : a class without an entry is left out with a reason exactly if it
  mentions one of the two decorators;
* `map_filterMap_eq_places` : the results of a list come from the places that have one;
* `scanDeclarations_partition` : entries and omissions are at different places, in order.
-/

namespace Sitemap

/-! ## One declaration -/

section Scan
variable {d : Declaration} {names : ScanNames}

def Scanned.asEntry : Scanned → Option Entry
  | .entry e => some e
  | _ => none

def Scanned.asOmitted : Scanned → Option Omitted
  | .omitted o => some o
  | _ => none

theorem scan_eq_entry {e : Entry} : d.scan names = .entry e ↔
    d.annotations ≠ [] ∧ d.isCandidate names ∧ d.entry? = some e := by
  unfold Declaration.scan
  by_cases hempty : d.annotations = []
  · simp [hempty]
  · by_cases hcandidate : d.isCandidate names
    · cases hentry : d.entry? with
      | some e' => simp [hempty, hcandidate]
      | none => cases ho : d.omission? names <;> simp [hempty, hcandidate]
    · cases ho : d.omission? names <;> simp [hempty, hcandidate]

theorem scan_eq_omitted {o : Omitted} : d.scan names = .omitted o ↔
    d.annotations ≠ [] ∧ (d.isCandidate names → d.entry? = none) ∧ d = o.declaration ∧
      d.omission? names = some o.reason := by
  obtain ⟨declaration, reason⟩ := o
  unfold Declaration.scan
  by_cases hempty : d.annotations = []
  · simp [hempty]
  · by_cases hcandidate : d.isCandidate names
    · cases hentry : d.entry? with
      | some e => simp [hempty, hcandidate]
      | none => cases ho : d.omission? names <;> simp [hempty, hcandidate]
    · cases ho : d.omission? names <;> simp [hempty, hcandidate]

def Annotation.IsMention (names : ScanNames) (a : Annotation) : Prop :=
  a.written = names.route ∨ a.written = names.sitemap ∨
    a.name = some routeAnnotation ∨ a.name = some sitemapAnnotation

theorem mentions_or_iff :
    d.mentions names.route routeAnnotation ∨ d.mentions names.sitemap sitemapAnnotation ↔
      ∃ a ∈ d.annotations, a.IsMention names := by
  unfold Declaration.mentions Annotation.IsMention
  simp only [List.any_eq_true, Bool.or_eq_true, beq_iff_eq]
  constructor
  · rintro (⟨a, ha, hw | hn⟩ | ⟨a, ha, hw | hn⟩)
    · exact ⟨a, ha, .inl hw⟩
    · exact ⟨a, ha, .inr (.inr (.inl hn))⟩
    · exact ⟨a, ha, .inr (.inl hw)⟩
    · exact ⟨a, ha, .inr (.inr (.inr hn))⟩
  · rintro ⟨a, ha, hw | hw | hn | hn⟩
    · exact .inl ⟨a, ha, .inl hw⟩
    · exact .inr ⟨a, ha, .inl hw⟩
    · exact .inl ⟨a, ha, .inr hn⟩
    · exact .inr ⟨a, ha, .inr hn⟩

/-- A class without an entry is left out exactly if it has to do with sitemaps: the reason is
found for each way of having no entry. -/
theorem omission?_ne_none_iff (h : d.isCandidate names → d.entry? = none) :
    d.omission? names ≠ none ↔ ∃ a ∈ d.annotations, a.IsMention names := by
  rw [← mentions_or_iff]
  unfold Declaration.omission?
  cases hroute : d.mentions names.route routeAnnotation with
  | false => cases hsitemap : d.mentions names.sitemap sitemapAnnotation <;> simp
  | true =>
    cases hsitemap : d.mentions names.sitemap sitemapAnnotation with
    | false => simp
    | true =>
      cases hcandidate : d.isCandidate names with
      | false => simp
      | true =>
        have hnone := h hcandidate
        unfold Declaration.entry? at hnone
        cases hextract : d.extract with
        | error reason => simp
        | ok e => simp [hextract, Except.toOption] at hnone

theorem scan_asEntry_eq_some {e : Entry} :
    (d.scan names).asEntry = some e ↔ d.scan names = .entry e := by
  cases d.scan names <;> simp [Scanned.asEntry]

theorem scan_asOmitted_eq_some {o : Omitted} :
    (d.scan names).asOmitted = some o ↔ d.scan names = .omitted o := by
  cases d.scan names <;> simp [Scanned.asOmitted]

/-- A decorated class without an entry is reported exactly if it has to do with sitemaps. -/
theorem scan_asOmitted_isSome (hd : d.annotations ≠ []) (hentry : (d.scan names).asEntry = none) :
    (d.scan names).asOmitted.isSome ↔ ∃ a ∈ d.annotations, a.IsMention names := by
  have hnone : d.isCandidate names → d.entry? = none := by
    intro hcandidate
    by_contra hsome
    obtain ⟨e, he⟩ := Option.ne_none_iff_exists'.1 hsome
    rw [scan_asEntry_eq_some.2 (scan_eq_entry.2 ⟨hd, hcandidate, he⟩)] at hentry
    cases hentry
  rw [← omission?_ne_none_iff hnone, Option.ne_none_iff_exists', Option.isSome_iff_exists]
  constructor
  · rintro ⟨o, ho⟩
    exact ⟨o.reason, (scan_eq_omitted.1 (scan_asOmitted_eq_some.1 ho)).2.2.2⟩
  · rintro ⟨reason, hreason⟩
    exact ⟨⟨d, reason⟩, scan_asOmitted_eq_some.2 (scan_eq_omitted.2 ⟨hd, hnone, rfl, hreason⟩)⟩

end Scan

theorem append_ne_empty {s t : String} (h : s ≠ "" ∨ t ≠ "") : s ++ t ≠ "" := by
  rwa [ne_eq, String.append_eq_empty_iff, not_and_or]

/-- A reason is never the empty text, so that a class with a reason can be told from one
without. -/
theorem Omission.message_ne_empty (o : Omission) : o.message ≠ "" := by
  cases o with
  | missing name => exact append_ne_empty (.inr (by decide))
  | misspelled route sitemap =>
    exact append_ne_empty (.inl (append_ne_empty (.inr (by decide))))
  | malformed reason =>
    cases reason with
    | routeNotLiteral | sitemapNotLiteral => decide
    | unresolved _ | routeArity _ | sitemapArity _ | routeKeyword _ | sitemapKeyword _ =>
      exact append_ne_empty (.inl (by decide))
    | routeKind _ | frequencyKind _ | priorityKind _ => exact append_ne_empty (.inr (by decide))

/-! ## Places -/

section Places
variable {α β γ : Type}

theorem map_filterMap_eq_filter (f : α → Option β) (g : β → γ) (h : α → γ)
    (hg : ∀ x y, f x = some y → g y = h x) (xs : List α) :
    (xs.filterMap f).map g = (xs.filter fun x => (f x).isSome).map h := by
  induction xs with
  | nil => rfl
  | cons x xs ih =>
    cases hx : f x with
    | none => simp [hx, ih]
    | some y => simp [hx, ih, hg x y hx]

/-- The places of a list with a result. -/
def placesOf (f : α → Option β) (xs : List α) : List (Fin xs.length) :=
  (List.finRange xs.length).filter fun i => (f xs[i]).isSome

theorem mem_placesOf {f : α → Option β} {xs : List α} {i : Fin xs.length} :
    i ∈ placesOf f xs ↔ (f xs[i]).isSome := by
  simp [placesOf, List.mem_finRange]

theorem placesOf_pairwise (f : α → Option β) (xs : List α) :
    (placesOf f xs).Pairwise (· < ·) :=
  (List.pairwise_lt_finRange xs.length).filter _

theorem map_filterMap_eq_places (f : α → Option β) (g : β → γ) (h : α → γ)
    (hg : ∀ x y, f x = some y → g y = h x) (xs : List α) :
    (xs.filterMap f).map g = (placesOf f xs).map fun i => h xs[i] := by
  have hplaces : xs.filterMap f = (List.finRange xs.length).filterMap fun i => f xs[i] := by
    conv_lhs => rw [← List.map_getElem_finRange xs, List.filterMap_map]
    rfl
  rw [hplaces, map_filterMap_eq_filter _ g (fun i => h xs[i]) fun i y hy => hg _ y hy]
  rfl

end Places

/-! ## A whole scan -/

section Whole
variable (names : ScanNames) (ds : List Declaration)

theorem scanDeclarations_entries (diagnose : Bool) :
    (scanDeclarations names diagnose ds).entries =
      ds.filterMap fun d => (d.scan names).asEntry := rfl

theorem scanDeclarations_omitted :
    (scanDeclarations names true ds).omitted = ds.filterMap fun d => (d.scan names).asOmitted := rfl

/-- Whether omissions are asked for does not matter for the entries. Entries and omissions come
from different places of the list, in order; each omission is recorded by one warning; and a
decorated class at a place without an entry is left out exactly if one of its annotations is
written or resolves as one of the two decorators. -/
theorem scanDeclarations_partition :
    (scanDeclarations names false ds).entries = (scanDeclarations names true ds).entries ∧
    (scanDeclarations names false ds).omitted = [] ∧
    (scanDeclarations names false ds).records = [] ∧
    ∃ kept left : List (Fin ds.length),
      kept.Pairwise (· < ·) ∧ left.Pairwise (· < ·) ∧ kept.Disjoint left ∧
      (scanDeclarations names true ds).entries.map some =
        kept.map (fun i => Declaration.entry? ds[i]) ∧
      (scanDeclarations names true ds).omitted.map Omitted.declaration = left.map (fun i => ds[i]) ∧
      (scanDeclarations names true ds).records =
        (scanDeclarations names true ds).omitted.map Omitted.warning ∧
      (∀ o ∈ (scanDeclarations names true ds).omitted, o.warning.level = .warning ∧
        o.declaration.omission? names = some o.reason) ∧
      ∀ i, (ds[i].annotations = [] → i ∉ kept ∧ i ∉ left) ∧
        (ds[i].annotations ≠ [] → i ∉ kept →
          (i ∈ left ↔ ∃ a ∈ ds[i].annotations, a.IsMention names)) := by
  refine ⟨rfl, rfl, rfl, placesOf (fun d => (d.scan names).asEntry) ds,
    placesOf (fun d => (d.scan names).asOmitted) ds, placesOf_pairwise _ _, placesOf_pairwise _ _,
    ?_, ?_, ?_, rfl, ?_, ?_⟩
  · intro i hkept hleft
    obtain ⟨e, he⟩ := Option.isSome_iff_exists.1 (mem_placesOf.1 hkept)
    obtain ⟨o, ho⟩ := Option.isSome_iff_exists.1 (mem_placesOf.1 hleft)
    cases (scan_asEntry_eq_some.1 he).symm.trans (scan_asOmitted_eq_some.1 ho)
  · rw [scanDeclarations_entries]
    refine map_filterMap_eq_places _ some Declaration.entry? (fun d e he => ?_) ds
    exact (scan_eq_entry.1 (scan_asEntry_eq_some.1 he)).2.2.symm
  · rw [scanDeclarations_omitted]
    refine map_filterMap_eq_places _ Omitted.declaration (fun d => d) (fun d o ho => ?_) ds
    exact (scan_eq_omitted.1 (scan_asOmitted_eq_some.1 ho)).2.2.1.symm
  · intro o ho
    rw [scanDeclarations_omitted, List.mem_filterMap] at ho
    obtain ⟨d, -, hd⟩ := ho
    obtain ⟨-, -, rfl, hreason⟩ := scan_eq_omitted.1 (scan_asOmitted_eq_some.1 hd)
    exact ⟨rfl, hreason⟩
  · intro i
    rw [mem_placesOf, mem_placesOf]
    constructor
    · intro hempty
      unfold Declaration.scan
      rw [hempty]
      exact ⟨by simp [Scanned.asEntry], by simp [Scanned.asOmitted]⟩
    · intro hd hkept
      exact scan_asOmitted_isSome hd (by simpa using hkept)

end Whole

end Sitemap
