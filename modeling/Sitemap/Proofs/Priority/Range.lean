import Sitemap.GeneratedModule
import Sitemap.Proofs.Scan.Rescan

/-!
# No scan fails, and its entries are in range

* `Frequency.ofValue_of_integer` : the frequency that is looked up by a number of any kind;
* `Declaration.tryExtract`, `tryScan` : scanning by conversions that fail on some values
  (`Declaration.tryExtract_eq`, `tryScan_eq`: none of them fails);
* `scanDeclarations_bounded` : the entries of a scan are in range, whatever it is given.
-/

namespace Sitemap

/-! ## Frequencies -/

theorem Value.same_integer {v w : Value} {m n : ℤ} (hv : v.Integer m) (hw : w.Integer n) :
    v.same w = (m == n) := by
  have hunit := Priority.unit_pos.ne'
  have hpoints : (Binary64.pointOfInt m).eq (Binary64.pointOfInt n) = (m == n) := by
    rw [Binary64.pointOfInt, Binary64.pointOfInt, Binary64.Point.eq, Bool.eq_iff_iff, beq_iff_eq,
      beq_iff_eq, mul_left_inj' hunit]
  have hzero : (Binary64.pointOfInt 0).eq (Binary64.pointOfInt 0) = true := beq_self_eq_true _
  rw [← hpoints]
  cases hv <;> cases hw <;>
    simp only [Value.same, Value.asComplex?, Value.asPoint?, Value.asInt?, Option.map_some,
      Value.samePart, hzero, Bool.and_true]

theorem Frequency.ofValue_of_integer {v : Value} {n : ℤ} (h : v.Integer n) :
    Frequency.ofValue v = .ok (.ofOrdinal n) := by
  have hhashable : v.unhashable? = none := by
    cases h <;> rfl
  have hsame : (fun f : Frequency => (Value.frequency f).same v) =
      fun f => (f.ordinal : ℤ) == n := by
    funext f
    exact Value.same_integer (.frequency f) h
  rw [Frequency.ofValue, hhashable]
  simp only [hsame]
  rfl

/-! ## Conversions that may fail -/

def Declaration.arguments (d : Declaration) : Except Malformed (String × Value × Value) := do
  let template ← (← d.firstNamed routeAnnotation).template
  let bound ← (← d.firstNamed sitemapAnnotation).sitemapArguments
  return (template, bound)

/-- The entry of values, by conversions that fail on what is no number; the kinds are tested
first. -/
def Entry.tryMake (template : String) (frequency priority : Value) :
    Except Value.Fault (Except Malformed Entry) :=
  if frequency.kindOf ∉ [.int, .frequency] then .ok (.error (.frequencyKind frequency.kindOf))
  else if priority.kindOf ∉ [.int, .frequency, .float] then
    .ok (.error (.priorityKind priority.kindOf))
  else do
    let keyword ← Frequency.ofValue frequency
    let x ← Priority.ofValue priority
    return .ok ⟨template, keyword, x⟩

/-- The entry of a declaration, by conversions that may fail: a test that is not passed is caught
by the scan, the fault of a conversion is not. -/
def Declaration.tryExtract (d : Declaration) : Except Value.Fault (Except Malformed Entry) :=
  match d.arguments with
  | .error reason => .ok (.error reason)
  | .ok (template, frequency, priority) => Entry.tryMake template frequency priority

/-- The entry that a declaration gives to a scan, by conversions that may fail. -/
def Declaration.tryEntry (names : ScanNames) (d : Declaration) :
    Except Value.Fault (Option Entry) :=
  if d.annotations.isEmpty then .ok none
  else if d.isCandidate names then d.tryExtract.map Except.toOption
  else .ok none

/-- The entries of declarations, by conversions that may fail. -/
def tryScan (names : ScanNames) (ds : List Declaration) : Except Value.Fault (List Entry) :=
  (ds.mapM (Declaration.tryEntry names)).map (·.filterMap id)

theorem Value.ordinal?_eq_none {v : Value} :
    v.ordinal? = Option.none ↔ v.kindOf ∉ [Kind.int, .frequency] := by
  cases v <;> simp [Value.ordinal?, Value.kindOf]

theorem Value.priority?_eq_none {v : Value} :
    v.priority? = Option.none ↔ v.kindOf ∉ [Kind.int, .frequency, .float] := by
  cases v <;> simp [Value.priority?, Value.ordinal?, Value.kindOf]

/-- No conversion fails on values whose kinds have passed their tests. -/
theorem Entry.tryMake_eq (template : String) (frequency priority : Value) :
    Entry.tryMake template frequency priority = .ok (match frequency.ordinal? with
      | none => .error (.frequencyKind frequency.kindOf)
      | some n => match priority.priority? with
        | none => .error (.priorityKind priority.kindOf)
        | some x => .ok ⟨template, .ofOrdinal n, x⟩) := by
  unfold Entry.tryMake
  cases hn : frequency.ordinal? with
  | none => rw [if_pos (Value.ordinal?_eq_none.1 hn)]
  | some n =>
    have hkind := Value.ordinal?_eq_none.not.1 (hn.trans_ne (Option.some_ne_none n))
    rw [if_neg hkind]
    cases hx : priority.priority? with
    | none => rw [if_pos (Value.priority?_eq_none.1 hx)]
    | some x =>
      have hkind' := Value.priority?_eq_none.not.1 (hx.trans_ne (Option.some_ne_none x))
      rw [if_neg hkind', Frequency.ofValue_of_integer ((Value.ordinal?_eq_some _ _).1 hn),
        ((Value.priority?_eq_some _ _).1 hx).2]
      rfl

theorem Declaration.tryExtract_eq (d : Declaration) : d.tryExtract = .ok d.extract := by
  have hextract : d.extract = d.arguments >>= fun (template, frequency, priority) =>
      match frequency.ordinal? with
      | none => .error (.frequencyKind frequency.kindOf)
      | some n => match priority.priority? with
        | none => .error (.priorityKind priority.kindOf)
        | some x => .ok ⟨template, .ofOrdinal n, x⟩ := by
    unfold Declaration.extract Declaration.arguments
    simp only [bind_assoc, pure_bind]
    rfl
  rw [hextract, Declaration.tryExtract]
  cases d.arguments with
  | error reason => rfl
  | ok arguments => exact Entry.tryMake_eq _ _ _

theorem Declaration.tryEntry_eq (names : ScanNames) (d : Declaration) :
    d.tryEntry names = .ok (d.scan names).asEntry := by
  unfold Declaration.tryEntry Declaration.scan
  by_cases hempty : d.annotations.isEmpty = true
  · rw [if_pos hempty, if_pos hempty]
    rfl
  · rw [if_neg hempty, if_neg hempty]
    by_cases hcandidate : d.isCandidate names = true
    · rw [if_pos hcandidate, if_pos hcandidate, d.tryExtract_eq]
      show Except.ok d.entry? = _
      cases d.entry? with
      | some e => rfl
      | none => cases d.omission? names <;> rfl
    · rw [if_neg hcandidate, if_neg hcandidate]
      cases d.omission? names <;> rfl

/-- No scan fails, whatever the arguments of decorators are. -/
theorem tryScan_eq (names : ScanNames) (ds : List Declaration) :
    tryScan names ds = .ok (scanEntries names ds) := by
  have hentry : Declaration.tryEntry names = fun d => pure (d.scan names).asEntry := by
    funext d
    exact d.tryEntry_eq names
  rw [tryScan, hentry, List.mapM_pure]
  exact congrArg Except.ok List.filterMap_map

theorem Frequency.keyword_mem (f : Frequency) : f.keyword ∈
    ["always", "hourly", "daily", "weekly", "monthly", "yearly", "never"] := by
  cases f <;> decide

/-! ## A whole scan -/

/-- Every number of any kind is clamped into the range from 0 to 1, as a float that is neither
not-a-number nor the negative zero; a number in range is kept, and the exact order of numbers is
kept. So no scan fails, its entries have such priorities, and they can be emitted and rendered. -/
theorem scanDeclarations_bounded :
    (∀ v p, v.asPoint? = some p → ∃ x, Priority.ofValue v = .ok x ∧
      (Value.greater (.float (.zero false)) (Value.lesser (.float .one) v)).toFloat = .ok x ∧
      Priority.InRange x ∧ x ≠ .nan ∧ x ≠ .zero true ∧
      ∀ a, p = some a → (Binary64.pointOfInt 0).Le a → a.Le (Binary64.pointOfInt 1) →
        x.point? = some a) ∧
    (∀ v w a b, v.asPoint? = some (some a) → w.asPoint? = some (some b) → a.Le b →
      ∃ x y, Priority.ofValue v = .ok x ∧ Priority.ofValue w = .ok y ∧ x.le y) ∧
    ∀ names diagnose ds, ∃ entries, tryScan names ds = .ok entries ∧
      (scanDeclarations names diagnose ds).entries = entries ∧
      (∀ d : Declaration, d.tryExtract = .ok d.extract) ∧
      (∀ e ∈ entries, Priority.InRange e.priority ∧ e.priority ≠ .nan ∧ e.priority ≠ .zero true ∧
        e.frequency.keyword ∈
          ["always", "hourly", "daily", "weekly", "monthly", "yearly", "never"]) ∧
      ∀ base escaped, (∃ text, GeneratedModule.emit (entries.map Entry.toRow) escaped = .ok text) ∧
        ∃ text, Document.render base (entries.map Entry.toRow) escaped = .ok text := by
  refine ⟨?_, fun v w a b => Priority.ofValue_mono, ?_⟩
  · intro v p h
    obtain ⟨x, hx, hrange, hsign, hkept⟩ := Priority.exists_ofValue_inRange h
    have hformula := (Priority.ofValue_eq_toFloat h).symm.trans hx
    exact ⟨x, hx, hformula, hrange, hrange.ne_nan, hsign, hkept⟩
  · intro names diagnose ds
    refine ⟨scanEntries names ds, tryScan_eq names ds, rfl, Declaration.tryExtract_eq, ?_, ?_⟩
    · intro e he
      obtain ⟨hrange, hsign⟩ := priority_of_mem_scanEntries he
      exact ⟨hrange, hrange.ne_nan, hsign, e.frequency.keyword_mem⟩
    · intro base escaped
      exact ⟨⟨_, GeneratedModule.emit_toRow _ escaped⟩, ⟨_, Document.render_toRow base _ escaped⟩⟩

/-- A class whose arguments are far out of range. -/
def extremeClass : Declaration where
  name := "Extreme"
  qualname := "Extreme"
  moduleName := "pages"
  path := "pages.py"
  line := 4
  annotations := [
    { written := "route", name := some routeAnnotation, args := [.str "/"] },
    { written := "sitemap_url", name := some sitemapAnnotation,
      args := [.int (-10 ^ 400), .int (10 ^ 400)] }]

theorem scanDeclarations_bounded_extreme :
    (∃ x, Priority.ofValue (.int (10 ^ 400)) = .ok x ∧ Priority.InRange x) ∧
    (∃ x y, Priority.ofValue (.float (.infinite true)) = .ok x ∧
      Priority.ofValue (.int (10 ^ 400)) = .ok y ∧ x.le y) ∧
    ∃ entries, tryScan ⟨"route", "sitemap_url"⟩ [extremeClass] = .ok entries ∧ entries.length = 1 ∧
      ∀ e ∈ entries, Priority.InRange e.priority := by
  obtain ⟨hclamped, hordered, hscan⟩ := scanDeclarations_bounded
  refine ⟨?_, ?_, ?_⟩
  · obtain ⟨x, hx, -, hrange, -⟩ := hclamped (.int (10 ^ 400)) _ rfl
    exact ⟨x, hx, hrange⟩
  · exact hordered (.float (.infinite true)) (.int (10 ^ 400)) .least _ rfl rfl (.inl rfl)
  · obtain ⟨entries, htry, hentries, -, hall, -⟩ :=
      hscan ⟨"route", "sitemap_url"⟩ false [extremeClass]
    have hlength : entries.length = 1 := by
      rw [← hentries]
      rfl
    exact ⟨entries, htry, hlength, fun e he => (hall e he).1⟩

end Sitemap
