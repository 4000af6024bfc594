import Sitemap.Proofs.Store.Frames

/-!
# Setting up the log again and again

The log is set up in a process where records go to handlers already: these are removed one after
the other, and files that they wrote to may be named again.

* `Logging.reconfigure` : setting up the log step by step, from whatever was set up before
  (`reconfigure_eq_ok`: what was there before does not matter);
* `LogCall`, `Process.perform` : a call that sets up the log, and one record after it;
* `Process.Performed`, `performed` : what one call does;
* `Process.performed_all` : what any number of calls does.
-/

namespace Sitemap

namespace Logging

/-! ## Step by step -/

def setThreshold (l : Logging) (n : Nat) : Logging := { l with threshold := n }

def removeHandler (l : Logging) (h : Log.Handler) : Logging :=
  { l with handlers := l.handlers.erase h }

def addHandler (l : Logging) (h : Log.Handler) : Logging :=
  { l with handlers := l.handlers ++ [h] }

/-- Sets up the log where one is set up already. A word that is no level changes nothing; a file
that cannot be opened leaves the console. -/
def reconfigure (s : Store) (l : Logging) (level file : String) :
    Store × Logging × Option Fault :=
  match Log.threshold level with
  | .text text => (s, l, some (.unknownLevel text))
  | .table written => (s, l, some (.notLevel written))
  | .number n =>
    let l := l.setThreshold n
    let l := l.handlers.foldl removeHandler l
    let l := l.addHandler .console
    if file.isEmpty then (s, l, none)
    else match openFile s file with
      | .ok (s, at_) => (s, l.addHandler (.file at_), none)
      | .error error => (s, l, some (.file error))

/-- The handlers are removed in the order in which they stand, so the first one is always next. -/
theorem foldl_removeHandler (l : Logging) :
    l.handlers.foldl removeHandler l = { l with handlers := [] } := by
  obtain ⟨n, handlers⟩ := l
  induction handlers with
  | nil => rfl
  | cons h rest ih =>
    rw [List.foldl_cons, removeHandler, List.erase_cons_head]
    exact ih

/-- What was set up before does not matter: the log is set up as if nothing had been. -/
theorem reconfigure_eq_ok {s t : Store} {l l' : Logging} {level file : String} :
    reconfigure s l level file = (t, l', none) ↔ setup s level file = .ok (t, l') := by
  unfold reconfigure setup
  cases Log.threshold level with
  | text text => simp
  | table written => simp
  | number n =>
    simp only [foldl_removeHandler (l.setThreshold n)]
    by_cases hfile : file.isEmpty = true
    · simp [hfile, setThreshold, addHandler]
    · cases openFile s file with
      | error error => simp [hfile]
      | ok opened => simp [hfile, setThreshold, addHandler]

end Logging

/-! ## Calls -/

def Log.levelNumbers : List (String × Nat) :=
  [("CRITICAL", 50), ("FATAL", 50), ("ERROR", 40), ("WARNING", 30), ("WARN", 30), ("INFO", 20),
    ("DEBUG", 10), ("NOTSET", 0)]

def Log.capitals (word : String) : String := String.ofList (word.toList.flatMap Log.capital)

/-- A call that sets up the log, and the record of information that is written after it. -/
structure LogCall where
  level : String := "INFO"
  file : Option String := none
  time : String
  part : Log.Part
  message : String

namespace LogCall

def record (c : LogCall) : Log.Record := ⟨c.part, .info, c.message⟩

def line (c : LogCall) : String := c.record.line c.time

/-- The number of the level that a call names; a word that names none means information. -/
def levelNumber (c : LogCall) : Nat := (Log.levelNumbers.lookup (Log.capitals c.level)).getD 20

def HasFile (c : LogCall) : Prop := ∃ path, c.file = some path ∧ path ≠ ""

/-- The location of the file that a call names. -/
def target? (c : LogCall) (s : Store) : Option Location :=
  match c.file with
  | none => none
  | some path =>
    if path = "" then none else (s.target (Path.ofText path).condensed.text).toOption

/-- The call names the file at a location, and its level is not above that of information. -/
def WritesTo (c : LogCall) (s : Store) (l : Location) : Prop :=
  c.target? s = some l ∧ c.levelNumber ≤ 20

instance (c : LogCall) (s : Store) (l : Location) : Decidable (c.WritesTo s l) := by
  unfold WritesTo
  infer_instance

end LogCall

/-- The lines that calls write into the file at a location, in order. -/
def linesTo (s : Store) (l : Location) (calls : List LogCall) : List UInt8 :=
  (calls.filter (·.WritesTo s l)).flatMap fun c => Utf8.encode c.line

def Logging.toTarget (n : Nat) (target? : Option Location) : Logging :=
  ⟨n, .console :: target?.toList.map .file⟩

/-- A process that writes records. -/
structure Process where
  store : Store
  logging : Logging
  errors : String := ""

/-- Sets up the log and writes a record. -/
def Process.perform (p : Process) (c : LogCall) : Except Logging.Fault Process :=
  match p.logging.reconfigure p.store c.level (c.file.getD "") with
  | (_, _, some fault) => .error fault
  | (s, l, none) =>
    .ok ⟨l.write c.time s c.record, l, p.errors ++ l.console c.time c.record⟩

/-! ## One call -/

/-- What a call does to a process, whatever was set up before. -/
structure Process.Performed (p : Process) (c : LogCall) (q : Process) : Prop where
  logging : q.logging = .toTarget c.levelNumber (c.target? p.store)
  target : (c.target? p.store).isSome ↔ c.HasFile
  errors : q.errors = p.errors ++ if c.levelNumber ≤ 20 then c.line else ""
  item? : ∀ l, q.store.item? l = if c.target? p.store = some l then
    some (.file (p.store.content l ++ linesTo p.store l [c])) else p.store.item? l

/-- A word that can be used means its number, and the level of information if it has none. -/
theorem Log.number_of_threshold {word : String} {n : Nat} (h : Log.threshold word = .number n) :
    n = (Log.levelNumbers.lookup (Log.capitals word)).getD 20 := by
  have hcapitals : String.ofList (word.toList.flatMap Log.capital) = Log.capitals word := rfl
  unfold Log.threshold at h
  rw [hcapitals] at h
  generalize Log.capitals word = capitals at h ⊢
  split at h
  case h_9 | h_10 => cases h
  case h_11 =>
    cases h
    have hnone : Log.levelNumbers.lookup capitals = none := by
      rw [List.lookup_eq_none_iff]
      simp only [Log.levelNumbers, List.forall_mem_cons, List.not_mem_nil, false_imp_iff,
        implies_true, and_true, bne_iff_ne]
      and_intros <;> assumption
    rw [hnone]
    rfl
  all_goals
    cases h
    rfl

/-- What setting up the log leaves: its handlers, and a file that is there. -/
theorem Logging.setup_call {s t : Store} {c : LogCall} {l : Logging}
    (h : Logging.setup s c.level (c.file.getD "") = .ok (t, l)) :
    l = .toTarget c.levelNumber (c.target? s) ∧
      ((c.target? s).isSome ↔ c.HasFile) ∧
      ∀ at_, t.item? at_ = if c.target? s = some at_ then some (.file (s.content at_))
        else s.item? at_ := by
  unfold Logging.setup at h
  split at h
  case h_1 | h_2 => cases h
  case h_3 n hn =>
    have hlevel : n = c.levelNumber := Log.number_of_threshold hn
    rw [hlevel] at h
    unfold LogCall.target? LogCall.HasFile
    cases hfile : c.file with
    | none =>
      rw [hfile] at h
      cases h
      exact ⟨rfl, ⟨nofun, nofun⟩, fun at_ => rfl⟩
    | some path =>
      rw [hfile, Option.getD_some] at h
      by_cases hpath : path = ""
      · cases hpath
        cases h
        exact ⟨rfl, ⟨nofun, fun ⟨_, heq, hne⟩ => absurd (Option.some.inj heq).symm hne⟩,
          fun at_ => rfl⟩
      · rw [if_neg (mt String.isEmpty_iff.1 hpath)] at h
        split at h
        · rename_i opened at_ hopen
          cases h
          obtain ⟨htarget, hitem⟩ := Logging.item?_openFile hopen
          simp only [if_neg hpath, htarget, Except.toOption, Option.some.injEq]
          refine ⟨rfl, ⟨fun _ => ⟨path, rfl, hpath⟩, fun _ => rfl⟩, fun l => ?_⟩
          rw [hitem]
          split
          · rename_i heq
            rw [heq]
          · rfl
        · cases h

theorem LogCall.target?_eq_some {c : LogCall} {s : Store} {l : Location} :
    c.target? s = some l ↔ ∃ path, c.file = some path ∧ path ≠ "" ∧
      s.target (Path.ofText path).condensed.text = .ok l := by
  unfold LogCall.target?
  cases c.file with
  | none => simp
  | some path =>
    by_cases hpath : path = ""
    · simp [hpath]
    · simp only [Option.some.injEq, exists_eq_left', ne_eq, hpath,
        not_false_eq_true, true_and]
      exact mem_toOption

section Perform
variable {p q : Process} {c : LogCall}

theorem linesTo_singleton (s : Store) (l : Location) (c : LogCall) :
    linesTo s l [c] = if c.WritesTo s l then Utf8.encode c.line else [] := by
  unfold linesTo
  by_cases h : c.WritesTo s l
  · simp [h]
  · simp [h]

theorem linesTo_cons (s : Store) (l : Location) (c : LogCall) (calls : List LogCall) :
    linesTo s l (c :: calls) = linesTo s l [c] ++ linesTo s l calls := by
  unfold linesTo
  rw [← List.flatMap_append, ← List.filter_append, List.singleton_append]

section Written
variable (n : Nat) (target? : Option Location) (c : LogCall)

theorem Logging.threshold_toTarget : (toTarget n target?).threshold = n := rfl

theorem Logging.accepts_toTarget : (toTarget n target?).accepts c.record = true ↔ n ≤ 20 := by
  unfold accepts LogCall.record
  exact decide_eq_true_iff

theorem Logging.console_toTarget :
    (toTarget n target?).console c.time c.record = if n ≤ 20 then c.line else "" := by
  unfold console
  simp only [accepts_toTarget]
  congr 1
  cases target? with
  | none => exact String.empty_append
  | some at_ => exact String.empty_append

theorem Logging.write_toTarget (s : Store) : (toTarget n target?).write c.time s c.record =
    if n ≤ 20 then target?.elim s fun at_ => s.append at_ (Utf8.encode c.line) else s := by
  unfold write
  simp only [accepts_toTarget]
  congr 1
  cases target? <;> rfl

end Written

/-- The record goes behind what the file holds that has been opened. -/
theorem Logging.item?_write {s t : Store} (ht : ∀ at_, t.item? at_ =
      if c.target? s = some at_ then some (.file (s.content at_)) else s.item? at_) (l : Location) :
    ((toTarget c.levelNumber (c.target? s)).write c.time t c.record).item? l =
      if c.target? s = some l then some (.file (s.content l ++ linesTo s l [c]))
      else s.item? l := by
  rw [write_toTarget, linesTo_singleton]
  cases htarget : c.target? s with
  | none =>
    rw [htarget] at ht
    simpa using ht l
  | some at_ =>
    rw [htarget] at ht
    have hat := ht at_
    rw [if_pos rfl] at hat
    by_cases hlevel : c.levelNumber ≤ 20
    · rw [if_pos hlevel, Option.elim_some, Store.item?_append hat, ht]
      by_cases hl : at_ = l
      · simp [hl, htarget, LogCall.WritesTo, hlevel]
      · simp [hl]
    · rw [if_neg hlevel, ht]
      simp [LogCall.WritesTo, hlevel]

theorem Process.performed (h : p.perform c = .ok q) : p.Performed c q := by
  unfold Process.perform at h
  split at h
  · cases h
  · rename_i t l hsetup
    cases h
    obtain ⟨rfl, hfile, hitem⟩ := Logging.setup_call (Logging.reconfigure_eq_ok.1 hsetup)
    refine ⟨rfl, hfile, ?_, fun l => ?_⟩
    · rw [Logging.console_toTarget]
    · dsimp only
      exact Logging.item?_write hitem l

theorem Process.Performed.directory (h : p.Performed c q) (l : Location) :
    q.store.item? l = some .directory ↔ p.store.item? l = some .directory := by
  rw [h.item?]
  by_cases htarget : c.target? p.store = some l
  · obtain ⟨path, -, -, hat⟩ := LogCall.target?_eq_some.1 htarget
    rw [if_pos htarget]
    exact ⟨nofun, fun hdirectory => absurd hdirectory (Store.target_eq_ok hat).not_directory⟩
  · rw [if_neg htarget]

theorem Process.Performed.target?_eq (h : p.Performed c q) (c' : LogCall) :
    c'.target? q.store = c'.target? p.store := by
  apply Option.ext
  intro l
  rw [LogCall.target?_eq_some, LogCall.target?_eq_some]
  simp only [Store.target_congr h.directory]

theorem Process.Performed.linesTo_eq (h : p.Performed c q) (l : Location) (calls : List LogCall) :
    linesTo q.store l calls = linesTo p.store l calls := by
  unfold linesTo LogCall.WritesTo
  simp only [h.target?_eq]

end Perform

/-! ## Any number of calls -/

theorem Process.target?_foldlM {p q : Process} {calls : List LogCall}
    (h : calls.foldlM Process.perform p = .ok q) (c : LogCall) :
    c.target? q.store = c.target? p.store := by
  refine foldlM_invariant (P := fun r : Process => c.target? r.store = c.target? p.store) ?_ rfl h
  intro c' _ r r' hr hr'
  have hone : r.Performed c' r' := Process.performed hr'
  rw [hone.target?_eq, hr]

theorem linesTo_eq_nil {s : Store} {l : Location} {calls : List LogCall}
    (h : ∀ c ∈ calls, c.target? s ≠ some l) : linesTo s l calls = [] := by
  unfold linesTo
  rw [List.filter_eq_nil_iff.2]
  · rfl
  · intro c hc hwrites
    exact h c hc (of_decide_eq_true hwrites).1

/-- A file that is named by some of the calls holds what it held, and the lines of those calls; what
is at another location stays as it is. -/
theorem Process.item?_foldlM {p q : Process} {calls : List LogCall}
    (h : calls.foldlM Process.perform p = .ok q) (l : Location) :
    q.store.item? l = if ∃ c ∈ calls, c.target? p.store = some l then
      some (.file (p.store.content l ++ linesTo p.store l calls)) else p.store.item? l := by
  induction calls generalizing p with
  | nil =>
    cases h
    rw [if_neg nofun]
  | cons c calls ih =>
    rw [List.foldlM_cons, bind_eq_ok] at h
    obtain ⟨r, hr, h⟩ := h
    have hone := Process.performed hr
    rw [ih h, hone.linesTo_eq, linesTo_cons]
    simp only [hone.target?_eq, List.exists_mem_cons_iff]
    -- after the first call the file holds its line already, if the call names it
    by_cases hc : c.target? p.store = some l
    · have hitem := hone.item? l
      have hnamed : c.target? p.store = some l ∨ ∃ c' ∈ calls, c'.target? p.store = some l :=
        .inl hc
      rw [if_pos hc] at hitem
      rw [if_pos hnamed, hitem, Store.content_of_item? hitem]
      split
      · rw [List.append_assoc]
      · rename_i hnone
        rw [linesTo_eq_nil fun c' hc' heq => hnone ⟨c', hc', heq⟩, List.append_nil]
    · have hitem := hone.item? l
      rw [if_neg hc] at hitem
      have hcontent : r.store.content l = p.store.content l := by
        rw [Store.content, hitem, Store.content]
      have hnil : linesTo p.store l [c] = [] :=
        linesTo_eq_nil (List.forall_mem_singleton.2 hc)
      rw [hitem, hcontent, hnil, List.nil_append]
      simp only [hc, false_or]

/-- A log is what one call leaves: its level is the one that the call names, and its handlers are
the console and the file that the call names, if it names one. -/
structure LogCall.SetsUp (c : LogCall) (s : Store) (l : Logging) : Prop where
  threshold : l.threshold = c.levelNumber
  console : ¬c.HasFile → l.handlers = [.console]
  file : ∀ path, c.file = some path → path ≠ "" → ∃ at_,
    s.target (Path.ofText path).condensed.text = .ok at_ ∧ l.handlers = [.console, .file at_]

theorem LogCall.setsUp_toTarget {c : LogCall} {s : Store} (h : (c.target? s).isSome ↔ c.HasFile) :
    c.SetsUp s (.toTarget c.levelNumber (c.target? s)) := by
  refine ⟨Logging.threshold_toTarget _ _, fun hfile => ?_, fun path hpath hne => ?_⟩
  · rw [Option.not_isSome_iff_eq_none.1 (mt h.1 hfile)]
    rfl
  · obtain ⟨at_, htarget⟩ := Option.isSome_iff_exists.1 (h.2 ⟨path, hpath, hne⟩)
    obtain ⟨path', hpath', -, hat⟩ := LogCall.target?_eq_some.1 htarget
    obtain rfl : path' = path := Option.some.inj (hpath'.symm.trans hpath)
    exact ⟨at_, hat, by rw [htarget]; rfl⟩

/-- However often the log is set up, and whatever was set up before, each call leaves the console, a
file behind it if the call names one, and the level that the call names; the record after it is
shown once if it is grave enough. In the end each file that was named holds what it held, and one
line for each call that named it with a level that lets the record through; all else is as it
was. -/
theorem Process.performed_all {p q : Process} {calls : List LogCall}
    (h : calls.foldlM Process.perform p = .ok q) :
    (∀ (before : List LogCall) (c : LogCall) (after : List LogCall),
      calls = before ++ c :: after → ∃ r r' : Process,
      before.foldlM Process.perform p = .ok r ∧ r.perform c = .ok r' ∧
      after.foldlM Process.perform r' = .ok q ∧ c.SetsUp p.store r'.logging ∧
      r'.errors = r.errors ++ if c.levelNumber ≤ 20 then c.line else "") ∧
    ∀ l, q.store.item? l = if ∃ c ∈ calls, c.target? p.store = some l then
      some (.file (p.store.content l ++ linesTo p.store l calls)) else p.store.item? l := by
  refine ⟨?_, Process.item?_foldlM h⟩
  rintro before c after rfl
  rw [List.foldlM_append, bind_eq_ok] at h
  obtain ⟨r, hbefore, h⟩ := h
  rw [List.foldlM_cons, bind_eq_ok] at h
  obtain ⟨r', hc, hafter⟩ := h
  obtain ⟨hlogging, hfile, herrors, -⟩ := Process.performed hc
  rw [Process.target?_foldlM hbefore c] at hlogging hfile
  refine ⟨r, r', hbefore, hc, hafter, ?_, herrors⟩
  rw [hlogging]
  exact LogCall.setsUp_toTarget hfile

def crowdedProcess : Process where
  store := ⟨[(["old.log"], .file [10])]⟩
  logging := ⟨30, [.console, .file ["old.log"], .console]⟩

/-- Calls that name two files, one of them twice, and a level that lets no information through. -/
def alternatingCalls : List LogCall :=
  [{ file := some "a.log", time := "1", part := .main, message := "first" },
    { level := "error", file := some "old.log", time := "2", part := .main, message := "second" },
    { level := "any", file := some "./a.log", time := "3", part := .main, message := "third" }]

theorem performed_alternatingCalls : ∃ q,
    alternatingCalls.foldlM Process.perform crowdedProcess = .ok q ∧
    q.store.item? ["old.log"] = some (.file [10]) ∧
    q.store.item? ["a.log"] = some (.file (Utf8.encode
      "1 - sitemap_codegen.main - INFO - first\n3 - sitemap_codegen.main - INFO - third\n")) := by
  have hrun : ∃ q, alternatingCalls.foldlM Process.perform crowdedProcess = .ok q := ⟨_, rfl⟩
  obtain ⟨q, hq⟩ := hrun
  obtain ⟨-, hitem⟩ := Process.performed_all hq
  refine ⟨q, hq, ?_, ?_⟩
  · rw [hitem]
    rfl
  · rw [hitem]
    rfl

end Sitemap
