import Mathlib.Data.List.TakeDrop
import Mathlib.Data.List.TakeWhile
import Sitemap.Command
import Sitemap.Proofs.Command.Arguments

/-!
# Options shield a run from the environment

* `Setting` : what both a variable and the command line can give;
* `Options.Front` : the path or the option that a command line begins with, and what follows it;
* `Options.Gives` : a command line gives a setting somewhere;
* `Options.read_has_iff` : what has been read from a command line has the settings that it gives;
* `Command.run_environment_congr` : a run depends on no variable whose setting is given.
-/

namespace Sitemap

/-- A setting that a variable or the command line gives. -/
inductive Setting where
  | sources
  | output
  | routeName
  | sitemapName
  | escape
  | reportOmitted
  deriving DecidableEq

namespace Setting

/-- The variable that gives a setting. -/
def variableName : Setting → String
  | sources => "SITEMAP_CODEGEN_SOURCES"
  | output => "SITEMAP_CODEGEN_OUTPUT"
  | routeName => "SITEMAP_CODEGEN_ROUTE_ANNOTATION"
  | sitemapName => "SITEMAP_CODEGEN_SITEMAP_ANNOTATION"
  | escape => "SITEMAP_CODEGEN_ESCAPE_XML"
  | reportOmitted => "SITEMAP_CODEGEN_REPORT_OMITTED"

/-- The options that give a setting; the sources are given by paths. -/
def options : Setting → List String
  | sources => []
  | output => ["--output"]
  | routeName => ["--route-annotation"]
  | sitemapName => ["--sitemap-annotation"]
  | escape => ["--escape-xml", "--no-escape-xml"]
  | reportOmitted => ["--report-omitted", "--no-report-omitted"]

end Setting

namespace Options

/-! ## What a command line gives -/

def valueNames : List String :=
  ["--output", "--route-annotation", "--sitemap-annotation", "--preview", "--log-level",
    "--log-file"]

def switchNames : List String :=
  ["--escape-xml", "--no-escape-xml", "--report-omitted", "--no-report-omitted", "--check",
    "--validate", "--help"]

/-- One part of a command line: a path, or an option with its value. -/
inductive Part where
  | path
  | option (name : String)

/-- A part gives a setting. -/
def Part.Gives (s : Setting) : Part → Prop
  | .path => s = .sources
  | .option name => name ∈ s.options

/-- A text that is no option: it does not begin with a hyphen, or nothing is behind that. -/
def IsPath (arg : String) : Prop := ∀ c rest, arg.toList ≠ '-' :: c :: rest

/-- A command line begins with a part, and arguments follow it. Behind two hyphens there are only
paths. -/
inductive Front : List String → Part → List String → Prop
  | path {arg : String} {rest : List String} (h : IsPath arg) : Front (arg :: rest) .path rest
  | remaining (path : String) (rest : List String) :
      Front ("--" :: path :: rest) .path ("--" :: rest)
  | switch {name : String} {rest : List String} (h : name ∈ switchNames) :
      Front (name :: rest) (.option name) rest
  | next {name value : String} {rest : List String} (h : name ∈ valueNames) :
      Front (name :: value :: rest) (.option name) rest
  | attached {name value : String} {rest : List String} (h : name ∈ valueNames) :
      Front ((name ++ "=" ++ value) :: rest) (.option name) rest
  | shortNext (value : String) (rest : List String) :
      Front ("-o" :: value :: rest) (.option "--output") rest
  | shortAttached {value : String} (rest : List String) (h : value ≠ "") :
      Front (("-o" ++ value) :: rest) (.option "--output") rest

/-- Some part of a command line gives a setting. -/
inductive Gives (s : Setting) : List String → Prop
  | first {args rest : List String} {part : Part} (h : Front args part rest) (hs : part.Gives s) :
      Gives s args
  | later {args rest : List String} {part : Part} (h : Front args part rest) (hs : Gives s rest) :
      Gives s args

/-- Options have a setting. -/
def Has (o : Options) : Setting → Prop
  | .sources => o.paths ≠ []
  | .output => o.output.isSome
  | .routeName => o.routeName.isSome
  | .sitemapName => o.sitemapName.isSome
  | .escape => o.escape.isSome
  | .reportOmitted => o.reportOmitted.isSome

/-- A change of options gives the settings of a part, and takes none away. -/
def Adds (part : Part) (set : Options → Options) : Prop :=
  ∀ (o : Options) (s : Setting), (set o).Has s ↔ o.Has s ∨ part.Gives s

/-! ## Options by name -/

theorem sets_adds (name : String) (meaning : Meaning) (h : meaning? name = some meaning) :
    meaning.Sets (Adds (.option name)) := by
  unfold meaning? at h
  split at h
  case h_1 | h_2 | h_3 | h_9 | h_11 | h_12 =>
    cases h
    intro v o s
    cases s <;> simp [Has, setOutput, Part.Gives, Setting.options]
  case h_4 | h_5 | h_6 | h_7 | h_8 | h_10 | h_13 =>
    cases h
    intro o s
    cases s <;> simp [Has, Part.Gives, Setting.options]
  case h_14 => cases h

theorem adds_path (paths : List String) (h : paths ≠ []) :
    Adds .path fun o => { o with paths := o.paths ++ paths } := by
  intro o s
  cases s <;> simp [Has, Part.Gives, h]

theorem mem_valueNames_iff {name : String} :
    name ∈ valueNames ↔ ∃ set, meaning? name = some (.value set) := by
  constructor
  · intro h
    simp only [valueNames, List.mem_cons, List.not_mem_nil, or_false] at h
    rcases h with rfl | rfl | rfl | rfl | rfl | rfl <;> exact ⟨_, rfl⟩
  · rintro ⟨set, h⟩
    unfold meaning? at h
    split at h
    case h_1 | h_2 | h_3 | h_9 | h_11 | h_12 => decide
    all_goals cases h

theorem mem_switchNames_iff {name : String} :
    name ∈ switchNames ↔ ∃ set, meaning? name = some (.switch set) := by
  constructor
  · intro h
    simp only [switchNames, List.mem_cons, List.not_mem_nil, or_false] at h
    rcases h with rfl | rfl | rfl | rfl | rfl | rfl | rfl <;> exact ⟨_, rfl⟩
  · rintro ⟨set, h⟩
    unfold meaning? at h
    split at h
    case h_4 | h_5 | h_6 | h_7 | h_8 | h_10 | h_13 => decide
    all_goals cases h

theorem name_of_meaning? {name : String} {meaning : Meaning} (h : meaning? name = some meaning) :
    ∃ rest, name.toList = '-' :: '-' :: rest ∧ '=' ∉ name.toList := by
  have hname : name ∈ valueNames ++ switchNames := by
    rw [List.mem_append]
    cases meaning with
    | value set => exact .inl (mem_valueNames_iff.2 ⟨set, h⟩)
    | switch set => exact .inr (mem_switchNames_iff.2 ⟨set, h⟩)
  clear h
  simp only [valueNames, switchNames, List.cons_append, List.nil_append, List.mem_cons,
    List.not_mem_nil, or_false] at hname
  rcases hname with rfl | rfl | rfl | rfl | rfl | rfl | rfl | rfl | rfl | rfl | rfl | rfl | rfl <;>
    exact ⟨_, rfl, by decide⟩

/-! ## Names and values -/

theorem splitValue_of_not_mem {name : String} (h : '=' ∉ name.toList) :
    splitValue name = (name, none) := by
  have hall : ∀ c ∈ name.toList, decide (c ≠ '=') = true := by
    intro c hc
    exact decide_eq_true fun heq => h (heq ▸ hc)
  rw [splitValue, List.span_eq_takeWhile_dropWhile, List.takeWhile_eq_self_iff.2 hall,
    List.dropWhile_eq_nil_iff.2 hall]
  simp only [String.ofList_toList]

theorem splitValue_append {name : String} (h : '=' ∉ name.toList) (value : String) :
    splitValue (name ++ "=" ++ value) = (name, some value) := by
  have hall : ∀ c ∈ name.toList, decide (c ≠ '=') = true := by
    intro c hc
    exact decide_eq_true fun heq => h (heq ▸ hc)
  have hchars : (name ++ "=" ++ value).toList = name.toList ++ '=' :: value.toList := by
    rw [String.toList_append, String.toList_append, List.append_assoc]
    rfl
  rw [splitValue, hchars, List.span_eq_takeWhile_dropWhile, List.takeWhile_append_of_pos hall,
    List.dropWhile_append_of_pos hall, List.takeWhile_cons_of_neg (by decide),
    List.dropWhile_cons_of_neg (by decide), List.append_nil]
  simp only [String.ofList_toList]

/-- A text is its name, or its name before its value. -/
theorem eq_of_splitValue {arg name : String} {value? : Option String}
    (h : splitValue arg = (name, value?)) :
    arg = value?.elim name fun value => name ++ "=" ++ value := by
  by_cases hmem : '=' ∈ arg.toList
  · obtain ⟨before, after, hchars, hbefore⟩ := List.eq_append_cons_of_mem hmem
    have harg : arg = String.ofList before ++ "=" ++ String.ofList after := by
      apply String.toList_inj.1
      simp only [hchars, String.toList_append, String.toList_ofList, List.append_assoc]
      rfl
    rw [harg, splitValue_append (by rwa [String.toList_ofList])] at h
    cases h
    exact harg
  · rw [splitValue_of_not_mem hmem] at h
    cases h
    rfl

/-! ## One part -/

/-- What an argument is read as fits what it is as a part. -/
def Argument.IsPart (arg : String) : Argument → Prop
  | .path => IsPath arg
  | .complete set => ∃ part, Adds part set ∧ ∀ rest, Front (arg :: rest) part rest
  | .incomplete _ set => ∃ part, (∀ value, Adds part (set value)) ∧
      ∀ value rest, Front (arg :: value :: rest) part rest
  | .fault _ => True

theorem adds_setOutput (value : String) : Adds (.option "--output") (setOutput value) :=
  sets_adds "--output" (.value setOutput) rfl value

theorem eq_short {arg : String} {rest : List Char} (h : arg.toList = '-' :: 'o' :: rest) :
    arg = "-o" ++ String.ofList rest := by
  apply String.toList_inj.1
  simp only [h, String.toList_append, String.toList_ofList]
  rfl

theorem readArgument_isPart (arg : String) : (readArgument arg).IsPart arg := by
  unfold readArgument
  split
  · rename_i c rest hchars
    cases hsplit : splitValue arg with
    | mk name value? =>
      have harg := eq_of_splitValue hsplit
      simp only
      split
      · rename_i set value hmeaning
        have hname := mem_valueNames_iff.2 ⟨set, hmeaning⟩
        rw [harg]
        exact ⟨_, sets_adds _ _ hmeaning value, fun rest => .attached hname⟩
      · rename_i set hmeaning
        have hname := mem_valueNames_iff.2 ⟨set, hmeaning⟩
        rw [harg]
        exact ⟨_, sets_adds _ _ hmeaning, fun value rest => .next hname⟩
      · rename_i set hmeaning
        have hname := mem_switchNames_iff.2 ⟨set, hmeaning⟩
        rw [harg]
        exact ⟨_, sets_adds _ _ hmeaning, fun rest => .switch hname⟩
      · trivial
      · -- the short form
        split_ifs with hlong hshort hempty
        · trivial
        · trivial
        · rw [not_not.1 hshort, List.isEmpty_iff.1 hempty] at hchars
          rw [eq_short hchars]
          exact ⟨_, adds_setOutput, .shortNext⟩
        · rw [not_not.1 hshort] at hchars
          refine ⟨_, adds_setOutput (String.ofList rest), fun more => ?_⟩
          rw [eq_short hchars]
          refine .shortAttached more fun h => hempty ?_
          rw [String.ofList_eq_empty_iff.1 h]
          rfl
  · rename_i hnot
    exact hnot

theorem readArgument_path {arg : String} (h : IsPath arg) : readArgument arg = .path := by
  unfold readArgument
  split
  · rename_i c rest hchars
    exact absurd hchars (h c rest)
  · rfl

theorem readArgument_switch {name : String} {set : Options → Options}
    (h : meaning? name = some (.switch set)) : readArgument name = .complete set := by
  obtain ⟨rest, hchars, hequals⟩ := name_of_meaning? h
  unfold readArgument
  rw [hchars, splitValue_of_not_mem hequals]
  simp only [h]

theorem readArgument_next {name : String} {set : String → Options → Options}
    (h : meaning? name = some (.value set)) : readArgument name = .incomplete name set := by
  obtain ⟨rest, hchars, hequals⟩ := name_of_meaning? h
  unfold readArgument
  rw [hchars, splitValue_of_not_mem hequals]
  simp only [h]

theorem readArgument_attached {name : String} {set : String → Options → Options}
    (h : meaning? name = some (.value set)) (value : String) :
    readArgument (name ++ "=" ++ value) = .complete (set value) := by
  obtain ⟨rest, hchars, hequals⟩ := name_of_meaning? h
  unfold readArgument
  rw [String.toList_append, String.toList_append, hchars, splitValue_append hequals]
  simp only [List.cons_append, h]

theorem readArgument_short {value : String} (h : value ≠ "") :
    readArgument ("-o" ++ value) = .complete (setOutput value) := by
  have hchars : ("-o" ++ value).toList = '-' :: 'o' :: value.toList := by
    rw [String.toList_append]
    rfl
  have hmeaning : meaning? (splitValue ("-o" ++ value)).1 = none := by
    -- no long form has another character than a hyphen behind its first one
    cases hsplit : splitValue ("-o" ++ value) with
    | mk name value? =>
      cases hname : meaning? name with
      | none => rfl
      | some meaning =>
        obtain ⟨rest, hlong, -⟩ := name_of_meaning? hname
        rw [eq_of_splitValue hsplit] at hchars
        cases value? <;> simp [hlong] at hchars
  have hempty : ¬value.toList.isEmpty = true := by
    rwa [List.isEmpty_iff, String.toList_eq_nil_iff]
  unfold readArgument
  rw [hchars]
  simp only [hmeaning]
  rw [if_neg (by decide), if_neg (by decide), if_neg hempty, String.ofList_toList]

/-! ## A whole command line -/

theorem readFrom_path {arg : String} (h : readArgument arg = .path) (o : Options)
    (rest : List String) :
    readFrom o (arg :: rest) = readFrom { o with paths := o.paths ++ [arg] } rest := by
  have hend : arg ≠ "--" := by
    rintro rfl
    cases h
  rw [readFrom, if_neg hend, h]

theorem readFrom_complete {arg : String} {set : Options → Options}
    (h : readArgument arg = .complete set) (o : Options) (rest : List String) :
    readFrom o (arg :: rest) = readFrom (set o) rest := by
  have hend : arg ≠ "--" := by
    rintro rfl
    cases h
  rw [readFrom, if_neg hend, h]

theorem readFrom_incomplete {arg option : String} {set : String → Options → Options}
    (h : readArgument arg = .incomplete option set) (o : Options) (value : String)
    (rest : List String) : readFrom o (arg :: value :: rest) = readFrom (set value o) rest := by
  have hend : arg ≠ "--" := by
    rintro rfl
    cases h
  rw [readFrom, if_neg hend, h]

/-- Reading begins with the part in front. -/
theorem Front.readFrom_eq {args rest : List String} {part : Part} (h : Front args part rest) :
    ∃ set, Adds part set ∧ ∀ o, readFrom o args = readFrom (set o) rest := by
  cases h with
  | @path arg _ h =>
    refine ⟨_, adds_path [arg] (List.cons_ne_nil _ _), fun o => ?_⟩
    exact readFrom_path (readArgument_path h) o rest
  | remaining path rest =>
    refine ⟨_, adds_path [path] (List.cons_ne_nil _ _), fun o => ?_⟩
    rw [readFrom, if_pos rfl, readFrom, if_pos rfl, List.append_assoc]
    rfl
  | «switch» h =>
    obtain ⟨set, hset⟩ := mem_switchNames_iff.1 h
    exact ⟨set, sets_adds _ _ hset, fun o => readFrom_complete (readArgument_switch hset) o rest⟩
  | next h =>
    obtain ⟨set, hset⟩ := mem_valueNames_iff.1 h
    exact ⟨_, sets_adds _ _ hset _, fun o => readFrom_incomplete (readArgument_next hset) o _ rest⟩
  | @attached name value _ h =>
    obtain ⟨set, hset⟩ := mem_valueNames_iff.1 h
    refine ⟨_, sets_adds _ _ hset value, fun o => ?_⟩
    exact readFrom_complete (readArgument_attached hset value) o rest
  | shortNext value =>
    exact ⟨_, adds_setOutput value, fun o => readFrom_incomplete rfl o value rest⟩
  | shortAttached _ h =>
    exact ⟨_, adds_setOutput _, fun o => readFrom_complete (readArgument_short h) o rest⟩

section Settings
variable {o o' : Options} {args : List String} {s : Setting}

/-- No setting is lost on the way from some options to others, and a new one is given by
arguments. -/
def Follows (s : Setting) (o : Options) (args : List String) (o' : Options) : Prop :=
  (o.Has s → o'.Has s) ∧ (o'.Has s → o.Has s ∨ Gives s args)

theorem Front.follows {rest : List String} {part : Part} {set : Options → Options}
    (h : Front args part rest) (hset : Adds part set) (hrest : Follows s (set o) rest o') :
    Follows s o args o' := by
  refine ⟨fun ho => hrest.1 ((hset o s).2 (.inl ho)), fun ho' => ?_⟩
  rcases hrest.2 ho' with hnow | hlater
  · exact ((hset o s).1 hnow).imp_right (.first h)
  · exact .inr (.later h hlater)

theorem readFrom_follows (h : readFrom o args = .ok o') : Follows s o args o' := by
  fun_induction readFrom o args with
  | case1 o =>
    cases h
    exact ⟨id, .inl⟩
  | case2 o rest =>
    cases h
    -- all that is left are paths, so the sources are given unless nothing is left
    cases rest with
    | nil =>
      rw [List.append_nil]
      exact ⟨id, .inl⟩
    | cons path rest =>
      have hpaths := adds_path (path :: rest) (List.cons_ne_nil _ _) o s
      refine ⟨fun ho => hpaths.2 (.inl ho), fun ho' => (hpaths.1 ho').imp_right ?_⟩
      exact .first (.remaining path rest)
  | case3 o arg rest hend harg ih =>
    have hpart := readArgument_isPart arg
    rw [harg] at hpart
    exact Front.follows (.path hpart) (adds_path [arg] (List.cons_ne_nil _ _)) (ih h)
  | case4 o arg rest hend set harg ih =>
    have hpart := readArgument_isPart arg
    rw [harg] at hpart
    obtain ⟨part, hset, hfront⟩ := hpart
    exact (hfront rest).follows hset (ih h)
  | case5 o arg hend option set harg => cases h
  | case6 o arg hend option set harg value rest ih =>
    have hpart := readArgument_isPart arg
    rw [harg] at hpart
    obtain ⟨part, hset, hfront⟩ := hpart
    exact (hfront value rest).follows (hset value) (ih h)
  | case7 o arg rest hend fault harg => cases h

theorem Gives.has (hs : Gives s args) (h : readFrom o args = .ok o') : o'.Has s := by
  induction hs generalizing o with
  | first hfront hs =>
    obtain ⟨set, hset, hread⟩ := hfront.readFrom_eq
    rw [hread] at h
    exact (readFrom_follows h).1 ((hset o s).2 (.inr hs))
  | later hfront hs ih =>
    obtain ⟨set, hset, hread⟩ := hfront.readFrom_eq
    rw [hread] at h
    exact ih h

theorem read_has_iff (h : read args = .ok o) : o.Has s ↔ Gives s args := by
  refine ⟨fun ho => ((readFrom_follows h).2 ho).resolve_left ?_, fun hs => hs.has h⟩
  cases s <;> simp [Has]

/-! ## Configurations -/

theorem getD_congr {α : Type} {x : Option α} {a b : α} (h : ¬x.isSome → a = b) :
    x.getD a = x.getD b := by
  cases x with
  | none => exact h Bool.false_ne_true
  | some c => rfl

/-- A configuration takes no variable into account whose setting the options have. -/
theorem config_congr {vars vars' : String → Option String}
    (h : ∀ s, ¬o.Has s → vars s.variableName = vars' s.variableName) :
    o.config (.ofVariables vars) = o.config (.ofVariables vars') := by
  unfold config Config.ofEnvironment Environment.ofVariables
  rw [Config.mk.injEq]
  refine ⟨?_, ?_, ?_, ?_, ?_, ?_⟩
  · by_cases hpaths : o.paths = []
    · have hsources : vars "SITEMAP_CODEGEN_SOURCES" = vars' "SITEMAP_CODEGEN_SOURCES" :=
        h .sources (not_not.2 hpaths)
      rw [hsources]
    · have hnot : ¬o.paths.isEmpty = true := fun hempty => hpaths (List.isEmpty_iff.1 hempty)
      rw [if_neg hnot, if_neg hnot]
  · exact getD_congr fun hs => congrArg (Option.getD · _) (h .output hs)
  · exact getD_congr fun hs => congrArg (Option.getD · _) (h .routeName hs)
  · exact getD_congr fun hs => congrArg (Option.getD · _) (h .sitemapName hs)
  · exact getD_congr fun hs => congrArg (Option.any isTrueWord) (h .escape hs)
  · exact getD_congr fun hs => congrArg (Option.any isTrueWord) (h .reportOmitted hs)

end Settings

end Options

/-- A run does the same under two environments that agree on every variable whose setting the
command line does not give: what it shows, how it ends and what it does to files. -/
theorem Command.run_environment_congr (store : Store) (program : String) (arguments : List String)
    (time : String) (decoders : Decoders) (vars vars' : String → Option String)
    (h : ∀ s, ¬Options.Gives s arguments → vars s.variableName = vars' s.variableName) :
    Command.run store ⟨program, arguments, .ofVariables vars, time, decoders⟩ =
      Command.run store ⟨program, arguments, .ofVariables vars', time, decoders⟩ := by
  unfold Command.run
  cases hread : Options.read arguments with
  | error fault => rfl
  | ok o =>
    have hconfig : o.config (.ofVariables vars) = o.config (.ofVariables vars') :=
      Options.config_congr fun s hs => h s fun hgives => hs ((Options.read_has_iff hread).2 hgives)
    unfold Command.runWith
    simp only [hconfig]

/-- The module and the escaping are given, so that two variables do not matter. -/
theorem Command.run_environment_congr_given :
    Command.run ⟨[]⟩ ⟨"main", ["--output", "map.py", "--no-escape-xml"],
        .ofVariables fun name => if name = "SITEMAP_CODEGEN_OUTPUT" then some "other.py"
          else if name = "SITEMAP_CODEGEN_ESCAPE_XML" then some "true" else none, "", .plain⟩ =
      Command.run ⟨[]⟩ ⟨"main", ["--output", "map.py", "--no-escape-xml"],
        .ofVariables fun _ => none, "", .plain⟩ := by
  refine Command.run_environment_congr _ _ _ _ _ _ _ fun s hs => ?_
  have houtput : "--output" ∈ Setting.output.options := by decide
  have hescape : "--no-escape-xml" ∈ Setting.escape.options := by decide
  have hfront : Options.Front ["--output", "map.py", "--no-escape-xml"] (.option "--output")
      ["--no-escape-xml"] := .next (by decide)
  cases s with
  | output => exact absurd (.first hfront houtput) hs
  | escape => exact absurd (.later hfront (.first (.switch (by decide)) hescape)) hs
  | _ => rfl

end Sitemap
