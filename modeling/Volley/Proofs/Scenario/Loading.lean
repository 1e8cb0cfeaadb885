import Mathlib.Data.String.Basic
import Volley.Proofs.Scenario.Execution

/-!
# Which scenario a file gives

A file gives a scenario by what its variables hold after its last statement. Of the scenarios that
they hold, in the order of the variables, it is the last one of the name that is asked for, or of
the only name that there is: two variables for one scenario are no ambiguity. There is none if the
file is missing, is no scenario file or fails, if it holds no scenario or none of the name, or if
no name is asked for and there are several, and the first of these reasons is what is told.

## Main definitions

- `Loader.held`: the scenarios that variables hold.
- `Loader.IsLast`, `Loader.Lists`: the last scenario of a name, and the names of scenarios.
- `Loader.Picks`: what is picked from scenarios.
- `Loader.Loads`: what loading a file comes to.

## Main results

- `pick_of_picks`, `exists_picks`: picking.
- `load_eq_iff`: loading comes to exactly one end, and to which one is said by `Loads`.
- `load_tooLong`: a path that is too long is not reported as a missing file.
-/

namespace Volley

namespace Loader

variable {α : Type}

/-! ### Names -/

/-- The scenarios that variables hold, in the order of the variables. -/
def held (bindings : Bindings α) : List (Scenario α) :=
  bindings.values.filterMap id

/-- The last scenario of a name. -/
inductive IsLast (name : String) (s : Scenario α) : List (Scenario α) → Prop
  | at {before after : List (Scenario α)} (named : s.name = name)
      (others : ∀ other ∈ after, other.name ≠ name) : IsLast name s (before ++ s :: after)

/-- The names of scenarios, each once and in ascending order. -/
structure Lists (scenarios : List (Scenario α)) (names : List String) : Prop where
  mem_iff : ∀ name, name ∈ names ↔ ∃ s ∈ scenarios, s.name = name
  ascending : names.Pairwise (· < ·)

/-- A name that comes up has a last scenario. -/
theorem exists_isLast {scenarios : List (Scenario α)} {s : Scenario α} (member : s ∈ scenarios) :
    ∃ last, IsLast s.name last scenarios := by
  induction scenarios using List.reverseRecOn with
  | nil => cases member
  | append_singleton earlier t ih =>
    -- By whether the last scenario has the name; if not, the last one before it stays so.
    by_cases same : t.name = s.name
    · exact ⟨t, .at same nofun⟩
    · have old : s ∈ earlier := by
        rcases List.mem_append.1 member with old | new
        · exact old
        · exact absurd (congrArg Scenario.name (List.mem_singleton.1 new).symm) same
      obtain ⟨last, ⟨named, others⟩⟩ := ih old
      refine ⟨last, ?_⟩
      rw [List.append_assoc, List.cons_append]
      refine .at named ?_
      intro other inside
      rcases List.mem_append.1 inside with inside | inside
      · exact others other inside
      · rwa [List.mem_singleton.1 inside]

theorem IsLast.mem {name : String} {s : Scenario α} {scenarios : List (Scenario α)}
    (last : IsLast name s scenarios) : s ∈ scenarios ∧ s.name = name := by
  obtain ⟨named, -⟩ := last
  exact ⟨by simp, named⟩

section Names

variable {bindings : Bindings α}

theorem byName_eq (bindings : Bindings α) :
    byName bindings = Assoc.ofList ((held bindings).map fun s => (s.name, s)) := by
  simp [byName, held, List.map_filterMap]

/-- A name is an entry if a variable holds a scenario of it. -/
theorem mem_keys_byName {name : String} :
    name ∈ (byName bindings).keys ↔ ∃ s ∈ held bindings, s.name = name := by
  simp [byName_eq, Assoc.keys_ofList]

/-- Of the scenarios of a name the one that is held last is the entry. -/
theorem find?_byName {name : String} {s : Scenario α} (last : IsLast name s (held bindings)) :
    (byName bindings).find? name = some s := by
  rw [byName_eq]
  generalize held bindings = scenarios at last
  obtain ⟨rfl, others⟩ := last
  rw [List.map_append, List.map_cons]
  refine Assoc.find?_ofList_of_last _ s ?_
  simpa using others

theorem byName_eq_nil_iff : byName bindings = [] ↔ held bindings = [] := by
  have keys : byName bindings = [] ↔ (byName bindings).keys = [] := List.map_eq_nil_iff.symm
  rw [keys, byName_eq, Assoc.keys_ofList]
  cases held bindings <;> simp [List.eraseDups_cons]

theorem nodup_keys_byName (bindings : Bindings α) : (byName bindings).keys.Nodup := by
  rw [byName_eq]
  exact Assoc.nodup_keys_ofList _

theorem lists_sorted (bindings : Bindings α) :
    Lists (held bindings) (sorted (byName bindings).keys) where
  mem_iff name := by rw [sorted, List.mem_mergeSort, mem_keys_byName]
  ascending := by
    -- Names are distinct, so they ascend strictly.
    have distinct : (sorted (byName bindings).keys).Nodup :=
      (List.mergeSort_perm _ _).nodup_iff.2 (nodup_keys_byName bindings)
    have ordered : (sorted (byName bindings).keys).Pairwise (· ≤ ·) := by
      have merged : (sorted (byName bindings).keys).Pairwise fun a b => decide (a ≤ b) = true :=
        List.pairwise_mergeSort (by simpa using fun a b c => le_trans) (by simpa using le_total) _
      simpa using merged
    exact (List.pairwise_and_iff.2 ⟨ordered, distinct⟩).imp fun both =>
      lt_of_le_of_ne both.1 both.2

/-- There is one list of names. -/
theorem Lists.unique {scenarios : List (Scenario α)} {names names' : List String}
    (lists : Lists scenarios names) (lists' : Lists scenarios names') : names = names' := by
  refine List.Perm.eq_of_pairwise (fun a b _ _ less less' => absurd less less'.asymm)
    lists.ascending lists'.ascending ?_
  refine (List.perm_ext_iff_of_nodup ?_ ?_).2 fun name => ?_
  · exact lists.ascending.imp ne_of_lt
  · exact lists'.ascending.imp ne_of_lt
  · rw [lists.mem_iff, lists'.mem_iff]

/-- Scenarios of one name make one entry. -/
theorem byName_of_only {s : Scenario α} (last : IsLast s.name s (held bindings))
    (only : ∀ other ∈ held bindings, other.name = s.name) : byName bindings = [(s.name, s)] := by
  have found := find?_byName last
  have distinct := nodup_keys_byName bindings
  have named : ∀ name ∈ (byName bindings).keys, name = s.name := by
    intro name member
    obtain ⟨other, inside, rfl⟩ := mem_keys_byName.1 member
    exact only other inside
  -- A second entry would have the same key.
  rcases entries : byName bindings with _ | ⟨⟨k, t⟩, _ | ⟨⟨k', t'⟩, rest⟩⟩
  · simp [entries, Assoc.find?] at found
  · have same : k = s.name := named k (by simp [entries, Assoc.keys])
    simpa [entries, Assoc.find?, same] using found
  · have first : k = s.name := named k (by simp [entries, Assoc.keys])
    have second : k' = s.name := named k' (by simp [entries, Assoc.keys])
    simp [entries, Assoc.keys, first, second] at distinct

end Names

/-! ### Picking -/

/-- What is picked from the scenarios of a file. A remark is made when no name was asked for. -/
inductive Picks (path : String) (scenarios : List (Scenario α)) :
    Option String → Except ScenarioError (Scenario α × List (Journal.Entry Float)) → Prop
  | empty {name : Option String} (none_ : scenarios = []) :
      Picks path scenarios name (.error (.noScenario path))
  | unknown {wanted : String} {names : List String} (some_ : scenarios ≠ [])
      (absent : ∀ s ∈ scenarios, s.name ≠ wanted) (lists : Lists scenarios names) :
      Picks path scenarios (some wanted) (.error (.notInFile wanted path names))
  | ambiguous {s t : Scenario α} {names : List String} (first : s ∈ scenarios)
      (second : t ∈ scenarios) (differ : s.name ≠ t.name) (lists : Lists scenarios names) :
      Picks path scenarios none (.error (.ambiguous path names))
  | named {wanted : String} {s : Scenario α} (last : IsLast wanted s scenarios) :
      Picks path scenarios (some wanted) (.ok (s, []))
  | only {s : Scenario α} (last : IsLast s.name s scenarios)
      (same : ∀ other ∈ scenarios, other.name = s.name) :
      Picks path scenarios none (.ok (s, [.scenarioLoaded s.name path]))

section Picking

variable {path : String} {bindings : Bindings α} {name : Option String}

theorem pick_of_picks {picked : Except ScenarioError (Scenario α × List (Journal.Entry Float))}
    (picks : Picks path (held bindings) name picked) :
    pick path (byName bindings) name = picked := by
  cases picks with
  | empty none_ => simp [pick, byName_eq_nil_iff.2 none_]
  | @unknown wanted _ some_ absent lists =>
    have found : (byName bindings).find? wanted = none := by
      rw [Assoc.find?_eq_none_iff, mem_keys_byName]
      rintro ⟨s, inside, named⟩
      exact absent s inside named
    simp [pick, byName_eq_nil_iff, some_, found, lists.unique (lists_sorted bindings)]
  | @ambiguous s t _ first second differ lists =>
    rw [lists.unique (lists_sorted bindings)]
    have firstName : s.name ∈ (byName bindings).keys := mem_keys_byName.2 ⟨s, first, rfl⟩
    have secondName : t.name ∈ (byName bindings).keys := mem_keys_byName.2 ⟨t, second, rfl⟩
    -- Two names are two entries.
    generalize byName bindings = entries at firstName secondName ⊢
    rcases entries with _ | ⟨entry, _ | ⟨entry', rest⟩⟩
    · cases firstName
    · simp only [Assoc.keys, List.map_cons, List.map_nil, List.mem_singleton] at *
      exact absurd (firstName.trans secondName.symm) differ
    · simp [pick]
  | named last =>
    have some_ : held bindings ≠ [] := List.ne_nil_of_mem last.mem.1
    simp [pick, byName_eq_nil_iff, some_, find?_byName last]
  | only last same => simp [pick, byName_of_only last same]

/-- From every list of scenarios something is picked. -/
theorem exists_picks (path : String) (bindings : Bindings α) (name : Option String) :
    ∃ picked, Picks path (held bindings) name picked := by
  rcases List.eq_nil_or_concat (held bindings) with none_ | ⟨earlier, s, ends⟩
  · exact ⟨_, .empty none_⟩
  have inside : s ∈ held bindings := by simp [ends]
  cases name with
  | some wanted =>
    by_cases known : ∃ t ∈ held bindings, t.name = wanted
    · obtain ⟨t, member, rfl⟩ := known
      obtain ⟨last, isLast⟩ := exists_isLast member
      exact ⟨_, .named isLast⟩
    · have absent : ∀ t ∈ held bindings, t.name ≠ wanted :=
        fun t member named => known ⟨t, member, named⟩
      exact ⟨_, .unknown (List.ne_nil_of_mem inside) absent (lists_sorted bindings)⟩
  | none =>
    by_cases several : ∃ t ∈ held bindings, t.name ≠ s.name
    · obtain ⟨t, member, differ⟩ := several
      exact ⟨_, .ambiguous member inside differ (lists_sorted bindings)⟩
    · have same : ∀ t ∈ held bindings, t.name = s.name :=
        fun t member => by_contra fun differ => several ⟨t, member, differ⟩
      -- The last of them all is the last of its name.
      have last : IsLast s.name s (held bindings) := by
        rw [ends, List.concat_eq_append]
        exact .at rfl nofun
      exact ⟨_, .only last same⟩

end Picking

/-! ### Loading -/

/-- A scenario file is given by its statements: a text that stands in its place is empty. -/
def Scripted (files : Files α) (p : Path) : Prop :=
  ∀ text, files.entry? p = some (.text text) → p.suffix = ".py" → text = ""

/-- The statements that a file consists of. -/
inductive Source (files : Files α) (p : Path) : List (Statement α) → Prop
  | scenarios {statements : List (Statement α)}
      (found : files.entry? p = some (.scenarios statements)) : Source files p statements
  | blank (found : files.entry? p = some (.text "")) : Source files p []

/-- What loading comes to: the scenario or why there is none, the registry afterwards and what is
remarked. -/
inductive Loads (files : Files α) (p : Path) (name : Option String) (registry : Registry α) :
    Loaded α → Prop
  /-- The path cannot even be looked up. -/
  | tooLong (long : files.locate p = .tooLong) (whole : p.hasNull = false) :
      Loads files p name registry { result := .error (.file (.nameTooLong p.text)), registry }
  | missing (fits : files.locate p = .tooLong → p.hasNull = true)
      (missing : files.isFile p = false) :
      Loads files p name registry { result := .error (.scenario (.fileNotFound p.text)), registry }
  | foreign (file : files.isFile p = true) (ending : p.suffix ≠ ".py") :
      Loads files p name registry
        { result := .error (.scenario (.notScenarioFile p.text)), registry }
  | failed {statements : List (Statement α)} {x : Execution α} {fault : Fault}
      (ending : p.suffix = ".py") (source : Source files p statements)
      (stops : Execution.Stops { registry } statements x fault)
      (ordinary : fault.isOrdinary = true) :
      Loads files p name registry
        { result := .error (.scenario (.executionFailed p.text fault.text))
          registry := x.registry }
  /-- A fault that is not ordinary is passed on. -/
  | broken {statements : List (Statement α)} {x : Execution α} {fault : Fault}
      (ending : p.suffix = ".py") (source : Source files p statements)
      (stops : Execution.Stops { registry } statements x fault)
      (grave : fault.isOrdinary = false) :
      Loads files p name registry { result := .error (.fault fault), registry := x.registry }
  | refused {statements : List (Statement α)} {x : Execution α} {error : ScenarioError}
      (ending : p.suffix = ".py") (source : Source files p statements)
      (runs : Execution.Runs { registry } statements x)
      (picks : Picks p.text (held x.bindings) name (.error error)) :
      Loads files p name registry { result := .error (.scenario error), registry := x.registry }
  | chosen {statements : List (Statement α)} {x : Execution α} {s : Scenario α}
      {entries : List (Journal.Entry Float)}
      (ending : p.suffix = ".py") (source : Source files p statements)
      (runs : Execution.Runs { registry } statements x)
      (picks : Picks p.text (held x.bindings) name (.ok (s, entries))) :
      Loads files p name registry { result := .ok s, registry := x.registry, entries }

section Loading

variable {files : Files α} {p : Path}

theorem isFile_eq_isSome (files : Files α) (p : Path) :
    files.isFile p = (statements? files p).isSome := by
  unfold FileTree.isFile statements?
  rcases files.entry? p with _ | ⟨_ | _ | _⟩ <;> rfl

theorem Source.statements? {statements : List (Statement α)} (source : Source files p statements) :
    statements? files p = some statements := by
  cases source with
  | scenarios found => simp [Loader.statements?, found]
  | blank found => simp [Loader.statements?, found]

/-- The statements of a scenario file are its source. -/
theorem source_of_statements? (scripted : Scripted files p) (ending : p.suffix = ".py")
    {statements : List (Statement α)} (found : statements? files p = some statements) :
    Source files p statements := by
  unfold Loader.statements? at found
  split at found
  next entry =>
    cases found
    exact .scenarios entry
  next text entry =>
    cases found
    rw [scripted text entry ending] at entry
    exact .blank entry
  · cases found

/-- A path that is too long leads to no file. -/
theorem locate_ne_tooLong (file : files.isFile p = true) : files.locate p ≠ .tooLong := by
  intro long
  simp [FileTree.isFile, FileTree.entry?, long] at file

theorem load_of_source {statements : List (Statement α)} (source : Source files p statements)
    (ending : p.suffix = ".py") (name : Option String) (registry : Registry α) :
    load files p name registry = loadStatements p.text statements name registry := by
  have file : files.isFile p = true := by simp [isFile_eq_isSome, source.statements?]
  simp [load, locate_ne_tooLong file, source.statements?, ending]

variable {name : Option String} {registry : Registry α} {loaded : Loaded α}

theorem load_of_loads (loads : Loads files p name registry loaded) :
    load files p name registry = loaded := by
  cases loads with
  | tooLong long whole => simp [load, long, whole]
  | missing fits missing =>
    -- A path that is too long and holds a null character is a missing file like any other.
    have nothing : statements? files p = none := by simpa [isFile_eq_isSome] using missing
    have looked : ¬ (files.locate p = .tooLong ∧ ¬ p.hasNull = true) :=
      fun both => both.2 (fits both.1)
    simp only [load, if_neg looked, nothing]
  | foreign file ending =>
    obtain ⟨statements, found⟩ := Option.isSome_iff_exists.1 (isFile_eq_isSome files p ▸ file)
    simp [load, locate_ne_tooLong file, found, ending]
  | failed ending source stops ordinary =>
    simp [load_of_source source ending, loadStatements, Execution.run_eq_some_iff.2 stops, ordinary]
  | broken ending source stops grave =>
    simp [load_of_source source ending, loadStatements, Execution.run_eq_some_iff.2 stops, grave]
  | refused ending source runs picks =>
    simp [load_of_source source ending, loadStatements, Execution.run_eq_none_iff.2 runs,
      pick_of_picks picks]
  | chosen ending source runs picks =>
    simp [load_of_source source ending, loadStatements, Execution.run_eq_none_iff.2 runs,
      pick_of_picks picks]

/-- Loading comes to an end. -/
theorem exists_loads (scripted : Scripted files p) (name : Option String)
    (registry : Registry α) : ∃ loaded, Loads files p name registry loaded := by
  by_cases long : files.locate p = .tooLong ∧ p.hasNull = false
  · exact ⟨_, .tooLong long.1 long.2⟩
  have fits : files.locate p = .tooLong → p.hasNull = true := by simpa using long
  cases found : statements? files p with
  | none => exact ⟨_, .missing fits (by simp [isFile_eq_isSome, found])⟩
  | some statements =>
    by_cases ending : p.suffix = ".py"
    · -- By what executing the file comes to, and then by what is picked.
      have source := source_of_statements? scripted ending found
      rcases Execution.runs_or_stops { registry } statements with ⟨x, runs⟩ | ⟨x, fault, stops⟩
      · obtain ⟨picked, picks⟩ := exists_picks p.text x.bindings name
        cases picked with
        | error error => exact ⟨_, .refused ending source runs picks⟩
        | ok picked => exact ⟨_, .chosen ending source runs picks⟩
      · cases ordinary : fault.isOrdinary with
        | true => exact ⟨_, .failed ending source stops ordinary⟩
        | false => exact ⟨_, .broken ending source stops ordinary⟩
    · exact ⟨_, .foreign (by simp [isFile_eq_isSome, found]) ending⟩

end Loading

/-- Loading a scenario comes to exactly one end. -/
theorem load_eq_iff {files : Files α} {p : Path} (scripted : Scripted files p)
    (name : Option String) (registry : Registry α) (loaded : Loaded α) :
    load files p name registry = loaded ↔ Loads files p name registry loaded := by
  constructor
  · rintro rfl
    -- Whatever loading comes to, it is one of these ends, and each is what loading gives.
    obtain ⟨loaded, loads⟩ := exists_loads scripted name registry
    rwa [load_of_loads loads]
  · exact load_of_loads

namespace Sample

def path : Path := { parts := ["s.py"] }

/-- Two variables hold one scenario, and the variable that held another one is gone. -/
def statements : List (Statement Unit) :=
  [.declare "first" { name := "Alpha", body := () }, .copy "again" "first",
    .declare "other" { name := "Beta", body := () }, .delete "other"]

def files : Files Unit :=
  { entries := [(["s.py"], .scenarios statements)] }

def scenario (name : String) : Scenario Unit :=
  { name, body := (), options := .default }

/-- There is one name, though two scenarios are registered and two variables hold one. -/
theorem load_eq_iff_alias : Scripted files path ∧
    Loads files path none .empty
      { result := .ok (scenario "Alpha")
        registry := { scenarios := [("Alpha", scenario "Alpha"), ("Beta", scenario "Beta")] }
        entries := [.scenarioLoaded "Alpha" "s.py"] } := by
  have scripted : Scripted files path := by
    intro text found
    cases found
  exact ⟨scripted, (load_eq_iff scripted none .empty _).1 rfl⟩

/-- A file name of 256 bytes, one more than a file can have. -/
def longPath : Path :=
  { parts := [String.ofList (List.replicate 253 'w') ++ ".py"] }

/-- No file has such a name, but that it is missing is not what is told. -/
theorem load_tooLong : ({} : Files Unit).isFile longPath = false ∧
    ∀ (name : Option String) (registry : Registry Unit) (error : ScenarioError),
      (load {} longPath name registry).result ≠ .error (.scenario error) := by
  have long : ({} : Files Unit).locate longPath = .tooLong := by decide +kernel
  have whole : longPath.hasNull = false := by
    simp [Path.hasNull, longPath, -List.reduceReplicate]
  refine ⟨by simp [FileTree.isFile, FileTree.entry?, long], ?_⟩
  intro name registry error
  rw [load_of_loads (.tooLong long whole)]
  nofun

end Sample

end Loader

end Volley
