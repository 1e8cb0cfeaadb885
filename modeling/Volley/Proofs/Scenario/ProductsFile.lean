import Volley.Proofs.Run.Mirroring
import Volley.Proofs.Scenario.Loading

/-!
# The products scenario as a file does the same

The file and the built-in scenario make their requests and checks in different ways: the one anew in
every iteration, the other once and for all. Their bodies answer every cue alike, so no session can
tell them apart: under every schedule, with every stop, limit, signal and dismissal, and whatever
the transport replies, both leave the same world and the same reports, but for the name.

## Main definitions

- `ProductsFile.counterpart`: the state of the other body.
- `Scenario.plan`: the plan of a scenario.

## Main results

- `mirrors_builtIn`, `mirrors_file`: the bodies mirror each other.
- `load_file`: the scenario that the file gives.
- `sessions_alike`: sessions of the two scenarios cannot be told apart.
-/

namespace Volley

/-- What is to be run when a scenario is. -/
def Scenario.plan {α : Type} (s : Scenario α) (requestTimeout : Float) (headers : Headers)
    (handlesSignals : Bool) : Run.Plan Float :=
  { scenario := s.name, options := s.options, requestTimeout, headers, handlesSignals }

namespace ProductsFile

open Run Loader

/-! ### The bodies -/

/-- The state of the built-in body for one of the file, and the other way round. -/
def counterpart {τ : Type} : Routine.State τ → Routine.State τ
  | .productsFile .start => .products .begun
  | .productsFile .response => .products .requested
  | .productsFile .verdict => .products .checked
  | .products .begun => .productsFile .start
  | .products .requested => .productsFile .response
  | .products .checked => .productsFile .verdict
  | .script s => .script s

/-- The body of the file is mirrored by the built-in one, stage by stage. -/
theorem mirrors_builtIn {τ : Type} [Zero τ] (config : RequestConfig τ) :
    (Routine.productsFile config).body.Mirrors counterpart (Routine.products config).body where
  start _ _ := rfl
  respond s cue := by
    rcases s with s | (_ | _ | _) | (_ | _ | _) <;> cases cue <;> rfl

theorem mirrors_file {τ : Type} [Zero τ] (config : RequestConfig τ) :
    (Routine.products config).body.Mirrors counterpart (Routine.productsFile config).body where
  start _ _ := rfl
  respond s cue := by
    rcases s with s | (_ | _ | _) | (_ | _ | _) <;> cases cue <;> rfl

/-! ### The file -/

/-- The scenario that the file declares. -/
def scenario (config : RequestConfig Float) : Scenario (Routine Float) :=
  { name := "Products Check", body := .productsFile config, options := .products }

/-- With a valid configuration the file gives its scenario, whether it is asked for by name or not.
-/
theorem load_file {env : Environment} {config : RequestConfig Float}
    (loads : RequestConfig.load env = .ok config) {files : Files (Routine Float)} {p : Path}
    (found : files.entry? p = some (.scenarios (statements env Routine.productsFile)))
    (ending : p.suffix = ".py") {registry : Registry (Routine Float)}
    (fresh : "Products Check" ∉ registry.scenarios.keys) {name : Option String}
    (wanted : ∀ given, name = some given → given = "Products Check") :
    (load files p name registry).result = .ok (scenario config) := by
  have source : Source files p (statements env Routine.productsFile) := .scenarios found
  simp only [statements, loads] at source
  have inRange : ({ vus := 1, iterations := 50 } : DeclaredOptions).make = .ok .products := by rfl
  let declaration : Declaration (Routine Float) :=
    { name := "Products Check", options := { vus := 1, iterations := 50 }, function := "products",
      body := .productsFile config }
  -- The variable for the configuration holds no scenario.
  let configured := ({ registry } : Execution (Routine Float)).bind "config" none
  have declares : Execution.Does configured (.declare "products" declaration) _ :=
    .declare inRange rfl fresh
  have runs := Execution.Runs.cons .assign (.cons declares .nil)
  have only : Loader.IsLast "Products Check" (scenario config) [scenario config] := by
    have last : Loader.IsLast "Products Check" (scenario config) ([] ++ [scenario config]) :=
      .at rfl nofun
    exact last
  cases name with
  | none =>
    have picks : Picks p.text [scenario config] none
        (.ok (scenario config, [.scenarioLoaded "Products Check" p.text])) :=
      .only only (by simp)
    rw [load_of_loads (.chosen ending source runs picks)]
  | some given =>
    obtain rfl := wanted given rfl
    rw [load_of_loads (.chosen ending source runs (.named only))]

/-! ### Sessions -/

/-- Whoever runs the scenario of the file runs the built-in one. With any configuration that the
environment gives, any options, any client settings and any transport, sessions of the two that are
carried out come to the same. And whatever one of them can come to under any schedule of turns,
stops, signals and dismissals, the other can come to as well, at the same place of that schedule. -/
theorem sessions_alike {env : Environment} {config : RequestConfig Float}
    (loads : RequestConfig.load env = .ok config) {files : Files (Routine Float)} {p : Path}
    (found : files.entry? p = some (.scenarios (statements env Routine.productsFile)))
    (ending : p.suffix = ".py") {registry : Registry (Routine Float)}
    (fresh : "Products Check" ∉ registry.scenarios.keys) {name : Option String}
    (wanted : ∀ given, name = some given → given = "Products Check") :
    ∃ loaded, (load files p name registry).result = .ok loaded ∧
      ∀ (options : RunOptions Float) (timeout : Float) (headers : Headers) (handles : Bool)
        (tasks : List Task) (transport : Http.Transport Float) (now : Float),
      let builtIn := Routine.builtIn config options
      let filed := { loaded with options }
      let plan := filed.plan timeout headers handles
      let builtInPlan := builtIn.plan timeout headers handles
      (∀ budget,
        (perform plan filed.body.body tasks transport now budget).Alike "products"
          (perform builtInPlan builtIn.body.body tasks transport now budget)) ∧
      (∀ s, Reaches plan filed.body.body (initial tasks transport now) s →
        ∃ t, Reaches builtInPlan builtIn.body.body (initial tasks transport now) t ∧
          Abreast "products" s t) ∧
      ∀ t, Reaches builtInPlan builtIn.body.body (initial tasks transport now) t →
        ∃ s, Reaches plan filed.body.body (initial tasks transport now) s ∧
          Abreast "Products Check" t s := by
  refine ⟨scenario config, load_file loads found ending fresh wanted, ?_⟩
  intro options timeout headers handles tasks transport now builtIn filed plan builtInPlan
  refine ⟨fun budget => ?_, fun s reaches => ?_, fun t reaches => ?_⟩
  · -- The session of the file is mirrored under the other name, which only shows in its remarks.
    have mirrored := perform_mirrored "products" plan (mirrors_builtIn config) tasks transport now
      budget
    change (perform plan _ _ _ _ _).Alike "products"
      (perform (plan.renamed "products") (Routine.products config).body _ _ _ _)
    rw [mirrored]
    exact Session.alike_renamed "products" _
  · exact ⟨_, reaches_mirrored "products" plan (mirrors_builtIn config) reaches,
      abreast_image _ _ s⟩
  · -- The counterpart of a counterpart is the state itself, so it goes the other way as well.
    exact ⟨_, reaches_mirrored "Products Check" builtInPlan (mirrors_file config) reaches,
      abreast_image _ _ t⟩

namespace Sample

def environment : Environment :=
  [("CHECKRUN_URL", "https://shop.test/products"), ("CHECKRUN_ACCEPTED_STATUSES", "404, 200")]

def config : RequestConfig Float :=
  { RequestConfig.default with url := "https://shop.test/products", accepted := [200, 404] }

def files : Files (Routine Float) :=
  { entries :=
      [(["examples"], .folder),
        (["examples", "products_check.py"],
          .scenarios (statements environment Routine.productsFile))] }

/-- A slow response, one whose body breaks off, and no connection for the second user. -/
def transport : Http.Transport Float :=
  { replies :=
      [{ status := 200, delay := some 9 },
        { status := 500, readFault := some (.ordinary "OSError" "") }]
    connectFault := some (1, Fault.ordinary "OSError" "refused") }

/-- Two runs under a limit that the first request overruns, with a stop between them. -/
theorem sessions_alike_slow :
    RequestConfig.load environment = .ok config ∧
      files.entry? (Path.ofText path) =
        some (.scenarios (statements environment Routine.productsFile)) ∧
      (Path.ofText path).suffix = ".py" ∧
      ∃ loaded, (load files (Path.ofText path) none .empty).result = .ok loaded ∧
        ∀ budget,
          let options : RunOptions Float := { vus := 2, iterations := 5, maxDuration := 1 }
          let builtIn := Routine.builtIn config options
          (perform (({ loaded with options }).plan 60 [("X", "1")] true) loaded.body.body
              [.run, .stop, .run] transport 0 budget).Alike "products"
            (perform (builtIn.plan 60 [("X", "1")] true) builtIn.body.body
              [.run, .stop, .run] transport 0 budget) := by
  have loads : RequestConfig.load environment = .ok config := by rfl
  have found : files.entry? (Path.ofText path) =
      some (.scenarios (statements environment Routine.productsFile)) := by rfl
  have ending : (Path.ofText path).suffix = ".py" := by decide +kernel
  have fresh : "Products Check" ∉ (Registry.empty : Registry (Routine Float)).scenarios.keys := by
    decide
  have unnamed : ∀ given, (none : Option String) = some given → given = "Products Check" := nofun
  obtain ⟨loaded, result, alike⟩ := sessions_alike loads found ending fresh unnamed
  refine ⟨loads, found, ending, loaded, result, fun budget => ?_⟩
  exact (alike { vus := 2, iterations := 5, maxDuration := 1 } 60 [("X", "1")] true
    [.run, .stop, .run] transport 0).1 budget

end Sample

end ProductsFile

end Volley
