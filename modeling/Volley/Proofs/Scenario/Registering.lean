import Mathlib.Data.List.DropRight
import Volley.Proofs.Scenario.Execution

/-!
# A registry under any sequence of acts

Scenarios are declared, registered, looked up, listed, counted and cleared in any order. What a
registry holds are the scenarios that were accepted since it was last cleared, in that order and of
distinct names, and it answers every act as that list does. An act that is refused changes nothing.

Declaring is written once more as a procedure that may fail at any of its moments. What such a
procedure has changed stays changed when it fails, so that a refused act leaves the registry alone
is a fact about the order of its steps.

## Main definitions

- `Registry.Act`, `Registry.Answer`, `Registry.Event`.
- `Registry.declaring`, `Registry.registering`: the procedures.
- `Registry.perform`: a registry under a sequence of acts.
- `Registry.held`: the scenarios that were accepted since the last clearing.
- `Registry.Answers`: the answers of a list of scenarios.

## Main results

- `registering_eq`, `declaring_eq`: the procedures do what `register` and `declare` do.
- `act_append`: one act on a registry that holds a list.
- `holds_perform`: a sequence of acts.
- `perform_refines`: a registry is the list of what it holds, and a refused act changes nothing.
-/

namespace Volley

namespace Registry

variable {α : Type}

/-! ### Acts as procedures -/

/-- An operation on a registry. -/
inductive Act (α : Type) where
  | declare (declaration : Declaration α)
  | register (scenario : Scenario α)
  | get (name : String)
  | all
  | clear
  | size

/-- What an act gives when it is not refused. -/
inductive Answer (α : Type) where
  | declared (scenario : Scenario α)
  | found (scenario : Option (Scenario α))
  | listed (scenarios : List (Scenario α))
  | counted (n : Nat)
  | done

/-- Works on a registry and may fail. What was changed before the failure stays changed. -/
abbrev Procedure (α β : Type) := ExceptT DefinitionError (StateM (Registry α)) β

def registering (s : Scenario α) : Procedure α Unit := do
  if ((← get).get? s.name).isSome then
    throw (.scenario (.alreadyRegistered s.name))
  modify fun r => { scenarios := r.scenarios.set s.name s }

/-- The options are checked when the declaration is written, the body when it is applied, the name
when the scenario is registered. -/
def declaring (d : Declaration α) : Procedure α (Scenario α) := do
  match d.options.make with
  | .error e => throw (.config e)
  | .ok options =>
    if !d.canWait then
      throw (.scenario (.bodyCannotWait d.function))
    registering (d.scenario options)
    return d.scenario options

def act : Act α → Procedure α (Answer α)
  | .declare d => .declared <$> declaring d
  | .register s => do
    registering s
    return .done
  | .get name => return .found ((← get).get? name)
  | .all => return .listed (← get).all
  | .clear => do
    set (empty : Registry α)
    return .done
  | .size => return .counted (← get).size

/-- How a procedure on a registry ends, and the registry that it leaves. -/
def Procedure.result {β : Type} (p : Procedure α β) (r : Registry α) :
    Except DefinitionError β × Registry α :=
  (p.run.run r).run

section Results

variable {β γ : Type} (r : Registry α)

@[simp] theorem result_bind (p : Procedure α β) (k : β → Procedure α γ) :
    Procedure.result (p >>= k) r = match p.result r with
      | (.error e, next) => (.error e, next)
      | (.ok b, next) => (k b).result next := by
  simp only [Procedure.result, ExceptT.run_bind, StateT.run_bind, Id.run_bind]
  rcases (p.run.run r).run with ⟨_ | _, next⟩ <;> rfl

@[simp] theorem result_map (f : β → γ) (p : Procedure α β) :
    Procedure.result (f <$> p) r = match p.result r with
      | (.error e, next) => (.error e, next)
      | (.ok b, next) => (.ok (f b), next) := by
  rw [map_eq_pure_bind, result_bind]
  rfl

@[simp] theorem result_pure (b : β) : Procedure.result (pure b : Procedure α β) r = (.ok b, r) :=
  rfl

@[simp] theorem result_throw (e : DefinitionError) :
    Procedure.result (throw e : Procedure α β) r = (.error e, r) :=
  rfl

@[simp] theorem result_get : Procedure.result (get : Procedure α (Registry α)) r = (.ok r, r) :=
  rfl

@[simp] theorem result_modify (change : Registry α → Registry α) :
    Procedure.result (modify change : Procedure α PUnit) r = (.ok ⟨⟩, change r) :=
  rfl

@[simp] theorem result_set (next : Registry α) :
    Procedure.result (set next : Procedure α PUnit) r = (.ok ⟨⟩, next) :=
  rfl

end Results

/-- The procedure does what registering does, and a name that is taken changes nothing. -/
theorem registering_eq (s : Scenario α) (r : Registry α) :
    (registering s).result r = match r.register s with
      | .error e => (.error (.scenario e), r)
      | .ok next => (.ok (), next) := by
  cases taken : (r.get? s.name).isSome <;> simp [registering, register, taken]

/-- So does the procedure of a declaration, whatever it is refused for. -/
theorem declaring_eq (d : Declaration α) (r : Registry α) :
    (declaring d).result r = match r.declare d with
      | .error e => (.error e, r)
      | .ok (s, next) => (.ok s, next) := by
  -- Refused for its options or its body, it has not come to the registry yet.
  cases made : d.options.make with
  | error e => simp [declaring, declare, made]
  | ok options =>
    cases waits : d.canWait with
    | false => simp [declaring, declare, made, waits]
    | true =>
      simp only [declaring, declare, made, waits, Declaration.scenario]
      cases registered : r.register { name := d.name, body := d.body, options } <;>
        simp [registering_eq, registered]

/-! ### What is held -/

/-- An act with its answer. -/
structure Event (α : Type) where
  act : Act α
  answer : Except DefinitionError (Answer α)

/-- The scenario that was accepted, if one was. -/
@[simp] def Event.accepted? : Event α → Option (Scenario α)
  | ⟨.declare _, .ok (.declared s)⟩ => some s
  | ⟨.register s, .ok _⟩ => some s
  | _ => none

@[simp] def Event.clears : Event α → Bool
  | ⟨.clear, .ok _⟩ => true
  | _ => false

/-- The scenarios that were accepted since the last clearing, in their order. -/
def held (history : List (Event α)) : List (Scenario α) :=
  (history.rtakeWhile fun event => !event.clears).filterMap Event.accepted?

/-- What is held after one more act. -/
def holding (scenarios : List (Scenario α)) (event : Event α) : List (Scenario α) :=
  if event.clears then [] else scenarios ++ event.accepted?.toList

theorem held_concat (history : List (Event α)) (event : Event α) :
    held (history ++ [event]) = holding (held history) event := by
  -- A clearing ends what is looked at; any other act is looked at first.
  rw [held, List.rtakeWhile_concat, holding]
  cases event.clears with
  | true => rfl
  | false =>
    simp only [Bool.not_false, if_true, Bool.false_eq_true, if_false, List.filterMap_append]
    cases accepted : event.accepted? <;> simp [held, accepted, -Event.accepted?]

/-- An act that is refused adds nothing to what is held and takes nothing from it. -/
theorem holding_refused (scenarios : List (Scenario α)) (a : Act α) (e : DefinitionError) :
    holding scenarios ⟨a, .error e⟩ = scenarios := by
  cases a <;> simp [holding]

/-- The answers that a list of scenarios gives: a scenario is accepted if its options are in range,
its body can wait and its name is new, and is refused for the first of these that fails. -/
inductive Answers (scenarios : List (Scenario α)) :
    Act α → Except DefinitionError (Answer α) → Prop
  | declared {d : Declaration α} {options : RunOptions Float}
      (inRange : d.options.make = .ok options) (waits : d.canWait = true)
      (fresh : d.name ∉ scenarios.map Scenario.name) :
      Answers scenarios (.declare d) (.ok (.declared (d.scenario options)))
  | outOfRange {d : Declaration α} {e : ConfigError} (outside : d.options.make = .error e) :
      Answers scenarios (.declare d) (.error (.config e))
  | cannotWait {d : Declaration α} {options : RunOptions Float}
      (inRange : d.options.make = .ok options) (waits : d.canWait = false) :
      Answers scenarios (.declare d) (.error (.scenario (.bodyCannotWait d.function)))
  | declaredAgain {d : Declaration α} {options : RunOptions Float}
      (inRange : d.options.make = .ok options) (waits : d.canWait = true)
      (taken : d.name ∈ scenarios.map Scenario.name) :
      Answers scenarios (.declare d) (.error (.scenario (.alreadyRegistered d.name)))
  | registered {s : Scenario α} (fresh : s.name ∉ scenarios.map Scenario.name) :
      Answers scenarios (.register s) (.ok .done)
  | registeredAgain {s : Scenario α} (taken : s.name ∈ scenarios.map Scenario.name) :
      Answers scenarios (.register s) (.error (.scenario (.alreadyRegistered s.name)))
  | found {name : String} :
      Answers scenarios (.get name) (.ok (.found (scenarios.find? fun s => s.name = name)))
  | listed : Answers scenarios .all (.ok (.listed scenarios))
  | counted : Answers scenarios .size (.ok (.counted scenarios.length))
  | cleared : Answers scenarios .clear (.ok .done)

/-- Only a scenario of a new name joins those that are held. -/
theorem Answers.nodup_holding {scenarios : List (Scenario α)} {a : Act α}
    {answer : Except DefinitionError (Answer α)} (answers : Answers scenarios a answer)
    (distinct : (scenarios.map Scenario.name).Nodup) :
    ((holding scenarios ⟨a, answer⟩).map Scenario.name).Nodup := by
  have joined {s : Scenario α} (fresh : s.name ∉ scenarios.map Scenario.name) :
      ((scenarios ++ [s]).map Scenario.name).Nodup := by
    rw [List.map_append, List.map_singleton]
    refine List.nodup_append.2 ⟨distinct, by simp, ?_⟩
    rintro name member _ (_ | ⟨_, ⟨⟩⟩) rfl
    exact fresh member
  cases answers with
  | declared _ _ fresh => exact joined fresh
  | registered fresh => exact joined fresh
  | cleared => exact List.nodup_nil
  | _ => simpa [holding] using distinct

/-! ### One act -/

theorem keys_append (scenarios : List (Scenario α)) :
    (empty.append scenarios).scenarios.keys = scenarios.map Scenario.name := by
  simp [empty, append, Assoc.keys]

theorem all_append (scenarios : List (Scenario α)) : (empty.append scenarios).all = scenarios := by
  simp [empty, append, all, Assoc.values, Function.comp_def]

theorem size_append (scenarios : List (Scenario α)) :
    (empty.append scenarios).size = scenarios.length := by
  simp [empty, append, size]

theorem get?_append (scenarios : List (Scenario α)) (name : String) :
    (empty.append scenarios).get? name = scenarios.find? fun s => s.name = name := by
  simp only [get?, empty, append, List.nil_append]
  induction scenarios with
  | nil => rfl
  | cons s rest ih => by_cases here : s.name = name <;> simp [Assoc.find?, here, ih]

/-- A registry that holds a list answers an act as the list does, and holds afterwards what the
answer says. -/
theorem act_append (scenarios : List (Scenario α)) (a : Act α) :
    ∃ answer, Answers scenarios a answer ∧
      (act a).result (empty.append scenarios) =
        (answer, empty.append (holding scenarios ⟨a, answer⟩)) := by
  have registers {s : Scenario α} (fresh : s.name ∉ scenarios.map Scenario.name) :
      (empty.append scenarios).register s = .ok (empty.append (scenarios ++ [s])) := by
    rw [register_of_new (by rwa [keys_append]), append_append]
  have refuses {s : Scenario α} (taken : s.name ∈ scenarios.map Scenario.name) :
      (empty.append scenarios).register s = .error (.alreadyRegistered s.name) :=
    register_of_old (by rwa [keys_append])
  cases a with
  | declare d =>
    -- Three refusals in the order in which they are met, and then the one way in.
    simp only [act, result_map, declaring_eq]
    cases made : d.options.make with
    | error e => exact ⟨_, .outOfRange made, by simp [declare, made, holding_refused]⟩
    | ok options =>
      cases waits : d.canWait with
      | false => exact ⟨_, .cannotWait made waits, by simp [declare, made, waits, holding_refused]⟩
      | true =>
        by_cases taken : d.name ∈ scenarios.map Scenario.name
        · have refused := refuses (s := d.scenario options) taken
          simp only [Declaration.scenario] at refused
          exact ⟨_, .declaredAgain made waits taken, by
            simp [declare, made, waits, refused, holding_refused]⟩
        · have registered := registers (s := d.scenario options) taken
          simp only [Declaration.scenario] at registered
          exact ⟨_, .declared made waits taken, by
            simp [declare, made, waits, registered, holding, Declaration.scenario]⟩
  | register s =>
    simp only [act, bind_pure_comp, result_map, registering_eq]
    by_cases taken : s.name ∈ scenarios.map Scenario.name
    · exact ⟨_, .registeredAgain taken, by simp [refuses taken, holding_refused]⟩
    · exact ⟨_, .registered taken, by simp [registers taken, holding]⟩
  | get name => exact ⟨_, .found, by simp [act, get?_append, holding]⟩
  | all => exact ⟨_, .listed, by simp [act, all_append, holding]⟩
  | clear => exact ⟨_, .cleared, by simp [act, holding]⟩
  | size => exact ⟨_, .counted, by simp [act, size_append, holding]⟩

/-! ### A sequence of acts -/

/-- A registry under a sequence of acts: the acts with their answers, and how it is left. -/
def perform (r : Registry α) : List (Act α) → List (Event α) × Registry α
  | [] => ([], r)
  | a :: rest =>
    let ended := (act a).result r
    let later := perform ended.2 rest
    (⟨a, ended.1⟩ :: later.1, later.2)

theorem perform_concat (r : Registry α) (acts : List (Act α)) (a : Act α) :
    r.perform (acts ++ [a]) =
      ((r.perform acts).1 ++ [⟨a, ((act a).result (r.perform acts).2).1⟩],
        ((act a).result (r.perform acts).2).2) := by
  induction acts generalizing r with
  | nil => rfl
  | cons first rest ih => simp [perform, ih]

theorem acts_perform (r : Registry α) (acts : List (Act α)) :
    (r.perform acts).1.map Event.act = acts := by
  induction acts generalizing r with
  | nil => rfl
  | cons a rest ih => simp [perform, ih]

/-- A registry that was empty holds what was accepted since it was last cleared. -/
theorem holds_perform (acts : List (Act α)) :
    (empty.perform acts).2 = empty.append (held (empty.perform acts).1) ∧
      ((held (empty.perform acts).1).map Scenario.name).Nodup := by
  -- From the end, since a clearing forgets what came before it.
  induction acts using List.reverseRecOn with
  | nil => exact ⟨rfl, List.nodup_nil⟩
  | append_singleton acts a ih =>
    obtain ⟨holds, distinct⟩ := ih
    obtain ⟨answer, answers, result⟩ := act_append (held (empty.perform acts).1) a
    rw [perform_concat, holds, result, held_concat]
    exact ⟨rfl, answers.nodup_holding distinct⟩

/-- A registry is this list of scenarios, under names that differ. -/
structure Is (r : Registry α) (scenarios : List (Scenario α)) : Prop where
  distinct : (r.all.map Scenario.name).Nodup
  all : r.all = scenarios
  size : r.size = scenarios.length
  get? : ∀ name, r.get? name = scenarios.find? fun s => s.name = name

theorem is_append {scenarios : List (Scenario α)} (distinct : (scenarios.map Scenario.name).Nodup) :
    (empty.append scenarios).Is scenarios where
  distinct := by rwa [all_append]
  all := all_append scenarios
  size := size_append scenarios
  get? := get?_append scenarios

/-- After any acts a registry is the list of the scenarios that were accepted since it was last
cleared. It answers every further act as this list does, and an act that is refused leaves it as it
was. -/
theorem perform_refines (acts : List (Act α)) :
    ∃ history r, empty.perform acts = (history, r) ∧ history.map Event.act = acts ∧
      r.Is (held history) ∧
      ∀ a, ∃ answer next, (act a).result r = (answer, next) ∧ Answers (held history) a answer ∧
        next.Is (held (history ++ [⟨a, answer⟩])) ∧ ∀ e, answer = .error e → next = r := by
  obtain ⟨holds, distinct⟩ := holds_perform acts
  refine ⟨_, _, rfl, acts_perform empty acts, holds ▸ is_append distinct, ?_⟩
  intro a
  obtain ⟨answer, answers, result⟩ := act_append (held (empty.perform acts).1) a
  rw [← holds] at result
  refine ⟨answer, _, result, answers, ?_, ?_⟩
  · rw [held_concat]
    exact is_append (answers.nodup_holding distinct)
  · -- The list is as it was, and the registry is this list.
    rintro e rfl
    rw [holding_refused, holds]

end Registry

end Volley
