import Volley.Proofs.Config.Valid

/-!
# Overrides and the environment

A setting on the command line does what the variable of that setting would do: it is parsed and
checked in the same way, and the first error is the same. There is one exception. The command line
cannot ask for an empty text. An empty variable is refused, but an empty override counts as one that
is not given.

## Main definitions

- `Overrides.exported`: an environment with the overrides in the place of its variables.
- `Overrides.Filled`, `Overrides.filled`: no override is an empty text; the overrides without those.
- `Overrides.TimedBy`: a text denotes the timeout that is given.

## Main results

- `RequestConfig.loadWith_agrees`: the command line agrees with the environment.
- `RequestConfig.empty_token_ignored`: on an empty text they differ.
-/

namespace Volley

namespace Environment

/-- A variable is replaced if there is a value for it. -/
def replaced (env : Environment) (name : String) (value : Option String) : Environment :=
  match value with
  | none => env
  | some text => env.set name text

@[simp] theorem find?_replaced (env : Environment) (name other : String) (value : Option String) :
    (env.replaced name value).find? other =
      if name = other then value.or (env.find? other) else env.find? other := by
  cases value with
  | none => simp [replaced]
  | some text => simp [replaced, Assoc.find?_set]

end Environment

namespace Overrides

/-- The environment in which the overrides that are given take the place of the variables. The text
of the timeout is given apart. -/
def exported (given : Overrides) (timeout : Option String) (env : Environment) : Environment :=
  (((env.replaced "CHECKRUN_URL" given.url).replaced "CHECKRUN_TOKEN" given.token).replaced
    "CHECKRUN_ACCEPTED_STATUSES" given.accept).replaced "CHECKRUN_TIMEOUT" timeout

/-- No override is an empty text. -/
structure Filled (given : Overrides) : Prop where
  url : given.url ≠ some ""
  token : given.token ≠ some ""
  accept : given.accept ≠ some ""

def dropEmpty (given : Option String) : Option String :=
  given.filter fun text => text ≠ ""

/-- The overrides without those that are empty texts. -/
def filled (given : Overrides) : Overrides :=
  { given with
    url := dropEmpty given.url
    token := dropEmpty given.token
    accept := dropEmpty given.accept }

/-- The text denotes the timeout that is given; without a timeout there is no text. -/
def TimedBy (given : Overrides) (timeout : Option String) : Prop :=
  timeout.map Text.Numeral.decimal? = given.timeout.map some

theorem dropEmpty_ne (given : Option String) : dropEmpty given ≠ some "" := by
  cases given <;> simp [dropEmpty, Option.filter]

theorem filled_filled (given : Overrides) : given.filled.Filled :=
  ⟨dropEmpty_ne _, dropEmpty_ne _, dropEmpty_ne _⟩

/-- Overrides for all settings, with a timeout that is refused. -/
def tooShort : Overrides :=
  { url := some "http://localhost/", token := some "t1", accept := some "404",
    timeout := some (-2.5) }

section Exported

variable (given : Overrides) (timeout : Option String) (env : Environment)

@[simp] theorem find?_exported_url :
    (given.exported timeout env).find? "CHECKRUN_URL" =
      given.url.or (env.find? "CHECKRUN_URL") := by
  simp [exported]

@[simp] theorem find?_exported_token :
    (given.exported timeout env).find? "CHECKRUN_TOKEN" =
      given.token.or (env.find? "CHECKRUN_TOKEN") := by
  simp [exported]

@[simp] theorem find?_exported_accept :
    (given.exported timeout env).find? "CHECKRUN_ACCEPTED_STATUSES" =
      given.accept.or (env.find? "CHECKRUN_ACCEPTED_STATUSES") := by
  simp [exported]

@[simp] theorem find?_exported_timeout :
    (given.exported timeout env).find? "CHECKRUN_TIMEOUT" =
      timeout.or (env.find? "CHECKRUN_TIMEOUT") := by
  simp [exported]

end Exported

end Overrides

/-! ### One setting -/

theorem orElseText_of_filled {given : Option String} (filled : given ≠ some "")
    (otherwise : String) : orElseText given otherwise = given.getD otherwise := by
  cases given with
  | none => rfl
  | some text =>
    have some_ : text ≠ "" := fun empty => filled (congrArg some empty)
    simp [orElseText, some_]

theorem orElseText_dropEmpty (given : Option String) (otherwise : String) :
    orElseText (Overrides.dropEmpty given) otherwise = orElseText given otherwise := by
  cases given with
  | none => rfl
  | some text =>
    by_cases empty : text = "" <;> simp [orElseText, Overrides.dropEmpty, Option.filter, empty]

namespace RequestConfig

theorem acceptedOr_dropEmpty (given : Option String) (base : StatusSet) :
    acceptedOr (Overrides.dropEmpty given) base = acceptedOr given base := by
  cases given with
  | none => rfl
  | some text =>
    by_cases empty : text = "" <;> simp [acceptedOr, Overrides.dropEmpty, Option.filter, empty]

variable {env : Environment} {base : RequestConfig Float} {given : Overrides}
  {timeout : Option String}

/-- An override for the statuses is parsed as the variable is. -/
theorem loadAccepted_exported (loads : load env = .ok base) (filled : given.accept ≠ some "") :
    loadAccepted (given.exported timeout env) = acceptedOr given.accept base.accepted := by
  have read := (load_ok loads).1
  cases overridden : given.accept with
  | none => simpa [loadAccepted, overridden, acceptedOr] using read
  | some text =>
    have some_ : text ≠ "" := fun empty => filled (overridden.trans (congrArg some empty))
    simp [loadAccepted, overridden, acceptedOr, some_]

/-- A text that denotes the override is read as the override. -/
theorem decimal_exported (loads : load env = .ok base) (timed : given.TimedBy timeout) :
    (given.exported timeout env).decimal "CHECKRUN_TIMEOUT" 60 =
      .ok (given.timeout.getD base.timeout) := by
  have read := (load_ok loads).2.1
  unfold Overrides.TimedBy at timed
  cases overridden : given.timeout with
  | none =>
    rw [overridden] at timed
    obtain rfl : timeout = none := by simpa using timed
    simpa [Environment.decimal] using read
  | some time =>
    rw [overridden] at timed
    obtain ⟨text, rfl, denotes⟩ : ∃ text, timeout = some text ∧
        Text.Numeral.decimal? text = some time := by
      cases timeout with
      | none => cases timed
      | some text => exact ⟨text, rfl, Option.some.inj timed⟩
    simp [Environment.decimal, denotes]

/-! ### All settings -/

theorem loadWith_of_load (loads : load env = .ok base) (given : Overrides) :
    loadWith env given = acceptedOr given.accept base.accepted >>= fun accepted =>
      make (orElseText given.url base.url) (orElseText given.token base.token) accepted
        (given.timeout.getD base.timeout) := by
  rw [loadWith_eq, loads]
  rfl

/-- Where no override is empty, they are exported: the outcome is that of the environment. -/
theorem loadWith_of_filled (loads : load env = .ok base) (timed : given.TimedBy timeout)
    (filled : given.Filled) : loadWith env given = load (given.exported timeout env) := by
  obtain ⟨-, -, url, token, -⟩ := load_ok loads
  have chosenUrl : orElseText given.url base.url =
      (given.url.or (env.find? "CHECKRUN_URL")).getD defaultUrl := by
    rw [orElseText_of_filled filled.url, url]
    cases given.url <;> simp
  have chosenToken : orElseText given.token base.token =
      (given.token.or (env.find? "CHECKRUN_TOKEN")).getD defaultToken := by
    rw [orElseText_of_filled filled.token, token]
    cases given.token <;> simp
  unfold load
  rw [loadWith_of_load loads, chosenUrl, chosenToken, loadAccepted_exported loads filled.accept,
    decimal_exported loads timed, Overrides.find?_exported_url, Overrides.find?_exported_token]
  rfl

/-- Empty overrides do nothing. -/
theorem loadWith_filled (env : Environment) (given : Overrides) :
    loadWith env given.filled = loadWith env given := by
  simp only [loadWith_eq, Overrides.filled, orElseText_dropEmpty, acceptedOr_dropEmpty]

/-- An empty variable is refused. -/
theorem filled_of_load {config : RequestConfig Float}
    (loads : load (given.exported timeout env) = .ok config) : given.Filled := by
  obtain ⟨read, -, url, token, valid⟩ := load_ok loads
  refine ⟨?_, ?_, ?_⟩
  · intro empty
    have never : ¬ ("http://".toList <+: "".toList ∨ "https://".toList <+: "".toList) := by decide
    apply never
    simpa [url, empty] using valid.url
  · intro empty
    apply valid.token
    simp [token, empty]
  · intro empty
    simp only [loadAccepted, Overrides.find?_exported_accept, empty, Option.some_or] at read
    cases read

/-- Overrides are checked and applied as the environment is, on top of an environment that is valid
by itself. Where none of them is an empty text the outcome is that of the environment with the
overrides in it. With an empty text that environment is refused, but the command line does without
it. -/
theorem loadWith_agrees (env : Environment) (base : RequestConfig Float)
    (loads : load env = .ok base) (given : Overrides) (timeout : Option String)
    (timed : given.TimedBy timeout) :
    (given.Filled → loadWith env given = load (given.exported timeout env)) ∧
    (¬ given.Filled → (∃ e, load (given.exported timeout env) = .error e) ∧
      loadWith env given = load (given.filled.exported timeout env)) := by
  refine ⟨loadWith_of_filled loads timed, fun empty => ⟨?_, ?_⟩⟩
  · cases result : load (given.exported timeout env) with
    | error e => exact ⟨e, rfl⟩
    | ok config => exact absurd (filled_of_load result) empty
  · rw [← loadWith_filled]
    exact loadWith_of_filled loads timed given.filled_filled

/-- The timeout is refused as it would be as a variable. -/
theorem loadWith_agrees_tooShort :
    loadWith Accepted.environment .tooShort =
        load (Overrides.tooShort.exported (some "-25e-1") Accepted.environment) ∧
      loadWith Accepted.environment .tooShort = .error (.timeoutNotPositive (-2.5)) := by
  obtain ⟨base, loads⟩ : ∃ base, load Accepted.environment = .ok base :=
    exists_of_isOk (by decide +kernel)
  have denotes : Text.Numeral.decimal? "-25e-1" = some (-2.5) := by decide +kernel
  have agrees := loadWith_agrees Accepted.environment base loads .tooShort (some "-25e-1")
    (congrArg some denotes)
  refine ⟨agrees.1 ⟨by decide, by decide, by decide⟩, ?_⟩
  rfl

/-- An empty token leaves the token of the environment, but an environment with an empty token is
refused. -/
theorem empty_token_ignored :
    loadWith [] { token := some "" } = .ok .default ∧
    load (Overrides.exported { token := some "" } none []) = .error .tokenEmpty := by
  constructor <;> rfl

end RequestConfig

end Volley
