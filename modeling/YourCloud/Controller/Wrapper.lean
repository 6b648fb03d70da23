import YourCloud.Auxiliary.Input

/-!
# The wrapper

The exact standard input of the machine's forced command: the signed approval
as it was received, white space aside, and the documents as strings.

## Main results

* `Wrapper.json_wellFormed` — the wrapper is a compact object.
* `Wrapper.decodeInput_cut` — a machine that received less than a whole wrapper
  received no input.
-/

namespace YourCloud.Controller

open YourCloud.Foundation
open YourCloud.Approval
open YourCloud.Auxiliary

/-- What is assembled for the machine.  The approval is a document already. -/
structure Wrapper where
  signedApproval : Json
  plan : Bytes
  rollback : Bytes
  definition : Bytes
  wellFormed : signedApproval.WellFormed

namespace Wrapper

/-- The approval embedded as it is, and each document as one string. -/
def members (wrapper : Wrapper) : List (Bytes × Json) :=
  [(text "signed_approval", wrapper.signedApproval.escapeMarkup),
    (text "plan", Json.quoted true wrapper.plan),
    (text "rollback", Json.quoted true wrapper.rollback),
    (text "definition", Json.quoted true wrapper.definition)]

/-- The rendered wrapper. -/
def bytes (wrapper : Wrapper) : Bytes := (Json.object wrapper.members).render

theorem names_spelled : Json.Names wrapperFields := Json.Names.of_check (by decide)

theorem json_wellFormed (wrapper : Wrapper) : (Json.object wrapper.members).WellFormed := by
  refine Json.wellFormed_object fun m hm => ⟨?_, ?_⟩
  · have hname : m.1 ∈ wrapperFields := List.mem_map_of_mem (f := Prod.fst) hm
    exact (names_spelled.plain m.1 hname).spelled
  · simp only [members, List.mem_cons, List.not_mem_nil, or_false] at hm
    rcases hm with rfl | rfl | rfl | rfl
    · exact Json.escapeMarkup_wellFormed _ wrapper.wellFormed
    all_goals exact Json.wellFormed_quoted true _

/-- Less than a whole wrapper is no input. -/
theorem decodeInput_cut (wrapper : Wrapper) {received : Nat}
    (h : received < wrapper.bytes.length) :
    decodeInput (wrapper.bytes.take received) = none := by
  refine Auxiliary.decodeInput_cut wrapper.json_wellFormed
    (t := wrapper.bytes.drop received) (List.take_append_drop _ _).symm ?_
  intro hnil
  have := List.length_drop (i := received) (l := wrapper.bytes)
  rw [hnil, List.length_nil] at this
  omega

end Wrapper

end YourCloud.Controller
