import YourCloud.Plan.Documents

/-!
# The standard input of the Auxiliary

One bounded document is read before anything is done: a signed approval alone,
or the closed wrapper that carries one beside the two documents it names.
Which of the two was sent is decided by the names of the document alone.

## Main results

* `decodeInput_cut` — a wrapper that lost its end is no input.
-/

namespace YourCloud.Auxiliary

open YourCloud.Foundation
open YourCloud.Approval

/-- What the wrapper costs beyond the documents it carries. -/
def inputSlack : Nat := 1024

/-- The bound of the whole input. -/
def maxInputBytes : Nat :=
  maxSignedApprovalBytes + 2 * Plan.maxPlanBytes + ServiceDefinition.maxDefinitionBytes +
    inputSlack

/-- The name whose presence says that the documents travelled along. -/
def wrapperDiscriminator : Bytes := text "signed_approval"

/-- One accepted shape of the input.  A definition that was not sent is
nothing, not an empty document. -/
inductive Input where
  | diagnose (signed : SignedApproval)
  | apply (signed : SignedApproval) (planDocument rollbackDocument : Bytes)
      (definitionDocument : Option Bytes)
  deriving DecidableEq

/-- The wrapper as received: the approval is kept as its own bytes. -/
structure ApplyWrapper where
  signedApproval : Bytes
  plan : Bytes
  rollback : Bytes
  definition : Bytes
  deriving DecidableEq, Repr

def wrapperFields : List Bytes :=
  [text "signed_approval", text "plan", text "rollback", text "definition"]

/-- The wrapper read strictly. -/
def readWrapper (document : Bytes) : Option ApplyWrapper := do
  let value ← Json.parse document
  if value.distinct = false then none
  let ms ← value.members wrapperFields
  let raw ← Json.rawMembers document
  let plan ← (Json.field ms (text "plan")).readString
  let rollback ← (Json.field ms (text "rollback")).readString
  let definition ← (Json.field ms (text "definition")).readString
  return { signedApproval := (raw.lookup wrapperDiscriminator).getD [], plan, rollback, definition }

/-- Whether the document is a wrapper, read off its names alone. -/
def carriesPlanDocuments (document : Bytes) : Option Bool :=
  match Json.parse document with
  | some .null => some false
  | some (.object ms) => some (decide (wrapperDiscriminator ∈ Json.names ms))
  | _ => none

/-- The documents of a wrapper, each within its own bound. -/
def ApplyWrapper.input (wrapper : ApplyWrapper) : Option Input := do
  let signed ← decodeSigned wrapper.signedApproval
  if wrapper.plan.length = 0 ∨ Plan.maxPlanBytes < wrapper.plan.length then none
  if wrapper.rollback.length = 0 ∨ Plan.maxPlanBytes < wrapper.rollback.length then none
  if ServiceDefinition.maxDefinitionBytes < wrapper.definition.length then none
  return .apply signed wrapper.plan wrapper.rollback
    (if wrapper.definition = [] then none else some wrapper.definition)

/-- Exactly one of the two closed shapes, fully validated. -/
def decodeInput (document : Bytes) : Option Input :=
  if document.length = 0 ∨ maxInputBytes < document.length then none
  else
    match carriesPlanDocuments document with
    | none => none
    | some false => (decodeSigned document).map Input.diagnose
    | some true => (readWrapper document).bind ApplyWrapper.input

/-- What is no document at all is no input. -/
theorem decodeInput_of_parse {document : Bytes} (h : Json.parse document = none) :
    decodeInput document = none := by
  unfold decodeInput carriesPlanDocuments
  rw [h]
  exact ite_self none

/-- A compact wrapper that lost its end is no input. -/
theorem decodeInput_cut {ms : List (Bytes × Json)} (h : (Json.object ms).WellFormed)
    {s t : Bytes} (hs : (Json.object ms).render = s ++ t) (ht : t ≠ []) :
    decodeInput s = none :=
  decodeInput_of_parse (Json.parse_cut h hs ht)

end YourCloud.Auxiliary
