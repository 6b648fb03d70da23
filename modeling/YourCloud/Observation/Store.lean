import YourCloud.Observation.Gaps
import YourCloud.Foundation.Sha256

/-!
# The Relay's durable observations

The Relay keeps the last accepted message of each machine.  A message is
accepted as the exact replay of the one it holds, or as a newer one whose
ranges name exactly the sequences in between; it is published before it is
acknowledged.

## Main results

* `save_other` — a message changes the entry of its own machine only.
-/

namespace YourCloud.Observation

open YourCloud.Foundation

structure StoredObservation where
  sequence : Nat
  sha256 : Bytes
  receivedAt : Bytes
  envelope : Envelope
  gaps : List Gap
  deriving DecidableEq, Repr

/-- The entry of each machine. -/
abbrev ObservationStore := Bytes → Option StoredObservation

/-- Why a message is refused. -/
inductive Refusal where
  | undecodable (reason : String)
  | otherMachine
  | collision
  | older
  | gaps
  | unpublished
  deriving DecidableEq, Repr

def Refusal.message : Refusal → String
  | .undecodable reason => reason
  | .otherMachine => "observation machine does not match the authenticated certificate"
  | .collision => "observation sequence collides with different bytes"
  | .older => "observation sequence is older than the durable Relay state"
  | .gaps => "observation gaps do not exactly match the skipped sequence range"
  | .unpublished => "publish Relay observation store"

/-- The entry that a new message makes of the one before. -/
def received (encoded : Bytes) (receivedAt : Instant) (envelope : Envelope)
    (current : Option StoredObservation) : StoredObservation :=
  { sequence := envelope.sequence
    sha256 := sha256Hex encoded
    receivedAt := Rfc3339.format receivedAt
    envelope := envelope
    gaps := mergeReceivedGaps
      (envelope.gaps ++ (current.map StoredObservation.gaps).getD []) }

/-- The first sequence the Relay has not seen. -/
def firstSkipped (current : Option StoredObservation) : Nat :=
  match current with
  | none => 1
  | some stored => wrap (stored.sequence + 1)

/-- What the sequence of a message means beside the entry: an exact replay, a
refusal, or a message that may be new. -/
def compareSequence (envelope : Envelope) (encoded : Bytes) :
    Option StoredObservation → Except Refusal Bool
  | none => .ok false
  | some current =>
      if envelope.sequence = current.sequence then
        if sha256Hex encoded = current.sha256 then .ok true else .error .collision
      else if envelope.sequence < current.sequence then .error .older
      else .ok false

/-- Accepts a message for the machine of the certificate it came under: the
message with whether it was already there.  `published` is whether the state
file could be written. -/
def save (authenticatedMachine encoded : Bytes) (receivedAt : Instant) (published : Bool)
    (store : ObservationStore) : Except Refusal (Envelope × Bool) × ObservationStore :=
  match decode encoded with
  | .error reason => (.error (.undecodable reason), store)
  | .ok envelope =>
      if envelope.machineID ≠ authenticatedMachine then (.error .otherMachine, store)
      else
        let current := store authenticatedMachine
        match compareSequence envelope encoded current with
        | .error refusal => (.error refusal, store)
        | .ok true => (.ok (envelope, true), store)
        | .ok false =>
            if gapsMatchSkippedRange envelope.gaps (firstSkipped current)
                (envelope.sequence - 1) = false then
              (.error .gaps, store)
            else if published = false then (.error .unpublished, store)
            else
              (.ok (envelope, false), fun machine =>
                if machine = authenticatedMachine then
                  some (received encoded receivedAt envelope current)
                else store machine)

/-- A message under one certificate leaves the entries of other machines alone. -/
theorem save_other {authenticatedMachine machine : Bytes} (encoded : Bytes)
    (receivedAt : Instant) (published : Bool) (store : ObservationStore) (h : machine ≠ authenticatedMachine) :
    (save authenticatedMachine encoded receivedAt published store).2 machine = store machine := by
  unfold save
  split
  · rfl
  · split
    · rfl
    · dsimp only
      split
      · rfl
      · rfl
      · split
        · rfl
        · split
          · rfl
          · exact if_neg h

end YourCloud.Observation
