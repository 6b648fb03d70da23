import YourCloud.AuxiliaryReport
import YourCloud.Controller.Record

/-!
# Reading what the machine answered

An answer is held against the dispatch it claims to conclude, and is discarded
as soon as one of its names is another one: a report about another launch is no
weaker evidence about this one, it is evidence about something else.

What is discarded leaves a reason from a closed list, and the one reason that
repeats a word of the document quotes it.

## Main results

* `ingestReport_iff` — exactly the bounded documents that read as a report naming
  the dispatch are ingested.
-/

namespace YourCloud.Controller

open YourCloud.Foundation
open YourCloud.AuxiliaryReport

/-- It bounds a report before it is parsed. -/
def maxCommandReportBytes : Nat := 64 * 1024

/-! ## A quoted word -/

/-- The number of the character that some bytes spell. -/
def codePoint : Bytes → Nat
  | [a] => a.toNat
  | [a, b] => a.toNat % 32 * 64 + b.toNat % 64
  | [a, b, c] => a.toNat % 16 * 4096 + b.toNat % 64 * 64 + c.toNat % 64
  | [a, b, c, d] =>
      a.toNat % 8 * 262144 + b.toNat % 64 * 4096 + c.toNat % 64 * 64 + d.toNat % 64
  | _ => 0

/-- A number in lower-case hexadecimal, of the given width. -/
def hexadecimal : Nat → Nat → Bytes
  | 0, _ => []
  | width + 1, n => hexadecimal width (n / 16) ++ [hexDigit (n % 16)]

/-- A seven-bit byte between quotes. -/
def quotedByte (b : UInt8) : Bytes :=
  if b = 0x22 ∨ b = 0x5C then [0x5C, b]
  else if 0x20 ≤ b ∧ b < 0x7F then [b]
  else if b = 0x07 then text "\\a"
  else if b = 0x08 then text "\\b"
  else if b = 0x0C then text "\\f"
  else if b = 0x0A then text "\\n"
  else if b = 0x0D then text "\\r"
  else if b = 0x09 then text "\\t"
  else if b = 0x0B then text "\\v"
  else text "\\x" ++ hexadecimal 2 b.toNat

section Quoting

-- The characters past seven-bit text that are printable, by their number.
variable (isPrint : Nat → Bool)

/-- One character or one invalid byte between quotes. -/
def quotedUnit (s : Bytes) : Bytes × Nat :=
  match s with
  | [] => ([], 1)
  | b :: _ =>
      if runeSize s = 0 then (text "\\x" ++ hexadecimal 2 b.toNat, 1)
      else if b < 0x80 then (quotedByte b, 1)
      else
        let character := s.take (runeSize s)
        let n := codePoint character
        (if isPrint n then character
          else if n < 0x10000 then text "\\u" ++ hexadecimal 4 n
          else text "\\U" ++ hexadecimal 8 n, runeSize s)

/-- The `%q` verb. -/
def quotedWord (s : Bytes) : Bytes := 0x22 :: rewrite (quotedUnit isPrint) s ++ [0x22]

end Quoting

/-! ## Ingestion -/

/-- One answer held against the dispatch it claims to conclude; what is
discarded leaves its reason. -/
def ingestReport (record : DispatchRecord) (infrastructureID answer : Bytes) :
    Except Bytes Report :=
  if answer.length = 0 then .error (text "the machine rendered no report")
  else if maxCommandReportBytes < answer.length then
    .error (text "the answer is past the bound a report may reach")
  else
    match Json.decode Report.read answer with
    | none => .error (text "the answer is not a report this Controller reads")
    | some report =>
        if report.infrastructureID ≠ infrastructureID ∨ report.machineID ≠ record.machineID then
          .error (text
            "the report names another infrastructure or another machine than this dispatch")
        else if report.operation ≠ record.operation then
          .error (text "the report names another operation than the envelope")
        else if report.approvalEpoch ≠ record.approvalEpoch ∨
            report.consumedSequence ≠ record.sequence then
          .error (text "the report names another position than the envelope")
        else if report.planSHA256 ≠ record.planSHA256 ∨
            report.rollbackSHA256 ≠ record.rollbackSHA256 then
          .error (text "the report names another pair than the one the approval signs")
        else .ok report

/-- What a record keeps of an ingested report.  A read-only diagnostic concludes
without naming an outcome. -/
def reportedConclusion (isPrint : Nat → Bool) (report : Report) : Except Bytes (Bool × Bytes) :=
  if report.outcome = [] then .ok (report.changed, [])
  else if report.outcome = outcomeApplied ∨ report.outcome = outcomeRolledBack ∨
      report.outcome = outcomePartial then .ok (report.changed, report.outcome)
  else .error (text "the report names the unknown outcome " ++ quotedWord isPrint report.outcome)

/-! ## What is ingested -/

/-- The names a report must share with its dispatch. -/
structure Names (record : DispatchRecord) (infrastructureID : Bytes) (report : Report) :
    Prop where
  infrastructureID : report.infrastructureID = infrastructureID
  machineID : report.machineID = record.machineID
  operation : report.operation = record.operation
  approvalEpoch : report.approvalEpoch = record.approvalEpoch
  sequence : report.consumedSequence = record.sequence
  planSHA256 : report.planSHA256 = record.planSHA256
  rollbackSHA256 : report.rollbackSHA256 = record.rollbackSHA256

/-- Exactly the bounded documents that read as a report naming this dispatch are
ingested. -/
theorem ingestReport_iff {record : DispatchRecord} {infrastructureID answer : Bytes}
    {report : Report} :
    ingestReport record infrastructureID answer = .ok report ↔
      answer.length ≤ maxCommandReportBytes ∧ Json.decode Report.read answer = some report ∧
        Names record infrastructureID report := by
  unfold ingestReport
  constructor
  · intro h
    split at h
    · cases h
    split at h
    · cases h
    rename_i hbound
    split at h
    · cases h
    rename_i read hread
    split at h
    · cases h
    rename_i hmachine
    split at h
    · cases h
    rename_i hoperation
    split at h
    · cases h
    rename_i hposition
    split at h
    · cases h
    rename_i hpair
    obtain rfl := Except.ok.inj h
    rw [not_or, not_not, not_not] at hmachine hposition hpair
    exact ⟨Nat.not_lt.1 hbound, hread, hmachine.1, hmachine.2, not_not.1 hoperation,
      hposition.1, hposition.2, hpair.1, hpair.2⟩
  · rintro ⟨hbound, hread, hnames⟩
    have hne : answer.length ≠ 0 := by
      intro h0
      rw [List.length_eq_zero_iff.1 h0] at hread
      cases hread
    rw [if_neg hne, if_neg (Nat.not_lt.2 hbound), hread]
    simp [hnames.infrastructureID, hnames.machineID, hnames.operation, hnames.approvalEpoch,
      hnames.sequence, hnames.planSHA256, hnames.rollbackSHA256]

end YourCloud.Controller
