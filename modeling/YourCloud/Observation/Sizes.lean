import YourCloud.Foundation.JsonSize
import YourCloud.Observation.Buffer
import Mathlib.Algebra.Order.BigOperators.Group.List

/-!
# How long a queue and its observations are

The limits are enforced on the text of a queue whose ranges stand beside the
observations, and what leaves the machine is the text of the oldest observation
once it carries them.  Both texts are known up to the lengths of their numbers
and times.

## Main results

* `attached_length` — a queue whose oldest observation took up the ranges is
  ten bytes longer.
* `bare_length` — an observation that carries no ranges fits into a message.
-/

namespace YourCloud.Observation

open YourCloud.Foundation

/-! ## The ranges change place -/

/-- What the ranges cost, whoever carries them. -/
private def rangesSize (gaps : List Gap) : Nat :=
  (gaps.map fun gap => gap.json.size + 1).sum

private theorem size_gaps {gaps : List Gap} (h : gaps ≠ []) :
    (Json.array (gaps.map Gap.json)).size = rangesSize gaps + 1 := Json.size_array Gap.json h

theorem Envelope.json_size (e : Envelope) :
    e.json.size = (e.fields.map Json.fieldSize).sum + 1 := Json.size_record_cons _ _ _

theorem State.json_size (s : State) :
    s.json.size = (s.fields.map Json.fieldSize).sum + 1 := Json.size_record_cons _ _ _

/-- An observation that takes up ranges grows by them and by the name of the member. -/
theorem carrying_size {e : Envelope} {gaps : List Gap} (hbare : e.gaps = []) (h : gaps ≠ []) :
    ({ e with gaps } : Envelope).json.size = e.json.size + rangesSize gaps + 9 := by
  have hnone : omitNone Gap.json e.gaps = none := by
    rw [hbare]
    rfl
  have hsome : omitNone Gap.json gaps = some (.array (gaps.map Gap.json)) :=
    if_neg fun hnil => h (List.isEmpty_iff.1 hnil)
  have hname : (text "gaps").length = 4 := by decide
  rw [Envelope.json_size, Envelope.json_size, Envelope.fields, Envelope.fields]
  simp only [List.map_cons, List.sum_cons, hnone, hsome, Json.fieldSize_some,
    Json.fieldSize_none, size_gaps h, hname]
  omega

/-- The ranges leave the queue, and the oldest observation takes them up. -/
theorem attached_length {s : State} {oldest : Envelope} {rest : List Envelope}
    (hpending : s.pending.items = oldest :: rest) (hbare : oldest.gaps = [])
    (hgaps : s.gaps.items ≠ []) :
    (attached s oldest rest).encode.length = s.encode.length + 10 := by
  have hqueue : s.pending = some (oldest :: rest) := by
    cases h : s.pending with
    | none =>
        rw [h] at hpending
        cases hpending
    | some pending =>
        rw [h] at hpending
        rw [show pending = oldest :: rest from hpending]
  have hranges : s.gaps = some s.gaps.items := by
    cases h : s.gaps with
    | none => exact absurd (h ▸ rfl) hgaps
    | some gaps => rfl
  have hbefore : (Slice.json Envelope.json s.pending).size =
      oldest.json.size + 1 + (rest.map fun e => e.json.size + 1).sum + 1 := by
    rw [hqueue]
    exact Json.size_array Envelope.json (List.cons_ne_nil oldest rest)
  have hafter : (Slice.json Envelope.json (attached s oldest rest).pending).size =
      oldest.json.size + rangesSize s.gaps.items + 9 + 1 +
        (rest.map fun e => e.json.size + 1).sum + 1 := by
    rw [← carrying_size hbare hgaps]
    exact Json.size_array Envelope.json (List.cons_ne_nil _ rest)
  have hbeside : (Slice.json Gap.json s.gaps).size = rangesSize s.gaps.items + 1 := by
    rw [hranges]
    exact size_gaps hgaps
  have hgone : (Slice.json Gap.json (attached s oldest rest).gaps).size = 2 := rfl
  show (attached s oldest rest).json.size = s.json.size + 10
  rw [State.json_size, State.json_size, State.fields, State.fields]
  dsimp only [attached, cloneState] at hafter hgone ⊢
  simp only [List.map_cons, List.sum_cons, Json.fieldSize_some, hbefore, hafter, hbeside, hgone]
  omega

/-! ## An observation without ranges -/

private theorem quoted_le {s : Bytes} {n : Nat} (h : s.length ≤ n) :
    (Json.quoted true s).size ≤ 6 * n + 2 :=
  (Json.size_quoted_le true s).trans (by omega)

/-- What an optional field costs at most. -/
private theorem fieldSize_le (name : Bytes) {value : Option Json} {n : Nat}
    (h : ∀ j ∈ value, j.size ≤ n) : Json.fieldSize (name, value) ≤ name.length + n + 4 := by
  cases value with
  | none => exact Nat.zero_le _
  | some j =>
      have := h j rfl
      rw [Json.fieldSize_some]
      omega

private theorem counter_le (n : Option UInt64) : ∀ j ∈ counter n, j.size ≤ 20 := by
  intro j hj
  obtain ⟨m, -, rfl⟩ := Option.map_eq_some_iff.1 hj
  have := m.toNat_lt
  exact Json.size_numeral_le (by decide) (by omega)

private theorem omitEmpty_le {s : Bytes} {n : Nat} (h : s.length ≤ n) :
    ∀ j ∈ Json.omitEmpty true s, j.size ≤ 6 * n + 2 := by
  intro j hj
  unfold Json.omitEmpty at hj
  split at hj
  · cases hj
  · rw [← Option.some.inj hj]
    exact quoted_le h

private theorem errorCode_length {s : Bytes} (h : validErrorCode s = true) : s.length ≤ 18 := by
  rw [validErrorCode, Bool.or_eq_true, decide_eq_true_eq, decide_eq_true_eq] at h
  rcases h with rfl | rfl
  · decide
  · decide

private theorem uptime_words {result : UptimeResult} (h : validateUptime result = none) :
    result.status.length ≤ 5 ∧ result.error.length ≤ 18 := by
  unfold validateUptime at h
  split at h
  · rename_i hok
    split at h
    · cases h
    · rename_i hnot
      rw [not_or, not_not] at hnot
      rw [hok, hnot.2]
      decide
  · split at h
    · rename_i herror
      split at h
      · cases h
      · rename_i hnot
        rw [not_or, Bool.not_eq_false] at hnot
        refine ⟨?_, errorCode_length hnot.2⟩
        rw [herror]
        decide
    · cases h

private theorem pair_words {result : PairResult} (h : validatePair result = none) :
    result.status.length ≤ 5 ∧ result.error.length ≤ 18 := by
  unfold validatePair at h
  split at h
  · rename_i hok
    split at h
    · cases h
    · rename_i hnot
      rw [not_or, not_not] at hnot
      rw [hok, hnot.2]
      decide
  · split at h
    · rename_i herror
      split at h
      · cases h
      · rename_i hnot
        rw [not_or, not_or, Bool.not_eq_false] at hnot
        refine ⟨?_, errorCode_length hnot.2.2⟩
        rw [herror]
        decide
    · cases h

private theorem uptime_size {result : UptimeResult} (h : validateUptime result = none) :
    result.json.size ≤ 207 := by
  obtain ⟨hstatus, herror⟩ := uptime_words h
  have hsize := Json.size_record_le result.fields
  have hword := quoted_le hstatus
  have hcounter := fieldSize_le (text "uptime_seconds") (counter_le result.uptimeSeconds)
  have hcode := fieldSize_le (text "error") (omitEmpty_le herror)
  have hnames : (text "status").length = 6 ∧ (text "uptime_seconds").length = 14 ∧
      (text "error").length = 5 := by decide
  rw [UptimeResult.fields] at hsize
  simp only [List.map_cons, List.map_nil, List.sum_cons, List.sum_nil, Json.fieldSize_some] at hsize
  rw [UptimeResult.json, UptimeResult.fields]
  omega

private theorem pair_size {result : PairResult} (h : validatePair result = none) :
    result.json.size ≤ 243 := by
  obtain ⟨hstatus, herror⟩ := pair_words h
  have hsize := Json.size_record_le result.fields
  have hword := quoted_le hstatus
  have htotal := fieldSize_le (text "total_bytes") (counter_le result.totalBytes)
  have havailable := fieldSize_le (text "available_bytes")
    (counter_le result.availableBytes)
  have hcode := fieldSize_le (text "error") (omitEmpty_le herror)
  have hnames : (text "status").length = 6 ∧ (text "total_bytes").length = 11 ∧
      (text "available_bytes").length = 15 ∧ (text "error").length = 5 := by decide
  rw [PairResult.fields] at hsize
  simp only [List.map_cons, List.map_nil, List.sum_cons, List.sum_nil, Json.fieldSize_some] at hsize
  rw [PairResult.json, PairResult.fields]
  omega

private theorem outcome_size {outcome : Bytes} (h : validOutcome outcome = true) :
    (Json.quoted true outcome).size ≤ 25 := by
  simp only [validOutcome, Bool.or_eq_true, decide_eq_true_eq] at h
  rcases h with ((rfl | rfl) | rfl) | rfl
  · decide
  · decide
  · decide
  · decide

private theorem reading_size {reading : ExternalReading} (hlow : 1 ≤ reading.probePort)
    (hhigh : reading.probePort ≤ 65535) (h : validOutcome reading.outcome = true) :
    reading.json.size ≤ 57 := by
  have houtcome := outcome_size h
  have hport : (Json.numeralInt reading.probePort).size ≤ 5 := by
    obtain ⟨port, hport⟩ := Int.eq_ofNat_of_zero_le (a := reading.probePort) (by omega)
    rw [hport]
    exact Json.size_numeral_le (w := 5) (n := port) (by decide) (by omega)
  have hsize := Json.size_record_le reading.fields
  have hnames : (text "probe_port").length = 10 ∧ (text "outcome").length = 7 := by decide
  rw [ExternalReading.fields] at hsize
  simp only [List.map_cons, List.map_nil, List.sum_cons, List.sum_nil, Json.fieldSize_some] at hsize
  rw [ExternalReading.json, ExternalReading.fields]
  omega

private theorem readings_size {previous : Int} {readings : List ExternalReading}
    (h : validateReadings previous readings = none) :
    ∀ reading ∈ readings, reading.json.size ≤ 57 := by
  induction readings generalizing previous with
  | nil => exact fun _ hr => absurd hr List.not_mem_nil
  | cons reading rest ih =>
      unfold validateReadings at h
      split at h
      · cases h
      · rename_i hrange
        split at h
        · cases h
        · split at h
          · cases h
          · rename_i houtcome
            intro other hother
            rcases List.mem_cons.1 hother with rfl | hrest
            · exact reading_size (by omega) (by omega) (Bool.not_eq_false _ |>.mp houtcome)
            · exact ih h other hrest

private theorem external_size {readings : List ExternalReading}
    (h : validateExternalReadings readings = none) :
    ∀ j ∈ omitNone ExternalReading.json readings, j.size ≤ 929 := by
  unfold validateExternalReadings at h
  split at h
  · cases h
  · rename_i hcount
    intro j hj
    unfold omitNone at hj
    split at hj
    · cases hj
    · rename_i hne
      have hone : ∀ n ∈ readings.map fun reading => reading.json.size + 1, n ≤ 58 := by
        intro n hn
        obtain ⟨reading, hreading, rfl⟩ := List.mem_map.1 hn
        exact Nat.succ_le_succ (readings_size h reading hreading)
      have hsum := List.sum_le_card_nsmul _ 58 hone
      rw [List.length_map, Nat.nsmul_eq_mul] at hsum
      rw [← Option.some.inj hj, Json.size_array _ fun hnil => hne (List.isEmpty_iff.2 hnil)]
      unfold maxExternalReadings at hcount
      omega

/-- An observation that carries no ranges fits into a message. -/
theorem bare_length {e : Envelope} (h : e.validate = none) (hbare : e.gaps = [])
    (hsequence : e.sequence < 2 ^ 64) (hobserved : e.observedAt.length ≤ 30) :
    e.json.render.length ≤ maxMessageBytes := by
  simp only [Envelope.validate, Option.or_eq_none_iff, named, Option.map_eq_none_iff] at h
  obtain ⟨hschema, hmachine, hversion, hprofile, -, -, huptime, hmemory, hrootFS, hexternal, -⟩ := h
  have hschema := of_decide_eq_true (refuseUnless_eq_none hschema)
  have hversion := of_decide_eq_true (refuseUnless_eq_none hversion)
  have hprofile := of_decide_eq_true (refuseUnless_eq_none hprofile)
  have hmachine : e.machineID.length ≤ 63 := by
    unfold validateMachineID at hmachine
    split at hmachine
    · cases hmachine
    · split at hmachine
      · cases hmachine
      · rename_i hpattern
        simp only [Bool.not_eq_false, machineIDPattern, Bool.and_eq_true, decide_eq_true_eq]
          at hpattern
        exact hpattern.1.1.2
  have hhealth : e.health.json.size ≤ 725 := by
    have hsize := Json.size_record_le e.health.fields
    have huptime := uptime_size huptime
    have hmemory := pair_size hmemory
    have hrootFS := pair_size hrootFS
    have hnames : (text "uptime").length = 6 ∧ (text "memory").length = 6 ∧
        (text "rootfs").length = 6 := by decide
    rw [HostHealth.fields] at hsize
    simp only [List.map_cons, List.map_nil, List.sum_cons, List.sum_nil, Json.fieldSize_some]
      at hsize
    rw [HostHealth.json, HostHealth.fields]
    omega
  have hexternal := fieldSize_le (text "external") (external_size hexternal)
  have hmachine := quoted_le hmachine
  have hobserved := quoted_le hobserved
  have hnumber : (Json.numeral e.sequence).size ≤ 20 :=
    Json.size_numeral_le (by decide) (by omega)
  have hconstants : (Json.numeralInt schemaVersion).size = 1 ∧
      (Json.quoted true daemonVersion).size = 8 ∧ (Json.quoted true profile).size = 16 := by
    decide
  have hnames : (text "schema_version").length = 14 ∧ (text "machine_id").length = 10 ∧
      (text "daemon_version").length = 14 ∧ (text "profile").length = 7 ∧
      (text "sequence").length = 8 ∧ (text "observed_at").length = 11 ∧
      (text "health").length = 6 ∧ (text "external").length = 8 := by decide
  have hnone : omitNone Gap.json e.gaps = none := by
    rw [hbare]
    rfl
  show e.json.size ≤ 4096
  rw [Envelope.json_size, Envelope.fields, hschema, hversion, hprofile, hnone]
  simp only [List.map_cons, List.map_nil, List.sum_cons, List.sum_nil, Json.fieldSize_some,
    Json.fieldSize_none]
  omega

end YourCloud.Observation
