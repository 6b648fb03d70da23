import YourCloud.Observation.Chain

/-!
# The ranges a Relay retains

The ranges of an accepted message cover what was skipped since the entry
before, cut wherever the sender cut it; the Relay joins the cuts and keeps the
result behind what it retained already.  Nothing that is retained touches what
comes next, for the sequence in between was received.

## Main results

* `mergeReceivedGaps_accepted` — the ranges of an accepted message are joined to
  one and put last.
* `Complement.maximal` — ranges that are apart and cover what is missing are the
  maximal intervals of it.
* `step_complement` — one message keeps the ranges those of what was never received.
* `retained_exactly` — so does any sequence of messages, and what is refused
  changes no entry.
-/

namespace YourCloud.Relay

open YourCloud.Foundation YourCloud.Observation

/-! ## Ranges that are apart -/

/-- Two ranges with a sequence between them. -/
def Before (left right : Gap) : Prop := left.lastSequence + 1 < right.firstSequence

/-- The ranges of an ordered list, those that touch merged. -/
def merged : List Gap → List Gap
  | [] => []
  | first :: rest => mergeInto first rest

private theorem eq_of_firstSequence {gaps : List Gap}
    (h : gaps.Pairwise fun left right => left.firstSequence < right.firstSequence) {a b : Gap}
    (ha : a ∈ gaps) (hb : b ∈ gaps) (hab : a.firstSequence = b.firstSequence) : a = b := by
  induction gaps with
  | nil => exact absurd ha List.not_mem_nil
  | cons gap rest ih =>
      obtain ⟨hgap, hrest⟩ := List.pairwise_cons.1 h
      rcases List.mem_cons.1 ha with rfl | hmem
      · rcases List.mem_cons.1 hb with rfl | hmem'
        · rfl
        · have := hgap b hmem'
          omega
      · rcases List.mem_cons.1 hb with rfl | hmem'
        · have := hgap a hmem
          omega
        · exact ih hrest hmem hmem'

/-- Where no two ranges start alike, any way of sorting them gives one order. -/
theorem mergeReceivedGaps_sorted {gaps sorted : List Gap} (hperm : gaps.Perm sorted)
    (hsorted : sorted.Pairwise fun left right => left.firstSequence < right.firstSequence) :
    mergeReceivedGaps gaps = merged sorted := by
  let le : Gap → Gap → Prop := fun left right => left.firstSequence ≤ right.firstSequence
  have hanti : ∀ a b : Gap, a ∈ gaps.insertionSort le → b ∈ sorted → le a b → le b a → a = b := by
    intro a b ha hb hab hba
    have ha : a ∈ sorted := ((List.perm_insertionSort le gaps).trans hperm).subset ha
    exact eq_of_firstSequence hsorted ha hb (le_antisymm hab hba)
  have hsort : gaps.insertionSort le = sorted :=
    List.Perm.eq_of_pairwise hanti (List.pairwise_insertionSort le gaps)
      (hsorted.imp fun h => h.le) ((List.perm_insertionSort le gaps).trans hperm)
  rw [mergeReceivedGaps, mergeGaps, hsort]
  cases sorted with
  | nil => rfl
  | cons first rest => rfl

/-- Ranges that are apart from each other and from what follows stay as they are. -/
theorem merged_append {before after : List Gap} (hbefore : before.Pairwise Before)
    (hafter : ∀ a ∈ before, ∀ b ∈ after, Before a b)
    (hbound : ∀ a ∈ before, a.lastSequence + 1 < 2 ^ 64) :
    merged (before ++ after) = before ++ merged after := by
  induction before with
  | nil => rfl
  | cons gap rest ih =>
      obtain ⟨hgap, hrest⟩ := List.pairwise_cons.1 hbefore
      have htail := ih hrest (fun a ha => hafter a (List.mem_cons_of_mem _ ha))
        fun a ha => hbound a (List.mem_cons_of_mem _ ha)
      have hapart : ∀ b ∈ rest ++ after, Before gap b := by
        intro b hb
        rcases List.mem_append.1 hb with hb | hb
        · exact hgap b hb
        · exact hafter gap List.mem_cons_self b hb
      rw [List.cons_append, List.cons_append, ← htail]
      cases hnext : rest ++ after with
      | nil => rfl
      | cons next later =>
          rw [hnext] at hapart
          have hlt : wrap (gap.lastSequence + 1) < next.firstSequence := by
            rw [wrap, Nat.mod_eq_of_lt (hbound gap List.mem_cons_self)]
            exact hapart next List.mem_cons_self
          show mergeInto gap (next :: later) = gap :: mergeInto next later
          rw [mergeInto, if_pos hlt]

/-! ## Ranges that follow each other -/

/-- The one range that pieces from one sequence to another make. -/
def joined (first last : Nat) : List Gap → List Gap
  | [] => []
  | gap :: rest =>
      [{ firstSequence := first
         lastSequence := last
         droppedCount := last - first + 1
         firstObservedAt := gap.firstObservedAt
         lastObservedAt := (rest.getLastD gap).lastObservedAt }]

/-- What the checks say of the pieces. -/
def Sized (last : Nat) (gap : Gap) : Prop :=
  0 < gap.firstSequence ∧ gap.firstSequence ≤ gap.lastSequence ∧ gap.lastSequence ≤ last ∧
    gap.droppedCount = gap.lastSequence - gap.firstSequence + 1

/-- Pieces that reach a sequence from one on are merged to one range. -/
theorem mergeInto_reach {last : Nat} (hlast : last + 1 < 2 ^ 64) {gap : Gap} {rest : List Gap}
    (hsized : ∀ g ∈ gap :: rest, Sized last g)
    (hreach : gapsReach last gap.firstSequence (gap :: rest) = true) :
    mergeInto gap rest = joined gap.firstSequence last (gap :: rest) := by
  induction rest generalizing gap with
  | nil =>
      obtain ⟨hpositive, hle, hend, hcount⟩ := hsized gap List.mem_cons_self
      rw [gapsReach, if_neg (by omega)] at hreach
      split at hreach
      · rename_i heq
        show [gap] = [_]
        rw [List.getLastD_nil, ← heq, ← hcount]
      · cases hreach
  | cons next rest ih =>
      obtain ⟨hpositive, hle, hend, hcount⟩ := hsized gap List.mem_cons_self
      obtain ⟨hpositive', hle', hend', hcount'⟩ :=
        hsized next (List.mem_cons_of_mem _ List.mem_cons_self)
      rw [gapsReach, if_neg (by omega)] at hreach
      split at hreach
      · cases hreach
      · rename_i hne
        have hwrap : wrap (gap.lastSequence + 1) = gap.lastSequence + 1 :=
          Nat.mod_eq_of_lt (by omega)
        rw [hwrap] at hreach
        have hstart : next.firstSequence = gap.lastSequence + 1 := by
          rw [gapsReach] at hreach
          split at hreach
          · cases hreach
          · omega
        let counted : Gap :=
          { gap with
            lastSequence := next.lastSequence
            lastObservedAt := next.lastObservedAt
            droppedCount := wrap (next.lastSequence + 2 ^ 64 - gap.firstSequence + 1) }
        have hmerge : mergeInto gap (next :: rest) = mergeInto counted rest := by
          rw [mergeInto, if_neg (by omega), if_pos (by omega)]
        have hcounted : Sized last counted := by
          refine ⟨hpositive, by show gap.firstSequence ≤ next.lastSequence; omega, hend', ?_⟩
          show wrap (next.lastSequence + 2 ^ 64 - gap.firstSequence + 1) =
            next.lastSequence - gap.firstSequence + 1
          unfold wrap
          omega
        have hsized' : ∀ g ∈ counted :: rest, Sized last g := by
          intro g hg
          rcases List.mem_cons.1 hg with rfl | hg
          · exact hcounted
          · exact hsized g (List.mem_cons_of_mem _ (List.mem_cons_of_mem _ hg))
        have hreach' : gapsReach last counted.firstSequence (counted :: rest) = true := by
          rw [gapsReach, if_neg (by omega)] at hreach
          rw [gapsReach, if_neg (by show ¬ (_ ≠ _ ∨ last < next.lastSequence); omega)]
          exact hreach
        rw [hmerge, ih hsized' hreach']
        cases rest with
        | nil => rfl
        | cons later rest => rfl

/-! ## The ranges of an accepted message -/

/-- Ranges that match what was skipped are pieces of it, and there are none
where nothing was skipped. -/
theorem matches_reach {gaps : List Gap} {first last : Nat}
    (h : gapsMatchSkippedRange gaps first last = true) :
    last < first ∧ gaps = [] ∨
      first ≤ last ∧ ∃ gap rest, gaps = gap :: rest ∧ gapsReach last first gaps = true := by
  unfold gapsMatchSkippedRange at h
  split at h
  · rename_i hlt
    exact .inl ⟨hlt, List.isEmpty_iff.1 h⟩
  · rename_i hle
    split at h
    · cases h
    · cases gaps with
      | nil => rename_i hempty; exact absurd rfl hempty
      | cons gap rest => exact .inr ⟨not_lt.1 hle, gap, rest, rfl, h⟩

theorem reach_first {gap : Gap} {rest : List Gap} {first last : Nat}
    (h : gapsReach last first (gap :: rest) = true) : gap.firstSequence = first := by
  rw [gapsReach] at h
  split at h
  · cases h
  · omega

/-- Pieces that follow each other are in order. -/
theorem reach_sorted {gaps : List Gap} {first last : Nat} (hlast : last + 1 < 2 ^ 64)
    (hsized : ∀ g ∈ gaps, Sized last g) (h : gapsReach last first gaps = true) :
    gaps.Pairwise (fun left right => left.firstSequence < right.firstSequence) ∧
      ∀ g ∈ gaps, first ≤ g.firstSequence := by
  induction gaps generalizing first with
  | nil => cases h
  | cons gap rest ih =>
      obtain ⟨hpositive, hle, hend, -⟩ := hsized gap List.mem_cons_self
      have hfirst := reach_first h
      rw [gapsReach, if_neg (by omega)] at h
      split at h
      · have hnil : rest = [] := List.isEmpty_iff.1 h
        subst hnil
        refine ⟨List.pairwise_singleton _ _, fun g hg => ?_⟩
        rw [List.mem_singleton.1 hg]
        omega
      · have hwrap : wrap (gap.lastSequence + 1) = gap.lastSequence + 1 :=
          Nat.mod_eq_of_lt (by omega)
        rw [hwrap] at h
        obtain ⟨hsorted, hlow⟩ := ih (fun g hg => hsized g (List.mem_cons_of_mem _ hg)) h
        refine ⟨List.pairwise_cons.2 ⟨fun g hg => ?_, hsorted⟩, fun g hg => ?_⟩
        · have := hlow g hg
          omega
        · rcases List.mem_cons.1 hg with rfl | hg
          · omega
          · have := hlow g hg
            omega

theorem joined_of_lt {first last : Nat} {gaps : List Gap} (hlast : last + 1 < 2 ^ 64)
    (hsized : ∀ g ∈ gaps, Sized last g) (h : gapsMatchSkippedRange gaps first last = true) :
    merged gaps = joined first last gaps := by
  rcases matches_reach h with ⟨-, rfl⟩ | ⟨-, gap, rest, rfl, hreach⟩
  · rfl
  · have hfirst := reach_first hreach
    subst hfirst
    exact mergeInto_reach hlast hsized hreach

/-- The pieces of an accepted message are joined, and come last. -/
theorem mergeReceivedGaps_accepted {known pieces : List Gap} {first last : Nat}
    (hlast : last + 1 < 2 ^ 64) (hfirst : first ≤ last + 1) (hknown : known.Pairwise Before)
    (hends : ∀ g ∈ known, g.firstSequence ≤ g.lastSequence ∧ g.lastSequence + 1 < first)
    (hsized : ∀ g ∈ pieces, Sized last g)
    (hmatches : gapsMatchSkippedRange pieces first last = true) :
    mergeReceivedGaps (pieces ++ known) = known ++ joined first last pieces := by
  have hpieces : pieces.Pairwise (fun left right => left.firstSequence < right.firstSequence) ∧
      ∀ g ∈ pieces, first ≤ g.firstSequence := by
    rcases matches_reach hmatches with ⟨-, rfl⟩ | ⟨-, -, -, -, hreach⟩
    · exact ⟨List.Pairwise.nil, fun g hg => absurd hg List.not_mem_nil⟩
    · exact reach_sorted hlast hsized hreach
  have hbefore : ∀ a ∈ known, ∀ b ∈ pieces, Before a b := by
    intro a ha b hb
    have hend := (hends a ha).2
    have hlow := hpieces.2 b hb
    unfold Before
    omega
  have hsorted : (known ++ pieces).Pairwise
      fun left right => left.firstSequence < right.firstSequence := by
    apply List.pairwise_append.2
    refine ⟨?_, hpieces.1, fun a ha b hb => ?_⟩
    · apply hknown.imp_of_mem
      intro a b ha _ hab
      have hle := (hends a ha).1
      unfold Before at hab
      omega
    · have hle := (hends a ha).1
      have hab := hbefore a ha b hb
      unfold Before at hab
      omega
  rw [mergeReceivedGaps_sorted List.perm_append_comm hsorted, merged_append hknown hbefore,
    joined_of_lt hlast hsized hmatches]
  intro a ha
  have hend := (hends a ha).2
  omega

/-! ## What was never received -/

/-- Ranges that are apart, count what they cover, and cover exactly what was
not received up to a sequence. -/
structure Complement (received : Nat → Prop) (upTo : Nat) (gaps : List Gap) : Prop where
  apart : gaps.Pairwise Before
  counted : ∀ gap ∈ gaps, gap.firstSequence ≤ gap.lastSequence ∧ gap.Counted
  exact : ∀ n, (∃ gap ∈ gaps, gap.covers n = true) ↔ 1 ≤ n ∧ n ≤ upTo ∧ ¬ received n

theorem covers_iff {gap : Gap} {n : Nat} :
    gap.covers n = true ↔ gap.firstSequence ≤ n ∧ n ≤ gap.lastSequence := by
  rw [Gap.covers, Bool.and_eq_true, decide_eq_true_eq, decide_eq_true_eq]

/-- An interval of what is missing that cannot be made longer. -/
structure Maximal (missing : Nat → Prop) (first last : Nat) : Prop where
  le : first ≤ last
  within : ∀ n, first ≤ n → n ≤ last → missing n
  after : ¬ missing (last + 1)
  before : ∀ n, n + 1 = first → ¬ missing n

theorem apart_cases {gaps : List Gap} (h : gaps.Pairwise Before) {a b : Gap} (ha : a ∈ gaps)
    (hb : b ∈ gaps) : a = b ∨ Before a b ∨ Before b a := by
  induction gaps with
  | nil => exact absurd ha List.not_mem_nil
  | cons gap rest ih =>
      obtain ⟨hgap, hrest⟩ := List.pairwise_cons.1 h
      rcases List.mem_cons.1 ha with rfl | hmem
      · rcases List.mem_cons.1 hb with rfl | hmem'
        · exact .inl rfl
        · exact .inr (.inl (hgap b hmem'))
      · rcases List.mem_cons.1 hb with rfl | hmem'
        · exact .inr (.inr (hgap a hmem))
        · exact ih hrest hmem hmem'

section Maximal

variable {received : Nat → Prop} {upTo : Nat} {gaps : List Gap}

/-- Two neighbours are covered by one range. -/
theorem Complement.neighbours (h : Complement received upTo gaps) {a b : Gap} (ha : a ∈ gaps)
    (hb : b ∈ gaps) {n : Nat} (hn : a.covers n = true) (hn' : b.covers (n + 1) = true) : a = b := by
  rw [covers_iff] at hn hn'
  rcases apart_cases h.apart ha hb with hab | hab | hab
  · exact hab
  · unfold Before at hab
    omega
  · unfold Before at hab
    omega

/-- The ranges are the maximal intervals of what is missing. -/
theorem Complement.maximal (h : Complement received upTo gaps) (first last : Nat) :
    (∃ gap ∈ gaps, gap.firstSequence = first ∧ gap.lastSequence = last) ↔
      Maximal (fun n => 1 ≤ n ∧ n ≤ upTo ∧ ¬ received n) first last := by
  constructor
  · rintro ⟨gap, hgap, rfl, rfl⟩
    have hle := (h.counted gap hgap).1
    refine ⟨hle, fun n hlow hhigh => ?_, fun hafter => ?_, fun n hn hbefore => ?_⟩
    · exact (h.exact n).1 ⟨gap, hgap, covers_iff.2 ⟨hlow, hhigh⟩⟩
    · obtain ⟨next, hnext, hcovers⟩ := (h.exact _).2 hafter
      have heq := h.neighbours hgap hnext (covers_iff.2 ⟨hle, le_refl _⟩) hcovers
      have := (covers_iff.1 hcovers).2
      rw [← heq] at this
      omega
    · obtain ⟨previous, hprevious, hcovers⟩ := (h.exact _).2 hbefore
      have hfirst : gap.covers (n + 1) = true := covers_iff.2 ⟨by omega, by omega⟩
      have heq := h.neighbours hprevious hgap hcovers hfirst
      have := (covers_iff.1 hcovers).1
      rw [heq] at this
      omega
  · rintro ⟨hle, hwithin, hafter, hbefore⟩
    obtain ⟨gap, hgap, hcovers⟩ := (h.exact first).2 (hwithin first (le_refl _) hle)
    -- The range that covers the first sequence covers the interval, by induction along it.
    have hall : ∀ k, first + k ≤ last → gap.covers (first + k) = true := by
      intro k
      induction k with
      | zero => exact fun _ => hcovers
      | succ k ih =>
          intro hk
          have hk' := ih (by omega)
          obtain ⟨next, hnext, hcovers'⟩ := (h.exact (first + k + 1)).2 (hwithin _ (by omega) hk)
          rw [h.neighbours hgap hnext hk' hcovers']
          exact hcovers'
    have hend := hall (last - first) (by omega)
    rw [Nat.add_sub_cancel' hle] at hend
    rw [covers_iff] at hcovers hend
    refine ⟨gap, hgap, ?_, ?_⟩
    · by_contra hne
      have hpositive : first = first - 1 + 1 := by omega
      apply hbefore (first - 1) hpositive.symm
      exact (h.exact _).1 ⟨gap, hgap, covers_iff.2 ⟨by omega, by omega⟩⟩
    · by_contra hne
      apply hafter
      exact (h.exact _).1 ⟨gap, hgap, covers_iff.2 ⟨by omega, by omega⟩⟩

end Maximal

theorem joined_mem {gaps : List Gap} {first last : Nat}
    (h : gapsMatchSkippedRange gaps first last = true) :
    (last < first ∧ joined first last gaps = []) ∨
      first ≤ last ∧ ∃ gap, joined first last gaps = [gap] ∧ gap.firstSequence = first ∧
        gap.lastSequence = last ∧ gap.Counted := by
  rcases matches_reach h with ⟨hlt, rfl⟩ | ⟨hle, gap, rest, rfl, -⟩
  · exact .inl ⟨hlt, rfl⟩
  · exact .inr ⟨hle, _, rfl, rfl, rfl, rfl⟩

/-- A message after what was received, with the pieces of what it skipped. -/
theorem Complement.accept {received : Nat → Prop} {upTo sequence : Nat} {known pieces : List Gap}
    (h : Complement received upTo known) (hbound : ∀ n, received n → n ≤ upTo)
    (hupTo : upTo = 0 ∨ received upTo) (hlater : upTo < sequence)
    (hmatches : gapsMatchSkippedRange pieces (upTo + 1) (sequence - 1) = true) :
    Complement (fun n => received n ∨ n = sequence) sequence
      (known ++ joined (upTo + 1) (sequence - 1) pieces) := by
  -- What is known ends before the last sequence received.
  have hends : ∀ gap ∈ known, gap.lastSequence + 1 < upTo + 1 := by
    intro gap hgap
    have hcovers := covers_iff.2 ⟨(h.counted gap hgap).1, le_refl _⟩
    obtain ⟨hlow, hhigh, hnot⟩ := (h.exact gap.lastSequence).1 ⟨gap, hgap, hcovers⟩
    rcases hupTo with hzero | hreceived
    · omega
    · have hne : gap.lastSequence ≠ upTo := fun heq => hnot (heq ▸ hreceived)
      omega
  have hexact : ∀ n, (∃ gap ∈ joined (upTo + 1) (sequence - 1) pieces, gap.covers n = true) ↔
      upTo < n ∧ n < sequence := by
    intro n
    rcases joined_mem hmatches with ⟨hlt, hnil⟩ | ⟨hle, gap, hone, hfirst, hlast, -⟩
    · rw [hnil]
      constructor
      · rintro ⟨gap, hgap, -⟩
        exact absurd hgap List.not_mem_nil
      · intro hn
        omega
    · rw [hone]
      constructor
      · rintro ⟨other, hother, hcovers⟩
        rw [List.mem_singleton.1 hother, covers_iff] at hcovers
        omega
      · intro hn
        exact ⟨gap, List.mem_singleton_self gap, covers_iff.2 ⟨by omega, by omega⟩⟩
  constructor
  · apply List.pairwise_append.2
    refine ⟨h.apart, ?_, fun a ha b hb => ?_⟩
    · rcases joined_mem hmatches with ⟨-, hnil⟩ | ⟨-, gap, hone, -⟩
      · rw [hnil]
        exact List.Pairwise.nil
      · rw [hone]
        exact List.pairwise_singleton _ _
    · have hend := hends a ha
      rcases joined_mem hmatches with ⟨-, hnil⟩ | ⟨-, gap, hone, hfirst, -⟩
      · rw [hnil] at hb
        exact absurd hb List.not_mem_nil
      · rw [hone, List.mem_singleton] at hb
        subst hb
        unfold Before
        omega
  · intro gap hgap
    rcases List.mem_append.1 hgap with hgap | hgap
    · exact h.counted gap hgap
    · rcases joined_mem hmatches with ⟨-, hnil⟩ | ⟨hle, other, hone, hfirst, hlast, hcounted⟩
      · rw [hnil] at hgap
        exact absurd hgap List.not_mem_nil
      · rw [hone, List.mem_singleton] at hgap
        subst hgap
        exact ⟨by omega, hcounted⟩
  · intro n
    have hmem : (∃ gap ∈ known ++ joined (upTo + 1) (sequence - 1) pieces, gap.covers n = true) ↔
        (∃ gap ∈ known, gap.covers n = true) ∨
          ∃ gap ∈ joined (upTo + 1) (sequence - 1) pieces, gap.covers n = true := by
      simp only [List.mem_append, or_and_right, exists_or]
    rw [hmem, h.exact, hexact]
    constructor
    · rintro (⟨hlow, hhigh, hnot⟩ | ⟨hlow, hhigh⟩)
      · exact ⟨hlow, by omega, fun hor => hor.elim hnot (by omega)⟩
      · refine ⟨by omega, hhigh.le, fun hor => hor.elim (fun hreceived => ?_) (by omega)⟩
        have := hbound n hreceived
        omega
    · rintro ⟨hlow, hhigh, hnot⟩
      rw [not_or] at hnot
      by_cases hle : n ≤ upTo
      · exact .inl ⟨hlow, hle, hnot.1⟩
      · exact .inr ⟨by omega, by omega⟩

/-! ## Pieces observed in order -/

/-- Whether one text is an instant that is not after that of another. -/
def inOrder (first last : Bytes) : Bool :=
  match Rfc3339.parse first, Rfc3339.parse last with
  | some first, some last => first ≤ last
  | _, _ => false

/-- Whether the first of some pieces was not observed after the last one was. -/
def observedInOrder : List Gap → Bool
  | [] => true
  | gap :: rest => inOrder gap.firstObservedAt (rest.getLastD gap).lastObservedAt

theorem inOrder_iff {first last : Bytes} :
    inOrder first last = true ↔
      ∃ t u, Rfc3339.parse first = some t ∧ Rfc3339.parse last = some u ∧ t ≤ u := by
  unfold inOrder
  split
  · rename_i t u ht hu
    rw [decide_eq_true_eq]
    constructor
    · exact fun hle => ⟨t, u, ht, hu, hle⟩
    · rintro ⟨t', u', ht', hu', hle⟩
      rw [Option.some.inj (ht.symm.trans ht'), Option.some.inj (hu.symm.trans hu')]
      exact hle
  · rename_i hnone
    constructor
    · exact fun h => nomatch h
    · rintro ⟨t, u, ht, hu, -⟩
      exact absurd hu (hnone t u ht)

/-- The joined range passes the check of a range where its pieces were observed
in order. -/
theorem joined_validate {first last : Nat} {gaps : List Gap} (hfirst : 0 < first)
    (hlast : last + 1 < 2 ^ 64) (hmatches : gapsMatchSkippedRange gaps first last = true)
    (hordered : observedInOrder gaps = true) :
    ∀ gap ∈ joined first last gaps, gap.validate = none := by
  rcases matches_reach hmatches with ⟨-, rfl⟩ | ⟨hle, gap, rest, rfl, -⟩
  · exact fun gap hgap => absurd hgap List.not_mem_nil
  · intro other hother
    rw [List.mem_singleton.1 hother, Gap.validate, if_neg (by dsimp only; omega),
      if_neg (by dsimp only; omega)]
    obtain ⟨t, u, ht, hu, hle'⟩ := inOrder_iff.1 hordered
    rw [Gap.interval]
    dsimp only
    rw [ht, hu]
    exact if_neg (not_lt.2 hle')

/-! ## Messages -/

/-- A message under a certificate, and whether the state file could be written. -/
structure Message where
  machine : Bytes
  encoded : Bytes
  receivedAt : Instant
  published : Bool
  deriving DecidableEq, Repr

/-- One message arrives. -/
def step (store : ObservationStore) (message : Message) :
    ObservationStore × Except Refusal (Envelope × Bool) :=
  ((save message.machine message.encoded message.receivedAt message.published store).2,
    (save message.machine message.encoded message.receivedAt message.published store).1)

/-- No machine has an entry. -/
def empty : ObservationStore := fun _ => none

/-- A message that may be new is later than the entry. -/
theorem compareSequence_later {encoded : Bytes} {e : Envelope}
    {entry : Option StoredObservation} (hdecode : decode encoded = .ok e)
    (h : compareSequence e encoded entry = .ok false) : lastStored entry < e.sequence := by
  cases entry with
  | none => exact Nat.pos_of_ne_zero (sequence_of_validate (decode_ok hdecode).1)
  | some current =>
      show current.sequence < e.sequence
      rw [compareSequence] at h
      split at h
      · split at h
        · cases h
        · cases h
      · split at h
        · cases h
        · omega

/-- What a message meets: a refusal, the entry it made before, or a new entry. -/
theorem save_outcome (machine encoded : Bytes) (receivedAt : Instant) (published : Bool)
    (store : ObservationStore) :
    (∃ refusal, save machine encoded receivedAt published store = (.error refusal, store)) ∨
      (∃ e current, decode encoded = .ok e ∧ store machine = some current ∧
        e.sequence = current.sequence ∧
        save machine encoded receivedAt published store = (.ok (e, true), store)) ∨
      ∃ e, decode encoded = .ok e ∧ e.machineID = machine ∧ published = true ∧
        Stores (store machine) e ∧
        save machine encoded receivedAt published store =
          (.ok (e, false), fun other =>
            if other = machine then some (received encoded receivedAt e (store machine))
            else store other) := by
  unfold save
  split
  · exact .inl ⟨_, rfl⟩
  · rename_i e hdecode
    split
    · exact .inl ⟨_, rfl⟩
    · rename_i hmachine
      dsimp only
      split
      · exact .inl ⟨_, rfl⟩
      · rename_i hcompare
        cases hstore : store machine with
        | none =>
            rw [hstore] at hcompare
            cases hcompare
        | some current =>
            rw [hstore, compareSequence] at hcompare
            split at hcompare
            · rename_i heq
              exact .inr (.inl ⟨e, current, hdecode, rfl, heq, rfl⟩)
            · split at hcompare
              · cases hcompare
              · cases hcompare
      · rename_i hcompare
        split
        · exact .inl ⟨_, rfl⟩
        · rename_i hmatches
          split
          · exact .inl ⟨_, rfl⟩
          · rename_i hpublished
            refine .inr (.inr ⟨e, hdecode, not_not.1 hmachine, Bool.not_eq_false _ |>.mp hpublished,
              ⟨compareSequence_later hdecode hcompare, Bool.not_eq_false _ |>.mp hmatches⟩, rfl⟩)

/-! ## The entry of a machine -/

/-- The ranges an entry retains. -/
def retained (entry : Option StoredObservation) : List Gap :=
  (entry.map StoredObservation.gaps).getD []

/-- An entry beside the sequences that were received for it. -/
structure Kept (received : Nat → Prop) (entry : Option StoredObservation) : Prop where
  complement : Complement received (lastStored entry) (retained entry)
  bound : ∀ n, received n → 1 ≤ n ∧ n ≤ lastStored entry
  last : lastStored entry = 0 ∨ received (lastStored entry)
  fits : lastStored entry < 2 ^ 64
  /-- An entry was received. -/
  positive : ∀ stored ∈ entry, 0 < stored.sequence

theorem firstSkipped_eq {entry : Option StoredObservation} (h : lastStored entry + 1 < 2 ^ 64) :
    firstSkipped entry = lastStored entry + 1 := by
  cases entry with
  | none => rfl
  | some stored => exact Nat.mod_eq_of_lt h

theorem sized_of_decode {encoded : Bytes} {e : Envelope} (h : decode encoded = .ok e) :
    ∀ gap ∈ e.gaps, Sized (e.sequence - 1) gap := by
  obtain ⟨hvalid, hsequence⟩ := decode_ok h
  intro gap hgap
  obtain ⟨hgapvalid, hlast⟩ := gaps_of_validate hvalid gap hgap
  obtain ⟨hpositive, hle, hcount, -⟩ := Gap.validate_ok hgapvalid
  exact ⟨hpositive, hle, by omega, by omega⟩

/-- The ranges of a new entry are those of the old one and the joined pieces. -/
theorem received_gaps {received : Nat → Prop} {entry : Option StoredObservation}
    (h : Kept received entry) {encoded : Bytes} {e : Envelope} (hdecode : decode encoded = .ok e)
    (hstores : Stores entry e) (receivedAt : Instant) :
    gapsMatchSkippedRange e.gaps (lastStored entry + 1) (e.sequence - 1) = true ∧
      (Observation.received encoded receivedAt e entry).gaps =
        retained entry ++ joined (lastStored entry + 1) (e.sequence - 1) e.gaps := by
  obtain ⟨hlater, hmatches⟩ := hstores
  have hsequence := (decode_ok hdecode).2
  rw [firstSkipped_eq (by omega)] at hmatches
  refine ⟨hmatches, ?_⟩
  apply mergeReceivedGaps_accepted (by omega) (by omega) h.complement.apart _
    (sized_of_decode hdecode) hmatches
  intro gap hgap
  have hle := (h.complement.counted gap hgap).1
  obtain ⟨hlow, hhigh, hnot⟩ :=
    (h.complement.exact gap.lastSequence).1 ⟨gap, hgap, covers_iff.2 ⟨hle, le_refl _⟩⟩
  refine ⟨hle, ?_⟩
  rcases h.last with hzero | hlast
  · omega
  · have hne : gap.lastSequence ≠ lastStored entry := fun heq => hnot (heq ▸ hlast)
    omega

theorem Kept.accept {received : Nat → Prop} {entry : Option StoredObservation}
    (h : Kept received entry) {encoded : Bytes} {e : Envelope} (hdecode : decode encoded = .ok e)
    (hstores : Stores entry e) (receivedAt : Instant) :
    Kept (fun n => received n ∨ n = e.sequence)
      (some (Observation.received encoded receivedAt e entry)) := by
  obtain ⟨hmatches, hgaps⟩ := received_gaps h hdecode hstores receivedAt
  have hlater : lastStored entry < e.sequence := hstores.1
  constructor
  · show Complement _ e.sequence (Observation.received encoded receivedAt e entry).gaps
    rw [hgaps]
    exact h.complement.accept (fun n hn => (h.bound n hn).2) h.last hlater hmatches
  · intro n hn
    show 1 ≤ n ∧ n ≤ e.sequence
    rcases hn with hn | rfl
    · have := h.bound n hn
      omega
    · omega
  · exact .inr (.inr rfl)
  · exact (decode_ok hdecode).2
  · intro stored hstored
    rw [← Option.some.inj hstored]
    show 0 < e.sequence
    omega

/-- The entry of a machine that has none. -/
theorem kept_none : Kept (fun _ => False) none where
  complement :=
    { apart := List.Pairwise.nil
      counted := fun gap hgap => absurd hgap List.not_mem_nil
      exact := fun n => by
        constructor
        · rintro ⟨gap, hgap, -⟩
          exact absurd hgap List.not_mem_nil
        · rintro ⟨hlow, hhigh, -⟩
          have hzero : n ≤ 0 := hhigh
          omega }
  bound := fun n hn => hn.elim
  last := .inl rfl
  fits := by decide
  positive := fun stored hstored => nomatch hstored

/-! ## Any sequence of messages -/

/-- The Relay acknowledged a sequence of a machine. -/
def Received (messages : List (Message × Except Refusal (Envelope × Bool))) (machine : Bytes)
    (n : Nat) : Prop :=
  ∃ message e replay, (message, .ok (e, replay)) ∈ messages ∧ message.machine = machine ∧
    e.sequence = n

theorem received_append {messages : List (Message × Except Refusal (Envelope × Bool))}
    {message : Message} {result : Except Refusal (Envelope × Bool)} {machine : Bytes} {n : Nat} :
    Received (messages ++ [(message, result)]) machine n ↔
      Received messages machine n ∨
        ∃ e replay, result = .ok (e, replay) ∧ message.machine = machine ∧ e.sequence = n := by
  constructor
  · rintro ⟨message', e, replay, hmem, hmachine, hn⟩
    rcases List.mem_append.1 hmem with hmem | hmem
    · exact .inl ⟨message', e, replay, hmem, hmachine, hn⟩
    · obtain ⟨rfl, hresult⟩ := Prod.mk.inj (List.mem_singleton.1 hmem)
      exact .inr ⟨e, replay, hresult.symm, hmachine, hn⟩
  · rintro (⟨message', e, replay, hmem, hmachine, hn⟩ | ⟨e, replay, rfl, hmachine, hn⟩)
    · exact ⟨message', e, replay, List.mem_append_left _ hmem, hmachine, hn⟩
    · exact ⟨message, e, replay, List.mem_append_right _ List.mem_cons_self, hmachine, hn⟩

theorem Kept.congr {received received' : Nat → Prop} {entry : Option StoredObservation}
    (h : Kept received entry) (hiff : ∀ n, received' n ↔ received n) : Kept received' entry := by
  have heq : received' = received := funext fun n => propext (hiff n)
  rw [heq]
  exact h

/-- One message keeps the ranges of every entry. -/
theorem step_kept {messages : List (Message × Except Refusal (Envelope × Bool))}
    {store : ObservationStore}
    (h : ∀ machine, Kept (Received messages machine) (store machine)) (message : Message) :
    ∀ machine, Kept (Received (messages ++ [(message, answer step store message)]) machine)
      (next step store message machine) := by
  intro machine
  unfold next answer step
  dsimp only
  rcases save_outcome message.machine message.encoded message.receivedAt message.published store with
    ⟨refusal, hsave⟩ | ⟨e, current, hdecode, hcurrent, hsequence, hsave⟩ |
    ⟨e, hdecode, -, -, hstores, hsave⟩
  · rw [hsave]
    apply (h machine).congr
    intro n
    rw [received_append]
    constructor
    · rintro (hold | ⟨e, replay, hresult, -⟩)
      · exact hold
      · cases hresult
    · exact .inl
  · rw [hsave]
    apply (h machine).congr
    intro n
    rw [received_append]
    constructor
    · rintro (hold | ⟨e', replay, hresult, rfl, rfl⟩)
      · exact hold
      · -- A replay was received when its entry was made.
        obtain ⟨rfl, -⟩ := Prod.mk.inj (Except.ok.inj hresult)
        have hkept := h message.machine
        rw [hcurrent] at hkept
        rw [hsequence]
        have hpositive := hkept.positive current rfl
        rcases hkept.last with hzero | hlast
        · have hzero : current.sequence = 0 := hzero
          omega
        · exact hlast
    · exact .inl
  · rw [hsave]
    by_cases heq : machine = message.machine
    · subst heq
      dsimp only
      rw [if_pos rfl]
      apply ((h message.machine).accept hdecode hstores message.receivedAt).congr
      intro n
      rw [received_append]
      constructor
      · rintro (hold | ⟨e', replay, hresult, -, rfl⟩)
        · exact .inl hold
        · obtain ⟨rfl, -⟩ := Prod.mk.inj (Except.ok.inj hresult)
          exact .inr rfl
      · rintro (hold | rfl)
        · exact .inl hold
        · exact .inr ⟨e, false, rfl, rfl, rfl⟩
    · dsimp only
      rw [if_neg heq]
      apply (h machine).congr
      intro n
      rw [received_append]
      constructor
      · rintro (hold | ⟨-, -, -, hmachine, -⟩)
        · exact hold
        · exact absurd hmachine.symm heq
      · exact .inl

/-- After any sequence of messages from an empty store. -/
theorem run_kept (messages : List Message) (machine : Bytes) :
    Kept (Received (history step empty messages) machine) (run step empty messages machine) := by
  have hstart : ∀ machine, Kept (Received [] machine) (empty machine) := by
    intro machine
    apply kept_none.congr
    intro n
    constructor
    · rintro ⟨_, _, _, hmem, _⟩
      exact absurd hmem List.not_mem_nil
    · exact False.elim
  have hstep : ∀ h s message, (∀ machine, Kept (Received h machine) (s machine)) →
      ∀ machine, Kept (Received (h ++ [(message, answer step s message)]) machine)
        (next step s message machine) := fun _ _ message hs => step_kept hs message
  exact history_invariant hstep hstart messages machine

/-- What is refused changes no entry. -/
theorem refused_unchanged {store : ObservationStore} {message : Message} {refusal : Refusal}
    (h : answer step store message = .error refusal) : next step store message = store := by
  unfold answer step at h
  unfold next step
  dsimp only at h ⊢
  rcases save_outcome message.machine message.encoded message.receivedAt message.published store with
    ⟨_, hsave⟩ | ⟨e, current, -, -, -, hsave⟩ | ⟨e, -, -, -, -, hsave⟩
  · rw [hsave]
  · rw [hsave]
  · rw [hsave] at h
    cases h

/-- The ranges retained for a machine are the maximal intervals of what was
never received, in order, each counting what it covers; and a message that is
refused, or whose write failed, leaves every entry as it was. -/
theorem retained_exactly (messages : List Message) :
    (∀ machine stored, run step empty messages machine = some stored →
      (∀ first last,
        (∃ gap ∈ stored.gaps, gap.firstSequence = first ∧ gap.lastSequence = last) ↔
          Maximal (fun n => 1 ≤ n ∧ n ≤ stored.sequence ∧
            ¬ Received (history step empty messages) machine n) first last) ∧
      stored.gaps.Pairwise (fun left right => left.lastSequence + 1 < right.firstSequence) ∧
      ∀ gap ∈ stored.gaps,
        gap.droppedCount = gap.lastSequence - gap.firstSequence + 1) ∧
    (∀ machine, run step empty messages machine = none →
      ∀ n, ¬ Received (history step empty messages) machine n) ∧
    ∀ message,
      (∀ refusal, answer step (run step empty messages) message = .error refusal →
        next step (run step empty messages) message = run step empty messages) ∧
      ∀ machine, machine ≠ message.machine →
        next step (run step empty messages) message machine = run step empty messages machine := by
  refine ⟨fun machine stored hstored => ?_, fun machine hnone n hreceived => ?_, fun message => ?_⟩
  · have hkept := run_kept messages machine
    rw [hstored] at hkept
    exact ⟨hkept.complement.maximal, hkept.complement.apart,
      fun gap hgap => (hkept.complement.counted gap hgap).2⟩
  · have hkept := run_kept messages machine
    rw [hnone] at hkept
    obtain ⟨hlow, hhigh⟩ := hkept.bound n hreceived
    have hzero : n ≤ 0 := hhigh
    omega
  · exact ⟨fun refusal h => refused_unchanged h, fun machine hne =>
      save_other message.encoded message.receivedAt message.published _ hne⟩

namespace Sample

open Observation.Sample

/-- A message of sequence three whose sender cut what it skipped in two. -/
def third : Envelope :=
  { schemaVersion, machineID := machine, daemonVersion, profile, sequence := 3,
    observedAt := text "2026-01-01T00:00:30Z", health,
    gaps := [single 1 (text "2026-01-01T00:00:00Z"), single 2 (text "2026-01-01T00:00:10Z")],
    external := [] }

/-- The same message with its second piece observed at a time of one's choice. -/
def thirdAt (observedAt : Bytes) : Envelope :=
  { third with
    gaps := [single 1 (text "2026-01-01T00:00:10Z"), single 2 observedAt] }

def messages : List Message :=
  [{ machine, encoded := third.json.render, receivedAt := now, published := true }]

end Sample

open Sample Observation.Sample in
/-- The two pieces are one range. -/
theorem third_retained :
    ∃ stored, run step empty messages machine = some stored ∧
      stored.gaps.map (fun gap => (gap.firstSequence, gap.lastSequence)) = [(1, 2)] ∧
      Maximal (fun n => 1 ≤ n ∧ n ≤ stored.sequence ∧
        ¬ Received (history step empty messages) machine n) 1 2 := by
  have hrun : ∃ stored ∈ run step empty messages machine,
      stored.gaps.map (fun gap => (gap.firstSequence, gap.lastSequence)) = [(1, 2)] := by
    decide +kernel
  obtain ⟨stored, hstored, hgaps⟩ := hrun
  refine ⟨stored, hstored, hgaps, ?_⟩
  apply (((retained_exactly messages).1 machine stored hstored).1 1 2).1
  have hmem : (1, 2) ∈ stored.gaps.map (fun gap => (gap.firstSequence, gap.lastSequence)) := by
    rw [hgaps]
    exact List.mem_cons_self
  obtain ⟨gap, hgap, heq⟩ := List.mem_map.1 hmem
  obtain ⟨hfirst, hlast⟩ := Prod.mk.inj heq
  exact ⟨gap, hgap, hfirst, hlast⟩

end YourCloud.Relay
