import YourCloud.Auxiliary.Routes
import YourCloud.Auxiliary.Texts
import YourCloud.Plan.Agreement

/-!
# The two kinds of route

A name is served by this machine or through the passage, and both kinds of route share
one fragment for it.  Which kind a fragment is of is read off the backend it names, and
the backend of the one kind is nowhere in a fragment of the other.

## Main results

* `serves_render` — the kind that is read off a rendered fragment.
-/

namespace YourCloud.Auxiliary

open YourCloud.Foundation

inductive RouteKind where
  | service
  | passage
  deriving DecidableEq, Repr

namespace RouteKind

/-- Where the backends of a kind are reached. -/
def address : RouteKind → Bytes
  | service => entrypointHostLoopbackAddress
  | passage => linkInitiatorAddress

/-- `fragmentBackendMarker` -/
def marker (kind : RouteKind) : Bytes := text "- url: \"http://" ++ kind.address ++ text ":"

def render : RouteKind → Bytes → Int64 → Bytes
  | service => renderRouteFragment
  | passage => renderLinkRouteFragment

/-- A fragment names a backend of the kind. -/
def serves (kind : RouteKind) (content : Bytes) : Bool := contains content kind.marker

end RouteKind

theorem render_eq (kind : RouteKind) (host : Bytes) (port : Int64) :
    kind.render host port =
      renderFragment host kind.address port (kind = .service) := by
  cases kind with
  | service => rfl
  | passage => rfl

/-! ## What is read off a rendered fragment -/

abbrev colon : UInt8 := 0x3A

abbrev quotation : UInt8 := 0x22

/-- The line that names the backend. -/
def backendLine (kind : RouteKind) (port : Int64) : Bytes :=
  text "          - url: \"http://" ++ kind.address ++ text ":" ++ numeral port ++ text "\""

theorem host_colon {host : Bytes} (h : Plan.canonicalRouteHost host = true) : colon ∉ host := by
  simp only [Plan.canonicalRouteHost, Bool.and_eq_true, List.all_eq_true] at h
  intro hmem
  have hbyte := h.1.1.2 colon hmem
  exact absurd hbyte (by decide)

theorem marker_colons (kind : RouteKind) : kind.marker.count colon = 3 := by
  cases kind with
  | service => decide
  | passage => decide

/-- The backend's line, or one with too few colons for a backend. -/
def Ordinary (kind : RouteKind) (port : Int64) (line : Bytes) : Prop :=
  line = backendLine kind port ∨ line.count colon ≤ 1

theorem ordinary_given {kind : RouteKind} {port : Int64} {ls : List Bytes} (isolated : Bool)
    (h : ∀ line ∈ ls, Ordinary kind port line) :
    ∀ line ∈ (if isolated = true then ls else []), Ordinary kind port line := by
  cases isolated with
  | true => exact h
  | false => simp

theorem render_lines {host : Bytes} (h : Plan.canonicalRouteHost host = true) (kind : RouteKind)
    (port : Int64) :
    ∃ ls, kind.render host port = lines ls ∧ backendLine kind port ∈ ls ∧
      ∀ line ∈ ls, Ordinary kind port line := by
  have hhost : host.count colon = 0 := List.count_eq_zero_of_not_mem (host_colon h)
  have hwritten : ∀ line ∈ writtenFromPlan, line.count colon ≤ 1 := by decide
  have hnone : ∀ line ∈ ([] : List Bytes), Ordinary kind port line := by simp
  refine ⟨_, render_eq kind host port, by simp [backendLine], ?_⟩
  simp only [List.forall_mem_append]
  refine ⟨⟨⟨⟨⟨fun line hline => Or.inr (hwritten line hline), ?_⟩, ordinary_given _ ?_⟩, ?_⟩,
    ordinary_given _ ?_⟩, ?_⟩
  -- The name adds no colon to a line: what is left to count are literals.
  all_goals simp only [List.forall_mem_cons, Ordinary, quoted, List.count_append, hhost]
  all_goals and_intros
  all_goals first
    | exact hnone
    | exact Or.inr (by decide)
    | exact Or.inl rfl

theorem address_colon (kind : RouteKind) : colon ∉ kind.address := by
  cases kind with
  | service => decide
  | passage => decide

theorem address_quotation (kind : RouteKind) : quotation ∉ kind.address := by
  cases kind with
  | service => decide
  | passage => decide

theorem address_injective {kind other : RouteKind} (h : kind.address = other.address) :
    kind = other := by
  have hapart : RouteKind.service.address ≠ RouteKind.passage.address := by decide
  cases kind with
  | service =>
      cases other with
      | service => rfl
      | passage => exact absurd h hapart
  | passage =>
      cases other with
      | service => exact absurd h.symm hapart
      | passage => rfl

/-- The line of a backend names its own kind alone. -/
theorem marker_backendLine (other kind : RouteKind) (port : Int64) :
    other.marker <:+: backendLine kind port ↔ other = kind := by
  have hcolon : colon ∉ numeral port := numeral_not_mem (by decide) (by decide)
  have hquotation : quotation ∉ text "http://" ++ kind.address ++ text ":" ++ numeral port := by
    have hscheme : quotation ∉ text "http://" := by decide
    have hport : quotation ∉ numeral port := numeral_not_mem (by decide) (by decide)
    have hpoint : quotation ∉ text ":" := by decide
    simp [hscheme, address_quotation kind, hport, hpoint]
  constructor
  · intro hfound
    -- A marker does not end with the quotation that ends the line.
    have hend : backendLine kind port = (text "          - url: " ++ quotation ::
        (text "http://" ++ kind.address ++ text ":" ++ numeral port)) ++ [quotation] := rfl
    rw [hend, List.infix_concat_iff] at hfound
    cases hfound with
    | inl hlast =>
        obtain ⟨before, hlast⟩ := hlast
        have hsame := congrArg List.getLast? hlast
        rw [RouteKind.marker, show text ":" = [colon] from rfl, ← List.append_assoc,
          List.getLast?_concat, List.getLast?_concat] at hsame
        exact absurd hsame (by decide)
    | inr hinside =>
        obtain ⟨before, after, hinside⟩ := hinside
        -- So the only quotation of a marker is the one that opens the address.
        have hopened : text "          - url: " ++ quotation ::
              (text "http://" ++ kind.address ++ text ":" ++ numeral port) =
            (before ++ text "- url: ") ++ quotation ::
              (text "http://" ++ other.address ++ text ":" ++ after) := by
          rw [← hinside, RouteKind.marker]
          simp only [List.append_assoc]
          rfl
        have hopening : quotation ∉ text "          - url: " := by decide
        obtain ⟨-, -, haddress⟩ := (List.append_cons_inj_of_notMem hopening hquotation).1 hopened
        rw [List.append_assoc, List.append_assoc, List.append_assoc, List.append_assoc,
          List.append_cancel_left_eq] at haddress
        obtain ⟨haddress, -, -⟩ :=
          (List.append_cons_inj_of_notMem (address_colon kind) hcolon).1 haddress
        exact (address_injective haddress).symm
  · rintro rfl
    refine ⟨text "          ", numeral port ++ text "\"", ?_⟩
    rw [RouteKind.marker, backendLine]
    simp only [← List.append_assoc]
    rfl

/-- The kind that is read off a rendered fragment is the kind that was rendered. -/
theorem serves_render {host : Bytes} (h : Plan.canonicalRouteHost host = true)
    (other kind : RouteKind) (port : Int64) :
    other.serves (kind.render host port) = true ↔ other = kind := by
  obtain ⟨ls, hlines, hbackend, hfew⟩ := render_lines h kind port
  have hline : 0x0A ∉ other.marker := by
    cases other with
    | service => decide
    | passage => decide
  have hsome : other.marker ≠ [] := by
    intro hnone
    have hcount := marker_colons other
    rw [hnone] at hcount
    cases hcount
  rw [RouteKind.serves, hlines, contains_lines hline hsome, ← marker_backendLine other kind port]
  constructor
  · rintro ⟨line, hmem, hfound⟩
    cases hfew line hmem with
    | inl hsame => rwa [hsame] at hfound
    | inr hone =>
        have hcount := hfound.count_le colon
        rw [marker_colons] at hcount
        omega
  · intro hfound
    exact ⟨_, hbackend, hfound⟩

end YourCloud.Auxiliary
