import Transit.Hafas.Journeys
import Transit.Proofs.Hafas.Client

/-! # Resolution of places

There are candidates only for a place that was given by its name alone, and then there is a choice
between them. A search is ambiguous when one of its places is.
-/
namespace Transit.Hafas.Client

variable {σ : Type} {c : Client} {backend : Backend σ} {q : TripsQuery} {s t : σ} {l : Location}
  {found origin destination : Resolution} {via : Option Resolution}

/-- The candidates for a place are none, or there is a choice for a place that is only named. -/
def Choices (place : Option Location) (candidates : List Location) : Prop :=
  candidates = [] ∨ 2 ≤ candidates.length ∧ ∃ l, place = some l ∧ l.kind = .any

/-- If this is ambiguous, then there is a choice for a place that is only named. -/
def Resolution.Offers (found : Resolution) (place : Option Location) : Prop :=
  ∀ candidates, found = .ambiguous candidates →
    2 ≤ candidates.length ∧ ∃ l, place = some l ∧ l.kind = .any

theorem Resolution.Offers.choices {place : Option Location} (h : found.Offers place) :
    Choices place found.candidates := by
  cases found with
  | unique l => exact .inl rfl
  | ambiguous candidates => exact .inr (h candidates rfl)
  | unknown => exact .inl rfl

theorem Resolution.Offers.ne_nil {place : Option Location} {candidates : List Location}
    (h : found.Offers place) (hfound : found = .ambiguous candidates) : candidates ≠ [] :=
  List.ne_nil_of_length_pos (Nat.lt_of_lt_of_le Nat.two_pos (h candidates hfound).1)

theorem choose_ambiguous {name : String} {locations choices : List Location}
    (h : choose name locations = .ambiguous choices) : 2 ≤ choices.length := by
  rw [choose.eq_def] at h
  split at h
  · cases h
  · cases h
  · cases h
  · rename_i hempty hsingle _
    cases h
    match choices with
    | [] => exact (hempty rfl).elim
    | [l] => exact (hsingle l rfl).elim
    | _ :: _ :: rest => exact Nat.le_add_left 2 rest.length

theorem resolve_offers (h : c.resolve backend l s = (.ok found, t)) : found.Offers (some l) := by
  rintro candidates rfl
  rw [resolve] at h
  split at h
  · cases h
  · rename_i hnamed
    split at h
    · cases h
    · obtain ⟨locations, t', -, hchoose⟩ := Fetched.bind_eq_ok h
      have hkind : l.isUnresolved = true := by simpa using hnamed
      exact ⟨choose_ambiguous (Except.ok.inj (Prod.mk.inj hchoose).1), l, rfl,
        of_decide_eq_true hkind⟩

theorem resolveVia_offers {place : Option Location}
    (h : c.resolveVia backend place s = (.ok via, t)) (hvia : via = some found) :
    found.Offers place := by
  subst hvia
  cases place with
  | none => cases h
  | some l =>
    obtain ⟨found', t', hfound, hvia⟩ := Fetched.bind_eq_ok h
    cases hvia
    exact resolve_offers hfound

theorem combine_unknown {status : TripsStatus}
    (h : combine origin via destination = .unknown status) :
    status ≠ .ok ∧ status ≠ .ambiguous := by
  rw [combine.eq_def] at h
  split at h <;> cases h <;> exact ⟨nofun, nofun⟩

/-- Places are ambiguous when one of them is. -/
theorem combine_ambiguous {os vs ds : List Location}
    (h : combine origin via destination = .ambiguous os vs ds) :
    os = origin.candidates ∧ vs = (via.map Resolution.candidates).getD [] ∧
      ds = destination.candidates ∧
      (origin = .ambiguous os ∨ via = some (.ambiguous vs) ∨ destination = .ambiguous ds) := by
  rcases origin with o | os' | _ <;> rcases via with _ | (v | vs' | _) <;>
    rcases destination with d | ds' | _ <;> cases h <;> simp [Resolution.candidates]

theorem resolveEndpoints_eq_ok {endpoints : Endpoints}
    (h : c.resolveEndpoints backend q s = (.ok endpoints, t)) :
    ∃ origin via destination, endpoints = combine origin via destination ∧
      (∃ t, c.resolve backend q.origin s = (.ok origin, t)) ∧
      (∃ s t, c.resolveVia backend q.via s = (.ok via, t)) ∧
      ∃ s t, c.resolve backend q.destination s = (.ok destination, t) := by
  obtain ⟨origin, t, horigin, h⟩ := Fetched.bind_eq_ok h
  obtain ⟨via, t', hvia, h⟩ := Fetched.bind_eq_ok h
  obtain ⟨destination, t'', hdestination, h⟩ := Fetched.bind_eq_ok h
  cases h
  exact ⟨origin, via, destination, rfl, ⟨t, horigin⟩, ⟨t, t', hvia⟩, t', _, hdestination⟩

theorem resolveEndpoints_unknown {status : TripsStatus}
    (h : c.resolveEndpoints backend q s = (.ok (.unknown status), t)) :
    status ≠ .ok ∧ status ≠ .ambiguous := by
  obtain ⟨origin, via, destination, hcombine, -⟩ := resolveEndpoints_eq_ok h
  exact combine_unknown hcombine.symm

/-- An ambiguous search offers a choice for one of its places at least. -/
theorem resolveEndpoints_ambiguous {os vs ds : List Location}
    (h : c.resolveEndpoints backend q s = (.ok (.ambiguous os vs ds), t)) :
    Choices (some q.origin) os ∧ Choices q.via vs ∧ Choices (some q.destination) ds ∧
      (os ≠ [] ∨ vs ≠ [] ∨ ds ≠ []) := by
  obtain ⟨origin, via, destination, hcombine, ⟨_, horigin⟩, ⟨_, _, hvia⟩, _, _, hdestination⟩ :=
    resolveEndpoints_eq_ok h
  obtain ⟨rfl, rfl, rfl, hone⟩ := combine_ambiguous hcombine.symm
  refine ⟨(resolve_offers horigin).choices, ?_, (resolve_offers hdestination).choices, ?_⟩
  · cases via with
    | none => exact .inl rfl
    | some found => exact (resolveVia_offers hvia rfl).choices
  · rcases hone with horigin' | hvia' | hdestination'
    · exact .inl ((resolve_offers horigin).ne_nil horigin')
    · exact .inr (.inl ((resolveVia_offers hvia hvia').ne_nil rfl))
    · exact .inr (.inr ((resolve_offers hdestination).ne_nil hdestination'))

end Transit.Hafas.Client
