import Transit.Proofs.Hafas.Journeys
import Transit.Proofs.Sameness

/-! # What comes with a status

A result carries what its status announces, and nothing else.
-/
namespace Transit

namespace TripsResult

/-- A context comes with a good result, trips with no other, candidates with an ambiguous one. -/
structure Coherent (r : TripsResult) : Prop where
  good : r.status = .ok → r.context.isSome
  other : r.status ≠ .ok → r.trips = [] ∧ r.context = none
  decided : r.status ≠ .ambiguous →
    r.ambiguousFrom = [] ∧ r.ambiguousVia = [] ∧ r.ambiguousTo = []

variable {r : TripsResult}

theorem coherent_of_ok (hok : r.status = .ok) (hcontext : r.context.isSome)
    (hdecided : r.ambiguousFrom = [] ∧ r.ambiguousVia = [] ∧ r.ambiguousTo = []) : r.Coherent :=
  ⟨fun _ => hcontext, fun hbad => absurd hok hbad, fun _ => hdecided⟩

theorem coherent_bare (header : ResultHeader) {status : TripsStatus} (h : status ≠ .ok) :
    (bare header status).Coherent :=
  ⟨fun hok => absurd hok h, fun _ => ⟨rfl, rfl⟩, fun _ => ⟨rfl, rfl, rfl⟩⟩

theorem coherent_ambiguous (header : ResultHeader) (origin via destination : List Location) :
    (ambiguous header origin via destination).Coherent where
  good hok := by cases hok
  other _ := ⟨rfl, rfl⟩
  decided hdecided := absurd rfl hdecided

theorem Coherent.withWindow (h : r.Coherent) (window : Option DepartureWindow) :
    (r.withWindow window).Coherent where
  good hok := by
    rw [context_withWindow, Option.isSome_map]
    exact h.good hok
  other hbad := by
    obtain ⟨htrips, hcontext⟩ := h.other hbad
    rw [context_withWindow, hcontext]
    exact ⟨htrips, rfl⟩
  decided := h.decided

theorem Coherent.advance (h : r.Coherent) (window : Option DepartureWindow) (d : Direction) :
    (Provider.advance window d r).Coherent := by
  rw [Provider.advance]
  split
  · rename_i hok
    have htrips : TripsResult.Coherent { r with trips := beyond window d r.trips } :=
      ⟨h.good, fun hbad => absurd hok hbad, h.decided⟩
    exact htrips.withWindow _
  · exact h

end TripsResult

namespace Hafas.Client

variable {σ : Type} {c : Client} {backend : Backend σ} {q : TripsQuery} {context : TripsContext}
  {d : Direction} {s s' : σ} {r : TripsResult}

/-- What a first search tells of its places and its trips. -/
structure Tells (q : TripsQuery) (r : TripsResult) : Prop where
  coherent : r.Coherent
  trips : r.status = .ok → r.trips ≠ [] ∧ PairwiseDistinct r.trips
  ambiguous : r.status = .ambiguous →
    r.ambiguousFrom ≠ [] ∨ r.ambiguousVia ≠ [] ∨ r.ambiguousTo ≠ []
  origin : Choices (some q.origin) r.ambiguousFrom
  via : Choices q.via r.ambiguousVia
  destination : Choices (some q.destination) r.ambiguousTo

theorem tells_bare (q : TripsQuery) (header : ResultHeader) {status : TripsStatus}
    (hok : status ≠ .ok) (hambiguous : status ≠ .ambiguous) : Tells q (.bare header status) :=
  ⟨TripsResult.coherent_bare header hok, fun h => absurd h hok, fun h => absurd h hambiguous,
    .inl rfl, .inl rfl, .inl rfl⟩

theorem trips_of_journeys {params : Params} {page : JourneyPage}
    (h : c.journeys backend params s = (.ok page, s')) : PairwiseDistinct page.trips := by
  rw [journeys_eq] at h
  cases hfetch : (c.fetchAs backend JourneysAnswer.ofJson? ["journeys"] params s).1 with
  | error e =>
    rw [hfetch] at h
    cases h
  | ok found =>
    rw [hfetch] at h
    cases h
    exact distinct_pairwise _

theorem tells_opening (q : TripsQuery) (params : Params) (origin : Location) (via : Option Location)
    (destination : Location) {page : JourneyPage} (h : PairwiseDistinct page.trips) :
    Tells q (opening params origin via destination page) := by
  by_cases hempty : page.trips = []
  · have hbare : opening params origin via destination page = .bare page.header .noTrips := by
      rw [opening, hempty]
      rfl
    rw [hbare]
    exact tells_bare q page.header (by decide) (by decide)
  · rw [opening, if_neg (by rwa [List.isEmpty_iff])]
    refine ⟨TripsResult.coherent_of_ok rfl rfl ⟨rfl, rfl, rfl⟩, fun _ => ⟨hempty, h⟩, ?_, .inl rfl,
      .inl rfl, .inl rfl⟩
    intro hambiguous
    cases hambiguous

theorem requestTrips_tells (h : c.requestTrips backend q s = (.ok r, s')) : Tells q r := by
  have hsearch := requestTrips_searched c backend q s
  rw [h] at hsearch
  cases hsearch with
  | unresolved places => exact tells_bare q _ (by decide) (by decide)
  | unknown places =>
    obtain ⟨hok, hambiguous⟩ := resolveEndpoints_unknown places
    exact tells_bare q _ hok hambiguous
  | ambiguous places =>
    obtain ⟨horigin, hvia, hdestination, hone⟩ := resolveEndpoints_ambiguous places
    refine ⟨TripsResult.coherent_ambiguous _ _ _ _, ?_, fun _ => hone, horigin, hvia, hdestination⟩
    intro hok
    cases hok
  | failed places checked request =>
    exact tells_bare q _ (failureStatus_ne_ok _)
      (ne_of_mem_of_not_mem (failureStatus_mem _) (by decide))
  | answered places checked request => exact tells_opening q _ _ _ _ (trips_of_journeys request)

theorem queryTrips_tells (h : (c.provider backend).queryTrips q s = (.ok r, s')) : Tells q r := by
  obtain ⟨raw, hraw, rfl⟩ := Provider.queryTrips_eq_ok h
  have htells : Tells q raw := requestTrips_tells hraw
  exact { htells with coherent := htells.coherent.withWindow _ }

theorem turned_coherent (c : Client) (token : JourneyToken) (d : Direction)
    (page : Except Error JourneyPage) : (c.turned token d page).Coherent := by
  cases page with
  | error e => exact TripsResult.coherent_bare _ (failureStatus_ne_ok e)
  | ok page => exact TripsResult.coherent_of_ok rfl rfl ⟨rfl, rfl, rfl⟩

theorem turned_status (c : Client) (token : JourneyToken) (d : Direction)
    (page : Except Error JourneyPage) : (c.turned token d page).status ∈ .ok :: failures := by
  cases page with
  | error e => exact .tail _ (failureStatus_mem e)
  | ok page => exact .head _

theorem queryMoreTrips_coherent
    (h : (c.provider backend).queryMoreTrips context d s = (.ok r, s')) :
    r.Coherent ∧ r.status ∈ .ok :: failures := by
  obtain ⟨raw, hraw, rfl⟩ := Provider.queryMoreTrips_eq_ok h
  have hcontinued := requestMoreTrips_continued c backend context d s
  rw [show c.requestMoreTrips backend context d s = _ from hraw] at hcontinued
  rw [Provider.status_advance]
  cases hcontinued with
  | sent decoded referred request =>
    exact ⟨(turned_coherent c _ d _).advance _ _, turned_status c _ d _⟩

theorem boardsResult_boards (c : Client) (q : DeparturesQuery)
    (answer : Except Error DeparturesAnswer) (hbad : (c.boardsResult q answer).status ≠ .ok) :
    (c.boardsResult q answer).boards = [] := by
  cases answer with
  | ok answer => exact absurd rfl hbad
  | error e =>
    rw [boardsResult]
    split <;> rfl

theorem queryDepartures_boards {q : DeparturesQuery} {r : DeparturesResult}
    (h : c.queryDepartures backend q s = (.ok r, s')) (hbad : r.status ≠ .ok) : r.boards = [] := by
  rw [queryDepartures] at h
  cases hvalid : q.validate with
  | error e =>
    rw [hvalid] at h
    cases h
  | ok =>
    rw [hvalid] at h
    obtain rfl := Except.ok.inj (Prod.mk.inj h).1
    exact boardsResult_boards c q _ hbad

theorem queryNearby_locations {q : NearbyQuery} {r : NearbyResult}
    (h : c.queryNearby backend q s = (.ok r, s')) (hbad : r.status ≠ .ok) : r.locations = [] := by
  rw [queryNearby] at h
  cases hvalid : q.validate with
  | error e =>
    rw [hvalid] at h
    cases h
  | ok =>
    rw [hvalid] at h
    rcases hnearby : c.nearby backend q s with ⟨found, t⟩
    simp only [bind, StateT.bind, hnearby] at h
    rcases found with e | (_ | locations)
    · cases h
    · cases h
      rfl
    · cases h
      exact absurd rfl hbad

/-- What a result carries is what its status announces, in every state of every backend: a good
search has distinct trips and a context, an ambiguous one a choice for some place that was only
named, and any other result is bare. A continuation is never ambiguous, and none of its places is
unknown. -/
theorem payloads_match (c : Client) (backend : Backend σ) (s : σ) :
    (∀ q r s', (c.provider backend).queryTrips q s = (.ok r, s') → Tells q r) ∧
    (∀ context d r s', (c.provider backend).queryMoreTrips context d s = (.ok r, s') →
      r.Coherent ∧ r.status ∉ [.ambiguous, .unknownFrom, .unknownVia, .unknownTo]) ∧
    (∀ q r s', (c.provider backend).queryDepartures q s = (.ok r, s') → r.status ≠ .ok →
      r.boards = []) ∧
    (∀ q r s', (c.provider backend).queryNearby q s = (.ok r, s') → r.status ≠ .ok →
      r.locations = []) := by
  refine ⟨fun q r s' h => queryTrips_tells h, ?_, fun q r s' h => queryDepartures_boards h,
    fun q r s' h => queryNearby_locations h⟩
  intro context d r s' h
  obtain ⟨hcoherent, hstatus⟩ := queryMoreTrips_coherent h
  have hdisjoint : ∀ status ∈ .ok :: failures,
      status ∉ [TripsStatus.ambiguous, .unknownFrom, .unknownVia, .unknownTo] := by decide
  exact ⟨hcoherent, hdisjoint r.status hstatus⟩

/-- Knows nothing that it is asked for. -/
def absentBackend : Backend Unit := fun url =>
  return Answer.response 404 none url (some (Json.obj []).compact)

/-- Knows two stops by each name. -/
def namesakesBackend : Backend Unit := fun url =>
  return Answer.response 200 none url (some (Json.arr [
    .obj [("type", .str "stop"), ("id", .str "1")],
    .obj [("type", .str "stop"), ("id", .str "2")]]).compact)

def namedQuery : TripsQuery := { TripsQuery.walk with origin := .any "Station" }

/-- Somewhere in a session that can go on later. -/
def namedContext : TripsContext := (JourneyToken.mk [] none (some "after")).toContext

theorem named_payloads_match :
    (∃ r, (walkClient.provider namesakesBackend).queryTrips namedQuery () = (.ok r, ()) ∧
      r.status = .ambiguous ∧ Tells namedQuery r) ∧
    (∃ r, (walkClient.provider absentBackend).queryMoreTrips namedContext .later () = (.ok r, ()) ∧
      r.status = .noTrips ∧ r.Coherent) ∧
    (∃ r, (walkClient.provider absentBackend).queryDepartures ⟨"1", none, 0, false⟩ () =
      (.ok r, ()) ∧ r.status ≠ .ok ∧ r.boards = []) ∧
    ∃ r, (walkClient.provider absentBackend).queryNearby ⟨.station "1", .stations, 0, 0⟩ () =
      (.ok r, ()) ∧ r.status ≠ .ok ∧ r.locations = [] := by
  have htrips : ((walkClient.provider namesakesBackend).queryTrips namedQuery ()).1.toOption.map
      TripsResult.status = some .ambiguous := by decide +kernel
  have hmore : ((walkClient.provider absentBackend).queryMoreTrips namedContext
      .later ()).1.toOption.map TripsResult.status = some .noTrips := by decide +kernel
  have hboards : ((walkClient.provider absentBackend).queryDepartures
      ⟨"1", none, 0, false⟩ ()).1.toOption.map DeparturesResult.status =
        some .invalidStation := by decide +kernel
  have hnearby : ((walkClient.provider absentBackend).queryNearby
      ⟨.station "1", .stations, 0, 0⟩ ()).1.toOption.map NearbyResult.status =
        some .invalidId := by decide +kernel
  obtain ⟨trips, htrips, hambiguous⟩ := exists_result htrips
  obtain ⟨more, hmore, hnone⟩ := exists_result hmore
  obtain ⟨boards, hboards, hstation⟩ := exists_result hboards
  obtain ⟨nearby, hnearby, hid⟩ := exists_result hnearby
  obtain ⟨-, hcontinued, hdepartures, haround⟩ := payloads_match walkClient absentBackend ()
  have hstation' : boards.status ≠ .ok := by
    rw [hstation]
    decide
  have hid' : nearby.status ≠ .ok := by
    rw [hid]
    decide
  obtain ⟨htells, -, -, -⟩ := payloads_match walkClient namesakesBackend ()
  exact ⟨⟨trips, htrips, hambiguous, htells _ _ _ htrips⟩,
    ⟨more, hmore, hnone, (hcontinued _ _ _ _ hmore).1⟩,
    ⟨boards, hboards, hstation', hdepartures _ _ _ hboards hstation'⟩,
    nearby, hnearby, hid', haround _ _ _ hnearby hid'⟩

end Hafas.Client

end Transit
