import Transit.Proofs.Distinct
import Transit.Proofs.Hafas.Convert
import Transit.Proofs.Hafas.Payload

/-! # Trips that survive their text

Every trip in a result, of a first page or of a further one, was read from some record of the
backend. What was built from such a record is written and read back without a change.
-/
namespace Transit

variable {σ : Type} {t : Trip}

theorem mem_of_beyond {window : Option DepartureWindow} {d : Direction} {trips : List Trip}
    (h : t ∈ beyond window d trips) : t ∈ trips := by
  cases window with
  | none => exact h
  | some w => exact (List.mem_filter.mp h).1

namespace Provider

/-- A trip is in some result of a provider, in whatever state that was asked. -/
inductive Gives (p : Provider σ) (t : Trip) : Prop
  | requested {q : TripsQuery} {s s' : σ} {r : TripsResult}
    (result : p.requestTrips q s = (.ok r, s')) (mem : t ∈ r.trips)
  | requestedMore {context : TripsContext} {d : Direction} {s s' : σ} {r : TripsResult}
    (result : p.requestMoreTrips context d s = (.ok r, s')) (mem : t ∈ r.trips)
  | first {q : TripsQuery} {s s' : σ} {r : TripsResult}
    (result : p.queryTrips q s = (.ok r, s')) (mem : t ∈ r.trips)
  | further {context : TripsContext} {d : Direction} {s s' : σ} {r : TripsResult}
    (result : p.queryMoreTrips context d s = (.ok r, s')) (mem : t ∈ r.trips)

theorem mem_of_advance {window : Option DepartureWindow} {d : Direction} {r : TripsResult}
    (h : t ∈ (advance window d r).trips) : t ∈ r.trips := by
  rw [advance] at h
  split at h
  · exact mem_of_beyond h
  · exact h

end Provider

namespace Hafas.Client

variable {c : Client} {backend : Backend σ} {s s' : σ} {r : TripsResult}

/-- The trips of a page are those that can be read from its records. -/
theorem read_of_journeys {params : Params} {page : JourneyPage}
    (h : c.journeys backend params s = (.ok page, s')) (ht : t ∈ page.trips) :
    ∃ j, tripOf? j = some t := by
  rw [journeys_eq] at h
  rcases hfetch : c.fetchAs backend JourneysAnswer.ofJson? ["journeys"] params s with ⟨found, s''⟩
  rw [hfetch] at h
  cases found with
  | error e => cases h
  | ok found =>
    cases h
    obtain ⟨j, -, hj⟩ := List.mem_filterMap.mp ((distinct_sublist _).mem ht)
    exact ⟨j, hj⟩

theorem read_of_requestTrips {q : TripsQuery} (h : c.requestTrips backend q s = (.ok r, s'))
    (ht : t ∈ r.trips) : ∃ j, tripOf? j = some t := by
  have hsearch := requestTrips_searched c backend q s
  rw [h] at hsearch
  cases hsearch with
  | unresolved places => cases ht
  | unknown places => cases ht
  | ambiguous places => cases ht
  | failed places checked request => cases ht
  | answered places checked request =>
    rw [opening] at ht
    split at ht
    · cases ht
    · exact read_of_journeys request ht

theorem read_of_requestMoreTrips {context : TripsContext} {d : Direction}
    (h : c.requestMoreTrips backend context d s = (.ok r, s')) (ht : t ∈ r.trips) :
    ∃ j, tripOf? j = some t := by
  have hcontinued := requestMoreTrips_continued c backend context d s
  rw [h] at hcontinued
  cases hcontinued with
  | @sent token reference page _ decoded referred request =>
    cases page with
    | error e => cases ht
    | ok page => exact read_of_journeys request ht

/-- Whatever trip is in a result, the backend has a record of it. -/
theorem read_of_gives (h : (c.provider backend).Gives t) : ∃ j, tripOf? j = some t := by
  cases h with
  | requested result mem => exact read_of_requestTrips result mem
  | requestedMore result mem => exact read_of_requestMoreTrips result mem
  | first result mem =>
    obtain ⟨raw, hraw, rfl⟩ := Provider.queryTrips_eq_ok result
    exact read_of_requestTrips hraw mem
  | further result mem =>
    obtain ⟨raw, hraw, rfl⟩ := Provider.queryMoreTrips_eq_ok result
    exact read_of_requestMoreTrips hraw (Provider.mem_of_advance mem)

/-- So it is well formed, and its legs are read back. -/
theorem readable_of_gives (h : (c.provider backend).Gives t) :
    t.WellFormed ∧ ∀ l ∈ t.legs, l.Fits := by
  obtain ⟨j, hj⟩ := read_of_gives h
  exact of_tripOf? hj

/-- Every trip in a result is the one that is read from its own text, whatever the backend answers;
and every trip that is read from a text, whatever that is, is well formed. -/
theorem trips_survive_text (c : Client) (backend : Backend σ) :
    (∀ t, (c.provider backend).Gives t →
      (Json.ofText? t.toJson.compact).bind Trip.ofJson? = some t) ∧
    ∀ text t, (Json.ofText? text).bind Trip.ofJson? = some t → t.WellFormed := by
  refine ⟨fun t hgives => ?_, fun text t hread => ?_⟩
  · obtain ⟨hwell, hfits⟩ := readable_of_gives hgives
    exact Trip.ofText_compact hwell hfits
  · obtain ⟨j, -, htrip⟩ := Option.bind_eq_some_iff.mp hread
    exact Trip.wellFormed_of_ofJson? htrip

/-- Gives the same kind of answer in every state. -/
def answering (answer : Url → Answer) : Backend Unit := fun url => return answer url

/-- All trips of a page are given when that page is sent. -/
theorem gives_of_pageIn (answer : Url → Answer) :
    ∃ url, ∀ page, walkClient.pageIn (answer url) = .ok page →
      ∀ t ∈ page.trips, (walkClient.provider (answering answer)).Gives t := by
  obtain ⟨url, hurl⟩ : ∃ url, walkClient.endpoint ["journeys"] = .ok url := ⟨_, rfl⟩
  refine ⟨url.withParams [referenceParam .later "after"], fun page hpage t ht => ?_⟩
  have htoken : JourneyToken.ofContext namedContext = .ok ⟨[], none, some "after"⟩ :=
    JourneyToken.ofContext_of_token rfl
  have hrequest : (walkClient.provider (answering answer)).requestMoreTrips namedContext .later () =
      _ := requestMoreTrips_referred htoken rfl ()
  have hjourneys : walkClient.journeys (answering answer) [referenceParam .later "after"] () =
      (walkClient.pageIn (answer (url.withParams [referenceParam .later "after"])), ()) :=
    journeys_sent hurl [referenceParam .later "after"] ()
  rw [List.nil_append, hjourneys, hpage] at hrequest
  exact .requestedMore hrequest ht

/-- A page with one ride, which is late: to a stop with an empty name, on a line with a badge, with a
cancelled stop on the way and an empty warning. -/
def ridePage : Json :=
  .obj [("journeys", .arr [.obj [("legs", .arr [.obj [
    ("origin", .obj [("type", .str "stop"), ("id", .str "1")]),
    ("destination", .obj [("type", .str "stop"), ("id", .str "3"), ("name", .str "")]),
    ("plannedDeparture", .str "1970-01-01T00:00:00Z"),
    ("departure", .str "1970-01-01T00:01:00Z"), ("departureDelay", .int 60),
    ("departurePlatform", .str "2"), ("plannedArrival", .str "1970-01-01T01:00:00Z"),
    ("line", .obj [("name", .str "S1"), ("mode", .str "train"),
      ("color", .obj [("bg", .str "#000000"), ("fg", .str "#ffffff")])]),
    ("direction", .str ""),
    ("stopovers", .arr [
      .obj [("stop", .obj [("type", .str "stop"), ("id", .str "1")])],
      .obj [("stop", .obj [("type", .str "stop"), ("id", .str "2")]), ("cancelled", .bool true)],
      .obj [("stop", .obj [("type", .str "stop"), ("id", .str "3")])]]),
    ("remarks", .arr [.obj [("type", .str "warning"), ("text", .str "")]])]])]])]

def rideAnswer (url : Url) : Answer := .response 200 none url (some ridePage.compact)

def rideBackend : Backend Unit := fun url => return rideAnswer url

/-- Where a ride is bound for, and which of its inner stops are cancelled. -/
def bound (l : PublicLeg) : Option String × List Bool :=
  (l.destination, l.intermediateStops.map Stop.arrivalCancelled)

/-- The page is the same from any address. -/
theorem rideAnswer_page (url : Url) :
    ∃ page, walkClient.pageIn (rideAnswer url) = .ok page ∧
      page.trips.map (fun t => t.rides.map bound) = [[(some "", [true])]] := by
  have hplain : ridePage.isPlain 0 = true := by decide +kernel
  have hrides : (JourneysAnswer.ofJson? ridePage).map (fun answer =>
      (tripsOf answer.journeys).map fun t => t.rides.map bound) = some [[(some "", [true])]] := by
    decide +kernel
  obtain ⟨answer, hanswer, hrides⟩ := Option.map_eq_some_iff.mp hrides
  refine ⟨walkClient.pageOf url answer, ?_, hrides⟩
  rw [pageIn, rideAnswer, ridePage, reading_compact _ _ hplain hanswer]
  rfl

/-- Empty texts come back as empty texts. -/
theorem ride_survives_text :
    ∃ t, (walkClient.provider rideBackend).Gives t ∧ t.rides.map bound = [(some "", [true])] ∧
      (Json.ofText? t.toJson.compact).bind Trip.ofJson? = some t ∧ t.WellFormed := by
  obtain ⟨url, hgives⟩ := gives_of_pageIn rideAnswer
  obtain ⟨page, hpage, hrides⟩ := rideAnswer_page url
  obtain ⟨t, htrips, hbound⟩ := List.map_eq_singleton_iff.mp hrides
  have hgives : (walkClient.provider rideBackend).Gives t :=
    hgives page hpage t (by rw [htrips]; exact List.mem_singleton_self t)
  obtain ⟨hsurvives, hwell⟩ := trips_survive_text walkClient rideBackend
  have hread := hsurvives t hgives
  exact ⟨t, hgives, hbound, hread, hwell t.toJson.compact t hread⟩

end Hafas.Client

end Transit
