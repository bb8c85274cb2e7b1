import Transit.Proofs.Hafas.Trips
import Transit.Proofs.Point
import Transit.Proofs.Polyline

/-! # The geometry of legs

A leg takes its path from its record, where geometry comes in two forms. The points of a collection
are accepted one by one, so all of them are on the globe. The points of a polyline are taken as
they are: they leave the globe where the course of the polyline does, if it is still in the range of
the format there.
-/
namespace Transit.Hafas

open Polyline

variable {σ : Type} {raw : RawLeg} {l : Leg} {t : Trip}

/-- A place of the globe, in millionths of a degree. -/
def OnGlobe (c : Int × Int) : Prop :=
  (-90000000 ≤ c.1 ∧ c.1 ≤ 90000000) ∧ -180000000 ≤ c.2 ∧ c.2 ≤ 180000000

theorem isOnGlobe_iff {p : Point} : p.isOnGlobe = true ↔ OnGlobe p.coordinates := by
  rw [Point.isOnGlobe, Bool.and_eq_true, Point.onLatitude_iff, Point.onLongitude_iff]
  rfl

/-- What geometry has to be so that all its points are on the globe. -/
def RawPath.KeepsToGlobe : RawPath → Prop
  | .encoded text =>
    ∀ c ∈ (course 0 0 (values text.toUTF8.toList)).takeWhile fun c => decide (InRange c), OnGlobe c
  | .features _ => True

/-- The points of a collection are checked. -/
theorem RawPath.isOnGlobe_of_mem_features {coordinates : List (List Binary64)} {p : Point}
    (h : p ∈ (RawPath.features coordinates).points) : p.isOnGlobe = true := by
  obtain ⟨degrees, -, hp⟩ := List.mem_filterMap.mp h
  split at hp
  · exact Point.isOnGlobe_of_ofDegrees (eq_ok_of_toOption hp)
  · cases hp

theorem RawPath.keepsToGlobe_iff (path : RawPath) :
    (∀ p ∈ path.points, p.isOnGlobe = true) ↔ path.KeepsToGlobe := by
  cases path with
  | encoded text =>
    have hplaces : (∀ p ∈ decode text, p.isOnGlobe = true) ↔
        ∀ c ∈ (decode text).map Point.coordinates, OnGlobe c := by
      rw [List.forall_mem_map]
      exact forall₂_congr fun p _ => isOnGlobe_iff
    rw [coordinates_decode] at hplaces
    exact hplaces
  | features coordinates =>
    exact iff_of_true (fun p hp => isOnGlobe_of_mem_features hp) trivial

namespace RawLeg

/-- A leg on its own and a ride alike have the path of their record. -/
theorem path_of_toLeg? (h : raw.toLeg? = some l) : l.path = raw.path := by
  rw [toLeg?_eq] at h
  obtain ⟨origin, -, h⟩ := Option.bind_eq_some_iff.mp h
  obtain ⟨destination, -, h⟩ := Option.bind_eq_some_iff.mp h
  rcases between?_eq_some h with ⟨-, leg, hleg, rfl⟩ | ⟨-, leg, hleg, rfl⟩
  · obtain ⟨departure, -, hleg⟩ := Option.bind_eq_some_iff.mp hleg
    obtain ⟨arrival, -, hleg⟩ := Option.bind_eq_some_iff.mp hleg
    obtain rfl := Option.some.inj hleg
    rfl
  · obtain ⟨ride, -, hleg⟩ := Option.bind_eq_some_iff.mp hleg
    obtain rfl := Option.some.inj hleg
    rfl

theorem path_onGlobe_iff (raw : RawLeg) :
    (∀ p ∈ raw.path, p.isOnGlobe = true) ↔
      ∀ geometry, raw.polyline = some geometry → geometry.KeepsToGlobe := by
  rw [path]
  cases raw.polyline with
  | none => simp
  | some geometry => simpa using geometry.keepsToGlobe_iff

end RawLeg

namespace Client

/-- Every leg in a result follows the geometry of its record, whatever the backend answers, and its
points are all accepted as they are if and only if that geometry keeps to the globe. -/
theorem paths_on_globe_iff (c : Client) (backend : Backend σ) (t : Trip)
    (h : (c.provider backend).Gives t) :
    ∃ raw : RawJourney, raw.toTrip? = some t ∧
      List.Forall₂ (fun (record : RawLeg) (l : Leg) => l.path = record.path ∧
        ((∀ p ∈ l.path, Point.ofMillionths p.lat p.lon = .ok p) ↔
          ∀ geometry, record.polyline = some geometry → geometry.KeepsToGlobe))
        raw.legs t.legs := by
  obtain ⟨j, hj⟩ := read_of_gives h
  obtain ⟨raw, -, htrip⟩ := Option.bind_eq_some_iff.mp hj
  obtain ⟨legs, hlegs, hbuild⟩ := Option.bind_eq_some_iff.mp htrip
  obtain ⟨rfl, -⟩ := Trip.build_eq_ok (eq_ok_of_toOption hbuild)
  refine ⟨raw, htrip, (Json.forall₂_of_readAll hlegs).imp fun record l hread => ?_⟩
  have hpath := RawLeg.path_of_toLeg? hread
  refine ⟨hpath, ?_⟩
  rw [hpath, ← record.path_onGlobe_iff]
  exact forall₂_congr fun p _ => Point.ofMillionths_eq_ok

/-- A polyline with one point, which is north of the pole. -/
def strayText : String := "_mljP?"

/-- A page with one walk along it. -/
def strayPage : Json :=
  .obj [("journeys", .arr [.obj [("legs", .arr [.obj [
    ("origin", .obj [("type", .str "stop"), ("id", .str "1")]),
    ("destination", .obj [("type", .str "stop"), ("id", .str "2")]),
    ("departure", .str "1970-01-01T00:00:00Z"), ("arrival", .str "1970-01-01T01:00:00Z"),
    ("walking", .bool true), ("polyline", .str strayText)]])]])]

def strayAnswer (url : Url) : Answer := .response 200 none url (some strayPage.compact)

def strayBackend : Backend Unit := answering strayAnswer

theorem decode_strayText : decode strayText = [⟨91000000, 0⟩] := by
  have hwritten : encode [⟨91000000, 0⟩] = strayText := by
    simp [encode, encodeBytes, encodeFrom, writeValue, fold, rounded, groups, groupByte, strayText]
  apply List.map_injective_iff.mpr Point.coordinates_injective
  rw [← hwritten, coordinates_decode_encode]
  decide

/-- The walk is given, with its path. -/
theorem exists_stray :
    ∃ t, (walkClient.provider strayBackend).Gives t ∧ t.legs.map Leg.path = [[⟨91000000, 0⟩]] := by
  obtain ⟨url, hgives⟩ := gives_of_pageIn strayAnswer
  have hplain : strayPage.isPlain 0 = true := by decide +kernel
  have hpaths : (JourneysAnswer.ofJson? strayPage).map (fun answer =>
      (tripsOf answer.journeys).map fun t => t.legs.map Leg.path) =
      some [[decode strayText]] := rfl
  obtain ⟨answer, hanswer, hpaths⟩ := Option.map_eq_some_iff.mp hpaths
  have hpage : walkClient.pageIn (strayAnswer url) = .ok (walkClient.pageOf url answer) := by
    rw [pageIn, strayAnswer, strayPage, reading_compact _ _ hplain hanswer]
    rfl
  obtain ⟨t, htrips, hpath⟩ := List.map_eq_singleton_iff.mp hpaths
  rw [decode_strayText] at hpath
  refine ⟨t, hgives _ hpage t ?_, hpath⟩
  change t ∈ tripsOf answer.journeys
  rw [htrips]
  exact List.mem_singleton_self t

/-- A point of a leg need not be one that is accepted. -/
theorem stray_point_given :
    ∃ t, (walkClient.provider strayBackend).Gives t ∧ ∃ l ∈ t.legs, ∃ p ∈ l.path,
      Point.ofMillionths p.lat p.lon =
        .error (.invalidCoordinate "latitude 91000000 out of range") := by
  obtain ⟨t, hgives, hpaths⟩ := exists_stray
  obtain ⟨l, hlegs, hpath⟩ := List.map_eq_singleton_iff.mp hpaths
  have hleg : l ∈ t.legs := by rw [hlegs]; exact .head _
  have hpoint : ⟨91000000, 0⟩ ∈ l.path := by rw [hpath]; exact .head _
  have hrefused : Point.ofMillionths 91000000 0 =
      .error (.invalidCoordinate "latitude 91000000 out of range") := by decide +kernel
  exact ⟨t, hgives, l, hleg, _, hpoint, hrefused⟩

/-- The geometry behind such a point does not keep to the globe. -/
theorem stray_geometry :
    ∃ (t : Trip) (raw : RawJourney), (walkClient.provider strayBackend).Gives t ∧
      raw.toTrip? = some t ∧ ∃ record ∈ raw.legs, ∃ geometry,
        record.polyline = some geometry ∧ ¬geometry.KeepsToGlobe := by
  obtain ⟨t, hgives, hpaths⟩ := exists_stray
  obtain ⟨l, hlegs, hpath⟩ := List.map_eq_singleton_iff.mp hpaths
  obtain ⟨raw, htrip, hfollows⟩ := paths_on_globe_iff walkClient strayBackend t hgives
  rw [hlegs] at hfollows
  obtain ⟨record, rest, ⟨-, hglobe⟩, -, hrecords⟩ := List.forall₂_cons_right_iff.mp hfollows
  have hrefused : ¬∀ p ∈ l.path, Point.ofMillionths p.lat p.lon = .ok p := by
    rw [hpath]
    decide +kernel
  rw [hglobe] at hrefused
  push Not at hrefused
  exact ⟨t, raw, hgives, htrip, record, by rw [hrecords]; exact .head _, hrefused⟩

end Client

end Transit.Hafas
