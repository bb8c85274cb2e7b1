import Transit.Proofs.Hafas.Course
import Transit.Proofs.Hafas.LocationList
import Transit.Proofs.Result.Ranking

/-! # Suggested locations, and the closest ones

From a good answer that is a list of records of locations a client takes those that can be read and
are of a wanted type. As suggestions it keeps each location once, in the order of the backend, which
the priorities follow; around a point it keeps the first ones by distance, up to a limit, and those
at one distance in the order of the backend.
-/
namespace Transit.Hafas

open StableSort (SortedBy sortBy tie sortBy_sorted take_sortBy_le tie_sortBy)

variable {σ : Type} {answer : Answer} {raw : List RawLocation}

/-- A good answer with a list of records of locations. -/
inductive HasRecords : Answer → List RawLocation → Prop
  | list {status : Nat} {retryAfter : Option String} {address : Url} {body : String}
    {items : List Json} {raw : List RawLocation} (good : isSuccess status = true)
    (text : Json.ofText? body = some (.arr items))
    (records : Json.readAll RawLocation.ofJson? items = some raw) :
    HasRecords (.response status retryAfter address (some body)) raw

/-- How far the location of a record is: as the record says, else as far as its coordinate is, else
as far as can be. -/
inductive Away (center : Point) (r : RawLocation) (l : Location) : UInt32 → Prop
  | reported {d : UInt32} (said : r.distance = some d) : Away center r l d
  | computed {p : Point} (unsaid : r.distance = none) (placed : l.coordinate = some p) :
    Away center r l (center.meters p)
  | unknown (unsaid : r.distance = none) (unplaced : l.coordinate = none) :
    Away center r l 0xFFFFFFFF

/-- The locations of the records that can be read and are of a wanted type, with their distances, in
the order of the records. -/
inductive Offers (center : Point) (types : LocationTypes) :
    List RawLocation → List (UInt32 × Location) → Prop
  | done : Offers center types [] []
  | unread {r : RawLocation} {raw : List RawLocation} {found : List (UInt32 × Location)}
    (read : r.toLocation? = none) (rest : Offers center types raw found) :
    Offers center types (r :: raw) found
  | unwanted {r : RawLocation} {l : Location} {raw : List RawLocation}
    {found : List (UInt32 × Location)} (read : r.toLocation? = some l)
    (type : types.contains l.kind = false) (rest : Offers center types raw found) :
    Offers center types (r :: raw) found
  | offered {r : RawLocation} {l : Location} {d : UInt32} {raw : List RawLocation}
    {found : List (UInt32 × Location)} (read : r.toLocation? = some l)
    (type : types.contains l.kind = true) (away : Away center r l d)
    (rest : Offers center types raw found) : Offers center types (r :: raw) ((d, l) :: found)

namespace Client

variable {c : Client} {backend : Backend σ} {place : Url} {s t : σ} {ls : List Location}
  {center : Point} {types : LocationTypes} {candidates : List (UInt32 × Location)}

theorem reading_records (c : Client) (h : HasRecords answer raw) :
    ∃ address, c.reading (Json.list? RawLocation.ofJson?) answer = .ok (address, raw) := by
  cases h with
  | @list _ _ address _ _ _ good text records =>
    exact ⟨address, by rw [reading_list c _ good text, records]⟩

/-- Nothing else is read as a list of locations. -/
theorem records_of_reading {address : Url}
    (h : c.reading (Json.list? RawLocation.ofJson?) answer = .ok (address, raw)) :
    HasRecords answer raw := by
  have htaken := reading_taken c (Json.list? RawLocation.ofJson?) answer
  rw [h] at htaken
  cases htaken with
  | good usual good fits =>
    obtain ⟨j, htext, hread⟩ := Option.bind_eq_some_iff.mp fits
    cases j with
    | arr items => exact .list good htext hread
    | null | bool | int | float | str | obj | refused => cases hread

/-- The one request for a list, if its answer is one. -/
theorem fetchAs_listed {β : Type} {segments : List String} {params : Params}
    (hplace : c.endpoint segments = .ok place)
    (h : HasRecords (backend (place.withParams params) s).1 raw) (make : List RawLocation → β) :
    (c.fetchAs backend (Json.list? RawLocation.ofJson?) segments params >>=
        fun found => return make found.2 : Fetched σ β) s =
      (.ok (make raw), (backend (place.withParams params) s).2) := by
  obtain ⟨address, hread⟩ := reading_records c h
  rw [fetchAs_made hplace, hread]
  rfl

theorem map_ranking (ls : List Location) : (ranking ls).map (·.location) = ls := by
  induction ls with
  | nil => rfl
  | cons l rest ih => rw [ranking, List.map_cons, ih]

/-- The priority of what stands in front of `n` others. -/
theorem toInt_priority {n : Nat} (h : n + 1 < 2 ^ 31) :
    (Int32.ofInt (min (n + 1 : Int) (twoTo 31 - 1))).toInt = n + 1 := by
  have hmost : (twoTo 31 : Int) = 2 ^ 31 := rfl
  rw [hmost, Int.min_eq_left (by omega)]
  exact Int32.toInt_ofInt_of_le (by omega) (by omega)

theorem priority_mem (h : ls.length < 2 ^ 31) :
    ∀ s ∈ ranking ls, 1 ≤ s.priority.toInt ∧ s.priority.toInt ≤ ls.length := by
  induction ls with
  | nil => exact nofun
  | cons l rest ih =>
    rw [List.length_cons] at h ⊢
    intro s hs
    rcases List.mem_cons.mp hs with rfl | hrest
    · rw [toInt_priority h]
      omega
    · have hbounds := ih (by omega) s hrest
      omega

theorem ranking_falling (h : ls.length < 2 ^ 31) :
    (ranking ls).Pairwise fun a b => b.priority < a.priority := by
  induction ls with
  | nil => exact .nil
  | cons l rest ih =>
    rw [List.length_cons] at h
    refine .cons (fun s hs => ?_) (ih (by omega))
    have hbound := (priority_mem (by omega) s hs).2
    rw [Int32.lt_iff_toInt_lt, toInt_priority h]
    omega

/-- What is suggested of some locations, unless they are too many to be ranked. -/
theorem ranked_ranking (h : ls.length < 2 ^ 31) :
    (SuggestResult.ranked (ranking ls)).map (·.location) = ls.eraseDups ∧
      (SuggestResult.ranked (ranking ls)).Pairwise (fun a b => b.priority < a.priority) ∧
      ∀ s ∈ SuggestResult.ranked (ranking ls), 1 ≤ s.priority := by
  have hfalling := ranking_falling h
  have hpart := SuggestResult.firsts_sublist (ranking ls)
  rw [SuggestResult.ranked_of_falling hfalling, SuggestResult.map_firsts, map_ranking]
  refine ⟨rfl, hfalling.sublist hpart, fun s hs => ?_⟩
  exact Int32.le_iff_toInt_le.mpr (priority_mem h s (hpart.mem hs)).1

theorem suggestLocations_sent {q : SuggestQuery} (hwords : Text.isBlankText q.words = false)
    (hplace : c.endpoint ["locations"] = .ok place) :
    (c.suggestLocations backend q s).1 = c.suggested (c.locationsIn q.types
      (backend (place.withParams (searchParams c.config (Text.trim q.words) q.types
        (c.limit q.maxResults))) s).1) := by
  have hsearch : c.search backend (Text.trim q.words) q.types (c.limit q.maxResults) s = _ :=
    fetchAs_made hplace _ _ (locationsOf q.types) s
  have hsuggest := suggestLocations.eq_def c backend q
  rw [if_neg (by simp [hwords])] at hsuggest
  simp only [hsuggest, bind, StateT.bind, hsearch]
  rw [locationsIn_eq]
  generalize Except.map _ _ = found
  cases found <;> rfl

/-- The suggestions of a result are the first suggestions of each location, by falling priority and
otherwise in their order. So a good answer that lists records of locations is answered with each of
their locations that is of a wanted type once, in the order of the list, by priorities that fall
strictly and down to 1 at least; and no other answer is answered with suggestions. -/
theorem suggestions_ranked (c : Client) (backend : Backend σ) :
    (∀ header suggestions,
      SuggestResult.Ranks suggestions (SuggestResult.found header suggestions).suggestions) ∧
    ∀ q s place, Text.isBlankText q.words = false → c.endpoint ["locations"] = .ok place →
      let answer := (backend (place.withParams (searchParams c.config (Text.trim q.words) q.types
        (c.limit q.maxResults))) s).1
      (∀ r, (c.suggestLocations backend q s).1 = .ok r → ∃ raw, HasRecords answer raw) ∧
      ∀ raw, HasRecords answer raw → raw.length < 2 ^ 31 →
        ∃ r, (c.suggestLocations backend q s).1 = .ok r ∧ r.status = .ok ∧
          r.suggestions.map (·.location) =
            ((raw.filterMap RawLocation.toLocation?).filter
              (q.types.contains ·.kind)).eraseDups ∧
          r.suggestions.Pairwise (fun a b => b.priority < a.priority) ∧
          ∀ s ∈ r.suggestions, 1 ≤ s.priority := by
  refine ⟨fun header suggestions => SuggestResult.ranks_ranked suggestions, ?_⟩
  intro q s place hwords hplace answer
  have hsent : (c.suggestLocations backend q s).1 = c.suggested (c.locationsIn q.types answer) :=
    suggestLocations_sent hwords hplace
  refine ⟨fun r hr => ?_, fun raw hrecords hlength => ?_⟩
  · rw [hsent, locationsIn] at hr
    cases hread : c.reading (Json.list? RawLocation.ofJson?) answer with
    | error e =>
      rw [hread] at hr
      cases hr
    | ok found => exact ⟨found.2, records_of_reading hread⟩
  · obtain ⟨address, hread⟩ := reading_records c hrecords
    rw [locationsIn, hread] at hsent
    have hfew : (locationsOf q.types raw).length < 2 ^ 31 :=
      lt_of_le_of_lt ((List.length_filter_le ..).trans (List.length_filterMap_le ..)) hlength
    exact ⟨_, hsent, rfl, ranked_ranking hfew⟩

/-- Two stations with a record of nothing between them, and then the first one again. -/
def repeatedStations : List Json :=
  [stationRecord "B", .obj [], stationRecord "A", stationRecord "B"]

/-- A repeated station is suggested once, where it stands first. -/
theorem stations_ranked :
    ∃ r, (walkClient.suggestLocations (listBackend repeatedStations) ⟨"A", .all, 0⟩ ()).1 = .ok r ∧
      r.suggestions.map (·.location.id) = [some "B", some "A"] ∧
      r.suggestions.Pairwise fun a b => b.priority < a.priority := by
  obtain ⟨place, hplace⟩ : ∃ place, walkClient.endpoint ["locations"] = .ok place := ⟨_, rfl⟩
  have hplain : (Json.arr repeatedStations).isPlain 0 = true := by decide +kernel
  obtain ⟨-, hranked⟩ := suggestions_ranked walkClient (listBackend repeatedStations)
  obtain ⟨-, hlisted⟩ := hranked ⟨"A", .all, 0⟩ () place (by decide) hplace
  obtain ⟨r, hr, -, hlocations, hfalling, -⟩ :=
    hlisted _ (.list rfl (Json.ofText_compact hplain) rfl) (by decide)
  have hids := congrArg (List.map Location.id) hlocations
  rw [List.map_map] at hids
  exact ⟨r, hr, hids, hfalling⟩

theorem away_iff {r : RawLocation} {l : Location} {d : UInt32} :
    Away center r l d ↔ d = distanceOf center l r.distance := by
  rw [distanceOf]
  constructor
  · intro h
    cases h with
    | reported said => rw [said]; rfl
    | computed unsaid placed => rw [unsaid, placed]; rfl
    | unknown unsaid unplaced => rw [unsaid, unplaced]; rfl
  · rintro rfl
    cases hsaid : r.distance with
    | some d => exact .reported hsaid
    | none =>
      cases hplaced : l.coordinate with
      | some p => exact .computed hsaid hplaced
      | none => exact .unknown hsaid hplaced

theorem measured_cons (center : Point) (types : LocationTypes) (r : RawLocation)
    (raw : List RawLocation) : measured center types (r :: raw) =
      match r.toLocation? with
      | none => measured center types raw
      | some l =>
        if types.contains l.kind then
          (distanceOf center l r.distance, l) :: measured center types raw
        else measured center types raw := by
  rw [measured, List.filterMap_cons]
  cases r.toLocation? with
  | none => rfl
  | some l =>
    rw [Option.map_some, List.filter_cons]
    rfl

theorem offers_iff :
    Offers center types raw candidates ↔ candidates = measured center types raw := by
  constructor
  · intro h
    induction h with
    | done => rfl
    | unread read rest ih => rw [measured_cons, read, ih]
    | unwanted read type rest ih => simp only [measured_cons, read, type, ih]; rfl
    | offered read type away rest ih =>
      simp only [measured_cons, read, type, ih, away_iff.mp away]
      rfl
  · rintro rfl
    induction raw with
    | nil => exact .done
    | cons r raw ih =>
      rw [measured_cons]
      cases hread : r.toLocation? with
      | none => exact .unread hread ih
      | some l =>
        cases htype : types.contains l.kind with
        | false => simpa [htype] using .unwanted hread htype ih
        | true => simpa [htype] using .offered hread htype (away_iff.mpr rfl) ih

/-- The key to sort by. -/
def distance (found : UInt32 × Location) : Nat := found.1.toNat

/-- Candidates are kept up to a limit, by distance and otherwise in their order; the others are
dropped, and none of them is closer. -/
structure Nearest (limit : Nat) (candidates kept dropped : List (UInt32 × Location)) : Prop where
  order : kept ++ dropped = sortBy distance candidates
  count : kept.length = min limit candidates.length
  closer : ∀ near ∈ kept, ∀ far ∈ dropped, near.1 ≤ far.1
  stable : ∀ d : UInt32, kept.filter (·.1 = d) <+: candidates.filter (·.1 = d)

theorem nearest_sortBy (limit : Nat) (candidates : List (UInt32 × Location)) :
    Nearest limit candidates ((sortBy distance candidates).take limit)
      ((sortBy distance candidates).drop limit) where
  order := List.take_append_drop ..
  count := by rw [List.length_take, (StableSort.sortBy_perm candidates).length_eq]
  closer near hnear far hfar :=
    UInt32.le_iff_toNat_le.mpr (take_sortBy_le limit _ near hnear far hfar)
  stable d := by
    have htie : tie distance d.toNat (sortBy distance candidates) =
        tie distance d.toNat candidates := tie_sortBy _ _
    simp only [tie, distance, UInt32.toNat_inj] at htie
    rw [← htie]
    exact (List.take_prefix ..).filter _

theorem closest_eq (limit : Nat) (candidates : List (UInt32 × Location)) :
    closest limit candidates = ((sortBy distance candidates).take limit).map Prod.snd := by
  have hcloser : closerFirst = fun a b => decide (distance a ≤ distance b) := by
    funext a b
    exact decide_eq_decide.mpr UInt32.le_iff_toNat_le
  rw [closest, sortBy, hcloser]

theorem queryNearby_listed {q : NearbyQuery} (hvalid : q.validate = .ok ())
    (hcenter : c.center backend q.anchor s = (.ok (some center), t))
    (hplace : c.endpoint ["locations", "nearby"] = .ok place)
    (hrecords : HasRecords (backend (place.withParams (nearbyParams c.config q center
      (c.limit q.maxResults))) t).1 raw) :
    (c.queryNearby backend q s).1 = .ok (.found (c.header none)
      (closest (c.limit q.maxResults) (measured center q.types raw))) := by
  have hnearby : ∃ t', c.nearby backend q s =
      (.ok (some (closest (c.limit q.maxResults) (measured center q.types raw))), t') := by
    rw [nearby, Fetched.bind_ok hcenter]
    exact ⟨_, fetchAs_listed hplace hrecords
      fun raw => some (closest (c.limit q.maxResults) (measured center q.types raw))⟩
  obtain ⟨t', hnearby⟩ := hnearby
  have hquery := queryNearby.eq_def c backend q
  rw [hvalid] at hquery
  simp only [hquery, bind, StateT.bind, hnearby]
  rfl

/-- Around a point that is known, a good answer that lists records of locations is answered with the
closest of their locations that are of a wanted type, as many as are asked for or, if no number is
given, as many as the settings say. -/
theorem nearest_listed (c : Client) (backend : Backend σ) (q : NearbyQuery) (s t : σ)
    (center : Point) (place : Url) (raw : List RawLocation) (hvalid : q.validate = .ok ())
    (hcenter : c.center backend q.anchor s = (.ok (some center), t))
    (hplace : c.endpoint ["locations", "nearby"] = .ok place) :
    let limit := if q.maxResults = 0 then c.config.maxResults else q.maxResults
    HasRecords (backend (place.withParams (nearbyParams c.config q center limit)) t).1 raw →
      ∃ r candidates kept dropped, (c.queryNearby backend q s).1 = .ok r ∧ r.status = .ok ∧
        Offers center q.types raw candidates ∧ Nearest limit candidates kept dropped ∧
        r.locations = kept.map Prod.snd := by
  intro limit hrecords
  refine ⟨_, _, _, _, queryNearby_listed hvalid hcenter hplace hrecords, rfl, offers_iff.mpr rfl,
    nearest_sortBy limit _, ?_⟩
  exact closest_eq limit _

def stationAt (id : String) (distance : Nat) : Json :=
  .obj [("id", .str id), ("distance", .nat distance)]

/-- Three stations, of which the second one is the closest. -/
def scatteredStations : List Json := [stationAt "A" 300, stationAt "B" 100, stationAt "C" 300]

def nearOrigin : NearbyQuery := ⟨.atPoint ⟨0, 0⟩, .all, 0, 2⟩

/-- The closest station comes first, and of two others at one distance the one that was listed
first is kept. -/
theorem stations_nearest :
    ∃ r, (walkClient.queryNearby (listBackend scatteredStations) nearOrigin ()).1 = .ok r ∧
      r.locations = [.station "B", .station "A"] := by
  obtain ⟨place, hplace⟩ : ∃ place, walkClient.endpoint ["locations", "nearby"] = .ok place :=
    ⟨_, rfl⟩
  have hplain : (Json.arr scatteredStations).isPlain 0 = true := by decide +kernel
  obtain ⟨r, candidates, kept, dropped, hr, -, hoffers, hnearest, hlocations⟩ :=
    nearest_listed walkClient (listBackend scatteredStations) nearOrigin () () ⟨0, 0⟩ place _ rfl
      rfl hplace (.list rfl (Json.ofText_compact hplain) rfl)
  obtain rfl : candidates = [(300, .station "A"), (100, .station "B"), (300, .station "C")] :=
    offers_iff.mp hoffers
  have hsorted : kept ++ dropped =
      [(100, .station "B"), (300, .station "A"), (300, .station "C")] := by
    rw [hnearest.order]
    simp [sortBy, distance, List.mergeSort, List.MergeSort.Internal.splitInTwo]
  obtain ⟨rfl, -⟩ := List.append_inj
    (hsorted.trans (List.take_append_drop 2 _).symm) hnearest.count
  exact ⟨r, hr, hlocations⟩

end Client

end Transit.Hafas
