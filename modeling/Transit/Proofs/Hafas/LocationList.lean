import Transit.Hafas.Places
import Transit.Proofs.Hafas.Lookup
import Transit.Proofs.Hafas.Verdict
import Transit.Proofs.Json.Alike

/-! # Lists of locations

A list of locations is read as a whole. A record that stands for no location may be anywhere in it
and makes no difference, but one entry that is no record of a location makes the list unreadable.
-/
namespace Transit.Hafas

variable {j : Json} {items items' : List Json} {raw raw' : List RawLocation}

/-- What a record lacks that stands for no location: a type, the id of a station, or where a
coordinate is. -/
inductive RawLocation.Lacking (r : RawLocation) : Prop
  | type (unknown : r.type? = none)
  | id (station : r.type? = some .station) (unidentified : Location.nonEmpty r.id = none)
  | coordinate (coord : r.type? = some .coord) (unplaced : r.coordinate? = none)

theorem RawLocation.toLocation?_eq_none {r : RawLocation} :
    r.toLocation? = none ↔ r.Lacking := by
  constructor
  · intro h
    cases htype : r.type? with
    | none => exact .type htype
    | some type =>
      rw [toLocation?, htype, Option.bind_eq_bind, Option.bind_some, Location.build.eq_def] at h
      cases type with
      | station =>
        cases hid : Location.nonEmpty r.id with
        | none => exact .id htype hid
        | some id => simp [hid, Except.toOption] at h
      | coord =>
        cases hplace : r.coordinate? with
        | none => exact .coordinate htype hplace
        | some p => simp [hplace, Except.toOption] at h
      | address | poi => cases h
      | any => exact absurd htype r.type?_ne_any
  · intro h
    rw [toLocation?]
    cases h with
    | type unknown => rw [unknown]; rfl
    | id station unidentified => simp [station, Location.build, unidentified, Except.toOption]
    | coordinate coord unplaced => simp [coord, Location.build, unplaced, Except.toOption]

/-- A record of a location that stands for none. -/
def Idle (j : Json) : Prop := ∃ r, RawLocation.ofJson? j = some r ∧ r.Lacking

/-- The same list with further records in it that stand for no location. -/
inductive Dilutes : List Json → List Json → Prop
  | done : Dilutes [] []
  | kept {items items' : List Json} (j : Json) (rest : Dilutes items items') :
    Dilutes (j :: items) (j :: items')
  | added {items items' : List Json} {j : Json} (idle : Idle j) (rest : Dilutes items items') :
    Dilutes items (j :: items')

theorem Dilutes.refl (items : List Json) : Dilutes items items := by
  induction items with
  | nil => exact .done
  | cons j items ih => exact .kept j ih

/-- The place of a further record is any. -/
theorem Dilutes.insert (before after : List Json) (h : Idle j) :
    Dilutes (before ++ after) (before ++ j :: after) := by
  induction before with
  | nil => exact .added h (.refl after)
  | cons first before ih => exact .kept first ih

/-- The records that stand for locations are the same. -/
def SameLocated (raw raw' : List RawLocation) : Prop :=
  raw.filter (·.toLocation?.isSome) = raw'.filter (·.toLocation?.isSome)

theorem SameLocated.cons (h : SameLocated raw raw') (r : RawLocation) :
    SameLocated (r :: raw) (r :: raw') := by
  rw [SameLocated] at h
  rw [SameLocated, List.filter_cons, List.filter_cons, h]

theorem SameLocated.added {r : RawLocation} (h : SameLocated raw raw')
    (idle : r.toLocation? = none) : SameLocated raw (r :: raw') := by
  rw [SameLocated] at h
  rw [SameLocated, h, List.filter_cons_of_neg (by simp [idle])]

/-- What is made of records one by one is the same if nothing is made of those that stand for no
location. -/
theorem SameLocated.filterMap_eq {β : Type} {make : RawLocation → Option β}
    (h : SameLocated raw raw') (hmake : ∀ r, r.toLocation? = none → make r = none) :
    raw.filterMap make = raw'.filterMap make := by
  have hfilter : ∀ raw : List RawLocation,
      (raw.filter (·.toLocation?.isSome)).filterMap make = raw.filterMap make := by
    intro raw
    rw [List.filterMap_filter]
    congr 1
    funext r
    cases hr : r.toLocation? with
    | none => simp [hmake r hr]
    | some l => rfl
  rw [← hfilter raw, ← hfilter raw', h]

/-- A list is read with further records exactly if it is read without. -/
theorem Dilutes.readAll_rel (h : Dilutes items items') :
    Option.Rel SameLocated (Json.readAll RawLocation.ofJson? items)
      (Json.readAll RawLocation.ofJson? items') := by
  induction h with
  | done => exact .some rfl
  | kept j rest ih =>
    rw [Json.readAll, Json.readAll]
    cases RawLocation.ofJson? j with
    | none => exact .none
    | some r =>
      generalize Json.readAll RawLocation.ofJson? _ = found at ih ⊢
      generalize Json.readAll RawLocation.ofJson? _ = found' at ih ⊢
      cases ih with
      | none => exact .none
      | some h => exact .some (h.cons r)
  | @added items items' j idle rest ih =>
    obtain ⟨r, hr, hlacking⟩ := idle
    have hnone := RawLocation.toLocation?_eq_none.mpr hlacking
    rw [Json.readAll, hr]
    generalize Json.readAll RawLocation.ofJson? items = found at ih ⊢
    generalize Json.readAll RawLocation.ofJson? items' = found' at ih ⊢
    cases ih with
    | none => exact .none
    | some h => exact .some (h.added hnone)

/-- An answer, and the same answer or one with further records in its list. -/
inductive Diluted : Answer → Answer → Prop
  | same (answer : Answer) : Diluted answer answer
  | list {status : Nat} {retryAfter : Option String} {address : Url} {body body' : String}
    {items items' : List Json} (good : isSuccess status = true)
    (text : Json.ofText? body = some (.arr items))
    (text' : Json.ofText? body' = some (.arr items')) (more : Dilutes items items') :
    Diluted (.response status retryAfter address (some body))
      (.response status retryAfter address (some body'))

/-- A good answer with a list in which an entry is no record of a location. -/
inductive Spoilt : Answer → Prop
  | list {status : Nat} {retryAfter : Option String} {address : Url} {body : String}
    {items : List Json} {j : Json} (good : isSuccess status = true)
    (text : Json.ofText? body = some (.arr items)) (mem : j ∈ items)
    (foreign : RawLocation.ofJson? j = none) :
    Spoilt (.response status retryAfter address (some body))

/-- The backend, and the same one with further records in lists. -/
structure Backend.Dilutes {σ : Type} (backend diluted : Backend σ) : Prop where
  course : ∀ url s, (diluted url s).2 = (backend url s).2
  answers : ∀ url s, Diluted (backend url s).1 (diluted url s).1

namespace Client

variable {σ α β : Type} {c : Client} {backend diluted : Backend σ} {answer answer' : Answer}
  {status : Nat} {retryAfter : Option String} {address : Url} {body : String}

theorem locationsOf_congr (types : LocationTypes) (h : SameLocated raw raw') :
    locationsOf types raw = locationsOf types raw' := by
  rw [locationsOf, locationsOf, h.filterMap_eq fun r hr => hr]

theorem measured_congr (center : Point) (types : LocationTypes) (h : SameLocated raw raw') :
    measured center types raw = measured center types raw' := by
  rw [measured, measured, h.filterMap_eq fun r hr => by rw [hr, Option.map_none]]

/-- A list is data, so that its good answer is read. -/
theorem reading_list (c : Client) (read : Json → Option α) (good : isSuccess status = true)
    (text : Json.ofText? body = some (.arr items)) :
    c.reading (Json.list? read) (.response status retryAfter address (some body)) =
      match Json.readAll read items with
      | some as => .ok (address, as)
      | none => .error (.parse "the body cannot be read") := by
  have hrecord : (Json.arr items).record? (items.map fun _ => "") =
      some ⟨true, (items.map fun _ => "").zip items⟩ := if_pos (by rw [List.length_map])
  have hclass : pageClass c.triage address body = .normal :=
    if_pos (looksLikeData_of_ofText? text hrecord)
  have hread : (Json.ofText? body).bind (Json.list? read) = Json.readAll read items := by
    rw [text, Option.bind_some, Json.list?]
  have htaken := reading_taken c (Json.list? read) (.response status retryAfter address (some body))
  generalize c.reading (Json.list? read) _ = outcome at htaken ⊢
  cases htaken with
  | limited => cases good
  | page unlimited triaged strange => exact absurd hclass (triaged ▸ strange)
  | refused unlimited usual bad => simp [good] at bad
  | unreadable usual good unread => rw [← hread, unread]
  | good usual good fits => rw [← hread, fits]

theorem reading_spoilt (c : Client) (h : Spoilt answer) :
    c.reading (Json.list? RawLocation.ofJson?) answer =
      .error (.parse "the body cannot be read") := by
  cases h with
  | list good text mem foreign => rw [reading_list c _ good text, Json.readAll_eq_none mem foreign]

/-- What is made of the locations in a list does not depend on further records. -/
theorem reading_diluted (c : Client) (h : Diluted answer answer') {make : List RawLocation → β}
    (hmake : ∀ raw raw', SameLocated raw raw' → make raw = make raw') :
    (c.reading (Json.list? RawLocation.ofJson?) answer').map (fun found => make found.2) =
      (c.reading (Json.list? RawLocation.ofJson?) answer).map fun found => make found.2 := by
  cases h with
  | same => rfl
  | list good text text' more =>
    rw [reading_list c _ good text, reading_list c _ good text']
    have hrel := more.readAll_rel
    generalize Json.readAll RawLocation.ofJson? _ = found at hrel ⊢
    generalize Json.readAll RawLocation.ofJson? _ = found' at hrel ⊢
    cases hrel with
    | none => rfl
    | some h => exact congrArg Except.ok (hmake _ _ h).symm

variable {place : Url} {segments : List String} {params : Params} {s t : σ}

/-- What is made of what one request gives. -/
theorem fetchAs_made (hplace : c.endpoint segments = .ok place) (read : Json → Option α)
    (params : Params) (make : α → β) (s : σ) :
    (c.fetchAs backend read segments params >>= fun found => return make found.2 :
        Fetched σ β) s =
      ((c.reading read (backend (place.withParams params) s).1).map fun found => make found.2,
        (backend (place.withParams params) s).2) := by
  have hsent := @fetchAs_sent _ _ c backend _ _ hplace read params s
  cases hread : c.reading read (backend (place.withParams params) s).1 with
  | error e =>
    rw [hread] at hsent
    rw [Fetched.bind_error hsent]
    rfl
  | ok found =>
    rw [hread] at hsent
    rw [Fetched.bind_ok hsent]
    rfl

theorem fetchAs_diluted (h : backend.Dilutes diluted) (segments : List String) (params : Params)
    {make : List RawLocation → β}
    (hmake : ∀ raw raw', SameLocated raw raw' → make raw = make raw') :
    (c.fetchAs diluted (Json.list? RawLocation.ofJson?) segments params >>=
        fun found => return make found.2 : Fetched σ β) =
      (c.fetchAs backend (Json.list? RawLocation.ofJson?) segments params >>=
        fun found => return make found.2 : Fetched σ β) := by
  funext s
  cases hplace : c.endpoint segments with
  | error e =>
    rw [Fetched.bind_error (fetchAs_misplaced hplace _ params s),
      Fetched.bind_error (fetchAs_misplaced hplace _ params s)]
  | ok place =>
    rw [fetchAs_made hplace, fetchAs_made hplace, h.course,
      reading_diluted c (h.answers _ s) hmake]

theorem search_diluted (h : backend.Dilutes diluted) (words : String) (types : LocationTypes)
    (limit : Nat) : c.search diluted words types limit = c.search backend words types limit :=
  fetchAs_diluted h _ _ fun _ _ => locationsOf_congr types

theorem suggestLocations_diluted (h : backend.Dilutes diluted) (q : SuggestQuery) :
    c.suggestLocations diluted q = c.suggestLocations backend q := by
  rw [suggestLocations, suggestLocations, search_diluted h]

theorem resolve_diluted (h : backend.Dilutes diluted) (l : Location) :
    c.resolve diluted l = c.resolve backend l := by
  rw [resolve, resolve, search_diluted h]

theorem resolveEndpoints_diluted (h : backend.Dilutes diluted) (q : TripsQuery) :
    c.resolveEndpoints diluted q = c.resolveEndpoints backend q := by
  have hvia : c.resolveVia diluted q.via = c.resolveVia backend q.via := by
    cases q.via with
    | none => rfl
    | some l => rw [resolveVia, resolveVia, resolve_diluted h]
  rw [resolveEndpoints, resolveEndpoints, resolve_diluted h, resolve_diluted h, hvia]

/-- The request for the coordinate of an anchor, if there is one, is answered in the same way. -/
def SameAnchor (c : Client) (backend diluted : Backend σ) (anchor : Location) : Prop :=
  ∀ id place, anchor.coordinate = none → anchor.id = some id →
    c.endpoint ["stops", id] = .ok place →
      diluted (place.withParams (stationParams c.config)) =
        backend (place.withParams (stationParams c.config))

theorem center_diluted {anchor : Location} (h : c.SameAnchor backend diluted anchor) :
    c.center diluted anchor = c.center backend anchor := by
  rw [center.eq_def, center.eq_def]
  cases hcoordinate : anchor.coordinate with
  | some p => rfl
  | none =>
    cases hid : anchor.id with
    | none => rfl
    | some id =>
      have hstation : c.stationCoordinate diluted id = c.stationCoordinate backend id := by
        have hfetch : c.fetchAs diluted RawLocation.ofJson? ["stops", id] (stationParams c.config) =
            c.fetchAs backend RawLocation.ofJson? ["stops", id] (stationParams c.config) := by
          funext s
          cases hplace : c.endpoint ["stops", id] with
          | error e => rw [fetchAs_misplaced hplace, fetchAs_misplaced hplace]
          | ok place =>
            rw [fetchAs_sent hplace, fetchAs_sent hplace, h id place hcoordinate hid hplace]
        rw [stationCoordinate, stationCoordinate, hfetch]
      simp only [hstation]

theorem queryNearby_diluted (h : backend.Dilutes diluted) {q : NearbyQuery}
    (hanchor : c.SameAnchor backend diluted q.anchor) :
    c.queryNearby diluted q = c.queryNearby backend q := by
  have hnearby : c.nearby diluted q = c.nearby backend q := by
    rw [nearby, nearby, center_diluted hanchor]
    congr 1
    funext found
    cases found with
    | none => rfl
    | some center =>
      have hmake : ∀ raw raw', SameLocated raw raw' →
          some (closest (c.limit q.maxResults) (measured center q.types raw)) =
            some (closest (c.limit q.maxResults) (measured center q.types raw')) :=
        fun raw raw' hsame => by rw [measured_congr center q.types hsame]
      exact fetchAs_diluted h _ _ hmake
  rw [queryNearby, queryNearby, hnearby]

/-- The one request for a list, if its answer is spoilt. -/
theorem fetchAs_spoilt (hplace : c.endpoint segments = .ok place)
    (h : Spoilt (backend (place.withParams params) s).1) (make : List RawLocation → β) :
    (c.fetchAs backend (Json.list? RawLocation.ofJson?) segments params >>=
        fun found => return make found.2 : Fetched σ β) s =
      (.error (.parse "the body cannot be read"), (backend (place.withParams params) s).2) := by
  rw [fetchAs_made hplace, reading_spoilt c h]
  rfl

theorem search_spoilt {words : String} {types : LocationTypes} {limit : Nat}
    (hplace : c.endpoint ["locations"] = .ok place)
    (h : Spoilt (backend (place.withParams (searchParams c.config words types limit)) s).1) :
    ∃ t, c.search backend words types limit s = (.error (.parse "the body cannot be read"), t) :=
  ⟨_, fetchAs_spoilt hplace h (locationsOf types)⟩

theorem suggestLocations_spoilt {q : SuggestQuery} (hwords : Text.isBlankText q.words = false)
    (hplace : c.endpoint ["locations"] = .ok place)
    (h : Spoilt (backend (place.withParams (searchParams c.config (Text.trim q.words) q.types
      (c.limit q.maxResults))) s).1) :
    (c.suggestLocations backend q s).1 =
      .error (.unexpectedResponse "Parse error: the body cannot be read") := by
  obtain ⟨t, hsearch⟩ := search_spoilt hplace h
  have hsuggest := suggestLocations.eq_def c backend q
  rw [if_neg (by simp [hwords])] at hsuggest
  simp only [hsuggest, bind, StateT.bind, hsearch]
  rfl

theorem resolve_spoilt {l : Location} (hnamed : l.kind = .any) (hwanted : nameOf l ≠ "")
    (hplace : c.endpoint ["locations"] = .ok place)
    (h : Spoilt (backend (c.lookup place (nameOf l)) s).1) :
    (c.resolve backend l s).1 = .error (.parse "the body cannot be read") := by
  obtain ⟨t, hsearch⟩ := search_spoilt hplace h
  rw [resolve, if_neg (by simp [Location.isUnresolved, hnamed]), if_neg (by simp [hwanted]),
    Fetched.bind_error hsearch]

theorem queryNearby_spoilt {q : NearbyQuery} {center : Point} (hvalid : q.validate = .ok ())
    (hcenter : c.center backend q.anchor s = (.ok (some center), t))
    (hplace : c.endpoint ["locations", "nearby"] = .ok place)
    (h : Spoilt (backend (place.withParams (nearbyParams c.config q center
      (c.limit q.maxResults))) t).1) :
    (c.queryNearby backend q s).1 =
      .error (.unexpectedResponse "Parse error: the body cannot be read") := by
  have hnearby : ∃ t', c.nearby backend q s = (.error (.parse "the body cannot be read"), t') := by
    rw [nearby, Fetched.bind_ok hcenter]
    exact ⟨_, fetchAs_spoilt hplace h
      fun raw => some (closest (c.limit q.maxResults) (measured center q.types raw))⟩
  obtain ⟨t', hnearby⟩ := hnearby
  have hquery := queryNearby.eq_def c backend q
  rw [hvalid] at hquery
  simp only [hquery, bind, StateT.bind, hnearby]
  rfl

/-- Records that stand for no location make no difference wherever they are in a list, to
suggestions, to what is nearby and to the places of a search. An entry that is no record of a
location leaves nothing of the list that it is in: what was asked for fails, as if no location had
been sent. -/
theorem lists_of_records (c : Client) (backend : Backend σ) :
    (∀ diluted, backend.Dilutes diluted →
      (∀ q, c.suggestLocations diluted q = c.suggestLocations backend q) ∧
      (∀ q, c.SameAnchor backend diluted q.anchor →
        c.queryNearby diluted q = c.queryNearby backend q) ∧
      ∀ q, c.resolveEndpoints diluted q = c.resolveEndpoints backend q) ∧
    (∀ q s place, Text.isBlankText q.words = false → c.endpoint ["locations"] = .ok place →
      Spoilt (backend (place.withParams (searchParams c.config (Text.trim q.words) q.types
        (c.limit q.maxResults))) s).1 →
      ∃ m, (c.suggestLocations backend q s).1 = .error (.unexpectedResponse m)) ∧
    (∀ q s t center place, q.validate = .ok () →
      c.center backend q.anchor s = (.ok (some center), t) →
      c.endpoint ["locations", "nearby"] = .ok place →
      Spoilt (backend (place.withParams (nearbyParams c.config q center
        (c.limit q.maxResults))) t).1 →
      ∃ m, (c.queryNearby backend q s).1 = .error (.unexpectedResponse m)) ∧
    ∀ l s place, l.kind = .any → nameOf l ≠ "" → c.endpoint ["locations"] = .ok place →
      Spoilt (backend (c.lookup place (nameOf l)) s).1 →
      ∃ m, (c.resolve backend l s).1 = .error (.parse m) := by
  refine ⟨fun diluted h => ⟨suggestLocations_diluted h, fun q => queryNearby_diluted h,
    resolveEndpoints_diluted h⟩, ?_, ?_, ?_⟩
  · intro q s place hwords hplace h
    exact ⟨_, suggestLocations_spoilt hwords hplace h⟩
  · intro q s t center place hvalid hcenter hplace h
    exact ⟨_, queryNearby_spoilt hvalid hcenter hplace h⟩
  · intro l s place hnamed hwanted hplace h
    exact ⟨_, resolve_spoilt hnamed hwanted hplace h⟩

def listAnswer (items : List Json) (address : Url) : Answer :=
  .response 200 none address (some (Json.arr items).compact)

def listBackend (items : List Json) : Backend Unit := fun url => return listAnswer items url

def stationRecord (name : String) : Json := .obj [("id", .str name), ("name", .str name)]

/-- A list of two stations with something between them. -/
def between (j : Json) : List Json := [stationRecord "A"] ++ j :: [stationRecord "B"]

theorem listBackend_dilutes {before after : List Json} {j : Json} (idle : Idle j)
    (plain : (Json.arr (before ++ after)).isPlain 0 = true)
    (plain' : (Json.arr (before ++ j :: after)).isPlain 0 = true) :
    (listBackend (before ++ after)).Dilutes (listBackend (before ++ j :: after)) where
  course _ _ := rfl
  answers _ _ := .list rfl (Json.ofText_compact plain) (Json.ofText_compact plain')
    (.insert before after idle)

theorem spoilt_between_number (address : Url) : Spoilt (listAnswer (between (.int 5)) address) := by
  have hplain : (Json.arr (between (.int 5))).isPlain 0 = true := by decide +kernel
  have hmem : Json.int 5 ∈ between (.int 5) := by simp [between]
  exact .list rfl (Json.ofText_compact hplain) hmem rfl

def aroundOrigin : NearbyQuery := ⟨.atPoint ⟨0, 0⟩, .all, 0, 0⟩

/-- An empty record between two stations makes no difference, and a number leaves nothing. -/
theorem stations_between_records :
    walkClient.queryNearby (listBackend (between (.obj []))) aroundOrigin =
      walkClient.queryNearby (listBackend [stationRecord "A", stationRecord "B"]) aroundOrigin ∧
    (∃ m, (walkClient.suggestLocations (listBackend (between (.int 5))) ⟨"A", .all, 0⟩ ()).1 =
      .error (.unexpectedResponse m)) ∧
    (∃ m, (walkClient.queryNearby (listBackend (between (.int 5))) aroundOrigin ()).1 =
      .error (.unexpectedResponse m)) ∧
    ∃ m, (walkClient.resolve (listBackend (between (.int 5))) (.any "A") ()).1 =
      .error (.parse m) := by
  have hdilutes : (listBackend ([stationRecord "A"] ++ [stationRecord "B"])).Dilutes
      (listBackend (between (.obj []))) :=
    listBackend_dilutes ⟨_, rfl, .type rfl⟩ (by decide +kernel) (by decide +kernel)
  obtain ⟨hsame, -⟩ := lists_of_records walkClient
    (listBackend ([stationRecord "A"] ++ [stationRecord "B"]))
  obtain ⟨-, hnearby, -⟩ := hsame _ hdilutes
  obtain ⟨-, hsuggest, haround, hresolve⟩ :=
    lists_of_records walkClient (listBackend (between (.int 5)))
  obtain ⟨place, hplace⟩ : ∃ place, walkClient.endpoint ["locations"] = .ok place := ⟨_, rfl⟩
  obtain ⟨place', hplace'⟩ : ∃ place, walkClient.endpoint ["locations", "nearby"] = .ok place :=
    ⟨_, rfl⟩
  refine ⟨hnearby aroundOrigin nofun, ?_, ?_, ?_⟩
  · exact hsuggest _ () place (by decide) hplace (spoilt_between_number _)
  · exact haround _ () () ⟨0, 0⟩ place' rfl rfl hplace' (spoilt_between_number _)
  · exact hresolve _ () place rfl (by decide) hplace (spoilt_between_number _)

/-- Behind one station, a number is enough to lose it. -/
theorem number_loses_suggestions :
    RawLocation.ofJson? (.int 5) = none ∧
      (walkClient.suggestLocations (listBackend [stationRecord "A"])
        ⟨"A", .all, 0⟩ ()).1.toOption.isSome = true ∧
      (walkClient.suggestLocations (listBackend [stationRecord "A", .int 5])
        ⟨"A", .all, 0⟩ ()).1.toOption.isSome = false := by
  refine ⟨rfl, ?_, ?_⟩ <;> decide +kernel

end Client

end Transit.Hafas
