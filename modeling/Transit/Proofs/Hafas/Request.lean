import Transit.Hafas.Request
import Transit.Proofs.Provider

/-! # What requests are made of

The parameters of requests for places and for journeys, by their keys. Those of a request for
journeys come from one vocabulary, each at its place, so none of them is there twice.
-/
namespace Transit.Hafas

/-- The key for a search by words of a kind of places. -/
def kindKeys : List (String × LocationType) :=
  [("stops", .station), ("addresses", .address), ("poi", .poi)]

/-- The words are sent as they are, and each kind of places is asked for as far as it is wanted. -/
theorem searchParams_eq (config : Config) (words : String) (types : LocationTypes) (limit : Nat) :
    searchParams config words types limit =
      ("query", words) :: ("results", toString limit) ::
        (kindKeys.map fun (key, kind) => (key, if types.contains kind then "true" else "false")) ++
          [("fuzzy", "true"), ("linesOfStops", "false"), ("language", config.language)] := rfl

/-- The parameters of a look-up by name: places of all kinds, as many as the settings allow. -/
def lookupParams (config : Config) (name : String) : Params :=
  [("query", name), ("results", toString config.maxResults), ("stops", "true"),
    ("addresses", "true"), ("poi", "true"), ("fuzzy", "true"), ("linesOfStops", "false"),
    ("language", config.language)]

theorem searchParams_all (config : Config) (name : String) :
    searchParams config name .all config.maxResults = lookupParams config name := by
  have hall : ∀ kind ∈ kindKeys.map Prod.snd, LocationTypes.all.contains kind = true := by decide
  rw [searchParams_eq]
  simp [kindKeys, lookupParams, hall]

/-- The key for the time of a search. -/
def timeKey (q : TripsQuery) : String := if q.departing then "departure" else "arrival"

theorem timeParam_eq (q : TripsQuery) : timeParam q = (timeKey q, q.time.offsetText) := rfl

/-- The key for the reference that a session goes on from. -/
def continuationKey : Direction → String
  | .later => "laterThan"
  | .earlier => "earlierThan"

theorem referenceParam_eq (d : Direction) (reference : String) :
    referenceParam d reference = (continuationKey d, reference) := by
  cases d <;> rfl

def keys (params : Params) : List String := params.map Prod.fst

theorem keys_append (params more : Params) : keys (params ++ more) = keys params ++ keys more :=
  List.map_append

def endpointKeys (role : String) : List String :=
  [role, role ++ ".id", role ++ ".name", role ++ ".latitude", role ++ ".longitude",
    role ++ ".address"]

def pageKeys : List String := ["results", "stopovers", "polylines", "remarks", "language"]

def optionKeys : List String := ["walkingSpeed", "accessibility", "transfers"]

/-- The keys of a journey search that its continuations repeat, in order. -/
def journeyKeys : List String :=
  endpointKeys "from" ++ ["via"] ++ endpointKeys "to" ++ pageKeys ++ productSwitches.map Prod.fst ++
    optionKeys

/-- The keys for where a page begins. -/
def placeKeys : List String := ["departure", "arrival", "laterThan", "earlierThan"]

variable {config : Config} {q : TripsQuery} {origin destination : Location} {via : Option Location}
  {params : Params}

theorem keys_endpointParams {role : String} {l : Location}
    (h : endpointParams role l = .ok params) : (keys params).Sublist (endpointKeys role) := by
  rw [endpointParams] at h
  split at h
  · cases h
    exact .cons_cons _ (List.nil_sublist _)
  · cases h
    exact .cons _ (.cons_cons _ (.cons_cons _ (.cons_cons _ (.cons_cons _ (List.nil_sublist _)))))
  · cases h
    exact .cons _ (.cons _ (.cons _ (.cons_cons _ (.cons_cons _ (.cons_cons _ .slnil)))))
  · cases h

theorem keys_viaParams (h : viaParams via = .ok params) : (keys params).Sublist ["via"] := by
  rw [viaParams.eq_def] at h
  split at h
  · cases h
    exact List.nil_sublist _
  · split at h
    · cases h
      exact List.Sublist.refl _
    · cases h

theorem keys_productParams {s : ProductSet} (h : productParams s = .ok params) :
    keys params = productSwitches.map Prod.fst := by
  rw [productParams] at h
  split at h
  · cases h
  · cases h
    exact List.map_map

theorem keys_optionParams (o : TripOptions) : (keys (optionParams o)).Sublist optionKeys := by
  have hspeed : (keys (o.walkSpeed.map speedParam).toList).Sublist ["walkingSpeed"] := by
    cases o.walkSpeed with
    | none => exact List.nil_sublist _
    | some speed => cases speed <;> exact List.Sublist.refl _
  have haccess : (keys (o.accessibility.map accessParam).toList).Sublist ["accessibility"] := by
    cases o.accessibility with
    | none => exact List.nil_sublist _
    | some access => cases access <;> exact List.Sublist.refl _
  have hoptimize : (keys ((o.optimize.map optimizeParams).getD [])).Sublist ["transfers"] := by
    cases o.optimize with
    | none => exact List.nil_sublist _
    | some goal =>
      cases goal with
      | leastChanges => exact List.Sublist.refl _
      | leastDuration => exact List.nil_sublist _
      | leastWalking => exact List.nil_sublist _
  rw [optionParams, keys_append, keys_append]
  exact (hspeed.append haccess).append hoptimize

/-- A journey search has parameters when its places and its products have. -/
theorem journeyParams_eq_ok (h : journeyParams config q origin via destination = .ok params) :
    ∃ os vs ds ps, endpointParams "from" origin = .ok os ∧ viaParams via = .ok vs ∧
      endpointParams "to" destination = .ok ds ∧
      productParams (q.options.products.getD config.defaultProducts) = .ok ps ∧
      params = os ++ vs ++ ds ++ pageParams config ++ ps ++ optionParams q.options := by
  obtain ⟨os, hos, h⟩ := eq_ok_of_bind h
  obtain ⟨vs, hvs, h⟩ := eq_ok_of_bind h
  obtain ⟨ds, hds, h⟩ := eq_ok_of_bind h
  obtain ⟨ps, hps, h⟩ := eq_ok_of_bind h
  cases h
  exact ⟨os, vs, ds, ps, hos, hvs, hds, hps, rfl⟩

theorem keys_journeyParams (h : journeyParams config q origin via destination = .ok params) :
    (keys params).Sublist journeyKeys := by
  obtain ⟨os, vs, ds, ps, hos, hvs, hds, hps, rfl⟩ := journeyParams_eq_ok h
  have hpage : (keys (pageParams config)).Sublist pageKeys := List.Sublist.refl _
  have hproducts : (keys ps).Sublist (productSwitches.map Prod.fst) :=
    keys_productParams hps ▸ List.Sublist.refl _
  have hends := ((keys_endpointParams hos).append (keys_viaParams hvs)).append
    (keys_endpointParams hds)
  simp only [keys_append]
  exact ((hends.append hpage).append hproducts).append (keys_optionParams q.options)

theorem vocabulary_nodup : (journeyKeys ++ placeKeys).Nodup := by decide

/-- No key stands twice in a journey request, wherever its page begins. -/
theorem keys_nodup (h : journeyParams config q origin via destination = .ok params)
    {p : String × String} (hp : p.1 ∈ placeKeys) : (keys (params ++ [p])).Nodup := by
  -- Optional parameters leave gaps, but never change the order of the vocabulary.
  have hsublist := (keys_journeyParams h).append (List.singleton_sublist.mpr hp)
  rw [keys_append]
  exact hsublist.nodup vocabulary_nodup

theorem timeKey_mem (q : TripsQuery) : timeKey q ∈ placeKeys := by
  rw [timeKey]
  split
  · exact .head _
  · exact .tail _ (.head _)

theorem continuationKey_mem (d : Direction) : continuationKey d ∈ placeKeys := by
  cases d with
  | later => exact .tail _ (.tail _ (.head _))
  | earlier => exact .tail _ (.tail _ (.tail _ (.head _)))

end Transit.Hafas
