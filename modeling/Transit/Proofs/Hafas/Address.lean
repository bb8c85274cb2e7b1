import Transit.Proofs.Hafas.Client
import Transit.Proofs.Hafas.Request
import Transit.Proofs.Url.Query
import Transit.Proofs.Url.Segments

/-! # What a request asks for

The URL of a request is that of the backend, with the resource behind its path and the parameters
behind its query. All of it is read back from the URL.
-/
namespace Transit.Hafas.Client

open Url (GoesOn HasReadPath)

variable {c : Client} {config : Config} {triage : Triage} {resource : String} {params : Params}
  {url place : Url}

/-- The backend of every client was read from a text. -/
theorem hasReadPath_of_create (h : create config triage = .ok c) : HasReadPath c.baseUrl := by
  rw [create.eq_def] at h
  split at h
  · cases h
  · split at h
    · cases h
    next baseUrl hbase =>
      split at h
      · cases h
        exact Url.hasReadPath_of_ofText? hbase
      · cases h

/-- A URL asks the backend of a client for a resource: the path goes on from that of the backend
with the resource alone, the query is read as that of the backend with exactly these parameters
behind it, each under its key and as it is, and everything else is as in the URL of the backend. -/
structure Asks (c : Client) (resource : String) (params : Params) (url : Url) : Prop where
  sent : ∃ place, c.endpoint [resource] = .ok place ∧ url = place.withParams params
  path : HasReadPath c.baseUrl → GoesOn c.baseUrl url [resource]
  query : url.parameters = c.baseUrl.parameters ++ params.map some
  elsewhere : { url with path := c.baseUrl.path, query := c.baseUrl.query } = c.baseUrl

theorem descend?_of_endpoint {segments : List String} (h : c.endpoint segments = .ok place) :
    c.baseUrl.descend? segments = some place := by
  rw [endpoint] at h
  split at h
  next url hurl => exact hurl.trans (congrArg some (Except.ok.inj h))
  next => cases h

/-- What is sent to the place of a resource asks for this resource. -/
theorem asks_of_endpoint (hresource : resource ∈ Url.resourceWords)
    (hplace : c.endpoint [resource] = .ok place) (params : Params) :
    c.Asks resource params (place.withParams params) := by
  have hdescend := descend?_of_endpoint hplace
  have hbelow := Url.descend?_elsewhere hdescend
  refine ⟨⟨place, hplace, rfl⟩, fun hread => ?_, ?_, ?_⟩
  · rw [Url.goesOn_withParams]
    exact Url.goesOn_of_descend? hread hresource hdescend
  · rw [Url.parameters_withParams, ← hbelow]
    rfl
  · rw [← hbelow]
    rfl

/-- The first request for journeys tells the time of the search, behind all else. -/
theorem asks_search (hplace : c.endpoint ["journeys"] = .ok place) (params : Params)
    (q : TripsQuery) :
    c.Asks "journeys" (params ++ [(timeKey q, q.time.offsetText)])
      (place.withParams (params ++ [timeParam q])) := by
  rw [timeParam_eq]
  exact asks_of_endpoint (by decide) hplace _

/-- A further one tells a reference in its place. -/
theorem asks_continuation (hplace : c.endpoint ["journeys"] = .ok place) (params : Params)
    (d : Direction) (reference : String) :
    c.Asks "journeys" (params ++ [(continuationKey d, reference)])
      (place.withParams (params ++ [referenceParam d reference])) := by
  rw [referenceParam_eq]
  exact asks_of_endpoint (by decide) hplace _

end Transit.Hafas.Client
