import Transit.Proofs.Provider

/-! # Windows of pages that are put together

The window of some trips and further ones is the union of two windows, and it tells nothing about
the trips but their departures. A page that has been kept to what departs beyond a window moves one
of its edges and leaves the other.
-/
namespace Transit.DepartureWindow

variable {w : DepartureWindow} {page : List Trip}

theorem unite_comm (v w : Option DepartureWindow) : unite v w = unite w v := by
  cases v with
  | none => cases w <;> rfl
  | some v =>
    cases w with
    | none => rfl
    | some w => simp only [unite, union, min_comm, max_comm]

theorem ofTrips_append (a b : List Trip) : ofTrips (a ++ b) = unite (ofTrips a) (ofTrips b) := by
  rw [unite_comm, unite_ofTrips]

/-- Trips that depart no earlier leave the start of a window as it is. -/
theorem earliest_union (h : ∀ t ∈ page, w.earliest ≤ t.firstDeparture) :
    (w.union (ofTrips page)).earliest = w.earliest := by
  have hspans := spans_ofTrips page
  cases hpage : ofTrips page with
  | none => rfl
  | some v =>
    rw [hpage] at hspans
    obtain ⟨first, hfirst, hearliest⟩ := hspans.1.1
    exact min_eq_left (hearliest ▸ h first hfirst)

/-- Trips that depart no later leave the end of a window as it is. -/
theorem latest_union (h : ∀ t ∈ page, t.firstDeparture ≤ w.latest) :
    (w.union (ofTrips page)).latest = w.latest := by
  have hspans := spans_ofTrips page
  cases hpage : ofTrips page with
  | none => rfl
  | some v =>
    rw [hpage] at hspans
    obtain ⟨last, hlast, hlatest⟩ := hspans.2.1
    exact max_eq_left (hlatest ▸ h last hlast)

theorem isBefore_of_mem_beyond {d : Direction} {t : Trip} (h : t ∈ beyond (some w) d page) :
    w.isBefore d t = true := (List.mem_filter.mp h).2

/-- The window of trips that are put together is the union of their windows, whichever of them there
are. Trips that depart at the same times have the same window. Of the trips beyond a window, later
ones leave its start and earlier ones leave its end as it is, whichever of the two windows is united
with the other. -/
theorem windows_combine (ordered : w.earliest ≤ w.latest) (a b page : List Trip) :
    ofTrips (a ++ b) = unite (ofTrips a) (ofTrips b) ∧
      (∀ c, departures c = departures a → ofTrips c = ofTrips a) ∧
      (∀ d, unite (ofTrips (beyond (some w) d page)) (some w) =
        some (w.union (ofTrips (beyond (some w) d page)))) ∧
      (w.union (ofTrips (beyond (some w) .later page))).earliest = w.earliest ∧
      (w.union (ofTrips (beyond (some w) .earlier page))).latest = w.latest := by
  refine ⟨ofTrips_append a b, fun c => ofTrips_congr, fun d => unite_comm _ (some w), ?_, ?_⟩
  · refine earliest_union fun t ht => ordered.trans ?_
    have hlater : w.latest < t.firstDeparture := of_decide_eq_true (isBefore_of_mem_beyond ht)
    exact hlater.le
  · refine latest_union fun t ht => le_trans ?_ ordered
    have hearlier : t.firstDeparture < w.earliest := of_decide_eq_true (isBefore_of_mem_beyond ht)
    exact hearlier.le

/-- One walk is taken twice, and of a later page one walk departs within the first hour. -/
theorem walks_combine :
    let start : Instant := ⟨0, 0, by decide, by decide⟩
    let hour : Instant := ⟨3600, 0, by decide, by decide⟩
    let morning : Instant := ⟨7200, 0, by decide, by decide⟩
    start ≤ hour ∧
      departures [.walk start, .walk start] = departures [.walk start] ∧
      ofTrips [.walk start, .walk start] = ofTrips [.walk start] ∧
      ofTrips ([.walk start] ++ [.walk hour]) = some ⟨start, hour⟩ ∧
      ((⟨start, hour⟩ : DepartureWindow).union
        (ofTrips (beyond (some ⟨start, hour⟩) .later [.walk hour, .walk morning]))).earliest =
          start := by
  intro start hour morning
  have ordered : start ≤ hour := by decide
  have hset : departures [.walk start, .walk start] = departures [.walk start] := by
    ext x
    simp [departures]
  obtain ⟨happend, hcongr, -, hlater, -⟩ := windows_combine (w := ⟨start, hour⟩) ordered
    [.walk start] [.walk hour] [.walk hour, .walk morning]
  exact ⟨ordered, hset, hcongr _ hset, happend.trans (by decide), hlater⟩

end Transit.DepartureWindow
