import Transit.Proofs.Provider

/-! # Calls that are let through

A trip query and a continuation are checked before they reach the backend. What passes is called
once, and what does not pass is rejected without a call.
-/
namespace Transit.Provider

variable {σ α : Type} {p : Provider σ} {q : TripsQuery} {context : TripsContext} {d : Direction}
  {e : ProviderError}

/-- A call of one of the operations that reach the backend. -/
inductive Call
  | suggest (q : SuggestQuery)
  | nearby (q : NearbyQuery)
  | departures (q : DeparturesQuery)
  | trips (q : TripsQuery)
  | moreTrips (context : TripsContext) (d : Direction)

/-- Keeps a record of the calls of an operation. -/
def recorded (call : Call) (operation : StateM σ α) : StateM (σ × List Call) α := fun (s, calls) =>
  ((operation s).1, (operation s).2, calls ++ [call])

/-- Keeps a record of the calls of all operations, in order. -/
def recording (p : Provider σ) : Provider (σ × List Call) where
  name := p.name
  capabilities := p.capabilities
  suggestLocations q := recorded (.suggest q) (p.suggestLocations q)
  queryNearby q := recorded (.nearby q) (p.queryNearby q)
  queryDepartures q := recorded (.departures q) (p.queryDepartures q)
  requestTrips q := recorded (.trips q) (p.requestTrips q)
  requestMoreTrips context d := recorded (.moreTrips context d) (p.requestMoreTrips context d)

/-- All that the query needs is supported, and its filter leaves some product to travel with. -/
def Permits (p : Provider σ) (q : TripsQuery) : Prop :=
  p.has .trips ∧ (q.via.isSome → p.has .tripsVia) ∧ ¬q.options.products.any ProductSet.isEmpty

/-- The context is one of this provider, and open in the direction. -/
def PermitsMore (p : Provider σ) (context : TripsContext) (d : Direction) : Prop :=
  p.has .trips ∧ context.provider = p.name ∧ context.isOpen d

/-- Fails with nothing but a violated precondition. -/
def Guards (check : Outcome α) : Prop := ∀ e, check = .error e → e.isPrecondition

theorem Guards.precondition {check : Outcome Unit} (h : Guards check) (hfails : check ≠ .ok ()) :
    ∃ e, e.isPrecondition ∧ check = .error e := by
  cases check with
  | error e => exact ⟨e, h e rfl, rfl⟩
  | ok => exact absurd rfl hfails

theorem Guards.bind {β : Type} {check : Outcome α} {further : α → Outcome β} (h : Guards check)
    (hfurther : ∀ a, Guards (further a)) : Guards (check >>= further) := by
  intro e he
  cases check with
  | error e' =>
    cases he
    exact h _ rfl
  | ok a => exact hfurther a e he

theorem Guards.ite {b : Prop} [Decidable b] {check other : Outcome α} (h : Guards check)
    (hother : Guards other) : Guards (if b then check else other) := by
  split
  · exact h
  · exact hother

theorem guards_ok (a : α) : Guards (.ok a) := nofun

theorem guards_error (h : e.isPrecondition) : Guards (.error e : Outcome α) := by
  rintro _ ⟨⟩
  exact h

theorem ensure_guards (p : Provider σ) (c : Capability) : Guards (p.ensure c) :=
  (guards_ok ()).ite (guards_error rfl)

theorem permit_guards (p : Provider σ) (q : TripsQuery) : Guards (p.permit q) := by
  have hvalidate : Guards q.validate := (guards_error rfl).ite (guards_ok ())
  exact (p.ensure_guards .trips).bind fun _ =>
    ((p.ensure_guards .tripsVia).bind fun _ => hvalidate).ite hvalidate

theorem permitMore_guards (p : Provider σ) (context : TripsContext) (d : Direction) :
    Guards (p.permitMore context d) :=
  (p.ensure_guards .trips).bind fun _ =>
    ((guards_ok ()).ite (guards_error rfl)).ite (guards_error rfl)

theorem ensure_eq_ok {c : Capability} : p.ensure c = .ok () ↔ p.has c := by
  rw [ensure]
  split <;> simp_all

theorem permit_eq_ok : p.permit q = .ok () ↔ p.Permits q := by
  constructor
  · intro h
    obtain ⟨_, htrips, h⟩ := eq_ok_of_bind h
    have hrest : (q.via.isSome → p.has .tripsVia) ∧ q.validate = .ok () := by
      by_cases hq : q.via.isSome
      · rw [if_pos hq] at h
        obtain ⟨_, hvia, h⟩ := eq_ok_of_bind h
        exact ⟨fun _ => ensure_eq_ok.mp hvia, h⟩
      · rw [if_neg hq] at h
        exact ⟨fun hvia => absurd hvia hq, h⟩
    refine ⟨ensure_eq_ok.mp htrips, hrest.1, fun hproducts => ?_⟩
    rw [TripsQuery.validate, if_pos hproducts] at hrest
    cases hrest.2
  · rintro ⟨htrips, hvia, hproducts⟩
    rw [permit, ensure_eq_ok.mpr htrips, TripsQuery.validate, if_neg hproducts]
    by_cases hq : q.via.isSome
    · rw [if_pos hq, ensure_eq_ok.mpr (hvia hq)]
      rfl
    · rw [if_neg hq]
      rfl

theorem permitMore_eq_ok : p.permitMore context d = .ok () ↔ p.PermitsMore context d := by
  constructor
  · intro h
    obtain ⟨_, htrips, h⟩ := eq_ok_of_bind h
    split at h
    · rename_i hprovider
      refine ⟨ensure_eq_ok.mp htrips, hprovider, ?_⟩
      by_contra hshut
      rw [TripsContext.ensureOpen, if_neg hshut] at h
      cases h
    · cases h
  · rintro ⟨htrips, hprovider, hopen⟩
    rw [permitMore, ensure_eq_ok.mpr htrips, if_pos hprovider, TripsContext.ensureOpen,
      if_pos hopen]
    rfl

theorem isOpen_of_queryMoreTrips {s s' : σ} {r : TripsResult}
    (h : p.queryMoreTrips context d s = (.ok r, s')) : context.isOpen d :=
  (permitMore_eq_ok.mp (permitMore_of_queryMoreTrips h)).2.2

theorem queryTrips_refused (h : ¬p.Permits q) (s : σ) :
    ∃ e, e.isPrecondition ∧ p.queryTrips q s = (.error e, s) := by
  obtain ⟨e, he, hpermit⟩ :=
    (p.permit_guards q).precondition fun hok => h (permit_eq_ok.mp hok)
  exact ⟨e, he, queryTrips_rejected hpermit⟩

theorem queryMoreTrips_refused (h : ¬p.PermitsMore context d) (s : σ) :
    ∃ e, e.isPrecondition ∧ p.queryMoreTrips context d s = (.error e, s) := by
  obtain ⟨e, he, hpermit⟩ :=
    (p.permitMore_guards context d).precondition fun hok => h (permitMore_eq_ok.mp hok)
  exact ⟨e, he, queryMoreTrips_rejected hpermit⟩

/-- A query that passes is one call. -/
theorem queryTrips_recording (h : p.Permits q) (s : σ) (calls : List Call) :
    p.recording.queryTrips q (s, calls) =
      ((p.requestTrips q s).1.map stamp, (p.requestTrips q s).2, calls ++ [.trips q]) :=
  queryTrips_permitted (p := p.recording) ((permit_eq_ok (p := p.recording)).mpr h)

/-- A continuation that passes is one call. -/
theorem queryMoreTrips_recording (h : p.PermitsMore context d) (s : σ) (calls : List Call) :
    p.recording.queryMoreTrips context d (s, calls) =
      ((p.requestMoreTrips context d s).1.map (advance context.window d),
        (p.requestMoreTrips context d s).2, calls ++ [.moreTrips context d]) :=
  queryMoreTrips_permitted (p := p.recording) ((permitMore_eq_ok (p := p.recording)).mpr h)

end Transit.Provider
