import Transit.Proofs.Hafas.Journeys
import Transit.Proofs.Hafas.Recording
import Transit.Proofs.Permission

/-! # Contexts that lead nowhere

A context may be permitted without being one of a search: its bytes need not be those of a token,
nor its token have a reference for an open direction. Nothing is sent for such a context either.
-/
namespace Transit.Hafas

open Provider (Guards Call)

theorem JourneyToken.ofContext_guards (context : TripsContext) : Guards (ofContext context) := by
  rw [ofContext, ContextToken.decode]
  split
  · exact Provider.guards_ok _
  · exact Provider.guards_error rfl

/-- There is nothing in the context to go on from in a direction. -/
def Unreferenced (context : TripsContext) (d : Direction) : Prop :=
  ∀ token, JourneyToken.ofContext context = .ok token → token.reference d = none

namespace Client

variable {σ τ : Type} {context : TripsContext} {d : Direction}

theorem requestMoreTrips_unreferenced (c : Client) (backend : Backend σ)
    (h : Unreferenced context d) (s : σ) :
    ∃ e, e.isPrecondition ∧ c.requestMoreTrips backend context d s = (.error e, s) := by
  have hcontinued := requestMoreTrips_continued c backend context d s
  generalize c.requestMoreTrips backend context d s = outcome at hcontinued
  cases hcontinued with
  | unreadable decoded => exact ⟨_, JourneyToken.ofContext_guards context _ decoded, rfl⟩
  | ended decoded referred => exact ⟨_, rfl, rfl⟩
  | sent decoded referred request =>
    rw [h _ decoded] at referred
    cases referred

theorem queryMoreTrips_unreferenced (c : Client) (backend : Backend σ)
    (h : Unreferenced context d) (s : σ) :
    ∃ e, e.isPrecondition ∧ (c.provider backend).queryMoreTrips context d s = (.error e, s) := by
  by_cases hpermits : (c.provider backend).PermitsMore context d
  · obtain ⟨e, he, hrequest⟩ := requestMoreTrips_unreferenced c backend h s
    have hrequest' : (c.provider backend).requestMoreTrips context d s = (.error e, s) := hrequest
    refine ⟨e, he, ?_⟩
    rw [Provider.queryMoreTrips_permitted (Provider.permitMore_eq_ok.mpr hpermits), hrequest']
    rfl
  · exact Provider.queryMoreTrips_refused hpermits s

/-- What is permitted is one call of the backend, and what is not is none: it is rejected as a
violated precondition. So is a continuation that has nothing to go on from, whatever context it was
given, and no request is sent for it. -/
theorem refusals_send_nothing (p : Provider σ) (q : TripsQuery) (context : TripsContext)
    (d : Direction) (s : σ) (calls : List Call) (c : Client) (backend : Backend τ) (t : τ)
    (log : List Exchange) :
    (p.PermitsMore context d → p.recording.queryMoreTrips context d (s, calls) =
      ((p.requestMoreTrips context d s).1.map (Provider.advance context.window d),
        (p.requestMoreTrips context d s).2, calls ++ [.moreTrips context d])) ∧
    (¬p.PermitsMore context d → ∃ e, e.isPrecondition ∧
      p.recording.queryMoreTrips context d (s, calls) = (.error e, s, calls)) ∧
    (p.Permits q → p.recording.queryTrips q (s, calls) =
      ((p.requestTrips q s).1.map Provider.stamp, (p.requestTrips q s).2, calls ++ [.trips q])) ∧
    (¬p.Permits q → ∃ e, e.isPrecondition ∧
      p.recording.queryTrips q (s, calls) = (.error e, s, calls)) ∧
    (Unreferenced context d → ∃ e, e.isPrecondition ∧
      (c.provider backend.recording).queryMoreTrips context d (t, log) = (.error e, t, log)) :=
  ⟨fun h => Provider.queryMoreTrips_recording h s calls,
    fun h => Provider.queryMoreTrips_refused (p := p.recording) h (s, calls),
    fun h => Provider.queryTrips_recording h s calls,
    fun h => Provider.queryTrips_refused (p := p.recording) h (s, calls),
    fun h => queryMoreTrips_unreferenced c backend.recording h (t, log)⟩

/-- A context that claims to be open in both directions, but whose token has no bytes. -/
def emptyContext (provider : String) : TripsContext := ⟨provider, true, true, ⟨[]⟩, none⟩

theorem unreferenced_emptyContext (provider : String) (d : Direction) :
    Unreferenced (emptyContext provider) d := by
  intro token h
  have hcorrupt : JourneyToken.ofContext (emptyContext provider) = .error ContextToken.corrupt := by
    rfl
  rw [hcorrupt] at h
  cases h

def viaQuery : TripsQuery := { TripsQuery.walk with via := some (.station "3") }

theorem walks_refusals_send_nothing :
    (Provider.walks.recording.queryMoreTrips (emptyContext "") .later ((), [])).2.2 =
        [.moreTrips (emptyContext "") .later] ∧
      (∃ e, e.isPrecondition ∧ Provider.walks.recording.queryMoreTrips (emptyContext "hafas") .later
        ((), []) = (.error e, (), [])) ∧
      (Provider.walks.recording.queryTrips .walk ((), [])).2.2 = [.trips .walk] ∧
      (∃ e, e.isPrecondition ∧
        Provider.walks.recording.queryTrips viaQuery ((), []) = (.error e, (), [])) ∧
      ∃ e, e.isPrecondition ∧ (walkClient.provider walkBackend.recording).queryMoreTrips
        (emptyContext "hafas") .later ((), []) = (.error e, (), []) := by
  obtain ⟨hmore, -, -, hvia, -⟩ := refusals_send_nothing Provider.walks viaQuery (emptyContext "")
    .later () [] walkClient walkBackend () []
  obtain ⟨-, hforeign, htrips, -, hcorrupt⟩ := refusals_send_nothing Provider.walks .walk
    (emptyContext "hafas") .later () [] walkClient walkBackend () []
  have hunsupported : ¬Provider.walks.Permits viaQuery := by
    rintro ⟨-, hsupported, -⟩
    exact absurd (hsupported rfl) (by decide)
  have hname : ¬Provider.walks.PermitsMore (emptyContext "hafas") .later := by
    rintro ⟨-, hprovider, -⟩
    exact absurd hprovider (by decide)
  refine ⟨?_, hforeign hname, ?_, hvia hunsupported, hcorrupt (unreferenced_emptyContext _ _)⟩
  · rw [hmore ⟨rfl, rfl, rfl⟩]
    rfl
  · rw [htrips ⟨rfl, nofun, nofun⟩]
    rfl

end Client

end Transit.Hafas
