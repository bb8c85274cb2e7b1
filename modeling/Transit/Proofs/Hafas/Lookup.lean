import Mathlib.Data.List.DropRight
import Transit.Proofs.Hafas.Address
import Transit.Proofs.Hafas.Convert
import Transit.Proofs.Hafas.Recording
import Transit.Proofs.Hafas.Resolution

/-! # Look-ups of places

The places of a journey search are visited one after the other. A place that is only named costs one
request, whose answer has to be read for the next place to be visited.
-/
namespace Transit

/-- The places of a query, in the order in which they are visited. -/
def TripsQuery.places (q : TripsQuery) : List Location :=
  q.origin :: (q.via.toList ++ [q.destination])

namespace Hafas

namespace Client

variable {σ : Type} {c : Client} {backend : Backend σ} {q : TripsQuery} {l : Location}
  {ls candidates : List Location} {name : String} {resolution : Resolution}
  {exchanges earlier later : List Exchange}

/-- The request for a name, at the place for locations. -/
def lookup (c : Client) (place : Url) (name : String) : Url :=
  place.withParams (searchParams c.config name .all c.config.maxResults)

/-- A request for the places of some name. -/
def IsLookup (c : Client) (url : Url) : Prop :=
  ∃ name, c.Asks "locations" (lookupParams c.config name) url

theorem asks_lookup {place : Url} (placed : c.endpoint ["locations"] = .ok place) (name : String) :
    c.Asks "locations" (lookupParams c.config name) (c.lookup place name) := by
  rw [lookup, searchParams_all]
  exact asks_of_endpoint (by decide) placed _

/-- The locations that are read from an answer, as far as their types are wanted, in its order. -/
def locationsIn (c : Client) (types : LocationTypes) (answer : Answer) :
    Except Error (List Location) :=
  (c.reading (Json.list? RawLocation.ofJson?) answer).map fun found =>
    (found.2.filterMap RawLocation.toLocation?).filter (types.contains ·.kind)

theorem locationsIn_eq (c : Client) (types : LocationTypes) (answer : Answer) :
    c.locationsIn types answer =
      (c.reading (Json.list? RawLocation.ofJson?) answer).map fun found =>
        locationsOf types found.2 := rfl

theorem kind_of_locationsIn {types : LocationTypes} {answer : Answer}
    (h : c.locationsIn types answer = .ok candidates) (hl : l ∈ candidates) : l.kind ≠ .any := by
  rw [locationsIn] at h
  cases hread : c.reading (Json.list? RawLocation.ofJson?) answer with
  | error e =>
    rw [hread] at h
    cases h
  | ok found =>
    rw [hread] at h
    obtain rfl := Except.ok.inj h
    obtain ⟨raw, -, hraw⟩ := List.mem_filterMap.mp (List.mem_filter.mp hl).1
    exact (RawLocation.fits_of_toLocation? hraw).2

/-- Has the name, up to the case of letters. -/
def HasName (name : String) (l : Location) : Prop :=
  ∃ n, l.name = some n ∧ Text.Case.lower n = Text.Case.lower name

theorem isNamed_iff : isNamed name l = true ↔ HasName name l := by
  rw [isNamed, HasName]
  cases l.name with
  | none => simp
  | some n => simp

/-- What a name comes to among some candidates: the first one of that name, else the only one, else
the choice between them. -/
inductive Settles (name : String) : List Location → Resolution → Prop
  | named {before after : List Location} {l : Location}
    (first : ∀ other ∈ before, ¬HasName name other) (named : HasName name l) :
    Settles name (before ++ l :: after) (.unique l)
  | only {l : Location} (unnamed : ¬HasName name l) : Settles name [l] (.unique l)
  | several {ls : List Location} (unnamed : ∀ l ∈ ls, ¬HasName name l)
    (choice : 2 ≤ ls.length) : Settles name ls (.ambiguous ls)
  | nothing : Settles name [] .unknown

theorem settles_choose (name : String) (candidates : List Location) :
    Settles name candidates (choose name candidates) := by
  cases hfind : candidates.find? (isNamed name) with
  | some l =>
    obtain ⟨hnamed, before, after, rfl, hbefore⟩ := List.find?_eq_some_iff_append.mp hfind
    rw [choose.eq_def, hfind]
    refine .named (fun other hother hname => ?_) (isNamed_iff.mp hnamed)
    have hunnamed := hbefore other hother
    rw [isNamed_iff.mpr hname] at hunnamed
    cases hunnamed
  | none =>
    have hunnamed : ∀ l ∈ candidates, ¬HasName name l := fun l hl hname =>
      List.find?_eq_none.mp hfind l hl (isNamed_iff.mpr hname)
    rw [choose.eq_def, hfind]
    rcases candidates with _ | ⟨l, _ | ⟨other, rest⟩⟩
    · exact .nothing
    · exact .only (hunnamed l List.mem_cons_self)
    · exact .several hunnamed (Nat.le_add_left 2 rest.length)

theorem Settles.mem (h : Settles name candidates (.unique l)) : l ∈ candidates := by
  cases h with
  | named first named => simp
  | only unnamed => simp

/-- A name without the blanks around it. -/
def bareName (name : String) : String :=
  String.ofList ((name.toList.dropWhile Text.isBlank).rdropWhile Text.isBlank)

theorem bareName_eq (name : String) : bareName name = Text.trim name := rfl

/-- The name to look a place up by: if nothing but a name is known of it, this name without the
blanks around it, unless nothing is left. -/
def lookupName? (l : Location) : Option String :=
  match l.kind, l.name with
  | .any, some name => if bareName name = "" then none else some (bareName name)
  | _, _ => none

theorem lookupName?_eq (l : Location) : lookupName? l =
    if l.isUnresolved && !(nameOf l).isEmpty then some (nameOf l) else none := by
  have hblank : bareName "" = "" := rfl
  rw [lookupName?.eq_def, nameOf, Location.isUnresolved]
  cases l.kind <;> cases l.name <;> simp [hblank, ← bareName_eq]

theorem lookupName?_eq_some :
    lookupName? l = some name ↔ l.kind = .any ∧ nameOf l = name ∧ name ≠ "" := by
  rw [lookupName?_eq]
  by_cases hkind : l.kind = .any <;> by_cases hname : nameOf l = "" <;>
    simp [Location.isUnresolved, hkind, hname]
  rintro rfl
  exact hname

theorem lookupName?_eq_none : lookupName? l = none ↔ (l.kind = .any → nameOf l = "") := by
  rw [lookupName?_eq]
  by_cases hkind : l.kind = .any <;> by_cases hname : nameOf l = "" <;>
    simp [Location.isUnresolved, hkind, hname]

/-- All that one place can come to, and the requests it takes: none if it is given or if its name is
blank, else one. -/
inductive Visit (c : Client) (l : Location) : List Exchange → Option Resolution → Prop
  | given (known : l.kind ≠ .any) : Visit c l [] (some (.unique l))
  | blank (named : l.kind = .any) (blank : lookupName? l = none) : Visit c l [] (some .unknown)
  | unsent {name : String} {e : Error} (wanted : lookupName? l = some name)
    (misplaced : c.endpoint ["locations"] = .error e) : Visit c l [] none
  | failed {name : String} {url : Url} {answer : Answer} {e : Error}
    (wanted : lookupName? l = some name)
    (asked : c.Asks "locations" (lookupParams c.config name) url)
    (unread : c.locationsIn .all answer = .error e) : Visit c l [(url, answer)] none
  | answered {name : String} {url : Url} {answer : Answer} {candidates : List Location}
    {resolution : Resolution} (wanted : lookupName? l = some name)
    (asked : c.Asks "locations" (lookupParams c.config name) url)
    (read : c.locationsIn .all answer = .ok candidates)
    (settled : Settles name candidates resolution) : Visit c l [(url, answer)] (some resolution)

/-- Places that are visited one after the other, up to the first one that nothing is learnt of. -/
inductive Visits (c : Client) : List Location → List Exchange → Option (List Resolution) → Prop
  | done : Visits c [] [] (some [])
  | stopped {l : Location} {ls : List Location} {exchanges : List Exchange}
    (visit : Visit c l exchanges none) : Visits c (l :: ls) exchanges none
  | next {l : Location} {ls : List Location} {earlier later : List Exchange}
    {resolution : Resolution} {found : Option (List Resolution)}
    (visit : Visit c l earlier (some resolution)) (rest : Visits c ls later found) :
    Visits c (l :: ls) (earlier ++ later) (found.map (resolution :: ·))

/-- The names to look up, in the order of the places. -/
def namesOf (ls : List Location) : List String := ls.filterMap lookupName?

theorem namesOf_cons (l : Location) (ls : List Location) :
    namesOf (l :: ls) = (lookupName? l).toList ++ namesOf ls := by
  rw [namesOf, List.filterMap_cons]
  cases lookupName? l <;> rfl

/-- A request for the places of a name. -/
def Asking (c : Client) (name : String) (x : Exchange) : Prop :=
  c.Asks "locations" (lookupParams c.config name) x.1

/-- A place is asked for by its name to look up, if it has one; only where nothing is learnt it may
not have been. -/
theorem Visit.asked {outcome : Option Resolution} (h : Visit c l exchanges outcome) :
    ∃ asked, List.Forall₂ (Asking c) asked exchanges ∧ asked <+: (lookupName? l).toList ∧
      (outcome.isSome → asked = (lookupName? l).toList) := by
  cases h with
  | given known =>
    have hnone : lookupName? l = none := lookupName?_eq_none.mpr fun hkind => absurd hkind known
    exact ⟨[], .nil, List.nil_prefix, fun _ => by rw [hnone]; rfl⟩
  | blank named blank => exact ⟨[], .nil, List.nil_prefix, fun _ => by rw [blank]; rfl⟩
  | unsent wanted misplaced => exact ⟨[], .nil, List.nil_prefix, nofun⟩
  | failed wanted asked unread =>
    exact ⟨_, .cons asked .nil, by rw [wanted]; exact List.prefix_rfl, nofun⟩
  | answered wanted asked read settled =>
    exact ⟨_, .cons asked .nil, by rw [wanted]; exact List.prefix_rfl, fun _ => by rw [wanted]; rfl⟩

/-- The requests ask for the names in their order, up to where the visits stop. -/
theorem Visits.asked_in_order {found : Option (List Resolution)} (h : Visits c ls exchanges found) :
    ∃ asked, List.Forall₂ (Asking c) asked exchanges ∧ asked <+: namesOf ls ∧
      (found.isSome → asked = namesOf ls) := by
  induction h with
  | done => exact ⟨[], .nil, List.nil_prefix, fun _ => rfl⟩
  | stopped visit =>
    obtain ⟨asked, hasked, hprefix, -⟩ := visit.asked
    rw [namesOf_cons]
    exact ⟨asked, hasked, hprefix.trans (List.prefix_append _ _), nofun⟩
  | next visit rest ih =>
    -- Something was learnt of this place, so its name, if it has one to look up, was asked for.
    obtain ⟨asked, hasked, -, hall⟩ := visit.asked
    obtain ⟨later, hlater, hprefix, hrest⟩ := ih
    obtain rfl := hall rfl
    rw [namesOf_cons]
    refine ⟨_, List.rel_append hasked hlater, (List.prefix_append_right_inj _).mpr hprefix, ?_⟩
    intro hfound
    rw [Option.isSome_map] at hfound
    rw [hrest hfound]

/-- There is a request for each name, unless the visits have been stopped before. -/
theorem Visits.length_eq {found : List Resolution} (h : Visits c ls exchanges (some found)) :
    exchanges.length = (namesOf ls).length := by
  obtain ⟨asked, hasked, -, hall⟩ := h.asked_in_order
  rw [← hasked.length_eq, hall rfl]

theorem Visit.isLookup {outcome : Option Resolution} (h : Visit c l exchanges outcome) :
    ∀ e ∈ exchanges, c.IsLookup e.1 := by
  intro e he
  cases h with
  | given | blank | unsent => cases he
  | failed wanted asked | answered wanted asked =>
    obtain rfl := List.mem_singleton.mp he
    exact ⟨_, asked⟩

theorem Visits.isLookup {found : Option (List Resolution)} (h : Visits c ls exchanges found) :
    ∀ e ∈ exchanges, c.IsLookup e.1 := by
  intro e he
  induction h with
  | done => cases he
  | stopped visit => exact visit.isLookup e he
  | next visit rest ih => exact (List.mem_append.mp he).elim (visit.isLookup e) ih

/-- No request is made for a place that is known. -/
theorem Visit.known {outcome : Option Resolution} (h : Visit c l exchanges outcome)
    (hknown : l.kind ≠ .any) : exchanges = [] := by
  cases h with
  | given | blank | unsent => rfl
  | failed wanted | answered wanted => exact absurd (lookupName?_eq_some.mp wanted).1 hknown

theorem Visits.known {found : Option (List Resolution)} (h : Visits c ls exchanges found)
    (hknown : ∀ l ∈ ls, l.kind ≠ .any) : exchanges = [] := by
  induction h with
  | done => rfl
  | stopped visit => exact visit.known (hknown _ List.mem_cons_self)
  | next visit rest ih =>
    rw [visit.known (hknown _ List.mem_cons_self),
      ih fun l hl => hknown l (List.mem_cons_of_mem _ hl), List.append_nil]

theorem Visits.stop (h : Visits c ls exchanges none) (more : List Location) :
    Visits c (ls ++ more) exchanges none := by
  generalize hfound : (none : Option (List Resolution)) = found at h
  induction h with
  | done => cases hfound
  | stopped visit => exact .stopped visit
  | @next l ls earlier later resolution found visit rest ih =>
    cases found with
    | none =>
      have hnext := Visits.next visit (ih rfl)
      exact hnext
    | some found => cases hfound

theorem Visits.append {found : List Resolution} {more : List Location}
    {found' : Option (List Resolution)} (h : Visits c ls earlier (some found))
    (hmore : Visits c more later found') :
    Visits c (ls ++ more) (earlier ++ later) (found'.map (found ++ ·)) := by
  generalize hfound : some found = first at h
  induction h generalizing found with
  | done =>
    cases hfound
    simpa using hmore
  | stopped visit => cases hfound
  | @next l ls earlier rest resolution first visit hrest ih =>
    cases first with
    | none => cases hfound
    | some first =>
      cases hfound
      have hlater := Visits.next visit (ih rfl)
      rw [Option.map_map] at hlater
      rw [List.append_assoc]
      exact hlater

theorem Visits.single {resolution : Resolution} (h : Visit c l exchanges (some resolution)) :
    Visits c [l] exchanges (some [resolution]) := by
  simpa using Visits.next h .done

theorem search_traces (c : Client) (backend : Backend σ) (words : String) (types : LocationTypes)
    (limit : Nat) :
    Traces (Requests c ["locations"] (searchParams c.config words types limit)
        (c.locationsIn types))
      (c.search backend words types limit) (c.search backend.recording words types limit) :=
  fetchAs_map_traces c backend _ (fun found => locationsOf types found.2) _ _

/-- A place is visited as its kind and its name say. -/
theorem resolve_traces (c : Client) (backend : Backend σ) (l : Location) :
    Traces (fun exchanges outcome => Visit c l exchanges outcome.toOption) (c.resolve backend l)
      (c.resolve backend.recording l) := by
  rw [resolve, resolve]
  split
  · rename_i hknown
    exact Traces.of_return (.given (by simpa [Location.isUnresolved] using hknown))
  · rename_i hnamed
    have hnamed : l.kind = .any := by simpa [Location.isUnresolved] using hnamed
    split
    · rename_i hblank
      have hblank : lookupName? l = none :=
        lookupName?_eq_none.mpr fun _ => String.isEmpty_iff.mp hblank
      exact Traces.of_return (.blank hnamed hblank)
    · rename_i hwanted
      have hwanted : lookupName? l = some (nameOf l) :=
        lookupName?_eq_some.mpr ⟨hnamed, rfl, mt String.isEmpty_iff.mpr hwanted⟩
      refine Fetched.traces_map (search_traces c backend (nameOf l) .all c.config.maxResults) ?_
      intro exchanges outcome h
      cases h with
      | misplaced place => exact .unsent hwanted place
      | @sent url place answer =>
        have hasked : c.Asks "locations" (lookupParams c.config (nameOf l)) _ :=
          asks_lookup place (nameOf l)
        cases hread : c.locationsIn .all answer with
        | error e => exact .failed hwanted hasked hread
        | ok candidates => exact .answered hwanted hasked hread (settles_choose _ _)

/-- What the visits of the places of a query come to. -/
def Endpoints.Located (c : Client) (q : TripsQuery) (exchanges : List Exchange) :
    Except Error Endpoints → Prop
  | .error _ => Visits c q.places exchanges none
  | .ok endpoints => ∃ (origin : Resolution) (via : Option Resolution) (destination : Resolution),
    endpoints = combine origin via destination ∧
      Visits c q.places exchanges (some (origin :: (via.toList ++ [destination])))

theorem resolveVia_traces (c : Client) (backend : Backend σ) (via : Option Location) :
    Traces (fun exchanges outcome =>
        Visits c via.toList exchanges (outcome.toOption.map Option.toList))
      (c.resolveVia backend via) (c.resolveVia backend.recording via) := by
  cases via with
  | none => exact Traces.of_return .done
  | some l =>
    refine Fetched.traces_map (resolve_traces c backend l) ?_
    intro exchanges outcome h
    cases outcome with
    | error e => exact .stopped h
    | ok resolution => exact .single h

/-- The places of a search are visited in their order. -/
theorem resolveEndpoints_traces (c : Client) (backend : Backend σ) (q : TripsQuery) :
    Traces (Endpoints.Located c q) (c.resolveEndpoints backend q)
      (c.resolveEndpoints backend.recording q) := by
  refine Fetched.traces_bind (resolve_traces c backend q.origin) (fun earlier e h => .stopped h) ?_
  intro first origin horigin
  refine Fetched.traces_bind (resolveVia_traces c backend q.via) ?_ ?_
  · intro second e hvia
    have hstop := Visits.next horigin (hvia.stop [q.destination])
    exact hstop
  intro second via hvia
  refine Fetched.traces_map (resolve_traces c backend q.destination) ?_
  intro third outcome h
  cases outcome with
  | error e =>
    have hstopped : Visits c [q.destination] third none := .stopped h
    have hstop := Visits.next horigin (hvia.append hstopped)
    exact hstop
  | ok destination =>
    exact ⟨origin, via, destination, rfl, .next horigin (hvia.append (.single h))⟩

/-- Nothing but places is asked for while the places of a search are visited. -/
theorem resolveEndpoints_records (c : Client) (backend : Backend σ) (q : TripsQuery) :
    Traces (fun exchanges _ => ∀ e ∈ exchanges, c.IsLookup e.1) (c.resolveEndpoints backend q)
      (c.resolveEndpoints backend.recording q) := by
  refine (resolveEndpoints_traces c backend q).mono fun exchanges outcome h => ?_
  cases outcome with
  | error e => exact Visits.isLookup h
  | ok endpoints =>
    obtain ⟨origin, via, destination, -, hvisits⟩ := h
    exact hvisits.isLookup

end Client

end Hafas

end Transit
