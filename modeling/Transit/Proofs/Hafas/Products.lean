import Transit.Proofs.Hafas.Course
import Transit.Proofs.Hafas.Paging

/-! # The products that a search is for

A request for journeys has a switch for each product but cable cars. A filter without products is
rejected, and so is one with nothing but cable cars. A set that is read from a number may have a bit
that no product has, though: then the filter is not empty, and every switch is off.
-/
namespace Transit

namespace ProductSet

/-- Made of products, and not read from a number. -/
inductive Built : ProductSet → Prop
  | empty : Built .empty
  | full : Built .full
  | ofBits (bits : UInt8) : Built (.ofBits bits)
  | insert {s : ProductSet} (rest : Built s) (p : Product) : Built (s.insert p)
  | erase {s : ProductSet} (whole : Built s) (p : Product) : Built (s.erase p)

/-- Nothing but the bit that no product has, with or without cable cars. -/
def IsStray (s : ProductSet) : Prop := s.bits = 128 ∨ s.bits = 160

variable {s : ProductSet}

/-- The bits of products are the lower seven. -/
theorem Built.bits_lt (h : Built s) : s.bits.toNat < 2 ^ 7 := by
  induction h with
  | empty | full => decide
  | ofBits bits =>
    rw [ProductSet.ofBits, UInt8.toNat_and]
    exact Nat.lt_of_le_of_lt Nat.and_le_right (by decide)
  | insert rest p ih =>
    have hbit : p.bit.toNat < 2 ^ 7 := by cases p <;> decide
    rw [ProductSet.insert, UInt8.toNat_or]
    exact Nat.or_lt_two_pow ih hbit
  | erase whole p ih =>
    rw [ProductSet.erase, UInt8.toNat_and]
    exact Nat.lt_of_le_of_lt Nat.and_le_left ih

theorem Built.not_isStray (h : Built s) : ¬s.IsStray := by
  have hbits := h.bits_lt
  rintro (hstray | hstray) <;> rw [hstray] at hbits <;> exact absurd hbits (by decide)

end ProductSet

namespace Hafas

variable {config : Config} {q : TripsQuery} {origin destination : Location} {via : Option Location}
  {params : Params} {s : ProductSet}

/-- Some product of the set has a switch. -/
def HasSwitch (s : ProductSet) : Prop := ∃ entry ∈ productSwitches, s.contains entry.2 = true

instance : DecidablePred HasSwitch := fun _ =>
  inferInstanceAs (Decidable (∃ entry ∈ productSwitches, _))

/-- A filter that is let through switches some product on, unless it is stray. -/
theorem hasSwitch_iff (hempty : s.isEmpty = false) (hfiltered : isUnfiltered s = false) :
    HasSwitch s ↔ ¬s.IsStray := by
  have hall : ∀ n < 256, (ProductSet.mk (.ofNat n)).isEmpty = false →
      isUnfiltered ⟨.ofNat n⟩ = false →
        (HasSwitch ⟨.ofNat n⟩ ↔ ¬(UInt8.ofNat n = 128 ∨ UInt8.ofNat n = 160)) := by
    decide +kernel
  have hs := hall s.bits.toNat s.bits.toNat_lt
  rw [UInt8.ofNat_toNat] at hs
  exact hs hempty hfiltered

/-- Some product is switched on. -/
def SwitchesOn (params : Params) : Prop :=
  ∃ name ∈ productSwitches.map Prod.fst, (name, "true") ∈ params

theorem switchesOn_append {more : Params} :
    SwitchesOn (params ++ more) ↔ SwitchesOn params ∨ SwitchesOn more := by
  simp only [SwitchesOn, List.mem_append, and_or_left, exists_or]

theorem flag_eq_true {b : Bool} : flag b = "true" ↔ b = true := by
  cases b <;> decide

theorem switchesOn_productParams (h : productParams s = .ok params) :
    SwitchesOn params ↔ HasSwitch s := by
  rw [productParams] at h
  split at h
  · cases h
  · cases h
    simp only [SwitchesOn, HasSwitch, List.mem_map, Prod.mk.injEq, flag_eq_true]
    constructor
    · rintro ⟨-, -, entry, hentry, -, hon⟩
      exact ⟨entry, hentry, hon⟩
    · rintro ⟨entry, hentry, hon⟩
      exact ⟨entry.1, ⟨entry, hentry, rfl⟩, entry, hentry, rfl, hon⟩

/-- Parameters from another vocabulary switch nothing on. -/
theorem not_switchesOn {vocabulary : List String} (h : (keys params).Sublist vocabulary)
    (hdisjoint : ∀ name ∈ productSwitches.map Prod.fst, name ∉ vocabulary) :
    ¬SwitchesOn params := by
  rintro ⟨name, hname, hparam⟩
  exact hdisjoint name hname (h.mem (List.mem_map_of_mem hparam))

/-- The products that a search is for. -/
def wanted (config : Config) (q : TripsQuery) : ProductSet :=
  q.options.products.getD config.defaultProducts

theorem switchesOn_journeyParams (h : journeyParams config q origin via destination = .ok params) :
    SwitchesOn params ↔ HasSwitch (wanted config q) := by
  obtain ⟨os, vs, ds, ps, hos, hvs, hds, hps, rfl⟩ := journeyParams_eq_ok h
  have hfrom := not_switchesOn (keys_endpointParams hos) (by decide)
  have hvia := not_switchesOn (keys_viaParams hvs) (by decide)
  have hto := not_switchesOn (keys_endpointParams hds) (by decide)
  have hpageKeys : (keys (pageParams config)).Sublist pageKeys := List.Sublist.refl _
  have hpage := not_switchesOn hpageKeys (by decide)
  have hoptions := not_switchesOn (keys_optionParams q.options) (by decide)
  simp only [switchesOn_append, hfrom, hvia, hto, hpage, hoptions, false_or, or_false]
  exact switchesOn_productParams hps

/-- Where a page begins has nothing to do with the products. -/
theorem switchesOn_placed {p : String × String} (h : p.1 ∈ placeKeys) :
    SwitchesOn (params ++ [p]) ↔ SwitchesOn params := by
  have hkeys : (keys [p]).Sublist placeKeys := List.singleton_sublist.mpr h
  have hplace := not_switchesOn hkeys (by decide)
  rw [switchesOn_append, or_iff_left hplace]

namespace Client

variable {σ : Type} {c : Client} {backend : Backend σ} {triage : Triage}
  {context context' : TripsContext} {d : Direction} {exchanges : List Exchange} {on : Prop}

theorem defaultProducts_isEmpty (h : config.complaint? = none) :
    config.defaultProducts.isEmpty = false := by
  rw [Config.complaint?] at h
  split_ifs at h with _ _ _ _ _ hempty
  exact Bool.eq_false_iff.mpr hempty

theorem create_eq_ok (h : create config triage = .ok c) :
    c.config = config ∧ config.complaint? = none := by
  rw [create.eq_def] at h
  split at h
  · cases h
  · rename_i hcomplaint
    split at h
    · cases h
    · split at h
      · cases h
        exact ⟨rfl, hcomplaint⟩
      · cases h

/-- What a client is asked for is never an empty set of products. -/
theorem wanted_isEmpty (created : create config triage = .ok c)
    (permitted : (c.provider backend).Permits q) : (wanted c.config q).isEmpty = false := by
  obtain ⟨rfl, hcomplaint⟩ := create_eq_ok created
  obtain ⟨-, -, hfilter⟩ := permitted
  rw [wanted]
  cases hproducts : q.options.products with
  | none => exact defaultProducts_isEmpty hcomplaint
  | some products =>
    rw [hproducts] at hfilter
    exact Bool.eq_false_iff.mpr hfilter

theorem isUnfiltered_wanted (h : journeyParams config q origin via destination = .ok params) :
    isUnfiltered (wanted config q) = false := by
  obtain ⟨-, -, -, ps, -, -, -, hps, -⟩ := journeyParams_eq_ok h
  rw [productParams] at hps
  split at hps
  · cases hps
  · rename_i hfiltered
    exact Bool.eq_false_iff.mpr hfiltered

/-- A request for journeys, with a product switched on just if `on` holds. -/
def IsSearchWith (c : Client) (on : Prop) (x : Exchange) : Prop :=
  ∃ url params, c.endpoint ["journeys"] = .ok url ∧ x.1 = url.withParams params ∧
    (SwitchesOn params ↔ on)

/-- The request for journeys of a search, if it has one. -/
theorem Concludes.isSearchWith {found : Option (List Resolution)} {outcome : Outcome TripsResult}
    (h : Concludes c q found exchanges outcome) (hempty : (wanted c.config q).isEmpty = false) :
    ∀ x ∈ exchanges, c.IsSearchWith (¬(wanted c.config q).IsStray) x := by
  cases h with
  | down | unknownFrom | unknownVia | unknownTo | ambiguous | rejected | misplaced =>
    exact List.forall_mem_nil _
  | @searched o d v params url checked asked answer =>
    obtain ⟨place, hplace, hurl⟩ := asked.sent
    rw [List.forall_mem_singleton]
    refine ⟨place, _, hplace, hurl, ?_⟩
    rw [switchesOn_placed (timeKey_mem q), switchesOn_journeyParams checked]
    exact hasSwitch_iff hempty (isUnfiltered_wanted checked)

/-! ### The further requests of a session -/

/-- From a context to that of a further page. -/
def Leads (c : Client) (backend : Backend σ) (context context' : TripsContext) : Prop :=
  ∃ d s r s', (c.provider backend).queryMoreTrips context d s = (.ok r, s') ∧
    r.context = some context'

/-- The parameters that a context repeats have a product switched on just if `on` holds. -/
def Repeats (on : Prop) (context : TripsContext) : Prop :=
  ∀ token, JourneyToken.ofContext context = .ok token → (SwitchesOn token.params ↔ on)

theorem params_advance (token : JourneyToken) (d : Direction)
    (earlierRef laterRef : Option String) :
    (token.advance d earlierRef laterRef).params = token.params := by
  cases d <;> rfl

theorem repeats_toContext {token : JourneyToken} (h : SwitchesOn token.params ↔ on)
    (window : Option DepartureWindow) : Repeats on { token.toContext with window } := by
  intro token' htoken
  have hread : JourneyToken.ofContext { token.toContext with window } = .ok token :=
    JourneyToken.ofContext_of_token rfl
  obtain rfl := Except.ok.inj (hread.symm.trans htoken)
  exact h

theorem Concludes.repeats {found : Option (List Resolution)} {r : TripsResult}
    (h : Concludes c q found exchanges (.ok r)) (hempty : (wanted c.config q).isEmpty = false)
    (hcontext : r.context = some context) : Repeats (¬(wanted c.config q).IsStray) context := by
  cases h with
  | down | unknownFrom | unknownVia | unknownTo | ambiguous | misplaced => cases hcontext
  | searched checked asked answer =>
    cases hpage : c.pageIn answer with
    | error e =>
      rw [hpage] at hcontext
      cases hcontext
    | ok page =>
      rw [hpage] at hcontext
      by_cases htrips : page.trips = []
      · rw [presented, opening, htrips] at hcontext
        cases hcontext
      · obtain ⟨window, hpresented⟩ := context_presented htrips c ..
        rw [hpresented] at hcontext
        cases hcontext
        refine repeats_toContext ?_ window
        rw [switchesOn_journeyParams checked]
        exact hasSwitch_iff hempty (isUnfiltered_wanted checked)

/-- A further page leaves the parameters as they are. -/
theorem Continues.repeats {r : TripsResult} (h : Continues c context d exchanges (.ok r))
    (hrepeats : Repeats on context) (hcontext : r.context = some context') :
    Repeats on context' := by
  cases h with
  | misplaced decoded place =>
    rw [(advance_turned_error (c := c) ..).2] at hcontext
    cases hcontext
  | sent decoded referred place answer =>
    cases hpage : c.pageIn answer with
    | error e =>
      rw [hpage, (advance_turned_error (c := c) ..).2] at hcontext
      cases hcontext
    | ok page =>
      obtain ⟨-, window, hturned⟩ := advance_turned_ok (c := c) context.window _ d page
      rw [hpage, hturned] at hcontext
      cases hcontext
      refine repeats_toContext ?_ window
      rw [params_advance]
      exact hrepeats _ decoded

theorem Continues.isSearchWith {outcome : Outcome TripsResult}
    (h : Continues c context d exchanges outcome) (hrepeats : Repeats on context) :
    ∀ x ∈ exchanges, c.IsSearchWith on x := by
  cases h with
  | rejected | misplaced => exact List.forall_mem_nil _
  | @sent token reference url decoded referred place answer =>
    rw [List.forall_mem_singleton]
    refine ⟨url, token.params ++ [referenceParam d reference], place, rfl, ?_⟩
    rw [referenceParam_eq, switchesOn_placed (continuationKey_mem d)]
    exact hrepeats _ decoded

theorem repeats_of_leads (h : Repeats on context) (hleads : Leads c backend context context') :
    Repeats on context' := by
  obtain ⟨d, s, r, s', hrun, hcontext⟩ := hleads
  obtain ⟨exchanges, -, hcontinues⟩ := queryMoreTrips_traces c backend context d s []
  rw [hrun] at hcontinues
  exact hcontinues.repeats h hcontext

theorem repeats_of_reached (h : Repeats on context)
    (hreached : Relation.ReflTransGen (Leads c backend) context context') :
    Repeats on context' := by
  induction hreached with
  | refl => exact h
  | tail _ hleads ih => exact repeats_of_leads ih hleads

/-- The usual client finds a place for its requests. -/
theorem usual_client :
    ∃ c url, create .forTesting .usual = .ok c ∧ c.endpoint ["journeys"] = .ok url := by
  have hmade : (create .forTesting .usual).toOption.any
      (fun c => (c.endpoint ["journeys"]).toOption.isSome) = true := by decide +kernel
  cases hcreate : create .forTesting .usual with
  | error e =>
    rw [hcreate] at hmade
    cases hmade
  | ok c =>
    rw [hcreate] at hmade
    cases hurl : c.endpoint ["journeys"] with
    | error e => simp [Except.toOption, hurl] at hmade
    | ok url => exact ⟨c, url, rfl, hurl⟩

/-- Every request for journeys that a search sends, and every one that its session sends later on,
has a product switched on, unless the set that the search is for is stray. A set made of products
never is. -/
theorem journeys_switched (created : create config triage = .ok c)
    (permitted : (c.provider backend).Permits q) (s : σ) :
    ∃ outcome s' lookups found search,
      (c.provider backend.recording).queryTrips q (s, []) = (outcome, s', lookups ++ search) ∧
      Visits c q.places lookups found ∧
      (∀ x ∈ search, c.IsSearchWith (¬(wanted config q).IsStray) x) ∧
      (∀ r context context', outcome = .ok r → r.context = some context →
        Relation.ReflTransGen (Leads c backend) context context' →
          ∀ d t outcome' t' log, (c.provider backend.recording).queryMoreTrips context' d (t, []) =
            (outcome', t', log) → ∀ x ∈ log, c.IsSearchWith (¬(wanted config q).IsStray) x) ∧
      ((wanted config q).Built → ¬(wanted config q).IsStray) := by
  have hempty := wanted_isEmpty created permitted
  obtain ⟨rfl, -⟩ := create_eq_ok created
  obtain ⟨exchanges, hrun, lookups, found, search, rfl, hvisits, hends⟩ :=
    queryTrips_traces permitted s []
  refine ⟨_, _, lookups, found, search, hrun, hvisits, hends.isSearchWith hempty, ?_,
    ProductSet.Built.not_isStray⟩
  intro r context context' hr hcontext hreached d t outcome' t' log hmore
  rw [hr] at hends
  have hrepeats := repeats_of_reached (hends.repeats hempty hcontext) hreached
  exact ((queryMoreTrips_traces c backend context' d).of_run hmore).isSearchWith hrepeats

theorem walk_journeys_switched :
    ∃ c first context x y r, create .forTesting .usual = .ok c ∧
      (c.provider walkBackend).Permits .walk ∧ (wanted .forTesting .walk).Built ∧
      (c.provider walkBackend.recording).queryTrips .walk ((), []) = (.ok first, (), [x]) ∧
      c.IsSearchWith (¬(wanted .forTesting .walk).IsStray) x ∧ first.context = some context ∧
      (c.provider walkBackend.recording).queryMoreTrips context .later ((), []) =
        (.ok r, (), [y]) ∧
      c.IsSearchWith (¬(wanted .forTesting .walk).IsStray) y ∧
      ¬(wanted .forTesting .walk).IsStray := by
  obtain ⟨c, url, hcreate, hurl⟩ := usual_client
  obtain ⟨hconfig, -⟩ := create_eq_ok hcreate
  have hpermit : (c.provider walkBackend).Permits .walk := ⟨rfl, nofun, nofun⟩
  obtain ⟨params, hparams⟩ : ∃ params, journeyParams c.config .walk (.station "1") none
    (.station "2") = .ok params := by
    rw [hconfig]
    exact ⟨_, rfl⟩
  obtain ⟨outcome, s', lookups, found, search, hrun, hvisits, hsearch, hmore, hbuilt⟩ :=
    journeys_switched hcreate hpermit ()
  obtain ⟨page, hpage, htrips, hlater⟩ :=
    pageIn_walkAnswer c (url.withParams (params ++ [timeParam .walk]))
  have hsent : (c.provider walkBackend.recording).queryTrips .walk ((), []) = _ :=
    queryTrips_resolved hpermit rfl hparams hurl (Backend.recording_eq rfl [])
  obtain rfl : lookups = [] := hvisits.known (by decide)
  rw [hpage] at hsent
  rw [hsent] at hrun
  cases hrun
  obtain ⟨window, hcontext⟩ :=
    context_presented htrips c params (.station "1") none (.station "2")
  let context : TripsContext :=
    { (JourneyToken.mk params page.earlierRef page.laterRef).toContext with window }
  have hfollows : Follows c walkBackend params ⟨context, page, []⟩ :=
    follows_of_tracks hurl hparams ⟨window, rfl⟩
  obtain ⟨reference, further, r, t, answer, -, -, -, -, hsent', -⟩ :=
    hfollows.request .later () hlater
  exact ⟨c, _, _, _, _, r, hcreate, hpermit, .full, hsent, hsearch _ List.mem_cons_self, hcontext,
    hsent', hmore _ _ _ rfl hcontext .refl _ _ _ _ _ hsent' _ List.mem_cons_self, hbuilt .full⟩

/-- To travel with what has no name. -/
def strayQuery : TripsQuery := { TripsQuery.walk with options := { products := some ⟨128⟩ } }

/-- A set that is read from a number switches every product off. -/
theorem stray_journeys_sent :
    ProductSet.ofJson? (.nat 128) = some ⟨128⟩ ∧
    ∃ c url params answer outcome, create .forTesting .usual = .ok c ∧
      (c.provider walkBackend).Permits strayQuery ∧ c.endpoint ["journeys"] = .ok url ∧
      (c.provider walkBackend.recording).queryTrips strayQuery ((), []) =
        (outcome, (), [(url.withParams params, answer)]) ∧
      ¬SwitchesOn params := by
  obtain ⟨c, url, hcreate, hurl⟩ := usual_client
  obtain ⟨hconfig, -⟩ := create_eq_ok hcreate
  have hpermit : (c.provider walkBackend).Permits strayQuery := ⟨rfl, nofun, by decide⟩
  obtain ⟨params, hparams⟩ : ∃ params, journeyParams c.config strayQuery (.station "1") none
    (.station "2") = .ok params := by
    rw [hconfig]
    exact ⟨_, rfl⟩
  have hsent : (c.provider walkBackend.recording).queryTrips strayQuery ((), []) = _ :=
    queryTrips_resolved hpermit rfl hparams hurl (Backend.recording_eq rfl [])
  refine ⟨rfl, c, url, _, _, _, hcreate, hpermit, hurl, hsent, ?_⟩
  rw [timeParam_eq, switchesOn_placed (timeKey_mem strayQuery),
    switchesOn_journeyParams hparams]
  change ¬HasSwitch ⟨128⟩
  decide

end Client

end Hafas

end Transit
