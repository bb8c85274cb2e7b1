import Transit.Proofs.Hafas.LegRecord

/-! # What a trip does not depend on

Two journeys that differ only in the lines and the stopovers of their legs come to trips between the
same places, or to none. If they differ in the geometry and the remarks of their legs, this holds as
long as these can be read; where one of them cannot, there is no trip.
-/
namespace Transit.Hafas

open Json (Alike)

variable {item item' j j' : Json}

/-! ### Lines and stopovers -/

/-- Legs with any lines and any lists of stopovers, which are the same otherwise. -/
inductive LineVaries (name : String) (v v' : Option Json) : Prop
  | line (named : name = "line")
  | stopovers (items items' : List Json) (named : name = "stopovers")
    (given : v = some (.arr items)) (given' : v' = some (.arr items'))
  | same (eq : v = v')

/-- A leg that has a line, whatever that is. -/
def HasLine (item : Json) : Prop :=
  ∃ r v, item.record? RawLeg.fieldNames = some r ∧ r.get? "line" = some v ∧ v ≠ .null

def HasLines (j : Json) : Prop := ∀ items, legsIn j = some items → ∀ item ∈ items, HasLine item

theorem LineVaries.eq_of_ne {name : String} {v v' : Option Json} (h : LineVaries name v v')
    (hline : name ≠ "line") (hstopovers : name ≠ "stopovers") : v = v' := by
  cases h with
  | line named => exact absurd named hline
  | stopovers items items' named => exact absurd named hstopovers
  | same eq => exact eq

theorem isSome_optional_some (r : Json.Record) (name : String) :
    (r.optional name some).isSome = (!r.asList || (r.get? name).isSome) := by
  rw [Json.Record.optional]
  cases r.get? name with
  | none => cases r.asList <;> rfl
  | some v => cases v <;> simp [Json.nullable]

theorem isSome_of_hasLine {r : Json.Record} {line : Option Json} (h : HasLine item)
    (hr : item.record? RawLeg.fieldNames = some r) (hline : r.optional "line" some = some line) :
    line.isSome = true := by
  obtain ⟨r', v, hr', hv, hnull⟩ := h
  obtain rfl := Option.some.inj (hr.symm.trans hr')
  rw [Json.Record.optional, hv] at hline
  cases v with
  | null => exact absurd rfl hnull
  | _ => cases hline; rfl

theorem corresponds_of_lineVaries {r r' : Json.Record}
    (hr : item.record? RawLeg.fieldNames = some r) (hr' : item'.record? RawLeg.fieldNames = some r')
    (h : r.Agree RawLeg.fieldNames LineVaries r') :
    RawLeg.Corresponds
      (fun line line' => HasLine item → HasLine item' → line.isSome = line'.isSome)
      (fun _ _ => True) r r' where
  form := h.form
  steady name hname := by
    refine (h.fields name (List.mem_of_mem_filter hname)).eq_of_ne ?_ ?_ <;>
      · rintro rfl
        exact absurd hname (by decide)
  line := by
    refine Json.rel_iff.mpr ⟨?_, ?_⟩
    · rw [isSome_optional_some, isSome_optional_some, ← h.form]
      cases hlist : r.asList with
      | false => rfl
      | true => rw [h.isSome_get? hlist]
    · intro line line' hline hline' hhas hhas'
      rw [isSome_of_hasLine hhas hr hline, isSome_of_hasLine hhas' hr' hline']
  stopovers := by
    rw [Json.Record.defaulted, Json.Record.defaulted]
    cases h.fields "stopovers" (by decide) with
    | line named => exact absurd named (by decide)
    | stopovers items items' _ given given' =>
      rw [given, given']
      simp only [Json.list?, Json.readAll_some]
      exact .some trivial
    | same eq => exact Json.rel_of_eq (by rw [eq]) fun _ => trivial
  polyline := by
    have hpolyline := (h.fields "polyline" (by decide)).eq_of_ne (by decide) (by decide)
    exact Json.rel_of_eq (Json.Record.optional_congr h.form hpolyline _) fun _ => trivial
  remarks := by
    have hremarks := (h.fields "remarks" (by decide)).eq_of_ne (by decide) (by decide)
    exact Json.rel_of_eq (Json.Record.defaulted_congr hremarks _ _) fun _ => trivial

theorem legOf?_rel_of_lineVaries (h : Alike RawLeg.fieldNames LineVaries item item') :
    Option.Rel (fun l l' : Leg => l.Parallel l' ∧ (HasLine item → HasLine item' → l.SameTimes l'))
      (legOf? item) (legOf? item') := by
  have hrecords : Option.Rel (RawLeg.Corresponds
      (fun line line' => HasLine item → HasLine item' → line.isSome = line'.isSome)
      fun _ _ => True) (item.record? RawLeg.fieldNames) (item'.record? RawLeg.fieldNames) :=
    Json.rel_mono h.records fun r r' ⟨hr, hr', hagree⟩ => corresponds_of_lineVaries hr hr' hagree
  refine Json.rel_bind (RawLeg.ofJson?_rel hrecords) fun raw raw' ⟨hvaries, hline, _⟩ => ?_
  exact Json.rel_mono hvaries.toLeg?_rel fun l l' ⟨hparallel, htimes⟩ =>
    ⟨hparallel, fun hhas hhas' => htimes (hline hhas hhas')⟩

/-- Lines and stopovers are not needed for a trip. Journeys with the same legs up to their lines and
stopovers come to trips between the same places, or none of them comes to a trip; and if all legs
have lines, the times are the same. -/
theorem trip_regardless_of_lines
    (h : Alike RawJourney.fieldNames (LegsVary (Alike RawLeg.fieldNames LineVaries)) j j') :
    (tripOf? j).isSome = (tripOf? j').isSome ∧
      ∀ t t', tripOf? j = some t → tripOf? j' = some t' →
        t.legs.map (fun l => (l.departure, l.arrival)) =
          t'.legs.map (fun l => (l.departure, l.arrival)) ∧
        (HasLines j → HasLines j' → t.legs.map (fun l => (l.departureTime, l.arrivalTime)) =
          t'.legs.map fun l => (l.departureTime, l.arrivalTime)) := by
  have hlegs := legsIn_of_legsVary (Alike.refl fun name v => .same rfl) h
  -- Lines are asked for only where times are compared, so they go along as a condition.
  have hhas : ∀ {j : Json} items, legsIn j = some items →
      ∀ item ∈ items, HasLines j → HasLine item :=
    fun items hitems item hitem hlines => hlines items hitems item hitem
  have hread : ∀ item item', (HasLines j → HasLine item) ∧ (HasLines j' → HasLine item') ∧
      Alike RawLeg.fieldNames LineVaries item item' →
        Option.Rel (fun l l' : Leg => l.Parallel l' ∧
          (HasLines j → HasLines j' → l.SameTimes l')) (legOf? item) (legOf? item') :=
    fun item item' ⟨hitem, hitem', hvary⟩ => Json.rel_mono (legOf?_rel_of_lineVaries hvary)
      fun l l' ⟨hparallel, htimes⟩ => ⟨hparallel, fun hj hj' => htimes (hitem hj) (hitem' hj')⟩
  have htrips := tripOf?_rel (legsIn_rel_and hlegs hhas hhas) (tokenIn_of_legsVary h) hread
    fun l l' hl => hl.1
  obtain ⟨hsome, hmade⟩ := Json.rel_iff.mp htrips
  refine ⟨hsome, fun t t' ht ht' => ⟨?_, fun hj hj' => ?_⟩⟩
  · exact Json.map_eq_of_forall₂ (hmade t t' ht ht') fun l l' ⟨hparallel, _⟩ =>
      Prod.ext hparallel.departure hparallel.arrival
  · exact Json.map_eq_of_forall₂ (hmade t t' ht ht') fun l l' ⟨_, htimes⟩ =>
      Prod.ext (htimes hj hj').departs (htimes hj hj').arrives

/-- A leg between two stops, with further fields. -/
def legWith (more : List (String × Json)) : Json :=
  .obj ([("origin", .obj [("id", .str "1")]), ("destination", .obj [("id", .str "2")]),
    ("departure", .str "1970-01-01T00:00:00Z"), ("arrival", .str "1970-01-01T01:00:00Z")] ++ more)

def journeyWith (more : List (String × Json)) : Json := .obj [("legs", .arr [legWith more])]

theorem alike_journeyWith {agree : Json.Agreement} {more more' : List (String × Json)}
    (hagree : ∀ name v, agree name v v) (h : Json.FieldsAgree agree more more') :
    Alike RawJourney.fieldNames (LegsVary (Alike RawLeg.fieldNames agree)) (journeyWith more)
      (journeyWith more') := by
  have hleg : Alike RawLeg.fieldNames agree (legWith more) (legWith more') :=
    .ofFields (fun n _ => hagree n none)
      (List.rel_append (List.forall₂_same.mpr fun f _ => ⟨rfl, hagree _ _⟩) h)
  exact .ofFields (fun n _ => .same n none) (.cons ⟨rfl, .legs (.cons hleg .nil)⟩ .nil)

/-- A ride, by its line and its stopovers. -/
def rideOn (line : Json) (stopovers : List Json) : Json :=
  journeyWith [("line", line), ("stopovers", .arr stopovers)]

theorem hasLines_rideOn {line : Json} (hline : line ≠ .null) (stopovers : List Json) :
    HasLines (rideOn line stopovers) := by
  intro items hitems item hitem
  cases hitems
  obtain rfl := List.mem_singleton.mp hitem
  exact ⟨_, line, rfl, rfl, hline⟩

theorem alike_rideOn (line line' : Json) (stopovers stopovers' : List Json) :
    Alike RawJourney.fieldNames (LegsVary (Alike RawLeg.fieldNames LineVaries))
      (rideOn line stopovers) (rideOn line' stopovers') :=
  alike_journeyWith (fun _ _ => .same rfl)
    (.cons ⟨rfl, .line rfl⟩ (.cons ⟨rfl, .stopovers _ _ rfl rfl rfl⟩ .nil))

/-- A number can stand for the line, and for a stopover. -/
theorem ride_regardless_of_line :
    ∃ t t', tripOf? (rideOn (.obj [("name", .str "S1")]) []) = some t ∧
      tripOf? (rideOn (.int 5) [.null, .int 7, .null]) = some t' ∧
      t.legs.map (fun l => (l.departure, l.arrival)) =
        t'.legs.map (fun l => (l.departure, l.arrival)) ∧
      t.legs.map (fun l => (l.departureTime, l.arrivalTime)) =
        t'.legs.map fun l => (l.departureTime, l.arrivalTime) := by
  obtain ⟨hsome, hmade⟩ := trip_regardless_of_lines (alike_rideOn (.obj [("name", .str "S1")])
    (.int 5) [] [.null, .int 7, .null])
  obtain ⟨t, ht⟩ := Option.isSome_iff_exists.mp
    (by decide +kernel : (tripOf? (rideOn (.obj [("name", .str "S1")]) [])).isSome = true)
  rw [ht] at hsome
  obtain ⟨t', ht'⟩ := Option.isSome_iff_exists.mp hsome.symm
  obtain ⟨hends, htimes⟩ := hmade t t' ht ht'
  have hlines := hasLines_rideOn (by nofun : Json.obj [("name", .str "S1")] ≠ .null) []
  have hlines' := hasLines_rideOn (by nofun : Json.int 5 ≠ .null) [.null, .int 7, .null]
  exact ⟨t, t', ht, ht', hends, htimes hlines hlines'⟩

/-! ### Geometry and remarks -/

/-- Legs with any geometry and any remarks, which are the same otherwise. -/
inductive DetailsVary (name : String) (v v' : Option Json) : Prop
  | polyline (w w' : Json) (named : name = "polyline") (given : v = some w) (given' : v' = some w')
  | remarks (items items' : List Json) (named : name = "remarks") (given : v = some (.arr items))
    (given' : v' = some (.arr items'))
  | same (eq : v = v')

/-- The geometry can be read, and so can each remark. -/
def ReadableDetails (item : Json) : Prop :=
  ∀ r, item.record? RawLeg.fieldNames = some r →
    (r.optional "polyline" RawPath.ofJson?).isSome ∧
      (r.defaulted "remarks" [] (Json.list? RawRemark.ofJson?)).isSome

/-- The geometry and the remarks of all legs can be read. -/
def HasReadableDetails (j : Json) : Prop :=
  ∀ items, legsIn j = some items → ∀ item ∈ items, ReadableDetails item

theorem DetailsVary.eq_of_ne {name : String} {v v' : Option Json} (h : DetailsVary name v v')
    (hpolyline : name ≠ "polyline") (hremarks : name ≠ "remarks") : v = v' := by
  cases h with
  | polyline w w' named => exact absurd named hpolyline
  | remarks items items' named => exact absurd named hremarks
  | same eq => exact eq

theorem readableDetails_of_legOf? {l : Leg} (h : legOf? item = some l) : ReadableDetails item := by
  intro r hr
  obtain ⟨raw, hraw, -⟩ := Option.bind_eq_some_iff.mp h
  rw [RawLeg.ofJson?, hr, Option.bind_eq_bind, Option.bind_some] at hraw
  -- The fields before the geometry.
  iterate 18 obtain ⟨_, -, hraw⟩ := Option.bind_eq_some_iff.mp hraw
  obtain ⟨polyline, hpolyline, hraw⟩ := Option.bind_eq_some_iff.mp hraw
  obtain ⟨_, -, hraw⟩ := Option.bind_eq_some_iff.mp hraw
  obtain ⟨remarks, hremarks, -⟩ := Option.bind_eq_some_iff.mp hraw
  rw [hpolyline, hremarks]
  exact ⟨rfl, rfl⟩

theorem hasReadableDetails_of_tripOf? {t : Trip} (h : tripOf? j = some t) :
    HasReadableDetails j := by
  intro items hitems item hitem
  obtain ⟨items', hitems', hlegs⟩ := legs_of_tripOf? h
  obtain rfl := Option.some.inj (hitems.symm.trans hitems')
  obtain ⟨l, -, hl⟩ := Json.read_of_readAll hlegs item hitem
  exact readableDetails_of_legOf? hl

theorem tripOf?_of_unreadable (h : ¬HasReadableDetails j) : tripOf? j = none := by
  rw [Option.eq_none_iff_forall_ne_some]
  exact fun t ht => h (hasReadableDetails_of_tripOf? ht)

theorem corresponds_of_detailsVary {r r' : Json.Record}
    (hr : item.record? RawLeg.fieldNames = some r) (hr' : item'.record? RawLeg.fieldNames = some r')
    (h : r.Agree RawLeg.fieldNames DetailsVary r') (hread : ReadableDetails item)
    (hread' : ReadableDetails item') : RawLeg.Corresponds Eq Eq r r' where
  form := h.form
  steady name hname := by
    refine (h.fields name (List.mem_of_mem_filter hname)).eq_of_ne ?_ ?_ <;>
      · rintro rfl
        exact absurd hname (by decide)
  line := by
    have hline := (h.fields "line" (by decide)).eq_of_ne (by decide) (by decide)
    exact Json.rel_of_eq (Json.Record.optional_congr h.form hline _) fun _ => rfl
  stopovers := by
    have hstopovers := (h.fields "stopovers" (by decide)).eq_of_ne (by decide) (by decide)
    exact Json.rel_of_eq (Json.Record.defaulted_congr hstopovers _ _) fun _ => rfl
  polyline := Json.rel_iff.mpr
    ⟨(hread r hr).1.trans (hread' r' hr').1.symm, fun _ _ _ _ => trivial⟩
  remarks := Json.rel_iff.mpr
    ⟨(hread r hr).2.trans (hread' r' hr').2.symm, fun _ _ _ _ => trivial⟩

theorem legOf?_rel_of_detailsVary (h : Alike RawLeg.fieldNames DetailsVary item item')
    (hread : ReadableDetails item) (hread' : ReadableDetails item') :
    Option.Rel (fun l l' : Leg => l.bare = l'.bare) (legOf? item) (legOf? item') := by
  have hrecords : Option.Rel (RawLeg.Corresponds Eq Eq) (item.record? RawLeg.fieldNames)
      (item'.record? RawLeg.fieldNames) :=
    Json.rel_mono h.records fun r r' ⟨hr, hr', hagree⟩ =>
      corresponds_of_detailsVary hr hr' hagree hread hread'
  refine Json.rel_bind (RawLeg.ofJson?_rel hrecords) fun raw raw' ⟨hvaries, hline, hstops⟩ => ?_
  exact hvaries.toLeg?_bare hline hstops

/-- Geometry and remarks are not needed for a trip as long as they can be read. With any other that
can be read a journey comes to a trip with the same legs up to their paths and messages; with one
that cannot be read it does not come to a trip. -/
theorem trip_by_readable_details {t : Trip}
    (h : Alike RawJourney.fieldNames (LegsVary (Alike RawLeg.fieldNames DetailsVary)) j j')
    (ht : tripOf? j = some t) :
    (HasReadableDetails j' →
      ∃ t', tripOf? j' = some t' ∧ t'.legs.map Leg.bare = t.legs.map Leg.bare) ∧
    (¬HasReadableDetails j' → tripOf? j' = none) := by
  refine ⟨fun hreadable => ?_, tripOf?_of_unreadable⟩
  have hlegs := legsIn_of_legsVary (Alike.refl fun name v => .same rfl) h
  have hitems := legsIn_rel_and hlegs (hasReadableDetails_of_tripOf? ht) hreadable
  have htrips := tripOf?_rel hitems (tokenIn_of_legsVary h)
    (fun item item' ⟨hread, hread', hvary⟩ => legOf?_rel_of_detailsVary hvary hread hread')
    fun l l' => Leg.parallel_of_bare
  obtain ⟨hsome, hmade⟩ := Json.rel_iff.mp htrips
  rw [ht] at hsome
  obtain ⟨t', ht'⟩ := Option.isSome_iff_exists.mp hsome.symm
  exact ⟨t', ht', (Json.map_eq_of_forall₂ (hmade t t' ht ht') fun _ _ => id).symm⟩

/-- A ride, by its geometry and its remarks. -/
def rideAlong (geometry : Json) (remarks : List Json) : Json :=
  journeyWith [("line", .obj []), ("polyline", geometry), ("remarks", .arr remarks)]

def lateRemark : Json := .obj [("type", .str "warning"), ("text", .str "late")]

theorem alike_rideAlong (geometry geometry' : Json) (remarks remarks' : List Json) :
    Alike RawJourney.fieldNames (LegsVary (Alike RawLeg.fieldNames DetailsVary))
      (rideAlong geometry remarks) (rideAlong geometry' remarks') :=
  alike_journeyWith (fun _ _ => .same rfl) (.cons ⟨rfl, .same rfl⟩
    (.cons ⟨rfl, .polyline _ _ rfl rfl rfl⟩ (.cons ⟨rfl, .remarks _ _ rfl rfl rfl⟩ .nil)))

/-- One number in the place of a remark is enough to lose a ride that would be given without. -/
theorem ride_by_readable_details :
    ∃ t t', tripOf? (rideAlong (.str "_ibE_seK") [lateRemark]) = some t ∧
      tripOf? (rideAlong .null []) = some t' ∧
      t'.legs.map Leg.bare = t.legs.map Leg.bare ∧
      tripOf? (rideAlong (.str "_ibE_seK") [.int 5]) = none := by
  obtain ⟨t, ht⟩ := Option.isSome_iff_exists.mp
    (by decide +kernel : (tripOf? (rideAlong (.str "_ibE_seK") [lateRemark])).isSome = true)
  have hreadable : HasReadableDetails (rideAlong .null []) := by
    intro items hitems item hitem r hr
    cases hitems
    obtain rfl := List.mem_singleton.mp hitem
    cases hr
    exact ⟨rfl, rfl⟩
  have hunreadable : ¬HasReadableDetails (rideAlong (.str "_ibE_seK") [.int 5]) := by
    intro hreadable
    have hremarks := (hreadable _ rfl _ (List.mem_singleton_self _) _ rfl).2
    cases hremarks
  obtain ⟨t', ht', hlegs⟩ := (trip_by_readable_details (alike_rideAlong _ _ _ _) ht).1 hreadable
  have hlost := (trip_by_readable_details (alike_rideAlong _ _ _ _) ht).2 hunreadable
  exact ⟨t, t', ht, ht', hlegs, hlost⟩

/-- Other geometry, or another value for one remark, can lose a trip. -/
theorem details_lose_trip :
    (tripOf? (rideAlong .null [lateRemark])).isSome = true ∧
      tripOf? (rideAlong (.int 5) [lateRemark]) = none ∧
      tripOf? (rideAlong .null [.int 5]) = none := by
  refine ⟨by decide +kernel, ?_, ?_⟩ <;> rfl

end Transit.Hafas
