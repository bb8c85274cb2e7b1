import Transit.Proofs.Hafas.Products
import Transit.Proofs.Url.Segments

/-! # The station in the path

The board of a station is asked for under the id of the station, which is one segment of the path.
An id without breaks that is not one dot or two is read back from the path as it is, so different
stations are asked for under different addresses. Of any other id something is lost.
-/
namespace Transit

namespace Url

open Url.Path

variable {scheme id : String} {names above : List String} {word : String}

/-- The id of a station that the path keeps. -/
def IsKept (id : String) : Prop :=
  (∀ c ∈ id.toList, isBreak c = false) ∧ id ≠ "." ∧ id ≠ ".."

-- By the characters of the id, and not by all characters.
instance (id : String) : Decidable (IsKept id) :=
  @instDecidableAnd _ _ (List.decidableBAll _ _) (inferInstanceAs (Decidable (_ ∧ _)))

theorem unbroken_eq_iff : unbroken id = id.toList ↔ ∀ c ∈ id.toList, isBreak c = false := by
  rw [unbroken, List.filter_eq_self]
  simp [isBreak, and_assoc]

theorem IsKept.unbroken_eq (h : IsKept id) : unbroken id = id.toList := unbroken_eq_iff.mpr h.1

theorem isKept_iff (hone : unbroken id ≠ ['.']) (htwo : unbroken id ≠ ['.', '.']) :
    IsKept id ↔ unbroken id = id.toList := by
  refine ⟨IsKept.unbroken_eq, fun h => ⟨unbroken_eq_iff.mp h, ?_, ?_⟩⟩
  · rintro rfl
    exact hone rfl
  · rintro rfl
    exact htwo rfl

/-! ### The three segments -/

theorem bottom_of_two {first second : String} {rest : List String} :
    bottom (above ++ first :: second :: rest) = above ++ first :: second :: rest := by
  rw [bottom, if_neg]
  intro h
  have hlength := congrArg List.length h
  simp at hlength
  omega

/-- The names of the path under which the board of a station is asked for. -/
def boardNames (scheme id : String) (names : List String) : List String :=
  ["stops", id, "departures"].foldl (push scheme) names

theorem boardNames_eq (id : String) (h : Headed scheme (bottom names)) :
    boardNames scheme id names =
      push scheme (push scheme (bottom names ++ ["stops"]) id) "departures" := by
  rw [boardNames, List.foldl_cons, List.foldl_cons, List.foldl_cons, List.foldl_nil,
    push_word (by decide) h]

theorem bottom_stops (names : List String) : bottom (names ++ ["stops"]) = names ++ ["stops"] :=
  bottom_append_singleton (by decide)

/-- One more name comes between the other two. -/
theorem boardNames_named (h : Headed scheme (bottom names))
    (hpush : push scheme (bottom names ++ ["stops"]) id =
      trimFront scheme (bottom (bottom names ++ ["stops"]) ++ [word])) :
    boardNames scheme id names = bottom names ++ ["stops", word, "departures"] := by
  have hheaded : Headed scheme (bottom names ++ ["stops", word]) := h.append (by decide) [word]
  rw [bottom_stops, List.append_assoc, List.singleton_append,
    trimFront_headed hheaded (by simp)] at hpush
  rw [boardNames_eq id h, hpush, push_word (by decide) (by rwa [bottom_of_two]), bottom_of_two,
    List.append_assoc]
  rfl

theorem boardNames_entered (h : Headed scheme (bottom names)) (hone : unbroken id ≠ ['.'])
    (htwo : unbroken id ≠ ['.', '.']) :
    boardNames scheme id names =
      bottom names ++ ["stops", segmentText scheme (unbroken id), "departures"] :=
  boardNames_named h (push_enter hone htwo (.inl (by rw [bottom_stops]; simp)))

theorem boardNames_stay (h : Headed scheme (bottom names)) (hdots : unbroken id = ['.'])
    (hid : id ≠ ".") : boardNames scheme id names = bottom names ++ ["stops", "", "departures"] :=
  boardNames_named h (push_stay hdots hid)

theorem boardNames_dots (h : Headed scheme (bottom names)) (hid : id = "." ∨ id = "..") :
    boardNames scheme id names = bottom names ++ ["stops", "departures"] := by
  rw [boardNames_eq id h, push_dots hid,
    push_word (by decide) (by rw [bottom_stops]; exact h.append (by decide) []), bottom_stops,
    List.append_assoc]
  rfl

/-- Two dots take the name in front away, and nothing stands for the station. -/
theorem boardNames_up (h : Headed scheme (bottom names)) (hdots : unbroken id = ['.', '.'])
    (hid : id ≠ "..") : ∃ tail, SlashFree tail ∧ tail.length ≤ 2 ∧
      boardNames scheme id names = bottom names ++ tail := by
  have hpush : push scheme (bottom names ++ ["stops"]) id = trimFront scheme (bottom names ++ [""]) :=
    push_up hdots hid (by decide) (by decide) (by decide)
  rw [boardNames_eq id h, hpush]
  by_cases hempty : bottom names = []
  · have htrim : trimFront scheme [""] = [""] := by
      rw [trimFront]
      split <;> rfl
    have hheaded : Headed scheme (bottom [""]) := headed_nil scheme
    rw [hempty, List.nil_append, htrim, push_word (by decide) hheaded]
    exact ⟨["departures"], by decide, by decide, rfl⟩
  · have hheaded : Headed scheme (bottom names ++ [""]) := by
      intro hfile
      rw [List.head?_append_of_ne_nil _ hempty]
      exact h hfile
    have hbottom : bottom (bottom names ++ [""]) = bottom names ++ [""] := by
      rw [bottom, if_neg (by simpa using hempty)]
    rw [trimFront_headed hheaded (by simp), push_word (by decide) (by rwa [hbottom]), hbottom,
      List.append_assoc]
    exact ⟨["", "departures"], by decide, by decide, rfl⟩

/-- What the segments behind the path of the backend are to be read back as. -/
def boardTexts (id : String) : List (Option (List Char)) :=
  [some "stops".toList, some id.toList, some "departures".toList]

theorem readBack_named (word : String) : readBack ["stops", word, "departures"] = boardTexts id ↔
    Percent.decode? word.toList = some id.toList := by
  have hstops : Percent.decode? "stops".toList = some "stops".toList := decode?_word (by decide)
  have hboard : Percent.decode? "departures".toList = some "departures".toList :=
    decode?_word (by decide)
  simp only [readBack, boardTexts, List.map_cons, List.map_nil, hstops, hboard, List.cons.injEq,
    and_true, true_and]

theorem readBack_ne_of_length {tail : List String} (h : tail.length ≤ 2) (id : String) :
    readBack tail ≠ boardTexts id := by
  intro heq
  have hlength := congrArg List.length heq
  simp [readBack, boardTexts] at hlength
  omega

/-- What comes behind the path of the backend is read back exactly for an id that is kept. -/
theorem boardNames_tail (id : String) (h : Headed scheme (bottom names)) :
    ∃ tail, SlashFree tail ∧ boardNames scheme id names = bottom names ++ tail ∧
      (readBack tail = boardTexts id ↔ IsKept id) := by
  by_cases hdots : id = "." ∨ id = ".."
  · refine ⟨_, by decide, boardNames_dots h hdots, iff_of_false ?_ fun hkept => ?_⟩
    · exact readBack_ne_of_length (by decide) id
    · exact hdots.elim hkept.2.1 hkept.2.2
  rw [not_or] at hdots
  by_cases hone : unbroken id = ['.']
  · refine ⟨_, by decide, boardNames_stay h hone hdots.1, iff_of_false ?_ fun hkept => ?_⟩
    · rw [readBack_named]
      intro hread
      have hempty : id.toList = [] := Option.some.inj (hread.symm.trans rfl)
      rw [unbroken, hempty] at hone
      cases hone
    · exact hdots.1 (String.toList_inj.mp (hkept.unbroken_eq.symm.trans hone))
  by_cases htwo : unbroken id = ['.', '.']
  · obtain ⟨tail, hfree, hlength, htail⟩ := boardNames_up h htwo hdots.2
    refine ⟨tail, hfree, htail, iff_of_false (readBack_ne_of_length hlength id) fun hkept => ?_⟩
    exact hdots.2 (String.toList_inj.mp (hkept.unbroken_eq.symm.trans htwo))
  · refine ⟨_, ?_, boardNames_entered h hone htwo, ?_⟩
    · exact slashFree_cons.mpr ⟨by decide, slashFree_cons.mpr
        ⟨slash_not_mem_segmentText scheme _, by decide⟩⟩
    · rw [readBack_named, decode?_segmentText, Option.some_inj, isKept_iff hone htwo]

/-! ### The text of the URL -/

variable {base url : Url}

/-- Where the board of a station is asked for, if the base has a path of segments. -/
def boardUrl (base : Url) (id : String) : Url :=
  { base with path := .segments (boardNames base.scheme id (popIfEmpty base.path.names)) }

theorem goesOn_boardUrl (hread : HasReadPath base) (hpath : base.path = .segments names)
    (id : String) : GoesOn base (boardUrl base id) ["stops", id, "departures"] ↔ IsKept id := by
  obtain ⟨tail, hfree, hnames, hback⟩ := boardNames_tail id (bottom_headed hread.headed)
  have hbase : base.path.names = names := by rw [hpath]; rfl
  rw [hbase] at hnames
  have hurl : (boardUrl base id).path = .segments (bottom (popIfEmpty names) ++ tail) := by
    rw [boardUrl, hbase, hnames]
  rw [← hback, goesOn_iff hread hpath hurl hfree]
  rfl

theorem IsKept.ne_dots (h : IsKept id) : unbroken id ≠ ['.'] ∧ unbroken id ≠ ['.', '.'] := by
  rw [h.unbroken_eq]
  exact ⟨fun hid => h.2.1 (String.toList_inj.mp hid), fun hid => h.2.2 (String.toList_inj.mp hid)⟩

theorem toList_text (u : Url) : ∃ tail, u.text.toList =
    (u.scheme ++ ":" ++ u.authorityText).toList ++ (u.path.text.toList ++ tail) := by
  refine ⟨((u.query.map ("?" ++ ·)).getD "" ++ (u.fragment.map ("#" ++ ·)).getD "").toList, ?_⟩
  rw [← String.toList_append, ← String.toList_append, ← String.append_assoc, ← String.append_assoc]
  rfl

/-- What stands in front of the id of a station. -/
def boardFront (base : Url) : List Char :=
  (base.scheme ++ ":" ++ base.authorityText).toList ++
    ((segmentsText (bottom (popIfEmpty base.path.names) ++ ["stops"])).toList ++ ['/'])

theorem text_boardUrl (hread : HasReadPath base) (hid : IsKept id)
    (params : List (String × String)) :
    ∃ behind, ((boardUrl base id).withParams params).text.toList =
      boardFront base ++ ((segmentText base.scheme id.toList).toList ++ '/' :: behind) := by
  obtain ⟨hone, htwo⟩ := hid.ne_dots
  have hnames := boardNames_entered (bottom_headed hread.headed) hone htwo
  have hpath : (boardUrl base id).path.text.toList =
      (segmentsText (bottom (popIfEmpty base.path.names) ++ ["stops"])).toList ++
        ('/' :: ((segmentText base.scheme id.toList).toList ++ '/' :: "departures".toList)) := by
    rw [boardUrl, Path.text, hnames, hid.unbroken_eq]
    simp [segmentsText]
  obtain ⟨tail, htext⟩ := toList_text ((boardUrl base id).withParams params)
  have hsame : ((boardUrl base id).withParams params).path = (boardUrl base id).path := rfl
  refine ⟨"departures".toList ++ tail, ?_⟩
  rw [htext, hsame, hpath, boardFront]
  simp only [List.append_assoc, List.cons_append, List.nil_append]
  rfl

/-- Two stations whose ids are kept are asked for under different texts, whatever the parameters
are. -/
theorem boardUrl_injective {id' : String} (hread : HasReadPath base) (hid : IsKept id)
    (hid' : IsKept id') {params params' : List (String × String)}
    (h : ((boardUrl base id).withParams params).text =
      ((boardUrl base id').withParams params').text) : id = id' := by
  obtain ⟨behind, htext⟩ := text_boardUrl hread hid params
  obtain ⟨behind', htext'⟩ := text_boardUrl hread hid' params'
  rw [h, htext', List.append_cancel_left_eq] at htext
  -- The written ids end at the same slash.
  have hsplit := congrArg (Text.splitOn '/') htext
  rw [Text.splitOn_append_cons, Text.splitOn_append_cons,
    Text.splitOn_eq_singleton (slash_not_mem_segmentText _ _),
    Text.splitOn_eq_singleton (slash_not_mem_segmentText _ _)] at hsplit
  have hdecode := congrArg Percent.decode? (List.cons.inj hsplit).1
  rw [decode?_segmentText, decode?_segmentText, Option.some_inj] at hdecode
  exact (String.toList_inj.mp hdecode).symm

end Url

namespace Hafas.Client

open Url (boardUrl GoesOn IsKept HasReadPath)

variable {σ : Type} {config : Config} {triage : Triage} {c : Client} {backend : Backend σ}
  {q : DeparturesQuery} {names : List String} {url : Url} {id : String}

theorem endpoint_board (hpath : c.baseUrl.path = .segments names) (id : String) :
    c.endpoint ["stops", id, "departures"] = .ok (boardUrl c.baseUrl id) := by
  rw [endpoint, Url.descend?, hpath, boardUrl, hpath]
  rfl

/-- The one request of an accepted query. -/
theorem board_requested (hpath : c.baseUrl.path = .segments names) (accepted : q.validate = .ok ())
    (backend : Backend σ) (s : σ) : ∃ answer,
    ((c.provider backend.recording).queryDepartures q (s, [])).2.2 =
      [((boardUrl c.baseUrl q.stationId).withParams
        (boardParams c.config q (c.limit q.maxDepartures)), answer)] := by
  rcases hrun : (c.provider backend.recording).queryDepartures q (s, []) with ⟨outcome, s', log⟩
  have hboards := (queryDepartures_traces c backend q).of_run hrun
  have hplace := endpoint_board hpath q.stationId
  cases hboards with
  | rejected blank =>
    rw [DeparturesQuery.validate, if_pos blank] at accepted
    cases accepted
  | misplaced named place =>
    rw [hplace] at place
    cases place
  | sent named place answer =>
    rw [hplace] at place
    cases place
    exact ⟨answer, rfl⟩

/-- An accepted query is one request. Its path goes on from that of the base with exactly the two
words and the id between them if and only if the id is kept, and different ids that are kept are
asked for under different texts. -/
theorem stations_kept_apart (created : create config triage = .ok c)
    (hpath : c.baseUrl.path = .segments names) (backend : Backend σ) (s : σ) :
    (∀ q, q.validate = .ok () → ∃ url answer,
      ((c.provider backend.recording).queryDepartures q (s, [])).2.2 = [(url, answer)] ∧
      (GoesOn c.baseUrl url ["stops", q.stationId, "departures"] ↔ IsKept q.stationId)) ∧
    ∀ q q' url url' answer answer', q.validate = .ok () → q'.validate = .ok () →
      ((c.provider backend.recording).queryDepartures q (s, [])).2.2 = [(url, answer)] →
      ((c.provider backend.recording).queryDepartures q' (s, [])).2.2 = [(url', answer')] →
      IsKept q.stationId → IsKept q'.stationId → q.stationId ≠ q'.stationId →
      url.text ≠ url'.text := by
  have hread := hasReadPath_of_create created
  refine ⟨fun q accepted => ?_, ?_⟩
  · obtain ⟨answer, hlog⟩ := board_requested hpath accepted backend s
    exact ⟨_, answer, hlog, Url.goesOn_boardUrl hread hpath q.stationId⟩
  · intro q q' url url' answer answer' accepted accepted' hrun hrun' hkept hkept' hne htext
    obtain ⟨_, hlog⟩ := board_requested hpath accepted backend s
    obtain ⟨_, hlog'⟩ := board_requested hpath accepted' backend s
    rw [hlog] at hrun
    rw [hlog'] at hrun'
    cases hrun
    cases hrun'
    exact hne (Url.boardUrl_injective hread hkept hkept' htext)

theorem usual_path : ∃ c names, create .forTesting .usual = .ok c ∧
    c.baseUrl.path = .segments names := by
  obtain ⟨c, url, hcreate, hurl⟩ := usual_client
  rw [endpoint, Url.descend?] at hurl
  cases hpath : c.baseUrl.path with
  | plain text =>
    rw [hpath] at hurl
    cases hurl
  | segments names => exact ⟨c, names, hcreate, hpath⟩

def stationQuery (id : String) : DeparturesQuery := ⟨id, none, 0, false⟩

/-- A slash in an id is told from its own encoding. -/
theorem slashes_kept_apart :
    ∃ c names url url' answer answer', create .forTesting .usual = .ok c ∧
      c.baseUrl.path = .segments names ∧
      ((c.provider walkBackend.recording).queryDepartures (stationQuery "a/b") ((), [])).2.2 =
        [(url, answer)] ∧
      ((c.provider walkBackend.recording).queryDepartures (stationQuery "a%2Fb") ((), [])).2.2 =
        [(url', answer')] ∧
      GoesOn c.baseUrl url ["stops", "a/b", "departures"] ∧
      GoesOn c.baseUrl url' ["stops", "a%2Fb", "departures"] ∧ url.text ≠ url'.text := by
  obtain ⟨c, names, hcreate, hpath⟩ := usual_path
  obtain ⟨hrequests, hapart⟩ := stations_kept_apart hcreate hpath walkBackend ()
  obtain ⟨url, answer, hlog, hgoes⟩ := hrequests (stationQuery "a/b") rfl
  obtain ⟨url', answer', hlog', hgoes'⟩ := hrequests (stationQuery "a%2Fb") rfl
  have hkept : IsKept "a/b" := by decide
  have hkept' : IsKept "a%2Fb" := by decide
  exact ⟨c, names, url, url', answer, answer', hcreate, hpath, hlog, hlog', hgoes.mpr hkept,
    hgoes'.mpr hkept', hapart _ _ _ _ _ _ rfl rfl hlog hlog' hkept hkept' (by decide)⟩

/-- Stations that are named by dots are asked for under one address, which is that of no station. -/
theorem dots_not_kept_apart :
    ∃ c names url answer answer', create .forTesting .usual = .ok c ∧
      c.baseUrl.path = .segments names ∧ (stationQuery "..").validate = .ok () ∧
      (stationQuery ".").validate = .ok () ∧
      ((c.provider walkBackend.recording).queryDepartures (stationQuery "..") ((), [])).2.2 =
        [(url, answer)] ∧
      ((c.provider walkBackend.recording).queryDepartures (stationQuery ".") ((), [])).2.2 =
        [(url, answer')] ∧
      ¬GoesOn c.baseUrl url ["stops", "..", "departures"] := by
  obtain ⟨c, names, hcreate, hpath⟩ := usual_path
  have hread := hasReadPath_of_create hcreate
  obtain ⟨answer, hlog⟩ := board_requested (q := stationQuery "..") hpath rfl walkBackend ()
  obtain ⟨answer', hlog'⟩ := board_requested (q := stationQuery ".") hpath rfl walkBackend ()
  have hsame : boardUrl c.baseUrl "." = boardUrl c.baseUrl ".." := by
    have hheaded := Url.Path.bottom_headed hread.headed
    rw [boardUrl, boardUrl, Url.boardNames_dots hheaded (.inl rfl),
      Url.boardNames_dots hheaded (.inr rfl)]
  have hplace : boardUrl c.baseUrl (stationQuery ".").stationId =
      boardUrl c.baseUrl (stationQuery "..").stationId := hsame
  rw [hplace] at hlog'
  refine ⟨c, names, _, answer, answer', hcreate, hpath, rfl, rfl, hlog, hlog', fun hgoes => ?_⟩
  exact absurd ((Url.goesOn_boardUrl hread hpath "..").mp hgoes) (by decide)

end Hafas.Client

end Transit
