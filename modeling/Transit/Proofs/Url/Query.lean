import Transit.Proofs.Url.Path

/-! # Parameters in the query of a URL

The query of a URL is read as a form. Parameters that are added to it are read back as they are,
behind those that were there before: a query is split exactly where it was joined, because no name
and no value is written with a mark that separates.
-/
namespace Transit.Url

variable {c mark : Char} {cs rest : List Char} {p : String × String}
  {params : List (String × String)}

/-- A plus sign stands for a blank. -/
def ofPlus (c : Char) : Char := if c = '+' then ' ' else c

/-- A name or a value of a form; none if it is no text. -/
def formWord? (cs : List Char) : Option String :=
  (Percent.decode? (cs.map ofPlus)).map String.ofList

/-- A name and a value, before and behind the first equals sign. -/
def formPair? (cs : List Char) : Option (String × String) := do
  let name ← formWord? (cs.takeWhile (· != '='))
  let value ← formWord? ((cs.dropWhile (· != '=')).drop 1)
  return (name, value)

/-- What stands between the ampersands, as far as anything does. -/
def formParts (cs : List Char) : List (List Char) := (Text.splitOn '&' cs).filter (!·.isEmpty)

/-- The parameters in the query of a URL, in their order; those that are no texts are none. -/
def parameters (u : Url) : List (Option (String × String)) :=
  (formParts (u.query.getD "").toList).map formPair?

/-! ### A word of a form -/

/-- A character stands for itself, or it is a blank, or its bytes are written. -/
theorem formChar_cases (c : Char) :
    (formChar c = [c] ∧ c ∉ ['+', '%', '&', '=']) ∨ (c = ' ' ∧ formChar c = ['+']) ∨
      formChar c = (Percent.bytes c).flatMap Percent.encodeByte := by
  rw [formChar]
  split
  next hplain =>
    refine .inl ⟨rfl, fun hmark => ?_⟩
    simp only [List.mem_cons, List.not_mem_nil, or_false] at hmark
    rcases hmark with rfl | rfl | rfl | rfl <;> exact absurd hplain (by decide)
  next =>
    split
    next hblank => exact .inr (.inl ⟨by simpa using hblank, rfl⟩)
    next => exact .inr (.inr rfl)

theorem ne_of_mem_encodeBytes {bytes : List UInt8} (h : c ∈ bytes.flatMap Percent.encodeByte)
    (hpercent : mark ≠ '%') (hvalue : Text.hexValue? mark = none) : c ≠ mark := by
  rintro rfl
  obtain ⟨b, -, hb⟩ := List.mem_flatMap.mp h
  rcases Percent.mem_encodeByte hb with rfl | hsome
  · exact hpercent rfl
  · rw [hvalue] at hsome
    cases hsome

/-- Nothing that is written has a separating mark in it. -/
theorem not_mem_formText (hmark : mark = '&' ∨ mark = '=') (s : String) : mark ∉ formText s := by
  intro h
  obtain ⟨c, -, hc⟩ := List.mem_flatMap.mp h
  rcases formChar_cases c with ⟨hplain, hfree⟩ | ⟨-, hblank⟩ | hbytes
  · rw [hplain, List.mem_singleton] at hc
    rcases hmark with rfl | rfl <;> simp [← hc] at hfree
  · rw [hblank, List.mem_singleton] at hc
    rcases hmark with rfl | rfl <;> cases hc
  · rw [hbytes] at hc
    rcases hmark with rfl | rfl <;> exact ne_of_mem_encodeBytes hc (by decide) rfl rfl

theorem decodeBytes_formChar (c : Char) (rest : List Char) :
    Percent.decodeBytes ((formChar c).map ofPlus ++ rest) =
      Percent.bytes c ++ Percent.decodeBytes rest := by
  rcases formChar_cases c with ⟨hplain, hfree⟩ | ⟨rfl, hblank⟩ | hbytes
  · have hplus : c ≠ '+' := by rintro rfl; simp at hfree
    have hpercent : c ≠ '%' := by rintro rfl; simp at hfree
    rw [hplain, List.map_singleton, ofPlus, if_neg hplus, List.singleton_append,
      Percent.decodeBytes_literal hpercent]
  · rw [hblank, List.map_singleton, ofPlus, if_pos rfl, List.singleton_append,
      Percent.decodeBytes_literal (by decide)]
  · -- No byte is written with a plus sign, so there is none to take back.
    have hsame : ((Percent.bytes c).flatMap Percent.encodeByte).map ofPlus =
        (Percent.bytes c).flatMap Percent.encodeByte := by
      conv_rhs => rw [← List.map_id ((Percent.bytes c).flatMap Percent.encodeByte)]
      exact List.map_congr_left fun a ha =>
        if_neg (ne_of_mem_encodeBytes ha (by decide) rfl)
    rw [hbytes, hsame, Percent.decodeBytes_encodeBytes]

theorem decodeBytes_formText (s : String) :
    Percent.decodeBytes ((formText s).map ofPlus) = Text.bytes s.toList := by
  rw [formText]
  induction s.toList with
  | nil => rfl
  | cons c cs ih =>
    rw [List.flatMap_cons, List.map_append, decodeBytes_formChar, ih, Text.bytes_cons,
      Percent.bytes]

theorem formWord?_formText (s : String) : formWord? (formText s) = some s := by
  rw [formWord?, Percent.decode?, decodeBytes_formText, Percent.fromUTF8?_bytes]
  simp

/-! ### Pairs, and all of them -/

/-- A pair as it is written. -/
def pairText (p : String × String) : List Char := formText p.1 ++ '=' :: formText p.2

theorem formPair?_pairText (p : String × String) : formPair? (pairText p) = some p := by
  have hname : ∀ c ∈ formText p.1, (c != '=') = true := fun c hc => by
    simpa using ne_of_mem_of_not_mem hc (not_mem_formText (.inr rfl) p.1)
  have hbefore : (pairText p).takeWhile (· != '=') = formText p.1 := by
    rw [pairText, List.takeWhile_append_of_pos hname]
    simp
  have hbehind : ((pairText p).dropWhile (· != '=')).drop 1 = formText p.2 := by
    rw [pairText, List.dropWhile_append_of_pos hname]
    simp
  rw [formPair?, hbefore, hbehind, formWord?_formText, formWord?_formText]
  rfl

theorem ampersand_not_mem_pairText (p : String × String) : '&' ∉ pairText p := by
  have hname := not_mem_formText (.inl rfl) p.1
  have hvalue := not_mem_formText (.inl rfl) p.2
  simp [pairText, hname, hvalue]

theorem formParts_append_cons (cs rest : List Char) :
    formParts (cs ++ '&' :: rest) = formParts cs ++ formParts rest := by
  rw [formParts, Text.splitOn_append_cons, List.filter_append, ← formParts, ← formParts]

theorem formParts_pairText (p : String × String) : formParts (pairText p) = [pairText p] := by
  rw [formParts, Text.splitOn_eq_singleton (ampersand_not_mem_pairText p)]
  simp [pairText]

theorem formParts_formPairs (params : List (String × String)) :
    formParts (formPairs params) = params.map pairText := by
  match params with
  | [] => rfl
  | [p] => exact formParts_pairText p
  | p :: q :: rest =>
    have hjoined : formPairs (p :: q :: rest) = pairText p ++ '&' :: formPairs (q :: rest) := by
      simp [formPairs, pairText]
    rw [hjoined, formParts_append_cons, formParts_pairText, formParts_formPairs (q :: rest)]
    rfl

theorem formParts_query (u : Url) (params : List (String × String)) :
    formParts ((u.withParams params).query.getD "").toList =
      formParts (u.query.getD "").toList ++ params.map pairText := by
  rw [← formParts_formPairs, withParams]
  generalize (u.query.getD "").toList = old
  generalize formPairs params = new
  -- An ampersand joins the two only if there is something on either side of it.
  rcases old with _ | ⟨a, old⟩ <;> rcases new with _ | ⟨b, new⟩
  · rfl
  · simp [formParts, Text.splitOn]
  · simp [formParts, Text.splitOn]
  · exact (congrArg formParts (by simp)).trans (formParts_append_cons (a :: old) (b :: new))

/-- Parameters that are added stand behind those that are there, as they are. -/
theorem parameters_withParams (u : Url) (params : List (String × String)) :
    (u.withParams params).parameters = u.parameters ++ params.map some := by
  rw [parameters, formParts_query, List.map_append, List.map_map, ← parameters]
  exact congrArg _ (List.map_congr_left fun p _ => formPair?_pairText p)

end Transit.Url
