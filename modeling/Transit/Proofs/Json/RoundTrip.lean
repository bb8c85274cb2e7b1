import Transit.Json.Bytes
import Transit.Proofs.Json.Number
import Transit.Proofs.Json.Quoted
import Transit.Proofs.Text.Utf8

/-! # JSON read back

What was written is read back from its characters and from its bytes, whether it was written
compactly or with one item or field a line. Both ways of writing differ in the gaps between the parts
only, and a reader skips these.
-/
namespace Transit.Json

mutual

/-- Inside `depth` containers, the value survives in a text: its numbers are integers that fit,
and no part of it is refused or too deep. -/
def isPlain (depth : Nat) : Json → Bool
  | .null | .bool _ | .str _ => true
  | .int n => fits n
  | .float _ | .refused => false
  | .arr items => depth < deepest && arePlain (depth + 1) items
  | .obj fields => depth < deepest && fieldsPlain (depth + 1) fields

def arePlain (depth : Nat) : List Json → Bool
  | [] => true
  | j :: rest => isPlain depth j && arePlain depth rest

def fieldsPlain (depth : Nat) : List (String × Json) → Bool
  | [] => true
  | (_, j) :: rest => isPlain depth j && fieldsPlain depth rest

end

/-- What stands between the parts of a value, and this is nothing but gaps. -/
structure Layout where
  line : Nat → List Char
  blank : List Char
  line_isGap : ∀ level, (line level).all isGap = true
  blank_isGap : blank.all isGap = true

/-- No gaps at all. -/
def Layout.compact : Layout := ⟨fun _ => [], [], fun _ => rfl, rfl⟩

/-- One item or field a line. -/
def Layout.indented : Layout where
  line := newLine
  blank := [' ']
  line_isGap level := by simp [newLine, isGap]
  blank_isGap := rfl

variable {w : Layout} {fuel depth level : Nat} {c : Char} {cs cs' gap rest text : List Char}
  {j : Json}

mutual

def laidOut (w : Layout) (level : Nat) : Json → List Char
  | .arr (j :: items) =>
    '[' :: (w.line (level + 1) ++ (laidOut w (level + 1) j ++ itemsOut w level items))
  | .obj ((name, j) :: fields) =>
    '\x7b' :: (w.line (level + 1) ++ (stringChars name ++ ':' :: (w.blank ++
      (laidOut w (level + 1) j ++ fieldsOut w level fields))))
  | j => chars j

def itemsOut (w : Layout) (level : Nat) : List Json → List Char
  | [] => w.line level ++ [']']
  | j :: items => ',' :: (w.line (level + 1) ++ (laidOut w (level + 1) j ++ itemsOut w level items))

def fieldsOut (w : Layout) (level : Nat) : List (String × Json) → List Char
  | [] => w.line level ++ ['\x7d']
  | (name, j) :: fields =>
    ',' :: (w.line (level + 1) ++ (stringChars name ++ ':' :: (w.blank ++
      (laidOut w (level + 1) j ++ fieldsOut w level fields))))

end

-- The writers of the values, of the items and of the fields go down together.
mutual

theorem laidOut_compact (level : Nat) (j : Json) : laidOut .compact level j = chars j := by
  match j with
  | .null | .bool _ | .int _ | .float _ | .str _ | .refused => rfl
  | .arr [] => rfl
  | .arr (j :: items) =>
    rw [laidOut, chars, laidOut_compact (level + 1) j, itemsOut_compact level items]
    rfl
  | .obj [] => rfl
  | .obj ((name, j) :: fields) =>
    rw [laidOut, chars, laidOut_compact (level + 1) j, fieldsOut_compact level fields]
    rfl

theorem itemsOut_compact (level : Nat) (items : List Json) :
    itemsOut .compact level items = itemsTail items := by
  match items with
  | [] => rfl
  | j :: items =>
    rw [itemsOut, itemsTail, laidOut_compact (level + 1) j, itemsOut_compact level items]
    rfl

theorem fieldsOut_compact (level : Nat) (fields : List (String × Json)) :
    fieldsOut .compact level fields = fieldsTail fields := by
  match fields with
  | [] => rfl
  | (name, j) :: fields =>
    rw [fieldsOut, fieldsTail, laidOut_compact (level + 1) j, fieldsOut_compact level fields]
    rfl

end

mutual

theorem laidOut_indented (level : Nat) (j : Json) :
    laidOut .indented level j = prettyChars level j := by
  match j with
  | .null | .bool _ | .int _ | .float _ | .str _ | .refused => rfl
  | .arr [] => rfl
  | .arr (j :: items) =>
    rw [laidOut, prettyChars, laidOut_indented (level + 1) j, itemsOut_indented level items,
      List.append_assoc]
    rfl
  | .obj [] => rfl
  | .obj ((name, j) :: fields) =>
    rw [laidOut, prettyChars, laidOut_indented (level + 1) j, fieldsOut_indented level fields,
      List.append_assoc]
    rfl

theorem itemsOut_indented (level : Nat) (items : List Json) :
    itemsOut .indented level items = prettyItems level items := by
  match items with
  | [] => rfl
  | j :: items =>
    rw [itemsOut, prettyItems, laidOut_indented (level + 1) j, itemsOut_indented level items,
      List.append_assoc]
    rfl

theorem fieldsOut_indented (level : Nat) (fields : List (String × Json)) :
    fieldsOut .indented level fields = prettyFields level fields := by
  match fields with
  | [] => rfl
  | (name, j) :: fields =>
    rw [fieldsOut, prettyFields, laidOut_indented (level + 1) j, fieldsOut_indented level fields,
      List.append_assoc]
    rfl

end

/-! ### Gaps -/

/-- A value may begin with this character, and no list ends with it. -/
def beginsValue (c : Char) : Bool := !isGap c && c != ']'

theorem skipGap_cons (h : isGap c = false) (cs : List Char) : skipGap (c :: cs) = c :: cs := by
  rw [skipGap, List.dropWhile_cons_of_neg (by simp [h])]

theorem skipGap_append (hgap : gap.all isGap = true) (cs : List Char) :
    skipGap (gap ++ cs) = skipGap cs := by
  rw [skipGap, List.dropWhile_append_of_pos (by simpa using hgap), skipGap]

theorem skipGap_value (h : beginsValue c = true) (cs : List Char) :
    skipGap (c :: cs) = c :: cs := by
  simp only [beginsValue, Bool.and_eq_true, Bool.not_eq_true'] at h
  exact skipGap_cons h.1 cs

theorem value_skip (hgap : gap.all isGap = true) (cs : List Char) :
    value? fuel depth (gap ++ cs) = value? fuel depth cs := by
  cases fuel with
  | zero => rfl
  | succ fuel => rw [value?, value?, skipGap_append hgap]

theorem items_skip (hgap : gap.all isGap = true) (cs : List Char) :
    items? fuel depth (gap ++ cs) = items? fuel depth cs := by
  cases fuel with
  | zero => rfl
  | succ fuel => rw [items?, items?, value_skip hgap]

theorem fields_skip (hgap : gap.all isGap = true) (cs : List Char) :
    fields? fuel depth (gap ++ cs) = fields? fuel depth cs := by
  cases fuel with
  | zero => rfl
  | succ fuel => rw [fields?, fields?, skipGap_append hgap]

/-- No number goes on with a gap. -/
theorem ends_append (hgap : gap.all isGap = true) (hrest : Numeral.ends rest = true) :
    Numeral.ends (gap ++ rest) = true := by
  cases gap with
  | nil => exact hrest
  | cons c gap =>
    rw [List.all_cons, Bool.and_eq_true, isGap] at hgap
    have hc : c = ' ' ∨ c = '\n' ∨ c = '\t' ∨ c = '\r' := by simpa [or_assoc] using hgap.1
    rcases hc with rfl | rfl | rfl | rfl <;> rfl

theorem ends_itemsOut (w : Layout) (level : Nat) (items : List Json) (rest : List Char) :
    Numeral.ends (itemsOut w level items ++ rest) = true := by
  cases items with
  | nil =>
    rw [itemsOut, List.append_assoc]
    exact ends_append (w.line_isGap level) rfl
  | cons j items => rw [itemsOut]; rfl

theorem ends_fieldsOut (w : Layout) (level : Nat) (fields : List (String × Json))
    (rest : List Char) : Numeral.ends (fieldsOut w level fields ++ rest) = true := by
  cases fields with
  | nil =>
    rw [fieldsOut, List.append_assoc]
    exact ends_append (w.line_isGap level) rfl
  | cons field fields => rw [fieldsOut]; rfl

/-! ### One part of a value -/

def beginsNumber (c : Char) : Bool := c == '-' || Text.isDigit c

theorem intChars_cons (n : Int) : ∃ c cs, intChars n = c :: cs ∧ beginsNumber c = true := by
  by_cases h : n < 0
  · exact ⟨'-', Text.digits n.natAbs, if_pos h, rfl⟩
  · obtain ⟨c, cs, hcs⟩ := List.exists_cons_of_ne_nil (Text.digits_ne_nil n.natAbs)
    have hdigit : Text.isDigit c = true :=
      Text.isDigit_of_mem_digits (n := n.natAbs) (hcs ▸ List.mem_cons_self)
    exact ⟨c, cs, (if_neg h).trans hcs, by rw [beginsNumber, hdigit, Bool.or_true]⟩

theorem ne_of_beginsNumber {x : Char} (hc : beginsNumber c = true)
    (hx : beginsNumber x = false) : c ≠ x := by
  rintro rfl
  rw [hc] at hx
  cases hx

theorem beginsValue_of_number (h : beginsNumber c = true) : beginsValue c = true := by
  have hne : ∀ x, beginsNumber x = false → (c == x) = false :=
    fun x hx => beq_eq_false_iff_ne.mpr (ne_of_beginsNumber h hx)
  simp [beginsValue, isGap, bne, hne ' ' rfl, hne '\n' rfl, hne '\t' rfl, hne '\r' rfl,
    hne ']' rfl]

theorem laidOut_cons (w : Layout) (level : Nat) (h : isPlain depth j = true) :
    ∃ c cs, laidOut w level j = c :: cs ∧ beginsValue c = true := by
  cases j with
  | null => exact ⟨_, _, rfl, rfl⟩
  | bool b => cases b <;> exact ⟨_, _, rfl, rfl⟩
  | int n =>
    obtain ⟨c, cs, hcs, hc⟩ := intChars_cons n
    exact ⟨c, cs, hcs, beginsValue_of_number hc⟩
  | float x => cases h
  | str s => exact ⟨_, _, rfl, rfl⟩
  | arr items => cases items <;> exact ⟨_, _, rfl, rfl⟩
  | obj fields => rcases fields with _ | ⟨⟨name, j⟩, fields⟩ <;> exact ⟨_, _, rfl, rfl⟩
  | refused => cases h

theorem laidOut_pos (w : Layout) (level : Nat) (h : isPlain depth j = true) :
    0 < (laidOut w level j).length := by
  obtain ⟨c, cs, hcs, -⟩ := laidOut_cons w level h
  rw [hcs]
  exact Nat.succ_pos _

/-- What begins with a digit or a minus sign is read as a number. -/
theorem value_number (hc : beginsNumber c = true) (cs : List Char) :
    value? (fuel + 1) depth (c :: cs) =
      (Numeral.read? (c :: cs)).map fun (n, rest) => (n.value, rest) := by
  have hne : ∀ x tail, beginsNumber x = false → c :: cs ≠ x :: tail :=
    fun x tail hx heq => ne_of_beginsNumber hc hx (List.cons.inj heq).1
  rw [value?, skipGap_value (beginsValue_of_number hc)]
  split
  · exact absurd ‹_› (hne '\x7b' _ rfl)
  · exact absurd ‹_› (hne '[' _ rfl)
  · exact absurd ‹_› (hne '"' _ rfl)
  · exact absurd ‹_› (hne 'n' _ rfl)
  · exact absurd ‹_› (hne 't' _ rfl)
  · exact absurd ‹_› (hne 'f' _ rfl)
  · rfl

theorem value_int {n : Int} (h : fits n = true) (hrest : Numeral.ends rest = true) :
    value? (fuel + 1) depth (intChars n ++ rest) = some (.int n, rest) := by
  obtain ⟨c, cs, hcs, hc⟩ := intChars_cons n
  have hread := Numeral.read_intChars n hrest
  rw [hcs, List.cons_append] at hread ⊢
  rw [value_number hc, hread]
  simp only [Option.map_some, value_intChars h]

theorem value_str (s : String) :
    value? (fuel + 1) depth (stringChars s ++ rest) = some (.str s, rest) := by
  rw [stringChars, Quoted.encode, List.cons_append, value?, skipGap_cons (by rfl)]
  simp only [quoted_encodeTail]

theorem value_arr {items : List Json} (htext : skipGap text = c :: cs) (hc : beginsValue c = true)
    (h : items? fuel (depth + 1) (c :: cs) = some (items, rest)) :
    value? (fuel + 1) depth ('[' :: text) = some (contained depth (.arr items), rest) := by
  rw [value?, skipGap_cons (by rfl)]
  simp only [htext]
  split
  · rename_i heq
    rw [(List.cons.inj heq).1] at hc
    cases hc
  · rw [h]

theorem value_obj {fields : List (Option String × Json)} (htext : skipGap text = '"' :: cs)
    (h : fields? fuel (depth + 1) ('"' :: cs) = some (fields, rest)) :
    value? (fuel + 1) depth ('\x7b' :: text) =
      some (contained depth (ofFields fields), rest) := by
  rw [value?, skipGap_cons (by rfl)]
  simp only [htext]
  split
  · rename_i heq
    exact absurd (List.cons.inj heq).1 (by decide)
  · rw [h]

theorem items_last (h : value? fuel depth cs = some (j, text))
    (htext : skipGap text = ']' :: rest) : items? (fuel + 1) depth cs = some ([j], rest) := by
  rw [items?, h]
  simp only [htext]

theorem items_cons {items : List Json} (h : value? fuel depth cs = some (j, ',' :: cs'))
    (hitems : items? fuel depth cs' = some (items, rest)) :
    items? (fuel + 1) depth cs = some (j :: items, rest) := by
  rw [items?, h]
  simp only [skipGap_cons (c := ',') rfl, hitems]

theorem fields_last {name : String} (h : value? fuel depth cs = some (j, text))
    (htext : skipGap text = '\x7d' :: rest) :
    fields? (fuel + 1) depth (stringChars name ++ ':' :: cs) = some ([(some name, j)], rest) := by
  rw [fields?, stringChars, Quoted.encode, List.cons_append, skipGap_cons (by rfl)]
  simp only [quoted_encodeTail, skipGap_cons (c := ':') rfl, h, htext]

theorem fields_cons {name : String} {fields : List (Option String × Json)}
    (h : value? fuel depth cs = some (j, ',' :: cs'))
    (hfields : fields? fuel depth cs' = some (fields, rest)) :
    fields? (fuel + 1) depth (stringChars name ++ ':' :: cs) =
      some ((some name, j) :: fields, rest) := by
  rw [fields?, stringChars, Quoted.encode, List.cons_append, skipGap_cons (by rfl)]
  simp only [quoted_encodeTail, skipGap_cons (c := ':') rfl, h, skipGap_cons (c := ',') rfl,
    hfields]

theorem ofFields_some (fields : List (String × Json)) :
    ofFields (fields.map fun f => (some f.1, f.2)) = .obj fields := by
  simp [ofFields, Function.comp_def]

/-! ### All of it -/

-- The three readings go down by the fuel, as the reader does.
mutual

/-- A plain value is read back, whatever follows that does not go on with a number. -/
theorem value_laidOut {j : Json} (fuel depth level : Nat) (rest : List Char)
    (h : isPlain depth j = true) (hfuel : (laidOut w level j).length ≤ fuel)
    (hrest : Numeral.ends rest = true) :
    value? fuel depth (laidOut w level j ++ rest) = some (j, rest) := by
  have hsize := laidOut_pos w level h
  cases fuel with
  | zero => omega
  | succ fuel =>
    cases j with
    | null => rfl
    | bool b => cases b <;> rfl
    | int n => exact value_int h hrest
    | float x => cases h
    | str s => exact value_str s
    | arr items =>
      rw [isPlain, Bool.and_eq_true, decide_eq_true_eq] at h
      have hdepth : contained depth (.arr items) = .arr items := if_pos h.1
      cases items with
      | nil => exact congrArg (fun j => some (j, rest)) hdepth
      | cons j items =>
        rw [laidOut, List.length_cons, List.length_append, List.length_append] at hfuel
        rw [arePlain, Bool.and_eq_true] at h
        obtain ⟨c, cs, hcs, hc⟩ := laidOut_cons w (level + 1) h.2.1
        have hitems := items_laidOut fuel _ level rest h.2.1 h.2.2 (by omega)
        rw [hcs] at hitems
        rw [laidOut, List.cons_append, List.append_assoc, List.append_assoc, hcs, ← hdepth]
        refine value_arr ?_ hc hitems
        rw [skipGap_append (w.line_isGap _)]
        exact skipGap_value hc _
    | obj fields =>
      rw [isPlain, Bool.and_eq_true, decide_eq_true_eq] at h
      have hdepth : contained depth (.obj fields) = .obj fields := if_pos h.1
      rcases fields with _ | ⟨⟨name, j⟩, fields⟩
      · exact congrArg (fun j => some (j, rest)) hdepth
      · rw [laidOut, List.length_cons, List.length_append] at hfuel
        rw [fieldsPlain, Bool.and_eq_true] at h
        have hfields := fields_laidOut name fuel _ level rest h.2.1 h.2.2 (by omega)
        rw [laidOut, List.cons_append, List.append_assoc, ← hdepth, ← ofFields_some]
        refine value_obj ?_ hfields
        rw [skipGap_append (w.line_isGap _)]
        exact skipGap_cons rfl _
    | refused => cases h
termination_by fuel

theorem items_laidOut {j : Json} {items : List Json} (fuel depth level : Nat) (rest : List Char)
    (h : isPlain depth j = true) (hitems : arePlain depth items = true)
    (hfuel : (laidOut w (level + 1) j).length + (itemsOut w level items).length ≤ fuel) :
    items? fuel depth (laidOut w (level + 1) j ++ (itemsOut w level items ++ rest)) =
      some (j :: items, rest) := by
  have hsize := laidOut_pos w (level + 1) h
  cases fuel with
  | zero => omega
  | succ fuel =>
    cases items with
    | nil =>
      rw [itemsOut, List.length_append, List.length_singleton] at hfuel
      refine items_last (value_laidOut fuel _ _ _ h (by omega) (ends_itemsOut w level [] rest)) ?_
      rw [itemsOut, List.append_assoc, skipGap_append (w.line_isGap level)]
      exact skipGap_cons rfl _
    | cons k items =>
      rw [itemsOut, List.length_cons, List.length_append, List.length_append] at hfuel
      rw [arePlain, Bool.and_eq_true] at hitems
      refine items_cons (value_laidOut fuel _ _ _ h (by omega) (ends_itemsOut w level _ rest)) ?_
      rw [List.append_eq, List.append_assoc, items_skip (w.line_isGap _), List.append_assoc]
      exact items_laidOut fuel _ level rest hitems.1 hitems.2 (by omega)
termination_by fuel

theorem fields_laidOut (name : String) {j : Json} {fields : List (String × Json)}
    (fuel depth level : Nat) (rest : List Char) (h : isPlain depth j = true)
    (hfields : fieldsPlain depth fields = true)
    (hfuel : (stringChars name ++ ':' :: (w.blank ++
      (laidOut w (level + 1) j ++ fieldsOut w level fields))).length ≤ fuel) :
    fields? fuel depth (stringChars name ++ ':' :: (w.blank ++
        (laidOut w (level + 1) j ++ fieldsOut w level fields)) ++ rest) =
      some (((name, j) :: fields).map fun f => (some f.1, f.2), rest) := by
  simp only [List.length_append, List.length_cons] at hfuel
  simp only [List.append_assoc, List.cons_append]
  cases fuel with
  | zero => omega
  | succ fuel =>
    have hvalue : ∀ fields, (laidOut w (level + 1) j).length ≤ fuel →
        value? fuel depth (w.blank ++ (laidOut w (level + 1) j ++
          (fieldsOut w level fields ++ rest))) = some (j, fieldsOut w level fields ++ rest) := by
      intro fields hsize
      rw [value_skip w.blank_isGap]
      exact value_laidOut fuel _ _ _ h hsize (ends_fieldsOut w level fields rest)
    rcases fields with _ | ⟨⟨name', k⟩, fields⟩
    · refine fields_last (hvalue [] (by omega)) ?_
      rw [fieldsOut, List.append_assoc, skipGap_append (w.line_isGap level)]
      exact skipGap_cons rfl _
    · simp only [fieldsOut, List.length_append, List.length_cons] at hfuel
      rw [fieldsPlain, Bool.and_eq_true] at hfields
      refine fields_cons (hvalue _ (by omega)) ?_
      rw [List.append_eq, List.append_assoc, fields_skip (w.line_isGap _)]
      refine fields_laidOut name' fuel _ level rest hfields.1 hfields.2 ?_
      simp only [List.length_append, List.length_cons]
      omega
termination_by fuel

end

/-- Gaps behind a value make no difference. -/
theorem ofChars_laidOut (w : Layout) (h : isPlain 0 j = true) (gap : List Char)
    (hgap : gap.all isGap = true) : ofChars? (laidOut w 0 j ++ gap) = some j := by
  have hends : Numeral.ends (gap ++ []) = true := ends_append hgap rfl
  rw [List.append_nil] at hends
  have hread := value_laidOut (w := w) (2 * (laidOut w 0 j ++ gap).length + 2) 0 0 gap h
    (by simp only [List.length_append]; omega) hends
  rw [ofChars?, hread]
  exact if_pos hgap

theorem ofChars_chars (h : isPlain 0 j = true) : ofChars? (chars j) = some j := by
  have hread := ofChars_laidOut .compact h [] rfl
  rwa [laidOut_compact, List.append_nil] at hread

/-- A plain value is read back from its lines. -/
theorem ofText_pretty (h : isPlain 0 j = true) : ofText? (j.pretty ++ "\n") = some j := by
  have hread := ofChars_laidOut .indented h ['\n'] rfl
  rw [laidOut_indented] at hread
  rw [ofText?, pretty, String.toList_append, String.toList_ofList]
  exact hread

namespace Bytes

theorem mend_text (p : Place) (cs : List Char) : mend? p (cs.map some) = some cs := by
  induction cs generalizing p with
  | nil => cases p <;> rfl
  | cons c cs ih =>
    rw [List.map_cons, mend?, ih]
    rfl

end Bytes

/-- A plain value is read back from the bytes it was written to. -/
theorem ofBytes_compact {j : Json} (h : isPlain 0 j = true) :
    ofBytes? (compact j).toUTF8.toList = some j := by
  rw [ofBytes?, Text.Utf8.pieces_toUTF8, Bytes.mend_text, compact, String.toList_ofList]
  exact ofChars_chars h

end Transit.Json
