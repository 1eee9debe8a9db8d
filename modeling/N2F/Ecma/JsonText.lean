import N2F.Ecma.Json

set_option autoImplicit false

namespace Ecma

def StartsValue : List Char → Prop
  | [] => False
  | c :: _ => isSpace c = false ∧ c ≠ ']' ∧ c ≠ '}'

theorem starts_value_append (cs rest : List Char) (starts : StartsValue cs) : StartsValue (cs ++ rest) := by
  cases cs with
  | nil => exact False.elim starts
  | cons c tail => exact starts

theorem skip_start (cs : List Char) (starts : StartsValue cs) : skip cs = cs := by
  cases cs with
  | nil => rfl
  | cons c tail => simp [skip, starts.1]

theorem digit_not (c other : Char) (digit : c.isDigit = true) (outside : other.isDigit = false) : c ≠ other := by
  rintro rfl
  simp [digit] at outside

theorem digit_starts (c : Char) (tail : List Char) (digit : c.isDigit = true) : StartsValue (c :: tail) := by
  refine ⟨?_, digit_not c ']' digit rfl, digit_not c '}' digit rfl⟩
  simp [isSpace, digit_not c ' ' digit rfl, digit_not c '\t' digit rfl, digit_not c '\n' digit rfl,
    digit_not c '\r' digit rfl]

theorem number_text_head (d : Double) :
    ∃ c tail, (Number.finite d).text = c :: tail ∧ (c.isDigit = true ∨ c = '-') := by
  by_cases zero : d.value = 0
  · exact ⟨'0', [], by simp [Number.text, zero], .inl rfl⟩
  · by_cases negative : d.value < 0
    · exact ⟨'-', _, by rw [Number.text, if_neg zero, if_pos negative], .inr rfl⟩
    · obtain ⟨c, tail, text, digit⟩ :=
        magnitude_text_head d (lt_of_le_of_ne (not_lt.mp negative) (Ne.symm zero))
      exact ⟨c, tail, by rw [Number.text, if_neg zero, if_neg negative, text], .inl digit⟩

theorem number_json_starts (n : Number) : StartsValue (numberJson n) := by
  cases n with
  | nan => exact ⟨rfl, by decide, by decide⟩
  | infinity negative => exact ⟨rfl, by decide, by decide⟩
  | negZero => exact ⟨rfl, by decide, by decide⟩
  | finite d =>
      obtain ⟨c, tail, text, digit | minus⟩ := number_text_head d
      · simpa only [numberJson, text] using digit_starts c tail digit
      · rw [numberJson, text, minus]
        exact ⟨rfl, by decide, by decide⟩

theorem text_starts (v : Json) : StartsValue v.text := by
  cases v with
  | null => exact ⟨rfl, by decide, by decide⟩
  | bool b => cases b <;> exact ⟨rfl, by decide, by decide⟩
  | num n => exact number_json_starts n
  | str s => exact ⟨rfl, by decide, by decide⟩
  | arr elements => cases elements <;> exact ⟨rfl, by decide, by decide⟩
  | obj members =>
      cases members with
      | nil => exact ⟨rfl, by decide, by decide⟩
      | cons m rest => exact ⟨rfl, by decide, by decide⟩

theorem elements_follow (vs : List Json) (rest : List Char) : Follows (elementsText vs ++ rest) := by
  cases vs <;> exact ⟨rfl, by decide, by decide, by decide⟩

theorem members_follow (ms : List (Str × Json)) (rest : List Char) : Follows (membersText ms ++ rest) := by
  cases ms with
  | nil => exact ⟨rfl, by decide, by decide, by decide⟩
  | cons m tail => exact ⟨rfl, by decide, by decide, by decide⟩

theorem parse_number (n : Number) (fuel : ℕ) (rest : List Char) (follows : Follows rest) :
    parseValue (fuel + 1) (numberJson n ++ rest) = some (numberDoc n, rest) := by
  cases n with
  | nan => simp [numberJson, numberDoc, parseValue]
  | infinity negative => simp [numberJson, numberDoc, parseValue]
  | negZero =>
      have scanned := scan_number_text ⟨0, double_zero⟩ rest follows
      simp only [Number.text, if_true, denotes, List.cons_append, List.nil_append] at scanned
      simp [numberJson, Number.text, numberDoc, parseValue, scanned]
  | finite d =>
      have scanned := scan_number_text d rest follows
      obtain ⟨c, tail, text, head⟩ := number_text_head d
      have apart (other : Char) (outside : other.isDigit = false) (notMinus : other ≠ '-') : c ≠ other :=
        head.elim (fun digit => digit_not c other digit outside) (fun minus => by rw [minus]; exact Ne.symm notMinus)
      rw [text, List.cons_append] at scanned
      rw [numberJson, text, List.cons_append]
      simp [parseValue, apart '"' rfl (by decide), apart '[' rfl (by decide), apart '{' rfl (by decide),
        Ne.symm (apart 'n' rfl (by decide)), Ne.symm (apart 't' rfl (by decide)), Ne.symm (apart 'f' rfl (by decide)),
        scanned, numberDoc]

theorem scan_quoted (k : Str) (rest : List Char) : scanString (quoteUnits k ++ ['"'] ++ rest) = some (k, rest) := by
  rw [List.append_assoc]
  exact scan_quote_units k rest

theorem quote_append (k : Str) (rest : List Char) : quote k ++ rest = '"' :: (quoteUnits k ++ ['"'] ++ rest) := rfl

theorem quote_length (k : Str) : 0 < (quote k).length := by simp [quote]

theorem quote_unit_length (u : UInt16) : (quoteUnit u).length ≤ 6 := by
  rw [quoteUnit]
  split_ifs
  all_goals simp [hexEscape]

theorem quote_units_length (s : Str) : (quoteUnits s).length ≤ 6 * s.length := by
  induction s using quoteUnits.induct with
  | case1 => exact Nat.le_refl _
  | case2 u => exact quote_unit_length u
  | case3 u v rest pair ih =>
      rw [quoteUnits, if_pos pair]
      simp only [List.length_cons]
      omega
  | case4 u v rest single ih =>
      have unit := quote_unit_length u
      rw [quoteUnits, if_neg single, List.length_append]
      simp only [List.length_cons] at ih ⊢
      omega

theorem quote_bound (s : Str) : (quote s).length ≤ 6 * s.length + 2 := by
  have units := quote_units_length s
  rw [quote]
  simp only [List.length_cons, List.length_append, List.length_nil]
  omega

theorem parse_member_text (k : Str) (v : Json) (fuel : ℕ) (rest : List Char)
    (value : parseValue fuel (v.text ++ rest) = some (v.doc, rest)) :
    parseMember (fuel + 1) (quote k ++ ':' :: (v.text ++ rest)) = some ((k, v.doc), rest) := by
  have starts := starts_value_append _ rest (text_starts v)
  rw [quote_append, parseMember]
  simp only [if_true, scan_quoted, Option.bind_some]
  rw [show skip (':' :: (v.text ++ rest)) = ':' :: (v.text ++ rest) from rfl]
  simp only [if_true, skip_start _ starts, value, Option.map_some]

-- The printed form of any value parses to what the value says, whatever follows
-- it. The recursion is on the value; the fuel bounds the text that is read.
mutual
theorem parse_value_text (v : Json) (fuel : ℕ) (rest : List Char) (enough : v.text.length ≤ fuel)
    (follows : Follows rest) : parseValue fuel (v.text ++ rest) = some (v.doc, rest) := by
  have nonempty : 0 < v.text.length := by
    have starts := text_starts v
    cases text : v.text with
    | nil => rw [text] at starts; exact False.elim starts
    | cons c tail => simp
  obtain ⟨fuel, rfl⟩ : ∃ less, fuel = less + 1 := ⟨fuel - 1, by omega⟩
  cases v with
  | null => simp [Json.text, Json.doc, parseValue]
  | bool b => cases b <;> simp [Json.text, Json.doc, parseValue]
  | num n => simpa only [Json.text, Json.doc] using parse_number n fuel rest follows
  | str s => simp only [Json.text, Json.doc, quote_append, parseValue, if_true, scan_quoted, Option.map_some]
  | arr elements =>
      cases elements with
      | nil => simp [Json.text, Json.doc, elementDocs, parseValue, skip, isSpace]
      | cons v vs =>
          simp only [Json.text, List.length_cons, List.length_append] at enough
          have first := parse_value_text v fuel (elementsText vs ++ rest) (by omega) (elements_follow vs rest)
          have others := parse_elements_text vs fuel rest (by omega)
          have starts := starts_value_append _ (elementsText vs ++ rest) (text_starts v)
          simp only [Json.text, Json.doc, elementDocs, List.cons_append, List.append_assoc, parseValue,
            if_neg (by decide : ('[' : Char) ≠ '"'), if_true, skip_start _ starts]
          cases text : v.text ++ (elementsText vs ++ rest) with
          | nil => rw [text] at starts; exact False.elim starts
          | cons c tail =>
              rw [text] at first starts
              simp only [if_neg starts.2.1, first, Option.bind_some, others, Option.map_some]
  | obj members =>
      cases members with
      | nil => simp [Json.text, Json.doc, memberDocs, parseValue, skip, isSpace]
      | cons m ms =>
          obtain ⟨k, v⟩ := m
          simp only [Json.text, List.length_cons, List.length_append] at enough
          have quoted := quote_length k
          obtain ⟨fuel, rfl⟩ : ∃ less, fuel = less + 1 := ⟨fuel - 1, by omega⟩
          have first := parse_member_text k v fuel (membersText ms ++ rest)
            (parse_value_text v fuel (membersText ms ++ rest) (by omega) (members_follow ms rest))
          have others := parse_members_text ms (fuel + 1) rest (by omega)
          simp only [Json.text, Json.doc, memberDocs, List.cons_append, List.append_assoc, parseValue,
            if_neg (by decide : ('{' : Char) ≠ '"'), if_neg (by decide : ('{' : Char) ≠ '['), if_true]
          rw [skip_start _ (by exact ⟨rfl, by decide, by decide⟩)]
          rw [quote_append] at first ⊢
          simp only [if_neg (by decide : ('"' : Char) ≠ '}'), first, Option.bind_some, others, Option.map_some]
theorem parse_elements_text (vs : List Json) (fuel : ℕ) (rest : List Char)
    (enough : (elementsText vs).length ≤ fuel) :
    parseElements fuel (elementsText vs ++ rest) = some (elementDocs vs, rest) := by
  cases vs with
  | nil =>
      simp only [elementsText, List.length_cons] at enough
      obtain ⟨fuel, rfl⟩ : ∃ less, fuel = less + 1 := ⟨fuel - 1, by omega⟩
      simp [elementsText, elementDocs, parseElements, skip, isSpace]
  | cons v vs =>
      simp only [elementsText, List.length_cons, List.length_append] at enough
      obtain ⟨fuel, rfl⟩ : ∃ less, fuel = less + 1 := ⟨fuel - 1, by omega⟩
      have first := parse_value_text v fuel (elementsText vs ++ rest) (by omega) (elements_follow vs rest)
      have others := parse_elements_text vs fuel rest (by omega)
      have starts := starts_value_append _ (elementsText vs ++ rest) (text_starts v)
      rw [elementsText, List.cons_append, List.append_assoc, parseElements,
        show skip (',' :: (v.text ++ (elementsText vs ++ rest))) = ',' :: (v.text ++ (elementsText vs ++ rest)) from rfl]
      simp only [if_neg (by decide : (',' : Char) ≠ ']'), if_true, skip_start _ starts, first, Option.bind_some, others,
        Option.map_some, elementDocs]
theorem parse_members_text (ms : List (Str × Json)) (fuel : ℕ) (rest : List Char)
    (enough : (membersText ms).length ≤ fuel) :
    parseMembers fuel (membersText ms ++ rest) = some (memberDocs ms, rest) := by
  cases ms with
  | nil =>
      simp only [membersText, List.length_cons] at enough
      obtain ⟨fuel, rfl⟩ : ∃ less, fuel = less + 1 := ⟨fuel - 1, by omega⟩
      simp [membersText, memberDocs, parseMembers, skip, isSpace]
  | cons m ms =>
      obtain ⟨k, v⟩ := m
      simp only [membersText, List.length_cons, List.length_append] at enough
      have quoted := quote_length k
      obtain ⟨fuel, rfl⟩ : ∃ less, fuel = less + 1 := ⟨fuel - 1, by omega⟩
      obtain ⟨fuel, rfl⟩ : ∃ less, fuel = less + 1 := ⟨fuel - 1, by omega⟩
      have first := parse_member_text k v fuel (membersText ms ++ rest)
        (parse_value_text v fuel (membersText ms ++ rest) (by omega) (members_follow ms rest))
      have others := parse_members_text ms (fuel + 1) rest (by omega)
      simp only [membersText, List.cons_append, List.append_assoc]
      rw [parseMembers, show skip (',' :: (quote k ++ ':' :: (v.text ++ (membersText ms ++ rest)))) =
        ',' :: (quote k ++ ':' :: (v.text ++ (membersText ms ++ rest))) from rfl]
      simp only [if_neg (by decide : (',' : Char) ≠ '}'), if_true]
      rw [skip_start (quote k ++ _) (by exact ⟨rfl, by decide, by decide⟩), first, Option.bind_some, others,
        Option.map_some, memberDocs]
end

theorem parse_doc_text (v : Json) : parseDoc v.text = some v.doc := by
  have parsed := parse_value_text v v.text.length [] (le_refl _) trivial
  rw [List.append_nil] at parsed
  rw [parseDoc, skip_start _ (text_starts v), parsed, Option.bind_some]
  exact if_pos rfl

end Ecma
