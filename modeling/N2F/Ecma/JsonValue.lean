import N2F.Ecma.JsonText

set_option autoImplicit false

namespace Ecma

mutual
def Json.Canonical : Json → Prop
  | .arr elements => CanonicalElements elements
  | .obj members => Ordered members ∧ CanonicalMembers members
  | _ => True
def CanonicalElements : List Json → Prop
  | [] => True
  | v :: rest => v.Canonical ∧ CanonicalElements rest
def CanonicalMembers : List (Str × Json) → Prop
  | [] => True
  | (_, v) :: rest => v.Canonical ∧ CanonicalMembers rest
end

def settleNumber (n : Number) : Json :=
  match n with
  | .nan | .infinity _ => .null
  | .negZero => .num Number.zero
  | .finite d => .num (.finite d)

-- The value that printing and parsing leave: a number without a numeral becomes
-- null and the negative zero loses its sign.
mutual
def Json.settle : Json → Json
  | .num n => settleNumber n
  | .arr elements => .arr (settleElements elements)
  | .obj members => .obj (settleMembers members)
  | .null => .null
  | .bool b => .bool b
  | .str s => .str s
def settleElements : List Json → List Json
  | [] => []
  | v :: rest => v.settle :: settleElements rest
def settleMembers : List (Str × Json) → List (Str × Json)
  | [] => []
  | (k, v) :: rest => (k, v.settle) :: settleMembers rest
end

theorem settle_members_map (ms : List (Str × Json)) : settleMembers ms = ms.map fun m => (m.1, m.2.settle) := by
  induction ms with
  | nil => rfl
  | cons m rest ih => simp [settleMembers, ih]

theorem settle_number_value (n : Number) : (numberDoc n).value = settleNumber n := by
  cases n with
  | nan => rfl
  | infinity negative => rfl
  | negZero =>
      simp only [numberDoc, settleNumber, Doc.value, Number.ofNumeral, if_neg Bool.false_ne_true, Number.zero]
      exact congrArg Json.num (number_of_double ⟨0, double_zero⟩)
  | finite d => simp only [numberDoc, settleNumber, Doc.value, of_numeral_denotes]

mutual
theorem doc_value (v : Json) (canonical : v.Canonical) : v.doc.value = v.settle := by
  cases v with
  | null => rfl
  | bool b => rfl
  | num n => exact settle_number_value n
  | str s => rfl
  | arr elements =>
      simp only [Json.doc, Doc.value, Json.settle]
      rw [element_doc_values elements canonical]
  | obj members =>
      obtain ⟨ordered, values⟩ := canonical
      simp only [Json.doc, Doc.value, Json.settle]
      rw [member_doc_values members values, build_id]
      rw [settle_members_map]
      exact (ordered_map Json.settle members).mpr ordered
theorem element_doc_values (vs : List Json) (canonical : CanonicalElements vs) :
    elementValues (elementDocs vs) = settleElements vs := by
  cases vs with
  | nil => rfl
  | cons v rest =>
      simp only [elementDocs, elementValues, settleElements]
      rw [doc_value v canonical.1, element_doc_values rest canonical.2]
theorem member_doc_values (ms : List (Str × Json)) (canonical : CanonicalMembers ms) :
    memberValues (memberDocs ms) = settleMembers ms := by
  cases ms with
  | nil => rfl
  | cons m rest =>
      obtain ⟨k, v⟩ := m
      simp only [memberDocs, memberValues, settleMembers]
      rw [doc_value v canonical.1, member_doc_values rest canonical.2]
end

theorem parse_text (v : Json) (canonical : v.Canonical) : parse v.text = some v.settle := by
  rw [parse, parse_doc_text, Option.map_some, doc_value v canonical]

theorem canonical_members_iff (ms : List (Str × Json)) : CanonicalMembers ms ↔ ∀ m ∈ ms, m.2.Canonical := by
  induction ms with
  | nil => simp [CanonicalMembers]
  | cons m rest ih => simp [CanonicalMembers, ih]

mutual
theorem value_canonical (d : Doc) : d.value.Canonical := by
  cases d with
  | null => trivial
  | bool b => trivial
  | num negative magnitude => trivial
  | str s => trivial
  | arr elements => exact element_values_canonical elements
  | obj members =>
      refine ⟨build_ordered _, (canonical_members_iff _).mpr ?_⟩
      exact build_members Json.Canonical _ [] (by simp) (member_values_canonical members)
theorem element_values_canonical (ds : List Doc) : CanonicalElements (elementValues ds) := by
  cases ds with
  | nil => trivial
  | cons d rest => exact ⟨value_canonical d, element_values_canonical rest⟩
theorem member_values_canonical (ms : List (Str × Doc)) : ∀ m ∈ memberValues ms, m.2.Canonical := by
  cases ms with
  | nil => simp [memberValues]
  | cons m rest =>
      obtain ⟨k, d⟩ := m
      intro a member
      rw [memberValues] at member
      rcases List.mem_cons.mp member with here | later
      · rw [here]
        exact value_canonical d
      · exact member_values_canonical rest a later
end

theorem parse_canonical (cs : List Char) (v : Json) (parsed : parse cs = some v) : v.Canonical := by
  obtain ⟨d, _, rfl⟩ := Option.map_eq_some_iff.mp parsed
  exact value_canonical d

theorem settle_number_text (n : Number) : (settleNumber n).text = numberJson n := by
  cases n with
  | nan => rfl
  | infinity negative => rfl
  | negZero => simp [settleNumber, Json.text, numberJson, Number.text, Number.zero]
  | finite d => rfl

mutual
theorem settle_text (v : Json) : v.settle.text = v.text := by
  cases v with
  | null => rfl
  | bool b => rfl
  | num n => exact settle_number_text n
  | str s => rfl
  | arr elements =>
      cases elements with
      | nil => rfl
      | cons v rest => simp only [Json.settle, settleElements, Json.text, settle_text v, settle_elements_text rest]
  | obj members =>
      cases members with
      | nil => rfl
      | cons m rest =>
          obtain ⟨k, v⟩ := m
          simp only [Json.settle, settleMembers, Json.text, settle_text v, settle_members_text rest]
theorem settle_elements_text (vs : List Json) : elementsText (settleElements vs) = elementsText vs := by
  cases vs with
  | nil => rfl
  | cons v rest => simp only [settleElements, elementsText, settle_text v, settle_elements_text rest]
theorem settle_members_text (ms : List (Str × Json)) : membersText (settleMembers ms) = membersText ms := by
  cases ms with
  | nil => rfl
  | cons m rest =>
      obtain ⟨k, v⟩ := m
      simp only [settleMembers, membersText, settle_text v, settle_members_text rest]
end

end Ecma
