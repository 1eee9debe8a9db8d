import N2F.Ecma.Equality

set_option autoImplicit false

namespace Postgres

open Ecma

-- Numbers are exact, a repeated key keeps its last value.
inductive Jsonb where
  | null
  | bool (b : Bool)
  | num (q : ℚ)
  | str (s : Str)
  | arr (elements : List Jsonb)
  | obj (members : List (Str × Jsonb))

-- The server keeps text as scalar values other than U+0000.
def storableText : Str → Bool
  | [] => true
  | [u] => u ≠ 0 && !isHigh u && !isLow u
  | u :: v :: rest =>
      if isHigh u && isLow v then storableText rest
      else u ≠ 0 && !isHigh u && !isLow u && storableText (v :: rest)

mutual
def storable : Doc → Bool
  | .str s => storableText s
  | .arr elements => storableElements elements
  | .obj members => storableMembers members
  | _ => true
def storableElements : List Doc → Bool
  | [] => true
  | d :: rest => storable d && storableElements rest
def storableMembers : List (Str × Doc) → Bool
  | [] => true
  | (k, d) :: rest => storableText k && storable d && storableMembers rest
end

mutual
def jsonb : Doc → Jsonb
  | .null => .null
  | .bool b => .bool b
  | .num negative magnitude => .num (if negative then -magnitude else magnitude)
  | .str s => .str s
  | .arr elements => .arr (jsonbElements elements)
  | .obj members => .obj (build (jsonbMembers members))
def jsonbElements : List Doc → List Jsonb
  | [] => []
  | d :: rest => jsonb d :: jsonbElements rest
def jsonbMembers : List (Str × Doc) → List (Str × Jsonb)
  | [] => []
  | (k, d) :: rest => (k, jsonb d) :: jsonbMembers rest
end

-- text::jsonb
def castJsonb (text : List Char) : Option Jsonb :=
  (parseDoc text).bind fun d => if storable d then some (jsonb d) else none

def Jsonb.isObject : Jsonb → Bool
  | .obj _ => true
  | _ => false

-- The jsonb equality operator.
mutual
def Jsonb.same : Jsonb → Jsonb → Bool
  | .null, .null => true
  | .bool a, .bool b => a = b
  | .num x, .num y => x = y
  | .str s, .str t => s = t
  | .arr a, .arr b => sameElements a b
  | .obj a, .obj b => a.length = b.length && sameMembers a b
  | _, _ => false
def sameElements : List Jsonb → List Jsonb → Bool
  | [], [] => true
  | v :: a, w :: b => v.same w && sameElements a b
  | _, _ => false
def sameMembers : List (Str × Jsonb) → List (Str × Jsonb) → Bool
  | [], _ => true
  | (k, v) :: rest, b =>
      (match get b k with
        | none => false
        | some w => v.same w) && sameMembers rest b
end

-- a::jsonb = b::jsonb on texts that cast
def sameJsonb (a b : List Char) : Bool :=
  match castJsonb a, castJsonb b with
  | some x, some y => x.same y
  | _, _ => false

mutual
def Jsonb.Canonical : Jsonb → Prop
  | .arr elements => CanonicalElements elements
  | .obj members => Ordered members ∧ CanonicalMembers members
  | _ => True
def CanonicalElements : List Jsonb → Prop
  | [] => True
  | v :: rest => v.Canonical ∧ CanonicalElements rest
def CanonicalMembers : List (Str × Jsonb) → Prop
  | [] => True
  | (_, v) :: rest => v.Canonical ∧ CanonicalMembers rest
end

theorem canonical_members_iff (ms : List (Str × Jsonb)) : CanonicalMembers ms ↔ ∀ m ∈ ms, m.2.Canonical := by
  induction ms with
  | nil => simp [CanonicalMembers]
  | cons m rest ih => simp [CanonicalMembers, ih]

mutual
theorem jsonb_canonical (d : Doc) : (jsonb d).Canonical := by
  cases d with
  | null => trivial
  | bool b => trivial
  | num negative magnitude => trivial
  | str s => trivial
  | arr elements => exact jsonb_elements_canonical elements
  | obj members =>
      refine ⟨build_ordered _, (canonical_members_iff _).mpr ?_⟩
      exact build_members Jsonb.Canonical _ [] (by simp) (jsonb_members_canonical members)
theorem jsonb_elements_canonical (ds : List Doc) : CanonicalElements (jsonbElements ds) := by
  cases ds with
  | nil => trivial
  | cons d rest => exact ⟨jsonb_canonical d, jsonb_elements_canonical rest⟩
theorem jsonb_members_canonical (ms : List (Str × Doc)) : ∀ m ∈ jsonbMembers ms, m.2.Canonical := by
  cases ms with
  | nil => simp [jsonbMembers]
  | cons m rest =>
      obtain ⟨k, d⟩ := m
      intro a member
      rw [jsonbMembers] at member
      rcases List.mem_cons.mp member with here | later
      · rw [here]
        exact jsonb_canonical d
      · exact jsonb_members_canonical rest a later
end

mutual
theorem same_refl (v : Jsonb) (canonical : v.Canonical) : v.same v = true := by
  cases v with
  | null => rfl
  | bool b => simp [Jsonb.same]
  | num q => simp [Jsonb.same]
  | str s => simp [Jsonb.same]
  | arr elements => exact same_elements_refl elements canonical
  | obj members =>
      simp only [Jsonb.same, decide_true, Bool.true_and]
      exact same_members_refl members members canonical.1 canonical.2 (fun m member => member)
theorem same_elements_refl (vs : List Jsonb) (canonical : CanonicalElements vs) : sameElements vs vs = true := by
  cases vs with
  | nil => rfl
  | cons v rest => rw [sameElements, same_refl v canonical.1, same_elements_refl rest canonical.2, Bool.and_self]
theorem same_members_refl (whole ms : List (Str × Jsonb)) (ordered : Ordered whole) (canonical : CanonicalMembers ms)
    (inside : ∀ m ∈ ms, m ∈ whole) : sameMembers ms whole = true := by
  cases ms with
  | nil => rfl
  | cons m rest =>
      obtain ⟨k, v⟩ := m
      have found := get_member whole k v ordered (inside (k, v) (by simp))
      simp only [sameMembers, found]
      rw [same_refl v canonical.1,
        same_members_refl whole rest ordered canonical.2 (fun m member => inside m (by simp [member])), Bool.and_self]
end

theorem cast_canonical (text : List Char) (v : Jsonb) (cast : castJsonb text = some v) : v.Canonical := by
  obtain ⟨d, _, kept⟩ := Option.bind_eq_some_iff.mp cast
  split_ifs at kept
  obtain rfl := Option.some.inj kept
  exact jsonb_canonical d

theorem same_jsonb_refl (text : List Char) (cast : (castJsonb text).isSome = true) : sameJsonb text text = true := by
  obtain ⟨v, found⟩ := Option.isSome_iff_exists.mp cast
  simp only [sameJsonb, found]
  exact same_refl v (cast_canonical text v found)

mutual
def texts (p : Str → Bool) : Json → Bool
  | .str s => p s
  | .arr elements => elementTexts p elements
  | .obj members => memberTexts p members
  | _ => true
def elementTexts (p : Str → Bool) : List Json → Bool
  | [] => true
  | v :: rest => texts p v && elementTexts p rest
def memberTexts (p : Str → Bool) : List (Str × Json) → Bool
  | [] => true
  | (k, v) :: rest => p k && texts p v && memberTexts p rest
end

mutual
theorem storable_doc (v : Json) : storable v.doc = texts storableText v := by
  cases v with
  | null => rfl
  | bool b => rfl
  | num n => cases n <;> rfl
  | str s => rfl
  | arr elements => exact storable_element_docs elements
  | obj members => exact storable_member_docs members
theorem storable_element_docs (vs : List Json) : storableElements (elementDocs vs) = elementTexts storableText vs := by
  cases vs with
  | nil => rfl
  | cons v rest => rw [elementDocs, storableElements, elementTexts, storable_doc v, storable_element_docs rest]
theorem storable_member_docs (ms : List (Str × Json)) : storableMembers (memberDocs ms) = memberTexts storableText ms := by
  cases ms with
  | nil => rfl
  | cons m rest =>
      obtain ⟨k, v⟩ := m
      rw [memberDocs, storableMembers, memberTexts, storable_doc v, storable_member_docs rest]
end

theorem cast_text (v : Json) : castJsonb v.text = if texts storableText v then some (jsonb v.doc) else none := by
  rw [castJsonb, parse_doc_text, Option.bind_some, storable_doc]

mutual
theorem texts_settle (p : Str → Bool) (v : Json) : texts p v.settle = texts p v := by
  cases v with
  | null => rfl
  | bool b => rfl
  | num n => cases n <;> rfl
  | str s => rfl
  | arr elements => exact element_texts_settle p elements
  | obj members => exact member_texts_settle p members
theorem element_texts_settle (p : Str → Bool) (vs : List Json) : elementTexts p (settleElements vs) = elementTexts p vs := by
  cases vs with
  | nil => rfl
  | cons v rest => rw [settleElements, elementTexts, elementTexts, texts_settle p v, element_texts_settle p rest]
theorem member_texts_settle (p : Str → Bool) (ms : List (Str × Json)) :
    memberTexts p (settleMembers ms) = memberTexts p ms := by
  cases ms with
  | nil => rfl
  | cons m rest =>
      obtain ⟨k, v⟩ := m
      rw [settleMembers, memberTexts, memberTexts, texts_settle p v, member_texts_settle p rest]
end

end Postgres
