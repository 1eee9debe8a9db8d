import N2F.Postgres.Jsonb
import Mathlib.Data.List.Perm.Subperm

set_option autoImplicit false

namespace Postgres

open Ecma

theorem same_members_iff (ms b : List (Str × Jsonb)) :
    sameMembers ms b = true ↔ ∀ m ∈ ms, ∃ w, get b m.1 = some w ∧ m.2.same w = true := by
  induction ms with
  | nil => simp [sameMembers]
  | cons m rest ih =>
      obtain ⟨k, v⟩ := m
      rw [sameMembers, Bool.and_eq_true, ih, List.forall_mem_cons]
      cases get b k with
      | none => simp
      | some w => simp

theorem keys_found (a b : Properties Jsonb) (distinct : Ordered a) (size : a.length = b.length)
    (inside : ∀ m ∈ a, ∃ w, get b m.1 = some w) (k : Str) (v : Jsonb) (member : (k, v) ∈ b) : ∃ w, (k, w) ∈ a := by
  have nodup : (a.map Prod.fst).Nodup := by
    rw [List.Nodup, List.pairwise_map]
    exact distinct.imp fun order => order.1
  have subset : a.map Prod.fst ⊆ b.map Prod.fst := by
    intro j here
    obtain ⟨m, there, rfl⟩ := List.mem_map.mp here
    obtain ⟨w, found⟩ := inside m there
    obtain ⟨n, located, _⟩ := Option.map_eq_some_iff.mp found
    have own : n.1 = m.1 := by simpa using List.find?_some located
    exact own ▸ List.mem_map_of_mem (List.mem_of_find?_eq_some located)
  have perm := (List.subperm_of_subset nodup subset).perm_of_length_le (by simp [size])
  obtain ⟨m, there, own⟩ := List.mem_map.mp (perm.mem_iff.mpr (List.mem_map_of_mem (f := Prod.fst) member))
  simp only at own
  subst own
  exact ⟨m.2, there⟩

theorem get_mem (ms : Properties Jsonb) (k : Str) (v : Jsonb) (found : get ms k = some v) : (k, v) ∈ ms := by
  obtain ⟨m, located, value⟩ := Option.map_eq_some_iff.mp found
  have own : m.1 = k := by simpa using List.find?_some located
  rw [← own, ← value]
  exact List.mem_of_find?_eq_some located

mutual
theorem same_congr (x y z : Jsonb) (left : x.Canonical) (right : y.Canonical) (same : x.same y = true) : x.same z = y.same z := by
  cases x with
  | null => cases y with
    | null => rfl
    | _ => cases same
  | bool b => cases y with
    | bool b' => rw [of_decide_eq_true same]
    | _ => cases same
  | num q => cases y with
    | num q' => rw [of_decide_eq_true same]
    | _ => cases same
  | str s => cases y with
    | str s' => rw [of_decide_eq_true same]
    | _ => cases same
  | arr vs => cases y with
    | arr ws =>
        cases z with
        | arr us => exact same_elements_congr vs ws us left right same
        | _ => rfl
    | _ => cases same
  | obj ms => cases y with
    | obj ns =>
        cases z with
        | obj ps =>
            simp only [Jsonb.same, Bool.and_eq_true, decide_eq_true_eq] at same ⊢
            obtain ⟨size, members⟩ := same
            rw [same_members_iff] at members
            have inner := same_member_congr ms ((canonical_members_iff ms).mp left.2)
            have values := (canonical_members_iff ns).mp right.2
            have found : ∀ m ∈ ms, ∃ w, get ns m.1 = some w := by
              intro m member
              obtain ⟨w, here, _⟩ := members m member
              exact ⟨w, here⟩
            have alike : sameMembers ms ps = true ↔ sameMembers ns ps = true := by
              rw [same_members_iff, same_members_iff]
              constructor
              · intro whole n member
                obtain ⟨v, own⟩ := keys_found ms ns left.1 size found n.1 n.2 member
                obtain ⟨w, here, equal⟩ := members (n.1, v) own
                rw [get_member ns n.1 n.2 right.1 member] at here
                injection here with here
                subst here
                obtain ⟨u, there, last⟩ := whole (n.1, v) own
                exact ⟨u, there, (inner (n.1, v) own n.2 u (values n member) equal) ▸ last⟩
              · intro whole m member
                obtain ⟨w, here, equal⟩ := members m member
                have inside := get_mem ns m.1 w here
                obtain ⟨u, there, last⟩ := whole (m.1, w) inside
                exact ⟨u, there, (inner m member w u (values _ inside) equal).trans last⟩
            rw [size, Bool.eq_iff_iff.mpr alike]
        | _ => rfl
    | _ => cases same
theorem same_elements_congr (vs ws us : List Jsonb) (left : CanonicalElements vs) (right : CanonicalElements ws)
    (same : sameElements vs ws = true) : sameElements vs us = sameElements ws us := by
  cases vs with
  | nil => cases ws with
    | nil => rfl
    | cons w ws => cases same
  | cons v vs => cases ws with
    | nil => cases same
    | cons w ws =>
        rw [sameElements, Bool.and_eq_true] at same
        cases us with
        | nil => rfl
        | cons u us => rw [sameElements, sameElements, same_congr v w u left.1 right.1 same.1,
            same_elements_congr vs ws us left.2 right.2 same.2]
theorem same_member_congr (ms : List (Str × Jsonb)) (left : ∀ m ∈ ms, m.2.Canonical) :
    ∀ m ∈ ms, ∀ w u : Jsonb, w.Canonical → m.2.same w = true → m.2.same u = w.same u := by
  cases ms with
  | nil =>
      intro m member
      cases member
  | cons m rest =>
      obtain ⟨k, v⟩ := m
      intro n member w u right same
      rcases List.mem_cons.mp member with here | later
      · rw [here] at same ⊢
        exact same_congr v w u (left (k, v) (by simp)) right same
      · exact same_member_congr rest (fun m inside => left m (by simp [inside])) n later w u right same
end

theorem cast_same_congr (a b c : List Char) (same : sameJsonb a b = true) : sameJsonb a c = sameJsonb b c := by
  cases first : castJsonb a with
  | none => simp [sameJsonb, first] at same
  | some x =>
      cases second : castJsonb b with
      | none => simp [sameJsonb, first, second] at same
      | some y =>
          simp only [sameJsonb, first, second] at same ⊢
          cases castJsonb c with
          | none => rfl
          | some z => exact same_congr x y z (cast_canonical a x first) (cast_canonical b y second) same

theorem jsonb_members_map (ms : List (Str × Json)) : jsonbMembers (memberDocs ms) = ms.map fun m => (m.1, jsonb m.2.doc) := by
  induction ms with
  | nil => rfl
  | cons m rest ih =>
      obtain ⟨k, v⟩ := m
      rw [memberDocs, jsonbMembers, ih]
      rfl

theorem jsonb_object (ms : Properties Json) (ordered : Ordered ms) :
    jsonb (Json.obj ms).doc = .obj (ms.map fun m => (m.1, jsonb m.2.doc)) := by
  rw [Json.doc, jsonb, jsonb_members_map, build_id]
  exact (ordered_map (fun v : Json => jsonb v.doc) ms).mpr ordered

theorem finite_agreement (d e : Double) : (Jsonb.num (exact d)).same (.num (exact e)) =
    (Json.num (.finite d)).same Number.sameValue (.num (.finite e)) := by
  simp only [Jsonb.same, Json.same, Number.sameValue, decide_eq_decide]
  constructor
  · intro same
    rw [← number_of_double d, ← number_of_double e, exact_injective d e same]
  · intro same
    injection same with same
    rw [same]

def zeroDouble : Double := ⟨0, double_zero⟩

theorem settled_number (n : Number) : settleNumber n = .null ∧ jsonb (numberDoc n) = .null ∨
    ∃ d, settleNumber n = .num (.finite d) ∧ jsonb (numberDoc n) = .num (exact d) := by
  cases n with
  | nan => exact .inl ⟨rfl, rfl⟩
  | infinity negative => exact .inl ⟨rfl, rfl⟩
  | negZero => exact .inr ⟨zeroDouble, rfl, congrArg Jsonb.num (exact_zero zeroDouble rfl).symm⟩
  | finite d => exact .inr ⟨d, rfl, rfl⟩

theorem number_agreement (m n : Number) :
    (jsonb (numberDoc m)).same (jsonb (numberDoc n)) = (settleNumber m).same Number.sameValue (settleNumber n) := by
  rcases settled_number m with ⟨left, left'⟩ | ⟨d, left, left'⟩
  · rw [left, left']
    rcases settled_number n with ⟨right, right'⟩ | ⟨e, right, right'⟩
    · rw [right, right']
      rfl
    · rw [right, right']
      rfl
  · rw [left, left']
    rcases settled_number n with ⟨right, right'⟩ | ⟨e, right, right'⟩
    · rw [right, right']
      rfl
    · rw [right, right']
      exact finite_agreement d e

theorem right_number (n : Number) (x : Jsonb) (a : Json) (nulls : x.same .null = a.same Number.sameValue .null)
    (numbers : ∀ d, x.same (.num (exact d)) = a.same Number.sameValue (.num (.finite d))) :
    x.same (jsonb (numberDoc n)) = a.same Number.sameValue (settleNumber n) := by
  rcases settled_number n with ⟨settled, written⟩ | ⟨d, settled, written⟩
  · rw [settled, written, nulls]
  · rw [settled, written, numbers d]

theorem left_number (n : Number) (x : Jsonb) (a : Json) (nulls : Jsonb.null.same x = Json.null.same Number.sameValue a)
    (numbers : ∀ d, (Jsonb.num (exact d)).same x = (Json.num (.finite d)).same Number.sameValue a) :
    (jsonb (numberDoc n)).same x = (settleNumber n).same Number.sameValue a := by
  rcases settled_number n with ⟨settled, written⟩ | ⟨d, settled, written⟩
  · rw [settled, written, nulls]
  · rw [settled, written, numbers d]

mutual
theorem doc_agreement (v w : Json) (left : v.Canonical) (right : w.Canonical) :
    (jsonb v.doc).same (jsonb w.doc) = v.settle.same Number.sameValue w.settle := by
  cases v with
  | null => cases w with
    | num n => exact right_number n .null .null rfl fun _ => rfl
    | _ => rfl
  | bool b => cases w with
    | num n => exact right_number n (.bool b) (.bool b) rfl fun _ => rfl
    | _ => rfl
  | num m => cases w with
    | null => exact left_number m .null .null rfl fun _ => rfl
    | bool b => exact left_number m (.bool b) (.bool b) rfl fun _ => rfl
    | num n => exact number_agreement m n
    | str s => exact left_number m (.str s) (.str s) rfl fun _ => rfl
    | arr ws => exact left_number m (jsonb (Json.arr ws).doc) (Json.arr ws).settle rfl fun _ => rfl
    | obj ns => exact left_number m (jsonb (Json.obj ns).doc) (Json.obj ns).settle rfl fun _ => rfl
  | str s => cases w with
    | num n => exact right_number n (.str s) (.str s) rfl fun _ => rfl
    | _ => rfl
  | arr vs => cases w with
    | num n => exact right_number n (jsonb (Json.arr vs).doc) (Json.arr vs).settle rfl fun _ => rfl
    | arr ws => exact elements_agreement vs ws left right
    | _ => rfl
  | obj ms => cases w with
    | num n => exact right_number n (jsonb (Json.obj ms).doc) (Json.obj ms).settle rfl fun _ => rfl
    | obj ns =>
        rw [jsonb_object ms left.1, jsonb_object ns right.1, Json.settle, Json.settle, Jsonb.same, Json.same,
          settle_members_length, settle_members_length, List.length_map, List.length_map]
        rw [members_agreement ms ns left.2 right.2]
    | _ => rfl
theorem elements_agreement (vs ws : List Json) (left : Ecma.CanonicalElements vs) (right : Ecma.CanonicalElements ws) :
    sameElements (jsonbElements (elementDocs vs)) (jsonbElements (elementDocs ws)) =
      Ecma.sameElements Number.sameValue (settleElements vs) (settleElements ws) := by
  cases vs with
  | nil => cases ws with
    | nil => rfl
    | cons w ws => rfl
  | cons v vs => cases ws with
    | nil => rfl
    | cons w ws =>
        simp only [elementDocs, jsonbElements, settleElements, sameElements, Ecma.sameElements]
        rw [doc_agreement v w left.1 right.1, elements_agreement vs ws left.2 right.2]
theorem members_agreement (ms ns : Properties Json) (left : Ecma.CanonicalMembers ms) (right : Ecma.CanonicalMembers ns) :
    sameMembers (ms.map fun m => (m.1, jsonb m.2.doc)) (ns.map fun m => (m.1, jsonb m.2.doc)) =
      Ecma.sameMembers Number.sameValue (settleMembers ms) (settleMembers ns) := by
  cases ms with
  | nil => rfl
  | cons m rest =>
      obtain ⟨k, v⟩ := m
      rw [List.map_cons, settleMembers, sameMembers, Ecma.sameMembers, members_agreement rest ns left.2 right]
      have written : get (ns.map fun m => (m.1, jsonb m.2.doc)) k = (get ns k).map fun w => jsonb w.doc :=
        get_map (fun w : Json => jsonb w.doc) ns k
      have settled : get (settleMembers ns) k = (get ns k).map Json.settle := by rw [settle_members_map, get_map]
      rw [written, settled]
      cases found : get ns k with
      | none => rfl
      | some w =>
          obtain ⟨m, located, value⟩ := Option.map_eq_some_iff.mp found
          have canonical := (Ecma.canonical_members_iff ns).mp right m (List.mem_of_find?_eq_some located)
          rw [value] at canonical
          simp only [Option.map_some]
          rw [doc_agreement v w left.1 canonical]
end

end Postgres
