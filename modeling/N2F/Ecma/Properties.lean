import N2F.Ecma.Text
import N2F.Ecma.Numeral

set_option autoImplicit false

namespace Ecma

-- The own enumerable properties of an object, in the order they enumerate.
abbrev Properties (V : Type) := List (Str × V)

def isDigitUnit (u : UInt16) : Bool := 0x30 ≤ u.toNat && u.toNat ≤ 0x39

def digitsValue (k : Str) : ℕ := k.foldl (fun sofar u => 10 * sofar + (u.toNat - 0x30)) 0

-- An array index is a canonical numeral below 2^32 - 1.
def arrayIndex (k : Str) : Option ℕ :=
  if k ≠ [] ∧ k.all isDigitUnit ∧ (k.head? = some 0x30 → k = [0x30]) ∧ digitsValue k < 4294967295 then some (digitsValue k)
  else none

-- Array indices enumerate first and ascending, other keys in order of creation.
def precedes (new old : Str) : Bool :=
  match arrayIndex new, arrayIndex old with
  | none, _ => false
  | some _, none => true
  | some i, some j => i < j

variable {V W : Type}

def get (ms : Properties V) (k : Str) : Option V := (ms.find? (fun m => m.1 = k)).map Prod.snd

def set (k : Str) (v : V) : Properties V → Properties V
  | [] => [(k, v)]
  | (old, w) :: rest =>
      if old = k then (k, v) :: rest
      else if precedes k old then (k, v) :: (old, w) :: rest
      else (old, w) :: set k v rest

def build (ms : List (Str × V)) : Properties V := ms.foldl (fun sofar m => set m.1 m.2 sofar) []

def InOrder (a b : Str × V) : Prop := a.1 ≠ b.1 ∧ precedes b.1 a.1 = false

def Ordered (ms : Properties V) : Prop := ms.Pairwise InOrder

theorem precedes_trans (a b c : Str) (first : precedes a b = true) (second : precedes b c = true) :
    precedes a c = true := by
  revert first second
  simp only [precedes]
  cases arrayIndex a <;> cases arrayIndex b <;> cases arrayIndex c <;> simp
  omega

theorem set_keys (k : Str) (v : V) (ms : Properties V) (m : Str × V) (member : m ∈ set k v ms) :
    m = (k, v) ∨ m ∈ ms := by
  induction ms with
  | nil => simpa [set] using member
  | cons head rest ih =>
      obtain ⟨old, w⟩ := head
      rw [set] at member
      split_ifs at member with same earlier
      · rcases List.mem_cons.mp member with here | later
        · exact .inl here
        · exact .inr (by simp [later])
      · rcases List.mem_cons.mp member with here | later
        · exact .inl here
        · exact .inr later
      · rcases List.mem_cons.mp member with here | later
        · exact .inr (by simp [here])
        · exact (ih later).imp_right (by simp +contextual)

theorem set_ordered (k : Str) (v : V) (ms : Properties V) (ordered : Ordered ms) : Ordered (set k v ms) := by
  induction ms with
  | nil => simp [set, Ordered]
  | cons head rest ih =>
      obtain ⟨old, w⟩ := head
      obtain ⟨first, tail⟩ := List.pairwise_cons.mp ordered
      rw [set]
      split_ifs with same earlier
      · subst same
        exact List.pairwise_cons.mpr ⟨first, tail⟩
      · refine List.pairwise_cons.mpr ⟨fun m member => ?_, ordered⟩
        rcases List.mem_cons.mp member with here | later
        · -- precedence is irreflexive and cannot hold both ways
          refine ⟨fun clash => same (by simpa [here] using clash.symm), ?_⟩
          by_contra back
          have loop := precedes_trans _ _ _ earlier (by simpa [here] using back)
          revert loop
          simp only [precedes]
          cases arrayIndex k <;> simp
        · have apart := first m later
          refine ⟨fun clash => ?_, ?_⟩
          · simp only [InOrder] at apart
            rw [← clash] at apart
            simp [earlier] at apart
          · by_contra back
            have loop := precedes_trans m.1 k old (by simpa using back) earlier
            simp [apart.2] at loop
      · refine List.pairwise_cons.mpr ⟨fun m member => ?_, ih tail⟩
        rcases set_keys k v rest m member with new | kept
        · rw [new]
          exact ⟨same, by simpa using earlier⟩
        · exact first m kept

theorem build_from_ordered (ms sofar : Properties V) (ordered : Ordered sofar) :
    Ordered (ms.foldl (fun sofar m => set m.1 m.2 sofar) sofar) := by
  induction ms generalizing sofar with
  | nil => exact ordered
  | cons m rest ih => exact ih _ (set_ordered m.1 m.2 sofar ordered)

theorem build_ordered (ms : List (Str × V)) : Ordered (build ms) := build_from_ordered ms [] List.Pairwise.nil

theorem build_members (P : V → Prop) (ms sofar : List (Str × V)) (old : ∀ m ∈ sofar, P m.2) (new : ∀ m ∈ ms, P m.2) :
    ∀ m ∈ ms.foldl (fun sofar m => set m.1 m.2 sofar) sofar, P m.2 := by
  induction ms generalizing sofar with
  | nil => exact old
  | cons m rest ih =>
      refine ih _ (fun a member => ?_) (fun a member => new a (by simp [member]))
      rcases set_keys m.1 m.2 sofar a member with here | kept
      · rw [here]
        exact new m (by simp)
      · exact old a kept

theorem set_last (k : Str) (v : V) (ms : Properties V) (later : ∀ m ∈ ms, InOrder m (k, v)) :
    set k v ms = ms ++ [(k, v)] := by
  induction ms with
  | nil => rfl
  | cons head rest ih =>
      obtain ⟨old, w⟩ := head
      obtain ⟨different, notEarlier⟩ := later (old, w) (by simp)
      rw [set, if_neg different, if_neg (by simp [notEarlier]), ih (fun m member => later m (by simp [member]))]
      rfl

theorem build_from_append (ms sofar : Properties V) (ordered : Ordered (sofar ++ ms)) :
    ms.foldl (fun sofar m => set m.1 m.2 sofar) sofar = sofar ++ ms := by
  induction ms generalizing sofar with
  | nil => simp
  | cons m rest ih =>
      have later : ∀ a ∈ sofar, InOrder a m := fun a member =>
        (List.pairwise_append.mp ordered).2.2 a member m (by simp)
      rw [List.foldl_cons, set_last m.1 m.2 sofar later, ih (sofar ++ [m]) (by simpa using ordered)]
      simp

theorem build_id (ms : Properties V) (ordered : Ordered ms) : build ms = ms :=
  build_from_append ms [] ordered

theorem ordered_map (f : V → W) (ms : Properties V) :
    Ordered (ms.map fun m => (m.1, f m.2)) ↔ Ordered ms := by
  rw [Ordered, List.pairwise_map]
  exact Iff.rfl

theorem get_map (f : V → W) (ms : Properties V) (k : Str) :
    get (ms.map fun m => (m.1, f m.2)) k = (get ms k).map f := by
  induction ms with
  | nil => rfl
  | cons m rest ih =>
      by_cases same : m.1 = k
      · simp [get, same]
      · simpa [get, same] using ih

theorem get_member (ms : Properties V) (k : Str) (v : V) (ordered : Ordered ms) (member : (k, v) ∈ ms) :
    get ms k = some v := by
  induction ms with
  | nil => simp at member
  | cons m rest ih =>
      obtain ⟨first, tail⟩ := List.pairwise_cons.mp ordered
      rcases List.mem_cons.mp member with here | later
      · simp [get, ← here]
      · have different : m.1 ≠ k := (first (k, v) later).1
        simpa [get, different] using ih tail later

theorem get_set_same (k : Str) (v : V) (ms : Properties V) : get (set k v ms) k = some v := by
  induction ms with
  | nil => simp [set, get]
  | cons m rest ih =>
      obtain ⟨old, w⟩ := m
      rw [set]
      split_ifs with same earlier
      · simp [get]
      · simp [get]
      · simpa [get, same] using ih

theorem get_set_other (k j : Str) (v : V) (ms : Properties V) (different : j ≠ k) : get (set k v ms) j = get ms j := by
  induction ms with
  | nil => simp [set, get, Ne.symm different]
  | cons m rest ih =>
      obtain ⟨old, w⟩ := m
      rw [set]
      split_ifs with same earlier
      · subst same
        simp [get, Ne.symm different]
      · simp [get, Ne.symm different]
      · by_cases here : old = j
        · simp [get, here]
        · simpa [get, here] using ih

theorem set_get (k : Str) (v : V) (ms : Properties V) (ordered : Ordered ms) (found : get ms k = some v) : set k v ms = ms := by
  induction ms with
  | nil => cases found
  | cons m rest ih =>
      obtain ⟨old, w⟩ := m
      obtain ⟨first, tail⟩ := List.pairwise_cons.mp ordered
      rw [set]
      by_cases same : old = k
      · have value : w = v := by simpa [get, same] using found
        rw [if_pos same, value, same]
      · have later : get rest k = some v := by simpa [get, same] using found
        obtain ⟨m, here, _⟩ := Option.map_eq_some_iff.mp later
        have key : m.1 = k := by simpa using List.find?_some here
        have notEarlier := (first m (List.mem_of_find?_eq_some here)).2
        rw [key] at notEarlier
        rw [if_neg same, notEarlier, ih tail later]
        rfl

theorem plain_precedes (k old : Str) (plain : arrayIndex k = none) : precedes k old = false := by
  simp [precedes, plain]

theorem plain_ordered (ms : Properties V) (distinct : (ms.map Prod.fst).Nodup)
    (plain : ∀ k ∈ ms.map Prod.fst, arrayIndex k = none) : Ordered ms :=
  (List.pairwise_map.mp distinct).imp_of_mem fun _ member different =>
    ⟨different, plain_precedes _ _ (plain _ (List.mem_map_of_mem (f := Prod.fst) member))⟩

theorem set_present_keys (k : Str) (v : V) (ms : Properties V) (plain : arrayIndex k = none)
    (present : (get ms k).isSome = true) : (set k v ms).map Prod.fst = ms.map Prod.fst := by
  induction ms with
  | nil => cases present
  | cons m rest ih =>
      obtain ⟨old, w⟩ := m
      rw [set]
      by_cases same : old = k
      · rw [if_pos same, ← same]
        rfl
      · rw [if_neg same, plain_precedes k old plain]
        have later : (get rest k).isSome = true := by simpa [get, same] using present
        rw [if_neg Bool.false_ne_true, List.map_cons, List.map_cons, ih later]

def present (fs : List (Str × Option V)) : Properties V := fs.filterMap fun f => f.2.map fun v => (f.1, v)

theorem present_keys (fs : List (Str × Option V)) (m : Str × V) (member : m ∈ present fs) : (m.1, some m.2) ∈ fs := by
  obtain ⟨f, inside, made⟩ := List.mem_filterMap.mp member
  obtain ⟨v, value, rfl⟩ := Option.map_eq_some_iff.mp made
  rw [← value]
  exact inside

theorem get_present (fs : List (Str × Option V)) (k : Str) (v : Option V) (distinct : (fs.map Prod.fst).Nodup)
    (member : (k, v) ∈ fs) : get (present fs) k = v := by
  induction fs with
  | nil => cases member
  | cons f rest ih =>
      obtain ⟨old, w⟩ := f
      obtain ⟨first, tail⟩ := List.nodup_cons.mp distinct
      rcases List.mem_cons.mp member with here | later
      · obtain ⟨rfl, rfl⟩ := Prod.mk.inj here
        cases v with
        | some v => simp [present, get]
        | none =>
            have absent : (present rest).find? (fun m => decide (m.1 = k)) = none := by
              refine List.find?_eq_none.mpr fun m inside => ?_
              have other := List.mem_map_of_mem (f := Prod.fst) (present_keys rest m inside)
              simp only [decide_eq_true_eq]
              rintro rfl
              exact first other
            rw [get, present, List.filterMap_cons_none rfl]
            exact congrArg (Option.map Prod.snd) absent
      · have inside : k ∈ rest.map Prod.fst := List.mem_map_of_mem (f := Prod.fst) later
        have different : old ≠ k := by
          rintro rfl
          exact first inside
        have tailValue := ih tail later
        cases w with
        | none => exact tailValue
        | some w => simpa [present, get, different] using tailValue

theorem present_ordered (fs : List (Str × Option V)) (distinct : (fs.map Prod.fst).Nodup)
    (plain : ∀ k ∈ fs.map Prod.fst, arrayIndex k = none) : Ordered (present fs) := by
  refine List.pairwise_filterMap.mpr ((List.pairwise_map.mp distinct).imp_of_mem ?_)
  rintro ⟨k, v⟩ ⟨j, w⟩ _ member different a made b made'
  obtain ⟨_, _, rfl⟩ := Option.map_eq_some_iff.mp made
  obtain ⟨_, _, rfl⟩ := Option.map_eq_some_iff.mp made'
  exact ⟨different, plain_precedes j k (plain j (List.mem_map_of_mem (f := Prod.fst) member))⟩

end Ecma
