import N2F.Logger.Fields
import Mathlib.Data.Fintype.Card
import Mathlib.Data.Fintype.EquivFin
import Mathlib.Logic.Relation
import Mathlib.Data.List.Forall2

set_option autoImplicit false

namespace N2F.Logger.Graph

open Ecma Relation

variable {n : ℕ}

-- What snapshot meets in memory. An object is known by its place, so that it can be
-- shared and can stand below itself.
inductive Value (n : ℕ) where
  | null
  | bool (b : Bool)
  | number (x : Number)
  | text (s : Str)
  | secret (content : Str)
  | object (place : Fin n)
  | unsupported

inductive Slot (n : ℕ) where
  | data (v : Value n)
  | accessor (getter : ℕ)

-- A hole of an array has no descriptor. A record is plain if its prototype is
-- Object.prototype or null.
inductive Node (n : ℕ) where
  | array (slots : List (Option (Slot n)))
  | record (plain : Bool) (own : List (Str × Bool × Slot n))

abbrev Heap (n : ℕ) := Fin n → Node n

-- The set of ancestors that the calls share, and the getters that have run.
structure Walk (n : ℕ) where
  parents : Finset (Fin n)
  invoked : List ℕ

def Walk.add (w : Walk n) (a : Fin n) : Walk n := { w with parents := insert a w.parents }

def Walk.delete (w : Walk n) (a : Fin n) : Walk n := { w with parents := w.parents.erase a }

inductive TypeError where
  | unsupportedLogField

abbrev Outcome (n : ℕ) (α : Type) := Option (Except TypeError α × Walk n)

def enter (object : Fin n → Walk n → Outcome n Json) : Value n → Walk n → Outcome n Json
  | .null, w => some (.ok .null, w)
  | .bool b, w => some (.ok (.bool b), w)
  | .number x, w => some (if isFinite x then .ok (.num x) else .error .unsupportedLogField, w)
  | .text s, w => some (.ok (.str s), w)
  | .secret _, w => some (.ok (.str redacted), w)
  | .unsupported, w => some (.error .unsupportedLogField, w)
  | .object a, w => if a ∈ w.parents then some (.error .unsupportedLogField, w) else object a w

def slotLoop (visit : Value n → Walk n → Outcome n Json) : List (Option (Slot n)) → Walk n → Outcome n (List Json)
  | [], w => some (.ok [], w)
  | some (.data v) :: rest, w =>
      match visit v w with
      | none => none
      | some (.error e, w) => some (.error e, w)
      | some (.ok j, w) => (slotLoop visit rest w).map fun (r, w) => (r.map (j :: ·), w)
  | some (.accessor _) :: _, w | none :: _, w => some (.error .unsupportedLogField, w)

def ownLoop (visit : Value n → Walk n → Outcome n Json) : List (Str × Bool × Slot n) → Walk n → Outcome n (List (Str × Json))
  | [], w => some (.ok [], w)
  | (_, false, _) :: rest, w => ownLoop visit rest w
  | (k, true, .data v) :: rest, w =>
      match visit v w with
      | none => none
      | some (.error e, w) => some (.error e, w)
      | some (.ok j, w) => (ownLoop visit rest w).map fun (r, w) => (r.map ((k, j) :: ·), w)
  | (_, true, .accessor _) :: _, w => some (.error .unsupportedLogField, w)

def body (visit : Value n → Walk n → Outcome n Json) (node : Node n) (w : Walk n) : Outcome n Json :=
  match node with
  | .array slots => (slotLoop visit slots w).map fun (r, w) => (r.map .arr, w)
  | .record plain own =>
      if plain then (ownLoop visit own w).map fun (r, w) => (r.map fun entries => .obj (build entries), w)
      else some (.error .unsupportedLogField, w)

-- Each object on the way down takes one unit of fuel; none is a walk that ran out of it.
def object (g : Heap n) : ℕ → Fin n → Walk n → Outcome n Json
  | 0, _, _ => none
  | fuel + 1, a, w => (body (enter (object g fuel)) (g a) (w.add a)).map fun (r, w) => (r, w.delete a)

def snapshot (g : Heap n) (fuel : ℕ) (v : Value n) (w : Walk n) : Outcome n Json := enter (object g fuel) v w

def dense : List (Option (Slot n)) → Option (List (Value n))
  | [] => some []
  | some (.data v) :: rest => (dense rest).map (v :: ·)
  | some (.accessor _) :: _ | none :: _ => none

def enumerated : List (Str × Bool × Slot n) → Option (List (Str × Value n))
  | [] => some []
  | (_, false, _) :: rest => enumerated rest
  | (k, true, .data v) :: rest => (enumerated rest).map ((k, v) :: ·)
  | (_, true, .accessor _) :: _ => none

def Node.shape : Node n → Option (List (Value n) × (List Json → Json))
  | .array slots => (dense slots).map fun vs => (vs, .arr)
  | .record plain own =>
      if plain then (enumerated own).map fun fields => (fields.map Prod.snd, fun js => .obj (build ((fields.map Prod.fst).zip js)))
      else none

def slotData : Slot n → Option (Value n)
  | .data v => some v
  | .accessor _ => none

theorem slot_data (v : Value n) : slotData (.data v) = some v := rfl

def Node.contents : Node n → List (Value n)
  | .array slots => slots.filterMap fun slot => slot.bind slotData
  | .record _ own => own.filterMap fun (_, enumerable, slot) => if enumerable then slotData slot else none

def contents (g : Heap n) : Value n → List (Value n)
  | .object a => (g a).contents
  | _ => []

def Next (g : Heap n) (v u : Value n) : Prop := u ∈ contents g v

def Reaches (g : Heap n) : Value n → Value n → Prop := ReflTransGen (Next g)

def Supported (g : Heap n) : Value n → Prop
  | .number x => isFinite x = true
  | .object a => (g a).shape.isSome = true
  | .unsupported => False
  | _ => True

inductive Unfolds (g : Heap n) : Value n → Json → Prop where
  | null : Unfolds g .null .null
  | bool (b : Bool) : Unfolds g (.bool b) (.bool b)
  | number (x : Number) (finite : isFinite x = true) : Unfolds g (.number x) (.num x)
  | text (s : Str) : Unfolds g (.text s) (.str s)
  | secret (content : Str) : Unfolds g (.secret content) (.str redacted)
  | object (a : Fin n) (vs : List (Value n)) (make : List Json → Json) (js : List Json) (here : (g a).shape = some (vs, make))
      (width : vs.length = js.length) (below : ∀ v j, (v, j) ∈ vs.zip js → Unfolds g v j) : Unfolds g (.object a) (make js)

theorem dense_contents (slots : List (Option (Slot n))) (vs : List (Value n)) (all : dense slots = some vs) :
    (Node.array slots).contents = vs := by
  rw [Node.contents]
  induction slots generalizing vs with
  | nil => exact Option.some.inj all
  | cons slot rest ih =>
      cases slot with
      | none => cases all
      | some slot =>
          cases slot with
          | accessor getter => cases all
          | data v =>
              obtain ⟨later, found, rfl⟩ := Option.map_eq_some_iff.mp all
              exact congrArg (v :: ·) (ih later found)

theorem enumerated_contents (plain : Bool) (own : List (Str × Bool × Slot n)) (fields : List (Str × Value n))
    (all : enumerated own = some fields) : (Node.record plain own).contents = fields.map Prod.snd := by
  rw [Node.contents]
  induction own generalizing fields with
  | nil =>
      obtain rfl := Option.some.inj all
      rfl
  | cons property rest ih =>
      obtain ⟨k, enumerable, slot⟩ := property
      cases enumerable with
      | false => exact ih fields all
      | true =>
          cases slot with
          | accessor getter => cases all
          | data v =>
              obtain ⟨later, found, rfl⟩ := Option.map_eq_some_iff.mp all
              exact congrArg (v :: ·) (ih later found)

theorem shape_contents (node : Node n) (vs : List (Value n)) (make : List Json → Json) (shaped : node.shape = some (vs, make)) :
    node.contents = vs := by
  cases node with
  | array slots =>
      obtain ⟨vs', all, same⟩ := Option.map_eq_some_iff.mp shaped
      cases same
      exact dense_contents slots vs all
  | record plain own =>
      obtain ⟨_, shaped⟩ := Option.ite_none_right_eq_some.mp shaped
      obtain ⟨fields, all, same⟩ := Option.map_eq_some_iff.mp shaped
      cases same
      exact enumerated_contents plain own fields all

def Visits (visit : Value n → Walk n → Outcome n Json) (w : Walk n) (P : Value n → Json → Prop) : Prop :=
  ∀ v, ∃ r, visit v w = some (r, w) ∧ ∀ j, r = .ok j ↔ P v j

section Loops

variable {visit : Value n → Walk n → Outcome n Json} {w : Walk n} {P : Value n → Json → Prop}

theorem slot_loop_spec (visits : Visits visit w P) (slots : List (Option (Slot n))) :
    ∃ r, slotLoop visit slots w = some (r, w) ∧ ∀ js, r = .ok js ↔ ∃ vs, dense slots = some vs ∧ List.Forall₂ P vs js := by
  induction slots with
  | nil =>
      refine ⟨.ok [], rfl, fun js => ?_⟩
      simp only [dense, Option.some.injEq, exists_eq_left', List.forall₂_nil_left_iff, Except.ok.injEq]
      exact eq_comm
  | cons slot rest ih =>
      rcases slot with _ | (v | getter)
      · exact ⟨.error .unsupportedLogField, rfl, fun js => by simp [dense]⟩
      · obtain ⟨r, visited, tells⟩ := visits v
        obtain ⟨later, walked, tells'⟩ := ih
        cases r with
        | error e =>
            refine ⟨.error e, by simp only [slotLoop, visited], fun js => ?_⟩
            simp only [reduceCtorEq, false_iff, dense, Option.map_eq_some_iff]
            rintro ⟨_, ⟨vs, _, rfl⟩, all⟩
            obtain ⟨j, _, first, _, _⟩ := List.forall₂_cons_left_iff.mp all
            cases (tells j).mpr first
        | ok j =>
            refine ⟨later.map (j :: ·), by simp only [slotLoop, visited, walked, Option.map_some], fun js => ?_⟩
            have own (j' : Json) : P v j' ↔ j = j' := by rw [← tells j', Except.ok.injEq]
            simp only [dense, Option.map_eq_some_iff]
            constructor
            · intro same
              cases later with
              | error e => cases same
              | ok tail =>
                  obtain rfl := Except.ok.inj same
                  obtain ⟨vs, all, each⟩ := (tells' tail).mp rfl
                  exact ⟨v :: vs, ⟨vs, all, rfl⟩, .cons ((own j).mpr rfl) each⟩
            · rintro ⟨_, ⟨vs, all, rfl⟩, each⟩
              obtain ⟨j', tail, first, more, rfl⟩ := List.forall₂_cons_left_iff.mp each
              rw [(tells' tail).mpr ⟨vs, all, more⟩, (own j').mp first]
              rfl
      · exact ⟨.error .unsupportedLogField, rfl, fun js => by simp [dense]⟩

theorem own_loop_spec (visits : Visits visit w P) (own : List (Str × Bool × Slot n)) :
    ∃ r, ownLoop visit own w = some (r, w) ∧ ∀ entries, r = .ok entries ↔
      ∃ fields js, enumerated own = some fields ∧ List.Forall₂ P (fields.map Prod.snd) js ∧ entries = (fields.map Prod.fst).zip js := by
  induction own with
  | nil =>
      refine ⟨.ok [], rfl, fun entries => ?_⟩
      constructor
      · intro same
        exact ⟨[], [], rfl, .nil, (Except.ok.inj same).symm⟩
      · rintro ⟨fields, js, none, _, rfl⟩
        obtain rfl := Option.some.inj none
        rfl
  | cons property rest ih =>
      obtain ⟨k, enumerable, slot⟩ := property
      cases enumerable with
      | false => exact ih
      | true =>
          cases slot with
          | accessor getter => exact ⟨.error .unsupportedLogField, rfl, fun entries => by simp [enumerated]⟩
          | data v =>
              obtain ⟨r, visited, tells⟩ := visits v
              obtain ⟨later, walked, tells'⟩ := ih
              cases r with
              | error e =>
                  refine ⟨.error e, by simp only [ownLoop, visited], fun entries => ?_⟩
                  simp only [reduceCtorEq, false_iff, enumerated, Option.map_eq_some_iff]
                  rintro ⟨_, js, ⟨fields, _, rfl⟩, all, _⟩
                  obtain ⟨j, _, first, _, _⟩ := List.forall₂_cons_left_iff.mp all
                  cases (tells j).mpr first
              | ok j =>
                  refine ⟨later.map ((k, j) :: ·), by simp only [ownLoop, visited, walked, Option.map_some], fun entries => ?_⟩
                  have own' (j' : Json) : P v j' ↔ j = j' := by rw [← tells j', Except.ok.injEq]
                  simp only [enumerated, Option.map_eq_some_iff]
                  constructor
                  · intro same
                    cases later with
                    | error e => cases same
                    | ok tail =>
                        obtain rfl := Except.ok.inj same
                        obtain ⟨fields, js, all, each, rfl⟩ := (tells' tail).mp rfl
                        exact ⟨(k, v) :: fields, j :: js, ⟨fields, all, rfl⟩, .cons ((own' j).mpr rfl) each, rfl⟩
                  · rintro ⟨_, js, ⟨fields, all, rfl⟩, each, rfl⟩
                    obtain ⟨j', tail, first, more, rfl⟩ := List.forall₂_cons_left_iff.mp each
                    rw [(tells' _).mpr ⟨fields, tail, all, more, rfl⟩, (own' j').mp first]
                    rfl

theorem body_spec (visits : Visits visit w P) (node : Node n) :
    ∃ r, body visit node w = some (r, w) ∧
      ∀ j, r = .ok j ↔ ∃ vs make js, node.shape = some (vs, make) ∧ List.Forall₂ P vs js ∧ j = make js := by
  cases node with
  | array slots =>
      obtain ⟨r, walked, tells⟩ := slot_loop_spec visits slots
      refine ⟨r.map .arr, by simp only [body, walked, Option.map_some], fun j => ?_⟩
      constructor
      · intro same
        cases r with
        | error e => cases same
        | ok js =>
            obtain ⟨vs, all, each⟩ := (tells js).mp rfl
            exact ⟨vs, .arr, js, by simp only [Node.shape, all, Option.map_some], each, (Except.ok.inj same).symm⟩
      · rintro ⟨vs, make, js, shaped, each, rfl⟩
        obtain ⟨vs', all, same⟩ := Option.map_eq_some_iff.mp shaped
        cases same
        rw [(tells js).mpr ⟨vs, all, each⟩]
        rfl
  | record plain own =>
      cases plain with
      | false => exact ⟨.error .unsupportedLogField, rfl, fun j => by simp [Node.shape]⟩
      | true =>
          obtain ⟨r, walked, tells⟩ := own_loop_spec visits own
          refine ⟨r.map fun entries => .obj (build entries), by simp only [body, walked, Option.map_some, if_true], fun j => ?_⟩
          constructor
          · intro same
            cases r with
            | error e => cases same
            | ok entries =>
                obtain ⟨fields, js, all, each, rfl⟩ := (tells entries).mp rfl
                exact ⟨_, fun js => .obj (build ((fields.map Prod.fst).zip js)), js,
                  by simp only [Node.shape, all, Option.map_some, if_true], each, (Except.ok.inj same).symm⟩
          · rintro ⟨vs, make, js, shaped, each, rfl⟩
            simp only [Node.shape, if_true] at shaped
            obtain ⟨fields, all, same⟩ := Option.map_eq_some_iff.mp shaped
            cases same
            rw [(tells _).mpr ⟨fields, js, all, each, rfl⟩]
            rfl

end Loops

theorem accessible_irreflexive {α : Type} (r : α → α → Prop) (a : α) (accessible : Acc r a) : ¬ r a a := by
  induction accessible with
  | intro a _ ih => exact fun self => ih a self self

theorem unfolds_accessible (g : Heap n) (v : Value n) (j : Json) (tree : Unfolds g v j) : Acc (fun u v => Next g v u) v := by
  induction tree with
  | null | bool | number | text | secret => exact ⟨_, fun u next => absurd next List.not_mem_nil⟩
  | object a vs make js here width below ih =>
      refine ⟨_, fun u next => ?_⟩
      rw [Next, contents, shape_contents _ vs make here] at next
      obtain ⟨i, inside, rfl⟩ := List.getElem_of_mem next
      exact ih vs[i] js[i] (List.mem_iff_getElem.mpr ⟨i, by simp [inside, ← width], by simp⟩)

theorem unfolds_next (g : Heap n) (v u : Value n) (j : Json) (tree : Unfolds g v j) (next : Next g v u) : ∃ j', Unfolds g u j' := by
  cases tree with
  | null | bool | number | text | secret => exact absurd next List.not_mem_nil
  | object a vs make js here width below =>
      rw [Next, contents, shape_contents _ vs make here] at next
      obtain ⟨i, inside, rfl⟩ := List.getElem_of_mem next
      exact ⟨js[i], below vs[i] js[i] (List.mem_iff_getElem.mpr ⟨i, by simp [inside, ← width], by simp⟩)⟩

theorem unfolds_reaches (g : Heap n) (v u : Value n) (j : Json) (tree : Unfolds g v j) (reached : Reaches g v u) :
    ∃ j', Unfolds g u j' := by
  induction reached with
  | refl => exact ⟨j, tree⟩
  | tail _ next ih =>
      obtain ⟨j', tree'⟩ := ih
      exact unfolds_next g _ _ j' tree' next

theorem unfolds_supported (g : Heap n) (v : Value n) (j : Json) (tree : Unfolds g v j) : Supported g v := by
  cases tree with
  | null | bool | text | secret => trivial
  | number x finite => exact finite
  | object a vs make js here width below => exact Option.isSome_iff_exists.mpr ⟨_, here⟩

theorem unfolds_acyclic (g : Heap n) (v u : Value n) (j : Json) (tree : Unfolds g v j) (reached : Reaches g v u) :
    ¬ TransGen (Next g) u u := by
  obtain ⟨j', tree'⟩ := unfolds_reaches g v u j tree reached
  have irreflexive := accessible_irreflexive _ u (unfolds_accessible g u j' tree').transGen
  exact fun cycle => irreflexive (transGen_swap.mpr cycle)

-- An acyclic supported value is a tree: by induction along the edges between its objects.
theorem acyclic_unfolds (g : Heap n) (v : Value n) (acyclic : ∀ u, Reaches g v u → ¬ TransGen (Next g) u u)
    (supported : ∀ u, Reaches g v u → Supported g u) : ∃ j, Unfolds g v j := by
  let Before (b a : Fin n) : Prop := Reaches g v (.object a) ∧ TransGen (Next g) (.object a) (.object b)
  have transitive : IsTrans (Fin n) Before :=
    ⟨fun c b a later first => ⟨first.1, first.2.trans later.2⟩⟩
  have irreflexive : Std.Irrefl Before := ⟨fun a self => acyclic _ self.1 self.2⟩
  have founded : WellFounded Before := Finite.wellFounded_of_trans_of_irrefl Before
  have objects (a : Fin n) (reached : Reaches g v (.object a)) : ∃ j, Unfolds g (.object a) j := by
    induction a using founded.induction with
    | _ a ih =>
        obtain ⟨⟨vs, make⟩, here⟩ := Option.isSome_iff_exists.mp (supported _ reached)
        have each (u : Value n) (member : u ∈ vs) : ∃ j, Unfolds g u j := by
          have next : Next g (.object a) u := by
            rw [Next, contents, shape_contents _ vs make here]
            exact member
          have known := supported u (reached.tail next)
          cases u with
          | null => exact ⟨_, .null⟩
          | bool b => exact ⟨_, .bool b⟩
          | number x => exact ⟨_, .number x known⟩
          | text s => exact ⟨_, .text s⟩
          | secret content => exact ⟨_, .secret content⟩
          | object b => exact ih b ⟨reached, .single next⟩ (reached.tail next)
          | unsupported => exact absurd known id
        obtain ⟨js, all⟩ : ∃ js, List.Forall₂ (Unfolds g) vs js := by
          clear here
          induction vs with
          | nil => exact ⟨[], .nil⟩
          | cons u rest more =>
              obtain ⟨j, first⟩ := each u List.mem_cons_self
              obtain ⟨js, later⟩ := more fun w member => each w (List.mem_cons_of_mem _ member)
              exact ⟨j :: js, .cons first later⟩
        obtain ⟨width, below⟩ := List.forall₂_iff_zip.mp all
        exact ⟨make js, .object a vs make js here width fun v j member => below member⟩
  have known := supported v .refl
  cases v with
  | null => exact ⟨_, .null⟩
  | bool b => exact ⟨_, .bool b⟩
  | number x => exact ⟨_, .number x known⟩
  | text s => exact ⟨_, .text s⟩
  | secret content => exact ⟨_, .secret content⟩
  | object b => exact objects b .refl
  | unsupported => exact absurd known id

def Apart (g : Heap n) (parents : Finset (Fin n)) (v : Value n) : Prop := ∀ a, Reaches g v (.object a) → a ∉ parents

theorem add_delete (w : Walk n) (a : Fin n) (outside : a ∉ w.parents) : (w.add a).delete a = w := by
  simp [Walk.add, Walk.delete, Finset.erase_insert outside]

theorem object_unfolds (g : Heap n) (a : Fin n) (parents : Finset (Fin n)) (outside : a ∉ parents) (j : Json) :
    (∃ vs make js, (g a).shape = some (vs, make) ∧
      List.Forall₂ (fun v j => Unfolds g v j ∧ Apart g (insert a parents) v) vs js ∧ j = make js) ↔
    Unfolds g (.object a) j ∧ Apart g parents (.object a) := by
  constructor
  · rintro ⟨vs, make, js, here, all, rfl⟩
    obtain ⟨width, below⟩ := List.forall₂_iff_zip.mp all
    refine ⟨.object a vs make js here width fun v j member => (below member).1, fun b reached => ?_⟩
    rcases reached.cases_head with same | ⟨u, next, more⟩
    · cases same
      exact outside
    · rw [Next, contents, shape_contents _ vs make here] at next
      obtain ⟨i, inside, rfl⟩ := List.getElem_of_mem next
      have apart := (below (List.mem_iff_getElem.mpr ⟨i, by simp [inside, ← width], by simp⟩ : (vs[i], js[i]) ∈ vs.zip js)).2
      exact fun member => apart b more (Finset.mem_insert_of_mem member)
  · rintro ⟨tree, apart⟩
    have acyclic := unfolds_acyclic g (.object a) (.object a) j tree .refl
    cases tree with
    | object _ vs make js here width below =>
        refine ⟨vs, make, js, here, List.forall₂_iff_zip.mpr ⟨width, fun {v j} member => ⟨below v j member, fun b reached => ?_⟩⟩, rfl⟩
        have next : Next g (.object a) v := by
          rw [Next, contents, shape_contents _ vs make here]
          exact (List.of_mem_zip member).1
        rw [Finset.mem_insert, not_or]
        refine ⟨?_, apart b (.head next reached)⟩
        rintro rfl
        exact acyclic (.head' next reached)

theorem leaf_apart (g : Heap n) (parents : Finset (Fin n)) (v : Value n) (leaf : ∀ a, v ≠ .object a) : Apart g parents v := by
  intro a reached
  rcases reached.cases_head with same | ⟨u, next, _⟩
  · exact absurd same (leaf a)
  · cases v with
    | object b => exact absurd rfl (leaf b)
    | null | bool | number | text | secret | unsupported => exact absurd next List.not_mem_nil

theorem enter_spec (g : Heap n) (object : Fin n → Walk n → Outcome n Json) (w : Walk n)
    (objects : ∀ a, a ∉ w.parents → ∃ r, object a w = some (r, w) ∧
      ∀ j, r = .ok j ↔ Unfolds g (.object a) j ∧ Apart g w.parents (.object a)) :
    Visits (enter object) w fun v j => Unfolds g v j ∧ Apart g w.parents v := by
  have leaf (v : Value n) (value : Json) (plain : ∀ a, v ≠ .object a) (tree : ∀ j, Unfolds g v j ↔ value = j) (j : Json) :
      (.ok value : Except TypeError Json) = .ok j ↔ Unfolds g v j ∧ Apart g w.parents v := by
    rw [Except.ok.injEq, tree j]
    exact ⟨fun same => ⟨same, leaf_apart g w.parents v plain⟩, And.left⟩
  have barren (v : Value n) (tree : ∀ j, ¬ Unfolds g v j) (j : Json) :
      (.error .unsupportedLogField : Except TypeError Json) = .ok j ↔ Unfolds g v j ∧ Apart g w.parents v :=
    ⟨fun same => (nomatch same), fun held => absurd held.1 (tree j)⟩
  intro v
  cases v with
  | null =>
      refine ⟨_, rfl, leaf _ _ (fun a same => by cases same) fun j => ⟨fun tree => ?_, fun same => same ▸ .null⟩⟩
      cases tree
      rfl
  | bool b =>
      refine ⟨_, rfl, leaf _ _ (fun a same => by cases same) fun j => ⟨fun tree => ?_, fun same => same ▸ .bool b⟩⟩
      cases tree
      rfl
  | number x =>
      by_cases finite : isFinite x = true
      · refine ⟨_, by simp only [enter, if_pos finite],
          leaf _ _ (fun a same => by cases same) fun j => ⟨fun tree => ?_, fun same => same ▸ .number x finite⟩⟩
        cases tree
        rfl
      · refine ⟨_, by simp only [enter, if_neg finite], barren _ fun j tree => ?_⟩
        cases tree
        contradiction
  | text s =>
      refine ⟨_, rfl, leaf _ _ (fun a same => by cases same) fun j => ⟨fun tree => ?_, fun same => same ▸ .text s⟩⟩
      cases tree
      rfl
  | secret content =>
      refine ⟨_, rfl, leaf _ _ (fun a same => by cases same) fun j => ⟨fun tree => ?_, fun same => same ▸ .secret content⟩⟩
      cases tree
      rfl
  | unsupported =>
      refine ⟨_, rfl, barren _ fun j tree => ?_⟩
      cases tree
  | object a =>
      by_cases inside : a ∈ w.parents
      · refine ⟨.error .unsupportedLogField, by simp only [enter, if_pos inside], fun j => ?_⟩
        simp only [reduceCtorEq, false_iff]
        exact fun held => held.2 a .refl inside
      · rw [enter, if_neg inside]
        exact objects a inside

theorem object_spec (g : Heap n) (fuel : ℕ) (w : Walk n) (a : Fin n) (outside : a ∉ w.parents) (room : n ≤ fuel + w.parents.card) :
    ∃ r, object g fuel a w = some (r, w) ∧ ∀ j, r = .ok j ↔ Unfolds g (.object a) j ∧ Apart g w.parents (.object a) := by
  induction fuel generalizing w a with
  | zero =>
      have more : (insert a w.parents).card = w.parents.card + 1 := Finset.card_insert_of_notMem outside
      have most := Finset.card_le_univ (insert a w.parents)
      rw [Fintype.card_fin] at most
      omega
  | succ fuel ih =>
      have more : (w.add a).parents.card = w.parents.card + 1 := Finset.card_insert_of_notMem outside
      have visits := enter_spec g (object g fuel) (w.add a) fun b apart => ih (w.add a) b apart (by omega)
      obtain ⟨r, walked, tells⟩ := body_spec visits (g a)
      refine ⟨r, by simp only [object, walked, Option.map_some, add_delete w a outside], fun j => ?_⟩
      rw [tells j]
      exact object_unfolds g a w.parents outside j

theorem snapshot_spec (g : Heap n) (fuel : ℕ) (w : Walk n) (room : n ≤ fuel + w.parents.card) :
    Visits (snapshot g fuel) w fun v j => Unfolds g v j ∧ Apart g w.parents v :=
  enter_spec g (object g fuel) w fun a outside => object_spec g fuel w a outside room

theorem unfolds_iff (g : Heap n) (v : Value n) :
    (∃ j, Unfolds g v j) ↔ (∀ u, Reaches g v u → ¬ TransGen (Next g) u u) ∧ ∀ u, Reaches g v u → Supported g u := by
  constructor
  · rintro ⟨j, tree⟩
    refine ⟨fun u reached => unfolds_acyclic g v u j tree reached, fun u reached => ?_⟩
    obtain ⟨j', tree'⟩ := unfolds_reaches g v u j tree reached
    exact unfolds_supported g u j' tree'
  · rintro ⟨acyclic, supported⟩
    exact acyclic_unfolds g v acyclic supported

theorem same_outcome (r r' : Except TypeError Json) (same : ∀ j, r = .ok j ↔ r' = .ok j) : r = r' := by
  cases r with
  | ok j => exact ((same j).mp rfl).symm
  | error e =>
      cases r' with
      | ok j => exact (same j).mpr rfl
      | error e' =>
          cases e
          cases e'
          rfl

theorem snapshot_ends (g : Heap n) (v : Value n) (w : Walk n) :
    ∃ r, (∀ fuel, n ≤ fuel → snapshot g fuel v w = some (r, w)) ∧ ∀ j, r = .ok j ↔ Unfolds g v j ∧ Apart g w.parents v := by
  obtain ⟨r, _, tells⟩ := snapshot_spec g n w (Nat.le_add_right _ _) v
  refine ⟨r, fun fuel enough => ?_, tells⟩
  obtain ⟨r', walked, tells'⟩ := snapshot_spec g fuel w (Nat.le_add_right_of_le enough) v
  rw [walked, same_outcome r r' fun j => (tells j).trans (tells' j).symm]

theorem graph_snapshot (g : Heap n) (v : Value n) :
    (∀ w : Walk n, ∃ r, ∀ fuel, n ≤ fuel → snapshot g fuel v w = some (r, w)) ∧
    ∀ invoked, ∃ r, (∀ fuel, n ≤ fuel → snapshot g fuel v ⟨∅, invoked⟩ = some (r, ⟨∅, invoked⟩)) ∧
      ((∃ j, r = .ok j) ↔ (∀ u, Reaches g v u → ¬ TransGen (Next g) u u) ∧ ∀ u, Reaches g v u → Supported g u) ∧
      ∀ j, r = .ok j → Unfolds g v j := by
  constructor
  · intro w
    obtain ⟨r, walked, _⟩ := snapshot_ends g v w
    exact ⟨r, walked⟩
  · intro invoked
    obtain ⟨r, walked, tells⟩ := snapshot_ends g v ⟨∅, invoked⟩
    have tree (j : Json) : r = .ok j ↔ Unfolds g v j := by
      rw [tells j]
      exact ⟨And.left, fun held => ⟨held, fun a _ => Finset.notMem_empty a⟩⟩
    refine ⟨r, walked, ?_, fun j => (tree j).mp⟩
    rw [← unfolds_iff g v]
    exact exists_congr tree

def demoShared (looped : Bool) : Heap 2
  | 0 => .record true [(str "a", true, .data (.object 1)), (str "b", true, .data (.object 1)), (str "hidden", false, .accessor 7)]
  | 1 => .array [some (.data (.secret (str "key"))), some (.data (if looped then .object 0 else .null))]

example : (snapshot (demoShared true) 2 (.object 0) ⟨∅, []⟩).map (fun (r, w) => (r.isOk, w.invoked)) = some (false, []) := by decide +kernel

example : (snapshot (demoShared false) 2 (.object 0) ⟨∅, []⟩).bind (fun (r, _) => r.toOption.map Json.text) =
    some "\x7b\"a\":[\"[REDACTED]\",null],\"b\":[\"[REDACTED]\",null]\x7d".toList := by decide +kernel

theorem graph_snapshot_demo : ∃ j, Unfolds (demoShared false) (.object 0) j := by
  obtain ⟨r, walked, _, tree⟩ := (graph_snapshot (demoShared false) (.object 0)).2 []
  have succeeds : (snapshot (demoShared false) 2 (.object 0) ⟨∅, []⟩).any (fun (r, _) => r.isOk) = true := by decide +kernel
  rw [walked 2 (by decide)] at succeeds
  cases r with
  | ok j => exact ⟨j, tree j rfl⟩
  | error e => cases succeeds

def field (g : Heap n) : ℕ → Finset (Fin n) → Value n → Field
  | _, _, .null => .null
  | _, _, .bool b => .bool b
  | _, _, .number x => .number x
  | _, _, .text s => .text s
  | _, _, .secret content => .secret content
  | _, _, .unsupported => .unsupported
  | 0, _, .object a => .array a []
  | fuel + 1, path, .object a =>
      if a ∈ path then .array a []
      else
        match g a with
        | .array slots => .array a (slots.map fun slot => (slot.bind slotData).map (field g fuel (insert a path)))
        | .record plain own =>
            .record a plain (own.map fun (k, enumerable, slot) => (k, enumerable, (slotData slot).map (field g fuel (insert a path))))

section Trees

variable {visit : Value n → Walk n → Outcome n Json} {w : Walk n} {tree : Value n → Field} {parents : List ℕ}

theorem slot_loop_tree (visits : ∀ v, ∃ r, visit v w = some (r, w) ∧ r.toOption = (tree v).snapshot parents)
    (slots : List (Option (Slot n))) :
    ∃ r, slotLoop visit slots w = some (r, w) ∧
      r.toOption = slotSnapshots parents (slots.map fun slot => (slot.bind slotData).map tree) := by
  induction slots with
  | nil => exact ⟨.ok [], rfl, rfl⟩
  | cons slot rest ih =>
      rcases slot with _ | (v | getter)
      · exact ⟨.error .unsupportedLogField, rfl, rfl⟩
      · obtain ⟨r, visited, same⟩ := visits v
        obtain ⟨later, walked, same'⟩ := ih
        cases r with
        | error e =>
            refine ⟨.error e, by simp only [slotLoop, visited], ?_⟩
            simp only [List.map_cons, Option.bind_some, slot_data, Option.map_some, slotSnapshots, ← same]
            rfl
        | ok j =>
            refine ⟨later.map (j :: ·), by simp only [slotLoop, visited, walked, Option.map_some], ?_⟩
            simp only [List.map_cons, Option.bind_some, slot_data, Option.map_some, slotSnapshots, ← same, ← same']
            cases later <;> rfl
      · exact ⟨.error .unsupportedLogField, rfl, rfl⟩

theorem own_loop_tree (visits : ∀ v, ∃ r, visit v w = some (r, w) ∧ r.toOption = (tree v).snapshot parents)
    (own : List (Str × Bool × Slot n)) :
    ∃ r, ownLoop visit own w = some (r, w) ∧
      r.toOption = ownSnapshots parents (own.map fun (k, enumerable, slot) => (k, enumerable, (slotData slot).map tree)) := by
  induction own with
  | nil => exact ⟨.ok [], rfl, rfl⟩
  | cons property rest ih =>
      obtain ⟨k, enumerable, slot⟩ := property
      obtain ⟨later, walked, same'⟩ := ih
      cases enumerable with
      | false =>
          refine ⟨later, walked, ?_⟩
          cases slot <;> exact same'
      | true =>
          cases slot with
          | accessor getter => exact ⟨.error .unsupportedLogField, rfl, rfl⟩
          | data v =>
              obtain ⟨r, visited, same⟩ := visits v
              cases r with
              | error e =>
                  refine ⟨.error e, by simp only [ownLoop, visited], ?_⟩
                  simp only [List.map_cons, slot_data, Option.map_some, ownSnapshots, ← same]
                  rfl
              | ok j =>
                  refine ⟨later.map ((k, j) :: ·), by simp only [ownLoop, visited, walked, Option.map_some], ?_⟩
                  simp only [List.map_cons, slot_data, Option.map_some, ownSnapshots, ← same, ← same']
                  cases later <;> rfl

end Trees

theorem body_tree (g : Heap n) (fuel : ℕ) (w : Walk n) (a : Fin n) (parents : List ℕ) (outside : (a : ℕ) ∉ parents)
    (apart : a ∉ w.parents)
    (visits : ∀ v, ∃ r, snapshot g fuel v (w.add a) = some (r, w.add a) ∧
      r.toOption = (field g fuel (insert a w.parents) v).snapshot (a :: parents)) :
    ∃ r, body (snapshot g fuel) (g a) (w.add a) = some (r, w.add a) ∧
      r.toOption = (field g (fuel + 1) w.parents (.object a)).snapshot parents := by
  rw [field, if_neg apart]
  cases node : g a with
  | array slots =>
      obtain ⟨r, walked, same⟩ := slot_loop_tree visits slots
      refine ⟨r.map .arr, by simp only [body, walked, Option.map_some], ?_⟩
      simp only [Field.snapshot, if_neg outside, ← same]
      cases r <;> rfl
  | record plain own =>
      cases plain with
      | false => exact ⟨.error .unsupportedLogField, rfl, by simp [Field.snapshot, outside, Except.toOption]⟩
      | true =>
          obtain ⟨r, walked, same⟩ := own_loop_tree visits own
          refine ⟨r.map fun entries => .obj (build entries), by simp only [body, walked, Option.map_some, if_true], ?_⟩
          simp only [Field.snapshot, if_neg outside, if_true, ← same]
          cases r <;> rfl

theorem enter_tree (g : Heap n) (fuel : ℕ) (w : Walk n) (parents : List ℕ) (ancestors : ∀ a : Fin n, (a : ℕ) ∈ parents ↔ a ∈ w.parents)
    (objects : ∀ a, a ∉ w.parents → ∃ r, object g fuel a w = some (r, w) ∧
      r.toOption = (field g fuel w.parents (.object a)).snapshot parents) (v : Value n) :
    ∃ r, snapshot g fuel v w = some (r, w) ∧ r.toOption = (field g fuel w.parents v).snapshot parents := by
  cases v with
  | null | bool b | text s | secret content | unsupported => cases fuel <;> exact ⟨_, rfl, rfl⟩
  | number x =>
      refine ⟨_, rfl, ?_⟩
      by_cases finite : isFinite x = true
      · cases fuel <;> simp [field, Field.snapshot, finite, Except.toOption]
      · cases fuel <;> simp [field, Field.snapshot, finite, Except.toOption]
  | object a =>
      by_cases inside : a ∈ w.parents
      · refine ⟨.error .unsupportedLogField, by simp only [snapshot, enter, if_pos inside], ?_⟩
        have known : (a : ℕ) ∈ parents := (ancestors a).mpr inside
        cases fuel <;> simp [field, inside, Field.snapshot, known, Except.toOption]
      · rw [snapshot, enter, if_neg inside]
        exact objects a inside

theorem snapshot_tree (g : Heap n) (fuel : ℕ) (w : Walk n) (parents : List ℕ) (room : n ≤ fuel + w.parents.card)
    (ancestors : ∀ a : Fin n, (a : ℕ) ∈ parents ↔ a ∈ w.parents) (v : Value n) :
    ∃ r, snapshot g fuel v w = some (r, w) ∧ r.toOption = (field g fuel w.parents v).snapshot parents := by
  induction fuel generalizing w parents v with
  | zero =>
      refine enter_tree g 0 w parents ancestors (fun a outside => ?_) v
      obtain ⟨r, walked, _⟩ := object_spec g 0 w a outside room
      cases walked
  | succ fuel ih =>
      refine enter_tree g (fuel + 1) w parents ancestors (fun a outside => ?_) v
      have more : (w.add a).parents.card = w.parents.card + 1 := Finset.card_insert_of_notMem outside
      have ancestors' (b : Fin n) : (b : ℕ) ∈ (a : ℕ) :: parents ↔ b ∈ (w.add a).parents := by
        rw [List.mem_cons, ancestors b, Walk.add, Finset.mem_insert, Fin.val_inj]
      have below (u : Value n) := ih (w.add a) (a :: parents) (by omega) ancestors' u
      obtain ⟨r, walked, same⟩ := body_tree g fuel w a parents (fun known => outside ((ancestors a).mp known)) outside below
      refine ⟨r, ?_, same⟩
      have walked : body (enter (object g fuel)) (g a) (w.add a) = some (r, w.add a) := walked
      simp only [object, walked, Option.map_some, add_delete w a outside]

end N2F.Logger.Graph
