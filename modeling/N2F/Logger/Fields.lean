import N2F.Ecma.Json

set_option autoImplicit false

namespace N2F.Logger

open Ecma

-- A value as snapshot walks it. An object has an identity, so that one that stands
-- again below itself is recognized; nothing below such a second standing is read.
-- A slot or a property without a value is a hole or an accessor.
inductive Field where
  | null
  | bool (b : Bool)
  | number (n : Number)
  | text (s : Str)
  | secret (content : Str)
  | array (self : ℕ) (slots : List (Option Field))
  | record (self : ℕ) (plain : Bool) (own : List (Str × Bool × Option Field))
  | unsupported

def redacted : Str := str "[REDACTED]"

def isFinite (n : Number) : Bool := n.rational.isSome

-- None is the TypeError. A property that does not enumerate is passed over, an
-- array's slots are read whether they enumerate or not.
mutual
def Field.snapshot (parents : List ℕ) : Field → Option Json
  | .null => some .null
  | .bool b => some (.bool b)
  | .number n => if isFinite n then some (.num n) else none
  | .text s => some (.str s)
  | .secret _ => some (.str redacted)
  | .array self slots => if self ∈ parents then none else (slotSnapshots (self :: parents) slots).map .arr
  | .record self plain own =>
      if self ∈ parents then none
      else if plain then (ownSnapshots (self :: parents) own).map fun entries => .obj (build entries)
      else none
  | .unsupported => none
def slotSnapshots (parents : List ℕ) : List (Option Field) → Option (List Json)
  | [] => some []
  | none :: _ => none
  | some v :: rest =>
      match v.snapshot parents, slotSnapshots parents rest with
      | some v, some rest => some (v :: rest)
      | _, _ => none
def ownSnapshots (parents : List ℕ) : List (Str × Bool × Option Field) → Option (List (Str × Json))
  | [] => some []
  | (_, false, _) :: rest => ownSnapshots parents rest
  | (_, true, none) :: _ => none
  | (k, true, some v) :: rest =>
      match v.snapshot parents, ownSnapshots parents rest with
      | some v, some rest => some ((k, v) :: rest)
      | _, _ => none
end

mutual
def Field.blank : Field → Field
  | .null => .null
  | .bool b => .bool b
  | .number n => .number n
  | .text s => .text s
  | .secret _ => .secret []
  | .array self slots => .array self (blankSlots slots)
  | .record self plain own => .record self plain (blankOwn own)
  | .unsupported => .unsupported
def blankSlots : List (Option Field) → List (Option Field)
  | [] => []
  | none :: rest => none :: blankSlots rest
  | some v :: rest => some v.blank :: blankSlots rest
def blankOwn : List (Str × Bool × Option Field) → List (Str × Bool × Option Field)
  | [] => []
  | (k, enumerable, none) :: rest => (k, enumerable, none) :: blankOwn rest
  | (k, enumerable, some v) :: rest => (k, enumerable, some v.blank) :: blankOwn rest
end

mutual
theorem snapshot_blank (parents : List ℕ) (v : Field) : v.blank.snapshot parents = v.snapshot parents := by
  cases v with
  | null => rfl
  | bool b => rfl
  | number n => rfl
  | text s => rfl
  | secret content => rfl
  | array self slots => rw [Field.blank, Field.snapshot, Field.snapshot, slots_blank]
  | record self plain own => rw [Field.blank, Field.snapshot, Field.snapshot, own_blank]
  | unsupported => rfl
theorem slots_blank (parents : List ℕ) (slots : List (Option Field)) :
    slotSnapshots parents (blankSlots slots) = slotSnapshots parents slots := by
  match slots with
  | [] => rfl
  | none :: rest => rfl
  | some v :: rest => rw [blankSlots, slotSnapshots, slotSnapshots, snapshot_blank parents v, slots_blank parents rest]
theorem own_blank (parents : List ℕ) (own : List (Str × Bool × Option Field)) :
    ownSnapshots parents (blankOwn own) = ownSnapshots parents own := by
  match own with
  | [] => rfl
  | (k, false, none) :: rest => rw [blankOwn, ownSnapshots, ownSnapshots, own_blank parents rest]
  | (k, false, some v) :: rest => rw [blankOwn, ownSnapshots, ownSnapshots, own_blank parents rest]
  | (k, true, none) :: rest => rfl
  | (k, true, some v) :: rest =>
      rw [blankOwn, ownSnapshots, ownSnapshots, snapshot_blank parents v, own_blank parents rest]
end

def Field.Alike (v w : Field) : Prop := v.blank = w.blank

theorem alike_snapshot (v w : Field) (alike : v.Alike w) (parents : List ℕ) : v.snapshot parents = w.snapshot parents := by
  rw [← snapshot_blank parents v, alike, snapshot_blank]

end N2F.Logger
