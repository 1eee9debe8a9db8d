import N2F.Ecma.JsonValue

set_option autoImplicit false

namespace Ecma

-- Deep equality of JSON values over a chosen equality of numbers. The order in
-- which an object enumerates its keys does not count.
mutual
def Json.same (equal : Number → Number → Bool) : Json → Json → Bool
  | .null, .null => true
  | .bool a, .bool b => a = b
  | .num x, .num y => equal x y
  | .str s, .str t => s = t
  | .arr a, .arr b => sameElements equal a b
  | .obj a, .obj b => a.length = b.length && sameMembers equal a b
  | _, _ => false
def sameElements (equal : Number → Number → Bool) : List Json → List Json → Bool
  | [], [] => true
  | v :: a, w :: b => v.same equal w && sameElements equal a b
  | _, _ => false
def sameMembers (equal : Number → Number → Bool) : List (Str × Json) → List (Str × Json) → Bool
  | [], _ => true
  | (k, v) :: rest, b =>
      (match get b k with
        | none => false
        | some w => v.same equal w) && sameMembers equal rest b
end

mutual
def Json.numbers (p : Number → Bool) : Json → Bool
  | .num n => p n
  | .arr elements => elementNumbers p elements
  | .obj members => memberNumbers p members
  | _ => true
def elementNumbers (p : Number → Bool) : List Json → Bool
  | [] => true
  | v :: rest => v.numbers p && elementNumbers p rest
def memberNumbers (p : Number → Bool) : List (Str × Json) → Bool
  | [] => true
  | (_, v) :: rest => v.numbers p && memberNumbers p rest
end

def keptNumber (equal : Number → Number → Bool) (n : Number) : Bool :=
  match settleNumber n with
  | .num m => equal n m
  | _ => false

theorem settle_members_length (ms : List (Str × Json)) : (settleMembers ms).length = ms.length := by
  rw [settle_members_map, List.length_map]

theorem get_settle (ms : List (Str × Json)) (k : Str) (v : Json) (ordered : Ordered ms) (member : (k, v) ∈ ms) :
    get (settleMembers ms) k = some v.settle := by
  rw [settle_members_map, get_map, get_member ms k v ordered member]
  rfl

theorem same_settle_number (equal : Number → Number → Bool) (n : Number) :
    (Json.num n).same equal (settleNumber n) = keptNumber equal n := by
  cases n <;> rfl

mutual
theorem same_settle (equal : Number → Number → Bool) (v : Json) (canonical : v.Canonical) :
    v.same equal v.settle = v.numbers (keptNumber equal) := by
  cases v with
  | null => rfl
  | bool b => simp [Json.same, Json.settle, Json.numbers]
  | num n => exact same_settle_number equal n
  | str s => simp [Json.same, Json.settle, Json.numbers]
  | arr elements => exact same_settle_elements equal elements canonical
  | obj members =>
      obtain ⟨ordered, values⟩ := canonical
      simp only [Json.same, Json.settle, Json.numbers, settle_members_length, decide_true, Bool.true_and]
      exact same_settle_members equal members members ordered values (fun m member => member)
theorem same_settle_elements (equal : Number → Number → Bool) (vs : List Json) (canonical : CanonicalElements vs) :
    sameElements equal vs (settleElements vs) = elementNumbers (keptNumber equal) vs := by
  cases vs with
  | nil => rfl
  | cons v rest =>
      simp only [sameElements, settleElements, elementNumbers]
      rw [same_settle equal v canonical.1, same_settle_elements equal rest canonical.2]
theorem same_settle_members (equal : Number → Number → Bool) (whole ms : List (Str × Json)) (ordered : Ordered whole)
    (canonical : CanonicalMembers ms) (inside : ∀ m ∈ ms, m ∈ whole) :
    sameMembers equal ms (settleMembers whole) = memberNumbers (keptNumber equal) ms := by
  cases ms with
  | nil => rfl
  | cons m rest =>
      obtain ⟨k, v⟩ := m
      have found := get_settle whole k v ordered (inside (k, v) (by simp))
      simp only [sameMembers, memberNumbers, found]
      rw [same_settle equal v canonical.1,
        same_settle_members equal whole rest ordered canonical.2 (fun m member => inside m (by simp [member]))]
end

mutual
theorem same_refl (equal : Number → Number → Bool) (refl : ∀ n, equal n n = true) (v : Json) (canonical : v.Canonical) :
    v.same equal v = true := by
  cases v with
  | null => rfl
  | bool b => simp [Json.same]
  | num n => exact refl n
  | str s => simp [Json.same]
  | arr elements => exact same_elements_refl equal refl elements canonical
  | obj members =>
      obtain ⟨ordered, values⟩ := canonical
      simp only [Json.same, decide_true, Bool.true_and]
      exact same_members_refl equal refl members members ordered values (fun m member => member)
theorem same_elements_refl (equal : Number → Number → Bool) (refl : ∀ n, equal n n = true) (vs : List Json)
    (canonical : CanonicalElements vs) : sameElements equal vs vs = true := by
  cases vs with
  | nil => rfl
  | cons v rest =>
      simp only [sameElements]
      rw [same_refl equal refl v canonical.1, same_elements_refl equal refl rest canonical.2]
      rfl
theorem same_members_refl (equal : Number → Number → Bool) (refl : ∀ n, equal n n = true) (whole ms : List (Str × Json))
    (ordered : Ordered whole) (canonical : CanonicalMembers ms) (inside : ∀ m ∈ ms, m ∈ whole) :
    sameMembers equal ms whole = true := by
  cases ms with
  | nil => rfl
  | cons m rest =>
      obtain ⟨k, v⟩ := m
      simp only [sameMembers, get_member whole k v ordered (inside (k, v) (by simp))]
      rw [same_refl equal refl v canonical.1,
        same_members_refl equal refl whole rest ordered canonical.2 (fun m member => inside m (by simp [member]))]
      rfl
end

def Number.isFinite (n : Number) : Bool := n.rational.isSome

-- Object.is, which tells the two zeros apart.
def Number.sameValue (x y : Number) : Bool := x = y

theorem kept_strict (n : Number) : keptNumber Number.strictEquals n = n.isFinite := by
  cases n with
  | nan => rfl
  | infinity negative => rfl
  | negZero => rfl
  | finite d => simp [keptNumber, settleNumber, Number.strictEquals, Number.isFinite, Number.rational]

theorem kept_same_value (n : Number) :
    keptNumber Number.sameValue n = (n.isFinite && decide (n ≠ Number.negZero)) := by
  cases n with
  | nan => rfl
  | infinity negative => rfl
  | negZero => rfl
  | finite d => simp [keptNumber, settleNumber, Number.sameValue, Number.isFinite, Number.rational]

def Number.unsigned (n : Number) : Number :=
  match n with
  | .negZero => Number.zero
  | n => n

theorem settle_finite (n : Number) (finite : n.isFinite = true) : settleNumber n = .num n.unsigned := by
  cases n with
  | nan => cases finite
  | infinity negative => cases finite
  | negZero => rfl
  | finite d => rfl

theorem unsigned_rational (n : Number) : n.unsigned.rational = n.rational := by
  cases n <;> rfl

theorem unsigned_integer (n : Number) : n.unsigned.isInteger = n.isInteger := by
  cases n <;> rfl

theorem unsigned_safe (n : Number) : n.unsigned.isSafeInteger = n.isSafeInteger := by
  cases n <;> rfl

theorem unsigned_below (n : Number) (bound : ℚ) : n.unsigned.below bound = n.below bound := by
  cases n <;> rfl

theorem unsigned_above (n : Number) (bound : ℚ) : n.unsigned.above bound = n.above bound := by
  cases n <;> rfl

theorem of_int_one_finite : (Number.ofInt 1).isFinite = true := by
  rw [Number.of_int_small 1 (by norm_num)]
  rfl

theorem unsigned_equal (n : Number) (finite : n.isFinite = true) : n.unsigned.strictEquals n = true := by
  cases n with
  | nan => cases finite
  | infinity negative => cases finite
  | negZero => rfl
  | finite d => simp [Number.unsigned, Number.strictEquals, Number.rational]

theorem integer_finite (n : Number) (integer : n.isInteger = true) : n.isFinite = true := by
  cases n with
  | nan => cases integer
  | infinity negative => cases integer
  | negZero => rfl
  | finite d => rfl

theorem safe_finite (n : Number) (safe : n.isSafeInteger = true) : n.isFinite = true := by
  cases n with
  | nan => cases safe
  | infinity negative => cases safe
  | negZero => rfl
  | finite d => rfl

end Ecma
