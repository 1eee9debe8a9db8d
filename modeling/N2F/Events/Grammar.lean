import N2F.Events.RoundTrip
import N2F.Ecma.Radix

set_option autoImplicit false

namespace N2F

open Ecma

def typeUnit (u : UInt16) : Bool := inRange 'a' 'z' u || inRange '0' '9' u || oneOf "_.-" u

structure Versioned (t p : Str) (version : ℕ) : Prop where
  written : t = p ++ str ".v" ++ radixText 10 version
  named : p ≠ []
  positive : 0 < version
  bound : version ≤ 999999

-- The grammar of event types as the contract states it.
structure Documented (t : Str) : Prop where
  nonempty : 1 ≤ t.length
  short : t.length ≤ 128
  alphabet : ∀ u ∈ t, typeUnit u = true
  versioned : ∃ p version, Versioned t p version

def Overlong (t : Str) : Prop := Documented t ∧ ∃ p version, Versioned t p version ∧ 120 < p.length

theorem type_accepts_iff (t : Str) : typePattern.Accepts t ↔
    ∃ p version, Versioned t p version ∧ p.length ≤ 120 ∧ ∀ u ∈ p, typeUnit u = true := by
  constructor
  · rintro ⟨p, tail, rfl, ⟨least, most, letters⟩, dot, tail', rfl, ⟨u, rfl, isDot⟩, v, numeral, rfl, ⟨w, rfl, isV⟩, accepted⟩
    obtain ⟨version, positive, fits, rfl⟩ := (numeral_accepts_iff 5 numeral).mp accepted
    have dotUnit : u = 46 := by simpa [oneOf, str, unitsOf] using isDot
    have vUnit : w = 118 := by simpa [oneOf, str, unitsOf] using isV
    refine ⟨p, version, ⟨?_, List.ne_nil_of_length_pos least, positive, by omega⟩, most, letters⟩
    rw [dotUnit, vUnit, List.append_assoc]
    rfl
  · rintro ⟨p, version, ⟨rfl, named, positive, bound⟩, most, letters⟩
    have accepted := (numeral_accepts_iff 5 _).mpr ⟨version, positive, by omega, rfl⟩
    refine ⟨p, str ".v" ++ radixText 10 version, List.append_assoc .., ⟨List.length_pos_of_ne_nil named, most, letters⟩, ?_⟩
    exact ⟨str ".", str "v" ++ radixText 10 version, rfl, ⟨46, rfl, by decide⟩, str "v", radixText 10 version, rfl, ⟨118, rfl, by decide⟩,
      accepted⟩

theorem valid_type_iff (t : Str) : validType t = true ↔
    t.length ≤ 128 ∧ ∃ p version, Versioned t p version ∧ p.length ≤ 120 ∧ ∀ u ∈ p, typeUnit u = true := by
  rw [validType, Bool.and_eq_true, decide_eq_true_eq, test_iff, type_accepts_iff]

theorem version_split (a b p q : Str) (left : ∀ u ∈ p, inRange '0' '9' u = true) (right : ∀ u ∈ q, inRange '0' '9' u = true)
    (same : a ++ str ".v" ++ p = b ++ str ".v" ++ q) : a = b ∧ p = q := by
  have trailing (a p : Str) (digits : ∀ u ∈ p, inRange '0' '9' u = true) :
      (a ++ str ".v" ++ p).reverse.takeWhile (inRange '0' '9') = p.reverse := by
    rw [List.reverse_append, List.takeWhile_append_of_pos fun u member => digits u (List.mem_reverse.mp member), List.reverse_append]
    exact List.append_nil _
  have versions : p.reverse = q.reverse := by rw [← trailing a p left, same, trailing b q right]
  have versions := List.reverse_injective versions
  subst versions
  exact ⟨List.append_cancel_right (List.append_cancel_right same), rfl⟩

theorem versioned_unique (t p q : Str) (m n : ℕ) (first : Versioned t p m) (second : Versioned t q n) : p = q :=
  (version_split p q _ _ (radix_digits m) (radix_digits n) (first.written.symm.trans second.written)).1

theorem valid_documented (t : Str) (valid : validType t = true) : Documented t := by
  obtain ⟨short, p, version, versioned, _, letters⟩ := (valid_type_iff t).mp valid
  have first := List.length_pos_of_ne_nil versioned.named
  refine ⟨?_, short, ?_, p, version, versioned⟩
  · rw [versioned.written, List.length_append, List.length_append]
    omega
  · intro u member
    rw [versioned.written, List.append_assoc, List.mem_append, List.mem_append] at member
    rcases member with letter | dot | digit
    · exact letters u letter
    · exact List.all_eq_true.mp (by decide : (str ".v").all typeUnit = true) u dot
    · rw [typeUnit, radix_digits version u digit, Bool.or_true, Bool.true_or]

theorem documented_valid_iff (t : Str) (documented : Documented t) : validType t = true ↔ ¬ Overlong t := by
  obtain ⟨p, version, versioned⟩ := documented.versioned
  constructor
  · rintro valid ⟨_, q, n, other, long⟩
    obtain ⟨_, r, k, third, short, _⟩ := (valid_type_iff t).mp valid
    have same := versioned_unique t q r n k other third
    rw [same] at long
    omega
  · intro usual
    refine (valid_type_iff t).mpr ⟨documented.short, p, version, versioned, ?_, ?_⟩
    · by_contra long
      exact usual ⟨documented, p, version, versioned, not_le.mp long⟩
    · intro u member
      refine documented.alphabet u ?_
      rw [versioned.written]
      exact List.mem_append_left _ (List.mem_append_left _ member)

structure Carries (raw : ByteArray) (t : Str) (w : Properties Json) (id : Str) (work : WorkContext) : Prop where
  small : raw.size ≤ maxBytes
  parsed : (decodeUtf8 raw).bind Ecma.parse = some (.obj w)
  six : w.length = 6
  keys : wireKeys.all (fun k => (get w k).isSome) = true
  version : (numberIn (get w (str "v"))).any (is · 1) = true
  type : get w (str "type") = some (.str t)
  time : (numberIn (get w (str "occurred_at_ms"))).any validTime = true
  payload : (object (get w (str "payload"))).isSome = true
  named : idIn (get w (str "id")) = some id
  worked : workIn (get w (str "work")) = some work
  fits : (encode (.obj (normalized w id work))).size ≤ maxBytes

theorem carries_decode_iff (raw : ByteArray) (t : Str) (w : Properties Json) (id : Str) (work : WorkContext)
    (carries : Carries raw t w id work) : (∃ e, decode raw = .ok e) ↔ validType t = true := by
  have checks : admitted w = validType t := by
    rw [admitted, carries.keys, carries.version, carries.type, carries.time, carries.payload]
    simp [carries.six, stringIn]
  rw [decode, if_neg (not_lt.mpr carries.small), carries.parsed, Option.bind_some]
  by_cases valid : validType t = true
  · rw [normalize_of w id work (checks.trans valid) carries.named carries.worked]
    simp only [if_neg (not_lt.mpr carries.fits)]
    exact ⟨fun _ => valid, fun _ => ⟨_, rfl⟩⟩
  · have refused : normalize (.obj w) = none := by simp [normalize, object, checks, valid]
    rw [refused]
    refine ⟨?_, fun accepted => absurd accepted valid⟩
    rintro ⟨e, accepted⟩
    cases accepted

theorem decode_types_iff (raw : ByteArray) (t : Str) (w : Properties Json) (id : Str) (work : WorkContext)
    (carries : Carries raw t w id work) : ((∃ e, decode raw = .ok e) ↔ Documented t) ↔ ¬ Overlong t := by
  rw [carries_decode_iff raw t w id work carries]
  by_cases documented : Documented t
  · rw [← documented_valid_iff t documented]
    exact ⟨fun same => same.mpr documented, fun valid => ⟨fun _ => documented, fun _ => valid⟩⟩
  · constructor
    · rintro _ ⟨other, _⟩
      exact documented other
    · intro _
      exact ⟨valid_documented t, fun other => absurd other documented⟩

theorem wire_carries (id t : Str) (ms : Number) (work : WorkContext) (payload : Properties Json) (named : validID id = true)
    (timed : validTime ms = true) (canonical : (Json.obj payload).Canonical)
    (fits : (encode (.obj (wire id t ms work payload))).size ≤ maxBytes) :
    Carries (encode (.obj (wire id t ms work payload))) t (settleMembers (wire id t ms work payload)) id work.unsigned := by
  have field (k : Str) (v : Json) (member : (k, v) ∈ wire id t ms work payload) :
      get (settleMembers (wire id t ms work payload)) k = some v.settle := by
    rw [get_settle_members, wire_get id t ms work payload k v member]
    rfl
  have ids : get (settleMembers (wire id t ms work payload)) (str "id") = some (.str id) := field (str "id") (.str id) (by simp [wire])
  have works := field (str "work") (workOut work.data) (by simp [wire])
  have whole := wire_canonical id t ms work payload canonical
  have ordered : Ordered (settleMembers (wire id t ms work payload)) := by
    rw [settle_members_map]
    exact (ordered_map Json.settle _).mpr whole.1
  rw [work_settle] at works
  have same : normalized (settleMembers (wire id t ms work payload)) id work.unsigned = settleMembers (wire id t ms work payload) := by
    rw [normalized, set_get (str "id") _ _ ordered ids, set_get (str "work") _ _ ordered works]
  refine ⟨fits, encode_parsed _ whole, settle_members_length .., List.all_eq_true.mpr ?_, ?_, field (str "type") (.str t) (by simp [wire]),
    ?_, ?_, ?_, ?_, ?_⟩
  · intro k key
    rw [get_settle_members, Option.isSome_map]
    exact wire_has id t ms work payload k key
  · rw [get_settle_members]
    exact number_settle _ _ (fun n => by rw [is, is, unsigned_rational]) one_finite (wire_version id t ms work payload)
  · rw [get_settle_members]
    refine number_settle _ _ time_unsigned time_finite ?_
    rw [wire_get id t ms work payload (str "occurred_at_ms") (.num ms) (by simp [wire])]
    exact timed
  · rw [field (str "payload") (.obj payload) (by simp [wire])]
    rfl
  · rw [ids]
    exact id_in_valid id named
  · rw [works]
    exact work_in_out work.unsigned
  · rw [same, encode_settle]
    exact fits

def demoType (letters : ℕ) : Str := List.replicate letters 97 ++ str ".v" ++ radixText 10 1

theorem demo_versioned (letters : ℕ) (some : 0 < letters) : Versioned (demoType letters) (List.replicate letters 97) 1 :=
  ⟨rfl, by simp; omega, by omega, by omega⟩

theorem demo_carries (letters : ℕ)
    (fits : (encode (.obj (wire (demoId 4) (demoType letters) (Number.ofInt 1000) demoWork [(str "safe", .bool true)]))).size ≤ maxBytes) :
    Carries (encode (.obj (wire (demoId 4) (demoType letters) (Number.ofInt 1000) demoWork [(str "safe", .bool true)])))
      (demoType letters) (settleMembers (wire (demoId 4) (demoType letters) (Number.ofInt 1000) demoWork [(str "safe", .bool true)]))
      (demoId 4) demoWork.unsigned :=
  wire_carries _ _ _ _ _ demo_fields.1 demo_fields.2.2 demo_canonical fits

theorem long_type_refused : ∃ raw w id work, Carries raw (demoType 121) w id work ∧ Documented (demoType 121) ∧
    ¬ ∃ e, decode raw = .ok e := by
  have carries := demo_carries 121 ((encode_size _).trans (by decide +kernel))
  have documented : Documented (demoType 121) :=
    ⟨by decide +kernel, by decide +kernel, List.all_eq_true.mp (by decide +kernel), _, 1, demo_versioned 121 (by omega)⟩
  refine ⟨_, _, _, _, carries, documented, ?_⟩
  rw [carries_decode_iff _ _ _ _ _ carries, documented_valid_iff _ documented]
  intro usual
  exact usual ⟨documented, _, 1, demo_versioned 121 (by omega), by decide +kernel⟩

theorem decode_types_iff_demo : ¬ Overlong (demoType 120) ∧ Documented (demoType 120) ∧
    ∃ e, decode (encode (.obj (wire (demoId 4) (demoType 120) (Number.ofInt 1000) demoWork [(str "safe", .bool true)]))) = .ok e := by
  have carries := demo_carries 120 ((encode_size _).trans (by decide +kernel))
  have documented : Documented (demoType 120) :=
    ⟨by decide +kernel, by decide +kernel, List.all_eq_true.mp (by decide +kernel), _, 1, demo_versioned 120 (by omega)⟩
  have usual : ¬ Overlong (demoType 120) := by
    rw [← documented_valid_iff _ documented]
    decide +kernel
  exact ⟨usual, documented, ((decode_types_iff _ _ _ _ _ carries).mpr usual).mpr documented⟩

end N2F
