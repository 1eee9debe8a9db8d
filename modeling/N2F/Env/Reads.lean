import N2F.Env.Manifest
import N2F.Stateful

set_option autoImplicit false

namespace N2F.Env

open Ecma Stateful

abbrev Reads (α : Type) := StateM Reader α

namespace Reads

def string (lookup : Lookup) (key fallback : String) : Reads Str := fun r => (r.string lookup (str key) (str fallback)).swap

def secret (lookup : Lookup) (key : String) : Reads Str := fun r => (r.secret lookup (str key)).swap

def int (lookup : Lookup) (key : String) (fallback min max : ℤ) : Reads Number := fun r =>
  (r.int lookup (str key) (Number.ofInt fallback) (Number.ofInt min) (Number.ofInt max)).swap

def boolean (lookup : Lookup) (key : String) (fallback : Bool) : Reads Bool := fun r => (r.boolean lookup (str key) fallback).swap

def enumeration (lookup : Lookup) (key fallback : String) (allowed : List String) : Reads Str := fun r =>
  (r.enumeration lookup (str key) (str fallback) (allowed.map str)).swap

def optionally {α : Type} (asked : Bool) (p : Reads α) : Reads (Option α) := if asked then some <$> p else pure none

end Reads

def Quiet (r : Reader) : Prop := r.problems = []

def Within (low high : ℤ) (v : Number) : Prop := ∃ n : ℤ, v.rational = some (n : ℚ) ∧ low ≤ n ∧ n ≤ high

theorem perform_quiet (lookup : Lookup) (r : Reader) (c : Call) (key : Str) (named : c.key = some key) (still : Quiet (r.perform lookup c).1) :
    Quiet r ∧ ∃ value text, c.accept value = some ((r.perform lookup c).2, text) ∧ c.reads = some key := by
  constructor
  · by_contra loud
    exact perform_loud lookup r c loud still
  · rcases perform_cases lookup r c key named with ⟨value, answer, text, served⟩ | loud
    · rw [perform_served lookup r c key value answer text served]
      exact ⟨value, text, served.accepted, served.reads⟩
    · exact absurd still loud

theorem string_sound (lookup : Lookup) (key fallback : String) : Sound Quiet (Reads.string lookup key fallback) fun _ => True :=
  fun r still => ⟨(perform_quiet lookup r (.string (str key) (str fallback)) _ rfl still).1, trivial⟩

theorem boolean_sound (lookup : Lookup) (key : String) (fallback : Bool) : Sound Quiet (Reads.boolean lookup key fallback) fun _ => True :=
  fun r still => ⟨(perform_quiet lookup r (.boolean (str key) fallback) _ rfl still).1, trivial⟩

theorem secret_sound (lookup : Lookup) (key : String) : Sound Quiet (Reads.secret lookup key) fun text => text ≠ [] := by
  intro r still
  obtain ⟨before, value, text, accepted, _⟩ := perform_quiet lookup r (.secret (str key)) _ rfl still
  refine ⟨before, ?_⟩
  simp only [Call.accept] at accepted
  split_ifs at accepted with empty
  have same := (Prod.mk.inj (Option.some.inj accepted)).1
  injection same with same
  exact fun none => empty (same.trans none)

theorem int_sound (lookup : Lookup) (key : String) (fallback min max : ℤ) (least : |min| ≤ 2 ^ 53) (most : |max| ≤ 2 ^ 53) :
    Sound Quiet (Reads.int lookup key fallback min max) (Within min max) := by
  intro r still
  obtain ⟨before, value, text, accepted, reads⟩ := perform_quiet lookup r (.int (str key) _ _ _) _ rfl still
  obtain ⟨low, n, high, low', high', below, above, v, same, value⟩ := accept_bounded _ _ _ _ _ reads accepted
  have low' : min = low := Int.cast_injective (Option.some.inj ((of_int_rational min least).symm.trans low'))
  have high' : max = high := Int.cast_injective (Option.some.inj ((of_int_rational max most).symm.trans high'))
  injection same with same
  exact ⟨before, n, (congrArg Number.rational same).trans value, low' ▸ below, high' ▸ above⟩

theorem enumeration_sound (lookup : Lookup) (key fallback : String) (allowed : List String) :
    Sound Quiet (Reads.enumeration lookup key fallback allowed) fun v => v ∈ allowed.map str := by
  intro r still
  obtain ⟨before, value, text, accepted, reads⟩ := perform_quiet lookup r (.enumeration (str key) _ _) _ rfl still
  obtain ⟨choice, member, same⟩ := accept_bounded _ _ _ _ _ reads accepted
  injection same with same
  rw [← same] at member
  exact ⟨before, member⟩

theorem optionally_sound {α : Type} (asked : Bool) (p : Reads α) (P : α → Prop) (sound : Sound Quiet p P) :
    Sound Quiet (Reads.optionally asked p) fun found => ∀ a, found = some a → P a := by
  cases asked with
  | false => exact sound_pure _ _ fun a none => by cases none
  | true =>
      refine sound_bind p _ P _ sound fun a => sound_pure _ _ ?_
      rintro holds b same
      injection same with same
      exact same ▸ holds

-- Lookups that differ in nothing but the nonempty texts of secrets.
def Veiled (secrets : List String) (first second : Lookup) : Prop :=
  ∀ key, first key = second key ∨
    key ∈ secrets.map str ∧ ∃ s t, s ≠ [] ∧ t ≠ [] ∧ first key = .text s ∧ second key = .text t

variable {secrets : List String} {first second : Lookup}

theorem veiled_read (veiled : Veiled secrets first second) (r : Reader) (key : String) (open' : str key ∉ secrets.map str) :
    r.read first (str key) = r.read second (str key) :=
  read_congr first second r (str key) fun _ _ => (veiled (str key)).resolve_right fun hidden => open' hidden.1

theorem string_alike (veiled : Veiled secrets first second) (key fallback : String) (open' : str key ∉ secrets.map str) :
    Alike (Reads.string first key fallback) (Reads.string second key fallback) Eq := by
  intro r
  rw [Reads.string, Reads.string, Reader.string, Reader.string, veiled_read veiled r key open']
  exact ⟨rfl, rfl⟩

theorem boolean_alike (veiled : Veiled secrets first second) (key : String) (fallback : Bool) (open' : str key ∉ secrets.map str) :
    Alike (Reads.boolean first key fallback) (Reads.boolean second key fallback) Eq := by
  intro r
  rw [Reads.boolean, Reads.boolean, Reader.boolean, Reader.boolean, veiled_read veiled r key open']
  exact ⟨rfl, rfl⟩

theorem int_alike (veiled : Veiled secrets first second) (key : String) (fallback min max : ℤ) (open' : str key ∉ secrets.map str) :
    Alike (Reads.int first key fallback min max) (Reads.int second key fallback min max) Eq := by
  intro r
  rw [Reads.int, Reads.int, Reader.int, Reader.int, veiled_read veiled r key open']
  exact ⟨rfl, rfl⟩

theorem enumeration_alike (veiled : Veiled secrets first second) (key fallback : String) (allowed : List String)
    (open' : str key ∉ secrets.map str) :
    Alike (Reads.enumeration first key fallback allowed) (Reads.enumeration second key fallback allowed) Eq := by
  intro r
  rw [Reads.enumeration, Reads.enumeration, Reader.enumeration, Reader.enumeration, veiled_read veiled r key open']
  exact ⟨rfl, rfl⟩

theorem secret_alike (veiled : Veiled secrets first second) (key : String) :
    Alike (Reads.secret first key) (Reads.secret second key) fun _ _ => True := by
  intro r
  refine ⟨?_, trivial⟩
  rcases veiled (str key) with same | ⟨_, s, t, left, right, found, found'⟩
  · rw [Reads.secret, Reads.secret, Reader.secret, Reader.secret, read_congr first second r (str key) fun _ _ => same]
  · exact secret_congr first second r (str key) s t left right found found'

theorem optionally_alike {α : Type} (asked : Bool) (p q : Reads α) (R : α → α → Prop) (alike : Alike p q R) :
    Alike (Reads.optionally asked p) (Reads.optionally asked q) (Option.Rel R) := by
  cases asked with
  | false => exact alike_pure _ _ _ .none
  | true => exact alike_bind p q _ _ R _ alike fun a b related => alike_pure _ _ _ (.some related)

end N2F.Env
