import N2F.Errors.Registry
import N2F.Ecma.Pattern
import N2F.Ecma.Properties

set_option autoImplicit false

namespace N2F.Env

open Ecma

-- What a lookup returns: undefined, a text, or a value of another type.
inductive Source where
  | absent
  | text (value : Str)
  | foreign
deriving DecidableEq

abbrev Lookup := Str → Source

-- /^[A-Z][A-Z0-9_]*$/
def validKey : Str → Bool
  | [] => false
  | u :: rest => inRange 'A' 'Z' u && rest.all fun u => inRange 'A' 'Z' u || inRange '0' '9' u || oneOf "_" u

-- /^(0|[1-9][0-9]*)$/
def isNatural (digits : Str) : Bool :=
  match digits with
  | [] => false
  | u :: rest => (u = 0x30 && rest.isEmpty) || (inRange '1' '9' u && rest.all isDigitUnit)

def integer (text : Str) : Option Number :=
  let negative := text.head? = some 0x2D
  let digits := if negative then text.tail else text
  if isNatural digits then
    let value := Number.ofNumeral negative (digitsValue digits)
    if value.isSafeInteger then some value else none
  else none

inductive Origin where
  | environment
  | default
deriving DecidableEq

structure Var where
  key : Str
  value : Str
  source : Origin
  secret : Bool
deriving DecidableEq

structure Reader where
  seen : List Str
  problems : Fields
  resolved : List Var

def Reader.new : Reader := ⟨[], [], []⟩

-- A valid key is ASCII.
def keyText (key : Str) : String := String.ofList (key.map fun u => Char.ofNat u.toNat)

def Reader.problem (r : Reader) (key : Str) (why : String) : Reader :=
  { r with problems := put (if validKey key then keyText key else "<key>") why r.problems }

-- None is an invalid read, some none an absent value.
def Reader.read (lookup : Lookup) (r : Reader) (key : Str) : Reader × Option (Option Str) :=
  if validKey key then
    if r.seen.contains key then (r.problem key "duplicate_key", none)
    else
      let r := { r with seen := key :: r.seen }
      match lookup key with
      | .absent => (r, some none)
      | .text value => (r, some (some value))
      | .foreign => (r.problem key "invalid_source", none)
  else (r.problem key "invalid_key", none)

def Reader.record (r : Reader) (key value : Str) (isPresent isSecret : Bool) : Reader :=
  { r with
    resolved := r.resolved ++
      [⟨key, if isSecret then str "[REDACTED]" else value, if isPresent then .environment else .default, isSecret⟩] }

def Reader.string (lookup : Lookup) (r : Reader) (key fallback : Str) : Reader × Str :=
  match r.read lookup key with
  | (r, none) => (r, [])
  | (r, some value) => (r.record key (value.getD fallback) value.isSome false, value.getD fallback)

def Reader.required (lookup : Lookup) (r : Reader) (key : Str) : Reader × Str :=
  match r.read lookup key with
  | (r, none) => (r, [])
  | (r, some value) =>
      if value.getD [] = [] then (r.problem key "required", [])
      else (r.record key (value.getD []) true false, value.getD [])

-- The second component is the text inside the SecretString.
def Reader.secret (lookup : Lookup) (r : Reader) (key : Str) : Reader × Str :=
  match r.read lookup key with
  | (r, none) => (r, [])
  | (r, some value) =>
      if value.getD [] = [] then (r.problem key "required", [])
      else (r.record key (value.getD []) true true, value.getD [])

def numberText (n : Number) : Str := n.text.flatMap unitsOf

def refusesInt (fallback min max : Number) : Bool :=
  !fallback.isSafeInteger || !min.isSafeInteger || !max.isSafeInteger || max.less min || fallback.less min || max.less fallback

def Reader.int (lookup : Lookup) (r : Reader) (key : Str) (fallback min max : Number) : Reader × Number :=
  if refusesInt fallback min max then (r.problem key "invalid_definition", Number.zero)
  else
    match r.read lookup key with
    | (r, none) => (r, Number.zero)
    | (r, some value) =>
        match (match value with | none => some fallback | some text => integer text) with
        | none => (r.problem key "invalid_integer", Number.zero)
        | some v =>
            if v.less min || max.less v then (r.problem key "out_of_range", Number.zero)
            else (r.record key (numberText v) value.isSome false, v)

def flagText (b : Bool) : Str := if b then str "true" else str "false"

def Reader.boolean (lookup : Lookup) (r : Reader) (key : Str) (fallback : Bool) : Reader × Bool :=
  match r.read lookup key with
  | (r, none) => (r, false)
  | (r, some none) => (r.record key (flagText fallback) false false, fallback)
  | (r, some (some text)) =>
      if text ≠ str "true" && text ≠ str "false" then (r.problem key "invalid_boolean", false)
      else (r.record key (flagText (text = str "true")) true false, text = str "true")

def refusesChoices (fallback : Str) (allowed : List Str) : Bool :=
  !decide allowed.Nodup || allowed.contains [] || !allowed.contains fallback

def Reader.enumeration (lookup : Lookup) (r : Reader) (key fallback : Str) (allowed : List Str) : Reader × Str :=
  if refusesChoices fallback allowed then (r.problem key "invalid_definition", [])
  else
    match r.read lookup key with
    | (r, none) => (r, [])
    | (r, some value) =>
        if allowed.contains (value.getD fallback) then
          (r.record key (value.getD fallback) value.isSome false, value.getD fallback)
        else (r.problem key "invalid_choice", [])

def Reader.check (r : Reader) : Result Unit :=
  if r.problems.isEmpty then .ok () else .error ⟨.invalid, "invalid configuration", some "env.invalid", some r.problems⟩

def Reader.manifest (r : Reader) : Result (List Var) :=
  r.check.map fun _ => r.resolved.mergeSort fun a b => !decide (b.key < a.key)

inductive Call where
  | string (key fallback : Str)
  | required (key : Str)
  | secret (key : Str)
  | int (key : Str) (fallback min max : Number)
  | boolean (key : Str) (fallback : Bool)
  | enumeration (key fallback : Str) (allowed : List Str)
  | check
  | manifest

inductive Answer where
  | text (value : Str)
  | secret (content : Str)
  | number (value : Number)
  | flag (value : Bool)
  | checked (result : Result Unit)
  | listed (result : Result (List Var))

def Reader.perform (lookup : Lookup) (r : Reader) : Call → Reader × Answer
  | .string key fallback => (r.string lookup key fallback).map id .text
  | .required key => (r.required lookup key).map id .text
  | .secret key => (r.secret lookup key).map id .secret
  | .int key fallback min max => (r.int lookup key fallback min max).map id .number
  | .boolean key fallback => (r.boolean lookup key fallback).map id .flag
  | .enumeration key fallback allowed => (r.enumeration lookup key fallback allowed).map id .text
  | .check => (r, .checked r.check)
  | .manifest => (r, .listed r.manifest)

def Reader.run (lookup : Lookup) (r : Reader) : List Call → Reader × List Answer
  | [] => (r, [])
  | c :: rest =>
      let (next, answer) := r.perform lookup c
      let (last, answers) := next.run lookup rest
      (last, answer :: answers)

end N2F.Env
