import Mathlib.Logic.Basic

set_option autoImplicit false

-- The code of an asynchronous function: it is done, or goes on with the answer to a call.
inductive Script {Call : Type} (Answer : Call → Type) (Value : Type) where
  | done (v : Value)
  | call (c : Call) (next : Answer c → Script Answer Value)

structure Monitor {Call : Type} (Answer : Call → Type) (Ghost : Type) where
  allows : Ghost → Call → Prop
  after : Ghost → (c : Call) → Answer c → Ghost

namespace Script

variable {Call : Type} {Answer : Call → Type} {Ghost α β : Type}

def bind (p : Script Answer α) (f : α → Script Answer β) : Script Answer β :=
  match p with
  | .done v => f v
  | .call c next => .call c fun a => (next a).bind f

inductive After : Script Answer α → List (Sigma Answer) → Script Answer α → Prop where
  | here (p : Script Answer α) : After p [] p
  | next (c : Call) (next : Answer c → Script Answer α) (a : Answer c) (later : List (Sigma Answer)) (q : Script Answer α)
      (rest : After (next a) later q) : After (.call c next) (⟨c, a⟩ :: later) q

def play (answers : List (Sigma Answer) → (c : Call) → Answer c) (log : List (Sigma Answer)) :
    Script Answer α → List (Sigma Answer) × α
  | .done v => ([], v)
  | .call c next =>
      let a := answers log c
      let rest := (next a).play answers (log ++ [⟨c, a⟩])
      (⟨c, a⟩ :: rest.1, rest.2)

theorem play_after (answers : List (Sigma Answer) → (c : Call) → Answer c) (log : List (Sigma Answer)) (p : Script Answer α) :
    p.After (p.play answers log).1 (.done (p.play answers log).2) := by
  induction p generalizing log with
  | done v => exact .here _
  | call c next ih => exact .next c next _ _ _ (ih _ _)

def Obeys (m : Monitor Answer Ghost) (post : α → Ghost → Prop) : Script Answer α → Ghost → Prop
  | .done v, g => post v g
  | .call c next, g => m.allows g c ∧ ∀ a, (next a).Obeys m post (m.after g c a)

theorem obeys_mono (m : Monitor Answer Ghost) (post post' : α → Ghost → Prop) (weaker : ∀ v g, post v g → post' v g)
    (p : Script Answer α) (g : Ghost) (obeys : p.Obeys m post g) : p.Obeys m post' g := by
  induction p generalizing g with
  | done v => exact weaker v g obeys
  | call c next ih => exact ⟨obeys.1, fun a => ih a _ (obeys.2 a)⟩

theorem obeys_bind (m : Monitor Answer Ghost) (mid : α → Ghost → Prop) (post : β → Ghost → Prop) (p : Script Answer α)
    (f : α → Script Answer β) (g : Ghost) (first : p.Obeys m mid g) (rest : ∀ v g, mid v g → (f v).Obeys m post g) :
    (p.bind f).Obeys m post g := by
  induction p generalizing g with
  | done v => exact rest v g first
  | call c next ih => exact ⟨first.1, fun a => ih a _ (first.2 a)⟩

end Script

namespace Monitor

variable {Call : Type} {Answer : Call → Type} {Ghost α : Type}

def behind (m : Monitor Answer Ghost) (g : Ghost) (es : List (Sigma Answer)) : Ghost := es.foldl (fun g e => m.after g e.1 e.2) g

def AllowsAll (m : Monitor Answer Ghost) : Ghost → List (Sigma Answer) → Prop
  | _, [] => True
  | g, e :: later => m.allows g e.1 ∧ m.AllowsAll (m.after g e.1 e.2) later

theorem obeys_after (m : Monitor Answer Ghost) (post : α → Ghost → Prop) (p q : Script Answer α) (es : List (Sigma Answer)) (g : Ghost)
    (obeys : p.Obeys m post g) (path : p.After es q) : m.AllowsAll g es ∧ q.Obeys m post (m.behind g es) := by
  induction path generalizing g with
  | here p => exact ⟨trivial, obeys⟩
  | next c next a later q rest ih =>
      obtain ⟨allowed, ends⟩ := ih (m.after g c a) (obeys.2 a)
      exact ⟨⟨obeys.1, allowed⟩, ends⟩

end Monitor

-- A function with local variables that may throw.
def Routine {Call : Type} (Answer : Call → Type) (State Error α : Type) : Type := State → Script Answer (Except Error α × State)

namespace Routine

variable {Call : Type} {Answer : Call → Type} {State Error Ghost α β : Type}

def bind (p : Routine Answer State Error α) (f : α → Routine Answer State Error β) : Routine Answer State Error β := fun s =>
  (p s).bind fun r =>
    match r.1 with
    | .ok a => f a r.2
    | .error e => .done (.error e, r.2)

instance : Monad (Routine Answer State Error) where
  pure a := fun s => .done (.ok a, s)
  bind := bind

def throws (e : Error) : Routine Answer State Error α := fun s => .done (.error e, s)

def locals : Routine Answer State Error State := fun s => .done (.ok s, s)

def update (f : State → State) : Routine Answer State Error Unit := fun s => .done (.ok (), f s)

def ask (c : Call) : Routine Answer State Error (Answer c) := fun s => .call c fun a => .done (.ok a, s)

-- try { p } catch (e) { handler(e) }
def catches (p : Routine Answer State Error α) (handler : Error → Routine Answer State Error α) : Routine Answer State Error α := fun s =>
  (p s).bind fun r =>
    match r.1 with
    | .ok a => .done (.ok a, r.2)
    | .error e => handler e r.2

-- try { p } finally { cleanup }
def lastly (p : Routine Answer State Error α) (cleanup : Routine Answer State Error Unit) : Routine Answer State Error α := fun s =>
  (p s).bind fun r => (cleanup r.2).bind fun last =>
    match last.1 with
    | .ok _ => .done (r.1, last.2)
    | .error e => .done (.error e, last.2)

def Ends (returns : α → State → Ghost → Prop) (fails : Error → State → Ghost → Prop) (r : Except Error α × State) (g : Ghost) : Prop :=
  match r.1 with
  | .ok a => returns a r.2 g
  | .error e => fails e r.2 g

def Meets (m : Monitor Answer Ghost) (pre : State → Ghost → Prop) (p : Routine Answer State Error α) (returns : α → State → Ghost → Prop)
    (fails : Error → State → Ghost → Prop) : Prop := ∀ s g, pre s g → (p s).Obeys m (Ends returns fails) g

variable {m : Monitor Answer Ghost} {pre : State → Ghost → Prop} {fails : Error → State → Ghost → Prop}

theorem meets_pure (a : α) (returns : α → State → Ghost → Prop) (holds : ∀ s g, pre s g → returns a s g) :
    Meets m pre (pure a) returns fails := fun s g given => holds s g given

theorem meets_ask (c : Call) (returns : Answer c → State → Ghost → Prop) (allowed : ∀ s g, pre s g → m.allows g c)
    (holds : ∀ s g a, pre s g → returns a s (m.after g c a)) : Meets m pre (ask c) returns fails :=
  fun s g given => ⟨allowed s g given, fun a => holds s g a given⟩

theorem meets_before (pre' : State → Ghost → Prop) (p : Routine Answer State Error α) (returns : α → State → Ghost → Prop)
    (weaker : ∀ s g, pre s g → pre' s g) (meets : Meets m pre' p returns fails) : Meets m pre p returns fails :=
  fun s g given => meets s g (weaker s g given)

theorem meets_behind (p : Routine Answer State Error α) (returns returns' : α → State → Ghost → Prop) (fails' : Error → State → Ghost → Prop)
    (returned : ∀ a s g, returns a s g → returns' a s g) (thrown : ∀ e s g, fails e s g → fails' e s g)
    (meets : Meets m pre p returns fails) : Meets m pre p returns' fails' := by
  intro s g given
  refine Script.obeys_mono m _ _ ?_ (p s) g (meets s g given)
  intro r g' ended
  obtain ⟨r, s'⟩ := r
  cases r with
  | ok a => exact returned a s' g' ended
  | error e => exact thrown e s' g' ended

theorem meets_bind (p : Routine Answer State Error α) (f : α → Routine Answer State Error β) (mid : α → State → Ghost → Prop)
    (returns : β → State → Ghost → Prop) (first : Meets m pre p mid fails) (rest : ∀ a, Meets m (mid a) (f a) returns fails) :
    Meets m pre (p >>= f) returns fails := by
  intro s g given
  refine Script.obeys_bind m _ _ (p s) _ g (first s g given) ?_
  intro r g' ended
  obtain ⟨r, s'⟩ := r
  cases r with
  | ok a => exact rest a s' g' ended
  | error e => exact ended

theorem meets_catches (p : Routine Answer State Error α) (handler : Error → Routine Answer State Error α)
    (caught : Error → State → Ghost → Prop) (returns : α → State → Ghost → Prop) (first : Meets m pre p returns caught)
    (handled : ∀ e, Meets m (caught e) (handler e) returns fails) : Meets m pre (p.catches handler) returns fails := by
  intro s g given
  refine Script.obeys_bind m _ _ (p s) _ g (first s g given) ?_
  intro r g' ended
  obtain ⟨r, s'⟩ := r
  cases r with
  | ok a => exact ended
  | error e => exact handled e s' g' ended

theorem meets_lastly (p : Routine Answer State Error α) (cleanup : Routine Answer State Error Unit) (mid : α → State → Ghost → Prop)
    (thrown : Error → State → Ghost → Prop) (returns : α → State → Ghost → Prop) (first : Meets m pre p mid thrown)
    (returned : ∀ a, Meets m (mid a) cleanup (fun _ => returns a) fails) (failed : ∀ e, Meets m (thrown e) cleanup (fun _ => fails e) fails) :
    Meets m pre (p.lastly cleanup) returns fails := by
  intro s g given
  refine Script.obeys_bind m _ _ (p s) _ g (first s g given) ?_
  intro r g' ended
  obtain ⟨r, s'⟩ := r
  cases r with
  | ok a =>
      refine Script.obeys_bind m _ _ (cleanup s') _ g' (returned a s' g' ended) ?_
      intro last g'' cleaned
      obtain ⟨last, s''⟩ := last
      cases last <;> exact cleaned
  | error e =>
      refine Script.obeys_bind m _ _ (cleanup s') _ g' (failed e s' g' ended) ?_
      intro last g'' cleaned
      obtain ⟨last, s''⟩ := last
      cases last <;> exact cleaned

end Routine
