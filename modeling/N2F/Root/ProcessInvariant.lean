import N2F.Health.Readiness
import N2F.HttpClient.Answers
import N2F.Root.ProcessSteps

set_option autoImplicit false

namespace N2F.Root

open Ecma

structure Whole (parts : Parts) (p : Process) : Prop where
  gate : (Health.machine parts.gate).Reachable p.gate
  server : (Http.machine parts.server).Reachable p.server
  sockets : (Socket.machine parts.origin).Reachable p.sockets
  client : ∀ c, parts.outbound = some c → c.machine.Reachable p.client
  log : (Logger.machine parts.log).Reachable p.log

theorem start_whole (parts : Parts) : Whole parts (Process.start parts) := ⟨.start, .start, .start, fun _ _ => .start, .start⟩

theorem inner_whole (parts : Parts) (p q : Process) (whole : Whole parts p) (inner : Inner parts p q) : Whole parts q := by
  refine ⟨?_, ?_, ?_, fun c outbound => ?_, ?_⟩
  · rcases inner.gate with same | ⟨e, _, moved⟩
    · exact same ▸ whole.gate
    · exact .next _ _ e whole.gate moved
  · rcases inner.server with same | ⟨e, _, moved⟩
    · exact same ▸ whole.server
    · exact .next _ _ e whole.server moved
  · rcases inner.sockets with same | ⟨e, _, moved⟩
    · exact same ▸ whole.sockets
    · exact .next _ _ e whole.sockets moved
  · rcases inner.client with same | ⟨c', e, own, _, moved⟩
    · exact same ▸ whole.client c outbound
    · cases own.symm.trans outbound
      exact .next _ _ e (whole.client c outbound) moved
  · rcases inner.log with same | ⟨e, _, moved⟩
    · exact same ▸ whole.log
    · exact .next _ _ e whole.log moved

theorem left_reachable (parts : Parts) (client : HttpClient.Client) (c : HttpClient.Setting) (reached : c.machine.Reachable client) :
    c.machine.Reachable (parts.left client) := by
  rw [Parts.left]
  split_ifs
  · exact .next _ _ .close reached rfl
  · exact reached

theorem own_whole (parts : Parts) (p q : Process) (whole : Whole parts p) (own : Own parts p q) : Whole parts q := by
  have same := whole
  obtain ⟨gate, server, sockets, client, log⟩ := whole
  have left (c : HttpClient.Setting) (outbound : parts.outbound = some c) := left_reachable parts p.client c (client c outbound)
  cases own with
  | listened stage line => exact ⟨.next _ _ .start gate rfl, server, sockets, client, log⟩
  | abandoned stage => exact ⟨gate, server, sockets, left, log⟩
  | depart stage sockets' moved => exact ⟨.next _ _ .drain gate rfl, server, .next _ _ .close sockets moved, client, log⟩
  | drained waited ok stage settled => exact ⟨gate, server, sockets, left, log⟩
  | telemetryClosed lines stage => exact ⟨gate, server, sockets, client, .next _ _ (.close (Number.ofInt p.remaining)) log rfl⟩
  | telemetryLeft fault stage => exact ⟨gate, server, sockets, client, .next _ _ (.close (Number.ofInt parts.shutdownMs)) log rfl⟩
  | began | threw | unopened | unlistened | departed | disconnected | databaseClosed | logClosed | appClosed | logLeft | failed =>
      exact ⟨gate, server, sockets, client, log⟩

-- The close of a serving process shares one budget, and each close of a failed start has
-- the whole of it.
structure Budgeted (parts : Parts) (p : Process) : Prop where
  whole : p.stage.isClosing = false → ∀ b ∈ p.budgets, b = parts.shutdownMs
  falling : p.stage.isClosing = true → p.budgets.Pairwise (· ≥ ·)
  left : p.stage.isClosing = true → ∀ b ∈ p.budgets, p.remaining ≤ b ∧ b ≤ parts.shutdownMs
  within : p.stage.isClosing = true → p.remaining ≤ parts.shutdownMs

theorem budgeted_open (parts : Parts) (p q : Process) (spent : List ℕ) (budgeted : Budgeted parts p) (before : p.stage.isClosing = false)
    (after : q.stage.isClosing = false) (same : q.budgets = p.budgets ++ spent) (all : ∀ b ∈ spent, b = parts.shutdownMs) :
    Budgeted parts q := by
  refine ⟨fun _ b member => ?_, fun closing => ?_, fun closing => ?_, fun closing => ?_⟩
  · rw [same] at member
    rcases List.mem_append.mp member with old | new
    · exact budgeted.whole before b old
    · exact all b new
  all_goals cases after.symm.trans closing

theorem budgeted_closing (parts : Parts) (p q : Process) (spent : List ℕ) (budgeted : Budgeted parts p) (before : p.stage.isClosing = true)
    (after : q.stage.isClosing = true) (less : q.remaining ≤ p.remaining) (same : q.budgets = p.budgets ++ spent)
    (all : ∀ b ∈ spent, b = p.remaining) : Budgeted parts q := by
  have within := budgeted.within before
  refine ⟨fun open' => ?_, fun _ => ?_, fun _ b member => ?_, fun _ => less.trans within⟩
  · cases after.symm.trans open'
  · rw [same, List.pairwise_append]
    refine ⟨budgeted.falling before, ?_, fun b old last new => ?_⟩
    · exact List.pairwise_of_forall_mem_list fun a first b second => (all a first).trans (all b second).symm |>.ge
    · rw [all last new]
      exact (budgeted.left before b old).1
  · rw [same] at member
    rcases List.mem_append.mp member with old | new
    · obtain ⟨low, high⟩ := budgeted.left before b old
      exact ⟨less.trans low, high⟩
    · rw [all b new]
      exact ⟨less, within⟩

theorem budgeted_departs (parts : Parts) (p q : Process) (budgeted : Budgeted parts p) (before : p.stage.isClosing = false)
    (after : q.stage.isClosing = true) (fresh : q.remaining = parts.shutdownMs) (same : q.budgets = p.budgets ++ [q.remaining]) :
    Budgeted parts q := by
  have all (b : ℕ) (member : b ∈ q.budgets) : b = parts.shutdownMs := by
    rw [same] at member
    rcases List.mem_append.mp member with old | new
    · exact budgeted.whole before b old
    · rw [List.mem_singleton.mp new, fresh]
  refine ⟨fun open' => ?_, fun _ => ?_, fun _ b member => ?_, fun _ => fresh.le⟩
  · cases after.symm.trans open'
  · exact List.pairwise_of_forall_mem_list fun a first b second => (all a first).trans (all b second).symm |>.ge
  · rw [all b member]
    exact ⟨fresh.le, Nat.le_refl _⟩

theorem inner_budgeted (parts : Parts) (p q : Process) (budgeted : Budgeted parts p) (inner : Inner parts p q) : Budgeted parts q := by
  have same : q.budgets = p.budgets ++ [] := inner.rest.budgets.trans (List.append_nil _).symm
  have stage := congrArg Stage.isClosing inner.rest.stage
  have less : q.remaining ≤ p.remaining := by
    rw [Process.remaining, inner.rest.deadline]
    exact Nat.sub_le_sub_left inner.now _
  cases closing : p.stage.isClosing with
  | false => exact budgeted_open parts p q [] budgeted closing (stage.trans closing) same fun b member => by cases member
  | true => exact budgeted_closing parts p q [] budgeted closing (stage.trans closing) less same fun b member => by cases member

theorem own_budgeted (parts : Parts) (p q : Process) (budgeted : Budgeted parts p) (own : Own parts p q) : Budgeted parts q := by
  have starting (q : Process) (before : p.stage.isClosing = false) (after : q.stage.isClosing = false) (same : q.budgets = p.budgets) :
      Budgeted parts q :=
    budgeted_open parts p q [] budgeted before after (same.trans (List.append_nil _).symm) fun b member => by cases member
  have failing (q : Process) (before : p.stage.isClosing = false) (after : q.stage.isClosing = false)
      (same : q.budgets = p.budgets ++ [parts.shutdownMs]) : Budgeted parts q :=
    budgeted_open parts p q _ budgeted before after same fun b => List.mem_singleton.mp
  have closing (q : Process) (before : p.stage.isClosing = true) (after : q.stage.isClosing = true) (less : q.remaining ≤ p.remaining)
      (same : q.budgets = p.budgets ++ [p.remaining]) : Budgeted parts q :=
    budgeted_closing parts p q _ budgeted before after less same fun b => List.mem_singleton.mp
  have ending (q : Process) (before : p.stage.isClosing = true) (after : q.stage.isClosing = true) (less : q.remaining ≤ p.remaining)
      (same : q.budgets = p.budgets) : Budgeted parts q :=
    budgeted_closing parts p q [] budgeted before after less (same.trans (List.append_nil _).symm) fun b member => by cases member
  cases own with
  | began before after stage order =>
      cases order with
      | _ => exact starting _ (by rw [stage]; rfl) rfl rfl
  | threw before leak stage order =>
      cases order with
      | _ => exact starting _ (by rw [stage]; rfl) rfl rfl
  | listened stage line => exact starting _ (by rw [stage]; rfl) rfl rfl
  | logLeft closer stage => exact starting _ (by rw [stage]; rfl) rfl rfl
  | failed fault stage =>
      rcases stage with stage | ⟨_, closer, stage⟩
      · exact starting _ (by rw [stage]; rfl) rfl rfl
      · exact starting _ (by rw [stage]; rfl) rfl rfl
  | unopened stage => exact failing _ (by rw [stage]; rfl) rfl rfl
  | unlistened stage has => exact failing _ (by rw [stage]; rfl) rfl rfl
  | telemetryLeft fault stage => exact failing _ (by rw [stage]; rfl) rfl rfl
  | abandoned stage =>
      rcases stage with ⟨stage, _⟩ | ⟨fault, stage⟩
      · exact failing _ (by rw [stage]; rfl) rfl rfl
      · exact failing _ (by rw [stage]; rfl) rfl rfl
  | depart stage sockets moved =>
      exact budgeted_departs parts p _ budgeted (by rw [stage]; rfl) rfl (Nat.add_sub_cancel_left p.now parts.shutdownMs) rfl
  | departed closer entries answer lines stage found told => exact closing _ (by rw [stage]; rfl) rfl (Nat.le_refl _) rfl
  | disconnected stage gone => exact closing _ (by rw [stage]; rfl) rfl (Nat.le_refl _) rfl
  | drained waited ok stage settled => exact closing _ (by rw [stage]; rfl) rfl (Nat.le_refl _) rfl
  | databaseClosed lines stage => exact closing _ (by rw [stage]; rfl) rfl (Nat.le_refl _) rfl
  | telemetryClosed lines stage => exact closing _ (by rw [stage]; rfl) rfl (Nat.le_refl _) rfl
  | logClosed closer result lines stage found told => exact ending _ (by rw [stage]; rfl) rfl (Nat.le_refl _) rfl
  | appClosed lines stage => exact ending _ (by rw [stage]; rfl) rfl (Nat.le_refl _) rfl

end N2F.Root
