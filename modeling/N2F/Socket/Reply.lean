import N2F.Socket.Completion

set_option autoImplicit false

namespace N2F.Socket.Message

open Ecma

theorem pattern_length (unit : UInt16 → Bool) (low high : ℕ) (s : Str) (accepted : (Pattern.run unit low high).test s = true) :
    s.length ≤ high := ((test_iff _ _).mp accepted).2.1

theorem encode_texts (m : Message) (first second a b : Str) (valid : m.Valid) (payload : m.payload = [(first, .str a), (second, .str b)])
    (apart : [first, second].Nodup) (plain : ∀ k ∈ [first, second], arrayIndex k = none)
    (short : first.length + second.length + a.length + b.length ≤ 1024) :
    encode (some (encodeUtf8 m.document.text)) = .ok (encodeUtf8 m.document.text) ∧ decode (encodeUtf8 m.document.text) = .ok m := by
  have canonical : (Json.obj m.payload).Canonical := by
    rw [payload]
    exact ⟨plain_ordered _ apart plain, trivial, trivial, trivial⟩
  have settled : settleMembers m.payload = m.payload := by
    rw [payload]
    rfl
  have fits : (encodeUtf8 m.document.text).size ≤ maxMessage := by
    have id := (quote_bound m.id).trans (Nat.add_le_add_right (Nat.mul_le_mul_left 6 (pattern_length idUnit 1 64 m.id valid.id)) 2)
    have type := (quote_bound m.type).trans (Nat.add_le_add_right (Nat.mul_le_mul_left 6 (pattern_length typeUnit 1 64 m.type valid.type)) 2)
    have one : (numberJson (Number.ofInt 1)).length = 1 := by decide +kernel
    have names : (quote (str "v")).length = 3 ∧ (quote (str "id")).length = 4 ∧ (quote (str "type")).length = 6 ∧ (quote (str "payload")).length = 9 := by
      decide +kernel
    have keys := quote_bound first
    have keys' := quote_bound second
    have texts := quote_bound a
    have texts' := quote_bound b
    have length : m.document.text.length ≤ 16384 := by
      simp only [document, payload, Json.text, membersText, List.length_cons, List.length_append, List.length_nil, one, names.1, names.2.1,
        names.2.2.1, names.2.2.2]
      omega
    have size := encode_size m.document.text
    rw [maxMessage]
    omega
  have decoded := decode_document m valid canonical fits
  rw [settled] at decoded
  exact ⟨(encode_ok_iff _ _).mpr ⟨rfl, m, decoded⟩, decoded⟩

end N2F.Socket.Message

namespace N2F.Socket

open Ecma

def Connection.hands (c : Connection) (frame : Frame) : Option Message :=
  if c.closing || c.pending.isSome || frame.binary then none else (Message.decode frame.raw).toOption

structure Keeps (c c' : Connection) : Prop where
  messages : c'.works.map Work.message = c.works.map Work.message
  sent : c'.sent = c.sent

theorem keeps_refl (c : Connection) : Keeps c c := ⟨rfl, rfl⟩

theorem put_messages (c : Connection) (number : ℕ) (w w' : Work) (found : c.works[number]? = some w) (same : w'.message = w.message) :
    (c.put number w').works.map Work.message = c.works.map Work.message := by
  have place : (c.works.map Work.message)[number]? = some w.message := by rw [List.getElem?_map, found]; rfl
  rw [Connection.put, List.map_set, same]
  obtain ⟨inside, here⟩ := List.getElem?_eq_some_iff.mp place
  rw [← here]
  exact List.set_getElem_self inside

theorem stop_keeps (c : Connection) : Keeps c c.stop := by
  rw [Connection.stop]
  split_ifs with stopped
  · exact keeps_refl c
  · refine ⟨?_, rfl⟩
    rw [List.map_map]
    refine List.map_congr_left fun w _ => ?_
    rw [Function.comp_apply, Work.stop]
    split_ifs
    · rfl
    · rfl

theorem message_hands (c : Connection) (frame : Frame) :
    (c.hands frame = none ∧ Keeps c (c.message frame)) ∨ ∃ m, c.hands frame = some m ∧ m.Valid ∧
      (c.message frame).works = c.works ++ [⟨m, .handling, false⟩] ∧ (c.message frame).sent = c.sent := by
  rw [Connection.hands, Connection.message]
  by_cases closing : c.closing = true
  · simp only [closing, Bool.true_or, if_true]
    exact .inl ⟨trivial, keeps_refl c⟩
  · by_cases busy : c.pending.isSome = true
    · simp only [closing, busy, Bool.true_or, Bool.or_true, if_true, if_false, Bool.false_eq_true]
      exact .inl ⟨trivial, rfl, rfl⟩
    · by_cases binary : frame.binary = true
      · simp only [closing, busy, binary, Bool.or_true, if_true, if_false, Bool.false_eq_true]
        exact .inl ⟨trivial, rfl, rfl⟩
      · simp only [closing, busy, binary, Bool.or_false, if_false, Bool.false_eq_true]
        cases decoded : Message.decode frame.raw with
        | error e => exact .inl ⟨rfl, rfl, rfl⟩
        | ok m => exact .inr ⟨m, rfl, Message.decoded_valid frame.raw m decoded, rfl, rfl⟩

theorem aside_keeps (c c' : Connection) (e : ConnectionEvent) (moved : c.step e = some c') (other : ∀ frame, e ≠ .message frame)
    (unsettled : ∀ number outcome, e ≠ .settled number outcome) : Keeps c c' := by
  cases step_stepped c c' e moved with
  | aside e pong closing terminated codes later calm same => exact same ▸ ⟨rfl, rfl⟩
  | start frame m unasked idle same => exact absurd rfl (other frame)
  | finish e number w closing codes found running turn later same => exact same ▸ ⟨put_messages _ number w _ found rfl, rfl⟩
  | send number w outcome body found running live opened same => exact absurd rfl (unsettled number outcome)
  | timeout number w found running same => exact same ▸ ⟨put_messages c number w _ found rfl, rfl⟩
  | clear number w found ended same => exact same ▸ ⟨put_messages c number w _ found rfl, rfl⟩
  | close unasked same => exact same ▸ ⟨(stop_keeps { c with closing := true }).messages, (stop_keeps { c with closing := true }).sent⟩
  | cleaned target asked gone same => exact same ▸ ⟨rfl, rfl⟩

theorem settle_sends (c c' : Connection) (number : ℕ) (outcome : Outcome) (moved : c.step (.settled number outcome) = some c') :
    c'.works.map Work.message = c.works.map Work.message ∧ (c'.sent = c.sent ∨ ∃ response body, outcome = .returned response ∧
      response.bind Message.encode = .ok body ∧ c'.sent = c.sent ++ [(number, body)]) := by
  obtain ⟨w, found, _, rfl⟩ := (at_some_iff c c' number _ _).mp moved
  have failed : Keeps c (c.fail number w) := ⟨put_messages _ number w _ found rfl, rfl⟩
  cases outcome with
  | threw => exact ⟨failed.messages, .inl failed.sent⟩
  | returned response =>
      rw [Connection.settle]
      split_ifs
      · exact ⟨put_messages c number w _ found rfl, .inl rfl⟩
      · cases encoded : response.bind Message.encode with
        | error e => exact ⟨failed.messages, .inl failed.sent⟩
        | ok body => exact ⟨put_messages _ number w _ found rfl, .inr ⟨response, body, rfl, encoded, rfl⟩⟩

def Server.admits (s : Server) (u : Upgrade) : Bool :=
  u.origins = 1 && u.origin = some s.origin && u.speaks && !s.closed && s.active.length < 64

theorem admitted_opens (s : Server) (u : Upgrade) (admits : s.admits u = true) :
    (s.upgrade u .opened).connections = s.connections ++ [Connection.start] := by
  simp only [Server.admits, Bool.and_eq_true, Bool.not_eq_true', decide_eq_true_eq] at admits
  obtain ⟨⟨⟨⟨one, origin⟩, speaks⟩, opened⟩, room⟩ := admits
  have first : ¬ (u.origins ≠ 1 || u.origin ≠ some s.origin || !u.speaks) = true := by simp [one, origin, speaks]
  have second : ¬ (s.closed || 64 ≤ s.active.length) = true := by simp [opened, room]
  rw [Server.upgrade, if_neg first, if_neg second]

theorem unopened_keeps (s : Server) (u : Upgrade) (h : Handshake) (none : h ≠ .opened) : (s.upgrade u h).connections = s.connections := by
  unfold Server.upgrade
  split_ifs
  · rfl
  · rfl
  · cases h with
    | declined => rfl
    | unopened => rfl
    | opened => exact absurd rfl none

end N2F.Socket
