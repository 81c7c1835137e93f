import ChatLedger.Proofs.Store.Paths
import ChatLedger.Service.Messages
import Mathlib.Data.List.Induction

/-!
# Calls of the chat service

What users may ask of the chat service, as data, so that any number of calls can run at the same
time.

1. `ChatCall.operation` is what a call does, `ChatReply` what it answers.
2. `ChatCall.asks_makes`: what a call asks of the store is what it reads, and the changes that are
   its own. So the only sessions that calls open have figures of zero.
3. `ChatCall.fresh_path`: the store calls behind an answer with fresh figures. The last one is the
   refresh that wrote them, and a write of a message before it is one to the same session.
-/

namespace ChatLedger

open Store Time Operation

/-- A call of the chat service. The identifier is the one that the call is given. A call that changes a
message is given a clock, the others the time at which they read it. -/
inductive ChatCall where
  | createSession (user : UserId) (input : NewSession) (now : Instant) (fresh : Uuid)
  | getSession (user : UserId) (id : Uuid)
  | updateTopic (user : UserId) (id : Uuid) (topic : String) (now : Instant)
  | finishSession (user : UserId) (id : Uuid) (now : Instant)
  | deleteSession (user : UserId) (id : Uuid) (now : Instant)
  | deleteAllSessions (user : UserId) (now : Instant)
  | listSessions (user : UserId) (page size : Option UInt32)
  | searchSessions (user : UserId) (keyword : String) (page size : Option UInt32)
  | sessionStats (user : UserId)
  | modelUsage (user : UserId)
  | recompute (user : UserId) (id : Uuid) (now : Instant)
  | createMessage (user : UserId) (session : Uuid) (input : NewMessage) (clock : Clock)
      (fresh : Uuid)
  | getMessage (user : UserId) (id : Uuid)
  | updateMessage (user : UserId) (id : Uuid) (update : MessageUpdate) (clock : Clock)
  | deleteMessage (user : UserId) (id : Uuid) (clock : Clock)
  | listMessages (user : UserId) (session : Uuid) (page size : Option UInt32)
  | listUserMessages (user : UserId) (page size : Option UInt32)
  | searchMessages (user : UserId) (keyword : String) (page size : Option UInt32)
  | errorMessages (user : UserId) (page size : Option UInt32)
  | recentMessages (user : UserId) (limit : UInt32)
  | sessionMessageStats (user : UserId) (session : Uuid)
  | userMessageStats (user : UserId)

/-- The value that a call of the chat service answers with. -/
inductive ChatReply where
  | session (session : Session)
  | messagesRemoved (count : UInt64)
  | sessionsRemoved (counts : SessionsDeleted)
  | sessions (page : Page Session)
  | sessionStats (stats : SessionStats)
  | usage (usage : List ModelUsage)
  | rollup (outcome : RollupOutcome)
  | changed (message : Refreshed Message)
  | removed (session : Refreshed Uuid)
  | message (message : Message)
  | messages (page : Page Message)
  | recent (messages : List Message)
  | messageStats (stats : MessageStats)

/-- The fresh figures that an answer carries. -/
def ChatReply.fresh? : ChatReply → Option Rollup
  | .rollup o => o.rollup?
  | .changed r => r.rollup.rollup?
  | .removed r => r.rollup.rollup?
  | _ => none

/-- What a call does. -/
def ChatCall.operation (settings : Settings) : ChatCall → Operation ChatReply
  | .createSession user input now fresh =>
    .session <$> Sessions.create settings user input now fresh
  | .getSession user id => .session <$> Sessions.owned user id
  | .updateTopic user id topic now => .session <$> Sessions.updateTopic user id topic now
  | .finishSession user id now => .session <$> Sessions.finish user id now
  | .deleteSession user id now => .messagesRemoved <$> Sessions.delete user id now
  | .deleteAllSessions user now => .sessionsRemoved <$> Sessions.deleteAll user now
  | .listSessions user page size => .sessions <$> Sessions.list settings user page size
  | .searchSessions user keyword page size =>
    .sessions <$> Sessions.search settings user keyword page size
  | .sessionStats user => .sessionStats <$> Sessions.stats user
  | .modelUsage user => .usage <$> Sessions.usage user
  | .recompute user id now => .rollup <$> Sessions.recompute user id now
  | .createMessage user session input clock fresh =>
    .changed <$> Messages.create settings user session input clock fresh
  | .getMessage user id => .message <$> Messages.owned user id
  | .updateMessage user id update clock =>
    .changed <$> Messages.update settings user id update clock
  | .deleteMessage user id clock => .removed <$> Messages.delete user id clock
  | .listMessages user session page size =>
    .messages <$> Messages.list settings user session page size
  | .listUserMessages user page size => .messages <$> Messages.listAll settings user page size
  | .searchMessages user keyword page size =>
    .messages <$> Messages.search settings user keyword page size
  | .errorMessages user page size => .messages <$> Messages.errors settings user page size
  | .recentMessages user limit => .recent <$> Messages.recent user limit
  | .sessionMessageStats user session => .messageStats <$> Messages.statsIn user session
  | .userMessageStats user => .messageStats <$> Messages.stats user

/-- What a call does, as a program that ends in a value or an error. -/
def ChatCall.program (settings : Settings) (c : ChatCall) :
    Program (Except ServiceError ChatReply) := (c.operation settings).run

/-- The times that a call reads on its clock, and writes. -/
def ChatCall.readings : ChatCall → List Instant
  | .createSession _ _ now _ | .updateTopic _ _ _ now | .finishSession _ _ now
  | .deleteSession _ _ now | .deleteAllSessions _ now | .recompute _ _ now => [now]
  | .createMessage _ _ _ clock _ | .updateMessage _ _ _ clock | .deleteMessage _ _ clock =>
    [clock 0, clock 1]
  | _ => []

/-- The user who makes a call. -/
def ChatCall.user : ChatCall → UserId
  | .createSession user .. | .getSession user _ | .updateTopic user .. | .finishSession user ..
  | .deleteSession user .. | .deleteAllSessions user _ | .listSessions user ..
  | .searchSessions user .. | .sessionStats user | .modelUsage user | .recompute user ..
  | .createMessage user .. | .getMessage user _ | .updateMessage user .. | .deleteMessage user ..
  | .listMessages user .. | .listUserMessages user .. | .searchMessages user ..
  | .errorMessages user .. | .recentMessages user _ | .sessionMessageStats user _
  | .userMessageStats user => user

/-! ## What a call asks of the store -/

/-- The call may make this change. -/
def ChatCall.Writes : ChatCall → Request → Prop
  | .createSession user _ now fresh, .createSession s =>
    s.id = fresh ∧ s.owner = user ∧ s.status = .active ∧ s.createdAt = now ∧
      s.updatedAt = now ∧ s.lastMessageAt = none ∧
      s.messageCount = 0 ∧ s.tokenCount = 0 ∧ s.totalCost = 0.0
  | .updateTopic _ id _ now, .updateSessionTopic id' _ now' => id' = id ∧ now' = now
  | .finishSession _ id now, .setSessionStatus id' status now' =>
    id' = id ∧ status = .ended ∧ now' = now
  | .deleteSession _ id now, .deleteSession id' now' => id' = id ∧ now' = now
  | .deleteAllSessions user now, .deleteUserSessions user' now' => user' = user ∧ now' = now
  | .recompute _ id now, .refreshRollup id' now' => id' = id ∧ now' = now
  | .createMessage _ session input clock fresh, .insertMessage m =>
    m = Messages.ofInput session input (clock 0) fresh
  | .createMessage _ session _ clock _, .refreshRollup id' now' =>
    id' = session ∧ now' = clock 1
  | .updateMessage _ id update clock, .updateMessage id' update' now' =>
    id' = id ∧ update' = update ∧ now' = clock 0
  | .deleteMessage _ id clock, .deleteMessage id' now' => id' = id ∧ now' = clock 0
  | .updateMessage _ _ _ clock, .refreshRollup _ now' => now' = clock 1
  | .deleteMessage _ _ clock, .refreshRollup _ now' => now' = clock 1
  | _, _ => False

/-- The call reads sessions or messages. -/
def Store.Request.ReadsChat : Request → Prop
  | .getSession .. | .listSessions .. | .searchSessions .. | .sessionStats .. | .modelUsage ..
  | .getMessage .. | .listSessionMessages .. | .listUserMessages .. | .searchUserMessages ..
  | .errorMessages .. | .recentMessages .. | .sessionMessageStats .. | .userMessageStats .. => True
  | _ => False

theorem Store.Request.ReadsChat.reader {r : Request} (h : r.ReadsChat) : r.access = .reader := by
  cases r <;> first | rfl | cases h

/-- The call may ask this of the store. -/
def ChatCall.Makes (c : ChatCall) (r : Request) : Prop := r.ReadsChat ∨ c.Writes r

namespace ChatCall

section Asks

variable {P : Request → Prop} {user : UserId} {id : Uuid} {now : Instant}

theorem asks_ownedSession (reads : ∀ r : Request, r.ReadsChat → P r) :
    (Sessions.owned user id).Asks P := by
  unfold Sessions.owned
  refine asks_bind (asks_ask (reads _ trivial)) fun _ => asks_bind (asks_check _) fun _ => ?_
  exact asks_bind (asks_check _) fun _ => asks_pure _

theorem asks_ownedMessage (reads : ∀ r : Request, r.ReadsChat → P r) :
    (Messages.owned user id).Asks P := by
  unfold Messages.owned
  refine asks_bind (asks_ask (reads _ trivial)) fun _ => asks_bind (asks_check _) fun _ => ?_
  exact asks_bind (asks_ownedSession reads) fun _ => asks_pure _

theorem asks_refresh (h : P (.refreshRollup id now)) : (Sessions.refresh id now).Asks P := by
  refine Program.Asks.bind (p := Program.ask _) ⟨h, fun _ => trivial⟩ fun answer => ?_
  rcases answer with _ | _ | _ <;> exact trivial

/-- The end of a call that has changed a message. -/
theorem asks_refreshed {α : Type} {value : α} (h : P (.refreshRollup id now)) :
    Asks P (do return ({ value := value, rollup := ← ofProgram (Sessions.refresh id now) } :
      Refreshed α)) :=
  asks_bind (asks_ofProgram (asks_refresh h)) fun _ => asks_pure _

end Asks

/-- **What a call asks of the store** is what it reads, and the changes that are its own. -/
theorem asks_makes (settings : Settings) (c : ChatCall) : (c.program settings).Asks c.Makes := by
  refine (?_ : (c.operation settings).Asks c.Makes).asks
  have reads (r : Request) (h : r.ReadsChat) : c.Makes r := .inl h
  have writes {r : Request} (h : c.Writes r) : c.Makes r := .inr h
  cases c with
  | createSession user input now fresh =>
    refine asks_map (asks_bind (asks_check _) fun topic => ?_)
    cases input.model with
    | some model =>
      refine asks_bind (asks_check _) fun model => asks_bind (asks_askWith ?_) fun _ => asks_pure _
      exact writes ⟨rfl, rfl, rfl, rfl, rfl, rfl, rfl, rfl, rfl⟩
    | none =>
      refine asks_bind (asks_pure _) fun model => asks_bind (asks_askWith ?_) fun _ => asks_pure _
      exact writes ⟨rfl, rfl, rfl, rfl, rfl, rfl, rfl, rfl, rfl⟩
  | getSession user id => exact asks_map (asks_ownedSession reads)
  | updateTopic user id topic now =>
    refine asks_map (asks_bind (asks_check _) fun _ => asks_bind (asks_ownedSession reads) ?_)
    exact fun _ => asks_bind (asks_ask (writes ⟨rfl, rfl⟩)) fun _ => asks_pure _
  | finishSession user id now =>
    refine asks_map (asks_bind (asks_ownedSession reads) fun session => ?_)
    split
    · exact asks_pure _
    · exact asks_bind (asks_ask (writes ⟨rfl, rfl, rfl⟩)) fun _ => asks_pure _
  | deleteSession user id now =>
    exact asks_map (asks_bind (asks_ownedSession reads) fun _ => asks_ask (writes ⟨rfl, rfl⟩))
  | deleteAllSessions user now => exact asks_map (asks_ask (writes ⟨rfl, rfl⟩))
  | recompute user id now =>
    refine asks_map (asks_bind (asks_ownedSession reads) fun _ => asks_ofProgram ?_)
    exact asks_refresh (writes ⟨rfl, rfl⟩)
  | createMessage user session input clock fresh =>
    refine asks_map (asks_bind (asks_check _) fun _ => asks_bind (asks_ownedSession reads) ?_)
    exact fun _ => asks_bind (asks_askWith (writes rfl)) fun _ =>
      asks_refreshed (writes ⟨rfl, rfl⟩)
  | getMessage user id => exact asks_map (asks_ownedMessage reads)
  | updateMessage user id update clock =>
    refine asks_map (asks_bind (asks_check _) fun _ => asks_bind (asks_ownedMessage reads) ?_)
    exact fun _ => asks_bind (asks_ask (writes ⟨rfl, rfl, rfl⟩)) fun _ => asks_refreshed (writes rfl)
  | deleteMessage user id clock =>
    refine asks_map (asks_bind (asks_ownedMessage reads) fun _ => ?_)
    exact asks_bind (asks_ask (writes ⟨rfl, rfl⟩)) fun _ => asks_refreshed (writes rfl)
  | listMessages user session page size =>
    refine asks_map (asks_bind (asks_ownedSession reads) fun _ => ?_)
    exact asks_bind (asks_ask (reads _ trivial)) fun _ => asks_pure _
  | sessionMessageStats user session =>
    exact asks_map (asks_bind (asks_ownedSession reads) fun _ => asks_ask (reads _ trivial))
  | searchSessions user keyword page size =>
    refine asks_map (asks_bind (asks_check _) fun _ => ?_)
    exact asks_bind (asks_ask (reads _ trivial)) fun _ => asks_pure _
  | searchMessages user keyword page size =>
    refine asks_map (asks_bind (asks_check _) fun _ => ?_)
    exact asks_bind (asks_ask (reads _ trivial)) fun _ => asks_pure _
  | listSessions user page size =>
    exact asks_map (asks_bind (asks_ask (reads _ trivial)) fun _ => asks_pure _)
  | listUserMessages user page size =>
    exact asks_map (asks_bind (asks_ask (reads _ trivial)) fun _ => asks_pure _)
  | errorMessages user page size =>
    exact asks_map (asks_bind (asks_ask (reads _ trivial)) fun _ => asks_pure _)
  | sessionStats user => exact asks_map (asks_ask (reads _ trivial))
  | modelUsage user => exact asks_map (asks_ask (reads _ trivial))
  | recentMessages user limit => exact asks_map (asks_ask (reads _ trivial))
  | userMessageStats user => exact asks_map (asks_ask (reads _ trivial))

end ChatCall

/-- A change is written with a time. -/
theorem ChatCall.Writes.clock {c : ChatCall} {r : Request} (h : c.Writes r) : c.readings ≠ [] := by
  intro hclock
  cases c <;> first | exact h | cases hclock

/-- A call that writes no time only reads. -/
theorem ChatCall.asks_reads (settings : Settings) {c : ChatCall} (hclock : c.readings = []) :
    (c.program settings).Asks Request.ReadsChat :=
  (c.asks_makes settings).mono fun _ h => h.resolve_right fun hwrite => hwrite.clock hclock

/-! ## The figures of a new session -/

/-- The call opens sessions only with figures of zero. -/
def Store.Request.OpensAtZero : Request → Prop
  | .createSession s => s.messageCount = 0 ∧ s.tokenCount = 0 ∧ s.totalCost = 0.0
  | _ => True

theorem ChatCall.Makes.opensAtZero {c : ChatCall} {r : Request} (h : c.Makes r) :
    r.OpensAtZero := by
  cases r with
  | createSession s =>
    rcases h with h | h
    · cases h
    · cases c with
      | createSession user input now fresh => exact h.2.2.2.2.2.2
      | _ => cases h
  | _ => trivial

/-- The only sessions that calls of the chat service open have figures of zero. -/
theorem ChatCall.asks_program (settings : Settings) (c : ChatCall) :
    (c.program settings).Asks Request.OpensAtZero :=
  (c.asks_makes settings).mono fun _ h => h.opensAtZero

/-! ## The calls behind fresh figures -/

/-- After the earlier exchanges, this one leaves the messages of all other sessions alone. -/
inductive KeepsTo (session : Uuid) (earlier : List Exchange) : Exchange → Prop where
  | read {x : Exchange} (h : x.request.access = .reader) : KeepsTo session earlier x
  | insert {m : Message} {a : Except StoreError Unit} (h : m.session = session) :
      KeepsTo session earlier ⟨.insertMessage m, a⟩
  | update {id : Uuid} {u : MessageUpdate} {now : Instant} {m : Message}
      (h : m.session = session) : KeepsTo session earlier ⟨.updateMessage id u now, .ok m⟩
  | delete {id : Uuid} {now : Instant} {m : Message} {a : Except StoreError Unit}
      (seen : ⟨.getMessage id, .ok (some m)⟩ ∈ earlier) (h : m.session = session) :
      KeepsTo session earlier ⟨.deleteMessage id now, a⟩

/-- Exchanges that all leave the messages of other sessions alone. -/
inductive AllKeepTo (session : Uuid) : List Exchange → Prop where
  | nil : AllKeepTo session []
  | snoc {l : List Exchange} {x : Exchange} (earlier : AllKeepTo session l)
      (last : KeepsTo session l x) : AllKeepTo session (l ++ [x])

theorem AllKeepTo.split {session : Uuid} {l₁ l₂ : List Exchange} {x : Exchange}
    (h : AllKeepTo session (l₁ ++ x :: l₂)) : KeepsTo session l₁ x := by
  induction l₂ using List.reverseRecOn with
  | nil =>
    generalize hl : l₁ ++ [x] = l at h
    cases h with
    | nil => simp at hl
    | snoc earlier last =>
      obtain ⟨rfl, hx⟩ := List.append_inj' hl rfl
      cases hx
      exact last
  | append_singleton l₂ y ih =>
    generalize hl : l₁ ++ x :: (l₂ ++ [y]) = l at h
    cases h with
    | nil => simp at hl
    | snoc earlier last =>
      rw [← List.cons_append, ← List.append_assoc] at hl
      obtain ⟨rfl, -⟩ := List.append_inj' hl rfl
      exact ih earlier

namespace ChatCall

variable {user : UserId} {id : Uuid} {now : Instant} {l : List Exchange}

theorem ends_ownedSession {s : Session} (h : (Sessions.owned user id).Ends l (.ok s)) :
    l = [⟨.getSession id, .ok (some s)⟩] := by
  obtain ⟨found, l₁, l₂, rfl, h₁, h⟩ := ends_bind_ok h
  obtain ⟨s', l₃, l₄, rfl, h₃, h⟩ := ends_bind_ok h
  obtain ⟨_, l₅, l₆, rfl, h₅, h⟩ := ends_bind_ok h
  obtain ⟨rfl, hs⟩ := ends_pure.1 h
  obtain ⟨rfl, -⟩ := ends_check.1 h₅
  obtain ⟨rfl, hfound⟩ := ends_check.1 h₃
  cases hs
  cases found with
  | none => cases hfound
  | some s' => cases hfound; rw [ends_ask_ok h₁]; rfl

theorem ends_ownedMessage {m : Message} (h : (Messages.owned user id).Ends l (.ok m)) :
    ∃ s, l = [⟨.getMessage id, .ok (some m)⟩, ⟨.getSession m.session, .ok (some s)⟩] := by
  obtain ⟨found, l₁, l₂, rfl, h₁, h⟩ := ends_bind_ok h
  obtain ⟨m', l₃, l₄, rfl, h₃, h⟩ := ends_bind_ok h
  obtain ⟨s, l₅, l₆, rfl, h₅, h⟩ := ends_bind_ok h
  obtain ⟨rfl, hm⟩ := ends_pure.1 h
  obtain ⟨rfl, hfound⟩ := ends_check.1 h₃
  cases hm
  rw [ends_ownedSession h₅]
  cases found with
  | none => cases hfound
  | some m' => cases hfound; rw [ends_ask_ok h₁]; exact ⟨s, rfl⟩

/-- Fresh figures are those that the store answered with. -/
theorem path_refresh {o : RollupOutcome} {r : Rollup}
    (h : (Sessions.refresh id now).Path l (.done o)) (hr : o.rollup? = some r) :
    l = [⟨.refreshRollup id now, .ok (some r)⟩] := by
  obtain ⟨answer, l₁, l₂, rfl, h₁, h₂⟩ := Program.path_bind (p := Program.ask _) h
  have h₁ : l₁ = [⟨.refreshRollup id now, answer⟩] := by
    cases h₁ with
    | cons rest =>
      obtain ⟨rfl, hq⟩ := Program.path_done rest
      cases hq
      rfl
  rcases answer with e | _ | r' <;> obtain ⟨rfl, hq⟩ := Program.path_done h₂ <;> cases hq <;>
    cases hr
  rw [h₁]
  rfl

/-- The end of a call that has changed a message. -/
theorem ends_refreshed {α : Type} {value : α} {answer : Refreshed α} {r : Rollup}
    (h : Ends (do return ({ value := value, rollup := ← ofProgram (Sessions.refresh id now) } :
      Refreshed α)) l (.ok answer)) (hr : answer.rollup.rollup? = some r) :
    l = [⟨.refreshRollup id now, .ok (some r)⟩] := by
  obtain ⟨o, l₁, l₂, rfl, h₁, h₂⟩ := ends_bind_ok h
  obtain ⟨rfl, ha⟩ := ends_pure.1 h₂
  cases ha
  obtain ⟨o', hpath, ho⟩ := ends_ofProgram h₁
  cases ho
  rw [List.append_nil]
  exact path_refresh hpath hr

/-- **Fresh figures** in an answer are those of the last store call behind it, a refresh. All calls
before it leave the messages of other sessions alone. -/
theorem fresh_path {settings : Settings} {c : ChatCall} {reply : ChatReply} {r : Rollup}
    (h : (c.program settings).Path l (.done (.ok reply))) (hr : reply.fresh? = some r) :
    ∃ id now l₀, l = l₀ ++ [⟨.refreshRollup id now, .ok (some r)⟩] ∧ AllKeepTo id l₀ := by
  change (c.operation settings).Ends l (.ok reply) at h
  cases c with
  | recompute user id now =>
    obtain ⟨o, hop, rfl⟩ := ends_map_ok h
    obtain ⟨s, l₁, l₂, rfl, h₁, h₂⟩ := ends_bind_ok hop
    obtain ⟨o', hpath, ho⟩ := ends_ofProgram h₂
    cases ho
    rw [ends_ownedSession h₁, path_refresh hpath hr]
    exact ⟨id, now, [_], rfl, .snoc .nil (.read rfl)⟩
  | createMessage user session input clock fresh =>
    obtain ⟨answer, hop, rfl⟩ := ends_map_ok h
    obtain ⟨_, l₁, l₂, rfl, h₁, hop₁⟩ := ends_bind_ok hop
    obtain ⟨s, l₃, l₄, rfl, h₃, hop₃⟩ := ends_bind_ok hop₁
    obtain ⟨_, l₅, l₆, rfl, h₅, hop₅⟩ := ends_bind_ok hop₃
    obtain ⟨rfl, -⟩ := ends_check.1 h₁
    rw [ends_ownedSession h₃, ends_askWith_ok h₅, ends_refreshed hop₅ hr]
    exact ⟨session, clock 1, [_, _], rfl, .snoc (.snoc .nil (.read rfl)) (.insert rfl)⟩
  | updateMessage user id update clock =>
    obtain ⟨answer, hop, rfl⟩ := ends_map_ok h
    obtain ⟨_, l₁, l₂, rfl, h₁, hop₁⟩ := ends_bind_ok hop
    obtain ⟨old, l₃, l₄, rfl, h₃, hop₃⟩ := ends_bind_ok hop₁
    obtain ⟨m, l₅, l₆, rfl, h₅, hop₅⟩ := ends_bind_ok hop₃
    obtain ⟨rfl, -⟩ := ends_check.1 h₁
    obtain ⟨s, rfl⟩ := ends_ownedMessage h₃
    rw [ends_ask_ok h₅, ends_refreshed hop₅ hr]
    refine ⟨m.session, clock 1, [_, _, _], rfl, ?_⟩
    exact .snoc (.snoc (.snoc .nil (.read rfl)) (.read rfl)) (.update rfl)
  | deleteMessage user id clock =>
    obtain ⟨answer, hop, rfl⟩ := ends_map_ok h
    obtain ⟨m, l₁, l₂, rfl, h₁, hop₁⟩ := ends_bind_ok hop
    obtain ⟨_, l₃, l₄, rfl, h₃, hop₃⟩ := ends_bind_ok hop₁
    obtain ⟨s, rfl⟩ := ends_ownedMessage h₁
    rw [ends_ask_ok h₃, ends_refreshed hop₃ hr]
    refine ⟨m.session, clock 1, [_, _, _], rfl, ?_⟩
    exact .snoc (.snoc (.snoc .nil (.read rfl)) (.read rfl)) (.delete (by simp) rfl)
  | _ =>
    obtain ⟨_, -, rfl⟩ := ends_map_ok h
    cases hr

end ChatCall

end ChatLedger
