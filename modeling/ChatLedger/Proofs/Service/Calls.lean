import ChatLedger.Proofs.Chat.Calls
import ChatLedger.Proofs.Membership.Calls
import ChatLedger.Proofs.Membership.Reference
import ChatLedger.Proofs.Validation
import ChatLedger.Service.Articles

/-!
# Calls of all services

What users may ask of the services, chat and memberships with their articles, as one type.

1. `ServiceCall.operation` is what a call does, and `ServiceCall.readings` the times that it may write.
2. `ServiceCall.asks_makes`: what a call asks of the store is what it reads, and the changes that
   are its own. `ServiceCall.asks_writes` says of these changes which values they write.
-/

namespace ChatLedger

open Store Time Operation

/-- A call of one of the services. -/
inductive ServiceCall where
  | chat (call : ChatCall)
  | membership (call : MembershipCall)
  | listMemberships (user : UserId) (page size : Option UInt32)
  | createArticle (subscription : Int) (article : NewArticle) (now : Instant)
  | deleteArticle (id : Int) (now : Instant)
  | listArticles (user : UserId) (subscription : Int) (page size : Option UInt32)
  | listAllArticles (user : UserId) (page size : Option UInt32)

/-- The value that a call answers with. -/
inductive ServiceReply where
  | chat (reply : ChatReply)
  | membership (reply : MembershipReply)
  | memberships (page : Page SubscriptionView)
  | article (article : Article)
  | articleRemoved
  | articles (page : Page Article)

/-- What a call does. -/
def ServiceCall.operation (settings : Settings) : ServiceCall → Operation ServiceReply
  | .chat call => .chat <$> call.operation settings
  | .membership call => .membership <$> call.operation settings
  | .listMemberships user page size => .memberships <$> Memberships.list settings user page size
  | .createArticle subscription article now =>
    .article <$> Articles.create subscription article now
  | .deleteArticle id now => (fun _ => .articleRemoved) <$> Articles.delete id now
  | .listArticles user subscription page size =>
    .articles <$> Articles.list settings user subscription page size
  | .listAllArticles user page size => .articles <$> Articles.listAll settings user page size

/-- What a call does, as a program that ends in a value or an error. -/
def ServiceCall.program (settings : Settings) (c : ServiceCall) :
    Program (Except ServiceError ServiceReply) := (c.operation settings).run

/-- The times that a call may read on its clock. -/
def ServiceCall.readings : ServiceCall → List Instant
  | .chat call => call.readings
  | .membership call => call.readings
  | .createArticle _ _ now | .deleteArticle _ now => [now]
  | _ => []

/-! ## What a call asks of the store -/

/-- The change is one to subscriptions, links or articles. -/
def Store.Request.SparesChat : Request → Prop
  | .createSubscription .. | .insertLink .. | .changeLink .. | .updateDescription ..
  | .cancelSubscription .. | .insertArticle .. | .deleteArticle .. => True
  | _ => False

/-- The call reads subscriptions, links or articles. -/
def Store.Request.ReadsMembers : Request → Prop
  | .findActiveByTopic .. | .getSubscription .. | .findLink .. | .listSubscriptions ..
  | .listArticles .. | .listUserArticles .. => True
  | _ => False

theorem Store.Request.ReadsMembers.reader {r : Request} (h : r.ReadsMembers) :
    r.access = .reader := by
  cases r <;> first | rfl | cases h

/-- The call may ask this of the store. -/
def ServiceCall.Makes : ServiceCall → Request → Prop
  | .chat call, r => call.Makes r
  | .membership _, r | .createArticle .., r | .deleteArticle .., r =>
    r.access = .reader ∨ r.SparesChat
  | .listMemberships user _ _, r => ∃ page, r = .listSubscriptions user page
  | .listArticles user subscription _ _, r =>
    r = .getSubscription subscription ∨ r = .findLink user subscription ∨
      ∃ page, r = .listArticles subscription page
  | .listAllArticles user _ _, r => ∃ page, r = .listUserArticles user page

section Asks

variable {P : Request → Prop} {user : UserId} {id : Int} {now : Instant}

theorem asks_found (reads : P (.getSubscription id)) : (Memberships.found id).Asks P :=
  asks_bind (asks_ask reads) fun _ => asks_check _

theorem asks_opened (reads : P (.getSubscription id)) : (Memberships.opened id).Asks P :=
  asks_bind (asks_found reads) fun _ => asks_bind (asks_check _) fun _ => asks_pure _

theorem asks_carryOut {link : Option Link} {step : MembershipStep}
    (joins : P (.insertLink user id now))
    (changes : ∀ link seen wanted, P (.changeLink link seen wanted now)) :
    (Memberships.carryOut user id link step now).Asks P := by
  unfold Memberships.carryOut
  split
  · refine asks_bind (asks_ask (changes _ _ _)) fun hit => ?_
    split
    · exact asks_pure _
    · exact asks_check _
  · exact asks_check _
  · split
    · exact asks_bind (asks_ask joins) fun _ => asks_pure _
    · exact asks_pure _

theorem asks_trySubscribe {topic description : String}
    (reads : ∀ r : Request, r.ReadsMembers → P r)
    (creates : P (.createSubscription ⟨user, topic, description⟩ now))
    (joins : ∀ id, P (.insertLink user id now))
    (changes : ∀ link seen wanted, P (.changeLink link seen wanted now)) :
    (Memberships.trySubscribe user topic description now).Asks P := by
  unfold Memberships.trySubscribe
  refine asks_bind (asks_ask (reads _ trivial)) fun found => ?_
  cases found with
  | none => exact asks_bind (asks_ask creates) fun _ => asks_pure _
  | some s =>
    refine asks_bind (asks_ask (reads _ trivial)) fun link => asks_bind (asks_check _) fun step => ?_
    exact asks_bind (asks_carryOut (joins _) changes) fun _ => asks_pure _

theorem asks_tryTransition {transition : Transition}
    (reads : ∀ r : Request, r.ReadsMembers → P r) (joins : P (.insertLink user id now))
    (changes : ∀ link seen wanted, P (.changeLink link seen wanted now)) :
    (Memberships.tryTransition user id transition now).Asks P := by
  unfold Memberships.tryTransition
  refine asks_bind (asks_found (reads _ trivial)) fun s => ?_
  split
  on_goal 1 => refine asks_bind (asks_check _) fun _ => ?_
  -- with or without the check, the rest is the same
  all_goals
    refine asks_bind (asks_ask (reads _ trivial)) fun link => asks_bind (asks_check _) fun step => ?_
    cases link with
    | none => exact asks_check _
    | some k => exact asks_bind (asks_carryOut joins changes) fun _ => asks_pure _

/-- A repetition asks what its attempts ask. -/
theorem asks_retry {α : Type} {attempts : UInt32} {attempt : Nat → Operation α}
    (h : ∀ made, (attempt made).Asks P) : (Operation.retry attempts attempt).Asks P := by
  have loop (more : Nat) :
      Program.Asks P (ChatLedger.retry (fun made => (attempt made).run) more) := by
    induction more generalizing attempt with
    | zero => exact (h 0).asks
    | succ more ih =>
      refine Program.Asks.bind (p := (attempt 0).run) (h 0).asks fun outcome => ?_
      split
      · exact ih fun made => h (made + 1)
      · exact trivial
  exact ⟨loop _⟩

/-- The call may make this change. -/
def MembershipCall.Writes : MembershipCall → Request → Prop
  | .subscribe user topic description clock, .createSubscription input now =>
    input = ⟨user, Text.trim topic, Text.trim description⟩ ∧ now ∈ clock.readings
  | .subscribe user _ _ clock, .insertLink user' _ now => user' = user ∧ now ∈ clock.readings
  | .cancel user id clock, .insertLink user' id' now
  | .reactivate user id clock, .insertLink user' id' now =>
    user' = user ∧ id' = id ∧ now ∈ clock.readings
  | .subscribe _ _ _ clock, .changeLink _ _ _ now | .cancel _ _ clock, .changeLink _ _ _ now
  | .reactivate _ _ clock, .changeLink _ _ _ now => now ∈ clock.readings
  | .describe _ id description now, .updateDescription id' description' now' =>
    id' = id ∧ description' = Text.trim description ∧ now' = now
  | .delete id now, .cancelSubscription id' now' => id' = id ∧ now' = now
  | _, _ => False

/-- What a call of the membership service asks of the store is what it reads, and the changes that
are its own. -/
theorem MembershipCall.asks_writes (settings : Settings) (c : MembershipCall) :
    (c.operation settings).Asks fun r => r.ReadsMembers ∨ c.Writes r := by
  have reads (r : Request) (h : r.ReadsMembers) : r.ReadsMembers ∨ c.Writes r := .inl h
  cases c with
  | subscribe user topic description clock =>
    refine asks_map (asks_check_bind fun trimmed htopic => asks_bind (asks_check _) fun _ => ?_)
    rw [Validation.eq_trim_of_requiredText htopic]
    refine asks_retry fun made => ?_
    have hread := clock.reading_mem made
    exact asks_trySubscribe reads (.inr ⟨rfl, hread⟩) (fun _ => .inr ⟨rfl, hread⟩)
      fun _ _ _ => .inr hread
  | cancel user id clock =>
    refine asks_map (asks_retry fun made => ?_)
    have hread := clock.reading_mem made
    exact asks_tryTransition reads (.inr ⟨rfl, rfl, hread⟩) fun _ _ _ => .inr hread
  | reactivate user id clock =>
    refine asks_map (asks_retry fun made => ?_)
    have hread := clock.reading_mem made
    exact asks_tryTransition reads (.inr ⟨rfl, rfl, hread⟩) fun _ _ _ => .inr hread
  | describe user id description now =>
    refine asks_map (asks_bind (asks_check _) fun _ => ?_)
    refine asks_bind (asks_opened (reads _ trivial)) fun _ => ?_
    exact asks_bind (asks_check _) fun _ =>
      asks_bind (asks_ask (.inr ⟨rfl, rfl, rfl⟩)) fun _ => asks_pure _
  | delete id now =>
    refine asks_map (asks_bind (asks_found (reads _ trivial)) fun _ => ?_)
    exact asks_bind (asks_ask (.inr ⟨rfl, rfl⟩)) fun _ => asks_pure _

theorem MembershipCall.Writes.sparesChat {c : MembershipCall} {r : Request} (h : c.Writes r) :
    r.SparesChat := by
  cases c <;> cases r <;> trivial

end Asks

/-- **What a call asks of the store** is what it reads, and the changes that are its own. -/
theorem ServiceCall.asks_makes (settings : Settings) (c : ServiceCall) :
    (c.program settings).Asks c.Makes := by
  refine (?_ : (c.operation settings).Asks c.Makes).asks
  cases c with
  | chat call => exact asks_map ⟨call.asks_makes settings⟩
  | membership call =>
    have asks := (call.asks_writes settings).asks.mono fun _ h =>
      h.imp (·.reader) (·.sparesChat)
    exact asks_map ⟨asks⟩
  | listMemberships user page size =>
    exact asks_map (asks_bind (asks_ask ⟨_, rfl⟩) fun _ => asks_pure _)
  | createArticle subscription article now =>
    refine asks_map (asks_bind (asks_check _) fun _ => asks_bind (asks_opened (.inl rfl)) ?_)
    exact fun _ => asks_ask (.inr trivial)
  | deleteArticle id now =>
    refine asks_map (asks_bind (asks_ask (.inr trivial)) fun hit => ?_)
    split
    · exact asks_check _
    · exact asks_pure _
  | listArticles user subscription page size =>
    refine asks_map (asks_bind (asks_opened (.inl rfl)) fun _ => ?_)
    refine asks_bind (asks_ask (.inr (.inl rfl))) fun link => ?_
    have page : Asks (Makes (.listArticles user subscription page size)) (do
        let request := settings.paging.resolve .articles page size
        return Page.ofItems (← ask (.listArticles subscription request)) request) :=
      asks_bind (asks_ask (.inr (.inr ⟨_, rfl⟩))) fun _ => asks_pure _
    split
    · exact asks_bind (asks_check _) fun _ => page
    · exact page
  | listAllArticles user page size =>
    exact asks_map (asks_bind (asks_ask ⟨_, rfl⟩) fun _ => asks_pure _)

/-- The call may make this change. -/
def ServiceCall.Writes : ServiceCall → Request → Prop
  | .chat call, r => call.Writes r
  | .membership call, r => call.Writes r
  | .createArticle subscription article now, .insertArticle subscription' article' now' =>
    subscription' = subscription ∧ article' = { article with title := Text.trim article.title } ∧
      now' = now
  | .deleteArticle id now, .deleteArticle id' now' => id' = id ∧ now' = now
  | _, _ => False

/-- An article that has been checked has its title trimmed, and is the same otherwise. -/
theorem Articles.eq_of_validate {a a' : NewArticle} (h : Articles.validate a = .ok a') :
    a' = { a with title := Text.trim a.title } := by
  simp only [Articles.validate, bind_eq_ok] at h
  obtain ⟨title, htitle, -, -, -, -, -, -, -, -, -, -, -, -, -, -, h⟩ := h
  cases h
  rw [Validation.eq_trim_of_requiredText htitle]

/-- What a call changes are the changes that are its own, with the values that it was given. -/
theorem ServiceCall.asks_writes (settings : Settings) (c : ServiceCall) :
    (c.program settings).Asks fun r => r.access = .reader ∨ c.Writes r := by
  cases c with
  | chat call =>
    have asks : (call.operation settings).Asks fun r => r.access = .reader ∨ call.Writes r :=
      ⟨(call.asks_makes settings).mono fun _ h => h.imp_left (·.reader)⟩
    exact (asks_map asks).asks
  | membership call =>
    have asks : (call.operation settings).Asks fun r => r.access = .reader ∨ call.Writes r :=
      ⟨(call.asks_writes settings).asks.mono fun _ h => h.imp_left (·.reader)⟩
    exact (asks_map asks).asks
  | createArticle subscription article now =>
    refine (asks_map (asks_check_bind fun checked hchecked => ?_)).asks
    refine asks_bind (asks_opened (.inl rfl)) fun _ => asks_ask (.inr ⟨rfl, ?_, rfl⟩)
    exact Articles.eq_of_validate hchecked
  | deleteArticle id now =>
    refine (asks_map (asks_bind (asks_ask (.inr ⟨rfl, rfl⟩)) fun hit => ?_)).asks
    split
    · exact asks_check _
    · exact asks_pure _
  | listMemberships user page size =>
    exact (asks_makes settings (.listMemberships user page size)).mono fun _ h => by
      obtain ⟨_, rfl⟩ := h
      exact .inl rfl
  | listArticles user subscription page size =>
    exact (asks_makes settings (.listArticles user subscription page size)).mono fun _ h => by
      rcases h with rfl | rfl | ⟨_, rfl⟩ <;> exact .inl rfl
  | listAllArticles user page size =>
    exact (asks_makes settings (.listAllArticles user page size)).mono fun _ h => by
      obtain ⟨_, rfl⟩ := h
      exact .inl rfl

/-- The other services ask for subscriptions, links and articles, and change nothing else. -/
theorem ServiceCall.asks_apart (settings : Settings) {c : ServiceCall} (h : ∀ call, c ≠ .chat call) :
    (c.program settings).Asks fun r => r.ReadsMembers ∨ r.SparesChat := by
  cases c with
  | chat call => exact absurd rfl (h call)
  | membership call =>
    have asks : (call.operation settings).Asks fun r => r.ReadsMembers ∨ r.SparesChat :=
      ⟨(call.asks_writes settings).asks.mono fun _ h => h.imp_right (·.sparesChat)⟩
    exact (asks_map asks).asks
  | createArticle subscription article now =>
    refine (asks_map (asks_bind (asks_check _) fun _ => ?_)).asks
    exact asks_bind (asks_opened (.inl trivial)) fun _ => asks_ask (.inr trivial)
  | deleteArticle id now =>
    refine (asks_map (asks_bind (asks_ask (.inr trivial)) fun hit => ?_)).asks
    split
    · exact asks_check _
    · exact asks_pure _
  | listMemberships user page size =>
    exact (asks_makes settings (.listMemberships user page size)).mono fun _ h => by
      obtain ⟨_, rfl⟩ := h
      exact .inl trivial
  | listArticles user subscription page size =>
    exact (asks_makes settings (.listArticles user subscription page size)).mono fun _ h => by
      rcases h with rfl | rfl | ⟨_, rfl⟩ <;> exact .inl trivial
  | listAllArticles user page size =>
    exact (asks_makes settings (.listAllArticles user page size)).mono fun _ h => by
      obtain ⟨_, rfl⟩ := h
      exact .inl trivial

/-- A change to sessions and messages is one of the chat service. -/
theorem ServiceCall.Makes.chat {c : ServiceCall} {r : Request} (h : c.Makes r)
    (hwrite : r.access = .writer) (hchat : ¬ r.SparesChat) : ∃ call, c = .chat call ∧ call.Makes r := by
  have reader (hread : r.access = .reader) : False := by
    rw [hread] at hwrite
    cases hwrite
  cases c with
  | chat call => exact ⟨call, rfl, h⟩
  | membership call => exact absurd (h.resolve_left reader) hchat
  | createArticle subscription article now => exact absurd (h.resolve_left reader) hchat
  | deleteArticle id now => exact absurd (h.resolve_left reader) hchat
  | listMemberships user page size =>
    obtain ⟨_, rfl⟩ := h
    exact (reader rfl).elim
  | listArticles user subscription page size =>
    rcases h with rfl | rfl | ⟨_, rfl⟩ <;> exact (reader rfl).elim
  | listAllArticles user page size =>
    obtain ⟨_, rfl⟩ := h
    exact (reader rfl).elim

/-- A call that writes no time only reads. -/
theorem ServiceCall.Makes.reader {c : ServiceCall} {r : Request} (h : c.Makes r)
    (hclock : c.readings = []) : r.access = .reader := by
  cases c with
  | chat call =>
    exact h.elim (·.reader) fun hwrite => absurd hclock hwrite.clock
  | membership call => exact absurd hclock call.readings_ne_nil
  | createArticle subscription article now => cases hclock
  | deleteArticle id now => cases hclock
  | listMemberships user page size =>
    obtain ⟨_, rfl⟩ := h
    rfl
  | listArticles user subscription page size => rcases h with rfl | rfl | ⟨_, rfl⟩ <;> rfl
  | listAllArticles user page size =>
    obtain ⟨_, rfl⟩ := h
    rfl

end ChatLedger
