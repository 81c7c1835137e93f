import ChatLedger.Proofs.Chat.Acceptance
import ChatLedger.Proofs.Service.Calls
import ChatLedger.Proofs.Store.Interleaving

/-!
# What the services let through to the store

The checks come before the store calls, and the changes are made with what they have let through.

1. `Request.Accepted` says of each change which values it may carry.
2. `ServiceCall.asks_accepted`: the services make no other changes, whatever they are given.
3. `World.accepted_of_mem`: so a run of calls has no other changes in its history.
-/

namespace ChatLedger

open Store Time Operation

/-- The texts of a new subscription are within their bounds. -/
structure NewSubscription.Accepted (s : NewSubscription) : Prop where
  topic : Text.Tidy Limit.subscriptionTopic s.topic
  trimmed : Text.trim s.description = s.description
  description : s.description.length ≤ Limit.description

/-- The texts of a new article are within their bounds. -/
structure NewArticle.Accepted (a : NewArticle) : Prop where
  title : Text.Tidy Limit.articleTitle a.title
  summary : a.summary.length ≤ Limit.articleSummary
  content : a.content.length ≤ Limit.articleContent
  author : a.author.length ≤ Limit.articleAuthor
  url : a.url.length ≤ Limit.articleUrl
  keyPoints : a.keyPoints.length ≤ Limit.articleKeyPoints
  journal : a.journal.length ≤ Limit.articleJournal

/-- A new message has a content and an amount within their bounds, and an error text within its bound
at most where it has failed. -/
structure Message.Accepted (settings : Settings) (m : Message) : Prop where
  content : Text.Within settings.limits.messageChars.toNat m.content
  cost : IsAmount m.cost
  errorText : ∀ text ∈ m.errorText, text.length ≤ Limit.errorText
  plain : m.status = .normal → m.errorText = none

/-- The call opens this session: with a model that the checks let through, or with the configured one
where the call says nothing of a model. -/
def ServiceCall.Opens (settings : Settings) : ServiceCall → Session → Prop
  | .chat (.createSession _ input _ fresh), s => s.id = fresh ∧
    (Text.Tidy Limit.sessionModel s.model ∨
      input.model = none ∧ s.model = settings.sessions.model)
  | _, _ => False

/-- The change carries values that the checks let through, when this call makes it. -/
def Store.Request.Accepted (settings : Settings) (c : ServiceCall) : Request → Prop
  | .createSession s => Text.Tidy Limit.sessionTopic s.topic ∧ c.Opens settings s
  | .updateSessionTopic _ topic _ => Text.Tidy Limit.sessionTopic topic
  | .insertMessage m => m.Accepted settings
  | .updateMessage _ u _ => u.Acceptable settings
  | .createSubscription s _ => s.Accepted
  | .updateDescription _ description _ =>
    Text.trim description = description ∧ description.length ≤ Limit.description
  | .insertArticle _ a _ => a.Accepted
  | _ => True

theorem Store.Request.accepted_of_reader {settings : Settings} {c : ServiceCall} {r : Request}
    (h : r.access = .reader) : r.Accepted settings c := by
  cases r <;> first | exact trivial | cases h

/-! ## Checks -/

section Checks

variable {settings : Settings}

/-- A check of a text lets tidy texts through. -/
theorem tidy_of_requiredText {field value text : String} {max : Nat}
    (h : Validation.requiredText field value max = .ok text) : Text.Tidy max text := by
  obtain ⟨within, rfl⟩ := (Validation.requiredText_decides field value max).of_ok h
  exact within.tidy

theorem length_of_boundedText {field value : String} {max : Nat} {u : Unit}
    (h : Validation.boundedText field value max = .ok u) : value.length ≤ max :=
  ((Validation.boundedText_decides field value max).of_ok h).1

/-- An input that keeps to the rules stands for a message that does. -/
theorem NewMessage.Acceptable.ofInput {input : NewMessage} (h : input.Acceptable settings)
    (session : Uuid) (now : Instant) (fresh : Uuid) :
    (Messages.ofInput session input now fresh).Accepted settings := by
  refine ⟨h.content, h.cost, fun text htext => ?_, fun hnormal => ?_⟩
  · by_cases herror : input.status = .error
    · exact h.errorText text (by simpa [Messages.ofInput, herror] using htext)
    · simp [Messages.ofInput, herror] at htext
  · have hstatus : input.status = .normal := hnormal
    simp [Messages.ofInput, hstatus]

theorem Articles.accepted_of_validate {a a' : NewArticle} (h : Articles.validate a = .ok a') :
    a'.Accepted := by
  simp only [Articles.validate, bind_eq_ok] at h
  obtain ⟨title, htitle, _, hsummary, _, hcontent, _, hauthor, _, hurl, _, hkeyPoints, _, hjournal,
    _, -, h⟩ := h
  cases h
  exact ⟨tidy_of_requiredText htitle, length_of_boundedText hsummary,
    length_of_boundedText hcontent, length_of_boundedText hauthor, length_of_boundedText hurl,
    length_of_boundedText hkeyPoints, length_of_boundedText hjournal⟩

end Checks

/-! ## Calls -/

section Calls

variable {settings : Settings} {user : UserId} {id : Uuid} {now : Instant}

theorem accepted_of_readsChat {c : ServiceCall} {r : Request} (h : r.ReadsChat) :
    r.Accepted settings c :=
  Request.accepted_of_reader h.reader

theorem asks_createSession {input : NewSession} :
    (Sessions.create settings user input now id).Asks
      (Request.Accepted settings (.chat (.createSession user input now id))) := by
  refine asks_check_bind fun topic htopic => ?_
  have adds (model : String) (hmodel : Text.Tidy Limit.sessionModel model ∨
      input.model = none ∧ model = settings.sessions.model) :
      Request.Accepted settings (.chat (.createSession user input now id)) (.createSession
        { id := id, owner := user, topic := topic, model := model, channel := input.channel.getD 1
          messageCount := 0, tokenCount := 0, totalCost := 0.0, status := .active
          createdAt := now, updatedAt := now, lastMessageAt := none }) :=
    ⟨tidy_of_requiredText htopic, rfl, hmodel⟩
  cases hinput : input.model with
  | some model =>
    refine asks_check_bind fun model hmodel => ?_
    exact asks_bind (asks_askWith (adds model (.inl (tidy_of_requiredText hmodel)))) fun _ =>
      asks_pure _
  | none =>
    refine asks_pure_bind ?_
    exact asks_bind (asks_askWith (adds _ (.inr ⟨hinput, rfl⟩))) fun _ => asks_pure _

/-- The call brings a text to the store. -/
def ChatCall.BringsText : ChatCall → Prop
  | .createSession .. | .updateTopic .. | .createMessage .. | .updateMessage .. => True
  | _ => False

theorem ChatCall.Makes.accepted {c : ChatCall} {r : Request} (h : c.Makes r)
    (hc : ¬ c.BringsText) : r.Accepted settings (.chat c) := by
  rcases h with hread | hwrites
  · exact accepted_of_readsChat hread
  · cases r with
    | createSession => cases c <;> first | exact absurd trivial hc | cases hwrites
    | updateSessionTopic => cases c <;> first | exact absurd trivial hc | cases hwrites
    | insertMessage => cases c <;> first | exact absurd trivial hc | cases hwrites
    | updateMessage => cases c <;> first | exact absurd trivial hc | cases hwrites
    | createSubscription => cases c <;> cases hwrites
    | updateDescription => cases c <;> cases hwrites
    | insertArticle => cases c <;> cases hwrites
    | _ => trivial

/-- **The chat service** makes changes with what its checks let through. -/
theorem ChatCall.asks_accepted (settings : Settings) (c : ChatCall) :
    (c.operation settings).Asks (Request.Accepted settings (.chat c)) := by
  have other (hc : ¬ c.BringsText) :
      (c.operation settings).Asks (Request.Accepted settings (.chat c)) :=
    ⟨(c.asks_makes settings).mono fun _ h => h.accepted hc⟩
  cases c with
  | createSession user input now fresh => exact asks_map asks_createSession
  | updateTopic user id topic now =>
    refine asks_map (asks_check_bind fun topic htopic => ?_)
    refine asks_bind (asks_ownedSession fun _ => accepted_of_readsChat) fun _ => ?_
    exact asks_bind (asks_ask (tidy_of_requiredText htopic)) fun _ => asks_pure _
  | createMessage user session input clock fresh =>
    refine asks_map (asks_check_bind fun u hvalid => ?_)
    obtain ⟨acceptable, -⟩ := (Messages.validateNew_decides settings input).of_ok hvalid
    refine asks_bind (asks_ownedSession fun _ => accepted_of_readsChat) fun _ => ?_
    exact asks_bind (asks_askWith (acceptable.ofInput session (clock 0) fresh)) fun _ =>
      asks_refreshed trivial
  | updateMessage user id update clock =>
    refine asks_map (asks_check_bind fun u hvalid => ?_)
    obtain ⟨acceptable, -⟩ := (Messages.validateUpdate_decides settings update).of_ok hvalid
    refine asks_bind (asks_ownedMessage fun _ => accepted_of_readsChat) fun _ => ?_
    exact asks_bind (asks_ask acceptable) fun _ => asks_refreshed trivial
  | _ => exact other not_false

/-- **The membership service** makes changes with what its checks let through. -/
theorem MembershipCall.asks_accepted (settings : Settings) (c : MembershipCall) :
    (c.operation settings).Asks (Request.Accepted settings (.membership c)) := by
  have reads (r : Request) (h : r.ReadsMembers) : r.Accepted settings (.membership c) :=
    Request.accepted_of_reader h.reader
  cases c with
  | subscribe user topic description clock =>
    refine asks_map (asks_check_bind fun trimmed htopic => asks_check_bind fun _ hshort => ?_)
    have creates : NewSubscription.Accepted ⟨user, trimmed, Text.trim description⟩ :=
      ⟨tidy_of_requiredText htopic, Text.trim_trim description, length_of_boundedText hshort⟩
    exact asks_retry fun _ =>
      asks_trySubscribe reads creates (fun _ => trivial) fun _ _ _ => trivial
  | describe user id description now =>
    refine asks_map (asks_check_bind fun _ hshort => ?_)
    refine asks_bind (asks_opened (reads _ trivial)) fun _ => asks_bind (asks_check _) fun _ => ?_
    exact asks_bind (asks_ask ⟨Text.trim_trim description, length_of_boundedText hshort⟩) fun _ =>
      asks_pure _
  | cancel user id clock =>
    exact asks_map (asks_retry fun _ => asks_tryTransition reads trivial fun _ _ _ => trivial)
  | reactivate user id clock =>
    exact asks_map (asks_retry fun _ => asks_tryTransition reads trivial fun _ _ _ => trivial)
  | delete id now =>
    refine asks_map (asks_bind (asks_found (reads _ trivial)) fun _ => ?_)
    exact asks_bind (asks_ask trivial) fun _ => asks_pure _

/-- **All services** make changes with what their checks let through. -/
theorem ServiceCall.asks_accepted (settings : Settings) (c : ServiceCall) :
    (c.program settings).Asks (Request.Accepted settings c) := by
  cases c with
  | chat call => exact (asks_map (call.asks_accepted settings)).asks
  | membership call => exact (asks_map (call.asks_accepted settings)).asks
  | createArticle subscription article now =>
    refine (asks_map (asks_check_bind fun checked hchecked => ?_)).asks
    have adds : Request.Accepted settings (.createArticle subscription article now)
        (.insertArticle subscription checked now) := Articles.accepted_of_validate hchecked
    exact asks_bind (asks_opened trivial) fun _ => asks_ask adds
  | _ =>
    refine (ServiceCall.asks_writes settings _).mono fun r h => ?_
    rcases h with hread | hwrites
    · exact Request.accepted_of_reader hread
    · cases r <;> first | exact trivial | cases hwrites

end Calls

/-- **A run of calls** makes no changes but with what the checks let through. -/
theorem Store.World.accepted_of_mem {ι : Type} [DecidableEq ι] {settings : ι → Settings}
    {calls : ι → ServiceCall} {schedule : List (Turn ι)} {e : Event ι}
    (he : e ∈ ((World.mk {} (fun i => (calls i).program (settings i)) []).run schedule).history) :
    e.request.Accepted (settings e.process) (calls e.process) :=
  World.asks_of_mem (fun i => (calls i).asks_accepted (settings i)) he

end ChatLedger
