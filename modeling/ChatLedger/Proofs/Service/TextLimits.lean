import ChatLedger.Proofs.Chat.MessageUpdates
import ChatLedger.Proofs.Membership.Rows
import ChatLedger.Proofs.Service.Accepted

/-!
# Limits of stored texts

A text is checked in one form and may be written in another one: trimmed, or as it was given, or not
given at all. So the limits are those of what stands in the columns.

1. `WithinLimits`, for the rows of each table, says which limits their texts keep to.
2. `Tables.WithinLimits.perform`: a change with what the checks let through keeps them.
3. `stored_texts_within_limits`: so all rows keep to them, at every moment of a run of calls.
-/

namespace ChatLedger

open Store Time

namespace Store

variable {ι : Type} {settings : Settings} {calls : ι → ServiceCall} {t t' : Tables}

/-! ## Limits -/

/-- The session was opened by a call that says nothing of a model. -/
def SessionRow.OpenedPlainly (calls : ι → ServiceCall) (r : SessionRow) : Prop :=
  ∃ i user input now fresh, calls i = .chat (.createSession user input now fresh) ∧
    input.model = none ∧ r.id = fresh.text

/-- The limits of a session. The model is the configured one, as it is, where the call that opened the
session says nothing of a model. -/
structure SessionRow.WithinLimits (settings : Settings) (calls : ι → ServiceCall)
    (r : SessionRow) : Prop where
  topic : Text.Tidy 200 r.topic
  model : Text.Tidy 50 r.model ∨ r.OpenedPlainly calls ∧ r.model = settings.sessions.model

/-- The limits of a message. The content is something besides blanks, and is measured without the
blanks at its ends. -/
structure MessageRow.WithinLimits (settings : Settings) (r : MessageRow) : Prop where
  content : Text.Within settings.limits.messageChars.toNat r.content
  errorText : ∀ text ∈ r.errorText, text.length ≤ 2000

/-- The limits of a subscription. -/
structure SubscriptionRow.WithinLimits (r : SubscriptionRow) : Prop where
  topic : Text.Tidy 100 r.topic
  trimmed : Text.trim r.description = r.description
  description : r.description.length ≤ 1000

/-- The limits of an article. -/
structure ArticleRow.WithinLimits (r : ArticleRow) : Prop where
  title : Text.Tidy 255 r.title
  summary : r.summary.length ≤ 1000
  content : r.content.length ≤ 10000
  author : r.author.length ≤ 100
  url : r.url.length ≤ 500
  keyPoints : r.keyPoints.length ≤ 2000
  journal : r.journal.length ≤ 200
  rating : 0.0 ≤ r.rating ∧ r.rating ≤ 10.0

/-- All rows are within their limits. -/
structure Tables.WithinLimits (settings : Settings) (calls : ι → ServiceCall) (t : Tables) :
    Prop where
  sessions : ∀ r ∈ t.sessions, r.WithinLimits settings calls
  messages : ∀ r ∈ t.messages, r.WithinLimits settings
  subscriptions : ∀ r ∈ t.subscriptions, r.WithinLimits
  articles : ∀ r ∈ t.articles, r.WithinLimits

theorem Tables.withinLimits_empty : Tables.WithinLimits settings calls {} := by
  constructor <;> simp

/-! ## New rows -/

/-- What is accepted for a session is within its limits. -/
theorem SessionRow.withinLimits_ofSession {i : ι} {s : Session}
    (h : (Request.createSession s).Accepted settings (calls i)) (row : Nat) :
    (ofSession row s).WithinLimits settings calls := by
  obtain ⟨topic, opens⟩ := h
  unfold ServiceCall.Opens at opens
  split at opens
  · next user input now fresh hcall =>
    obtain ⟨hid, hmodel⟩ := opens
    refine ⟨topic, hmodel.imp_right fun ⟨hnone, hmodel⟩ => ⟨?_, hmodel⟩⟩
    exact ⟨i, user, input, now, fresh, hcall, hnone, congrArg Uuid.text hid⟩
  · cases opens

theorem MessageRow.withinLimits_ofMessage {m : Message} (h : m.Accepted settings) (row : Nat) :
    (ofMessage row m).WithinLimits settings :=
  ⟨h.content, h.errorText⟩

/-- An update replaces a text by an accepted one, keeps it, or clears it. -/
theorem MessageRow.WithinLimits.update {r : MessageRow} {u : MessageUpdate}
    (h : r.WithinLimits settings) (accepted : u.Acceptable settings) (now : Instant) :
    (r.update u now).WithinLimits settings := by
  constructor
  · cases hu : u.content with
    | none => simpa [MessageRow.update, hu] using h.content
    | some content => simpa [MessageRow.update, hu] using accepted.content content hu
  · intro text htext
    have hfrom : text ∈ (u.errorText <|> r.errorText) := by
      unfold MessageRow.update at htext
      dsimp only at htext
      split at htext
      · cases htext
      · exact htext
    cases hu : u.errorText with
    | none => exact h.errorText text (by simpa [hu] using hfrom)
    | some text' => exact accepted.errorText text (by simpa [hu] using hfrom)

theorem SubscriptionRow.withinLimits_subscriptionRow {s : NewSubscription} (h : s.Accepted)
    (row : Nat) (now : Instant) : (Tables.subscriptionRow row s now).WithinLimits :=
  ⟨h.topic, h.trimmed, h.description⟩

/-- What is accepted for an article is within its limits, if the table takes the rating. -/
theorem ArticleRow.withinLimits_ofNew {a : NewArticle} (h : a.Accepted)
    (rated : 0.0 ≤ a.rating ∧ a.rating ≤ Limit.articleRating) (row : Nat) (id : Int)
    (now : Instant) : (ofNew row id a now).WithinLimits := by
  have rating : 0.0 ≤ storedAmount a.rating ∧ storedAmount a.rating ≤ 10.0 := by
    rcases storedAmount_cases a.rating with hzero | ⟨hsame, -⟩
    · rw [hzero]
      decide +kernel
    · rw [hsame]
      exact rated
  exact ⟨h.title, h.summary, h.content, h.author, h.url, h.keyPoints, h.journal, rating⟩

/-! ## One call -/

/-- Sessions keep within their limits: a topic that replaces another one has been checked, and no
change concerns the model. -/
theorem Tables.ChatStep.sessions_withinLimits {i : ι} {q : Request} (step : t.ChatStep q t')
    (accepted : q.Accepted settings (calls i))
    (h : ∀ r ∈ t.sessions, r.WithinLimits settings calls) :
    ∀ r ∈ t'.sessions, r.WithinLimits settings calls := by
  cases step with
  | apart sessions messages => exact sessions ▸ h
  | createSession fresh => exact forall_concat h (SessionRow.withinLimits_ofSession accepted _)
  | updateSessionTopic => exact forall_changeWhere h fun r hr => { hr with topic := accepted }
  | setSessionStatus | deleteSession | deleteUserSessions | refreshRollup =>
    exact forall_changeWhere h fun r hr => { hr with }
  | _ => exact h

/-- Messages keep within their limits. -/
theorem Request.messages_withinLimits {i : ι} {q : Request}
    (accepted : q.Accepted settings (calls i))
    (h : ∀ r ∈ t.messages, r.WithinLimits settings) :
    ∀ r ∈ (q.perform t).2.messages, r.WithinLimits settings := by
  refine q.perform_forall_messages h ?_ ?_ fun now r hr => { hr with }
  · rintro row m rfl
    exact MessageRow.withinLimits_ofMessage accepted row
  · rintro id u now rfl r hr
    exact hr.update accepted now

/-- Subscriptions and articles keep within their limits. -/
theorem Tables.MemberStep.withinLimits {i : ι} {q : Request} (step : t.MemberStep q t')
    (accepted : q.Accepted settings (calls i)) (subscriptions : ∀ r ∈ t.subscriptions, r.WithinLimits)
    (articles : ∀ r ∈ t.articles, r.WithinLimits) :
    (∀ r ∈ t'.subscriptions, r.WithinLimits) ∧ ∀ r ∈ t'.articles, r.WithinLimits := by
  cases step with
  | apart hsubscriptions hlinks harticles =>
    exact ⟨hsubscriptions ▸ subscriptions, harticles ▸ articles⟩
  | createSubscription =>
    have hnew := SubscriptionRow.withinLimits_subscriptionRow accepted
    exact ⟨forall_concat subscriptions (hnew _ _), articles⟩
  | updateDescription =>
    obtain ⟨trimmed, short⟩ := accepted
    exact ⟨forall_changeWhere subscriptions fun r hr =>
      { hr with trimmed := trimmed, description := short }, articles⟩
  | cancelSubscription =>
    exact ⟨forall_changeWhere subscriptions fun r hr => { hr with }, articles⟩
  | insertArticle known rated =>
    have hnew := ArticleRow.withinLimits_ofNew accepted rated
    exact ⟨subscriptions, forall_concat articles (hnew _ _ _)⟩
  | deleteArticle => exact ⟨subscriptions, forall_changeWhere articles fun r hr => { hr with }⟩
  | insertLink | changeLink => exact ⟨subscriptions, articles⟩

/-- **One call** with what the checks let through keeps all rows within their limits. -/
theorem Tables.WithinLimits.perform {i : ι} {q : Request} (h : t.WithinLimits settings calls)
    (accepted : q.Accepted settings (calls i)) : (q.perform t).2.WithinLimits settings calls := by
  obtain ⟨subscriptions, articles⟩ :=
    (q.perform_members t).withinLimits accepted h.subscriptions h.articles
  exact ⟨(q.perform_chat t).sessions_withinLimits accepted h.sessions,
    Request.messages_withinLimits accepted h.messages, subscriptions, articles⟩

end Store

/-! ## A run of calls -/

/-- **Stored texts are within their limits.** Calls of all services run at the same time on an empty
store under the same settings, whatever these are, and any of their store calls may fail. At every
moment, every row of a session, message, subscription or article is within its limits. -/
theorem stored_texts_within_limits {ι : Type} [DecidableEq ι] (settings : Settings)
    (calls : ι → ServiceCall) (schedule : List (Turn ι)) :
    ((World.mk {} (fun i => (calls i).program settings) []).run schedule).tables.WithinLimits
      settings calls :=
  (World.trace_run {} _ schedule).invariant (P := Tables.WithinLimits settings calls)
    Tables.withinLimits_empty fun _ he lawful before =>
      lawful.after_of (P := Tables.WithinLimits settings calls) before
        (before.perform (World.accepted_of_mem he))

/-- A configured model with a long name, and messages that have to be short. -/
def narrowSettings : Settings where
  sessions := { model := "ft:gpt-3.5-turbo-0125:parley:plans-and-meetings:9a8b7c6d" }
  limits := { messageChars := 5 }

/-- A user opens a session with the configured model, and adds a message with a blank at its end. -/
def narrowCalls : Fin 2 → ServiceCall
  | 0 => .chat (.createSession ⟨1⟩ ⟨"plans", none, none⟩ .start2026 (.ofNat 1))
  | 1 => .chat (.createMessage ⟨1⟩ (.ofNat 1) ⟨none, .user, "hello ", 3, 0.5, .normal, none⟩
      .start2026 (.ofNat 2))

/-- A configured model is not measured, and a content is measured without its blanks at the ends: what
is stored may be longer. -/
theorem not_within_limits_as_stored :
    let t := ((World.mk {} (fun i => (narrowCalls i).program narrowSettings) []).run
      [.calm 0, .calm 1, .calm 1]).tables
    (¬ ∀ r ∈ t.sessions, Text.Tidy 50 r.model) ∧
      ¬ ∀ r ∈ t.messages, Text.trim r.content ≠ "" ∧
        r.content.length ≤ narrowSettings.limits.messageChars.toNat := by
  decide +kernel

end ChatLedger
