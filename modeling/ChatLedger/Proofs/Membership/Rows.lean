import ChatLedger.Proofs.Store.Persistence

/-!
# Rows of subscriptions, links and articles

Where the rows of subscriptions, links and articles come from, call by call.

1. `Request.perform_members`: all that a call can do to the three tables.
2. `Request.perform_topics`: a subscription keeps its topic, which is the one that it was added with.
3. `Tables.Referring` holds of all tables that calls can lead to: links and articles refer to
   subscriptions that exist.
-/

namespace ChatLedger.Store

open Time

/-! ## What a call does -/

/-- What a call does to subscriptions, links and articles, where it does anything to them. -/
inductive Tables.MemberStep (t : Tables) : Request → Tables → Prop where
  | apart {r : Request} {t' : Tables} (subscriptions : t'.subscriptions = t.subscriptions)
      (links : t'.links = t.links) (articles : t'.articles = t.articles) : MemberStep t r t'
  | createSubscription {input : NewSubscription} {now : Instant} :
      MemberStep t (.createSubscription input now)
        { t with
          subscriptions := t.subscriptions ++
            [Tables.subscriptionRow (nextRow t.subscriptions) input now]
          links := t.links ++
            [Tables.linkRow (nextRow t.links) input.creator (nextRow t.subscriptions) now] }
  | insertLink {user : UserId} {id : Int} {now : Instant}
      (known : ∃ s ∈ t.subscriptions, s.has id = true) :
      MemberStep t (.insertLink user id now)
        { t with links := t.links ++ [Tables.linkRow (nextRow t.links) user id now] }
  | changeLink {id : Int} {expected wanted : LinkStatus} {now : Instant} :
      MemberStep t (.changeLink id expected wanted now)
        { t with
          links := changeWhere
            (fun r => (r.row : Int) == id && r.status == Vocabulary.word expected)
            (·.setStatus wanted now) t.links }
  | updateDescription {id : Int} {description : String} {now : Instant} :
      MemberStep t (.updateDescription id description now)
        { t with
          subscriptions := changeWhere (fun r => r.has id && r.isActive)
            (·.describe description now) t.subscriptions }
  | cancelSubscription {id : Int} {now : Instant} :
      MemberStep t (.cancelSubscription id now)
        { t with
          subscriptions := changeWhere (fun r => r.has id && r.isActive) (·.cancel now)
            t.subscriptions }
  | insertArticle {id : Int} {a : NewArticle} {now : Instant}
      (known : ∃ s ∈ t.subscriptions, s.has id = true)
      (rated : 0.0 ≤ a.rating ∧ a.rating ≤ Limit.articleRating) :
      MemberStep t (.insertArticle id a now)
        { t with articles := t.articles ++ [.ofNew (nextRow t.articles) id a now] }
  | deleteArticle {id : Int} {now : Instant} :
      MemberStep t (.deleteArticle id now)
        { t with
          articles := changeWhere (fun r => (r.row : Int) == id && r.isLive) (·.delete now)
            t.articles }

open Tables in
/-- **One call**, seen from the subscriptions, links and articles. -/
theorem Request.perform_members (r : Request) (t : Tables) : t.MemberStep r (r.perform t).2 := by
  have keep : t.MemberStep r t := .apart rfl rfl rfl
  cases r with
  | createSubscription input now =>
    refine settle_tables keep fun a t' h => ?_
    rw [(insertSubscription_ok h).2.2.2]
    exact .createSubscription
  | insertLink user id now =>
    refine settle_tables keep fun a t' h => ?_
    obtain ⟨-, known, -, rfl⟩ := insertLink_ok h
    exact .insertLink known
  | changeLink id expected wanted now =>
    exact settle_tables keep fun a t' h => (changeLink_ok h).2 ▸ .changeLink
  | updateDescription id description now =>
    exact settle_tables keep fun a t' h => describe_ok h ▸ .updateDescription
  | cancelSubscription id now =>
    exact settle_tables keep fun a t' h => (cancelSubscription_ok h).2 ▸ .cancelSubscription
  | insertArticle id article now =>
    refine settle_tables keep fun a t' h => ?_
    obtain ⟨known, rated, rfl⟩ := insertArticle_ok h
    exact .insertArticle known rated
  | deleteArticle id now =>
    exact settle_tables keep fun a t' h => deleteArticle_ok h ▸ .deleteArticle
  | createSession session =>
    refine settle_tables keep fun a t' h => ?_
    rw [(insertSession_ok h).2]
    exact .apart rfl rfl rfl
  | updateSessionTopic id topic now =>
    exact settle_tables keep fun a t' h => changeSession_ok h ▸ .apart rfl rfl rfl
  | setSessionStatus id status now =>
    exact settle_tables keep fun a t' h => changeSession_ok h ▸ .apart rfl rfl rfl
  | deleteSession id now =>
    exact settle_tables keep fun a t' h => deleteSession_ok h ▸ .apart rfl rfl rfl
  | deleteUserSessions user now =>
    exact settle_tables keep fun a t' h => deleteSessionsOf_ok h ▸ .apart rfl rfl rfl
  | refreshRollup session now =>
    refine settle_tables keep fun a t' h => ?_
    rcases refreshRollup_ok h with ⟨-, rfl⟩ | ⟨tokens, -, -, -, rfl⟩
    · exact keep
    · exact .apart rfl rfl rfl
  | insertMessage message =>
    refine settle_tables keep fun a t' h => ?_
    rw [(insertMessage_ok h).2.2]
    exact .apart rfl rfl rfl
  | updateMessage id update now =>
    refine settleRow_tables keep fun a t' h => ?_
    obtain ⟨-, -, -, -, -, rfl⟩ := updateMessage_ok h
    exact .apart rfl rfl rfl
  | deleteMessage id now =>
    exact settle_tables keep fun a t' h => deleteMessage_ok h ▸ .apart rfl rfl rfl
  | _ => exact keep

/-! ## Topics -/

/-- The call gives this topic to a subscription that it adds. -/
def Request.topic? : Request → Option String
  | .createSubscription input _ => some input.topic
  | _ => none

/-- A subscription has kept its topic, or was added by the call. -/
theorem Request.perform_topics (r : Request) (t : Tables) {s : SubscriptionRow}
    (hs : s ∈ (r.perform t).2.subscriptions) :
    (∃ s₀ ∈ t.subscriptions, s₀.topic = s.topic) ∨ r.topic? = some s.topic := by
  have step := r.perform_members t
  generalize (r.perform t).2 = t' at step hs
  cases step with
  | createSubscription =>
    rcases List.mem_append.1 hs with hs | hs
    · exact .inl ⟨s, hs, rfl⟩
    · rw [List.mem_singleton.1 hs]
      exact .inr rfl
  | updateDescription =>
    rcases mem_changeWhere.1 hs with ⟨s₀, h₀, -, rfl⟩ | ⟨h₀, -⟩
    · exact .inl ⟨s₀, h₀, rfl⟩
    · exact .inl ⟨s, h₀, rfl⟩
  | cancelSubscription =>
    rcases mem_changeWhere.1 hs with ⟨s₀, h₀, -, rfl⟩ | ⟨h₀, -⟩
    · exact .inl ⟨s₀, h₀, rfl⟩
    · exact .inl ⟨s, h₀, rfl⟩
  | apart subscriptions => exact .inl ⟨s, subscriptions ▸ hs, rfl⟩
  | _ => exact .inl ⟨s, hs, rfl⟩

/-! ## References -/

/-- There is a subscription of this number. -/
def Tables.HasSubscription (t : Tables) (id : Int) : Prop :=
  ∃ s ∈ t.subscriptions, (s.row : Int) = id

theorem Tables.HasSubscription.of_grows {t t' : Tables} (hg : t.Grows t') {id : Int}
    (h : t.HasSubscription id) : t'.HasSubscription id := by
  obtain ⟨s, hs, rfl⟩ := h
  obtain ⟨s', hs', hkey⟩ :=
    List.mem_map.1 (hg.subscriptions.keys_prefix.subset (List.mem_map_of_mem hs))
  exact ⟨s', hs', congrArg (fun k => (k.1 : Int)) hkey⟩

/-- Links and articles refer to subscriptions that exist. -/
structure Tables.Referring (t : Tables) : Prop where
  links : ∀ l ∈ t.links, t.HasSubscription l.subscription
  articles : ∀ a ∈ t.articles, t.HasSubscription a.subscription

theorem Tables.referring_empty : Tables.Referring {} := by
  constructor <;> simp

/-- Every call keeps references whole. -/
theorem Tables.Referring.perform {t : Tables} (h : t.Referring) (r : Request) :
    (r.perform t).2.Referring := by
  have hg := r.perform_grows t
  have step := r.perform_members t
  generalize (r.perform t).2 = t' at step hg ⊢
  -- rows that refer to what was there before
  have links (l : LinkRow) (hl : l ∈ t.links) : t'.HasSubscription l.subscription :=
    (h.links l hl).of_grows hg
  have articles (a : ArticleRow) (ha : a ∈ t.articles) : t'.HasSubscription a.subscription :=
    (h.articles a ha).of_grows hg
  have found {id : Int} (known : ∃ s ∈ t.subscriptions, s.has id = true) :
      t'.HasSubscription id := by
    obtain ⟨s, hs, hid⟩ := known
    exact Tables.HasSubscription.of_grows hg ⟨s, hs, beq_iff_eq.1 hid⟩
  cases step with
  | apart subscriptions hlinks harticles =>
    exact ⟨fun l hl => links l (hlinks ▸ hl), fun a ha => articles a (harticles ▸ ha)⟩
  | createSubscription =>
    refine ⟨fun l hl => ?_, articles⟩
    rcases List.mem_append.1 hl with hl | hl
    · exact links l hl
    · rw [List.mem_singleton.1 hl]
      exact ⟨_, List.mem_append_right _ (List.mem_singleton_self _), rfl⟩
  | insertLink known =>
    refine ⟨fun l hl => ?_, articles⟩
    rcases List.mem_append.1 hl with hl | hl
    · exact links l hl
    · rw [List.mem_singleton.1 hl]
      exact found known
  | changeLink =>
    refine ⟨fun l hl => ?_, articles⟩
    rcases mem_changeWhere.1 hl with ⟨l₀, h₀, -, rfl⟩ | ⟨h₀, -⟩
    · exact links l₀ h₀
    · exact links l h₀
  | insertArticle known =>
    refine ⟨links, fun a ha => ?_⟩
    rcases List.mem_append.1 ha with ha | ha
    · exact articles a ha
    · rw [List.mem_singleton.1 ha]
      exact found known
  | deleteArticle =>
    refine ⟨links, fun a ha => ?_⟩
    rcases mem_changeWhere.1 ha with ⟨a₀, h₀, -, rfl⟩ | ⟨h₀, -⟩
    · exact articles a₀ h₀
    · exact articles a h₀
  | updateDescription => exact ⟨links, articles⟩
  | cancelSubscription => exact ⟨links, articles⟩

end ChatLedger.Store
