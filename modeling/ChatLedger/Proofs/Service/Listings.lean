import ChatLedger.Proofs.Chat.Lookups
import ChatLedger.Proofs.Membership.Effective
import ChatLedger.Proofs.Service.Timely
import ChatLedger.Proofs.Store.ReferenceLists

/-!
# Listings are slices of reference lists

1. `Tables.OwnSession`, `Tables.OwnMessage` and `Tables.OwnMembership` say which records are a
   user's, from the columns of their rows alone.
2. `Tables.Lists` says of each of the nine listings of a user which rows it shows, in which order,
   and that all its pages are slices of the one list of their records.
3. `listings_are_slices`: this holds on all tables that timely calls can lead to.
-/

namespace ChatLedger

open Store Time Operation

namespace Store.Tables

/-! ## Whose records are whose -/

/-- The row is that of a live session of the user. -/
structure OwnSession (t : Tables) (user : UserId) (r : SessionRow) : Prop where
  mem : r ∈ t.sessions
  live : r.isLive = true
  owner : r.owner = user.number

/-- The row is that of a live message in a session that meets the condition. -/
structure MessageIn (t : Tables) (Meets : SessionRow → Prop) (r : MessageRow) : Prop where
  mem : r ∈ t.messages
  live : r.isLive = true
  session : ∃ s, Meets s ∧ s.id = r.session

/-- The row is that of a live message of the user. -/
def OwnMessage (t : Tables) (user : UserId) (r : MessageRow) : Prop :=
  t.MessageIn (t.OwnSession user) r

/-- The rows are those of an active link of the user and of its subscription, which is active
too. -/
structure OwnMembership (t : Tables) (user : UserId) (pair : LinkRow × SubscriptionRow) : Prop where
  link : pair.1 ∈ t.links
  user : pair.1.user = user.number
  active : pair.1.isActive = true
  subscription : pair.2 ∈ t.subscriptions
  leads : (pair.2.row : Int) = pair.1.subscription
  opened : pair.2.isActive = true

/-- The row is that of a live article of a subscription that meets the condition. -/
structure ArticleOf (t : Tables) (Meets : Int → Prop) (r : ArticleRow) : Prop where
  mem : r ∈ t.articles
  live : r.isLive = true
  subscription : Meets r.subscription

/-- What each listing of a user is a page of. Sessions and messages are in the order of the times at
which they were added, memberships in the order of the times at which their links were changed,
articles in the order of their dates and then of the times at which they were added; row numbers
decide between records of one time. -/
structure Lists (t : Tables) (settings : Settings) (user : UserId) : Prop where
  sessions : Listed (Sessions.list settings user) settings.paging .sessions t
    (t.OwnSession user) SessionRow.session (Newest fun e => (e.2.createdAt, e.1.row))
  searchedSessions : ∀ text keyword, Validation.keyword text = .ok keyword →
    Listed (Sessions.search settings user text) settings.paging .sessions t
      (fun r => t.OwnSession user r ∧ Text.matchesKeyword keyword r.topic = true)
      SessionRow.session (Newest fun e => (e.2.createdAt, e.1.row))
  sessionMessages : ∀ id s, t.OwnSession user s → s.id = Uuid.text id →
    Listed (Messages.list settings user id) settings.paging .messages t
      (t.MessageIn (· = s)) MessageRow.message (Oldest fun e => (e.2.createdAt, e.1.row))
  messages : Listed (Messages.listAll settings user) settings.paging .messages t
    (t.OwnMessage user) MessageRow.message (Newest fun e => (e.2.createdAt, e.1.row))
  searchedMessages : ∀ text keyword, Validation.keyword text = .ok keyword →
    Listed (Messages.search settings user text) settings.paging .messages t
      (fun r => t.OwnMessage user r ∧ Text.matchesKeyword keyword r.content = true)
      MessageRow.message (Newest fun e => (e.2.createdAt, e.1.row))
  errorMessages : Listed (Messages.errors settings user) settings.paging .messages t
    (fun r => t.OwnMessage user r ∧ r.status = Vocabulary.word MessageStatus.error)
    MessageRow.message (Newest fun e => (e.2.createdAt, e.1.row))
  memberships : Listed (Memberships.list settings user) settings.paging .subscriptions t
    (t.OwnMembership user) t.view (Newest fun e => (e.2.link.updatedAt, e.1.1.row))
  articles : ∀ id, t.Effective user id →
    Listed (Articles.list settings user id) settings.paging .articles t
      (t.ArticleOf (· = id)) ArticleRow.article
      (Latest fun e => (e.2.publishedAt, e.2.createdAt, e.1.row))
  allArticles : Listed (Articles.listAll settings user) settings.paging .articles t
    (t.ArticleOf (t.Effective user)) ArticleRow.article
    (Latest fun e => (e.2.publishedAt, e.2.createdAt, e.1.row))

end Store.Tables

section Chat

variable {t : Tables} {user : UserId} {settings : Settings} (coherent : t.Coherent)
  (legible : t.ChatLegible)

include coherent legible

/-! ## Sessions -/

/-- Sessions from the latest to the earliest, with their records. -/
theorem exists_newestSessions {condition : SessionRow → Bool} {Shown : SessionRow → Prop}
    (shown : ∀ r, r ∈ t.sessions ∧ condition r = true ↔ Shown r) :
    ∃ entries, entries.map Prod.fst = Tables.newestSessions (t.sessions.filter condition) ∧
      ReferenceList Shown SessionRow.session (Newest fun e => (e.2.createdAt, e.1.row))
        entries := by
  refine exists_newestFirst (coherent.numbered.sessions.nodup.sublist (List.filter_sublist.map _))
    (fun r => List.mem_filter.trans (shown r)) fun r hr => ?_
  obtain ⟨s, hread, -, hcreated⟩ := (legible.sessions r (List.mem_filter.1 hr).1).exists_session
  exact ⟨s, hread, hcreated⟩

omit coherent legible in
theorem ownSession_iff {r : SessionRow} :
    r ∈ t.sessions ∧ (r.isLive && r.owner == user.number) = true ↔ t.OwnSession user r := by
  rw [Bool.and_eq_true, beq_iff_eq]
  exact ⟨fun ⟨hmem, hlive, howner⟩ => ⟨hmem, hlive, howner⟩, fun h => ⟨h.mem, h.live, h.owner⟩⟩

theorem listed_sessions : Listed (Sessions.list settings user) settings.paging .sessions t
    (t.OwnSession user) SessionRow.session (Newest fun e => (e.2.createdAt, e.1.row)) := by
  refine listed_of_page (exists_newestSessions coherent legible fun r => ownSession_iff)
    fun p size found hfound => ?_
  exact on_handOn (Prod.ext hfound rfl)

theorem listed_searchedSessions {text keyword : String}
    (hkeyword : Validation.keyword text = .ok keyword) :
    Listed (Sessions.search settings user text) settings.paging .sessions t
      (fun r => t.OwnSession user r ∧ Text.matchesKeyword keyword r.topic = true)
      SessionRow.session (Newest fun e => (e.2.createdAt, e.1.row)) := by
  have sorted : ∃ entries, entries.map Prod.fst = Tables.newestSessions
        ((t.sessionsOf user).filter fun s => Text.matchesKeyword keyword s.topic) ∧
      ReferenceList (fun r => t.OwnSession user r ∧ Text.matchesKeyword keyword r.topic = true)
        SessionRow.session (Newest fun e => (e.2.createdAt, e.1.row)) entries := by
    unfold Tables.sessionsOf
    rw [List.filter_filter]
    refine exists_newestSessions coherent legible fun r => ?_
    rw [Bool.and_eq_true, and_comm (b := (r.isLive && r.owner == user.number) = true), ← and_assoc,
      ownSession_iff]
  refine listed_of_page sorted fun p size found hfound => ?_
  unfold Sessions.search
  rw [hkeyword, on_bind_ok (on_check _ t)]
  exact on_handOn (Prod.ext hfound rfl)

/-- The owner of a live session is let through. -/
theorem on_ownedSession {id : Uuid} {r : SessionRow} (hown : t.OwnSession user r)
    (hid : r.id = id.text) : ∃ s, (Sessions.owned user id).on t = (.ok s, t) :=
  (looksUp_session coherent.keyed legible).passes ⟨r, hown.mem, hown.live, hid, hown.owner⟩

/-! ## Messages -/

omit legible in
theorem nodup_messages (condition : MessageRow → Bool) :
    ((t.messages.filter condition).map (·.row)).Nodup :=
  coherent.numbered.messages.nodup.sublist (List.filter_sublist.map _)

omit coherent in
theorem exists_message {condition : MessageRow → Bool} :
    ∀ r ∈ t.messages.filter condition, ∃ m : Message, r.message = .ok m ∧
      Holds r.createdAt m.createdAt := fun r hr =>
  (legible.messages r (List.mem_filter.1 hr).1).exists_message

/-- Messages from the latest to the earliest, with their records. -/
theorem exists_newestMessages {condition : MessageRow → Bool} {Shown : MessageRow → Prop}
    (shown : ∀ r, r ∈ t.messages ∧ condition r = true ↔ Shown r) :
    ∃ entries, entries.map Prod.fst = Tables.newestMessages (t.messages.filter condition) ∧
      ReferenceList Shown MessageRow.message (Newest fun e => (e.2.createdAt, e.1.row)) entries :=
  exists_newestFirst (nodup_messages coherent _) (fun r => List.mem_filter.trans (shown r))
    (exists_message legible)

omit coherent legible in
theorem messageIn_iff {condition : SessionRow → Bool} {Meets : SessionRow → Prop}
    (meets : ∀ s, Meets s ↔ s ∈ t.sessions ∧ s.isLive = true ∧ condition s = true)
    {r : MessageRow} : r ∈ t.messages ∧ t.shows condition r = true ↔ t.MessageIn Meets r := by
  rw [Tables.shows_eq_true]
  constructor
  · rintro ⟨hmem, hlive, s, hs, hid, hslive, hcondition⟩
    exact ⟨hmem, hlive, s, (meets s).2 ⟨hs, hslive, hcondition⟩, hid⟩
  · rintro ⟨hmem, hlive, s, hmeets, hid⟩
    obtain ⟨hs, hslive, hcondition⟩ := (meets s).1 hmeets
    exact ⟨hmem, hlive, s, hs, hid, hslive, hcondition⟩

omit coherent legible in
theorem ownMessage_iff {r : MessageRow} :
    r ∈ t.messages ∧ t.shows (fun s => s.owner == user.number) r = true ↔ t.OwnMessage user r := by
  refine messageIn_iff fun s => ?_
  rw [← ownSession_iff, Bool.and_eq_true]

theorem listed_sessionMessages {id : Uuid} {s : SessionRow} (hown : t.OwnSession user s)
    (hid : s.id = id.text) :
    Listed (Messages.list settings user id) settings.paging .messages t
      (t.MessageIn (· = s)) MessageRow.message (Oldest fun e => (e.2.createdAt, e.1.row)) := by
  obtain ⟨session, howned⟩ := on_ownedSession coherent legible hown hid
  have meets (s' : SessionRow) : s' = s ↔
      s' ∈ t.sessions ∧ s'.isLive = true ∧ s'.has id = true := by
    unfold SessionRow.has
    rw [beq_iff_eq]
    constructor
    · rintro rfl
      exact ⟨hown.mem, hown.live, hid⟩
    · rintro ⟨hs', -, hid'⟩
      exact coherent.keyed.session_eq hs' hown.mem (hid'.trans hid.symm)
  refine listed_of_page (exists_oldestFirst (nodup_messages coherent _)
    (fun r => List.mem_filter.trans (messageIn_iff meets)) (exists_message legible))
    fun p size found hfound => ?_
  exact (on_bind_ok howned).trans (on_handOn (Prod.ext hfound rfl))

theorem listed_messages : Listed (Messages.listAll settings user) settings.paging .messages t
    (t.OwnMessage user) MessageRow.message (Newest fun e => (e.2.createdAt, e.1.row)) := by
  refine listed_of_page (exists_newestMessages coherent legible fun r => ownMessage_iff)
    fun p size found hfound => ?_
  exact on_handOn (Prod.ext hfound rfl)

/-- Messages of a user that meet a further condition. -/
theorem exists_ownMessages {condition : MessageRow → Bool} {Meets : MessageRow → Prop}
    (meets : ∀ r, condition r = true ↔ Meets r) :
    ∃ entries, entries.map Prod.fst =
        Tables.newestMessages ((t.messagesOf user).filter condition) ∧
      ReferenceList (fun r => t.OwnMessage user r ∧ Meets r) MessageRow.message
        (Newest fun e => (e.2.createdAt, e.1.row)) entries := by
  unfold Tables.messagesOf Tables.messagesWhere
  rw [List.filter_filter]
  refine exists_newestMessages coherent legible fun r => ?_
  rw [Bool.and_eq_true, and_comm (a := condition r = true), ← and_assoc, ownMessage_iff, meets r]

theorem listed_searchedMessages {text keyword : String}
    (hkeyword : Validation.keyword text = .ok keyword) :
    Listed (Messages.search settings user text) settings.paging .messages t
      (fun r => t.OwnMessage user r ∧ Text.matchesKeyword keyword r.content = true)
      MessageRow.message (Newest fun e => (e.2.createdAt, e.1.row)) := by
  refine listed_of_page (exists_ownMessages coherent legible fun r => Iff.rfl)
    fun p size found hfound => ?_
  unfold Messages.search
  rw [hkeyword, on_bind_ok (on_check _ t)]
  exact on_handOn (Prod.ext hfound rfl)

theorem listed_errorMessages : Listed (Messages.errors settings user) settings.paging .messages t
    (fun r => t.OwnMessage user r ∧ r.status = Vocabulary.word MessageStatus.error)
    MessageRow.message (Newest fun e => (e.2.createdAt, e.1.row)) := by
  refine listed_of_page (exists_ownMessages coherent legible fun r => beq_iff_eq)
    fun p size found hfound => ?_
  exact on_handOn (Prod.ext hfound rfl)

end Chat

section Lists

variable {t : Tables} {user : UserId} {settings : Settings} (coherent : t.Coherent)
  (legible : t.Legible)

include coherent legible

/-! ## Memberships and articles -/

/-- Memberships from the one changed last to the one changed first, with their views. -/
theorem exists_newestMemberships : ∃ entries, entries.map Prod.fst = t.membershipsOf user ∧
    ReferenceList (t.OwnMembership user) t.view
      (Newest fun e => (e.2.link.updatedAt, e.1.1.row)) entries := by
  have shown (pair : LinkRow × SubscriptionRow) :
      pair ∈ t.membershipsOf user ↔ t.OwnMembership user pair := by
    rw [coherent.mem_membershipsOf]
    exact ⟨fun ⟨hl, huser, hactive, hs, hid, hopen⟩ => ⟨hl, huser, hactive, hs, hid, hopen⟩,
      fun h => ⟨h.link, h.user, h.active, h.subscription, h.leads, h.opened⟩⟩
  have reads : ∀ pair ∈ (t.links.filter (·.user == user.number)).filterMap fun l =>
        (t.effective? l).map fun s => (l, s),
      ∃ v, t.view pair = .ok v ∧ Holds pair.1.updatedAt v.link.updatedAt := fun pair hpair => by
    have hown := (shown pair).1 (List.mem_mergeSort.2 hpair)
    obtain ⟨v, hread, -, -, hupdated⟩ := legible.exists_view hown.link hown.subscription
    exact ⟨v, hread, hupdated⟩
  exact exists_newestFirst (coherent.nodup_memberships _)
    (fun pair => List.mem_mergeSort.symm.trans (shown pair)) reads

theorem listed_memberships :
    Listed (Memberships.list settings user) settings.paging .subscriptions t
      (t.OwnMembership user) t.view (Newest fun e => (e.2.link.updatedAt, e.1.1.row)) := by
  refine listed_of_page (exists_newestMemberships coherent legible)
    fun p size found hfound => ?_
  exact on_handOn (Prod.ext hfound rfl)

/-- Articles from the latest date to the earliest and then those without one, with their records. -/
theorem exists_latestArticles {condition : Int → Bool} {Meets : Int → Prop}
    (meets : ∀ id, condition id = true ↔ Meets id) :
    ∃ entries, entries.map Prod.fst = t.articlesWhere condition ∧
      ReferenceList (t.ArticleOf Meets) ArticleRow.article
        (Latest fun e => (e.2.publishedAt, e.2.createdAt, e.1.row)) entries := by
  refine exists_latestFirst (coherent.numbered.articles.nodup.sublist (List.filter_sublist.map _))
    (fun r => ?_) fun r hr => ?_
  · rw [List.mem_filter, Bool.and_eq_true, meets]
    exact ⟨fun ⟨hmem, hlive, h⟩ => ⟨hmem, hlive, h⟩, fun h => ⟨h.mem, h.live, h.subscription⟩⟩
  · obtain ⟨a, hread, -, -, hpublished, hcreated⟩ :=
      (legible.articles r (List.mem_filter.1 hr).1).exists_article
    exact ⟨a, hread, hpublished, hcreated⟩

theorem listed_articles {id : Int} (heffective : t.Effective user id) :
    Listed (Articles.list settings user id) settings.paging .articles t
      (t.ArticleOf (· = id)) ArticleRow.article
      (Latest fun e => (e.2.publishedAt, e.2.createdAt, e.1.row)) := by
  refine listed_of_page (exists_latestArticles coherent legible fun id => beq_iff_eq)
    fun p size found hfound => ?_
  rw [on_listArticles coherent legible heffective]
  exact on_handOn (Prod.ext hfound rfl)

theorem listed_allArticles : Listed (Articles.listAll settings user) settings.paging .articles t
    (t.ArticleOf (t.Effective user)) ArticleRow.article
    (Latest fun e => (e.2.publishedAt, e.2.createdAt, e.1.row)) := by
  refine listed_of_page
    (exists_latestArticles coherent legible fun id => coherent.any_membershipsOf)
    fun p size found hfound => ?_
  exact on_handOn (Prod.ext hfound rfl)

/-- Every listing of a user is made of slices of its reference list. -/
theorem Store.Tables.Legible.lists : t.Lists settings user where
  sessions := listed_sessions coherent legible.chat
  searchedSessions _ _ hkeyword := listed_searchedSessions coherent legible.chat hkeyword
  sessionMessages _ _ hown hid := listed_sessionMessages coherent legible.chat hown hid
  messages := listed_messages coherent legible.chat
  searchedMessages _ _ hkeyword := listed_searchedMessages coherent legible.chat hkeyword
  errorMessages := listed_errorMessages coherent legible.chat
  memberships := listed_memberships coherent legible
  articles _ heffective := listed_articles coherent legible heffective
  allArticles := listed_allArticles coherent legible

end Lists

/-- **Listings are slices of reference lists.** Timely calls of the services run at the same time on
an empty store, and any of their store calls may fail. At every moment, and for every user and every
configuration, each listing has one reference list, and whatever page is asked for is a slice of
it. -/
theorem listings_are_slices {ι : Type} [DecidableEq ι] (settings : ι → Settings)
    {calls : ι → ServiceCall} (timely : ∀ i, (calls i).Timely) (schedule : List (Turn ι))
    (reader : Settings) (user : UserId) :
    ((World.mk {} (fun i => (calls i).program (settings i)) []).run schedule).tables.Lists
      reader user :=
  (World.legible_run timely schedule).lists (World.coherent_run settings calls schedule)

/-- A user opens two sessions in the same second, subscribes to a topic, and receives an article
without a date after one with a date. -/
def sampleLedger : Fin 5 → ServiceCall
  | 0 => .chat (.createSession ⟨1⟩ ⟨"plans", none, none⟩ .start2026 (.ofNat 1))
  | 1 => .chat (.createSession ⟨1⟩ ⟨"notes", none, none⟩ .start2026 (.ofNat 2))
  | 2 => .membership (.subscribe ⟨1⟩ "ml" "" .start2026)
  | 3 => .createArticle 1 { title := "dated", publishedAt := some .start2026 } .start2026
  | 4 => .createArticle 1 { title := "undated" } .start2026

/-- The listings of the user who has both sessions, and is a member. -/
theorem listings_are_slices_of_sample :
    let t := ((World.mk {} (fun i => (sampleLedger i).program {}) []).run
      ([0, 1, 2, 2, 3, 3, 4, 4].map Turn.calm)).tables
    (∀ i, (sampleLedger i).Timely) ∧ t.Lists {} ⟨1⟩ ∧ t.Effective ⟨1⟩ 1 ∧
      t.sessions.map (·.topic) = ["plans", "notes"] ∧
      t.articles.map (·.title) = ["dated", "undated"] := by
  intro t
  have timely (i : Fin 5) : (sampleLedger i).Timely := by
    revert i
    decide +kernel
  refine ⟨timely, listings_are_slices (fun _ => {}) timely _ {} ⟨1⟩, ?_⟩
  decide +kernel

/-- A session of year 10000 is listed on no page: its row can no longer be read. -/
theorem not_listings_are_slices_in_year10000 :
    ¬ ∀ (settings : Settings) (c : ServiceCall) (schedule : List (Turn Unit)) (reader : Settings)
      (user : UserId),
      ((World.mk {} (fun _ => c.program settings) []).run schedule).tables.Lists reader user := by
  intro h
  have lists := h {} (.chat (.createSession ⟨1⟩ ⟨"plans", none, none⟩ .year10000 (.ofNat 1)))
    [.calm ()] {} ⟨1⟩
  generalize ht : World.tables _ = t at lists
  let request := ({} : Settings).paging.resolve .sessions none none
  have hrows : t.sessionsOf ⟨1⟩ = t.sessions ∧ t.sessions.length = 1 ∧
      page t.sessions request SessionRow.session =
        .error (.query "invalid datetime: input contains invalid characters") := by
    rw [← ht]
    decide +kernel
  obtain ⟨hown, hone, hunread⟩ := hrows
  obtain ⟨r, hr⟩ := List.length_eq_one_iff.1 hone
  have hsorted : Tables.newestSessions (t.sessionsOf ⟨1⟩) = t.sessions := by
    rw [hown, hr]
    exact List.mergeSort_singleton r
  have hask : (Request.listSessions ⟨1⟩ request).perform t = (.error _, t) :=
    Prod.ext ((congrArg (page · request SessionRow.session) hsorted).trans hunread) rfl
  have hfail : (Sessions.list {} ⟨1⟩ none none).on t = _ := on_bind_error (on_ask hask)
  obtain ⟨records, -, -, slices⟩ := lists.sessions
  rw [slices.answer none none] at hfail
  cases hfail

end ChatLedger
