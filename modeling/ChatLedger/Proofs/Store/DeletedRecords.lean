import ChatLedger.Proofs.Chat.Deletion
import ChatLedger.Proofs.Chat.Views
import ChatLedger.Proofs.Store.Finality

/-!
# Deleted records are not seen

A deleted record keeps its row, but no read can tell the tables from those without it.

1. `Tables.without` takes a record out, with what belongs to it: the messages of a session, the
   links and articles of a subscription.
2. `Tables.Gone.later`: a deleted record stays so.
3. `Request.perform_without`: without a deleted record every read answers the same, unless it names
   a subscription by its number (`Request.Names`).
-/

namespace ChatLedger.Store

open Time

/-! ## Rows that are left out -/

section Dropped

variable {α β : Type} {rows : List α} {keep p : α → Bool}

theorem filter_dropped (h : ∀ a ∈ rows, p a = true → keep a = true) :
    (rows.filter keep).filter p = rows.filter p := by
  rw [List.filter_filter]
  exact List.filter_congr fun a ha => Bool.and_eq_left_iff_imp.2 (h a ha)

theorem find?_dropped (h : ∀ a ∈ rows, p a = true → keep a = true) :
    (rows.filter keep).find? p = rows.find? p := by
  rw [List.find?_filter]
  refine List.find?_congr fun a ha => ?_
  cases hp : p a with
  | false => simp
  | true => simp [h a ha hp]

theorem any_dropped (h : ∀ a ∈ rows, p a = true → keep a = true) :
    (rows.filter keep).any p = rows.any p := by
  rw [List.any_filter]
  refine Bool.eq_iff_iff.2 ?_
  simp only [List.any_eq_true, Bool.and_eq_true]
  exact exists_congr fun a => and_congr_right fun ha =>
    ⟨fun hmet => hmet.2, fun hp => ⟨h a ha hp, hp⟩⟩

theorem countWhere_dropped (h : ∀ a ∈ rows, p a = true → keep a = true) :
    Tables.countWhere p (rows.filter keep) = Tables.countWhere p rows := by
  unfold Tables.countWhere
  rw [List.countP_eq_length_filter, List.countP_eq_length_filter, filter_dropped h]

theorem filterMap_dropped {f : α → Option β} (h : ∀ a ∈ rows, keep a = false → f a = none) :
    ((rows.filter keep).filter p).filterMap f = (rows.filter p).filterMap f := by
  rw [List.filter_filter, List.filterMap_filter, List.filterMap_filter]
  refine List.filterMap_congr fun a ha => ?_
  cases hkeep : keep a with
  | true => simp
  | false => simp [h a ha hkeep]

end Dropped

/-- A page is read off the rows of the reference list alone. -/
theorem page_congr {Row α : Type} {rows : List Row} {read read' : Row → Except StoreError α}
    (h : ∀ r ∈ rows, read r = read' r) (request : PageRequest) :
    page rows request read = page rows request read' := by
  have hslice : ∀ r ∈ request.slice rows, read r = read' r := fun r hr =>
    h r (List.mem_of_mem_drop (List.mem_of_mem_take hr))
  have hread : (request.slice rows).mapM read = (request.slice rows).mapM read' := by
    generalize request.slice rows = l at hslice
    induction l with
    | nil => rfl
    | cons r l ih =>
      obtain ⟨hr, hl⟩ := List.forall_mem_cons.1 hslice
      rw [List.mapM_cons, List.mapM_cons, hr, ih hl]
  unfold page
  rw [hread]

/-! ## Records -/

/-- A record that can be deleted. -/
inductive Record where
  | session (id : String)
  | message (id : String)
  | subscription (row : Nat)
  | article (row : Nat)

namespace Tables

/-- The record is there, and deleted. -/
def Gone (t : Tables) : Record → Prop
  | .session id =>
    ∃ s ∈ t.sessions, s.id = id ∧ s.status = Vocabulary.word SessionStatus.deleted
  | .message id => ∃ m ∈ t.messages, m.id = id ∧ m.state = Vocabulary.word RecordState.deleted
  | .subscription row =>
    ∃ s ∈ t.subscriptions, s.row = row ∧ s.status = Vocabulary.word SubscriptionStatus.cancelled
  | .article row => ∃ a ∈ t.articles, a.row = row ∧ a.state = Vocabulary.word RecordState.deleted

/-- The tables without a record and what belongs to it. -/
def without (t : Tables) : Record → Tables
  | .session id =>
    { t with
      sessions := t.sessions.filter (·.id != id)
      messages := t.messages.filter (·.session != id) }
  | .message id => { t with messages := t.messages.filter (·.id != id) }
  | .subscription row =>
    { t with
      subscriptions := t.subscriptions.filter (·.row != row)
      links := t.links.filter (·.subscription != row)
      articles := t.articles.filter (·.subscription != row) }
  | .article row => { t with articles := t.articles.filter (·.row != row) }

variable {t t' : Tables}

/-- A deleted record stays so. -/
theorem Gone.later {record : Record} (h : t.Gone record) (stays : t.Stays t') :
    t'.Gone record := by
  cases record with
  | session id =>
    obtain ⟨s, hs, hid, hstatus⟩ := h
    exact ⟨s, stays.sessions.mem hs (by rw [SessionRow.isLive, hstatus]; rfl), hid, hstatus⟩
  | message id =>
    obtain ⟨m, hm, hid, hstate⟩ := h
    exact ⟨m, stays.messages.mem hm (by rw [MessageRow.isLive, hstate]; rfl), hid, hstate⟩
  | subscription row =>
    obtain ⟨s, hs, hrow, hstatus⟩ := h
    refine ⟨s, stays.subscriptions.mem hs ?_, hrow, hstatus⟩
    rw [SubscriptionRow.isActive, hstatus]
    rfl
  | article row =>
    obtain ⟨a, ha, hrow, hstate⟩ := h
    exact ⟨a, stays.articles.mem ha (by rw [ArticleRow.isLive, hstate]; rfl), hrow, hstate⟩

/-! ## Reads of sessions and messages -/

/-- Everybody sees the same where the same rows are seen. -/
theorem Numbered.alike_of_eq (numbered : t.Numbered) {v : Int → Bool}
    (sessions : t'.visibleSessions v = t.visibleSessions v)
    (messages : t'.visibleMessages v = t.visibleMessages v) : Alike v t' t where
  sessions := by
    rw [sessions]
    exact .refl (numbered.sessions.pairwise.filter _)
  messages := by
    rw [messages]
    exact .refl (numbered.messages.pairwise.filter _)

theorem Gone.closed {id : String} (gone : t.Gone (.session id)) : t.Closed id := by
  obtain ⟨s, hs, hid, hstatus⟩ := gone
  exact ⟨s, hs, hid, by rw [SessionRow.isLive, hstatus]; rfl⟩

/-- A deleted session and its messages are not seen. -/
theorem Gone.alike_session {id : String} (gone : t.Gone (.session id)) (numbered : t.Numbered)
    (keyed : t.Keyed) : Alike (fun _ => true) (t.without (.session id)) t := by
  have other {s : SessionRow} (hs : s ∈ t.sessions) (hlive : s.isLive = true) :
      (s.id != id) = true := by
    rw [bne_iff_ne]
    exact fun hid => keyed.not_closed hs hlive (hid ▸ gone.closed)
  have shows (m : MessageRow) : (t.without (.session id)).shows (fun _ => true) m =
      t.shows (fun _ => true) m := by
    refine congrArg _ (any_dropped fun s hs hshown => other hs ?_)
    simp only [Bool.and_eq_true] at hshown
    exact hshown.1.2
  refine numbered.alike_of_eq (filter_dropped fun s hs hseen => ?_) ?_
  · exact other hs (Bool.and_eq_true_iff.1 hseen).1
  · unfold visibleMessages messagesWhere
    rw [funext shows]
    refine filter_dropped fun m hm hshown => ?_
    rw [bne_iff_ne]
    intro hsession
    rw [keyed.shows_eq_false (hsession ▸ gone.closed)] at hshown
    cases hshown

/-- A deleted message is not seen. -/
theorem Gone.alike_message {id : String} (gone : t.Gone (.message id)) (numbered : t.Numbered)
    (keyed : t.Keyed) : Alike (fun _ => true) (t.without (.message id)) t := by
  refine numbered.alike_of_eq rfl (filter_dropped fun m hm hshown => ?_)
  rw [bne_iff_ne]
  intro hid
  obtain ⟨dead, hdead, hid', hstate⟩ := gone
  have hlive := (shows_eq_true.1 hshown).1
  rw [keyed.message_eq hm hdead (hid.trans hid'.symm), MessageRow.isLive, hstate] at hlive
  exact absurd hlive (by decide)

/-- The roll-up of a deleted session is not computed. -/
theorem Gone.refreshRollup {id : Uuid} (gone : t.Gone (.session id.text)) (keyed : t.Keyed)
    (now : Instant) : (Request.refreshRollup id now).perform t = (.ok none, t) := by
  have hmissing : t.session? id = none := by
    refine List.find?_eq_none.2 fun s hs hmet => ?_
    obtain ⟨hid, hlive⟩ := Bool.and_eq_true_iff.1 hmet
    exact keyed.not_closed hs hlive (beq_iff_eq.1 hid ▸ gone.closed)
  refine Request.settle_eq_ok.2 ?_
  rw [Tables.refreshRollup, hmissing]
  rfl

/-! ## Reads of subscriptions and articles -/

section Article

variable {row : Nat}

theorem Gone.article_ne (gone : t.Gone (.article row)) (numbered : t.Numbered) {a : ArticleRow}
    (ha : a ∈ t.articles) (hlive : a.isLive = true) : (a.row != row) = true := by
  rw [bne_iff_ne]
  intro hrow
  obtain ⟨dead, hdead, hrow', hstate⟩ := gone
  rw [numbered.articles.eq_of_fst_eq ha hdead (hrow.trans hrow'.symm), ArticleRow.isLive,
    hstate] at hlive
  exact absurd hlive (by decide)

theorem Gone.view_article (gone : t.Gone (.article row)) (numbered : t.Numbered) :
    (t.without (.article row)).view = t.view := by
  funext pair
  unfold view
  rw [show countWhere _ (t.without (.article row)).articles = _ from
    countWhere_dropped fun a ha hcounted =>
      gone.article_ne numbered ha (Bool.and_eq_true_iff.1 hcounted).1]

theorem Gone.articlesWhere_article (gone : t.Gone (.article row)) (numbered : t.Numbered)
    (condition : Int → Bool) :
    (t.without (.article row)).articlesWhere condition = t.articlesWhere condition :=
  congrArg _ (filter_dropped fun _ ha hshown =>
    gone.article_ne numbered ha (Bool.and_eq_true_iff.1 hshown).1)

end Article

section Subscription

variable {row : Nat}

theorem Gone.subscription_ne (gone : t.Gone (.subscription row)) (numbered : t.Numbered)
    {s : SubscriptionRow} (hs : s ∈ t.subscriptions) (hactive : s.isActive = true) :
    (s.row != row) = true := by
  rw [bne_iff_ne]
  intro hrow
  obtain ⟨dead, hdead, hrow', hstatus⟩ := gone
  rw [numbered.subscriptions.eq_of_fst_eq hs hdead (hrow.trans hrow'.symm),
    SubscriptionRow.isActive, hstatus] at hactive
  exact absurd hactive (by decide)

/-- No link to a deleted subscription is effective. -/
theorem Gone.effective?_none (gone : t.Gone (.subscription row)) (numbered : t.Numbered)
    {l : LinkRow} (hl : l.subscription = row) : t.effective? l = none := by
  unfold effective?
  split
  · refine List.find?_eq_none.2 fun s hs hmet => ?_
    obtain ⟨hid, hactive⟩ := Bool.and_eq_true_iff.1 hmet
    have hrow : (s.row : Int) = row := (beq_iff_eq.1 hid).trans hl
    exact bne_iff_ne.1 (gone.subscription_ne numbered hs hactive) (by omega)
  · rfl

theorem Gone.effective?_eq (gone : t.Gone (.subscription row)) (numbered : t.Numbered)
    (l : LinkRow) : (t.without (.subscription row)).effective? l = t.effective? l := by
  unfold effective?
  split
  · exact find?_dropped fun s hs hmet =>
      gone.subscription_ne numbered hs (Bool.and_eq_true_iff.1 hmet).2
  · rfl

theorem Gone.membershipsOf_eq (gone : t.Gone (.subscription row)) (numbered : t.Numbered)
    (user : UserId) :
    (t.without (.subscription row)).membershipsOf user = t.membershipsOf user := by
  unfold membershipsOf
  rw [funext (gone.effective?_eq numbered)]
  refine congrArg _ (filterMap_dropped fun l hl hdropped => ?_)
  have hrow : l.subscription = row := by simpa using hdropped
  rw [gone.effective?_none numbered hrow]
  rfl

/-- A membership is one of another subscription. -/
theorem Gone.membership_ne (gone : t.Gone (.subscription row)) (numbered : t.Numbered)
    {user : UserId} {pair : LinkRow × SubscriptionRow} (h : pair ∈ t.membershipsOf user) :
    pair.1.subscription ≠ row := by
  intro hrow
  obtain ⟨l, -, hpair⟩ := List.mem_filterMap.1 (List.mem_mergeSort.1 h)
  obtain ⟨s, heffective, rfl⟩ := Option.map_eq_some_iff.1 hpair
  rw [gone.effective?_none numbered hrow] at heffective
  cases heffective

/-- The articles of other subscriptions are the same. -/
theorem articlesWhere_subscription (condition : Int → Bool) (hc : condition row = false) :
    (t.without (.subscription row)).articlesWhere condition = t.articlesWhere condition := by
  refine congrArg _ (filter_dropped fun a ha hshown => ?_)
  rw [bne_iff_ne]
  intro hrow
  rw [hrow, hc, Bool.and_false] at hshown
  cases hshown

theorem Gone.listSubscriptions (gone : t.Gone (.subscription row)) (numbered : t.Numbered)
    (user : UserId) (request : PageRequest) :
    page ((t.without (.subscription row)).membershipsOf user) request
        (t.without (.subscription row)).view =
      page (t.membershipsOf user) request t.view := by
  rw [gone.membershipsOf_eq numbered]
  refine page_congr (fun pair hpair => ?_) request
  unfold view
  rw [show countWhere _ (t.without (.subscription row)).articles = _ from
    countWhere_dropped fun a ha hcounted => by
      rw [bne_iff_ne, beq_iff_eq.1 (Bool.and_eq_true_iff.1 hcounted).2]
      exact gone.membership_ne numbered hpair]

theorem Gone.articlesFor (gone : t.Gone (.subscription row)) (numbered : t.Numbered)
    (user : UserId) :
    (t.without (.subscription row)).articlesFor user = t.articlesFor user := by
  unfold Tables.articlesFor
  rw [gone.membershipsOf_eq numbered]
  refine articlesWhere_subscription _ (List.any_eq_false.2 fun pair hpair => ?_)
  rw [beq_iff_eq]
  exact gone.membership_ne numbered hpair

end Subscription

end Tables

/-! ## All reads -/

/-- The call names the subscription by its number. -/
def Request.Names : Record → Request → Prop
  | .subscription row, .getSubscription id => id = row
  | .subscription row, .findLink _ id => id = row
  | .subscription row, .listArticles id _ => id = row
  | _, _ => False

theorem Request.confined_true (r : Request) (t : Tables) : r.Confined (fun _ => true) t := by
  cases r with
  | getMessage id => exact fun _ _ _ hshown => hshown
  | getSession id => exact fun _ _ _ _ => rfl
  | listSessionMessages id request => exact fun _ _ _ _ => rfl
  | sessionMessageStats id => exact fun _ _ _ _ => rfl
  | _ => first | exact trivial | rfl

open Tables in
/-- **Deleted records are not seen.** Every read answers as it does on the tables without the
record, unless it names the deleted subscription. -/
theorem Request.perform_without {t : Tables} (numbered : t.Numbered) (keyed : t.Keyed)
    {record : Record} (gone : t.Gone record) {r : Request} (reads : r.access = .reader)
    (names : ¬ r.Names record) : (r.perform (t.without record)).1 = (r.perform t).1 := by
  cases record with
  | session id =>
    by_cases hchat : r.ReadsChat
    · exact perform_alike (gone.alike_session numbered keyed) hchat (r.confined_true _)
        (r.confined_true _)
    · cases r <;> first | rfl | exact absurd trivial hchat | cases reads
  | message id =>
    by_cases hchat : r.ReadsChat
    · exact perform_alike (gone.alike_message numbered keyed) hchat (r.confined_true _)
        (r.confined_true _)
    · cases r <;> first | rfl | exact absurd trivial hchat | cases reads
  | subscription row =>
    cases r with
    | findActiveByTopic topic =>
      refine congrArg (Option.mapM SubscriptionRow.subscription) (find?_dropped fun s hs hmet => ?_)
      exact gone.subscription_ne numbered hs (Bool.and_eq_true_iff.1 hmet).2
    | getSubscription id =>
      refine congrArg (Option.mapM SubscriptionRow.subscription) (find?_dropped fun s _ hmet => ?_)
      rw [bne_iff_ne]
      intro hrow
      exact names ((beq_iff_eq.1 hmet).symm.trans (congrArg _ hrow))
    | findLink user id =>
      refine congrArg (Option.mapM LinkRow.link) (find?_dropped fun l _ hmet => ?_)
      rw [bne_iff_ne]
      intro hrow
      exact names ((beq_iff_eq.1 (Bool.and_eq_true_iff.1 hmet).2).symm.trans hrow)
    | listArticles id request =>
      have hother : ((row : Int) == id) = false := beq_eq_false_iff_ne.2 fun h => names h.symm
      exact congrArg (page · request ArticleRow.article)
        (articlesWhere_subscription (· == id) hother)
    | listSubscriptions user request => exact gone.listSubscriptions numbered user request
    | listUserArticles user request =>
      exact congrArg (page · request ArticleRow.article) (gone.articlesFor numbered user)
    | _ => first | rfl | cases reads
  | article row =>
    cases r with
    | listArticles id request =>
      exact congrArg (page · request ArticleRow.article) (gone.articlesWhere_article numbered _)
    | listSubscriptions user request =>
      exact congrArg (page (t.membershipsOf user) request) (gone.view_article numbered)
    | listUserArticles user request =>
      exact congrArg (page · request ArticleRow.article) (gone.articlesWhere_article numbered _)
    | _ => first | rfl | cases reads

end ChatLedger.Store
