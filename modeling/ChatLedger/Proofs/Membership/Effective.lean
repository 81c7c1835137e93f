import ChatLedger.Proofs.Membership.Roster
import ChatLedger.Proofs.Service.Coherence
import ChatLedger.Proofs.Store.Alone
import ChatLedger.Proofs.Store.Legible

/-!
# Effective membership

Who counts as a member of a subscription, and who may read its articles.

1. `Tables.Effective`: the user has an active link to the subscription, which is active itself.
2. `Tables.Coherent.mem_membershipsOf`: the pairs of link and subscription that are listed for a
   user are those behind the effective memberships. `Tables.Coherent.any_membershipsOf` says the
   same of the subscriptions whose articles are listed together.
3. `on_listArticles`, `on_listArticles_unknown` and `on_listArticles_denied`: a page of the articles
   of a subscription is for its effective members. Without an active subscription nothing is found,
   and everyone else is refused.
-/

namespace ChatLedger.Store

/-- There is an active subscription of this number. -/
def Tables.HasActive (t : Tables) (id : Int) : Prop :=
  ∃ s ∈ t.subscriptions, (s.row : Int) = id ∧ s.isActive = true

/-- The user has an active link to the subscription, which is active itself. -/
def Tables.Effective (t : Tables) (user : UserId) (id : Int) : Prop :=
  t.HasActive id ∧
    ∃ l ∈ t.links, l.user = user.number ∧ l.subscription = id ∧ l.isActive = true

instance (t : Tables) (id : Int) : Decidable (t.HasActive id) :=
  inferInstanceAs (Decidable (∃ s ∈ t.subscriptions, (s.row : Int) = id ∧ s.isActive = true))

instance (t : Tables) (user : UserId) (id : Int) : Decidable (t.Effective user id) :=
  inferInstanceAs (Decidable (t.HasActive id ∧
    ∃ l ∈ t.links, l.user = user.number ∧ l.subscription = id ∧ l.isActive = true))

/-! ## What is listed -/

section Lists

variable {t : Tables} {user : UserId} {id : Int}

theorem SubscriptionRow.has_iff {s : SubscriptionRow} : s.has id = true ↔ (s.row : Int) = id :=
  beq_iff_eq

theorem LinkRow.joins_iff {l : LinkRow} :
    l.joins user id = true ↔ l.user = user.number ∧ l.subscription = id := by
  unfold joins
  rw [Bool.and_eq_true, beq_iff_eq, beq_iff_eq]

/-- A number finds its subscription, and no other one. -/
theorem Tables.Coherent.find_subscription (h : t.Coherent) {s : SubscriptionRow}
    (hs : s ∈ t.subscriptions) {condition : SubscriptionRow → Bool}
    (hit : condition s = true) (numbered : ∀ r, condition r = true → (r.row : Int) = s.row) :
    t.subscriptions.find? condition = some s := by
  refine find?_eq_of_unique hs hit fun r hr hmet => ?_
  exact h.numbered.subscriptions.eq_of_fst_eq hr hs (Int.ofNat_inj.1 (numbered r hmet))

/-- A user and a subscription find the one link between them. -/
theorem Tables.Coherent.find_link (h : t.Coherent) {l : LinkRow} (hl : l ∈ t.links)
    (huser : l.user = user.number) (hid : l.subscription = id) :
    t.links.find? (·.joins user id) = some l := by
  refine find?_eq_of_unique hl (LinkRow.joins_iff.2 ⟨huser, hid⟩) fun r hr hmet => ?_
  obtain ⟨huser', hid'⟩ := LinkRow.joins_iff.1 hmet
  exact List.inj_on_of_nodup_map h.links_unique hr hl
    (Prod.ext (huser'.trans huser.symm) (hid'.trans hid.symm))

/-- An active link leads to its subscription where this is active, and else nowhere. -/
theorem Tables.Coherent.effective?_eq_some (h : t.Coherent) {l : LinkRow} {s : SubscriptionRow} :
    t.effective? l = some s ↔
      l.isActive = true ∧ s ∈ t.subscriptions ∧ (s.row : Int) = l.subscription ∧
        s.isActive = true := by
  unfold Tables.effective?
  constructor
  · intro hfound
    split at hfound
    · rename_i hactive
      have hmet := List.find?_some hfound
      rw [Bool.and_eq_true, SubscriptionRow.has_iff] at hmet
      exact ⟨hactive, List.mem_of_find?_eq_some hfound, hmet⟩
    · cases hfound
  · rintro ⟨hactive, hs, hid, hopen⟩
    rw [if_pos hactive]
    refine h.find_subscription hs ?_ fun r hmet => ?_
    · rw [Bool.and_eq_true, SubscriptionRow.has_iff]
      exact ⟨hid, hopen⟩
    · rw [Bool.and_eq_true, SubscriptionRow.has_iff] at hmet
      exact hmet.1.trans hid.symm

/-- **What is listed as a membership** is an active link of the user with its subscription, which
is active too. -/
theorem Tables.Coherent.mem_membershipsOf (h : t.Coherent) {pair : LinkRow × SubscriptionRow} :
    pair ∈ t.membershipsOf user ↔
      pair.1 ∈ t.links ∧ pair.1.user = user.number ∧ pair.1.isActive = true ∧
        pair.2 ∈ t.subscriptions ∧ (pair.2.row : Int) = pair.1.subscription ∧
        pair.2.isActive = true := by
  obtain ⟨l, s⟩ := pair
  unfold membershipsOf newestFirst
  rw [List.mem_mergeSort, List.mem_filterMap]
  constructor
  · rintro ⟨l', hl', hpair⟩
    obtain ⟨hmem, huser⟩ := List.mem_filter.1 hl'
    obtain ⟨s', hs', heq⟩ := Option.map_eq_some_iff.1 hpair
    cases heq
    exact ⟨hmem, beq_iff_eq.1 huser, h.effective?_eq_some.1 hs'⟩
  · rintro ⟨hl, huser, hrest⟩
    refine ⟨l, List.mem_filter.2 ⟨hl, beq_iff_eq.2 huser⟩, ?_⟩
    rw [h.effective?_eq_some.2 hrest]
    rfl

/-- The subscriptions of the memberships that are listed are the effective ones. -/
theorem Tables.Coherent.effective_iff (h : t.Coherent) :
    t.Effective user id ↔ ∃ pair ∈ t.membershipsOf user, pair.1.subscription = id := by
  constructor
  · rintro ⟨⟨s, hs, hrow, hopen⟩, l, hl, huser, hid, hactive⟩
    refine ⟨(l, s), h.mem_membershipsOf.2 ⟨hl, huser, hactive, hs, ?_, hopen⟩, hid⟩
    rw [hrow, hid]
  · rintro ⟨⟨l, s⟩, hpair, hid⟩
    obtain ⟨hl, huser, hactive, hs, hrow, hopen⟩ := h.mem_membershipsOf.1 hpair
    exact ⟨⟨s, hs, hrow.trans hid, hopen⟩, l, hl, huser, hid, hactive⟩

theorem Tables.Coherent.any_membershipsOf (h : t.Coherent) :
    (t.membershipsOf user).any (fun pair => pair.1.subscription == id) = true ↔
      t.Effective user id := by
  rw [List.any_eq_true, h.effective_iff]
  simp only [beq_iff_eq]

/-- Links are listed once, each with the one subscription that it leads to. -/
theorem Tables.Coherent.nodup_memberships (h : t.Coherent) (links : LinkRow → Bool) :
    (((t.links.filter links).filterMap fun l => (t.effective? l).map fun s => (l, s)).map
      (·.1.row)).Nodup := by
  rw [List.Nodup, List.pairwise_map, List.pairwise_filterMap]
  refine (h.numbered.links.pairwise.filter _).imp ?_
  intro l l' hlt pair hpair pair' hpair'
  obtain ⟨s, -, rfl⟩ := Option.map_eq_some_iff.1 hpair
  obtain ⟨s', -, rfl⟩ := Option.map_eq_some_iff.1 hpair'
  exact Nat.ne_of_lt hlt

/-- No subscription is listed twice for a user. -/
theorem Tables.Coherent.nodup_subscriptions (h : t.Coherent) :
    ((t.membershipsOf user).map (·.1.subscription)).Nodup := by
  unfold membershipsOf newestFirst
  rw [((List.mergeSort_perm ..).map _).nodup_iff, List.Nodup, List.pairwise_map,
    List.pairwise_filterMap, List.pairwise_filter]
  refine (List.pairwise_map.1 h.links_unique).imp ?_
  intro l l' hne huser huser' pair hpair pair' hpair' hsame
  obtain ⟨s, -, rfl⟩ := Option.map_eq_some_iff.1 hpair
  obtain ⟨s', -, rfl⟩ := Option.map_eq_some_iff.1 hpair'
  exact hne (Prod.ext ((beq_iff_eq.1 huser).trans (beq_iff_eq.1 huser').symm) hsame)

/-- The view of a membership names its subscription and counts its live articles. -/
theorem Tables.Legible.exists_view (h : t.Legible) {pair : LinkRow × SubscriptionRow}
    (hlink : pair.1 ∈ t.links) (hsubscription : pair.2 ∈ t.subscriptions) :
    ∃ v : SubscriptionView, t.view pair = .ok v ∧ v.subscription.id = pair.2.row ∧
      v.articles = countWhere (fun a => a.isLive && a.subscription == pair.1.subscription)
        t.articles ∧
      Holds pair.1.updatedAt v.link.updatedAt := by
  obtain ⟨s, hs, hid, -⟩ := (h.subscriptions _ hsubscription).exists_subscription
  obtain ⟨l, hl, -, -, -, -, hupdated⟩ := (h.links _ hlink).exists_link
  unfold view
  rw [hs, hl]
  exact ⟨_, rfl, hid, rfl, hupdated⟩

end Lists

end ChatLedger.Store

namespace ChatLedger

open Store Operation

/-! ## Who reads the articles -/

section Articles

variable {t : Tables} {user : UserId} {id : Int} {settings : Settings} {page size : Option UInt32}

theorem on_found_row {r : SubscriptionRow} {s : Subscription}
    (hfound : t.subscriptions.find? (·.has id) = some r) (hread : r.subscription = .ok s) :
    (Memberships.found id).on t = (.ok s, t) := by
  have hask : (Request.getSubscription id).perform t = (.ok (some s), t) :=
    Prod.ext (mapM_eq_some.2 ⟨r, hfound, hread⟩) rfl
  exact (on_bind_ok (on_ask hask)).trans rfl

theorem on_findLink_none (hnone : t.links.find? (·.joins user id) = none) :
    (ask (.findLink user id)).on t = (.ok none, t) := by
  have hask : (Request.findLink user id).perform t = (.ok none, t) := by
    show ((t.links.find? (·.joins user id)).mapM (·.link), t) = _
    rw [hnone]
    rfl
  exact on_ask hask

theorem on_findLink_row {r : LinkRow} {l : Link} (hfound : t.links.find? (·.joins user id) = some r)
    (hread : r.link = .ok l) : (ask (.findLink user id)).on t = (.ok (some l), t) := by
  have hask : (Request.findLink user id).perform t = (.ok (some l), t) :=
    Prod.ext (mapM_eq_some.2 ⟨r, hfound, hread⟩) rfl
  exact on_ask hask

/-- Where no subscription of the number is active, there is nothing to read. -/
theorem on_opened_inactive (legible : t.Legible) (h : ¬ t.HasActive id) :
    ∃ what, (Memberships.opened id).on t = (.error (.notFound what), t) := by
  unfold Memberships.opened
  cases hfound : t.subscriptions.find? (·.has id) with
  | none =>
    have hask : (Request.getSubscription id).perform t = (.ok none, t) := by
      show ((t.subscriptions.find? (·.has id)).mapM (·.subscription), t) = _
      rw [hfound]
      rfl
    exact ⟨_, on_bind_error ((on_bind_ok (on_ask hask)).trans rfl)⟩
  | some r =>
    have hr := List.mem_of_find?_eq_some hfound
    have hmet := List.find?_some hfound
    obtain ⟨s, hread, -, hactive⟩ := (legible.subscriptions r hr).exists_subscription
    have hclosed : ¬ s.status = .active := fun hopen =>
      h ⟨r, hr, SubscriptionRow.has_iff.1 hmet, hactive.1 hopen⟩
    have hrefused : Memberships.ensureOpen s id =
        .error (.notFound (Memberships.name id ++ " has been deleted")) := if_neg hclosed
    rw [on_bind_ok (on_found_row hfound hread), hrefused]
    exact ⟨_, rfl⟩

/-- An active subscription is found. -/
theorem on_opened_active (coherent : t.Coherent) (legible : t.Legible) (h : t.HasActive id) :
    ∃ s, (Memberships.opened id).on t = (.ok s, t) := by
  obtain ⟨r, hr, hrow, hopen⟩ := h
  obtain ⟨s, hread, -, hactive⟩ := (legible.subscriptions r hr).exists_subscription
  have hfound : t.subscriptions.find? (·.has id) = some r :=
    coherent.find_subscription hr (SubscriptionRow.has_iff.2 hrow) fun r' hmet =>
      (SubscriptionRow.has_iff.1 hmet).trans hrow.symm
  have hpassed : Memberships.ensureOpen s id = .ok () := if_pos (hactive.2 hopen)
  unfold Memberships.opened
  rw [on_bind_ok (on_found_row hfound hread), hpassed]
  exact ⟨s, rfl⟩

/-- **Articles of a subscription that is not active** are not found. -/
theorem on_listArticles_unknown (legible : t.Legible) (h : ¬ t.HasActive id) :
    ∃ what, (Articles.list settings user id page size).on t = (.error (.notFound what), t) := by
  obtain ⟨what, hopened⟩ := on_opened_inactive legible h
  exact ⟨what, on_bind_error hopened⟩

/-- **Articles of an active subscription** are refused to all but its effective members. -/
theorem on_listArticles_denied (coherent : t.Coherent) (legible : t.Legible) (h : t.HasActive id)
    (hnot : ¬ t.Effective user id) :
    ∃ reason, (Articles.list settings user id page size).on t =
      (.error (.permissionDenied reason), t) := by
  obtain ⟨s, hopened⟩ := on_opened_active coherent legible h
  unfold Articles.list
  rw [on_bind_ok hopened]
  cases hfound : t.links.find? (·.joins user id) with
  | none =>
    rw [on_bind_ok (on_findLink_none hfound)]
    exact ⟨_, rfl⟩
  | some r =>
    have hr := List.mem_of_find?_eq_some hfound
    have hmet := List.find?_some hfound
    obtain ⟨huser, hid⟩ := LinkRow.joins_iff.1 hmet
    obtain ⟨l, hread, -, -, -, hactive, -⟩ := (legible.links r hr).exists_link
    have hstatus : l.status = .cancelled := by
      cases hstatus : l.status with
      | active => exact absurd ⟨h, r, hr, huser, hid, hactive.1 hstatus⟩ hnot
      | cancelled => rfl
    rw [on_bind_ok (on_findLink_row hfound hread), Option.map_some, hstatus]
    exact ⟨_, rfl⟩

/-- **Articles for an effective member** are looked up. -/
theorem on_listArticles (coherent : t.Coherent) (legible : t.Legible) (h : t.Effective user id) :
    let request := settings.paging.resolve .articles page size
    (Articles.list settings user id page size).on t =
      (do return Page.ofItems (← ask (.listArticles id request)) request :
        Operation (Page Article)).on t := by
  intro request
  obtain ⟨hactive, r, hr, huser, hid, hopen⟩ := h
  obtain ⟨s, hopened⟩ := on_opened_active coherent legible hactive
  obtain ⟨l, hread, -, -, -, hstatus, -⟩ := (legible.links r hr).exists_link
  unfold Articles.list
  rw [on_bind_ok hopened, on_bind_ok (on_findLink_row (coherent.find_link hr huser hid) hread),
    Option.map_some, hstatus.2 hopen]
  rfl

end Articles

end ChatLedger
