import ChatLedger.Proofs.Membership.Links
import ChatLedger.Proofs.Membership.Rows

/-!
# Writes that were overtaken

A write of the membership service rests on what was read before it. If the store turns it down, what
was read has been changed meanwhile.

1. `Event.opens_of_free`, `Event.makes_of_unlinked` and `Event.makes_of_status` find the change that
   an event has made in what has become of a topic, of a pair, and of a status.
2. `Turned seen failed`: the write `failed`, which goes back to the read `seen`, is turned down.
3. `Trace.exists_overtaking`: between such a read and such a write there was an event that
   `Overtakes` the write: it has opened the topic, made the link or flipped its status.
-/

namespace ChatLedger.Store

open Time

variable {ι : Type}

/-! ## Events -/

theorem Event.Lawful.memberStep {e : Event ι} (lawful : e.Lawful) :
    e.before.MemberStep e.request e.after :=
  lawful.after_of (.apart rfl rfl rfl) (e.request.perform_members e.before)

/-- The event has added an active subscription on the topic. -/
def Event.Opens (e : Event ι) (topic : String) : Prop :=
  ∃ s : SubscriptionRow, s.topic = topic ∧ s.isActive = true ∧
    e.after.subscriptions = e.before.subscriptions ++ [s]

/-- A change that leaves topics alone, and makes nothing active, takes no topic. -/
theorem find?_changeWhere_of_free {rows : List SubscriptionRow} {condition : SubscriptionRow → Bool}
    {change : SubscriptionRow → SubscriptionRow} {topic : String}
    (free : rows.find? (fun s => s.topic == topic && s.isActive) = none)
    (spares : ∀ s, (change s).topic = s.topic ∧ ((change s).isActive = true → s.isActive = true)) :
    (changeWhere condition change rows).find? (fun s => s.topic == topic && s.isActive) = none := by
  rw [List.find?_eq_none] at free ⊢
  intro s hs htaken
  obtain ⟨htopic, hactive⟩ := Bool.and_eq_true_iff.1 htaken
  rcases mem_changeWhere.1 hs with ⟨s₀, h₀, -, rfl⟩ | ⟨h₀, -⟩
  · refine free s₀ h₀ (Bool.and_eq_true_iff.2 ⟨?_, (spares s₀).2 hactive⟩)
    rw [← (spares s₀).1]
    exact htopic
  · exact free s h₀ htaken

/-- **Taking a topic** takes a new subscription. -/
theorem Event.opens_of_free {e : Event ι} (lawful : e.Lawful) {topic : String}
    (free : e.before.subscriptionOn? topic = none) (taken : e.after.subscriptionOn? topic ≠ none) :
    e.Opens topic := by
  have step := lawful.memberStep
  obtain ⟨i, request, answer, before, after⟩ := e
  dsimp only at *
  unfold Tables.subscriptionOn? at free taken
  cases step with
  | apart subscriptions => exact absurd (subscriptions ▸ free) taken
  | @createSubscription input now =>
    refine ⟨_, ?_, beq_self_eq_true _, rfl⟩
    rw [List.find?_append, free, Option.none_or, List.find?_singleton] at taken
    by_contra hother
    refine taken (if_neg fun hsame => hother ?_)
    exact beq_iff_eq.1 (Bool.and_eq_true_iff.1 hsame).1
  | updateDescription =>
    exact (taken (find?_changeWhere_of_free free fun s => ⟨rfl, fun h => h⟩)).elim
  | cancelSubscription =>
    refine (taken (find?_changeWhere_of_free free fun s => ⟨rfl, fun h => ?_⟩)).elim
    exact absurd (SubscriptionStatus.word_inj (beq_iff_eq.1 h)) (by decide)
  | _ => exact absurd free taken

/-- **Linking a pair** takes a new link. -/
theorem Event.makes_of_unlinked {e : Event ι} (lawful : e.Lawful) (numbered : e.before.Numbered)
    {user : UserId} {id : Int} (free : ∀ r ∈ e.before.links, r.joins user id = false)
    (taken : ¬ ∀ r ∈ e.after.links, r.joins user id = false) :
    ∃ r : LinkRow, r.IsOf user id ∧ e.Makes r.row .created := by
  have step := lawful.memberStep
  have absent (r : LinkRow) (hr : r ∈ e.before.links) : r.row ≠ nextRow e.before.links :=
    Nat.ne_of_lt (numbered.links.lt_nextRow hr)
  obtain ⟨i, request, answer, before, after⟩ := e
  dsimp only at *
  push Not at taken
  obtain ⟨r, hr, hjoins⟩ := taken
  have hjoins : r.joins user id = true := by simpa using hjoins
  have old (r : LinkRow) (hr : r ∈ before.links) : r.joins user id ≠ true := by
    simpa using free r hr
  cases step with
  | apart _ links => exact absurd hjoins (old r (links ▸ hr))
  | createSubscription =>
    rcases List.mem_append.1 hr with hr | hr
    · exact absurd hjoins (old r hr)
    · obtain rfl := List.mem_singleton.1 hr
      exact ⟨_, LinkRow.isOf_of_joins hjoins, .created _ rfl absent rfl rfl⟩
  | insertLink =>
    rcases List.mem_append.1 hr with hr | hr
    · exact absurd hjoins (old r hr)
    · obtain rfl := List.mem_singleton.1 hr
      exact ⟨_, LinkRow.isOf_of_joins hjoins, .created _ rfl absent rfl rfl⟩
  | changeLink =>
    rcases mem_changeWhere.1 hr with ⟨r₀, h₀, -, rfl⟩ | ⟨h₀, -⟩
    · exact absurd hjoins (old r₀ h₀)
    · exact absurd hjoins (old r h₀)
  | _ => exact absurd hjoins (old r hr)

/-- **Losing a status** takes a flip. -/
theorem Event.makes_of_status {e : Event ι} (lawful : e.Lawful) (numbered : e.before.Numbered)
    {n : Nat} {status : LinkStatus}
    (seen : ∃ r ∈ e.before.links, r.row = n ∧ r.status = Vocabulary.word status)
    (lost : ¬ ∃ r ∈ e.after.links, r.row = n ∧ r.status = Vocabulary.word status) :
    ∃ current, e.Makes n (.flipped status current) := by
  have step := lawful.memberStep
  obtain ⟨i, request, answer, before, after⟩ := e
  dsimp only at *
  obtain ⟨r, hr, rfl, hstatus⟩ := seen
  have kept {rows : List LinkRow} (h : r ∈ rows)
      (hlost : ¬ ∃ x ∈ rows, x.row = r.row ∧ x.status = Vocabulary.word status) : False :=
    hlost ⟨r, h, rfl, hstatus⟩
  cases step with
  | apart _ links => exact (kept (links ▸ hr) lost).elim
  | createSubscription => exact (kept (List.mem_append_left _ hr) lost).elim
  | insertLink => exact (kept (List.mem_append_left _ hr) lost).elim
  | @changeLink id expected wanted now =>
    by_cases hit : (r.row : Int) = id ∧ r.status = Vocabulary.word expected
    · obtain ⟨rfl, hexpected⟩ := hit
      obtain rfl : expected = status := LinkStatus.word_inj (hexpected.symm.trans hstatus)
      have hlinks := numbered.changeWhere_links hr hexpected (·.setStatus wanted now)
      refine ⟨wanted, .flipped r hr rfl hexpected (fun hsame => lost ?_) now hlinks⟩
      refine ⟨_, mem_changeWhere.2 (.inl ⟨r, hr, ?_, rfl⟩), rfl, ?_⟩
      · simp [hexpected]
      · rw [hsame]
        rfl
    · refine (kept (mem_changeWhere.2 (.inr ⟨hr, ?_⟩)) lost).elim
      simpa using hit
  | _ => exact (kept hr lost).elim

/-! ## Writes that are turned down -/

/-- The status of each link is one of the words for it. -/
def Tables.LinksWorded (t : Tables) : Prop :=
  ∀ r ∈ t.links, ∃ status : LinkStatus, r.status = Vocabulary.word status

/-- Rows are numbered, and links refer to subscriptions that exist and have a status. -/
structure Tables.Connected (t : Tables) : Prop where
  numbered : t.Numbered
  referring : t.Referring
  worded : t.LinksWorded

theorem Tables.connected_empty : Tables.Connected {} :=
  ⟨numbered_empty, referring_empty, fun r hr => by cases hr⟩

/-- A call gives links no status but by its word. -/
theorem Tables.LinksWorded.perform {t : Tables} (h : t.LinksWorded) (r : Request) :
    (r.perform t).2.LinksWorded := by
  have step := r.perform_members t
  generalize (r.perform t).2 = t' at step ⊢
  have added {row : Nat} {user : UserId} {id : Int} {now : Instant} :
      ∀ x ∈ t.links ++ [Tables.linkRow row user id now],
        ∃ status : LinkStatus, x.status = Vocabulary.word status := by
    intro x hx
    rcases List.mem_append.1 hx with hx | hx
    · exact h x hx
    · rw [List.mem_singleton.1 hx]
      exact ⟨.active, rfl⟩
  cases step with
  | apart _ links => exact fun x hx => h x (links ▸ hx)
  | createSubscription => exact added
  | insertLink => exact added
  | @changeLink _ _ wanted =>
    intro x hx
    rcases mem_changeWhere.1 hx with ⟨x₀, -, -, rfl⟩ | ⟨h₀, -⟩
    · exact ⟨wanted, rfl⟩
    · exact h x h₀
  | _ => exact h

theorem Trace.connected {start t : Tables} {history : List (Event ι)}
    (trace : Trace start history t) (first : start.Connected) : t.Connected :=
  trace.invariant first fun e _ lawful before => lawful.after_of before
    ⟨before.numbered.of_grows (e.request.perform_grows e.before),
      before.referring.perform e.request, before.worded.perform e.request⟩

/-- Something that was so at first and is not so in the end has been changed by an event. -/
theorem Trace.exists_change {start t : Tables} {history : List (Event ι)}
    (trace : Trace start history t) (connected : start.Connected) {P : Tables → Prop}
    (first : P start) (last : ¬ P t) :
    ∃ e ∈ history, e.Lawful ∧ e.before.Numbered ∧ P e.before ∧ ¬ P e.after := by
  by_contra hnone
  push Not at hnone
  refine last (trace.invariant first fun e he lawful before => ?_)
  obtain ⟨_, -, earlier⟩ := trace.before_of_mem he
  exact hnone e he lawful (earlier.connected connected).numbered before

section TurnedDown

variable {t t' : Tables} {user : UserId} {id : Int} {now : Instant} {reason : String}

theorem requireUnique_eq_error {taken : Bool} {text : String} {e : StoreError}
    (h : requireUnique taken text = .error e) : taken = true := by
  unfold requireUnique at h
  split at h
  · assumption
  · cases h

theorem requireReference_ne_conflict {known : Bool} (reason : String) :
    requireReference known ≠ .error (.conflict reason) := by
  unfold requireReference
  split <;> intro h <;> cases h

/-- A change that is answered with a failure has failed. -/
theorem settle_eq_error {α : Type} {change : Change α} {e : StoreError}
    (h : Request.settle change t = (.error e, t')) : change t = .error e := by
  unfold Request.settle at h
  cases hchange : change t with
  | error e' => rw [hchange] at h; cases h; rfl
  | ok p => rw [hchange] at h; cases h

/-- A link is turned down where there is one. -/
theorem Tables.insertLink_conflict
    (h : Tables.insertLink user id now t = .error (.conflict reason)) :
    ∃ r ∈ t.links, r.joins user id = true := by
  unfold Tables.insertLink at h
  generalize hunique : requireUnique (t.links.any fun l => l.joins user id) _ = unique at h
  cases unique with
  | error e => exact List.any_eq_true.1 (requireUnique_eq_error hunique)
  | ok _ =>
    cases hknown : requireReference (t.subscriptions.any fun s => s.has id) with
    | error e =>
      rw [hknown] at h
      cases h
      exact absurd hknown (requireReference_ne_conflict reason)
    | ok _ =>
      rw [hknown] at h
      cases h

/-- A subscription is turned down where its topic is taken: the link that comes with it is the first
one that refers to it. -/
theorem Tables.Connected.insertSubscription_conflict (connected : t.Connected)
    {input : NewSubscription}
    (h : Tables.insertSubscription input now t = .error (.conflict reason)) :
    t.subscriptionOn? input.topic ≠ none := by
  unfold Tables.insertSubscription at h
  cases hunique : requireUnique (t.subscriptions.any fun r => r.topic == input.topic && r.isActive)
      "UNIQUE constraint failed: subscriptions.topic_name" with
  | error e =>
    obtain ⟨s, hs, hmet⟩ := List.any_eq_true.1 (requireUnique_eq_error hunique)
    unfold Tables.subscriptionOn?
    rw [Ne, List.find?_eq_none]
    exact fun hfree => hfree s hs hmet
  | ok _ =>
    rw [hunique] at h
    dsimp only [bind, Except.bind] at h
    split at h
    · rename_i e hlink
      cases h
      obtain ⟨r, hr, hjoins⟩ := Tables.insertLink_conflict hlink
      obtain ⟨s, hs, hrow⟩ := connected.referring.links r hr
      have hid : r.subscription = (nextRow t.subscriptions : Int) :=
        (LinkRow.isOf_of_joins hjoins).subscription
      exact absurd (Int.ofNat.inj (hrow.trans hid))
        (Nat.ne_of_lt (connected.numbered.subscriptions.lt_nextRow hs))
    · cases h

/-- A link that is found reads with the status of its row. -/
theorem Tables.Connected.findLink_found (connected : t.Connected) {link : Link}
    (h : (Request.findLink user id).perform t = (.ok (some link), t')) :
    ∃ r ∈ t.links, r.IsOf user id ∧ (r.row : Int) = link.id ∧
      r.status = Vocabulary.word link.status := by
  obtain ⟨r, hf, hread⟩ := mapM_eq_some.1 (congrArg Prod.fst h)
  have hr := List.mem_of_find?_eq_some hf
  obtain ⟨status, hstatus⟩ := connected.worded r hr
  have reads := LinkRow.link_eq_ok_iff.1 hread
  have hword := reads.status
  unfold readWord at hword
  rw [hstatus, LinkStatus.parse_word] at hword
  obtain rfl := Except.ok.inj hword
  exact ⟨r, hr, LinkRow.isOf_of_joins (by simpa using List.find?_some hf), reads.id.symm, hstatus⟩

/-- Nothing is read where there is no row. -/
theorem eq_none_of_mapM {Row α : Type} {found : Option Row} {read : Row → Except StoreError α}
    (h : found.mapM read = .ok none) : found = none := by
  cases found with
  | none => rfl
  | some r =>
    rw [Option.mapM_some] at h
    cases hread : read r <;> rw [hread] at h <;> cases h

/-- A pair that is found without a link has none. -/
theorem Tables.findLink_none (h : (Request.findLink user id).perform t = (.ok none, t')) :
    ∀ r ∈ t.links, r.joins user id = false := by
  have hnone := List.find?_eq_none.1 (eq_none_of_mapM (congrArg Prod.fst h))
  exact fun r hr => Bool.eq_false_iff.2 (hnone r hr)

/-- A topic that is found free is free. -/
theorem Tables.findActiveByTopic_none {topic : String}
    (h : (Request.findActiveByTopic topic).perform t = (.ok none, t')) :
    t.subscriptionOn? topic = none := eq_none_of_mapM (congrArg Prod.fst h)

end TurnedDown

/-! ## What has overtaken a write -/

/-- A write that is turned down, and the read that it goes back to. -/
inductive Turned : Exchange → Exchange → Prop where
  | topic {input : NewSubscription} {now : Instant} {reason : String} :
    Turned ⟨.findActiveByTopic input.topic, .ok none⟩
      ⟨.createSubscription input now, .error (.conflict reason)⟩
  | link {user : UserId} {id : Int} {now : Instant} {reason : String} :
    Turned ⟨.findLink user id, .ok none⟩ ⟨.insertLink user id now, .error (.conflict reason)⟩
  | status {user : UserId} {id : Int} {link : Link} {wanted : LinkStatus} {now : Instant} :
    Turned ⟨.findLink user id, .ok (some link)⟩
      ⟨.changeLink link.id link.status wanted now, .ok false⟩

/-- The event has made the change for which the write is turned down. -/
inductive Event.Overtakes (e : Event ι) : Exchange → Exchange → Prop where
  | opened {input : NewSubscription} {now : Instant} {reason : String}
      (opens : e.Opens input.topic) :
    Overtakes e ⟨.findActiveByTopic input.topic, .ok none⟩
      ⟨.createSubscription input now, .error (.conflict reason)⟩
  | linked {user : UserId} {id : Int} {now : Instant} {reason : String} (r : LinkRow)
      (own : r.IsOf user id) (makes : e.Makes r.row .created) :
    Overtakes e ⟨.findLink user id, .ok none⟩
      ⟨.insertLink user id now, .error (.conflict reason)⟩
  | flipped {user : UserId} {id : Int} {link : Link} {wanted current : LinkStatus} {now : Instant}
      (r : LinkRow) (own : r.IsOf user id) (number : (r.row : Int) = link.id)
      (makes : e.Makes r.row (.flipped link.status current)) :
    Overtakes e ⟨.findLink user id, .ok (some link)⟩
      ⟨.changeLink link.id link.status wanted now, .ok false⟩

/-- What has overtaken a write has changed the tables. -/
theorem Event.Overtakes.effective {e : Event ι} {seen failed : Exchange}
    (h : e.Overtakes seen failed) (numbered : e.before.Numbered) : e.after ≠ e.before := by
  intro hsame
  cases h with
  | opened opens =>
    obtain ⟨s, -, -, hadded⟩ := opens
    rw [hsame] at hadded
    simp at hadded
  | linked r own makes =>
    exact Event.not_touches_of_links_eq (by rw [hsame]) _ (makes.touches numbered)
  | flipped r own number makes =>
    exact Event.not_touches_of_links_eq (by rw [hsame]) _ (makes.touches numbered)

/-- The event was carried out. -/
def Event.Performed (e : Event ι) : Prop := e.request.perform e.before = (e.answer, e.after)

/-- **A write that is turned down has been overtaken** since the read that it goes back to. -/
theorem Trace.exists_overtaking {start t : Tables} {h₁ h₂ h₃ : List (Event ι)} {a b : Event ι}
    (trace : Trace start (h₁ ++ a :: (h₂ ++ b :: h₃)) t) (first : start.Connected)
    (ha : a.Performed) (hb : b.Performed) (turned : Turned a.exchange b.exchange) :
    ∃ e ∈ h₂, e.Overtakes a.exchange b.exchange := by
  obtain ⟨earlier, -, later⟩ := trace.split
  obtain ⟨between, -, -⟩ := later.split
  have before := earlier.connected first
  obtain ⟨i, request, answer, before₀, after₀⟩ := a
  obtain ⟨j, request', answer', before₁, after₁⟩ := b
  unfold Event.Performed at ha hb
  dsimp only [Event.exchange] at *
  generalize hseen : (⟨request, answer⟩ : Exchange) = seen at turned ⊢
  generalize hfailed : (⟨request', answer'⟩ : Exchange) = failed at turned ⊢
  have stays {request : Request} {answer : Except StoreError request.Answer} {t t' : Tables}
      (hread : request.access = .reader) (h : request.perform t = (answer, t')) : t' = t := by
    rw [← Request.perform_of_reader hread t, h]
  cases turned with
  | topic =>
    cases hseen
    cases hfailed
    obtain rfl := stays rfl ha
    have taken := (between.connected before).insertSubscription_conflict (settle_eq_error hb)
    obtain ⟨e, he, lawful, -, hfree, htaken⟩ :=
      between.exists_change before (P := fun t => t.subscriptionOn? _ = none)
        (Tables.findActiveByTopic_none ha) taken
    exact ⟨e, he, .opened (Event.opens_of_free lawful hfree htaken)⟩
  | @link user id =>
    cases hseen
    cases hfailed
    obtain rfl := stays rfl ha
    obtain ⟨r, hr, hjoins⟩ := Tables.insertLink_conflict (settle_eq_error hb)
    obtain ⟨e, he, lawful, numbered, hfree, htaken⟩ :=
      between.exists_change before (P := fun t => ∀ r ∈ t.links, r.joins user id = false)
        (Tables.findLink_none ha) fun hnone => by simp [hnone r hr] at hjoins
    obtain ⟨r, hown, hmakes⟩ := Event.makes_of_unlinked lawful numbered hfree htaken
    exact ⟨e, he, .linked r hown hmakes⟩
  | @status user id link wanted =>
    cases hseen
    cases hfailed
    obtain rfl := stays rfl ha
    obtain ⟨r, hr, hown, hnumber, hstatus⟩ := before.findLink_found ha
    obtain ⟨hhit, -⟩ := Tables.changeLink_ok (Request.settle_eq_ok.1 hb)
    obtain ⟨e, he, lawful, numbered, hseen, hlost⟩ := between.exists_change before
      (P := fun t => ∃ x ∈ t.links, x.row = r.row ∧ x.status = Vocabulary.word link.status)
      ⟨r, hr, rfl, hstatus⟩ fun ⟨x, hx, hrow, hword⟩ =>
        Bool.false_ne_true (hhit.2 ⟨x, hx, by rw [hrow, hnumber], hword⟩)
    obtain ⟨current, hmakes⟩ := Event.makes_of_status lawful numbered hseen hlost
    exact ⟨e, he, .flipped r hown hnumber hmakes⟩

end ChatLedger.Store
