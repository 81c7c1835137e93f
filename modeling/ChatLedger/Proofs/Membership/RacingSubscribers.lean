import ChatLedger.Proofs.Membership.Calls
import ChatLedger.Proofs.Membership.Race
import ChatLedger.Proofs.Membership.Reachable
import ChatLedger.Proofs.Store.Turns
import ChatLedger.Proofs.Validation

/-!
# Racing subscribers agree

Subscribe calls for one topic that run at the same time on a reachable store, in any order of their
store calls, with no call failing and nothing else at work.

1. `MembershipCall.within_call`: a subscribe call comes to its end.
2. `MembershipCall.safe_call`: with three attempts it ends in a membership, because there are only
   two things to lose.
3. `MembershipCall.agree_of_joined`: members agree on one subscription, whatever they have lost.
4. `MembershipCall.racing_subscribers_agree`: so all calls name one subscription, at most one of
   them has created it, and in the end everyone is linked to it, once.
-/

namespace ChatLedger

open Store Time Operation

/-! ## What rows show of a roster -/

/-- If rows exclude each other, only the one that is found is left. -/
theorem filter_eq_singleton {α : Type} {p : α → Bool} {rows : List α} {r : α}
    (found : rows.find? p = some r)
    (apart : rows.Pairwise fun a b => p a = true → p b = false) : rows.filter p = [r] := by
  induction rows with
  | nil => cases found
  | cons a rows ih =>
    obtain ⟨hnone, hrows⟩ := List.pairwise_cons.1 apart
    rw [List.find?_cons] at found
    cases hp : p a with
    | true =>
      rw [hp] at found
      rw [List.filter_cons_of_pos hp, List.filter_eq_nil_iff.2 fun b hb => ?_]
      · exact congrArg (fun x => [x]) (Option.some.inj found)
      · rw [hnone b hb hp]
        decide
    | false =>
      rw [hp] at found
      rw [List.filter_cons_of_neg (by rw [hp]; decide)]
      exact ih found hrows

namespace Roster

variable {m : Roster} {topic : String} {user : UserId} {id : Int}

theorem isSome_subscriptionOn? (m : Roster) (t : Tables) (topic : String) :
    ((m.store t).subscriptionOn? topic).isSome = (m.activeOn? topic).isSome := by
  rw [← any_active (t := t), Bool.eq_iff_iff, List.any_eq_true]
  exact List.find?_isSome

/-- The active subscription is the only active row on its topic. -/
theorem Sound.filter_active (hm : m.Sound) {x : Subscription} (hx : m.activeOn? topic = some x)
    (t : Tables) :
    (m.store t).subscriptions.filter (fun s => s.topic == topic && s.isActive) =
      [.ofSubscription x] := by
  have hmet : (fun s : SubscriptionRow => s.topic == topic && s.isActive) ∘
      SubscriptionRow.ofSubscription = fun s => s.topic == topic && s.status == .active := by
    funext s
    dsimp only [Function.comp]
    rw [SubscriptionRow.isActive_ofSubscription]
    rfl
  unfold store
  dsimp only
  rw [List.filter_map, hmet, filter_eq_singleton hx]
  · rfl
  · refine hm.subscriptions_apart.imp fun {s s'} h hs => ?_
    simp only [Bool.and_eq_true, beq_iff_eq] at hs
    rw [Bool.and_eq_false_iff, beq_eq_false_iff_ne, beq_eq_false_iff_ne]
    refine Decidable.not_or_of_imp fun htopic hactive => ?_
    exact h.topic hs.2 hactive (hs.1.trans htopic.symm)

/-- The link of a user to a subscription is the only such row. -/
theorem Sound.filter_joins (hm : m.Sound) {l : Link} (hl : m.link? user id = some l)
    (t : Tables) : (m.store t).links.filter (·.joins user id) = [.ofLink l] := by
  have hmet : (fun l : LinkRow => l.joins user id) ∘ LinkRow.ofLink =
      fun l => l.user == user && l.subscription == id := by
    funext l
    exact LinkRow.joins_ofLink l user id
  unfold store
  dsimp only
  rw [List.filter_map, hmet, filter_eq_singleton hl]
  · rfl
  · refine hm.links_apart.imp fun {l l'} h hl => ?_
    simp only [Bool.and_eq_true, beq_iff_eq] at hl
    rw [Bool.and_eq_false_iff, beq_eq_false_iff_ne, beq_eq_false_iff_ne]
    refine Decidable.not_or_of_imp fun huser hid => ?_
    exact h.ends (hl.1.trans huser.symm) (hl.2.trans hid.symm)

end Roster

/-! ## Subscribers -/

/-- What a user says who subscribes, and the clock of the call. -/
structure Subscriber where
  user : UserId
  topic : String
  description : String
  clock : Clock
  deriving Repr, DecidableEq

/-- The call of a subscriber. -/
def Subscriber.call (s : Subscriber) : MembershipCall :=
  .subscribe s.user s.topic s.description s.clock

/-- The call is valid, and for this topic once the blanks at the ends are gone. -/
structure Subscriber.Seeks (s : Subscriber) (topic : String) : Prop where
  nonempty : topic ≠ ""
  short : topic.length ≤ Limit.subscriptionTopic
  topic : Text.trim s.topic = topic
  description : (Text.trim s.description).length ≤ Limit.description

namespace MembershipCall

/-! ## A call comes to its end -/

theorem within_carryOut (user : UserId) (id : Int) (link : Option Link) (step : MembershipStep)
    (now : Instant) : Within 1 (Memberships.carryOut user id link step now) := by
  unfold Memberships.carryOut
  split
  · refine within_ask_bind fun hit => ?_
    split
    · exact within_pure _
    · exact within_fail _
  · exact (within_fail _).mono (Nat.zero_le 1)
  · split
    · exact within_ask_bind fun _ => within_pure _
    · exact (within_pure _).mono (Nat.zero_le 1)

theorem within_trySubscribe (user : UserId) (topic description : String) (now : Instant) :
    Within 3 (Memberships.trySubscribe user topic description now) := by
  unfold Memberships.trySubscribe
  refine within_ask_bind fun found => ?_
  cases found with
  | none => exact (within_ask_bind fun _ => within_pure _).mono (by decide)
  | some s =>
    refine within_ask_bind fun link => within_check_bind fun step => ?_
    exact within_bind (within_carryOut ..) fun _ => within_pure _

/-- Each attempt makes three store calls at most. -/
theorem within_subscribe (settings : Settings) (user : UserId) (topic description : String)
    (clock : Clock) : Within (max 1 settings.subscriptions.attempts.toNat * 3)
      (Memberships.subscribe settings user topic description clock) := by
  unfold Memberships.subscribe
  apply within_check_bind
  intro topic
  apply within_check_bind
  intro description
  exact within_retry _ fun _ => within_trySubscribe ..

/-- A subscriber needs so many turns. -/
theorem within_call (settings : Settings) (s : Subscriber) :
    Within (max 1 settings.subscriptions.attempts.toNat * 3) (s.call.operation settings) := by
  unfold Subscriber.call MembershipCall.operation
  exact within_map (within_subscribe settings s.user s.topic s.description s.clock)

/-! ## A call ends in a membership -/

/-- The call has made the user a member. -/
def Joined {ι : Type} {start : Roster} {topic : String} (i : ι) (user : UserId)
    (s : Race ι start topic) : Except ServiceError MembershipReply → Prop
  | .ok (.subscribed r) => s.Enrolled i user (.ok r)
  | _ => False

namespace Joined

variable {ι : Type} {start : Roster} {topic : String} {i : ι} {user : UserId}
  {s : Race ι start topic} {outcome : Except ServiceError MembershipReply}

theorem exists_result (joined : Joined i user s outcome) :
    ∃ r, outcome = .ok (.subscribed r) ∧ s.Enrolled i user (.ok r) := by
  unfold Joined at joined
  split at joined
  · exact ⟨_, rfl, joined⟩
  · exact joined.elim

theorem onward {s' : Race ι start topic} (h : s.Onward i s') (joined : Joined i user s outcome) :
    Joined i user s' outcome := by
  obtain ⟨r, rfl, henrolled⟩ := joined.exists_result
  exact henrolled.onward h

/-- The answer names the active subscription, and says who has created it. -/
theorem answer {x : Subscription} (hx : s.roster.activeOn? topic = some x)
    (joined : Joined i user s outcome) : ∃ result, outcome = .ok (.subscribed ⟨x.id, result⟩) ∧
      (result = .created ↔ s.winner = some i) ∧
      ∃ l, s.roster.link? user x.id = some l ∧ l.status = .active := by
  obtain ⟨⟨id, result⟩, rfl, hcreated, x', l, hx', hid, hl, hactive⟩ := joined.exists_result
  obtain rfl : x = x' := Option.some.inj (hx.symm.trans hx')
  obtain rfl : id = x.id := hid
  exact ⟨result, rfl, hcreated, l, hl, hactive⟩

end Joined

variable {ι : Type} {start : Roster} {topic description : String} {i : ι} {s : Race ι start topic}
  {user : UserId} {clock : Clock}

/-- Three attempts are enough: there are only two to lose. -/
theorem safe_attempts {attempts : UInt32} (hattempts : 3 ≤ attempts.toNat)
    (t : Tables) (timely : clock.HasFourDigitYears) (hs : s.winner = none) :
    (Operation.retry attempts fun made =>
      Memberships.trySubscribe user topic description (clock made)).Safe
        (Race.sharing ι start topic t) i (Race.Enrolled i user) s := by
  refine safe_retry (fun made n s hwinner hn =>
    Race.safe_trySubscribe t (timely.reading made) hwinner hn) ?_ ?_
  · rw [hs]
    exact (Option.some_ne_none i).symm
  · exact Nat.lt_of_le_of_lt (Race.losses_le_two s) hattempts

/-- A valid call comes to its attempts. -/
theorem safe_subscribe (settings : Settings)
    (hattempts : 3 ≤ settings.subscriptions.attempts.toNat) (t : Tables) {asked given : String}
    (htopic : Text.trim asked = topic) (hne : topic ≠ "")
    (hshort : topic.length ≤ Limit.subscriptionTopic)
    (hdescription : (Text.trim given).length ≤ Limit.description)
    (timely : clock.HasFourDigitYears)
    (hs : s.winner = none) :
    (Memberships.subscribe settings user asked given clock).Safe
      (Race.sharing ι start topic t) i (Race.Enrolled i user) s := by
  subst htopic
  unfold Memberships.subscribe
  apply safe_check_bind (Validation.requiredText_ok _ hne hshort)
  apply safe_check_bind (Validation.boundedText_ok _ hdescription)
  exact safe_attempts hattempts t timely hs

/-- A subscriber becomes a member. -/
theorem safe_call (settings : Settings) (hattempts : 3 ≤ settings.subscriptions.attempts.toNat)
    (t : Tables) {x : Subscriber} (seeks : x.Seeks topic)
    (timely : x.clock.HasFourDigitYears) (hs : s.winner = none) :
    (x.call.operation settings).Safe (Race.sharing ι start topic t) i (Joined i x.user) s := by
  unfold Subscriber.call MembershipCall.operation
  refine safe_map (Safe.imp (safe_subscribe settings hattempts t seeks.topic seeks.nonempty
    seeks.short seeks.description timely hs) fun s outcome h => ?_)
  cases outcome with
  | ok r => exact h
  | error e => exact h

/-! ## All calls together -/

/-- All subscribers have come to one subscription. -/
structure Agree (t : Tables) (subscribers : ι → Subscriber) (topic : String)
    (w : World ι (Except ServiceError MembershipReply)) (row : SubscriptionRow) : Prop where
  only : w.tables.subscriptions.filter (fun s => s.topic == topic && s.isActive) = [row]
  named : ∀ i, ∃ outcome, w.outcome? i = some (.ok (.subscribed ⟨row.row, outcome⟩))
  created : t.subscriptionOn? topic = none →
    ∃! i, w.outcome? i = some (.ok (.subscribed ⟨row.row, .created⟩))
  found : (t.subscriptionOn? topic).isSome = true →
    ∀ i, w.outcome? i ≠ some (.ok (.subscribed ⟨row.row, .created⟩))
  linked : ∀ i, ∃ link,
    w.tables.links.filter (·.joins (subscribers i).user row.row) = [link] ∧ link.isActive = true

section Agreement

variable {m : Roster} {s : Race ι m topic} {subscribers : ι → Subscriber}
  {w : World ι (Except ServiceError MembershipReply)}

/-- The subscription that anyone has come to is the active one, and so everyone has come to it. -/
theorem exists_answers [Nonempty ι]
    (hjoined : ∀ i outcome, w.outcome? i = some outcome → Joined i (subscribers i).user s outcome)
    (hfinished : w.Finished) : ∃ x, s.roster.activeOn? topic = some x ∧
      ∀ i, ∃ outcome, w.outcome? i = some (.ok (.subscribed ⟨x.id, outcome⟩)) ∧
        (outcome = .created ↔ s.winner = some i) ∧
        ∃ l, s.roster.link? (subscribers i).user x.id = some l ∧ l.status = .active := by
  have hdone (i : ι) : ∃ outcome, w.outcome? i = some outcome :=
    Option.isSome_iff_exists.1 (hfinished i)
  obtain ⟨x, hx⟩ : ∃ x, s.roster.activeOn? topic = some x := by
    obtain ⟨i⟩ := ‹Nonempty ι›
    obtain ⟨outcome, houtcome⟩ := hdone i
    obtain ⟨r, -, -, x, l, hx, -⟩ := (hjoined i outcome houtcome).exists_result
    exact ⟨x, hx⟩
  refine ⟨x, hx, fun i => ?_⟩
  obtain ⟨outcome, houtcome⟩ := hdone i
  rw [houtcome]
  obtain ⟨result, rfl, h⟩ := (hjoined i outcome houtcome).answer hx
  exact ⟨result, rfl, h⟩

/-- Subscribers who have all become members agree. -/
theorem agree_of_joined [Nonempty ι] {t : Tables} (htables : w.tables = s.roster.store t)
    (hjoined : ∀ i outcome, w.outcome? i = some outcome → Joined i (subscribers i).user s outcome)
    (hfinished : w.Finished) : ∃ row, Agree (m.store t) subscribers topic w row := by
  obtain ⟨x, hx, hanswers⟩ := exists_answers hjoined hfinished
  have hmem := (Roster.mem_of_activeOn? hx).1
  have hrow : ((SubscriptionRow.ofSubscription x).row : Int) = x.id :=
    Int.toNat_of_nonneg (Int.le_of_lt (s.sound.subscription_isKept x hmem).pos)
  have hcreated (i : ι) :
      w.outcome? i = some (.ok (.subscribed ⟨x.id, .created⟩)) ↔ s.winner = some i := by
    obtain ⟨outcome, hanswer, hcreated, -⟩ := hanswers i
    rw [hanswer, ← hcreated]
    simp
  refine ⟨.ofSubscription x, ?_, ?_, ?_, ?_, ?_⟩
  · rw [htables]
    exact s.sound.filter_active hx t
  · intro i
    obtain ⟨outcome, hanswer, -⟩ := hanswers i
    rw [hrow]
    exact ⟨outcome, hanswer⟩
  · intro hfree
    have hfree : m.activeOn? topic = none := by
      rw [← Option.not_isSome_iff_eq_none, ← m.isSome_subscriptionOn? t, hfree]
      decide
    cases hw : s.winner with
    | none =>
      rw [s.open_winner hw, hfree] at hx
      cases hx
    | some i =>
      rw [hrow]
      refine ⟨i, (hcreated i).2 hw, fun j hj => ?_⟩
      exact Option.some.inj (((hcreated j).1 hj).symm.trans hw)
  · intro hfound i hanswer
    rw [hrow, hcreated i] at hanswer
    rw [m.isSome_subscriptionOn? t, (s.won (by rw [hanswer]; rfl)).1] at hfound
    cases hfound
  · intro i
    obtain ⟨outcome, -, -, l, hl, hactive⟩ := hanswers i
    rw [htables, hrow]
    refine ⟨.ofLink l, s.sound.filter_joins hl t, ?_⟩
    unfold LinkRow.isActive LinkRow.ofLink
    rw [hactive]
    exact beq_self_eq_true _

end Agreement

variable [DecidableEq ι]

/-- Subscribers at work at the same time. -/
def racing (settings : Settings) (t : Tables) (subscribers : ι → Subscriber) (schedule : List ι) :
    World ι (Except ServiceError MembershipReply) :=
  (World.mk t (fun i => (subscribers i).call.program settings) []).run (schedule.map .calm)

section Racing

variable (settings : Settings) {subscribers : ι → Subscriber} (schedule : List ι)

/-- Every subscriber who is done has become a member. -/
theorem racing_joined (hattempts : 3 ≤ settings.subscriptions.attempts.toNat) {m : Roster}
    (hm : m.Sound) (t : Tables) (seek : ∀ i, (subscribers i).Seeks topic)
    (timely : ∀ i, (subscribers i).clock.HasFourDigitYears) :
    ∃ s : Race ι m topic,
      (racing settings (m.store t) subscribers schedule).tables = s.roster.store t ∧
        ∀ i outcome, (racing settings (m.store t) subscribers schedule).outcome? i = some outcome →
          Joined i (subscribers i).user s outcome := by
  exact World.outcomes_wanted (Race.sharing ι m topic t) (fun i => Joined i (subscribers i).user)
    Joined.onward (fun i => (subscribers i).call.operation settings)
    (fun i => safe_call settings hattempts t (seek i) (timely i) (s := Race.outset ι topic hm) rfl)
    schedule

/-- A subscriber who has had enough turns is done. -/
theorem racing_done (hattempts : 1 ≤ settings.subscriptions.attempts.toNat) (t : Tables) (i : ι)
    (hturns : settings.subscriptions.attempts.toNat * 3 ≤ schedule.count i) :
    ((racing settings t subscribers schedule).outcome? i).isSome = true := by
  have hwithin := within_call settings (subscribers i)
  rw [Nat.max_eq_right hattempts] at hwithin
  refine World.outcome?_of_within (i := i) (fun i => (subscribers i).call.operation settings)
    hwithin ?_
  unfold World.turnsOf
  rw [List.countP_map]
  refine Nat.le_trans hturns (Nat.le_of_eq (List.countP_congr fun j _ => ?_))
  rw [Function.comp, decide_eq_true_iff, beq_iff_eq]
  exact Iff.rfl

/-- **Racing subscribers agree.** On a reachable store, subscribe calls for one topic that are made
at the same time, with three attempts at least and clocks in the years 0 to 9999, come to their end
in every order of their store calls. None of them fails. In the end there is one active subscription
on the topic, which all of them have answered with and which everyone is linked to by one active
link. One of the calls has created it, unless it was there before. -/
theorem racing_subscribers_agree [Nonempty ι]
    (hattempts : 3 ≤ settings.subscriptions.attempts.toNat) {t : Tables} (reachable : t.Reachable)
    (seek : ∀ i, (subscribers i).Seeks topic)
    (timely : ∀ i, (subscribers i).clock.HasFourDigitYears) :
    let w := racing settings t subscribers schedule
    (∀ i, settings.subscriptions.attempts.toNat * 3 ≤ schedule.count i →
        (w.outcome? i).isSome = true) ∧
      (∀ i outcome, w.outcome? i = some outcome → ∃ r, outcome = .ok (.subscribed r)) ∧
      (w.Finished → ∃ row, Agree t subscribers topic w row) := by
  obtain ⟨m, hm, hstore⟩ := reachable.exists_roster
  obtain ⟨s, htables, hjoined⟩ := racing_joined settings schedule hattempts hm t seek timely
  rw [hstore] at htables hjoined
  refine ⟨fun i => racing_done settings schedule (by omega) t i, ?_, fun hfinished => ?_⟩
  · intro i outcome houtcome
    obtain ⟨r, hr, -⟩ := (hjoined i outcome houtcome).exists_result
    exact ⟨r, hr⟩
  · have hagree := agree_of_joined htables hjoined hfinished
    rw [hstore] at hagree
    exact hagree

/-- Two calls of each of two users and one of a third. -/
def sampleSubscribers : Fin 5 → Subscriber
  | 0 => ⟨⟨1⟩, " ml ", "", ⟨.start2026, [Instant.start2026.after 1]⟩⟩
  | 1 => ⟨⟨1⟩, "ml", "mine", .start2026⟩
  | 2 => ⟨⟨2⟩, "ml", "", .start2026⟩
  | 3 => ⟨⟨2⟩, "ml ", "", .start2026⟩
  | 4 => ⟨⟨3⟩, "ml", "", .start2026⟩

/-- All calls find the topic free; one of them loses the topic first, and then the link. -/
def sampleRace : List (Fin 5) :=
  [0, 1, 2, 3, 4, 2, 0, 1, 3, 4, 0, 1, 3, 4, 0, 1, 3, 4, 0, 1, 4, 1, 1]

theorem racing_subscribers_agree_after_two_losses :
    Tables.Reachable {} ∧ (∀ i, (sampleSubscribers i).Seeks "ml") ∧
      ∃ row, Agree {} sampleSubscribers "ml" (racing {} {} sampleSubscribers sampleRace) row ∧
        (List.finRange 5).map (racing {} {} sampleSubscribers sampleRace).outcome? =
          [some (.ok (.subscribed ⟨1, .joined⟩)), some (.ok (.subscribed ⟨1, .alreadyActive⟩)),
            some (.ok (.subscribed ⟨1, .created⟩)), some (.ok (.subscribed ⟨1, .alreadyActive⟩)),
            some (.ok (.subscribed ⟨1, .joined⟩))] := by
  have reachable : Tables.Reachable {} := ⟨Unit, [], .nil, by simp⟩
  have seek (i : Fin 5) : (sampleSubscribers i).Seeks "ml" := by
    refine ⟨by decide, by decide, ?_, ?_⟩ <;> revert i <;> decide +kernel
  obtain ⟨-, -, hagree⟩ := racing_subscribers_agree {} sampleRace (by decide) reachable seek
    (by decide)
  obtain ⟨row, hrow⟩ := hagree (by unfold World.Finished; decide +kernel)
  exact ⟨reachable, seek, row, hrow, by decide +kernel⟩

/-- In year 10000 the second call fails: it cannot read the row of the first. -/
theorem not_racing_subscribers_agree_in_year10000 :
    ¬ ∀ (settings : Settings) (subscribers : Fin 2 → Subscriber) (schedule : List (Fin 2)),
      3 ≤ settings.subscriptions.attempts.toNat → (∀ i, (subscribers i).Seeks "ml") →
        ∀ i outcome, (racing settings {} subscribers schedule).outcome? i = some outcome →
          ∃ r, outcome = .ok (.subscribed r) := by
  intro h
  have seek (i : Fin 2) : Subscriber.Seeks ⟨⟨i⟩, "ml", "", .year10000⟩ "ml" := by
    refine ⟨by decide, by decide, ?_, ?_⟩ <;> revert i <;> decide +kernel
  have hfail : (racing {} {} (fun i : Fin 2 => ⟨⟨i⟩, "ml", "", .year10000⟩) [0, 0, 1]).outcome? 1 =
      some (.error (.storeUnavailable "invalid datetime: input contains invalid characters")) := by
    decide +kernel
  obtain ⟨r, hr⟩ := h {} _ _ (by decide) seek 1 _ hfail
  cases hr

end Racing

end MembershipCall

end ChatLedger
