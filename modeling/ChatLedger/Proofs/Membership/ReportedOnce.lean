import ChatLedger.Proofs.Membership.Links

/-!
# Membership changes are reported exactly once

Of calls of the membership service that run at the same time, in any order of their store calls and
whichever of these fail: once all calls have come to their ends, every change that was ever made to
a link is reported by the call that made it, and every report tells of such a change.

1. `MembershipCall.event_accounted`: an event has changed no link, or the call it belongs to reports
   the change that it has made.
2. `MembershipCall.report_made`: a call that reports a change has made that change, and no other.
3. `MembershipCall.changes_reported_once`: the two together, for the whole history of every link.
-/

namespace ChatLedger

open Store

variable {ι : Type} [DecidableEq ι]

/-- Calls of the membership service that run at the same time on a store that is empty at first. -/
def MembershipCall.together (settings : Settings) (calls : ι → MembershipCall)
    (schedule : List (Turn ι)) : World ι (Except ServiceError MembershipReply) :=
  (World.mk {} (fun i => (calls i).program settings) []).run schedule

/-- What the call of a process reports, once it has come to its end. -/
def reportIn? (calls : ι → MembershipCall) (w : World ι (Except ServiceError MembershipReply))
    (i : ι) : Option LinkReport :=
  (w.outcome? i).bind (calls i).report?

/-- The events of a process that have changed the tables. -/
def changesOf (i : ι) (history : List (Event ι)) : List (Event ι) :=
  history.filter fun e => e.process = i ∧ e.after ≠ e.before

theorem changesOf_eq_nil {i : ι} {history : List (Event ι)}
    (h : ∀ e ∈ history, e.process = i → e.after = e.before) : changesOf i history = [] := by
  unfold changesOf
  rw [List.filter_eq_nil_iff]
  intro e he
  simpa using h e he

theorem changesOf_split {h₁ h₂ : List (Event ι)} {e : Event ι} (h : e.after ≠ e.before) :
    changesOf e.process (h₁ ++ e :: h₂) =
      changesOf e.process h₁ ++ e :: changesOf e.process h₂ := by
  unfold changesOf
  rw [List.filter_append, List.filter_cons_of_pos (by simpa using h)]

/-- A write is not silent. -/
theorem LinkWrite.not_silent {report : LinkReport} {l : List Exchange} {x : Exchange}
    (h : LinkWrite report l x) : ¬ x.Silent := by
  intro hsilent
  cases h <;> cases hsilent <;> rename_i hread <;> cases hread

namespace MembershipCall

variable {settings : Settings} {calls : ι → MembershipCall} {schedule : List (Turn ι)}

theorem trace_together (settings : Settings) (calls : ι → MembershipCall)
    (schedule : List (Turn ι)) :
    Trace {} (together settings calls schedule).history
      (together settings calls schedule).tables :=
  World.trace_run _ _ schedule

omit [DecidableEq ι] in
theorem reportIn?_eq {i : ι} {w : World ι (Except ServiceError MembershipReply)}
    {outcome : Except ServiceError MembershipReply} (h : w.outcome? i = some outcome) :
    reportIn? calls w i = (calls i).report? outcome := by
  unfold reportIn?
  rw [h]
  rfl

/-- A call that has come to its end has made just the change that it reports. -/
theorem call_accounts {i : ι} {outcome : Except ServiceError MembershipReply}
    (h : (together settings calls schedule).outcome? i = some outcome) :
    Accounts ((calls i).report? outcome)
        (exchangesOf i (together settings calls schedule).history) ∨
      (∃ s, outcome = .ok (.subscription s)) ∧
        ∀ x ∈ exchangesOf i (together settings calls schedule).history, x.SparesLinks :=
  ends_accounts (World.path_of_outcome h)

/-- An event of a call that has come to its end has changed no link, or made the change that the
call reports. -/
theorem event_accounted {e : Event ι} (he : e ∈ (together settings calls schedule).history)
    (hended : ((together settings calls schedule).outcome? e.process).isSome = true) :
    e.after.links = e.before.links ∨
      ∃ report r, reportIn? calls (together settings calls schedule) e.process = some report ∧
        r ∈ e.after.links ∧ r.IsOf report.user report.subscription ∧
        e.Makes r.row report.effect := by
  obtain ⟨outcome, houtcome⟩ := Option.isSome_iff_exists.1 hended
  have hcall := call_accounts houtcome
  rw [reportIn?_eq houtcome]
  have hmem := mem_exchangesOf.2 ⟨e, he, rfl, rfl⟩
  obtain ⟨h₁, h₂, hsplit⟩ := List.append_of_mem he
  obtain ⟨earlier, lawful, -⟩ := (hsplit ▸ trace_together settings calls schedule).split
  rcases hcall with haccounts | ⟨-, hspares⟩
  · generalize (calls e.process).report? outcome = report? at haccounts ⊢
    generalize hl : exchangesOf e.process _ = l at haccounts
    cases haccounts with
    | quiet hquiet => exact .inl (lawful.links_eq_of_spares (.silent (hquiet _ (hl ▸ hmem))))
    | @wrote report l x hquiet last =>
      rw [hsplit] at hl
      rcases exchange_cases hl with ⟨rfl, rfl, -⟩ | ⟨l₂, rfl, -⟩
      · obtain ⟨r, hr, hof, hmakes⟩ := makes_of_linkWrite earlier lawful last
        exact .inr ⟨report, r, rfl, hr, hof, hmakes⟩
      · exact .inl (lawful.links_eq_of_spares (.silent (hquiet _ (by simp))))
  · exact .inl (lawful.links_eq_of_spares (hspares _ hmem))

/-- A call that reports a change of a link has made this change, and no other change of any kind. -/
theorem report_made {i : ι} {report : LinkReport}
    (h : reportIn? calls (together settings calls schedule) i = some report) :
    ∃ e r, changesOf i (together settings calls schedule).history = [e] ∧
      r ∈ (together settings calls schedule).tables.links ∧
      r.IsOf report.user report.subscription ∧ e.Makes r.row report.effect := by
  obtain ⟨outcome, houtcome, hreport⟩ := Option.bind_eq_some_iff.1 h
  have trace := trace_together settings calls schedule
  have haccounts := (call_accounts houtcome).resolve_right (by
    rintro ⟨⟨s, rfl⟩, -⟩
    cases hc : calls i <;> rw [hc] at hreport <;> cases hreport)
  rw [hreport] at haccounts
  generalize hl : exchangesOf i _ = l at haccounts
  cases haccounts with
  | @wrote _ l x hquiet last =>
    have hx : x ∈ exchangesOf i (together settings calls schedule).history := by
      rw [hl]
      simp
    obtain ⟨e, he, rfl, rfl⟩ := mem_exchangesOf.1 hx
    obtain ⟨h₁, h₂, hsplit⟩ := List.append_of_mem he
    rw [hsplit] at hl
    rcases exchange_cases hl with ⟨-, rfl, hnone⟩ | ⟨l₂, rfl, -⟩
    swap
    · exact absurd (hquiet _ (by simp)) last.not_silent
    rw [hsplit] at trace
    obtain ⟨earlier, lawful, later⟩ := trace.split
    obtain ⟨r, hr, hof, hmakes⟩ := makes_of_linkWrite earlier lawful last
    obtain ⟨r', hr', hkey⟩ := later.extends.link hr
    have hrow : r'.row = r.row := congrArg (·.1) hkey
    refine ⟨e, r', ?_, hr', hof.of_key_eq hkey, hrow ▸ hmakes⟩
    have hchanged : e.after ≠ e.before := fun hsame =>
      Event.not_touches_of_links_eq (by rw [hsame]) _ (hmakes.touches earlier.numbered)
    have hbefore : changesOf e.process h₁ = [] := changesOf_eq_nil fun x hx hi =>
      (earlier.lawful_of_mem hx).after_eq_of_silent (hquiet _ (mem_exchangesOf.2 ⟨x, hx, hi, rfl⟩))
    have hafter : changesOf e.process h₂ = [] := changesOf_eq_nil fun x hx hi =>
      absurd (mem_exchangesOf.2 ⟨x, hx, hi, rfl⟩) (by simp [hnone])
    rw [hsplit, changesOf_split hchanged, hbefore, hafter]
    rfl

/-- A call that reports no change of a link has changed no link, and nothing else unless it has
given or deleted a subscription. -/
theorem silent_of_no_report {i : ι} {outcome : Except ServiceError MembershipReply}
    (houtcome : (together settings calls schedule).outcome? i = some outcome)
    (hreport : (calls i).report? outcome = none) {e : Event ι}
    (he : e ∈ (together settings calls schedule).history) (hi : e.process = i) :
    e.after.links = e.before.links ∧
      ((∀ s, outcome ≠ .ok (.subscription s)) → e.after = e.before) := by
  have lawful := (trace_together settings calls schedule).lawful_of_mem he
  have hmem := mem_exchangesOf.2 ⟨e, he, hi, rfl⟩
  rcases call_accounts houtcome with haccounts | ⟨⟨s, hs⟩, hspares⟩
  · rw [hreport] at haccounts
    have hsilent := haccounts.quiet_of_none _ hmem
    exact ⟨lawful.links_eq_of_spares (.silent hsilent), fun _ => lawful.after_eq_of_silent hsilent⟩
  · exact ⟨lawful.links_eq_of_spares (hspares _ hmem), fun hne => absurd hs (hne s)⟩

/-- The events that touch a link belong to different calls. -/
theorem touches_nodup (finished : (together settings calls schedule).Finished) (n : Nat) :
    ((touchesOf n (together settings calls schedule).history).map (·.process)).Nodup := by
  rw [List.nodup_iff_count_le_one]
  intro i
  rw [List.count, List.countP_map, List.countP_eq_length_filter]
  obtain ⟨outcome, houtcome⟩ := Option.isSome_iff_exists.1 (finished i)
  cases hreport : (calls i).report? outcome with
  | none =>
    have hnone : (touchesOf n (together settings calls schedule).history).filter
        ((· == i) ∘ (·.process)) = [] := by
      rw [List.filter_eq_nil_iff]
      intro e he hi
      obtain ⟨hmem, htouches⟩ := List.mem_filter.1 he
      obtain ⟨hlinks, -⟩ := silent_of_no_report houtcome hreport hmem (beq_iff_eq.1 hi)
      exact Event.not_touches_of_links_eq hlinks n (of_decide_eq_true htouches)
    rw [hnone]
    exact Nat.zero_le 1
  | some report =>
    have hreport : reportIn? calls (together settings calls schedule) i = some report := by
      rw [reportIn?_eq houtcome, hreport]
    obtain ⟨e, -, hchanges, -⟩ := report_made hreport
    have hsub : ((touchesOf n (together settings calls schedule).history).filter
        ((· == i) ∘ (·.process))).Sublist [e] := by
      rw [← hchanges]
      unfold touchesOf changesOf
      rw [List.filter_filter]
      refine List.monotone_filter_right _ fun x hx => ?_
      obtain ⟨hi, htouches⟩ := Bool.and_eq_true_iff.1 hx
      have hne : x.after ≠ x.before := fun hsame =>
        Event.not_touches_of_links_eq (by rw [hsame]) n (of_decide_eq_true htouches)
      simpa [hne] using beq_iff_eq.1 hi
    exact hsub.length_le

/-- **Membership changes are reported exactly once.** When all calls have come to their ends:

1. the events that have touched a link are its creation and then flips of its status, back and
   forth from active on and up to the status that it has; they belong to different calls, and each
   call reports just what its event has done, for the user and the subscription of the link;
2. a call that reports a change has changed the tables by one event, which has made this change;
3. a call that reports none has changed no link, and nothing at all unless it has answered with a
   subscription that it has described or deleted. -/
theorem changes_reported_once (settings : Settings) (calls : ι → MembershipCall)
    (schedule : List (Turn ι)) (finished : (together settings calls schedule).Finished) :
    let w := together settings calls schedule
    (∀ r ∈ w.tables.links, ∃ creation flips status,
      touchesOf r.row w.history = creation :: flips ∧ creation.Makes r.row .created ∧
      Alternates r.row .active flips status ∧ r.status = Vocabulary.word status ∧
      ((creation :: flips).map (·.process)).Nodup ∧
      ∀ e ∈ creation :: flips, ∃ effect, e.Makes r.row effect ∧
        reportIn? calls w e.process = some ⟨⟨r.user⟩, r.subscription, effect⟩) ∧
    (∀ i report, reportIn? calls w i = some report → ∃ e r, changesOf i w.history = [e] ∧
      r ∈ w.tables.links ∧ r.IsOf report.user report.subscription ∧
      e.Makes r.row report.effect) ∧
    ∀ i outcome, w.outcome? i = some outcome → (calls i).report? outcome = none →
      ∀ e ∈ w.history, e.process = i → e.after.links = e.before.links ∧
        ((∀ s, outcome ≠ .ok (.subscription s)) → e.after = e.before) := by
  intro w
  refine ⟨?_, fun i report h => report_made h,
    fun i outcome houtcome hreport e he hi => silent_of_no_report houtcome hreport he hi⟩
  have trace : Trace {} w.history w.tables := trace_together settings calls schedule
  have accounted (e : Event ι) (he : e ∈ w.history) := event_accounted he (finished e.process)
  have single : ∀ e ∈ w.history, e.Single := by
    intro e he
    rcases accounted e he with hsame | ⟨report, r, -, -, -, hmakes⟩
    · exact .inl hsame
    · exact .inr ⟨r.row, report.effect, hmakes⟩
  intro r hr
  obtain ⟨creation, flips, status, htouches, hcreated, halternates, hstatus⟩ :=
    ((trace.link_history single).2 r hr).shape
  refine ⟨creation, flips, status, htouches, hcreated, halternates, hstatus, ?_, ?_⟩
  · rw [← htouches]
    exact touches_nodup finished r.row
  · intro e he
    rw [← htouches] at he
    obtain ⟨hmem, he⟩ := List.mem_filter.1 he
    have he : e.Touches r.row := of_decide_eq_true he
    rcases accounted e hmem with hsame | ⟨report, r', hreport, hr', hof, hmakes⟩
    · exact absurd he (Event.not_touches_of_links_eq hsame r.row)
    have hrow : r.row = r'.row := by
      by_contra hne
      exact hmakes.not_touches hne he
    -- the link of the report is the one that is there at the end
    obtain ⟨h₁, h₂, hsplit⟩ := List.append_of_mem hmem
    obtain ⟨-, -, later⟩ := (hsplit ▸ trace).split
    obtain ⟨r'', hr'', hkey⟩ := later.extends.link hr'
    have hrow'' : r''.row = r.row := (congrArg (·.1) hkey).trans hrow.symm
    obtain rfl : r'' = r := trace.numbered.links.eq_of_fst_eq hr'' hr hrow''
    obtain ⟨huser, hsubscription⟩ := hof.of_key_eq hkey
    refine ⟨report.effect, hrow ▸ hmakes, ?_⟩
    rw [hreport, huser, hsubscription]

/-- A user subscribes; two calls cancel the membership and one makes it active again. -/
def sample : Fin 4 → MembershipCall
  | 0 => .subscribe ⟨1⟩ "ml" "" .start2026
  | 1 => .cancel ⟨1⟩ 1 .start2026
  | 2 => .cancel ⟨1⟩ 1 .start2026
  | 3 => .reactivate ⟨1⟩ 1 .start2026

/-- Both cancellations see the link active, so that one of them loses the race for it. -/
def sampleSchedule : List (Turn (Fin 4)) :=
  [0, 0, 1, 1, 2, 2, 1, 2, 2, 2, 3, 3, 3].map .calm

/-- The lost cancellation reports no change, the others report one each. -/
theorem changes_reported_once_after_lost_race :
    let w := together {} sample sampleSchedule
    w.Finished ∧ ∃ r ∈ w.tables.links, ∃ creation flips,
      touchesOf r.row w.history = creation :: flips ∧ flips.length = 2 ∧
      Alternates r.row .active flips .active ∧
      ((creation :: flips).map (·.process)).Nodup := by
  intro w
  obtain ⟨finished, r, hr, hthree, hactive⟩ : w.Finished ∧ ∃ r ∈ w.tables.links,
      (touchesOf r.row w.history).length = 3 ∧
        r.status = Vocabulary.word LinkStatus.active := by
    unfold World.Finished
    decide +kernel
  have laws := changes_reported_once {} sample sampleSchedule finished
  obtain ⟨creation, flips, status, htouches, -, halternates, hstatus, hnodup, -⟩ := laws.1 r hr
  obtain rfl : status = .active := LinkStatus.word_inj (hstatus.symm.trans hactive)
  refine ⟨finished, r, hr, creation, flips, htouches, ?_, halternates, hnodup⟩
  rw [htouches] at hthree
  exact Nat.succ.inj hthree

end MembershipCall

end ChatLedger
