import ChatLedger.Proofs.Membership.Conflicts
import ChatLedger.Proofs.Membership.ReportedOnce
import ChatLedger.Proofs.Service.Calls

/-!
# Lost attempts in a history

Where the attempts of a call that ends in a conflict lie in the history of a run, and which events
of other calls lie within them.

1. `LosesIn` says that an attempt is made and lost in a stretch of the history, and `OvertakenIn`
   that another call has made the change for which it is lost. `overtaken_of_loses`: it always has.
2. `LosesRaces` counts such stretches, one after the other. `losesRaces_of_lost` finds them for all
   attempts of a call, and `LosesRaces.exists_running` counts the changes that others have made.
3. `conflicts_have_rivals`: the two together, for every run on every store that can be reached.
-/

namespace ChatLedger

open Store

variable {ι : Type} [DecidableEq ι] {i : ι}

/-! ## Stretches of a history -/

namespace Store

section Exchanges

variable {history h₁ h₂ : List (Event ι)} {l l₁ l₂ : List Exchange} {x y : Exchange}

theorem exchangesOf_append (i : ι) (h₁ h₂ : List (Event ι)) :
    exchangesOf i (h₁ ++ h₂) = exchangesOf i h₁ ++ exchangesOf i h₂ := by
  simp [exchangesOf]

/-- A process makes no calls in a stretch in which all events are those of others. -/
theorem exchangesOf_eq_nil : exchangesOf i history = [] ↔ ∀ e ∈ history, e.process ≠ i := by
  simp [exchangesOf]

theorem exists_of_exchangesOf_append (h : exchangesOf i history = l₁ ++ l₂) :
    ∃ h₁ h₂, history = h₁ ++ h₂ ∧ exchangesOf i h₁ = l₁ ∧ exchangesOf i h₂ = l₂ := by
  obtain ⟨e₁, e₂, hfilter, rfl, rfl⟩ := List.map_eq_append_iff.1 h
  obtain ⟨h₁, h₂, rfl, rfl, rfl⟩ := List.filter_eq_append_iff.1 hfilter
  exact ⟨h₁, h₂, rfl, rfl, rfl⟩

theorem exists_of_exchangesOf_cons (h : exchangesOf i history = x :: l) :
    ∃ h₁ e h₂, history = h₁ ++ e :: h₂ ∧ exchangesOf i h₁ = [] ∧ e.process = i ∧
      e.exchange = x ∧ exchangesOf i h₂ = l := by
  obtain ⟨e, rest, hfilter, rfl, rfl⟩ := List.map_eq_cons_iff.1 h
  obtain ⟨h₁, h₂, rfl, hothers, hi, rfl⟩ := List.filter_eq_cons_iff.1 hfilter
  refine ⟨h₁, e, h₂, rfl, exchangesOf_eq_nil.2 fun e he => ?_, ?_, rfl, rfl⟩
  · simpa using hothers e he
  · simpa using hi

end Exchanges

/-- The stretch begins and ends with events of the process. -/
structure FramedBy (i : ι) (stretch : List (Event ι)) : Prop where
  first : ∃ e rest, stretch = e :: rest ∧ e.process = i
  last : ∃ rest e, stretch = rest ++ [e] ∧ e.process = i

/-- What a process does at all it does in a stretch that it frames. -/
theorem exists_framed {history : List (Event ι)} (h : exchangesOf i history ≠ []) :
    ∃ before stretch after, history = before ++ (stretch ++ after) ∧ exchangesOf i before = [] ∧
      exchangesOf i after = [] ∧ FramedBy i stretch := by
  obtain ⟨x, l, hxs⟩ := List.exists_cons_of_ne_nil h
  obtain ⟨before, first, rest, rfl, hbefore, hfirst, -, hrest⟩ := exists_of_exchangesOf_cons hxs
  -- from the first event of the process on, up to its last one
  have hxs : exchangesOf i (first :: rest) ≠ [] :=
    fun hnone => exchangesOf_eq_nil.1 hnone first List.mem_cons_self hfirst
  obtain ⟨l, y, hxs⟩ := (List.eq_nil_or_concat _).resolve_left hxs
  rw [List.concat_eq_append] at hxs
  obtain ⟨h₁, h₂, hsplit, -, hy⟩ := exists_of_exchangesOf_append hxs
  obtain ⟨between, last, after, rfl, -, hlast, -, hafter⟩ := exists_of_exchangesOf_cons hy
  refine ⟨before, h₁ ++ between ++ [last], after, by simp [hsplit], hbefore, hafter, ?_,
    ⟨h₁ ++ between, last, rfl, hlast⟩⟩
  cases hstretch : h₁ ++ between ++ [last] with
  | nil => simp at hstretch
  | cons e rest' =>
    have heq : first :: rest = e :: rest' ++ after := by
      rw [hsplit, ← hstretch]
      simp
    exact ⟨e, rest', rfl, (List.cons.inj heq).1 ▸ hfirst⟩

/-- The changes that other processes make. -/
def changesByOthers (i : ι) (history : List (Event ι)) : List (Event ι) :=
  history.filter fun e => e.process ≠ i ∧ e.after ≠ e.before

end Store

/-! ## Lost attempts -/

namespace MembershipCall

/-- In the stretch, the call of the process makes an attempt and loses it: from the first read of
the attempt to the write for which it ends in a conflict. -/
structure LosesIn (c : MembershipCall) (i : ι) (stretch : List (Event ι)) : Prop
    extends FramedBy i stretch where
  loses : c.Loses (exchangesOf i stretch)

/-- The last call that the process makes in the stretch goes back to the one before it, and another
process has made the change in the stretch by which it is overtaken. -/
structure OvertakenIn (i : ι) (stretch : List (Event ι)) : Prop where
  rival : ∃ earlier seen failed, exchangesOf i stretch = earlier ++ [seen, failed] ∧
    ∃ e ∈ changesByOthers i stretch, e.Overtakes seen failed

variable {c : MembershipCall} {start t : Tables} {history h₁ stretch h₂ : List (Event ι)}

/-- What a process has been answered without a failure is what some tables answer. -/
theorem possible_of_performed {events : List (Event ι)}
    (performed : ∀ e ∈ events, e.process = i → e.Performed) :
    ∀ x ∈ exchangesOf i events, x.Possible := by
  intro x hx
  obtain ⟨e, he, hi, rfl⟩ := mem_exchangesOf.1 hx
  exact ⟨e.before, congrArg Prod.fst (performed e he hi)⟩

/-- **A lost attempt has been overtaken** by another call, between its first read and its last
write. -/
theorem overtaken_of_loses (trace : Trace start (h₁ ++ (stretch ++ h₂)) t)
    (connected : start.Connected) (performed : ∀ e ∈ stretch, e.process = i → e.Performed)
    (h : LosesIn c i stretch) : OvertakenIn i stretch := by
  obtain ⟨earlier, seen, failed, hxs, turned⟩ := h.loses.turned (possible_of_performed performed)
  refine ⟨earlier, seen, failed, hxs, ?_⟩
  obtain ⟨s₁, s₂, rfl, -, htwo⟩ := exists_of_exchangesOf_append hxs
  obtain ⟨idle, a, s₃, rfl, -, hai, rfl, hone⟩ := exists_of_exchangesOf_cons htwo
  obtain ⟨between, b, s₄, rfl, hbetween, hbi, rfl, -⟩ := exists_of_exchangesOf_cons hone
  have hsplit : h₁ ++ (s₁ ++ (idle ++ a :: (between ++ b :: s₄)) ++ h₂) =
      (h₁ ++ s₁ ++ idle) ++ a :: (between ++ b :: (s₄ ++ h₂)) := by simp
  rw [hsplit] at trace
  obtain ⟨e, he, overtakes⟩ := trace.exists_overtaking connected (performed a (by simp) hai)
    (performed b (by simp) hbi) turned
  obtain ⟨_, -, until_e⟩ := trace.before_of_mem (e := e) (by simp [he])
  refine ⟨e, List.mem_filter.2 ⟨by simp [he], decide_eq_true ⟨?_, ?_⟩⟩, overtakes⟩
  · exact exchangesOf_eq_nil.1 hbetween e he
  · exact overtakes.effective (until_e.connected connected).numbered

/-- The history is that of so many lost attempts of the call, one after the other and each of them
overtaken. The process does nothing else. -/
inductive LosesRaces (c : MembershipCall) (i : ι) : Nat → List (Event ι) → Prop where
  | start : LosesRaces c i 0 []
  | other {n : Nat} {h : List (Event ι)} {e : Event ι} (earlier : LosesRaces c i n h)
      (other : e.process ≠ i) : LosesRaces c i n (h ++ [e])
  | lost {n : Nat} {h stretch : List (Event ι)} (earlier : LosesRaces c i n h)
      (loses : LosesIn c i stretch) (overtaken : OvertakenIn i stretch) :
      LosesRaces c i (n + 1) (h ++ stretch)

namespace LosesRaces

variable {n : Nat}

theorem append_others (h : LosesRaces c i n h₁) (others : exchangesOf i h₂ = []) :
    LosesRaces c i n (h₁ ++ h₂) := by
  induction h₂ using List.reverseRecOn with
  | nil => rwa [List.append_nil]
  | append_singleton h₂ e ih =>
    rw [exchangesOf_append, List.append_eq_nil_iff] at others
    rw [← List.append_assoc]
    exact .other (ih others.1) (exchangesOf_eq_nil.1 others.2 e (List.mem_singleton_self _))

/-- A process that has lost no race has done nothing. -/
theorem others_of_zero (h : LosesRaces c i 0 history) : exchangesOf i history = [] := by
  generalize hn : 0 = n at h
  induction h with
  | start => rfl
  | other earlier other ih =>
    rw [exchangesOf_append, ih hn, List.nil_append]
    exact exchangesOf_eq_nil.2 (by simpa using other)
  | lost => cases hn

/-- Where an attempt has been overtaken, another process has made a change. -/
theorem one_le_of_overtaken (h : OvertakenIn i stretch) :
    1 ≤ (changesByOthers i stretch).length := by
  obtain ⟨_, _, _, -, e, he, -⟩ := h.rival
  exact List.length_pos_of_mem he

/-- A process that loses races does so in a stretch that it frames, and in this stretch others make
at least as many changes. -/
theorem exists_running (h : LosesRaces c i n history) (hn : 0 < n) :
    ∃ before running after, history = before ++ (running ++ after) ∧ exchangesOf i before = [] ∧
      exchangesOf i after = [] ∧ FramedBy i running ∧ n ≤ (changesByOthers i running).length := by
  induction h with
  | start => exact absurd hn (Nat.lt_irrefl 0)
  | @other n h e earlier other ih =>
    obtain ⟨before, running, after, rfl, hbefore, hafter, framed, hcount⟩ := ih hn
    refine ⟨before, running, after ++ [e], by simp, hbefore, ?_, framed, hcount⟩
    rw [exchangesOf_append, hafter, List.nil_append]
    exact exchangesOf_eq_nil.2 (by simpa using other)
  | @lost n h stretch earlier loses overtaken ih =>
    have hone := one_le_of_overtaken overtaken
    rcases Nat.eq_zero_or_pos n with rfl | hpos
    · exact ⟨h, stretch, [], by simp, earlier.others_of_zero, rfl, loses.toFramedBy, hone⟩
    · obtain ⟨before, running, after, rfl, hbefore, -, framed, hcount⟩ := ih hpos
      obtain ⟨first, rest, rfl, hfirst⟩ := framed.first
      obtain ⟨rest', last, rfl, hlast⟩ := loses.last
      refine ⟨before, first :: rest ++ (after ++ (rest' ++ [last])), [], by simp, hbefore, rfl,
        ⟨⟨first, _, rfl, hfirst⟩, ⟨first :: rest ++ (after ++ rest'), last, by simp, hlast⟩⟩, ?_⟩
      unfold changesByOthers at hone hcount ⊢
      rw [List.filter_append, List.filter_append, List.length_append, List.length_append]
      omega

end LosesRaces

/-- **All attempts of a call** that is lost in each of them. -/
theorem losesRaces_of_lost {lost : List (List Exchange)}
    (overtaken : ∀ h₁ stretch h₂, history = h₁ ++ (stretch ++ h₂) → LosesIn c i stretch →
      OvertakenIn i stretch)
    (hlost : ∀ l ∈ lost, c.Loses l ∧ l ≠ []) (hsplit : history = h₁ ++ h₂)
    (hxs : exchangesOf i h₁ = lost.flatten) : LosesRaces c i lost.length h₁ := by
  induction lost using List.reverseRecOn generalizing h₁ h₂ with
  | nil => exact LosesRaces.append_others .start hxs
  | append_singleton lost l ih =>
    rw [List.flatten_append, List.flatten_singleton] at hxs
    obtain ⟨s₁, s₂, rfl, hearlier, hl⟩ := exists_of_exchangesOf_append hxs
    obtain ⟨hloses, hne⟩ := hlost l (by simp)
    obtain ⟨before, stretch, after, rfl, hbefore, hafter, framed⟩ := exists_framed (hl ▸ hne)
    rw [exchangesOf_append, exchangesOf_append, hbefore, hafter, List.nil_append,
      List.append_nil] at hl
    have loses : LosesIn c i stretch := ⟨framed, hl ▸ hloses⟩
    have hfirst : history = s₁ ++ (before ++ (stretch ++ (after ++ h₂))) := by
      rw [hsplit]
      simp
    have earlier : LosesRaces c i lost.length (s₁ ++ before) :=
      (ih (fun l h => hlost l (by simp [h])) hfirst hearlier).append_others hbefore
    have done := (earlier.lost loses (overtaken (s₁ ++ before) stretch (after ++ h₂)
      (by rw [hsplit]; simp) loses)).append_others hafter
    simpa using done

/-- **Conflicts have rivals.** On a reachable store, calls of all services run at the same time, in any
order of their store calls. Every attempt of a call of the membership service none of whose store calls
is made to fail that ends in a conflict has been overtaken, between its first read and its last write,
by a change that another call has made: it has added an active subscription on the same topic, made the
same link, or flipped its status. Hence a call that ends in a conflict has made and lost as many
attempts as it may, and while it was running other calls have made at least as many changes. -/
theorem conflicts_have_rivals {κ : Type} {before : List (Event κ)} {t : Tables}
    (reachable : Trace {} before t) (settings : ι → Settings) {calls : ι → ServiceCall} {i : ι}
    {c : MembershipCall} (hcall : calls i = .membership c) {schedule : List (Turn ι)}
    (calm : ∀ turn ∈ schedule, turn.process = i → turn.failure = none) :
    let w := (World.mk t (fun i => (calls i).program (settings i)) []).run schedule
    let attempts := max 1 (settings i).subscriptions.attempts.toNat
    (∀ h₁ stretch h₂, w.history = h₁ ++ (stretch ++ h₂) → LosesIn c i stretch →
      OvertakenIn i stretch) ∧
    ∀ reason, w.outcome? i = some (.error (.conflict reason)) →
      LosesRaces c i attempts w.history ∧
      ∃ h₁ running h₂, w.history = h₁ ++ (running ++ h₂) ∧ exchangesOf i h₁ = [] ∧
        exchangesOf i h₂ = [] ∧ FramedBy i running ∧
        attempts ≤ (changesByOthers i running).length := by
  intro w attempts
  have trace : Trace t w.history w.tables := World.trace_run t _ schedule
  have connected := reachable.connected Tables.connected_empty
  have performed : ∀ e ∈ w.history, e.process = i → e.Performed := World.performed_run calm
  have overtaken (h₁ stretch h₂ : List (Event ι)) (hsplit : w.history = h₁ ++ (stretch ++ h₂))
      (loses : LosesIn c i stretch) : OvertakenIn i stretch := by
    rw [hsplit] at trace performed
    exact overtaken_of_loses trace connected (fun e he => performed e (by simp [he])) loses
  refine ⟨overtaken, fun reason houtcome => ?_⟩
  have possible : ∀ x ∈ exchangesOf i w.history, x.Possible := possible_of_performed performed
  have ends : ((calls i).operation (settings i)).Ends (exchangesOf i w.history)
      (.error (.conflict reason)) := World.path_of_outcome houtcome
  rw [hcall] at ends
  obtain ⟨lost, hxs, hlength, hlost⟩ :=
    attempts_of_conflict possible (Operation.ends_of_map_error ends)
  have nonempty : ∀ l ∈ lost, c.Loses l ∧ l ≠ [] := by
    refine fun l hl => ⟨hlost l hl, ?_⟩
    obtain ⟨earlier, seen, failed, rfl, -⟩ := (hlost l hl).turned fun x hx =>
      possible x (hxs ▸ List.mem_flatten_of_mem hl hx)
    simp
  have races : LosesRaces c i attempts w.history := by
    have h := losesRaces_of_lost overtaken nonempty (List.append_nil _).symm hxs
    rwa [hlength] at h
  exact ⟨races, races.exists_running (Nat.lt_of_lt_of_le Nat.zero_lt_one (Nat.le_max_left 1 _))⟩

/-- A user subscribes and then cancels at two times, while other calls cancel, reactivate and cancel the
same membership, publish an article and list the memberships of the user. -/
def manyFlips : Fin 7 → ServiceCall
  | 0 => .membership (.subscribe ⟨1⟩ "ml" "" .start2026)
  | 1 => .membership (.cancel ⟨1⟩ 1 ⟨.start2026, [Time.Instant.start2026.after 1]⟩)
  | 2 => .membership (.cancel ⟨1⟩ 1 .start2026)
  | 3 => .membership (.reactivate ⟨1⟩ 1 .start2026)
  | 4 => .membership (.cancel ⟨1⟩ 1 .start2026)
  | 5 => .createArticle 1 { title := "dated" } .start2026
  | 6 => .listMemberships ⟨1⟩ none none

/-- With two attempts, the first cancellation ends in a conflict: twice the link is flipped between
its look-up and its write. -/
theorem conflicts_have_rivals_of_three :
    let settings : Settings := { subscriptions.attempts := 2 }
    let schedule := [0, 0, 1, 1, 2, 2, 2, 5, 1, 3, 3, 3, 1, 1, 5, 6, 4, 4, 4, 1].map Turn.calm
    let w := (World.mk {} (fun i => (manyFlips i).program settings) []).run schedule
    Trace {} ([] : List (Event Unit)) {} ∧
      manyFlips 1 = .membership (.cancel ⟨1⟩ 1 ⟨.start2026, [Time.Instant.start2026.after 1]⟩) ∧
      (∀ turn ∈ schedule, turn.failure = none) ∧
      w.outcome? 1 = some (.error (.conflict "link 1 changed concurrently")) ∧
      LosesRaces (.cancel ⟨1⟩ 1 ⟨.start2026, [Time.Instant.start2026.after 1]⟩) 1 2 w.history ∧
      ∃ h₁ running h₂, w.history = h₁ ++ (running ++ h₂) ∧ FramedBy 1 running ∧
        2 ≤ (changesByOthers 1 running).length := by
  intro settings schedule w
  have calm : ∀ turn ∈ schedule, turn.failure = none := by decide
  have houtcome : w.outcome? 1 = some (.error (.conflict "link 1 changed concurrently")) := by
    have hended : (w.outcome? 1).map (Except.map fun _ => ()) =
        some (.error (.conflict "link 1 changed concurrently")) := by
      decide +kernel
    obtain ⟨outcome, houtcome, herror⟩ := Option.map_eq_some_iff.1 hended
    cases outcome <;> cases herror
    exact houtcome
  obtain ⟨-, lost⟩ := conflicts_have_rivals (.nil : Trace {} ([] : List (Event Unit)) {})
    (fun _ => settings) (rfl : manyFlips 1 = _) fun turn hturn _ => calm turn hturn
  obtain ⟨races, h₁, running, h₂, hsplit, -, -, framed, hcount⟩ := lost _ houtcome
  exact ⟨.nil, rfl, calm, houtcome, races, h₁, running, h₂, hsplit, framed, hcount⟩

end MembershipCall

end ChatLedger
