import ChatLedger.Proofs.Service.DifferingRollups
import Mathlib.Data.List.Forall2

/-!
# Refreshes that were missed

Two runs of the same calls in the same turns: in one of them refreshes of roll-ups may fail, in the
other one none is made to.

1. `Program.Alike`: two programs make the same calls as long as the answers are alike.
   `ServiceCall.alike`: every call is alike to itself, since no service looks at a roll-up.
2. `World.Alike.step` takes one turn of both runs, and `World.alike_runRefreshing` all of them. The
   stores differ in roll-ups alone, and a refresh that is made in the first run writes the same
   figures in the second one.
3. `failed_refreshes_are_soft`: so the failure of a refresh is not seen after the next one.
-/

namespace ChatLedger

open Store Time Operation

namespace Store

/-! ## Programs -/

namespace Program

variable {α β : Type}

/-- The programs make the same calls for as long as the answers are alike, and end in related
answers. -/
inductive Alike (R : α → α → Prop) : Program α → Program α → Prop where
  | done {a a' : α} (h : R a a') : Alike R (.done a) (.done a')
  | call {r : Request} {next next' : Except StoreError r.Answer → Program α}
      (h : ∀ a a', r.Alike a a' → Alike R (next a) (next' a')) :
      Alike R (.call r next) (.call r next')

theorem Alike.bind {R : α → α → Prop} {S : β → β → Prop} {p p' : Program α} {f f' : α → Program β}
    (h : p.Alike R p') (hf : ∀ a a', R a a' → (f a).Alike S (f' a')) :
    (p.bind f).Alike S (p'.bind f') := by
  induction h with
  | done h => exact hf _ _ h
  | call _ ih => exact .call fun a a' ha => ih a a' ha

theorem Alike.mono {R S : α → α → Prop} {p p' : Program α} (h : p.Alike R p')
    (imp : ∀ a a', R a a' → S a a') : p.Alike S p' := by
  induction h with
  | done h => exact .done (imp _ _ h)
  | call _ ih => exact .call ih

/-- A program goes on in the same way if no two of its answers differ that are alike. -/
theorem Asks.alike {R : α → α → Prop} {p : Program α}
    (asks : p.Asks fun r => ∀ a a', r.Alike a a' → a = a') (refl : ∀ a, R a a) : p.Alike R p := by
  induction p with
  | done a => exact .done (refl a)
  | call r next ih =>
    refine .call fun a a' h => ?_
    obtain rfl := asks.1 a a' h
    exact ih a (asks.2 a)

end Program

/-- Nothing depends on the answer but through its being the same on both stores. -/
def Request.Steady : Request → Prop
  | .getSession .. => False
  | r => ¬ r.ToldOnly

/-- Answers differ only where they are told to the caller, or where they are sessions. -/
theorem Request.Steady.eq {r : Request} (steady : r.Steady) : ∀ a a', r.Alike a a' → a = a' := by
  intro a a' h
  cases h with
  | same => rfl
  | told h => cases r <;> first | exact absurd h steady | cases h
  | session => cases steady

theorem Request.steady_of_apart {r : Request} (h : r.ReadsMembers ∨ r.SparesChat) : r.Steady := by
  rcases h with h | h <;> cases r <;> first | exact not_false | cases h

end Store

/-! ## Operations -/

namespace Operation

variable {α β : Type}

/-- Both operations have failed, or they have ended in related values. -/
inductive AlikeOutcomes (V : α → α → Prop) :
    Except ServiceError α → Except ServiceError α → Prop where
  | ok {a a' : α} (h : V a a') : AlikeOutcomes V (.ok a) (.ok a')
  | error (e e' : ServiceError) : AlikeOutcomes V (.error e) (.error e')

/-- The operations make the same calls for as long as the answers are alike, and end in related
outcomes. -/
def Alike (V : α → α → Prop) (op op' : Operation α) : Prop :=
  Program.Alike (AlikeOutcomes V) op.run op'.run

/-- The operations make the same calls for as long as the answers are alike, whatever they end
in. -/
def AlikeCalls (op op' : Operation α) : Prop := Program.Alike (fun _ _ => True) op.run op'.run

section Alike

variable {V : α → α → Prop} {W : β → β → Prop} {op op' : Operation α} {f f' : α → Operation β}
  {r : Request}

theorem alike_pure {a a' : α} (h : V a a') : Alike V (pure a) (pure a') := .done (.ok h)

theorem alike_check {outcome outcome' : Except ServiceError α}
    (h : AlikeOutcomes V outcome outcome') : Alike V (check outcome) (check outcome') := .done h

theorem alike_sameCheck (outcome : Except ServiceError α) :
    Alike Eq (check outcome) (check outcome) := by
  refine alike_check ?_
  cases outcome with
  | ok a => exact .ok rfl
  | error e => exact .error e e

theorem alike_askWith {explain : StoreError → ServiceError} (steady : r.Steady) :
    Alike Eq (askWith explain r) (askWith explain r) := by
  refine .call fun a a' h => ?_
  obtain rfl := steady.eq a a' h
  cases a with
  | ok a => exact .done (.ok rfl)
  | error e => exact .done (.error _ _)

theorem alike_bind (h : op.Alike V op') (hf : ∀ a a', V a a' → (f a).Alike W (f' a')) :
    (op >>= f).Alike W (op' >>= f') := by
  refine Program.Alike.bind (p := op.run) h fun outcome outcome' ho => ?_
  cases ho with
  | ok h => exact hf _ _ h
  | error e e' => exact .done (.error e e')

theorem alikeCalls_bind (h : op.Alike V op') (hf : ∀ a a', V a a' → (f a).AlikeCalls (f' a')) :
    (op >>= f).AlikeCalls (op' >>= f') := by
  refine Program.Alike.bind (p := op.run) h fun outcome outcome' ho => ?_
  cases ho with
  | ok h => exact hf _ _ h
  | error e e' => exact .done trivial

theorem alikeCalls_map {g : α → β} (h : op.AlikeCalls op') : (g <$> op).AlikeCalls (g <$> op') := by
  refine Program.Alike.bind (p := op.run) h fun outcome outcome' _ => ?_
  cases outcome <;> cases outcome' <;> exact .done trivial

theorem Alike.calls (h : op.Alike V op') : op.AlikeCalls op' :=
  Program.Alike.mono h fun _ _ _ => trivial

theorem alikeCalls_pure (a a' : α) : AlikeCalls (pure a) (pure a') := .done trivial

/-- After the last call, whatever it is, no other call is made. -/
theorem alikeCalls_ask (r : Request) : AlikeCalls (ask r) (ask r) :=
  .call fun _ _ _ => .done trivial

theorem alikeCalls_handOn (g : r.Answer → β) :
    AlikeCalls (do return g (← ask r)) (do return g (← ask r)) :=
  .call fun a a' _ => by cases a <;> cases a' <;> exact .done trivial

end Alike

end Operation

/-! ## Calls -/

/-- No service tells the sessions apart. -/
def Session.Alike (s s' : Session) : Prop := s.owner = s'.owner ∧ s.status = s'.status

section Calls

variable {user : UserId} {id : Uuid} {now : Instant}

theorem alike_getSession : Alike (fun o o' => o = o' ∨ ∃ s s', o = some s ∧ o' = some s' ∧
    Session.Alike s s') (ask (.getSession id)) (ask (.getSession id)) := by
  refine .call fun a a' h => ?_
  cases h with
  | same =>
    cases a with
    | ok o => exact .done (.ok (.inl rfl))
    | error e => exact .done (.error _ _)
  | told h => cases h
  | session howner hstatus => exact .done (.ok (.inr ⟨_, _, rfl, rfl, howner, hstatus⟩))

/-- A session is let through, or refused, by its owner. -/
theorem alike_owned : Alike Session.Alike (Sessions.owned user id) (Sessions.owned user id) := by
  refine alike_bind alike_getSession fun o o' ho => ?_
  refine alike_bind (V := Session.Alike) (alike_check ?_) fun s s' hs => ?_
  · rcases ho with rfl | ⟨s, s', rfl, rfl, hs⟩
    · cases o with
      | none => exact .error _ _
      | some s => exact .ok ⟨rfl, rfl⟩
    · exact .ok hs
  refine alike_bind (V := Eq) (alike_check ?_) fun _ _ _ => alike_pure hs
  show AlikeOutcomes Eq (if s.owner = user then .ok () else _)
    (if s'.owner = user then .ok () else _)
  rw [hs.1]
  split
  · exact .ok rfl
  · exact .error _ _

theorem alike_ownedMessage : Alike Eq (Messages.owned user id) (Messages.owned user id) := by
  refine alike_bind (alike_askWith (r := .getMessage id) not_false) fun o _ ho => ?_
  subst ho
  refine alike_bind (alike_sameCheck _) fun m _ hm => ?_
  subst hm
  exact alike_bind alike_owned fun _ _ _ => alike_pure rfl

theorem alikeCalls_refresh : (ofProgram (Sessions.refresh id now)).AlikeCalls
    (ofProgram (Sessions.refresh id now)) :=
  .call fun a a' _ => by
    rcases a with e | _ | rollup <;> rcases a' with e' | _ | rollup' <;> exact .done trivial

theorem alikeCalls_refreshed {α : Type} (value : α) :
    (refreshed value id now).AlikeCalls (refreshed value id now) :=
  .call fun a a' _ => by
    rcases a with e | _ | rollup <;> rcases a' with e' | _ | rollup' <;> exact .done trivial

/-- **No call of the chat service looks at a roll-up.** -/
theorem ChatCall.alike (settings : Settings) (c : ChatCall) :
    (c.operation settings).AlikeCalls (c.operation settings) := by
  cases c with
  | createSession user input now fresh =>
    refine alikeCalls_map (alikeCalls_bind (alike_sameCheck _) fun topic _ htopic => ?_)
    subst htopic
    cases input.model with
    | some model =>
      refine alikeCalls_bind (alike_sameCheck _) fun model _ hmodel => ?_
      subst hmodel
      exact alikeCalls_bind (alike_askWith (r := .createSession _) not_false)
        fun _ _ _ => alikeCalls_pure _ _
    | none =>
      refine alikeCalls_bind (alike_pure rfl) fun model _ hmodel => ?_
      subst hmodel
      exact alikeCalls_bind (alike_askWith (r := .createSession _) not_false)
        fun _ _ _ => alikeCalls_pure _ _
  | getSession user id => exact alikeCalls_map alike_owned.calls
  | updateTopic user id topic now =>
    refine alikeCalls_map (alikeCalls_bind (alike_sameCheck _) fun topic _ htopic => ?_)
    subst htopic
    refine alikeCalls_bind alike_owned fun _ _ _ => ?_
    exact alikeCalls_bind (alike_askWith (r := .updateSessionTopic id topic now) not_false)
      fun _ _ _ => alikeCalls_pure _ _
  | finishSession user id now =>
    refine alikeCalls_map (alikeCalls_bind alike_owned fun s s' hs => ?_)
    rw [hs.2]
    split
    · exact alikeCalls_pure _ _
    · exact alikeCalls_bind (alike_askWith (r := .setSessionStatus id .ended now) not_false)
        fun _ _ _ => alikeCalls_pure _ _
  | deleteSession user id now =>
    exact alikeCalls_map (alikeCalls_bind alike_owned fun _ _ _ => alikeCalls_ask _)
  | deleteAllSessions user now => exact alikeCalls_map (alikeCalls_ask _)
  | listSessions user page size => exact alikeCalls_map (alikeCalls_handOn _)
  | searchSessions user keyword page size =>
    exact alikeCalls_map (alikeCalls_bind (alike_sameCheck _)
      fun _ _ hk => hk ▸ alikeCalls_handOn _)
  | sessionStats user => exact alikeCalls_map (alikeCalls_ask _)
  | modelUsage user => exact alikeCalls_map (alikeCalls_ask _)
  | recompute user id now =>
    exact alikeCalls_map (alikeCalls_bind alike_owned fun _ _ _ => alikeCalls_refresh)
  | createMessage user session input clock fresh =>
    refine alikeCalls_map (alikeCalls_bind (alike_sameCheck _) fun _ _ _ => ?_)
    refine alikeCalls_bind alike_owned fun _ _ _ => ?_
    exact alikeCalls_bind (alike_askWith (r := .insertMessage _) not_false)
      fun _ _ _ => alikeCalls_refreshed _
  | getMessage user id => exact alikeCalls_map alike_ownedMessage.calls
  | updateMessage user id update clock =>
    refine alikeCalls_map (alikeCalls_bind (alike_sameCheck _) fun _ _ _ => ?_)
    refine alikeCalls_bind alike_ownedMessage fun _ _ _ => ?_
    refine alikeCalls_bind (alike_askWith (r := .updateMessage id update (clock 0)) not_false)
      fun m _ hm => ?_
    subst hm
    exact alikeCalls_refreshed m
  | deleteMessage user id clock =>
    refine alikeCalls_map (alikeCalls_bind alike_ownedMessage fun m _ hm => ?_)
    subst hm
    exact alikeCalls_bind (alike_askWith (r := .deleteMessage id (clock 0)) not_false)
      fun _ _ _ => alikeCalls_refreshed _
  | listMessages user session page size =>
    exact alikeCalls_map (alikeCalls_bind alike_owned fun _ _ _ => alikeCalls_handOn _)
  | listUserMessages user page size => exact alikeCalls_map (alikeCalls_handOn _)
  | searchMessages user keyword page size =>
    exact alikeCalls_map (alikeCalls_bind (alike_sameCheck _)
      fun _ _ hk => hk ▸ alikeCalls_handOn _)
  | errorMessages user page size => exact alikeCalls_map (alikeCalls_handOn _)
  | recentMessages user limit => exact alikeCalls_map (alikeCalls_ask _)
  | sessionMessageStats user session =>
    exact alikeCalls_map (alikeCalls_bind alike_owned fun _ _ _ => alikeCalls_ask _)
  | userMessageStats user => exact alikeCalls_map (alikeCalls_ask _)

/-- **No service looks at a roll-up.** -/
theorem ServiceCall.alike (settings : Settings) (c : ServiceCall) :
    (c.program settings).Alike (fun _ _ => True) (c.program settings) := by
  have apart (h : ∀ call, c ≠ .chat call) :
      (c.program settings).Alike (fun _ _ => True) (c.program settings) := by
    have steady := (c.asks_apart settings h).mono fun r hr => (Request.steady_of_apart hr).eq
    exact steady.alike fun _ => trivial
  cases c with
  | chat call => exact alikeCalls_map (call.alike settings)
  | _ => exact apart fun _ h => by cases h

end Calls

/-! ## Runs without failed refreshes -/

namespace Store

variable {ι α : Type} [DecidableEq ι]

/-- The call that a program makes next. -/
def Program.due? : Program α → Option Request
  | .done _ => none
  | .call request _ => some request

namespace World

/-- The turn, but without a failure if a refresh is due. -/
def refreshing (w : World ι α) (turn : Turn ι) : Turn ι :=
  { turn with
    failure :=
      if (w.processes turn.process).due?.any Request.isRefresh then none else turn.failure }

/-- The turns of a schedule, one after the other, without failures of refreshes. -/
def runRefreshing (w : World ι α) (schedule : List (Turn ι)) : World ι α :=
  schedule.foldl (fun w turn => w.step (w.refreshing turn)) w

/-- Such a run is one in which the same processes have their turns, and in which no call fails that
does not fail in the other one. -/
theorem runRefreshing_eq_run (w : World ι α) (schedule : List (Turn ι)) :
    ∃ turns, w.runRefreshing schedule = w.run turns ∧
      List.Forall₂ (fun turn turn' => turn'.process = turn.process ∧
        (turn'.failure = turn.failure ∨ turn'.failure = none)) schedule turns := by
  induction schedule generalizing w with
  | nil => exact ⟨[], rfl, .nil⟩
  | cons turn schedule ih =>
    obtain ⟨turns, hrun, hturns⟩ := ih (w.step (w.refreshing turn))
    refine ⟨w.refreshing turn :: turns, hrun, .cons ⟨rfl, ?_⟩ hturns⟩
    unfold refreshing
    dsimp only
    split
    · exact .inr rfl
    · exact .inl rfl

variable {w w' : World ι α} {turn : Turn ι}

theorem step_of_call {request : Request} {next : Except StoreError request.Answer → Program α}
    (h : w.processes turn.process = .call request next) :
    w.step turn =
      { tables := (attempt turn.failure request w.tables).2
        processes := Function.update w.processes turn.process
          (next (attempt turn.failure request w.tables).1)
        history := w.history ++ [⟨turn.process, request, (attempt turn.failure request w.tables).1,
          w.tables, (attempt turn.failure request w.tables).2⟩] } := by
  unfold step
  rw [h]

theorem step_of_done {a : α} (h : w.processes turn.process = .done a) : w.step turn = w := by
  unfold step
  rw [h]

/-- In such a run every refresh is carried out. -/
theorem refreshed_of_mem {w : World ι α} {schedule : List (Turn ι)}
    (first : ∀ e ∈ w.history, e.request.isRefresh = true →
      e.request.perform e.before = (e.answer, e.after)) :
    ∀ e ∈ (w.runRefreshing schedule).history, e.request.isRefresh = true →
      e.request.perform e.before = (e.answer, e.after) := by
  induction schedule generalizing w with
  | nil => exact first
  | cons turn schedule ih =>
    refine ih (w := w.step (w.refreshing turn)) fun e he hrefresh => ?_
    cases hdue : w.processes turn.process with
    | done a =>
      rw [step_of_done (show w.processes (w.refreshing turn).process = _ from hdue)] at he
      exact first e he hrefresh
    | call request next =>
      rw [step_of_call (show w.processes (w.refreshing turn).process = _ from hdue)] at he
      rcases List.mem_append.1 he with he | he
      · exact first e he hrefresh
      · obtain rfl := List.mem_singleton.1 he
        have hcalm : (w.refreshing turn).failure = none := by
          unfold refreshing
          dsimp only
          rw [hdue]
          exact if_pos hrefresh
        rw [hcalm]
        rfl

end World

/-! ## Two runs -/

/-- The events are those of the same call of the same process, and if the first is a refresh that
has written figures, then so is the second, and the figures are the same. -/
structure Event.Heals (e e' : Event ι) : Prop where
  process : e'.process = e.process
  request : e'.request = e.request
  figures : ∀ id now rollup, e.exchange = ⟨.refreshRollup id now, .ok (some rollup)⟩ →
    e'.exchange = e.exchange ∧ ∃ s s', e.after.session? id = some s ∧
      e'.after.session? id = some s' ∧ s'.figures = s.figures

section Refreshed

variable {t t' u : Tables} {id : Uuid} {now : Instant} {rollup : Rollup}

/-- What a refresh has written. -/
theorem Tables.session?_refreshed (h : Tables.refreshRollup id now t = .ok (some rollup, t')) :
    ∃ s tokens, t'.session? id = some s ∧
      Tables.sumOf ((t.kept id.text).map (·.tokens)) = .ok tokens ∧
      s.figures =
        (((t.kept id.text).length : Int), tokens,
          Tables.totalOf ((t.kept id.text).map (·.cost))) := by
  rcases refreshRollup_ok h with ⟨habsent, -⟩ | ⟨tokens, hlive, htokens, -, rfl⟩
  · cases habsent
  obtain ⟨r, hr⟩ := Option.isSome_iff_exists.1 hlive
  refine ⟨rolledUp (t.kept id.text) tokens now r, tokens, ?_, htokens, rfl⟩
  have hmet : (r.has id && r.isLive) = true := by simpa using List.find?_some hr
  -- a refresh changes neither what a row is called nor whether it is live
  have hcondition : ((fun r : SessionRow => r.has id && r.isLive) ∘ fun r =>
      if r.has id && r.isLive then rolledUp (t.kept id.text) tokens now r else r) =
      fun r => r.has id && r.isLive := by
    funext x
    dsimp only [Function.comp]
    split <;> rfl
  show (t.sessions.map _).find? _ = _
  rw [List.find?_map, hcondition, show t.sessions.find? _ = some r from hr, Option.map_some,
    if_pos hmet]

/-- **A refresh writes the same figures** on two stores that differ in roll-ups. -/
theorem Request.refreshed_alike (same : t.SameButRollups t')
    (h : (Request.refreshRollup id now).perform t = (.ok (some rollup), u)) :
    ∃ u' s s', (Request.refreshRollup id now).perform t' = (.ok (some rollup), u') ∧
      u.session? id = some s ∧ u'.session? id = some s' ∧ s'.figures = s.figures := by
  have hrefresh := Request.settle_eq_ok.1 h
  have hkept : t'.kept id.text = t.kept id.text := by
    unfold Tables.kept
    rw [same.messages]
  have hsession := same.session? id
  obtain ⟨u', hrefresh'⟩ : ∃ u', Tables.refreshRollup id now t' = .ok (some rollup, u') := by
    rcases Tables.refreshRollup_ok hrefresh with ⟨habsent, -⟩ | ⟨tokens, hlive, htokens, hrollup, -⟩
    · cases habsent
    have hthere : (t'.session? id).isNone = false := by
      rw [← Option.isNone_map (f := SessionRow.lasting), ← hsession, Option.isNone_map]
      simpa using hlive
    unfold Tables.refreshRollup
    simp only [hthere, Bool.false_eq_true, if_false, hkept, htokens, hrollup]
    exact ⟨_, rfl⟩
  obtain ⟨s, tokens, hs, htokens, hfigures⟩ := Tables.session?_refreshed hrefresh
  obtain ⟨s', tokens', hs', htokens', hfigures'⟩ := Tables.session?_refreshed hrefresh'
  rw [hkept] at htokens' hfigures'
  obtain rfl : tokens = tokens' := Except.ok.inj (htokens.symm.trans htokens')
  exact ⟨u', s, s', Request.settle_eq_ok.2 hrefresh', hs, hs', hfigures'.trans hfigures.symm⟩

end Refreshed

/-- The stores differ in roll-ups alone, and the processes have come equally far. -/
structure World.Alike (w w' : World ι α) : Prop where
  tables : w.tables.SameButRollups w'.tables
  processes : ∀ i, (w.processes i).Alike (fun _ _ => True) (w'.processes i)
  history : List.Forall₂ Event.Heals w.history w'.history

omit [DecidableEq ι] in
/-- **One call of both runs**: a refresh that may fail and one that does not, or another call that
fails in both or in none. -/
theorem attempt_alike {t t' : Tables} (same : t.SameButRollups t') (legible : t.ChatLegible)
    (legible' : t'.ChatLegible) (i : ι) (failure : Option StoreError) (r : Request) :
    let result := attempt failure r t
    let result' := attempt (if r.isRefresh then none else failure) r t'
    r.Alike result.1 result'.1 ∧ result.2.SameButRollups result'.2 ∧
      Event.Heals ⟨i, r, result.1, t, result.2⟩ ⟨i, r, result'.1, t', result'.2⟩ := by
  intro result result'
  by_cases hrefresh : r.isRefresh = true
  · obtain ⟨id, now, rfl⟩ : ∃ id now, r = .refreshRollup id now := by
      cases r <;> first | exact ⟨_, _, rfl⟩ | cases hrefresh
    refine ⟨.told trivial, ?_, rfl, rfl, fun id' now' rollup h => ?_⟩
    · cases failure with
      | none => exact (Request.perform_sameButRollups same legible legible' _).2
      | some e => exact same.trans (.of_differs (Tables.differs_refreshRollup t' id now))
    · cases failure with
      | none =>
        obtain ⟨hcall, hanswer⟩ := Exchange.mk.inj h
        cases hcall
        have hperform : (Request.refreshRollup id now).perform t = (.ok (some rollup), result.2) :=
          Prod.ext (eq_of_heq hanswer) rfl
        obtain ⟨u', s, s', hperform', hs, hs', hfigures⟩ := Request.refreshed_alike same hperform
        have hresult' : result' = (.ok (some rollup), u') := hperform'
        rw [hresult']
        exact ⟨h.symm, s, s', hs, hs', hfigures⟩
      | some e => cases h
  · have hresult' : result' = attempt failure r t' := by simp [result', hrefresh]
    have hcall : r.Alike result.1 result'.1 ∧ result.2.SameButRollups result'.2 := by
      rw [hresult']
      cases failure with
      | none => exact Request.perform_sameButRollups same legible legible' r
      | some e => exact ⟨.same _, same⟩
    refine ⟨hcall.1, hcall.2, rfl, rfl, fun id now rollup h => ?_⟩
    obtain rfl : r = .refreshRollup id now := congrArg Exchange.request h
    exact absurd rfl hrefresh

variable {w w' : World ι α}

/-- **One turn** of both runs. -/
theorem World.Alike.step (alike : w.Alike w') (legible : w.tables.ChatLegible)
    (legible' : w'.tables.ChatLegible) (turn : Turn ι) :
    (w.step turn).Alike (w'.step (w'.refreshing turn)) := by
  have hprocess := alike.processes turn.process
  generalize hp : w.processes turn.process = p at hprocess
  generalize hp' : w'.processes turn.process = p' at hprocess
  cases hprocess with
  | done _ =>
    rw [step_of_done hp, step_of_done (show w'.processes (w'.refreshing turn).process = _ from hp')]
    exact alike
  | @call r next next' hnext =>
    have hfailure : (w'.refreshing turn).failure = if r.isRefresh then none else turn.failure := by
      unfold World.refreshing
      rw [hp']
      rfl
    obtain ⟨hanswer, htables, hheals⟩ :=
      attempt_alike alike.tables legible legible' turn.process turn.failure r
    rw [step_of_call hp, step_of_call (show w'.processes (w'.refreshing turn).process = _ from hp'),
      hfailure]
    refine ⟨htables, fun i => ?_, ?_⟩
    · by_cases hi : i = turn.process
      · subst hi
        simp only [Function.update_self, World.refreshing]
        exact hnext _ _ hanswer
      · have hi' : i ≠ (w'.refreshing turn).process := hi
        dsimp only
        rw [Function.update_of_ne hi, Function.update_of_ne hi']
        exact alike.processes i
    · exact List.rel_append alike.history (.cons hheals .nil)

variable {settings : ι → Settings} {calls : ι → ServiceCall}

/-- **All turns** of both runs. -/
theorem World.alike_runRefreshing (clocks : ∀ i, ∀ now ∈ (calls i).readings, now.HasFourDigitYear)
    (schedule : List (Turn ι)) :
    let w := World.mk {} (fun i => (calls i).program (settings i)) []
    (w.run schedule).Alike (w.runRefreshing schedule) := by
  intro w
  induction schedule using List.reverseRecOn with
  | nil => exact ⟨.refl _, fun i => (calls i).alike (settings i), .nil⟩
  | append_singleton schedule turn ih =>
    have legible := World.chatLegible_run settings clocks
    obtain ⟨turns, hrun, -⟩ := w.runRefreshing_eq_run schedule
    rw [World.run_append, show w.runRefreshing (schedule ++ [turn]) =
      (w.runRefreshing schedule).step ((w.runRefreshing schedule).refreshing turn) from
        List.foldl_append]
    refine ih.step (legible schedule) ?_ turn
    rw [hrun]
    exact legible turns

end Store

/-! ## Failed refreshes -/

/-- **The failure of a refresh is soft.** Calls of the services run at the same time on an empty
store, and any of their store calls may fail. Whatever they leave behind, and whichever message is
then created, changed or deleted: where the refresh of the roll-up fails, the call has the same
value and leaves the same messages as where it does not, with a warning and the sessions as they
were; otherwise it has figures and no warning, and only the roll-up of the session changes. If
moreover all clocks are in the years 0 to 9999, then in the same turns, but without failures of
refreshes, every call makes the same store calls, and whenever a refresh has written figures it has
written those it writes there. -/
theorem failed_refreshes_are_soft {ι : Type} [DecidableEq ι] (settings : ι → Settings)
    (calls : ι → ServiceCall) (schedule : List (Turn ι)) :
    let start := World.mk {} (fun i => (calls i).program (settings i)) []
    let w := start.run schedule
    (∀ {α : Type} {clock : Clock} {op : Operation (Refreshed α)} {own : α → Uuid},
      MessageChange clock op own → ∀ (answer : Refreshed α) (t' : Tables) (error : StoreError),
        op.on w.tables = (.ok answer, t') →
          SoftFailure op own (clock 1) w.tables error answer t') ∧
    ((∀ i, ∀ now ∈ (calls i).readings, now.HasFourDigitYear) →
      let w' := start.runRefreshing schedule
      (∀ e ∈ w'.history, e.request.isRefresh = true →
        e.request.perform e.before = (e.answer, e.after)) ∧
      List.Forall₂ Event.Heals w.history w'.history) := by
  intro start w
  refine ⟨fun change answer t' error h => change.softFailure ?_ h error, fun clocks => ⟨?_, ?_⟩⟩
  · exact (World.trace_run {} _ schedule).keyed Tables.keyed_empty
  · exact World.refreshed_of_mem fun e he => by cases he
  · exact (World.alike_runRefreshing clocks schedule).history

/-- A session, a message in it with the given clock, and a refresh on demand. -/
def messageThenRefresh (clock : Clock) : Fin 3 → ServiceCall
  | 0 => .chat (.createSession ⟨1⟩ ⟨"plans", none, none⟩ .start2026 (.ofNat 1))
  | 1 => .chat (.createMessage ⟨1⟩ (.ofNat 1) ⟨none, .user, "hello", 3, 0.5, .normal, none⟩ clock
      (.ofNat 2))
  | 2 => .chat (.recompute ⟨1⟩ (.ofNat 1) .start2026)

/-- A session is opened and gets a message, whose refresh fails; the one on demand does not. -/
def firstRefreshFails {ι : Type} (opening message onDemand : ι) : List (Turn ι) :=
  [.calm opening, .calm message, .calm message, ⟨message, some (.query "database is locked")⟩,
    .calm onDemand, .calm onDemand]

/-- The refresh on demand makes up for the one that failed, and then the message is deleted. -/
theorem failed_refreshes_are_soft_after_one :
    let start := World.mk {} (fun i => (messageThenRefresh .start2026 i).program {}) []
    let schedule := firstRefreshFails 0 1 2
    let w := start.run schedule
    let delete := Messages.delete ⟨1⟩ (.ofNat 2) .start2026
    (∀ i, ∀ now ∈ (messageThenRefresh .start2026 i).readings, now.HasFourDigitYear) ∧
      List.Forall₂ Event.Heals w.history (start.runRefreshing schedule).history ∧
      (w.tables.session? (.ofNat 1)).map (·.messageCount) = some 1 ∧
      ∃ answer t', delete.on w.tables = (.ok answer, t') ∧
        SoftFailure delete id .start2026 w.tables (.query "database is locked") answer t' := by
  intro start schedule w delete
  have clocks : ∀ i, ∀ now ∈ (messageThenRefresh .start2026 i).readings, now.HasFourDigitYear := by
    decide +kernel
  obtain ⟨soft, heals⟩ :=
    failed_refreshes_are_soft (fun _ => {}) (messageThenRefresh .start2026) schedule
  refine ⟨clocks, (heals clocks).2, by decide +kernel, ?_⟩
  rcases hdelete : delete.on w.tables with ⟨outcome, t'⟩
  have hok : (delete.on w.tables).1.isOk = true := by decide +kernel
  rw [hdelete] at hok
  cases outcome with
  | error e => cases hok
  | ok answer => exact ⟨answer, t', rfl, soft (.delete ⟨1⟩ (.ofNat 2)) answer t' _ hdelete⟩

/-- A refresh in year 10000 leaves a session that cannot be read: the refresh on demand is made only
if that one has failed. -/
theorem not_failed_refreshes_are_soft_in_year10000 :
    ¬ ∀ (settings : Fin 3 → Settings) (calls : Fin 3 → ServiceCall)
        (schedule : List (Turn (Fin 3))),
      let start := World.mk {} (fun i => (calls i).program (settings i)) []
      List.Forall₂ Event.Heals (start.run schedule).history
        (start.runRefreshing schedule).history := by
  intro h
  have hlength :=
    (h (fun _ => {}) (messageThenRefresh .year10000) (firstRefreshFails 0 1 2)).length_eq
  exact absurd hlength (by decide +kernel)

end ChatLedger
