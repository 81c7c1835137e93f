import ChatLedger.Proofs.Chat.Apart
import Mathlib.Data.List.Forall2

/-!
# Users do not affect each other

What a user reads depends on the user's own calls alone.

1. A run (`RunStep`) is made of calls of one user with the calls of others in between. `visits` are
   the user's calls with what they ended in.
2. `visits_alone`: the user's calls end as they do on a store that has nothing but the user's
   records, without any calls of others.
3. `users_isolated` compares runs in which the user makes the same calls. They differ only in the
   error that a call on a record of others fails with.
-/

namespace ChatLedger

open Store Operation

/-! ## Runs -/

/-- A step of a run, seen from one user: a call of this user, or calls of others at the same time,
any store call of which may fail. -/
inductive RunStep where
  | own (call : ChatCall)
  | others (calls : List ChatCall) (schedule : List (Turn (Fin calls.length)))

namespace RunStep

/-- The store after the step. -/
def after (settings : Settings) : RunStep → Tables → Tables
  | own call, t => ((call.operation settings).on t).2
  | others calls schedule, t =>
    ((World.mk t (fun i => (calls.get i).program settings) []).run schedule).tables

/-- The user's call. -/
def own? : RunStep → Option ChatCall
  | own call => some call
  | others .. => none

/-- The user makes the user's calls, and others make theirs. -/
def Of (user : UserId) : RunStep → Prop
  | own call => call.user = user
  | others calls _ => ∀ c ∈ calls, c.user ≠ user

instance (user : UserId) : (step : RunStep) → Decidable (step.Of user)
  | own call => inferInstanceAs (Decidable (call.user = user))
  | others calls _ => inferInstanceAs (Decidable (∀ c ∈ calls, c.user ≠ user))

end RunStep

/-- A call of the user with the store that it meets. -/
structure Visit where
  call : ChatCall
  store : Tables

namespace Visit

/-- What the call ends in. -/
def outcome (settings : Settings) (x : Visit) : Except ServiceError ChatReply :=
  ((x.call.operation settings).on x.store).1

/-- The two are the same call and end the same. Only where one of them meets a record of others
under the identifier that it names, they may fail in different ways. -/
def Matches (settings : Settings) (mine : Int → Bool) (x y : Visit) : Prop :=
  x.call = y.call ∧
    (x.outcome settings = y.outcome settings ∨
      (x.call.NamesForeign mine x.store ∨ y.call.NamesForeign mine y.store) ∧
        Fails (x.outcome settings) ∧ Fails (y.outcome settings))

/-- The call ends as it does alone, on a store without records of others. -/
def Follows (settings : Settings) (mine : Int → Bool) (alone x : Visit) : Prop :=
  alone.call = x.call ∧
    (alone.outcome settings = x.outcome settings ∨
      x.call.NamesForeign mine x.store ∧ Fails (alone.outcome settings) ∧
        Fails (x.outcome settings))

/-- The call adds no record under the identifier of a record of others. -/
def Unclaimed (mine : Int → Bool) (x : Visit) : Prop := x.call.Unclaimed mine x.store

instance (mine : Int → Bool) (x : Visit) : Decidable (x.Unclaimed mine) :=
  inferInstanceAs (Decidable (x.call.Unclaimed mine x.store))

/-- Calls that end as the same call does alone match. -/
theorem Follows.matches {settings : Settings} {mine : Int → Bool} {alone x y : Visit}
    (hx : Follows settings mine alone x) (hy : Follows settings mine alone y) :
    Matches settings mine x y := by
  refine ⟨hx.1.symm.trans hy.1, ?_⟩
  rcases hx.2 with hsame | ⟨hforeign, hfails, hfails'⟩
  · rcases hy.2 with hsame' | ⟨hforeign', hfails, hfails'⟩
    · exact .inl (hsame.symm.trans hsame')
    · exact .inr ⟨.inr hforeign', hsame ▸ hfails, hfails'⟩
  · rcases hy.2 with hsame' | ⟨-, -, hfails''⟩
    · exact .inr ⟨.inl hforeign, hfails', hsame' ▸ hfails⟩
    · exact .inr ⟨.inl hforeign, hfails', hfails''⟩

theorem matches_of_follows {settings : Settings} {mine : Int → Bool} {alone xs ys : List Visit}
    (hx : List.Forall₂ (Follows settings mine) alone xs)
    (hy : List.Forall₂ (Follows settings mine) alone ys) :
    List.Forall₂ (Matches settings mine) xs ys := by
  induction hx generalizing ys with
  | nil =>
    cases hy
    exact .nil
  | cons hx _ ih =>
    cases hy with
    | cons hy rest => exact .cons (hx.matches hy) (ih rest)

end Visit

/-- The user's calls in a run, each with the store that it meets. -/
def visits (settings : Settings) : List RunStep → Tables → List Visit
  | [], _ => []
  | .own call :: rest, t => ⟨call, t⟩ :: visits settings rest ((RunStep.own call).after settings t)
  | .others calls schedule :: rest, t =>
    visits settings rest ((RunStep.others calls schedule).after settings t)

/-! ## One step -/

variable {settings : Settings} {user : UserId} {t t' : Tables}

theorem RunStep.proper_after (settings : Settings) (step : RunStep) (proper : t.Proper) :
    (step.after settings t).Proper := by
  cases step with
  | own call => exact Program.proper_run (call.program settings) proper
  | others calls schedule =>
    exact (World.trace_run t (fun i => (calls.get i).program settings) schedule).proper proper

/-- Calls of others leave the records of the user as they were. -/
theorem RunStep.same_after (settings : Settings) {calls : List ChatCall}
    (schedule : List (Turn (Fin calls.length))) (proper : t.Proper)
    (of : (others calls schedule).Of user) :
    Tables.Same (· == user.number) t ((others calls schedule).after settings t) := by
  refine World.run_spares ⟨t, fun i => (calls.get i).program settings, []⟩ proper (fun i => ?_)
    schedule
  have hother : ((calls.get i).user.number == user.number) = false := by
    rw [beq_eq_false_iff_ne]
    intro hnumber
    refine of _ (calls.get_mem i) ?_
    cases huser : (calls.get i).user
    rw [huser] at hnumber
    exact congrArg UserId.mk hnumber
  have spares := (ChatCall.spares (v := (· == user.number)) settings hother t).spares
  exact spares.imp fun _ _ _ => trivial

/-! ## Whole runs -/

/-- **The user's calls end as they do alone**, on a store that has nothing but the user's
records. -/
theorem visits_alone {steps : List RunStep} (proper : t.Proper) (of : ∀ s ∈ steps, s.Of user)
    (unclaimed : ∀ x ∈ visits settings steps t, x.Unclaimed (· == user.number)) :
    List.Forall₂ (Visit.Follows settings (· == user.number))
      (visits settings ((steps.filterMap RunStep.own?).map .own) (t.only (· == user.number)))
      (visits settings steps t) := by
  induction steps generalizing t with
  | nil => exact .nil
  | cons step rest ih =>
    have ofRest := fun s hs => of s (List.mem_cons_of_mem _ hs)
    have properAfter := step.proper_after settings proper
    cases step with
    | others calls schedule =>
      have same := RunStep.same_after settings schedule proper (of _ List.mem_cons_self)
      have hrest := ih properAfter ofRest unclaimed
      rw [same.only_eq] at hrest
      exact hrest
    | own call =>
      have hmine : (call.user.number == user.number) = true :=
        beq_iff_eq.2 (congrArg UserId.number (of _ List.mem_cons_self :))
      have agrees := call.agrees settings hmine proper (unclaimed ⟨call, t⟩ List.mem_cons_self)
      have hrest := ih properAfter ofRest fun x hx => unclaimed x (List.mem_cons_of_mem _ hx)
      refine .cons ⟨rfl, agrees.outcome⟩ ?_
      have hafter : (RunStep.own call).after settings (t.only (· == user.number)) =
          ((RunStep.own call).after settings t).only (· == user.number) := agrees.tables
      rw [hafter]
      exact hrest

/-- Runs in which the user makes the same calls, from stores with the same records of the user. -/
theorem visits_match {steps steps' : List RunStep} (proper : t.Proper) (proper' : t'.Proper)
    (hmine : t'.only (· == user.number) = t.only (· == user.number))
    (of : ∀ s ∈ steps, s.Of user) (of' : ∀ s ∈ steps', s.Of user)
    (same : steps.filterMap RunStep.own? = steps'.filterMap RunStep.own?)
    (unclaimed : ∀ x ∈ visits settings steps t, x.Unclaimed (· == user.number))
    (unclaimed' : ∀ x ∈ visits settings steps' t', x.Unclaimed (· == user.number)) :
    List.Forall₂ (Visit.Matches settings (· == user.number)) (visits settings steps t)
      (visits settings steps' t') := by
  have alone := visits_alone proper of unclaimed
  have alone' := visits_alone proper' of' unclaimed'
  rw [hmine, ← same] at alone'
  exact Visit.matches_of_follows alone alone'

/-! ## Isolation -/

/-- **Users do not affect each other.** From every store that any programs can lead to:

1. whatever calls others make, at the same time and some of whose store calls may fail, no session
   of the user and no message in one changes, and all that the user reads afterwards is the same;
2. in two runs in which the user makes the same calls, these end the same, whatever calls others
   make in between, if none of them adds a record under an identifier that others have taken.

A call of the user that names a record of others fails, but with an error that may depend on
whether the record is there. -/
theorem users_isolated (settings : Settings) (user : UserId) {ι α : Type} [DecidableEq ι]
    (programs : ι → Program α) (earlier : List (Turn ι)) :
    let t := ((World.mk {} programs []).run earlier).tables
    let mine : Int → Bool := (· == user.number)
    (∀ calls : List ChatCall, (∀ c ∈ calls, c.user ≠ user) → ∀ schedule,
      let t' := (RunStep.others calls schedule).after settings t
      Tables.Same mine t t' ∧ ∀ c : ChatCall, c.user = user → c.readings = [] →
        Visit.Matches settings mine ⟨c, t⟩ ⟨c, t'⟩) ∧
    ∀ steps steps' : List RunStep, (∀ s ∈ steps, s.Of user) → (∀ s ∈ steps', s.Of user) →
      steps.filterMap RunStep.own? = steps'.filterMap RunStep.own? →
      (∀ x ∈ visits settings steps t, x.Unclaimed mine) →
      (∀ x ∈ visits settings steps' t, x.Unclaimed mine) →
      List.Forall₂ (Visit.Matches settings mine) (visits settings steps t)
        (visits settings steps' t) := by
  intro t mine
  have proper : t.Proper := (World.trace_run {} programs earlier).proper .empty
  refine ⟨fun calls others schedule => ?_, fun steps steps' of of' same => ?_⟩
  · have same := RunStep.same_after settings schedule proper others
    refine ⟨same, fun c huser hclock => ?_⟩
    have of : ∀ s ∈ [RunStep.own c], s.Of user := by
      intro s hs
      rw [List.mem_singleton.1 hs]
      exact huser
    have unclaimed (t : Tables) : ∀ x ∈ visits settings [.own c] t, x.Unclaimed mine := by
      intro x hx
      rw [List.mem_singleton.1 hx]
      cases c <;> first | exact trivial | cases hclock
    have hmatch := visits_match proper (RunStep.proper_after settings _ proper) same.only_eq of of
      rfl (unclaimed t) (unclaimed _)
    cases hmatch with
    | cons h _ => exact h
  · exact visits_match proper proper rfl of of' same

/-- Somebody opens a session and adds a message to it. -/
abbrev foreignSample : List ChatCall :=
  [.createSession ⟨2⟩ ⟨"plans", none, none⟩ .start2026 (.ofNat 1),
    .createMessage ⟨2⟩ (.ofNat 1) ⟨some (.ofNat 2), .user, "hello", 3, 0.5, .normal, none⟩
      .start2026 (.ofNat 3)]

/-- Whether a message of others is there can be told from the error of a call that names it. -/
theorem not_users_isolated_with_foreign_message :
    ¬ ∀ (settings : Settings) (user : UserId) (calls : List ChatCall)
      (schedule : List (Turn (Fin calls.length))), (∀ c ∈ calls, c.user ≠ user) →
      ∀ c : ChatCall, c.user = user → c.readings = [] →
        Visit.outcome settings ⟨c, (RunStep.others calls schedule).after settings {}⟩ =
          Visit.outcome settings ⟨c, {}⟩ := by
  intro claimed
  have hsame := claimed {} ⟨1⟩ foreignSample [.calm 0, .calm 1, .calm 1, .calm 1] (by decide)
    (.getMessage ⟨1⟩ (.ofNat 2)) rfl rfl
  let kind : Except ServiceError ChatReply → String
    | .ok _ => "ok"
    | .error e => e.kind
  exact absurd (congrArg kind hsame) (by decide +kernel)

/-- A user opens a session, adds a message to it and reads the latest messages. -/
abbrev ownSample : List ChatCall :=
  [.createSession ⟨1⟩ ⟨"notes", none, none⟩ .start2026 (.ofNat 4),
    .createMessage ⟨1⟩ (.ofNat 4) ⟨none, .user, "mine", 3, 0.5, .normal, none⟩ .start2026
      (.ofNat 5),
    .recentMessages ⟨1⟩ 10]

/-- Somebody else tries to delete the session, and deletes all of his own. -/
abbrev deletionSample : List ChatCall :=
  [.deleteSession ⟨2⟩ (.ofNat 4) .start2026, .deleteAllSessions ⟨2⟩ .start2026]

/-- The user's calls with those of somebody else in between. -/
def disturbedSample : List RunStep :=
  [.others foreignSample [.calm 0, .calm 1, .calm 1], .own ownSample[0], .own ownSample[1],
    .others deletionSample [.calm 1, .calm 0, .calm 0], .own ownSample[2]]

/-- The deletions do not touch the user's message, and the user's calls end as without them. -/
theorem users_isolated_from_deletions :
    let t := ((World.mk {} (fun i => (ownSample.get i).program {}) []).run
      [.calm 0, .calm 1, .calm 1]).tables
    let t' := (RunStep.others deletionSample [.calm 1, .calm 0, .calm 0]).after {} t
    let runs := (visits {} disturbedSample {}, visits {} (ownSample.map .own) {})
    t.messages.length = 1 ∧ Tables.Same (· == 1) t t' ∧
      Visit.Matches {} (· == 1) ⟨ownSample[2], t⟩ ⟨ownSample[2], t'⟩ ∧
      (∀ x ∈ runs.1, (x.outcome {}).isOk = true) ∧
      (∃ x ∈ runs.1, (x.store.sessions.length, x.store.messages.length) = (2, 2)) ∧
      List.Forall₂ (Visit.Matches {} (· == 1)) runs.1 runs.2 := by
  intro t t' runs
  obtain ⟨added, ended, stored⟩ : t.messages.length = 1 ∧
      (∀ x ∈ runs.1, (x.outcome {}).isOk = true) ∧
      ∃ x ∈ runs.1, (x.store.sessions.length, x.store.messages.length) = (2, 2) := by
    decide +kernel
  obtain ⟨same, reads⟩ := (users_isolated {} ⟨1⟩ (fun i => (ownSample.get i).program {})
    [.calm 0, .calm 1, .calm 1]).1 deletionSample (by decide) [.calm 1, .calm 0, .calm 0]
  have isolated := users_isolated {} ⟨1⟩ (fun i : Fin 0 => i.elim0 (α := Program Unit)) []
  refine ⟨added, same, reads _ rfl rfl, ended, stored, ?_⟩
  exact isolated.2 disturbedSample (ownSample.map .own) (by decide) (by decide) rfl
    (by decide +kernel) (by decide +kernel)

end ChatLedger
