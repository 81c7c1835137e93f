import ChatLedger.Proofs.Chat.SoftRefresh
import ChatLedger.Proofs.Service.Timely

/-!
# Stores that differ in roll-ups

Store calls on two stores that are the same but for what refreshes of roll-ups write.

1. `Tables.SameButRollups`: the tables are the same, and so are all columns of sessions that no
   refresh writes.
2. `Request.Alike` says of two answers that they lead a program on in the same way. Only the answers
   that are told to the caller may differ, and records of sessions in what no service looks at.
3. `Request.perform_sameButRollups`: every call has such answers, and the stores it leaves differ in
   roll-ups alone.
-/

namespace ChatLedger

open Store Time Operation

namespace Store

/-! ## Columns that last -/

section Lasting

variable {l l' : List SessionRow} (h : l.map SessionRow.lasting = l'.map SessionRow.lasting)
  {condition : SessionRow → Bool} (blind : ∀ r, condition r.lasting = condition r)

include h

theorem length_of_lasting : l.length = l'.length := by simpa using congrArg List.length h

include blind

theorem any_of_lasting : l.any condition = l'.any condition := by
  have within (l : List SessionRow) :
      l.any condition = (l.map SessionRow.lasting).any condition := by
    rw [List.any_map]
    exact congrArg _ (funext fun r => (blind r).symm)
  rw [within, within l', h]

theorem find?_of_lasting :
    (l.find? condition).map SessionRow.lasting = (l'.find? condition).map SessionRow.lasting := by
  have within (l : List SessionRow) :
      (l.find? condition).map SessionRow.lasting = (l.map SessionRow.lasting).find? condition := by
    rw [List.find?_map]
    exact congrArg _ (congrArg (l.find? ·) (funext fun r => (blind r).symm))
  rw [within, within l', h]

theorem countWhere_of_lasting : Tables.countWhere condition l = Tables.countWhere condition l' := by
  have within (l : List SessionRow) :
      l.countP condition = (l.map SessionRow.lasting).countP condition := by
    rw [List.countP_map]
    exact congrArg (l.countP ·) (funext fun r => (blind r).symm)
  unfold Tables.countWhere
  rw [within, within l', h]

/-- A change that depends on lasting columns alone. -/
theorem changeWhere_of_lasting {change : SessionRow → SessionRow}
    (same : ∀ r, (change r.lasting).lasting = (change r).lasting) :
    (changeWhere condition change l).map SessionRow.lasting =
      (changeWhere condition change l').map SessionRow.lasting := by
  have within (l : List SessionRow) : (changeWhere condition change l).map SessionRow.lasting =
      (l.map SessionRow.lasting).map fun r =>
        (if condition r then change r else r).lasting := by
    unfold changeWhere
    rw [List.map_map, List.map_map]
    refine List.map_congr_left fun r _ => ?_
    dsimp only [Function.comp]
    rw [blind r]
    split
    · exact (same r).symm
    · rfl
  rw [within, within l', h]

end Lasting

/-! ## Stores that differ in roll-ups -/

/-- The tables are the same but for what refreshes of roll-ups write. -/
structure Tables.SameButRollups (t t' : Tables) : Prop where
  tables : t' = { t with sessions := t'.sessions }
  columns : t.sessions.map SessionRow.lasting = t'.sessions.map SessionRow.lasting

namespace Tables.SameButRollups

variable {t t' : Tables} {id : Uuid}

theorem refl (t : Tables) : t.SameButRollups t := ⟨rfl, rfl⟩

theorem symm (h : t.SameButRollups t') : t'.SameButRollups t := by
  refine ⟨?_, h.columns.symm⟩
  rw [h.tables]

theorem trans {t'' : Tables} (h : t.SameButRollups t') (h' : t'.SameButRollups t'') :
    t.SameButRollups t'' := by
  refine ⟨?_, h.columns.trans h'.columns⟩
  rw [h'.tables, h.tables]

theorem of_differs (h : t.DiffersInRollup id t') : t.SameButRollups t' :=
  ⟨h.tables, h.columns.symm⟩

theorem messages (h : t.SameButRollups t') : t'.messages = t.messages :=
  congrArg (·.messages) h.tables

/-- Messages are shown in the same way. -/
theorem shows (h : t.SameButRollups t') {condition : SessionRow → Bool}
    (blind : ∀ r, condition r.lasting = condition r) (m : MessageRow) :
    t.shows condition m = t'.shows condition m := by
  unfold Tables.shows
  rw [any_of_lasting h.columns fun r => ?_]
  show (_ && condition r.lasting) = _
  rw [blind]
  rfl

theorem session? (h : t.SameButRollups t') (id : Uuid) :
    (t.session? id).map SessionRow.lasting = (t'.session? id).map SessionRow.lasting :=
  find?_of_lasting h.columns fun _ => rfl

/-- The same sessions are changed in the same way. -/
theorem change (h : t.SameButRollups t') {condition : SessionRow → Bool}
    {change : SessionRow → SessionRow} {messages messages' : List MessageRow}
    (hmessages : messages' = messages) (blind : ∀ r, condition r.lasting = condition r)
    (same : ∀ r, (change r.lasting).lasting = (change r).lasting) :
    Tables.SameButRollups
      { t with sessions := changeWhere condition change t.sessions, messages := messages }
      { t' with sessions := changeWhere condition change t'.sessions, messages := messages' } := by
  refine ⟨?_, changeWhere_of_lasting h.columns blind same⟩
  rw [hmessages, h.tables]

end Tables.SameButRollups

/-! ## One call -/

/-- The answer is told to the caller, and nothing depends on it. -/
def Request.ToldOnly : Request → Prop
  | .listSessions .. | .searchSessions .. | .sessionStats .. | .modelUsage .. | .refreshRollup ..
  | .listSessionMessages .. | .listUserMessages .. | .searchUserMessages .. | .errorMessages ..
  | .recentMessages .. | .sessionMessageStats .. | .userMessageStats .. => True
  | _ => False

/-- Two answers to a call that lead a program on in the same way: a session counts by its owner and
its status. -/
inductive Request.Alike : (r : Request) → (a a' : Except StoreError r.Answer) → Prop
  | same {r : Request} (a : Except StoreError r.Answer) : Alike r a a
  | told {r : Request} {a a' : Except StoreError r.Answer} (h : r.ToldOnly) : Alike r a a'
  | session {id : Uuid} {s s' : Session} (owner : s.owner = s'.owner)
      (status : s.status = s'.status) : Alike (.getSession id) (.ok (some s)) (.ok (some s'))

section Perform

variable {t t' : Tables}

/-- A change that fails on both stores, or takes effect on both. -/
theorem settle_alike {α : Type} {change : Change α} (same : t.SameButRollups t')
    (h : (∃ e, change t = .error e ∧ change t' = .error e) ∨
      ∃ a u u', change t = .ok (a, u) ∧ change t' = .ok (a, u') ∧ u.SameButRollups u') :
    (Request.settle change t).1 = (Request.settle change t').1 ∧
      (Request.settle change t).2.SameButRollups (Request.settle change t').2 := by
  unfold Request.settle
  rcases h with ⟨e, he, he'⟩ | ⟨a, u, u', hu, hu', hsame⟩
  · rw [he, he']
    exact ⟨rfl, same⟩
  · rw [hu, hu']
    exact ⟨rfl, hsame⟩

/-- The change does not see sessions, and touches none. -/
def SparesSessions {α : Type} (change : Change α) : Prop :=
  ∀ t sessions, change { t with sessions := sessions } =
    (change t).map fun p => (p.1, { p.2 with sessions := sessions })

theorem SparesSessions.settle {α : Type} {change : Change α} (h : SparesSessions change)
    (t : Tables) (sessions : List SessionRow) :
    Request.settle change { t with sessions := sessions } =
      ((Request.settle change t).1, { (Request.settle change t).2 with sessions := sessions }) := by
  unfold Request.settle
  rw [h t sessions]
  cases change t <;> rfl

theorem sparesSessions_insertLink (user : UserId) (subscription : Int) (now : Instant) :
    SparesSessions (Tables.insertLink user subscription now) := by
  intro t sessions
  unfold Tables.insertLink
  dsimp only
  generalize requireUnique _ _ = unlinked
  generalize requireReference _ = known
  cases unlinked <;> cases known <;> rfl

theorem sparesSessions_insertSubscription (s : NewSubscription) (now : Instant) :
    SparesSessions (Tables.insertSubscription s now) := by
  intro t sessions
  unfold Tables.insertSubscription Tables.insertLink
  dsimp only
  generalize requireUnique _ "UNIQUE constraint failed: subscriptions.topic_name" = unused
  generalize requireUnique _ _ = unlinked
  generalize requireReference _ = known
  cases unused <;> cases unlinked <;> cases known <;> rfl

theorem sparesSessions_describe (id : Int) (description : String) (now : Instant) :
    SparesSessions (Tables.describe id description now) := by
  intro t sessions
  unfold Tables.describe
  dsimp only
  split <;> rfl

theorem sparesSessions_insertArticle (subscription : Int) (a : NewArticle) (now : Instant) :
    SparesSessions (Tables.insertArticle subscription a now) := by
  intro t sessions
  unfold Tables.insertArticle
  dsimp only
  generalize requireAmount _ _ = rated
  generalize requireReference _ = known
  cases rated with
  | error e => rfl
  | ok u =>
    show (if _ then _ else _) = Except.map _ (if _ then _ else _)
    split
    · rfl
    · cases known <;> rfl

theorem sparesSessions_deleteMessage (id : Uuid) (now : Instant) :
    SparesSessions (Tables.deleteMessage id now) := by
  intro t sessions
  unfold Tables.deleteMessage
  split <;> rfl

theorem sparesSessions_updateMessage (id : Uuid) (u : MessageUpdate) (now : Instant) :
    SparesSessions (Tables.updateMessage id u now) := by
  intro t sessions
  unfold Tables.updateMessage
  dsimp only
  cases t.messages.find? fun r => r.has id && r.isLive with
  | none => rfl
  | some row =>
    show (if _ then _ else _) = Except.map _ (if _ then _ else _)
    split <;> rfl

/-- The call does not see sessions, and touches none. -/
def Request.BlindToSessions (r : Request) : Prop :=
  r.ReadsMembers ∨ r.SparesChat ∨
    match r with
    | .updateMessage .. | .deleteMessage .. => True
    | _ => False

theorem Request.BlindToSessions.perform {r : Request} (h : r.BlindToSessions) (t : Tables)
    (sessions : List SessionRow) : r.perform { t with sessions := sessions } =
      ((r.perform t).1, { (r.perform t).2 with sessions := sessions }) := by
  cases r with
  | createSubscription input now => exact (sparesSessions_insertSubscription input now).settle t _
  | insertLink user subscription now =>
    exact (sparesSessions_insertLink user subscription now).settle t _
  | updateDescription id description now =>
    exact (sparesSessions_describe id description now).settle t _
  | insertArticle subscription article now =>
    exact (sparesSessions_insertArticle subscription article now).settle t _
  | deleteMessage id now => exact (sparesSessions_deleteMessage id now).settle t _
  | updateMessage id u now =>
    show settleRow _ _ _ = ((settleRow _ _ _).1, { (settleRow _ _ _).2 with sessions := sessions })
    unfold settleRow
    rw [sparesSessions_updateMessage id u now t sessions]
    cases Tables.updateMessage id u now t <;> rfl
  | _ => first | rfl | exact (h.elim id (·.elim id id)).elim

theorem Request.BlindToSessions.alike {r : Request} (h : r.BlindToSessions)
    (same : t.SameButRollups t') : (r.perform t).1 = (r.perform t').1 ∧
      (r.perform t).2.SameButRollups (r.perform t').2 := by
  have hsessions : (r.perform t).2.sessions = t.sessions :=
    congrArg (·.2.sessions) (h.perform t t.sessions)
  obtain ⟨sessions, rfl⟩ : ∃ sessions, t' = { t with sessions := sessions } := ⟨_, same.tables⟩
  rw [h.perform t sessions]
  refine ⟨rfl, rfl, ?_⟩
  rw [hsessions]
  exact same.columns

theorem getSession_alike (same : t.SameButRollups t') (legible : t.ChatLegible)
    (legible' : t'.ChatLegible) (id : Uuid) :
    (Request.getSession id).Alike ((Request.getSession id).perform t).1
      ((Request.getSession id).perform t').1 := by
  show (Request.getSession id).Alike ((t.session? id).mapM (·.session))
    ((t'.session? id).mapM (·.session))
  have hcolumns := same.session? id
  cases hrow : t.session? id with
  | none =>
    rw [hrow] at hcolumns
    rw [Option.map_eq_none_iff.1 hcolumns.symm]
    exact .same _
  | some r =>
    rw [hrow] at hcolumns
    obtain ⟨r', hrow', hlasting⟩ := Option.map_eq_some_iff.1 hcolumns.symm
    obtain ⟨s, hread, -⟩ := (legible.sessions r (List.mem_of_find?_eq_some hrow)).exists_session
    obtain ⟨s', hread', -⟩ :=
      (legible'.sessions r' (List.mem_of_find?_eq_some hrow')).exists_session
    have reads := SessionRow.session_eq_ok_iff.1 hread
    have reads' := SessionRow.session_eq_ok_iff.1 hread'
    have hsameOwner : r'.owner = r.owner := (congrArg SessionRow.owner hlasting :)
    have hsameStatus : r'.status = r.status := (congrArg SessionRow.status hlasting :)
    have hstatus := reads'.status
    rw [hsameStatus, reads.status] at hstatus
    rw [hrow', mapM_eq_some.2 ⟨r, rfl, hread⟩, mapM_eq_some.2 ⟨r', rfl, hread'⟩]
    exact .session (reads.owner.trans (hsameOwner ▸ reads'.owner.symm)) (Except.ok.inj hstatus)

/-- **One call** on two stores that differ in roll-ups. -/
theorem Request.perform_sameButRollups (same : t.SameButRollups t') (legible : t.ChatLegible)
    (legible' : t'.ChatLegible) (r : Request) :
    r.Alike (r.perform t).1 (r.perform t').1 ∧
      (r.perform t).2.SameButRollups (r.perform t').2 := by
  have told (h : r.ToldOnly) (hread : r.access = .reader) :
      r.Alike (r.perform t).1 (r.perform t').1 ∧
        (r.perform t).2.SameButRollups (r.perform t').2 := by
    rw [perform_of_reader hread, perform_of_reader hread]
    exact ⟨.told h, same⟩
  have equal (h : (r.perform t).1 = (r.perform t').1 ∧
      (r.perform t).2.SameButRollups (r.perform t').2) :
      r.Alike (r.perform t).1 (r.perform t').1 ∧
        (r.perform t).2.SameButRollups (r.perform t').2 := by
    rw [h.1]
    exact ⟨.same _, h.2⟩
  have live (id : Uuid) : (t.sessions.any fun r => r.has id && r.isLive) =
      t'.sessions.any fun r => r.has id && r.isLive := any_of_lasting same.columns fun _ => rfl
  cases r with
  | getSession id => exact ⟨getSession_alike same legible legible' id, same⟩
  | getMessage id =>
    refine equal ⟨?_, same⟩
    show ((t.messagesWhere fun _ => true).find? _).mapM _ =
      ((t'.messagesWhere fun _ => true).find? _).mapM _
    unfold Tables.messagesWhere
    rw [same.messages, List.filter_congr fun m _ => same.shows (fun _ => rfl) m]
  | createSession session =>
    have hany : (t.sessions.any fun r => r.has session.id) = t'.sessions.any fun r =>
        r.has session.id := any_of_lasting same.columns fun _ => rfl
    refine equal (settle_alike same ?_)
    unfold Tables.insertSession
    rw [← hany, nextRow, nextRow, ← length_of_lasting same.columns]
    generalize requireAmount _ _ = numbered
    generalize requireUnique _ _ = unused
    cases numbered with
    | error e => exact .inl ⟨e, rfl, rfl⟩
    | ok _ =>
      cases unused with
      | error e => exact .inl ⟨e, rfl, rfl⟩
      | ok _ =>
        refine .inr ⟨_, _, _, rfl, rfl, ?_, ?_⟩
        · rw [same.tables]
        · rw [List.map_append, List.map_append, same.columns]
  | updateSessionTopic id topic now =>
    refine equal (settle_alike same ?_)
    unfold Tables.setTopic Tables.changeSession
    rw [← live]
    split
    · exact .inr ⟨_, _, _, rfl, rfl, same.change same.messages (fun _ => rfl) fun _ => rfl⟩
    · exact .inl ⟨_, rfl, rfl⟩
  | setSessionStatus id status now =>
    refine equal (settle_alike same ?_)
    unfold Tables.setStatus Tables.changeSession
    rw [← live]
    split
    · exact .inr ⟨_, _, _, rfl, rfl, same.change same.messages (fun _ => rfl) fun _ => rfl⟩
    · exact .inl ⟨_, rfl, rfl⟩
  | deleteSession id now =>
    refine equal (settle_alike same ?_)
    unfold Tables.deleteSession Tables.setStatus Tables.changeSession
    rw [← live]
    split
    · refine .inr ⟨_, _, _, rfl, ?_, same.change rfl (fun _ => rfl) fun _ => rfl⟩
      rw [← same.messages]
      rfl
    · exact .inl ⟨_, rfl, rfl⟩
  | deleteUserSessions user now =>
    have hany (m : MessageRow) : (t.sessions.any fun s =>
        (s.isLive && s.owner == user.number) && s.id == m.session) = t'.sessions.any fun s =>
        (s.isLive && s.owner == user.number) && s.id == m.session :=
      any_of_lasting same.columns fun _ => rfl
    have hcount : Tables.countWhere (fun s => s.isLive && s.owner == user.number) t.sessions =
        Tables.countWhere (fun s => s.isLive && s.owner == user.number) t'.sessions :=
      countWhere_of_lasting same.columns fun _ => rfl
    refine equal (settle_alike same ?_)
    refine .inr ⟨_, _, _, rfl, ?_, same.change rfl (fun _ => rfl) fun _ => rfl⟩
    unfold Tables.deleteSessionsOf Tables.deleteMessages
    dsimp only
    rw [← same.messages, ← hcount]
    simp only [← hany]
  | refreshRollup session now =>
    refine ⟨.told trivial, ?_⟩
    have differs := Tables.differs_refreshRollup t session now
    have differs' := Tables.differs_refreshRollup t' session now
    exact (Tables.SameButRollups.of_differs differs).symm.trans (same.trans (.of_differs differs'))
  | insertMessage message =>
    have hany : (t.sessions.any fun r => r.has message.session) = t'.sessions.any fun r =>
        r.has message.session := any_of_lasting same.columns fun _ => rfl
    refine equal (settle_alike same ?_)
    unfold Tables.insertMessage
    rw [← hany, same.messages]
    generalize requireAmount _ _ = numbered
    generalize requireUnique _ _ = unused
    generalize requireReference _ = known
    cases numbered with
    | error e => exact .inl ⟨e, rfl, rfl⟩
    | ok _ =>
      cases unused with
      | error e => exact .inl ⟨e, rfl, rfl⟩
      | ok _ =>
        cases known with
        | error e => exact .inl ⟨e, rfl, rfl⟩
        | ok _ =>
          refine .inr ⟨_, _, _, rfl, rfl, ?_, same.columns⟩
          rw [same.tables]
  | updateMessage id update now => exact equal (BlindToSessions.alike (.inr (.inr trivial)) same)
  | deleteMessage id now => exact equal (BlindToSessions.alike (.inr (.inr trivial)) same)
  | listSessions | searchSessions | sessionStats | modelUsage | listSessionMessages
  | listUserMessages | searchUserMessages | errorMessages | recentMessages
  | sessionMessageStats | userMessageStats => exact told trivial rfl
  | findActiveByTopic | getSubscription | findLink | listSubscriptions | listArticles
  | listUserArticles => exact equal (BlindToSessions.alike (.inl trivial) same)
  | _ => exact equal (BlindToSessions.alike (.inr (.inl trivial)) same)

end Perform

end Store

end ChatLedger
