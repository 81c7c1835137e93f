import ChatLedger.Proofs.Chat.Shares

/-!
# Store calls on one part of the store

A store call on records of some users finds the same on the whole store as on the part that belongs
to these users, and does the same there.

1. `Tables.Proper.alike_only`: the users see the same in both stores.
2. `Mirrors`: a change to the whole store is one to their part, with the same answer or failure.
3. `Request.perform_within` puts both together for all store calls on sessions and messages.
-/

namespace ChatLedger.Store

open Time

/-- A new session is the same row but for its number. -/
theorem SessionRow.setRow_ofSession (n k : Nat) (s : Session) :
    (SessionRow.ofSession k s).setRow n = .ofSession n s := by
  simp only [setRow, ofSession]

variable {v : Int → Bool} {t : Tables}

/-! ## What is found -/

namespace Tables

theorem owner_of_mem_only {s : SessionRow} (hs : s ∈ (t.only v).sessions) : v s.owner = true := by
  obtain ⟨i, hi, rfl⟩ := List.mem_mapIdx.1 hs
  exact (List.mem_filter.1 (List.getElem_mem hi)).2

/-- Sessions are found in the part by anything but their numbers. -/
theorem any_sessions_only {p : SessionRow → Bool} (blind : ∀ n s, p (.setRow n s) = p s)
    (hp : ∀ s ∈ t.sessions, p s = true → v s.owner = true) :
    (t.only v).sessions.any p = t.sessions.any p :=
  (any_renumber blind).trans (any_dropped hp)

theorem any_messages_only {p : MessageRow → Bool} (blind : ∀ n m, p (.setRow n m) = p m)
    (hp : ∀ m ∈ t.messages, p m = true → t.belongs v m = true) :
    (t.only v).messages.any p = t.messages.any p :=
  (any_renumber blind).trans (any_dropped hp)

theorem countWhere_sessions_only {p : SessionRow → Bool} (blind : ∀ n s, p (.setRow n s) = p s)
    (hp : ∀ s ∈ t.sessions, p s = true → v s.owner = true) :
    countWhere p (t.only v).sessions = countWhere p t.sessions :=
  (countWhere_renumber blind).trans (countWhere_dropped hp)

theorem countWhere_messages_only {p : MessageRow → Bool} (blind : ∀ n m, p (.setRow n m) = p m)
    (hp : ∀ m ∈ t.messages, p m = true → t.belongs v m = true) :
    countWhere p (t.only v).messages = countWhere p t.messages :=
  (countWhere_renumber blind).trans (countWhere_dropped hp)

theorem Proper.sameSessions (proper : t.Proper) (v : Int → Bool) :
    SameRows SessionRow.row SessionRow.bare (t.sessionsWithin v) (t.only v).sessions :=
  .renumber (proper.numbered.sessions.pairwise.filter _) (fun _ _ => rfl) fun _ _ => rfl

theorem Proper.sameMessages (proper : t.Proper) (v : Int → Bool) :
    SameRows MessageRow.row MessageRow.bare (t.messagesWithin v) (t.only v).messages :=
  .renumber (proper.numbered.messages.pairwise.filter _) (fun _ _ => rfl) fun _ _ => rfl

/-- **The users see the same** in the whole store and in their part. -/
theorem Proper.alike_only (proper : t.Proper) (v : Int → Bool) : Alike v t (t.only v) where
  sessions := by
    have hseen : t.visibleSessions v = (t.sessionsWithin v).filter (·.isLive) :=
      List.filter_filter.symm
    rw [hseen]
    refine (proper.sameSessions v).filter fun s _ s' hs' hbare => ?_
    rw [owner_of_mem_only hs', Bool.and_true]
    exact (congrArg SessionRow.isLive hbare :)
  messages := by
    have hseen : t.visibleMessages v = (t.messagesWithin v).filter (t.shows fun s => v s.owner) :=
      (filter_dropped fun m _ hshown => by
        obtain ⟨-, s, hs, hid, -, howner⟩ := shows_eq_true.1 hshown
        exact belongs_eq_true.2 ⟨s, hs, hid, howner⟩).symm
    rw [hseen]
    refine (proper.sameMessages v).filter fun m _ m' _ hbare => ?_
    have hlive : m.isLive = m'.isLive := (congrArg MessageRow.isLive hbare :)
    have hsession : m.session = m'.session := (congrArg MessageRow.session hbare :)
    unfold shows
    rw [hlive, hsession, any_sessions_only (fun _ _ => rfl) fun s _ hmet => ?_]
    exact (Bool.and_eq_true_iff.1 hmet).2

end Tables

open Tables

/-- In the part of the users, a read finds nothing but what they see. -/
theorem Request.Confined.only {r : Request} (h : r.Confined v t) : r.Confined v (t.only v) := by
  cases r with
  | getSession id => exact fun s hs _ _ => owner_of_mem_only hs
  | listSessionMessages id request => exact fun s hs _ _ => owner_of_mem_only hs
  | sessionMessageStats id => exact fun s hs _ _ => owner_of_mem_only hs
  | getMessage id =>
    intro m _ _ hshown
    obtain ⟨hlive, s, hs, hsession, hopen, -⟩ := shows_eq_true.1 hshown
    exact shows_eq_true.2 ⟨hlive, s, hs, hsession, hopen, owner_of_mem_only hs⟩
  | _ => exact h

/-- A read of what the users see does on the whole store what it does on their part. -/
theorem Request.perform_confined (proper : t.Proper) {r : Request} (reads : r.ReadsChat)
    (h : r.Confined v t) : r.perform (t.only v) = ((r.perform t).1, (r.perform t).2.only v) := by
  refine Prod.ext (perform_alike (proper.alike_only v) reads h h.only).symm ?_
  rw [perform_of_reader reads.reader, perform_of_reader reads.reader]

/-- A read of records of the users reads only what they see. -/
theorem Request.Within.confined {r : Request} (h : r.Within v t) (keyed : t.Keyed)
    (reads : r.ReadsChat) : r.Confined v t := by
  cases r with
  | getSession id => exact fun s hs hid _ => h s hs hid
  | listSessionMessages id request => exact fun s hs hid _ => h s hs hid
  | sessionMessageStats id => exact fun s hs hid _ => h s hs hid
  | getMessage id =>
    intro m hm hid hshown
    obtain ⟨hlive, s, hs, hsession, hopen, -⟩ := shows_eq_true.1 hshown
    exact shows_eq_true.2
      ⟨hlive, s, hs, hsession, hopen, keyed.owner_of_belongs (h m hm hid) hs hsession⟩
  | _ => first | exact h | exact reads.elim

/-! ## Changes -/

/-- The change does to the part of the users what it does to the whole store, with the same answer
or failure. -/
def Mirrors {α : Type} (v : Int → Bool) (t : Tables) (change : Change α) : Prop :=
  change (t.only v) = (change t).map fun p => (p.1, p.2.only v)

theorem Mirrors.settle {α : Type} {change : Change α} (h : Mirrors v t change) :
    Request.settle change (t.only v) =
      ((Request.settle change t).1, (Request.settle change t).2.only v) := by
  unfold Request.settle
  rw [show change (t.only v) = _ from h]
  cases change t <;> rfl

namespace Tables

section Change

variable {condition : SessionRow → Bool} {change : SessionRow → SessionRow}
  {condition' : MessageRow → Bool} {change' : MessageRow → MessageRow}

/-- A change of sessions in place. -/
theorem only_changeSessions (blind : ∀ n s, condition (.setRow n s) = condition s)
    (commutes : ∀ n s, change (.setRow n s) = .setRow n (change s)) (keeps : KeepsOwner change) :
    only { t with sessions := changeWhere condition change t.sessions } v =
      { t.only v with sessions := changeWhere condition change (t.only v).sessions } := by
  have hsessions : sessionsWithin { t with sessions := changeWhere condition change t.sessions } v =
      changeWhere condition change (t.sessionsWithin v) :=
    changeWhere_filter fun s => by rw [(keeps s).2]
  have hmessages : messagesWithin { t with sessions := changeWhere condition change t.sessions } v =
      t.messagesWithin v :=
    messagesWithin_congr (belongs_changeWhere rfl keeps) rfl
  unfold only
  rw [hsessions, hmessages, renumber_changeWhere blind commutes]

/-- A change of messages in place. -/
theorem only_changeMessages (blind : ∀ n m, condition' (.setRow n m) = condition' m)
    (commutes : ∀ n m, change' (.setRow n m) = .setRow n (change' m))
    (keeps : ∀ m, (change' m).session = m.session) :
    only { t with messages := changeWhere condition' change' t.messages } v =
      { t.only v with messages := changeWhere condition' change' (t.only v).messages } := by
  have hmessages :
      messagesWithin { t with messages := changeWhere condition' change' t.messages } v =
        changeWhere condition' change' (t.messagesWithin v) :=
    changeWhere_filter fun m => by
      unfold belongs
      rw [keeps]
  unfold only
  rw [hmessages, renumber_changeWhere blind commutes]
  rfl

end Change

/-- A change of the session of this identifier. -/
theorem mirrors_changeSession {id : Uuid} {change : SessionRow → SessionRow}
    (h : ∀ s ∈ t.sessions, s.has id = true → v s.owner = true)
    (commutes : ∀ n s, change (.setRow n s) = .setRow n (change s)) (keeps : KeepsOwner change) :
    Mirrors v t (changeSession id change) := by
  have hfound : ((t.only v).sessions.any fun r => r.has id && r.isLive) =
      t.sessions.any fun r => r.has id && r.isLive :=
    any_sessions_only (fun _ _ => rfl) fun s hs hmet => h s hs (Bool.and_eq_true_iff.1 hmet).1
  unfold Mirrors changeSession
  rw [hfound]
  split
  · refine congrArg (fun t => Except.ok ((), t)) (Eq.symm ?_)
    exact only_changeSessions (fun _ _ => rfl) commutes keeps
  · rfl

/-- A deletion of messages of the users. -/
theorem deleteMessages_only {condition : MessageRow → Bool} {now : Instant}
    (blind : ∀ n m, condition (.setRow n m) = condition m)
    (h : ∀ m ∈ t.messages, condition m = true → t.belongs v m = true) :
    deleteMessages condition now (t.only v) =
      ((deleteMessages condition now t).1, (deleteMessages condition now t).2.only v) := by
  have hmet (n : Nat) (m : MessageRow) :
      (condition (.setRow n m) && (m.setRow n).isLive) = (condition m && m.isLive) := by
    rw [blind]
    rfl
  have hcount : countWhere (fun m => condition m && m.isLive) (t.only v).messages =
      countWhere (fun m => condition m && m.isLive) t.messages :=
    countWhere_messages_only hmet fun m hm hcounted => h m hm (Bool.and_eq_true_iff.1 hcounted).1
  have htables : only { t with
        messages := changeWhere (fun m => condition m && m.isLive) (·.delete now) t.messages } v =
      { t.only v with
        messages :=
          changeWhere (fun m => condition m && m.isLive) (·.delete now) (t.only v).messages } :=
    only_changeMessages hmet (fun _ _ => rfl) fun _ => rfl
  exact Prod.ext hcount htables.symm

/-- The messages of a session of the users are theirs. -/
theorem belongs_of_session {id : Uuid} (h : ∀ s ∈ t.sessions, s.has id = true → v s.owner = true)
    (orderly : t.Orderly) {m : MessageRow} (hm : m ∈ t.messages) (hsession : m.session = id.text) :
    t.belongs v m = true := by
  obtain ⟨s, hs, hid⟩ := orderly.known m hm
  exact belongs_eq_true.2 ⟨s, hs, hid, h s hs (beq_iff_eq.2 (hid.trans hsession))⟩

theorem mirrors_deleteSession {id : Uuid} {now : Instant} (orderly : t.Orderly)
    (h : ∀ s ∈ t.sessions, s.has id = true → v s.owner = true) :
    Mirrors v t (deleteSession id now) := by
  have hstatus : Mirrors v t (setStatus id .deleted now) :=
    mirrors_changeSession h (fun _ _ => rfl) fun _ => ⟨rfl, rfl⟩
  unfold Mirrors deleteSession
  rw [show setStatus id .deleted now (t.only v) = _ from hstatus]
  cases hset : setStatus id .deleted now t with
  | error e => rfl
  | ok p =>
    obtain ⟨⟨⟩, t'⟩ := p
    have hchanged := changeSession_ok hset
    refine congrArg Except.ok (deleteMessages_only (fun _ _ => rfl) fun m hm hmet => ?_)
    rw [belongs_changeWhere (congrArg Tables.sessions hchanged) fun _ => ⟨rfl, rfl⟩]
    rw [hchanged] at hm
    exact belongs_of_session h orderly hm (beq_iff_eq.1 hmet)

theorem mirrors_deleteSessionsOf {user : UserId} {now : Instant} (hv : v user.number = true) :
    Mirrors v t (deleteSessionsOf user now) := by
  have owned {s : SessionRow} (h : (s.owner == user.number) = true) : v s.owner = true := by
    rw [beq_iff_eq.1 h, hv]
  have hdoomed (m : MessageRow) :
      ((t.only v).sessions.any fun s =>
          (s.isLive && s.owner == user.number) && s.id == m.session) =
        t.sessions.any fun s => (s.isLive && s.owner == user.number) && s.id == m.session :=
    any_sessions_only (fun _ _ => rfl) fun s _ hmet =>
      owned (Bool.and_eq_true_iff.1 (Bool.and_eq_true_iff.1 hmet).1).2
  have hsessions : countWhere (fun r => r.isLive && r.owner == user.number) (t.only v).sessions =
      countWhere (fun r => r.isLive && r.owner == user.number) t.sessions :=
    countWhere_sessions_only (fun _ _ => rfl) fun s _ hmet => owned (Bool.and_eq_true_iff.1 hmet).2
  let doomed (m : MessageRow) : Bool :=
    t.sessions.any fun s => (s.isLive && s.owner == user.number) && s.id == m.session
  have hmessages : deleteMessages doomed now (t.only v) =
      ((deleteMessages doomed now t).1, (deleteMessages doomed now t).2.only v) :=
    deleteMessages_only (fun _ _ => rfl) fun m hm hmet => by
      obtain ⟨s, hs, hmatch⟩ := List.any_eq_true.1 hmet
      obtain ⟨hmine, hid⟩ := Bool.and_eq_true_iff.1 hmatch
      exact belongs_eq_true.2 ⟨s, hs, beq_iff_eq.1 hid, owned (Bool.and_eq_true_iff.1 hmine).2⟩
  have htables (t : Tables) : only { t with
        sessions := changeWhere (fun r => r.isLive && r.owner == user.number)
          (·.setStatus .deleted now) t.sessions } v =
      { t.only v with
        sessions := changeWhere (fun r => r.isLive && r.owner == user.number)
          (·.setStatus .deleted now) (t.only v).sessions } :=
    only_changeSessions (fun _ _ => rfl) (fun _ _ => rfl) fun _ => ⟨rfl, rfl⟩
  unfold Mirrors deleteSessionsOf
  simp only [funext hdoomed]
  rw [show deleteMessages _ now (t.only v) = _ from hmessages]
  refine congrArg Except.ok (Prod.ext ?_ (htables (deleteMessages doomed now t).2).symm)
  exact congrArg (SessionsDeleted.mk · _) hsessions

theorem mem_of_session? {id : Uuid} {s : SessionRow} (h : t.session? id = some s) :
    s ∈ t.sessions ∧ s.has id = true ∧ s.isLive = true := by
  have hmet := List.find?_some h
  exact ⟨List.mem_of_find?_eq_some h, Bool.and_eq_true_iff.1 hmet⟩

/-- The roll-up of a session of the users is computed from their messages. -/
theorem mirrors_refreshRollup {id : Uuid} {now : Instant} (proper : t.Proper)
    (h : ∀ s ∈ t.sessions, s.has id = true → v s.owner = true) :
    Mirrors v t (refreshRollup id now) := by
  have hconfined : (Request.getSession id).Confined v t := fun s hs hid _ => h s hs hid
  have hsession := (proper.alike_only v).session?_eq hconfined hconfined.only
  unfold Mirrors refreshRollup
  cases hfound : t.session? id with
  | none =>
    cases hfound' : (t.only v).session? id with
    | none => rfl
    | some s' =>
      rw [hfound, hfound'] at hsession
      cases hsession
  | some s =>
    cases hfound' : (t.only v).session? id with
    | none =>
      rw [hfound, hfound'] at hsession
      cases hsession
    | some s' =>
      obtain ⟨hs, hid, hlive⟩ := mem_of_session? hfound
      obtain ⟨hs', hid', hlive'⟩ := mem_of_session? hfound'
      have seen : s ∈ t.visibleSessions v := List.mem_filter.2 ⟨hs, by rw [hlive, h s hs hid]; rfl⟩
      have seen' : s' ∈ (t.only v).visibleSessions v :=
        List.mem_filter.2 ⟨hs', by rw [hlive', owner_of_mem_only hs']; rfl⟩
      have hkept := (proper.alike_only v).kept seen seen'
        ((beq_iff_eq.1 hid).trans (beq_iff_eq.1 hid').symm)
      rw [beq_iff_eq.1 hid, beq_iff_eq.1 hid'] at hkept
      have htokens := map_of_bare (f := MessageRow.tokens) hkept fun _ => rfl
      have hcosts := map_of_bare (f := MessageRow.cost) hkept fun _ => rfl
      have hlength := length_of_bare hkept
      simp only [Option.isNone_some, Bool.false_eq_true, if_false]
      rw [← htokens, ← hcosts, ← hlength]
      cases sumOf ((t.kept id.text).map (·.tokens)) with
      | error e => rfl
      | ok tokens =>
        refine congrArg (fun t => Except.ok (some _, t)) (Eq.symm ?_)
        exact only_changeSessions (fun _ _ => rfl) (fun _ _ => rfl) fun _ => ⟨rfl, rfl⟩

/-! ## New rows -/

/-- A new session of the users is one of their part. -/
theorem only_openSession {s : SessionRow} (orderly : t.Orderly) (hv : v s.owner = true)
    (fresh : ∀ r ∈ t.sessions, r.id ≠ s.id) :
    only { t with sessions := t.sessions ++ [s] } v =
      { t.only v with
        sessions := (t.only v).sessions ++ [s.setRow (nextRow (t.only v).sessions)] } := by
  have hsessions : sessionsWithin { t with sessions := t.sessions ++ [s] } v =
      t.sessionsWithin v ++ [s] := by
    rw [sessionsWithin_concat, List.filter_singleton, hv]
    rfl
  have hmessages : messagesWithin { t with sessions := t.sessions ++ [s] } v =
      t.messagesWithin v :=
    List.filter_congr fun m hm => belongs_of_opened orderly fresh hm
  unfold only
  rw [hsessions, hmessages, renumber_concat]

/-- A new message in a session of the users is one of their part. -/
theorem only_addMessage {m : MessageRow} (hm : t.belongs v m = true) :
    only { t with messages := t.messages ++ [m] } v =
      { t.only v with
        messages := (t.only v).messages ++ [m.setRow (nextRow (t.only v).messages)] } := by
  have hmessages : messagesWithin { t with messages := t.messages ++ [m] } v =
      t.messagesWithin v ++ [m] := by
    rw [messagesWithin_concat, List.filter_singleton, hm]
    rfl
  unfold only
  rw [hmessages, renumber_concat]
  rfl

theorem mirrors_insertSession {s : Session} (orderly : t.Orderly) (hv : v s.owner.number = true)
    (h : ∀ r ∈ t.sessions, r.has s.id = true → v r.owner = true) :
    Mirrors v t (insertSession s) := by
  have htaken : ((t.only v).sessions.any fun r => r.has s.id) =
      t.sessions.any fun r => r.has s.id :=
    any_sessions_only (fun _ _ => rfl) h
  unfold Mirrors insertSession
  rw [htaken]
  cases requireAmount s.totalCost "chat_sessions.total_cost" with
  | error e => rfl
  | ok u =>
    cases hany : t.sessions.any fun r => r.has s.id with
    | true => rfl
    | false =>
      have fresh (r : SessionRow) (hr : r ∈ t.sessions) :
          r.id ≠ (SessionRow.ofSession (nextRow t.sessions) s).id :=
        fun hid => List.any_eq_false.1 hany r hr (beq_iff_eq.2 hid)
      have hopened := only_openSession (s := .ofSession (nextRow t.sessions) s) orderly hv fresh
      rw [SessionRow.setRow_ofSession] at hopened
      exact congrArg (fun t => Except.ok ((), t)) hopened.symm

theorem mirrors_insertMessage {m : Message}
    (hs : ∀ s ∈ t.sessions, s.has m.session = true → v s.owner = true)
    (h : ∀ r ∈ t.messages, r.has m.id = true → t.belongs v r = true) :
    Mirrors v t (insertMessage m) := by
  have htaken : ((t.only v).messages.any fun r => r.has m.id) =
      t.messages.any fun r => r.has m.id :=
    any_messages_only (fun _ _ => rfl) h
  have hknown : ((t.only v).sessions.any fun s => s.has m.session) =
      t.sessions.any fun s => s.has m.session :=
    any_sessions_only (fun _ _ => rfl) hs
  unfold Mirrors insertMessage
  rw [htaken, hknown]
  cases requireAmount m.cost "chat_messages.cost" with
  | error e => rfl
  | ok u =>
    cases hany : t.messages.any fun r => r.has m.id with
    | true => rfl
    | false =>
      cases hsession : t.sessions.any fun s => s.has m.session with
      | false => rfl
      | true =>
        obtain ⟨s, hmem, hid⟩ := List.any_eq_true.1 hsession
        have hmine : t.belongs v (.ofMessage (nextRow t.messages) m) = true :=
          belongs_eq_true.2 ⟨s, hmem, beq_iff_eq.1 hid, hs s hmem hid⟩
        exact congrArg (fun t => Except.ok ((), t)) (only_addMessage hmine).symm

/-! ## Messages in place -/

theorem mirrors_deleteMessage {id : Uuid} {now : Instant}
    (h : ∀ m ∈ t.messages, m.has id = true → t.belongs v m = true) :
    Mirrors v t (deleteMessage id now) := by
  have hfound : ((t.only v).messages.any fun r => r.has id && r.isLive) =
      t.messages.any fun r => r.has id && r.isLive :=
    any_messages_only (fun _ _ => rfl) fun m hm hmet => h m hm (Bool.and_eq_true_iff.1 hmet).1
  unfold Mirrors deleteMessage
  rw [hfound, deleteMessages_only (fun _ _ => rfl) h]
  split <;> rfl

/-- An update answers with the row that it has written, read back. -/
theorem settleRow_updateMessage {id : Uuid} {u : MessageUpdate} {now : Instant} (proper : t.Proper)
    (h : ∀ m ∈ t.messages, m.has id = true → t.belongs v m = true) :
    Request.settleRow (updateMessage id u now) (·.message) (t.only v) =
      ((Request.settleRow (updateMessage id u now) (·.message) t).1,
        (Request.settleRow (updateMessage id u now) (·.message) t).2.only v) := by
  have hfound : (t.messages.find? fun r => r.has id && r.isLive).map MessageRow.bare =
      ((t.only v).messages.find? fun r => r.has id && r.isLive).map MessageRow.bare := by
    rw [← (proper.sameMessages v).find?_eq (fun _ => rfl) fun _ => rfl]
    refine congrArg _ (find?_dropped fun m hm hmet => ?_).symm
    exact h m hm (Bool.and_eq_true_iff.1 hmet).1
  unfold Request.settleRow updateMessage
  cases hrow : t.messages.find? fun r => r.has id && r.isLive with
  | none =>
    rw [hrow, Option.map_none, eq_comm, Option.map_eq_none_iff] at hfound
    rw [hfound]
  | some row =>
    rw [hrow] at hfound
    obtain ⟨row', hrow', hbare⟩ := Option.map_eq_some_iff.1 hfound.symm
    have hstatus : (row'.update u now).status = (row.update u now).status :=
      (congrArg (fun r : MessageRow => (r.update u now).status) hbare :)
    have hread : (row'.update u now).message = (row.update u now).message :=
      (congrArg (fun r : MessageRow => (r.update u now).message) hbare :)
    rw [hrow']
    dsimp only
    rw [hstatus]
    cases isMessageStatus (row.update u now).status with
    | false => rfl
    | true =>
      have htables : only { t with
            messages := changeWhere (fun r => r.has id && r.isLive) (·.update u now) t.messages } v =
          { t.only v with
            messages :=
              changeWhere (fun r => r.has id && r.isLive) (·.update u now) (t.only v).messages } :=
        only_changeMessages (fun _ _ => rfl) (fun _ _ => rfl) fun _ => rfl
      exact Prod.ext hread htables.symm

end Tables

/-- **A call on records of the users** does on the whole store what it does on their part, and
answers the same. -/
theorem Request.perform_within (proper : t.Proper) {r : Request} (h : r.Within v t) :
    r.perform (t.only v) = ((r.perform t).1, (r.perform t).2.only v) := by
  by_cases reads : r.ReadsChat
  · exact perform_confined proper reads (h.confined proper.keyed reads)
  · cases r with
    | createSession s => exact (mirrors_insertSession proper.orderly h.1 h.2).settle
    | updateSessionTopic id topic now =>
      have mirrors : Mirrors v t (setTopic id topic now) :=
        mirrors_changeSession h (fun _ _ => rfl) fun _ => ⟨rfl, rfl⟩
      exact mirrors.settle
    | setSessionStatus id status now =>
      have mirrors : Mirrors v t (setStatus id status now) :=
        mirrors_changeSession h (fun _ _ => rfl) fun _ => ⟨rfl, rfl⟩
      exact mirrors.settle
    | deleteSession id now => exact (mirrors_deleteSession proper.orderly h).settle
    | deleteUserSessions user now => exact (mirrors_deleteSessionsOf h).settle
    | refreshRollup id now => exact (mirrors_refreshRollup proper h).settle
    | insertMessage m => exact (mirrors_insertMessage h.1 h.2).settle
    | updateMessage id u now => exact settleRow_updateMessage proper h
    | deleteMessage id now => exact (mirrors_deleteMessage h).settle
    | _ => first | exact absurd trivial reads | exact h.elim

end ChatLedger.Store
