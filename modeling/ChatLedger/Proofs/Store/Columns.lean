import ChatLedger.Proofs.Store.Changes

/-!
# Records, column by column

A row is read as a record exactly if every field of the record is what the row's column is read as.

1. `SessionRow.session_eq_ok_iff` for sessions, with one field of `SessionRow.Reads` for each column.
2. `MessageRow.message_eq_ok_iff` and `LinkRow.link_eq_ok_iff` for messages and links.
-/

namespace ChatLedger.Store

/-- The columns of the row are read as the fields of the session. -/
structure SessionRow.Reads (r : SessionRow) (s : Session) : Prop where
  id : readId "session id" r.id = .ok s.id
  owner : s.owner = ⟨r.owner⟩
  topic : s.topic = r.topic
  model : s.model = r.model
  channel : s.channel = r.channel
  messageCount : s.messageCount = UInt32.ofInt r.messageCount
  tokenCount : s.tokenCount = UInt64.ofInt r.tokenCount
  totalCost : s.totalCost = r.totalCost
  status : readWord r.status = .ok s.status
  createdAt : readTime r.createdAt = .ok s.createdAt
  updatedAt : readTime r.updatedAt = .ok s.updatedAt
  lastMessageAt : r.lastMessageAt.mapM readTime = .ok s.lastMessageAt

theorem SessionRow.session_eq_ok_iff {r : SessionRow} {s : Session} :
    r.session = .ok s ↔ r.Reads s := by
  simp only [SessionRow.session, bind_eq_ok]
  constructor
  · rintro ⟨_, hid, _, hstatus, _, hlast, _, hcreated, _, hupdated, h⟩
    cases h
    exact ⟨hid, rfl, rfl, rfl, rfl, rfl, rfl, rfl, hstatus, hcreated, hupdated, hlast⟩
  · intro h
    refine ⟨_, h.id, _, h.status, _, h.lastMessageAt, _, h.createdAt, _, h.updatedAt, ?_⟩
    rw [← h.owner, ← h.topic, ← h.model, ← h.channel, ← h.messageCount, ← h.tokenCount,
      ← h.totalCost]
    rfl

/-- The columns of the row are read as the fields of the message. -/
structure MessageRow.Reads (r : MessageRow) (m : Message) : Prop where
  id : readId "message id" r.id = .ok m.id
  session : readId "session_id" r.session = .ok m.session
  role : readWord r.role = .ok m.role
  content : m.content = r.content
  tokens : m.tokens = UInt32.ofInt r.tokens
  cost : m.cost = r.cost
  status : readWord r.status = .ok m.status
  errorText : m.errorText = r.errorText
  createdAt : readTime r.createdAt = .ok m.createdAt
  updatedAt : readTime r.updatedAt = .ok m.updatedAt

theorem MessageRow.message_eq_ok_iff {r : MessageRow} {m : Message} :
    r.message = .ok m ↔ r.Reads m := by
  simp only [MessageRow.message, bind_eq_ok]
  constructor
  · rintro ⟨_, hid, _, hsession, _, hrole, _, hstatus, _, hcreated, _, hupdated, h⟩
    cases h
    exact ⟨hid, hsession, hrole, rfl, rfl, rfl, hstatus, rfl, hcreated, hupdated⟩
  · intro h
    refine ⟨_, h.id, _, h.session, _, h.role, _, h.status, _, h.createdAt, _, h.updatedAt, ?_⟩
    rw [← h.content, ← h.tokens, ← h.cost, ← h.errorText]
    rfl

/-- The columns of the row are read as the fields of the link. -/
structure LinkRow.Reads (r : LinkRow) (l : Link) : Prop where
  id : l.id = r.row
  user : l.user = ⟨r.user⟩
  subscription : l.subscription = r.subscription
  status : readWord r.status = .ok l.status
  createdAt : readTime r.createdAt = .ok l.createdAt
  updatedAt : readTime r.updatedAt = .ok l.updatedAt

theorem LinkRow.link_eq_ok_iff {r : LinkRow} {l : Link} : r.link = .ok l ↔ r.Reads l := by
  simp only [LinkRow.link, bind_eq_ok]
  constructor
  · rintro ⟨_, hstatus, _, hcreated, _, hupdated, h⟩
    cases h
    exact ⟨rfl, rfl, rfl, hstatus, hcreated, hupdated⟩
  · intro h
    refine ⟨_, h.status, _, h.createdAt, _, h.updatedAt, ?_⟩
    rw [← h.id, ← h.user, ← h.subscription]
    rfl

end ChatLedger.Store
