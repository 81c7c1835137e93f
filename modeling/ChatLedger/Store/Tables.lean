import ChatLedger.Decimal.CompensatedSum
import ChatLedger.Paging
import ChatLedger.Store.Rows
import ChatLedger.Text.Like

/-!
# Tables

The five tables of the store, which of their rows are shown, and in which order.

1. Rows are never removed; a deleted record keeps its row and is shown no more.
2. Every list is a slice of one reference list, sorted by a key that ends in the row number, so
   that no two rows share a key.
3. A message is shown while neither it nor its session is deleted, an article while it is not
   deleted itself, and a membership while both link and subscription are active.
-/

namespace ChatLedger.Store

/-- All rows of the store, each table in the order of row numbers. -/
structure Tables where
  sessions : List SessionRow := []
  messages : List MessageRow := []
  subscriptions : List SubscriptionRow := []
  links : List LinkRow := []
  articles : List ArticleRow := []
  deriving Repr, DecidableEq

instance : Inhabited Tables := ⟨{}⟩

/-- The number of the next row of a table. -/
def nextRow {α : Type} (rows : List α) : Nat := rows.length + 1

/-! ## Order -/

/-- The first of two times, with the row numbers as tie-break, does not come after the second. -/
def notAfter (a b : String × Nat) : Bool := a.1 < b.1 || (a.1 == b.1 && a.2 ≤ b.2)

/-- The same for times that may be missing; no time comes before all others. -/
def datedNotAfter (a b : Option String × (String × Nat)) : Bool :=
  match a.1, b.1 with
  | none, none => notAfter a.2 b.2
  | none, some _ => true
  | some _, none => false
  | some s, some t => s < t || (s == t && notAfter a.2 b.2)

/-- Rows from the earliest to the latest. -/
def oldestFirst {α : Type} (key : α → String × Nat) (rows : List α) : List α :=
  rows.mergeSort fun a b => notAfter (key a) (key b)

/-- Rows from the latest to the earliest. -/
def newestFirst {α : Type} (key : α → String × Nat) (rows : List α) : List α :=
  rows.mergeSort fun a b => notAfter (key b) (key a)

/-- Dated rows from the latest to the earliest, then those without a date. -/
def latestFirst {α : Type} (key : α → Option String × (String × Nat)) (rows : List α) : List α :=
  rows.mergeSort fun a b => datedNotAfter (key b) (key a)

/-- The number of rows as a count of 64 bits. -/
def countOf {α : Type} (rows : List α) : UInt64 := UInt64.ofNat rows.length

/-- A page of a reference list, each row read back, with the length of the list. -/
def page {Row α : Type} (rows : List Row) (request : PageRequest)
    (read : Row → Except StoreError α) : Except StoreError (List α × UInt64) := do
  return (← (request.slice rows).mapM read, countOf rows)

namespace Tables

/-! ## What is shown -/

/-- The session of this identifier, unless it is deleted. -/
def session? (t : Tables) (id : Uuid) : Option SessionRow :=
  t.sessions.find? fun s => s.has id && s.isLive

/-- The live sessions of a user. -/
def sessionsOf (t : Tables) (user : UserId) : List SessionRow :=
  t.sessions.filter fun s => s.isLive && s.owner == user.number

/-- The message and its session are not deleted, and the session satisfies the condition. -/
def shows (t : Tables) (condition : SessionRow → Bool) (m : MessageRow) : Bool :=
  m.isLive && t.sessions.any fun s => s.id == m.session && s.isLive && condition s

/-- The shown messages of the sessions that satisfy a condition. -/
def messagesWhere (t : Tables) (condition : SessionRow → Bool) : List MessageRow :=
  t.messages.filter (t.shows condition)

/-- The shown messages of a session, from the earliest to the latest. -/
def messagesIn (t : Tables) (session : Uuid) : List MessageRow :=
  oldestFirst (fun m => (m.createdAt, m.row)) (t.messagesWhere fun s => s.has session)

/-- The shown messages of a user. -/
def messagesOf (t : Tables) (user : UserId) : List MessageRow :=
  t.messagesWhere fun s => s.owner == user.number

/-- Messages from the latest to the earliest. -/
def newestMessages (rows : List MessageRow) : List MessageRow :=
  newestFirst (fun m => (m.createdAt, m.row)) rows

/-- Sessions from the latest to the earliest. -/
def newestSessions (rows : List SessionRow) : List SessionRow :=
  newestFirst (fun s => (s.createdAt, s.row)) rows

/-- The subscription that a link leads to, if both are active. -/
def effective? (t : Tables) (link : LinkRow) : Option SubscriptionRow :=
  if link.isActive then
    t.subscriptions.find? fun s => s.has link.subscription && s.isActive
  else none

/-- The effective memberships of a user, from the one changed last to the one changed first. -/
def membershipsOf (t : Tables) (user : UserId) : List (LinkRow × SubscriptionRow) :=
  newestFirst (fun pair => (pair.1.updatedAt, pair.1.row))
    ((t.links.filter fun l => l.user == user.number).filterMap fun l =>
      (t.effective? l).map fun s => (l, s))

/-- The live articles of the subscriptions that satisfy a condition, the latest publication first
and those without a date last. -/
def articlesWhere (t : Tables) (condition : Int → Bool) : List ArticleRow :=
  latestFirst (fun a => (a.publishedAt, a.createdAt, a.row))
    (t.articles.filter fun a => a.isLive && condition a.subscription)

/-! ## Figures -/

/-- The sum of integers of 64 bits, unless it leaves their range on the way. -/
def sumOf (ns : List Int) : Except StoreError Int :=
  ns.foldlM (fun sum n =>
    if Bounds.lowest ≤ sum + n ∧ sum + n ≤ Bounds.highest then .ok (sum + n)
    else .error (.query "integer overflow")) 0

/-- The compensated sum of amounts; nothing counts as zero. -/
def totalOf (xs : List Float) : Float := (storedAmount? (Decimal.compensatedSum xs)).getD 0.0

/-- The number of rows that satisfy a condition. -/
def countWhere {α : Type} (condition : α → Bool) (rows : List α) : UInt64 :=
  UInt64.ofNat (rows.countP condition)

end Tables

end ChatLedger.Store
