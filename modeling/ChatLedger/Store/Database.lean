import ChatLedger.Store.Program

/-!
# The database

The tables with their two sides, a writer and a reader. A side that is closed fails every call
that needs it, before the tables are looked at.
-/

namespace ChatLedger.Store

/-- The tables, and which sides of the store are open. -/
structure Database where
  tables : Tables := {}
  writerOpen : Bool := true
  readerOpen : Bool := true
  deriving Repr, DecidableEq

instance : Inhabited Database := ⟨{}⟩

namespace Database

/-- The side is open. -/
def isOpen (d : Database) : Request.Access → Bool
  | .writer => d.writerOpen
  | .reader => d.readerOpen

/-- The failure of a call to a closed side. -/
def closedFailure : StoreError := .connection "attempted to acquire a connection on a closed pool"

/-- Carries a call out. -/
def perform (r : Request) (d : Database) : Except StoreError r.Answer × Database :=
  if d.isOpen r.access then
    let (answer, tables) := r.perform d.tables
    (answer, { d with tables := tables })
  else (.error closedFailure, d)

/-- Runs a program alone. -/
def run {α : Type} (p : Program α) (d : Database) : α × Database := p.runWith perform d

end Database

end ChatLedger.Store
