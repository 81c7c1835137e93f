import ChatLedger.Json.Wire

/-!
# Pages

Lists are handed out in pages.

1. `PageRequest.resolve` turns whatever a caller asks for into a page number of at least one and a
   size from one to `maxPageSize`.
2. `PageRequest.slice` cuts the items of a page out of the whole list.
3. A `Page` carries the number of all items beside its own.
-/

namespace ChatLedger

/-- No page is larger, whatever the configuration says. -/
def maxPageSize : UInt32 := 100

/-- Which page of a list is wanted. -/
structure PageRequest where
  page : UInt32
  size : UInt32
  deriving Repr, DecidableEq, Inhabited

namespace PageRequest

/-- The number cut down or raised to the bounds. -/
def clamp (low high n : UInt32) : UInt32 := if n < low then low else if high < n then high else n

/-- What a caller gets. A page that is missing or zero is the first one; a size that is missing,
zero or too large is the default one. -/
def resolve (page size : Option UInt32) (defaultSize maxSize : UInt32) : PageRequest :=
  let maxSize := clamp 1 maxPageSize maxSize
  let defaultSize := clamp 1 maxSize defaultSize
  { page := (page.filter (1 ≤ ·)).getD 1
    size := (size.filter fun n => 1 ≤ n && n ≤ maxSize).getD defaultSize }

/-- The number of items before the page. -/
def offset (r : PageRequest) : Int := ((r.page.toNat : Int) - 1) * r.size.toNat

/-- The number of items on a full page. -/
def limit (r : PageRequest) : Int := r.size.toNat

/-- The items of the page. What would stand before the first item counts as the first page. -/
def slice {α : Type} (r : PageRequest) (items : List α) : List α :=
  (items.drop r.offset.toNat).take r.size.toNat

instance : Wire PageRequest where
  encode r := .record [("page", Wire.encode r.page), ("page_size", Wire.encode r.size)]
  decode v := do
    let [page, size] ← v.slots? ["page", "page_size"] | none
    return { page := ← page.required, size := ← size.required }

end PageRequest

/-- One page of a list, and the number of items of the whole list. -/
structure Page (α : Type) where
  items : List α
  total : UInt64
  page : UInt32
  size : UInt32
  deriving Repr, DecidableEq

namespace Page

/-- The page that answers a request. -/
def ofItems {α : Type} (found : List α × UInt64) (request : PageRequest) : Page α where
  items := found.1
  total := found.2
  page := request.page
  size := request.size

/-- The number of pages of the whole list. -/
def totalPages {α : Type} (p : Page α) : UInt64 :=
  let size := max p.size.toNat 1
  UInt64.ofNat ((p.total.toNat + (size - 1)) / size)

/-- The page with each item replaced. -/
def map {α β : Type} (f : α → β) (p : Page α) : Page β := { p with items := p.items.map f }

instance {α : Type} [Wire α] : Wire (Page α) where
  encode p := .record [
    ("items", Wire.encode p.items),
    ("total", Wire.encode p.total),
    ("page", Wire.encode p.page),
    ("page_size", Wire.encode p.size)]
  decode v := do
    let [items, total, page, size] ← v.slots? ["items", "total", "page", "page_size"] | none
    return {
      items := ← items.required
      total := ← total.required
      page := ← page.required
      size := ← size.required }

end Page

end ChatLedger
