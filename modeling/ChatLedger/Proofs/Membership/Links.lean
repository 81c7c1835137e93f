import ChatLedger.Proofs.Membership.Calls
import ChatLedger.Proofs.Reading.Words
import ChatLedger.Proofs.Store.Columns
import ChatLedger.Proofs.Store.Persistence

/-!
# The history of a link

What single store calls do to links, and what a whole history has done to one of them.

1. `Event.Makes` says that an event has made a change to the link of one row, and to no other.
2. `makes_of_linkWrite`: the write behind a report makes the change that is reported, to the
   link of that user to that subscription.
3. `Trace.link_history`: the changes of one link are its creation and then flips of its status,
   back and forth, up to the status that it has.
-/

namespace ChatLedger.Store

open Time

variable {ι : Type}

/-! ## Changes of single links -/

/-- The link of a row. -/
def Tables.link? (t : Tables) (n : Nat) : Option LinkRow := t.links.find? (·.row == n)

/-- The event has made a change to the link of the row, and to no other link. -/
inductive Event.Makes (e : Event ι) (n : Nat) : LinkEffect → Prop where
  | created (r : LinkRow) (number : r.row = n) (absent : ∀ x ∈ e.before.links, x.row ≠ n)
      (status : r.status = Vocabulary.word LinkStatus.active)
      (links : e.after.links = e.before.links ++ [r]) : Makes e n .created
  | flipped {previous current : LinkStatus} (r : LinkRow) (mem : r ∈ e.before.links)
      (number : r.row = n) (status : r.status = Vocabulary.word previous)
      (ne : previous ≠ current) (now : Instant)
      (links : e.after.links = changeWhere (·.row == n) (·.setStatus current now) e.before.links) :
      Makes e n (.flipped previous current)

/-- The event has changed the link of the row, or added it. -/
def Event.Touches (e : Event ι) (n : Nat) : Prop := e.after.link? n ≠ e.before.link? n

instance (e : Event ι) (n : Nat) : Decidable (e.Touches n) :=
  inferInstanceAs (Decidable (_ ≠ _))

theorem Event.not_touches_of_links_eq {e : Event ι} (h : e.after.links = e.before.links)
    (n : Nat) : ¬ e.Touches n := by
  refine not_not.2 ?_
  unfold Tables.link?
  rw [h]

theorem Tables.link?_eq_none {t : Tables} {n : Nat} (h : ∀ x ∈ t.links, x.row ≠ n) :
    t.link? n = none := by
  unfold Tables.link?
  rw [List.find?_eq_none]
  intro x hx
  simpa using h x hx

theorem Tables.link?_eq_some {t : Tables} (numbered : t.Numbered) {r : LinkRow}
    (h : r ∈ t.links) : t.link? r.row = some r := by
  unfold Tables.link?
  cases hf : t.links.find? (·.row == r.row) with
  | none =>
    rw [List.find?_eq_none] at hf
    exact absurd (beq_self_eq_true r.row) (hf r h)
  | some x =>
    have hrow : x.row = r.row := by simpa using List.find?_some hf
    rw [numbered.links.eq_of_fst_eq (List.mem_of_find?_eq_some hf) h hrow]

namespace Event.Makes

variable {e : Event ι} {n m : Nat} {effect : LinkEffect}

/-- Other links are not touched. -/
theorem not_touches (h : e.Makes n effect) (hne : m ≠ n) : ¬ e.Touches m := by
  refine not_not.2 ?_
  unfold Tables.link?
  cases h with
  | created r number absent status links =>
    have hr : (r.row == m) = false := by simpa [number] using hne.symm
    rw [links, List.find?_append, List.find?_singleton, hr]
    simp
  | flipped r mem number status ne now links =>
    have hrows : e.after.links.filter (·.row == m) = e.before.links.filter (·.row == m) := by
      rw [links]
      refine filter_changeWhere (fun _ => rfl) fun x _ hkeep => ?_
      simpa [beq_iff_eq.1 hkeep] using hne
    rw [← List.head?_filter, ← List.head?_filter, hrows]

/-- The link itself is touched. -/
theorem touches (h : e.Makes n effect) (numbered : e.before.Numbered) : e.Touches n := by
  unfold Event.Touches
  cases h with
  | created r number absent status links =>
    rw [Tables.link?_eq_none absent]
    unfold Tables.link?
    rw [links, List.find?_append, List.find?_singleton]
    simp [number]
  | @flipped previous current r mem number status ne now links =>
    intro hsame
    rw [← number, Tables.link?_eq_some numbered mem] at hsame
    have hfound := List.mem_of_find?_eq_some hsame
    rw [links, mem_changeWhere] at hfound
    rcases hfound with ⟨r₀, -, -, rfl⟩ | ⟨-, hmissed⟩
    · exact ne (LinkStatus.word_inj status.symm)
    · simp [number] at hmissed

end Event.Makes

/-! ## The changes behind reports -/

/-- A silent event has left the tables as they were. -/
theorem Event.Lawful.after_eq_of_silent {e : Event ι} (lawful : e.Lawful)
    (h : e.exchange.Silent) : e.after = e.before := by
  rcases lawful with hperform | ⟨-, -, hsame⟩
  swap
  · exact hsame
  obtain ⟨i, request, answer, before, after⟩ := e
  dsimp only [Event.exchange] at *
  cases h with
  | read h =>
    rw [← Request.perform_of_reader h before, hperform]
  | failed h => exact Request.perform_of_error h hperform
  | @missed id expected wanted now =>
    obtain ⟨hhit, htables⟩ := Tables.changeLink_ok (Request.settle_eq_ok.1 hperform)
    rw [htables, changeWhere_eq_self]
    intro r hr
    by_contra hmet
    have hmet : ((r.row : Int) == id) = true ∧ (r.status == Vocabulary.word expected) = true := by
      simpa using hmet
    exact Bool.false_ne_true (hhit.2 ⟨r, hr, beq_iff_eq.1 hmet.1, beq_iff_eq.1 hmet.2⟩)

theorem Event.Lawful.links_eq_of_spares {e : Event ι} (lawful : e.Lawful)
    (h : e.exchange.SparesLinks) : e.after.links = e.before.links := by
  obtain ⟨i, request, answer, before, after⟩ := e
  dsimp only [Event.exchange] at *
  cases h with
  | silent h =>
    have hafter : after = before := lawful.after_eq_of_silent h
    rw [hafter]
  | describe =>
    refine lawful.after_of (P := fun t => t.links = before.links) rfl ?_
    refine Request.settle_tables (P := fun t => t.links = before.links) rfl fun a t' h => ?_
    rw [Tables.describe_ok h]
  | close =>
    refine lawful.after_of (P := fun t => t.links = before.links) rfl ?_
    refine Request.settle_tables (P := fun t => t.links = before.links) rfl fun a t' h => ?_
    rw [(Tables.cancelSubscription_ok h).2]

/-- A link that is found has a row, which bears its number. -/
theorem Request.findLink_found {user : UserId} {subscription : Int} {link : Link} {t t' : Tables}
    (h : (Request.findLink user subscription).perform t = (.ok (some link), t')) :
    ∃ r ∈ t.links, r.joins user subscription = true ∧ (r.row : Int) = link.id := by
  obtain ⟨r, hf, hread⟩ := mapM_eq_some.1 (congrArg Prod.fst h)
  exact ⟨r, List.mem_of_find?_eq_some hf, by simpa using List.find?_some hf,
    (LinkRow.link_eq_ok_iff.1 hread).id.symm⟩

/-- The row is that of the link of the user to the subscription. -/
structure LinkRow.IsOf (r : LinkRow) (user : UserId) (subscription : Int) : Prop where
  user : r.user = user.number
  subscription : r.subscription = subscription

theorem LinkRow.isOf_of_joins {r : LinkRow} {user : UserId} {subscription : Int}
    (h : r.joins user subscription = true) : r.IsOf user subscription := by
  obtain ⟨huser, hsubscription⟩ := Bool.and_eq_true_iff.1 h
  exact ⟨beq_iff_eq.1 huser, beq_iff_eq.1 hsubscription⟩

/-- Rows of one key are rows of one link. -/
theorem LinkRow.IsOf.of_key_eq {r r' : LinkRow} {user : UserId} {subscription : Int}
    (h : r.IsOf user subscription) (hkey : r'.key = r.key) : r'.IsOf user subscription :=
  ⟨(congrArg (·.2.1) hkey).trans h.user, (congrArg (·.2.2.1) hkey).trans h.subscription⟩

/-- A link that has been found is still there. -/
theorem Trace.link_seen {start t : Tables} {history : List (Event ι)}
    (trace : Trace start history t) {e : Event ι} (he : e ∈ history) {user : UserId}
    {subscription : Int} {link : Link}
    (hx : e.exchange = ⟨.findLink user subscription, .ok (some link)⟩) :
    ∃ r ∈ t.links, r.IsOf user subscription ∧ (r.row : Int) = link.id := by
  obtain ⟨h₁, h₂, rfl⟩ := List.append_of_mem he
  obtain ⟨-, lawful, later⟩ := trace.split
  obtain ⟨i, request, answer, before, after⟩ := e
  cases hx
  have hperform := lawful.perform_of_ok rfl
  obtain ⟨r, hr, hjoins, hid⟩ := Request.findLink_found hperform
  have hafter : after = before := (congrArg Prod.snd hperform).symm
  have hextends : before.Extends t := hafter ▸ later.extends
  obtain ⟨r', hr', hkey⟩ := hextends.link hr
  have hrow : r'.row = r.row := congrArg (·.1) hkey
  exact ⟨r', hr', (LinkRow.isOf_of_joins hjoins).of_key_eq hkey, hrow ▸ hid⟩

/-- Of the rows that bear a number, only one can have the status that is expected. -/
theorem Tables.Numbered.changeWhere_links {t : Tables} (numbered : t.Numbered) {x : LinkRow}
    (hx : x ∈ t.links) {expected : LinkStatus} (hstatus : x.status = Vocabulary.word expected)
    (change : LinkRow → LinkRow) :
    changeWhere (fun y => (y.row : Int) == x.row && y.status == Vocabulary.word expected) change
      t.links = changeWhere (·.row == x.row) change t.links := by
  refine changeWhere_congr fun y hy => ?_
  by_cases hrow : y.row = x.row
  · have hyx : y = x := numbered.links.eq_of_fst_eq hy hx hrow
    simp [hyx, hstatus]
  · have hne : ((y.row : Int) == x.row) = false := by
      rw [beq_eq_false_iff_ne]
      omega
    simp [hne, hrow]

/-- **The write behind a report** makes the change that is reported, to the link of that user. -/
theorem makes_of_linkWrite [DecidableEq ι] {i : ι} {history : List (Event ι)} {e : Event ι}
    (trace : Trace {} history e.before) (lawful : e.Lawful) {report : LinkReport}
    (h : LinkWrite report (exchangesOf i history) e.exchange) :
    ∃ r ∈ e.after.links, r.IsOf report.user report.subscription ∧
      e.Makes r.row report.effect := by
  have numbered := trace.numbered
  have absent (x : LinkRow) (hx : x ∈ e.before.links) : x.row ≠ nextRow e.before.links :=
    Nat.ne_of_lt (numbered.links.lt_nextRow hx)
  obtain ⟨p, request, answer, before, after⟩ := e
  dsimp only [Event.exchange] at *
  cases h with
  | @create _ user topic description now s link =>
    have hchange := Request.settle_eq_ok.1 (lawful.perform_of_ok rfl)
    dsimp only at hchange
    obtain ⟨-, hid, -, rfl⟩ := Tables.insertSubscription_ok hchange
    refine ⟨_, List.mem_append_right _ (List.mem_singleton_self _), ⟨rfl, hid.symm⟩, ?_⟩
    exact .created _ rfl absent rfl rfl
  | @insert _ user subscription now link =>
    have hchange := Request.settle_eq_ok.1 (lawful.perform_of_ok rfl)
    dsimp only at hchange
    obtain ⟨-, -, -, rfl⟩ := Tables.insertLink_ok hchange
    refine ⟨_, List.mem_append_right _ (List.mem_singleton_self _), ⟨rfl, rfl⟩, ?_⟩
    exact .created _ rfl absent rfl rfl
  | @change _ user subscription previous current now link seen ne =>
    obtain ⟨e₀, h₀, -, hx⟩ := mem_exchangesOf.1 seen
    obtain ⟨r, hr, hof, hid⟩ := trace.link_seen h₀ hx
    obtain ⟨hhit, htables⟩ :=
      Tables.changeLink_ok (Request.settle_eq_ok.1 (lawful.perform_of_ok rfl))
    dsimp only at hhit htables
    obtain ⟨x, hx, hxid, hstatus⟩ := hhit.1 rfl
    -- the row that is hit is the one that was seen
    obtain rfl : x = r :=
      numbered.links.eq_of_fst_eq hx hr (Int.ofNat.inj (hxid.trans hid.symm))
    have hlinks : after.links = changeWhere (·.row == x.row) (·.setStatus current now)
        before.links := by
      rw [htables, ← hxid]
      exact numbered.changeWhere_links hx hstatus _
    refine ⟨x.setStatus current now, ?_, ⟨hof.user, hof.subscription⟩, ?_⟩
    · rw [hlinks, mem_changeWhere]
      exact .inl ⟨x, hx, beq_self_eq_true _, rfl⟩
    · exact .flipped x hx rfl hstatus ne now hlinks

/-! ## The history of one link -/

/-- The events flip the status of the link of the row, one after the other, from the first status
to the last. Since there are two statuses, they flip it back and forth. -/
inductive Alternates (n : Nat) (first : LinkStatus) : List (Event ι) → LinkStatus → Prop where
  | nil : Alternates n first [] first
  | snoc {l : List (Event ι)} {e : Event ι} {previous current : LinkStatus}
      (earlier : Alternates n first l previous) (flips : e.Makes n (.flipped previous current)) :
      Alternates n first (l ++ [e]) current

/-- The events that touch a link are its creation and flips of its status. -/
structure LinkHistory (touches : List (Event ι)) (r : LinkRow) : Prop where
  shape : ∃ creation flips status, touches = creation :: flips ∧ creation.Makes r.row .created ∧
    Alternates r.row .active flips status ∧ r.status = Vocabulary.word status

/-- The event has changed no link, or a single one. -/
def Event.Single (e : Event ι) : Prop :=
  e.after.links = e.before.links ∨ ∃ n effect, e.Makes n effect

/-- The events of a history that touch the link of a row. -/
def touchesOf (n : Nat) (history : List (Event ι)) : List (Event ι) :=
  history.filter (·.Touches n)

theorem touchesOf_snoc_of_not {n : Nat} {history : List (Event ι)} {e : Event ι}
    (h : ¬ e.Touches n) : touchesOf n (history ++ [e]) = touchesOf n history := by
  unfold touchesOf
  rw [List.filter_append, List.filter_singleton]
  simp [h]

theorem touchesOf_snoc {n : Nat} {history : List (Event ι)} {e : Event ι} (h : e.Touches n) :
    touchesOf n (history ++ [e]) = touchesOf n history ++ [e] := by
  unfold touchesOf
  rw [List.filter_append, List.filter_singleton]
  simp [h]

/-- **One event.** The histories of links go on as they should. -/
theorem linkHistory_step {history : List (Event ι)} {e : Event ι} (numbered : e.before.Numbered)
    (single : e.Single)
    (absent : ∀ n, (∀ r ∈ e.before.links, r.row ≠ n) → touchesOf n history = [])
    (present : ∀ r ∈ e.before.links, LinkHistory (touchesOf r.row history) r) :
    (∀ n, (∀ r ∈ e.after.links, r.row ≠ n) → touchesOf n (history ++ [e]) = []) ∧
      ∀ r ∈ e.after.links, LinkHistory (touchesOf r.row (history ++ [e])) r := by
  rcases single with hsame | ⟨n, effect, hmakes⟩
  · have hquiet := Event.not_touches_of_links_eq hsame
    rw [hsame]
    refine ⟨fun n hn => ?_, fun r hr => ?_⟩
    · rw [touchesOf_snoc_of_not (hquiet n)]
      exact absent n hn
    · rw [touchesOf_snoc_of_not (hquiet r.row)]
      exact present r hr
  have other {m : Nat} (hne : m ≠ n) : touchesOf m (history ++ [e]) = touchesOf m history :=
    touchesOf_snoc_of_not (hmakes.not_touches hne)
  have own : touchesOf n (history ++ [e]) = touchesOf n history ++ [e] :=
    touchesOf_snoc (hmakes.touches numbered)
  have hcases := hmakes
  cases hcases with
  | created r number fresh status links =>
    rw [links]
    refine ⟨fun m hm => ?_, fun x hx => ?_⟩
    · have hne : m ≠ n := fun h => hm r (by simp) (number.trans h.symm)
      rw [other hne]
      exact absent m fun x hx => hm x (by simp [hx])
    · rcases List.mem_append.1 hx with hx | hx
      · rw [other (fresh x hx)]
        exact present x hx
      · obtain rfl := List.mem_singleton.1 hx
        rw [number, own, absent n fresh]
        exact ⟨e, [], .active, rfl, number.symm ▸ hmakes, .nil, status⟩
  | @flipped previous current r mem number status ne now links =>
    have hrows : e.after.links.map (·.row) = e.before.links.map (·.row) := by
      rw [links]
      exact map_changeWhere fun _ => rfl
    refine ⟨fun m hm => ?_, fun x hx => ?_⟩
    · have hold : ∀ x ∈ e.before.links, x.row ≠ m := by
        intro x hx hrow
        have hmem : m ∈ e.after.links.map (·.row) := hrows ▸ List.mem_map.2 ⟨x, hx, hrow⟩
        obtain ⟨y, hy, hrow⟩ := List.mem_map.1 hmem
        exact hm y hy hrow
      have hne : m ≠ n := fun h => hold r mem (number.trans h.symm)
      rw [other hne]
      exact absent m hold
    · rw [links, mem_changeWhere] at hx
      rcases hx with ⟨x₀, hx₀, hrow, rfl⟩ | ⟨hx, hrow⟩
      · have hsame : x₀.row = r.row := (beq_iff_eq.1 hrow).trans number.symm
        obtain rfl : x₀ = r := numbered.links.eq_of_fst_eq hx₀ mem hsame
        obtain ⟨creation, flips, previous', htouches, hcreated, halternates, hstatus⟩ :=
          (present x₀ mem).shape
        obtain rfl : previous' = previous := LinkStatus.word_inj (hstatus.symm.trans status)
        show LinkHistory (touchesOf x₀.row (history ++ [e])) _
        rw [number, own, ← number, htouches]
        refine ⟨creation, flips ++ [e], current, rfl, hcreated, ?_, rfl⟩
        exact .snoc halternates (number.symm ▸ hmakes)
      · rw [other (by simpa using hrow)]
        exact present x hx

/-- **Any number of events**, each of which changes a single link or none. -/
theorem Trace.link_history {history : List (Event ι)} {t : Tables} (trace : Trace {} history t)
    (single : ∀ e ∈ history, e.Single) :
    (∀ n, (∀ r ∈ t.links, r.row ≠ n) → touchesOf n history = []) ∧
      ∀ r ∈ t.links, LinkHistory (touchesOf r.row history) r := by
  induction trace with
  | nil => exact ⟨fun _ _ => rfl, by simp⟩
  | @snoc history e earlier lawful ih =>
    obtain ⟨absent, present⟩ := ih fun x hx => single x (by simp [hx])
    exact linkHistory_step earlier.numbered (single e (by simp)) absent present

end ChatLedger.Store
