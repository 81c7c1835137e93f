import ChatLedger.Proofs.Chat.Calls
import ChatLedger.Proofs.Store.Changes
import Mathlib.Data.List.Find

/-!
# What is seen of sessions and messages

Reads see the live sessions of some users, with the messages shown in them, and nothing else.

1. `SameRows`: two tables have the same rows in the same order. Their numbers may differ, which
   breaks no tie another way.
2. `Tables.Alike`: two stores have the same rows among those that the given users see.
3. `Request.perform_alike`: a read that is confined to these users answers the same on both.
-/

namespace ChatLedger.Store

/-! ## Rows without their numbers -/

/-- The row with its number left out. -/
def SessionRow.bare (r : SessionRow) : SessionRow := { r with row := 0 }

/-- The row with its number left out. -/
def MessageRow.bare (r : MessageRow) : MessageRow := { r with row := 0 }

section SameRows

variable {α β : Type} {row : α → Nat} {bare : α → α} {l l' : List α}

/-- The tables have the same rows in the same order, but for the numbers, which grow in both. -/
def SameRows (row : α → Nat) (bare : α → α) (l l' : List α) : Prop :=
  ∃ pairs : List (α × α), pairs.map Prod.fst = l ∧ pairs.map Prod.snd = l' ∧
    (∀ p ∈ pairs, bare p.1 = bare p.2) ∧
    pairs.Pairwise fun p q => row p.1 < row q.1 ∧ row p.2 < row q.2

namespace SameRows

theorem refl (h : l.Pairwise fun a b => row a < row b) : SameRows row bare l l := by
  refine ⟨l.map fun a => (a, a), ?_, ?_, by simp, ?_⟩
  · exact (List.map_map ..).trans (List.map_id l)
  · exact (List.map_map ..).trans (List.map_id l)
  · rw [List.pairwise_map]
    exact h.imp fun h => ⟨h, h⟩

/-- What is read of anything but numbers. -/
theorem map_eq (h : SameRows row bare l l') {f : α → β} (hf : ∀ a, f (bare a) = f a) :
    l.map f = l'.map f := by
  obtain ⟨pairs, rfl, rfl, same, -⟩ := h
  rw [List.map_map, List.map_map]
  refine List.map_congr_left fun p hp => ?_
  rw [Function.comp_apply, Function.comp_apply, ← hf p.1, same p hp, hf]

/-- What is chosen by anything but numbers. -/
theorem filter (h : SameRows row bare l l') {f f' : α → Bool}
    (hf : ∀ a ∈ l, ∀ a' ∈ l', bare a = bare a' → f a = f' a') :
    SameRows row bare (l.filter f) (l'.filter f') := by
  obtain ⟨pairs, rfl, rfl, same, grow⟩ := h
  refine ⟨pairs.filter (f ∘ Prod.fst), List.filter_map.symm, ?_, ?_, grow.filter _⟩
  · rw [List.filter_map]
    refine congrArg _ (List.filter_congr fun p hp => ?_)
    exact hf p.1 (List.mem_map_of_mem hp) p.2 (List.mem_map_of_mem hp) (same p hp)
  · exact fun p hp => same p (List.mem_filter.1 hp).1

theorem any_eq (h : SameRows row bare l l') {f : α → Bool} (hf : ∀ a, f (bare a) = f a) :
    l.any f = l'.any f := by
  have hmap := congrArg (List.any · id) (h.map_eq hf)
  simpa using hmap

/-- What is found by anything but numbers. -/
theorem find?_eq (h : SameRows row bare l l') {f : α → Bool} {g : α → β}
    (hf : ∀ a, f (bare a) = f a) (hg : ∀ a, g (bare a) = g a) :
    (l.find? f).map g = (l'.find? f).map g := by
  obtain ⟨pairs, rfl, rfl, same, -⟩ := h
  have hsame : pairs.find? (f ∘ Prod.fst) = pairs.find? (f ∘ Prod.snd) :=
    List.find?_congr fun p hp => by
      rw [Function.comp_apply, Function.comp_apply, ← hf p.1, same p hp, hf]
  rw [List.find?_map, List.find?_map, hsame]
  cases hfound : pairs.find? (f ∘ Prod.snd) with
  | none => rfl
  | some p =>
    have hp := same p (List.mem_of_find?_eq_some hfound)
    rw [Option.map_some, Option.map_some, Option.map_some, Option.map_some, ← hg p.1, hp, hg]

/-- Numbers grow in both tables, so that they settle the order alike. -/
theorem le_iff {pairs : List (α × α)}
    (grow : pairs.Pairwise fun p q => row p.1 < row q.1 ∧ row p.2 < row q.2) :
    ∀ p ∈ pairs, ∀ q ∈ pairs, row p.1 ≤ row q.1 ↔ row p.2 ≤ row q.2 := by
  refine List.Pairwise.forall_of_forall_of_flip (fun p _ => by simp) ?_ ?_
  · exact grow.imp fun h => by omega
  · refine grow.imp fun {p q} h => ?_
    show row q.1 ≤ row p.1 ↔ row q.2 ≤ row p.2
    omega

/-- What is sorted by anything but numbers, and by numbers where there is a tie. -/
theorem mergeSort_eq (h : SameRows row bare l l') {le : α → α → Bool}
    (order : α → α → Bool → Bool → Bool)
    (hle : ∀ a b, le a b =
      order (bare a) (bare b) (decide (row a ≤ row b)) (decide (row b ≤ row a)))
    {f : α → β} (hf : ∀ a, f (bare a) = f a) :
    (l.mergeSort le).map f = (l'.mergeSort le).map f := by
  obtain ⟨pairs, rfl, rfl, same, grow⟩ := h
  have sorted₁ := List.map_mergeSort (r := fun p q : α × α => le p.1 q.1) (s := le)
    (f := Prod.fst) (l := pairs) fun _ _ _ _ => rfl
  have sorted₂ := List.map_mergeSort (r := fun p q : α × α => le p.1 q.1) (s := le)
    (f := Prod.snd) (l := pairs) fun p hp q hq => by
      rw [hle, hle, same p hp, same q hq, decide_eq_decide.2 (le_iff grow p hp q hq),
        decide_eq_decide.2 (le_iff grow q hq p hp)]
  rw [← sorted₁, ← sorted₂, List.map_map, List.map_map]
  refine List.map_congr_left fun p hp => ?_
  rw [Function.comp_apply, Function.comp_apply, ← hf p.1, same p (List.mem_mergeSort.1 hp), hf]

end SameRows

end SameRows

/-! ## Orders and pages -/

section Read

variable {Row α : Type} {rows rows' : List Row} {read : Row → Except StoreError α}
  {bare : Row → Row}

theorem mapM_eq (h : rows.map bare = rows'.map bare) (hread : ∀ r, read (bare r) = read r) :
    rows.mapM read = rows'.mapM read := by
  have hbare (l : List Row) : l.mapM read = (l.map bare).mapM read := by
    rw [List.mapM_map]
    exact congrArg (List.mapM · l) (funext fun r => (hread r).symm)
  rw [hbare, h, ← hbare]

/-- A row that is found is read. -/
theorem found_eq {found found' : Option Row} (h : found.map bare = found'.map bare)
    (hread : ∀ r, read (bare r) = read r) : found.mapM read = found'.mapM read := by
  cases found with
  | none =>
    cases found' with
    | none => rfl
    | some r' => cases h
  | some r =>
    cases found' with
    | none => cases h
    | some r' =>
      have hr : bare r = bare r' := Option.some.inj h
      rw [Option.mapM_some, Option.mapM_some, ← hread r, hr, hread]

/-- A page is read off the rows of the reference list. -/
theorem page_eq (h : rows.map bare = rows'.map bare) (hread : ∀ r, read (bare r) = read r)
    (request : PageRequest) : page rows request read = page rows' request read := by
  have hslice : (request.slice rows).map bare = (request.slice rows').map bare := by
    unfold PageRequest.slice
    rw [List.map_take, List.map_take, List.map_drop, List.map_drop, h]
  have hlength : rows.length = rows'.length := by simpa using congrArg List.length h
  unfold page countOf
  rw [mapM_eq hslice hread, hlength]

end Read

section Sorted

variable {β : Type} {l l' : List MessageRow} {s s' : List SessionRow}

/-- What comes first of two rows of the same time is settled by their numbers. -/
def byTime (a b : String) (lower : Bool) : Bool := a < b || (a == b && lower)

theorem SameRows.newestMessages (h : SameRows MessageRow.row MessageRow.bare l l')
    {f : MessageRow → β} (hf : ∀ m, f m.bare = f m) :
    (Tables.newestMessages l).map f = (Tables.newestMessages l').map f :=
  h.mergeSort_eq (fun a b _ lower => byTime b.createdAt a.createdAt lower) (fun _ _ => rfl) hf

theorem SameRows.oldestMessages (h : SameRows MessageRow.row MessageRow.bare l l')
    {f : MessageRow → β} (hf : ∀ m, f m.bare = f m) :
    (oldestFirst (fun m : MessageRow => (m.createdAt, m.row)) l).map f =
      (oldestFirst (fun m : MessageRow => (m.createdAt, m.row)) l').map f :=
  h.mergeSort_eq (fun a b lower _ => byTime a.createdAt b.createdAt lower) (fun _ _ => rfl) hf

theorem SameRows.newestSessions (h : SameRows SessionRow.row SessionRow.bare s s')
    {f : SessionRow → β} (hf : ∀ r, f r.bare = f r) :
    (Tables.newestSessions s).map f = (Tables.newestSessions s').map f :=
  h.mergeSort_eq (fun a b _ lower => byTime b.createdAt a.createdAt lower) (fun _ _ => rfl) hf

theorem SameRows.summed (h : SameRows SessionRow.row SessionRow.bare s s')
    {f : SessionRow → β} (hf : ∀ r, f r.bare = f r) :
    (Tables.summed s).map f = (Tables.summed s').map f :=
  h.mergeSort_eq (fun a b lower _ => a.status < b.status ||
    (a.status == b.status && byTime a.createdAt b.createdAt lower)) (fun _ _ => rfl) hf

end Sorted

/-! ## Figures -/

section Figures

variable {β : Type}

/-- What is read of the columns of rows other than their numbers. -/
theorem map_of_bare {α : Type} {bare : α → α} {l l' : List α} (h : l.map bare = l'.map bare)
    {f : α → β} (hf : ∀ a, f (bare a) = f a) : l.map f = l'.map f := by
  have hmap := congrArg (List.map f) h
  rw [List.map_map, List.map_map] at hmap
  exact (List.map_congr_left fun a _ => (hf a).symm).trans
    (hmap.trans (List.map_congr_left fun a _ => hf a))

theorem length_of_bare {α : Type} {bare : α → α} {l l' : List α} (h : l.map bare = l'.map bare) :
    l.length = l'.length := by simpa using congrArg List.length h

/-- Rows are counted by any column other than their numbers. -/
theorem countWhere_of_bare {α : Type} {bare : α → α} {l l' : List α}
    (h : l.map bare = l'.map bare) {f : α → Bool} (hf : ∀ a, f (bare a) = f a) :
    Tables.countWhere f l = Tables.countWhere f l' := by
  have hcount (l : List α) : l.countP f = (l.map f).countP id := by
    rw [List.countP_map]
    rfl
  unfold Tables.countWhere
  rw [hcount, hcount, map_of_bare h hf]

theorem filter_of_bare {α : Type} {bare : α → α} {l l' : List α} (h : l.map bare = l'.map bare)
    {f : α → Bool} (hf : ∀ a, f (bare a) = f a) :
    (l.filter f).map bare = (l'.filter f).map bare := by
  have hfilter (l : List α) : (l.filter f).map bare = (l.map bare).filter f := by
    rw [List.filter_map]
    exact congrArg _ (List.filter_congr fun a _ => (hf a).symm)
  rw [hfilter, hfilter, h]

/-- Lists that are put together from one list for each row. -/
theorem flatMap_of_bare {α : Type} {bare : α → α} {l l' : List α} (h : l.map bare = l'.map bare)
    {f f' : α → List β} (hf : ∀ a ∈ l, ∀ a' ∈ l', bare a = bare a' → f a = f' a') :
    l.flatMap f = l'.flatMap f' := by
  induction l generalizing l' with
  | nil =>
    cases l' with
    | nil => rfl
    | cons a' l' => cases h
  | cons a l ih =>
    cases l' with
    | nil => cases h
    | cons a' l' =>
      obtain ⟨ha, hl⟩ := List.cons.inj h
      rw [List.flatMap_cons, List.flatMap_cons,
        hf a List.mem_cons_self a' List.mem_cons_self ha,
        ih hl fun b hb b' hb' =>
          hf b (List.mem_cons_of_mem _ hb) b' (List.mem_cons_of_mem _ hb')]

variable {s s' : List SessionRow} {m m' : List MessageRow}

theorem Tables.usageOf_eq (h : s.map SessionRow.bare = s'.map SessionRow.bare) (model : String) :
    Tables.usageOf model s = Tables.usageOf model s' := by
  unfold Tables.usageOf countOf
  rw [map_of_bare (f := SessionRow.messageCount) h fun _ => rfl,
    map_of_bare (f := SessionRow.tokenCount) h fun _ => rfl,
    map_of_bare (f := SessionRow.totalCost) h fun _ => rfl, length_of_bare h]

theorem Tables.messageStats_eq (h : m.map MessageRow.bare = m'.map MessageRow.bare) :
    Tables.messageStats m = Tables.messageStats m' := by
  have written (role : MessageRole) :
      Tables.countWhere (fun m => m.role == Vocabulary.word role) m =
        Tables.countWhere (fun m => m.role == Vocabulary.word role) m' :=
    countWhere_of_bare h fun _ => rfl
  unfold Tables.messageStats countOf
  rw [map_of_bare (f := MessageRow.tokens) h fun _ => rfl,
    map_of_bare (f := MessageRow.cost) h fun _ => rfl, length_of_bare h]
  simp only [written]

end Figures

/-! ## Views -/

/-- The live sessions of some users. -/
def Tables.visibleSessions (t : Tables) (v : Int → Bool) : List SessionRow :=
  t.sessions.filter fun s => s.isLive && v s.owner

/-- The messages shown in the sessions of some users. -/
def Tables.visibleMessages (t : Tables) (v : Int → Bool) : List MessageRow :=
  t.messagesWhere fun s => v s.owner

/-- Some users see the same in both stores. -/
structure Tables.Alike (v : Int → Bool) (t t' : Tables) : Prop where
  sessions : SameRows SessionRow.row SessionRow.bare (t.visibleSessions v) (t'.visibleSessions v)
  messages : SameRows MessageRow.row MessageRow.bare (t.visibleMessages v) (t'.visibleMessages v)

/-- The call reads only what some users see. -/
def Request.Confined (v : Int → Bool) (t : Tables) : Request → Prop
  | .getSession id | .listSessionMessages id _ | .sessionMessageStats id =>
    ∀ s ∈ t.sessions, s.has id = true → s.isLive = true → v s.owner = true
  | .getMessage id =>
    ∀ m ∈ t.messages, m.has id = true → t.shows (fun _ => true) m = true →
      t.shows (fun s => v s.owner) m = true
  | .listSessions user _ | .searchSessions user _ _ | .sessionStats user | .modelUsage user
  | .listUserMessages user _ | .searchUserMessages user _ _ | .errorMessages user _
  | .recentMessages user _ | .userMessageStats user => v user.number = true
  | _ => True

namespace Tables

variable {v : Int → Bool} {t t' : Tables}

theorem shows_eq_true {condition : SessionRow → Bool} {m : MessageRow} :
    t.shows condition m = true ↔ m.isLive = true ∧
      ∃ s ∈ t.sessions, s.id = m.session ∧ s.isLive = true ∧ condition s = true := by
  unfold shows
  simp only [Bool.and_eq_true, List.any_eq_true, beq_iff_eq, and_assoc]

/-- A message that is shown under a condition is shown under a weaker one. -/
theorem shows_mono {condition weaker : SessionRow → Bool} {m : MessageRow}
    (hc : ∀ s, condition s = true → weaker s = true) (h : t.shows condition m = true) :
    t.shows weaker m = true := by
  obtain ⟨hlive, s, hs, hid, hopen, hcond⟩ := shows_eq_true.1 h
  exact shows_eq_true.2 ⟨hlive, s, hs, hid, hopen, hc s hcond⟩

/-- Sessions that are selected among the visible ones. -/
theorem filter_visibleSessions {f : SessionRow → Bool} (hf : ∀ s, f s = true → v s.owner = true) :
    t.sessions.filter (fun s => s.isLive && f s) = (t.visibleSessions v).filter f := by
  unfold visibleSessions
  rw [List.filter_filter]
  refine List.filter_congr fun s _ => ?_
  cases hs : f s with
  | true => rw [hf s hs]; simp
  | false => simp

/-- Whether a message is shown depends on the visible sessions. -/
theorem shows_eq {condition : SessionRow → Bool}
    (hc : ∀ s, condition s = true → v s.owner = true) (m : MessageRow) :
    t.shows condition m =
      (m.isLive && (t.visibleSessions v).any fun s => s.id == m.session && condition s) := by
  unfold shows visibleSessions
  rw [List.any_filter]
  refine congrArg _ (congrArg (List.any t.sessions) (funext fun s => ?_))
  cases hs : condition s with
  | true => rw [hc s hs]; cases s.isLive <;> simp
  | false => simp

namespace Alike

variable (h : Alike v t t')

include h

theorem sessionsOf {user : UserId} (hv : v user.number = true) :
    SameRows SessionRow.row SessionRow.bare (t.sessionsOf user) (t'.sessionsOf user) := by
  have hsees (s : SessionRow) (hs : (s.owner == user.number) = true) : v s.owner = true := by
    rw [beq_iff_eq.1 hs, hv]
  unfold Tables.sessionsOf
  rw [filter_visibleSessions hsees, filter_visibleSessions hsees]
  refine h.sessions.filter fun a _ a' _ hbare => ?_
  exact (congrArg (fun s : SessionRow => s.owner == user.number) hbare :)

theorem shows {condition : SessionRow → Bool} (blind : ∀ s, condition s.bare = condition s)
    (hc : ∀ s, condition s = true → v s.owner = true) {m m' : MessageRow}
    (hm : m.bare = m'.bare) : t.shows condition m = t'.shows condition m' := by
  have hlive : m.isLive = m'.isLive := (congrArg MessageRow.isLive hm :)
  have hsession : m.session = m'.session := (congrArg MessageRow.session hm :)
  rw [shows_eq hc, shows_eq hc, hlive, hsession]
  refine congrArg _ (h.sessions.any_eq fun s => ?_)
  rw [blind]
  rfl

theorem messagesWhere {condition : SessionRow → Bool}
    (blind : ∀ s, condition s.bare = condition s)
    (hc : ∀ s, condition s = true → v s.owner = true) :
    SameRows MessageRow.row MessageRow.bare (t.messagesWhere condition)
      (t'.messagesWhere condition) := by
  have within (t : Tables) :
      t.messagesWhere condition = (t.visibleMessages v).filter (t.shows condition) := by
    unfold visibleMessages Tables.messagesWhere
    rw [List.filter_filter]
    refine List.filter_congr fun m _ => ?_
    cases hs : t.shows condition m with
    | false => simp
    | true => rw [shows_mono hc hs, Bool.and_true]
  rw [within, within]
  exact h.messages.filter fun m _ m' _ hbare => h.shows blind hc hbare

theorem messagesOf {user : UserId} (hv : v user.number = true) :
    SameRows MessageRow.row MessageRow.bare (t.messagesOf user) (t'.messagesOf user) := by
  refine h.messagesWhere (fun _ => rfl) fun s hs => ?_
  rw [beq_iff_eq.1 hs, hv]

/-- The messages of a visible session are visible. -/
theorem kept {s s' : SessionRow} (hs : s ∈ t.visibleSessions v) (hs' : s' ∈ t'.visibleSessions v)
    (hid : s.id = s'.id) :
    (t.kept s.id).map MessageRow.bare = (t'.kept s'.id).map MessageRow.bare := by
  have within {t : Tables} {s : SessionRow} (hs : s ∈ t.visibleSessions v) :
      (t.messages.filter fun m => m.isLive && m.session == s.id) =
        (t.visibleMessages v).filter (·.session == s.id) := by
    obtain ⟨hmem, hlive⟩ := List.mem_filter.1 hs
    unfold visibleMessages Tables.messagesWhere
    rw [List.filter_filter]
    refine List.filter_congr fun m _ => ?_
    unfold Tables.shows
    cases hsession : m.session == s.id with
    | false => simp
    | true =>
      have hany : (t.sessions.any fun s => s.id == m.session && s.isLive && v s.owner) = true := by
        refine List.any_eq_true.2 ⟨s, hmem, ?_⟩
        rw [Bool.and_assoc, hlive, beq_iff_eq.2 (beq_iff_eq.1 hsession).symm]
        rfl
      rw [hany]
      simp
  unfold Tables.kept
  rw [within hs, within hs', hid]
  refine (h.messages.filter fun m _ m' _ hbare => ?_).oldestMessages fun _ => rfl
  exact (congrArg (fun m : MessageRow => m.session == s'.id) hbare :)

theorem session?_eq {id : Uuid}
    (hc : ∀ s ∈ t.sessions, s.has id = true → s.isLive = true → v s.owner = true)
    (hc' : ∀ s ∈ t'.sessions, s.has id = true → s.isLive = true → v s.owner = true) :
    (t.session? id).map SessionRow.bare = (t'.session? id).map SessionRow.bare := by
  have within {t : Tables}
      (hc : ∀ s ∈ t.sessions, s.has id = true → s.isLive = true → v s.owner = true) :
      t.session? id = (t.visibleSessions v).find? (·.has id) := by
    unfold Tables.session? visibleSessions
    rw [List.find?_filter]
    refine List.find?_congr fun s hs => ?_
    cases hid : s.has id with
    | false => simp
    | true =>
      cases hlive : s.isLive with
      | false => simp
      | true => rw [hc s hs hid hlive]; rfl
  rw [within hc, within hc']
  exact h.sessions.find?_eq (fun _ => rfl) fun _ => rfl

/-- The messages of a session that only the given users may see. -/
theorem messagesIn {session : Uuid}
    (hc : ∀ s ∈ t.sessions, s.has session = true → s.isLive = true → v s.owner = true)
    (hc' : ∀ s ∈ t'.sessions, s.has session = true → s.isLive = true → v s.owner = true) :
    (t.messagesIn session).map MessageRow.bare = (t'.messagesIn session).map MessageRow.bare := by
  have within {t : Tables}
      (hc : ∀ s ∈ t.sessions, s.has session = true → s.isLive = true → v s.owner = true) :
      (t.messagesWhere fun s => s.has session) =
        t.messagesWhere fun s => s.has session && v s.owner := by
    refine List.filter_congr fun m _ => Bool.eq_iff_iff.2 ?_
    rw [shows_eq_true, shows_eq_true]
    refine and_congr_right fun _ => exists_congr fun s => and_congr_right fun hs => ?_
    refine and_congr_right fun _ => and_congr_right fun hlive => ?_
    rw [Bool.and_eq_true]
    exact ⟨fun hid => ⟨hid, hc s hs hid hlive⟩, And.left⟩
  unfold Tables.messagesIn
  rw [within hc, within hc']
  refine (h.messagesWhere (fun _ => rfl) fun s hs => ?_).oldestMessages fun _ => rfl
  exact (Bool.and_eq_true_iff.1 hs).2

theorem getMessage {id : Uuid} (hc : (Request.getMessage id).Confined v t)
    (hc' : (Request.getMessage id).Confined v t') :
    ((t.messagesWhere fun _ => true).find? (·.has id)).map MessageRow.bare =
      ((t'.messagesWhere fun _ => true).find? (·.has id)).map MessageRow.bare := by
  have within {t : Tables} (hc : (Request.getMessage id).Confined v t) :
      (t.messagesWhere fun _ => true).find? (·.has id) =
        (t.visibleMessages v).find? (·.has id) := by
    unfold visibleMessages Tables.messagesWhere
    rw [List.find?_filter, List.find?_filter]
    refine List.find?_congr fun m hm => ?_
    cases hid : m.has id with
    | false => simp
    | true =>
      cases hshown : t.shows (fun _ => true) m with
      | true => rw [hc m hm hid hshown]
      | false =>
        have hhidden : t.shows (fun s => v s.owner) m = false := by
          by_contra hshown'
          rw [shows_mono (fun _ _ => rfl) (Bool.not_eq_false _ ▸ hshown')] at hshown
          cases hshown
        rw [hhidden]
  rw [within hc, within hc']
  exact h.messages.find?_eq (fun _ => rfl) fun _ => rfl

theorem sessionStats {user : UserId} (hv : v user.number = true) :
    t.sessionStats user = t'.sessionStats user := by
  have hrows := (h.sessionsOf hv).summed (f := SessionRow.bare) fun _ => rfl
  have hactive := countWhere_of_bare hrows
    (f := fun s => s.status == Vocabulary.word SessionStatus.active) fun _ => rfl
  unfold Tables.sessionStats countOf
  simp only [map_of_bare (f := SessionRow.messageCount) hrows fun _ => rfl,
    map_of_bare (f := SessionRow.tokenCount) hrows fun _ => rfl,
    map_of_bare (f := SessionRow.totalCost) hrows fun _ => rfl, length_of_bare hrows, hactive]

theorem modelUsage {user : UserId} (hv : v user.number = true) :
    t.modelUsage user = t'.modelUsage user := by
  have hrows := (h.sessionsOf hv).summed (f := SessionRow.bare) fun _ => rfl
  have husage (model : String) :
      Tables.usageOf model ((Tables.summed (t.sessionsOf user)).filter fun s => s.model == model) =
        Tables.usageOf model
          ((Tables.summed (t'.sessionsOf user)).filter fun s => s.model == model) :=
    Tables.usageOf_eq (filter_of_bare hrows fun _ => rfl) model
  unfold Tables.modelUsage
  simp only [map_of_bare (f := SessionRow.model) hrows fun _ => rfl, husage]

theorem userMessageStats {user : UserId} (hv : v user.number = true) :
    t.userMessageStats user = t'.userMessageStats user := by
  have hrows := (h.sessionsOf hv).summed (f := SessionRow.bare) fun _ => rfl
  have visible {t : Tables} {s : SessionRow} (hs : s ∈ Tables.summed (t.sessionsOf user)) :
      s ∈ t.visibleSessions v := by
    obtain ⟨hmem, hmine⟩ := List.mem_filter.1 (List.mem_mergeSort.1 hs)
    refine List.mem_filter.2 ⟨hmem, ?_⟩
    obtain ⟨hlive, howner⟩ := Bool.and_eq_true_iff.1 hmine
    rw [hlive, beq_iff_eq.1 howner, hv]
    rfl
  refine Tables.messageStats_eq ?_
  rw [List.map_flatMap, List.map_flatMap]
  refine flatMap_of_bare hrows fun s hs s' hs' hbare => ?_
  exact h.kept (visible hs) (visible hs') (congrArg SessionRow.id hbare :)

end Alike

end Tables

/-- **What is seen decides every read.** A read that is confined to some users answers the same on
two stores where they see the same. -/
theorem Request.perform_alike {v : Int → Bool} {t t' : Tables} (h : Tables.Alike v t t')
    {r : Request} (reads : r.ReadsChat) (hc : r.Confined v t) (hc' : r.Confined v t') :
    (r.perform t).1 = (r.perform t').1 := by
  have newest {l l' : List MessageRow} (h : SameRows MessageRow.row MessageRow.bare l l')
      (request : PageRequest) :
      page (Tables.newestMessages l) request (·.message) =
        page (Tables.newestMessages l') request (·.message) :=
    page_eq (h.newestMessages (f := MessageRow.bare) fun _ => rfl) (fun _ => rfl) request
  have newestSessions {l l' : List SessionRow} (h : SameRows SessionRow.row SessionRow.bare l l')
      (request : PageRequest) :
      page (Tables.newestSessions l) request (·.session) =
        page (Tables.newestSessions l') request (·.session) :=
    page_eq (h.newestSessions (f := SessionRow.bare) fun _ => rfl) (fun _ => rfl) request
  cases r with
  | getSession id =>
    exact found_eq (h.session?_eq hc hc') fun _ => rfl
  | listSessions user request => exact newestSessions (h.sessionsOf hc) request
  | searchSessions user keyword request =>
    refine newestSessions ((h.sessionsOf hc).filter ?_) request
    exact fun a _ a' _ hbare =>
      (congrArg (fun s : SessionRow => Text.matchesKeyword keyword s.topic) hbare :)
  | sessionStats user => exact h.sessionStats hc
  | modelUsage user => exact h.modelUsage hc
  | getMessage id =>
    exact found_eq (h.getMessage hc hc') fun _ => rfl
  | listSessionMessages session request =>
    exact page_eq (h.messagesIn hc hc') (fun _ => rfl) request
  | listUserMessages user request => exact newest (h.messagesOf hc) request
  | searchUserMessages user keyword request =>
    refine newest ((h.messagesOf hc).filter ?_) request
    exact fun a _ a' _ hbare =>
      (congrArg (fun m : MessageRow => Text.matchesKeyword keyword m.content) hbare :)
  | errorMessages user request =>
    refine newest ((h.messagesOf hc).filter ?_) request
    exact fun a _ a' _ hbare =>
      (congrArg (fun m : MessageRow => m.status == Vocabulary.word MessageStatus.error) hbare :)
  | recentMessages user limit =>
    have hrows := (h.messagesOf hc).newestMessages (f := MessageRow.bare) fun _ => rfl
    have htake := congrArg (List.take limit.toNat) hrows
    rw [← List.map_take, ← List.map_take] at htake
    exact mapM_eq htake fun _ => rfl
  | sessionMessageStats session => exact Tables.messageStats_eq (h.messagesIn hc hc')
  | userMessageStats user => exact h.userMessageStats hc
  | _ => cases reads

end ChatLedger.Store
