import ChatLedger.Proofs.Chat.Lookups
import ChatLedger.Proofs.Service.Timely
import Mathlib.Data.Set.List
import Mathlib.Data.UInt

/-!
# Deleting all sessions at once

The store deletes all sessions of a user in two changes, first the messages and then the sessions. A
single session is deleted the other way round, and looked up before that.

1. `Tables.Keyed.deleteSessionsOf_step`: deleting one session and then the others is deleting all of
   them, with the counts added up.
2. `on_deleteEach`: hence sessions that are deleted one after the other, in whatever order, are
   deleted as all at once.
3. `deleting_all_is_deleting_each`: so it is on all tables that calls can lead to, if their times
   are read back. The numbers are those that the listings say, nothing of other users changes, and a
   second time nothing is left to delete.
-/

namespace ChatLedger

open Store Time Operation

/-- Deletes sessions of a user one after the other, and says how many messages went with each. -/
def Sessions.deleteEach (user : UserId) (now : Instant) : List Uuid → Operation (List UInt64)
  | [] => pure []
  | id :: ids => do
    let removed ← Sessions.delete user id now
    return removed :: (← deleteEach user now ids)

namespace Store

/-! ## Rows -/

section Rows

variable {α : Type} {first second both : α → Bool} {change : α → α} {rows : List α}
  (met : ∀ r ∈ rows, both r = (first r || second r)) (once : ∀ r, second (change r) = false)

include met once

/-- Rows that a change meets, or the same change under another condition after it, are met by both
at once, if what has been changed is not met again. -/
theorem changeWhere_changeWhere :
    changeWhere second change (changeWhere first change rows) = changeWhere both change rows := by
  unfold changeWhere
  rw [List.map_map]
  refine List.map_congr_left fun r hr => ?_
  rw [met r hr]
  cases hfirst : first r <;> simp [hfirst, once]

/-- As many rows are met by both at once as by one after the other. -/
theorem countP_changeWhere :
    rows.countP both = rows.countP first + (changeWhere first change rows).countP second := by
  induction rows with
  | nil => rfl
  | cons r rows ih =>
    obtain ⟨hmet, hrest⟩ := List.forall_mem_cons.1 met
    have ih := ih hrest
    unfold changeWhere at ih ⊢
    cases hfirst : first r with
    | true =>
      simp [hmet, hfirst, ih, once]
      omega
    | false =>
      simp [hmet, hfirst, List.countP_cons, ih]
      omega

theorem countWhere_changeWhere : Tables.countWhere both rows =
    Tables.countWhere first rows + Tables.countWhere second (changeWhere first change rows) := by
  unfold Tables.countWhere
  rw [countP_changeWhere met once, UInt64.ofNat_add]

omit met once in
/-- What has been changed is not kept. -/
theorem filter_changeWhere_once {keep : α → Bool} (once : ∀ r, keep (change r) = false) :
    (changeWhere first change rows).filter keep = rows.filter fun r => !first r && keep r := by
  induction rows with
  | nil => rfl
  | cons r rows ih =>
    unfold changeWhere at ih ⊢
    cases hfirst : first r <;> simp [hfirst, once, ih, List.filter_cons]

end Rows

namespace Tables

variable {t : Tables} {user : UserId} {id : Uuid} {now : Instant} {s : SessionRow}

/-- The session is a live one of the user. -/
def doomed (user : UserId) (s : SessionRow) : Bool := s.isLive && s.owner == user.number

/-- The message is a live one of a live session of the user. -/
def doomedWith (t : Tables) (user : UserId) (m : MessageRow) : Bool :=
  (t.sessions.any fun s => doomed user s && s.id == m.session) && m.isLive

theorem doomedWith_eq_true {m : MessageRow} : t.doomedWith user m = true ↔
    (∃ s ∈ t.sessions, doomed user s = true ∧ s.id = m.session) ∧ m.isLive = true := by
  simp [doomedWith]

/-- A session that has been deleted is not deleted again. -/
theorem doomed_setStatus (s : SessionRow) : doomed user (s.setStatus .deleted now) = false := rfl

theorem doomedWith_delete (t : Tables) (user : UserId) (now : Instant) (m : MessageRow) :
    t.doomedWith user (m.delete now) = false := Bool.and_false _

/-- The tables without the sessions of a user and their messages. -/
def withoutSessionsOf (t : Tables) (user : UserId) (now : Instant) : Tables :=
  { t with
    sessions := changeWhere (doomed user) (·.setStatus .deleted now) t.sessions
    messages := changeWhere (t.doomedWith user) (·.delete now) t.messages }

theorem deleteSessionsOf_eq : deleteSessionsOf user now t =
    .ok (⟨countWhere (doomed user) t.sessions, countWhere (t.doomedWith user) t.messages⟩,
      t.withoutSessionsOf user now) := rfl

/-! ## One session and the others -/

/-- The tables without a session and its messages. -/
def withoutSession (t : Tables) (id : Uuid) (now : Instant) : Tables :=
  { t with
    sessions := changeWhere (fun r => r.has id && r.isLive) (·.setStatus .deleted now) t.sessions
    messages := changeWhere (fun m => m.session == id.text && m.isLive) (·.delete now) t.messages }

/-- A live session is deleted with its live messages. -/
theorem deleteSession_of_live (hs : s ∈ t.sessions) (hlive : s.isLive = true)
    (hid : s.id = id.text) : deleteSession id now t =
      .ok (countWhere (fun m => m.session == id.text && m.isLive) t.messages,
        t.withoutSession id now) := by
  have hany : (t.sessions.any fun r => r.has id && r.isLive) = true :=
    List.any_eq_true.2 ⟨s, hs, by simp [SessionRow.has, hid, hlive]⟩
  unfold deleteSession setStatus changeSession
  rw [hany]
  rfl

variable (keyed : t.Keyed) (hs : s ∈ t.sessions) (hid : s.id = id.text)
  (hdoomed : doomed user s = true)

include keyed hs hid hdoomed

/-- The sessions to be deleted are the one and those that are still there without it. -/
theorem Keyed.doomed_cases : ∀ r ∈ t.sessions,
    doomed user r = ((r.has id && r.isLive) || doomed user r) := by
  intro r hr
  cases hhas : r.has id && r.isLive with
  | false => rfl
  | true =>
    have hrow := beq_iff_eq.1 (Bool.and_eq_true_iff.1 hhas).1
    rw [keyed.session_eq hr hs (hrow.trans hid.symm), hdoomed]
    rfl

omit keyed in
/-- The messages to be deleted are those of the one session and those of the others. -/
theorem doomedWith_cases (now : Instant) : ∀ m ∈ t.messages, t.doomedWith user m =
    ((m.session == id.text && m.isLive) || (t.withoutSession id now).doomedWith user m) := by
  intro m _
  rw [Bool.eq_iff_iff, Bool.or_eq_true, Bool.and_eq_true, beq_iff_eq, doomedWith_eq_true,
    doomedWith_eq_true]
  constructor
  · rintro ⟨⟨r, hr, hmine, hrow⟩, hlive⟩
    cases hhas : r.has id && r.isLive with
    | true =>
      exact .inl ⟨hrow.symm.trans (beq_iff_eq.1 (Bool.and_eq_true_iff.1 hhas).1), hlive⟩
    | false => exact .inr ⟨⟨r, mem_changeWhere.2 (.inr ⟨hr, hhas⟩), hmine, hrow⟩, hlive⟩
  · rintro (⟨hsession, hlive⟩ | ⟨⟨r, hr, hmine, hrow⟩, hlive⟩)
    · exact ⟨⟨s, hs, hdoomed, hid.trans hsession.symm⟩, hlive⟩
    · rcases mem_changeWhere.1 hr with ⟨r₀, -, -, rfl⟩ | ⟨h₀, -⟩
      · cases hmine
      · exact ⟨⟨r, h₀, hmine, hrow⟩, hlive⟩

omit hdoomed in
/-- There is just one session of the identifier. -/
theorem Keyed.countWhere_session (hlive : s.isLive = true) :
    countWhere (fun r => r.has id && r.isLive) t.sessions = 1 := by
  have hcount : (t.sessions.map (·.id)).count id.text = 1 :=
    List.count_eq_one_of_mem keyed.sessions (List.mem_map.2 ⟨s, hs, hid⟩)
  have hsame : t.sessions.countP (fun r => r.has id && r.isLive) =
      (t.sessions.map (·.id)).count id.text := by
    unfold List.count
    rw [List.countP_map]
    refine List.countP_congr fun r hr => ?_
    rw [Bool.and_eq_true]
    refine ⟨And.left, fun hhas => ⟨hhas, ?_⟩⟩
    rw [keyed.session_eq hr hs ((beq_iff_eq.1 hhas).trans hid.symm), hlive]
  unfold countWhere
  rw [hsame, hcount]
  rfl

/-- **One session and then the others** are all of them. -/
theorem Keyed.deleteSessionsOf_step {sessions messages : UInt64} {t' : Tables}
    (h : deleteSessionsOf user now (t.withoutSession id now) = .ok (⟨sessions, messages⟩, t')) :
    deleteSessionsOf user now t = .ok (⟨1 + sessions,
      countWhere (fun m => m.session == id.text && m.isLive) t.messages + messages⟩, t') := by
  have hlive : s.isLive = true := (Bool.and_eq_true_iff.1 hdoomed).1
  have hsessions := keyed.doomed_cases hs hid hdoomed
  have hmessages := doomedWith_cases hs hid hdoomed now
  have once := (t.withoutSession id now).doomedWith_delete user now
  have htables :
      (t.withoutSession id now).withoutSessionsOf user now = t.withoutSessionsOf user now := by
    unfold withoutSessionsOf withoutSession
    rw [changeWhere_changeWhere hsessions doomed_setStatus]
    exact congrArg (Tables.mk _ · _ _ _) (changeWhere_changeWhere hmessages once)
  rw [deleteSessionsOf_eq, htables] at h
  cases h
  rw [deleteSessionsOf_eq, countWhere_changeWhere hsessions doomed_setStatus,
    countWhere_changeWhere hmessages once, keyed.countWhere_session hs hid hlive]
  rfl

omit keyed hs hid hdoomed in
/-- Where a user has no session there is nothing to delete. -/
theorem deleteSessionsOf_none (none : t.sessionsOf user = []) :
    deleteSessionsOf user now t = .ok (⟨0, 0⟩, t) := by
  have hsessions : ∀ r ∈ t.sessions, doomed user r = false := by
    simpa [sessionsOf, List.filter_eq_nil_iff, doomed] using none
  have hmessages : ∀ m ∈ t.messages, t.doomedWith user m = false := by
    intro m _
    by_contra hmet
    obtain ⟨⟨r, hr, hdoomed, -⟩, -⟩ := doomedWith_eq_true.1 (Bool.not_eq_false _ ▸ hmet)
    rw [hsessions r hr] at hdoomed
    cases hdoomed
  have zero {α : Type} {condition : α → Bool} {rows : List α}
      (h : ∀ r ∈ rows, condition r = false) : countWhere condition rows = 0 := by
    unfold countWhere
    rw [List.countP_eq_zero.2 fun r hr => by simp [h r hr]]
    rfl
  rw [deleteSessionsOf_eq, zero hsessions, zero hmessages]
  unfold withoutSessionsOf
  rw [changeWhere_eq_self hsessions, changeWhere_eq_self hmessages]

omit keyed hs hid hdoomed in
/-- The sessions of the user that are left when one has been deleted. -/
theorem sessionsOf_withoutSession (t : Tables) (user : UserId) (id : Uuid) (now : Instant) :
    (t.withoutSession id now).sessionsOf user = (t.sessionsOf user).filter fun r => !r.has id := by
  unfold sessionsOf withoutSession
  rw [List.filter_filter, filter_changeWhere_once fun _ => rfl]
  refine List.filter_congr fun r _ => ?_
  cases r.isLive <;> simp

omit keyed hs hid hdoomed in
theorem sessionsOf_withoutSessionsOf (t : Tables) (user : UserId) (now : Instant) :
    (t.withoutSessionsOf user now).sessionsOf user = [] := by
  refine List.filter_eq_nil_iff.2 fun r hr hmet => ?_
  rcases mem_changeWhere.1 hr with ⟨r₀, -, -, rfl⟩ | ⟨-, hmissed⟩
  · cases hmet
  · rw [doomed, hmet] at hmissed
    cases hmissed

end Tables

end Store

/-! ## Calls -/

section Calls

variable {t : Tables} {user : UserId} {now : Instant} {id : Uuid} {s : SessionRow}

theorem perform_deleteSession (hs : s ∈ t.sessions) (hlive : s.isLive = true)
    (hid : s.id = id.text) (now : Instant) : (Request.deleteSession id now).perform t =
      (.ok (Tables.countWhere (fun m => m.session == id.text && m.isLive) t.messages),
        t.withoutSession id now) :=
  Request.settle_eq_ok.2 (Tables.deleteSession_of_live hs hlive hid)

theorem on_deleteSession (keyed : t.Keyed) (hs : s ∈ t.sessions) (hid : s.id = id.text)
    (hdoomed : Tables.doomed user s = true) (hread : s.Legible) (now : Instant) :
    (Sessions.delete user id now).on t =
      (.ok (Tables.countWhere (fun m => m.session == id.text && m.isLive) t.messages),
        t.withoutSession id now) := by
  obtain ⟨hlive, howner⟩ := Bool.and_eq_true_iff.1 hdoomed
  obtain ⟨session, howned⟩ := on_owned keyed hs hlive hid (beq_iff_eq.1 howner) hread
  exact (on_bind_ok howned).trans (on_ask (perform_deleteSession hs hlive hid now))

theorem on_deleteAll {removed : SessionsDeleted} {t' : Tables}
    (h : Tables.deleteSessionsOf user now t = .ok (removed, t')) :
    (Sessions.deleteAll user now).on t = (.ok removed, t') :=
  on_ask (r := .deleteUserSessions user now) (Request.settle_eq_ok.2 h)

/-- **Deleting each session** of a user is deleting all of them, in whatever order they come. The
sessions that are left have to be read, those that are deleted already do not. -/
theorem on_deleteEach {ids : List Uuid} (keyed : t.Keyed)
    (legible : ∀ s ∈ t.sessionsOf user, s.Legible)
    (all : (ids.map Uuid.text).Perm ((t.sessionsOf user).map (·.id))) (now : Instant) :
    ∃ counts t', (Sessions.deleteEach user now ids).on t = (.ok counts, t') ∧
      Tables.deleteSessionsOf user now t = .ok (⟨UInt64.ofNat ids.length, counts.sum⟩, t') := by
  induction ids generalizing t with
  | nil =>
    have hnone : t.sessionsOf user = [] := List.map_eq_nil_iff.1 all.nil_eq.symm
    exact ⟨[], t, rfl, Tables.deleteSessionsOf_none hnone⟩
  | cons id ids ih =>
    obtain ⟨s, hmine, hid⟩ : ∃ s ∈ t.sessionsOf user, s.id = id.text :=
      List.mem_map.1 (all.subset List.mem_cons_self)
    obtain ⟨hs, hdoomed⟩ := List.mem_filter.1 hmine
    have hfirst := on_deleteSession keyed hs hid hdoomed (legible s hmine) now
    -- the sessions that are left are those of the other identifiers
    have hleft := Tables.sessionsOf_withoutSession t user id now
    have nodup : ((t.sessionsOf user).map (·.id)).Nodup :=
      keyed.sessions.sublist (List.filter_sublist.map _)
    have rest :
        (ids.map Uuid.text).Perm (((t.withoutSession id now).sessionsOf user).map (·.id)) := by
      have herase := all.erase id.text
      rw [List.map_cons, List.erase_cons_head, nodup.erase_eq_filter, List.filter_map] at herase
      rw [hleft]
      exact herase
    have keyed' : (t.withoutSession id now).Keyed := by
      have hperform := perform_deleteSession hs (Bool.and_eq_true_iff.1 hdoomed).1 hid now
      rw [← show _ = t.withoutSession id now from congrArg Prod.snd hperform]
      exact keyed.perform _
    obtain ⟨counts, t', hrest, hbulk⟩ := ih keyed'
      (fun r hr => legible r (List.mem_filter.1 (hleft ▸ hr)).1) rest
    refine ⟨Tables.countWhere (fun m => m.session == id.text && m.isLive) t.messages :: counts, t',
      ?_, ?_⟩
    · unfold Sessions.deleteEach
      rw [on_bind_ok hfirst, on_bind_ok hrest]
      rfl
    · rw [keyed.deleteSessionsOf_step hs hid hdoomed hbulk, List.sum_cons, List.length_cons,
        UInt64.ofNat_add, UInt64.add_comm]
      rfl

/-! ## The listings before -/

/-- The total of a page is the number of all rows. -/
theorem total_of_page {Row α : Type} {rows : List Row} {request : PageRequest}
    {read : Row → Except StoreError α} {found : List α × UInt64}
    (h : page rows request read = .ok found) : found.2 = countOf rows := by
  obtain ⟨items, -, h⟩ := bind_eq_ok.1 h
  cases h
  rfl

theorem countOf_mergeSort {α : Type} (rows : List α) (le : α → α → Bool) :
    countOf (rows.mergeSort le) = countOf rows := by
  unfold countOf
  rw [List.length_mergeSort]

theorem countOf_filter {α : Type} (condition : α → Bool) (rows : List α) :
    countOf (rows.filter condition) = Tables.countWhere condition rows := by
  unfold countOf Tables.countWhere
  rw [List.countP_eq_length_filter]

/-- The sessions to be deleted are those that are listed. -/
theorem total_sessions (legible : t.ChatLegible) (settings : Settings) (p size : Option UInt32) :
    ∃ answer, (Sessions.list settings user p size).on t = (.ok answer, t) ∧
      answer.total = Tables.countWhere (Tables.doomed user) t.sessions := by
  obtain ⟨found, hfound⟩ := legible.exists_answer
    (r := .listSessions user (settings.paging.resolve .sessions p size)) trivial
  refine ⟨_, on_handOn (Prod.ext hfound rfl), (total_of_page hfound).trans ?_⟩
  exact (countOf_mergeSort _ _).trans (countOf_filter _ _)

/-- The messages to be deleted are those that are listed. -/
theorem total_messages (legible : t.ChatLegible) (settings : Settings) (p size : Option UInt32) :
    ∃ answer, (Messages.listAll settings user p size).on t = (.ok answer, t) ∧
      answer.total = Tables.countWhere (t.doomedWith user) t.messages := by
  obtain ⟨found, hfound⟩ := legible.exists_answer
    (r := .listUserMessages user (settings.paging.resolve .messages p size)) trivial
  refine ⟨_, on_handOn (Prod.ext hfound rfl), (total_of_page hfound).trans ?_⟩
  refine (countOf_mergeSort _ _).trans ((countOf_filter _ _).trans ?_)
  refine congrArg UInt64.ofNat (List.countP_congr fun m _ => ?_)
  rw [Tables.shows_eq_true, Tables.doomedWith_eq_true, and_comm]
  simp [Tables.doomed, and_comm, and_left_comm]

end Calls

/-! ## What deleting all sessions does -/

/-- What becomes of the tables when all sessions of a user are deleted at some time. -/
structure Store.Tables.DeletesAll (t : Tables) (user : UserId) (now : Instant)
    (removed : SessionsDeleted) (t' : Tables) : Prop where
  atOnce : (Sessions.deleteAll user now).on t = (.ok removed, t')
  /-- The live sessions of the user, deleted one after the other in any order, leave the same five
  tables, and the numbers of their messages add up. -/
  oneByOne : ∀ ids : List Uuid, (ids.map Uuid.text).Perm ((t.sessionsOf user).map (·.id)) →
    ∃ counts, (Sessions.deleteEach user now ids).on t = (.ok counts, t') ∧
      counts.sum = removed.messages
  /-- There are identifiers of the sessions, so that they can be deleted one after the other. -/
  named : ∃ ids : List Uuid, ids.map Uuid.text = (t.sessionsOf user).map (·.id)
  /-- As many sessions are deleted as were listed. -/
  sessions : ∀ settings page size, ∃ listed,
    (Sessions.list settings user page size).on t = (.ok listed, t) ∧
      listed.total = removed.sessions
  /-- As many messages are deleted as were listed. -/
  messages : ∀ settings page size, ∃ listed,
    (Messages.listAll settings user page size).on t = (.ok listed, t) ∧
      listed.total = removed.messages
  /-- Sessions of other users stay as they are. -/
  sparesSessions : ∀ (i : Nat) (s : SessionRow), t.sessions[i]? = some s →
    s.owner ≠ user.number → t'.sessions[i]? = some s
  /-- Messages in sessions of other users stay as they are. -/
  sparesMessages : ∀ (i : Nat) (m : MessageRow), t.messages[i]? = some m →
    (∀ s ∈ t.sessions, s.id = m.session → s.owner ≠ user.number) → t'.messages[i]? = some m
  /-- Nothing is left to be deleted. -/
  again : ∀ later, (Sessions.deleteAll user later).on t' = (.ok ⟨0, 0⟩, t')

/-- Rows that a change does not meet stay where they are. -/
theorem Store.getElem?_changeWhere_of_not_met {α : Type} {condition : α → Bool} {change : α → α}
    {rows : List α} {i : Nat} {r : α} (hr : rows[i]? = some r) (h : condition r = false) :
    (changeWhere condition change rows)[i]? = some r := by
  unfold changeWhere
  rw [List.getElem?_map, hr]
  simp [h]

/-- All sessions of a user are deleted at once as one by one, if they can be read. -/
theorem Store.Tables.Keyed.deletesAll {t : Tables} (keyed : t.Keyed) (legible : t.ChatLegible)
    (user : UserId) (now : Instant) : t.DeletesAll user now
      ⟨Tables.countWhere (Tables.doomed user) t.sessions,
        Tables.countWhere (t.doomedWith user) t.messages⟩ (t.withoutSessionsOf user now) where
  atOnce := on_deleteAll rfl
  oneByOne ids all := by
    obtain ⟨counts, t', heach, hbulk⟩ := on_deleteEach keyed
      (fun s hs => legible.sessions s (List.mem_filter.1 hs).1) all now
    obtain ⟨hremoved, rfl⟩ := Prod.mk.inj (Except.ok.inj hbulk)
    exact ⟨counts, heach, (congrArg SessionsDeleted.messages hremoved).symm⟩
  named := by
    have all : (t.sessionsOf user).map (·.id) ∈ Set.range (List.map Uuid.text) := by
      rw [Set.range_list_map]
      refine List.forall_mem_map.2 fun s hs => ?_
      obtain ⟨id, hid⟩ := (legible.sessions s (List.mem_filter.1 hs).1).id
      exact ⟨id, hid.symm⟩
    exact all
  sessions := total_sessions legible
  messages := total_messages legible
  sparesSessions i s hs howner := by
    refine getElem?_changeWhere_of_not_met hs ?_
    simp [Tables.doomed, howner]
  sparesMessages i m hm foreign := by
    refine getElem?_changeWhere_of_not_met hm (Bool.eq_false_iff.2 fun hmet => ?_)
    obtain ⟨⟨s, hs, hdoomed, hid⟩, -⟩ := Tables.doomedWith_eq_true.1 hmet
    exact foreign s hs hid (beq_iff_eq.1 (Bool.and_eq_true_iff.1 hdoomed).2)
  again later :=
    on_deleteAll (Tables.deleteSessionsOf_none (Tables.sessionsOf_withoutSessionsOf ..))

/-- **Deleting all sessions is deleting each of them.** Calls of the services with clocks in the
years 0 to 9999 run at the same time on an empty store, and any of their store calls may fail.
Whatever they leave behind, at every time and for every user: the sessions of the user that are not
deleted can be deleted one after the other, in any order, and this leaves the same five tables as
deleting all of them at once. The numbers of sessions and messages are the totals of the listings
before, and the numbers of messages that the single deletions answer add up to the latter. No
session or message of another user changes, and deleting all sessions once more deletes nothing. -/
theorem deleting_all_is_deleting_each {ι : Type} [DecidableEq ι] (settings : ι → Settings)
    {calls : ι → ServiceCall} (clocks : ∀ i, ∀ now ∈ (calls i).readings, now.HasFourDigitYear)
    (schedule : List (Turn ι)) (user : UserId) (now : Instant) :
    ∃ removed t', ((World.mk {} (fun i => (calls i).program (settings i)) []).run
      schedule).tables.DeletesAll user now removed t' := by
  have keyed := (World.trace_run {} (fun i => (calls i).program (settings i)) schedule).keyed
    Tables.keyed_empty
  exact ⟨_, _, keyed.deletesAll (World.chatLegible_run settings clocks schedule) user now⟩

/-- A user opens two sessions and ends one of them, another user opens one, and each adds a
message. -/
def twoOwners : Fin 6 → ServiceCall
  | 0 => .chat (.createSession ⟨1⟩ ⟨"plans", none, none⟩ .start2026 (.ofNat 1))
  | 1 => .chat (.createSession ⟨1⟩ ⟨"notes", none, none⟩ .start2026 (.ofNat 2))
  | 2 => .chat (.createSession ⟨2⟩ ⟨"plans", none, none⟩ .start2026 (.ofNat 3))
  | 3 => .chat (.createMessage ⟨1⟩ (.ofNat 1) ⟨none, .user, "hello", 3, 0.5, .normal, none⟩
      .start2026 (.ofNat 4))
  | 4 => .chat (.createMessage ⟨2⟩ (.ofNat 3) ⟨none, .user, "hello", 3, 0.5, .normal, none⟩
      .start2026 (.ofNat 5))
  | 5 => .chat (.finishSession ⟨1⟩ (.ofNat 1) .start2026)

/-- Both sessions of the first user are deleted, the later one first. -/
theorem deleting_all_is_deleting_each_of_two :
    let t := ((World.mk {} (fun i => (twoOwners i).program {}) []).run
      ([0, 1, 2, 3, 3, 3, 4, 4, 4, 5, 5].map Turn.calm)).tables
    (∀ i, ∀ now ∈ (twoOwners i).readings, now.HasFourDigitYear) ∧
      ∃ removed t', t.DeletesAll ⟨1⟩ .start2026 removed t' ∧ removed = ⟨2, 1⟩ ∧
        (Sessions.deleteEach ⟨1⟩ .start2026 [.ofNat 2, .ofNat 1]).on t = (.ok [0, 1], t') := by
  intro t
  have clocks : ∀ i, ∀ now ∈ (twoOwners i).readings, now.HasFourDigitYear := by decide +kernel
  obtain ⟨removed, t', deletes⟩ := deleting_all_is_deleting_each (fun _ => {}) clocks
    ([0, 1, 2, 3, 3, 3, 4, 4, 4, 5, 5].map Turn.calm) ⟨1⟩ .start2026
  have hremoved : ((Sessions.deleteAll ⟨1⟩ .start2026).on t).1 = .ok ⟨2, 1⟩ := by decide +kernel
  rw [show (Sessions.deleteAll _ _).on t = _ from deletes.atOnce] at hremoved
  obtain ⟨counts, heach, -⟩ := deletes.oneByOne [.ofNat 2, .ofNat 1] (by decide +kernel)
  have hcounts :
      ((Sessions.deleteEach ⟨1⟩ .start2026 [.ofNat 2, .ofNat 1]).on t).1 = .ok [0, 1] := by
    decide +kernel
  rw [show (Sessions.deleteEach _ _ _).on t = _ from heach] at hcounts
  exact ⟨clocks, removed, t', deletes, Except.ok.inj hremoved,
    heach.trans (by rw [Except.ok.inj hcounts])⟩

/-- A session of year 10000 is deleted with all others, but not on its own: it can no longer be
read. -/
theorem not_deleting_all_is_deleting_each_in_year10000 :
    ¬ ∀ (settings : Settings) (c : ServiceCall) (schedule : List (Turn Unit)) (user : UserId)
      (now : Instant), ∃ removed t',
      ((World.mk {} (fun _ => c.program settings) []).run schedule).tables.DeletesAll user now
        removed t' := by
  intro h
  obtain ⟨removed, t', deletes⟩ :=
    h {} (.chat (.createSession ⟨1⟩ ⟨"plans", none, none⟩ .year10000 (.ofNat 1))) [.calm ()] ⟨1⟩
      .start2026
  obtain ⟨counts, heach, -⟩ := deletes.oneByOne [.ofNat 1] (by decide +kernel)
  have hfail : ((Sessions.deleteEach ⟨1⟩ .start2026 [.ofNat 1]).on
      ((World.mk {} (fun _ => (ServiceCall.chat (.createSession ⟨1⟩ ⟨"plans", none, none⟩
        .year10000 (.ofNat 1))).program {}) []).run [.calm ()]).tables).1.isOk = false := by
    decide +kernel
  rw [heach] at hfail
  cases hfail

end ChatLedger
