import ChatLedger.Proofs.Reading.Words
import ChatLedger.Proofs.Service.Calls
import ChatLedger.Proofs.Store.DeletedRecords

/-!
# Deletion is final

Any number of calls and other programs run on one store, each store call a single atomic step.

1. `ServiceCall.Makes.advancesOnly`: the services open sessions as active and end them.
2. `Event.Meets`: a process that starts after a deletion meets the record as deleted, and what it
   reads is answered as without the record.
3. `ServiceCall.Lists`: the one read that looks at a subscription by its number, deleted or not. It
   fails where the subscription is deleted (`not_listed`).
4. `deletion_is_final` puts this together with what is known of deleted rows: they stay as they are,
   and no read that starts later sees them.
-/

namespace ChatLedger

open Store Operation

namespace ServiceCall

/-- The services open sessions as active, and set the status of sessions to ended only. -/
theorem Makes.advancesOnly {c : ServiceCall} {r : Request} (h : c.Makes r) : r.AdvancesOnly := by
  cases r with
  | createSession s =>
    obtain ⟨call, -, hread | hwrite⟩ := h.chat rfl not_false
    · cases hread
    · cases call with
      | createSession user input now fresh => exact hwrite.2.2.1
      | _ => cases hwrite
  | setSessionStatus id status now =>
    obtain ⟨call, -, hread | hwrite⟩ := h.chat rfl not_false
    · cases hread
    · cases call with
      | finishSession user id' now' => exact hwrite.2.1
      | _ => cases hwrite
  | _ => trivial

/-- The call lists the articles of the subscription. -/
def Lists : Record → ServiceCall → Prop
  | .subscription row, .listArticles _ subscription _ _ => subscription = row
  | _, _ => False

/-- Only the list of its articles names a subscription by its number. -/
theorem Makes.lists {c : ServiceCall} {r : Request} {record : Record} (h : c.Makes r)
    (hclock : c.readings = []) (names : r.Names record) : c.Lists record := by
  cases record with
  | subscription row =>
    cases c with
    | chat call =>
      refine h.elim (fun hread => ?_) fun hwrite => absurd hclock hwrite.clock
      cases r <;> first | exact hread.elim | exact names.elim
    | membership call => exact absurd hclock call.readings_ne_nil
    | createArticle subscription article now => cases hclock
    | deleteArticle id now => cases hclock
    | listMemberships user page size =>
      obtain ⟨_, rfl⟩ := h
      cases names
    | listArticles user subscription page size =>
      rcases h with rfl | rfl | ⟨_, rfl⟩ <;> exact names
    | listAllArticles user page size =>
      obtain ⟨_, rfl⟩ := h
      cases names
  | _ => cases names

/-- A list of articles has found the subscription, and found it active. -/
theorem ends_listArticles {settings : Settings} {user : UserId} {id : Int}
    {page size : Option UInt32} {l : List Exchange} {reply : ServiceReply}
    (h : ((listArticles user id page size).operation settings).Ends l (.ok reply)) :
    ∃ s, ⟨.getSubscription id, .ok (some s)⟩ ∈ l ∧ s.status = .active := by
  obtain ⟨found, h, -⟩ := ends_map_ok h
  obtain ⟨s, l₁, l₂, rfl, hopened, -⟩ := ends_bind_ok h
  obtain ⟨s', l₃, l₄, rfl, hfound, hafter⟩ := ends_bind_ok hopened
  obtain ⟨answer, l₅, l₆, rfl, hask, hcheck⟩ := ends_bind_ok hfound
  obtain ⟨-, hs⟩ := ends_check.1 hcheck
  obtain ⟨_, l₇, l₈, rfl, hopen, -⟩ := ends_bind_ok hafter
  obtain ⟨-, hactive⟩ := ends_check.1 hopen
  cases answer with
  | none => cases hs
  | some s'' =>
    cases hs
    refine ⟨s', by simp [ends_ask_ok hask], ?_⟩
    by_contra hclosed
    rw [Memberships.ensureOpen, if_neg hclosed] at hactive
    cases hactive

end ServiceCall

namespace Store

variable {ι : Type} {record : Record}

/-- The call was made on tables where the record is deleted. -/
structure Event.Meets (record : Record) (e : Event ι) : Prop where
  lawful : e.Lawful
  gone : e.before.Gone record
  numbered : e.before.Numbered
  keyed : e.before.Keyed

/-- A process that starts after a deletion meets the record as deleted. -/
theorem Trace.meets {earlier later : List (Event ι)} {t t' : Tables}
    (trace : Trace {} (earlier ++ later) t') (onward : Trace t later t') (gone : t.Gone record)
    {i : ι} (started : ∀ e ∈ earlier, e.process ≠ i) {e : Event ι} (he : e ∈ earlier ++ later)
    (hi : e.process = i) : e.Meets record := by
  obtain ⟨h₁, h₂, hsplit⟩ := List.append_of_mem he
  obtain ⟨first, lawful, -⟩ := (hsplit ▸ trace).split
  have hlater := (List.mem_append.1 he).resolve_left fun hearly => started e hearly hi
  obtain ⟨l₁, l₂, rfl⟩ := List.append_of_mem hlater
  exact ⟨lawful, gone.later onward.split.1.stays, first.numbered,
    first.keyed Tables.keyed_empty⟩

/-- A read is answered as on the tables without the record, unless it fails. -/
theorem Event.Meets.unseen {e : Event ι} (h : e.Meets record)
    (reads : e.request.access = .reader) (names : ¬ e.request.Names record) :
    (∃ error, e.answer = .error error) ∨
      e.answer = (e.request.perform (e.before.without record)).1 := by
  rcases h.lawful with hperform | ⟨error, hfailed, -⟩
  · refine .inr (.trans (congrArg Prod.fst hperform).symm (.symm ?_))
    exact Request.perform_without h.numbered h.keyed h.gone reads names
  · exact .inl ⟨error, hfailed⟩

/-- A deleted subscription that is found is cancelled. -/
theorem Event.Meets.not_active {e : Event ι} {row : Nat} (h : e.Meets (.subscription row))
    {s : Subscription} (hx : e.exchange = ⟨.getSubscription row, .ok (some s)⟩) :
    s.status ≠ .active := by
  obtain ⟨lawful, ⟨dead, hdead, hrow, hstatus⟩, numbered, -⟩ := h
  obtain ⟨i, request, answer, before, after⟩ := e
  cases hx
  obtain ⟨r, hfound, hread⟩ := mapM_eq_some.1 (congrArg Prod.fst (lawful.perform_of_ok rfl))
  have hid : (r.row : Int) = row := by
    have hhas := List.find?_some hfound
    exact beq_iff_eq.1 hhas
  have hsame : r = dead := numbered.subscriptions.eq_of_fst_eq (List.mem_of_find?_eq_some hfound)
    hdead ((Int.natCast_inj.1 hid).trans hrow.symm)
  rw [hsame] at hread
  simp only [SubscriptionRow.subscription, bind_eq_ok] at hread
  obtain ⟨status, hword, _, -, _, -, hread⟩ := hread
  rw [hstatus, readWord, SubscriptionStatus.parse_word] at hword
  cases hword
  cases hread
  exact fun h => by cases h

/-- The articles of a subscription that is met as deleted are not listed. -/
theorem not_listed [DecidableEq ι] {i : ι} {history : List (Event ι)} {settings : Settings}
    {c : ServiceCall} (lists : c.Lists record)
    (meets : ∀ e ∈ history, e.process = i → e.Meets record) {reply : ServiceReply} :
    ¬ (c.program settings).Path (exchangesOf i history) (.done (.ok reply)) := by
  intro hpath
  cases record with
  | subscription row =>
    cases c with
    | listArticles user subscription page size =>
      cases lists
      obtain ⟨s, hmem, hactive⟩ := ServiceCall.ends_listArticles hpath
      obtain ⟨e, he, hi, hx⟩ := mem_exchangesOf.1 hmem
      exact (meets e he hi).not_active hx hactive
    | _ => cases lists
  | _ => cases lists

/-- Whatever a process asks is answered as on the tables without the record, unless it fails. -/
def Unseen (record : Record) (history : List (Event ι)) (i : ι) : Prop :=
  ∀ e ∈ history, e.process = i → (∃ error, e.answer = .error error) ∨
    e.answer = (e.request.perform (e.before.without record)).1

end Store

variable {ι : Type} [DecidableEq ι]

/-- **Deletion is final.** Any programs run at the same time, and some of their store calls may fail.
Between any two moments:

1. all rows are kept, and those that are deleted as they are;
2. calls of the services open sessions as active, and move their statuses one way;
3. a read of the services that starts later sees neither a deleted record nor what belongs to it,
   and the articles of a deleted subscription are not listed at all;
4. the roll-up of a deleted session is not computed, and nothing is written. -/
theorem deletion_is_final (programs : ι → Program (Except ServiceError ServiceReply))
    (earlier later : List (Turn ι)) :
    let w := (World.mk {} programs []).run earlier
    let w' := w.run later
    w.tables.Stays w'.tables ∧
    ((∀ i, ∃ settings, ∃ c : ServiceCall, programs i = c.program settings) →
      ∀ e ∈ w'.history, e.before.Advances e.after) ∧
    (∀ record, w.tables.Gone record → ∀ i settings (c : ServiceCall),
      programs i = c.program settings → c.readings = [] → (∀ e ∈ w.history, e.process ≠ i) →
      (¬ c.Lists record → Unseen record w'.history i) ∧
      (c.Lists record → ∀ reply, w'.outcome? i ≠ some (.ok reply))) ∧
    ∀ id now, w.tables.Gone (.session id.text) →
      (Request.refreshRollup id now).perform w'.tables = (.ok none, w'.tables) := by
  intro w w'
  have hrun : w' = (World.mk {} programs []).run (earlier ++ later) := (World.run_append ..).symm
  have trace : Trace {} w'.history w'.tables := hrun ▸ World.trace_run {} programs _
  obtain ⟨events, hhistory, onward⟩ := w.trace_onward later
  have stays : w.tables.Stays w'.tables := onward.stays
  have makes {e : Event ι} (he : e ∈ w'.history) {settings : Settings} {c : ServiceCall}
      (hprogram : programs e.process = c.program settings) : c.Makes e.request := by
    rw [hrun] at he
    exact World.asks_of_process (hprogram ▸ c.asks_makes settings) he
  refine ⟨stays, fun services => ?_, fun record gone i settings c hprogram hclock started => ?_,
    fun id now gone => (gone.later stays).refreshRollup (trace.keyed Tables.keyed_empty) now⟩
  · refine trace.advances fun e he => ?_
    obtain ⟨settings, c, hprogram⟩ := services e.process
    exact (makes he hprogram).advancesOnly
  · have meets (e : Event ι) (he : e ∈ w'.history) (hi : e.process = i) : e.Meets record := by
      rw [hhistory] at he trace
      exact trace.meets onward gone started he hi
    refine ⟨fun hlists e he hi => ?_, fun hlists reply hended => ?_⟩
    · have hmakes := makes he (hi ▸ hprogram)
      exact (meets e he hi).unseen (hmakes.reader hclock) fun names =>
        hlists (hmakes.lists hclock names)
    · rw [hrun] at hended
      have hpath := World.path_of_outcome hended
      rw [← hrun, hprogram] at hpath
      exact not_listed hlists meets hpath

/-- A user opens a session and adds a message to it, while deleting the session. Then the user's
messages are read. -/
def overtakenAndRead : Fin 4 → ServiceCall
  | 0 => .chat (.createSession ⟨1⟩ ⟨"plans", none, none⟩ .start2026 (.ofNat 1))
  | 1 => .chat (.createMessage ⟨1⟩ (.ofNat 1) ⟨none, .user, "hello", 3, 0.5, .normal, none⟩
      .start2026 (.ofNat 2))
  | 2 => .chat (.deleteSession ⟨1⟩ (.ofNat 1) .start2026)
  | 3 => .chat (.recentMessages ⟨1⟩ 10)

/-- The message is added after its session has been deleted, and the read does not see it. -/
theorem deletion_is_final_for_late_message :
    let programs := fun i => (overtakenAndRead i).program {}
    let w := (World.mk {} programs []).run [.calm 0, .calm 1, .calm 2, .calm 2]
    let w' := w.run [.calm 1, .calm 1, .calm 3]
    w.tables.Gone (.session (Uuid.ofNat 1).text) ∧ w'.tables.messages.length = 1 ∧
      (∃ e ∈ w'.history, e.process = 3) ∧ w.tables.Stays w'.tables ∧
      (∀ e ∈ w'.history, e.before.Advances e.after) ∧
      Unseen (.session (Uuid.ofNat 1).text) w'.history 3 ∧
      (Request.refreshRollup (.ofNat 1) .start2026).perform w'.tables = (.ok none, w'.tables) := by
  intro programs w w'
  obtain ⟨gone, added, asked, started⟩ :
      (∃ s ∈ w.tables.sessions, s.id = (Uuid.ofNat 1).text ∧
        s.status = Vocabulary.word SessionStatus.deleted) ∧
      w'.tables.messages.length = 1 ∧ (∃ e ∈ w'.history, e.process = 3) ∧
      ∀ e ∈ w.history, e.process ≠ 3 := by
    decide +kernel
  obtain ⟨stays, advances, unseen, missing⟩ :=
    deletion_is_final programs [.calm 0, .calm 1, .calm 2, .calm 2] [.calm 1, .calm 1, .calm 3]
  refine ⟨gone, added, asked, stays, advances fun i => ⟨{}, overtakenAndRead i, rfl⟩, ?_,
    missing _ _ gone⟩
  exact (unseen (.session _) gone 3 {} (overtakenAndRead 3) rfl rfl started).1 not_false

end ChatLedger
