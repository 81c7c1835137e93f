import ChatLedger.Proofs.Chat.RollupExactness
import ChatLedger.Proofs.Store.Columns
import Mathlib.Algebra.Order.BigOperators.Group.List

/-!
# Fresh answers

What an answer with fresh figures says of the roll-up.

1. A call that answers with fresh figures changes messages of one session only (`keepsTo_changes`),
   and its own refresh of that session came after the change.
2. The figures are those that this refresh wrote (`Event.Lawful.written`).
3. `rollups_exact` puts this together for any number of calls that run at the same time.
-/

namespace ChatLedger.Store

open Time

variable {ι : Type}

/-! ## Changes behind fresh figures -/

/-- A message is read with the session that its row names. -/
theorem MessageRow.session_of_read {row : MessageRow} {m : Message} {id : Uuid}
    (h : row.message = .ok m) (hnamed : row.session = id.text) : m.session = id := by
  have hread := (message_eq_ok_iff.1 h).session
  rw [hnamed] at hread
  unfold readId at hread
  rw [Uuid.parse_text] at hread
  exact (Except.ok.inj hread).symm

/-- A message that is found has a row, which reads as the message. -/
theorem Request.getMessage_found {id : Uuid} {m : Message} {t t' : Tables}
    (h : (Request.getMessage id).perform t = (.ok (some m), t')) :
    ∃ row ∈ t.messages, row.has id = true ∧ row.message = .ok m := by
  obtain ⟨row, hf, hread⟩ := mapM_eq_some.1 (congrArg Prod.fst h)
  have hmem : row ∈ t.messages := (List.mem_filter.1 (List.mem_of_find?_eq_some hf)).1
  exact ⟨row, hmem, by simpa using List.find?_some hf, hread⟩

/-- A change to the message of an identifier leaves the messages of other sessions alone. -/
theorem Tables.Orderly.rowsOf_eq {t t' : Tables} (orderly : t.Orderly) {id : Uuid}
    {row : MessageRow} (hrow : row ∈ t.messages) (hid : row.has id = true) {session : String}
    (hne : session ≠ row.session) {change : MessageRow → MessageRow}
    (amends : MessageRow.Amends change)
    (h : t'.messages = changeWhere (fun r => r.has id && r.isLive) change t.messages) :
    t'.rowsOf session = t.rowsOf session := by
  unfold Tables.rowsOf
  rw [h]
  refine filter_changeWhere (fun r => by rw [amends.session]) fun r hr hmine => ?_
  by_contra hmet
  have hhas : r.has id = true := (Bool.and_eq_true_iff.1 (Bool.not_eq_false _ ▸ hmet)).1
  exact hne ((beq_iff_eq.1 hmine).symm.trans (orderly.session_eq hr hrow hhas hid))

/-- A message that has been found is still there, in its session. -/
theorem Trace.message_seen {history : List (Event ι)} {t : Tables} (trace : Trace {} history t)
    {e : Event ι} (he : e ∈ history) {id : Uuid} {m : Message}
    (hx : e.exchange = ⟨.getMessage id, .ok (some m)⟩) :
    ∃ row ∈ t.messages, row.has id = true ∧ row.session = m.session.text := by
  obtain ⟨h₁, h₂, rfl⟩ := List.append_of_mem he
  obtain ⟨earlier, lawful, later⟩ := trace.split
  obtain ⟨i, request, answer, before, after⟩ := e
  cases hx
  have hperform := lawful.perform_of_ok rfl
  obtain ⟨row, hrow, hid, hread⟩ := Request.getMessage_found hperform
  obtain ⟨owner, hnamed⟩ := earlier.orderly.named row hrow
  have hafter : after = before := (congrArg Prod.snd hperform).symm
  have hextends : before.Extends t := hafter ▸ later.extends
  obtain ⟨row', hrow', hkey⟩ := hextends.message hrow
  have hid' : row'.id = row.id := congrArg (·.2.1) hkey
  have hsession : row'.session = row.session := congrArg (·.2.2.1) hkey
  refine ⟨row', hrow', ?_, ?_⟩
  · unfold MessageRow.has
    rw [hid']
    exact hid
  · rw [hsession, hnamed, MessageRow.session_of_read hread hnamed]

/-- A refresh changes no messages. -/
theorem Event.Lawful.not_changes_of_refresh {e : Event ι} (h : e.Lawful) {id : Uuid}
    {now : Instant} {r : Rollup} (hx : e.exchange = ⟨.refreshRollup id now, .ok (some r)⟩)
    {session : String} : ¬ e.Changes session := by
  obtain ⟨tokens, hrefreshed, -⟩ := h.refreshed hx
  refine not_not.2 ?_
  rw [hrefreshed.tables]
  rfl

section Keeping

variable [DecidableEq ι] {i : ι} {h₁ : List (Event ι)} {e : Event ι} {id : Uuid} {session : String}

/-- A process that keeps to one session changes messages of no other. -/
theorem keepsTo_changes (trace : Trace {} h₁ e.before) (lawful : e.Lawful)
    (keeps : KeepsTo id (exchangesOf i h₁) e.exchange) (changes : e.Changes session) :
    session = id.text := by
  by_contra hne
  refine changes ?_
  have orderly := trace.orderly
  obtain ⟨p, request, answer, before, after⟩ := e
  dsimp only [Event.exchange] at *
  -- the message that is changed by its identifier belongs to the session of the process
  have same {mid : Uuid} {row : MessageRow} {change : MessageRow → MessageRow}
      (hrow : row ∈ before.messages) (hid : row.has mid = true) (hsession : row.session = id.text)
      (amends : MessageRow.Amends change) (t' : Tables)
      (h : t'.messages = changeWhere (fun r => r.has mid && r.isLive) change before.messages) :
      t'.rowsOf session = before.rowsOf session :=
    orderly.rowsOf_eq hrow hid (hsession ▸ hne) amends h
  have carried (h : (request.perform before).2.rowsOf session = before.rowsOf session) :
      after.rowsOf session = before.rowsOf session :=
    lawful.after_of (P := fun t => t.rowsOf session = before.rowsOf session) rfl h
  cases keeps with
  | read h => exact carried (by rw [Request.perform_of_reader h])
  | @insert m a hm =>
    refine carried (Request.settle_tables
      (P := fun t => t.rowsOf session = before.rowsOf session) rfl fun a t' h => ?_)
    obtain ⟨-, -, rfl⟩ := Tables.insertMessage_ok h
    unfold Tables.rowsOf
    rw [List.filter_append]
    have hother : (MessageRow.ofMessage (nextRow before.messages) m).session ≠ session :=
      fun hs => hne (hs.symm.trans (congrArg Uuid.text hm))
    simp [hother]
  | @update mid u now m hm =>
    have hperform := lawful.perform_of_ok rfl
    obtain ⟨row, hchange, hread⟩ := Request.settleRow_ok hperform
    obtain ⟨old, hold, hid, -, rfl, htables⟩ := Tables.updateMessage_ok hchange
    obtain ⟨owner, hnamed⟩ := orderly.named old hold
    have hsession : m.session = owner := MessageRow.session_of_read hread hnamed
    refine same hold hid (by rw [hnamed, ← hsession, hm]) (MessageRow.amends_update u now) _ ?_
    exact congrArg (·.messages) htables
  | @delete mid now m a seen hm =>
    obtain ⟨e₀, h₀, -, hx⟩ := mem_exchangesOf.1 seen
    obtain ⟨row, hrow, hid, hsession⟩ := trace.message_seen h₀ hx
    refine carried (Request.settle_tables
      (P := fun t => t.rowsOf session = before.rowsOf session) rfl fun a t' h => ?_)
    refine same hrow hid (by rw [hsession, hm]) (MessageRow.amends_delete now) _ ?_
    rw [Tables.deleteMessage_ok h]

end Keeping

/-! ## The figures in an answer -/

/-- The row has these figures, a count of messages as far as 32 bits hold it. -/
structure SessionRow.Carries (s : SessionRow) (r : Rollup) : Prop where
  session : s.id = r.session.text
  messageCount : s.messageCount ≤ Bounds.count32 → (r.messageCount.toNat : Int) = s.messageCount
  tokenCount : (r.tokenCount.toNat : Int) = s.tokenCount
  totalCost : r.totalCost = s.totalCost
  lastMessageAt : s.lastMessageAt = some r.lastMessageAt.storedText

theorem UInt32.toNat_ofNat_of_le {n : Nat} (h : (n : Int) ≤ Bounds.count32) :
    ((UInt32.ofNat n).toNat : Int) = n := by
  rw [UInt32.toNat_ofNat', Nat.mod_eq_of_lt]
  unfold Bounds.count32 at h
  omega

theorem UInt64.toNat_ofInt_of_le {n : Int} (h₀ : 0 ≤ n) (h : n ≤ Bounds.highest) :
    ((UInt64.ofInt n).toNat : Int) = n := by
  unfold UInt64.ofInt
  rw [UInt64.toNat_ofNat', Nat.mod_eq_of_lt] <;> unfold Bounds.highest at h <;> omega

/-- Tokens over orderly messages never sum up to less than zero. -/
theorem Tables.Orderly.tokens_nonneg {t : Tables} (orderly : t.Orderly) (session : String) :
    0 ≤ ((t.kept session).map (·.tokens)).sum := by
  refine List.sum_nonneg fun n hn => ?_
  obtain ⟨m, hm, rfl⟩ := List.mem_map.1 hn
  have hlive : m ∈ t.liveIn session := (t.kept_perm session).subset hm
  exact orderly.counted m (List.mem_filter.1 hlive).1

/-- The figures that a refresh answers with are those that it has written. -/
theorem Event.Lawful.written {e : Event ι} (lawful : e.Lawful) (orderly : e.before.Orderly)
    {id : Uuid} {now : Instant} {r : Rollup}
    (hx : e.exchange = ⟨.refreshRollup id now, .ok (some r)⟩) :
    ∃ s ∈ e.after.sessions, s.isLive = true ∧ s.Carries r ∧ RolledUp e.after s := by
  obtain ⟨tokens, hrefreshed, hsome, rfl⟩ := lawful.refreshed hx
  obtain ⟨hsum, hle⟩ := sumOf_ok hrefreshed.sum
  have hnonneg : 0 ≤ tokens := hsum ▸ orderly.tokens_nonneg id.text
  unfold Tables.session? at hsome
  rw [List.find?_isSome] at hsome
  obtain ⟨s₀, h₀, hmet⟩ := hsome
  obtain ⟨hid, hlive⟩ := Bool.and_eq_true_iff.1 hmet
  have hs : Tables.rolledUp (e.before.kept id.text) tokens now s₀ ∈ e.after.sessions := by
    rw [hrefreshed.tables]
    exact mem_changeWhere.2 (.inl ⟨s₀, h₀, hmet, rfl⟩)
  refine ⟨_, hs, hlive, ?_, hrefreshed.rolledUp hs hlive (beq_iff_eq.1 hid)⟩
  exact
    { session := beq_iff_eq.1 hid
      messageCount := UInt32.toNat_ofNat_of_le
      tokenCount := UInt64.toNat_ofInt_of_le hnonneg hle
      totalCost := rfl
      lastMessageAt := rfl }

end ChatLedger.Store

/-! ## Calls at the same time -/

namespace ChatLedger

open Store

variable {ι : Type} [DecidableEq ι]

/-- Calls of the chat service that run at the same time on a store that is empty at first. -/
def ChatCall.together (settings : Settings) (calls : ι → ChatCall) (schedule : List (Turn ι)) :
    World ι (Except ServiceError ChatReply) :=
  (World.mk {} (fun i => (calls i).program settings) []).run schedule

/-- The fresh figures in the answer of a call that has come to its end. -/
def freshAnswer? (w : World ι (Except ServiceError ChatReply)) (i : ι) : Option Rollup :=
  match w.outcome? i with
  | some (.ok reply) => reply.fresh?
  | _ => none

section Together

variable {settings : Settings} {calls : ι → ChatCall} {schedule : List (Turn ι)}

/-- Behind fresh figures there is a refresh, which comes last. -/
theorem ChatCall.refresh_last {i : ι} {r : Rollup}
    (h : freshAnswer? (ChatCall.together settings calls schedule) i = some r) :
    ∃ id now l₀, exchangesOf i (ChatCall.together settings calls schedule).history =
      l₀ ++ [⟨.refreshRollup id now, .ok (some r)⟩] ∧ AllKeepTo id l₀ := by
  unfold freshAnswer? at h
  split at h
  · rename_i reply hdone
    exact ChatCall.fresh_path (World.path_of_outcome hdone) h
  · cases h

/-- If the last change of a session was made by a call with fresh figures, the session is up to
date. -/
theorem ChatCall.upToDate_of_fresh {e : Event ι} {r : Rollup} {session : String}
    {h₁ h₂ : List (Event ι)}
    (hfresh : freshAnswer? (ChatCall.together settings calls schedule) e.process = some r)
    (hsplit : (ChatCall.together settings calls schedule).history = h₁ ++ e :: h₂)
    (hchanges : e.Changes session) (hquiet : ∀ x ∈ h₂, ¬ x.Changes session) :
    UpToDate session (ChatCall.together settings calls schedule).history := by
  have trace := World.trace_run {} (fun i => (calls i).program settings) schedule
  obtain ⟨id, now, l₀, hlast, keeps⟩ := ChatCall.refresh_last hfresh
  change Trace {} (ChatCall.together settings calls schedule).history _ at trace
  rw [hsplit] at trace hlast ⊢
  obtain ⟨earlier, lawful, -⟩ := trace.split
  rcases exchange_cases hlast with ⟨hx, -⟩ | ⟨l₂, rfl, hsome⟩
  · -- the change cannot be the refresh itself
    exact absurd hchanges (lawful.not_changes_of_refresh hx)
  · have hsession : session = id.text := keepsTo_changes earlier lawful keeps.split hchanges
    have hmem : ⟨.refreshRollup id now, .ok (some r)⟩ ∈ exchangesOf e.process h₂ := by
      rw [hsome]
      simp
    obtain ⟨e', he', -, hx'⟩ := mem_exchangesOf.1 hmem
    obtain ⟨h₃, h₄, rfl⟩ := List.append_of_mem he'
    refine ⟨h₁ ++ e :: h₃ ++ [e'], h₄, by simp, fun x hx => hquiet x (by simp [hx]), .inr ?_⟩
    exact ⟨h₁ ++ e :: h₃, e', rfl, by rw [hx', hsession]; rfl⟩

/-- **Roll-ups are exact.** Of any number of calls that run at the same time, at any moment and
whatever store calls have failed:

1. the roll-up of a live session that is up to date is the one over its live messages;
2. a session whose last change was made by a call that has answered with fresh figures is up to
   date;
3. fresh figures are those that the call itself has written, over the messages at that time. -/
theorem ChatCall.rollups_exact (settings : Settings) (calls : ι → ChatCall)
    (schedule : List (Turn ι)) :
    let w := ChatCall.together settings calls schedule
    (∀ s ∈ w.tables.sessions, s.isLive = true → UpToDate s.id w.history → RolledUp w.tables s) ∧
    (∀ h₁ e h₂ session r, w.history = h₁ ++ e :: h₂ → e.Changes session →
      (∀ x ∈ h₂, ¬ x.Changes session) → freshAnswer? w e.process = some r →
      UpToDate session w.history) ∧
    ∀ i r, freshAnswer? w i = some r → ∃ e ∈ w.history, e.process = i ∧
      (∃ id now, e.exchange = ⟨.refreshRollup id now, .ok (some r)⟩) ∧
      ∃ s ∈ e.after.sessions, s.isLive = true ∧ s.Carries r ∧ RolledUp e.after s := by
  intro w
  have trace : Trace {} w.history w.tables := World.trace_run _ _ schedule
  have opens : ∀ e ∈ w.history, e.request.OpensAtZero := fun e he =>
    World.asks_of_mem (fun i => (calls i).asks_program settings) he
  refine ⟨fun s hs hlive hup => trace.rolledUp opens hs hlive hup, ?_, ?_⟩
  · intro h₁ e h₂ session r hsplit hchanges hquiet hfresh
    exact upToDate_of_fresh hfresh hsplit hchanges hquiet
  · intro i r hfresh
    obtain ⟨id, now, l₀, hlast, -⟩ := refresh_last hfresh
    have hmem : ⟨.refreshRollup id now, .ok (some r)⟩ ∈ exchangesOf i w.history := by
      rw [hlast]
      simp
    obtain ⟨e, he, hprocess, hx⟩ := mem_exchangesOf.1 hmem
    obtain ⟨h₁, h₂, hsplit⟩ := List.append_of_mem he
    obtain ⟨earlier, lawful, -⟩ := (hsplit ▸ trace).split
    exact ⟨e, he, hprocess, ⟨id, now, hx⟩, lawful.written earlier.orderly hx⟩

end Together

/-- A user opens a session and adds a message to it, which another call updates. -/
def ChatCall.sample : Fin 3 → ChatCall
  | 0 => .createSession ⟨1⟩ ⟨"plans", none, none⟩ .start2026 (.ofNat 1)
  | 1 => .createMessage ⟨1⟩ (.ofNat 1) ⟨none, .user, "hello", 3, 0.5, .normal, none⟩ .start2026
      (.ofNat 2)
  | 2 => .updateMessage ⟨1⟩ (.ofNat 2) ⟨none, some 5, none, none, none⟩ .start2026

/-- The refresh behind the new message is lost, the one behind the update is not. -/
def ChatCall.sampleSchedule : List (Turn (Fin 3)) :=
  [.calm 0, .calm 1, .calm 1, .calm 2, ⟨1, some (.connection "lost")⟩, .calm 2, .calm 2, .calm 2]

/-- After a lost refresh, a later one of another call makes the roll-up exact again: this call has made
the last change of the session, and answers with the figures that its own refresh has written. -/
theorem ChatCall.rollups_exact_after_lost_refresh :
    let w := ChatCall.together {} ChatCall.sample ChatCall.sampleSchedule
    ∃ h₁ change h₂ r, w.history = h₁ ++ change :: h₂ ∧ change.process = 2 ∧
      change.Changes (Uuid.ofNat 1).text ∧ (∀ x ∈ h₂, ¬ x.Changes (Uuid.ofNat 1).text) ∧
      freshAnswer? w 2 = some r ∧ UpToDate (Uuid.ofNat 1).text w.history ∧
      (∃ s ∈ w.tables.sessions, s.isLive = true ∧ s.id = (Uuid.ofNat 1).text ∧
        RolledUp w.tables s) ∧
      ∃ e ∈ w.history, e.process = 2 ∧
        (∃ id now, e.exchange = ⟨.refreshRollup id now, .ok (some r)⟩) ∧
        ∃ s ∈ e.after.sessions, s.isLive = true ∧ s.Carries r ∧ RolledUp e.after s := by
  intro w
  obtain ⟨⟨change, hhead, hprocess, hchanges⟩, hquiet, ⟨s, hs, hlive, hid⟩, hanswer⟩ :
      (∃ e ∈ (w.history.drop 6).head?, e.process = 2 ∧ e.Changes (Uuid.ofNat 1).text) ∧
      (∀ x ∈ (w.history.drop 6).tail, ¬ x.Changes (Uuid.ofNat 1).text) ∧
      (∃ s ∈ w.tables.sessions, s.isLive = true ∧ s.id = (Uuid.ofNat 1).text) ∧
      (freshAnswer? w 2).isSome = true := by
    decide +kernel
  obtain ⟨h₂, hdrop⟩ := List.head?_eq_some_iff.1 hhead
  rw [hdrop, List.tail_cons] at hquiet
  have hsplit : w.history = w.history.take 6 ++ change :: h₂ := by
    rw [← hdrop, List.take_append_drop]
  obtain ⟨r, hr⟩ := Option.isSome_iff_exists.1 hanswer
  obtain ⟨exact_of_upToDate, upToDate, written⟩ :=
    ChatCall.rollups_exact {} ChatCall.sample ChatCall.sampleSchedule
  have hup : UpToDate (Uuid.ofNat 1).text w.history :=
    upToDate _ change h₂ _ r hsplit hchanges hquiet (hprocess ▸ hr)
  have hrolled : RolledUp w.tables s := exact_of_upToDate s hs hlive (hid ▸ hup)
  exact ⟨_, change, h₂, r, hsplit, hprocess, hchanges, hquiet, hr, hup, ⟨s, hs, hlive, hid, hrolled⟩,
    written 2 r hr⟩

end ChatLedger
