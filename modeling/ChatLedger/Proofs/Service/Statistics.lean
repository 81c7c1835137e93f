import ChatLedger.Proofs.Chat.Lookups
import ChatLedger.Proofs.Chat.SoftRefresh
import ChatLedger.Proofs.Service.BulkDeletion
import ChatLedger.Proofs.Service.Readable
import ChatLedger.Proofs.Store.Figures

/-!
# Statistics agree

The figures over sessions come from stored roll-ups, and those over messages from the messages. Here
they are compared, with one another and with all else that a user is told of the same things.

1. `Tables.SessionFigures`: the figures over all sessions and those model by model agree, whether
   the roll-ups are exact or not.
2. `Tables.MessageFigures`: the figures over all messages are those over each session added up, and
   these agree with what is listed and, where its roll-up is exact, with what the session itself
   says.
3. `statistics_agree`: where all roll-ups are exact, the two kinds of figures agree as well. This
   holds on all tables that calls can lead to; the messages of a session are listed if times are
   read back.
-/

namespace ChatLedger

open Store Time Operation

/-! ## What the figures say of one another -/

namespace Store.Tables

/-- The figures over the sessions of a user: counts and sums of the rows of live sessions, in one
answer and model by model. -/
structure SessionFigures (t : Tables) (user : UserId) (stats : SessionStats)
    (usage : List ModelUsage) : Prop where
  answered : (Sessions.stats user).on t = (.ok stats, t)
  byModel : (Sessions.usage user).on t = (.ok usage, t)
  tally : SessionTally (t.sessionsOf user) stats.sessions stats.messages stats.tokens
  agree : UsageAgrees (t.sessionsOf user) stats usage

/-- The figures over the messages of one live session. -/
structure FiguresIn (t : Tables) (user : UserId) (s : SessionRow) (id : Uuid)
    (stats : MessageStats) : Prop where
  identifier : s.id = id.text
  stored : (Request.sessionMessageStats id).perform t = (.ok stats, t)
  tally : MessageTally (t.liveIn s.id) stats
  /-- The owner is told the same. -/
  told : ∀ stats' t', (Messages.statsIn user id).on t = (.ok stats', t') → stats' = stats
  /-- Every page of the messages of the session says of how many it is one. -/
  listed : ∀ settings page size found t',
    (Messages.list settings user id page size).on t = (.ok found, t') →
      found.total = stats.messages
  /-- An exact roll-up says the same. -/
  rolledUp : RolledUp t s →
    (stats.messages.toNat : Int) = s.messageCount ∧ (stats.tokens.toNat : Int) = s.tokenCount
  /-- So does the session that is read from the row, whose count of messages has 32 bits. -/
  read : RolledUp t s → ∀ session t', (Sessions.owned user id).on t = (.ok session, t') →
    session.messageCount = UInt32.ofNat stats.messages.toNat ∧ session.tokenCount = stats.tokens

/-- The figures over the messages of a user, and those over each live session of the user. -/
structure MessageFigures (t : Tables) (user : UserId) (stats : MessageStats)
    (inSession : SessionRow → MessageStats) : Prop where
  answered : (Messages.stats user).on t = (.ok stats, t)
  tally : MessageTally (t.messagesOf user) stats
  within : ∀ s ∈ t.sessionsOf user, ∃ id, t.FiguresIn user s id (inSession s)
  messages : stats.messages.toNat =
    ((t.sessionsOf user).map fun s => (inSession s).messages.toNat).sum
  tokens : stats.tokens.toNat =
    ((t.sessionsOf user).map fun s => (inSession s).tokens.toNat).sum

/-- The owner of a session is answered when it is looked up, when its messages are listed, and when
figures over them are asked for. -/
structure AnswersOwner (t : Tables) (user : UserId) (id : Uuid) : Prop where
  session : ∃ session, (Sessions.owned user id).on t = (.ok session, t)
  listed : ∀ settings page size, ∃ found,
    (Messages.list settings user id page size).on t = (.ok found, t)
  told : ∃ stats, (Messages.statsIn user id).on t = (.ok stats, t)

end Store.Tables

/-! ## Figures over one session -/

theorem ofInt_natCast32 (n : Nat) : UInt32.ofInt n = UInt32.ofNat n := by
  refine UInt32.toNat_inj.1 ?_
  unfold UInt32.ofInt
  rw [UInt32.toNat_ofNat', UInt32.toNat_ofNat']
  omega

theorem ofInt_natCast64 (n : Nat) : UInt64.ofInt n = UInt64.ofNat n := by
  refine UInt64.toNat_inj.1 ?_
  unfold UInt64.ofInt
  rw [UInt64.toNat_ofNat', UInt64.toNat_ofNat']
  omega

section Session

variable {t : Tables} {user : UserId} {s : SessionRow} {id : Uuid} {stats : MessageStats}

/-- An exact roll-up says what the figures over the messages say. -/
theorem Store.RolledUp.tally (h : RolledUp t s) (tally : MessageTally (t.liveIn s.id) stats) :
    (stats.messages.toNat : Int) = s.messageCount ∧ (stats.tokens.toNat : Int) = s.tokenCount :=
  ⟨tally.messages.trans h.messageCount.symm, tally.tokens.trans h.tokenCount.symm⟩

/-- The figures that the owner is told are those of the store. -/
theorem eq_of_statsIn (stored : (Request.sessionMessageStats id).perform t = (.ok stats, t))
    {stats' : MessageStats} {t' : Tables}
    (h : (Messages.statsIn user id).on t = (.ok stats', t')) : stats' = stats := by
  obtain ⟨session, t₁, howned, hask⟩ := on_bind_eq_ok h
  obtain ⟨rfl, -⟩ := on_owned_row howned
  have hperform := (on_askWith_eq_ok hask).symm.trans stored
  exact Except.ok.inj (congrArg Prod.fst hperform)

/-- A page of the messages of a session is one of all its messages. -/
theorem total_listed {settings : Settings} {p size : Option UInt32} {found : Page Message}
    {t' : Tables} (h : (Messages.list settings user id p size).on t = (.ok found, t')) :
    found.total = countOf (t.messagesIn id) := by
  obtain ⟨session, t₁, howned, h₁⟩ := on_bind_eq_ok h
  obtain ⟨rfl, -⟩ := on_owned_row howned
  obtain ⟨items, t₂, hask, h₂⟩ := on_bind_eq_ok h₁
  cases h₂
  exact total_of_page (congrArg Prod.fst (on_askWith_eq_ok hask))

/-- **The figures over one session** agree with all else that is said of its messages. -/
theorem Store.MessageTally.figuresIn (keyed : t.Keyed) (hs : s ∈ t.sessions)
    (hlive : s.isLive = true) (hid : s.id = id.text) (hstats : t.sessionMessageStats id = .ok stats)
    (tally : MessageTally (t.liveIn s.id) stats) : t.FiguresIn user s id stats where
  identifier := hid
  stored := Prod.ext hstats rfl
  tally := tally
  told stats' t' h := eq_of_statsIn (Prod.ext hstats rfl) h
  listed settings p size found t' h := by
    have hcount : (stats.messages.toNat : Int) = (t.messagesIn id).length := by
      rw [Tables.messagesIn_eq hs hlive hid, (t.kept_perm s.id).length_eq]
      exact tally.messages
    rw [total_listed h]
    unfold countOf
    rw [← Int.ofNat_inj.1 hcount, UInt64.ofNat_toNat]
  rolledUp h := h.tally tally
  read h session t' howned := by
    obtain ⟨-, row, hrow, hread⟩ := on_owned_row howned
    rw [session?_eq_some keyed hs hlive hid] at hrow
    cases hrow
    obtain ⟨hcount, htokens⟩ := h.tally tally
    have reads := SessionRow.session_eq_ok_iff.1 hread
    rw [reads.messageCount, reads.tokenCount, ← hcount, ← htokens, ofInt_natCast32, ofInt_natCast64,
      UInt64.ofNat_toNat]
    exact ⟨rfl, rfl⟩

/-- **The owner of a legible session is answered.** -/
theorem Store.Tables.ChatLegible.answersOwner (legible : t.ChatLegible) (keyed : t.Keyed)
    (hs : s ∈ t.sessionsOf user) (hid : s.id = id.text)
    (hstats : t.sessionMessageStats id = .ok stats) : t.AnswersOwner user id := by
  obtain ⟨hmem, hmet⟩ := List.mem_filter.1 hs
  obtain ⟨hlive, howner⟩ := Bool.and_eq_true_iff.1 hmet
  obtain ⟨session, howned⟩ :=
    on_owned keyed hmem hlive hid (beq_iff_eq.1 howner) (legible.sessions s hmem)
  refine ⟨⟨session, howned⟩, fun settings p size => ?_, stats, ?_⟩
  · obtain ⟨found, hfound⟩ := legible.exists_answer
      (r := .listSessionMessages id (settings.paging.resolve .messages p size)) trivial
    exact ⟨_, (on_bind_ok howned).trans (on_handOn (Prod.ext hfound rfl))⟩
  · exact (on_bind_ok howned).trans (on_ask (r := .sessionMessageStats id) (Prod.ext hstats rfl))

end Session

/-! ## Figures of a user -/

section User

variable {t : Tables} {user : UserId}

/-- **The figures over the sessions of a user agree.** -/
theorem Store.Tables.SessionSumsFit.exists_figures (fits : t.SessionSumsFit user)
    (counted : t.Counted) : ∃ stats usage, t.SessionFigures user stats usage := by
  obtain ⟨stats, hstats, tally⟩ := fits.sessionStats counted
  have husage := fits.modelUsage counted
  exact ⟨stats, _, on_ask (r := .sessionStats user) (Prod.ext hstats rfl),
    on_ask (r := .modelUsage user) (Prod.ext husage rfl), tally,
    (fits.summed counted).usageAgrees (Tables.summed_perm _) tally⟩

variable (fits : t.MessageSumsFit user) (orderly : t.Orderly) (spelled : t.Spelled)
  (keyed : t.Keyed)

include fits orderly spelled

/-- Of each live session there are figures over its messages. -/
theorem Store.Tables.MessageSumsFit.exists_sessionMessageStats {s : SessionRow}
    (hs : s ∈ t.sessionsOf user) : ∃ id stats, s.id = Uuid.text id ∧
      t.sessionMessageStats id = .ok stats ∧ MessageTally (t.liveIn s.id) stats := by
  obtain ⟨id, hid⟩ := spelled.named s (List.mem_filter.1 hs).1
  obtain ⟨stats, hstats, tally⟩ := fits.sessionMessageStats orderly spelled hs hid
  exact ⟨id, stats, hid, hstats, tally⟩

include keyed

/-- **The figures over the messages of a user agree.** -/
theorem Store.Tables.MessageSumsFit.exists_figures :
    ∃ stats inSession, t.MessageFigures user stats inSession := by
  obtain ⟨stats, hstats, tally⟩ := fits.userMessageStats orderly spelled keyed
  have each : ∀ s : SessionRow, ∃ stats, s ∈ t.sessionsOf user →
      ∃ id, t.FiguresIn user s id stats := by
    intro s
    by_cases hs : s ∈ t.sessionsOf user
    · obtain ⟨id, stats, hid, hstats, tally⟩ :=
        fits.exists_sessionMessageStats orderly spelled hs
      obtain ⟨hmem, hmet⟩ := List.mem_filter.1 hs
      exact ⟨stats, fun _ =>
        ⟨id, tally.figuresIn keyed hmem (Bool.and_eq_true_iff.1 hmet).1 hid hstats⟩⟩
    · exact ⟨{}, fun h => absurd h hs⟩
  choose inSession within using each
  -- a column over all messages is the sum of the columns over each session
  have total {n : MessageStats → UInt64} {f : MessageRow → Int}
      (hwhole : ((n stats).toNat : Int) = ((t.messagesOf user).map f).sum)
      (hpart : ∀ s ∈ t.sessionsOf user,
        ((n (inSession s)).toNat : Int) = ((t.liveIn s.id).map f).sum) :
      (n stats).toNat = ((t.sessionsOf user).map fun s => (n (inSession s)).toNat).sum := by
    refine Int.ofNat_inj.1 (hwhole.trans ?_)
    rw [keyed.sum_messagesOf, Nat.cast_list_sum, List.map_map]
    exact congrArg List.sum (List.map_congr_left fun s hs => (hpart s hs).symm)
  refine ⟨stats, inSession, ?_⟩
  constructor
  case answered => exact on_ask (r := .userMessageStats user) (Prod.ext hstats rfl)
  case tally => exact tally
  case within => exact within
  case messages =>
    apply total (n := (·.messages)) (tally.messages.trans (length_eq_sum _))
    intro s hs
    obtain ⟨id, figures⟩ := within s hs
    exact figures.tally.messages.trans (length_eq_sum _)
  case tokens =>
    apply total (n := (·.tokens)) tally.tokens
    intro s hs
    obtain ⟨id, figures⟩ := within s hs
    exact figures.tally.tokens

omit fits orderly spelled in
/-- Exact roll-ups add up to the messages shown to the user. -/
theorem sums_of_rolledUp (exact : ∀ s ∈ t.sessionsOf user, RolledUp t s) :
    ((t.sessionsOf user).map (·.messageCount)).sum = (t.messagesOf user).length ∧
      ((t.sessionsOf user).map (·.tokenCount)).sum = ((t.messagesOf user).map (·.tokens)).sum := by
  constructor
  · rw [length_eq_sum, keyed.sum_messagesOf]
    refine congrArg List.sum (List.map_congr_left fun s hs => ?_)
    rw [(exact s hs).messageCount, length_eq_sum]
  · rw [keyed.sum_messagesOf]
    exact congrArg List.sum (List.map_congr_left fun s hs => (exact s hs).tokenCount)

end User

/-- **Statistics agree.** Calls of the services run at the same time on an empty store, and any of
their store calls may fail. At every moment and for every user,

1. the figures over the live sessions, all together and model by model, agree if they fit 64 bits,
   whatever the sessions count;
2. so do the figures over all messages and over those of each session. If all calls are made in the
   years 0 to 9999, the user is also answered who looks a session up or lists its messages;
3. and if all roll-ups are exact, the figures over the sessions are those over the messages. -/
theorem statistics_agree {ι : Type} [DecidableEq ι] (settings : ι → Settings)
    (calls : ι → ServiceCall) (schedule : List (Turn ι)) (user : UserId) :
    let t := ((World.mk {} (fun i => (calls i).program (settings i)) []).run schedule).tables
    (t.SessionSumsFit user → ∃ stats usage, t.SessionFigures user stats usage) ∧
    (t.MessageSumsFit user →
      (∃ stats inSession, t.MessageFigures user stats inSession) ∧
      ((∀ i, ∀ now ∈ (calls i).readings, now.HasFourDigitYear) →
        ∀ s ∈ t.sessionsOf user, ∃ id, s.id = Uuid.text id ∧ t.AnswersOwner user id)) ∧
    ((∀ s ∈ t.sessionsOf user, RolledUp t s) → t.SessionSumsFit user →
      t.MessageSumsFit user ∧ ∀ ofSessions usage ofMessages inSession,
        t.SessionFigures user ofSessions usage → t.MessageFigures user ofMessages inSession →
        ofSessions.messages = ofMessages.messages ∧ ofSessions.tokens = ofMessages.tokens) := by
  intro t
  have trace := World.trace_run {} (fun i => (calls i).program (settings i)) schedule
  have keyed : t.Keyed := trace.keyed Tables.keyed_empty
  have orderly : t.Orderly := trace.orderly
  have spelled : t.Spelled := trace.spelled
  have counted : t.Counted := trace.counted fun _ he => (World.makes_of_mem he).opensAtZero
  refine ⟨fun fits => fits.exists_figures counted, fun fits => ?_, fun exact fits => ?_⟩
  · refine ⟨fits.exists_figures orderly spelled keyed, fun clocks s hs => ?_⟩
    obtain ⟨id, stats, hid, hstats, -⟩ := fits.exists_sessionMessageStats orderly spelled hs
    have legible : t.ChatLegible := World.chatLegible_run settings clocks schedule
    exact ⟨id, hid, legible.answersOwner keyed hs hid hstats⟩
  · obtain ⟨hmessages, htokens⟩ := sums_of_rolledUp keyed exact
    refine ⟨⟨hmessages ▸ fits.messages, htokens ▸ fits.tokens⟩, ?_⟩
    intro ofSessions usage ofMessages inSession sessions messages
    constructor
    · refine UInt64.toNat_inj.1 (Int.ofNat_inj.1 ?_)
      exact sessions.tally.messages.trans (hmessages.trans messages.tally.messages.symm)
    · refine UInt64.toNat_inj.1 (Int.ofNat_inj.1 ?_)
      exact sessions.tally.tokens.trans (htokens.trans messages.tally.tokens.symm)

/-- A user opens sessions with two models, and adds a message to each. -/
def twoModels : Fin 4 → ServiceCall
  | 0 => .chat (.createSession ⟨1⟩ ⟨"plans", none, none⟩ .start2026 (.ofNat 1))
  | 1 => .chat (.createSession ⟨1⟩ ⟨"notes", some "gpt-4", none⟩ .start2026 (.ofNat 2))
  | 2 => .chat (.createMessage ⟨1⟩ (.ofNat 1) ⟨none, .user, "hello", 3, 0.5, .normal, none⟩
      .start2026 (.ofNat 3))
  | 3 => .chat (.createMessage ⟨1⟩ (.ofNat 2) ⟨none, .assistant, "hi", 5, 0.25, .normal, none⟩
      .start2026 (.ofNat 4))

/-- The figures of this user agree, of whichever kind. -/
theorem statistics_agree_of_two :
    let t := ((World.mk {} (fun i => (twoModels i).program {}) []).run
      ([0, 1, 2, 2, 2, 3, 3, 3].map Turn.calm)).tables
    (∀ i, ∀ now ∈ (twoModels i).readings, now.HasFourDigitYear) ∧
      (∀ s ∈ t.sessionsOf ⟨1⟩, RolledUp t s) ∧
      t.SessionSumsFit ⟨1⟩ ∧ t.MessageSumsFit ⟨1⟩ ∧
      (∀ s ∈ t.sessionsOf ⟨1⟩, ∃ id, s.id = Uuid.text id ∧ t.AnswersOwner ⟨1⟩ id) ∧
      ∃ ofSessions usage ofMessages inSession,
        t.SessionFigures ⟨1⟩ ofSessions usage ∧ t.MessageFigures ⟨1⟩ ofMessages inSession ∧
        ofSessions.messages = 2 ∧ ofMessages.messages = 2 ∧
        ofSessions.tokens = 8 ∧ ofMessages.tokens = 8 := by
  intro t
  have clocks : ∀ i, ∀ now ∈ (twoModels i).readings, now.HasFourDigitYear := by decide +kernel
  have exact : ∀ s ∈ t.sessionsOf ⟨1⟩, RolledUp t s := by decide +kernel
  have fits : t.SessionSumsFit ⟨1⟩ := by decide +kernel
  have counts : ((t.sessionsOf ⟨1⟩).map (·.messageCount)).sum = 2 ∧
      ((t.sessionsOf ⟨1⟩).map (·.tokenCount)).sum = 8 := by decide +kernel
  obtain ⟨sessions, messages, agree⟩ := statistics_agree (fun _ => {}) twoModels
    ([0, 1, 2, 2, 2, 3, 3, 3].map Turn.calm) ⟨1⟩
  obtain ⟨fits', same⟩ := agree exact fits
  obtain ⟨ofSessions, usage, figures⟩ := sessions fits
  obtain ⟨⟨ofMessages, inSession, figures'⟩, answers⟩ := messages fits'
  obtain ⟨hsame, hsame'⟩ := same _ _ _ _ figures figures'
  have hcount : ofSessions.messages = 2 :=
    UInt64.toNat_inj.1 (Int.ofNat_inj.1 (figures.tally.messages.trans counts.1))
  have hsum : ofSessions.tokens = 8 :=
    UInt64.toNat_inj.1 (Int.ofNat_inj.1 (figures.tally.tokens.trans counts.2))
  exact ⟨clocks, exact, fits, fits', answers clocks, ofSessions, usage, ofMessages, inSession,
    figures, figures', hcount, hsame ▸ hcount, hsum, hsame' ▸ hsum⟩

/-- A session of year 10000 has an exact roll-up and no messages, but these are not listed: its row
cannot be read. -/
theorem not_statistics_agree_in_year10000 :
    ¬ ∀ (settings : Settings) (c : ServiceCall) (schedule : List (Turn Unit)) (user : UserId),
      let t := ((World.mk {} (fun _ => c.program settings) []).run schedule).tables
      (∀ s ∈ t.sessionsOf user, RolledUp t s) → t.SessionSumsFit user → t.MessageSumsFit user →
        ∀ s ∈ t.sessionsOf user, ∃ id, s.id = Uuid.text id ∧ t.AnswersOwner user id := by
  intro h
  have answers := h {} (.chat (.createSession ⟨1⟩ ⟨"plans", none, none⟩ .year10000 (.ofNat 1)))
    [.calm ()] ⟨1⟩
  generalize ht : World.tables _ = t at answers
  have hypotheses : (∀ s ∈ t.sessionsOf ⟨1⟩, RolledUp t s) ∧ t.SessionSumsFit ⟨1⟩ ∧
      t.MessageSumsFit ⟨1⟩ ∧ (∀ s ∈ t.sessionsOf ⟨1⟩, s.id = (Uuid.ofNat 1).text) ∧
      t.sessionsOf ⟨1⟩ ≠ [] := by
    rw [← ht]
    decide +kernel
  have unread : ((Messages.list {} ⟨1⟩ (.ofNat 1) none none).on t).1.isOk = false := by
    rw [← ht]
    decide +kernel
  obtain ⟨exact, fits, fits', named, hsome⟩ := hypotheses
  obtain ⟨s, hs⟩ := List.exists_mem_of_ne_nil _ hsome
  obtain ⟨id, hid, owner⟩ := answers exact fits fits' s hs
  obtain rfl : id = .ofNat 1 := Uuid.text_inj.1 (hid.symm.trans (named s hs))
  obtain ⟨found, hfound⟩ := owner.listed {} none none
  rw [hfound] at unread
  cases unread

end ChatLedger
