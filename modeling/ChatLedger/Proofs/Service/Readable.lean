import ChatLedger.Proofs.Membership.Effective
import ChatLedger.Proofs.Service.Timely
import ChatLedger.Proofs.Store.Sums

/-!
# What is accepted stays readable

1. `Request.exists_answer`: on legible tables whose sums fit, every store call that reads has an
   answer.
2. A `Candid` operation blames the store only for a store call that has failed. All reads of the
   services are candid.
3. `accepted_stays_readable`: after timely calls, all rows are read back, and no read of the services
   finds the store unavailable. The date of an article counts here as well:
   `not_accepted_stays_readable_past_year9999` has one that is accepted and then spoils a listing.
-/

namespace ChatLedger.Store

open Time

/-! ## Store calls that read -/

/-- What calls of the services keep of the tables, as far as reads depend on it. -/
structure Tables.Sound (t : Tables) : Prop where
  coherent : t.Coherent
  legible : t.Legible
  orderly : t.Orderly
  counted : t.Counted

/-- **Every store call that reads** has an answer, if the sums fit. -/
theorem Request.exists_answer {t : Tables} (sound : t.Sound) (fits : t.Fits) {r : Request}
    (hr : r.access = .reader) : ∃ a, (r.perform t).1 = .ok a := by
  obtain ⟨coherent, legible, orderly, counted⟩ := sound
  have decodes := legible.decodes
  have keyed := coherent.keyed
  have articles {condition : Int → Bool} {a : ArticleRow} (ha : a ∈ t.articlesWhere condition) :
      ∃ b, a.article = .ok b := decodes.articles a (List.mem_filter.1 (List.mem_mergeSort.1 ha)).1
  cases r with
  | sessionStats user => exact (fits.fitsFor user).exists_sessionStats counted keyed
  | modelUsage user => exact (fits.fitsFor user).exists_modelUsage counted keyed
  | sessionMessageStats session => exact fits.exists_sessionMessageStats orderly keyed session
  | userMessageStats user => exact (fits.fitsFor user).exists_userMessageStats orderly keyed
  | findActiveByTopic topic =>
    exact exists_found fun s hs => decodes.subscriptions s (List.mem_of_find?_eq_some hs)
  | getSubscription id =>
    exact exists_found fun s hs => decodes.subscriptions s (List.mem_of_find?_eq_some hs)
  | findLink user subscription =>
    exact exists_found fun l hl => decodes.links l (List.mem_of_find?_eq_some hl)
  | listSubscriptions user request =>
    refine exists_page (fun pair hpair => ?_) request
    obtain ⟨hlink, -, -, hsubscription, -⟩ := coherent.mem_membershipsOf.1 hpair
    exact (legible.exists_view hlink hsubscription).imp fun _ hv => hv.1
  | listArticles subscription request => exact exists_page (fun a ha => articles ha) request
  | listUserArticles user request => exact exists_page (fun a ha => articles ha) request
  | _ => first | exact legible.chat.exists_answer trivial | cases hr

end ChatLedger.Store

namespace ChatLedger

open Store Time Operation

/-! ## Who is to blame -/

/-- An operation that finds the store unavailable only after a store call that has failed. -/
structure Candid {α : Type} (op : Operation α) : Prop where
  blames : ∀ {l : List Exchange} {reason : String},
    op.Ends l (.error (.storeUnavailable reason)) → ∃ x ∈ l, ∃ e, x.answer = .error e

section Candid

variable {α β : Type} {op : Operation α} {f : α → Operation β}

theorem candid_pure {a : α} : Candid (pure a : Operation α) :=
  ⟨fun hl => by cases (ends_pure.1 hl).2⟩

/-- A check does not speak of the store. -/
theorem candid_check {outcome : Except ServiceError α}
    (h : ∀ reason, outcome ≠ .error (.storeUnavailable reason)) : Candid (check outcome) :=
  ⟨fun hl => absurd (ends_check.1 hl).2.symm (h _)⟩

theorem candid_ask {r : Request} : Candid (ask r) := by
  refine ⟨fun hl => ?_⟩
  obtain ⟨a, rfl, ha⟩ := ends_ask.1 hl
  cases a with
  | ok a => cases ha
  | error e => exact ⟨_, List.mem_singleton_self _, e, rfl⟩

theorem candid_bind (h : Candid op) (hf : ∀ a, Candid (f a)) : Candid (op >>= f) := by
  refine ⟨fun hl => ?_⟩
  rcases ends_bind hl with ⟨e, hl, he⟩ | ⟨a, l₁, l₂, rfl, -, hl⟩
  · cases he
    exact h.blames hl
  · obtain ⟨x, hx, hfailed⟩ := (hf a).blames hl
    exact ⟨x, List.mem_append_right _ hx, hfailed⟩

theorem candid_map {g : α → β} (h : Candid op) : Candid (g <$> op) := by
  refine ⟨fun hl => ?_⟩
  obtain ⟨outcome, hl, ho⟩ := ends_map hl
  cases outcome with
  | ok a => cases ho
  | error e =>
    cases ho
    exact h.blames hl

/-- What is asked for is handed on. -/
theorem candid_handOn {r : Request} {g : r.Answer → β} :
    Candid (do return g (← ask r) : Operation β) :=
  candid_bind candid_ask fun _ => candid_pure

end Candid

/-! ## Reads of the services -/

section Reads

variable {settings : Settings} {user : UserId} {id : Uuid}

theorem candid_found {α : Type} {found? : Option α} {what : String} :
    Candid (check (ensureFound found? what)) := by
  refine candid_check fun reason h => ?_
  cases found? <;> cases h

theorem candid_owner {α : Type} [Owned α] {record : α} :
    Candid (check (ensureOwner record user)) := by
  refine candid_check fun reason h => ?_
  unfold ensureOwner at h
  split at h <;> cases h

theorem candid_keyword {text : String} : Candid (check (Validation.keyword text)) := by
  refine candid_check fun reason h => ?_
  unfold Validation.keyword Validation.requiredText Validation.boundedText Validation.require at h
  dsimp only at h
  by_cases hsome : (!(Text.trim text).isEmpty) = true
  · rw [if_pos hsome] at h
    by_cases hshort : decide ((Text.trim text).length ≤ Limit.keyword) = true
    · rw [if_pos hshort] at h
      cases h
    · rw [if_neg hshort] at h
      cases h
  · rw [if_neg hsome] at h
    cases h

theorem candid_ownedSession : Candid (Sessions.owned user id) :=
  candid_bind candid_ask fun _ => candid_bind candid_found fun _ =>
    candid_bind candid_owner fun _ => candid_pure

theorem candid_ownedMessage : Candid (Messages.owned user id) :=
  candid_bind candid_ask fun _ => candid_bind candid_found fun _ =>
    candid_bind candid_ownedSession fun _ => candid_pure

theorem candid_opened {subscription : Int} : Candid (Memberships.opened subscription) := by
  refine candid_bind (candid_bind candid_ask fun _ => candid_found) fun s => ?_
  refine candid_bind (candid_check fun reason h => ?_) fun _ => candid_pure
  unfold Memberships.ensureOpen at h
  split at h <;> cases h

/-- **A read of the chat service** blames the store only for a store call that has failed. -/
theorem ChatCall.candid {c : ChatCall} (hclock : c.readings = []) :
    Candid (c.operation settings) := by
  cases c with
  | getSession user id => exact candid_map candid_ownedSession
  | listSessions user page size => exact candid_map candid_handOn
  | searchSessions user keyword page size =>
    exact candid_map (candid_bind candid_keyword fun _ => candid_handOn)
  | sessionStats user => exact candid_map candid_ask
  | modelUsage user => exact candid_map candid_ask
  | getMessage user id => exact candid_map candid_ownedMessage
  | listMessages user session page size =>
    exact candid_map (candid_bind candid_ownedSession fun _ => candid_handOn)
  | listUserMessages user page size => exact candid_map candid_handOn
  | searchMessages user keyword page size =>
    exact candid_map (candid_bind candid_keyword fun _ => candid_handOn)
  | errorMessages user page size => exact candid_map candid_handOn
  | recentMessages user limit => exact candid_map candid_ask
  | sessionMessageStats user session =>
    exact candid_map (candid_bind candid_ownedSession fun _ => candid_ask)
  | userMessageStats user => exact candid_map candid_ask
  | _ => cases hclock

/-- **A read of any service** blames the store only for a store call that has failed. -/
theorem ServiceCall.candid {c : ServiceCall} (hclock : c.readings = []) :
    Candid (c.operation settings) := by
  cases c with
  | chat call => exact candid_map (ChatCall.candid hclock)
  | listMemberships user page size => exact candid_map candid_handOn
  | listArticles user subscription page size =>
    refine candid_map (candid_bind candid_opened fun _ => candid_bind candid_ask fun link => ?_)
    have page : Candid (do
        let request := settings.paging.resolve .articles page size
        return Page.ofItems (← ask (.listArticles subscription request)) request) := candid_handOn
    split
    · exact candid_bind (candid_check fun reason h => by cases h) fun _ => page
    · exact page
  | listAllArticles user page size => exact candid_map candid_handOn
  | membership call => exact absurd hclock call.readings_ne_nil
  | _ => cases hclock

end Reads

/-! ## Runs -/

section Runs

variable {ι : Type} [DecidableEq ι] {settings : ι → Settings} {calls : ι → ServiceCall}
  (timely : ∀ i, (calls i).Timely)

/-- Sessions are opened with figures of zero. -/
theorem ServiceCall.Makes.opensAtZero {c : ServiceCall} {r : Request} (h : c.Makes r) :
    r.OpensAtZero := by
  cases r with
  | createSession s =>
    obtain ⟨call, rfl, hcall⟩ := h.chat rfl not_false
    exact ChatCall.Makes.opensAtZero hcall
  | _ => trivial

theorem Store.World.makes_of_mem {schedule : List (Turn ι)} {e : Event ι}
    (he : e ∈ ((World.mk {} (fun i => (calls i).program (settings i)) []).run schedule).history) :
    (calls e.process).Makes e.request :=
  World.asks_of_mem (fun i => (calls i).asks_makes (settings i)) he

include timely

/-- Timely calls keep the tables as reads need them, at every moment. -/
theorem Store.World.sound_of_mem {schedule : List (Turn ι)} {e : Event ι}
    (he : e ∈ ((World.mk {} (fun i => (calls i).program (settings i)) []).run schedule).history) :
    e.before.Sound := by
  obtain ⟨earlier, among, trace⟩ :=
    (World.trace_run {} (fun i => (calls i).program (settings i)) schedule).before_of_mem he
  refine ⟨trace.coherent Tables.coherent_empty fun x hx => World.trimsTopic_of_mem (among x hx),
    trace.legible Tables.legible_empty fun x hx => World.readable_of_mem timely (among x hx),
    trace.orderly, trace.counted fun x hx => ?_⟩
  exact (World.makes_of_mem (among x hx)).opensAtZero

end Runs

/-- **What is accepted stays readable.** Timely calls of the services run at the same time on an
empty store, and any of their store calls may fail. At every moment all rows are read back. No read
of a service none of whose own store calls fails finds the store unavailable, if the sums of tokens
fit whenever it reads. -/
theorem accepted_stays_readable {ι : Type} [DecidableEq ι] (settings : ι → Settings)
    {calls : ι → ServiceCall} (timely : ∀ i, (calls i).Timely) (schedule : List (Turn ι)) :
    let w := (World.mk {} (fun i => (calls i).program (settings i)) []).run schedule
    w.tables.Decodes ∧ ∀ i, (calls i).readings = [] →
      (∀ turn ∈ schedule, turn.process = i → turn.failure = none) →
      (∀ e ∈ w.history, e.process = i → e.before.Fits) →
      ∀ reason, w.outcome? i ≠ some (.error (.storeUnavailable reason)) := by
  intro w
  refine ⟨(World.legible_run timely schedule).decodes, ?_⟩
  intro i hclock calm fits reason hended
  have candid : Candid ((calls i).operation (settings i)) := ServiceCall.candid hclock
  have hpath := World.path_of_outcome hended
  obtain ⟨x, hx, error, hfailed⟩ := candid.blames hpath
  obtain ⟨e, he, hi, rfl⟩ := mem_exchangesOf.1 hx
  have hreader : e.request.access = .reader := (World.makes_of_mem he).reader (hi ▸ hclock)
  obtain ⟨a, hanswer⟩ := Request.exists_answer (World.sound_of_mem timely he) (fits e he hi) hreader
  rw [World.performed_run calm e he hi] at hanswer
  cases hfailed.symm.trans hanswer

/-- A user adds a message to a session, while the figures of the user are read. -/
def sampleReads : Fin 4 → ServiceCall
  | 0 => .chat (.createSession ⟨1⟩ ⟨"plans", none, none⟩ .start2026 (.ofNat 1))
  | 1 => .chat (.createMessage ⟨1⟩ (.ofNat 1) ⟨none, .user, "hello", 3, 0.5, .normal, none⟩
      .start2026 (.ofNat 2))
  | 2 => .chat (.sessionStats ⟨1⟩)
  | 3 => .chat (.userMessageStats ⟨1⟩)

/-- The figures are read before and after the roll-up is refreshed, which fails. -/
theorem accepted_stays_readable_without_refresh :
    let w := (World.mk {} (fun i => (sampleReads i).program {}) []).run
      [.calm 0, .calm 1, .calm 1, .calm 2, ⟨1, some (.connection "lost")⟩, .calm 3]
    (∀ i, (sampleReads i).Timely) ∧ w.tables.Decodes ∧ w.tables.messages.length = 1 ∧
      (∃ e ∈ w.history, e.process = 3) ∧
      (∀ e ∈ w.history, e.process = 3 → e.before.Fits) ∧
      ∀ reason, w.outcome? 3 ≠ some (.error (.storeUnavailable reason)) := by
  intro w
  have timely (i : Fin 4) : (sampleReads i).Timely := by
    revert i
    decide +kernel
  obtain ⟨added, asked, small⟩ : w.tables.messages.length = 1 ∧ (∃ e ∈ w.history, e.process = 3) ∧
      ∀ e ∈ w.history, e.process = 3 → (∀ s ∈ e.before.sessions, 0 ≤ s.tokenCount) ∧
        (∀ m ∈ e.before.messages, 0 ≤ m.tokens) ∧
        (e.before.sessions.map (·.tokenCount)).sum ≤ Bounds.highest ∧
        (e.before.messages.map (·.tokens)).sum ≤ Bounds.highest ∧
        (e.before.messages.length : Int) ≤ Bounds.highest := by
    decide +kernel
  have fits (e : Event (Fin 4)) (he : e ∈ w.history) (hi : e.process = 3) : e.before.Fits := by
    obtain ⟨sessions, messages, sessions_le, messages_le, rows⟩ := small e he hi
    exact Tables.fits_of_all sessions messages sessions_le messages_le rows
  obtain ⟨decodes, readable⟩ := accepted_stays_readable (fun _ => {}) timely
    [.calm 0, .calm 1, .calm 1, .calm 2, ⟨1, some (.connection "lost")⟩, .calm 3]
  exact ⟨timely, decodes, added, asked, fits, readable 3 rfl (by decide) fits⟩

/-- A user subscribes to a topic, for which an article dated in year 10000 is then published. -/
def lateArticle : Fin 2 → ServiceCall
  | 0 => .membership (.subscribe ⟨1⟩ "ml" "" .start2026)
  | 1 => .createArticle 1 { title := "late", publishedAt := some .year10000 } .start2026

/-- The date of an article is not held to the years that can be read back. The article is accepted,
and from then on its readers cannot list any articles. -/
theorem not_accepted_stays_readable_past_year9999 :
    ¬ ∀ (settings : Settings) (calls : Fin 2 → ServiceCall) (schedule : List (Turn (Fin 2)))
      (reader : ServiceCall) (reason : String),
      (∀ i, ∀ now ∈ (calls i).readings, now.HasFourDigitYear) → reader.readings = [] →
      let t := ((World.mk {} (fun i => (calls i).program settings) []).run schedule).tables
      t.Fits → ((reader.operation settings).on t).1 ≠ .error (.storeUnavailable reason) := by
  intro h
  have hlist := h {} lateArticle ([0, 0, 1, 1].map .calm) (.listAllArticles ⟨1⟩ none none)
    "invalid datetime: input contains invalid characters" (by decide +kernel) rfl
  have coherent :=
    World.coherent_run (fun _ => {}) lateArticle ([0, 0, 1, 1].map Turn.calm)
  generalize ht : World.tables _ = t at coherent hlist
  let request := ({} : Settings).paging.resolve .articles none none
  obtain ⟨hsessions, hmessages, hone, hmember, hunread⟩ : t.sessions = [] ∧ t.messages = [] ∧
      t.articles.length = 1 ∧
      (∀ a ∈ t.articles, a.isLive = true ∧ t.Effective ⟨1⟩ a.subscription) ∧
      page t.articles request ArticleRow.article =
        .error (.query "invalid datetime: input contains invalid characters") := by
    rw [← ht]
    decide +kernel
  have fits : t.Fits :=
    Tables.fits_of_all (by simp [hsessions]) (by simp [hmessages]) (by simp [hsessions])
      (by simp [hmessages]) (by simp [hmessages])
  have hshown : t.articlesFor ⟨1⟩ = t.articles := by
    obtain ⟨a, ha⟩ := List.length_eq_one_iff.1 hone
    have hall : t.articles.filter (fun a => a.isLive &&
        (t.membershipsOf ⟨1⟩).any fun pair => pair.1.subscription == a.subscription) =
          t.articles := by
      refine List.filter_eq_self.2 fun a ha => ?_
      rw [Bool.and_eq_true, coherent.any_membershipsOf]
      exact hmember a ha
    unfold Tables.articlesFor Tables.articlesWhere latestFirst
    rw [hall, ha]
    exact List.mergeSort_singleton a
  have hask : (Request.listUserArticles ⟨1⟩ request).perform t = (.error _, t) :=
    Prod.ext ((congrArg (page · request ArticleRow.article) hshown).trans hunread) rfl
  have hfail : (Articles.listAll {} ⟨1⟩ none none).on t = _ := on_bind_error (on_ask hask)
  exact hlist fits (congrArg Prod.fst (on_map hfail))

end ChatLedger
