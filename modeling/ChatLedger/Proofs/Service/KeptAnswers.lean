import ChatLedger.Proofs.Chat.KeptAnswers
import ChatLedger.Proofs.Membership.KeptAnswers
import ChatLedger.Proofs.Service.Listings
import ChatLedger.Proofs.Service.Readable

/-!
# What is answered is what is stored

1. `Operation.KeepsArticle`: an article that is published is shown once, as it was answered, on the
   lists of everyone who may read it.
2. `Tables.KeepsAnswers` says of every operation that answers with what it has written that this is
   what is read back of it.
3. `answers_are_stored`: this holds on all tables that timely calls can lead to.
-/

namespace ChatLedger

open Store Time Operation

/-! ## Articles -/

/-- The pages of the listing show the article once, as it is kept. -/
def ShowsOnce (list : Option UInt32 → Option UInt32 → Operation (Page Article))
    (settings : Settings) (t : Tables) (a : Article) : Prop :=
  ∃ records, Slices list settings.paging .articles t records ∧
    ∃ found ∈ records, found.SameAs a.truncated ∧ ∀ other ∈ records, other.id = a.id → other = found

/-- The article that is answered is shown to all members of the subscription, among the articles of the
subscription and among all that they may read. -/
def Operation.KeepsArticle (op : Operation Article) (t : Tables) (id : Int) : Prop :=
  ∀ a t', op.on t = (.ok a, t') → ∀ (settings : Settings) (reader : UserId), t'.Effective reader id →
    ShowsOnce (Articles.list settings reader id) settings t' a ∧
      ShowsOnce (Articles.listAll settings reader) settings t' a

/-- An operation that only reads leaves the tables as they are. -/
theorem Operation.on_reads {α : Type} {op : Operation α}
    (reads : op.Asks fun r => r.access = .reader) (t : Tables) : (op.on t).2 = t :=
  Program.run_of_reads reads.asks t

section Articles

variable {t : Tables} (coherent : t.Coherent) (legible : t.Legible)

include legible in
/-- What is read of an article has the number of its row. -/
theorem id_of_readArticle {r : ArticleRow} (hr : r ∈ t.articles) {a : Article}
    (hread : r.article = .ok a) : a.id = r.row := by
  obtain ⟨a', hread', hid, -⟩ := (legible.articles r hr).exists_article
  rw [hread] at hread'
  rwa [Except.ok.inj hread']

include coherent legible in
/-- A listing shows a live article once, as its row is read. -/
theorem showsOnce_of_listed {list : Option UInt32 → Option UInt32 → Operation (Page Article)}
    {settings : Settings} {Meets : Int → Prop}
    {Precedes : ArticleRow × Article → ArticleRow × Article → Prop}
    (listed : Listed list settings.paging .articles t (t.ArticleOf Meets) ArticleRow.article
      Precedes)
    {r : ArticleRow} (shown : t.ArticleOf Meets r) {a found : Article}
    (hread : r.article = .ok found) (same : found.SameAs a.truncated) :
    ShowsOnce list settings t a := by
  obtain ⟨entries, reference, -, slices⟩ := listed
  have hid : found.id = a.id := congrArg (·.id) same.rest
  refine ⟨_, slices, found, reference.mem_records.2 ⟨r, shown, hread⟩, same, ?_⟩
  intro other hother hsame
  obtain ⟨r', shown', hread'⟩ := reference.mem_records.1 hother
  have hrow : (r'.row : Int) = r.row := by
    rw [← id_of_readArticle legible shown'.mem hread', ← id_of_readArticle legible shown.mem hread,
      hsame, hid]
  obtain rfl := coherent.numbered.articles.eq_of_fst_eq shown'.mem shown.mem (Int.ofNat_inj.1 hrow)
  rw [hread] at hread'
  exact (Except.ok.inj hread').symm

include coherent legible in
theorem createArticle_keeps {now : Instant} (storable : now.IsStorable) (id : Int)
    {article : NewArticle} (dates : ∀ t ∈ article.publishedAt, t.IsStorable) :
    (Articles.create id article now).KeepsArticle t id := by
  intro a t' hon settings reader effective
  obtain ⟨checked, t₁, hchecked, h₁⟩ := on_bind_eq_ok hon
  obtain ⟨s, t₂, hopened, h₂⟩ := on_bind_eq_ok h₁
  obtain ⟨hvalid, rfl⟩ := on_check_eq_ok hchecked
  have reads : (Memberships.opened id).Asks fun r => r.access = .reader := asks_opened rfl
  have hsame := on_reads reads t₁
  rw [hopened] at hsame
  obtain rfl : t₂ = t₁ := hsame
  have hperform := on_askWith_eq_ok h₂
  have hinsert := Request.settle_eq_ok.1 hperform
  obtain ⟨rfl, hrating⟩ := Tables.insertArticle_answer hinsert
  have published : ∀ t ∈ checked.publishedAt, t.IsStorable := by
    rw [Articles.eq_of_validate hvalid]
    exact dates
  have readable : (Request.insertArticle id checked now).Readable := by
    intro t ht
    rcases List.mem_cons.1 ht with rfl | ht
    · exact storable.year
    · exact (published t (Option.mem_toList.1 ht)).year
  obtain rfl : _ = t' := congrArg Prod.snd hperform
  have coherent' := coherent.perform (r := .insertArticle id checked now) (by
    intro topic htopic
    cases htopic)
  have legible' := legible.perform readable
  have hmem : ArticleRow.ofNew (nextRow t₂.articles) id checked now ∈
      ((Request.insertArticle id checked now).perform t₂).2.articles := by
    rw [show ((Request.insertArticle id checked now).perform t₂).2 = _ from
      (Tables.insertArticle_ok hinsert).2.2]
    exact List.mem_append_right _ List.mem_cons_self
  have hread := ArticleRow.article_ofNew (nextRow t₂.articles) id storable published
  obtain ⟨rating, hrating⟩ := Option.isSome_iff_exists.1 hrating
  have same := storedAmount_beq (number_of_storedAmount? hrating)
  exact ⟨showsOnce_of_listed coherent' legible' (listed_articles coherent' legible' effective)
      ⟨hmem, rfl, rfl⟩ hread ⟨same, rfl⟩,
    showsOnce_of_listed coherent' legible' (listed_allArticles coherent' legible')
      ⟨hmem, rfl, effective⟩ hread ⟨same, rfl⟩⟩

end Articles

/-! ## All operations -/

/-- Of what this user does next, alone and by this clock, whatever is answered is what is read back:
sessions, messages and articles with amounts that are equal as numbers, and all of them with times to
the microsecond. -/
structure Store.Tables.KeepsAnswers (t : Tables) (settings : Settings) (user : UserId)
    (clock : Clock) : Prop where
  createSession : ∀ input fresh,
    (Sessions.create settings user input (clock 0) fresh).KeepsSession t user
  updateTopic : ∀ id topic, (Sessions.updateTopic user id topic (clock 0)).KeepsSession t user
  finish : ∀ id, (Sessions.finish user id (clock 0)).KeepsSession t user
  ended : ∀ id s t', (Sessions.finish user id (clock 0)).on t = (.ok s, t') → s.status = .ended
  createMessage : ∀ session input fresh,
    (Messages.create settings user session input clock fresh).KeepsMessage t user
  updateMessage : ∀ id u, (Messages.update settings user id u clock).KeepsMessage t user
  describe : ∀ id description,
    (Memberships.describe user id description (clock 0)).KeepsSubscription t
  delete : ∀ id, (Memberships.delete id (clock 0)).KeepsSubscription t
  createArticle : ∀ id (article : NewArticle), (∀ t ∈ article.publishedAt, t.IsStorable) →
    (Articles.create id article (clock 0)).KeepsArticle t id
  subscribe : ∀ topic description,
    (Memberships.subscribe settings user topic description clock).KeepsMember t user
      (Text.trim topic)
  cancel : ∀ id, (Memberships.cancel settings user id clock).KeepsLink t user id
  reactivate : ∀ id, (Memberships.reactivate settings user id clock).KeepsLink t user id

/-- What can be read back is written at times that can be read back. -/
theorem Store.Request.Readable.timely {r : Request} (h : r.Readable) : r.Timely := by
  intro now hnow
  cases r <;> cases hnow <;> exact h now List.mem_cons_self

/-- **What is answered is what is stored.** Timely calls of the services have run at the same time on an
empty store, and any of their store calls may have failed. Then whatever a user does alone, by a clock
that shows times as they can be stored, is read back as it has been answered. -/
theorem answers_are_stored {ι : Type} [DecidableEq ι] (settings : ι → Settings)
    {calls : ι → ServiceCall} (timely : ∀ i, (calls i).Timely) (schedule : List (Turn ι))
    (caller : Settings) (user : UserId) {clock : Clock} (storable : clock.IsStorable) :
    ((World.mk {} (fun i => (calls i).program (settings i)) []).run schedule).tables.KeepsAnswers
      caller user clock := by
  have trace := World.trace_run {} (fun i => (calls i).program (settings i)) schedule
  have coherent := World.coherent_run settings calls schedule
  have legible : ((World.mk {} (fun i => (calls i).program (settings i)) []).run
      schedule).tables.Legible :=
    World.legible_run timely schedule
  have sound : Tables.ChatSound _ :=
    { keyed := coherent.keyed
      legible := legible.chat
      sessions := trace.sessions_written (by simp)
      messages := trace.written (by simp) }
  have reachable : Tables.Reachable _ :=
    ⟨ι, _, trace, fun e he => (World.readable_of_mem timely he).timely⟩
  have now : (clock 0).IsStorable := storable.reading 0
  have years : clock.HasFourDigitYears := fun t ht => (storable t ht).year
  obtain ⟨m, hm, hstore⟩ := reachable.exists_roster
  generalize World.tables _ = t at *
  constructor
  case createSession => exact createSession_keeps sound caller user now
  case updateTopic => exact updateTopic_keeps sound user now
  case finish => exact finish_keeps sound user now
  case ended => exact fun id s t' => ended_of_finish user
  case createMessage => exact createMessage_keeps sound caller user storable
  case updateMessage => exact updateMessage_keeps sound caller user storable
  case createArticle =>
    exact fun id article dates => createArticle_keeps coherent legible now id dates
  -- the other operations are followed on the roster that the rows keep
  all_goals rw [← hstore]
  case describe => exact fun id => describe_keeps hm t user id now
  case delete => exact fun id => delete_keeps hm t id now
  case subscribe => exact subscribe_keeps hm t caller user years
  case cancel => exact fun id => cancel_keeps hm t caller user id years
  case reactivate => exact fun id => reactivate_keeps hm t caller user id years

/-- What is answered so can be followed further. -/
theorem Operation.exists_answer {α : Type} {op : Operation α} {t : Tables} {p : α → Bool}
    (h : (op.on t).1.toOption.any p = true) : ∃ a t', op.on t = (.ok a, t') ∧ p a = true := by
  rcases hon : op.on t with ⟨outcome, t'⟩
  rw [hon] at h
  cases outcome with
  | error e => cases h
  | ok a => exact ⟨a, t', rfl, h⟩

/-- A moment between two microseconds. -/
def Time.Instant.between2026 : Instant :=
  { Instant.start2026 with nanos := 1234567, nanos_lt := by decide }

/-- A clock that shows this moment and, when it is read again, the one a second later. -/
def Time.Clock.between2026 : Clock := ⟨.between2026, [Instant.between2026.after 1]⟩

/-- Between two microseconds what is answered is not what is stored, but the same to the microsecond and
as numbers: a message at no cost, with a negative sign, and a session that ends. A subscriber leaves, and
a member finds a new article among those of the subscription. -/
theorem answers_are_stored_between_micros :
    let t := ((World.mk {} (fun i => (sampleLedger i).program {}) []).run
      ([0, 1, 2, 2, 3, 3, 4, 4].map Turn.calm)).tables
    let clock := Clock.between2026
    let add := Messages.create {} ⟨1⟩ (.ofNat 1) ⟨none, .user, "hello", 3, -0.0, .normal, none⟩
      clock (.ofNat 3)
    (∀ i, (sampleLedger i).Timely) ∧ clock.IsStorable ∧ t.KeepsAnswers {} ⟨1⟩ clock ∧
      (∃ answer t' found, add.on t = (.ok answer, t') ∧ answer.value.truncated ≠ answer.value ∧
        (Messages.owned ⟨1⟩ answer.value.id).on t' = (.ok found, t') ∧
        found.SameAs answer.value.truncated) ∧
      (∃ s t' found, (Sessions.finish ⟨1⟩ (.ofNat 2) (clock 0)).on t = (.ok s, t') ∧
        s.truncated ≠ s ∧ s.status = .ended ∧ (Sessions.owned ⟨1⟩ s.id).on t' = (.ok found, t') ∧
        found.SameAs s.truncated) ∧
      (∃ c t' found, (Memberships.cancel {} ⟨1⟩ 1 clock).on t = (.ok c, t') ∧
        (ask (.findLink ⟨1⟩ 1)).on t' = (.ok found, t') ∧ LinkedAs ⟨1⟩ 1 .cancelled found) ∧
      ∃ a t', (Articles.create 1 { title := "third" } (clock 0)).on t = (.ok a, t') ∧
        ShowsOnce (Articles.list {} ⟨1⟩ 1) {} t' a := by
  intro t clock add
  have timely (i : Fin 5) : (sampleLedger i).Timely := by
    revert i
    decide +kernel
  have storable : clock.IsStorable := by decide +kernel
  have keeps : t.KeepsAnswers {} ⟨1⟩ clock :=
    answers_are_stored (fun _ => {}) timely _ {} ⟨1⟩ storable
  have added : (add.on t).1.toOption.any
      (fun answer => decide (answer.value.truncated ≠ answer.value)) = true := by
    decide +kernel
  have finished : ((Sessions.finish ⟨1⟩ (.ofNat 2) (clock 0)).on t).1.toOption.any
      (fun s => decide (s.truncated ≠ s)) = true := by
    decide +kernel
  have left : ((Memberships.cancel {} ⟨1⟩ 1 clock).on t).1.toOption.any
      (fun c => decide (c.current = .cancelled)) = true := by
    decide +kernel
  have published : ((Articles.create 1 { title := "third" } (clock 0)).on t).1.toOption.any
      (fun _ => decide (((Articles.create 1 { title := "third" } (clock 0)).on t).2.Effective
        ⟨1⟩ 1)) = true := by
    decide +kernel
  refine ⟨timely, storable, keeps, ?_, ?_, ?_, ?_⟩
  · obtain ⟨answer, t', hon, hmicros⟩ := exists_answer added
    obtain ⟨found, hfound, same⟩ := keeps.createMessage _ _ _ answer t' hon
    exact ⟨answer, t', found, hon, of_decide_eq_true hmicros, hfound, same⟩
  · obtain ⟨s, t', hon, hmicros⟩ := exists_answer finished
    obtain ⟨found, hfound, same⟩ := keeps.finish _ s t' hon
    exact ⟨s, t', found, hon, of_decide_eq_true hmicros, keeps.ended _ s t' hon, hfound, same⟩
  · obtain ⟨c, t', hon, hcurrent⟩ := exists_answer left
    obtain ⟨found, hfound, -, linked⟩ := keeps.cancel _ c t' hon
    exact ⟨c, t', found, hon, hfound, of_decide_eq_true hcurrent ▸ linked⟩
  · obtain ⟨a, t', hon, heffective⟩ := exists_answer published
    rw [hon] at heffective
    obtain ⟨shown, -⟩ := keeps.createArticle _ _ (by simp) a t' hon {} ⟨1⟩
      (of_decide_eq_true heffective)
    exact ⟨a, t', hon, shown⟩

/-- What is answered for all elements is answered for each. -/
theorem exists_of_mapM {α β : Type} {f : α → Except StoreError β} {l : List α} {bs : List β}
    (h : l.mapM f = .ok bs) : ∀ a ∈ l, ∃ b, f a = .ok b := by
  induction l generalizing bs with
  | nil => simp
  | cons a l ih =>
    rw [List.mapM_cons] at h
    obtain ⟨b, hb, h⟩ := bind_eq_ok.1 h
    obtain ⟨rest, hrest, -⟩ := bind_eq_ok.1 h
    exact List.forall_mem_cons.2 ⟨⟨b, hb⟩, ih hrest⟩

/-- A page that is answered has read all of its rows. -/
theorem exists_of_mem_page {Row α : Type} {rows : List Row} {request : PageRequest}
    {read : Row → Except StoreError α} {found : List α × UInt64}
    (h : page rows request read = .ok found) : ∀ r ∈ request.slice rows, ∃ a, read r = .ok a := by
  obtain ⟨items, hitems, -⟩ := bind_eq_ok.1 h
  exact exists_of_mapM hitems

/-- An answered page of the articles of a subscription has read all of its rows. -/
theorem exists_of_on_listArticles {settings : Settings} {user : UserId} {id : Int}
    {n size : Option UInt32} {t t' : Tables} {answer : Page Article}
    (hon : (Articles.list settings user id n size).on t = (.ok answer, t')) :
    ∀ r ∈ (settings.paging.resolve .articles n size).slice (t.articlesOn id),
      ∃ a, r.article = .ok a := by
  obtain ⟨_, t₁, hopened, h₁⟩ := on_bind_eq_ok hon
  obtain ⟨link, t₂, hlink, h₂⟩ := on_bind_eq_ok h₁
  obtain rfl : t₁ = t := by
    have reads : (Memberships.opened id).Asks fun r => r.access = .reader := asks_opened rfl
    have hsame := on_reads reads t
    rwa [hopened] at hsame
  obtain rfl : t₁ = t₂ := congrArg Prod.snd (on_askWith_eq_ok hlink)
  split at h₂
  · obtain ⟨_, _, hfail, -⟩ := on_bind_eq_ok h₂
    cases hfail
  · obtain ⟨found, t₃, hask, -⟩ := on_bind_eq_ok h₂
    exact exists_of_mem_page (congrArg Prod.fst (on_askWith_eq_ok hask))

/-- A session that is opened in a leap second in the middle of a minute is read back at another time than
it has been answered. -/
theorem not_keepsAnswers_midMinuteLeap :
    ¬ Tables.KeepsAnswers {} {} ⟨1⟩ (.still .midMinuteLeap) := by
  intro keeps
  let create := Sessions.create {} ⟨1⟩ ⟨"plans", none, none⟩ .midMinuteLeap (.ofNat 1)
  have opened : (create.on {}).1.toOption.any (fun s =>
      ((Sessions.owned ⟨1⟩ s.id).on (create.on {}).2).1.toOption.all
        fun found => decide (found.createdAt ≠ s.truncated.createdAt)) = true := by
    decide +kernel
  obtain ⟨s, t', hon, hother⟩ := exists_answer opened
  obtain ⟨found, hfound, same⟩ := keeps.createSession _ _ s t' hon
  rw [hon, hfound] at hother
  exact of_decide_eq_true hother (congrArg (·.createdAt) same.rest)

/-- An article that is dated in a leap second in the middle of a minute is listed with another date than
it has been answered with. -/
theorem not_keepsArticle_midMinuteLeap :
    ¬ (Articles.create 1 { title := "leap", publishedAt := some .midMinuteLeap }
      .start2026).KeepsArticle ((Memberships.subscribe {} ⟨1⟩ "ml" "" .start2026).on {}).2 1 := by
  intro keeps
  generalize ht : Prod.snd _ = t at keeps
  let create := Articles.create 1 { title := "leap", publishedAt := some .midMinuteLeap } .start2026
  have published : (create.on t).1.toOption.any (fun a =>
      decide ((create.on t).2.Effective ⟨1⟩ 1) &&
        ((Articles.list {} ⟨1⟩ 1 none none).on (create.on t).2).1.toOption.all fun found =>
          decide (found.items.length = 1 ∧
            ∀ other ∈ found.items, other.publishedAt ≠ a.truncated.publishedAt)) = true := by
    rw [← ht]
    decide +kernel
  obtain ⟨a, t', hon, hother⟩ := exists_answer published
  rw [hon, Bool.and_eq_true] at hother
  obtain ⟨effective, hother⟩ := hother
  obtain ⟨⟨records, slices, found, hmem, same, -⟩, -⟩ :=
    keeps a t' hon {} ⟨1⟩ (of_decide_eq_true effective)
  rw [slices.answer none none] at hother
  obtain ⟨hlength, hother⟩ := of_decide_eq_true hother
  have hlisted : found ∈ (records.drop 0).take 10 := by
    -- one record on a page of ten is all there are
    change ((records.drop 0).take 10).length = 1 at hlength
    rw [List.drop_zero, List.length_take] at hlength
    rwa [List.drop_zero, List.take_of_length_le (by omega)]
  exact hother found hlisted (congrArg (·.publishedAt) same.rest)

/-- Where an article of year 10000 has been published, what is published next is answered and cannot be
listed. -/
theorem not_keepsAnswers_lateArticle :
    ¬ ((World.mk {} (fun i => (lateArticle i).program {}) []).run
      ([0, 0, 1, 1].map Turn.calm)).tables.KeepsAnswers {} ⟨1⟩ .start2026 := by
  generalize ht : World.tables _ = t
  intro keeps
  let create := Articles.create 1 { title := "next" } .start2026
  have published : (create.on t).1.toOption.any (fun _ =>
      let t' := (create.on t).2
      let shown := t'.articles.filter fun a => a.isLive && a.subscription == 1
      decide (t'.Effective ⟨1⟩ 1 ∧ shown.length ≤ 10 ∧
        ∃ r ∈ shown, r.article.toOption.isNone = true)) = true := by
    rw [← ht]
    decide +kernel
  obtain ⟨a, t', hon, hlate⟩ := exists_answer published
  rw [hon] at hlate
  obtain ⟨effective, hlength, r, hr, hunread⟩ := of_decide_eq_true hlate
  obtain ⟨⟨_, slices, -⟩, -⟩ := keeps.createArticle _ _ (by simp) a t' hon {} ⟨1⟩ effective
  have hlisted : r ∈ (({} : Settings).paging.resolve .articles none none).slice
      (t'.articlesOn 1) := by
    -- both articles stand on the first page, in whatever order
    show r ∈ ((t'.articlesOn 1).drop 0).take 10
    rw [List.drop_zero, List.take_of_length_le]
    · exact List.mem_mergeSort.2 hr
    · exact (List.length_mergeSort _).trans_le hlength
  obtain ⟨found, hread⟩ := exists_of_on_listArticles (slices.answer none none) r hlisted
  rw [hread] at hunread
  cases hunread

/-- The years alone do not make times that can be stored, neither those of the clock nor the date of an
article, and the calls before have to keep to them as well. -/
theorem not_answers_are_stored_of_unstorable :
    (Instant.midMinuteLeap.HasFourDigitYear ∧
      ¬ Tables.KeepsAnswers {} {} ⟨1⟩ (.still .midMinuteLeap) ∧
      ¬ (Articles.create 1 { title := "leap", publishedAt := some .midMinuteLeap }
        .start2026).KeepsArticle ((Memberships.subscribe {} ⟨1⟩ "ml" "" .start2026).on {}).2 1) ∧
    (∀ i, ∀ now ∈ (lateArticle i).readings, now.HasFourDigitYear) ∧
      ¬ ((World.mk {} (fun i => (lateArticle i).program {}) []).run
        ([0, 0, 1, 1].map Turn.calm)).tables.KeepsAnswers {} ⟨1⟩ .start2026 :=
  ⟨⟨by decide, not_keepsAnswers_midMinuteLeap, not_keepsArticle_midMinuteLeap⟩, by decide +kernel,
    not_keepsAnswers_lateArticle⟩

end ChatLedger
