import ChatLedger.Proofs.Service.Listings
import Mathlib.Data.List.Nodup
import Mathlib.Data.UInt

/-!
# Memberships and articles agree

The four reads of the membership service, taken together.

1. `Tables.ArticleRecords`: a list of articles is that of the live rows of some subscriptions.
   `ArticleRecords.perm_flatMap`: the articles of several subscriptions are those of each one, put
   together.
2. `MembershipsAgree` is what the reads of a user say of one another. `memberships_agree`: they do,
   on all tables that timely calls can lead to.
-/

namespace ChatLedger

open Store Time Operation

/-! ## Articles of one subscription and of several -/

namespace Store.Tables

/-- The records are those of the live articles of the subscriptions that meet the condition, each
once. -/
structure ArticleRecords (t : Tables) (Meets : Int → Prop) (records : List Article) : Prop where
  mem_iff : ∀ a, a ∈ records ↔ ∃ r, t.ArticleOf Meets r ∧ r.article = .ok a
  once : (records.map (·.id)).Nodup

namespace ArticleRecords

variable {t : Tables} {Meets : Int → Prop} {records : List Article}

theorem nodup (h : t.ArticleRecords Meets records) : records.Nodup := h.once.of_map _

/-- The subscription of an article meets the condition. -/
theorem meets (h : t.ArticleRecords Meets records) (legible : t.Legible) {a : Article}
    (ha : a ∈ records) : Meets a.subscription := by
  obtain ⟨r, hr, hread⟩ := (h.mem_iff a).1 ha
  obtain ⟨a', hread', -, hsubscription, -⟩ := (legible.articles r hr.mem).exists_article
  rw [hread] at hread'
  cases hread'
  rw [hsubscription]
  exact hr.subscription

/-- **The articles of several subscriptions** are those of each one, put together. -/
theorem perm_flatMap (legible : t.Legible) {ids : List Int} {recordsOf : Int → List Article}
    (distinct : ids.Nodup) (chosen : ∀ id, id ∈ ids ↔ Meets id)
    (parts : ∀ id ∈ ids, t.ArticleRecords (· = id) (recordsOf id))
    (whole : t.ArticleRecords Meets records) : records.Perm (ids.flatMap recordsOf) := by
  have apart : ids.Pairwise fun id id' => List.Disjoint (recordsOf id) (recordsOf id') := by
    refine distinct.imp_of_mem fun hid hid' hne a ha ha' => hne ?_
    rw [← (parts _ hid).meets legible ha, ← (parts _ hid').meets legible ha']
  have hnodup : (ids.flatMap recordsOf).Nodup :=
    List.nodup_flatMap.2 ⟨fun id hid => (parts id hid).nodup, apart⟩
  refine (List.perm_ext_iff_of_nodup whole.nodup hnodup).2 fun a => ?_
  rw [whole.mem_iff, List.mem_flatMap]
  constructor
  · rintro ⟨r, hr, hread⟩
    have hid := (chosen r.subscription).2 hr.subscription
    exact ⟨_, hid, ((parts _ hid).mem_iff a).2 ⟨r, ⟨hr.mem, hr.live, rfl⟩, hread⟩⟩
  · rintro ⟨id, hid, ha⟩
    obtain ⟨r, hr, hread⟩ := ((parts id hid).mem_iff a).1 ha
    have hsubscription : r.subscription = id := hr.subscription
    exact ⟨r, ⟨hr.mem, hr.live, hsubscription ▸ (chosen id).1 hid⟩, hread⟩

end ArticleRecords

end Store.Tables

theorem ofNat_sum (ns : List Nat) : UInt64.ofNat ns.sum = (ns.map UInt64.ofNat).sum := by
  induction ns with
  | nil => rfl
  | cons n ns ih => rw [List.sum_cons, UInt64.ofNat_add, ih, List.map_cons, List.sum_cons]

section Agreement

variable {t : Tables} {user : UserId} {settings : Settings} (coherent : t.Coherent)
  (legible : t.Legible)

include coherent legible

/-- A listing of articles is made of slices of the records of its subscriptions. -/
theorem exists_articleRecords {condition : Int → Bool} {Meets : Int → Prop}
    (meets : ∀ id, condition id = true ↔ Meets id)
    {list : Option UInt32 → Option UInt32 → Operation (Page Article)}
    (listed : Listed list settings.paging .articles t (t.ArticleOf Meets) ArticleRow.article
      (Latest fun e => (e.2.publishedAt, e.2.createdAt, e.1.row))) :
    ∃ records, Slices list settings.paging .articles t records ∧ t.ArticleRecords Meets records ∧
      records.length = t.articles.countP fun a => a.isLive && condition a.subscription := by
  obtain ⟨entries, reference, unique, slices⟩ := listed
  obtain ⟨entries', hrows, reference'⟩ := exists_latestArticles coherent legible meets
  obtain rfl := unique entries' reference'
  have hperm : (entries'.map Prod.fst).Perm
      (t.articles.filter fun a => a.isLive && condition a.subscription) :=
    hrows ▸ List.mergeSort_perm ..
  refine ⟨_, slices, ⟨fun a => reference.mem_records, ?_⟩, ?_⟩
  · have hid : (entries'.map Prod.snd).map (·.id) =
        (entries'.map Prod.fst).map fun r => (r.row : Int) := by
      rw [List.map_map, List.map_map]
      refine List.map_congr_left fun e he => ?_
      have hr := ((reference.mem_iff).1 he).1
      obtain ⟨a, hread, hid, -⟩ := (legible.articles _ hr.mem).exists_article
      rw [reference.reads e he] at hread
      cases hread
      exact hid
    have hnodup : ((t.articles.filter fun a => a.isLive && condition a.subscription).map
        (·.row)).Nodup := coherent.numbered.articles.nodup.sublist (List.filter_sublist.map _)
    have hcast := hnodup.map fun _ _ => Int.ofNat_inj.1
    rw [List.map_map] at hcast
    rw [hid, (hperm.map _).nodup_iff]
    exact hcast
  · rw [List.length_map, ← List.length_map Prod.fst, hperm.length_eq, List.countP_eq_length_filter]

/-- The memberships that are listed are the effective ones, each once, and count their articles. -/
theorem exists_views (lists : t.Lists settings user) : ∃ views : List SubscriptionView,
    Slices (Memberships.list settings user) settings.paging .subscriptions t views ∧
      (views.map (·.subscription.id)).Nodup ∧
      (∀ id, id ∈ views.map (·.subscription.id) ↔ t.Effective user id) ∧
      ∀ v ∈ views, v.articles =
        Tables.countWhere (fun a => a.isLive && a.subscription == v.subscription.id)
          t.articles := by
  obtain ⟨entries, reference, unique, slices⟩ := lists.memberships
  obtain ⟨entries', hrows, reference'⟩ := exists_newestMemberships coherent legible
  obtain rfl := unique entries' reference'
  have viewed {e : (LinkRow × SubscriptionRow) × SubscriptionView} (he : e ∈ entries') :
      e.2.subscription.id = e.1.1.subscription ∧
        e.2.articles = Tables.countWhere
          (fun a => a.isLive && a.subscription == e.1.1.subscription) t.articles := by
    have hown := (reference.mem_iff.1 he).1
    obtain ⟨v, hread, hid, harticles, -⟩ := legible.exists_view hown.link hown.subscription
    rw [reference.reads e he] at hread
    cases hread
    exact ⟨hid.trans hown.leads, harticles⟩
  have hids : (entries'.map Prod.snd).map (·.subscription.id) =
      (t.membershipsOf user).map (·.1.subscription) := by
    rw [← hrows, List.map_map, List.map_map]
    exact List.map_congr_left fun e he => (viewed he).1
  refine ⟨_, slices, ?_, fun id => ?_, fun v hv => ?_⟩
  · rw [hids]
    exact coherent.nodup_subscriptions
  · rw [hids, coherent.effective_iff, List.mem_map]
  · obtain ⟨e, he, rfl⟩ := List.mem_map.1 hv
    rw [(viewed he).1]
    exact (viewed he).2

/-! ## Agreement -/

/-- What the reads of a user say of one another. The memberships are listed once each, they are the
effective ones, and these are the subscriptions whose articles the user may read. Every count of
articles is that of the articles that are listed, and the articles that are listed together are those
of each subscription, put together. -/
structure MembershipsAgree (t : Tables) (settings : Settings) (user : UserId)
    (views : List SubscriptionView) (articlesOf : Int → List Article) (all : List Article) :
    Prop where
  memberships : Slices (Memberships.list settings user) settings.paging .subscriptions t views
  once : (views.map (·.subscription.id)).Nodup
  effective : ∀ id, id ∈ views.map (·.subscription.id) ↔ t.Effective user id
  unknown : ∀ id page size, ¬ t.HasActive id →
    ∃ what, (Articles.list settings user id page size).on t = (.error (.notFound what), t)
  denied : ∀ id page size, t.HasActive id → ¬ t.Effective user id →
    ∃ reason, (Articles.list settings user id page size).on t =
      (.error (.permissionDenied reason), t)
  articles : ∀ v ∈ views, Slices (Articles.list settings user v.subscription.id) settings.paging
    .articles t (articlesOf v.subscription.id)
  counts : ∀ v ∈ views, ∀ page size, ∃ answer : Page Article,
    (Articles.list settings user v.subscription.id page size).on t = (.ok answer, t) ∧
      answer.total = v.articles
  together : Slices (Articles.listAll settings user) settings.paging .articles t all
  union : all.Perm (views.flatMap fun v => articlesOf v.subscription.id)
  disjoint : (all.map (·.id)).Nodup
  total : ∀ page size, ∃ answer : Page Article,
    (Articles.listAll settings user page size).on t = (.ok answer, t) ∧
      answer.total = (views.map (·.articles)).sum

/-- The reads agree with one another because all of them are slices of what the rows say. -/
theorem exists_membershipsAgree :
    ∃ views articlesOf all, MembershipsAgree t settings user views articlesOf all := by
  have lists : t.Lists settings user := legible.lists coherent
  obtain ⟨views, memberships, once, effective, counted⟩ := exists_views coherent legible lists
  have parts (id : Int) : ∃ records : List Article, t.Effective user id →
      Slices (Articles.list settings user id) settings.paging .articles t records ∧
        t.ArticleRecords (· = id) records ∧
        records.length = t.articles.countP fun a => a.isLive && a.subscription == id := by
    by_cases heffective : t.Effective user id
    · obtain ⟨records, h⟩ := exists_articleRecords coherent legible (fun _ => beq_iff_eq)
        (lists.articles id heffective)
      exact ⟨records, fun _ => h⟩
    · exact ⟨[], fun h => absurd h heffective⟩
  choose articlesOf harticles using parts
  obtain ⟨all, together, whole, -⟩ := exists_articleRecords coherent legible
    (fun _ => coherent.any_membershipsOf) lists.allArticles
  have viewed {v : SubscriptionView} (hv : v ∈ views) :=
    harticles v.subscription.id ((effective _).1 (List.mem_map_of_mem hv))
  have union : all.Perm (views.flatMap fun v => articlesOf v.subscription.id) := by
    rw [← List.flatMap_map]
    exact Tables.ArticleRecords.perm_flatMap legible once effective
      (fun id hid => (harticles id ((effective id).1 hid)).2.1) whole
  have counts {v : SubscriptionView} (hv : v ∈ views) :
      UInt64.ofNat (articlesOf v.subscription.id).length = v.articles := by
    rw [(viewed hv).2.2, counted v hv]
    rfl
  refine ⟨views, articlesOf, all, memberships, once, effective,
    fun id page size h => on_listArticles_unknown legible h,
    fun id page size h hnot => on_listArticles_denied coherent legible h hnot,
    fun v hv => (viewed hv).1, fun v hv page size => ?_, together, union, whole.once,
    fun page size => ⟨_, together.answer page size, ?_⟩⟩
  · exact ⟨_, (viewed hv).1.answer page size, counts hv⟩
  · show UInt64.ofNat all.length = _
    rw [union.length_eq, List.length_flatMap, ofNat_sum, List.map_map]
    exact congrArg List.sum (List.map_congr_left fun v hv => counts hv)

end Agreement

/-- **All reads agree on who is a member.** Timely calls of the services run at the same time on an
empty store, and any of their store calls may fail. At every moment, and for every user and every
configuration, the listed memberships, the subscriptions whose articles may be read, the counts of
articles and the articles that are listed together agree. -/
theorem memberships_agree {ι : Type} [DecidableEq ι] (settings : ι → Settings)
    {calls : ι → ServiceCall} (timely : ∀ i, (calls i).Timely) (schedule : List (Turn ι))
    (reader : Settings) (user : UserId) :
    ∃ views articlesOf all, MembershipsAgree
      ((World.mk {} (fun i => (calls i).program (settings i)) []).run schedule).tables reader user
      views articlesOf all :=
  exists_membershipsAgree (World.coherent_run settings calls schedule)
    (World.legible_run timely schedule)

/-- Two topics are deleted or not joined by the first user, who is a member of one topic. -/
def sampleMembers : Fin 7 → ServiceCall
  | 0 => .membership (.subscribe ⟨1⟩ "ml" "" .start2026)
  | 1 => .membership (.subscribe ⟨2⟩ "ai" "" .start2026)
  | 2 => .membership (.subscribe ⟨2⟩ "bio" "" .start2026)
  | 3 => .membership (.subscribe ⟨1⟩ "bio" "" .start2026)
  | 4 => .createArticle 1 { title := "kept" } .start2026
  | 5 => .createArticle 3 { title := "hidden" } .start2026
  | 6 => .membership (.delete 3 .start2026)

/-- The first user may read of the first topic, is refused the second one and does not find the
third one. -/
theorem memberships_agree_after_deletion :
    let t := ((World.mk {} (fun i => (sampleMembers i).program {}) []).run
      ([0, 0, 1, 1, 2, 2, 3, 3, 3, 4, 4, 5, 5, 6, 6].map Turn.calm)).tables
    (∀ i, (sampleMembers i).Timely) ∧
      (∃ views articlesOf all, MembershipsAgree t {} ⟨1⟩ views articlesOf all) ∧
      t.Effective ⟨1⟩ 1 ∧ (t.HasActive 2 ∧ ¬ t.Effective ⟨1⟩ 2) ∧ ¬ t.HasActive 3 ∧
      t.articles.length = 2 := by
  intro t
  have timely (i : Fin 7) : (sampleMembers i).Timely := by
    revert i
    decide +kernel
  refine ⟨timely, memberships_agree (fun _ => {}) timely _ {} ⟨1⟩, ?_⟩
  decide +kernel

/-- In year 10000 a member may not read any articles: the row of the subscription can no longer be
read. -/
theorem not_memberships_agree_in_year10000 :
    ¬ ∀ (settings : Settings) (c : ServiceCall) (schedule : List (Turn Unit)) (reader : Settings)
      (user : UserId), ∃ views articlesOf all, MembershipsAgree
        ((World.mk {} (fun _ => c.program settings) []).run schedule).tables reader user
        views articlesOf all := by
  intro h
  obtain ⟨views, articlesOf, all, agree⟩ :=
    h {} (.membership (.subscribe ⟨1⟩ "ml" "" .year10000)) [.calm (), .calm ()] {} ⟨1⟩
  obtain ⟨v, hv, hid⟩ := List.mem_map.1 ((agree.effective 1).2 (by decide +kernel))
  obtain ⟨answer, hanswer, -⟩ := agree.counts v hv none none
  rw [hid] at hanswer
  have hok : Except.toBool _ = true := congrArg (·.1.toBool) hanswer
  revert hok
  decide +kernel

end ChatLedger
