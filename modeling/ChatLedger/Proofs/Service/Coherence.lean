import ChatLedger.Proofs.Chat.Rows
import ChatLedger.Proofs.Membership.Rows
import ChatLedger.Proofs.Service.FailedCalls

/-!
# The store stays coherent

What holds of the five tables at every moment, whoever calls the services at the same time and
whichever store calls fail.

1. `Tables.Coherent` collects what is unique, what refers to what, and how topics are kept.
2. `Tables.Coherent.perform`: every store call keeps it, if the topics that it gives are trimmed.
   `ServiceCall.Writes.trimsTopic`: those that the services give are.
3. `store_stays_coherent`: so it holds at every moment of every run, and what identifies a record
   never changes once the record is there.
-/

namespace ChatLedger.Store

/-! ## Coherent tables -/

/-- Every subscription has a link of its creator. -/
def Tables.CreatorsLinked (t : Tables) : Prop :=
  ∀ s ∈ t.subscriptions, ∃ l ∈ t.links, l.user = s.creator ∧ l.subscription = s.row

/-- What holds of the five tables together. -/
structure Tables.Coherent (t : Tables) : Prop where
  /-- A user has at most one link to a subscription. -/
  links_unique : (t.links.map fun l => (l.user, l.subscription)).Nodup
  /-- A topic has at most one active subscription. -/
  topics_unique : ((t.subscriptions.filter (·.isActive)).map (·.topic)).Nodup
  /-- Topics are kept without blanks at their ends. -/
  topics_trimmed : ∀ s ∈ t.subscriptions, Text.trim s.topic = s.topic
  creators_linked : t.CreatorsLinked
  /-- Links and articles refer to subscriptions that exist. -/
  referring : t.Referring
  /-- A message belongs to a session that exists. -/
  sessions_known : ∀ m ∈ t.messages, ∃ s ∈ t.sessions, s.id = m.session
  /-- No two sessions and no two messages share an identifier, deleted ones included. -/
  keyed : t.Keyed
  /-- No two rows of a table share a number. -/
  numbered : t.Numbered

theorem Tables.coherent_empty : Tables.Coherent {} where
  links_unique := List.nodup_nil
  topics_unique := List.nodup_nil
  topics_trimmed := by simp
  creators_linked := by simp [CreatorsLinked]
  referring := referring_empty
  sessions_known := Orderly.empty.known
  keyed := keyed_empty
  numbered := numbered_empty

/-- A call adds new subscriptions with a link of the creator, and keeps those that are there. -/
theorem Tables.CreatorsLinked.perform {t : Tables} (h : t.CreatorsLinked) (r : Request) :
    (r.perform t).2.CreatorsLinked := by
  have earlier : LinkedSince {} t := fun s hs => .inr (h s hs)
  have both := earlier.trans (r.perform_linked t) (.of_grows (r.perform_grows t))
  intro s hs
  rcases both s hs with ⟨s₀, h₀, -⟩ | hlink
  · cases h₀
  · exact hlink

/-- The topic that the call gives to a new subscription has no blanks at its ends. -/
def Request.TrimsTopic (r : Request) : Prop := ∀ topic ∈ r.topic?, Text.trim topic = topic

theorem Request.trimsTopic_of_reader {r : Request} (h : r.access = .reader) : r.TrimsTopic := by
  intro topic htopic
  cases r with
  | createSubscription input now => cases h
  | _ => cases htopic

/-- **One call** keeps the tables coherent. -/
theorem Tables.Coherent.perform {t : Tables} (h : t.Coherent) {r : Request} (trims : r.TrimsTopic) :
    (r.perform t).2.Coherent where
  links_unique := by
    refine (r.perform_edits t).links.nodup (fun a b hkey => ?_) (fun a b hapart hsame => ?_)
      h.links_unique
    · exact congrArg (fun k => (k.2.1, k.2.2.1)) hkey
    · exact hapart (Prod.ext_iff.1 hsame)
  topics_unique :=
    (r.perform_edits t).subscriptions.nodup_open (fun _ _ hkey => congrArg (·.2.2.1) hkey)
      (fun _ _ hapart hactive hsame => hapart ⟨hsame, hactive⟩) h.topics_unique
  topics_trimmed := by
    intro s hs
    rcases r.perform_topics t hs with ⟨s₀, h₀, hsame⟩ | hnew
    · rw [← hsame]
      exact h.topics_trimmed s₀ h₀
    · exact trims _ hnew
  creators_linked := h.creators_linked.perform r
  referring := h.referring.perform r
  sessions_known := by
    have hg := r.perform_grows t
    have known (id : String) (hid : ∃ s ∈ t.sessions, s.id = id) :
        ∃ s ∈ (r.perform t).2.sessions, s.id = id := by
      obtain ⟨s, hs, rfl⟩ := hid
      obtain ⟨s', hs', hkey⟩ :=
        List.mem_map.1 (hg.sessions.keys_prefix.subset (List.mem_map_of_mem hs))
      exact ⟨s', hs', congrArg (·.2.1) hkey⟩
    intro m hm
    rcases r.perform_messages t with ⟨new, -, inserted⟩ | ⟨condition, change, amends, hmessages⟩
    · rw [inserted.messages] at hm
      rcases List.mem_append.1 hm with hm | hm
      · exact known _ (h.sessions_known m hm)
      · obtain ⟨s, hs, hid⟩ := inserted.known
        rw [List.mem_singleton.1 hm]
        exact known _ ⟨s, hs, beq_iff_eq.1 hid⟩
    · rw [hmessages] at hm
      rcases mem_changeWhere.1 hm with ⟨m₀, h₀, -, rfl⟩ | ⟨h₀, -⟩
      · rw [amends.session m₀]
        exact known _ (h.sessions_known m₀ h₀)
      · exact known _ (h.sessions_known m h₀)
  keyed := h.keyed.perform r
  numbered := h.numbered.of_grows (r.perform_grows t)

/-- Calls that give only trimmed topics keep the tables coherent. -/
theorem Trace.coherent {ι : Type} {history : List (Event ι)} {t t' : Tables}
    (trace : Trace t history t') (first : t.Coherent)
    (trims : ∀ e ∈ history, e.request.TrimsTopic) : t'.Coherent :=
  trace.invariant first fun e he lawful before =>
    lawful.after_of before (before.perform (trims e he))

end ChatLedger.Store

namespace ChatLedger

open Store

/-- A topic that a service call gives to a new subscription is trimmed. -/
theorem ServiceCall.Writes.trimsTopic {c : ServiceCall} {r : Request} (h : c.Writes r) :
    r.TrimsTopic := by
  intro topic htopic
  cases r with
  | createSubscription input now =>
    cases htopic
    cases c with
    | membership call =>
      cases call with
      | subscribe user topic description clock' =>
        obtain ⟨rfl, -⟩ := h
        exact Text.trim_trim topic
      | _ => cases h
    | chat call => cases call <;> cases h
    | _ => cases h
  | _ => cases htopic

variable {ι : Type} [DecidableEq ι]

/-- All topics that are given in a run are trimmed. -/
theorem Store.World.trimsTopic_of_mem {settings : ι → Settings} {calls : ι → ServiceCall}
    {schedule : List (Turn ι)} {e : Event ι}
    (he : e ∈ ((World.mk {} (fun i => (calls i).program (settings i)) []).run schedule).history) :
    e.request.TrimsTopic := by
  rcases World.asks_of_mem (fun i => (calls i).asks_writes (settings i)) he with hread | hwrites
  · exact Request.trimsTopic_of_reader hread
  · exact hwrites.trimsTopic

/-- Calls of the services that run at the same time keep the tables coherent. -/
theorem Store.World.coherent_run (settings : ι → Settings) (calls : ι → ServiceCall)
    (schedule : List (Turn ι)) :
    ((World.mk {} (fun i => (calls i).program (settings i)) []).run schedule).tables.Coherent :=
  (World.trace_run {} _ schedule).coherent Tables.coherent_empty fun _ he =>
    World.trimsTopic_of_mem he

/-- **The store stays coherent.** Any calls of the services run at the same time on an empty store,
and any of their store calls may fail. At every moment

1. links, active topics and identifiers are unique, topics are trimmed, every creator is linked,
   and what is referred to exists;
2. and at every later moment all rows are still there, at their places, with the columns that say
   which record they keep: number, identifier, owner and time of a session; number, identifier,
   session, role and time of a message; number, creator, topic and time of a subscription; number,
   user, subscription and time of a link; and all of an article but its state. -/
theorem store_stays_coherent (settings : ι → Settings) (calls : ι → ServiceCall)
    (earlier later : List (Turn ι)) :
    let w := (World.mk {} (fun i => (calls i).program (settings i)) []).run earlier
    w.tables.Coherent ∧ w.tables.Extends (w.run later).tables := by
  intro w
  obtain ⟨events, -, onward⟩ := w.trace_onward later
  exact ⟨World.coherent_run settings calls earlier, onward.extends⟩

end ChatLedger
