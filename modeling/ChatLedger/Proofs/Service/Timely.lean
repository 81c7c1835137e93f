import ChatLedger.Proofs.Service.Coherence
import ChatLedger.Proofs.Store.Legible

/-!
# Calls with times that are read back

1. `ServiceCall.Timely`: the times that a call reads, and the date of an article that it brings, lie
   in the years 0 to 9999. `ServiceCall.Writes.readable`: then all that the call writes is read back.
2. `World.legible_run`: whatever timely calls are made at the same time, and whichever of their
   store calls fail, all rows are legible at every moment.
-/

namespace ChatLedger

open Store Time Operation

/-- The times that a call is given: those that it reads, and the date of an article. -/
def ServiceCall.times : ServiceCall → List Instant
  | .createArticle _ article now => now :: article.publishedAt.toList
  | c => c.readings

/-- All times of the call lie in the years 0 to 9999. -/
def ServiceCall.Timely (c : ServiceCall) : Prop := ∀ t ∈ c.times, t.HasFourDigitYear

instance (c : ServiceCall) : Decidable c.Timely :=
  inferInstanceAs (Decidable (∀ t ∈ c.times, t.HasFourDigitYear))

/-- A change of the chat service writes a time that its call reads. -/
theorem ChatCall.Writes.times {c : ChatCall} {r : Request} (h : c.Writes r) :
    ∀ t ∈ r.times, t ∈ c.readings := by
  cases c <;> cases r <;> first
    | exact h.elim
    | simp_all [ChatCall.Writes, Request.times, ChatCall.readings, Messages.ofInput]

/-- A change of the membership service writes a time that its call reads. -/
theorem MembershipCall.Writes.times {c : MembershipCall} {r : Request} (h : c.Writes r) :
    ∀ t ∈ r.times, t ∈ c.readings := by
  cases c <;> cases r <;> first
    | exact h.elim
    | simp_all [MembershipCall.Writes, Request.times, MembershipCall.readings]

/-- **All that a timely call writes** is read back. -/
theorem ServiceCall.Writes.readable {c : ServiceCall} {r : Request} (h : c.Writes r)
    (timely : c.Timely) : r.Readable := by
  intro t ht
  cases c with
  | chat call => exact timely t (ChatCall.Writes.times h t ht)
  | membership call => exact timely t (MembershipCall.Writes.times h t ht)
  | createArticle id article now =>
    cases r with
    | insertArticle id' article' now' =>
      obtain ⟨-, rfl, rfl⟩ := h
      exact timely t ht
    | _ => cases h
  | deleteArticle id now =>
    cases r with
    | deleteArticle id' now' =>
      obtain ⟨-, rfl⟩ := h
      exact timely t ht
    | _ => cases h
  | _ => cases h

theorem Store.Request.SparesChat.chatTimes {r : Request} (h : r.SparesChat) : r.chatTimes = [] := by
  cases r <;> first | rfl | cases h

/-- The times of sessions and messages are those of calls. -/
theorem ServiceCall.Writes.chatTimes {c : ServiceCall} {r : Request} (h : c.Writes r) :
    ∀ t ∈ r.chatTimes, t ∈ c.readings := by
  intro t ht
  have spared (hr : r.SparesChat) : t ∈ c.readings := by
    rw [hr.chatTimes] at ht
    cases ht
  cases c with
  | chat call => exact ChatCall.Writes.times h t (r.chatTimes_subset ht)
  | membership call => exact spared (MembershipCall.Writes.sparesChat h)
  | createArticle id article now => cases r <;> first | exact spared trivial | cases h
  | deleteArticle id now => cases r <;> first | exact spared trivial | cases h
  | _ => cases h

section Runs

variable {ι : Type} [DecidableEq ι] {settings : ι → Settings} {calls : ι → ServiceCall}
  (timely : ∀ i, (calls i).Timely)

include timely

/-- All that is written in a run of timely calls is read back. -/
theorem Store.World.readable_of_mem {schedule : List (Turn ι)} {e : Event ι}
    (he : e ∈ ((World.mk {} (fun i => (calls i).program (settings i)) []).run schedule).history) :
    e.request.Readable := by
  rcases World.asks_of_mem (fun i => (calls i).asks_writes (settings i)) he with hread | hwrites
  · exact Request.readable_of_reader hread
  · exact hwrites.readable (timely e.process)

/-- **Timely calls leave legible rows**, at every moment and whichever of their store calls fail. -/
theorem Store.World.legible_run (schedule : List (Turn ι)) :
    ((World.mk {} (fun i => (calls i).program (settings i)) []).run schedule).tables.Legible :=
  (World.trace_run {} _ schedule).legible Tables.legible_empty fun _ he =>
    World.readable_of_mem timely he

end Runs

/-- **Calls at times that are read back leave legible sessions and messages.** The dates of articles do
not count. -/
theorem Store.World.chatLegible_run {ι : Type} [DecidableEq ι] (settings : ι → Settings)
    {calls : ι → ServiceCall} (clocks : ∀ i, ∀ now ∈ (calls i).readings, now.HasFourDigitYear)
    (schedule : List (Turn ι)) :
    ((World.mk {} (fun i => (calls i).program (settings i)) []).run schedule).tables.ChatLegible :=
  (World.trace_run {} _ schedule).chatLegible Tables.legible_empty.chat fun e he t ht => by
    rcases World.asks_of_mem (fun i => (calls i).asks_writes (settings i)) he with hread | hwrites
    · rw [Request.chatTimes_of_reader hread] at ht
      cases ht
    · exact clocks e.process t (hwrites.chatTimes t ht)

end ChatLedger
