import ChatLedger.Proofs.Chat.MessageUpdates
import ChatLedger.Proofs.Service.Accepted

/-!
# Updates of disjoint fields

Two updates of one message that supply no field in common, applied in either order.

1. `MessageRow.Clean`: a message that came through has no error text. The services keep it so.
2. Content, tokens, cost and status do not depend on the order. The error text does in one case
   (`MessageRow.Overrules`): the message came through, one update marks it as failed, and the other
   supplies the text. Before it is marked, the text is not kept.
3. `disjoint_updates_persist`: in all other cases both updates persist whatever their order, and in
   this one they do so if the message is marked first.
-/

namespace ChatLedger

open Store Time

/-- The updates supply no field in common. -/
structure MessageUpdate.Disjoint (u v : MessageUpdate) : Prop where
  content : u.content = none ∨ v.content = none
  tokens : u.tokens = none ∨ v.tokens = none
  cost : u.cost = none ∨ v.cost = none
  status : u.status = none ∨ v.status = none
  errorText : u.errorText = none ∨ v.errorText = none

theorem MessageUpdate.Disjoint.symm {u v : MessageUpdate} (h : u.Disjoint v) : v.Disjoint u :=
  ⟨h.content.symm, h.tokens.symm, h.cost.symm, h.status.symm, h.errorText.symm⟩

namespace Store

namespace MessageRow

variable {r : MessageRow} {u v : MessageUpdate}

/-! ## Rows -/

/-- A message that came through has no error text. -/
def Clean (r : MessageRow) : Prop :=
  r.status = Vocabulary.word MessageStatus.normal → r.errorText = none

/-- The message came through, the first update marks it as failed, and the second supplies the error
text. -/
structure Overrules (r : MessageRow) (u v : MessageUpdate) : Prop where
  normal : r.status = Vocabulary.word MessageStatus.normal
  marks : u.status = some .error
  text : v.errorText ≠ none

/-- Every field that the update supplies has the supplied value, except for the error text of a
message that came through. -/
structure Reflects (r : MessageRow) (u : MessageUpdate) : Prop where
  content : ∀ content ∈ u.content, r.content = content
  tokens : ∀ n ∈ u.tokens, r.tokens = n.toNat
  cost : ∀ x ∈ u.cost, (r.cost == x) = true
  status : ∀ s ∈ u.status, r.status = Vocabulary.word s
  errorText : r.status ≠ Vocabulary.word MessageStatus.normal →
    ∀ text ∈ u.errorText, r.errorText = some text

theorem clean_update (u : MessageUpdate) (now : Instant) : (r.update u now).Clean :=
  fun h => if_pos h

/-- An update is reflected right after it. -/
theorem reflects_update (finite : ∀ x ∈ u.cost, x.isFinite = true) (now : Instant) :
    (r.update u now).Reflects u := by
  constructor
  · rintro content h
    simp [update, Option.mem_def.1 h]
  · rintro n h
    simp [update, Option.mem_def.1 h]
  · rintro x h
    have hx := number_of_isFinite (finite x h)
    simpa [update, Option.mem_def.1 h, storedAmount?_of_number hx] using storedAmount_beq hx
  · rintro s h
    simp [update, Option.mem_def.1 h]
  · rintro hfailed text h
    simpa [update, Option.mem_def.1 h] using hfailed

/-- A message that came through and then has failed was marked. -/
theorem marks_of_failed {now : Instant} (hnormal : r.status = Vocabulary.word MessageStatus.normal)
    (hfailed : (r.update u now).status ≠ Vocabulary.word MessageStatus.normal) :
    u.status = some .error := by
  cases hu : u.status with
  | none => exact absurd (by simp [update, hu, hnormal]) hfailed
  | some s =>
    cases s with
    | normal => exact absurd (by simp [update, hu]) hfailed
    | error => rfl

/-- What a message that has failed keeps of its error text. -/
theorem errorText_update_of_failed {now : Instant}
    (hfailed : (r.update u now).status ≠ Vocabulary.word MessageStatus.normal) :
    (r.update u now).errorText = (u.errorText <|> r.errorText) := if_neg hfailed

/-- A later update of other fields leaves it so, unless it is the one that marks the message. -/
theorem Reflects.update (h : r.Reflects u) (disjoint : u.Disjoint v) (kept : ¬ r.Overrules v u)
    (now : Instant) : (r.update v now).Reflects u := by
  constructor
  · rintro content hcontent
    have hv : v.content = none := disjoint.content.resolve_left (by simp [Option.mem_def.1 hcontent])
    simpa [MessageRow.update, hv] using h.content content hcontent
  · rintro n htokens
    have hv : v.tokens = none := disjoint.tokens.resolve_left (by simp [Option.mem_def.1 htokens])
    simpa [MessageRow.update, hv] using h.tokens n htokens
  · rintro x hcost
    have hv : v.cost = none := disjoint.cost.resolve_left (by simp [Option.mem_def.1 hcost])
    simpa [MessageRow.update, hv] using h.cost x hcost
  · rintro s hstatus
    have hv : v.status = none := disjoint.status.resolve_left (by simp [Option.mem_def.1 hstatus])
    simpa [MessageRow.update, hv] using h.status s hstatus
  · rintro hfailed text htext
    have hsome : u.errorText ≠ none := by simp [Option.mem_def.1 htext]
    have hv : v.errorText = none := disjoint.errorText.resolve_left hsome
    rw [errorText_update_of_failed hfailed, hv]
    exact h.errorText (fun hnormal => kept ⟨hnormal, marks_of_failed hnormal hfailed, hsome⟩) text
      htext

/-! ## Two updates -/

/-- An update of other fields does not change whether the next one marks the message. -/
theorem Overrules.of_update {now : Instant} (h : (r.update u now).Overrules v u)
    (disjoint : u.Disjoint v) : r.Overrules v u := by
  have hu : u.status = none := disjoint.status.resolve_right (by simp [h.marks])
  exact ⟨by simpa [update, hu] using h.normal, h.marks, h.text⟩

/-- Both updates are reflected at the end, unless the later one marks the message. -/
theorem reflects_both (disjoint : u.Disjoint v) (hu : ∀ x ∈ u.cost, x.isFinite = true)
    (hv : ∀ x ∈ v.cost, x.isFinite = true) (kept : ¬ r.Overrules v u) (a b : Instant) :
    ((r.update u a).update v b).Reflects u ∧ ((r.update u a).update v b).Reflects v :=
  ⟨(reflects_update hu a).update disjoint (fun h => kept (h.of_update disjoint)) b,
    reflects_update hv b⟩

/-- The rows agree in all that updates supply, but for the error text. -/
structure Agrees (r r' : MessageRow) : Prop where
  content : r.content = r'.content
  tokens : r.tokens = r'.tokens
  cost : r.cost = r'.cost
  status : r.status = r'.status

/-- Content, tokens, cost and status do not depend on the order of two updates. -/
theorem agrees_update_update (disjoint : u.Disjoint v) (a b c d : Instant) :
    ((r.update u a).update v b).Agrees ((r.update v c).update u d) := by
  constructor
  · rcases disjoint.content with h | h <;> simp [update, h]
  · rcases disjoint.tokens with h | h <;> simp [update, h]
  · rcases disjoint.cost with h | h <;> simp [update, h]
  · rcases disjoint.status with h | h <;> simp [update, h]

/-- An error text that neither update supplies is kept by a message that has failed. -/
theorem errorText_unsupplied (clean : r.Clean) (disjoint : u.Disjoint v) {a b : Instant}
    (hu : u.errorText = none) (hv : v.errorText = none)
    (hfailed : ((r.update u a).update v b).status ≠ Vocabulary.word MessageStatus.normal) :
    ((r.update u a).update v b).errorText = r.errorText := by
  rw [errorText_update_of_failed hfailed, hv]
  show (r.update u a).errorText = r.errorText
  by_cases hnormal : (r.update u a).status = Vocabulary.word MessageStatus.normal
  · have hmarks := marks_of_failed hnormal hfailed
    have hstatus : u.status = none := disjoint.status.resolve_right (by simp [hmarks])
    have hold : r.status = Vocabulary.word MessageStatus.normal := by
      simpa [update, hstatus] using hnormal
    rw [clean_update u a hnormal, clean hold]
  · rw [errorText_update_of_failed hnormal, hu]
    rfl

/-- Where neither update overrules the other, the error text does not depend on their order. -/
theorem errorText_update_update (clean : r.Clean) (disjoint : u.Disjoint v)
    (hu : ∀ x ∈ u.cost, x.isFinite = true) (hv : ∀ x ∈ v.cost, x.isFinite = true)
    (kept : ¬ r.Overrules v u) (kept' : ¬ r.Overrules u v) (a b c d : Instant) :
    ((r.update u a).update v b).errorText = ((r.update v c).update u d).errorText := by
  have hstatus := (agrees_update_update (r := r) disjoint a b c d).status
  by_cases hnormal : ((r.update u a).update v b).status = Vocabulary.word MessageStatus.normal
  · rw [clean_update v b hnormal, clean_update u d (hstatus ▸ hnormal)]
  · have hnormal' : ((r.update v c).update u d).status ≠ Vocabulary.word MessageStatus.normal :=
      hstatus ▸ hnormal
    obtain ⟨first, second⟩ := reflects_both disjoint hu hv kept a b
    obtain ⟨second', first'⟩ := reflects_both disjoint.symm hv hu kept' c d
    cases htext : u.errorText with
    | some text => rw [first.errorText hnormal text htext, first'.errorText hnormal' text htext]
    | none =>
      cases htext' : v.errorText with
      | some text =>
        rw [second.errorText hnormal text htext', second'.errorText hnormal' text htext']
      | none =>
        rw [errorText_unsupplied clean disjoint htext htext' hnormal,
          errorText_unsupplied clean disjoint.symm htext' htext hnormal']

/-- An error text that comes before the mark is lost. -/
theorem Overrules.errorText_eq_none (h : r.Overrules u v) (disjoint : u.Disjoint v)
    (c d : Instant) : ((r.update v c).update u d).errorText = none := by
  have hstatus : v.status = none := disjoint.status.resolve_left (by simp [h.marks])
  have htext : u.errorText = none := disjoint.errorText.resolve_right h.text
  have hnormal : (r.update v c).status = Vocabulary.word MessageStatus.normal := by
    simpa [update, hstatus] using h.normal
  by_cases hend : ((r.update v c).update u d).status = Vocabulary.word MessageStatus.normal
  · exact clean_update u d hend
  · rw [errorText_update_of_failed hend, htext, clean_update v c hnormal]
    rfl

/-- All but the error text of an earlier update persists in any case. -/
theorem reflects_but_text (disjoint : u.Disjoint v) (hu : ∀ x ∈ u.cost, x.isFinite = true)
    (a b : Instant) : ((r.update u a).update v b).Reflects { u with errorText := none } := by
  have hreflects : (r.update u a).Reflects { u with errorText := none } :=
    { reflects_update hu a with errorText := by simp }
  have disjoint' : MessageUpdate.Disjoint { u with errorText := none } v :=
    { disjoint with errorText := .inl rfl }
  exact hreflects.update disjoint' (fun hover => hover.text rfl) b

end MessageRow

/-! ## Tables -/

variable {t : Tables}

/-- A change that the services make keeps messages that came through without error text. -/
theorem Request.perform_clean {settings : Settings} {c : ServiceCall} {q : Request}
    (accepted : q.Accepted settings c) (h : ∀ m ∈ t.messages, m.Clean) :
    ∀ m ∈ (q.perform t).2.messages, m.Clean := by
  refine q.perform_forall_messages h ?_ ?_ fun _ _ hr => hr
  · rintro row m rfl hnormal
    exact accepted.plain (MessageStatus.word_inj hnormal)
  · rintro id u now - r -
    exact MessageRow.clean_update u now

/-- **Messages that came through have no error text**, at every moment of a run of calls. -/
theorem World.clean_run {ι : Type} [DecidableEq ι] (settings : ι → Settings)
    (calls : ι → ServiceCall) (schedule : List (Turn ι)) :
    ∀ m ∈ ((World.mk {} (fun i => (calls i).program (settings i)) []).run schedule).tables.messages,
      m.Clean :=
  (World.trace_run {} _ schedule).invariant (P := fun t => ∀ m ∈ t.messages, m.Clean) (by simp)
    fun _ he lawful before => lawful.after_of (P := fun t => ∀ m ∈ t.messages, m.Clean) before
      (Request.perform_clean (World.accepted_of_mem he) before)

/-- The tables after an update of a message, and then another one. -/
def Tables.updatedTwice (t : Tables) (id : Uuid) (u : MessageUpdate) (a : Instant)
    (v : MessageUpdate) (b : Instant) : Tables :=
  ((Request.updateMessage id v b).perform ((Request.updateMessage id u a).perform t).2).2

/-- Two updates of a live message change its row by the one and then by the other. -/
theorem Tables.Keyed.updatedTwice (h : t.Keyed) {i : Nat} {r : MessageRow} {id : Uuid}
    (hr : t.messages[i]? = some r) (hid : r.has id = true) (hlive : r.isLive = true)
    (written : r.Written) (u v : MessageUpdate) (a b : Instant) :
    (t.updatedTwice id u a v b).messages[i]? = some ((r.update u a).update v b) := by
  have hlt : i < t.messages.length := (List.getElem?_eq_some_iff.1 hr).1
  have hfirst := h.perform_updateMessage hr hid hlive (written.update u a).status
  have hplace : ((Request.updateMessage id u a).perform t).2.messages[i]? =
      some (r.update u a) := by
    rw [hfirst]
    simp [hlt]
  have hsecond := (h.perform (.updateMessage id u a)).perform_updateMessage hplace hid hlive
    ((written.update u a).update v b).status
  unfold Tables.updatedTwice
  rw [hsecond]
  rw [hfirst]
  simp [hlt]

end Store

/-- **Updates of disjoint fields persist.** Calls of all services run at the same time on an empty
store, and any of their store calls may fail. Two updates that the service accepts and that supply no
field in common are made to a live message in either order. Content, tokens, cost and status do not
depend on the order. Unless one update marks a message as failed that came through, while the other
supplies the error text, the text does not depend on it either, and both updates persist. Otherwise
they persist if the mark comes first; if the text comes first, it is all that is lost. -/
theorem disjoint_updates_persist {ι : Type} [DecidableEq ι] (settings : ι → Settings)
    (calls : ι → ServiceCall) (schedule : List (Turn ι)) :
    let t := ((World.mk {} (fun i => (calls i).program (settings i)) []).run schedule).tables
    ∀ (i : Nat) (r : MessageRow) (id : Uuid), t.messages[i]? = some r → r.has id = true →
      r.isLive = true → ∀ (s : Settings) (u v : MessageUpdate),
        Messages.validateUpdate s u = .ok () → Messages.validateUpdate s v = .ok () →
        u.Disjoint v → ∀ a b c d : Instant, ∃ r₁ r₂,
          (t.updatedTwice id u a v b).messages[i]? = some r₁ ∧
          (t.updatedTwice id v c u d).messages[i]? = some r₂ ∧ r₁.Agrees r₂ ∧
          (¬ r.Overrules u v → ¬ r.Overrules v u →
            r₁.errorText = r₂.errorText ∧ r₁.Reflects u ∧ r₁.Reflects v ∧
              r₂.Reflects u ∧ r₂.Reflects v) ∧
          (r.Overrules u v →
            r₁.Reflects u ∧ r₁.Reflects v ∧ r₂.Reflects u ∧
              r₂.Reflects { v with errorText := none } ∧ r₂.errorText = none) := by
  intro t i r id hr hid hlive s u v hu hv disjoint a b c d
  have trace := World.trace_run {} (fun i => (calls i).program (settings i)) schedule
  have keyed : t.Keyed := trace.keyed Tables.keyed_empty
  have hmem := List.mem_of_getElem? hr
  have written : r.Written := trace.written (by simp) r hmem
  have clean : r.Clean := World.clean_run settings calls schedule r hmem
  have finite {w : MessageUpdate} (hw : Messages.validateUpdate s w = .ok ()) :
      ∀ x ∈ w.cost, x.isFinite = true := fun x hx =>
    (((Messages.validateUpdate_decides s w).of_ok hw).1.cost x hx).finite
  refine ⟨_, _, keyed.updatedTwice hr hid hlive written u v a b,
    keyed.updatedTwice hr hid hlive written v u c d, r.agrees_update_update disjoint a b c d, ?_, ?_⟩
  · intro kept' kept
    obtain ⟨hfirst, hsecond⟩ := r.reflects_both disjoint (finite hu) (finite hv) kept a b
    obtain ⟨hsecond', hfirst'⟩ := r.reflects_both disjoint.symm (finite hv) (finite hu) kept' c d
    exact ⟨r.errorText_update_update clean disjoint (finite hu) (finite hv) kept kept' a b c d,
      hfirst, hsecond, hfirst', hsecond'⟩
  · intro hover
    have kept : ¬ r.Overrules v u := fun h => by
      have hnone := disjoint.status.resolve_left (by simp [hover.marks])
      rw [h.marks] at hnone
      cases hnone
    obtain ⟨hfirst, hsecond⟩ := r.reflects_both disjoint (finite hu) (finite hv) kept a b
    exact ⟨hfirst, hsecond, MessageRow.reflects_update (finite hu) d,
      r.reflects_but_text disjoint.symm (finite hv) c d, hover.errorText_eq_none disjoint c d⟩

/-- A message that came through, as the services leave it. -/
def plainMessage : Tables :=
  ((World.mk {} (fun i => (ServiceCall.chat (firstMessage i)).program {}) []).run
    firstMessageTurns).tables

theorem plainMessage_row : ∃ r, plainMessage.messages[0]? = some r ∧ r.has (.ofNat 2) = true ∧
    r.isLive = true := by
  obtain ⟨r, hr, hmet⟩ : ∃ r, plainMessage.messages[0]? = some r ∧
      (r.has (.ofNat 2) && r.isLive) = true := by
    refine Option.map_eq_some_iff.1 (?_ : _ = some true)
    decide +kernel
  exact ⟨r, hr, Bool.and_eq_true_iff.1 hmet⟩

/-- A message is marked as failed with its error text, and its cost is set. -/
theorem disjoint_updates_persist_on_failure :
    let u : MessageUpdate := { status := some .error, errorText := some "lost" }
    let v : MessageUpdate := { cost := some 1.5 }
    ∃ r r₁ r₂, plainMessage.messages[0]? = some r ∧ r.has (.ofNat 2) = true ∧ r.isLive = true ∧
      Messages.validateUpdate {} u = .ok () ∧ Messages.validateUpdate {} v = .ok () ∧
      u.Disjoint v ∧ ¬ r.Overrules u v ∧ ¬ r.Overrules v u ∧
      (plainMessage.updatedTwice (.ofNat 2) u .start2026 v .year10000).messages[0]? = some r₁ ∧
      (plainMessage.updatedTwice (.ofNat 2) v .start2026 u .start2026).messages[0]? = some r₂ ∧
      r₁.Agrees r₂ ∧ r₁.errorText = r₂.errorText ∧ r₁.Reflects u ∧ r₁.Reflects v ∧
      r₂.Reflects u ∧ r₂.Reflects v := by
  intro u v
  obtain ⟨r, hr, hid, hlive⟩ := plainMessage_row
  have hu : Messages.validateUpdate {} u = .ok () := by decide +kernel
  have hv : Messages.validateUpdate {} v = .ok () := by decide +kernel
  have disjoint : u.Disjoint v := ⟨.inl rfl, .inl rfl, .inl rfl, .inr rfl, .inr rfl⟩
  have kept : ¬ r.Overrules u v := fun h => h.text rfl
  have kept' : ¬ r.Overrules v u := fun h => by cases h.marks
  obtain ⟨r₁, r₂, h₁, h₂, agrees, persist, -⟩ := disjoint_updates_persist (fun _ => {})
    (fun i => .chat (firstMessage i)) firstMessageTurns 0 r (.ofNat 2) hr hid hlive {} u v
    hu hv disjoint .start2026 .year10000 .start2026 .start2026
  exact ⟨r, r₁, r₂, hr, hid, hlive, hu, hv, disjoint, kept, kept', h₁, h₂, agrees,
    persist kept kept'⟩

/-- An error text is supplied before the message is marked as failed, and is lost although the message
has failed in the end. -/
theorem not_disjoint_updates_persist_before_mark :
    let u : MessageUpdate := { status := some .error }
    let v : MessageUpdate := { errorText := some "lost" }
    ∃ r r₁ r₂, plainMessage.messages[0]? = some r ∧ r.has (.ofNat 2) = true ∧ r.isLive = true ∧
      Messages.validateUpdate {} u = .ok () ∧ Messages.validateUpdate {} v = .ok () ∧
      u.Disjoint v ∧
      (plainMessage.updatedTwice (.ofNat 2) u .start2026 v .start2026).messages[0]? = some r₁ ∧
      (plainMessage.updatedTwice (.ofNat 2) v .start2026 u .start2026).messages[0]? = some r₂ ∧
      r₁.errorText ≠ r₂.errorText ∧ ¬ r₂.Reflects v := by
  intro u v
  obtain ⟨r, hr, hid, hlive⟩ := plainMessage_row
  obtain ⟨r₁, h₁, htext⟩ : ∃ r₁,
      (plainMessage.updatedTwice (.ofNat 2) u .start2026 v .start2026).messages[0]? = some r₁ ∧
        r₁.errorText = some "lost" := by
    refine Option.map_eq_some_iff.1 (?_ : _ = some (some "lost"))
    decide +kernel
  obtain ⟨r₂, h₂, hlost⟩ : ∃ r₂,
      (plainMessage.updatedTwice (.ofNat 2) v .start2026 u .start2026).messages[0]? = some r₂ ∧
        (r₂.status, r₂.errorText) = ("error", none) := by
    refine Option.map_eq_some_iff.1 (?_ : _ = some ("error", none))
    decide +kernel
  obtain ⟨hstatus, hnone⟩ := Prod.ext_iff.1 hlost
  refine ⟨r, r₁, r₂, hr, hid, hlive, by decide +kernel, by decide +kernel,
    ⟨.inl rfl, .inl rfl, .inl rfl, .inr rfl, .inl rfl⟩, h₁, h₂, ?_, fun h => ?_⟩
  · rw [htext, show r₂.errorText = none from hnone]
    decide
  · have hkept := h.errorText (by rw [show r₂.status = "error" from hstatus]; decide) "lost" rfl
    rw [show r₂.errorText = none from hnone] at hkept
    cases hkept

end ChatLedger
