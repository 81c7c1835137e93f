import ChatLedger.Proofs.Validation
import ChatLedger.Service.Messages

/-!
# What the chat service accepts

The rules for sessions, messages and updates of messages, each as a structure of conditions. The
checks of the service pass what keeps to all of them, and refuse everything else as invalid.
-/

namespace ChatLedger

/-- The input for a session keeps to the rules. -/
structure NewSession.Acceptable (input : NewSession) : Prop where
  topic : Text.Within Limit.sessionTopic input.topic
  model : ∀ model ∈ input.model, Text.Within Limit.sessionModel model

/-- The input for a message keeps to the rules. -/
structure NewMessage.Acceptable (settings : Settings) (input : NewMessage) : Prop where
  content : Text.Within settings.limits.messageChars.toNat input.content
  cost : IsAmount input.cost
  errorText : ∀ text ∈ input.errorText, text.length ≤ Limit.errorText

/-- The update of a message keeps to the rules. -/
structure MessageUpdate.Acceptable (settings : Settings) (u : MessageUpdate) : Prop where
  something : u.isEmpty = false
  content : ∀ content ∈ u.content, Text.Within settings.limits.messageChars.toNat content
  cost : ∀ cost ∈ u.cost, IsAmount cost
  errorText : ∀ text ∈ u.errorText, text.length ≤ Limit.errorText

theorem MessageUpdate.acceptable_iff {settings : Settings} {u : MessageUpdate} :
    u.Acceptable settings ↔ u.isEmpty = false ∧
      (∀ content ∈ u.content, Text.Within settings.limits.messageChars.toNat content) ∧
      (∀ cost ∈ u.cost, IsAmount cost) ∧ ∀ text ∈ u.errorText, text.length ≤ Limit.errorText :=
  ⟨fun h => ⟨h.something, h.content, h.cost, h.errorText⟩,
    fun ⟨something, content, cost, errorText⟩ => ⟨something, content, cost, errorText⟩⟩

namespace Messages

open Validation

theorem validateErrorText_decides (text? : Option String) :
    Decides (validateErrorText text?) (∀ text ∈ text?, text.length ≤ Limit.errorText) () := by
  cases text? with
  | none => exact decides_pure.congr (by simp)
  | some text =>
    exact (boundedText_decides "error_msg" text Limit.errorText).congr (by simp)

/-- **New messages** pass that keep to the rules. -/
theorem validateNew_decides (settings : Settings) (input : NewMessage) :
    Decides (validateNew settings input) (input.Acceptable settings) () := by
  have content := requiredText_decides "content" input.content settings.limits.messageChars.toNat
  have cost := cost_decides "cost" input.cost
  refine (content.andThen (cost.andThen (validateErrorText_decides input.errorText))).congr ?_
  exact ⟨fun ⟨content, cost, errorText⟩ => ⟨content, cost, errorText⟩,
    fun h => ⟨h.content, h.cost, h.errorText⟩⟩

/-- **Updates of messages** pass that keep to the rules. -/
theorem validateUpdate_decides (settings : Settings) (u : MessageUpdate) :
    Decides (validateUpdate settings u) (u.Acceptable settings) () := by
  have something := require_decides (!u.isEmpty) "message update has no fields"
  have errorText := validateErrorText_decides u.errorText
  unfold validateUpdate
  cases hcontent : u.content with
  | none =>
    cases hcost : u.cost with
    | none =>
      refine (something.andThen errorText).congr ?_
      simp [MessageUpdate.acceptable_iff, hcontent, hcost]
    | some x =>
      refine (something.andThen ((cost_decides "cost" x).andThen errorText)).congr ?_
      simp [MessageUpdate.acceptable_iff, hcontent, hcost]
  | some text =>
    have content := requiredText_decides "content" text settings.limits.messageChars.toNat
    cases hcost : u.cost with
    | none =>
      refine (something.andThen (content.andThen errorText)).congr ?_
      simp [MessageUpdate.acceptable_iff, hcontent, hcost]
    | some x =>
      have cost := cost_decides "cost" x
      refine (something.andThen (content.andThen (cost.andThen errorText))).congr ?_
      simp [MessageUpdate.acceptable_iff, hcontent, hcost]

end Messages

end ChatLedger
