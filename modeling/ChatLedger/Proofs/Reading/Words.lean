import ChatLedger.Message
import ChatLedger.Session
import ChatLedger.Subscription

/-!
# Words are read back

The words that rows keep for the states of sessions, messages, subscriptions and links, and for the
roles of messages, name these states and roles.
-/

namespace ChatLedger

/-- Words that are read back are words of one value each. -/
theorem Vocabulary.word_inj {α : Type} [Vocabulary α]
    (reads : ∀ a : α, parse (word a) = .ok a) {a b : α} (h : word a = word b) : a = b := by
  have hparse := congrArg (parse (α := α)) h
  rw [reads, reads] at hparse
  exact Except.ok.inj hparse

theorem SessionStatus.parse_word (s : SessionStatus) :
    Vocabulary.parse (Vocabulary.word s) = .ok s := by
  cases s <;> rfl

theorem MessageRole.parse_word (r : MessageRole) :
    Vocabulary.parse (Vocabulary.word r) = .ok r := by
  cases r <;> rfl

theorem MessageStatus.parse_word (s : MessageStatus) :
    Vocabulary.parse (Vocabulary.word s) = .ok s := by
  cases s <;> rfl

theorem MessageStatus.word_inj {a b : MessageStatus} (h : Vocabulary.word a = Vocabulary.word b) :
    a = b := Vocabulary.word_inj parse_word h

theorem LinkStatus.parse_word (s : LinkStatus) :
    Vocabulary.parse (Vocabulary.word s) = .ok s := by
  cases s <;> rfl

theorem SubscriptionStatus.parse_word (s : SubscriptionStatus) :
    Vocabulary.parse (Vocabulary.word s) = .ok s := by
  cases s <;> rfl

theorem LinkStatus.word_inj {a b : LinkStatus} (h : Vocabulary.word a = Vocabulary.word b) :
    a = b := Vocabulary.word_inj parse_word h

theorem SubscriptionStatus.word_inj {a b : SubscriptionStatus}
    (h : Vocabulary.word a = Vocabulary.word b) : a = b := Vocabulary.word_inj parse_word h

end ChatLedger
