import ChatLedger.Paging

/-!
# Settings

What a user can set. Every value has a default, so that an empty document is a complete one.
-/

namespace ChatLedger

/-- Where the store is and how it is opened. -/
structure DatabaseSettings where
  /-- The name of the file in the data directory. -/
  fileName : String := "parley.db"
  maxReaders : UInt32 := 8
  busyTimeoutMs : UInt64 := 5000
  deriving Repr, DecidableEq

/-- The names of the fields in documents. -/
def DatabaseSettings.fieldNames : List String :=
  ["file_name", "max_readers", "busy_timeout_ms"]

instance : Wire DatabaseSettings where
  encode s := .record [
    ("file_name", Wire.encode s.fileName),
    ("max_readers", Wire.encode s.maxReaders),
    ("busy_timeout_ms", Wire.encode s.busyTimeoutMs)]
  decode v := do
    let [name, readers, timeout] ← v.slots? DatabaseSettings.fieldNames | none
    let defaults : DatabaseSettings := {}
    return {
      fileName := ← name.withDefault defaults.fileName
      maxReaders := ← readers.withDefault defaults.maxReaders
      busyTimeoutMs := ← timeout.withDefault defaults.busyTimeoutMs }

/-- The size of a page for each kind of list, where a caller asks for none. -/
structure PagingSettings where
  sessions : UInt32 := 10
  messages : UInt32 := 20
  subscriptions : UInt32 := 10
  articles : UInt32 := 10
  max : UInt32 := 100
  deriving Repr, DecidableEq

/-- The names of the fields in documents. -/
def PagingSettings.fieldNames : List String :=
  ["session_page_size", "message_page_size", "subscription_page_size", "article_page_size",
    "max_page_size"]

instance : Wire PagingSettings where
  encode s := .record [
    ("session_page_size", Wire.encode s.sessions),
    ("message_page_size", Wire.encode s.messages),
    ("subscription_page_size", Wire.encode s.subscriptions),
    ("article_page_size", Wire.encode s.articles),
    ("max_page_size", Wire.encode s.max)]
  decode v := do
    let [sessions, messages, subscriptions, articles, max] ←
        v.slots? PagingSettings.fieldNames
      | none
    let defaults : PagingSettings := {}
    return {
      sessions := ← sessions.withDefault defaults.sessions
      messages := ← messages.withDefault defaults.messages
      subscriptions := ← subscriptions.withDefault defaults.subscriptions
      articles := ← articles.withDefault defaults.articles
      max := ← max.withDefault defaults.max }

/-- The kinds of lists that are handed out in pages. -/
inductive Listing where
  | sessions
  | messages
  | subscriptions
  | articles
  deriving Repr, DecidableEq

/-- The size of a page of the given kind of list. -/
def PagingSettings.sizeOf (s : PagingSettings) : Listing → UInt32
  | .sessions => s.sessions
  | .messages => s.messages
  | .subscriptions => s.subscriptions
  | .articles => s.articles

/-- What a caller who asks for this page of a list gets. -/
def PagingSettings.resolve (s : PagingSettings) (listing : Listing) (page size : Option UInt32) :
    PageRequest :=
  PageRequest.resolve page size (s.sizeOf listing) s.max

/-- How sessions are opened. -/
structure SessionSettings where
  /-- The model of a session that names none. -/
  model : String := "gpt-3.5-turbo"
  deriving Repr, DecidableEq

/-- The names of the fields in documents. -/
def SessionSettings.fieldNames : List String :=
  ["default_model"]

instance : Wire SessionSettings where
  encode s := .record [("default_model", Wire.encode s.model)]
  decode v := do
    let [model] ← v.slots? SessionSettings.fieldNames | none
    return { model := ← model.withDefault ({} : SessionSettings).model }

/-- How memberships are changed. -/
structure SubscriptionSettings where
  /-- The number of attempts before a lost race is reported. -/
  attempts : UInt32 := 3
  deriving Repr, DecidableEq

/-- The names of the fields in documents. -/
def SubscriptionSettings.fieldNames : List String :=
  ["max_subscribe_attempts"]

instance : Wire SubscriptionSettings where
  encode s := .record [("max_subscribe_attempts", Wire.encode s.attempts)]
  decode v := do
    let [attempts] ← v.slots? SubscriptionSettings.fieldNames | none
    return { attempts := ← attempts.withDefault ({} : SubscriptionSettings).attempts }

/-- Limits that a user can set. -/
structure LimitSettings where
  /-- The number of characters of the longest message. -/
  messageChars : UInt64 := 100000
  deriving Repr, DecidableEq

/-- The names of the fields in documents. -/
def LimitSettings.fieldNames : List String :=
  ["max_message_chars"]

instance : Wire LimitSettings where
  encode s := .record [("max_message_chars", Wire.encode s.messageChars)]
  decode v := do
    let [chars] ← v.slots? LimitSettings.fieldNames | none
    return { messageChars := ← chars.withDefault ({} : LimitSettings).messageChars }

/-- How the program reports on itself. -/
structure TelemetrySettings where
  /-- Spans are exported. -/
  otel : Bool := false
  deriving Repr, DecidableEq

/-- The names of the fields in documents. -/
def TelemetrySettings.fieldNames : List String :=
  ["otel"]

instance : Wire TelemetrySettings where
  encode s := .record [("otel", Wire.encode s.otel)]
  decode v := do
    let [otel] ← v.slots? TelemetrySettings.fieldNames | none
    return { otel := ← otel.withDefault ({} : TelemetrySettings).otel }

/-- All settings, one section for each part of the program. -/
structure Settings where
  database : DatabaseSettings := {}
  paging : PagingSettings := {}
  sessions : SessionSettings := {}
  subscriptions : SubscriptionSettings := {}
  limits : LimitSettings := {}
  telemetry : TelemetrySettings := {}
  deriving Repr, DecidableEq

instance : Inhabited Settings := ⟨{}⟩

instance : Wire Settings where
  encode s := .record [
    ("database", Wire.encode s.database),
    ("pagination", Wire.encode s.paging),
    ("sessions", Wire.encode s.sessions),
    ("subscriptions", Wire.encode s.subscriptions),
    ("limits", Wire.encode s.limits),
    ("telemetry", Wire.encode s.telemetry)]
  decode v := do
    let [database, paging, sessions, subscriptions, limits, telemetry] ←
        v.slots? ["database", "pagination", "sessions", "subscriptions", "limits", "telemetry"]
      | none
    return {
      database := ← database.withDefault {}
      paging := ← paging.withDefault {}
      sessions := ← sessions.withDefault {}
      subscriptions := ← subscriptions.withDefault {}
      limits := ← limits.withDefault {}
      telemetry := ← telemetry.withDefault {} }

end ChatLedger
