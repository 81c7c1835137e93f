import ChatLedger.Json.Wire

/-!
# Articles

Articles are published under a subscription, for its members to read.
-/

namespace ChatLedger

open Time

/-- An article. -/
structure Article where
  id : Int
  subscription : Int
  title : String
  summary : String
  content : String
  author : String
  publishedAt : Option Instant
  url : String
  keyPoints : String
  journal : String
  readCount : UInt32
  citationCount : UInt32
  rating : Float
  createdAt : Instant
  updatedAt : Instant
  deriving Repr, DecidableEq

instance : Wire Article where
  encode a := .record [
    ("id", Wire.encode a.id),
    ("subscription_id", Wire.encode a.subscription),
    ("title", Wire.encode a.title),
    ("summary", Wire.encode a.summary),
    ("content", Wire.encode a.content),
    ("author", Wire.encode a.author),
    ("published_at", Wire.encode a.publishedAt),
    ("url", Wire.encode a.url),
    ("key_points", Wire.encode a.keyPoints),
    ("journal_name", Wire.encode a.journal),
    ("read_count", Wire.encode a.readCount),
    ("citation_count", Wire.encode a.citationCount),
    ("rating", Wire.encode a.rating),
    ("created_at", Wire.encode a.createdAt),
    ("updated_at", Wire.encode a.updatedAt)]
  decode v := do
    let [id, subscription, title, summary, content, author, published, url, keyPoints, journal,
        reads, citations, rating, created, updated] ←
        v.slots? ["id", "subscription_id", "title", "summary", "content", "author",
          "published_at", "url", "key_points", "journal_name", "read_count", "citation_count",
          "rating", "created_at", "updated_at"]
      | none
    return {
      id := ← id.required
      subscription := ← subscription.required
      title := ← title.required
      summary := ← summary.required
      content := ← content.required
      author := ← author.required
      publishedAt := ← published.optional
      url := ← url.required
      keyPoints := ← keyPoints.required
      journal := ← journal.required
      readCount := ← reads.required
      citationCount := ← citations.required
      rating := ← rating.required
      createdAt := ← created.required
      updatedAt := ← updated.required }

/-- What is said to publish an article. -/
structure NewArticle where
  title : String := ""
  summary : String := ""
  content : String := ""
  author : String := ""
  publishedAt : Option Instant := none
  url : String := ""
  keyPoints : String := ""
  journal : String := ""
  citationCount : UInt32 := 0
  rating : Float := 0.0
  deriving Repr, DecidableEq

instance : Wire NewArticle where
  encode a := .record [
    ("title", Wire.encode a.title),
    ("summary", Wire.encode a.summary),
    ("content", Wire.encode a.content),
    ("author", Wire.encode a.author),
    ("published_at", Wire.encode a.publishedAt),
    ("url", Wire.encode a.url),
    ("key_points", Wire.encode a.keyPoints),
    ("journal_name", Wire.encode a.journal),
    ("citation_count", Wire.encode a.citationCount),
    ("rating", Wire.encode a.rating)]
  decode v := do
    let [title, summary, content, author, published, url, keyPoints, journal, citations, rating] ←
        v.slots? ["title", "summary", "content", "author", "published_at", "url", "key_points",
          "journal_name", "citation_count", "rating"]
      | none
    return {
      title := ← title.required
      summary := ← summary.withDefault ""
      content := ← content.withDefault ""
      author := ← author.withDefault ""
      publishedAt := ← published.optional
      url := ← url.withDefault ""
      keyPoints := ← keyPoints.withDefault ""
      journal := ← journal.withDefault ""
      citationCount := ← citations.withDefault 0
      rating := ← rating.withDefault 0.0 }

end ChatLedger
