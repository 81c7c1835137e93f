import ChatLedger.Service.Memberships

/-!
# Articles

How articles are published, deleted and read. Only members read the articles of a subscription.
-/

namespace ChatLedger.Articles

open Store Time Operation

/-- The article with its title trimmed, unless a field is out of bounds. -/
def validate (a : NewArticle) : Except ServiceError NewArticle := do
  let title ← Validation.requiredText "title" a.title Limit.articleTitle
  Validation.boundedText "summary" a.summary Limit.articleSummary
  Validation.boundedText "content" a.content Limit.articleContent
  Validation.boundedText "author" a.author Limit.articleAuthor
  Validation.boundedText "url" a.url Limit.articleUrl
  Validation.boundedText "key_points" a.keyPoints Limit.articleKeyPoints
  Validation.boundedText "journal_name" a.journal Limit.articleJournal
  Validation.inRange "rating" a.rating 0.0 Limit.articleRating
  return { a with title := title }

/-- Publishes an article. -/
def create (subscription : Int) (article : NewArticle) (now : Instant) : Operation Article := do
  let article ← check (validate article)
  let _ ← Memberships.opened subscription
  ask (.insertArticle subscription article now)

/-- Deletes an article. -/
def delete (id : Int) (now : Instant) : Operation Unit := do
  if !(← ask (.deleteArticle id now)) then fail (.notFound ("article " ++ toString id))

/-- A page of the articles of a subscription, for its members. -/
def list (settings : Settings) (user : UserId) (subscription : Int) (page size : Option UInt32) :
    Operation (Page Article) := do
  let _ ← Memberships.opened subscription
  let link ← ask (.findLink user subscription)
  if Membership.ofStatus (link.map (·.status)) ≠ .active then
    fail (.permissionDenied
      ("user " ++ toString user ++ " is not subscribed to " ++ Memberships.name subscription))
  let request := settings.paging.resolve .articles page size
  return .ofItems (← ask (.listArticles subscription request)) request

/-- A page of the articles of all effective memberships of a user. -/
def listAll (settings : Settings) (user : UserId) (page size : Option UInt32) :
    Operation (Page Article) := do
  let request := settings.paging.resolve .articles page size
  return .ofItems (← ask (.listUserArticles user request)) request

end ChatLedger.Articles
