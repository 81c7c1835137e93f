import ChatLedger.Store.Tables

/-!
# Tables in documents

All rows of the store as a document, each row a record of its columns. This is how the store is
kept in a file.
-/

namespace ChatLedger.Store

instance : Wire SessionRow where
  encode r := .record [
    ("id", Wire.encode (r.row : Int)),
    ("session_id", Wire.encode r.id),
    ("user_id", Wire.encode r.owner),
    ("topic", Wire.encode r.topic),
    ("model", Wire.encode r.model),
    ("channel_id", Wire.encode r.channel),
    ("message_count", Wire.encode r.messageCount),
    ("token_count", Wire.encode r.tokenCount),
    ("total_cost", Wire.encode r.totalCost),
    ("status", Wire.encode r.status),
    ("created_at", Wire.encode r.createdAt),
    ("updated_at", Wire.encode r.updatedAt),
    ("last_message_at", Wire.encode r.lastMessageAt)]
  decode v := do
    let [row, id, owner, topic, model, channel, messages, tokens, cost, status, created, updated,
        last] ←
        v.slots? ["id", "session_id", "user_id", "topic", "model", "channel_id", "message_count",
          "token_count", "total_cost", "status", "created_at", "updated_at", "last_message_at"]
      | none
    let number : Int ← row.required
    return {
      row := number.toNat
      id := ← id.required
      owner := ← owner.required
      topic := ← topic.required
      model := ← model.required
      channel := ← channel.required
      messageCount := ← messages.required
      tokenCount := ← tokens.required
      totalCost := ← cost.required
      status := ← status.required
      createdAt := ← created.required
      updatedAt := ← updated.required
      lastMessageAt := ← last.optional }

instance : Wire MessageRow where
  encode r := .record [
    ("id", Wire.encode (r.row : Int)),
    ("message_id", Wire.encode r.id),
    ("session_id", Wire.encode r.session),
    ("role", Wire.encode r.role),
    ("content", Wire.encode r.content),
    ("tokens", Wire.encode r.tokens),
    ("cost", Wire.encode r.cost),
    ("status", Wire.encode r.status),
    ("error_msg", Wire.encode r.errorText),
    ("state", Wire.encode r.state),
    ("created_at", Wire.encode r.createdAt),
    ("updated_at", Wire.encode r.updatedAt)]
  decode v := do
    let [row, id, session, role, content, tokens, cost, status, errorText, state, created,
        updated] ←
        v.slots? ["id", "message_id", "session_id", "role", "content", "tokens", "cost", "status",
          "error_msg", "state", "created_at", "updated_at"]
      | none
    let number : Int ← row.required
    return {
      row := number.toNat
      id := ← id.required
      session := ← session.required
      role := ← role.required
      content := ← content.required
      tokens := ← tokens.required
      cost := ← cost.required
      status := ← status.required
      errorText := ← errorText.optional
      state := ← state.required
      createdAt := ← created.required
      updatedAt := ← updated.required }

instance : Wire SubscriptionRow where
  encode r := .record [
    ("id", Wire.encode (r.row : Int)),
    ("creator_id", Wire.encode r.creator),
    ("topic_name", Wire.encode r.topic),
    ("description", Wire.encode r.description),
    ("status", Wire.encode r.status),
    ("created_at", Wire.encode r.createdAt),
    ("updated_at", Wire.encode r.updatedAt)]
  decode v := do
    let [row, creator, topic, description, status, created, updated] ←
        v.slots? ["id", "creator_id", "topic_name", "description", "status", "created_at",
          "updated_at"]
      | none
    let number : Int ← row.required
    return {
      row := number.toNat
      creator := ← creator.required
      topic := ← topic.required
      description := ← description.required
      status := ← status.required
      createdAt := ← created.required
      updatedAt := ← updated.required }

instance : Wire LinkRow where
  encode r := .record [
    ("id", Wire.encode (r.row : Int)),
    ("user_id", Wire.encode r.user),
    ("subscription_id", Wire.encode r.subscription),
    ("status", Wire.encode r.status),
    ("created_at", Wire.encode r.createdAt),
    ("updated_at", Wire.encode r.updatedAt)]
  decode v := do
    let [row, user, subscription, status, created, updated] ←
        v.slots? ["id", "user_id", "subscription_id", "status", "created_at", "updated_at"]
      | none
    let number : Int ← row.required
    return {
      row := number.toNat
      user := ← user.required
      subscription := ← subscription.required
      status := ← status.required
      createdAt := ← created.required
      updatedAt := ← updated.required }

instance : Wire ArticleRow where
  encode r := .record [
    ("id", Wire.encode (r.row : Int)),
    ("subscription_id", Wire.encode r.subscription),
    ("title", Wire.encode r.title),
    ("summary", Wire.encode r.summary),
    ("content", Wire.encode r.content),
    ("author", Wire.encode r.author),
    ("published_at", Wire.encode r.publishedAt),
    ("url", Wire.encode r.url),
    ("key_points", Wire.encode r.keyPoints),
    ("journal_name", Wire.encode r.journal),
    ("read_count", Wire.encode r.readCount),
    ("citation_count", Wire.encode r.citationCount),
    ("rating", Wire.encode r.rating),
    ("state", Wire.encode r.state),
    ("created_at", Wire.encode r.createdAt),
    ("updated_at", Wire.encode r.updatedAt)]
  decode v := do
    let [row, subscription, title, summary, content, author, published, url, keyPoints, journal,
        reads, citations, rating, state, created, updated] ←
        v.slots? ["id", "subscription_id", "title", "summary", "content", "author",
          "published_at", "url", "key_points", "journal_name", "read_count", "citation_count",
          "rating", "state", "created_at", "updated_at"]
      | none
    let number : Int ← row.required
    return {
      row := number.toNat
      subscription := ← subscription.required
      title := ← title.required
      summary := ← summary.required
      content := ← content.required
      author := ← author.required
      publishedAt := ← published.optional
      url := ← url.required
      keyPoints := ← keyPoints.required
      journal := ← journal.required
      readCount := ← reads.required
      citationCount := ← citations.required
      rating := ← rating.required
      state := ← state.required
      createdAt := ← created.required
      updatedAt := ← updated.required }

instance : Wire Tables where
  encode t := .record [
    ("chat_sessions", Wire.encode t.sessions),
    ("chat_messages", Wire.encode t.messages),
    ("subscriptions", Wire.encode t.subscriptions),
    ("user_subscriptions", Wire.encode t.links),
    ("subscription_articles", Wire.encode t.articles)]
  decode v := do
    let [sessions, messages, subscriptions, links, articles] ←
        v.slots? ["chat_sessions", "chat_messages", "subscriptions", "user_subscriptions",
          "subscription_articles"]
      | none
    return {
      sessions := ← sessions.required
      messages := ← messages.required
      subscriptions := ← subscriptions.required
      links := ← links.required
      articles := ← articles.required }

end ChatLedger.Store
