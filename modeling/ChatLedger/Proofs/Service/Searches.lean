import ChatLedger.Proofs.Reading.Patterns
import ChatLedger.Proofs.Service.Listings
import ChatLedger.Proofs.Validation

/-!
# Searches show parts of listings

1. `Tables.FindsKeywords`: a search of a user's sessions answers pages of those sessions of the
   user's list whose topic has the keyword in one piece, in the order of that list, and a search of
   messages pages of those messages whose content has it.
2. `searches_are_literal`: this holds on all tables that calls within the years 0 to 9999 can lead
   to, whatever wildcards and escape characters the keyword holds.
-/

namespace ChatLedger

open Store Time Operation

namespace Text

theorem mem_of_mem_trim {c : Char} {text : String} (h : c ∈ (trim text).toList) :
    c ∈ text.toList := by
  rw [toList_trim, trimChars, dropEndBlanks, List.mem_reverse] at h
  have inside := (List.dropWhile_suffix isBlank).mem h
  exact (List.dropWhile_suffix isBlank).mem (List.mem_reverse.1 inside)

end Text

/-! ## What searches show -/

/-- The searches of a user, against the lists of all sessions and of all messages of the user. -/
structure Store.Tables.FindsKeywords (t : Tables) (settings : Settings) (user : UserId) :
    Prop where
  sessions : ∃ entries,
    ReferenceList (t.OwnSession user) SessionRow.session
      (Newest fun e => (e.2.createdAt, e.1.row)) entries ∧
    Slices (Sessions.list settings user) settings.paging .sessions t (entries.map Prod.snd) ∧
    ((∀ r, t.OwnSession user r → '\x00' ∉ r.topic.toList) →
      ∀ text : String, '\x00' ∉ text.toList → Text.Within 200 text →
      Slices (Sessions.search settings user text) settings.paging .sessions t
        ((entries.map Prod.snd).filter fun s => Text.Contains (Text.trim text) s.topic))
  messages : ∃ entries,
    ReferenceList (t.OwnMessage user) MessageRow.message
      (Newest fun e => (e.2.createdAt, e.1.row)) entries ∧
    Slices (Messages.listAll settings user) settings.paging .messages t (entries.map Prod.snd) ∧
    ((∀ r, t.OwnMessage user r → '\x00' ∉ r.content.toList) →
      ∀ text : String, '\x00' ∉ text.toList → Text.Within 200 text →
      Slices (Messages.search settings user text) settings.paging .messages t
        ((entries.map Prod.snd).filter fun m => Text.Contains (Text.trim text) m.content))
  /-- Nothing but blanks, or more than 200 characters without those at the ends, is no keyword. -/
  refuses : ∀ text : String, ¬ Text.Within 200 text → ∃ reason, ∀ page size,
    (Sessions.search settings user text page size).on t =
        (.error (.validationFailed reason), t) ∧
      (Messages.search settings user text page size).on t =
        (.error (.validationFailed reason), t)

section Searches

variable {t : Tables} {user : UserId} {settings : Settings} (coherent : t.Coherent)
  (legible : t.ChatLegible) {text : String}

theorem keyword_decides (text : String) :
    Validation.Decides (Validation.keyword text) (Text.Within 200 text) (Text.trim text) :=
  Validation.requiredText_decides "keyword" text 200

include coherent legible

theorem slices_searchedSessions {entries : List (SessionRow × Session)}
    (whole : ReferenceList (t.OwnSession user) SessionRow.session
      (Newest fun e => (e.2.createdAt, e.1.row)) entries)
    (topics : ∀ r, t.OwnSession user r → '\x00' ∉ r.topic.toList)
    (htext : '\x00' ∉ text.toList) (within : Text.Within 200 text) :
    Slices (Sessions.search settings user text) settings.paging .sessions t
      ((entries.map Prod.snd).filter fun s => Text.Contains (Text.trim text) s.topic) := by
  have part : Listed (Sessions.search settings user text) settings.paging .sessions t _ _ _ :=
    listed_searchedSessions coherent legible ((keyword_decides text).passes within)
  refine part.slices_filter whole fun r s hown hread => ?_
  rw [decide_eq_true_iff, (SessionRow.session_eq_ok_iff.1 hread).topic]
  exact (Text.matchesKeyword_iff (mt Text.mem_of_mem_trim htext) (topics r hown)).symm

theorem slices_searchedMessages {entries : List (MessageRow × Message)}
    (whole : ReferenceList (t.OwnMessage user) MessageRow.message
      (Newest fun e => (e.2.createdAt, e.1.row)) entries)
    (contents : ∀ r, t.OwnMessage user r → '\x00' ∉ r.content.toList)
    (htext : '\x00' ∉ text.toList) (within : Text.Within 200 text) :
    Slices (Messages.search settings user text) settings.paging .messages t
      ((entries.map Prod.snd).filter fun m => Text.Contains (Text.trim text) m.content) := by
  have part : Listed (Messages.search settings user text) settings.paging .messages t _ _ _ :=
    listed_searchedMessages coherent legible ((keyword_decides text).passes within)
  refine part.slices_filter whole fun r m hown hread => ?_
  rw [decide_eq_true_iff, (MessageRow.message_eq_ok_iff.1 hread).content]
  exact (Text.matchesKeyword_iff (mt Text.mem_of_mem_trim htext) (contents r hown)).symm

/-- On legible tables, searches show the parts of the lists that have the keyword. -/
theorem Store.Tables.ChatLegible.findsKeywords : t.FindsKeywords settings user where
  sessions := by
    obtain ⟨entries, whole, -, slices⟩ := listed_sessions coherent legible
    exact ⟨entries, whole, slices, fun topics text htext within =>
      slices_searchedSessions coherent legible whole topics htext within⟩
  messages := by
    obtain ⟨entries, whole, -, slices⟩ := listed_messages coherent legible
    exact ⟨entries, whole, slices, fun contents text htext within =>
      slices_searchedMessages coherent legible whole contents htext within⟩
  refuses text h := by
    obtain ⟨reason, refused⟩ := (keyword_decides text).refuses h
    refine ⟨reason, fun page size => ⟨?_, ?_⟩⟩
    · unfold Sessions.search
      rw [refused]
      exact on_bind_error (on_check _ t)
    · unfold Messages.search
      rw [refused]
      exact on_bind_error (on_check _ t)

end Searches

/-- **Searches are literal.** Calls of the services whose clocks show the years 0 to 9999 run at the
same time on an empty store, and any of their store calls may fail. At every moment, and for every
user and every configuration, the searches of the user show exactly the sessions whose topic has the
keyword in one piece, and the messages whose content has it, in the order of the lists of all
sessions and of all messages. -/
theorem searches_are_literal {ι : Type} [DecidableEq ι] (settings : ι → Settings)
    {calls : ι → ServiceCall} (clocks : ∀ i, ∀ now ∈ (calls i).readings, now.HasFourDigitYear)
    (schedule : List (Turn ι)) (reader : Settings) (user : UserId) :
    ((World.mk {} (fun i => (calls i).program (settings i)) []).run schedule).tables.FindsKeywords
      reader user :=
  (World.chatLegible_run settings clocks schedule).findsKeywords
    (World.coherent_run settings calls schedule)

/-- A user opens two sessions in the same second, and writes in the first one. -/
def sampleTopics : Fin 3 → ServiceCall
  | 0 => .chat (.createSession ⟨1⟩ ⟨"Up to 50%_\\!", none, none⟩ .start2026 (.ofNat 1))
  | 1 => .chat (.createSession ⟨1⟩ ⟨"Up to 50 %a\\!", none, none⟩ .start2026 (.ofNat 2))
  | 2 => .chat (.createMessage ⟨1⟩ (.ofNat 1) ⟨none, .user, "TO 50%_\\", 3, 0.5, .normal, none⟩
      .start2026 (.ofNat 3))

/-- A keyword of a wildcard of either kind and an escape character at its end. -/
theorem searches_are_literal_of_wildcards :
    let t := ((World.mk {} (fun i => (sampleTopics i).program {}) []).run
      ([0, 1, 2, 2, 2, 2].map Turn.calm)).tables
    (∀ i, ∀ now ∈ (sampleTopics i).readings, now.HasFourDigitYear) ∧ t.FindsKeywords {} ⟨1⟩ ∧
      Text.Within 200 " to 50%_\\ " ∧
      (t.sessions.map (·.topic)).filter (Text.Contains (Text.trim " to 50%_\\ ")) =
        ["Up to 50%_\\!"] ∧
      (t.messages.map (·.content)).filter (Text.Contains (Text.trim " to 50%_\\ ")) =
        ["TO 50%_\\"] := by
  intro t
  have clocks (i : Fin 3) : ∀ now ∈ (sampleTopics i).readings, now.HasFourDigitYear := by
    revert i
    decide +kernel
  refine ⟨clocks, searches_are_literal (fun _ => {}) clocks _ {} ⟨1⟩, ?_⟩
  decide +kernel

/-- A search that finds one row reads that row. -/
theorem perform_searchSessions_of_one {t : Tables} {user : UserId} {keyword : String}
    {r : SessionRow} (request : PageRequest)
    (one : (t.sessionsOf user).filter (fun s => Text.matchesKeyword keyword s.topic) = [r]) :
    (Request.searchSessions user keyword request).perform t =
      (page [r] request SessionRow.session, t) := by
  have sorted : Tables.newestSessions [r] = [r] := List.mergeSort_singleton r
  rw [← sorted, ← one]
  rfl

/-- Opens a session of this topic at this time. -/
def openedAt (topic : String) (now : Instant) : Tables :=
  ((World.mk {} (fun _ : Unit => (ServiceCall.chat
    (.createSession ⟨1⟩ ⟨topic, none, none⟩ now (.ofNat 1))).program {}) []).run
    [.calm ()]).tables

/-- A session of year 10000 is found by no search, since its row can no longer be read. And a search
takes the two last code points of the first plane for the replacement character. -/
theorem not_searches_are_literal :
    ((openedAt "plans" .year10000).sessions.map (·.topic) = ["plans"] ∧
      ∃ e, (Sessions.search {} ⟨1⟩ "plans" none none).on (openedAt "plans" .year10000) =
        (.error e, openedAt "plans" .year10000)) ∧
    (∃ found, (Sessions.search {} ⟨1⟩ "a\ufffeb" none none).on (openedAt "a\ufffdb" .start2026) =
        (.ok found, openedAt "a\ufffdb" .start2026) ∧
      found.items.map (·.topic) = ["a\ufffdb"]) ∧
    ¬ ("a\ufffeb".toList.map Char.toLower <:+: "a\ufffdb".toList.map Char.toLower) := by
  let request := ({} : Settings).paging.resolve .sessions none none
  refine ⟨⟨by decide +kernel, ?_⟩, ?_, by decide⟩
  · obtain ⟨hone, unread⟩ :
        (((openedAt "plans" .year10000).sessionsOf ⟨1⟩).filter
          fun s => Text.matchesKeyword "plans" s.topic).length = 1 ∧
        page (((openedAt "plans" .year10000).sessionsOf ⟨1⟩).filter
          fun s => Text.matchesKeyword "plans" s.topic) request SessionRow.session =
          .error (.query "invalid datetime: input contains invalid characters") := by
      decide +kernel
    obtain ⟨r, one⟩ := List.length_eq_one_iff.1 hone
    have asked := on_ask (perform_searchSessions_of_one request one)
    rw [← one, unread] at asked
    exact ⟨_, (on_bind_ok (on_check (.ok "plans") _)).trans (on_bind_error asked)⟩
  · obtain ⟨hone, hread⟩ :
        (((openedAt "a\ufffdb" .start2026).sessionsOf ⟨1⟩).filter
          fun s => Text.matchesKeyword "a\ufffeb" s.topic).length = 1 ∧
        (page (((openedAt "a\ufffdb" .start2026).sessionsOf ⟨1⟩).filter
          fun s => Text.matchesKeyword "a\ufffeb" s.topic) request SessionRow.session).map
          (fun found => found.1.map (·.topic)) = .ok ["a\ufffdb"] := by
      decide +kernel
    obtain ⟨r, one⟩ := List.length_eq_one_iff.1 hone
    rw [one] at hread
    cases hpage : page [r] request SessionRow.session with
    | error e => rw [hpage] at hread; cases hread
    | ok found =>
      rw [hpage] at hread
      have asked := perform_searchSessions_of_one request one
      rw [hpage] at asked
      have keyword : Validation.keyword "a\ufffeb" = .ok "a\ufffeb" := by decide +kernel
      refine ⟨.ofItems found request, ?_, Except.ok.inj hread⟩
      unfold Sessions.search
      rw [keyword, on_bind_ok (on_check _ _)]
      exact on_handOn asked

end ChatLedger
