import ChatLedger.Article
import ChatLedger.Message
import ChatLedger.Proofs.Documents.Settling
import ChatLedger.Rollup
import ChatLedger.Settings
import ChatLedger.Subscription

/-!
# Documents have a normal form

One value can be spelled in many ways: a record as a list of its fields, a field left out or set to
null, a word as the only name of a record, a number as an integer, an identifier or a time in one of
its other forms. Reading takes all of them to one value, and `documents_normalize` says that writing
the value takes them to one document, which is read as that value again.

Each type gets its instance of `Wire.Settles`, or of `Wire.ReadsBack` where no field needs to have
been read before. In a record only the integers, the numbers, the times and the records inside it do.
Documents are taken to have finite numbers, as all do that are read from texts
(`Json.read?_isFinite`).
-/

namespace ChatLedger

open Wire

/-- Rewriting from the outside in takes a chain of steps apart without entering the rest of it. -/
theorem steps_eq_some_iff {α β : Type} {first : Option α} {rest : α → Option β} {b : β} :
    (first >>= rest) = some b ↔ ∃ a, first = some a ∧ rest a = some b :=
  Option.bind_eq_some_iff

/-! ## Words -/

instance : Vocabulary.Distinct SessionStatus := ⟨fun a => by cases a <;> rfl⟩
instance : Vocabulary.Distinct MessageRole := ⟨fun a => by cases a <;> rfl⟩
instance : Vocabulary.Distinct MessageStatus := ⟨fun a => by cases a <;> rfl⟩
instance : Vocabulary.Distinct RecordState := ⟨fun a => by cases a <;> rfl⟩
instance : Vocabulary.Distinct SubscriptionStatus := ⟨fun a => by cases a <;> rfl⟩
instance : Vocabulary.Distinct LinkStatus := ⟨fun a => by cases a <;> rfl⟩
instance : Vocabulary.Distinct SubscribeOutcome := ⟨fun a => by cases a <;> rfl⟩

/-! ## Sessions -/

instance : Settles NewSession where
  isFinite_encode _ := Json.isFinite_record (by simp)
  decode_encode finite read := by
    refine Json.read_again (by decide +kernel) rfl finite read fun slots hslots h => ?_
    split at h
    · -- only the channel has to have been read: texts are read back anyway
      simp only [↓steps_eq_some_iff] at h
      obtain ⟨topic, -, model, -, channel, hchannel, h⟩ := h
      have hchannel := Slot.decode_encode_optional (hslots _ (by simp)) hchannel
      cases h
      simp [hchannel]
    · cases h

instance : Settles Session where
  isFinite_encode _ := Json.isFinite_record (by simp)
  decode_encode finite read := by
    refine Json.read_again (by decide +kernel) rfl finite read fun slots hslots h => ?_
    split at h
    · simp only [↓steps_eq_some_iff] at h
      obtain ⟨id, -, owner, howner, topic, -, model, -, channel, hchannel, messages, -, tokens, -,
        cost, hcost, status, -, created, hcreated, updated, hupdated, last, hlast, h⟩ := h
      have howner := Slot.decode_encode_required (hslots _ (by simp)) howner
      have hchannel := Slot.decode_encode_required (hslots _ (by simp)) hchannel
      have hcost := Slot.decode_encode_required (hslots _ (by simp)) hcost
      have hcreated := Slot.decode_encode_required (hslots _ (by simp)) hcreated
      have hupdated := Slot.decode_encode_required (hslots _ (by simp)) hupdated
      have hlast := Slot.decode_encode_optional (hslots _ (by simp)) hlast
      cases h
      simp [howner, hchannel, hcost, hcreated, hupdated, hlast]
    · cases h

/-! ## Messages -/

instance : Settles NewMessage where
  isFinite_encode _ := Json.isFinite_record (by simp)
  decode_encode finite read := by
    refine Json.read_again (by decide +kernel) rfl finite read fun slots hslots h => ?_
    split at h
    · simp only [↓steps_eq_some_iff] at h
      obtain ⟨id, -, role, -, content, -, tokens, -, cost, hcost, status, -, errorText, -, h⟩ := h
      have hcost := Slot.decode_encode_required (hslots _ (by simp)) hcost
      cases h
      simp [hcost]
    · cases h

instance : Settles Message where
  isFinite_encode _ := Json.isFinite_record (by simp)
  decode_encode finite read := by
    refine Json.read_again (by decide +kernel) rfl finite read fun slots hslots h => ?_
    split at h
    · simp only [↓steps_eq_some_iff] at h
      obtain ⟨id, -, session, -, role, -, content, -, tokens, -, cost, hcost, status, -, errorText,
        -, created, hcreated, updated, hupdated, h⟩ := h
      have hcost := Slot.decode_encode_required (hslots _ (by simp)) hcost
      have hcreated := Slot.decode_encode_required (hslots _ (by simp)) hcreated
      have hupdated := Slot.decode_encode_required (hslots _ (by simp)) hupdated
      cases h
      simp [hcost, hcreated, hupdated]
    · cases h

instance : Settles MessageUpdate where
  isFinite_encode _ := Json.isFinite_record (by simp)
  decode_encode finite read := by
    refine Json.read_again (by decide +kernel) rfl finite read fun slots hslots h => ?_
    split at h
    · simp only [↓steps_eq_some_iff] at h
      obtain ⟨content, -, tokens, -, cost, hcost, status, -, errorText, -, h⟩ := h
      have hcost := Slot.decode_encode_optional (hslots _ (by simp)) hcost
      cases h
      simp [hcost]
    · cases h

/-! ## Articles -/

instance : Settles NewArticle where
  isFinite_encode _ := Json.isFinite_record (by simp)
  decode_encode finite read := by
    refine Json.read_again (by decide +kernel) rfl finite read fun slots hslots h => ?_
    split at h
    · simp only [↓steps_eq_some_iff] at h
      obtain ⟨title, -, summary, -, content, -, author, -, published, hpublished, url, -, keyPoints,
        -, journal, -, citations, -, rating, hrating, h⟩ := h
      have hrating :=
        Slot.decode_encode_withDefault (decode_encode_float (by decide +kernel)) (hslots _ (by simp))
          hrating
      have hpublished := Slot.decode_encode_optional (hslots _ (by simp)) hpublished
      cases h
      simp [hrating, hpublished]
    · cases h

instance : Settles Article where
  isFinite_encode _ := Json.isFinite_record (by simp)
  decode_encode finite read := by
    refine Json.read_again (by decide +kernel) rfl finite read fun slots hslots h => ?_
    split at h
    · simp only [↓steps_eq_some_iff] at h
      obtain ⟨id, hid, subscription, hsubscription, title, -, summary, -, content, -, author, -,
        published, hpublished, url, -, keyPoints, -, journal, -, reads, -, citations, -, rating,
        hrating, created, hcreated, updated, hupdated, h⟩ := h
      have hid := Slot.decode_encode_required (hslots _ (by simp)) hid
      have hsubscription := Slot.decode_encode_required (hslots _ (by simp)) hsubscription
      have hrating := Slot.decode_encode_required (hslots _ (by simp)) hrating
      have hpublished := Slot.decode_encode_optional (hslots _ (by simp)) hpublished
      have hcreated := Slot.decode_encode_required (hslots _ (by simp)) hcreated
      have hupdated := Slot.decode_encode_required (hslots _ (by simp)) hupdated
      cases h
      simp [hid, hsubscription, hrating, hpublished, hcreated, hupdated]
    · cases h

/-! ## Subscriptions -/

instance : Settles NewSubscription where
  isFinite_encode _ := Json.isFinite_record (by simp)
  decode_encode finite read := by
    refine Json.read_again (by decide +kernel) rfl finite read fun slots hslots h => ?_
    split at h
    · simp only [↓steps_eq_some_iff] at h
      obtain ⟨creator, hcreator, topic, -, description, -, h⟩ := h
      have hcreator := Slot.decode_encode_required (hslots _ (by simp)) hcreator
      cases h
      simp [hcreator]
    · cases h

instance : Settles Subscription where
  isFinite_encode _ := Json.isFinite_record (by simp)
  decode_encode finite read := by
    refine Json.read_again (by decide +kernel) rfl finite read fun slots hslots h => ?_
    split at h
    · simp only [↓steps_eq_some_iff] at h
      obtain ⟨id, hid, creator, hcreator, topic, -, description, -, status, -, created, hcreated,
        updated, hupdated, h⟩ := h
      have hid := Slot.decode_encode_required (hslots _ (by simp)) hid
      have hcreator := Slot.decode_encode_required (hslots _ (by simp)) hcreator
      have hcreated := Slot.decode_encode_required (hslots _ (by simp)) hcreated
      have hupdated := Slot.decode_encode_required (hslots _ (by simp)) hupdated
      cases h
      simp [hid, hcreator, hcreated, hupdated]
    · cases h

instance : Settles Link where
  isFinite_encode _ := Json.isFinite_record (by simp)
  decode_encode finite read := by
    refine Json.read_again (by decide +kernel) rfl finite read fun slots hslots h => ?_
    split at h
    · simp only [↓steps_eq_some_iff] at h
      obtain ⟨id, hid, user, huser, subscription, hsubscription, status, -, created, hcreated,
        updated, hupdated, h⟩ := h
      have hid := Slot.decode_encode_required (hslots _ (by simp)) hid
      have huser := Slot.decode_encode_required (hslots _ (by simp)) huser
      have hsubscription := Slot.decode_encode_required (hslots _ (by simp)) hsubscription
      have hcreated := Slot.decode_encode_required (hslots _ (by simp)) hcreated
      have hupdated := Slot.decode_encode_required (hslots _ (by simp)) hupdated
      cases h
      simp [hid, huser, hsubscription, hcreated, hupdated]
    · cases h

instance : Settles SubscriptionView where
  isFinite_encode _ := Json.isFinite_record (by simp)
  decode_encode finite read := by
    refine Json.read_again (by decide +kernel) rfl finite read fun slots hslots h => ?_
    split at h
    · simp only [↓steps_eq_some_iff] at h
      obtain ⟨subscription, hsubscription, link, hlink, articles, -, h⟩ := h
      have hsubscription := Slot.decode_encode_required (hslots _ (by simp)) hsubscription
      have hlink := Slot.decode_encode_required (hslots _ (by simp)) hlink
      cases h
      simp [hsubscription, hlink]
    · cases h

instance : Settles SubscribeResult where
  isFinite_encode _ := Json.isFinite_record (by simp)
  decode_encode finite read := by
    refine Json.read_again (by decide +kernel) rfl finite read fun slots hslots h => ?_
    split at h
    · simp only [↓steps_eq_some_iff] at h
      obtain ⟨subscription, hsubscription, outcome, -, h⟩ := h
      have hsubscription := Slot.decode_encode_required (hslots _ (by simp)) hsubscription
      cases h
      simp [hsubscription]
    · cases h

instance : Settles MembershipChange where
  isFinite_encode _ := Json.isFinite_record (by simp)
  decode_encode finite read := by
    refine Json.read_again (by decide +kernel) rfl finite read fun slots hslots h => ?_
    split at h
    · simp only [↓steps_eq_some_iff] at h
      obtain ⟨subscription, hsubscription, previous, -, current, -, h⟩ := h
      have hsubscription := Slot.decode_encode_required (hslots _ (by simp)) hsubscription
      cases h
      simp [hsubscription]
    · cases h

/-! ## Roll-ups -/

instance : Settles Rollup where
  isFinite_encode _ := Json.isFinite_record (by simp [Rollup.members])
  decode_encode finite read := by
    refine Json.read_again (by decide +kernel) rfl finite read fun slots hslots h => ?_
    split at h
    · simp only [↓steps_eq_some_iff] at h
      obtain ⟨session, -, messages, -, tokens, -, cost, hcost, last, hlast, h⟩ := h
      have hcost := Slot.decode_encode_required (hslots _ (by simp)) hcost
      have hlast := Slot.decode_encode_required (hslots _ (by simp)) hlast
      cases h
      simp [Rollup.members, hcost, hlast]
    · cases h

/-! ## Settings and pages -/

instance : ReadsBack DatabaseSettings where
  isFinite_encode _ := Json.isFinite_record (by simp)
  decode_encode_self _ := Json.read_back (by decide +kernel) rfl (by simp)

instance : ReadsBack PagingSettings where
  isFinite_encode _ := Json.isFinite_record (by simp)
  decode_encode_self _ := Json.read_back (by decide +kernel) rfl (by simp)

instance : ReadsBack SessionSettings where
  isFinite_encode _ := Json.isFinite_record (by simp)
  decode_encode_self _ := Json.read_back (by decide +kernel) rfl (by simp)

instance : ReadsBack SubscriptionSettings where
  isFinite_encode _ := Json.isFinite_record (by simp)
  decode_encode_self _ := Json.read_back (by decide +kernel) rfl (by simp)

instance : ReadsBack LimitSettings where
  isFinite_encode _ := Json.isFinite_record (by simp)
  decode_encode_self _ := Json.read_back (by decide +kernel) rfl (by simp)

instance : ReadsBack TelemetrySettings where
  isFinite_encode _ := Json.isFinite_record (by simp)
  decode_encode_self _ := Json.read_back (by decide +kernel) rfl (by simp)

instance : ReadsBack Settings where
  isFinite_encode _ := Json.isFinite_record (by simp)
  decode_encode_self _ := Json.read_back (by decide +kernel) rfl (by simp)

instance : ReadsBack PageRequest where
  isFinite_encode _ := Json.isFinite_record (by simp)
  decode_encode_self _ := Json.read_back (by decide +kernel) rfl (by simp)

/-! ## Outcomes with a tag

The reader turns away documents that are nested too deeply or hold a part without a value. What is
written is flat, so that neither happens to it.
-/

section Flat

variable {members : List (String × Json)}

/-- No value of the members is nested, and each of them has a value. -/
def Json.Flat (members : List (String × Json)) : Prop :=
  ∀ member ∈ members, member.2.depth = 0 ∧ member.2.isReadable = true

theorem Json.Flat.membersDepth (h : Flat members) : membersDepth members = 0 := by
  induction members with
  | nil => rfl
  | cons member members ih =>
    obtain ⟨hmember, hmembers⟩ := List.forall_mem_cons.1 h
    rw [Json.membersDepth, hmember.1, ih hmembers]
    rfl

theorem Json.Flat.membersReadable (h : Flat members) : membersReadable members = true := by
  induction members with
  | nil => rfl
  | cons member members ih =>
    obtain ⟨hmember, hmembers⟩ := List.forall_mem_cons.1 h
    rw [Json.membersReadable, hmember.2, ih hmembers]
    rfl

theorem flat_encode_float (x : Float) : (encode x).depth = 0 ∧ (encode x).isReadable = true := by
  show (if x.isFinite then Json.number x else .null).depth = 0 ∧
    (if x.isFinite then Json.number x else .null).isReadable = true
  split <;> exact ⟨rfl, rfl⟩

theorem Rollup.flat_members (r : Rollup) : Json.Flat r.members := by
  unfold Rollup.members Json.Flat
  simp only [List.forall_mem_cons]
  exact ⟨⟨rfl, rfl⟩, ⟨rfl, rfl⟩, ⟨rfl, rfl⟩, flat_encode_float _, ⟨rfl, rfl⟩, by simp⟩

end Flat

namespace RollupOutcome

/-- The tag is taken out from among members that are flat and have other names. -/
theorem decode_tagged {members : List (String × Json)} (hflat : Json.Flat members)
    (hnames : ∀ member ∈ members, member.1 ≠ "state") (tag : String) :
    decode (.record (("state", .text tag) :: members)) = ofTagged? tag (.record members) := by
  have hlimits : (depthLimit < (Json.record (("state", .text tag) :: members)).depth ||
      !(Json.record (("state", .text tag) :: members)).isReadable) = false := by
    simp [Json.depth, Json.isReadable, Json.membersDepth, Json.membersReadable,
      hflat.membersDepth, hflat.membersReadable, depthLimit]
  have htag : Json.valuesOf (("state", .text tag) :: members) "state" = [.text tag] := by
    have hothers : members.filter (fun member => member.1 == "state") = [] :=
      List.filter_eq_nil_iff.2 fun member hmember => by simpa using hnames member hmember
    unfold Json.valuesOf
    rw [List.filter_cons, if_pos (beq_self_eq_true "state"), hothers]
    rfl
  have hrest : (("state", Json.text tag) :: members).filter (fun member => member.1 != "state") =
      members := by
    rw [List.filter_cons, if_neg (by simp)]
    exact List.filter_eq_self.2 fun member hmember => by simpa using hnames member hmember
  show (if _ then none else _) = _
  rw [hlimits, if_neg Bool.false_ne_true]
  dsimp only
  rw [htag, hrest]

theorem decode_encode_fresh {r : Rollup} (h : decode (encode r) = some r) :
    decode (encode (fresh r)) = some (fresh r) := by
  refine (decode_tagged r.flat_members (by simp [Rollup.members]) "fresh").trans ?_
  show (decode (encode r)).map fresh = _
  rw [h]
  rfl

theorem decode_encode_stale (reason : String) :
    decode (encode (stale reason)) = some (stale reason) := by
  have hflat : Json.Flat [("reason", .text reason)] := List.forall_mem_singleton.2 ⟨rfl, rfl⟩
  refine (decode_tagged hflat (by simp) "stale").trans ?_
  unfold ofTagged?
  rw [if_neg (by decide), if_pos rfl]
  exact Json.read_back (by decide) rfl rfl

/-- What the tag says is read again, whether it stood beside the fields or first in a list. -/
theorem decode_encode_of_tagged {tag : String} {rest : Json} {outcome : RollupOutcome}
    (finite : rest.isFinite = true) (read : ofTagged? tag rest = some outcome) :
    decode (encode outcome) = some outcome := by
  unfold ofTagged? at read
  split at read
  · obtain ⟨r, hr, rfl⟩ := Option.map_eq_some_iff.1 read
    exact decode_encode_fresh (Settles.decode_encode finite hr)
  · split at read
    · obtain ⟨slots, found, read⟩ := Option.bind_eq_some_iff.1 read
      split at read
      · obtain ⟨reason, -, read⟩ := Option.bind_eq_some_iff.1 read
        cases read
        exact decode_encode_stale reason
      · cases read
    · cases read

end RollupOutcome

instance : Settles RollupOutcome where
  isFinite_encode
    | .fresh r => Json.isFinite_record (by simp [Rollup.members, Json.isFinite])
    | .stale reason => Json.isFinite_record (by simp [Json.isFinite])
  decode_encode {v outcome} finite read := by
    change (if RollupOutcome.depthLimit < v.depth || !v.isReadable then none else _) = _ at read
    split at read
    · cases read
    · split at read
      · split at read
        · -- the fields beside the tag, in whatever order
          refine RollupOutcome.decode_encode_of_tagged ?_ read
          exact Json.isFinite_record fun member hmember =>
            Json.membersFinite_iff.1 finite member (List.mem_filter.1 hmember).1
        · cases read
      · -- the fields behind the tag
        refine RollupOutcome.decode_encode_of_tagged ?_ read
        exact Json.itemsFinite_iff.2 fun item hitem =>
          Json.itemsFinite_iff.1 finite item (List.mem_cons_of_mem _ hitem)
      · cases read

/-! ## Normal forms -/

namespace Wire

/-- What reading a document as a value of the type, and writing the value, makes of it. -/
def rewritten? (α : Type) [Wire α] (v : Json) : Option Json := (decode v : Option α).map encode

/-- Whatever a document is read as, it is written to a document that is accepted and read as the
same value; so writing it a second time changes nothing. -/
structure Normalizes (α : Type) [Wire α] : Prop where
  accepted (v : Json) (a : α) : v.isFinite = true → decode v = some a →
    (encode a).isFinite = true ∧ decode (encode a) = some a
  idempotent (v w : Json) : v.isFinite = true → rewritten? α v = some w →
    rewritten? α w = some w

theorem Settles.normalizes {α : Type} [Wire α] [Settles α] : Normalizes α where
  accepted _ a finite read := ⟨isFinite_encode a, decode_encode finite read⟩
  idempotent v w finite h := by
    obtain ⟨a, read, rfl⟩ := Option.map_eq_some_iff.1 h
    exact Option.map_eq_some_iff.2 ⟨a, decode_encode finite read, rfl⟩

end Wire

/-- **Documents have a normal form**, in each type that documents are read as. -/
theorem documents_normalize :
    (Normalizes NewSession ∧ Normalizes Session) ∧
    (Normalizes NewMessage ∧ Normalizes MessageUpdate ∧ Normalizes Message) ∧
    (Normalizes NewArticle ∧ Normalizes Article) ∧
    (Normalizes NewSubscription ∧ Normalizes Subscription ∧ Normalizes Link ∧
      Normalizes SubscriptionView ∧ Normalizes SubscribeResult ∧ Normalizes MembershipChange) ∧
    (Normalizes Rollup ∧ Normalizes RollupOutcome) ∧
    Normalizes Settings ∧ Normalizes PageRequest ∧ Normalizes UserId ∧
    (Normalizes SessionStatus ∧ Normalizes MessageRole ∧ Normalizes MessageStatus ∧
      Normalizes RecordState ∧ Normalizes SubscriptionStatus ∧ Normalizes LinkStatus ∧
      Normalizes SubscribeOutcome) :=
  ⟨⟨Settles.normalizes, Settles.normalizes⟩,
    ⟨Settles.normalizes, Settles.normalizes, Settles.normalizes⟩,
    ⟨Settles.normalizes, Settles.normalizes⟩,
    ⟨Settles.normalizes, Settles.normalizes, Settles.normalizes, Settles.normalizes,
      Settles.normalizes, Settles.normalizes⟩,
    ⟨Settles.normalizes, Settles.normalizes⟩,
    Settles.normalizes, Settles.normalizes, Settles.normalizes,
    ⟨Settles.normalizes, Settles.normalizes, Settles.normalizes, Settles.normalizes,
      Settles.normalizes, Settles.normalizes, Settles.normalizes⟩⟩

/-- A list with its tag in front, an integer for a number, and an identifier and a time in forms in
which they are never written. -/
theorem documents_normalize_of_list :
    ∃ outcome : RollupOutcome,
      decode (.list [.text "fresh", .text "URN:UUID:67E55044-10B1-426F-9247-BB680E5FE0C8",
        .integer 1, .integer 2, .integer 3, .text "+2026-1-2 3:04:5.000 utc"]) = some outcome ∧
      (encode outcome).isFinite = true ∧ decode (encode outcome) = some outcome := by
  have read : decode (.list [.text "fresh", .text "URN:UUID:67E55044-10B1-426F-9247-BB680E5FE0C8",
      .integer 1, .integer 2, .integer 3, .text "+2026-1-2 3:04:5.000 utc"]) =
        some (RollupOutcome.fresh ⟨.ofNat 0x67E5504410B1426F9247BB680E5FE0C8, 1, 2, 3.0,
          ⟨1767323045, 0, by decide, by decide, by decide⟩⟩) := by
    decide +kernel
  exact ⟨_, read, documents_normalize.2.2.2.2.1.2.accepted _ _ (by decide) read⟩

end ChatLedger
