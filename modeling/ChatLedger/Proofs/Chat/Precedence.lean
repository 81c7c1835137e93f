import ChatLedger.Proofs.Chat.Acceptance
import ChatLedger.Proofs.Chat.Lookups
import ChatLedger.Proofs.Chat.MessageUpdates
import ChatLedger.Proofs.Service.Readable

/-!
# Which error comes first

Input is checked first, without the store. Then what a call is about is looked up, and it is settled
whether it is there, and then whose it is. A new message may find its identifier taken.

1. `ChatCall.refused`: a call whose input breaks a rule asks nothing of the store.
2. `ChatCall.precedes`: any other call that runs alone ends as the rows say, or with a value. Only a
   call that asks for figures has a store call that can fail, and it is supposed not to.
   `ChatCall.unfailing_of_sumsFit`: it does not where the sums that are asked for fit.
3. `errors_in_order`: so each error of a call stands for one situation, and for no other one.
-/

namespace ChatLedger

open Store Time Operation

/-! ## Outcomes in their order -/

/-- What a call ends in where something may be missing, or not be the caller's, or have been taken: the
first of these errors that there is reason for, and a value if there is none. -/
structure Precedes {α : Type} (outcome : Except ServiceError α) (found owned taken : Prop) : Prop where
  missing : ¬ found → ∃ what, outcome = .error (.notFound what)
  foreign : found → ¬ owned → ∃ reason, outcome = .error (.permissionDenied reason)
  clash : owned → taken → ∃ what, outcome = .error (.alreadyExists what)
  passes : owned → ¬ taken → ∃ a, outcome = .ok a

/-- What each outcome of a call says. -/
structure Classifies {α : Type} (outcome : Except ServiceError α) (found owned taken : Prop) :
    Prop where
  notFound : (∃ what, outcome = .error (.notFound what)) ↔ ¬ found
  permissionDenied : (∃ reason, outcome = .error (.permissionDenied reason)) ↔ found ∧ ¬ owned
  alreadyExists : (∃ what, outcome = .error (.alreadyExists what)) ↔ owned ∧ taken
  ok : (∃ a, outcome = .ok a) ↔ owned ∧ ¬ taken

section Precedes

variable {α β : Type} {outcome : Except ServiceError α} {found owned taken : Prop}

theorem Precedes.classifies (h : Precedes outcome found owned taken) (hfound : owned → found) :
    Classifies outcome found owned taken := by
  by_cases hf : found
  · by_cases ho : owned
    · by_cases ht : taken
      · obtain ⟨what, rfl⟩ := h.clash ho ht
        constructor <;> simp [hf, ho, ht]
      · obtain ⟨a, rfl⟩ := h.passes ho ht
        constructor <;> simp [hf, ho, ht]
    · obtain ⟨reason, rfl⟩ := h.foreign hf ho
      constructor <;> simp [hf, ho]
  · obtain ⟨what, rfl⟩ := h.missing hf
    have ho : ¬ owned := fun ho => hf (hfound ho)
    constructor <;> simp [hf, ho]

theorem Precedes.map (h : Precedes outcome found owned taken) (g : α → β) :
    Precedes (outcome.map g) found owned taken where
  missing hf := by
    obtain ⟨what, rfl⟩ := h.missing hf
    exact ⟨what, rfl⟩
  foreign hf ho := by
    obtain ⟨reason, rfl⟩ := h.foreign hf ho
    exact ⟨reason, rfl⟩
  clash ho ht := by
    obtain ⟨what, rfl⟩ := h.clash ho ht
    exact ⟨what, rfl⟩
  passes ho ht := by
    obtain ⟨a, rfl⟩ := h.passes ho ht
    exact ⟨g a, rfl⟩

end Precedes

/-! ## Operations that run alone -/

namespace Operation

variable {α β : Type} {op : Operation α} {f : α → Operation β} {t : Tables} {user : UserId}
  {x : Subject} {found owned taken : Prop}

/-- The operation ends with a value. -/
def Succeeds (op : Operation α) (t : Tables) : Prop := ∃ a, (op.on t).1 = .ok a

theorem succeeds_pure {a : α} : (pure a : Operation α).Succeeds t := ⟨a, rfl⟩

theorem succeeds_ask {r : Request} (h : ∃ a, (r.perform t).1 = .ok a) : (ask r).Succeeds t := by
  obtain ⟨a, ha⟩ := h
  exact ⟨a, congrArg Prod.fst (on_ask (Prod.ext ha rfl))⟩

theorem succeeds_ofProgram {p : Program α} : (ofProgram p).Succeeds t := by
  refine ⟨(Program.run p t).1, ?_⟩
  show (Program.runWith _ (Program.bind p _) t).1 = _
  rw [Program.runWith_bind]
  rfl

theorem succeeds_bind (h : op.Succeeds t) (hf : ∀ a t', (f a).Succeeds t') :
    (op >>= f).Succeeds t := by
  obtain ⟨a, ha⟩ := h
  obtain ⟨b, hb⟩ := hf a (op.on t).2
  exact ⟨b, (congrArg Prod.fst (on_bind_ok (Prod.ext ha rfl))).trans hb⟩

/-- An operation that looks nothing up. -/
theorem Succeeds.precedes (h : op.Succeeds t) : Precedes (op.on t).1 True True False :=
  ⟨fun hf => absurd trivial hf, fun _ ho => absurd trivial ho, fun _ ht => ht.elim, fun _ _ => h⟩

theorem precedes_map {g : α → β} (h : Precedes (op.on t).1 found owned taken) :
    Precedes ((g <$> op).on t).1 found owned taken := by
  rw [on_map (f := g) (Prod.ext rfl rfl : op.on t = ((op.on t).1, (op.on t).2))]
  exact h.map g

/-- A record is added, unless its key is taken, and then nothing fails. -/
theorem precedes_add {r : Request} {f : r.Answer → Operation β} {what : String}
    (clash : taken → ∃ reason, r.perform t = (.error (.conflict reason), t))
    (added : ¬ taken → ∃ a, (r.perform t).1 = .ok a) (hf : ∀ a t', (f a).Succeeds t') :
    Precedes ((askToAdd what r >>= f).on t).1 True True taken where
  missing hf := absurd trivial hf
  foreign _ ho := absurd trivial ho
  clash _ ht := by
    obtain ⟨reason, hperform⟩ := clash ht
    exact ⟨what, congrArg Prod.fst (on_bind_error (on_askWith hperform))⟩
  passes _ ht := by
    obtain ⟨a, ha⟩ := added ht
    obtain ⟨b, hb⟩ := hf a (r.perform t).2
    exact ⟨b, (congrArg Prod.fst (on_bind_ok (on_askWith (Prod.ext ha rfl)))).trans hb⟩

/-- A check that passes. -/
theorem precedes_check {outcome : Except ServiceError α} {a : α} (hok : outcome = .ok a)
    (h : Precedes ((f a).on t).1 found owned taken) :
    Precedes ((check outcome >>= f).on t).1 found owned taken := by
  rw [hok, on_bind_ok (on_check _ t)]
  exact h

end Operation

/-- A look-up and nothing else. -/
theorem LooksUp.alone {α : Type} {op : Operation α} {t : Tables} {user : UserId} {x : Subject}
    (h : LooksUp op t user x) :
    Precedes (op.on t).1 (x.Found t) (x.Owned t user) False where
  missing hf := (h.missing hf).imp fun _ hop => congrArg Prod.fst hop
  foreign hf ho := (h.foreign hf ho).imp fun _ hop => congrArg Prod.fst hop
  clash _ ht := ht.elim
  passes ho _ := (h.passes ho).imp fun _ hop => congrArg Prod.fst hop

/-- A look-up, and then what is done with what has been found. -/
theorem LooksUp.precedes {α β : Type} {op : Operation α} {f : α → Operation β} {t : Tables}
    {user : UserId} {x : Subject} {taken : Prop} (h : LooksUp op t user x)
    (rest : x.Owned t user → ∀ a, Precedes ((f a).on t).1 True True taken) :
    Precedes ((op >>= f).on t).1 (x.Found t) (x.Owned t user) taken where
  missing hf := by
    obtain ⟨what, hop⟩ := h.missing hf
    exact ⟨what, congrArg Prod.fst (on_bind_error hop)⟩
  foreign hf ho := by
    obtain ⟨reason, hop⟩ := h.foreign hf ho
    exact ⟨reason, congrArg Prod.fst (on_bind_error hop)⟩
  clash ho ht := by
    obtain ⟨a, hop⟩ := h.passes ho
    rw [on_bind_ok hop]
    exact (rest ho a).clash trivial ht
  passes ho ht := by
    obtain ⟨a, hop⟩ := h.passes ho
    rw [on_bind_ok hop]
    exact (rest ho a).passes trivial ht

/-! ## Changes that are carried out -/

namespace Store

variable {t : Tables} {Meets : SessionRow → Prop} {id : Uuid} {now : Instant}

theorem Request.exists_settled {α : Type} {change : Change α} {a : α} {t' : Tables}
    (h : change t = .ok (a, t')) : ∃ a, (settle change t).1 = .ok a :=
  ⟨a, congrArg Prod.fst (settle_eq_ok.2 h)⟩

/-- A live session can be changed. -/
theorem Tables.SessionWhere.exists_changed (h : t.SessionWhere Meets id.text)
    (change : SessionRow → SessionRow) : ∃ t', changeSession id change t = .ok ((), t') := by
  obtain ⟨s, hs, hlive, hid, -⟩ := h
  have hany : (t.sessions.any fun r => r.has id && r.isLive) = true :=
    List.any_eq_true.2 ⟨s, hs, by simp [SessionRow.has, hid, hlive]⟩
  exact ⟨_, if_pos hany⟩

theorem Tables.SessionWhere.exists_deleted (h : t.SessionWhere Meets id.text) :
    ∃ a, ((Request.deleteSession id now).perform t).1 = .ok a := by
  obtain ⟨t', hchange⟩ := h.exists_changed (·.setStatus .deleted now)
  have hdelete : deleteSession id now t = .ok (deleteMessages (·.session == id.text) now t') := by
    unfold deleteSession setStatus
    rw [hchange]
    rfl
  exact Request.exists_settled hdelete

/-- A session is added under an identifier that is not in use. -/
theorem Request.exists_sessionCreated {s : Session} (cost : s.totalCost = 0.0)
    (unused : ∀ r ∈ t.sessions, r.id ≠ s.id.text) :
    (Request.createSession s).perform t = (.ok (),
      { t with sessions := t.sessions ++ [.ofSession (nextRow t.sessions) s] }) := by
  have hamount : requireAmount s.totalCost "chat_sessions.total_cost" = .ok () := by
    rw [cost]
    decide +kernel
  have hnone : (t.sessions.any fun r => r.has s.id) = false := by
    simpa [SessionRow.has] using unused
  refine settle_eq_ok.2 ?_
  unfold Tables.insertSession
  rw [hamount, hnone]
  rfl

/-- A message is refused whose identifier is in use, whatever the state of the other message. -/
theorem Request.insertMessage_clash {m : Message} (cost : m.cost.isNaN = false)
    (clash : ∃ r ∈ t.messages, r.id = m.id.text) :
    ∃ reason, (Request.insertMessage m).perform t = (.error (.conflict reason), t) := by
  have hamount : requireAmount m.cost "chat_messages.cost" = .ok () := by
    simp [storedAmount?_of_number cost]
  have hany : (t.messages.any fun r => r.has m.id) = true := by
    simpa [MessageRow.has] using clash
  refine ⟨"message '" ++ m.id.text ++ "' already exists", settle_of_error ?_⟩
  unfold Tables.insertMessage
  rw [hamount, hany]
  rfl

/-- A message is added to a live session under an identifier that is not in use. -/
theorem Request.insertMessage_unused {m : Message} (cost : m.cost.isNaN = false)
    (unused : ∀ r ∈ t.messages, r.id ≠ m.id.text) (known : t.SessionWhere Meets m.session.text) :
    (Request.insertMessage m).perform t = (.ok (),
      { t with messages := t.messages ++ [.ofMessage (nextRow t.messages) m] }) := by
  have hamount : requireAmount m.cost "chat_messages.cost" = .ok () := by
    simp [storedAmount?_of_number cost]
  have hnone : (t.messages.any fun r => r.has m.id) = false := by
    simpa [MessageRow.has] using unused
  obtain ⟨s, hs, -, hid, -⟩ := known
  have hany : (t.sessions.any fun s => s.has m.session) = true :=
    List.any_eq_true.2 ⟨s, hs, beq_iff_eq.2 hid⟩
  refine settle_eq_ok.2 ?_
  unfold Tables.insertMessage
  rw [hamount, hnone, hany]
  rfl

/-- A live message is updated at a time that is read back. -/
theorem Tables.Keyed.exists_messageUpdated (keyed : t.Keyed) (legible : t.ChatLegible)
    {u : MessageUpdate} (clock : now.HasFourDigitYear) {m : MessageRow} (hm : m ∈ t.messages)
    (hlive : m.isLive = true) (hid : m.id = id.text) :
    ∃ a, ((Request.updateMessage id u now).perform t).1 = .ok a := by
  obtain ⟨i, hi⟩ := List.mem_iff_getElem?.1 hm
  have hlegible := (legible.messages m hm).update u clock
  obtain ⟨message, hread, -⟩ := hlegible.exists_message
  have hperform := keyed.perform_updateMessage hi (beq_iff_eq.2 hid) hlive hlegible.status
  exact ⟨message, (congrArg Prod.fst hperform).trans hread⟩

/-- A live message is deleted. -/
theorem Request.exists_messageDeleted {m : MessageRow} (hm : m ∈ t.messages)
    (hlive : m.isLive = true) (hid : m.id = id.text) :
    ∃ a, ((Request.deleteMessage id now).perform t).1 = .ok a := by
  have hany : (t.messages.any fun r => r.has id && r.isLive) = true :=
    List.any_eq_true.2 ⟨m, hm, by simp [MessageRow.has, hid, hlive]⟩
  have hdelete : Tables.deleteMessage id now t = .ok ((), _) := if_pos hany
  exact Request.exists_settled hdelete

end Store

/-! ## Calls -/

namespace ChatCall

/-- What the call is about. -/
def subject : ChatCall → Subject
  | .getSession _ id | .updateTopic _ id _ _ | .finishSession _ id _ | .deleteSession _ id _
  | .recompute _ id _ | .createMessage _ id _ _ _ | .listMessages _ id _ _
  | .sessionMessageStats _ id => .session id
  | .getMessage _ id | .updateMessage _ id _ _ | .deleteMessage _ id _ => .message id
  | _ => .nothing

/-- The input of the call keeps to the rules. -/
def Acceptable (settings : Settings) : ChatCall → Prop
  | .createSession _ input _ _ => input.Acceptable
  | .updateTopic _ _ topic _ => Text.Within Limit.sessionTopic topic
  | .searchSessions _ keyword _ _ | .searchMessages _ keyword _ _ =>
    Text.Within Limit.keyword keyword
  | .createMessage _ _ input _ _ => input.Acceptable settings
  | .updateMessage _ _ update _ => update.Acceptable settings
  | _ => True

/-- The call brings the identifier of a message, of whatever user and state. -/
def Clashes (t : Tables) : ChatCall → Prop
  | .createMessage _ _ input _ _ => ∃ id ∈ input.id, ∃ m ∈ t.messages, m.id = id.text
  | _ => False

/-- The identifier that is made for the call, if it makes use of it, is not in use yet. -/
def HasNewId (t : Tables) : ChatCall → Prop
  | .createSession _ _ _ fresh => ∀ s ∈ t.sessions, s.id ≠ fresh.text
  | .createMessage _ _ input _ fresh => input.id = none → ∀ m ∈ t.messages, m.id ≠ fresh.text
  | _ => True

/-- The call asks for figures, which the store sums up in 64 bits. -/
def SumsUp : ChatCall → Prop
  | .sessionStats _ | .modelUsage _ | .sessionMessageStats _ _ | .userMessageStats _ => True
  | _ => False

/-- A program that begins with a check that fails asks nothing of the store. -/
theorem refused_of_check {α β : Type} {outcome : Except ServiceError α} {f : α → Operation β}
    {g : β → ChatReply} {reason : String} (h : outcome = .error (.validationFailed reason)) :
    (g <$> (check outcome >>= f)).run = .done (.error (.validationFailed reason)) := by
  rw [h]
  rfl

/-- **Input that breaks a rule** is refused, and nothing is asked of the store. -/
theorem refused {settings : Settings} {c : ChatCall} (h : ¬ c.Acceptable settings) :
    ∃ reason, c.program settings = .done (.error (.validationFailed reason)) := by
  cases c with
  | createSession user input now fresh =>
    have topic := Validation.requiredText_decides "topic" input.topic Limit.sessionTopic
    by_cases htopic : Text.Within Limit.sessionTopic input.topic
    · cases hinput : input.model with
      | none => exact absurd ⟨htopic, by simp [hinput]⟩ h
      | some model =>
        have hmodel : ¬ Text.Within Limit.sessionModel model := fun hmodel =>
          h ⟨htopic, by simpa [hinput] using hmodel⟩
        obtain ⟨reason, hrefused⟩ :=
          (Validation.requiredText_decides "model" model Limit.sessionModel).refuses hmodel
        refine ⟨reason, ?_⟩
        show (ChatReply.session <$> Sessions.create settings user input now fresh).run = _
        unfold Sessions.create
        rw [topic.passes htopic, hinput]
        dsimp only
        rw [hrefused]
        rfl
    · obtain ⟨reason, hrefused⟩ := topic.refuses htopic
      exact ⟨reason, refused_of_check hrefused⟩
  | updateTopic user id topic now =>
    obtain ⟨reason, hrefused⟩ :=
      (Validation.requiredText_decides "topic" topic Limit.sessionTopic).refuses h
    exact ⟨reason, refused_of_check hrefused⟩
  | searchSessions user keyword page size =>
    obtain ⟨reason, hrefused⟩ :=
      (Validation.requiredText_decides "keyword" keyword Limit.keyword).refuses h
    exact ⟨reason, refused_of_check hrefused⟩
  | searchMessages user keyword page size =>
    obtain ⟨reason, hrefused⟩ :=
      (Validation.requiredText_decides "keyword" keyword Limit.keyword).refuses h
    exact ⟨reason, refused_of_check hrefused⟩
  | createMessage user session input clock fresh =>
    obtain ⟨reason, hrefused⟩ := (Messages.validateNew_decides settings input).refuses h
    exact ⟨reason, refused_of_check hrefused⟩
  | updateMessage user id update clock =>
    obtain ⟨reason, hrefused⟩ := (Messages.validateUpdate_decides settings update).refuses h
    exact ⟨reason, refused_of_check hrefused⟩
  | _ => exact absurd trivial h

section Precedes

variable {settings : Settings} {t : Tables} {user : UserId} {id : Uuid} {now : Instant}
  {clock : Clock}

/-- The end of a call that has changed a message. -/
theorem succeeds_refreshed {α : Type} {value : α} {t : Tables} :
    Succeeds (do return ({ value := value, rollup := ← ofProgram (Sessions.refresh id now) } :
      Refreshed α)) t :=
  succeeds_bind succeeds_ofProgram fun _ _ => succeeds_pure

theorem precedes_createSession {input : NewSession} {fresh : Uuid} (acceptable : input.Acceptable)
    (unused : ∀ s ∈ t.sessions, s.id ≠ fresh.text) :
    Precedes ((Sessions.create settings user input now fresh).on t).1 True True False := by
  have topic := Validation.requiredText_decides "topic" input.topic Limit.sessionTopic
  unfold Sessions.create
  refine precedes_check (topic.passes acceptable.topic) ?_
  have added (s : Session) (cost : s.totalCost = 0.0) (hid : s.id = fresh) :
      ∃ a, ((Request.createSession s).perform t).1 = .ok a :=
    ⟨(), congrArg Prod.fst (Request.exists_sessionCreated cost (hid ▸ unused))⟩
  cases hinput : input.model with
  | none =>
    exact precedes_add (fun h => h.elim) (fun _ => added _ rfl rfl) fun _ _ => succeeds_pure
  | some model =>
    have hmodel := acceptable.model model hinput
    have model := Validation.requiredText_decides "model" model Limit.sessionModel
    refine precedes_check (model.passes hmodel) ?_
    exact precedes_add (fun h => h.elim) (fun _ => added _ rfl rfl) fun _ _ => succeeds_pure

theorem precedes_createMessage {input : NewMessage} {fresh : Uuid} (keyed : t.Keyed)
    (legible : t.ChatLegible) (acceptable : input.Acceptable settings)
    (unused : input.id = none → ∀ m ∈ t.messages, m.id ≠ fresh.text) :
    Precedes ((Messages.create settings user id input clock fresh).on t).1
      ((Subject.session id).Found t) ((Subject.session id).Owned t user)
      (∃ id ∈ input.id, ∃ m ∈ t.messages, m.id = id.text) := by
  have number : (Messages.ofInput id input (clock 0) fresh).cost.isNaN = false :=
    number_of_isFinite acceptable.cost.finite
  unfold Messages.create
  refine precedes_check ((Messages.validateNew_decides settings input).passes acceptable) ?_
  refine (looksUp_session keyed legible).precedes fun howned session => ?_
  refine precedes_add (fun hclash => ?_) (fun hclear => ?_) fun _ _ => succeeds_refreshed
  · obtain ⟨own, hown, hclash⟩ := hclash
    have hid : (Messages.ofInput id input (clock 0) fresh).id = own := congrArg (·.getD fresh) hown
    exact Request.insertMessage_clash number (hid ▸ hclash)
  · have clear : ∀ m ∈ t.messages, m.id ≠ (Messages.ofInput id input (clock 0) fresh).id.text := by
      cases hinput : input.id with
      | none => simpa [Messages.ofInput, hinput] using unused hinput
      | some own =>
        intro m hm hid
        exact hclear ⟨own, hinput, m, hm, by simpa [Messages.ofInput, hinput] using hid⟩
    exact ⟨(), congrArg Prod.fst (Request.insertMessage_unused number clear howned)⟩

/-- **A call whose input keeps to the rules** and that runs alone ends as the rows say. -/
theorem precedes {c : ChatCall} (acceptable : c.Acceptable settings) (keyed : t.Keyed)
    (legible : t.ChatLegible)
    (years : ∀ now ∈ c.readings, now.HasFourDigitYear) (unused : c.HasNewId t)
    (unfailing : c.SumsUp → (c.operation settings).Unfailing t) :
    Precedes ((c.operation settings).on t).1 (c.subject.Found t) (c.subject.Owned t c.user)
      (c.Clashes t) := by
  have finds {r : Request} (hr : r.FindsChat) : (ask r).Succeeds t :=
    succeeds_ask (legible.exists_answer hr)
  have lists {α : Type} {r : Request} {g : r.Answer → α} (hr : r.FindsChat) :
      Succeeds (do return g (← ask r)) t := succeeds_bind (finds hr) fun _ _ => succeeds_pure
  have session (user : UserId) (id : Uuid) :
      LooksUp (Sessions.owned user id) t user (.session id) := looksUp_session keyed legible
  have message (user : UserId) (id : Uuid) :
      LooksUp (Messages.owned user id) t user (.message id) := looksUp_message keyed legible
  cases c with
  | createSession user input now fresh =>
    exact precedes_map (precedes_createSession acceptable unused)
  | getSession user id => exact precedes_map (session user id).alone
  | updateTopic user id topic now =>
    have checked := Validation.requiredText_decides "topic" topic Limit.sessionTopic
    refine precedes_map (precedes_check (checked.passes acceptable) ?_)
    refine (session user id).precedes fun howned _ => Succeeds.precedes ?_
    obtain ⟨t', hchange⟩ := Tables.SessionWhere.exists_changed howned (·.setTopic _ now)
    exact succeeds_bind (succeeds_ask (Request.exists_settled hchange)) fun _ _ => succeeds_pure
  | finishSession user id now =>
    refine precedes_map ((session user id).precedes fun howned found => Succeeds.precedes ?_)
    obtain ⟨t', hchange⟩ := Tables.SessionWhere.exists_changed howned (·.setStatus .ended now)
    split
    · exact succeeds_pure
    · exact succeeds_bind (succeeds_ask (Request.exists_settled hchange)) fun _ _ => succeeds_pure
  | deleteSession user id now =>
    refine precedes_map ((session user id).precedes fun howned _ => Succeeds.precedes ?_)
    exact succeeds_ask (Tables.SessionWhere.exists_deleted howned)
  | deleteAllSessions user now =>
    exact precedes_map (Succeeds.precedes (succeeds_ask (Request.exists_settled rfl)))
  | recompute user id now =>
    exact precedes_map ((session user id).precedes fun _ _ => Succeeds.precedes succeeds_ofProgram)
  | createMessage user session input clock fresh =>
    exact precedes_map (precedes_createMessage keyed legible acceptable unused)
  | getMessage user id => exact precedes_map (message user id).alone
  | updateMessage user id update clock =>
    have checked := Messages.validateUpdate_decides settings update
    refine precedes_map (precedes_check (checked.passes acceptable) ?_)
    refine (message user id).precedes fun howned _ => Succeeds.precedes ?_
    obtain ⟨m, hm, hlive, hid, -⟩ := howned
    have hupdated : ∃ a, ((Request.updateMessage id update (clock 0)).perform t).1 = .ok a :=
      keyed.exists_messageUpdated legible (years _ List.mem_cons_self) hm hlive hid
    exact succeeds_bind (succeeds_ask hupdated) fun _ _ => succeeds_refreshed
  | deleteMessage user id clock =>
    refine precedes_map ((message user id).precedes fun howned _ => Succeeds.precedes ?_)
    obtain ⟨m, hm, hlive, hid, -⟩ := howned
    have hdeleted : ∃ a, ((Request.deleteMessage id (clock 0)).perform t).1 = .ok a :=
      Request.exists_messageDeleted hm hlive hid
    exact succeeds_bind (succeeds_ask hdeleted) fun _ _ => succeeds_refreshed
  | listMessages user id page size =>
    exact precedes_map ((session user id).precedes fun _ _ => Succeeds.precedes (lists trivial))
  | sessionMessageStats user id =>
    refine precedes_map ((session user id).precedes fun howned _ => Succeeds.precedes ?_)
    obtain ⟨_, hfound⟩ := (session user id).passes howned
    have figures := ((unfailing_bind hfound).1 (unfailing_map.1 (unfailing trivial))).2
    exact succeeds_ask (figures.exists_answer (Tables.failsOnly_messageStats _))
  | searchSessions user keyword page size =>
    have checked := Validation.requiredText_decides "keyword" keyword Limit.keyword
    have passed := checked.passes acceptable
    exact precedes_map (precedes_check passed (Succeeds.precedes (lists trivial)))
  | searchMessages user keyword page size =>
    have checked := Validation.requiredText_decides "keyword" keyword Limit.keyword
    have passed := checked.passes acceptable
    exact precedes_map (precedes_check passed (Succeeds.precedes (lists trivial)))
  | listSessions user page size => exact precedes_map (Succeeds.precedes (lists trivial))
  | listUserMessages user page size => exact precedes_map (Succeeds.precedes (lists trivial))
  | errorMessages user page size => exact precedes_map (Succeeds.precedes (lists trivial))
  | recentMessages user limit => exact precedes_map (Succeeds.precedes (finds trivial))
  | sessionStats user =>
    have figures := unfailing_map.1 (unfailing trivial)
    exact precedes_map (Succeeds.precedes
      (succeeds_ask (figures.exists_answer (t.failsOnly_sessionStats user))))
  | modelUsage user =>
    have figures := unfailing_map.1 (unfailing trivial)
    exact precedes_map (Succeeds.precedes
      (succeeds_ask (figures.exists_answer (t.failsOnly_modelUsage user))))
  | userMessageStats user =>
    have figures := unfailing_map.1 (unfailing trivial)
    exact precedes_map (Succeeds.precedes
      (succeeds_ask (figures.exists_answer (Tables.failsOnly_messageStats _))))

/-- The sums that the call asks for fit 64 bits: for the figures of a session those over its messages
alone. -/
def SumsFit (t : Tables) : ChatCall → Prop
  | .sessionMessageStats _ id => ((t.messagesIn id).map (·.tokens)).sum ≤ Bounds.highest
  | .sessionStats user | .modelUsage user | .userMessageStats user => t.FitsFor user
  | _ => True

theorem unfailing_owned (legible : t.ChatLegible) : (Sessions.owned user id).Unfailing t :=
  (unfailing_of_answer (legible.exists_answer (r := .getSession id) trivial)).bind fun _ _ _ =>
    unfailing_check.bind fun _ _ _ => unfailing_check.bind fun _ _ _ => unfailing_pure

/-- **Figures are computed** without a failure where the sums fit. -/
theorem unfailing_of_sumsFit {c : ChatCall} (keyed : t.Keyed) (legible : t.ChatLegible)
    (orderly : t.Orderly) (counted : t.Counted) (fits : c.SumsFit t) (hsums : c.SumsUp) :
    (c.operation settings).Unfailing t := by
  cases c with
  | sessionStats user =>
    exact unfailing_map.2 (unfailing_of_answer (fits.exists_sessionStats counted keyed))
  | modelUsage user =>
    exact unfailing_map.2 (unfailing_of_answer (fits.exists_modelUsage counted keyed))
  | userMessageStats user =>
    exact unfailing_map.2 (unfailing_of_answer (fits.exists_userMessageStats orderly keyed))
  | sessionMessageStats user id =>
    have figures : ∃ stats, t.sessionMessageStats id = .ok stats :=
      Tables.exists_messageStats (fun m hm => orderly.counted m
        (List.mem_filter.1 ((t.messagesIn_perm id).mem_iff.1 hm)).1) fits
    refine unfailing_map.2 ((unfailing_owned legible).bind fun _ t' hon => ?_)
    obtain ⟨-, rfl⟩ := (looksUp_session keyed legible).owned_of_ok hon
    exact unfailing_of_answer figures
  | _ => cases hsums

end Precedes

end ChatCall

/-- **The errors of a call come in a fixed order.** Calls of all services run at the same time on an
empty store, at times that can be read back, and any of their store calls may fail. Then a call of the
chat service runs alone. If its input breaks a rule, it is refused whatever the store holds, and asks
nothing of it. Otherwise it finds nothing just when the session is not a live one, or the message not a
live one in such a session; it is denied just when the session is another user's; a new message clashes
just when any message has the identifier that it brings; and in all other cases the call succeeds. A
made identifier is supposed to be new. Only sums can fail: where the call asks for figures, none of its
own store calls is supposed to fail. -/
theorem errors_in_order {ι : Type} [DecidableEq ι] (settings : ι → Settings)
    {calls : ι → ServiceCall} (clocks : ∀ i, ∀ now ∈ (calls i).readings, now.HasFourDigitYear)
    (schedule : List (Turn ι)) (s : Settings) {c : ChatCall}
    (clock : ∀ now ∈ c.readings, now.HasFourDigitYear) :
    let t := ((World.mk {} (fun i => (calls i).program (settings i)) []).run schedule).tables
    (¬ c.Acceptable s → ∃ reason, c.program s = .done (.error (.validationFailed reason))) ∧
      (c.Acceptable s → c.HasNewId t → (c.SumsUp → (c.operation s).Unfailing t) →
        Classifies ((c.operation s).on t).1 (c.subject.Found t) (c.subject.Owned t c.user)
          (c.Clashes t)) := by
  intro t
  refine ⟨ChatCall.refused, fun acceptable unused unfailing => ?_⟩
  have trace := World.trace_run {} (fun i => (calls i).program (settings i)) schedule
  have keyed : t.Keyed := trace.keyed Tables.keyed_empty
  have legible : t.ChatLegible := World.chatLegible_run settings clocks schedule
  have outcome := ChatCall.precedes acceptable keyed legible clock unused unfailing
  exact outcome.classifies Subject.Owned.found

/-- A user adds a message and deletes it again; another user has a session as well. -/
def deletedMessage : Fin 4 → ServiceCall
  | 0 => .chat (.createSession ⟨1⟩ ⟨"plans", none, none⟩ .start2026 (.ofNat 1))
  | 1 => .chat (.createMessage ⟨1⟩ (.ofNat 1) ⟨none, .user, "hello", 3, 0.5, .normal, none⟩
      .start2026 (.ofNat 2))
  | 2 => .chat (.deleteMessage ⟨1⟩ (.ofNat 2) .start2026)
  | 3 => .chat (.createSession ⟨2⟩ ⟨"notes", none, none⟩ .start2026 (.ofNat 3))

/-- The other user adds a message under the identifier of the deleted one, or without any content, and
asks for figures. -/
theorem errors_in_order_on_clash :
    let t := ((World.mk {} (fun i => (deletedMessage i).program {}) []).run
      ([0, 1, 1, 1, 2, 2, 2, 2, 3].map .calm)).tables
    let add (content : String) : ChatCall := .createMessage ⟨2⟩ (.ofNat 3)
      ⟨some (.ofNat 2), .user, content, 3, 0.5, .normal, none⟩ .start2026 (.ofNat 4)
    let figures : ChatCall := .sessionMessageStats ⟨2⟩ (.ofNat 3)
    (∀ i, ∀ now ∈ (deletedMessage i).readings, now.HasFourDigitYear) ∧
      (∀ now ∈ (add "hi").readings, now.HasFourDigitYear) ∧ (add "hi").Acceptable {} ∧
      (add "hi").HasNewId t ∧ (add "hi").subject.Owned t ⟨2⟩ ∧ (add "hi").Clashes t ∧
      (∀ m ∈ t.messages, m.isLive = false) ∧
      (∃ what, (((add "hi").operation {}).on t).1 = .error (.alreadyExists what)) ∧
      ¬ (add " ").Acceptable {} ∧
      (∃ reason, (add " ").program {} = .done (.error (.validationFailed reason))) ∧
      figures.SumsUp ∧ (figures.operation {}).Unfailing t ∧
      ∃ reply, ((figures.operation {}).on t).1 = .ok reply := by
  intro t add figures
  have clocks : ∀ i, ∀ now ∈ (deletedMessage i).readings, now.HasFourDigitYear := by decide +kernel
  have clock (content : String) : ∀ now ∈ (add content).readings, now.HasFourDigitYear := by
    show ∀ now ∈ [Instant.start2026, Instant.start2026], now.HasFourDigitYear
    decide +kernel
  have acceptable : (add "hi").Acceptable {} :=
    ⟨by decide +kernel, by decide +kernel, by simp⟩
  have blank : ¬ (add " ").Acceptable {} := fun h => h.content.something (by decide +kernel)
  have unused : (add "hi").HasNewId t := fun hnone => by cases hnone
  obtain ⟨owned, taken, deleted⟩ :
      (∃ s ∈ t.sessions, s.isLive = true ∧ s.id = Uuid.text (.ofNat 3) ∧ s.owner = 2) ∧
        (∃ m ∈ t.messages, m.id = Uuid.text (.ofNat 2)) ∧ (∀ m ∈ t.messages, m.isLive = false) := by
    decide +kernel
  have clashes : (add "hi").Clashes t := ⟨.ofNat 2, rfl, taken⟩
  have unfailing : (figures.operation {}).Unfailing t := by
    have trace := World.trace_run {} (fun i => (deletedMessage i).program {})
      ([0, 1, 1, 1, 2, 2, 2, 2, 3].map .calm)
    have none : t.messagesIn (.ofNat 3) = [] := by
      refine List.eq_nil_iff_forall_not_mem.2 fun m hm => ?_
      obtain ⟨hmem, hshown⟩ := List.mem_filter.1 ((t.messagesIn_perm _).mem_iff.1 hm)
      exact absurd (Tables.shows_eq_true.1 hshown).1 (by simp [deleted m hmem])
    have fits : figures.SumsFit t := by
      show ((t.messagesIn (.ofNat 3)).map (·.tokens)).sum ≤ Bounds.highest
      rw [none]
      decide
    exact ChatCall.unfailing_of_sumsFit (trace.keyed Tables.keyed_empty)
      (World.chatLegible_run (fun _ => {}) clocks _) trace.orderly
      (trace.counted fun _ he => (World.makes_of_mem he).opensAtZero) fits trivial
  have order {c : ChatCall} (clock : ∀ now ∈ c.readings, now.HasFourDigitYear) :=
    errors_in_order (fun _ => {}) clocks ([0, 1, 1, 1, 2, 2, 2, 2, 3].map .calm) {} clock
  have classified := (order (clock "hi")).2 acceptable unused fun hsums => hsums.elim
  have noTime : ∀ now ∈ figures.readings, now.HasFourDigitYear := by
    rintro now ⟨⟩
  have computed := (order noTime).2 trivial trivial fun _ => unfailing
  exact ⟨clocks, clock "hi", acceptable, unused, owned, clashes, deleted,
    classified.alreadyExists.2 ⟨owned, clashes⟩, blank, (order (clock " ")).1 blank, trivial,
    unfailing, computed.ok.2 ⟨owned, not_false⟩⟩

end ChatLedger
