import ChatLedger.Service.Operation

/-!
# Paths through programs

The store calls that a program makes and the answers it gets, whatever the store does between two
of its calls.

1. `Program.Path p l q`: once its calls have been answered as in `l`, `q` is left of `p`.
2. `Operation.Ends op l outcome`: the calls answered as in `l` bring the operation to its end.
   The `ends_…` lemmas take such a path apart along the operation.
3. `ends_retry`: a bounded repetition is a number of lost attempts and one that counts.
4. `Program.Asks P p`: every call that the program may ever make satisfies `P`.
-/

namespace ChatLedger.Store

/-- A store call and its answer. -/
structure Exchange where
  request : Request
  answer : Except StoreError request.Answer

namespace Program

variable {α β : Type}

/-- What is left of a program once its calls have been answered. -/
inductive Path : Program α → List Exchange → Program α → Prop where
  | nil (p : Program α) : Path p [] p
  | cons {request : Request} {next : Except StoreError request.Answer → Program α}
      {answer : Except StoreError request.Answer} {l : List Exchange} {q : Program α}
      (rest : Path (next answer) l q) : Path (call request next) (⟨request, answer⟩ :: l) q

/-- A path that reaches a call goes on with any answer to it. -/
theorem Path.snoc {p : Program α} {l : List Exchange} {request : Request}
    {next : Except StoreError request.Answer → Program α} (h : Path p l (call request next))
    (answer : Except StoreError request.Answer) :
    Path p (l ++ [⟨request, answer⟩]) (next answer) := by
  generalize hq : call request next = q at h
  induction h with
  | nil p => subst hq; exact .cons (.nil _)
  | cons _ ih => exact .cons (ih hq)

/-- Nothing comes after the end. -/
theorem path_done {a : α} {l : List Exchange} {q : Program α} (h : Path (done a) l q) :
    l = [] ∧ q = done a := by
  cases h; exact ⟨rfl, rfl⟩

/-- A path goes on with any path of what is left. -/
theorem Path.append {p q r : Program α} {l₁ l₂ : List Exchange} (h₁ : Path p l₁ q)
    (h₂ : Path q l₂ r) : Path p (l₁ ++ l₂) r := by
  induction h₁ with
  | nil p => exact h₂
  | cons _ ih => exact .cons (ih h₂)

/-- Every program can be brought to its end. -/
theorem exists_path_done (p : Program α) : ∃ l a, Path p l (done a) := by
  induction p with
  | done a => exact ⟨[], a, .nil _⟩
  | call request next ih =>
    obtain ⟨l, a, h⟩ := ih (.error .notFound)
    exact ⟨_, a, .cons h⟩

/-- The path of a sequence is a path of its first program and then one of its second. -/
theorem path_bind {p : Program α} {f : α → Program β} {l : List Exchange} {b : β}
    (h : Path (p.bind f) l (done b)) :
    ∃ a l₁ l₂, l = l₁ ++ l₂ ∧ Path p l₁ (done a) ∧ Path (f a) l₂ (done b) := by
  induction p generalizing l with
  | done a => exact ⟨a, [], l, rfl, .nil _, h⟩
  | call request next ih =>
    cases h with
    | cons rest =>
      obtain ⟨a, l₁, l₂, rfl, h₁, h₂⟩ := ih _ rest
      exact ⟨a, _ :: l₁, l₂, rfl, .cons h₁, h₂⟩

/-! ## The calls that a program may make -/

/-- Every call that the program may ever make satisfies the condition. -/
def Asks (P : Request → Prop) : Program α → Prop
  | done _ => True
  | call request next => P request ∧ ∀ answer, (next answer).Asks P

theorem Asks.bind {P : Request → Prop} {p : Program α} {f : α → Program β} (hp : p.Asks P)
    (hf : ∀ a, (f a).Asks P) : (p.bind f).Asks P := by
  induction p with
  | done a => exact hf a
  | call request next ih => exact ⟨hp.1, fun answer => ih answer (hp.2 answer)⟩

theorem Asks.mono {P Q : Request → Prop} {p : Program α} (hp : p.Asks P)
    (h : ∀ r, P r → Q r) : p.Asks Q := by
  induction p with
  | done a => exact trivial
  | call request next ih => exact ⟨h _ hp.1, fun answer => ih answer (hp.2 answer)⟩

/-- The calls on a path are calls of its program. -/
theorem Asks.mem_path {P : Request → Prop} {p q : Program α} {l : List Exchange} (hp : p.Asks P)
    (h : Path p l q) : ∀ x ∈ l, P x.request := by
  induction h with
  | nil _ => simp
  | cons _ ih => exact List.forall_mem_cons.2 ⟨hp.1, ih (hp.2 _)⟩

end Program

end ChatLedger.Store

namespace ChatLedger.Operation

open Store Program

variable {α β : Type}

/-- The calls answered as in `l` bring the operation to this outcome. -/
def Ends (op : Operation α) (l : List Exchange) (outcome : Except ServiceError α) : Prop :=
  Path op.run l (done outcome)

/-! ## Ends, along the operation -/

theorem ends_pure {a : α} {l : List Exchange} {outcome : Except ServiceError α} :
    Ends (pure a) l outcome ↔ l = [] ∧ outcome = .ok a := by
  constructor
  · intro h
    obtain ⟨rfl, hq⟩ := path_done h
    exact ⟨rfl, done.inj hq⟩
  · rintro ⟨rfl, rfl⟩
    exact .nil _

theorem ends_check {a : Except ServiceError α} {l : List Exchange}
    {outcome : Except ServiceError α} : Ends (check a) l outcome ↔ l = [] ∧ outcome = a := by
  constructor
  · intro h
    obtain ⟨rfl, hq⟩ := path_done h
    exact ⟨rfl, done.inj hq⟩
  · rintro ⟨rfl, rfl⟩
    exact .nil _

theorem ends_fail {e : ServiceError} {l : List Exchange} {outcome : Except ServiceError α} :
    Ends (fail e) l outcome ↔ l = [] ∧ outcome = .error e := ends_check

theorem ends_askWith {explain : StoreError → ServiceError} {r : Request} {l : List Exchange}
    {outcome : Except ServiceError r.Answer} :
    Ends (askWith explain r) l outcome ↔ ∃ a, l = [⟨r, a⟩] ∧ outcome = a.mapError explain := by
  constructor
  · intro h
    cases h with
    | @cons _ _ answer _ _ rest =>
      obtain ⟨rfl, hq⟩ := path_done rest
      exact ⟨answer, rfl, done.inj hq⟩
  · rintro ⟨a, rfl, rfl⟩
    exact .cons (.nil _)

theorem ends_ask {r : Request} {l : List Exchange} {outcome : Except ServiceError r.Answer} :
    Ends (ask r) l outcome ↔ ∃ a, l = [⟨r, a⟩] ∧ outcome = a.mapError .ofStore := ends_askWith

/-- An operation that goes on after another either fails with it or takes its value further. -/
theorem ends_bind {op : Operation α} {f : α → Operation β} {l : List Exchange}
    {outcome : Except ServiceError β} (h : Ends (op >>= f) l outcome) :
    (∃ e, Ends op l (.error e) ∧ outcome = .error e) ∨
      ∃ a l₁ l₂, l = l₁ ++ l₂ ∧ Ends op l₁ (.ok a) ∧ Ends (f a) l₂ outcome := by
  obtain ⟨a, l₁, l₂, rfl, h₁, h₂⟩ := path_bind (p := op.run) h
  cases a with
  | ok a => exact .inr ⟨a, l₁, l₂, rfl, h₁, h₂⟩
  | error e =>
    obtain ⟨rfl, hq⟩ := path_done h₂
    rw [List.append_nil]
    exact .inl ⟨e, h₁, done.inj hq⟩

/-- A value at the end of a sequence comes from a value of its first part. -/
theorem ends_bind_ok {op : Operation α} {f : α → Operation β} {l : List Exchange} {b : β}
    (h : Ends (op >>= f) l (.ok b)) :
    ∃ a l₁ l₂, l = l₁ ++ l₂ ∧ Ends op l₁ (.ok a) ∧ Ends (f a) l₂ (.ok b) := by
  rcases ends_bind h with ⟨e, -, he⟩ | h
  · cases he
  · exact h

/-- A call that is answered with a value was answered so by the store. -/
theorem ends_askWith_ok {explain : StoreError → ServiceError} {r : Request} {l : List Exchange}
    {a : r.Answer} (h : Ends (askWith explain r) l (.ok a)) : l = [⟨r, .ok a⟩] := by
  obtain ⟨answer, rfl, ha⟩ := ends_askWith.1 h
  cases answer with
  | ok b => cases ha; rfl
  | error e => cases ha

theorem ends_ask_ok {r : Request} {l : List Exchange} {a : r.Answer}
    (h : Ends (ask r) l (.ok a)) : l = [⟨r, .ok a⟩] := ends_askWith_ok h

theorem ends_ofProgram {p : Program α} {l : List Exchange} {outcome : Except ServiceError α}
    (h : Ends (ofProgram p) l outcome) : ∃ a, Path p l (done a) ∧ outcome = .ok a := by
  obtain ⟨a, l₁, l₂, rfl, h₁, h₂⟩ := path_bind (p := p) h
  obtain ⟨rfl, hq⟩ := path_done h₂
  exact ⟨a, by simpa using h₁, done.inj hq⟩

theorem ends_map {f : α → β} {op : Operation α} {l : List Exchange}
    {outcome : Except ServiceError β} (h : Ends (f <$> op) l outcome) :
    ∃ a, Ends op l a ∧ outcome = a.map f := by
  obtain ⟨a, l₁, l₂, rfl, h₁, h₂⟩ := path_bind (p := op.run) h
  obtain ⟨rfl, hq⟩ : l₂ = [] ∧ done outcome = done (a.map f) := by
    cases a <;> exact path_done h₂
  rw [List.append_nil]
  exact ⟨a, h₁, done.inj hq⟩

theorem ends_map_ok {f : α → β} {op : Operation α} {l : List Exchange} {b : β}
    (h : Ends (f <$> op) l (.ok b)) : ∃ a, Ends op l (.ok a) ∧ b = f a := by
  obtain ⟨outcome, h, hb⟩ := ends_map h
  cases outcome with
  | error e => cases hb
  | ok a => exact ⟨a, h, Except.ok.inj hb⟩

/-! ## Calls, along the operation -/

/-- Every call that the operation may ever make satisfies the condition. -/
structure Asks (P : Request → Prop) (op : Operation α) : Prop where
  asks : Program.Asks P op.run

section Asks

variable {P : Request → Prop}

theorem asks_pure (a : α) : Asks P (pure a : Operation α) := ⟨trivial⟩

theorem asks_check (a : Except ServiceError α) : Asks P (check a) := ⟨trivial⟩

theorem asks_askWith {explain : StoreError → ServiceError} {r : Request} (h : P r) :
    Asks P (askWith explain r) := ⟨h, fun _ => trivial⟩

theorem asks_ask {r : Request} (h : P r) : Asks P (ask r) := asks_askWith h

theorem asks_bind {op : Operation α} {f : α → Operation β} (h : Asks P op)
    (hf : ∀ a, Asks P (f a)) : Asks P (op >>= f) := by
  refine ⟨Program.Asks.bind (p := op.run) h.asks fun a => ?_⟩
  cases a with
  | ok a => exact (hf a).asks
  | error e => exact trivial

/-- What comes after a check is asked only with what the check lets through. -/
theorem asks_check_bind {outcome : Except ServiceError α} {f : α → Operation β}
    (hf : ∀ a, outcome = .ok a → Asks P (f a)) : Asks P (check outcome >>= f) := by
  cases outcome with
  | ok a => exact hf a rfl
  | error e => exact ⟨trivial⟩

theorem asks_pure_bind {a : α} {f : α → Operation β} (h : Asks P (f a)) :
    Asks P (pure a >>= f) := h

theorem asks_map {f : α → β} {op : Operation α} (h : Asks P op) : Asks P (f <$> op) := by
  refine ⟨Program.Asks.bind (p := op.run) h.asks fun a => ?_⟩
  cases a <;> exact trivial

theorem asks_ofProgram {p : Program α} (h : p.Asks P) : Asks P (ofProgram p) :=
  ⟨Program.Asks.bind h fun _ => trivial⟩

end Asks

/-! ## Repetition -/

/-- The attempts that lost a race, one after the other. -/
def Lost (attempt : Nat → Operation α) (attempts : List (List Exchange)) : Prop :=
  ∀ l ∈ attempts, ∃ made reason, Ends (attempt made) l (.error (.conflict reason))

/-- A repetition is a number of lost attempts, fewer than the budget, and one that counts. -/
theorem ends_retry_loop {attempt : Nat → Operation α} {more : Nat} {l : List Exchange}
    {outcome : Except ServiceError α}
    (h : Path (ChatLedger.retry (fun made => (attempt made).run) more) l (done outcome)) :
    ∃ lost last, l = lost.flatten ++ last ∧ lost.length ≤ more ∧ Lost attempt lost ∧
      ∃ made, Ends (attempt made) last outcome := by
  induction more generalizing attempt l with
  | zero => exact ⟨[], l, by simp, Nat.le_refl _, by simp [Lost], 0, h⟩
  | succ more ih =>
    obtain ⟨a, l₁, l₂, rfl, h₁, h₂⟩ := path_bind (p := (attempt 0).run) h
    have ends_now (stop : Path (done a) l₂ (done outcome)) :
        ∃ lost last, l₁ ++ l₂ = lost.flatten ++ last ∧ lost.length ≤ more + 1 ∧
          Lost attempt lost ∧ ∃ made, Ends (attempt made) last outcome := by
      obtain ⟨rfl, hq⟩ := path_done stop
      exact ⟨[], l₁, by simp, by simp, by simp [Lost], 0, done.inj hq ▸ h₁⟩
    match a, h₁, h₂, ends_now with
    | .error (.conflict reason), h₁, h₂, _ =>
      -- the attempts behind it are numbered from one on
      obtain ⟨lost, last, rfl, hlen, hlost, made, hlast⟩ :=
        @ih (fun made => attempt (made + 1)) _ h₂
      refine ⟨l₁ :: lost, last, by simp, by simpa using hlen,
        List.forall_mem_cons.2 ⟨⟨0, reason, h₁⟩, fun l hl => ?_⟩, made + 1, hlast⟩
      obtain ⟨made, hended⟩ := hlost l hl
      exact ⟨made + 1, hended⟩
    | .ok _, _, h₂, ends_now => exact ends_now h₂
    | .error (.notFound _), _, h₂, ends_now => exact ends_now h₂
    | .error (.permissionDenied _), _, h₂, ends_now => exact ends_now h₂
    | .error (.alreadyExists _), _, h₂, ends_now => exact ends_now h₂
    | .error (.validationFailed _), _, h₂, ends_now => exact ends_now h₂
    | .error (.storeUnavailable _), _, h₂, ends_now => exact ends_now h₂

theorem ends_retry {attempts : UInt32} {attempt : Nat → Operation α} {l : List Exchange}
    {outcome : Except ServiceError α} (h : Ends (Operation.retry attempts attempt) l outcome) :
    ∃ lost last, l = lost.flatten ++ last ∧ lost.length < max 1 attempts.toNat ∧
      Lost attempt lost ∧ ∃ made, Ends (attempt made) last outcome := by
  obtain ⟨lost, last, hl, hlen, hlost, hlast⟩ := ends_retry_loop h
  exact ⟨lost, last, hl, by omega, hlost, hlast⟩

end ChatLedger.Operation
