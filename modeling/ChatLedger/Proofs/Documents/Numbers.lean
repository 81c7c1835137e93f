import ChatLedger.Proofs.Reading.FiniteNumbers

/-!
# Numbers of documents

A document as a value may hold any binary64 number. `Json.isFinite` leaves out those that no text
stands for, and `Json.read?_isFinite` says that nothing else is left out by it: whatever is read
from a text has finite numbers only.
-/

namespace ChatLedger.Json

mutual

/-- Every number of the document is finite. -/
def isFinite : Json → Bool
  | .number x => x.isFinite
  | .list items => itemsFinite items
  | .record members => membersFinite members
  | _ => true

/-- Every number of the items is finite. -/
def itemsFinite : List Json → Bool
  | [] => true
  | item :: rest => item.isFinite && itemsFinite rest

/-- Every number of the members is finite. -/
def membersFinite : List (String × Json) → Bool
  | [] => true
  | (_, value) :: rest => value.isFinite && membersFinite rest

end

theorem itemsFinite_iff {items : List Json} :
    itemsFinite items = true ↔ ∀ item ∈ items, item.isFinite = true := by
  induction items with
  | nil => simp [itemsFinite]
  | cons item rest ih => simp [itemsFinite, ih]

theorem membersFinite_iff {members : List (String × Json)} :
    membersFinite members = true ↔ ∀ member ∈ members, member.2.isFinite = true := by
  induction members with
  | nil => simp [membersFinite]
  | cons member rest ih => simp [membersFinite, ih]

theorem isFinite_record {members : List (String × Json)}
    (h : ∀ member ∈ members, member.2.isFinite = true) : (Json.record members).isFinite = true :=
  membersFinite_iff.2 h

/-! ## Documents that have been read -/

theorem numberOf_isFinite (negative : Bool) (whole fraction : List Char) (exponent : Option Int) :
    (numberOf negative whole fraction exponent).isFinite = true := by
  have hrounded (digits : Nat) (e : Int) :
      (if (Decimal.toFloat negative digits e).isInf then Json.unreadable
        else .number (Decimal.toFloat negative digits e)).isFinite = true := by
    split
    · rfl
    · rename_i hinf
      exact Decimal.isFinite_of_isInf (Decimal.isNaN_toFloat ..) (Bool.eq_false_iff.2 hinf)
  unfold numberOf
  dsimp only
  split
  · split
    · split
      · rfl
      · exact hrounded ..
    · split
      · rfl
      · exact hrounded ..
  · exact hrounded ..

theorem readNumber?_isFinite {negative : Bool} {cs rest : List Char} {v : Json}
    (h : readNumber? negative cs = some (v, rest)) : v.isFinite = true := by
  unfold readNumber? at h
  dsimp only at h
  split at h
  · cases h
  split at h
  split at h
  · cases h
  -- whether or not there is a fraction, an exponent may follow
  all_goals
    rw [Option.bind_eq_bind, Option.bind_some] at h
    dsimp only at h
    split at h
    · obtain ⟨_, _, h⟩ := Option.bind_eq_some_iff.1 h
      cases h
      exact numberOf_isFinite ..
    · obtain ⟨_, _, h⟩ := Option.bind_eq_some_iff.1 h
      cases h
      exact numberOf_isFinite ..
    · cases h
      exact numberOf_isFinite ..

/-- What is read with so much fuel has finite numbers only. -/
structure ReadsFinite (fuel : Nat) : Prop where
  value {cs rest v} : readValue? fuel cs = some (v, rest) → v.isFinite = true
  items {cs rest items} : readItems? fuel cs = some (items, rest) → itemsFinite items = true
  members {cs rest members} : readMembers? fuel cs = some (members, rest) →
    ∀ member ∈ members, member.2.isFinite = true

/-- What comes out of a list comes from one of its elements. -/
theorem exists_of_mem_mapM {α β : Type} {f : α → Option β} {l : List α} {l' : List β}
    (h : l.mapM f = some l') {b : β} (hb : b ∈ l') : ∃ a ∈ l, f a = some b := by
  induction l generalizing l' with
  | nil =>
    cases h
    cases hb
  | cons a l ih =>
    rw [List.mapM_cons] at h
    obtain ⟨first, hfirst, h⟩ := Option.bind_eq_some_iff.1 h
    obtain ⟨rest, hrest, h⟩ := Option.bind_eq_some_iff.1 h
    cases h
    rcases List.mem_cons.1 hb with rfl | hb
    · exact ⟨a, List.mem_cons_self, hfirst⟩
    · obtain ⟨a', ha', hread⟩ := ih hrest hb
      exact ⟨a', List.mem_cons_of_mem a ha', hread⟩

/-- One step for each kind of value, since values, items and members are read in turn. -/
theorem readsFinite (fuel : Nat) : ReadsFinite fuel := by
  induction fuel with
  | zero =>
    refine ⟨?_, ?_, ?_⟩ <;> intros <;> contradiction
  | succ fuel ih =>
    refine ⟨fun h => ?_, fun h => ?_, fun h => ?_⟩
    · unfold readValue? at h
      split at h
      · cases h
      · split at h
        · cases h
          rfl
        · obtain ⟨⟨items, more⟩, hitems, h⟩ := Option.map_eq_some_iff.1 h
          cases h
          exact ih.items hitems
      · split at h
        · cases h
          rfl
        · obtain ⟨⟨members, more⟩, hmembers, h⟩ := Option.map_eq_some_iff.1 h
          cases h
          split
          · rename_i hnamed
            refine membersFinite_iff.2 fun member hmember => ?_
            obtain ⟨read, hread, h⟩ := exists_of_mem_mapM hnamed hmember
            obtain ⟨name, -, rfl⟩ := Option.map_eq_some_iff.1 h
            exact ih.members hmembers read hread
          · rfl
      · obtain ⟨⟨found, more⟩, -, h⟩ := Option.map_eq_some_iff.1 h
        cases h
        split <;> rfl
      · exact readNumber?_isFinite h
      · split at h
        · cases h
          rfl
        · split at h
          · cases h
            rfl
          · split at h
            · cases h
              rfl
            · exact readNumber?_isFinite h
    · unfold readItems? at h
      obtain ⟨⟨item, more⟩, hitem, h⟩ := Option.bind_eq_some_iff.1 h
      have hitem := ih.value hitem
      dsimp only at h
      split at h
      · obtain ⟨⟨items, more⟩, hitems, h⟩ := Option.bind_eq_some_iff.1 h
        cases h
        simp only [itemsFinite, hitem, ih.items hitems, Bool.and_self]
      · cases h
        simp only [itemsFinite, hitem, Bool.and_self]
      · cases h
    · unfold readMembers? at h
      split at h
      · obtain ⟨⟨name, more⟩, -, h⟩ := Option.bind_eq_some_iff.1 h
        dsimp only at h
        split at h
        · obtain ⟨⟨value, more⟩, hvalue, h⟩ := Option.bind_eq_some_iff.1 h
          have hvalue := ih.value hvalue
          dsimp only at h
          split at h
          · obtain ⟨⟨members, more⟩, hmembers, h⟩ := Option.bind_eq_some_iff.1 h
            cases h
            exact List.forall_mem_cons.2 ⟨hvalue, ih.members hmembers⟩
          · cases h
            exact List.forall_mem_singleton.2 hvalue
          · cases h
        · cases h
      · cases h

/-- **Whatever is read from a text has finite numbers only.** -/
theorem read?_isFinite {source : String} {v : Json} (h : read? source = some v) :
    v.isFinite = true := by
  obtain ⟨⟨value, rest⟩, hvalue, h⟩ := Option.bind_eq_some_iff.1 h
  dsimp only at h
  split at h
  · cases h
    exact (readsFinite _).value hvalue
  · cases h

end ChatLedger.Json
