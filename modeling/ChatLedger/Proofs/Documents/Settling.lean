import ChatLedger.Proofs.Documents.Numbers
import ChatLedger.Proofs.Reading.Identifiers
import ChatLedger.Proofs.Reading.WireTimes
import ChatLedger.User
import ChatLedger.Vocabulary

/-!
# Values settle

Many documents are read as the same value, and a value is written to one document only. A type
settles if that document is read as the value again.

1. `Wire.Settles`: what has been read from a document is read again from what it is written to.
   `Wire.ReadsBack`: so is every value, whether it was ever read or not. Integers without bounds,
   numbers that may be infinite and times settle, though they do not all read back.
2. `Json.read_again`: a record settles if its fields do. Only the slots count, so that it makes no
   difference whether they came from members or from a list, and which of them were missing.
-/

namespace ChatLedger

open Time

/-! ## Types that settle -/

namespace Wire

/-- What has been read from a document is read again, and as the same value, from the document that
it is written to. -/
class Settles (α : Type) [Wire α] : Prop where
  isFinite_encode (a : α) : (encode a).isFinite = true
  decode_encode {v : Json} {a : α} (finite : v.isFinite = true) (read : decode v = some a) :
    decode (encode a) = some a

/-- Every value is read from the document that it is written to. -/
class ReadsBack (α : Type) [Wire α] : Prop extends Settles α where
  decode_encode_self (a : α) : decode (encode a) = some a
  decode_encode _ _ := decode_encode_self _

/-- No value is null, so that null is left for a value that is missing. -/
class RefusesNull (α : Type) [Wire α] : Prop where
  decode_null : (decode .null : Option α) = none

attribute [simp] Settles.isFinite_encode ReadsBack.decode_encode_self

/-! ### Integers and numbers -/

theorem integerWithin_of_le {low high n : Int} (hlow : low ≤ n) (hhigh : n ≤ high) :
    integerWithin low high (.integer n) = some n := if_pos ⟨hlow, hhigh⟩

theorem le_of_integerWithin {low high n : Int} {v : Json} (h : integerWithin low high v = some n) :
    low ≤ n ∧ n ≤ high := by
  cases v with
  | integer m =>
    change (if low ≤ m ∧ m ≤ high then some m else none) = some n at h
    split at h
    · cases h
      assumption
    · cases h
  | _ => cases h

instance : ReadsBack UInt32 where
  isFinite_encode _ := rfl
  decode_encode_self n := by
    have hhigh : (n.toNat : Int) ≤ Bounds.count32 := by
      have hlt := n.toNat_lt
      unfold Bounds.count32
      omega
    show (integerWithin 0 Bounds.count32 (.integer n.toNat)).map _ = some n
    rw [integerWithin_of_le (Int.natCast_nonneg _) hhigh, Option.map_some, Int.toNat_natCast,
      UInt32.ofNat_toNat]

instance : ReadsBack UInt64 where
  isFinite_encode _ := rfl
  decode_encode_self n := by
    have hhigh : (n.toNat : Int) ≤ Bounds.count64 := by
      have hlt := n.toNat_lt
      unfold Bounds.count64
      omega
    show (integerWithin 0 Bounds.count64 (.integer n.toNat)).map _ = some n
    rw [integerWithin_of_le (Int.natCast_nonneg _) hhigh, Option.map_some, Int.toNat_natCast,
      UInt64.ofNat_toNat]

instance : Settles Int where
  isFinite_encode _ := rfl
  decode_encode _ read := by
    obtain ⟨hlow, hhigh⟩ := le_of_integerWithin read
    exact integerWithin_of_le hlow hhigh

theorem decode_encode_float {x : Float} (h : x.isFinite = true) :
    (decode (encode x) : Option Float) = some x := by
  show decode (if x.isFinite then Json.number x else .null) = some x
  rw [if_pos h]
  rfl

instance : Settles Float where
  isFinite_encode x := by
    show (if x.isFinite then Json.number x else .null).isFinite = true
    split
    · assumption
    · rfl
  decode_encode {v} {x} finite read := by
    cases v with
    | number y =>
      cases read
      exact decode_encode_float finite
    | integer n =>
      cases read
      exact decode_encode_float (numberOfInteger_isFinite n)
    | _ => cases read

/-! ### Texts -/

instance : ReadsBack Bool where
  isFinite_encode _ := rfl
  decode_encode_self _ := rfl

instance : ReadsBack String where
  isFinite_encode _ := rfl
  decode_encode_self _ := rfl

instance : ReadsBack Uuid where
  isFinite_encode _ := rfl
  decode_encode_self := Uuid.parse?_text

instance : Settles Instant where
  isFinite_encode _ := rfl
  decode_encode {v} {t} _ read := by
    cases v with
    | text s =>
      show readWire? t.wireText = some t
      rw [readWire?_wireText, Instant.asShown_of_isShown (isShown_of_readWire? read)]
    | _ => cases read

/-! ### Values that may be missing -/

instance : RefusesNull String := ⟨rfl⟩
instance : RefusesNull UInt32 := ⟨rfl⟩
instance : RefusesNull Int := ⟨rfl⟩
instance : RefusesNull Float := ⟨rfl⟩
instance : RefusesNull Uuid := ⟨rfl⟩
instance : RefusesNull Instant := ⟨rfl⟩

section Missing

variable {α : Type} [Wire α]

/-- A value that is there is not taken for a missing one. -/
theorem decode_encode_some [RefusesNull α] {a : α} (h : decode (encode a) = some a) :
    decode (encode (some a)) = some (some a) := by
  change decode (encode a) = some (some a)
  unfold decode instOption
  dsimp only
  split
  · rename_i hnull
    rw [hnull, RefusesNull.decode_null] at h
    cases h
  · rw [h]
    rfl

instance [Settles α] [RefusesNull α] : Settles (Option α) where
  isFinite_encode
    | none => rfl
    | some a => Settles.isFinite_encode a
  decode_encode {v} {a} finite read := by
    cases a with
    | none => rfl
    | some a =>
      have hread : decode v = some a := by
        cases v with
        | null => cases read
        | _ =>
          obtain ⟨_, hread, heq⟩ := Option.map_eq_some_iff.1 read
          cases heq
          exact hread
      exact decode_encode_some (Settles.decode_encode finite hread)

instance [ReadsBack α] [RefusesNull α] : ReadsBack (Option α) where
  isFinite_encode := Settles.isFinite_encode
  decode_encode_self
    | none => rfl
    | some a => decode_encode_some (ReadsBack.decode_encode_self a)

end Missing

end Wire

/-! ### Words -/

/-- The words of a vocabulary are words of one value each. -/
class Vocabulary.Distinct (α : Type) [Vocabulary α] : Prop where
  ofWord?_word (a : α) : ofWord? (word a) = some a

section Words

variable {α : Type} [Vocabulary α]

instance [Vocabulary.Distinct α] : Wire.ReadsBack α where
  isFinite_encode _ := rfl
  decode_encode_self := Vocabulary.Distinct.ofWord?_word

instance : Wire.RefusesNull α := ⟨rfl⟩

end Words

/-! ### Users -/

instance : Wire.Settles UserId where
  isFinite_encode user := Wire.Settles.isFinite_encode user.number
  decode_encode finite read := by
    obtain ⟨n, hn, rfl⟩ := Option.map_eq_some_iff.1 read
    exact Option.map_eq_some_iff.2 ⟨n, Wire.Settles.decode_encode finite hn, rfl⟩

/-! ## Fields -/

/-- The slot holds finite numbers only. -/
def Slot.IsFinite : Slot → Prop
  | .given v => v.isFinite = true
  | .absent | .cutOff => True

namespace Slot

variable {α : Type} [Wire α]

@[simp] theorem required_given (v : Json) : (given v).required = (Wire.decode v : Option α) := rfl

@[simp] theorem optional_given (v : Json) :
    (given v).optional = (Wire.decode v : Option (Option α)) := rfl

@[simp] theorem withDefault_given (default : α) (v : Json) :
    (given v).withDefault default = Wire.decode v := rfl

variable [Wire.Settles α] {slot : Slot}

theorem decode_encode_required {a : α} (finite : slot.IsFinite) (read : slot.required = some a) :
    Wire.decode (Wire.encode a) = some a := by
  cases slot with
  | given v => exact Wire.Settles.decode_encode finite read
  | absent => cases read
  | cutOff => cases read

/-- A field that is missing is written as null. -/
theorem decode_encode_optional [Wire.RefusesNull α] {a : Option α} (finite : slot.IsFinite)
    (read : slot.optional = some a) : Wire.decode (Wire.encode a) = some a := by
  cases slot with
  | given v => exact Wire.Settles.decode_encode finite read
  | absent =>
    cases read
    rfl
  | cutOff => cases read

/-- A field that is missing is written as the default. -/
theorem decode_encode_withDefault {default a : α}
    (hdefault : Wire.decode (Wire.encode default) = some default) (finite : slot.IsFinite)
    (read : slot.withDefault default = some a) : Wire.decode (Wire.encode a) = some a := by
  cases slot with
  | given v => exact Wire.Settles.decode_encode finite read
  | absent =>
    cases read
    exact hdefault
  | cutOff =>
    cases read
    exact hdefault

end Slot

/-! ## Records -/

namespace Json

variable {names : List String} {members : List (String × Json)}

theorem slot?_isFinite {name : String} {slot : Slot}
    (h : ∀ member ∈ members, member.2.isFinite = true) (found : slot? members name = some slot) :
    slot.IsFinite := by
  unfold slot? at found
  split at found
  · cases found
    trivial
  · rename_i value hvalues
    cases found
    have hmem : value ∈ valuesOf members name := by
      rw [hvalues]
      exact List.mem_singleton_self value
    obtain ⟨member, hmember, rfl⟩ := List.mem_map.1 hmem
    exact h member (List.mem_filter.1 hmember).1
  · cases found

/-- The slots of a document hold no other numbers than the document. -/
theorem slots?_isFinite {v : Json} {slots : List Slot} (h : v.isFinite = true)
    (found : v.slots? names = some slots) : ∀ slot ∈ slots, slot.IsFinite := by
  cases v with
  | record members =>
    intro slot hslot
    obtain ⟨name, -, hname⟩ := exists_of_mem_mapM found hslot
    exact slot?_isFinite (membersFinite_iff.1 h) hname
  | list items =>
    change (if items.length ≤ names.length then _ else none) = some slots at found
    split at found
    · cases found
      intro slot hslot
      rcases List.mem_append.1 hslot with hslot | hslot
      · obtain ⟨item, hitem, rfl⟩ := List.mem_map.1 hslot
        exact itemsFinite_iff.1 h item hitem
      · rw [List.eq_of_mem_replicate hslot]
        trivial
    · cases found
  | _ => cases found

/-- Where the names differ, each of them has one value. -/
theorem valuesOf_of_nodup (h : (members.map Prod.fst).Nodup) {member : String × Json}
    (hmember : member ∈ members) : valuesOf members member.1 = [member.2] := by
  induction members with
  | nil => cases hmember
  | cons first rest ih =>
    obtain ⟨hfirst, hrest⟩ := List.nodup_cons.1 h
    unfold valuesOf at ih ⊢
    rcases List.mem_cons.1 hmember with rfl | hmember
    · have hothers : rest.filter (fun other => other.1 == member.1) = [] := by
        refine List.filter_eq_nil_iff.2 fun other hother hsame => hfirst ?_
        rw [← eq_of_beq hsame]
        exact List.mem_map_of_mem hother
      rw [List.filter_cons, if_pos (beq_self_eq_true member.1), hothers]
      rfl
    · have hother : first.1 ≠ member.1 := by
        intro hsame
        rw [hsame] at hfirst
        exact hfirst (List.mem_map_of_mem hmember)
      rw [List.filter_cons_of_neg (by simpa using hother)]
      exact ih hrest hmember

/-- A record whose names differ has the slot of each name. -/
theorem slots?_record (hnodup : names.Nodup) (hnames : members.map Prod.fst = names) :
    (Json.record members).slots? names = some (members.map fun member => .given member.2) := by
  subst hnames
  have hslot (member : String × Json) (hmember : member ∈ members) :
      slot? members member.1 = some (.given member.2) := by
    unfold slot?
    rw [valuesOf_of_nodup hnodup hmember]
  show (members.map Prod.fst).mapM (slot? members) = _
  -- from here on the reader of a slot may be any that answers for the members
  generalize slot? members = read at hslot
  clear hnodup
  induction members with
  | nil => rfl
  | cons member members ih =>
    obtain ⟨hmember, hmembers⟩ := List.forall_mem_cons.1 hslot
    rw [List.map_cons, List.mapM_cons, hmember, ih hmembers]
    rfl

section Build

variable {α : Type} {build : List Slot → Option α} {a : α}

/-- A record is read back if its value is built from the slots of its members. -/
theorem read_back (hnodup : names.Nodup) (hnames : members.map Prod.fst = names)
    (h : build (members.map fun member => .given member.2) = some a) :
    ((Json.record members).slots? names).bind build = some a := by
  rw [slots?_record hnodup hnames]
  exact h

/-- **A record is read again** if, whatever slots its value was built from, it is built from the
slots of its members as well. -/
theorem read_again {v : Json} (hnodup : names.Nodup) (hnames : members.map Prod.fst = names)
    (finite : v.isFinite = true) (read : (v.slots? names).bind build = some a)
    (h : ∀ slots : List Slot, (∀ slot ∈ slots, slot.IsFinite) → build slots = some a →
      build (members.map fun member => .given member.2) = some a) :
    ((Json.record members).slots? names).bind build = some a := by
  obtain ⟨slots, found, read⟩ := Option.bind_eq_some_iff.1 read
  exact read_back hnodup hnames (h slots (slots?_isFinite finite found) read)

end Build

end Json

end ChatLedger
