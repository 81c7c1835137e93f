import ChatLedger.DataDirectory
import Mathlib.Data.List.Infix

/-!
# The name of the database file

The store reads the name of its file up to the first question mark and takes percent signs with two
hexadecimal digits for bytes. The name is written without regard to that.

1. `startsWithEscape_octets_iff`: such a place in the bytes of a text is one in the text itself,
   since a character outside ASCII has neither percent signs nor digits among its bytes.
2. `percentDecode_octets_eq_self_iff`: a text is read as it stands exactly if it has no such place,
   because reading makes one byte of three there and never makes more of them.
3. `names_joined_path`: the file that is opened is the one that is meant exactly for the paths that
   hold neither a question mark nor such a place (`Verbatim`). Apart from these, two paths may well
   name one file.
-/

namespace ChatLedger.DataDirectory

/-! ## Bytes -/

/-- Starts with a percent sign and two hexadecimal digits. -/
def StartsWithEscape (bytes : List UInt8) : Prop :=
  ∃ high low tail, bytes = 37 :: high :: low :: tail ∧
    (hexValue? high).isSome = true ∧ (hexValue? low).isSome = true

@[simp] theorem percentDecode_nil : percentDecode [] = [] := rfl

theorem percentDecode_escape {high low h l : UInt8} {tail : List UInt8}
    (hhigh : hexValue? high = some h) (hlow : hexValue? low = some l) :
    percentDecode (37 :: high :: low :: tail) = (16 * h + l) :: percentDecode tail := by
  simp [percentDecode, hhigh, hlow]

/-- What is no escape stands for itself. -/
theorem percentDecode_cons {b : UInt8} {rest : List UInt8}
    (plain : ¬ StartsWithEscape (b :: rest)) :
    percentDecode (b :: rest) = b :: percentDecode rest := by
  by_cases hb : b = 37
  · subst hb
    match rest with
    | [] => simp [percentDecode]
    | [low] =>
      by_cases hlow : low = 37 <;> simp [percentDecode, hlow]
    | high :: low :: tail =>
      rw [percentDecode.eq_2]
      cases hhigh : hexValue? high with
      | none => simp
      | some h =>
        cases hlow : hexValue? low with
        | none => simp
        | some l => exact absurd ⟨high, low, tail, rfl, by simp [hhigh], by simp [hlow]⟩ plain
  · cases rest with
    | nil => simp [percentDecode]
    | cons low tail => cases tail <;> simp [percentDecode, hb]

/-- Reading never makes a list of bytes longer. -/
theorem length_percentDecode_le (bytes : List UInt8) :
    (percentDecode bytes).length ≤ bytes.length := by
  induction hn : bytes.length using Nat.strong_induction_on generalizing bytes with
  | _ n ih =>
    subst hn
    by_cases escape : StartsWithEscape bytes
    · obtain ⟨high, low, tail, rfl, hhigh, hlow⟩ := escape
      obtain ⟨h, hh⟩ := Option.isSome_iff_exists.1 hhigh
      obtain ⟨l, hl⟩ := Option.isSome_iff_exists.1 hlow
      have := ih tail.length (by simp; omega) tail rfl
      rw [percentDecode_escape hh hl]
      simp only [List.length_cons]
      omega
    · cases bytes with
      | nil => simp
      | cons b rest =>
        have := ih rest.length (by simp) rest rfl
        rw [percentDecode_cons escape]
        simpa using this

/-- An escape is one byte in place of three. -/
theorem percentDecode_ne_of_startsWithEscape {bytes : List UInt8}
    (escape : StartsWithEscape bytes) : percentDecode bytes ≠ bytes := by
  obtain ⟨high, low, tail, rfl, hhigh, hlow⟩ := escape
  obtain ⟨h, hh⟩ := Option.isSome_iff_exists.1 hhigh
  obtain ⟨l, hl⟩ := Option.isSome_iff_exists.1 hlow
  intro same
  have shorter := length_percentDecode_le tail
  have lengths := congrArg List.length same
  rw [percentDecode_escape hh hl] at lengths
  simp only [List.length_cons] at lengths
  omega

/-- Bytes from 128 on stand for themselves. -/
theorem percentDecode_append {bytes : List UInt8} (rest : List UInt8)
    (high : ∀ b ∈ bytes, 127 < b.toNat) :
    percentDecode (bytes ++ rest) = bytes ++ percentDecode rest := by
  induction bytes with
  | nil => rfl
  | cons b bytes ih =>
    have plain : ¬ StartsWithEscape (b :: (bytes ++ rest)) := by
      rintro ⟨h, l, tail, hbytes, -⟩
      have sign := high b (by simp)
      rw [(List.cons.inj hbytes).1] at sign
      simp at sign
    rw [List.cons_append, percentDecode_cons plain, ih fun b hb => high b (by simp [hb]),
      List.cons_append]

/-! ## Bytes of texts -/

/-- The bytes of a text. -/
def octets (text : List Char) : List UInt8 := text.flatMap String.utf8EncodeChar

@[simp] theorem octets_nil : octets [] = [] := rfl

theorem octets_cons (c : Char) (text : List Char) :
    octets (c :: text) = String.utf8EncodeChar c ++ octets text := rfl

theorem octets_append (text more : List Char) :
    octets (text ++ more) = octets text ++ octets more := List.flatMap_append

theorem toList_loop (bytes : ByteArray) (i : Nat) (done : List UInt8) :
    ByteArray.toList.loop bytes i done = done.reverse ++ bytes.data.toList.drop i := by
  fun_induction ByteArray.toList.loop bytes i done with
  | case1 i done inside ih =>
    have inside' : i < bytes.data.toList.length := by simpa using inside
    rw [ih, List.drop_eq_getElem_cons inside']
    simp [ByteArray.get!, inside]
  | case2 i done outside =>
    rw [List.drop_eq_nil_of_le (by simpa using outside)]
    simp

theorem toList_toUTF8_ofList (text : List Char) :
    (String.ofList text).toUTF8.toList = octets text := by
  rw [String.toUTF8, String.toByteArray_ofList, ByteArray.toList, toList_loop]
  simp [octets, List.utf8Encode]

/-- A character has one byte, its own number, or bytes from 128 on. -/
theorem utf8EncodeChar_cases (c : Char) :
    c.toNat ≤ 127 ∧ String.utf8EncodeChar c = [UInt8.ofNat c.toNat] ∨
      127 < c.toNat ∧ String.utf8EncodeChar c ≠ [] ∧
        ∀ b ∈ String.utf8EncodeChar c, 127 < b.toNat := by
  by_cases h : c.toNat ≤ 127
  · refine .inl ⟨h, ?_⟩
    rw [String.utf8EncodeChar]
    exact if_pos h
  · refine .inr ⟨by omega, ?_, ?_⟩
    · intro none
      have one := c.utf8Size_pos
      have length := congrArg List.length none
      rw [String.length_utf8EncodeChar, List.length_nil] at length
      omega
    · intro b hb
      simp only [String.utf8EncodeChar, show ¬ c.val.toNat ≤ 127 from h, if_false] at hb
      split_ifs at hb <;> simp only [List.mem_cons, List.not_mem_nil, or_false] at hb <;>
        rcases hb with rfl | rfl | rfl | rfl <;> simp <;> omega

/-- An ASCII byte at the beginning is the first character. -/
theorem octets_eq_cons {text : List Char} {b : UInt8} {bytes : List UInt8}
    (ascii : b.toNat ≤ 127) (h : octets text = b :: bytes) :
    ∃ c rest, text = c :: rest ∧ c.toNat = b.toNat ∧ octets rest = bytes := by
  cases text with
  | nil => simp at h
  | cons c rest =>
    rw [octets_cons] at h
    obtain ⟨hc, one⟩ | ⟨-, some, high⟩ := utf8EncodeChar_cases c
    · rw [one, List.singleton_append, List.cons_eq_cons] at h
      refine ⟨c, rest, rfl, ?_, h.2⟩
      rw [← h.1]
      simp
      omega
    · obtain ⟨first, others, hfirst⟩ := List.exists_cons_of_ne_nil some
      rw [hfirst, List.cons_append, List.cons_eq_cons] at h
      have := high first (by simp [hfirst])
      rw [h.1] at this
      omega

/-! ## Escapes of texts -/

/-- A decimal digit, or one of the letters up to F. -/
def IsHexDigit (c : Char) : Prop :=
  ('0' ≤ c ∧ c ≤ '9') ∨ ('a' ≤ c ∧ c ≤ 'f') ∨ ('A' ≤ c ∧ c ≤ 'F')

instance (c : Char) : Decidable (IsHexDigit c) := by unfold IsHexDigit; infer_instance

/-- Holds a percent sign with two hexadecimal digits behind it. -/
def HasEscape (text : List Char) : Prop :=
  ∃ high low, IsHexDigit high ∧ IsHexDigit low ∧ ['%', high, low] <:+: text

theorem isHexDigit_iff (c : Char) :
    IsHexDigit c ↔ (48 ≤ c.toNat ∧ c.toNat ≤ 57) ∨ (97 ≤ c.toNat ∧ c.toNat ≤ 102) ∨
      (65 ≤ c.toNat ∧ c.toNat ≤ 70) := Iff.rfl

theorem hexValue?_isSome_iff (b : UInt8) :
    (hexValue? b).isSome = true ↔ (48 ≤ b.toNat ∧ b.toNat ≤ 57) ∨
      (97 ≤ b.toNat ∧ b.toNat ≤ 102) ∨ (65 ≤ b.toNat ∧ b.toNat ≤ 70) := by
  unfold hexValue?
  simp only [UInt8.le_iff_toNat_le]
  split_ifs <;> simp_all

/-- **The bytes of a text start with an escape exactly if the text does.** -/
theorem startsWithEscape_octets_iff (text : List Char) :
    StartsWithEscape (octets text) ↔
      ∃ high low, IsHexDigit high ∧ IsHexDigit low ∧ ['%', high, low] <+: text := by
  constructor
  · rintro ⟨high, low, bytes, hbytes, hhigh, hlow⟩
    rw [hexValue?_isSome_iff] at hhigh hlow
    obtain ⟨sign, text, rfl, hsign, hbytes⟩ := octets_eq_cons (by decide) hbytes
    obtain ⟨c, text, rfl, hc, hbytes⟩ := octets_eq_cons (by omega) hbytes
    obtain ⟨d, text, rfl, hd, -⟩ := octets_eq_cons (by omega) hbytes
    have percent : sign = '%' := Char.toNat_inj.1 hsign
    refine ⟨c, d, ?_, ?_, text, by rw [percent]; rfl⟩
    · rw [isHexDigit_iff, hc]; exact hhigh
    · rw [isHexDigit_iff, hd]; exact hlow
  · rintro ⟨high, low, hhigh, hlow, text, rfl⟩
    rw [isHexDigit_iff] at hhigh hlow
    have one {c : Char} (h : c.toNat ≤ 127) : String.utf8EncodeChar c = [UInt8.ofNat c.toNat] :=
      ((utf8EncodeChar_cases c).resolve_right (by omega)).2
    have kept {n : Nat} (h : n ≤ 127) : (UInt8.ofNat n).toNat = n :=
      UInt8.toNat_ofNat_of_lt' (h.trans_lt (by decide))
    refine ⟨UInt8.ofNat high.toNat, UInt8.ofNat low.toNat, octets text, ?_, ?_, ?_⟩
    · simp only [List.cons_append, List.nil_append, octets_cons, one (c := '%') (by decide),
        one (c := high) (by omega), one (c := low) (by omega)]
      rfl
    · rw [hexValue?_isSome_iff, kept (by omega)]
      exact hhigh
    · rw [hexValue?_isSome_iff, kept (by omega)]
      exact hlow

/-- One character more, unless an escape starts with it. -/
theorem percentDecode_octets_cons {c : Char} {text : List Char}
    (plain : ¬ StartsWithEscape (octets (c :: text))) :
    percentDecode (octets (c :: text)) = String.utf8EncodeChar c ++ percentDecode (octets text) := by
  rw [octets_cons] at plain ⊢
  obtain ⟨-, one⟩ | ⟨-, -, high⟩ := utf8EncodeChar_cases c
  · rw [one] at plain ⊢
    exact percentDecode_cons plain
  · exact percentDecode_append _ high

/-- **A text is read as it stands exactly if it has no escape.** -/
theorem percentDecode_octets_eq_self_iff (text : List Char) :
    percentDecode (octets text) = octets text ↔ ¬ HasEscape text := by
  induction text with
  | nil => simp [HasEscape]
  | cons c text ih =>
    have here_or_later : HasEscape (c :: text) ↔
        StartsWithEscape (octets (c :: text)) ∨ HasEscape text := by
      simp only [HasEscape, startsWithEscape_octets_iff, List.infix_cons_iff, and_or_left,
        exists_or]
    by_cases escape : StartsWithEscape (octets (c :: text))
    · have changed := percentDecode_ne_of_startsWithEscape escape
      simp [here_or_later, escape, changed]
    · rw [percentDecode_octets_cons escape, octets_cons, List.append_cancel_left_eq, ih,
        here_or_later, or_iff_right escape]

/-! ## The name and its reading -/

/-- The part of a path in front of its first question mark. -/
def cut (path : List Char) : List Char := path.takeWhile (· != '?')

/-- A path that is read as it is written: without a question mark, and without a percent sign that
has two hexadecimal digits behind it. -/
structure Verbatim (path : List Char) : Prop where
  unquestioned : '?' ∉ path
  unescaped : ¬ HasEscape path

/-- What is put behind a path from a question mark on is cut off. -/
theorem cut_append (path rest : List Char) : cut (path ++ '?' :: rest) = cut path := by
  induction path with
  | nil => rfl
  | cons c path ih =>
    by_cases hc : c = '?'
    · simp [cut, hc]
    · simpa [cut, hc] using ih

theorem cut_isPrefix (path : List Char) : cut path <+: path := List.takeWhile_prefix _

instance (path : List Char) : Decidable (Verbatim path) :=
  decidable_of_iff ('?' ∉ path ∧ percentDecode (octets path) = octets path)
    ⟨fun h => ⟨h.1, (percentDecode_octets_eq_self_iff path).1 h.2⟩,
      fun h => ⟨h.unquestioned, (percentDecode_octets_eq_self_iff path).2 h.unescaped⟩⟩

theorem cut_eq_self_iff (path : List Char) : cut path = path ↔ '?' ∉ path := by
  induction path with
  | nil => simp [cut]
  | cons c path ih =>
    by_cases hc : c = '?'
    · simp [cut, hc]
    · simpa [cut, hc, Ne.symm hc] using ih

theorem toList_databaseUrl (directory : String) (settings : DatabaseSettings) :
    (databaseUrl directory settings).toList =
      scheme.toList ++ ((join directory settings.fileName).toList ++ '?' :: parameters.toList) := by
  simp only [databaseUrl, String.toList_append, List.append_assoc]
  rfl

/-- **The store understands a name exactly if the path holds no question mark**: of one that does,
some is taken for parameters. -/
theorem isUnderstood_databaseUrl_iff (directory : String) (settings : DatabaseSettings) :
    isUnderstood (databaseUrl directory settings) = true ↔
      '?' ∉ (join directory settings.fileName).toList := by
  set path := (join directory settings.fileName).toList with hpath
  have behind : (databaseUrl directory settings).toList.dropWhile (· != '?') =
      (path ++ '?' :: parameters.toList).dropWhile (· != '?') := by
    rw [toList_databaseUrl]
    rfl
  have parts : cut path ++ (path ++ '?' :: parameters.toList).dropWhile (· != '?') =
      path ++ '?' :: parameters.toList := by
    rw [← cut_append path parameters.toList]
    exact List.takeWhile_append_dropWhile
  rw [isUnderstood, behind, beq_iff_eq, ← cut_eq_self_iff]
  constructor
  · intro understood
    have lengths := congrArg List.length parts
    have tail := congrArg List.length understood
    have some : 0 < parameters.toList.length := by decide
    simp only [List.length_append, List.length_cons, List.length_tail] at lengths tail
    exact (cut_isPrefix path).eq_of_length (by omega)
  · intro whole
    rw [whole, List.append_cancel_left_eq] at parts
    rw [parts, List.tail_cons]

theorem openedPath?_databaseUrl (directory : String) (settings : DatabaseSettings) :
    openedPath? (databaseUrl directory settings) = String.fromUTF8?
      ⟨(percentDecode (octets (cut (join directory settings.fileName).toList))).toArray⟩ := by
  have path : pathPart? (databaseUrl directory settings) =
      some (cut (join directory settings.fileName).toList) := by
    rw [pathPart?, toList_databaseUrl,
      if_pos (List.isPrefixOf_iff_prefix.2 (List.prefix_append _ _)), List.drop_left]
    exact congrArg some (cut_append _ _)
  rw [openedPath?, path]
  simp only [Option.bind_eq_bind, Option.bind_some, toList_toUTF8_ofList]

/-- The bytes that are read as a text are the text's own. -/
theorem fromUTF8?_eq_some_iff (bytes : List UInt8) (text : String) :
    String.fromUTF8? ⟨bytes.toArray⟩ = some text ↔ bytes = octets text.toList := by
  have own : (⟨(octets text.toList).toArray⟩ : ByteArray) = text.toByteArray := by
    rw [← String.utf8Encode_toList]
    exact ByteArray.ext List.data_toByteArray.symm
  unfold String.fromUTF8?
  constructor
  · intro h
    split at h
    · obtain rfl := Option.some.inj h
      exact (congrArg (·.data.toList) own).symm
    · simp at h
  · rintro rfl
    rw [own, dif_pos text.isValidUTF8]
    rfl

/-- **The file that is opened is the one that is meant exactly for verbatim paths.** -/
theorem openedPath?_eq_join_iff (directory : String) (settings : DatabaseSettings) :
    openedPath? (databaseUrl directory settings) = some (join directory settings.fileName) ↔
      Verbatim (join directory settings.fileName).toList := by
  generalize hpath : (join directory settings.fileName).toList = path
  rw [openedPath?_databaseUrl, fromUTF8?_eq_some_iff, hpath]
  constructor
  · intro same
    -- Neither the cut nor the reading makes the bytes more, so that neither may make them fewer.
    have whole : cut path = path := by
      obtain ⟨rest, hrest⟩ := cut_isPrefix path
      have shorter := length_percentDecode_le (octets (cut path))
      have lengths := congrArg (fun text => (octets text).length) hrest
      rw [same] at shorter
      simp only [octets_append, List.length_append] at lengths
      have none : rest = [] := by
        cases rest with
        | nil => rfl
        | cons c rest =>
          have one := c.utf8Size_pos
          rw [octets_cons, List.length_append, String.length_utf8EncodeChar] at lengths
          omega
      rwa [none, List.append_nil] at hrest
    rw [whole, percentDecode_octets_eq_self_iff] at same
    exact ⟨(cut_eq_self_iff path).1 whole, same⟩
  · intro verbatim
    rw [(cut_eq_self_iff path).2 verbatim.unquestioned, percentDecode_octets_eq_self_iff]
    exact verbatim.unescaped

/-- **The name of the database file names the file that is meant**: of every directory and every
configured file name, the file that is opened is the path joined of the two exactly if that path is
verbatim, and what stands behind the path is understood exactly if it holds no question mark. Of two
verbatim paths that differ, different files are opened. -/
theorem names_joined_path (directory : String) (settings : DatabaseSettings) :
    (openedPath? (databaseUrl directory settings) = some (join directory settings.fileName) ↔
        Verbatim (join directory settings.fileName).toList) ∧
      (isUnderstood (databaseUrl directory settings) = true ↔
        '?' ∉ (join directory settings.fileName).toList) ∧
      ∀ (directory' : String) (settings' : DatabaseSettings),
        Verbatim (join directory settings.fileName).toList →
        Verbatim (join directory' settings'.fileName).toList →
        join directory settings.fileName ≠ join directory' settings'.fileName →
        openedPath? (databaseUrl directory settings) ≠
          openedPath? (databaseUrl directory' settings') := by
  refine ⟨openedPath?_eq_join_iff directory settings,
    isUnderstood_databaseUrl_iff directory settings, ?_⟩
  intro directory' settings' verbatim verbatim' differ same
  rw [(openedPath?_eq_join_iff directory settings).2 verbatim,
    (openedPath?_eq_join_iff directory' settings').2 verbatim'] at same
  exact differ (Option.some.inj same)

/-- Spaces, letters outside ASCII and percent signs without digits are verbatim. -/
theorem names_joined_path_of_spaced :
    Verbatim (join "/a b/ü%" "50%.db").toList ∧ Verbatim (join "/a b" "ü%/51%.db").toList ∧
      join "/a b/ü%" "50%.db" ≠ join "/a b" "ü%/51%.db" ∧
      openedPath? (databaseUrl "/a b/ü%" { fileName := "50%.db" }) = some "/a b/ü%/50%.db" ∧
      openedPath? (databaseUrl "/a b/ü%" { fileName := "50%.db" }) ≠
        openedPath? (databaseUrl "/a b" { fileName := "ü%/51%.db" }) := by
  have first : Verbatim (join "/a b/ü%" "50%.db").toList := by decide +kernel
  have second : Verbatim (join "/a b" "ü%/51%.db").toList := by decide +kernel
  have differ : join "/a b/ü%" "50%.db" ≠ join "/a b" "ü%/51%.db" := by decide +kernel
  have path : join "/a b/ü%" "50%.db" = "/a b/ü%/50%.db" := by decide +kernel
  obtain ⟨opened, -, apart⟩ := names_joined_path "/a b/ü%" { fileName := "50%.db" }
  refine ⟨first, second, differ, ?_, apart "/a b" { fileName := "ü%/51%.db" } first second differ⟩
  rw [← path]
  exact opened.2 first

/-- A percent sign with two digits behind it makes the name that of another file, and two names that
of one. -/
theorem not_names_joined_path_escaped :
    openedPath? (databaseUrl "/d" { fileName := "%61.db" }) = some "/d/a.db" ∧
      ¬ (∀ (directory : String) (settings : DatabaseSettings),
        openedPath? (databaseUrl directory settings) =
          some (join directory settings.fileName)) ∧
      ¬ (∀ (directory directory' : String) (settings settings' : DatabaseSettings),
        join directory settings.fileName ≠ join directory' settings'.fileName →
        openedPath? (databaseUrl directory settings) ≠
          openedPath? (databaseUrl directory' settings')) := by
  have escaped : openedPath? (databaseUrl "/d" { fileName := "%61.db" }) = some "/d/a.db" := by
    rw [openedPath?_databaseUrl, fromUTF8?_eq_some_iff]
    decide +kernel
  have plain : openedPath? (databaseUrl "/d" { fileName := "a.db" }) = some "/d/a.db" := by
    rw [openedPath?_databaseUrl, fromUTF8?_eq_some_iff]
    decide +kernel
  refine ⟨escaped, fun every => ?_, fun every => ?_⟩
  · have named := every "/d" { fileName := "%61.db" }
    rw [escaped] at named
    revert named
    decide +kernel
  · have differ : join "/d" "%61.db" ≠ join "/d" "a.db" := by decide +kernel
    exact every "/d" "/d" { fileName := "%61.db" } { fileName := "a.db" } differ
      (escaped.trans plain.symm)

end ChatLedger.DataDirectory
