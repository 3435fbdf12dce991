import StoreGraph.Proofs.Json.RoundTrip

/-! # Whole documents, written and read back

A document is read back as it was written, whatever texts it holds and however many items and
members it has, if its numbers are whole numbers of at most 64 bits and it is not nested too deeply
(`Exact`, `readValue_write`). In strings every character that must not stand for itself is written
as an escape that stands for it (`readString_escapeChar`).
-/

namespace StoreGraph.Json

open Text

/-! ## Strings -/

section Strings

variable {c letter : Char} {fuel : Nat} {rest : List Char}

theorem readEscape_of_letter (escaped : escapeLetter? c = some letter) :
    readEscape (letter :: rest) = .ok (c, rest) := by
  unfold escapeLetter? at escaped
  split at escaped <;> cases escaped <;> rfl

/-- The two last hexadecimal digits of a control character. The first two are zeros. -/
theorem ofDigits_control : ∀ n < 32,
    ['0', '0', lowerHex (n / 16), lowerHex (n % 16)].all (isDigitOf 16) = true ∧
      ofDigits 16 ['0', '0', lowerHex (n / 16), lowerHex (n % 16)] = n := by decide

theorem readUnicodeEscape_control (control : c.toNat < 0x20) :
    readUnicodeEscape ('0' :: '0' :: lowerHex (c.toNat / 16) :: lowerHex (c.toNat % 16) :: rest) =
      .ok (c, rest) := by
  obtain ⟨digits, value⟩ := ofDigits_control c.toNat control
  have unit : readHex4 ('0' :: '0' :: lowerHex (c.toNat / 16) :: lowerHex (c.toNat % 16) :: rest) =
      .ok (c.toNat, rest) := by
    rw [readHex4, if_pos digits, value]
  have low : c.toNat < 0xD800 ∨ 0xE000 ≤ c.toNat := .inl (by omega)
  simp only [readUnicodeEscape, unit, bind, Except.bind, if_pos low, Char.ofNat_toNat]
  rfl

/-- A character is read from what is written for it. -/
theorem readString_escapeChar (c : Char) (fuel : Nat) (cs : List Char) :
    readString (fuel + 1) (escapeChar c ++ cs) = (do
      let (more, rest) ← readString fuel cs
      return (c :: more, rest)) := by
  unfold escapeChar
  cases escaped : escapeLetter? c with
  | some letter =>
    simp only [List.cons_append, List.nil_append, readString, Char.reduceEq, if_false, if_true,
      readEscape_of_letter escaped]
    rfl
  | none =>
    dsimp only
    by_cases control : c.toNat < 0x20
    · simp only [if_pos control, List.cons_append, List.nil_append, readString, Char.reduceEq,
        if_false, if_true, readEscape, readUnicodeEscape_control control]
      rfl
    · have quote : c ≠ '"' := by
        rintro rfl
        cases escaped
      have backslash : c ≠ '\\' := by
        rintro rfl
        cases escaped
      simp only [if_neg control, List.cons_append, List.nil_append, readString, if_neg quote,
        if_neg backslash]

theorem readString_written {chars : List Char} (enough : chars.length < fuel) :
    readString fuel (chars.flatMap escapeChar ++ '"' :: rest) = .ok (chars, rest) := by
  induction chars generalizing fuel with
  | nil =>
    cases fuel with
    | zero => cases enough
    | succ fuel => rfl
  | cons c chars ih =>
    cases fuel with
    | zero => cases enough
    | succ fuel =>
      rw [List.flatMap_cons, List.append_assoc, readString_escapeChar,
        ih (Nat.lt_of_succ_lt_succ enough)]
      rfl

/-- No character is written with fewer characters than one. -/
theorem length_escapeChar (c : Char) : 1 ≤ (escapeChar c).length := by
  unfold escapeChar
  cases escapeLetter? c with
  | some letter => exact Nat.le_add_left 1 1
  | none =>
    dsimp only
    split <;> simp

theorem length_lt_writeString (s : String) : s.toList.length < (writeString s).length := by
  have each : ∀ chars : List Char, chars.length ≤ (chars.flatMap escapeChar).length := by
    intro chars
    induction chars with
    | nil => exact Nat.le_refl 0
    | cons c chars ih =>
      have := length_escapeChar c
      simp only [List.flatMap_cons, List.length_append, List.length_cons]
      omega
  have := each s.toList
  simp only [writeString, List.length_cons, List.length_append]
  omega

variable {bound depth : Nat} {s : String}

theorem readString_writeString (short : s.toList.length < bound) (rest : List Char) :
    ∃ chars, writeString s = '"' :: chars ∧
      readString bound (chars ++ rest) = .ok (s.toList, rest) := by
  refine ⟨s.toList.flatMap escapeChar ++ ['"'], rfl, ?_⟩
  rw [List.append_assoc]
  exact readString_written short

theorem readValue_text (short : s.toList.length < bound) :
    readValue bound depth (write (text s) ++ rest) = .ok (text s, rest) := by
  obtain ⟨chars, written, read⟩ := readString_writeString short rest
  rw [write, written, List.cons_append, readValue, skipBlank_cons (by decide : isBlank '"' = false)]
  simp only [Char.reduceEq, if_false, if_true, read, bind, Except.bind, String.ofList_toList]
  rfl

end Strings

/-! ## Objects -/

section Objects

variable {bound depth : Nat} {members : List (String × Json)} {rest : List Char}

/-- A member as it is written. -/
def writeMember (member : String × Json) : List Char :=
  writeString member.1 ++ ':' :: write member.2

theorem writeMembers_cons (member : String × Json) (later : List (String × Json)) :
    writeMembers (member :: later) = ',' :: (writeMember member ++ writeMembers later) := by
  obtain ⟨name, value⟩ := member
  simp only [writeMembers, writeMember, List.cons_append]

theorem write_object_cons (member : String × Json) (later : List (String × Json)) :
    write (object (member :: later)) = '\x7b' :: (writeMember member ++ writeMembers later) := by
  obtain ⟨name, value⟩ := member
  simp only [write, writeMember, List.cons_append]

/-- The member is read back, by its name and by its value, from texts of at most `bound`
    characters. -/
structure MemberReadsBack (bound depth : Nat) (member : String × Json) : Prop where
  name : member.1.toList.length < bound
  value : ∀ c rest, EndsNumber c →
    readValue bound depth (write member.2 ++ c :: rest) = .ok (member.2, c :: rest)

theorem readMember_writeMember {member : String × Json} {c : Char}
    (h : MemberReadsBack bound depth member) (ends : EndsNumber c) :
    readMember bound (readValue bound depth) (writeMember member ++ c :: rest) =
      .ok (member, c :: rest) := by
  have value := h.value c rest ends
  obtain ⟨chars, written, read⟩ :=
    readString_writeString h.name (':' :: (write member.2 ++ c :: rest))
  simp only [readMember, writeMember, written, List.cons_append, List.append_assoc,
    skipBlank_cons (by decide : isBlank '"' = false), read, bind, Except.bind,
    skipBlank_cons (by decide : isBlank ':' = false), value, String.ofList_toList]
  rfl

/-- An object is read back if its members are, whatever follows it. -/
theorem readValue_object (each : ∀ member ∈ members, MemberReadsBack bound depth member)
    (few : members.length ≤ bound) :
    readValue bound (depth + 1) (write (object members) ++ rest) = .ok (object members, rest) := by
  have read : ∃ chars, write (object members) = '\x7b' :: chars ∧
      readSequence bound (readMember bound (readValue bound depth)) '\x7d' (chars ++ rest) =
        .ok (members, rest) := by
    cases members with
    | nil =>
      refine ⟨['\x7d'], by simp only [write]; rfl, ?_⟩
      simp only [readSequence, List.singleton_append,
        skipBlank_cons (by decide : isBlank '\x7d' = false), if_true]
    | cons first later =>
      refine ⟨_, write_object_cons first later, ?_⟩
      have several : readItems (readMember bound (readValue bound depth)) '\x7d' bound
          (writeMember first ++ (writeMembers later ++ rest)) = .ok (first :: later, rest) := by
        refine readItems_written (by simp only [writeMembers]) writeMembers_cons (by decide)
          (by decide) ?_ few
        intro member listed c rest follows
        refine readMember_writeMember (each member listed) ?_
        obtain rfl | rfl := follows
        · exact ⟨by decide, by decide, by decide, by decide⟩
        · exact ⟨by decide, by decide, by decide, by decide⟩
      have opened : writeMember first = '"' :: (writeMember first).tail := rfl
      rw [opened, List.cons_append] at several ⊢
      rw [List.cons_append, List.append_assoc, readSequence,
        skipBlank_cons (by decide : isBlank '"' = false)]
      simp only [Char.reduceEq, if_false, several]
  obtain ⟨chars, same, read⟩ := read
  rw [same, List.cons_append, readValue, skipBlank_cons (by decide : isBlank '\x7b' = false)]
  simp only [read, bind, Except.bind, Char.reduceEq, if_false, if_true]
  rfl

theorem length_writeMembers (members : List (String × Json)) :
    members.length ≤ (writeMembers members).length := by
  induction members with
  | nil => exact Nat.zero_le _
  | cons member later ih =>
    rw [writeMembers_cons]
    simp only [List.length_cons, List.length_append]
    omega

/-- An object has no more members than its text has characters. -/
theorem length_write_object (members : List (String × Json)) :
    members.length ≤ (write (object members)).length := by
  cases members with
  | nil => exact Nat.zero_le _
  | cons member later =>
    have := length_writeMembers later
    rw [write_object_cons]
    simp only [List.length_cons, List.length_append]
    omega

theorem length_writeMember_of_mem {member : String × Json} (listed : member ∈ members) :
    (writeMember member).length ≤ (write (object members)).length := by
  have among : ∀ members : List (String × Json), member ∈ members →
      (writeMember member).length ≤ (writeMembers members).length := by
    intro members listed
    induction members with
    | nil => cases listed
    | cons other later ih =>
      rw [writeMembers_cons]
      simp only [List.length_cons, List.length_append]
      obtain rfl | listed := List.mem_cons.mp listed
      · omega
      · have := ih listed
        omega
  cases members with
  | nil => cases listed
  | cons other later =>
    rw [write_object_cons]
    simp only [List.length_cons, List.length_append]
    obtain rfl | listed := List.mem_cons.mp listed
    · omega
    · have := among later listed
      omega

/-- What an object of a short text has as a member is short as well. -/
theorem within_object {member : String × Json} (listed : member ∈ members)
    (short : (write (object members)).length ≤ bound) :
    member.1.toList.length < bound ∧ (write member.2).length ≤ bound := by
  have within := Nat.le_trans (length_writeMember_of_mem listed) short
  have named := length_lt_writeString member.1
  simp only [writeMember, List.length_append, List.length_cons] at within
  exact ⟨by omega, by omega⟩

end Objects

/-! ## Documents -/

/-- Documents that are read back as they were written: their numbers are whole and fit 64 bits, and
    they are nested no deeper than the given depth. -/
inductive Exact : Nat → Json → Prop where
  | null {depth} : Exact depth .null
  | bool {depth} (value : Bool) : Exact depth (.bool value)
  | nat {depth n} (fits : n < UInt64.size) : Exact depth (ofNat n)
  | text {depth} (value : String) : Exact depth (.text value)
  | array {depth items} (each : ∀ item ∈ items, Exact depth item) :
      Exact (depth + 1) (.array items)
  | object {depth members} (each : ∀ member ∈ members, Exact depth member.2) :
      Exact (depth + 1) (.object members)

section Documents

variable {bound depth : Nat} {document : Json}

theorem Exact.opens (exact : Exact depth document) : Opens document := by
  cases exact with
  | null => exact ⟨'n', "ull".toList, by simp only [write]; rfl, by decide, by decide⟩
  | bool value =>
    cases value with
    | true => exact ⟨'t', "rue".toList, by simp only [write]; rfl, by decide, by decide⟩
    | false => exact ⟨'f', "alse".toList, by simp only [write]; rfl, by decide, by decide⟩
  | nat fits => exact opens_ofNat _
  | text value => exact ⟨'"', _, by simp only [write]; rfl, by decide, by decide⟩
  | array each => exact opens_array _
  | @object depth members each =>
    cases members with
    | nil => exact ⟨'\x7b', ['\x7d'], by simp only [write]; rfl, by decide, by decide⟩
    | cons member later => exact ⟨'\x7b', _, write_object_cons member later, by decide, by decide⟩

/-- A document is read back from a text that goes on with a character that ends a number. -/
theorem Exact.readValue_write (exact : Exact depth document)
    (short : (write document).length ≤ bound) {c : Char} (ends : EndsNumber c) (rest : List Char) :
    readValue bound depth (write document ++ c :: rest) = .ok (document, c :: rest) := by
  induction exact generalizing c rest with
  | null =>
    have opened : write .null ++ c :: rest = 'n' :: ("ull".toList ++ c :: rest) := by
      simp only [write]; rfl
    rw [opened, readValue, skipBlank_cons (by decide : isBlank 'n' = false)]
    rfl
  | bool value =>
    cases value with
    | true =>
      have opened : write (.bool true) ++ c :: rest = 't' :: ("rue".toList ++ c :: rest) := by
        simp only [write]; rfl
      rw [opened, readValue, skipBlank_cons (by decide : isBlank 't' = false)]
      rfl
    | false =>
      have opened : write (.bool false) ++ c :: rest = 'f' :: ("alse".toList ++ c :: rest) := by
        simp only [write]; rfl
      rw [opened, readValue, skipBlank_cons (by decide : isBlank 'f' = false)]
      rfl
  | nat fits => exact readValue_ofNat fits ends
  | text value =>
    refine readValue_text (Nat.lt_of_lt_of_le (length_lt_writeString value) ?_)
    simpa only [write] using short
  | @array depth items each ih =>
    refine readValue_array ?_ (fun item listed => (each item listed).opens) ?_
    · intro item listed c rest follows
      exact ih item listed (Nat.le_trans (length_write_of_mem listed) short) follows.endsNumber rest
    · exact Nat.le_trans (length_write_array items) short
  | @object depth members each ih =>
    refine readValue_object ?_ (Nat.le_trans (length_write_object members) short)
    intro member listed
    obtain ⟨name, value⟩ := within_object listed short
    exact ⟨name, fun c rest ends => ih member listed value ends rest⟩

end Documents

/-- The text of an object is read back as the object. -/
theorem parse_toBytes_object {members : List (String × Json)}
    (exact : Exact maxDepth (.object members)) :
    parse (object members).toBytes = .ok (object members) := by
  have each : ∀ member ∈ members,
      MemberReadsBack (write (object members)).length (maxDepth - 1) member := by
    intro member listed
    obtain ⟨name, value⟩ := within_object listed (Nat.le_refl _)
    cases exact with
    | object each =>
      exact ⟨name, fun c rest ends => (each member listed).readValue_write value ends rest⟩
  have read : readValue (write (object members)).length maxDepth (write (object members) ++ []) =
      .ok (object members, []) :=
    readValue_object each (length_write_object members)
  rw [List.append_nil] at read
  exact parse_toBytes_of_read read

end StoreGraph.Json
