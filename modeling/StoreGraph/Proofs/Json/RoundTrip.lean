import StoreGraph.Json.Parser
import StoreGraph.Json.Printer

/-! # JSON text, written and read back

Whole numbers that fit 64 bits are read back as they were written, and so are arrays of documents
that are read back, as long as they are not nested too deeply. What follows a number has to end it;
within an array a comma or the closing bracket does.
-/

namespace StoreGraph

/-! ## Digits -/

namespace Text

/-- A fact about the digits of all numbers, by what the last digit adds. -/
theorem toDigits_induction {P : Nat → List Char → Prop} (one : ∀ d < 10, P d [d.digitChar])
    (more : ∀ n d, 0 < n → d < 10 → P n (Nat.toDigits 10 n) →
      P (n * 10 + d) (Nat.toDigits 10 n ++ [d.digitChar])) (n : Nat) :
    P n (Nat.toDigits 10 n) := by
  induction n using Nat.strongRecOn with
  | ind n ih =>
    by_cases small : n < 10
    · rw [Nat.toDigits_of_lt_base small]
      exact one n small
    · have shorter : n / 10 < n := by omega
      have longer := more (n / 10) (n % 10) (by omega) (by omega) (ih _ shorter)
      rw [Nat.toDigits_of_base_le (by decide) (by omega)]
      rwa [show n / 10 * 10 + n % 10 = n by omega] at longer

theorem digitValue_digitChar : ∀ d < 10, digitValue? d.digitChar = some d := by decide

theorem isDecimal_digitChar : ∀ d < 10, isDecimal d.digitChar = true := by decide

theorem isDecimal_toDigits (n : Nat) : ∀ c ∈ Nat.toDigits 10 n, isDecimal c = true := by
  refine toDigits_induction (P := fun _ digits => ∀ c ∈ digits, isDecimal c = true) ?_ ?_ n
  · intro d small c member
    rw [List.mem_singleton.mp member]
    exact isDecimal_digitChar d small
  · intro n d _ small before c member
    obtain member | member := List.mem_append.mp member
    · exact before c member
    · rw [List.mem_singleton.mp member]
      exact isDecimal_digitChar d small

theorem ofDigits_toDigits (n : Nat) : ofDigits 10 (Nat.toDigits 10 n) = n := by
  refine toDigits_induction (P := fun n digits => ofDigits 10 digits = n) ?_ ?_ n
  · intro d small
    simp only [ofDigits, List.foldl_cons, List.foldl_nil, digitValue_digitChar d small,
      Option.getD_some, Nat.zero_mul, Nat.zero_add]
  · intro n d _ small before
    simp only [ofDigits] at before
    simp only [ofDigits, List.foldl_append, before, List.foldl_cons, List.foldl_nil,
      digitValue_digitChar d small, Option.getD_some]

/-- A zero stands alone. -/
theorem toDigits_ne_zero_cons (n : Nat) (c : Char) (rest : List Char) :
    Nat.toDigits 10 n ≠ '0' :: c :: rest := by
  have positive : ∀ d < 10, 0 < d → d.digitChar ≠ '0' := by decide
  have heads : 0 < n → (Nat.toDigits 10 n).head? ≠ some '0' := by
    refine toDigits_induction (P := fun n digits => 0 < n → digits.head? ≠ some '0') ?_ ?_ n
    · intro d small some
      simpa using positive d small some
    · intro n d some _ before _
      obtain ⟨first, rest, same⟩ := List.exists_cons_of_ne_nil (Nat.toDigits_ne_nil (b := 10))
      rw [same] at before ⊢
      exact before some
  intro same
  by_cases zero : n = 0
  · rw [zero] at same
    cases same
  · exact heads (by omega) (by rw [same]; rfl)

end Text

namespace Json

open Text

/-- A character that is no digit, and does not go on with a number in another way. -/
def EndsNumber (c : Char) : Prop := isDecimal c = false ∧ c ≠ '.' ∧ c ≠ 'e' ∧ c ≠ 'E'

/-- The characters that may follow an item of an array. -/
def FollowsItem (c : Char) : Prop := c = ',' ∨ c = ']'

theorem FollowsItem.endsNumber {c : Char} (h : FollowsItem c) : EndsNumber c := by
  obtain rfl | rfl := h
  · exact ⟨by decide, by decide, by decide, by decide⟩
  · exact ⟨by decide, by decide, by decide, by decide⟩

/-- What begins with a digit is a number and nothing else. -/
theorem ne_of_isDecimal {c : Char} (digit : isDecimal c = true) :
    ∀ other ∈ ['n', 't', 'f', '"', '[', ']', '\x7b', '-', ' ', '\n', '\t', '\r'], c ≠ other := by
  rintro other member rfl
  have none : ['n', 't', 'f', '"', '[', ']', '\x7b', '-', ' ', '\n', '\t', '\r'].all
      (fun other => !isDecimal other) = true := by decide
  have different := List.all_eq_true.mp none c member
  rw [digit] at different
  cases different

theorem isBlank_of_isDecimal {c : Char} (digit : isDecimal c = true) : isBlank c = false := by
  have other := ne_of_isDecimal digit
  simp only [isBlank, Bool.or_eq_false_iff, beq_eq_false_iff_ne]
  exact ⟨⟨⟨other _ (by decide), other _ (by decide)⟩, other _ (by decide)⟩, other _ (by decide)⟩

theorem skipBlank_cons {c : Char} (solid : isBlank c = false) (rest : List Char) :
    skipBlank (c :: rest) = c :: rest := by
  simp [skipBlank, solid]

/-! ## Numbers -/

section Numbers

variable {n : Nat} {c : Char} {rest : List Char}

theorem write_ofNat (n : Nat) : write (ofNat n) = Nat.toDigits 10 n := by
  simp [write, ofNat, writeNumber, toString, Int.repr, Nat.repr]

theorem readWhole_toDigits (ends : isDecimal c = false) :
    readWhole (Nat.toDigits 10 n ++ c :: rest) = .ok (Nat.toDigits 10 n, c :: rest) := by
  have digits := isDecimal_toDigits n
  have taken : (Nat.toDigits 10 n ++ c :: rest).takeWhile isDecimal = Nat.toDigits 10 n := by
    rw [List.takeWhile_append_of_pos digits, List.takeWhile_cons_of_neg (by simp [ends]),
      List.append_nil]
  have left : (Nat.toDigits 10 n ++ c :: rest).dropWhile isDecimal = c :: rest := by
    rw [List.dropWhile_append_of_pos digits, List.dropWhile_cons_of_neg (by simp [ends])]
  have read : readDigits (Nat.toDigits 10 n ++ c :: rest) =
      .ok (Nat.toDigits 10 n, c :: rest) := by
    unfold readDigits
    rw [taken, left]
    cases same : Nat.toDigits 10 n with
    | nil => exact absurd same Nat.toDigits_ne_nil
    | cons => rfl
  unfold readWhole
  rw [read]
  simp only [bind, Except.bind]
  split
  · rename_i same
    exact absurd same (toDigits_ne_zero_cons n _ _)
  · rfl

theorem value_toDigits (fits : n < UInt64.size) :
    Numeral.value? ⟨false, Nat.toDigits 10 n, none, none⟩ = some (.whole n) := by
  have small : n ≤ 18446744073709551615 := Nat.le_of_lt_succ fits
  simp [Numeral.value?, ofDigits_toDigits, small]

theorem readNumber_toDigits (fits : n < UInt64.size) (ends : EndsNumber c) :
    readNumber (Nat.toDigits 10 n ++ c :: rest) = .ok (.whole n, c :: rest) := by
  obtain ⟨digit, point, small, large⟩ := ends
  have whole : readWhole (Nat.toDigits 10 n ++ c :: rest) = .ok (Nat.toDigits 10 n, c :: rest) :=
    readWhole_toDigits digit
  have value := value_toDigits fits
  have fraction : readFraction (c :: rest) = .ok (none, c :: rest) := by
    simp [readFraction, point]
  have exponent : readExponent (c :: rest) = .ok (none, c :: rest) := by
    simp [readExponent, small, large]
  cases first : Nat.toDigits 10 n with
  | nil => exact absurd first Nat.toDigits_ne_nil
  | cons d digits =>
    have digit : isDecimal d = true := isDecimal_toDigits n d (first ▸ List.mem_cons_self)
    have unsigned : d ≠ '-' := ne_of_isDecimal digit '-' (by decide)
    rw [first] at value
    rw [first, List.cons_append] at whole
    simp [readNumber, unsigned, whole, fraction, exponent, value, bind, Except.bind]
    rfl

end Numbers

/-! ## Arrays -/

/-- Within an array the document is read back as it was written. -/
def ReadsBack (bound depth : Nat) (document : Json) : Prop :=
  ∀ c rest, FollowsItem c →
    readValue bound depth (write document ++ c :: rest) = .ok (document, c :: rest)

/-- What is written begins neither with a blank nor with a closing bracket. -/
def Opens (document : Json) : Prop :=
  ∃ c rest, write document = c :: rest ∧ isBlank c = false ∧ c ≠ ']'

section Arrays

variable {bound depth : Nat} {items : List Json} {rest : List Char}

theorem readValue_ofNat {n : Nat} {c : Char} (fits : n < UInt64.size) (ends : EndsNumber c) :
    readValue bound depth (write (ofNat n) ++ c :: rest) = .ok (ofNat n, c :: rest) := by
  rw [write_ofNat]
  have number : readNumber (Nat.toDigits 10 n ++ c :: rest) = .ok (.whole n, c :: rest) :=
    readNumber_toDigits fits ends
  cases first : Nat.toDigits 10 n with
  | nil => exact absurd first Nat.toDigits_ne_nil
  | cons d digits =>
    have digit : isDecimal d = true := isDecimal_toDigits n d (first ▸ List.mem_cons_self)
    have other := ne_of_isDecimal digit
    rw [first, List.cons_append] at number
    rw [readValue, List.cons_append, skipBlank_cons (isBlank_of_isDecimal digit)]
    simp only [if_neg (other 'n' (by decide)), if_neg (other 't' (by decide)),
      if_neg (other 'f' (by decide)), if_neg (other '"' (by decide)),
      if_neg (other '[' (by decide)), if_neg (other '\x7b' (by decide)), number]
    rfl

theorem readsBack_ofNat {n : Nat} (fits : n < UInt64.size) : ReadsBack bound depth (ofNat n) :=
  fun _ _ follows => readValue_ofNat fits follows.endsNumber

theorem opens_ofNat (n : Nat) : Opens (ofNat n) := by
  unfold Opens
  rw [write_ofNat]
  cases first : Nat.toDigits 10 n with
  | nil => exact absurd first Nat.toDigits_ne_nil
  | cons d digits =>
    have digit : isDecimal d = true := isDecimal_toDigits n d (first ▸ List.mem_cons_self)
    exact ⟨d, digits, rfl, isBlank_of_isDecimal digit, ne_of_isDecimal digit ']' (by decide)⟩

theorem opens_array (items : List Json) : Opens (array items) := by
  cases items with
  | nil => exact ⟨'[', [']'], rfl, by decide, by decide⟩
  | cons item more => exact ⟨'[', write item ++ writeItems more, rfl, by decide, by decide⟩

/-- One or more items are read back if each of them is. `one` writes an item, and `more` writes the
    items behind the first one, each behind a comma, and the closing character. -/
theorem readItems_written {α : Type} {item : Reader α} {closing : Char} {one : α → List Char}
    {more : List α → List Char} (ended : more [] = [closing])
    (comma : ∀ a later, more (a :: later) = ',' :: (one a ++ more later))
    (solid : isBlank closing = false) (other : ',' ≠ closing) {first : α} {later : List α}
    {fuel : Nat} {rest : List Char}
    (each : ∀ a ∈ first :: later, ∀ c rest, c = ',' ∨ c = closing →
      item (one a ++ c :: rest) = .ok (a, c :: rest))
    (enough : later.length < fuel) :
    readItems item closing fuel (one first ++ (more later ++ rest)) =
      .ok (first :: later, rest) := by
  induction later generalizing first fuel with
  | nil =>
    cases fuel with
    | zero => cases enough
    | succ fuel =>
      have read := each first List.mem_cons_self closing rest (.inr rfl)
      simp only [readItems, ended, List.singleton_append, read, bind, Except.bind,
        skipBlank_cons solid, if_true]
      rfl
  | cons second later ih =>
    cases fuel with
    | zero => cases enough
    | succ fuel =>
      have read := each first List.mem_cons_self ',' (one second ++ (more later ++ rest)) (.inl rfl)
      have others := ih (fun a member => each a (List.mem_cons_of_mem _ member))
        (Nat.lt_of_succ_lt_succ enough)
      simp only [readItems, comma, List.cons_append, List.append_assoc, read, bind, Except.bind,
        skipBlank_cons (by decide : isBlank ',' = false), if_neg other, if_true, others]
      rfl

theorem readItems_write {first : Json} {more : List Json} {fuel : Nat}
    (each : ∀ document ∈ first :: more, ReadsBack bound depth document)
    (enough : more.length < fuel) :
    readItems (readValue bound depth) ']' fuel (write first ++ (writeItems more ++ rest)) =
      .ok (first :: more, rest) :=
  readItems_written (by simp only [writeItems])
    (fun item later => by simp only [writeItems, List.cons_append]) (by decide) (by decide) each
    enough

/-- An array is read back if its items are, whatever follows it. -/
theorem readValue_array (each : ∀ document ∈ items, ReadsBack bound depth document)
    (opens : ∀ document ∈ items, Opens document) (few : items.length ≤ bound) :
    readValue bound (depth + 1) (write (array items) ++ rest) = .ok (array items, rest) := by
  have read : ∃ text, write (array items) = '[' :: text ∧
      readSequence bound (readValue bound depth) ']' (text ++ rest) = .ok (items, rest) := by
    cases items with
    | nil =>
      refine ⟨[']'], rfl, ?_⟩
      simp only [readSequence, List.singleton_append,
        skipBlank_cons (by decide : isBlank ']' = false), if_true]
    | cons first more =>
      refine ⟨write first ++ writeItems more, rfl, ?_⟩
      obtain ⟨c, text, same, solid, open'⟩ := opens first List.mem_cons_self
      have several : readItems (readValue bound depth) ']' bound
          (write first ++ (writeItems more ++ rest)) = .ok (first :: more, rest) :=
        readItems_write each few
      rw [same, List.cons_append] at several
      rw [same, List.append_assoc, List.cons_append, readSequence, skipBlank_cons solid]
      simp only [if_neg open', several]
  obtain ⟨text, same, read⟩ := read
  rw [same, List.cons_append, readValue, skipBlank_cons (by decide : isBlank '[' = false)]
  simp only [read, bind, Except.bind, Char.reduceEq, if_false, if_true]
  rfl

theorem readsBack_array (each : ∀ document ∈ items, ReadsBack bound depth document)
    (opens : ∀ document ∈ items, Opens document) (few : items.length ≤ bound) :
    ReadsBack bound (depth + 1) (array items) :=
  fun _ _ _ => readValue_array each opens few

/-! ## Whole texts -/

theorem length_writeItems (items : List Json) : items.length ≤ (writeItems items).length := by
  induction items with
  | nil => exact Nat.zero_le _
  | cons item rest ih =>
    simp only [writeItems, List.length_cons, List.length_append]
    omega

/-- An array has no more items than its text has characters. -/
theorem length_write_array (items : List Json) :
    items.length ≤ (write (array items)).length := by
  cases items with
  | nil => exact Nat.zero_le _
  | cons item rest =>
    have others := length_writeItems rest
    simp only [write, List.length_cons, List.length_append]
    omega

theorem length_write_of_mem {document : Json} (member : document ∈ items) :
    (write document).length ≤ (write (array items)).length := by
  have among : ∀ items : List Json, document ∈ items →
      (write document).length ≤ (writeItems items).length := by
    intro items member
    induction items with
    | nil => cases member
    | cons item rest ih =>
      simp only [writeItems, List.length_cons, List.length_append]
      obtain rfl | member := List.mem_cons.mp member
      · omega
      · have := ih member
        omega
  cases items with
  | nil => cases member
  | cons item rest =>
    simp only [write, List.length_cons, List.length_append]
    obtain rfl | member := List.mem_cons.mp member
    · omega
    · have := among rest member
      omega

theorem parse_toBytes_of_read {document : Json}
    (read : readValue (write document).length maxDepth (write document) = .ok (document, [])) :
    parse document.toBytes = .ok document := by
  simp only [parse, toBytes, Bytes.text?_ofText, parseText, toText, String.toList_ofList]
  simp only [read, bind, Except.bind]
  rfl

/-- The text of an array is read back as the array, if each item is that is read within it. -/
theorem parse_toBytes_array
    (each : ∀ document ∈ items, ReadsBack (write (array items)).length (maxDepth - 1) document)
    (opens : ∀ document ∈ items, Opens document) :
    parse (array items).toBytes = .ok (array items) := by
  have read : readValue (write (array items)).length maxDepth (write (array items) ++ []) =
      .ok (array items, []) :=
    readValue_array each opens (length_write_array items)
  rw [List.append_nil] at read
  exact parse_toBytes_of_read read

end Arrays

end Json

end StoreGraph
