import JavaProjection.Proofs.Json.Nesting

/-!
# Written lexemes are read back

The characters of a lexeme, read from between two lexemes, complete that lexeme. A word ends only
where something else begins, so what follows a word must not go on with it.
-/

set_option autoImplicit false

namespace JavaProjection

namespace Json

/-! ## Numbers -/

theorem digitsValue_toDigits (value : Nat) : digitsValue (Nat.toDigits 10 value) = value :=
  Nat.ofDigitChars_ten_toDigits

theorem isDigit_of_mem_toDigits {value : Nat} {c : Char} (digit : c ∈ Nat.toDigits 10 value) :
    c.isDigit = true :=
  Nat.isDigit_of_mem_toDigits (by decide) (by decide) digit

theorem head?_toDigits_ne_zero {value : Nat} (positive : 0 < value) :
    (Nat.toDigits 10 value).head? ≠ some '0' := by
  induction value using Nat.strongRecOn with
  | ind value ih =>
    by_cases small : value < 10
    · rw [Nat.toDigits_of_lt_base small]
      have digits : ∀ digit, digit < 10 → 0 < digit → [digit.digitChar].head? ≠ some '0' := by
        decide
      exact digits value small positive
    · rw [Nat.toDigits_of_base_le (by decide) (by omega), List.head?_append]
      have shorter := ih (value / 10) (by omega) (by omega)
      cases front : (Nat.toDigits 10 (value / 10)).head? with
      | none => exact absurd (List.head?_eq_none_iff.1 front) Nat.toDigits_ne_nil
      | some digit =>
        rw [front] at shorter
        exact shorter

theorem isInteger_toDigits (value : Nat) : isInteger (Nat.toDigits 10 value) = true := by
  have digits : areDigits (Nat.toDigits 10 value) = true := by
    simp only [areDigits, Bool.and_eq_true, Bool.not_eq_true', List.isEmpty_eq_false_iff,
      List.all_eq_true]
    exact ⟨Nat.toDigits_ne_nil, fun c digit => isDigit_of_mem_toDigits digit⟩
  rw [isInteger, digits, Bool.true_and, Bool.or_eq_true]
  by_cases positive : 0 < value
  · left
    exact bne_iff_ne.2 (head?_toDigits_ne_zero positive)
  · obtain rfl : value = 0 := by omega
    right
    decide

theorem ofWord?_toDigits (value : Nat) :
    Scalar.ofWord? (Nat.toDigits 10 value) = some (.nat value) := by
  -- A word of digits is none of the three words that are no numbers.
  have other : ∀ word : List Char, (∃ c ∈ word, c.isDigit = false) →
      Nat.toDigits 10 value ≠ word := by
    rintro word ⟨c, inside, letter⟩ rfl
    rw [isDigit_of_mem_toDigits inside] at letter
    cases letter
  have null := other "null".toList ⟨'n', by decide, by decide⟩
  have true' := other "true".toList ⟨'t', by decide, by decide⟩
  have false' := other "false".toList ⟨'f', by decide, by decide⟩
  rw [Scalar.ofWord?, if_neg null, if_neg true', if_neg false', if_pos (isInteger_toDigits value),
    digitsValue_toDigits]

/-! ## Words -/

theorem scan_step {position next : Position} {c : Char} {lexemes : List Lexeme}
    (step : position.step c = some (next, lexemes)) (complete : List Lexeme) (rest : List Char) :
    position.scan complete (c :: rest) = next.scan (lexemes.reverse ++ complete) rest := by
  rw [Position.scan, step]

def EndsWord (rest : List Char) : Prop :=
  ∀ c ∈ rest.head?, isWordChar c = false

theorem endsWord_nil : EndsWord [] := by
  intro c head
  cases head

theorem endsWord_cons {c : Char} {rest : List Char} (other : isWordChar c = false) :
    EndsWord (c :: rest) := by
  rintro _ ⟨⟩
  exact other

theorem start_of_isWordChar {c : Char} (inWord : isWordChar c = true) :
    Position.start c = some (.word [c], []) := by
  have notBlank : Lexeme.isBlank c = false := by
    rw [← Bool.not_eq_true]
    intro blank
    simp only [Lexeme.isBlank, Bool.or_eq_true, beq_iff_eq] at blank
    rcases blank with ((rfl | rfl) | rfl) | rfl <;> revert inWord <;> decide
  have notQuote : c ≠ '"' := by
    rintro rfl
    revert inWord
    decide
  rw [Position.start, notBlank, if_neg Bool.false_ne_true, if_neg notQuote, if_pos inWord]

theorem scan_word_chars {word : List Char} (inWord : ∀ c ∈ word, isWordChar c = true)
    (before : List Char) (complete : List Lexeme) (rest : List Char) :
    (Position.word before).scan complete (word ++ rest) =
      (Position.word (word.reverse ++ before)).scan complete rest := by
  induction word generalizing before with
  | nil => rfl
  | cons c word ih =>
    have head := inWord c List.mem_cons_self
    have tail := ih fun d member => inWord d (List.mem_cons_of_mem _ member)
    have step : (Position.word before).step c = some (.word (c :: before), []) := if_pos head
    rw [List.cons_append, scan_step step, List.reverse_nil, List.nil_append, tail,
      List.reverse_cons, List.append_assoc, List.singleton_append]

theorem scan_word_end {before : List Char} {value : Scalar} {rest : List Char}
    (denotes : Scalar.ofWord? before.reverse = some value) (ends : EndsWord rest)
    (complete : List Lexeme) :
    (Position.word before).scan complete rest =
      Position.between.scan (.scalar value :: complete) rest := by
  cases rest with
  | nil => simp [Position.scan, Position.finish, denotes]
  | cons c rest =>
    have other := ends c rfl
    rw [Position.scan, Position.scan]
    cases start : Position.start c with
    | none => simp [Position.step, other, denotes, start]
    | some next => simp [Position.step, other, denotes, start]

/-- A word ends only where the text does not go on with one, hence the condition on the rest. -/
theorem scan_word {word : List Char} {value : Scalar} {rest : List Char} (nonempty : word ≠ [])
    (inWord : word.all isWordChar = true) (denotes : Scalar.ofWord? word = some value)
    (ends : EndsWord rest) (complete : List Lexeme) :
    Position.between.scan complete (word ++ rest) =
      Position.between.scan (.scalar value :: complete) rest := by
  cases word with
  | nil => exact absurd rfl nonempty
  | cons c word =>
    have each := List.all_eq_true.1 inWord
    have tail := scan_word_chars (fun d member => each d (List.mem_cons_of_mem _ member))
      [c] complete rest
    have denotes' : Scalar.ofWord? (word.reverse ++ [c]).reverse = some value := by
      rw [List.reverse_append, List.reverse_reverse]
      exact denotes
    have step : Position.between.step c = some (.word [c], []) :=
      start_of_isWordChar (each c List.mem_cons_self)
    rw [List.cons_append, scan_step step]
    exact tail.trans (scan_word_end denotes' ends complete)

/-! ## String literals -/

theorem hexValue?_digitChar : ∀ digit, digit < 16 → hexValue? digit.digitChar = some digit := by
  decide

theorem scan_unicode {a b c d : Char} {high second third low : Nat}
    (first : hexValue? a = some high) (next : hexValue? b = some second)
    (following : hexValue? c = some third) (last : hexValue? d = some low) (units : List Nat)
    (complete : List Lexeme) (rest : List Char) :
    (Position.quoted units).scan complete ('\\' :: 'u' :: a :: b :: c :: d :: rest) =
      (Position.quoted ((16 * (16 * (16 * high + second) + third) + low) :: units)).scan complete
        rest := by
  simp [Position.scan, Position.step, first, next, following, last]

/-- Whichever way a character is escaped, the scanner gets back its code point as one unit. -/
theorem scan_escape (c : Char) (units : List Nat) (complete : List Lexeme) (rest : List Char) :
    (Position.quoted units).scan complete (escape c ++ rest) =
      (Position.quoted (c.toNat :: units)).scan complete rest := by
  unfold escape
  split
  · subst c
    rfl
  split
  · subst c
    rfl
  split
  · subst c
    rfl
  split
  · subst c
    rfl
  split
  · subst c
    rfl
  split
  · subst c
    rfl
  split
  · subst c
    rfl
  split
  · next control =>
    have high := hexValue?_digitChar (c.toNat / 16) (by omega)
    have low := hexValue?_digitChar (c.toNat % 16) (by omega)
    have value : 16 * (16 * (16 * 0 + 0) + c.toNat / 16) + c.toNat % 16 = c.toNat := by omega
    have zero := hexValue?_digitChar 0 (by omega)
    have scanned := scan_unicode zero zero high low units complete rest
    rw [value] at scanned
    exact scanned
  · next quote backslash _ _ _ _ _ printable =>
    simp [Position.scan, Position.step, quote, backslash, printable]

theorem decodeUnits_toNat (content : List Char) :
    decodeUnits (content.map Char.toNat) = some content := by
  induction content with
  | nil => rfl
  | cons c content ih =>
    have valid : c.toNat < 0xD800 ∨ 0xDFFF < c.toNat ∧ c.toNat < 0x110000 := c.valid
    have notLow : isLowSurrogate c.toNat = false := by
      simp only [isLowSurrogate, Bool.and_eq_false_iff, decide_eq_false_iff_not]
      omega
    have notHigh : isHighSurrogate c.toNat = false := by
      simp only [isHighSurrogate, Bool.and_eq_false_iff, decide_eq_false_iff_not]
      omega
    rw [List.map_cons, decodeUnits.eq_def]
    simp [notLow, notHigh, ih, Char.ofNat_toNat]

theorem textOfUnits_toNat (content : String) :
    textOfUnits (content.toList.map Char.toNat) = some content := by
  rw [textOfUnits, decodeUnits_toNat, Option.map_some, String.ofList_toList]

theorem scan_escaped (chars : List Char) (units : List Nat) (complete : List Lexeme)
    (rest : List Char) :
    (Position.quoted units).scan complete (chars.flatMap escape ++ rest) =
      (Position.quoted ((chars.map Char.toNat).reverse ++ units)).scan complete rest := by
  induction chars generalizing units with
  | nil => rfl
  | cons c chars ih =>
    rw [List.flatMap_cons, List.append_assoc, scan_escape, ih, List.map_cons, List.reverse_cons,
      List.append_assoc, List.singleton_append]

theorem scan_quoted_none (complete : List Lexeme) (rest : List Char) :
    Position.between.scan complete (quoted none ++ rest) =
      Position.between.scan (.scalar (.string none) :: complete) rest := by
  have chars : quoted none = ['"', '\\', 'u', 'd', '8', '0', '0', '"'] := by decide
  have opened : Position.between.step '"' = some (.quoted [], []) := by decide
  have closed : (Position.quoted [16 * (16 * (16 * 13 + 8) + 0) + 0]).step '"' =
      some (.between, [.scalar (.string none)]) := by decide
  have unit := scan_unicode (hexValue?_digitChar 13 (by omega)) (hexValue?_digitChar 8 (by omega))
    (hexValue?_digitChar 0 (by omega)) (hexValue?_digitChar 0 (by omega)) [] complete ('"' :: rest)
  rw [chars, List.cons_append, scan_step opened]
  exact unit.trans (scan_step closed complete rest)

theorem scan_quoted_some (content : String) (complete : List Lexeme) (rest : List Char) :
    Position.between.scan complete (quoted (some content) ++ rest) =
      Position.between.scan (.scalar (.string (some content)) :: complete) rest := by
  have opened : Position.between.step '"' = some (.quoted [], []) := by decide
  have closed : (Position.quoted (content.toList.map Char.toNat).reverse).step '"' =
      some (.between, [.scalar (.string (some content))]) := by
    rw [Position.step, if_pos rfl, List.reverse_reverse, textOfUnits_toNat]
  have chars : quoted (some content) ++ rest =
      '"' :: (content.toList.flatMap escape ++ '"' :: rest) :=
    congrArg ('"' :: ·) (List.append_assoc ..)
  have inside := scan_escaped content.toList [] complete ('"' :: rest)
  rw [List.append_nil, scan_step closed] at inside
  rw [chars, scan_step opened]
  exact inside

theorem scan_quoted (text : Text) (complete : List Lexeme) (rest : List Char) :
    Position.between.scan complete (quoted text ++ rest) =
      Position.between.scan (.scalar (.string text) :: complete) rest := by
  cases text with
  | none => exact scan_quoted_none complete rest
  | some content => exact scan_quoted_some content complete rest

/-! ## Lexemes of values -/

/-- Read from between two lexemes, the characters of these lexemes complete them before the
rest. -/
def Scans (lexemes : List Lexeme) (rest : List Char) : Prop :=
  ∀ complete : List Lexeme,
    Position.between.scan complete (lexemes.flatMap Lexeme.chars ++ rest) =
      Position.between.scan (lexemes.reverse ++ complete) rest

theorem Scans.append {first second : List Lexeme} {rest : List Char}
    (left : Scans first (second.flatMap Lexeme.chars ++ rest)) (right : Scans second rest) :
    Scans (first ++ second) rest := by
  intro complete
  rw [List.flatMap_append, List.append_assoc, left, right, List.reverse_append, List.append_assoc]

theorem scans_mark {mark : Lexeme} (plain : ∀ value, mark ≠ .scalar value) (rest : List Char) :
    Scans [mark] rest := by
  intro complete
  cases mark with
  | scalar value => exact absurd rfl (plain value)
  | _ => rfl

theorem scans_scalar {value : Scalar} (bounded : value.Bounded) {rest : List Char}
    (ends : EndsWord rest) : Scans [.scalar value] rest := by
  intro complete
  rw [List.flatMap_singleton]
  cases value with
  | null => exact scan_word (by decide) (by decide) (by decide) ends complete
  | bool value =>
    cases value
    · exact scan_word (by decide) (by decide) (by decide) ends complete
    · exact scan_word (by decide) (by decide) (by decide) ends complete
  | nat value =>
    apply scan_word Nat.toDigits_ne_nil _ (ofWord?_toDigits value) ends
    apply List.all_eq_true.2
    intro c digit
    have isDigit := isDigit_of_mem_toDigits digit
    simp [isWordChar, Char.isAlphanum, isDigit]
  | number written => exact bounded.elim
  | string text => exact scan_quoted text complete rest

/-- A key and the colon after it. -/
theorem scans_key (key : Text) (rest : List Char) :
    Scans [.scalar (.string key), .colon] rest := by
  have bounded : (Scalar.string key).Bounded := trivial
  have ends : EndsWord (Lexeme.colon.chars ++ rest) := endsWord_cons (by decide)
  have colon : Scans [.colon] rest := scans_mark (by simp) rest
  exact (scans_scalar bounded ends).append colon

theorem endsWord_elementLexemes (elements : List Json) (rest : List Char) :
    EndsWord ((elementLexemes elements).flatMap Lexeme.chars ++ rest) := by
  cases elements <;> exact endsWord_cons (by decide)

theorem endsWord_memberLexemes (members : List (Text × Json)) (rest : List Char) :
    EndsWord ((memberLexemes members).flatMap Lexeme.chars ++ rest) := by
  rcases members with _ | ⟨⟨key, value⟩, members⟩ <;> exact endsWord_cons (by decide)

mutual

/-- The rest of the text is a variable: inside a container it is the punctuation that follows, and
only a number or a word cares how it starts. -/
theorem scans_lexemes : ∀ value : Json, value.Bounded → ∀ rest : List Char, EndsWord rest →
    Scans value.lexemes rest
  | .scalar _, bounded, _, ends => scans_scalar bounded ends
  | .array [], _, _, _ => fun _ => rfl
  | .array (first :: others), bounded, rest, _ => by
    have head := scans_lexemes first bounded.1 _ (endsWord_elementLexemes others rest)
    have tail := scans_elementLexemes others bounded.2 rest
    exact (scans_mark (by simp) _).append (head.append tail)
  | .object [], _, _, _ => fun _ => rfl
  | .object ((key, value) :: others), bounded, rest, _ => by
    have head := scans_lexemes value bounded.1 _ (endsWord_memberLexemes others rest)
    have tail := scans_memberLexemes others bounded.2 rest
    exact (scans_mark (by simp) _).append ((scans_key key _).append (head.append tail))

theorem scans_elementLexemes : ∀ elements : List Json, BoundedAll elements →
    ∀ rest : List Char, Scans (elementLexemes elements) rest
  | [], _, _ => fun _ => rfl
  | value :: others, bounded, rest => by
    have head := scans_lexemes value bounded.1 _ (endsWord_elementLexemes others rest)
    have tail := scans_elementLexemes others bounded.2 rest
    exact (scans_mark (by simp) _).append (head.append tail)

theorem scans_memberLexemes : ∀ members : List (Text × Json), BoundedMembers members →
    ∀ rest : List Char, Scans (memberLexemes members) rest
  | [], _, _ => fun _ => rfl
  | (key, value) :: others, bounded, rest => by
    have head := scans_lexemes value bounded.1 _ (endsWord_memberLexemes others rest)
    have tail := scans_memberLexemes others bounded.2 rest
    exact (scans_mark (by simp) _).append ((scans_key key _).append (head.append tail))

end

end Json

end JavaProjection
