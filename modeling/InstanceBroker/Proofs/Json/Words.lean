import InstanceBroker.Proofs.Json.Literal

namespace InstanceBroker.Json

inductive Means : Lexeme → Token.Kind → Prop
  | openList : Means .openList .openList
  | closeList : Means .closeList .closeList
  | openObject : Means .openObject .openObject
  | closeObject : Means .closeObject .closeObject
  | comma : Means .comma .comma
  | colon : Means .colon .colon
  | null : Means .null .null
  | boolean {value : Bool} : Means (.boolean value) (.boolean value)
  | number {numeral : Numeral} {value : Except Error Number}
      (means : value.toOption = numeral.value?) : Means (.number numeral) (.number value)
  | string {literal : Literal} : Means (.string literal) (.string (.ok literal.value))

/-- The token stands for nothing that is well formed. -/
inductive Faulty : Token.Kind → Prop
  | string {error : Error} : Faulty (.string (.error error))
  | brokenString {failure : Failure} : Faulty (.brokenString failure)
  | broken {failure : Failure} : Faulty (.broken failure)
  | stray : Faulty .stray

abbrev Stand : List Lexeme → List Token → Prop :=
  List.Forall₂ fun lexeme token => Means lexeme token.kind

theorem Means.goesOn {lexeme : Lexeme} {kind : Token.Kind} (means : Means lexeme kind) :
    kind.endsScan = false := by
  cases means <;> rfl

theorem scanString_append (literal : Literal) (rest : List Char) (position : Position) :
    ∃ stop, scanString ⟨literal.chars ++ '"' :: rest, position⟩ =
      (.string (.ok literal.value), ⟨rest, stop⟩) := by
  have enough : literal.value.toList.length < (literal.chars ++ '"' :: rest).length + 1 := by
    have fewer := literal.spelled.length_le
    rw [List.length_append]
    omega
  obtain ⟨stop, read⟩ := readString_append literal.spelled _ rest [] position enough
  refine ⟨stop, ?_⟩
  simp only [scanString, read, List.reverse_nil, List.nil_append, String.ofList_toList]

theorem scanString_spec (chars : List Char) (position : Position) :
    Faulty (scanString ⟨chars, position⟩).1 ∨
      ∃ literal : Literal, (scanString ⟨chars, position⟩).1 = .string (.ok literal.value) ∧
        chars = literal.chars ++ '"' :: (scanString ⟨chars, position⟩).2.rest := by
  unfold scanString
  dsimp only
  split
  · rename_i value stop read
    obtain ⟨body, meant, glyphs, same, rfl⟩ := readString_spec _ read
    exact .inr ⟨⟨body, String.ofList meant, by rwa [String.toList_ofList]⟩, rfl, same⟩
  · exact .inl .string
  · exact .inl .brokenString

theorem word_append (expected rest : List Char) (position : Position) :
    ∃ stop, word position expected (expected ++ rest) = .ok ⟨rest, stop⟩ := by
  induction expected generalizing position with
  | nil => exact ⟨position, rfl⟩
  | cons c expected ih =>
    obtain ⟨stop, same⟩ := ih (position.after c)
    exact ⟨stop, by simp [word, same]⟩

theorem word_spec {expected text : List Char} {position : Position} {stop : Cursor}
    (read : word position expected text = .ok stop) : text = expected ++ stop.rest := by
  induction expected generalizing position text with
  | nil =>
    cases read
    rfl
  | cons c expected ih =>
    cases text with
    | nil => cases read
    | cons d text =>
      rw [word] at read
      split at read
      · rename_i same
        rw [same, ih read]
        rfl
      · cases read

theorem scanWord_append (kind : Token.Kind) (expected rest : List Char) (position : Position) :
    ∃ stop,
      scanWord kind expected ⟨expected ++ rest, position⟩ = (kind, ⟨rest, stop⟩) := by
  obtain ⟨stop, read⟩ := word_append expected rest position
  exact ⟨stop, by rw [scanWord, read]⟩

theorem scanWord_spec (kind : Token.Kind) (expected chars : List Char) (position : Position) :
    Faulty (scanWord kind expected ⟨chars, position⟩).1 ∨
      (scanWord kind expected ⟨chars, position⟩).1 = kind ∧
        chars = expected ++ (scanWord kind expected ⟨chars, position⟩).2.rest := by
  unfold scanWord
  dsimp only
  split
  · rename_i stop read
    exact .inr ⟨rfl, word_spec read⟩
  · exact .inl .broken

def scanSigned (isNegative : Bool) (cursor : Cursor) : Token.Kind × Cursor :=
  match scanNumber isNegative cursor with
  | .ok (value, stop) => (.number value, stop)
  | .error failure => (.broken failure, cursor)

theorem scanToken_other {c : Char} (start : Cursor) (rest : List Char)
    (other : c ∉ ['[', ']', '{', '}', ',', ':', 'n', 't', 'f', '"', '-']) :
    scanToken c start rest =
      if isDigit c then scanSigned false start else (.stray, start) := by
  simp only [List.mem_cons, List.not_mem_nil, or_false, not_or] at other
  unfold scanToken
  split
  all_goals first
    | rfl
    | simp at other

theorem scanSigned_append (numeral : Numeral) {rest : List Char} (stops : Stops rest)
    (position : Position) :
    ∃ value stop, scanSigned numeral.negative
        ⟨numeral.integer ++ (numeral.fractionChars ++ (numeral.exponentChars ++ rest)),
          position⟩ =
      (.number value, ⟨rest, stop⟩) ∧ value.toOption = numeral.value? := by
  obtain ⟨value, stop, read, means⟩ := scanNumber_append numeral stops position
  exact ⟨value, stop, by rw [scanSigned, read], means⟩

theorem scanSigned_spec (isNegative : Bool) (chars : List Char) (position : Position) :
    Faulty (scanSigned isNegative ⟨chars, position⟩).1 ∨
      ∃ numeral : Numeral, numeral.negative = isNegative ∧
        Means (.number numeral) (scanSigned isNegative ⟨chars, position⟩).1 ∧
        chars = numeral.integer ++ (numeral.fractionChars ++ (numeral.exponentChars ++
          (scanSigned isNegative ⟨chars, position⟩).2.rest)) := by
  unfold scanSigned
  split
  · rename_i value stop read
    obtain ⟨numeral, sign, means, same⟩ := scanNumber_spec read
    exact .inr ⟨numeral, sign, .number means, same⟩
  · exact .inl .broken

theorem not_digit_mem {c : Char} (digit : isDigit c = true) :
    c ∉ [' ', '\n', '\t', '\r', '[', ']', '{', '}', ',', ':', 'n', 't', 'f', '"', '-'] := by
  intro among
  have undigit : [' ', '\n', '\t', '\r', '[', ']', '{', '}', ',', ':', 'n', 't', 'f', '"',
      '-'].all (fun c => !isDigit c) = true := rfl
  have apart := List.all_eq_true.mp undigit c among
  rw [digit] at apart
  cases apart

theorem scanToken_numeral (numeral : Numeral) {rest : List Char} (stops : Stops rest)
    (position : Position) :
    ∃ c chars kind stop, numeral.chars = c :: chars ∧ isBlank c = false ∧
      scanToken c ⟨c :: (chars ++ rest), position⟩ (chars ++ rest) =
      (kind, ⟨rest, stop⟩) ∧
      Means (.number numeral) kind := by
  obtain ⟨value, stop, read, means⟩ := scanSigned_append numeral stops
    (if numeral.negative then position.after '-' else position)
  cases sign : numeral.negative with
  | true =>
    rw [sign] at read
    refine ⟨'-', numeral.integer ++ (numeral.fractionChars ++ numeral.exponentChars), _, stop, ?_,
      rfl, ?_, .number means⟩
    · simp only [Numeral.chars, sign]
      rfl
    · rw [List.append_assoc, List.append_assoc]
      exact read
  | false =>
    rw [sign] at read
    obtain ⟨c, integer, same⟩ := List.exists_cons_of_ne_nil numeral.whole.1
    have digit : isDigit c = true := numeral.whole.2 c (same ▸ List.mem_cons_self)
    have apart := not_digit_mem digit
    simp only [List.mem_cons, List.not_mem_nil, or_false, not_or] at apart
    refine ⟨c, integer ++ (numeral.fractionChars ++ numeral.exponentChars), _, stop, ?_, ?_, ?_,
      .number means⟩
    · simp only [Numeral.chars, sign, same]
      rfl
    · simp [isBlank, apart]
    · rw [scanToken_other, if_pos digit]
      · rw [same] at read
        rw [List.append_assoc, List.append_assoc]
        exact read
      · simp [apart]

theorem scanToken_append (lexeme : Lexeme) {rest : List Char}
    (apart : lexeme.isNumber = true → Stops rest) (position : Position) :
    ∃ c chars kind stop, lexeme.chars = c :: chars ∧ isBlank c = false ∧
      scanToken c ⟨c :: (chars ++ rest), position⟩ (chars ++ rest) =
      (kind, ⟨rest, stop⟩) ∧
      Means lexeme kind := by
  cases lexeme with
  | openList => exact ⟨'[', [], _, _, rfl, rfl, rfl, .openList⟩
  | closeList => exact ⟨']', [], _, _, rfl, rfl, rfl, .closeList⟩
  | openObject => exact ⟨'{', [], _, _, rfl, rfl, rfl, .openObject⟩
  | closeObject => exact ⟨'}', [], _, _, rfl, rfl, rfl, .closeObject⟩
  | comma => exact ⟨',', [], _, _, rfl, rfl, rfl, .comma⟩
  | colon => exact ⟨':', [], _, _, rfl, rfl, rfl, .colon⟩
  | null =>
    obtain ⟨stop, read⟩ := scanWord_append .null ['u', 'l', 'l'] rest (position.after 'n')
    exact ⟨'n', _, _, stop, rfl, rfl, read, .null⟩
  | boolean value =>
    cases value with
    | true =>
      obtain ⟨stop, read⟩ :=
        scanWord_append (.boolean true) ['r', 'u', 'e'] rest (position.after 't')
      exact ⟨'t', _, _, stop, rfl, rfl, read, .boolean⟩
    | false =>
      obtain ⟨stop, read⟩ :=
        scanWord_append (.boolean false) ['a', 'l', 's', 'e'] rest (position.after 'f')
      exact ⟨'f', _, _, stop, rfl, rfl, read, .boolean⟩
  | string literal =>
    obtain ⟨stop, read⟩ := scanString_append literal rest (position.after '"')
    refine ⟨'"', literal.chars ++ ['"'], _, stop, rfl, rfl, ?_, .string⟩
    rw [List.append_assoc]
    exact read
  | number numeral => exact scanToken_numeral numeral (apart rfl) position

theorem scanWord_lexeme {c : Char} {kind : Token.Kind} {expected : List Char} (lexeme : Lexeme)
    (means : Means lexeme kind) (chars : lexeme.chars = c :: expected) (rest : List Char)
    (position : Position) :
    Faulty (scanWord kind expected ⟨rest, position⟩).1 ∨
      ∃ lexeme, Means lexeme (scanWord kind expected ⟨rest, position⟩).1 ∧
        c :: rest = lexeme.chars ++ (scanWord kind expected ⟨rest, position⟩).2.rest := by
  obtain faulty | ⟨same, there⟩ := scanWord_spec kind expected rest position
  · exact .inl faulty
  · refine .inr ⟨lexeme, by rwa [same], ?_⟩
    rw [chars, List.cons_append, ← there]

theorem scanToken_spec (c : Char) (rest : List Char) (position : Position) :
    Faulty (scanToken c ⟨c :: rest, position⟩ rest).1 ∨
      ∃ lexeme, Means lexeme (scanToken c ⟨c :: rest, position⟩ rest).1 ∧
        c :: rest = lexeme.chars ++ (scanToken c ⟨c :: rest, position⟩ rest).2.rest := by
  by_cases other : c ∉ ['[', ']', '{', '}', ',', ':', 'n', 't', 'f', '"', '-']
  · rw [scanToken_other _ _ other]
    split
    · obtain faulty | ⟨numeral, sign, means, same⟩ :=
        scanSigned_spec false (c :: rest) position
      · exact .inl faulty
      · refine .inr ⟨_, means, same.trans ?_⟩
        simp only [Lexeme.chars, Numeral.chars, sign, List.append_assoc]
        rfl
    · exact .inl .stray
  · simp only [List.mem_cons, List.not_mem_nil, or_false, not_not] at other
    rcases other with rfl | rfl | rfl | rfl | rfl | rfl | rfl | rfl | rfl | rfl | rfl
    · exact .inr ⟨_, .openList, rfl⟩
    · exact .inr ⟨_, .closeList, rfl⟩
    · exact .inr ⟨_, .openObject, rfl⟩
    · exact .inr ⟨_, .closeObject, rfl⟩
    · exact .inr ⟨_, .comma, rfl⟩
    · exact .inr ⟨_, .colon, rfl⟩
    · exact scanWord_lexeme .null .null rfl rest _
    · exact scanWord_lexeme (.boolean true) .boolean rfl rest _
    · exact scanWord_lexeme (.boolean false) .boolean rfl rest _
    · obtain faulty | ⟨literal, same, there⟩ := scanString_spec rest (position.after '"')
      · exact .inl faulty
      · refine .inr ⟨.string literal, same ▸ .string, ?_⟩
        simp only [Lexeme.chars, List.cons_append, List.append_assoc]
        exact congrArg ('"' :: ·) there
    · obtain faulty | ⟨numeral, sign, means, same⟩ :=
        scanSigned_spec true rest (position.after '-')
      · exact .inl faulty
      · refine .inr ⟨_, means, ?_⟩
        simp only [Lexeme.chars, Numeral.chars, sign, List.append_assoc]
        exact congrArg ('-' :: ·) same

/-- The tokens of some characters, up to their end or to what is not well formed. -/
inductive Lexed : List Char → List Token → Prop
  | finish {blanks : List Char} {token : Token} (blank : Blank blanks)
      (finish : token.kind = .finish) : Lexed blanks [token]
  | next {blanks chars : List Char} {lexeme : Lexeme} {token : Token} {tokens : List Token}
      (blank : Blank blanks) (means : Means lexeme token.kind) (more : Lexed chars tokens) :
      Lexed (blanks ++ (lexeme.chars ++ chars)) (token :: tokens)
  | fault {chars : List Char} {token : Token} {tokens : List Token}
      (faulty : Faulty token.kind) : Lexed chars (token :: tokens)

def Unblank (chars : List Char) : Prop := ∀ c ∈ chars.head?, isBlank c = false

theorem skipBlanks_append {blanks rest : List Char} (blank : Blank blanks) (unblank : Unblank rest)
    (position : Position) : ∃ stop, skipBlanks position (blanks ++ rest) = ⟨rest, stop⟩ := by
  induction blanks generalizing position with
  | nil =>
    cases rest with
    | nil => exact ⟨position, rfl⟩
    | cons c rest =>
      have other : isBlank c = false := unblank c rfl
      exact ⟨position, by simp [skipBlanks, other]⟩
  | cons c blanks ih =>
    obtain ⟨first, blank⟩ := List.forall_mem_cons.mp blank
    obtain ⟨stop, skipped⟩ := ih blank (position.after c)
    exact ⟨stop, by simp [skipBlanks, first, skipped]⟩

theorem skipBlanks_spec (position : Position) (chars : List Char) :
    ∃ blanks, Blank blanks ∧ chars = blanks ++ (skipBlanks position chars).rest := by
  induction chars generalizing position with
  | nil => exact ⟨[], nofun, rfl⟩
  | cons c chars ih =>
    by_cases first : isBlank c = true
    · obtain ⟨blanks, blank, same⟩ := ih (position.after c)
      refine ⟨c :: blanks, List.forall_mem_cons.mpr ⟨first, blank⟩, ?_⟩
      simp only [skipBlanks, first, if_true]
      exact congrArg (c :: ·) same
    · exact ⟨[], nofun, by simp [skipBlanks, first]⟩

theorem Lexeme.chars_ne_nil (lexeme : Lexeme) : lexeme.chars ≠ [] := by
  have ended : lexeme.isNumber = true → Stops [] := fun _ => nofun
  obtain ⟨c, chars, _, _, same, _⟩ := scanToken_append lexeme ended {}
  rw [same]
  nofun

theorem lexed_scan (fuel : Nat) (chars : List Char) (position : Position)
    (enough : chars.length < fuel) : Lexed chars (scan fuel ⟨chars, position⟩) := by
  induction fuel generalizing chars position with
  | zero => exact absurd enough (Nat.not_lt_zero _)
  | succ fuel ih =>
    obtain ⟨blanks, blank, same⟩ := skipBlanks_spec position chars
    simp only [scan]
    generalize skipBlanks position chars = start at same
    obtain ⟨rest, position⟩ := start
    cases rest with
    | nil =>
      rw [same, List.append_nil]
      exact .finish blank rfl
    | cons c rest =>
      dsimp only at same ⊢
      have taken := scanToken_spec c rest position
      generalize scanToken c ⟨c :: rest, position⟩ rest = read at taken ⊢
      obtain ⟨kind, stop⟩ := read
      dsimp only at taken ⊢
      obtain faulty | ⟨lexeme, means, there⟩ := taken
      · exact .fault faulty
      · rw [means.goesOn, same, there]
        refine .next blank means (ih _ _ ?_)
        have some := List.length_pos_iff.mpr lexeme.chars_ne_nil
        have shorter := congrArg List.length (same.trans (congrArg (blanks ++ ·) there))
        simp only [List.length_append] at shorter
        omega

/-- A number stands last or before a word that ends it. -/
def Tidy : List Lexeme → Prop
  | [] => True
  | lexeme :: rest =>
    (lexeme.isNumber = true → ∀ next ∈ rest.head?, next.isMark = true) ∧ Tidy rest

theorem stops_of_isMark {lexeme : Lexeme} (mark : lexeme.isMark = true) (rest : List Char) :
    Stops (lexeme.chars ++ rest) := by
  cases lexeme with
  | closeList | closeObject | comma =>
    rintro _ ⟨⟩
    decide
  | openList | openObject | colon | null | boolean | number | string => cases mark

theorem stops_of_blank {blanks rest : List Char} (blank : Blank blanks) (stops : Stops rest) :
    Stops (blanks ++ rest) := by
  cases blanks with
  | nil => exact stops
  | cons c blanks =>
    rintro _ ⟨⟩
    have first : isBlank c = true := blank c List.mem_cons_self
    simp only [isBlank, Bool.or_eq_true, decide_eq_true_eq] at first
    rcases first with ((rfl | rfl) | rfl) | rfl <;> decide

theorem stops_of_spaced {lexemes : List Lexeme} {chars rest : List Char}
    (spaced : Spaced lexemes chars rest) (marked : ∀ next ∈ lexemes.head?, next.isMark = true)
    (stops : Stops rest) : Stops chars := by
  cases spaced with
  | done => exact stops
  | next blank => exact stops_of_blank blank (stops_of_isMark (marked _ rfl) _)

theorem scan_next (lexeme : Lexeme) {blanks rest : List Char} (blank : Blank blanks)
    (apart : lexeme.isNumber = true → Stops rest) (fuel : Nat) (position : Position) :
    ∃ token stop, scan (fuel + 1) ⟨blanks ++ (lexeme.chars ++ rest), position⟩ =
      token :: scan fuel ⟨rest, stop⟩ ∧ Means lexeme token.kind := by
  obtain ⟨c, chars, _, _, same, unblank, _⟩ := scanToken_append lexeme apart position
  have first : Unblank (lexeme.chars ++ rest) := by
    rw [same]
    rintro _ ⟨⟩
    exact unblank
  obtain ⟨start, skipped⟩ := skipBlanks_append blank first position
  obtain ⟨c, chars, kind, stop, same, _, taken, means⟩ := scanToken_append lexeme apart start
  refine ⟨⟨kind, start, stop⟩, stop, ?_, means⟩
  simp only [scan, skipped]
  rw [same, List.cons_append]
  simp only [taken, means.goesOn]
  rfl

theorem scan_spaced {lexemes : List Lexeme} {chars rest : List Char}
    (spaced : Spaced lexemes chars rest) (tidy : Tidy lexemes) (stops : Stops rest) (fuel : Nat)
    (position : Position) (enough : chars.length < fuel) :
    ∃ tokens fuel' stop,
      scan fuel ⟨chars, position⟩ = tokens ++ scan fuel' ⟨rest, stop⟩ ∧
      Stand lexemes tokens ∧
      rest.length < fuel' := by
  induction spaced generalizing fuel position with
  | done => exact ⟨[], fuel, position, rfl, .nil, enough⟩
  | @next blanks chars rest lexeme lexemes blank more ih =>
    obtain ⟨fuel, rfl⟩ :=
      Nat.exists_eq_succ_of_ne_zero (Nat.ne_of_gt (Nat.zero_lt_of_lt enough))
    obtain ⟨marked, tidy⟩ := tidy
    obtain ⟨token, middle, first, means⟩ := scan_next lexeme blank
      (fun number => stops_of_spaced more (marked number) stops) fuel position
    have shorter : chars.length < fuel := by
      have some := List.length_pos_iff.mpr lexeme.chars_ne_nil
      simp only [List.length_append] at enough
      omega
    obtain ⟨tokens, fuel', stop, later, each, left⟩ := ih tidy stops fuel middle shorter
    exact ⟨token :: tokens, fuel', stop, by rw [first, later]; rfl, .cons means each, left⟩

end InstanceBroker.Json
