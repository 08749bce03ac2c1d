import InstanceBroker.Proofs.Except
import InstanceBroker.Yaml.Token.Stream

namespace InstanceBroker.Yaml

def isSimple (c : Char) : Bool := c.isAlphanum || ['_', '-', '.', '+'].contains c

theorem ne_of_isSimple {c d : Char} (simple : isSimple c = true) (other : isSimple d = false) :
    c ≠ d := by
  rintro rfl
  rw [simple] at other
  cases other

theorem unspaced_of_isSimple {c : Char} (simple : isSimple c = true) :
    (isBlank c || isBreak c) = false := by
  have ne {d : Char} (other : isSimple d = false) : c ≠ d := ne_of_isSimple simple other
  simp [isBlank, isBreak, ne (d := ' ') rfl, ne (d := '\t') rfl, ne (d := '\n') rfl,
    ne (d := '\u2028') (by decide), ne (d := '\u2029') (by decide)]

/-- A word that is a plain scalar by itself. -/
structure Simple (word : List Char) : Prop where
  first : ∃ c rest, word = c :: rest ∧ c.isAlphanum = true
  each : ∀ c ∈ word, isSimple c = true

theorem after_of_isSimple {c : Char} (simple : isSimple c = true) (place : Place) :
    place.after c = ⟨place.line, place.column + 1⟩ := by
  have unspaced := unspaced_of_isSimple simple
  rw [Bool.or_eq_false_iff] at unspaced
  rw [Place.after, unspaced.2]
  rfl

theorem plainScalar_append (indent : Int) (start : Place) {word : List Char}
    (each : ∀ c ∈ word, isSimple c = true) (text : List Char) (place : Place)
    (rest : List Char) :
    plainScalar false indent start text .none place place (word ++ rest) =
      plainScalar false indent start (word.reverse ++ text) .none
        ⟨place.line, place.column + word.length⟩
        ⟨place.line, place.column + word.length⟩ rest := by
  induction word generalizing text place with
  | nil => rfl
  | cons c word ih =>
    obtain ⟨simple, each⟩ := List.forall_mem_cons.mp each
    have colon : c ≠ ':' := ne_of_isSimple simple rfl
    rw [List.cons_append, plainScalar, unspaced_of_isSimple simple, after_of_isSimple simple]
    have stray : strayColon false c (word ++ rest) = false := by
      cases word ++ rest <;> rfl
    have goes : endsPlain false c (word ++ rest) = false := by simp [endsPlain, colon]
    rw [stray, goes]
    refine (ih each (c :: text) _).trans ?_
    simp only [List.reverse_cons, List.append_assoc, List.length_cons, Nat.add_comm,
      Nat.add_left_comm]
    rfl

theorem plainScalar_key (indent : Int) {word : List Char} (each : ∀ c ∈ word, isSimple c = true)
    (start : Place) (more : List Char) :
    plainScalar false indent start [] .none start start (word ++ ':' :: ' ' :: more) =
      .ok (spell .plain word.reverse ⟨start.line, start.column + word.length⟩
        ⟨':' :: ' ' :: more, ⟨start.line, start.column + word.length⟩⟩ false) := by
  rw [plainScalar_append indent start each, List.append_nil]
  rfl

theorem plainScalar_line {word : List Char} (each : ∀ c ∈ word, isSimple c = true)
    (start : Place) {more : List Char}
    (next : ∀ c ∈ more.head?, (isBlank c || isBreak c) = false) :
    plainScalar false 1 start [] .none start start (word ++ '\n' :: more) =
      .ok (spell .plain word.reverse ⟨start.line, start.column + word.length⟩
        ⟨more, ⟨start.line + 1, 0⟩⟩ true) := by
  rw [plainScalar_append 1 start each, List.append_nil]
  cases more with
  | nil => rfl
  | cons c more =>
    change plainScalar false 1 start word.reverse (.lines (some '\n') []) _ ⟨start.line + 1, 0⟩
      (c :: more) = _
    rw [plainScalar, next c rfl]
    rfl

structure Line where
  key : List Char
  value : List Char

namespace Line

def chars (line : Line) : List Char := line.key ++ ':' :: ' ' :: (line.value ++ ['\n'])

structure Plain (line : Line) : Prop where
  key : Simple line.key
  short : line.key.length ≤ longestKey
  value : Simple line.value

def tokens (line : Line) (number : Nat) : List Token :=
  [⟨.key, ⟨number, 0⟩, ⟨number, 0⟩⟩,
    ⟨.scalar (String.ofList line.key) .plain, ⟨number, 0⟩, ⟨number, line.key.length⟩⟩,
    ⟨.value, ⟨number, line.key.length⟩, ⟨number, line.key.length + 1⟩⟩,
    ⟨.scalar (String.ofList line.value) .plain, ⟨number, line.key.length + 2⟩,
      ⟨number, line.key.length + 2 + line.value.length⟩⟩]

end Line

def lineTokens : Nat → List Line → List Token
  | number, [] =>
    [⟨.blockEnd, ⟨number, 0⟩, ⟨number, 0⟩⟩,
      ⟨.finish, ⟨number, 0⟩, ⟨number, 0⟩⟩]
  | number, line :: lines => line.tokens number ++ lineTokens (number + 1) lines

namespace Progress

def atLine (opened : Bool) (tokens : List Token) (number : Nat) (rest : List Char) : Progress where
  cursor := ⟨rest, ⟨number, 0⟩⟩
  tokens := tokens.toArray
  indent := if opened then 0 else -1
  outerIndents := if opened then [-1] else []

def atColon (opened : Bool) (tokens : List Token) (number : Nat) (line : Line) (rest : List Char) :
    Progress :=
  { atLine opened (tokens ++ [⟨.scalar (String.ofList line.key) .plain, ⟨number, 0⟩,
      ⟨number, line.key.length⟩⟩]) number [] with
    cursor := ⟨':' :: ' ' :: (line.value ++ '\n' :: rest), ⟨number, line.key.length⟩⟩
    keyAllowed := false
    candidate := some ⟨tokens.length, ⟨number, 0⟩, opened⟩ }

def special : List Char :=
  ['%', '-', '.', '[', '{', ']', '}', ',', '?', ':', '*', '&', '!', '|', '>', '\'', '"']

theorem not_mem_of_isAlphanum (chars : List Char) {c : Char} (alphanum : c.isAlphanum = true)
    (others : chars.any Char.isAlphanum = false) : c ∉ chars :=
  fun among => List.any_eq_false.mp others c among alphanum

theorem isMarker_cons {c d : Char} (other : c ≠ d) (rest : List Char) :
    isMarker d (c :: rest) = false := by
  unfold isMarker
  split
  · rename_i same
    cases same
    simp [other]
  · rfl

theorem next_word {p q : Progress} (ahead : p.toNextToken = q) (kept : q.expire = .ok q)
    (level : q.unroll q.column = q) {c : Char} {rest : List Char}
    (chars : q.cursor.rest = c :: rest) (first : c.isAlphanum = true) : p.next = q.takePlain := by
  have absent := not_mem_of_isAlphanum special first (by decide)
  have plain : mayBeginPlain q.inFlow c rest = true := by
    have absent :=
      not_mem_of_isAlphanum ([' ', '\t', '-', '?', ':'] ++ indicators) first (by decide)
    rw [List.mem_append, not_or] at absent
    simp only [List.mem_cons, List.not_mem_nil, or_false, not_or] at absent
    simp [mayBeginPlain, isBlank, absent]
  unfold next
  rw [ahead, kept]
  simp only [bind, Except.bind]
  rw [level, chars]
  simp only [special, List.mem_cons, List.not_mem_nil, or_false, not_or] at absent
  simp [absent, isMarker_cons, plain]

theorem skipBlanks_word {c : Char} (first : c.isAlphanum = true) (inFlow keyAllowed : Bool)
    (place : Place) (rest : List Char) :
    skipBlanks inFlow keyAllowed false place (c :: rest) =
      (⟨c :: rest, place⟩, keyAllowed) := by
  have absent := not_mem_of_isAlphanum [' ', '\t', '#', '\n', '\u2028', '\u2029'] first (by decide)
  simp only [List.mem_cons, List.not_mem_nil, or_false, not_or] at absent
  simp [skipBlanks, isBreak, absent]

theorem unroll_of_le {p : Progress} {column : Int} (level : p.indent ≤ column) :
    p.unroll column = p := by
  have same : p.closeBlocks column p.outerIndents p.indent = p := by
    cases outer : p.outerIndents with
    | nil =>
      rw [closeBlocks, ← outer]
    | cons indent rest =>
      rw [closeBlocks, if_neg (Int.not_lt.mpr level), ← outer]
  rw [unroll, same, ite_self]

theorem indent_atLine (opened : Bool) (tokens : List Token) (number : Nat) (rest : List Char) :
    (atLine opened tokens number rest).indent ≤ 0 := by
  cases opened <;> simp [atLine]

theorem toNextToken_eq {p : Progress} {cursor : Cursor}
    (skipped : skipBlanks p.inFlow p.keyAllowed false p.place p.cursor.rest =
      (cursor, p.keyAllowed)) : p.toNextToken = { p with cursor } := by
  rw [toNextToken, skipped]

theorem toNextToken_word {p : Progress} {c : Char} {rest : List Char}
    (chars : p.cursor.rest = c :: rest) (first : c.isAlphanum = true) : p.toNextToken = p :=
  toNextToken_eq (by rw [chars, skipBlanks_word first, ← chars]; rfl)

theorem takeScalar_eq {p q : Progress} {read : Cursor → Except Fault Spelling} {scalar : Spelling}
    (marked : p.markCandidate = .ok q) (spelled : read q.cursor = .ok scalar) :
    p.takeScalar read = .ok ((q.allowKey false).addScalar scalar) := by
  rw [takeScalar, marked]
  change (do return (q.allowKey false).addScalar (← read q.cursor)) = _
  rw [spelled]
  rfl

theorem next_key (opened : Bool) (tokens : List Token) (number : Nat) {line : Line}
    (plain : line.Plain) (rest : List Char) :
    (atLine opened tokens number (line.chars ++ rest)).next =
      .ok (atColon opened tokens number line rest) := by
  obtain ⟨c, others, same, first⟩ := plain.key.first
  have chars : line.chars ++ rest = line.key ++ ':' :: ' ' :: (line.value ++ '\n' :: rest) := by
    simp [Line.chars]
  have begins : (atLine opened tokens number (line.chars ++ rest)).cursor.rest =
      c :: (others ++ ':' :: ' ' :: (line.value ++ '\n' :: rest)) := by
    rw [chars, same]
    rfl
  rw [next_word (toNextToken_word begins first) rfl (unroll_of_le (indent_atLine ..)) begins first,
    chars]
  have marked : (atLine opened tokens number
      (line.key ++ ':' :: ' ' :: (line.value ++ '\n' :: rest))).markCandidate =
      .ok { atLine opened tokens number
          (line.key ++ ':' :: ' ' :: (line.value ++ '\n' :: rest)) with
        candidate := some ⟨tokens.length, ⟨number, 0⟩, opened⟩ } := by
    cases opened <;> rfl
  refine (takeScalar_eq marked (plainScalar_key _ plain.key.each ⟨number, 0⟩ _)).trans ?_
  simp [atColon, addScalar, allowKey, atLine, spell, place]

def opening (opened : Bool) (number : Nat) : List Token :=
  if opened then [] else [⟨.blockMapping, ⟨number, 0⟩, ⟨number, 0⟩⟩]

def atValue (tokens : List Token) (number : Nat) (line : Line) (rest : List Char) : Progress :=
  { atLine true (tokens ++ (line.tokens number).take 3) number [] with
    cursor := ⟨' ' :: (line.value ++ '\n' :: rest), ⟨number, line.key.length + 1⟩⟩
    keyAllowed := false }

theorem insert_behind (front back : List Token) (token : Token) :
    (front ++ back).toArray.insertIdxIfInBounds front.length token =
      (front ++ token :: back).toArray := by
  rw [List.insertIdxIfInBounds_toArray]
  congr 1
  induction front with
  | nil => rfl
  | cons first front ih => exact congrArg (first :: ·) ih

theorem expireOne_of_young {p : Progress} {candidate : Candidate}
    (young : candidate.expired p.place = false) :
    p.expireOne (some candidate) = .ok (some candidate) := by
  rw [expireOne, young]
  rfl

theorem expire_atColon (opened : Bool) (tokens : List Token) (number : Nat) {line : Line}
    (plain : line.Plain) (rest : List Char) :
    (atColon opened tokens number line rest).expire =
      .ok (atColon opened tokens number line rest) := by
  have kept : (atColon opened tokens number line rest).expireOne
      (some ⟨tokens.length, ⟨number, 0⟩, opened⟩) =
      .ok (some ⟨tokens.length, ⟨number, 0⟩, opened⟩) := by
    refine expireOne_of_young ?_
    simp [Candidate.expired, place, atColon, plain.short]
  change (do return { atColon opened tokens number line rest with
    candidate := ← (atColon opened tokens number line rest).expireOne
      (some ⟨tokens.length, ⟨number, 0⟩, opened⟩) }) = _
  rw [kept]
  rfl

theorem next_value {p : Progress} (ahead : p.toNextToken = p) (kept : p.expire = .ok p)
    (level : p.unroll p.column = p) {rest : List Char}
    (chars : p.cursor.rest = ':' :: ' ' :: rest) : p.next = p.takeValue := by
  unfold next
  rw [ahead, kept]
  simp only [bind, Except.bind]
  rw [level, chars]
  simp [isMarker_cons, endsWord, isBlank]

theorem takeValue_candidate {p : Progress} (candidate : Candidate)
    (found : p.candidate = some candidate) :
    p.takeValue = .ok (((({ p with
      tokens := p.tokens.insertIdxIfInBounds candidate.index
        ⟨.key, candidate.place, candidate.place⟩
      candidate := none }).roll candidate.place.column .blockMapping candidate.place
        candidate.index).allowKey false).take .value 1) := by
  unfold takeValue
  rw [found]
  rfl

/-- A colon makes a key of the word before it, and of the first one a map. -/
theorem next_colon (opened : Bool) (tokens : List Token) (number : Nat) {line : Line}
    (plain : line.Plain) (rest : List Char) :
    (atColon opened tokens number line rest).next =
      .ok (atValue (tokens ++ opening opened number) number line rest) := by
  have level : (atColon opened tokens number line rest).indent ≤
      (atColon opened tokens number line rest).column :=
    Int.le_trans (indent_atLine opened [] number []) (Int.natCast_nonneg _)
  rw [next_value rfl (expire_atColon opened tokens number plain rest) (unroll_of_le level) rfl,
    takeValue_candidate ⟨tokens.length, ⟨number, 0⟩, opened⟩ rfl]
  have keyed := insert_behind tokens [⟨.scalar (String.ofList line.key) .plain, ⟨number, 0⟩,
    ⟨number, line.key.length⟩⟩] ⟨.key, ⟨number, 0⟩, ⟨number, 0⟩⟩
  have mapped := insert_behind tokens [⟨.key, ⟨number, 0⟩, ⟨number, 0⟩⟩,
    ⟨.scalar (String.ofList line.key) .plain, ⟨number, 0⟩, ⟨number, line.key.length⟩⟩]
    ⟨.blockMapping, ⟨number, 0⟩, ⟨number, 0⟩⟩
  cases opened
  · simp only [atColon, atLine, keyed, roll, inFlow, List.isEmpty_nil]
    rw [if_neg (by simp)]
    simp only [mapped]
    simp [atValue, atLine, allowKey, take, add, place, opening, Line.tokens, Cursor.drop,
      Place.after, isBreak]
  · simp only [atColon, atLine, keyed, roll, inFlow, List.isEmpty_nil]
    rw [if_pos (by simp)]
    simp [atValue, atLine, allowKey, take, add, place, opening, Line.tokens, Cursor.drop,
      Place.after, isBreak]

theorem next_line (tokens : List Token) (number : Nat) {line : Line} (plain : line.Plain)
    {rest : List Char} (next : ∀ c ∈ rest.head?, (isBlank c || isBreak c) = false) :
    (atValue tokens number line rest).next =
      .ok (atLine true (tokens ++ line.tokens number) (number + 1) rest) := by
  obtain ⟨c, others, same, first⟩ := plain.value.first
  let behind : Progress := { atValue tokens number line rest with
    cursor := ⟨line.value ++ '\n' :: rest, ⟨number, line.key.length + 2⟩⟩ }
  have ahead : (atValue tokens number line rest).toNextToken = behind := by
    refine toNextToken_eq (?_ : skipBlanks false false false ⟨number, line.key.length + 2⟩
      (line.value ++ '\n' :: rest) = _)
    rw [same]
    exact skipBlanks_word first ..
  have begins : behind.cursor.rest = c :: (others ++ '\n' :: rest) := by
    change line.value ++ _ = _
    rw [same]
    rfl
  rw [next_word ahead rfl (unroll_of_le (Int.natCast_nonneg _)) begins first]
  refine (takeScalar_eq (q := behind) rfl
    (plainScalar_line plain.value.each ⟨number, line.key.length + 2⟩ next)).trans ?_
  simp [behind, addScalar, allowKey, atValue, atLine, spell, place, Line.tokens]

theorem next_nil {p : Progress} (ahead : p.toNextToken = p) (kept : p.expire = .ok p)
    (level : p.unroll p.column = p) (chars : p.cursor.rest = []) : p.next = p.finish := by
  unfold next
  rw [ahead, kept]
  simp only [bind, Except.bind]
  rw [level, chars]

theorem next_end (tokens : List Token) (number : Nat) :
    (atLine true tokens number []).next =
      .ok { atLine false (tokens ++ lineTokens number []) number [] with
        keyAllowed := false
        finished := true } := by
  rw [next_nil rfl rfl (unroll_of_le (indent_atLine ..)) rfl]
  have closed : (atLine true tokens number []).unroll (-1) =
      atLine false (tokens ++ [⟨.blockEnd, ⟨number, 0⟩, ⟨number, 0⟩⟩]) number [] := by
    simp [unroll, inFlow, atLine, closeBlocks, add, place]
  unfold finish
  dsimp only
  rw [if_pos (show (atLine true tokens number []).place.column = 0 from rfl)]
  change (do
    let p ← ((atLine true tokens number []).unroll (-1)).dropCandidate
    return { p.take .finish 0 with keyAllowed := false, finished := true }) = _
  rw [closed]
  simp [atLine, dropCandidate, take, add, place, Cursor.drop, lineTokens, bind, Except.bind, pure,
    Except.pure]

end Progress

def lineChars (lines : List Line) : List Char := lines.flatMap Line.chars

theorem lineChars_first {line : Line} (plain : line.Plain) (lines : List Line) :
    ∃ c rest, lineChars (line :: lines) = c :: rest ∧ c.isAlphanum = true := by
  obtain ⟨c, others, same, first⟩ := plain.key.first
  refine ⟨c, others ++ ':' :: ' ' :: (line.value ++ ['\n']) ++ lineChars lines, ?_, first⟩
  rw [lineChars, List.flatMap_cons, Line.chars, same]
  rfl

theorem unspaced_lineChars {lines : List Line} (plain : ∀ line ∈ lines, line.Plain) :
    ∀ c ∈ (lineChars lines).head?, (isBlank c || isBreak c) = false := by
  cases lines with
  | nil => nofun
  | cons line lines =>
    obtain ⟨c, rest, same, first⟩ := lineChars_first (plain line List.mem_cons_self) lines
    rw [same]
    rintro _ ⟨⟩
    exact unspaced_of_isSimple (by rw [isSimple, first, Bool.true_or])

theorem length_lineChars (lines : List Line) : 3 * lines.length ≤ (lineChars lines).length := by
  induction lines with
  | nil => exact Nat.zero_le _
  | cons line lines ih =>
    rw [lineChars, List.flatMap_cons, List.length_append, List.length_cons]
    change _ ≤ _ + (lineChars lines).length
    have least : 3 ≤ line.chars.length := by simp [Line.chars]; omega
    omega

namespace Progress

theorem run_of_next {p q : Progress} {fuel : Nat} (next : p.next = .ok q) (kept : q.expire = .ok q)
    (going : q.finished = false) : p.run (fuel + 1) = q.run fuel := by
  rw [run, next, ok_bind, kept]
  simp only [going]
  rfl

theorem run_line (opened : Bool) (tokens : List Token) (number : Nat) {line : Line}
    (plain : line.Plain) {rest : List Char}
    (next : ∀ c ∈ rest.head?, (isBlank c || isBreak c) = false) (fuel : Nat) :
    (atLine opened tokens number (line.chars ++ rest)).run (fuel + 3) =
      (atLine true (tokens ++ opening opened number ++ line.tokens number) (number + 1) rest).run
        fuel := by
  rw [run_of_next (next_key opened tokens number plain rest)
      (expire_atColon opened tokens number plain rest) rfl,
    run_of_next (next_colon opened tokens number plain rest) rfl rfl,
    run_of_next (next_line _ number plain next) rfl rfl]

theorem run_end (tokens : List Token) (number fuel : Nat) :
    (atLine true tokens number []).run (fuel + 1) = ⟨tokens ++ lineTokens number [], none⟩ := by
  rw [run, next_end, ok_bind]
  rfl

theorem run_lines (tokens : List Token) (number : Nat) {lines : List Line}
    (plain : ∀ line ∈ lines, line.Plain) {fuel : Nat} (enough : 3 * lines.length < fuel) :
    (atLine true tokens number (lineChars lines)).run fuel =
      ⟨tokens ++ lineTokens number lines, none⟩ := by
  induction lines generalizing tokens number fuel with
  | nil =>
    obtain ⟨fuel, rfl⟩ := Nat.exists_eq_succ_of_ne_zero (Nat.ne_zero_of_lt enough)
    exact run_end tokens number fuel
  | cons line lines ih =>
    obtain ⟨first, others⟩ := List.forall_mem_cons.mp plain
    rw [List.length_cons] at enough
    obtain ⟨fuel, rfl⟩ : ∃ left, fuel = left + 3 := ⟨fuel - 3, by omega⟩
    refine (run_line true tokens number first (unspaced_lineChars others) fuel).trans ?_
    rw [ih _ _ others (by omega)]
    simp [opening, lineTokens]

end Progress

def isWritten (c : Char) : Bool := isSimple c || [':', ' ', '\n'].contains c

theorem lineChars_written {lines : List Line} (plain : ∀ line ∈ lines, line.Plain) :
    ∀ c ∈ lineChars lines, isWritten c = true := by
  intro c among
  obtain ⟨line, member, among⟩ := List.mem_flatMap.mp among
  have simple {word : List Char} (spelled : Simple word) (inside : c ∈ word) :
      isWritten c = true := by
    rw [isWritten, spelled.each c inside, Bool.true_or]
  simp only [Line.chars, List.mem_append, List.mem_cons, List.not_mem_nil, or_false] at among
  rcases among with key | rfl | rfl | value | rfl
  · exact simple (plain line member).key key
  · rfl
  · rfl
  · exact simple (plain line member).value value
  · rfl

theorem unifyBreaks_of_unbroken {text : List Char}
    (each : ∀ c ∈ text, c ≠ '\r' ∧ c ≠ '\x85') : unifyBreaks text = text := by
  induction text with
  | nil => rfl
  | cons c text ih =>
    obtain ⟨⟨carriage, other⟩, each⟩ := List.forall_mem_cons.mp each
    rw [unifyBreaks, ih each]
    · simp [carriage, other]
    · rintro rest rfl
      exact absurd rfl carriage

theorem ofText_lines {line : Line} {lines : List Line} (plain : ∀ l ∈ line :: lines, l.Plain) :
    TokenStream.ofText (lineChars (line :: lines)) =
      ⟨⟨.blockMapping, {}, {}⟩ :: lineTokens 0 (line :: lines), none⟩ := by
  obtain ⟨first, others⟩ := List.forall_mem_cons.mp plain
  obtain ⟨c, rest, same, alphanum⟩ := lineChars_first first lines
  have unmarked : (lineChars (line :: lines)).head? ≠ some byteOrderMark := by
    rw [same]
    rintro ⟨⟩
    cases alphanum
  have unified : unifyBreaks (lineChars (line :: lines)) = lineChars (line :: lines) :=
    unifyBreaks_of_unbroken fun c among => by
      have written := lineChars_written plain c among
      constructor <;> (rintro rfl; cases written)
  have long := length_lineChars (line :: lines)
  rw [List.length_cons] at long
  unfold TokenStream.ofText
  dsimp only
  rw [if_neg unmarked, if_neg unmarked, unified]
  obtain ⟨fuel, enough⟩ : ∃ left, (lineChars (line :: lines)).length + 1 = left + 3 :=
    ⟨(lineChars (line :: lines)).length - 2, by omega⟩
  rw [enough]
  refine (Progress.run_line false [] 0 first (unspaced_lineChars others) fuel).trans ?_
  rw [Progress.run_lines _ _ others (by omega)]
  simp [Progress.opening, lineTokens]

end InstanceBroker.Yaml
