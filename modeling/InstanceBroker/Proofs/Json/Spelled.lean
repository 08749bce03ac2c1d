import InstanceBroker.Proofs.Json.Words

namespace InstanceBroker.Json

namespace Datum

/-- Words that may stand behind a value. -/
def Marked (rest : List Lexeme) : Prop := ∀ next ∈ rest.head?, next.isMark = true

theorem marked_itemLexemes (items : List Datum) (rest : List Lexeme) :
    Marked (itemLexemes items ++ rest) := by
  cases items <;> (rintro _ ⟨⟩; rfl)

theorem marked_memberLexemes (members : List (Literal × Datum)) (rest : List Lexeme) :
    Marked (memberLexemes members ++ rest) := by
  cases members <;> (rintro _ ⟨⟩; rfl)

mutual

theorem tidy_append (datum : Datum) {rest : List Lexeme} (marked : Marked rest) (tidy : Tidy rest) :
    Tidy (datum.lexemes ++ rest) := by
  match datum with
  | null | boolean _ | string _ => exact ⟨nofun, tidy⟩
  | number _ => exact ⟨fun _ => marked, tidy⟩
  | list [] | object [] => exact ⟨nofun, nofun, tidy⟩
  | list (item :: items) =>
    simp only [lexemes, List.cons_append, List.append_assoc]
    exact ⟨nofun,
      tidy_append item (marked_itemLexemes items rest) (tidy_itemLexemes items tidy)⟩
  | object ((_, value) :: members) =>
    simp only [lexemes, List.cons_append, List.append_assoc]
    exact ⟨nofun, nofun, nofun, tidy_append value (marked_memberLexemes members rest)
      (tidy_memberLexemes members tidy)⟩

theorem tidy_itemLexemes (items : List Datum) {rest : List Lexeme} (tidy : Tidy rest) :
    Tidy (itemLexemes items ++ rest) := by
  match items with
  | [] => exact ⟨nofun, tidy⟩
  | item :: items =>
    simp only [itemLexemes, List.cons_append, List.append_assoc]
    exact ⟨nofun,
      tidy_append item (marked_itemLexemes items rest) (tidy_itemLexemes items tidy)⟩

theorem tidy_memberLexemes (members : List (Literal × Datum)) {rest : List Lexeme}
    (tidy : Tidy rest) : Tidy (memberLexemes members ++ rest) := by
  match members with
  | [] => exact ⟨nofun, tidy⟩
  | (_, value) :: members =>
    simp only [memberLexemes, List.cons_append, List.append_assoc]
    exact ⟨nofun, nofun, nofun, tidy_append value (marked_memberLexemes members rest)
      (tidy_memberLexemes members tidy)⟩

end

theorem tidy (datum : Datum) : Tidy datum.lexemes := by
  have ended : Marked [] := nofun
  have tidy := tidy_append datum ended trivial
  rwa [List.append_nil] at tidy

end Datum

theorem tokens_of_spells {datum : Datum} {text : String} (spells : datum.Spells text) :
    ∃ words finish, tokens text = words ++ [finish] ∧ finish.kind = .finish ∧
      Stand datum.lexemes words := by
  obtain ⟨blanks, blank, spaced⟩ := spells
  have stops : Stops blanks := by
    have ended : Stops [] := nofun
    have stops := stops_of_blank blank ended
    rwa [List.append_nil] at stops
  obtain ⟨words, fuel, stop, same, each, left⟩ := scan_spaced spaced datum.tidy stops
    (text.toList.length + 1) {} (Nat.lt_succ_self _)
  obtain ⟨fuel, rfl⟩ := Nat.exists_eq_succ_of_ne_zero (Nat.ne_of_gt (Nat.zero_lt_of_lt left))
  have ended : Unblank [] := nofun
  obtain ⟨last, skipped⟩ := skipBlanks_append blank ended stop
  rw [List.append_nil] at skipped
  refine ⟨words, ⟨.finish, last, last⟩, ?_, rfl, each⟩
  rw [tokens, same]
  simp only [scan, skipped]
def readItem (fuel : Nat) (tokens : List Token) : List Item × Ending × List Token :=
  let (value, rest) := Tree.read fuel tokens
  let (items, ending, rest') := readItems fuel false rest
  (.mk value (leavingList rest) :: items, ending, rest')

def readMember (fuel : Nat) (token : Token) (key : Except Error String) (tokens : List Token) :
    List Member × Ending × List Token :=
  let (value, rest) : Tree × List Token := match tokens with
    | colon :: rest => match colon.kind with
      | .colon => Tree.read fuel rest
      | .finish => giveUp (.both (colon.at .eofObject))
      | _ => giveUp (.both (colon.at .expectedColon))
    | [] => giveUp (.both (token.at .eofObject))
  let (members, ending, rest') := readMembers fuel false rest
  (.mk key (leavingObject tokens) value (leavingObject rest) :: members, ending, rest')
theorem Stand.split {first second : List Lexeme} {tokens : List Token}
    (stand : Stand (first ++ second) tokens) :
    ∃ before after, tokens = before ++ after ∧ Stand first before ∧ Stand second after := by
  induction first generalizing tokens with
  | nil => exact ⟨[], tokens, rfl, .nil, stand⟩
  | cons lexeme first ih =>
    cases stand with
    | cons means stand =>
      obtain ⟨before, after, rfl, left, right⟩ := ih stand
      exact ⟨_ :: before, after, rfl, .cons means left, right⟩

theorem Datum.opens (datum : Datum) {words : List Token} (stand : Stand datum.lexemes words) :
    ∃ token others, words = token :: others ∧ token.kind ≠ .closeList ∧
      token.kind ≠ .finish := by
  have first {lexeme : Lexeme} {rest : List Lexeme} {words : List Token}
      (stand : Stand (lexeme :: rest) words) (value : lexeme ≠ .closeList) :
      ∃ token others, words = token :: others ∧ token.kind ≠ .closeList ∧
        token.kind ≠ .finish := by
    cases stand with
    | @cons _ token _ others means stand =>
      refine ⟨token, others, rfl, ?_, ?_⟩
      · intro same
        rw [same] at means
        cases means
        exact value rfl
      · intro same
        rw [same] at means
        cases means
  match datum with
  | null | boolean _ | number _ | string _ | list [] | object [] => exact first stand nofun
  | list (_ :: _) | object ((_, _) :: _) => exact first stand nofun

theorem readItems_first {token : Token} {fuel : Nat} {rest : List Token}
    (opens : token.kind ≠ .closeList) (going : token.kind ≠ .finish) :
    readItems (fuel + 1) true (token :: rest) = readItem fuel (token :: rest) := by
  simp only [readItems]
  rfl

theorem readItems_comma {comma token : Token} {fuel : Nat} {rest : List Token}
    (isComma : comma.kind = .comma) (opens : token.kind ≠ .closeList)
    (going : token.kind ≠ .finish) :
    readItems (fuel + 1) false (comma :: token :: rest) = readItem fuel (token :: rest) := by
  simp only [readItems, isComma]
  rfl

theorem readItems_close {token : Token} {fuel : Nat} {first : Bool} {rest : List Token}
    (close : token.kind = .closeList) :
    readItems (fuel + 1) first (token :: rest) = ([], .closed token.stop, rest) := by
  simp only [readItems, close]

theorem readMember_colon {colon : Token} (isColon : colon.kind = .colon) (fuel : Nat)
    (token : Token) (key : Except Error String) (rest : List Token) :
    readMember fuel token key (colon :: rest) =
      (.mk key (leavingObject (colon :: rest)) (Tree.read fuel rest).1
          (leavingObject (Tree.read fuel rest).2) ::
            (readMembers fuel false (Tree.read fuel rest).2).1,
        (readMembers fuel false (Tree.read fuel rest).2).2) := by
  simp only [readMember, isColon]

theorem readMembers_first {token : Token} {key : Except Error String} {fuel : Nat}
    {rest : List Token} (isString : token.kind = .string key) :
    readMembers (fuel + 1) true (token :: rest) = readMember fuel token key rest := by
  simp only [readMembers, isString]
  rfl

theorem readMembers_comma {comma token : Token} {key : Except Error String} {fuel : Nat}
    {rest : List Token} (isComma : comma.kind = .comma) (isString : token.kind = .string key) :
    readMembers (fuel + 1) false (comma :: token :: rest) = readMember fuel comma key rest := by
  simp only [readMembers, isComma, isString]
  rfl

theorem readMembers_close {token : Token} {fuel : Nat} {first : Bool} {rest : List Token}
    (close : token.kind = .closeObject) :
    readMembers (fuel + 1) first (token :: rest) = ([], .closed token.stop, rest) := by
  simp only [readMembers, close]

/-- With these words at the beginning of the tokens, a value is read and the rest is left. -/
def Reads (datum : Datum) (words : List Token) : Prop :=
  ∀ rest fuel, 2 * words.length ≤ fuel →
    ∃ tree, Tree.read fuel (words ++ rest) = (tree, rest) ∧ Shows datum tree

def ReadsItems (first : Bool) (items : List Datum) (words : List Token) : Prop :=
  ∀ rest fuel, 2 * words.length < fuel →
    ∃ read stop, readItems fuel first (words ++ rest) = (read, .closed stop, rest) ∧
      ShowsItems items read

def ReadsMembers (first : Bool) (members : List (Literal × Datum)) (words : List Token) : Prop :=
  ∀ rest fuel, 2 * words.length < fuel →
    ∃ read stop, readMembers fuel first (words ++ rest) = (read, .closed stop, rest) ∧
      ShowsMembers members read

theorem readItem_append {item : Datum} {items : List Datum} {before after : List Token}
    (some : 0 < before.length) (value : Reads item before) (others : ReadsItems false items after)
    (rest : List Token) (fuel : Nat) (enough : 2 * (before.length + after.length) ≤ fuel) :
    ∃ read stop, readItem fuel (before ++ (after ++ rest)) = (read, .closed stop, rest) ∧
      ShowsItems (item :: items) read := by
  obtain ⟨tree, first, shows⟩ := value (after ++ rest) fuel (by omega)
  obtain ⟨read, stop, more, each⟩ := others rest fuel (by omega)
  refine ⟨.mk tree (leavingList (after ++ rest)) :: read, stop, ?_, .cons shows each⟩
  simp only [readItem, first, more]

theorem readMember_append {literal : Literal} {datum : Datum} {members : List (Literal × Datum)}
    {before after : List Token} (value : Reads datum before)
    (others : ReadsMembers false members after) {colon : Token} (isColon : colon.kind = .colon)
    (token : Token) (rest : List Token) (fuel : Nat)
    (enough : 2 * (before.length + after.length) < fuel) :
    ∃ read stop,
      readMember fuel token (.ok literal.value) (colon :: (before ++ (after ++ rest))) =
      (read, .closed stop, rest) ∧ ShowsMembers ((literal, datum) :: members) read := by
  obtain ⟨tree, first, shows⟩ := value (after ++ rest) fuel (by omega)
  obtain ⟨read, stop, more, each⟩ := others rest fuel (by omega)
  refine ⟨.mk (.ok literal.value) (leavingObject (colon :: (before ++ (after ++ rest)))) tree
    (leavingObject (after ++ rest)) :: read, stop, ?_, .cons shows each⟩
  rw [readMember_colon isColon, first, more]

theorem readsItems_nil (first : Bool) {words : List Token} (stand : Stand [.closeList] words) :
    ReadsItems first [] words := by
  intro rest fuel enough
  obtain ⟨left, rfl⟩ : ∃ left, fuel = left + 1 := ⟨fuel - 1, by omega⟩
  obtain _ | ⟨means, _ | _⟩ := stand
  rename_i token
  refine ⟨[], token.stop, readItems_close ?_, .nil⟩
  generalize token.kind = kind at means
  cases means
  rfl

theorem readsMembers_nil (first : Bool) {words : List Token} (stand : Stand [.closeObject] words) :
    ReadsMembers first [] words := by
  intro rest fuel enough
  obtain ⟨left, rfl⟩ : ∃ left, fuel = left + 1 := ⟨fuel - 1, by omega⟩
  obtain _ | ⟨means, _ | _⟩ := stand
  rename_i token
  refine ⟨[], token.stop, readMembers_close ?_, .nil⟩
  generalize token.kind = kind at means
  cases means
  rfl

theorem readsItems_first {item : Datum} {items : List Datum} {before after : List Token}
    (stand : Stand item.lexemes before) (value : Reads item before)
    (others : ReadsItems false items after) :
    ReadsItems true (item :: items) (before ++ after) := by
  intro rest fuel enough
  obtain ⟨token, words, rfl, opens, going⟩ := item.opens stand
  obtain ⟨left, rfl⟩ : ∃ left, fuel = left + 1 := ⟨fuel - 1, by omega⟩
  rw [List.length_append] at enough
  have some : 0 < (token :: words).length := Nat.succ_pos _
  obtain ⟨read, stop, same, each⟩ := readItem_append some value others rest left (by omega)
  refine ⟨read, stop, ?_, each⟩
  rw [List.append_assoc, ← same]
  exact readItems_first opens going

theorem readsItems_comma {item : Datum} {items : List Datum} {comma : Token}
    {before after : List Token} (isComma : comma.kind = .comma) (stand : Stand item.lexemes before)
    (value : Reads item before) (others : ReadsItems false items after) :
    ReadsItems false (item :: items) (comma :: (before ++ after)) := by
  intro rest fuel enough
  obtain ⟨token, words, rfl, opens, going⟩ := item.opens stand
  obtain ⟨left, rfl⟩ : ∃ left, fuel = left + 1 := ⟨fuel - 1, by omega⟩
  rw [List.length_cons, List.length_append] at enough
  have some : 0 < (token :: words).length := Nat.succ_pos _
  obtain ⟨read, stop, same, each⟩ := readItem_append some value others rest left (by omega)
  refine ⟨read, stop, ?_, each⟩
  rw [List.cons_append, List.append_assoc, ← same]
  exact readItems_comma isComma opens going

theorem readsMembers_first {literal : Literal} {datum : Datum} {members : List (Literal × Datum)}
    {key colon : Token} {before after : List Token}
    (isString : key.kind = .string (.ok literal.value))
    (isColon : colon.kind = .colon) (value : Reads datum before)
    (others : ReadsMembers false members after) :
    ReadsMembers true ((literal, datum) :: members) (key :: colon :: (before ++ after)) := by
  intro rest fuel enough
  obtain ⟨left, rfl⟩ : ∃ left, fuel = left + 1 := ⟨fuel - 1, by omega⟩
  rw [List.length_cons, List.length_cons, List.length_append] at enough
  obtain ⟨read, stop, same, each⟩ :=
    readMember_append value others isColon key rest left (by omega)
  refine ⟨read, stop, ?_, each⟩
  rw [List.cons_append, List.cons_append, List.append_assoc, ← same]
  exact readMembers_first isString

theorem readsMembers_comma {literal : Literal} {datum : Datum} {members : List (Literal × Datum)}
    {comma key colon : Token} {before after : List Token} (isComma : comma.kind = .comma)
    (isString : key.kind = .string (.ok literal.value)) (isColon : colon.kind = .colon)
    (value : Reads datum before) (others : ReadsMembers false members after) :
    ReadsMembers false ((literal, datum) :: members)
      (comma :: key :: colon :: (before ++ after)) := by
  intro rest fuel enough
  obtain ⟨left, rfl⟩ : ∃ left, fuel = left + 1 := ⟨fuel - 1, by omega⟩
  simp only [List.length_cons, List.length_append] at enough
  obtain ⟨read, stop, same, each⟩ :=
    readMember_append value others isColon comma rest left (by omega)
  refine ⟨read, stop, ?_, each⟩
  simp only [List.cons_append, List.append_assoc]
  rw [← same]
  exact readMembers_comma isComma isString

theorem reads_list {items : List Datum} {token : Token} {words : List Token}
    (isOpen : token.kind = .openList) (each : ReadsItems true items words) :
    Reads (.list items) (token :: words) := by
  intro rest fuel enough
  rw [List.length_cons] at enough
  obtain ⟨left, rfl⟩ : ∃ left, fuel = left + 1 := ⟨fuel - 1, by omega⟩
  obtain ⟨read, stop, same, shows⟩ := each rest left (by omega)
  refine ⟨.list token.start read (.closed stop), ?_, .list shows⟩
  simp only [List.cons_append, Tree.read, isOpen, same]

theorem reads_object {members : List (Literal × Datum)} {token : Token} {words : List Token}
    (isOpen : token.kind = .openObject) (each : ReadsMembers true members words) :
    Reads (.object members) (token :: words) := by
  intro rest fuel enough
  rw [List.length_cons] at enough
  obtain ⟨left, rfl⟩ : ∃ left, fuel = left + 1 := ⟨fuel - 1, by omega⟩
  obtain ⟨read, stop, same, shows⟩ := each rest left (by omega)
  refine ⟨.object token.start read (.closed stop), ?_, .object shows⟩
  simp only [List.cons_append, Tree.read, isOpen, same]

theorem reads_word {datum : Datum} {lexeme : Lexeme} {words : List Token}
    (stand : Stand [lexeme] words)
    (shows : ∀ token : Token, Means lexeme token.kind → ∀ fuel rest,
      ∃ tree, Tree.read (fuel + 1) (token :: rest) = (tree, rest) ∧ Shows datum tree) :
    Reads datum words := by
  intro rest fuel enough
  obtain _ | ⟨means, _ | _⟩ := stand
  rw [List.length_cons] at enough
  obtain ⟨left, rfl⟩ : ∃ left, fuel = left + 1 := ⟨fuel - 1, by omega⟩
  exact shows _ means left rest

theorem Means.kind_eq {lexeme : Lexeme} {token : Token} {kind : Token.Kind}
    (means : Means lexeme token.kind) (sole : ∀ other, Means lexeme other → other = kind) :
    token.kind = kind := sole _ means

mutual

theorem reads_datum (datum : Datum) {words : List Token} (stand : Stand datum.lexemes words) :
    Reads datum words := by
  match datum with
  | .null =>
    refine reads_word stand fun token means fuel rest => ⟨.null token.stop, ?_, .null⟩
    simp only [Tree.read, means.kind_eq (by rintro _ ⟨⟩; rfl)]
  | .boolean value =>
    refine reads_word stand fun token means fuel rest =>
      ⟨.boolean value token.stop, ?_, .boolean⟩
    simp only [Tree.read, means.kind_eq (by rintro _ ⟨⟩; rfl)]
  | .string literal =>
    refine reads_word stand fun token means fuel rest =>
      ⟨.string (.ok literal.value) token.stop, ?_, .string⟩
    simp only [Tree.read, means.kind_eq (by rintro _ ⟨⟩; rfl)]
  | .number numeral =>
    refine reads_word stand fun token means fuel rest => ?_
    obtain ⟨kind, start, stop⟩ := token
    cases means with
    | @number _ value means => exact ⟨.number value stop, rfl, .number means⟩
  | .list [] =>
    obtain _ | ⟨means, stand⟩ := stand
    exact reads_list (means.kind_eq (by rintro _ ⟨⟩; rfl)) (readsItems_nil true stand)
  | .object [] =>
    obtain _ | ⟨means, stand⟩ := stand
    exact reads_object (means.kind_eq (by rintro _ ⟨⟩; rfl)) (readsMembers_nil true stand)
  | .list (item :: items) =>
    obtain _ | ⟨means, stand⟩ := stand
    obtain ⟨before, after, rfl, first, later⟩ := Stand.split stand
    exact reads_list (means.kind_eq (by rintro _ ⟨⟩; rfl))
      (readsItems_first first (reads_datum item first) (readsItems_datum items later))
  | .object ((key, value) :: members) =>
    obtain _ | ⟨means, _ | ⟨isString, _ | ⟨isColon, stand⟩⟩⟩ := stand
    obtain ⟨before, after, rfl, first, later⟩ := Stand.split stand
    exact reads_object (means.kind_eq (by rintro _ ⟨⟩; rfl))
      (readsMembers_first (isString.kind_eq (by rintro _ ⟨⟩; rfl))
        (isColon.kind_eq (by rintro _ ⟨⟩; rfl)) (reads_datum value first)
        (readsMembers_datum members later))

theorem readsItems_datum (items : List Datum) {words : List Token}
    (stand : Stand (Datum.itemLexemes items) words) : ReadsItems false items words := by
  match items with
  | [] => exact readsItems_nil false stand
  | item :: items =>
    obtain _ | ⟨means, stand⟩ := stand
    obtain ⟨before, after, rfl, first, later⟩ := Stand.split stand
    exact readsItems_comma (means.kind_eq (by rintro _ ⟨⟩; rfl)) first (reads_datum item first)
      (readsItems_datum items later)

theorem readsMembers_datum (members : List (Literal × Datum)) {words : List Token}
    (stand : Stand (Datum.memberLexemes members) words) : ReadsMembers false members words := by
  match members with
  | [] => exact readsMembers_nil false stand
  | (key, value) :: members =>
    obtain _ | ⟨means, _ | ⟨isString, _ | ⟨isColon, stand⟩⟩⟩ := stand
    obtain ⟨before, after, rfl, first, later⟩ := Stand.split stand
    exact readsMembers_comma (means.kind_eq (by rintro _ ⟨⟩; rfl))
      (isString.kind_eq (by rintro _ ⟨⟩; rfl)) (isColon.kind_eq (by rintro _ ⟨⟩; rfl))
      (reads_datum value first) (readsMembers_datum members later)

end

theorem shows_of_spells {datum : Datum} {text : String} (spells : datum.Spells text) :
    Shows datum (Document.ofText text).root ∧ (Document.ofText text).trailing = none := by
  obtain ⟨words, finish, same, finished, stand⟩ := tokens_of_spells spells
  have enough : 2 * words.length ≤ 2 * (words ++ [finish]).length + 1 := by
    rw [List.length_append]
    omega
  obtain ⟨tree, read, shows⟩ := reads_datum datum stand [finish] _ enough
  simp only [Document.ofText, same, read]
  exact ⟨shows, by simp [finished]⟩
end InstanceBroker.Json
