import InstanceBroker.Proofs.Except
import InstanceBroker.Proofs.Json.Spelled

namespace InstanceBroker.Json

theorem readItems_cases (fuel : Nat) (first : Bool) (token : Token) (rest : List Token) :
    token.kind = .closeList ∧
        readItems (fuel + 1) first (token :: rest) = ([], .closed token.stop, rest) ∨
      first = true ∧
        readItems (fuel + 1) first (token :: rest) = readItem fuel (token :: rest) ∨
      first = false ∧ token.kind = .comma ∧
        readItems (fuel + 1) first (token :: rest) = readItem fuel rest ∨
      ∃ failure, readItems (fuel + 1) first (token :: rest) = ([], .failed failure, []) := by
  simp only [readItems]
  split
  · rename_i same
    exact .inl ⟨same, rfl⟩
  · exact .inr (.inr (.inr ⟨_, rfl⟩))
  · rename_i comma
    split
    · split
      · exact .inr (.inr (.inr ⟨_, rfl⟩))
      · exact .inr (.inr (.inr ⟨_, rfl⟩))
      · exact .inr (.inr (.inl ⟨rfl, comma, rfl⟩))
    · exact .inr (.inr (.inr ⟨_, rfl⟩))
  · exact .inr (.inl ⟨rfl, rfl⟩)
  · exact .inr (.inr (.inr ⟨_, rfl⟩))

theorem readMembers_cases (fuel : Nat) (first : Bool) (token : Token) (rest : List Token) :
    token.kind = .closeObject ∧
        readMembers (fuel + 1) first (token :: rest) = ([], .closed token.stop, rest) ∨
      first = true ∧ (∃ key, token.kind = .string key ∧
        readMembers (fuel + 1) first (token :: rest) = readMember fuel token key rest) ∨
      first = false ∧ token.kind = .comma ∧ (∃ next rest' key, rest = next :: rest' ∧
        next.kind = .string key ∧
          readMembers (fuel + 1) first (token :: rest) = readMember fuel token key rest') ∨
      ∃ ending error, readMembers (fuel + 1) first (token :: rest) = ([], ending, []) ∧
        ending.read = .error error := by
  simp only [readMembers]
  split
  · rename_i same
    exact .inl ⟨same, rfl⟩
  · exact .inr (.inr (.inr ⟨_, _, rfl, rfl⟩))
  · exact .inr (.inr (.inr ⟨_, _, rfl, rfl⟩))
  · rename_i key same
    exact .inr (.inl ⟨rfl, key, same, rfl⟩)
  · exact .inr (.inr (.inr ⟨_, _, rfl, rfl⟩))
  · exact .inr (.inr (.inr ⟨_, _, rfl, rfl⟩))
  · rename_i comma
    split
    · rename_i next rest
      split
      · rename_i key same
        exact .inr (.inr (.inl ⟨rfl, comma, next, rest, key, rfl, same, rfl⟩))
      · exact .inr (.inr (.inr ⟨_, _, rfl, rfl⟩))
      · exact .inr (.inr (.inr ⟨_, _, rfl, rfl⟩))
      · exact .inr (.inr (.inr ⟨_, _, rfl, rfl⟩))
      · exact .inr (.inr (.inr ⟨_, _, rfl, rfl⟩))
    · exact .inr (.inr (.inr ⟨_, _, rfl, rfl⟩))
  · exact .inr (.inr (.inr ⟨_, _, rfl, rfl⟩))

theorem readMember_cases (fuel : Nat) (token : Token) (key : Except Error String)
    (tokens : List Token) :
    (∃ colon rest, tokens = colon :: rest ∧ colon.kind = .colon ∧
      readMember fuel token key tokens =
        (.mk key (leavingObject tokens) (Tree.read fuel rest).1
            (leavingObject (Tree.read fuel rest).2) ::
              (readMembers fuel false (Tree.read fuel rest).2).1,
          (readMembers fuel false (Tree.read fuel rest).2).2)) ∨
      ∃ afterKey failure after members,
        (readMember fuel token key tokens).1 =
          .mk key afterKey (.broken failure) after :: members := by
  cases tokens with
  | nil => exact .inr ⟨_, _, _, _, rfl⟩
  | cons colon rest =>
    by_cases isColon : colon.kind = .colon
    · refine .inl ⟨colon, rest, rfl, isColon, ?_⟩
      simp only [readMember, isColon]
    · right
      simp only [readMember]
      split
      · rename_i same
        exact absurd same isColon
      · exact ⟨_, _, _, _, rfl⟩
      · exact ⟨_, _, _, _, rfl⟩
theorem Spaced.append {first second : List Lexeme} {chars middle rest : List Char}
    (before : Spaced first chars middle) (after : Spaced second middle rest) :
    Spaced (first ++ second) chars rest := by
  induction before with
  | done => exact after
  | next blank _ ih => exact .next blank (ih after)

def restItems : (first : Bool) → List Datum → List Lexeme
  | true, item :: rest => item.lexemes ++ Datum.itemLexemes rest
  | _, items => Datum.itemLexemes items

def restMembers : (first : Bool) → List (Literal × Datum) → List Lexeme
  | true, (key, value) :: rest =>
    .string key :: .colon :: (value.lexemes ++ Datum.memberLexemes rest)
  | _, members => Datum.memberLexemes members

theorem lexemes_list (items : List Datum) :
    (Datum.list items).lexemes = .openList :: restItems true items := by
  cases items <;> rfl

theorem lexemes_object (members : List (Literal × Datum)) :
    (Datum.object members).lexemes = .openObject :: restMembers true members := by
  cases members <;> rfl

/-- What a tree shows that was kept, in the words at the beginning of some characters. -/
def Spelled (chars : List Char) (tree : Tree) (rest : List Token) : Prop :=
  ∃ datum left, Spaced datum.lexemes chars left ∧ Lexed left rest ∧ Shows datum tree

def SpelledItems (first : Bool) (chars : List Char) (items : List Item) (ending : Ending)
    (rest : List Token) : Prop :=
  ∃ data left, Spaced (restItems first data) chars left ∧ Lexed left rest ∧
    ShowsItems data items ∧ ∃ stop, ending = .closed stop

def SpelledMembers (first : Bool) (chars : List Char) (members : List Member) (ending : Ending)
    (rest : List Token) : Prop :=
  ∃ data left, Spaced (restMembers first data) chars left ∧ Lexed left rest ∧
    ShowsMembers data members ∧ ∃ stop, ending = .closed stop

theorem Lexed.word {chars : List Char} {token : Token} {tokens : List Token}
    (lexed : Lexed chars (token :: tokens)) (sound : ¬Faulty token.kind)
    (going : token.kind ≠ .finish) :
    ∃ lexeme left, Means lexeme token.kind ∧ Spaced [lexeme] chars left ∧
      Lexed left tokens := by
  cases lexed with
  | finish _ finish => exact absurd finish going
  | fault faulty => exact absurd faulty sound
  | next blank means more => exact ⟨_, _, means, .next blank .done, more⟩

theorem Lexed.mark {chars : List Char} {token : Token} {tokens : List Token} {lexeme : Lexeme}
    {kind : Token.Kind} (lexed : Lexed chars (token :: tokens)) (same : token.kind = kind)
    (means : Means lexeme kind) (only : ∀ other, Means other kind → other = lexeme) :
    ∃ left, Spaced [lexeme] chars left ∧ Lexed left tokens := by
  have sound : ¬Faulty kind := by
    intro faulty
    cases means <;> cases faulty
  have going : kind ≠ .finish := by
    rintro rfl
    cases means
  obtain ⟨other, left, means', spaced, more⟩ := lexed.word (same ▸ sound) (same ▸ going)
  cases only other (same ▸ means')
  exact ⟨left, spaced, more⟩

/-- A reader of values finds only what was spelled, if it is kept. -/
def SoundValues (fuel : Nat) : Prop :=
  ∀ chars tokens, Lexed chars tokens →
    ∀ levels, (Tree.read fuel tokens).1.keep levels = .ok () →
    Spelled chars (Tree.read fuel tokens).1 (Tree.read fuel tokens).2

def SoundItems (fuel : Nat) : Prop :=
  ∀ first chars tokens, Lexed chars tokens → ∀ levels,
    keepItems levels (readItems fuel first tokens).1 = .ok () →
    (readItems fuel first tokens).2.1.read = .ok () →
    SpelledItems first chars (readItems fuel first tokens).1 (readItems fuel first tokens).2.1
      (readItems fuel first tokens).2.2

def SoundMembers (fuel : Nat) : Prop :=
  ∀ first chars tokens, Lexed chars tokens → ∀ levels,
    keepMembers levels (readMembers fuel first tokens).1 = .ok () →
    (readMembers fuel first tokens).2.1.read = .ok () →
    SpelledMembers first chars (readMembers fuel first tokens).1 (readMembers fuel first tokens).2.1
      (readMembers fuel first tokens).2.2

section Step

variable {fuel levels : Nat} {chars : List Char} {tokens : List Token}

theorem spelled_item (values : SoundValues fuel) (items : SoundItems fuel)
    (lexed : Lexed chars tokens) (kept : keepItems levels (readItem fuel tokens).1 = .ok ())
    (ended : (readItem fuel tokens).2.1.read = .ok ()) :
    ∃ datum data left, Spaced (datum.lexemes ++ Datum.itemLexemes data) chars left ∧
      Lexed left (readItem fuel tokens).2.2 ∧
        ShowsItems (datum :: data) (readItem fuel tokens).1 ∧
          ∃ stop, (readItem fuel tokens).2.1 = .closed stop := by
  obtain ⟨_, first, others⟩ := ok_of_bind kept
  obtain ⟨datum, middle, spaced, between, shows⟩ := values chars tokens lexed levels first
  obtain ⟨data, left, spaced', lexed', each, closed⟩ :=
    items false middle _ between levels others ended
  exact ⟨datum, data, left, spaced.append spaced', lexed', .cons shows each, closed⟩

theorem soundItems_succ (values : SoundValues fuel) (items : SoundItems fuel) :
    SoundItems (fuel + 1) := by
  intro first chars tokens lexed levels kept ended
  cases tokens with
  | nil => cases lexed
  | cons token rest =>
    obtain ⟨close, same⟩ | ⟨rfl, same⟩ | ⟨rfl, comma, same⟩ | ⟨failure, same⟩ :=
      readItems_cases fuel first token rest
    · rw [same]
      obtain ⟨left, spaced, more⟩ := lexed.mark close .closeList (by rintro _ ⟨⟩; rfl)
      refine ⟨[], left, ?_, more, .nil, _, rfl⟩
      cases first <;> exact spaced
    · rw [same] at kept ended ⊢
      obtain ⟨datum, data, left, spaced, more⟩ := spelled_item values items lexed kept ended
      exact ⟨datum :: data, left, spaced, more⟩
    · rw [same] at kept ended ⊢
      obtain ⟨middle, spaced, between⟩ := lexed.mark comma .comma (by rintro _ ⟨⟩; rfl)
      obtain ⟨datum, data, left, spaced', more⟩ := spelled_item values items between kept ended
      exact ⟨datum :: data, left, spaced.append spaced', more⟩
    · rw [same] at ended
      cases ended

theorem spelled_member (values : SoundValues fuel) (members : SoundMembers fuel)
    {token before : Token} {key : Except Error String} (lexed : Lexed chars (before :: tokens))
    (isString : before.kind = .string key)
    (kept : keepMembers levels (readMember fuel token key tokens).1 = .ok ())
    (ended : (readMember fuel token key tokens).2.1.read = .ok ()) :
    ∃ literal datum data left,
      Spaced (.string literal :: .colon :: (datum.lexemes ++ Datum.memberLexemes data))
        chars left ∧
        Lexed left (readMember fuel token key tokens).2.2 ∧
          ShowsMembers ((literal, datum) :: data) (readMember fuel token key tokens).1 ∧
            ∃ stop, (readMember fuel token key tokens).2.1 = .closed stop := by
  obtain ⟨colon, rest, rfl, isColon, same⟩ | ⟨afterKey, failure, after, others, same⟩ :=
    readMember_cases fuel token key tokens
  · rw [same] at kept ended ⊢
    obtain ⟨_, named, kept⟩ := ok_of_bind kept
    obtain ⟨_, first, others⟩ := ok_of_bind kept
    subst named
    obtain ⟨lexeme, afterKey, means, spaced, lexed⟩ :=
      lexed.word (by rw [isString]; nofun) (by rw [isString]; nofun)
    rw [isString] at means
    cases means with
    | @string literal =>
      obtain ⟨afterColon, spaced', lexed⟩ := lexed.mark isColon .colon (by rintro _ ⟨⟩; rfl)
      obtain ⟨datum, middle, shown, between, shows⟩ := values afterColon rest lexed levels first
      obtain ⟨data, left, spaced'', more, each, closed⟩ :=
        members false middle _ between levels others ended
      exact ⟨literal, datum, data, left, spaced.append (spaced'.append (shown.append spaced'')),
        more, .cons shows each, closed⟩
  · rw [same] at kept
    obtain ⟨_, _, kept⟩ := ok_of_bind kept
    cases kept

theorem soundMembers_succ (values : SoundValues fuel) (members : SoundMembers fuel) :
    SoundMembers (fuel + 1) := by
  intro first chars tokens lexed levels kept ended
  cases tokens with
  | nil => cases lexed
  | cons token rest =>
    obtain ⟨close, same⟩ | ⟨rfl, key, isString, same⟩ |
      ⟨rfl, comma, next, rest, key, rfl, isString, same⟩ | ⟨ending, error, same, failed⟩ :=
        readMembers_cases fuel first token rest
    · rw [same]
      obtain ⟨left, spaced, more⟩ := lexed.mark close .closeObject (by rintro _ ⟨⟩; rfl)
      refine ⟨[], left, ?_, more, .nil, _, rfl⟩
      cases first <;> exact spaced
    · rw [same] at kept ended ⊢
      obtain ⟨literal, datum, data, left, spaced, more⟩ :=
        spelled_member values members lexed isString kept ended
      exact ⟨(literal, datum) :: data, left, spaced, more⟩
    · rw [same] at kept ended ⊢
      obtain ⟨middle, spaced, between⟩ := lexed.mark comma .comma (by rintro _ ⟨⟩; rfl)
      obtain ⟨literal, datum, data, left, spaced', more⟩ :=
        spelled_member values members between isString kept ended
      exact ⟨(literal, datum) :: data, left, spaced.append spaced', more⟩
    · rw [same] at ended
      cases failed.symm.trans ended

theorem soundValues_succ (items : SoundItems fuel) (members : SoundMembers fuel) :
    SoundValues (fuel + 1) := by
  intro chars tokens lexed levels kept
  cases lexed with
  | @finish _ token _ finish =>
    obtain ⟨kind, start, stop⟩ := token
    cases finish
    cases kept
  | @fault _ token tokens faulty =>
    obtain ⟨kind, start, stop⟩ := token
    cases faulty <;> cases kept
  | @next blanks chars lexeme token tokens blank means more =>
    obtain ⟨kind, start, stop⟩ := token
    dsimp only at means
    cases means with
    | null => exact ⟨.null, chars, .next blank .done, more, .null⟩
    | boolean => exact ⟨.boolean _, chars, .next blank .done, more, .boolean⟩
    | number means => exact ⟨.number _, chars, .next blank .done, more, .number means⟩
    | string => exact ⟨.string _, chars, .next blank .done, more, .string⟩
    | closeList | closeObject | comma | colon => cases kept
    | openList =>
      cases levels with
      | zero => cases kept
      | succ levels =>
        obtain ⟨_, each, ended⟩ := ok_of_bind kept
        obtain ⟨data, left, spaced, lexed, shows, stop, closed⟩ :=
          items true chars tokens more levels each ended
        refine ⟨.list data, left, ?_, lexed, ?_⟩
        · rw [lexemes_list]
          exact .next blank spaced
        · simp only [Tree.read]
          rw [closed]
          exact .list shows
    | openObject =>
      cases levels with
      | zero => cases kept
      | succ levels =>
        obtain ⟨_, each, ended⟩ := ok_of_bind kept
        obtain ⟨data, left, spaced, lexed, shows, stop, closed⟩ :=
          members true chars tokens more levels each ended
        refine ⟨.object data, left, ?_, lexed, ?_⟩
        · rw [lexemes_object]
          exact .next blank spaced
        · simp only [Tree.read]
          rw [closed]
          exact .object shows

end Step

theorem sound_readers (fuel : Nat) :
    SoundValues fuel ∧ SoundItems fuel ∧ SoundMembers fuel := by
  induction fuel with
  | zero =>
    refine ⟨fun chars tokens _ levels kept => ?_, fun first chars tokens _ levels _ ended => ?_,
      fun first chars tokens _ levels _ ended => ?_⟩
    · cases tokens <;> cases kept
    · cases tokens <;> cases ended
    · cases tokens <;> cases ended
  | succ fuel ih =>
    obtain ⟨values, items, members⟩ := ih
    exact ⟨soundValues_succ items members, soundItems_succ values items,
      soundMembers_succ values members⟩

theorem spells_of_keep {text : String} {levels : Nat}
    (kept : (Document.ofText text).root.keep levels = .ok ())
    (ended : (Document.ofText text).trailing = none) :
    ∃ datum : Datum, datum.Spells text ∧ Shows datum (Document.ofText text).root := by
  have lexed : Lexed text.toList (tokens text) :=
    lexed_scan _ _ _ (Nat.lt_succ_self _)
  obtain ⟨datum, left, spaced, lexed, shows⟩ :=
    (sound_readers (2 * (tokens text).length + 1)).1 text.toList (tokens text) lexed levels kept
  refine ⟨datum, ⟨left, ?_, spaced⟩, shows⟩
  simp only [Document.ofText] at ended
  generalize (Tree.read (2 * (tokens text).length + 1) (tokens text)).2 = rest at lexed ended
  cases lexed with
  | finish blank => exact blank
  | next blank means more =>
    simp only [List.head?_cons, Option.bind_some] at ended
    split at ended
    · rename_i finish
      rw [finish] at means
      cases means
    · cases ended
  | fault faulty =>
    simp only [List.head?_cons, Option.bind_some] at ended
    split at ended
    · rename_i finish
      rw [finish] at faulty
      cases faulty
    · cases ended

mutual

theorem keep_eq_ok_iff {datum : Datum} {tree : Tree} (shows : Shows datum tree) (levels : Nat) :
    tree.keep levels = .ok () ↔ datum.Fits levels := by
  match shows with
  | .null | .boolean | .string => exact ⟨fun _ => trivial, fun _ => rfl⟩
  | .number means => exact map_eq_ok_iff (congrArg _ means)
  | .list each =>
    cases levels with
    | zero => exact iff_of_false nofun fun fits => Nat.lt_irrefl _ fits.1
    | succ levels =>
      refine bind_eq_ok_iff.trans ?_
      rw [keepItems_eq_ok_iff each levels]
      exact ⟨fun both => ⟨Nat.succ_pos _, both.1⟩, fun fits => ⟨fits.2, rfl⟩⟩
  | .object each =>
    cases levels with
    | zero => exact iff_of_false nofun fun fits => Nat.lt_irrefl _ fits.1
    | succ levels =>
      refine bind_eq_ok_iff.trans ?_
      rw [keepMembers_eq_ok_iff each levels]
      exact ⟨fun both => ⟨Nat.succ_pos _, both.1⟩, fun fits => ⟨fits.2, rfl⟩⟩

theorem keepItems_eq_ok_iff {data : List Datum} {items : List Item} (shows : ShowsItems data items)
    (levels : Nat) : keepItems levels items = .ok () ↔ Datum.ItemsFit levels data := by
  match shows with
  | .nil => exact ⟨fun _ => trivial, fun _ => rfl⟩
  | .cons first rest =>
    refine bind_eq_ok_iff.trans ?_
    rw [keep_eq_ok_iff first levels, keepItems_eq_ok_iff rest levels]
    rfl

theorem keepMembers_eq_ok_iff {data : List (Literal × Datum)} {members : List Member}
    (shows : ShowsMembers data members) (levels : Nat) :
    keepMembers levels members = .ok () ↔ Datum.MembersFit levels data := by
  match shows with
  | .nil => exact ⟨fun _ => trivial, fun _ => rfl⟩
  | .cons first rest =>
    refine bind_eq_ok_iff.trans ?_
    rw [keep_eq_ok_iff first levels, keepMembers_eq_ok_iff rest levels]
    rfl

end

end InstanceBroker.Json
