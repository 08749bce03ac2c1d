import InstanceBroker.Proofs.Except
import InstanceBroker.Proofs.Json.Numeral

namespace InstanceBroker.Json

theorem hexUnit_append {digits : List Char} {unit : Nat} (hex : FourHex digits unit)
    (rest : List Char) (position : Position) :
    ∃ stop, hexUnit ⟨digits ++ rest, position⟩ = .ok (unit, ⟨rest, stop⟩) := by
  cases hex with
  | @mk a b c d p q r s first second third fourth =>
    refine ⟨position.afterBytes 4 (a :: b :: c :: d :: rest), ?_⟩
    simp only [hexUnit, List.cons_append, List.nil_append, first, second, third, fourth]

theorem hexUnit_spec {chars rest : List Char} {position stop : Position} {unit : Nat}
    (read : hexUnit ⟨chars, position⟩ = .ok (unit, ⟨rest, stop⟩)) :
    ∃ digits, FourHex digits unit ∧ chars = digits ++ rest := by
  unfold hexUnit at read
  dsimp only at read
  split at read
  · rename_i a b c d others
    split at read
    · rename_i first second third fourth
      cases read
      exact ⟨[a, b, c, d], ⟨first, second, third, fourth⟩, rfl⟩
    · cases read
  · split at read <;> cases read

theorem escapedChar_whole {unit : Nat} (whole : unit < 0xD800 ∨ 0xDFFF < unit) (cursor : Cursor) :
    escapedChar unit cursor = .ok (.ofNat unit, cursor) := by
  have inner : ¬(0xDC00 ≤ unit ∧ unit ≤ 0xDFFF) := by omega
  have outer : unit < 0xD800 ∨ 0xDBFF < unit := by omega
  rw [escapedChar, if_neg inner, if_pos outer]

theorem escapedChar_pair {more : List Char} {high low : Nat}
    (leading : 0xD800 ≤ high ∧ high ≤ 0xDBFF) (hex : FourHex more low)
    (trailing : 0xDC00 ≤ low ∧ low ≤ 0xDFFF) (rest : List Char) (position : Position) :
    ∃ stop, escapedChar high ⟨'\\' :: 'u' :: (more ++ rest), position⟩ =
      .ok (.ofNat ((high - 0xD800) * 0x400 + (low - 0xDC00) + 0x10000), ⟨rest, stop⟩) := by
  obtain ⟨stop, read⟩ := hexUnit_append hex rest ((position.after '\\').after 'u')
  refine ⟨stop, ?_⟩
  have inner : ¬(0xDC00 ≤ high ∧ high ≤ 0xDFFF) := by omega
  have outer : ¬(high < 0xD800 ∨ 0xDBFF < high) := by omega
  have there : ¬(low < 0xDC00 ∨ 0xDFFF < low) := by omega
  rw [escapedChar, if_neg inner, if_neg outer]
  simp only [read, bind, Except.bind, there, if_false]
  rfl

/-- A unit that is no surrogate stands for itself, and any other leads one that completes it. -/
theorem escapedChar_spec {chars rest : List Char} {position stop : Position} {unit : Nat} {c : Char}
    (read : escapedChar unit ⟨chars, position⟩ = .ok (c, ⟨rest, stop⟩)) :
    (unit < 0xD800 ∨ 0xDFFF < unit) ∧ c = .ofNat unit ∧ chars = rest ∨
      (0xD800 ≤ unit ∧ unit ≤ 0xDBFF) ∧ ∃ more low, FourHex more low ∧
        (0xDC00 ≤ low ∧ low ≤ 0xDFFF) ∧ chars = '\\' :: 'u' :: (more ++ rest) ∧
        c = .ofNat ((unit - 0xD800) * 0x400 + (low - 0xDC00) + 0x10000) := by
  unfold escapedChar at read
  split at read
  · cases read
  · rename_i inner
    split at read
    · rename_i outer
      cases read
      exact .inl ⟨by omega, rfl, rfl⟩
    · rename_i outer
      refine .inr ⟨by omega, ?_⟩
      dsimp only at read
      split at read
      · cases read
      · rename_i others
        split at read
        · cases read
        · rename_i others
          obtain ⟨⟨low, ⟨left, place⟩⟩, inside, read⟩ := ok_of_bind read
          dsimp only at read
          split at read
          · cases read
          · rename_i trailing
            obtain ⟨more, hex, same⟩ := hexUnit_spec inside
            simp only [pure, Except.pure, Except.ok.injEq, Prod.mk.injEq, Cursor.mk.injEq] at read
            obtain ⟨made, left, _⟩ := read
            refine ⟨more, low, hex, by omega, ?_, made.symm⟩
            rw [same, left]
        · cases read
      · cases read

theorem readString_quote (fuel : Nat) (rest read : List Char) (position : Position) :
    readString (fuel + 1) ⟨'"' :: rest, position⟩ read =
      .ok (String.ofList read.reverse, ⟨rest, position.after '"'⟩) := rfl

theorem readString_plain {c : Char} (unquoted : c ≠ '"') (straight : c ≠ '\\') (fuel : Nat)
    (rest read : List Char) (position : Position) :
    readString (fuel + 1) ⟨c :: rest, position⟩ read =
      if c.toNat < 0x20 then .error ⟨.controlCharacter, position.after c⟩
      else readString fuel ⟨rest, position.after c⟩ (c :: read) := by
  rw [readString]
  all_goals simp_all

theorem readString_escaped {c : Char} (simple : c ≠ 'u') (fuel : Nat)
    (rest read : List Char) (position : Position) :
    readString (fuel + 1) ⟨'\\' :: c :: rest, position⟩ read =
      match simpleEscape? c with
      | some meant => readString fuel ⟨rest, (position.after '\\').after c⟩ (meant :: read)
      | none => .error ⟨.invalidEscape, (position.after '\\').afterByte c⟩ := by
  cases known : simpleEscape? c with
  | some | none =>
    rw [readString]
    · simp only [known]
    · exact simple

theorem readString_unicode (fuel : Nat) (rest read : List Char) (position : Position) :
    readString (fuel + 1) ⟨'\\' :: 'u' :: rest, position⟩ read =
      (hexUnit ⟨rest, (position.after '\\').after 'u'⟩).bind fun (unit, cursor) =>
        (escapedChar unit cursor).bind fun (c, cursor) => readString fuel cursor (c :: read) := rfl

theorem readString_glyph {chars : List Char} {c : Char} (glyph : Glyph chars c) (fuel : Nat)
    (rest read : List Char) (position : Position) :
    ∃ stop, readString (fuel + 1) ⟨chars ++ rest, position⟩ read =
      readString fuel ⟨rest, stop⟩ (c :: read) := by
  cases glyph with
  | plain visible unquoted straight =>
    refine ⟨position.after c, ?_⟩
    rw [List.singleton_append, readString_plain unquoted straight, if_neg visible]
  | @escaped letter meant known =>
    have simple : letter ≠ 'u' := by
      rintro rfl
      cases known
    refine ⟨(position.after '\\').after letter, ?_⟩
    rw [List.cons_append, List.singleton_append, readString_escaped simple, known]
  | unit hex whole =>
    obtain ⟨stop, inside⟩ := hexUnit_append hex rest ((position.after '\\').after 'u')
    refine ⟨stop, ?_⟩
    rw [List.cons_append, List.cons_append, readString_unicode, inside]
    simp only [Except.bind, escapedChar_whole whole]
  | @pair digits more high low hex leading hex' trailing =>
    obtain ⟨middle, inside⟩ :=
      hexUnit_append hex ('\\' :: 'u' :: (more ++ rest)) ((position.after '\\').after 'u')
    obtain ⟨stop, joined⟩ := escapedChar_pair leading hex' trailing rest middle
    refine ⟨stop, ?_⟩
    simp only [List.cons_append, List.append_assoc]
    rw [readString_unicode, inside]
    simp only [Except.bind, joined]

theorem readString_append {chars meant : List Char} (glyphs : Glyphs chars meant) (fuel : Nat)
    (rest read : List Char) (position : Position) (enough : meant.length < fuel) :
    ∃ stop, readString fuel ⟨chars ++ '"' :: rest, position⟩ read =
      .ok (String.ofList (read.reverse ++ meant), ⟨rest, stop⟩) := by
  induction glyphs generalizing fuel read position with
  | nil =>
    obtain ⟨fuel, rfl⟩ := Nat.exists_eq_succ_of_ne_zero (Nat.ne_of_gt enough)
    refine ⟨position.after '"', ?_⟩
    rw [List.nil_append, readString_quote, List.append_nil]
  | @cons chars others c meant glyph more ih =>
    obtain ⟨fuel, rfl⟩ :=
      Nat.exists_eq_succ_of_ne_zero (Nat.ne_of_gt (Nat.zero_lt_of_lt enough))
    obtain ⟨middle, first⟩ := readString_glyph glyph fuel (others ++ '"' :: rest) read position
    obtain ⟨stop, later⟩ := ih fuel (c :: read) middle (Nat.lt_of_succ_lt_succ enough)
    refine ⟨stop, ?_⟩
    rw [List.append_assoc, first, later, List.reverse_cons, List.append_assoc]
    rfl

def Advances (fuel : Nat) (chars read : List Char) (result : String × Cursor) : Prop :=
  ∃ glyph c others place, Glyph glyph c ∧ chars = glyph ++ others ∧
    readString fuel ⟨others, place⟩ (c :: read) = .ok result

theorem advances_unicode {fuel : Nat} {chars read : List Char} {position : Position}
    {result : String × Cursor}
    (made : readString (fuel + 1) ⟨'\\' :: 'u' :: chars, position⟩ read = .ok result) :
    Advances fuel ('\\' :: 'u' :: chars) read result := by
  rw [readString_unicode] at made
  obtain ⟨⟨unit, ⟨left, place⟩⟩, inside, joining⟩ := ok_of_bind made
  obtain ⟨⟨c, ⟨others, place'⟩⟩, joined, later⟩ := ok_of_bind joining
  obtain ⟨digits, hex, rfl⟩ := hexUnit_spec inside
  obtain ⟨whole, same, rfl⟩ | ⟨leading, more, low, hex', trailing, rfl, same⟩ :=
    escapedChar_spec joined
  · have shown : Glyph ('\\' :: 'u' :: digits) c := by
      rw [same]
      exact .unit hex whole
    exact ⟨_, c, left, place', shown, rfl, later⟩
  · have shown : Glyph ('\\' :: 'u' :: digits ++ '\\' :: 'u' :: more) c := by
      rw [same]
      exact .pair hex leading hex' trailing
    refine ⟨_, c, others, place', shown, ?_, later⟩
    simp only [List.cons_append, List.append_assoc]

theorem readString_cases {fuel : Nat} {chars read : List Char} {position : Position}
    {result : String × Cursor}
    (made : readString (fuel + 1) ⟨chars, position⟩ read = .ok result) :
    Advances fuel chars read result ∨
      ∃ rest, chars = '"' :: rest ∧
        result = (String.ofList read.reverse, ⟨rest, position.after '"'⟩) := by
  cases chars with
  | nil => cases made
  | cons c chars =>
    by_cases quote : c = '"'
    · subst quote
      exact .inr ⟨chars, rfl, (Except.ok.inj made).symm⟩
    refine .inl ?_
    by_cases slash : c = '\\'
    · subst slash
      cases chars with
      | nil => cases made
      | cons letter chars =>
        by_cases unicode : letter = 'u'
        · subst unicode
          exact advances_unicode made
        · rw [readString_escaped unicode] at made
          split at made
          · rename_i meant known
            exact ⟨_, meant, chars, _, .escaped known, rfl, made⟩
          · cases made
    · rw [readString_plain quote slash] at made
      split at made
      · cases made
      · rename_i visible
        exact ⟨_, c, chars, _, .plain visible quote slash, rfl, made⟩

theorem readString_spec (fuel : Nat) {chars rest read : List Char} {position stop : Position}
    {value : String}
    (made : readString fuel ⟨chars, position⟩ read = .ok (value, ⟨rest, stop⟩)) :
    ∃ body meant, Glyphs body meant ∧ chars = body ++ '"' :: rest ∧
      value = String.ofList (read.reverse ++ meant) := by
  induction fuel generalizing chars position read with
  | zero => cases made
  | succ fuel ih =>
    obtain ⟨glyph, c, others, place, shown, rfl, later⟩ | ⟨left, rfl, same⟩ :=
      readString_cases made
    · obtain ⟨body, meant, glyphs, rfl, rfl⟩ := ih later
      refine ⟨glyph ++ body, c :: meant, .cons shown glyphs, ?_, ?_⟩
      · rw [List.append_assoc]
      · rw [List.reverse_cons, List.append_assoc]
        rfl
    · cases same
      exact ⟨[], [], .nil, rfl, by rw [List.append_nil]⟩

theorem Glyph.ne_nil {chars : List Char} {c : Char} (glyph : Glyph chars c) : chars ≠ [] := by
  cases glyph <;> nofun

theorem Glyphs.length_le {chars meant : List Char} (glyphs : Glyphs chars meant) :
    meant.length ≤ chars.length := by
  induction glyphs with
  | nil => exact Nat.le_refl _
  | cons first more ih =>
    have some := List.length_pos_iff.mpr first.ne_nil
    rw [List.length_append, List.length_cons]
    omega

end InstanceBroker.Json
