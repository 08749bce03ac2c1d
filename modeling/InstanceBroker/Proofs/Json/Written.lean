import InstanceBroker.Json.Value
import InstanceBroker.Proofs.Json.Kept
import InstanceBroker.Proofs.Text.Digits

namespace InstanceBroker.Json

theorem digits_toDigits (n : Nat) : Digits (Nat.toDigits 10 n) :=
  ⟨Nat.toDigits_ne_nil, fun _ => Text.isDecimal_of_mem_toDigits⟩

def Numeral.ofNat (n : Nat) : Numeral where
  integer := Nat.toDigits 10 n
  whole := digits_toDigits n
  unpadded zero := by
    rw [Text.eq_zero_of_head?_toDigits zero]
    rfl
  fractional _ among := absurd among (Option.not_mem_none _)

namespace Numeral

@[simp]
theorem chars_ofNat (n : Nat) : (ofNat n).chars = Nat.toDigits 10 n :=
  List.append_nil _

theorem natural?_ofNat (n : Nat) : (ofNat n).natural? = some n :=
  congrArg some (Text.decimal_toDigits n)

theorem value?_ofNat {n : Nat} (small : n ≤ Number.maxNatural) :
    (ofNat n).value? = some (.natural (.ofNat n)) := by
  have bound : n < 2 ^ 64 := Nat.lt_of_le_of_lt small (by decide)
  have back : (UInt64.ofNat n).toNat = n := Nat.mod_eq_of_lt bound
  rw [value?_eq_natural_iff, back, natural?_ofNat]

end Numeral

theorem fourHex_of_control {n : Nat} (control : n < 0x20) :
    FourHex (List.replicate (4 - (Nat.toDigits 16 n).length) '0' ++ Nat.toDigits 16 n) n := by
  have spelled : List.replicate (4 - (Nat.toDigits 16 n).length) '0' ++ Nat.toDigits 16 n =
      ['0', '0', (n / 16).digitChar, (n % 16).digitChar] := by
    interval_cases n <;> rfl
  have digit : ∀ d < 16, hexValue? (Nat.digitChar d) = some d := by decide
  have total : ((0 * 16 + 0) * 16 + n / 16) * 16 + n % 16 = n := by omega
  have zero : hexValue? '0' = some 0 := rfl
  have low : hexValue? (n / 16).digitChar = some (n / 16) := digit _ (by omega)
  have high : hexValue? (n % 16).digitChar = some (n % 16) := digit _ (by omega)
  have hex : FourHex _ (((0 * 16 + 0) * 16 + n / 16) * 16 + n % 16) :=
    .mk zero zero low high
  rwa [total, ← spelled] at hex

theorem glyph_escapeChar (c : Char) : Glyph (escapeChar c) c := by
  unfold escapeChar
  split
  · subst c; exact .escaped rfl
  split
  · subst c; exact .escaped rfl
  split
  · subst c; exact .escaped rfl
  split
  · subst c; exact .escaped rfl
  split
  · subst c; exact .escaped rfl
  split
  · subst c; exact .escaped rfl
  split
  · subst c; exact .escaped rfl
  split
  · rename_i control
    have unit := Glyph.unit (fourHex_of_control control) (.inl (by omega))
    rwa [Char.ofNat_toNat] at unit
  · rename_i unquoted straight _ _ _ _ _ visible
    exact .plain visible unquoted straight

theorem glyphs_flatMap (meant : List Char) : Glyphs (meant.flatMap escapeChar) meant := by
  induction meant with
  | nil => exact .nil
  | cons c rest ih => exact .cons (glyph_escapeChar c) ih

def Literal.ofString (s : String) : Literal where
  chars := s.toList.flatMap escapeChar
  value := s
  spelled := glyphs_flatMap s.toList

theorem Literal.chars_ofString (s : String) :
    (Lexeme.string (.ofString s)).chars = stringChars s := rfl

namespace Value

mutual

/-- The datum with the parts of a value. There is none for a double, which is not used here. -/
def datum : Value → Datum
  | null | double _ => .null
  | boolean value => .boolean value
  | natural value => .number (.ofNat value)
  | string value => .string (.ofString value)
  | list items => .list (itemData items)
  | object members => .object (memberData members)

def itemData : List Value → List Datum
  | [] => []
  | item :: rest => item.datum :: itemData rest

def memberData : List (String × Value) → List (Literal × Datum)
  | [] => []
  | (key, value) :: rest => (.ofString key, value.datum) :: memberData rest

end

mutual

/-- The value is made of texts and of natural numbers of 64 bits, within so many levels. -/
def Plain (levels : Nat) : Value → Prop
  | null | boolean _ | string _ => True
  | natural value => value ≤ Number.maxNatural
  | double _ => False
  | list items => 0 < levels ∧ ItemsPlain (levels - 1) items
  | object members => 0 < levels ∧ MembersPlain (levels - 1) members

def ItemsPlain (levels : Nat) : List Value → Prop
  | [] => True
  | item :: rest => item.Plain levels ∧ ItemsPlain levels rest

def MembersPlain (levels : Nat) : List (String × Value) → Prop
  | [] => True
  | (_, value) :: rest => value.Plain levels ∧ MembersPlain levels rest

end

mutual

theorem Plain.mono {levels more : Nat} (le : levels ≤ more) {value : Value}
    (plain : value.Plain levels) : value.Plain more := by
  match value with
  | null | boolean _ | string _ => trivial
  | natural value => exact plain
  | list items =>
    exact ⟨Nat.lt_of_lt_of_le plain.1 le, ItemsPlain.mono (Nat.sub_le_sub_right le 1) plain.2⟩
  | object members =>
    exact ⟨Nat.lt_of_lt_of_le plain.1 le, MembersPlain.mono (Nat.sub_le_sub_right le 1) plain.2⟩

theorem ItemsPlain.mono {levels more : Nat} (le : levels ≤ more) {items : List Value}
    (plain : ItemsPlain levels items) : ItemsPlain more items := by
  match items with
  | [] => trivial
  | item :: rest => exact ⟨Plain.mono le plain.1, ItemsPlain.mono le plain.2⟩

theorem MembersPlain.mono {levels more : Nat} (le : levels ≤ more)
    {members : List (String × Value)} (plain : MembersPlain levels members) :
    MembersPlain more members := by
  match members with
  | [] => trivial
  | (key, value) :: rest => exact ⟨Plain.mono le plain.1, MembersPlain.mono le plain.2⟩

end

def run (lexemes : List Lexeme) : List Char := lexemes.flatMap (·.chars)

theorem spaced_run (lexemes : List Lexeme) : Spaced lexemes (run lexemes) [] := by
  induction lexemes with
  | nil => exact .done
  | cons lexeme rest ih =>
    have blank : Blank [] := nofun
    exact .next blank ih

theorem run_cons (lexeme : Lexeme) (rest : List Lexeme) :
    run (lexeme :: rest) = lexeme.chars ++ run rest := rfl

theorem run_append (first second : List Lexeme) : run (first ++ second) = run first ++ run second :=
  List.flatMap_append

mutual

theorem run_datum {levels : Nat} {value : Value} (plain : value.Plain levels) :
    run value.datum.lexemes = value.chars := by
  match value with
  | null => rfl
  | boolean true => rfl
  | boolean false => rfl
  | natural value => exact (List.append_nil _).trans (Numeral.chars_ofNat value)
  | string value => exact List.append_nil _
  | list [] => rfl
  | list (item :: rest) =>
    rw [datum, itemData, Datum.lexemes, run_cons, run_append, run_datum plain.2.1,
      run_itemData plain.2.2]
    rfl
  | object [] => rfl
  | object ((key, value) :: rest) =>
    rw [datum, memberData, Datum.lexemes, run_cons, run_cons, run_cons, run_append,
      run_datum plain.2.1, run_memberData plain.2.2, chars, Literal.chars_ofString]
    simp only [Lexeme.chars, List.cons_append, List.nil_append, List.append_assoc]

theorem run_itemData {levels : Nat} {items : List Value} (plain : ItemsPlain levels items) :
    run (Datum.itemLexemes (itemData items)) = itemsChars items := by
  match items with
  | [] => rfl
  | item :: rest =>
    rw [itemData, Datum.itemLexemes, run_cons, run_append, run_datum plain.1,
      run_itemData plain.2]
    rfl

theorem run_memberData {levels : Nat} {members : List (String × Value)}
    (plain : MembersPlain levels members) :
    run (Datum.memberLexemes (memberData members)) = membersChars members := by
  match members with
  | [] => rfl
  | (key, value) :: rest =>
    rw [memberData, Datum.memberLexemes, run_cons, run_cons, run_cons, run_append,
      run_datum plain.1, run_memberData plain.2, membersChars, Literal.chars_ofString]
    simp only [Lexeme.chars, List.cons_append, List.nil_append, List.append_assoc]

end

theorem spells_text {levels : Nat} {value : Value} (plain : value.Plain levels) :
    value.datum.Spells value.text := by
  refine ⟨[], nofun, ?_⟩
  rw [text, String.toList_ofList, ← run_datum plain]
  exact spaced_run value.datum.lexemes

mutual

theorem fits_datum {levels : Nat} {value : Value} (plain : value.Plain levels) :
    value.datum.Fits levels := by
  match value with
  | null | boolean _ | string _ => trivial
  | natural value => exact congrArg Option.isSome (Numeral.value?_ofNat plain)
  | list items => exact ⟨plain.1, fits_itemData plain.2⟩
  | object members => exact ⟨plain.1, fits_memberData plain.2⟩

theorem fits_itemData {levels : Nat} {items : List Value} (plain : ItemsPlain levels items) :
    Datum.ItemsFit levels (itemData items) := by
  match items with
  | [] => trivial
  | item :: rest => exact ⟨fits_datum plain.1, fits_itemData plain.2⟩

theorem fits_memberData {levels : Nat} {members : List (String × Value)}
    (plain : MembersPlain levels members) : Datum.MembersFit levels (memberData members) := by
  match members with
  | [] => trivial
  | (key, value) :: rest => exact ⟨fits_datum plain.1, fits_memberData plain.2⟩

end

end Value

end InstanceBroker.Json
