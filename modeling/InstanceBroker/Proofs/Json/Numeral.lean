import InstanceBroker.Proofs.Except
import InstanceBroker.Proofs.Json.Grammar

namespace InstanceBroker.Json

/-- No number goes on with these characters. -/
def Stops (chars : List Char) : Prop :=
  ∀ c ∈ chars.head?, isDigit c = false ∧ c ≠ '.' ∧ c ≠ 'e' ∧ c ≠ 'E'

def Undigit (chars : List Char) : Prop := ∀ c ∈ chars.head?, isDigit c = false

theorem Stops.undigit {chars : List Char} (stops : Stops chars) : Undigit chars :=
  fun c first => (stops c first).1

theorem takeDigits_append {digits rest : List Char} (each : ∀ c ∈ digits, isDigit c = true)
    (undigit : Undigit rest) (position : Position) :
    ∃ stop, takeDigits position (digits ++ rest) = (digits, ⟨rest, stop⟩) := by
  induction digits generalizing position with
  | nil =>
    cases rest with
    | nil => exact ⟨position, rfl⟩
    | cons c rest =>
      have other : isDigit c = false := undigit c rfl
      exact ⟨position, by simp [takeDigits, other]⟩
  | cons c digits ih =>
    obtain ⟨digit, each⟩ := List.forall_mem_cons.mp each
    obtain ⟨stop, taken⟩ := ih each (position.after c)
    exact ⟨stop, by simp [takeDigits, digit, taken]⟩

theorem takeDigits_spec (position : Position) (chars : List Char) :
    chars = (takeDigits position chars).1 ++ (takeDigits position chars).2.rest ∧
      (∀ c ∈ (takeDigits position chars).1, isDigit c = true) ∧
      Undigit (takeDigits position chars).2.rest := by
  induction chars generalizing position with
  | nil => exact ⟨rfl, nofun, nofun⟩
  | cons c chars ih =>
    obtain ⟨same, each, undigit⟩ := ih (position.after c)
    by_cases digit : isDigit c = true
    · simp only [takeDigits, digit, if_true]
      exact ⟨congrArg (c :: ·) same, List.forall_mem_cons.mpr ⟨digit, each⟩, undigit⟩
    · simp only [takeDigits, digit]
      refine ⟨rfl, nofun, ?_⟩
      rintro _ ⟨⟩
      simpa using digit

theorem toOption_exponentValue (first second : Position) (value : Nat) (digits : List Char) :
    (Number.exponentValue first value digits).toOption =
      (Number.exponentValue second value digits).toOption := by
  induction digits generalizing first second value with
  | nil => rfl
  | cons c digits ih =>
    simp only [Number.exponentValue]
    split
    · rfl
    · exact ih ..

def inRange (position : Position) : Option Number → Except Error Number
  | some number => .ok number
  | none => .error ⟨.numberOutOfRange, position⟩

theorem toOption_inRange (position : Position) (outcome : Option Number) :
    (inRange position outcome).toOption = outcome := by
  cases outcome <;> rfl

theorem toOption_inRange_congr (first second : Position) (outcome : Option Number) :
    (inRange first outcome).toOption = (inRange second outcome).toOption := by
  rw [toOption_inRange, toOption_inRange]

theorem toOption_refusal (refused : Prop) [Decidable refused] (first second : Position)
    (number : Number) :
    (if refused then .error ⟨.numberOutOfRange, first⟩ else .ok number :
        Except Error Number).toOption =
      (if refused then .error ⟨.numberOutOfRange, second⟩ else .ok number :
        Except Error Number).toOption := by
  split <;> rfl

theorem toOption_numberValue (numeral : Numeral) (place stop : Position) :
    (numberValue numeral.negative numeral.integer (numeral.tail place) stop).toOption =
      numeral.value? := by
  obtain ⟨negative, integer, fraction, exponent⟩ := numeral
  unfold Numeral.value? numberValue
  generalize Number.accumulate 0 integer = taken
  obtain ⟨significand, count, full⟩ := taken
  cases exponent with
  | none =>
    cases fraction with
    | none =>
      cases full with
      | true => exact toOption_inRange_congr ..
      | false => rfl
    | some digits => exact toOption_inRange_congr ..
  | some exponent =>
    have same := toOption_exponentValue place {} 0 exponent.digits
    simp only [Numeral.tail, Option.map_some]
    cases first : Number.exponentValue place 0 exponent.digits with
    | ok value =>
      cases second : Number.exponentValue {} 0 exponent.digits with
      | ok other =>
        rw [first, second] at same
        cases same
        exact toOption_inRange_congr ..
      | error => rw [first, second] at same; cases same
    | error =>
      cases second : Number.exponentValue {} 0 exponent.digits with
      | ok => rw [first, second] at same; cases same
      | error => cases fraction <;> exact toOption_refusal ..

theorem not_sign_of_digit {c : Char} (digit : isDigit c = true) : c ≠ '+' ∧ c ≠ '-' := by
  constructor <;> (rintro rfl; cases digit)

theorem Digits.takes {digits rest : List Char} (some : Digits digits) (undigit : Undigit rest)
    (position : Position) :
    ∃ c others stop, digits = c :: others ∧ isDigit c = true ∧
      takeDigits position (digits ++ rest) = (c :: others, ⟨rest, stop⟩) := by
  obtain ⟨stop, taken⟩ := takeDigits_append some.2 undigit position
  cases digits with
  | nil => exact absurd rfl some.1
  | cons c others => exact ⟨c, others, stop, rfl, some.2 c List.mem_cons_self, taken⟩

def takeSign (start : Position) (chars : List Char) : Bool × Position × List Char :=
  match chars with
  | '+' :: rest => (false, start.after '+', rest)
  | '-' :: rest => (true, start.after '-', rest)
  | _ => (false, start, chars)

theorem scanExponent_cons (c : Char) (rest : List Char) (position : Position) :
    scanExponent ⟨c :: rest, position⟩ =
      if c = 'e' ∨ c = 'E' then
        let (below, place, rest) := takeSign (position.after c) rest
        match takeDigits place rest with
        | ([], { rest := [], .. }) =>
          .error ⟨⟨.eofValue, place⟩, ⟨.invalidNumber, place⟩⟩
        | ([], { rest := c :: _, .. }) => .error (.both ⟨.invalidNumber, place.afterByte c⟩)
        | (digits, cursor) => .ok (some (below, place, digits), cursor)
      else .ok (none, ⟨c :: rest, position⟩) := rfl

theorem takeSign_append (exponent : Exponent) (rest : List Char) (start : Position) :
    ∃ place, takeSign start (signChars exponent.sign ++ (exponent.digits ++ rest)) =
      (exponent.sign.getD false, place, exponent.digits ++ rest) := by
  obtain ⟨mark, sign, digits, marked, some⟩ := exponent
  cases sign with
  | none =>
    cases digits with
    | nil => exact absurd rfl some.1
    | cons c others =>
      obtain ⟨plus, minus⟩ := not_sign_of_digit (some.2 c List.mem_cons_self)
      refine ⟨start, ?_⟩
      simp only [signChars, List.nil_append, List.cons_append, takeSign]
      split
      · rename_i same
        cases same
        exact absurd rfl plus
      · rename_i same
        cases same
        exact absurd rfl minus
      · rfl
  | some negative => cases negative <;> exact ⟨_, rfl⟩

theorem scanExponent_append (exponent : Option Exponent) {rest : List Char} (stops : Stops rest)
    (position : Position) :
    ∃ place stop, scanExponent ⟨(exponent.map (·.chars)).getD [] ++ rest, position⟩ =
      .ok (exponent.map fun exponent => (exponent.sign.getD false, place, exponent.digits),
        ⟨rest, stop⟩) := by
  cases exponent with
  | none =>
    refine ⟨{}, position, ?_⟩
    cases rest with
    | nil => rfl
    | cons c rest =>
      obtain ⟨_, _, e, E⟩ := stops c rfl
      simp [scanExponent, e, E]
  | some exponent =>
    obtain ⟨place, signed⟩ := takeSign_append exponent rest (position.after exponent.mark)
    obtain ⟨c, others, stop, same, _, taken⟩ := exponent.some.takes stops.undigit place
    refine ⟨place, stop, ?_⟩
    simp only [Option.map_some, Option.getD_some, Exponent.chars, List.cons_append,
      List.append_assoc]
    rw [scanExponent_cons, if_pos exponent.marked, signed]
    dsimp only
    rw [taken, same]

theorem scanFraction_undotted {chars : List Char} (undotted : chars.head? ≠ some '.')
    (position : Position) :
    scanFraction ⟨chars, position⟩ =
      (scanExponent ⟨chars, position⟩).map fun (exponent, stop) => ({ exponent }, stop) := by
  unfold scanFraction
  dsimp only
  split
  · exact absurd rfl undotted
  · cases scanExponent ⟨chars, position⟩ <;> rfl

theorem scanFraction_dotted (rest : List Char) (position : Position) :
    scanFraction ⟨'.' :: rest, position⟩ =
      let (digits, after) := takeDigits (position.after '.') rest
      if digits.isEmpty then
        .error ⟨match after.rest with
          | [] => after.next .eofValue
          | _ => after.next .invalidNumber, after.next .invalidNumber⟩
      else (scanExponent after).map fun (exponent, stop) =>
        ({ digits := some digits, exponent }, stop) := by
  unfold scanFraction
  dsimp only
  split
  · rename_i same
    cases same
    split
    · rfl
    · cases scanExponent (takeDigits (position.after '.') rest).2 <;> rfl
  · rename_i other
    exact absurd rfl (other rest)

theorem Exponent.follows (exponent : Option Exponent) {rest : List Char} (stops : Stops rest) :
    ∀ c ∈ ((exponent.map (·.chars)).getD [] ++ rest).head?,
      isDigit c = false ∧ c ≠ '.' := by
  cases exponent with
  | none => exact fun c first => ⟨(stops c first).1, (stops c first).2.1⟩
  | some exponent =>
    rintro _ ⟨⟩
    rcases exponent.marked with e | e <;> (rw [e]; decide)

theorem scanFraction_append (numeral : Numeral) {rest : List Char} (stops : Stops rest)
    (position : Position) :
    ∃ place stop, scanFraction
        ⟨numeral.fractionChars ++ (numeral.exponentChars ++ rest), position⟩ =
      .ok (numeral.tail place, ⟨rest, stop⟩) := by
  obtain ⟨negative, integer, fraction, exponent, whole, unpadded, fractional⟩ := numeral
  have follows := Exponent.follows exponent stops
  cases fraction with
  | none =>
    obtain ⟨place, stop, taken⟩ := scanExponent_append exponent stops position
    refine ⟨place, stop, ?_⟩
    have undotted : ((exponent.map (·.chars)).getD [] ++ rest).head? ≠ some '.' :=
      fun dot => (follows '.' dot).2 rfl
    exact (scanFraction_undotted undotted position).trans (by rw [taken]; rfl)
  | some digits =>
    have some : Digits digits := fractional digits rfl
    obtain ⟨c, others, after, rfl, _, digitsTaken⟩ :=
      some.takes (fun c first => (follows c first).1) (position.after '.')
    obtain ⟨place, stop, taken⟩ := scanExponent_append exponent stops after
    refine ⟨place, stop, ?_⟩
    have dotted :=
      scanFraction_dotted ((c :: others) ++ ((exponent.map (·.chars)).getD [] ++ rest))
      position
    rw [digitsTaken] at dotted
    exact dotted.trans (by simp only [List.isEmpty_cons, taken]; rfl)

def takeInteger (cursor : Cursor) : Except Failure (List Char × Cursor) :=
  match cursor.rest with
  | '0' :: rest =>
    let afterZero : Cursor := ⟨rest, cursor.position.after '0'⟩
    if (rest.head?).any isDigit then .error (.both (afterZero.next .invalidNumber))
    else .ok (['0'], afterZero)
  | _ => .ok (takeDigits cursor.position cursor.rest)

theorem takeInteger_zero (rest : List Char) (position : Position) :
    takeInteger ⟨'0' :: rest, position⟩ =
      if (rest.head?).any isDigit then
        .error (.both (Cursor.next ⟨rest, position.after '0'⟩ .invalidNumber))
      else .ok (['0'], ⟨rest, position.after '0'⟩) := rfl

theorem takeInteger_unpadded {chars : List Char} (unpadded : ∀ rest, chars ≠ '0' :: rest)
    (position : Position) :
    takeInteger ⟨chars, position⟩ = .ok (takeDigits position chars) := by
  unfold takeInteger
  dsimp only
  split
  · exact absurd rfl (unpadded _)
  · rfl

theorem scanNumber_eq (isNegative : Bool) (cursor : Cursor) :
    scanNumber isNegative cursor =
      (takeInteger cursor).bind fun (integer, after) =>
        if integer.isEmpty then .error (match cursor.rest with
          | [] => ⟨cursor.here .eofValue, cursor.here .invalidNumber⟩
          | _ => .both (cursor.next .invalidNumber))
        else (scanFraction after).map fun (fraction, stop) =>
          (numberValue isNegative integer fraction stop.position, stop) := by
  obtain ⟨chars, position⟩ := cursor
  unfold scanNumber
  dsimp only
  split
  · rename_i rest
    rw [takeInteger_zero]
    cases zero : Option.any isDigit rest.head? with
    | true => rfl
    | false => cases scanFraction ⟨rest, position.after '0'⟩ <;> rfl
  · rename_i other
    rw [takeInteger_unpadded other]
    simp only [pure, Except.pure, bind, Except.bind]
    cases (takeDigits position chars).1.isEmpty with
    | true => cases chars <;> rfl
    | false => cases scanFraction (takeDigits position chars).2 <;> rfl

theorem Numeral.undigit (numeral : Numeral) {rest : List Char} (stops : Stops rest) :
    Undigit (numeral.fractionChars ++ (numeral.exponentChars ++ rest)) := by
  unfold Numeral.fractionChars
  cases numeral.fraction with
  | none => exact fun c first => (Exponent.follows numeral.exponent stops c first).1
  | some digits =>
    rintro _ ⟨⟩
    rfl

theorem takeInteger_append (numeral : Numeral) {rest : List Char} (undigit : Undigit rest)
    (position : Position) :
    ∃ after, takeInteger ⟨numeral.integer ++ rest, position⟩ =
      .ok (numeral.integer, ⟨rest, after⟩) := by
  by_cases zero : numeral.integer.head? = some '0'
  · rw [numeral.unpadded zero, List.singleton_append, takeInteger_zero]
    refine ⟨position.after '0', ?_⟩
    have other : rest.head?.any isDigit = false := by
      cases first : rest.head? with
      | none => rfl
      | some c => exact undigit c first
    rw [other]
    rfl
  · obtain ⟨c, others, after, same, _, digitsTaken⟩ := numeral.whole.takes undigit position
    refine ⟨after, ?_⟩
    rw [takeInteger_unpadded, digitsTaken, same]
    rintro more padded
    rw [same] at zero padded
    cases padded
    exact zero rfl

theorem scanNumber_append (numeral : Numeral) {rest : List Char} (stops : Stops rest)
    (position : Position) :
    ∃ value stop, scanNumber numeral.negative
        ⟨numeral.integer ++ (numeral.fractionChars ++ (numeral.exponentChars ++ rest)),
          position⟩ =
      .ok (value, ⟨rest, stop⟩) ∧ value.toOption = numeral.value? := by
  obtain ⟨after, taken⟩ := takeInteger_append numeral (numeral.undigit stops) position
  obtain ⟨place, stop, fraction⟩ := scanFraction_append numeral stops after
  refine ⟨_, stop, ?_, toOption_numberValue numeral place stop⟩
  have some : numeral.integer.isEmpty = false := by
    cases same : numeral.integer with
    | nil => exact absurd same numeral.whole.1
    | cons => rfl
  rw [scanNumber_eq, taken]
  simp only [Except.bind, some, fraction, Bool.false_eq_true, if_false]
  rfl

theorem takeSign_cases (start : Position) (chars : List Char) :
    ∃ sign : Option Bool, ∃ place rest,
      takeSign start chars = (sign.getD false, place, rest) ∧
      chars = signChars sign ++ rest := by
  unfold takeSign
  split
  · exact ⟨some false, _, _, rfl, rfl⟩
  · exact ⟨some true, _, _, rfl, rfl⟩
  · exact ⟨none, _, _, rfl, rfl⟩

theorem scanExponent_spec {chars rest : List Char} {position stop : Position}
    {taken : Option (Bool × Position × List Char)}
    (scanned : scanExponent ⟨chars, position⟩ = .ok (taken, ⟨rest, stop⟩)) :
    ∃ (exponent : Option Exponent) (place : Position),
      chars = (exponent.map (·.chars)).getD [] ++ rest ∧
        taken = exponent.map fun exponent =>
          (exponent.sign.getD false, place, exponent.digits) := by
  cases chars with
  | nil =>
    cases scanned
    exact ⟨none, {}, rfl, rfl⟩
  | cons c chars =>
    rw [scanExponent_cons] at scanned
    split at scanned
    · rename_i marked
      obtain ⟨sign, place, others, signed, same⟩ := takeSign_cases (position.after c) chars
      obtain ⟨joined, each, _⟩ := takeDigits_spec place others
      rw [signed] at scanned
      dsimp only at scanned
      generalize takeDigits place others = read at scanned joined each
      obtain ⟨digits, cursor⟩ := read
      cases digits with
      | nil => obtain ⟨_ | _, _⟩ := cursor <;> cases scanned
      | cons d digits =>
        cases scanned
        refine ⟨some ⟨c, sign, d :: digits, marked, nofun, each⟩, place, ?_, rfl⟩
        rw [same, joined]
        simp [Exponent.chars]
    · cases scanned
      exact ⟨none, {}, rfl, rfl⟩

theorem scanFraction_spec {chars rest : List Char} {position stop : Position} {taken : Fraction}
    (scanned : scanFraction ⟨chars, position⟩ = .ok (taken, ⟨rest, stop⟩)) :
    ∃ (fraction : Option (List Char)) (exponent : Option Exponent) (place : Position),
      (∀ digits ∈ fraction, Digits digits) ∧
        chars = (match fraction with
          | none => []
          | some digits => '.' :: digits) ++ ((exponent.map (·.chars)).getD [] ++ rest) ∧
        taken = ⟨fraction, exponent.map fun exponent =>
          (exponent.sign.getD false, place, exponent.digits)⟩ := by
  by_cases dot : chars.head? = some '.'
  · obtain ⟨others, rfl⟩ := List.head?_eq_some_iff.mp dot
    obtain ⟨joined, each, _⟩ := takeDigits_spec (position.after '.') others
    rw [scanFraction_dotted] at scanned
    generalize takeDigits (position.after '.') others = read at scanned joined each
    obtain ⟨digits, after, start⟩ := read
    cases digits with
    | nil => cases scanned
    | cons d digits =>
      simp only [List.isEmpty_cons, Bool.false_eq_true, if_false] at scanned
      obtain ⟨⟨read, cursor⟩, inner, made⟩ := ok_of_map scanned
      cases made
      obtain ⟨exponent, place, same, taken⟩ := scanExponent_spec inner
      refine ⟨some (d :: digits), exponent, place, ?_, ?_, by rw [taken]⟩
      · rintro _ ⟨⟩
        exact ⟨nofun, each⟩
      · rw [joined]
        dsimp only
        rw [same]
        rfl
  · rw [scanFraction_undotted dot] at scanned
    obtain ⟨⟨read, cursor⟩, inner, made⟩ := ok_of_map scanned
    cases made
    obtain ⟨exponent, place, same, taken⟩ := scanExponent_spec inner
    exact ⟨none, exponent, place, nofun, same, by rw [taken]⟩

theorem takeInteger_spec {chars integer rest : List Char} {position after : Position}
    (taken : takeInteger ⟨chars, position⟩ = .ok (integer, ⟨rest, after⟩)) :
    chars = integer ++ rest ∧ (∀ c ∈ integer, isDigit c = true) ∧
      (integer.head? = some '0' → integer = ['0']) := by
  by_cases zero : ∃ others, chars = '0' :: others
  · obtain ⟨others, rfl⟩ := zero
    rw [takeInteger_zero] at taken
    split at taken
    · cases taken
    · cases taken
      exact ⟨rfl, fun c zero => List.mem_singleton.mp zero ▸ rfl, fun _ => rfl⟩
  · have unpadded : ∀ others, chars ≠ '0' :: others :=
      fun others same => zero ⟨others, same⟩
    rw [takeInteger_unpadded unpadded] at taken
    obtain ⟨joined, each, _⟩ := takeDigits_spec position chars
    rw [Except.ok.inj taken] at joined each
    refine ⟨joined, each, fun first => ?_⟩
    cases integer with
    | nil => cases first
    | cons c integer =>
      cases first
      exact absurd joined (unpadded _)

theorem scanNumber_spec {isNegative : Bool} {chars rest : List Char} {position stop : Position}
    {value : Except Error Number}
    (scanned : scanNumber isNegative ⟨chars, position⟩ = .ok (value, ⟨rest, stop⟩)) :
    ∃ numeral : Numeral, numeral.negative = isNegative ∧ value.toOption = numeral.value? ∧
      chars = numeral.integer ++ (numeral.fractionChars ++ (numeral.exponentChars ++ rest)) := by
  rw [scanNumber_eq] at scanned
  obtain ⟨⟨integer, after, start⟩, first, scanned⟩ := ok_of_bind scanned
  obtain ⟨joined, each, unpadded⟩ := takeInteger_spec first
  cases integer with
  | nil => cases scanned
  | cons c integer =>
    simp only [List.isEmpty_cons, Bool.false_eq_true, if_false] at scanned
    obtain ⟨⟨read, cursor⟩, inner, made⟩ := ok_of_map scanned
    cases made
    obtain ⟨fraction, exponent, place, fractional, same, taken⟩ := scanFraction_spec inner
    refine ⟨⟨isNegative, c :: integer, fraction, exponent, ⟨nofun, each⟩, unpadded,
      fractional⟩, rfl, ?_, ?_⟩
    · rw [taken]
      exact toOption_numberValue ⟨isNegative, c :: integer, fraction, exponent,
        ⟨nofun, each⟩, unpadded, fractional⟩ place stop
    · rw [joined, same]
      rfl

def grown (value : Nat) (digits : List Char) : Nat :=
  digits.foldl (fun value c => value * 10 + digitValue c) value

theorem le_grown (value : Nat) (digits : List Char) : value ≤ grown value digits := by
  induction digits generalizing value with
  | nil => exact Nat.le_refl _
  | cons c digits ih =>
    have step : value ≤ value * 10 + digitValue c := by omega
    exact Nat.le_trans step (ih _)

theorem accumulate_cases (value : Nat) {digits : List Char} (some : digits ≠ []) :
    grown value digits ≤ Number.maxNatural ∧
      Number.accumulate value digits = (grown value digits, digits.length, false) ∨
    Number.maxNatural < grown value digits ∧ (Number.accumulate value digits).2.2 = true := by
  induction digits generalizing value with
  | nil => exact absurd rfl some
  | cons c digits ih =>
    simp only [Number.accumulate]
    by_cases large : Number.maxNatural < value * 10 + digitValue c
    · rw [if_pos large]
      exact .inr ⟨Nat.lt_of_lt_of_le large (le_grown _ digits), rfl⟩
    · rw [if_neg large]
      cases digits with
      | nil => exact .inl ⟨Nat.le_of_not_lt large, rfl⟩
      | cons d digits =>
        obtain ⟨fits, taken⟩ | ⟨beyond, left⟩ := ih (value * 10 + digitValue c) nofun
        · rw [taken]
          exact .inl ⟨fits, rfl⟩
        · exact .inr ⟨beyond, left⟩

theorem ofParts?_ne_natural {isNegative : Bool} {significand : Nat} {exponent : Int}
    (value : UInt64) :
    Number.ofParts? isNegative significand exponent ≠ some (.natural value) := by
  intro made
  obtain ⟨_, _, other⟩ := Option.map_eq_some_iff.mp made
  cases other

theorem inRange_ne_natural {isNegative : Bool} {significand : Nat} {exponent : Int}
    (position : Position) (value : UInt64) :
    (inRange position (Number.ofParts? isNegative significand exponent)).toOption ≠
      some (.natural value) := by
  rw [toOption_inRange]
  exact ofParts?_ne_natural value

theorem refusal_ne_natural (refused : Prop) [Decidable refused] (position : Position)
    (double : Binary64) (value : UInt64) :
    (if refused then .error ⟨.numberOutOfRange, position⟩ else .ok (.double double) :
        Except Error Number).toOption ≠ some (.natural value) := by
  split <;> nofun

namespace Numeral

theorem value?_ne_natural {numeral : Numeral} (other : numeral.natural? = none)
    (value : UInt64) : numeral.value? ≠ some (.natural value) := by
  obtain ⟨negative, integer, fraction, exponent⟩ := numeral
  unfold value? numberValue
  generalize Number.accumulate 0 integer = taken
  obtain ⟨significand, count, full⟩ := taken
  cases exponent with
  | some exponent =>
    simp only [tail, Option.map_some]
    cases Number.exponentValue {} 0 exponent.digits with
    | ok => exact inRange_ne_natural _ _
    | error => exact refusal_ne_natural _ _ _ value
  | none =>
    cases fraction with
    | some digits => exact inRange_ne_natural _ _
    | none =>
      cases negative with
      | false => cases other
      | true =>
        cases full with
        | true => exact inRange_ne_natural _ _
        | false =>
          have signed : Number.ofNatural true significand ≠ .natural value := by
            rw [Number.ofNatural, if_neg (by decide)]
            split <;> nofun
          exact fun made => signed (Option.some.inj made)

/-- A number is read as a natural one just if it is written as one and fits 64 bits. -/
theorem value?_eq_natural_iff (numeral : Numeral) (value : UInt64) :
    numeral.value? = some (.natural value) ↔ numeral.natural? = some value.toNat := by
  cases plain : numeral.natural? with
  | none => exact iff_of_false (value?_ne_natural plain value) nofun
  | some total =>
    obtain ⟨negative, integer, fraction, exponent, whole⟩ := numeral
    simp only [natural?] at plain
    split at plain
    · cases plain
    · rename_i simple
      simp only [Bool.or_eq_true, not_or, Bool.not_eq_true, Option.isSome_eq_false_iff,
        Option.isNone_iff_eq_none] at simple
      obtain ⟨⟨rfl, rfl⟩, rfl⟩ := simple
      have same : grown 0 integer = total := Option.some.inj plain
      have small : Number.maxNatural < 2 ^ 64 := by decide
      unfold value? numberValue
      obtain ⟨fits, taken⟩ | ⟨beyond, left⟩ := accumulate_cases 0 whole.1
      · rw [same] at fits taken
        rw [taken]
        have back : (UInt64.ofNat total).toNat = total :=
          Nat.mod_eq_of_lt (Nat.lt_of_le_of_lt fits small)
        constructor
        · rintro ⟨⟩
          rw [back]
        · rintro ⟨⟩
          exact congrArg (some <| Number.natural ·) (UInt64.ofNat_toNat)
      · rw [same] at beyond
        generalize Number.accumulate 0 integer = read at left
        obtain ⟨significand, count, full⟩ := read
        cases left
        refine iff_of_false (inRange_ne_natural _ _) ?_
        rintro ⟨⟩
        have bound := value.toNat_lt
        have least : 2 ^ 64 ≤ Number.maxNatural + 1 := by decide
        omega

end Numeral

end InstanceBroker.Json
