import InstanceBroker.Proofs.Decimal.Shortest
import InstanceBroker.Proofs.Text.Digits
import InstanceBroker.Yaml.Value

namespace InstanceBroker

open Binary64 (Canonical Surrounds)

namespace Binary64

variable {mantissa : Nat} {exponent : Int} {q : ℚ}

theorem Surrounds.lt (canonical : Canonical mantissa exponent)
    (surrounds : Surrounds mantissa exponent q) : q < 2 ^ (1024 : Int) :=
  (surrounds.lt_scale canonical).trans_le canonical.scale_le

theorem Surrounds.ge (canonical : Canonical mantissa exponent) (some : mantissa ≠ 0)
    (surrounds : Surrounds mantissa exponent q) : 2 ^ (-1075 : Int) ≤ q := by
  have least : (1 : ℚ) ≤ mantissa := by exact_mod_cast Nat.one_le_iff_ne_zero.mpr some
  have reach := reachBelow_le mantissa exponent
  calc (2 : ℚ) ^ (-1075 : Int) = 1 / 2 * 2 ^ (-1074 : Int) := by
        rw [one_div, ← zpow_neg_one, ← zpow_add₀ two_ne_zero]
        rfl
    _ ≤ 1 / 2 * 2 ^ exponent := by
        gcongr
        · exact one_le_two
        · exact canonical.lowest
    _ ≤ (mantissa - reachBelow mantissa exponent) * 2 ^ exponent := by gcongr; linarith
    _ ≤ q := surrounds.low

end Binary64

namespace Yaml

theorem not_sign_of_isDigit {c : Char} (digit : c.isDigit = true) : c ≠ '+' ∧ c ≠ '-' := by
  constructor <;> (rintro rfl; cases digit)

theorem number?_digits {digits : List Char} (each : ∀ c ∈ digits, c.isDigit = true) :
    Text.number? 10 digits = some (Text.decimal digits) :=
  Text.number?_ten fun c among => (Text.isDecimal_eq_isDigit c).trans (each c among)

theorem digits?_ten {digits : List Char} (some : digits ≠ [])
    (each : ∀ c ∈ digits, c.isDigit = true) :
    digits? 10 digits = .some (Text.decimal digits) := by
  rw [digits?, if_neg (by rwa [List.isEmpty_iff]), number?_digits each]

theorem based?_digits {digits : List Char} (each : ∀ c ∈ digits, c.isDigit = true) :
    based? digits = none := by
  unfold based?
  split
  · exact absurd (each 'x' (by simp)) (by decide)
  · exact absurd (each 'o' (by simp)) (by decide)
  · exact absurd (each 'b' (by simp)) (by decide)
  · rfl

theorem natural?_digits {digits : List Char} (some : digits ≠ [])
    (each : ∀ c ∈ digits, c.isDigit = true)
    (unpadded : digits.head? = .some '0' → digits = ['0']) :
    natural? digits = .some (Text.decimal digits) := by
  have padded : isZeroPadded digits = false := by
    unfold isZeroPadded
    dsimp only
    split
    · split at *
      · exact absurd (each '-' (by simp)) (by decide)
      · exact absurd (each '+' (by simp)) (by decide)
      · rename_i same
        subst same
        cases unpadded rfl
    · rfl
  unfold natural?
  dsimp only
  split
  · exact absurd (each '+' (by simp)) (by decide)
  · rw [based?_digits each, padded, digits?_ten some each]
    rfl

theorem toList_toString (n : Nat) : (toString n).toList = Nat.toDigits 10 n := Nat.toList_repr

theorem natural?_toString (n : Nat) : natural? (toString n).toList = some n := by
  rw [toList_toString, natural?_digits Nat.toDigits_ne_nil
    (fun c among => Nat.isDigit_of_mem_toDigits (by decide) (by decide) among) fun zero => by
      rw [Text.eq_zero_of_head?_toDigits zero]
      rfl, Text.decimal_toDigits]

section Nearest

variable {mantissa : Nat} {exponent : Int}

theorem nearest?_of_surrounds (negative : Bool) (canonical : Canonical mantissa exponent)
    (some : mantissa ≠ 0) {digits : List Char} (each : ∀ c ∈ digits, c.isDigit = true)
    {k : Int} (surrounds : Surrounds mantissa exponent (Text.decimal digits * 10 ^ k)) :
    nearest? negative digits k = .some (.finite negative mantissa exponent) := by
  have kept : ∀ c ∈ digits.dropWhile (· = '0'), c.isDigit = true :=
    fun c among => each c (List.dropWhile_subset _ among)
  have first := List.head?_dropWhile_not (fun c => decide (c = '0')) digits
  rw [← Text.decimal_dropWhile_zeros] at surrounds
  unfold nearest?
  dsimp only
  generalize digits.dropWhile (· = '0') = digits at *
  cases digits with
  | nil =>
    have positive := surrounds.pos some
    simp [Text.decimal] at positive
  | cons c digits =>
    have decimals : ∀ d ∈ c :: digits, Text.isDecimal d = true :=
      fun d among => (Text.isDecimal_eq_isDigit d).trans (kept d among)
    have most : (Text.decimal (c :: digits) : ℚ) < 10 ^ (digits.length + 1) := by
      exact_mod_cast Text.decimal_lt decimals
    have least : (10 : ℚ) ^ digits.length ≤ Text.decimal (c :: digits) := by
      exact_mod_cast Text.le_decimal (decimals c List.mem_cons_self) (of_decide_eq_false first)
    have above : -400 < k + digits.length + 1 := by
      rw [← zpow_lt_zpow_iff_right₀ (a := (10 : ℚ)) (by norm_num)]
      calc (10 : ℚ) ^ (-400 : Int) ≤ 2 ^ (-1075 : Int) :=
            Decimal.ten_zpow_le_two_zpow (by decide) (by decide)
        _ ≤ Text.decimal (c :: digits) * 10 ^ k := surrounds.ge canonical some
        _ < 10 ^ (digits.length + 1) * 10 ^ k := by gcongr
        _ = 10 ^ (k + digits.length + 1) := by
            rw [← zpow_natCast, ← zpow_add₀ (by norm_num)]
            congr 1
            omega
    have below : k + digits.length < 399 := by
      rw [← zpow_lt_zpow_iff_right₀ (a := (10 : ℚ)) (by norm_num)]
      calc (10 : ℚ) ^ (k + digits.length) = 10 ^ digits.length * 10 ^ k := by
            rw [← zpow_natCast, ← zpow_add₀ (by norm_num), Int.add_comm]
        _ ≤ Text.decimal (c :: digits) * 10 ^ k := by gcongr
        _ < 2 ^ (1024 : Int) := surrounds.lt canonical
        _ ≤ 10 ^ (399 : Int) := by
            rw [zpow_ofNat, zpow_ofNat]
            exact_mod_cast (by decide +kernel : 2 ^ 1024 ≤ 10 ^ 399)
    have far : ¬ k + ((c :: digits).length : Int) < -farExponent := by
      unfold farExponent
      rw [List.length_cons]
      omega
    have wide : ¬ farExponent < k + ((c :: digits).length : Int) := by
      unfold farExponent
      rw [List.length_cons]
      omega
    rw [List.isEmpty_cons, decide_eq_false far, Bool.or_false, if_neg (by decide), if_neg wide,
      number?_digits kept]
    simp only [Option.bind_eq_bind, Option.bind_some,
      Decimal.ofDecimal_of_surrounds negative canonical some surrounds]

end Nearest

def fractionOf : List Char → List Char
  | '.' :: rest => rest.takeWhile Char.isDigit
  | _ => []

def ending? : List Char → Option Int
  | [] => some 0
  | 'e' :: rest | 'E' :: rest => exponent? rest
  | _ => none

theorem unsignedDouble?_eq (negative : Bool) (text : List Char) :
    unsignedDouble? negative text =
      let whole := text.takeWhile Char.isDigit
      let rest := text.drop whole.length
      let fraction := fractionOf rest
      let tail := if rest.head? = some '.' then rest.drop (fraction.length + 1) else rest
      if whole.isEmpty && fraction.isEmpty then none
      else (ending? tail).bind fun exponent =>
        nearest? negative (whole ++ fraction) (exponent - fraction.length) := by
  have parts (tail whole fraction : List Char) :
      (do
        if whole.isEmpty && fraction.isEmpty then none
        let exponent ← match tail with
          | [] => some 0
          | 'e' :: rest | 'E' :: rest => exponent? rest
          | _ => none
        nearest? negative (whole ++ fraction) (exponent - fraction.length)) =
      if whole.isEmpty && fraction.isEmpty then none
      else (ending? tail).bind fun exponent =>
        nearest? negative (whole ++ fraction) (exponent - fraction.length) := by
    by_cases nothing : (whole.isEmpty && fraction.isEmpty) = true
    · rw [if_pos nothing, if_pos nothing]
      rfl
    · rw [if_neg nothing, if_neg nothing]
      unfold ending?
      split <;> rfl
  exact parts ..

def isNumeric (c : Char) : Bool := c.isDigit || ['.', 'e', '-', '+'].contains c

/-- What may follow the digits of a number, and the exponent it says. -/
structure Ends (tail : List Char) (k : Int) : Prop where
  stops : ∀ c ∈ tail.head?, c.isDigit = false
  read : ending? tail = some k
  chars : ∀ c ∈ tail, isNumeric c = true

theorem ends_nil : Ends [] 0 := ⟨nofun, rfl, nofun⟩

/-- How a number is spelled with a point or without: its digits and the exponent of the last one. -/
inductive Spells : List Char → List Char → Int → Prop
  | pointed {whole fraction tail : List Char} {k : Int} (some : whole ≠ [])
      (each : ∀ c ∈ whole ++ fraction, c.isDigit = true) (ends : Ends tail k) :
      Spells (whole ++ '.' :: (fraction ++ tail)) (whole ++ fraction) (k - fraction.length)
  | unpointed {whole tail : List Char} {k : Int} (some : whole ≠ [])
      (each : ∀ c ∈ whole, c.isDigit = true) (ends : Ends tail k) :
      Spells (whole ++ tail) whole k

theorem Spells.each {text digits : List Char} {k : Int} (spells : Spells text digits k) :
    ∀ c ∈ digits, c.isDigit = true := by
  cases spells with
  | pointed some each ends => exact each
  | unpointed some each ends => exact each

theorem Spells.numeric {text digits : List Char} {k : Int} (spells : Spells text digits k) :
    ∀ c ∈ text, isNumeric c = true := by
  have numeric {c : Char} (digit : c.isDigit = true) : isNumeric c = true := by
    rw [isNumeric, digit, Bool.true_or]
  cases spells with
  | pointed some each ends =>
    obtain ⟨wholes, fractions⟩ := List.forall_mem_append.mp each
    exact List.forall_mem_append.mpr ⟨fun c among => numeric (wholes c among),
      List.forall_mem_cons.mpr ⟨rfl, List.forall_mem_append.mpr
        ⟨fun c among => numeric (fractions c among), ends.chars⟩⟩⟩
  | unpointed some each ends =>
    exact List.forall_mem_append.mpr ⟨fun c among => numeric (each c among), ends.chars⟩

theorem Spells.digit_first {text digits : List Char} {k : Int} (spells : Spells text digits k) :
    ∃ c rest, text = c :: rest ∧ c.isDigit = true := by
  cases spells with
  | pointed some each ends =>
    obtain ⟨c, rest, rfl⟩ := List.exists_cons_of_ne_nil some
    exact ⟨c, _, rfl, each c (by simp)⟩
  | unpointed some each ends =>
    obtain ⟨c, rest, rfl⟩ := List.exists_cons_of_ne_nil some
    exact ⟨c, _, rfl, each c (by simp)⟩

theorem takeWhile_digits {digits : List Char} (rest : List Char)
    (each : ∀ c ∈ digits, c.isDigit = true) (stops : ∀ c ∈ rest.head?, c.isDigit = false) :
    (digits ++ rest).takeWhile Char.isDigit = digits := by
  rw [List.takeWhile_append_of_pos each]
  cases rest with
  | nil => exact List.append_nil digits
  | cons c rest => rw [List.takeWhile_cons_of_neg (by simp [stops c rfl]), List.append_nil]

theorem unsignedDouble?_of_spells (negative : Bool) {text digits : List Char} {k : Int}
    (spells : Spells text digits k) :
    unsignedDouble? negative text = nearest? negative digits k := by
  rw [unsignedDouble?_eq]
  cases spells with
  | @pointed whole fraction tail k some each ends =>
    obtain ⟨wholes, fractions⟩ := List.forall_mem_append.mp each
    have taken := takeWhile_digits ('.' :: (fraction ++ tail)) wholes (by rintro _ ⟨⟩; rfl)
    have behind : fractionOf ('.' :: (fraction ++ tail)) = fraction :=
      takeWhile_digits tail fractions ends.stops
    have left : ('.' :: (fraction ++ tail)).drop (fraction.length + 1) = tail := List.drop_left
    dsimp only
    rw [taken, List.drop_left, behind, left]
    simp [some, ends.read]
  | @unpointed whole tail k some each ends =>
    have taken := takeWhile_digits tail each ends.stops
    have undotted : tail.head? ≠ .some '.' := by
      intro dot
      cases tail with
      | nil => cases dot
      | cons c tail =>
        cases dot
        cases ends.read
    have behind : fractionOf tail = [] := by
      unfold fractionOf
      split
      · exact absurd rfl undotted
      · rfl
    dsimp only
    rw [taken, List.drop_left, behind, if_neg undotted]
    simp [some, ends.read]

open Decimal (Layout Scientific)

theorem digits_toDigits (n : Nat) : ∀ c ∈ Nat.toDigits 10 n, c.isDigit = true :=
  fun _ among => Nat.isDigit_of_mem_toDigits (by decide) (by decide) among

theorem digits?_toDigits (n : Nat) : digits? 10 (Nat.toDigits 10 n) = some n :=
  (digits?_ten Nat.toDigits_ne_nil (digits_toDigits n)).trans (by rw [Text.decimal_toDigits])

theorem exponent?_minus (n : Nat) : exponent? ('-' :: Nat.toDigits 10 n) = some (-n : Int) := by
  simp only [exponent?, digits?_toDigits]
  rfl

theorem exponent?_plus (n : Nat) : exponent? ('+' :: Nat.toDigits 10 n) = some (n : Int) := by
  simp only [exponent?, digits?_toDigits]
  rfl

theorem exponent?_toDigits (n : Nat) : exponent? (Nat.toDigits 10 n) = some (n : Int) := by
  have each := digits_toDigits n
  have read := digits?_toDigits n
  generalize Nat.toDigits 10 n = digits at each read
  unfold exponent?
  split
  · exact absurd (each '-' (by simp)) (by decide)
  · exact absurd (each '+' (by simp)) (by decide)
  · rw [read]
    rfl

theorem toList_exponent (layout : Layout) (k : Int) :
    (layout.exponent k).toList = 'e' ::
      ((if k < 0 then ['-'] else if layout.plus then ['+'] else []) ++
        Nat.toDigits 10 k.natAbs) := by
  have digits : (toString k.natAbs).toList = Nat.toDigits 10 k.natAbs := toList_toString _
  unfold Layout.exponent
  split
  · rw [String.toList_append, digits]
    rfl
  · split <;> (rw [String.toList_append, digits]; rfl)

theorem ending?_exponent (layout : Layout) (k : Int) :
    ending? (layout.exponent k).toList = some k := by
  rw [toList_exponent]
  split
  · exact (exponent?_minus k.natAbs).trans (congrArg some (by omega))
  · have same : (k.natAbs : Int) = k := by omega
    split
    · exact (exponent?_plus k.natAbs).trans (congrArg some same)
    · exact (exponent?_toDigits k.natAbs).trans (congrArg some same)

theorem ends_exponent (layout : Layout) (k : Int) : Ends (layout.exponent k).toList k where
  stops := by
    rw [toList_exponent]
    rintro _ ⟨⟩
    rfl
  read := ending?_exponent layout k
  chars := by
    rw [toList_exponent]
    refine List.forall_mem_cons.mpr ⟨rfl,
      List.forall_mem_append.mpr ⟨?_, fun c among => ?_⟩⟩
    · split
      · exact List.forall_mem_singleton.mpr rfl
      · split
        · exact List.forall_mem_singleton.mpr rfl
        · nofun
    · rw [isNumeric, digits_toDigits _ c among, Bool.true_or]

def Shows (text : List Char) (q : ℚ) : Prop :=
  ∃ digits k, Spells text digits k ∧ (Text.decimal digits : ℚ) * 10 ^ k = q

section Shows

variable {digits : List Char}

theorem shows_pointed (whole fraction : List Char) (some : whole ≠ [])
    (wholes : ∀ c ∈ whole, c.isDigit = true)
    (fractions : ∀ c ∈ fraction, c.isDigit = true) :
    Shows (whole ++ '.' :: fraction)
      (Text.decimal (whole ++ fraction) * 10 ^ (-(fraction.length : Int))) := by
  have spells := Spells.pointed some (List.forall_mem_append.mpr ⟨wholes, fractions⟩) ends_nil
  rw [List.append_nil, Int.zero_sub] at spells
  exact ⟨_, _, spells, rfl⟩

theorem zeros_isDigit (n : Nat) : ∀ c ∈ List.replicate n '0', c.isDigit = true :=
  fun _ among => List.eq_of_mem_replicate among ▸ rfl

theorem toList_zeros (n : Nat) : (Decimal.zeros n).toList = List.replicate n '0' :=
  String.toList_ofList

theorem toList_plain (digits : List Char) (point : Int) :
    (Decimal.plain digits point).toList =
      if digits.length ≤ point then
        (digits ++ List.replicate (point - digits.length).toNat '0') ++ '.' :: ['0']
      else if 0 < point then digits.take point.toNat ++ '.' :: digits.drop point.toNat
      else ['0'] ++ '.' :: (List.replicate (-point).toNat '0' ++ digits) := by
  unfold Decimal.plain
  dsimp only
  split
  · rw [String.toList_append, String.toList_append, String.toList_ofList, toList_zeros]
    rfl
  · split
    · rw [String.toList_append, String.toList_append, String.toList_ofList,
        String.toList_ofList (l := digits.drop _), List.append_assoc]
      rfl
    · rw [String.toList_append, String.toList_append, String.toList_ofList (l := digits),
        toList_zeros, List.append_assoc]
      rfl

theorem shows_plain (some : digits ≠ []) (each : ∀ c ∈ digits, c.isDigit = true)
    (point : Int) :
    Shows (Decimal.plain digits point).toList
      (Text.decimal digits * 10 ^ (point - digits.length)) := by
  rw [toList_plain]
  split
  · rename_i behind
    obtain ⟨count, shift⟩ := Int.eq_ofNat_of_zero_le (Int.sub_nonneg_of_le behind)
    rw [shift, Int.toNat_natCast]
    convert shows_pointed _ ['0'] (List.append_ne_nil_of_left_ne_nil some _)
      (List.forall_mem_append.mpr ⟨each, zeros_isDigit count⟩) (zeros_isDigit 1) using 1
    rw [List.append_assoc, show List.replicate count '0' ++ ['0'] = List.replicate (count + 1) '0'
      from List.replicate_succ'.symm, Text.decimal_append_zeros]
    push_cast
    rw [List.length_singleton, pow_succ, ← mul_assoc, Nat.cast_one, zpow_neg_one,
      mul_inv_cancel_right₀ (by norm_num), zpow_natCast]
  · rename_i before
    have count : 0 < digits.length := List.length_pos_of_ne_nil some
    split
    · rename_i positive
      convert shows_pointed (digits.take point.toNat) (digits.drop point.toNat) ?_ ?_ ?_ using 1
      · rw [List.take_append_drop, List.length_drop]
        congr 2
        omega
      · rw [Ne, List.take_eq_nil_iff]
        rintro (zero | nothing)
        · omega
        · exact some nothing
      · exact fun c among => each c (List.mem_of_mem_take among)
      · exact fun c among => each c (List.mem_of_mem_drop among)
    · convert shows_pointed ['0'] (List.replicate (-point).toNat '0' ++ digits) nofun
        (zeros_isDigit 1) (List.forall_mem_append.mpr ⟨zeros_isDigit _, each⟩) using 1
      rw [← List.append_assoc, show ['0'] ++ List.replicate (-point).toNat '0' =
        List.replicate ((-point).toNat + 1) '0' from rfl, Text.decimal_zeros_append,
        List.length_append, List.length_replicate]
      congr 2
      omega

theorem shows_scientific (layout : Layout) (number : Scientific) :
    Shows (layout.scientific number).toList number.value := by
  have value : number.value = Text.decimal (Nat.toDigits 10 number.digits) *
      10 ^ (((Nat.toDigits 10 number.digits).length : Int) + number.exponent -
        (Nat.toDigits 10 number.digits).length) := by
    rw [Text.decimal_toDigits, add_sub_cancel_left]
    rfl
  unfold Layout.scientific
  rw [toList_toString, value]
  have each := digits_toDigits number.digits
  have some : Nat.toDigits 10 number.digits ≠ [] := Nat.toDigits_ne_nil
  generalize Nat.toDigits 10 number.digits = digits at each some
  dsimp only
  generalize (digits.length : Int) + number.exponent = point
  split
  · exact shows_plain some each point
  · obtain ⟨first, others, rfl⟩ := List.exists_cons_of_ne_nil some
    have ends := ends_exponent layout (point - 1)
    have front : ∀ c ∈ [first], c.isDigit = true :=
      fun c among => each c (List.mem_cons.mpr (.inl (List.mem_singleton.mp among)))
    split
    · rename_i single
      obtain rfl : others = [] := List.length_eq_zero_iff.mp (by simpa using single)
      refine ⟨[first], point - 1, ?_, by simp⟩
      rw [String.toList_append, String.toList_append, String.toList_ofList]
      exact .unpointed nofun front ends
    · refine ⟨first :: others, point - 1 - others.length, ?_, ?_⟩
      · rw [String.toList_append, String.toList_append, String.toList_append,
          String.toList_ofList, String.toList_ofList (l := (first :: others).drop 1),
          List.append_assoc, List.append_assoc]
        exact .pointed (show [first] ≠ [] by nofun) each ends
      · rw [List.length_cons]
        congr 2
        omega

end Shows

theorem not_contains_of_digit {text : String} {c : Char} {rest : List Char}
    (same : text.toList = c :: rest) (digit : c.isDigit = true) {names : List String}
    (others : ∀ name ∈ names, name.toList.head?.any Char.isDigit = false) :
    names.contains text = false := by
  rw [← Bool.not_eq_true, List.contains_iff_mem]
  intro among
  have other := others text among
  rw [same] at other
  simp [digit] at other

theorem double?_unsigned {text : String} {c : Char} {rest : List Char}
    (same : text.toList = c :: rest) (digit : c.isDigit = true) :
    double? text = unsignedDouble? false text.toList := by
  obtain ⟨plus, minus⟩ := not_sign_of_isDigit digit
  unfold double?
  rw [not_contains_of_digit same digit (by decide), not_contains_of_digit same digit (by decide),
    not_contains_of_digit same digit (by decide), same]
  simp only [Bool.false_eq_true, if_false]
  split
  · rename_i signed
    exact absurd (List.cons.inj signed).1 minus
  · rename_i signed
    exact absurd (List.cons.inj signed).1 plus
  · rfl

structure Reads (text : String) (x : Binary64) : Prop where
  number : double? text = some x
  first : ∃ c rest, text.toList = c :: rest ∧ c.isDigit = true
  numeric : ∀ c ∈ text.toList, isNumeric c = true

theorem reads_text (layout : Layout) {x : Binary64} {q : ℚ} (measured : x.Measures false q) :
    Reads (layout.text x) x := by
  obtain ⟨mantissa, exponent, rfl, canonical, -⟩ := measured
  by_cases zero : mantissa = 0
  · subst zero
    obtain rfl : exponent = -1074 := canonical.full.resolve_left (by decide)
    have written : layout.text (.finite false 0 (-1074)) = "0.0" := by simp [Layout.text]
    rw [written]
    exact ⟨by decide +kernel, ⟨'0', ['.', '0'], rfl, rfl⟩,
      List.all_eq_true.mp (by decide +kernel)⟩
  · have written : layout.text (.finite false mantissa exponent) =
        layout.scientific (Decimal.shortest mantissa exponent) := by
      unfold Layout.text
      dsimp only
      rw [if_neg zero]
      rfl
    obtain ⟨digits, k, spells, value⟩ :=
      shows_scientific layout (Decimal.shortest mantissa exponent)
    have surrounds := value ▸ Decimal.shortest_surrounds canonical zero
    rw [written]
    obtain ⟨c, rest, same, digit⟩ := spells.digit_first
    refine ⟨?_, ⟨c, rest, same, digit⟩, spells.numeric⟩
    rw [double?_unsigned same digit, unsignedDouble?_of_spells false spells,
      nearest?_of_surrounds false canonical zero spells.each surrounds]

end Yaml

end InstanceBroker
