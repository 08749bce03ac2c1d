import InstanceBroker.Config.File
import InstanceBroker.Message.Config
import InstanceBroker.Proofs.Seconds
import InstanceBroker.Proofs.Yaml.Entries
import InstanceBroker.Proofs.Yaml.Number

namespace InstanceBroker

open Yaml (Line Simple Head Piece Place)

namespace Yaml

theorem isSimple_of_isNumeric {c : Char} (numeric : isNumeric c = true) : isSimple c = true := by
  rw [isNumeric, Bool.or_eq_true] at numeric
  rcases numeric with digit | sign
  · rw [isSimple, Char.isAlphanum, digit, Bool.or_true, Bool.true_or]
  · have each : ['.', 'e', '-', '+'].all isSimple = true := by decide
    exact List.all_eq_true.mp each c (List.contains_iff_mem.mp sign)

theorem Reads.simple {text : String} {x : Binary64} (reads : Reads text x) :
    Simple text.toList where
  first := by
    obtain ⟨c, rest, same, digit⟩ := reads.first
    exact ⟨c, rest, same, by rw [Char.isAlphanum, digit, Bool.or_true]⟩
  each c among := isSimple_of_isNumeric (reads.numeric c among)

theorem simple_toString (n : Nat) : Simple (toString n).toList := by
  rw [toList_toString]
  have each := digits_toDigits n
  obtain ⟨c, rest, same⟩ := List.exists_cons_of_ne_nil (Nat.toDigits_ne_nil (b := 10) (n := n))
  rw [same] at each ⊢
  exact ⟨⟨c, rest, rfl, by rw [Char.isAlphanum, each c List.mem_cons_self, Bool.or_true]⟩,
    fun d among => isSimple_of_isNumeric (by rw [isNumeric, each d among, Bool.true_or])⟩

end Yaml

namespace Config

/-- Settings that fit the machine, with durations short enough to be told apart as doubles. -/
structure Writable (config : Config) : Prop where
  queue : config.actionQueueCapacity < 2 ^ 64
  buffer : config.resultBuffer < 2 ^ 64
  ttl : ∀ ttl ∈ config.transactionTtl, ttl.IsShort
  sweep : config.sweepInterval.IsShort

theorem reads_yamlSeconds {duration : Duration} (short : duration.IsShort) :
    Yaml.Reads (yamlSeconds duration) duration.toSeconds := by
  obtain ⟨q, measured, -⟩ := Duration.toSeconds_near short
  exact Yaml.reads_text yamlNumbers measured

def yamlTtl (config : Config) : String := (config.transactionTtl.map yamlSeconds).getD "null"

def Field.line (field : Field) (value : String) : Line := ⟨field.name.toList, value.toList⟩

def lines (config : Config) : List Line :=
  [Field.actionQueueCapacity.line (toString config.actionQueueCapacity),
    Field.resultBuffer.line (toString config.resultBuffer),
    Field.transactionTtl.line config.yamlTtl,
    Field.sweepInterval.line (yamlSeconds config.sweepInterval)]

theorem Field.line_chars (field : Field) (value front : String)
    (named : front = field.name ++ ": ") :
    (front ++ value ++ "\n").toList = (field.line value).chars := by
  rw [named]
  simp [Field.line, Line.chars]

theorem toList_yaml (config : Config) : config.yaml.toList = Yaml.lineChars config.lines := by
  change ("" ++ ("action_queue_capacity: " ++ toString config.actionQueueCapacity ++ "\n") ++
    ("result_buffer: " ++ toString config.resultBuffer ++ "\n") ++
    ("transaction_ttl: " ++ config.yamlTtl ++ "\n") ++
    ("sweep_interval: " ++ yamlSeconds config.sweepInterval ++ "\n")).toList = _
  rw [String.toList_append, String.toList_append, String.toList_append, String.toList_append,
    Field.actionQueueCapacity.line_chars _ "action_queue_capacity: " (by decide),
    Field.resultBuffer.line_chars _ "result_buffer: " (by decide),
    Field.transactionTtl.line_chars _ "transaction_ttl: " (by decide),
    Field.sweepInterval.line_chars _ "sweep_interval: " (by decide)]
  simp [lines, Yaml.lineChars]

theorem Field.simple_name (field : Field) : Simple field.name.toList where
  first := by cases field <;> exact ⟨_, _, rfl, by decide⟩
  each := List.all_eq_true.mp (by cases field <;> decide)

theorem Field.short_name (field : Field) : field.name.toList.length ≤ Yaml.longestKey := by
  cases field <;> decide

theorem Field.line_plain (field : Field) {value : String} (simple : Simple value.toList) :
    (field.line value).Plain := ⟨field.simple_name, field.short_name, simple⟩

theorem simple_yamlTtl {config : Config} (writable : config.Writable) :
    Simple config.yamlTtl.toList := by
  unfold yamlTtl
  cases same : config.transactionTtl with
  | none => exact ⟨⟨'n', ['u', 'l', 'l'], rfl, rfl⟩, List.all_eq_true.mp (by decide)⟩
  | some ttl => exact (reads_yamlSeconds (writable.ttl ttl same)).simple

theorem lines_plain {config : Config} (writable : config.Writable) :
    ∀ line ∈ config.lines, line.Plain := by
  simp only [lines, List.forall_mem_cons]
  exact ⟨Field.line_plain _ (Yaml.simple_toString _), Field.line_plain _ (Yaml.simple_toString _),
    Field.line_plain _ (simple_yamlTtl writable),
    Field.line_plain _ (reads_yamlSeconds writable.sweep).simple, nofun⟩

theorem readNumber_plain {α : Type} (kind : Yaml.NumberKind α) {text : String} {value : α}
    (read : kind.read? text = some value) : readNumber kind (.plain text) = .ok value := by
  simp [readNumber, Head.number, Head.plain, read, Except.mapError]

theorem readNumber_size {n : Nat} (fits : n < 2 ^ 64) :
    readNumber Yaml.size (.plain (toString n)) = .ok n := by
  refine readNumber_plain Yaml.size ?_
  change (Yaml.natural? (toString n).toList).filter (· < pow2 64) = some n
  rw [Yaml.natural?_toString]
  exact Option.filter_eq_some_iff.mpr ⟨rfl, decide_eq_true fits⟩

theorem readDuration_yamlSeconds {duration : Duration} (short : duration.IsShort) :
    readDuration (.plain (yamlSeconds duration)) = .ok duration := by
  rw [readDuration, readNumber_plain Yaml.double (reads_yamlSeconds short).number, ok_bind,
    Duration.ofSeconds?_toSeconds short]
  rfl

theorem isNothing_yamlSeconds {duration : Duration} (short : duration.IsShort) :
    (Head.plain (yamlSeconds duration)).isNothing = .ok false := by
  obtain ⟨c, rest, same, digit⟩ := (reads_yamlSeconds short).first
  have some : (yamlSeconds duration).isEmpty = false := by
    rw [← Bool.not_eq_true, String.isEmpty_iff]
    intro empty
    rw [empty] at same
    cases same
  have other : Yaml.isNull (yamlSeconds duration) = false :=
    Yaml.not_contains_of_digit same digit (by decide)
  rw [Head.plain, Head.isNothing, some, other]
  rfl

section SetField

variable {config : Config}

theorem setField_queue {n : Nat} (fits : n < 2 ^ 64) :
    config.setField (.plain (toString n)) .actionQueueCapacity =
      .ok { config with actionQueueCapacity := n } := by
  change (do
    return { config with
      actionQueueCapacity := ← readNumber Yaml.size (.plain (toString n)) }) = _
  rw [readNumber_size fits]
  rfl

theorem setField_buffer {n : Nat} (fits : n < 2 ^ 64) :
    config.setField (.plain (toString n)) .resultBuffer =
      .ok { config with resultBuffer := n } := by
  change (do
    return { config with resultBuffer := ← readNumber Yaml.size (.plain (toString n)) }) = _
  rw [readNumber_size fits]
  rfl

theorem setField_sweep {duration : Duration} (short : duration.IsShort) :
    config.setField (.plain (yamlSeconds duration)) .sweepInterval =
      .ok { config with sweepInterval := duration } := by
  change (do
    return { config with
      sweepInterval := ← readDuration (.plain (yamlSeconds duration)) }) = _
  rw [readDuration_yamlSeconds short]
  rfl

theorem setField_ttl {written : Config} (writable : written.Writable) :
    config.setField (.plain written.yamlTtl) .transactionTtl =
      .ok { config with transactionTtl := written.transactionTtl } := by
  unfold yamlTtl
  cases same : written.transactionTtl with
  | none => rfl
  | some ttl =>
    have short := writable.ttl ttl same
    change (do
      if ← (Head.plain (yamlSeconds ttl)).isNothing.mapError ValueFault.meaning then
        return { config with transactionTtl := none }
      else return { config with
        transactionTtl := some (← readDuration (.plain (yamlSeconds ttl))) }) = _
    rw [isNothing_yamlSeconds short, readDuration_yamlSeconds short]
    rfl

end SetField

theorem readFields_line (start : Place) (ending : Yaml.Error) {config changed : Config}
    {seen : List Field} {field : Field} (unseen : field ∉ seen) {value : String} (number : Nat)
    (rest : List (Piece × Place))
    (set : config.setField (.plain value) field = .ok changed) :
    readFields start ending config seen ((field.line value).pieces number ++ rest) =
      readFields start ending changed (field :: seen) rest := by
  have named : Field.ofName? field.name = some field := by cases field <;> decide
  have key : String.ofList field.name.toList = field.name := String.ofList_toList
  have head : String.ofList value.toList = value := String.ofList_toList
  change readFields start ending config seen
    ((.node (.scalar (String.ofList field.name.toList) .plain none), ⟨number, 0⟩) ::
      (.node (.scalar (String.ofList value.toList) .plain none),
        ⟨number, field.name.toList.length + 2⟩) :: rest) = _
  rw [key, head, readFields]
  · have set : config.setField (.scalar value .plain none) field = .ok changed := set
    simp only [keyOf, ok_bind, named, unseen, if_false, nodeOf, set]
  · rintro ⟨⟩

theorem ofDocument_lines {config : Config} (writable : config.Writable) :
    ofDocument ⟨(.node .map, {}) :: Yaml.linePieces 0 config.lines, none, false⟩ =
      .ok config := by
  have read (ending : Yaml.Error) :
      readFields {} ending {} [] (Yaml.linePieces 0 config.lines) = .ok config := by
    refine (readFields_line {} ending List.not_mem_nil 0 _ (setField_queue writable.queue)).trans ?_
    refine (readFields_line {} ending (by decide) 1 _ (setField_buffer writable.buffer)).trans ?_
    refine (readFields_line {} ending (by decide) 2 _ (setField_ttl writable)).trans ?_
    refine (readFields_line {} ending (by decide) 3 _ (setField_sweep writable.sweep)).trans ?_
    change readFields {} ending config _ [(.close, ⟨4, 0⟩)] = _
    rw [readFields]
  unfold ofDocument
  dsimp only [nodeOf]
  rw [read]
  rfl

theorem ofYaml_yaml {config : Config} (writable : config.Writable)
    (valid : config.validate = .ok config) : ofYaml config.yaml = .ok config := by
  have document : Yaml.Document.ofText config.yaml =
      ⟨(.node .map, {}) :: Yaml.linePieces 0 config.lines, none, false⟩ :=
    Yaml.Document.ofText_lines (toList_yaml config) (lines_plain writable)
  rw [ofYaml, document, ofDocument_lines writable]
  exact valid

theorem fromUTF8?_toUTF8 (text : String) : String.fromUTF8? text.toUTF8 = some text := by
  unfold String.fromUTF8?
  split
  · rfl
  · rename_i invalid
    exact absurd text.isValidUTF8 invalid

end Config

/-- Durations of less than `2 ^ 23` seconds survive being written as doubles, and so does a valid
configuration with such durations, as a text and as a file. -/
theorem configuration_survives :
    (∀ duration : Duration, duration.IsShort →
        Duration.ofSeconds? duration.toSeconds = .ok duration) ∧
      ∀ config : Config, config.Writable → config.validate = .ok config →
        Config.ofYaml config.yaml = .ok config ∧
          Config.ofFile (.bytes config.yaml.toUTF8) = .ok config := by
  refine ⟨fun duration short => Duration.ofSeconds?_toSeconds short,
    fun config writable valid => ⟨Config.ofYaml_yaml writable valid, ?_⟩⟩
  rw [Config.ofFile, Config.fromUTF8?_toUTF8]
  exact Config.ofYaml_yaml writable valid

def Config.extreme : Config where
  transactionTtl := some ⟨2 ^ 23 * Duration.nanosPerSecond - 1⟩
  sweepInterval := ⟨1⟩

theorem configuration_survives_extreme :
    Duration.IsShort ⟨2 ^ 23 * Duration.nanosPerSecond - 1⟩ ∧
      Duration.ofSeconds? (Duration.toSeconds ⟨2 ^ 23 * Duration.nanosPerSecond - 1⟩) =
        .ok ⟨2 ^ 23 * Duration.nanosPerSecond - 1⟩ ∧
      Config.extreme.Writable ∧ Config.extreme.validate = .ok Config.extreme ∧
      Config.ofYaml Config.extreme.yaml = .ok Config.extreme ∧
      Config.ofFile (.bytes Config.extreme.yaml.toUTF8) = .ok Config.extreme := by
  have writable : Config.extreme.Writable :=
    ⟨by decide, by decide, by rintro _ ⟨⟩; decide, by decide⟩
  have valid : Config.extreme.validate = .ok Config.extreme := rfl
  obtain ⟨durations, configurations⟩ := configuration_survives
  exact ⟨by decide, durations _ (by decide), writable, valid, configurations _ writable valid⟩

end InstanceBroker
