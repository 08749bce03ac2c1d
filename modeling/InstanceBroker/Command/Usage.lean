import InstanceBroker.Command.Option

namespace InstanceBroker.Command

def programName : String := "vm-broker-daemon"

def programPurpose : String := "Transaction broker for VM lifecycle operations"

def usage (used : List Flag) : String :=
  let options := if used.isEmpty then ["[OPTIONS]"] else used.map (·.shown)
  "Usage: " ++ " ".intercalate (programName :: options)

def helpIndent : String := "          "

def Setting.heading (setting : Setting) : String :=
  match setting.short? with
  | some c => "  -" ++ c.toString ++ ", " ++ setting.shown
  | none => "      " ++ setting.shown

def bracketed (label value : String) : String := "[" ++ label ++ ": " ++ value ++ "]"

def choicesLabel : String := "possible values"

def Setting.standardNote (setting : Setting) : List String :=
  setting.standard?.toList.map (bracketed "default")

def Setting.notes (setting : Setting) : List String :=
  setting.standardNote ++
    if setting.choices.isEmpty then []
    else [bracketed choicesLabel (", ".intercalate setting.choices)]

def Setting.brief (setting : Setting) : List String :=
  [setting.heading, helpIndent ++ " ".intercalate (setting.purpose :: setting.notes)]

def Setting.explanations : Setting → List String
  | backend => Backend.all.map fun choice => "- " ++ choice.keyword ++ ": " ++ choice.purpose
  | _ => []

def Setting.detailed (setting : Setting) : List String :=
  let standard := setting.standardNote.flatMap fun note => [helpIndent, helpIndent ++ note]
  let choices :=
    if setting.explanations.isEmpty then []
    else "" :: ("Possible values:" :: setting.explanations).map (helpIndent ++ ·)
  setting.heading :: (helpIndent ++ setting.purpose) :: (standard ++ choices) ++ [""]

def helpHeading : String := "  -h, --help"

def help (detailed : Bool) : List String :=
  let options :=
    if detailed then Setting.all.flatMap (·.detailed) else Setting.all.flatMap (·.brief)
  let other := if detailed then "a summary with '-h'" else "more with '--help'"
  [programPurpose, "", usage [], "", "Options:"] ++ options ++
    [helpHeading, helpIndent ++ "Print help (see " ++ other ++ ")"]

def quote (text : String) : String := "'" ++ text ++ "'"

def choicesOf (setting : Setting) : String :=
  if setting.choices.isEmpty then ""
  else "\n  " ++ bracketed choicesLabel (", ".intercalate setting.choices)

def tip (kind : String) (similar : Option String) : String :=
  similar.elim "" fun name => "\n\n  tip: a similar " ++ kind ++ " exists: " ++ quote name

def invalidValue (setting : Setting) (value : String) : ValueProblem → String
  | .number problem => ": " ++ problem.message
  | .outOfRange first last => s!": {value} is not in {first}..={last}"
  | .notChosen => choicesOf setting ++ tip "value" (Text.mostSimilar? value setting.choices)

namespace Refusal

def summary : Refusal → String
  | unexpected argument similar _ =>
    "unexpected argument " ++ quote argument ++ " found" ++
      tip "argument" (similar.map fun flag => "--" ++ flag.long)
  | needless flag value _ =>
    "unexpected value " ++ quote value ++ " for " ++ quote flag.shown ++
      " found; no more were expected"
  | missing setting =>
    "a value is required for " ++ quote setting.shown ++ " but none was supplied" ++
      choicesOf setting
  | repeated setting =>
    "the argument " ++ quote setting.shown ++ " cannot be used multiple times"
  | invalid setting value problem =>
    "invalid value " ++ quote value ++ " for " ++ quote setting.shown ++
      invalidValue setting value problem

/-- The usage belongs to refusals of arguments, not of values. -/
def usage? : Refusal → Option String
  | unexpected _ _ used | needless _ _ used => some (usage used)
  | repeated _ => some (usage [])
  | missing _ | invalid .. => none

def text (refusal : Refusal) : String :=
  "error: " ++ refusal.summary ++ (refusal.usage?.elim "" ("\n\n" ++ ·)) ++
    "\n\nFor more information, try '--help'.\n"

end Refusal

end InstanceBroker.Command
