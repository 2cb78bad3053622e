/-!
# Errors

What can go wrong, as the library reports it: the kind of an error, its text, how severe it is, and
what to do about it.
-/

namespace QuizBank

/-- An error. -/
inductive Error
  | invalidTemplate (template reason : String)
  | invalidParamSpec (param reason : String)
  | samplingExhausted (param : String) (attempts : Nat)
  | unsafeExpression (expression reason : String)
  | evaluation (expression message : String)
  | unsatisfiable (template seed : String) (attempts : Nat) (lastFailure : Option String)
  | io (message : String)
  | serialization (message : String)
  | bank (file message : String)
  | config (field message : String)
  | configValue (field value reason : String)
  | missingConfig (field : String)
  | task (message : String)
  deriving DecidableEq

/-- The part of the program that an error belongs to. -/
inductive ErrorCategory
  | template
  | expression
  | storage
  | configuration
  | runtime
  deriving DecidableEq

/-- How severe an error is. -/
inductive Severity
  | low
  | medium
  | high
  | critical
  deriving DecidableEq

/-- The name of a category. -/
def ErrorCategory.name : ErrorCategory → String
  | template => "Template"
  | expression => "Expression"
  | storage => "Storage"
  | configuration => "Configuration"
  | runtime => "Runtime"

/-- The name of a severity. -/
def Severity.name : Severity → String
  | low => "Low"
  | medium => "Medium"
  | high => "High"
  | critical => "Critical"

/-- The exit code of a run that ends with an error of this severity. -/
def Severity.exitCode : Severity → Nat
  | low => 0
  | medium => 2
  | high => 1
  | critical => 3

namespace Error

/-- The name of the kind of an error, for reports. -/
def kind : Error → String
  | invalidTemplate .. => "InvalidTemplate"
  | invalidParamSpec .. => "InvalidParamSpec"
  | samplingExhausted .. => "SamplingExhausted"
  | unsafeExpression .. => "UnsafeExpression"
  | evaluation .. => "EvaluationError"
  | unsatisfiable .. => "Unsatisfiable"
  | io .. => "IoError"
  | serialization .. => "SerializationError"
  | bank .. => "BankError"
  | config .. => "ConfigValidationError"
  | configValue .. => "InvalidConfigValue"
  | missingConfig .. => "MissingConfig"
  | task .. => "TaskError"

/-- The text of an error. -/
def message : Error → String
  | invalidTemplate template reason => "Template '" ++ template ++ "' is invalid: " ++ reason
  | invalidParamSpec param reason => "Invalid param spec for '" ++ param ++ "': " ++ reason
  | samplingExhausted param attempts =>
    "Could not sample param '" ++ param ++ "' after " ++ Nat.repr attempts ++
      " attempts (exclusion set too restrictive)"
  | unsafeExpression expression reason =>
    "Unsafe expression blocked: " ++ expression ++ " (" ++ reason ++ ")"
  | evaluation expression message =>
    "Failed to evaluate '" ++ expression ++ "': " ++ message
  | unsatisfiable template seed attempts _ =>
    "Template '" ++ template ++ "' not satisfiable after " ++ Nat.repr attempts ++
      " attempts (seed '" ++ seed ++ "')"
  | io message => "IO error: " ++ message
  | serialization message => "Serialization error: " ++ message
  | bank file message => "Bank file '" ++ file ++ "' is invalid: " ++ message
  | config field message =>
    "Configuration validation failed for '" ++ field ++ "': " ++ message
  | configValue field value reason =>
    "Invalid value '" ++ value ++ "' for '" ++ field ++ "': " ++ reason
  | missingConfig field => "Missing required configuration: " ++ field
  | task message => "Worker task failed: " ++ message

/-- The category of an error. -/
def category : Error → ErrorCategory
  | invalidTemplate .. => .template
  | invalidParamSpec .. => .template
  | samplingExhausted .. => .template
  | unsatisfiable .. => .template
  | unsafeExpression .. => .expression
  | evaluation .. => .expression
  | io .. => .storage
  | serialization .. => .storage
  | bank .. => .storage
  | config .. => .configuration
  | configValue .. => .configuration
  | missingConfig .. => .configuration
  | task .. => .runtime

/-- The severity of an error. What another draw may mend is no more than medium. -/
def severity : Error → Severity
  | samplingExhausted .. => .medium
  | evaluation .. => .medium
  | io .. => .critical
  | serialization .. => .critical
  | task .. => .critical
  | _ => .high

/-- What to do about an error. -/
def suggestion : Error → String
  | invalidTemplate .. => "Every template needs a `stem` and an `answer`"
  | invalidParamSpec param _ =>
    "Give param '" ++ param ++ "' either a non-empty `values` list or numeric `min`/`max` bounds"
  | samplingExhausted param _ =>
    "Widen the range of '" ++ param ++ "' or shrink its `exclude` list"
  | unsafeExpression .. =>
    "Remove braces, brackets, semicolons and host references from the expression"
  | evaluation .. => "Check identifiers and Math.* function names used by the expression"
  | unsatisfiable _ _ _ (some cause) =>
    "Relax the template constraints or parameter ranges (last rejection: " ++ cause ++ ")"
  | unsatisfiable _ _ _ none => "Relax the template constraints or parameter ranges"
  | io .. => "Check that the file exists and is readable"
  | serialization .. => "Make sure the bank file is a JSON array of \x7bid, template\x7d entries"
  | bank .. => "Make sure the bank file is a JSON array of \x7bid, template\x7d entries"
  | config .. => "Review the configuration file and command line flags"
  | configValue .. => "Review the configuration file and command line flags"
  | missingConfig .. => "Review the configuration file and command line flags"
  | task .. => "Re-run with a lower --concurrency"

/-- The text of an error for a reader at a terminal. -/
def friendly : Error → String
  | unsatisfiable template _ attempts _ =>
    "Template '" ++ template ++ "' could not produce a valid item in " ++ Nat.repr attempts ++
      " attempts"
  | io message => "File access failed: " ++ message
  | e => e.message

/-- Does the error only end the attempt in which it arises? -/
def isAttemptLocal : Error → Bool
  | samplingExhausted .. => true
  | evaluation .. => true
  | _ => false

end Error
end QuizBank
