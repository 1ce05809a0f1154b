import SqlBridge.Document.Limit
import SqlBridge.Validation

/-!
Failures as causes. The messages of those that have one are given by `Failure.message`.
-/

namespace SqlBridge

/-- Faults of a value of the right shape. -/
inductive ValueFault where
  | notWhole (text : String)
  | tooManyDigits (digits : Nat)
  | noNumber
  | tooFewParts (parts : Nat)
  | tooManyParts
  | entryLength (index length : Nat)
  | unwritable (fault : Document.WriteFault)
  | unknownLevel
  | unknownConversion (c : Char) (index : Nat)
  | incompleteTemplate
  | incompleteTemplateKey
  | widthTooBig
  | precisionTooBig
deriving DecidableEq

/-- Failures of the transport, which are passed on unchanged. -/
inductive TransportFault where
  | connection
  | timeout
  | broken
  | badValue
  | missingKey
  | adapter
deriving DecidableEq

/-- Faults of a command line. -/
inductive UsageFault where
  | missingCommand
  | unknownCommand (name : String) (similar : List String)
  | unknownOption (name : String) (similar : List String)
  | missingValue (option : String)
  | unwantedValue (option : String)
  | missingArgument (name : String)
  | missingOption (name : String)
  | extraArguments (arguments : List String)
  | noFile (option path : String)
  | noPlainFile (option path : String)
  | unreadable (option explanation : String)
  | noObject (option : String)
deriving DecidableEq

inductive Failure where
  | invalid (issues : List Validation.Issue)
  | refused (message : String) (errors : List Value) (sql : Option String)
  | tableNotFound (table : String)
  | emptyUpdate (table : String)
  | transport (fault : TransportFault) (message : String)
  | unreadable (fault : Document.Fault) (text : List Char)
  | invalidAddress (message : String)
  | nonAsciiToken (first last : Nat) (c : Char)
  | closed
  | cancelled
  | interrupted
  | onlyEquality
  | unnamedColumn
  | unnamedTableColumn
  | noColumnName (given : String)
  | bindClash (name : String)
  | missingBind (name : String)
  | missingName (name : String)
  | reservedName (name : String)
  | value (fault : ValueFault)
  | wrongType (explanation : String)
  | noMember
  | rowTooLong
  | overflow
  | markup
  | command (fault : UsageFault)

def TransportFault.label : TransportFault → String
  | .connection => "ConnectError"
  | .timeout => "ReadTimeout"
  | .broken => "RuntimeError"
  | .badValue => "ValueError"
  | .missingKey => "KeyError"
  | .adapter => "AdapterError"

def UsageFault.label : UsageFault → String
  | .missingCommand => "UsageError"
  | .unknownCommand _ _ => "UsageError"
  | .unknownOption _ _ => "NoSuchOption"
  | .missingValue _ => "BadOptionUsage"
  | .unwantedValue _ => "BadOptionUsage"
  | .missingArgument _ => "MissingParameter"
  | .missingOption _ => "MissingParameter"
  | .extraArguments _ => "UsageError"
  | .noFile _ _ => "BadParameter"
  | .noPlainFile _ _ => "BadParameter"
  | .unreadable _ _ => "BadParameter"
  | .noObject _ => "BadParameter"

def UsageFault.message : UsageFault → String
  | .missingCommand => "Missing command."
  | .unknownCommand name [] => "No such command " ++ Text.quoted name ++ "."
  | .unknownCommand name similar =>
    "No such command " ++ Text.quoted name ++ ". Did you mean "
      ++ ", ".intercalate (similar.map Text.quoted) ++ "?"
  | .unknownOption name [] => "No such option: " ++ name
  | .unknownOption name [other] => "No such option: " ++ name ++ " Did you mean " ++ other ++ "?"
  | .unknownOption name similar =>
    "No such option: " ++ name ++ " (Possible options: "
      ++ ", ".intercalate (similar.mergeSort fun a b => a ≤ b) ++ ")"
  | .missingValue option => "Option " ++ Text.quoted option ++ " requires an argument."
  | .unwantedValue option => "Option " ++ Text.quoted option ++ " does not take a value."
  | .missingArgument name => "Missing argument " ++ Text.quoted name ++ "."
  | .missingOption name => "Missing option " ++ Text.quoted name ++ "."
  | .extraArguments arguments =>
    "Got unexpected extra argument(s) (" ++ " ".intercalate arguments ++ ")"
  | .noFile option path =>
    "Invalid value for " ++ Text.quoted option ++ ": file " ++ Text.quoted path
      ++ " does not exist."
  | .noPlainFile option path =>
    "Invalid value for " ++ Text.quoted option ++ ": file " ++ Text.quoted path
      ++ " is a directory."
  | .unreadable option explanation =>
    "Invalid value for " ++ option ++ ": invalid JSON: " ++ explanation
  | .noObject option => "Invalid value for " ++ option ++ ": expected a JSON object"

/-- The length at which a quoted text is cut in the message about a number. -/
def quotedLimit : Nat := 200

def ValueFault.message : ValueFault → String
  | .notWhole text =>
    "invalid literal for int() with base 10: "
      ++ String.ofList ((Text.quoted text).toList.take quotedLimit)
  | .tooManyDigits digits => (Document.Cause.tooManyDigits digits).message
  | .noNumber => "cannot convert float NaN to integer"
  | .tooFewParts parts =>
    "not enough values to unpack (expected 2, got " ++ Decimal.natText parts ++ ")"
  | .tooManyParts => "too many values to unpack (expected 2)"
  | .entryLength index length =>
    "dictionary update sequence element #" ++ Decimal.natText index ++ " has length "
      ++ Decimal.natText length ++ "; 2 is required"
  | .unwritable fault => fault.message
  | .unknownLevel => "Unable to configure handler 'default'"
  | .unknownConversion c index =>
    "unsupported format character '" ++ (if 31 < c.toNat && c.toNat < 127 then String.singleton c
      else "?") ++ "' (0x" ++ String.ofList (Text.hex 1 c.toNat) ++ ") at index "
      ++ Decimal.natText index
  | .incompleteTemplate => "incomplete format"
  | .incompleteTemplateKey => "incomplete format key"
  | .widthTooBig => "width too big"
  | .precisionTooBig => "precision too big"

namespace Failure

def message : Failure → Option String
  | refused message _ _ => some message
  | tableNotFound table => some ("Table " ++ table ++ " not found")
  | emptyUpdate table => some ("Empty update for table " ++ table)
  | transport _ message => some message
  | unreadable fault text => some (fault.message text)
  | invalidAddress message => some message
  | nonAsciiToken first last c =>
    some ("'ascii' codec can't encode " ++
      (if first = last then
        "character '" ++ String.ofList (Text.quotedChar false '"' c) ++ "' in position "
          ++ Decimal.natText first
      else
        "characters in position " ++ Decimal.natText first ++ "-" ++ Decimal.natText last)
      ++ ": ordinal not in range(128)")
  | closed => some "Cannot send a request, as the client has been closed."
  | onlyEquality =>
    some ("Only '=', '!=', 'is_()', 'is_not()', 'is_distinct_from()', 'is_not_distinct_from()' "
      ++ "operators can be used with None/True/False")
  | unnamedColumn => some "Cannot compile Column object until its 'name' is assigned."
  | unnamedTableColumn => some "Can't add unnamed column to column collection"
  | noColumnName given =>
    some ("SET/VALUES column expression or string key expected, got " ++ given ++ ".")
  | bindClash name =>
    some ("Bind parameter '" ++ name ++ "' conflicts with unique bind parameter of the same name")
  | missingBind name => some name
  | missingName name => some name
  | reservedName name => some ("Attempt to overwrite " ++ Text.quoted name ++ " in LogRecord")
  | value fault => some fault.message
  | command fault => some fault.message
  | _ => none

/-- The label of a failure in reports and logs. -/
def label : Failure → String
  | invalid _ => "ValidationError"
  | refused _ _ _ => "RemoteSQLError"
  | tableNotFound _ => "TableNotFoundError"
  | emptyUpdate _ => "AdapterError"
  | transport fault _ => fault.label
  | unreadable fault _ =>
    match fault.cause with
    | .tooManyDigits _ => "ValueError"
    | _ => "JSONDecodeError"
  | invalidAddress _ => "InvalidURL"
  | nonAsciiToken _ _ _ => "UnicodeEncodeError"
  | closed => "RuntimeError"
  | cancelled => "CancelledError"
  | interrupted => "KeyboardInterrupt"
  | onlyEquality => "ArgumentError"
  | unnamedColumn => "CompileError"
  | unnamedTableColumn => "ArgumentError"
  | noColumnName _ => "ArgumentError"
  | bindClash _ => "CompileError"
  | missingBind _ => "KeyError"
  | missingName _ => "KeyError"
  | reservedName _ => "KeyError"
  | value _ => "ValueError"
  | wrongType _ => "TypeError"
  | noMember => "AttributeError"
  | rowTooLong => "IndexError"
  | overflow => "OverflowError"
  | markup => "MarkupError"
  | command fault => fault.label

/-- Whether a failure is an error. Cancellations and interrupts are none, and pass error handlers.
-/
def isError : Failure → Bool
  | cancelled => false
  | interrupted => false
  | _ => true

def explanation : Failure → String
  | wrongType explanation => explanation
  | f => f.message.getD ""

/-- The text of a failure. A missing key is quoted. -/
def text (f : Failure) : String :=
  if f.label = "KeyError" then Text.quoted f.explanation else f.explanation

/-- The description of a failure in the log: its label, with its message between quotes. -/
def described (f : Failure) : String := f.label ++ "(" ++ Text.quoted f.explanation ++ ")"

/-- The failures that a command reports itself; the others leave the program. -/
def isReported : Failure → Bool
  | refused _ _ _ => true
  | tableNotFound _ => true
  | emptyUpdate _ => true
  | transport .adapter _ => true
  | _ => false

end Failure

abbrev Outcome (α : Type) := Except Failure α

/-- A validated datum, or the failure that lists its issues. -/
def ofChecked {α : Type} : Validation.Checked α → Outcome α
  | .ok a => .ok a
  | .error issues => .error (.invalid issues)

end SqlBridge
