import LivePipeline.Node.Plain
import LivePipeline.Url.Host

/-! Why an operation cannot give a result. -/

namespace LivePipeline

/-- What an operation asked for. -/
inductive Wanted where
  | numeric | integer | string | boolean | array | object | operation | anInstance
  | date | url | httpClient | promise

def Wanted.phrase : Wanted → String
  | numeric => "numeric argument"
  | integer => "integer argument"
  | string => "string argument"
  | boolean => "boolean argument"
  | array => "array argument"
  | object => "object argument"
  | operation => "operation argument"
  | anInstance => "instance argument"
  | date => "a Date"
  | url => "a URL"
  | httpClient => "an Http client"
  | promise => "a Promise"

inductive Failure where
  | missingArguments (operation : String) (count : Nat)
  | missingBranches (operation : String) (count : Nat)
  | unexpected (operation : String) (wanted : Wanted) (found : Data)
  | divisionByZero
  | moduloByZero
  | unboundedRange (operation : String)
  | rangeTooLarge (operation : String)
  | digitsOutOfRange (operation : String)
  | negativeCount (operation : String) (count : Int)
  | resultTooLarge (operation : String)
  | notANumber (text : String)
  | invalidJson
  | invalidPattern (operation : String) (detail : String)
  | invalidDate (text : String)
  | invalidUrl (text : String) (cause : Url.ParseError)
  | dayCountOutOfRange (operation : String)
  | dateOutOfRange (operation : String)
  | notConstructible (className : String)
  | noTransport
  | comparatorFailed (operation : String)
  /-- A failure that a promise, an extension or a transport reports in its own words. -/
  | reported (reason : String)

namespace Failure

def message : Failure → String
  | missingArguments operation count =>
    "`" ++ operation ++ "` expects " ++ toString count ++ (if count = 1 then " argument" else " arguments")
  | missingBranches operation count => "`" ++ operation ++ "` expects " ++ toString count ++ " arguments"
  | unexpected operation wanted found =>
    "`" ++ operation ++ "` expects " ++ wanted.phrase ++ ". Got `" ++ found.display ++ "` instead"
  | divisionByZero => "Division by zero"
  | moduloByZero => "Modulo by zero"
  | unboundedRange operation => "`" ++ operation ++ "` expects finite bounds"
  | rangeTooLarge operation => "`" ++ operation ++ "` range is too large"
  | digitsOutOfRange operation => "`" ++ operation ++ "` digits must be between 0 and 100"
  | negativeCount operation count =>
    "`" ++ operation ++ "` expects a non-negative count. Got `" ++ toString count ++ "` instead"
  | resultTooLarge operation => "`" ++ operation ++ "` result is too large"
  | notANumber text => "`" ++ text ++ "` is not a valid number"
  | invalidJson => "text is not valid JSON"
  | invalidPattern operation detail => "`" ++ operation ++ "` received an invalid pattern: " ++ detail
  | invalidDate text => "`" ++ text ++ "` is not a valid date"
  | invalidUrl text cause => "`" ++ text ++ "` is not a valid URL: " ++ cause.message
  | dayCountOutOfRange operation => "`" ++ operation ++ "` received an out of range day count"
  | dateOutOfRange operation => "`" ++ operation ++ "` produced a date out of range"
  | notConstructible className => "cannot construct an instance of `" ++ className ++ "`"
  | noTransport => "no HTTP transport is configured"
  | comparatorFailed operation => "`" ++ operation ++ "` comparator failed"
  | reported reason => reason

end Failure

end LivePipeline
