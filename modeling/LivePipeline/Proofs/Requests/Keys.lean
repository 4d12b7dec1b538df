import LivePipeline.Evaluation.Call
import LivePipeline.Json.Parser

/-! The texts under which responses are remembered. A text that was written as JSON is read back, whatever
stands behind it, so no two requests of clients share a key. -/

namespace LivePipeline

/-! ## Reading written texts -/

namespace Json

theorem hexValue?_hexDigit (n : Nat) : Text.hexValue? (hexDigit n) = some (n % 16) := by
  have all : ∀ digit : Fin 16, Text.hexValue? (Nat.digitChar digit.val) = some digit.val := by decide
  exact all ⟨n % 16, Nat.mod_lt n (by decide)⟩

/-- A control character is read from its number. -/
theorem advance_control {c : Char} (control : c.toNat < 32) (done : List Char) (tokens : List Token) :
    ['\\', 'u', '0', '0', hexDigit (c.toNat / 16), hexDigit c.toNat].foldlM advance? (.text done, tokens)
      = some (.text (c :: done), tokens) := by
  have zero : Text.hexValue? '0' = some 0 := by decide
  have value : c.toNat / 16 % 16 * 16 + c.toNat % 16 = c.toNat := by omega
  have high : ¬ (0xD800 ≤ c.toNat) := by omega
  have low : ¬ (0xDC00 ≤ c.toNat) := by omega
  simp [advance?, hexValue?_hexDigit, zero, value, closeUnit?, high, low]

theorem advance_escaped (c : Char) (done : List Char) (tokens : List Token) :
    (escaped c).foldlM advance? (.text done, tokens) = some (.text (c :: done), tokens) := by
  unfold escaped
  split
  case h_8 noQuote noSlash _ _ _ _ _ =>
    split
    · next control => exact advance_control control done tokens
    · next printable => simp_all [advance?]
  all_goals rfl

theorem advance_quoted (text : String) (rest : List Char) (tokens : List Token) :
    ((quoted text).toList ++ rest).foldlM advance? (.blank, tokens) = rest.foldlM advance? (.blank, .text text :: tokens) := by
  have inside (cs done : List Char) :
      (cs.foldr (fun c behind => escaped c ++ behind) ['"'] ++ rest).foldlM advance? (.text done, tokens)
        = rest.foldlM advance? (.blank, .text (String.ofList (done.reverse ++ cs)) :: tokens) := by
    induction cs generalizing done with
    | nil => simp [advance?]
    | cons c cs ih =>
      rw [List.foldr_cons, List.append_assoc, List.foldlM_append, advance_escaped]
      simpa using ih (c :: done)
  rw [quoted, String.toList_ofList, List.cons_append, List.foldlM_cons]
  simpa [advance?, begin?, isBlank, isMark] using inside text.toList []

theorem advance_mark {c : Char} (mark : isMark c = true) (solid : isBlank c = false) (rest : List Char) (tokens : List Token) :
    (c :: rest).foldlM advance? (.blank, tokens) = rest.foldlM advance? (.blank, .mark c :: tokens) := by
  simp [advance?, begin?, mark, solid]

end Json

/-! ## Keys -/

/-- The operation that makes such requests. -/
def Method.operation : Method → String
  | get => "get"
  | post => "post"

/-- The texts that a call gives for a request. -/
def Request.inputs (request : Request) : List String := request.url :: request.body.toList

/-- The client and the inputs of a request as text. -/
def Request.inputText (request : Request) (className : String) : String :=
  (Json.text ("<" ++ className ++ ">")).compact ++ ":" ++ (Json.array (request.inputs.map .text)).compact

/-- The key of a request that a client of the given class makes. -/
def Request.key (request : Request) (className : String) : String :=
  Operation.httpClass ++ "." ++ request.method.operation ++ ":" ++ request.inputText className

namespace Request

/-- The class and the inputs can be read off. -/
theorem advance_inputText (request : Request) (className : String) :
    (request.inputText className).toList.foldlM Json.advance? (.blank, [])
      = some (.blank, .mark ']' :: ((request.body.elim [] fun body => [.text body, .mark ',']) ++
          [.text request.url, .mark '[', .mark ':', .text ("<" ++ className ++ ">")])) := by
  obtain ⟨method, url, body⟩ := request
  have colon := fun rest tokens => Json.advance_mark (c := ':') rfl rfl rest tokens
  have opening := fun rest tokens => Json.advance_mark (c := '[') rfl rfl rest tokens
  have comma := fun rest tokens => Json.advance_mark (c := ',') rfl rfl rest tokens
  have closing := fun tokens => Json.advance_mark (c := ']') rfl rfl [] tokens
  cases body <;>
    simp [inputText, inputs, Json.compact, Json.compactItems, String.intercalate_cons_cons, List.append_assoc, List.cons_append,
      Json.advance_quoted, colon, opening, comma, closing, -List.foldlM_cons, -List.foldlM_append]

/-- No two requests of clients share a key. -/
theorem key_inj {request other : Request} {className otherClass : String}
    (same : request.key className = other.key otherClass) : request = other ∧ className = otherClass := by
  have texts := congrArg String.toList same
  have apart (method : Method) (text : String) :
      (Operation.httpClass ++ "." ++ method.operation ++ ":" ++ text).toList
        = 'H' :: 't' :: 't' :: 'p' :: '.' :: (method.operation.toList ++ ':' :: text.toList) := by
    simp [Operation.httpClass]
  rw [key, key, apart, apart] at texts
  have parts : request.method = other.method ∧ (request.inputText className).toList = (other.inputText otherClass).toList := by
    cases first : request.method <;> cases second : other.method <;> simp_all [Method.operation]
  have read := congrArg (List.foldlM Json.advance? (.blank, [])) parts.2
  rw [advance_inputText, advance_inputText] at read
  obtain ⟨method, url, body⟩ := request
  obtain ⟨method', url', body'⟩ := other
  cases body <;> cases body' <;> simp_all

end Request

end LivePipeline
