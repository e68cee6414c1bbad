import FacetSearch.Filter.Token.Basic

/-!
Reading tokens off a filter expression. Every text has tokens; what makes no sense is left to the
clauses that are read from them.
-/
namespace FacetSearch.Filter
open Unicode

/-- The operator that a text starts with, and what follows it. -/
def leadingOperator? : List Char → Option (Operator × List Char)
  | '!' :: '=' :: rest => some (.ne, rest)
  | '>' :: '=' :: rest => some (.ge, rest)
  | '<' :: '=' :: rest => some (.le, rest)
  | '=' :: rest => some (.eq, rest)
  | '>' :: rest => some (.gt, rest)
  | '<' :: rest => some (.lt, rest)
  | _ => none

theorem leadingOperator?_length {s rest : List Char} {op : Operator}
    (h : leadingOperator? s = some (op, rest)) : rest.length < s.length := by
  unfold leadingOperator? at h
  split at h <;> cases h <;> simp only [List.length_cons] <;> omega

/-- The token that a single mark is. -/
def mark? : Char → Option Token
  | '(' => some .opening
  | ')' => some .closing
  | ',' => some .comma
  | ':' => some .colon
  | _ => none

/-- Reads a quoted text from behind its opening quote. A backslash takes the next character as it
is, and the end of the input closes the quote. -/
def spanQuoted : List Char → List Char × List Char
  | [] => ([], [])
  | '"' :: rest => ([], rest)
  | ['\\'] => ([], [])
  | '\\' :: c :: rest => (spanQuoted rest).map (c :: ·) id
  | c :: rest => (spanQuoted rest).map (c :: ·) id

theorem spanQuoted_length (s : List Char) : (spanQuoted s).2.length ≤ s.length := by
  fun_induction spanQuoted s <;> simp only [Prod.map, id, List.length_cons, List.length_nil] <;> omega

/-- Reads a word, which a blank, a mark, a quote or an operator ends. -/
def spanWord : List Char → List Char × List Char
  | [] => ([], [])
  | c :: rest =>
    if isBlank c || c == '"' || (mark? c).isSome || (leadingOperator? (c :: rest)).isSome then
      ([], c :: rest)
    else (spanWord rest).map (c :: ·) id

theorem spanWord_length (s : List Char) : (spanWord s).2.length ≤ s.length := by
  fun_induction spanWord s <;> simp only [Prod.map, id, List.length_cons, List.length_nil] <;> omega

/-- The characters of a bare value; colons and operators are among them. -/
def isValueChar (c : Char) : Bool :=
  !isBlank c && c != '(' && c != ')' && c != '"' && c != ','

/-- Reads the tokens of a text. Right after a colon a word is a value, never a keyword or operator.
-/
def scanAfter (afterColon : Bool) : List Char → List Token
  | [] => []
  | c :: rest =>
    if isBlank c then scanAfter afterColon rest
    else match mark? c with
    | some t => t :: scanAfter (t == .colon) rest
    | none =>
      if c = '"' then
        .quoted (.ofList (spanQuoted rest).1) :: scanAfter false (spanQuoted rest).2
      else if afterColon then
        .word (.ofList (c :: rest.takeWhile isValueChar)) ::
          scanAfter false (rest.dropWhile isValueChar)
      else match _h : leadingOperator? (c :: rest) with
      | some (op, after) => .comparison op :: scanAfter false after
      | none => .ofWord (c :: (spanWord rest).1) :: scanAfter false (spanWord rest).2
termination_by s => s.length
decreasing_by
  all_goals simp only [List.length_cons]
  · omega
  · omega
  · have := spanQuoted_length rest
    omega
  · have := Text.length_dropWhile_le isValueChar rest
    omega
  · have := leadingOperator?_length _h
    rw [List.length_cons] at this
    omega
  · have := spanWord_length rest
    omega

/-- The tokens of a filter expression. -/
def scan (s : String) : List Token := scanAfter false s.toList

@[simp] theorem scanAfter_nil (b : Bool) : scanAfter b [] = [] := by
  simp [scanAfter]

end FacetSearch.Filter
