/-
OpBindings.Code.Literal — a text as a string literal of the generated code.
-/

namespace OpBindings.Code

/-- The characters of a literal: a quote and a backslash are escaped. -/
def literalChars : List Char → List Char
  | [] => []
  | c :: cs =>
    if c = '"' || c = '\\' then '\\' :: c :: literalChars cs else c :: literalChars cs

/-- The literal of a text. -/
def literal (text : String) : String :=
  "\"" ++ String.ofList (literalChars text.toList) ++ "\""

end OpBindings.Code
