/-!
Line ends. Devices end a line with carriage return and line feed, scripts with a line feed alone.
-/

namespace AcceptanceBench.Text

/-- Every carriage return and line feed together becomes a line feed; pairs are taken from the left
and nothing else changes. -/
def foldLines : List Char → List Char
  | [] => []
  | '\r' :: '\n' :: rest => '\n' :: foldLines rest
  | c :: rest => c :: foldLines rest

/-- Every line feed becomes carriage return and line feed. -/
def expandLines : List Char → List Char
  | [] => []
  | c :: rest => if c = '\n' then '\r' :: '\n' :: expandLines rest else c :: expandLines rest

/-- Every line end becomes a line feed: the pair, and the carriage return that stands alone. -/
def unifyLines : List Char → List Char
  | [] => []
  | '\r' :: '\n' :: rest => '\n' :: unifyLines rest
  | c :: rest => (if c = '\r' then '\n' else c) :: unifyLines rest

end AcceptanceBench.Text
