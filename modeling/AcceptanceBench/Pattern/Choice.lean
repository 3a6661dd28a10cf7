import AcceptanceBench.Pattern.Expression

/-!
Alternatives made simpler as they are read. What all of them begin with stands once before them, and
alternatives of a single character each become one set.
-/

namespace AcceptanceBench.Pattern

/-- Whether a part has no parts of its own, so that it can be recognised in other alternatives. -/
def Expression.isSimple : Expression → Bool
  | .char _ | .otherChar _ | .any | .set _ _ | .place _ | .reference _ => true
  | _ => false

/-- What the first alternative and all others begin with, and the alternatives without it. -/
def shareBeginning : (first : List Expression) → (others : List (List Expression)) →
    List Expression × List (List Expression)
  | [], others => ([], [] :: others)
  | e :: rest, others =>
    if e.isSimple && others.all (fun items => items.head? == some e) then
      let (shared, left) := shareBeginning rest (others.map List.tail)
      (e :: shared, left)
    else ([], (e :: rest) :: others)

/-- The members of the set that an alternative of a single character amounts to. -/
def membersOf? : List Expression → Option (List Member)
  | [.char code] => some [.char code]
  | [.set true members] => some members
  | _ => none

/-- The items that some alternatives, of which there is at least one, make. -/
def itemsOfChoice : List (List Expression) → List Expression
  | [] => []
  | [items] => items
  | first :: others =>
    let (shared, left) := shareBeginning first others
    shared ++ [match left.mapM membersOf? with
      | some members => .set true members.flatten.eraseDups
      | none => .ofAlternatives (left.map Expression.ofList)]

end AcceptanceBench.Pattern
