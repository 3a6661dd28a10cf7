/-!
Values by name, in the order in which the names were first set.
-/

namespace AcceptanceBench

/-- Values by name; no name occurs twice in a table made by these operations. -/
structure Table (β : Type) where
  entries : List (String × β)
  deriving Repr, DecidableEq

namespace Table

variable {β : Type}

/-- The table without entries. -/
def empty : Table β := ⟨[]⟩

/-- The value of a name. -/
def get? (t : Table β) (name : String) : Option β :=
  t.entries.lookup name

/-- Whether the name has a value. -/
def contains (t : Table β) (name : String) : Bool :=
  (t.get? name).isSome

/-- The names, in order. -/
def names (t : Table β) : List String :=
  t.entries.map (·.1)

/-- The entries with the value of one name changed, or with the name added at the end. -/
def alterEntries (name : String) (default : β) (change : β → β) :
    List (String × β) → List (String × β)
  | [] => [(name, change default)]
  | (key, value) :: rest =>
    if key = name then (key, change value) :: rest
    else (key, value) :: alterEntries name default change rest

/-- The table with one value changed; a name that is not there gets a changed default. -/
def alter (t : Table β) (name : String) (default : β) (change : β → β) : Table β :=
  ⟨alterEntries name default change t.entries⟩

/-- Changing one entry changes what is found under its name, and nothing else. -/
theorem lookup_alterEntries (name key : String) (default : β) (change : β → β)
    (entries : List (String × β)) :
    (alterEntries name default change entries).lookup key =
      if key = name then some (change ((entries.lookup name).getD default))
      else entries.lookup key := by
  induction entries with
  | nil =>
    by_cases h : key = name
    · simp [alterEntries, h]
    · simp [alterEntries, h]
  | cons entry rest ih =>
    obtain ⟨other, value⟩ := entry
    by_cases hother : other = name
    · subst hother
      by_cases h : key = other
      · simp [alterEntries, h]
      · simp [alterEntries, h, List.lookup_cons, beq_false_of_ne h]
    · have hne : (name == other) = false := beq_false_of_ne (Ne.symm hother)
      by_cases hkey : key = other
      · subst hkey
        simp [alterEntries, hother]
      · simp [alterEntries, hother, List.lookup_cons, beq_false_of_ne hkey, hne, ih]

/-- What a table holds after one value was changed. -/
theorem get?_alter (t : Table β) (name key : String) (default : β) (change : β → β) :
    (t.alter name default change).get? key =
      if key = name then some (change ((t.get? name).getD default)) else t.get? key :=
  lookup_alterEntries name key default change t.entries

/-- The table with a value set. A name that is there keeps its place. -/
def set (t : Table β) (name : String) (value : β) : Table β :=
  t.alter name value fun _ => value

/-- The table that a list of names and values makes; a later value replaces an earlier one. -/
def ofList (entries : List (String × β)) : Table β :=
  entries.foldl (fun t (name, value) => t.set name value) empty

end Table

end AcceptanceBench
