/-!
The names of Hangul syllables. A name spells the syllable: a leading consonant, which may be silent,
a vowel, and a trailing consonant, which may be missing.
-/

namespace AcceptanceBench.Text.Name

/-- The leading consonants, in the order of the syllables. -/
def leads : List String :=
  ["G", "GG", "N", "D", "DD", "R", "M", "B", "BB", "S", "SS", "", "J", "JJ", "C", "K", "T", "P",
    "H"]

/-- The vowels, in the order of the syllables. -/
def vowels : List String :=
  ["A", "AE", "YA", "YAE", "EO", "E", "YEO", "YE", "O", "WA", "WAE", "OE", "YO", "U", "WEO", "WE",
    "WI", "YU", "EU", "YI", "I"]

/-- The trailing consonants, in the order of the syllables. -/
def trails : List String :=
  ["", "G", "GG", "GS", "N", "NJ", "NH", "D", "L", "LG", "LM", "LB", "LS", "LT", "LP", "LH", "M",
    "B", "BS", "S", "SS", "NG", "J", "C", "K", "T", "P", "H"]

/-- The place of the longest letter that begins a spelling, and what follows it. -/
def takeLetter (letters : List String) (spelling : List Char) : Option (Nat × List Char) :=
  let fitting := letters.zipIdx.filter fun (letter, _) => letter.toList.isPrefixOf spelling
  let longest := fitting.foldl (fun best next =>
    match best with
    | some (letter, _) => if letter.length < next.1.length then some next else best
    | none => some next) none
  longest.map fun (letter, place) => (place, spelling.drop letter.length)

/-- The code point of the first syllable. -/
def firstSyllable : Nat := 0xAC00

/-- The code point of a spelled syllable. -/
def syllable? (spelling : List Char) : Option Nat := do
  let (lead, rest) ← takeLetter leads spelling
  let (vowel, rest) ← takeLetter vowels rest
  let (trail, rest) ← takeLetter trails rest
  if rest.isEmpty then
    some (firstSyllable + (lead * vowels.length + vowel) * trails.length + trail)
  else none

end AcceptanceBench.Text.Name
