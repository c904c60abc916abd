import RoleGate.Text.Basic

/-!
# Names of Hangul syllables

A syllable is named by the Roman letters of its leading consonant, its vowel and its trailing
consonant, any of the consonants perhaps being silent. The syllables stand in the order of these
three.
-/

namespace RoleGate.Text.CharName

/-- The leading consonants. -/
def leads : List String := [
  "G", "GG", "N", "D", "DD", "R", "M", "B", "BB", "S", "SS", "", "J", "JJ", "C", "K", "T", "P", "H"]

/-- The vowels. -/
def vowels : List String := [
  "A", "AE", "YA", "YAE", "EO", "E", "YEO", "YE", "O", "WA", "WAE", "OE", "YO", "U", "WEO", "WE",
  "WI", "YU", "EU", "YI", "I"]

/-- The trailing consonants. -/
def trails : List String := [
  "", "G", "GG", "GS", "N", "NJ", "NH", "D", "L", "LG", "LM", "LB", "LS", "LT", "LP", "LH", "M",
  "B", "BS", "S", "SS", "NG", "J", "C", "K", "T", "P", "H"]

/-- The first syllable. -/
def firstSyllable : Nat := 0xAC00

/-- The ways to begin a text with one of some sounds: the place of the sound and the rest. -/
def beginnings (sounds : List String) (t : Text) : List (Nat × Text) :=
  sounds.zipIdx.filterMap fun (sound, i) => (behind? sound.toList t).map fun rest => (i, rest)

/-- The code point of the syllable with the given Roman letters. -/
def syllable? (letters : Text) : Option Nat :=
  (beginnings leads letters).findSome? fun (lead, rest) =>
    (beginnings vowels rest).findSome? fun (vowel, rest) =>
      (trails.idxOf? (String.ofList rest)).map fun trail =>
        firstSyllable + (lead * vowels.length + vowel) * trails.length + trail

/-- The code point of the syllable with the given name, in capital letters. -/
def syllableNamed? (name : Text) : Option Nat :=
  (behind? "HANGUL SYLLABLE ".toList name).bind syllable?

end RoleGate.Text.CharName
