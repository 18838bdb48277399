import SignIn.CharacterName.Aliases
import SignIn.CharacterName.AncientScripts
import SignIn.CharacterName.EastAsianScripts
import SignIn.CharacterName.EasternScripts
import SignIn.CharacterName.FurtherSigns
import SignIn.CharacterName.GeneralSigns
import SignIn.CharacterName.LetterAdditions
import SignIn.CharacterName.MusicAndMathematics
import SignIn.CharacterName.Pictographs
import SignIn.CharacterName.PresentationForms
import SignIn.CharacterName.WesternScripts
import SignIn.CharacterName.WordScripts
import SignIn.Text.Composition

/-!
# Characters by name

Most characters have names of their own, which are known in either case. The unified ideographs are
named by their number and the Korean syllables by their letters; these names are known in capital
letters only. Some other characters are named by their number as well.
-/

namespace SignIn

namespace CharacterName

/-! ## Names by number -/

/-- Characters that are named by their number: the words in front of the number, and the first and
the last code point of each run. -/
structure NumberedNames where
  lead : String
  runs : List (Nat × Nat)

def NumberedNames.covers (names : NumberedNames) (n : Nat) : Bool :=
  names.runs.any fun run => run.1 ≤ n && n ≤ run.2

def unifiedIdeographs : NumberedNames :=
  ⟨"CJK UNIFIED IDEOGRAPH-",
    [(0x3400, 0x4DBF), (0x4E00, 0x9FFF), (0x20000, 0x2A6DF), (0x2A700, 0x2B738), (0x2B740, 0x2B81D),
     (0x2B820, 0x2CEA1), (0x2CEB0, 0x2EBE0), (0x30000, 0x3134A)]⟩

def otherNumbered : List NumberedNames :=
  [⟨"CJK COMPATIBILITY IDEOGRAPH-", [(0xF900, 0xFA6D), (0xFA70, 0xFAD9), (0x2F800, 0x2FA1D)]⟩,
   ⟨"KHITAN SMALL SCRIPT CHARACTER-", [(0x18B00, 0x18CD5)]⟩,
   ⟨"NUSHU CHARACTER-", [(0x1B170, 0x1B2FB)]⟩]

/-- The number of four or five hexadecimal digits, the letters among them capital. -/
def number? (digits : Text) : Option Nat :=
  if (digits.length = 4 || digits.length = 5) && !digits.any CodePoint.isAsciiLower then
    digits.foldl (fun n? c => do return 16 * (← n?) + (← c.hexValue?)) (some 0)
  else none

def NumberedNames.codePoint? (names : NumberedNames) (digits : Text) : Option CodePoint :=
  (number? digits).bind fun n => if names.covers n then CodePoint.ofNat? n else none

/-- The character of a name that ends in a number without needless zeros. -/
def numbered? (name : Text) : Option CodePoint :=
  otherNumbered.findSome? fun names => do
    let digits ← Text.stripStart? names.lead name
    if digits.length = 5 && digits.head? = some (CodePoint.ofChar '0') then none
    else names.codePoint? digits

/-! ## Korean syllables -/

def syllableLead : Text := "HANGUL SYLLABLE "

/-- The names of the letters that a syllable begins with; one of them is not heard. -/
def leadNames : List String :=
  ["G", "GG", "N", "D", "DD", "R", "M", "B", "BB", "S", "SS", "", "J", "JJ", "C", "K", "T", "P",
   "H"]

def vowelNames : List String :=
  ["A", "AE", "YA", "YAE", "EO", "E", "YEO", "YE", "O", "WA", "WAE", "OE", "YO", "U", "WEO", "WE",
   "WI", "YU", "EU", "YI", "I"]

/-- The names of the letters that a syllable ends in, if it does not end in the vowel. -/
def tailNames : List String :=
  ["", "G", "GG", "GS", "N", "NJ", "NH", "D", "L", "LG", "LM", "LB", "LS", "LT", "LP", "LH", "M",
   "B", "BS", "S", "SS", "NG", "J", "C", "K", "T", "P", "H"]

/-- The number of the letter with the longest name that a text begins with, and what follows it. -/
def letter? (names : List String) (t : Text) : Option (Nat × Text) :=
  names.zipIdx.foldl (fun best (name, i) =>
    match Text.stripStart? name t, best with
    | some rest, some (_, shortest) =>
      if rest.length < shortest.length then some (i, rest) else best
    | some rest, none => some (i, rest)
    | none, _ => best) none

/-- The syllable whose letters a text names. -/
def syllable? (t : Text) : Option CodePoint := do
  let (lead, t) ← letter? leadNames t
  let (vowel, t) ← letter? vowelNames t
  let (tail, t) ← letter? tailNames t
  if t = [] then CodePoint.ofNat? (Composition.syllableNumber lead vowel tail) else none

/-! ## All names -/

def listed : List (List NameRun) :=
  [westernScripts, easternScripts, letterAdditions, generalSigns, furtherSigns, eastAsianScripts,
   presentationForms, ancientScripts, wordScripts, musicAndMathematics, pictographs, aliases]

def codePoint? (name : Text) : Option CodePoint :=
  match Text.stripStart? syllableLead name, Text.stripStart? unifiedIdeographs.lead name with
  | some letters, _ => syllable? letters
  | none, some digits => unifiedIdeographs.codePoint? digits
  | none, none =>
    let name := name.toAsciiUpper
    let words := wordsOf name
    (numbered? name).or
      (listed.findSome? fun runs => runs.findSome? fun run => run.codePoint? words)

end CharacterName

end SignIn
