import AbiTypings.Text.Alphanumeric
import AbiTypings.Text.CaseMapping
import AbiTypings.Text.LetterCase

/-!
# Upper camel case

A text is cut into pieces at every character that is neither a letter nor a number. A piece is cut
into words where its case changes: after a character in lower case that is followed by an upper case
letter (`fooBar`), and before the last of several upper case letters that is followed by a lower
case one (`HTTPServer`). Characters without case take the case of what stands before them in the
word. Each word is then written with a capital first letter and the rest in lower case, and the
words are joined with nothing between them.
-/

namespace AbiTypings.Text

/-- The case of the word read so far: that of its last cased letter. -/
inductive WordCase where
  | start
  | lower
  | upper
  deriving DecidableEq

/-- The case of the word after one more character. -/
def WordCase.next (before : WordCase) (c : Char) : WordCase :=
  if isLower c then .lower else if isUpper c then .upper else before

/-- Cut a piece into words. `word` holds the current word, last character first. -/
def splitWords (mode : WordCase) (word : List Char) : List Char → List (List Char)
  | [] => if word.isEmpty then [] else [word.reverse]
  | [c] => [(c :: word).reverse]
  | c :: d :: rest =>
    if mode.next c = .lower && isUpper d then
      (c :: word).reverse :: splitWords .start [] (d :: rest)
    else if mode = .upper && isUpper c && isLower d then
      word.reverse :: splitWords .start [c] (d :: rest)
    else
      splitWords (mode.next c) (c :: word) (d :: rest)

/-- Cut a text into its pieces, which hold letters and numbers only; some may be empty. `piece`
holds the current piece, last character first. -/
def pieces (piece : List Char) : List Char → List (List Char)
  | [] => [piece.reverse]
  | c :: cs =>
    if isAlphanumeric c then pieces (c :: piece) cs else piece.reverse :: pieces [] cs

/-- Lower-case the tail of a word. A sigma at its end takes its final form. -/
def lowerTail : List Char → List Char
  | [] => []
  | [c] => if c = 'Σ' then ['ς'] else lower c
  | c :: cs => lower c ++ lowerTail cs

/-- A word with a capital first letter and the rest in lower case. -/
def capitalWord : List Char → List Char
  | [] => []
  | c :: cs => upper c ++ lowerTail cs

/-- A text in upper camel case: `uniswap-factory` becomes `UniswapFactory`. -/
def upperCamelCase (s : String) : String :=
  String.ofList (((pieces [] s.toList).flatMap (splitWords .start [])).flatMap capitalWord)

end AbiTypings.Text
