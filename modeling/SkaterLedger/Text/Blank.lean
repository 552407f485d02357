/-!
# Blanks

The characters with Unicode's `White_Space` property, and what lines and words are made of them:
trimming, the words of a text, the lines of a document. Texts are lists of characters here, so that
every function recurses on its argument.
-/

namespace SkaterLedger.Text

/-- Whether a character has the property `White_Space`. -/
def isBlank (c : Char) : Bool :=
  let n := c.toNat
  (0x09 ≤ n && n ≤ 0x0D) || n == 0x20 || n == 0x85 || n == 0xA0 || n == 0x1680 ||
    (0x2000 ≤ n && n ≤ 0x200A) || n == 0x2028 || n == 0x2029 || n == 0x202F || n == 0x205F ||
    n == 0x3000

/-- A text without its leading blanks. -/
def trimStart (cs : List Char) : List Char := cs.dropWhile isBlank

/-- A text without its trailing blanks. -/
def trimEnd (cs : List Char) : List Char := (cs.reverse.dropWhile isBlank).reverse

/-- A text without the blanks at either end. -/
def trim (cs : List Char) : List Char := trimEnd (trimStart cs)

/-- Whether a text consists of blanks only. -/
def allBlank (cs : List Char) : Bool := cs.all isBlank

/-- The words of a text: its longest runs of characters that are not blank. -/
def words (cs : List Char) : List (List Char) :=
  (cs.splitOnP isBlank).filter fun w => !w.isEmpty

/-- A text cut at its first blank, which belongs to neither part; `none` without a blank. -/
def cutAtBlank (cs : List Char) : Option (List Char × List Char) :=
  match cs.dropWhile fun c => !isBlank c with
  | [] => none
  | _ :: rest => some (cs.takeWhile fun c => !isBlank c, rest)

/-- A line without the carriage return that may end it. -/
def dropReturn : List Char → List Char
  | [] => []
  | ['\r'] => []
  | c :: cs => c :: dropReturn cs

/-- The lines of a text, given the characters of the current line so far in reverse. A line feed
ends a line and takes a carriage return before it along; text after the last line feed is a line
only if there is any. -/
def linesFrom (acc : List Char) : List Char → List (List Char)
  | [] => if acc.isEmpty then [] else [acc.reverse]
  | '\n' :: cs => dropReturn acc.reverse :: linesFrom [] cs
  | c :: cs => linesFrom (c :: acc) cs

/-- The lines of a text, without their line ends. -/
def lines (cs : List Char) : List (List Char) := linesFrom [] cs

/-- A string without the blanks at either end. -/
def trimmed (s : String) : String := String.ofList (trim s.toList)

end SkaterLedger.Text
