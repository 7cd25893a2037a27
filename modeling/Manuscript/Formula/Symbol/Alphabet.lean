import Manuscript.Formula.Symbol.Basic

/-!
# Alphabets

Letters and digits that mean something else than the plain ones do: bold, script, open and
other alphabets.

* `letterIn?`: a letter in an alphabet that a formula names, such as the `R` of `\mathbb`.
* `lettered?`: the character of a name that is made of an alphabet and a letter, such as
  `BbbR` or `mbfalpha`.
-/

namespace Manuscript.Formula

/-- An alphabet of 26 letters, in two rows that some letters stand outside of. -/
structure Alphabet where
  /-- The place of its capital A. -/
  capitals : Nat
  /-- The place of its small a. -/
  smalls : Nat
  /-- The letters outside the rows. -/
  others : List (Char × Char) := []

namespace Alphabet

/-- The character for a letter in an alphabet. -/
def letter? (a : Alphabet) (c : Char) : Option Char :=
  match a.others.find? fun e => e.1 == c with
  | some e => some e.2
  | none =>
    if c.isUpper then some (Char.ofNat (a.capitals + (c.toNat - 'A'.toNat)))
    else if c.isLower then some (Char.ofNat (a.smalls + (c.toNat - 'a'.toNat)))
    else none

/-- Upright letters. -/
def upright : Alphabet := ⟨0x41, 0x61, []⟩

/-- Bold letters. -/
def bold : Alphabet := ⟨0x1d400, 0x1d41a, []⟩

/-- Slanted letters. -/
def italic : Alphabet := ⟨0x1d434, 0x1d44e, [('h', 'ℎ')]⟩

/-- Bold slanted letters. -/
def boldItalic : Alphabet := ⟨0x1d468, 0x1d482, []⟩

/-- Script letters. -/
def script : Alphabet :=
  ⟨0x1d49c, 0x1d4b6, [('B', 'ℬ'), ('E', 'ℰ'), ('F', 'ℱ'), ('H', 'ℋ'), ('I', 'ℐ'), ('L', 'ℒ'),
    ('M', 'ℳ'), ('R', 'ℛ'), ('e', 'ℯ'), ('g', 'ℊ'), ('o', 'ℴ')]⟩

/-- Bold script letters. -/
def boldScript : Alphabet := ⟨0x1d4d0, 0x1d4ea, []⟩

/-- Broken letters. -/
def fraktur : Alphabet :=
  ⟨0x1d504, 0x1d51e, [('C', 'ℭ'), ('H', 'ℌ'), ('I', 'ℑ'), ('R', 'ℜ'), ('Z', 'ℨ')]⟩

/-- Bold broken letters. -/
def boldFraktur : Alphabet := ⟨0x1d56c, 0x1d586, []⟩

/-- Letters with a doubled stroke. -/
def doubleStruck : Alphabet :=
  ⟨0x1d538, 0x1d552, [('C', 'ℂ'), ('H', 'ℍ'), ('N', 'ℕ'), ('P', 'ℙ'), ('Q', 'ℚ'), ('R', 'ℝ'),
    ('Z', 'ℤ')]⟩

/-- Letters without serifs. -/
def sans : Alphabet := ⟨0x1d5a0, 0x1d5ba, []⟩

/-- Bold letters without serifs. -/
def boldSans : Alphabet := ⟨0x1d5d4, 0x1d5ee, []⟩

/-- Slanted letters without serifs. -/
def italicSans : Alphabet := ⟨0x1d608, 0x1d622, []⟩

/-- Bold slanted letters without serifs. -/
def boldItalicSans : Alphabet := ⟨0x1d63c, 0x1d656, []⟩

/-- Letters of one width. -/
def typewriter : Alphabet := ⟨0x1d670, 0x1d68a, []⟩

end Alphabet

/-- The alphabets that a command with a letter calls, by the end of the command. -/
def alphabets : List (String × Alphabet) :=
  [("rm", .upright), ("bf", .bold), ("it", .italic), ("bfit", .boldItalic), ("cal", .script),
   ("frak", .fraktur), ("bb", .doubleStruck), ("sf", .sans), ("sfbf", .boldSans),
   ("sfit", .italicSans), ("sfbfit", .boldItalicSans), ("tt", .typewriter)]

/-- A letter in an alphabet, which is given by its name. -/
def letterIn? (alphabet : String) (c : Char) : Option Char :=
  (alphabets.find? fun e => e.1 == alphabet).bind fun e => e.2.letter? c

/-! ## Names made of an alphabet and a letter -/

/-- The starts of names for the letters of alphabets. -/
def letterStarts : List (String × Alphabet) :=
  [("mbf", .bold), ("mit", .italic), ("mbfit", .boldItalic), ("mscr", .script),
   ("mbfscr", .boldScript), ("mfrak", .fraktur), ("mbffrak", .boldFraktur),
   ("Bbb", .doubleStruck), ("msans", .sans), ("mbfsans", .boldSans), ("mitsans", .italicSans),
   ("mbfitsans", .boldItalicSans), ("mtt", .typewriter)]

/-- The starts of names for digits, with the place of zero. -/
def digitStarts : List (String × Nat) :=
  [("mbf", 0x1d7ce), ("Bbb", 0x1d7d8), ("msans", 0x1d7e2), ("mbfsans", 0x1d7ec), ("mtt", 0x1d7f6)]

/-- The starts of names for Greek letters, with the place of the capital alpha. -/
def greekStarts : List (String × Nat) :=
  [("mbf", 0x1d6a8), ("mit", 0x1d6e2), ("mbfit", 0x1d71c), ("mbfsans", 0x1d756),
   ("mbfitsans", 0x1d790)]

/-- The names of the digits. -/
def digitNames : List String :=
  ["zero", "one", "two", "three", "four", "five", "six", "seven", "eight", "nine"]

/-- The names of Greek letters, in the order in which they stand in an alphabet. -/
def greekNames : List String :=
  ["Alpha", "Beta", "Gamma", "Delta", "Epsilon", "Zeta", "Eta", "Theta", "Iota", "Kappa", "Lambda",
   "Mu", "Nu", "Xi", "Omicron", "Pi", "Rho", "varTheta", "Sigma", "Tau", "Upsilon", "Phi", "Chi",
   "Psi", "Omega", "nabla", "alpha", "beta", "gamma", "delta", "epsilon", "zeta", "eta", "theta",
   "iota", "kappa", "lambda", "mu", "nu", "xi", "omicron", "pi", "rho", "varsigma", "sigma", "tau",
   "upsilon", "varphi", "chi", "psi", "omega", "partial", "varepsilon", "vartheta", "varkappa",
   "phi", "varrho", "varpi"]

/-- What follows a start of a name. -/
def nameAfter? (start name : String) : Option String :=
  if start.toList.isPrefixOf name.toList then
    some (String.ofList (name.toList.drop start.length))
  else none

/-- The character of a name that is a start and the name of one in a row of characters. -/
def rowed? (starts : List (String × Nat)) (names : List String) (name : String) : Option Char :=
  starts.findSome? fun (start, place) => do
    let i ← names.idxOf? (← nameAfter? start name)
    some (Char.ofNat (place + i))

/-- The character of a name that is made of an alphabet and a letter or a digit. -/
def lettered? (name : String) : Option Char :=
  let latin := letterStarts.findSome? fun (start, alphabet) => do
    match (← nameAfter? start name).toList with
    | [c] => alphabet.letter? c
    | _ => none
  latin <|> rowed? digitStarts digitNames name <|> rowed? greekStarts greekNames name

end Manuscript.Formula
