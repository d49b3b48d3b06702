/-!
# Blanks and line ends

Blanks separate words, and some of them also end a line. A text is trimmed of
blanks at its ends and cut into lines without their ends; a carriage return
followed by a line feed is one end of line.
-/

namespace BeanForge.Text

def isBlank (c : Char) : Bool :=
  let n := c.toNat
  (9 ≤ n && n ≤ 13) || (28 ≤ n && n ≤ 32) || n == 0x85 || n == 0xA0 || n == 0x1680 ||
    (0x2000 ≤ n && n ≤ 0x200A) || n == 0x2028 || n == 0x2029 || n == 0x202F || n == 0x205F ||
    n == 0x3000

def endsLine (c : Char) : Bool :=
  let n := c.toNat
  (10 ≤ n && n ≤ 13) || (28 ≤ n && n ≤ 30) || n == 0x85 || n == 0x2028 || n == 0x2029

def trimLeft (cs : List Char) : List Char :=
  cs.dropWhile isBlank

def trimRight (cs : List Char) : List Char :=
  (cs.reverse.dropWhile isBlank).reverse

def trim (cs : List Char) : List Char :=
  trimRight (trimLeft cs)

def trimmed (s : String) : String :=
  String.ofList (trim s.toList)

/-- The last line counts only when it holds a character. -/
def lines : List Char → List (List Char)
  | [] => []
  | '\r' :: '\n' :: rest => [] :: lines rest
  | c :: rest =>
    if endsLine c then [] :: lines rest
    else match lines rest with
      | [] => [[c]]
      | line :: more => (c :: line) :: more

/-- Line ends written with a carriage return become single line feeds. -/
def unifyNewlines : List Char → List Char
  | [] => []
  | '\r' :: '\n' :: rest => '\n' :: unifyNewlines rest
  | c :: rest => (if c = '\r' then '\n' else c) :: unifyNewlines rest

/-- The pieces of a text between the occurrences of a separator. -/
def splitAt (separator : Char) : List Char → List (List Char)
  | [] => [[]]
  | c :: rest =>
    if c = separator then [] :: splitAt separator rest
    else match splitAt separator rest with
      | [] => [[c]]
      | piece :: more => (c :: piece) :: more

/-- The pieces between the occurrences of a separating text, which are found from left to right;
the first `skipped` characters belong to an occurrence already found. -/
def piecesFrom (separator : List Char) (skipped : Nat) : List Char → List (List Char)
  | [] => [[]]
  | c :: rest =>
    match skipped with
    | more + 1 => piecesFrom separator more rest
    | 0 =>
      if separator.isPrefixOf (c :: rest) then [] :: piecesFrom separator (separator.length - 1) rest
      else match piecesFrom separator 0 rest with
        | [] => [[c]]
        | piece :: others => (c :: piece) :: others

/-- The pieces of a text between the occurrences of a separating text that is not empty. -/
def pieces? (separator cs : List Char) : Option (List (List Char)) :=
  if separator = [] then none else some (piecesFrom separator 0 cs)

@[simp] theorem trimLeft_nil : trimLeft [] = [] := rfl

@[simp] theorem trim_nil : trim [] = [] := rfl

@[simp] theorem lines_nil : lines [] = [] := by simp [lines]

theorem piecesFrom_singleton (separator : Char) (cs : List Char) :
    piecesFrom [separator] 0 cs = splitAt separator cs := by
  induction cs with
  | nil => rfl
  | cons c rest ih =>
    by_cases h : separator = c
    · subst h
      simp [piecesFrom, splitAt, ih]
    · have h' : ¬c = separator := fun e => h e.symm
      simp [piecesFrom, splitAt, h, h', ih]

theorem splitAt_ne_nil (separator : Char) (cs : List Char) : splitAt separator cs ≠ [] := by
  cases cs with
  | nil => simp [splitAt]
  | cons c rest =>
    simp only [splitAt]
    split
    · simp
    · split <;> simp

end BeanForge.Text
