import StoryState.Condition.Basic
import StoryState.Proofs.Text.Digit

/-!
Formulas: what a condition says when it is built from names, whole numbers and quoted texts by single
comparisons and by connectives of formulas in brackets. A formula can be written with signs or with words
(`Formula.print`), it is an expression (`Formula.expr`), and it has a value, which is found from left to
right and no further than needed (`Formula.value`).
-/

namespace StoryState.Condition

open StoryState.Text

/-! ### Characters of words -/

/-- An ASCII letter, an ASCII digit or the low line. -/
def isWordChar (c : Char) : Bool := c.isAlphanum || c == '_'

section WordChar

variable {c : Char}

theorem isAlpha_iff : c.isAlpha = true ↔
    ('A'.val ≤ c.val ∧ c.val ≤ 'Z'.val) ∨ ('a'.val ≤ c.val ∧ c.val ≤ 'z'.val) := by
  show (decide (c.val ≥ 'A'.val ∧ c.val ≤ 'Z'.val) ||
    (decide (c.val ≥ 'a'.val) && decide (c.val ≤ 'z'.val))) = true ↔ _
  simp

theorem toNat_wordChar (h : isWordChar c = true) :
    (48 ≤ c.toNat ∧ c.toNat ≤ 57) ∨ (65 ≤ c.toNat ∧ c.toNat ≤ 90) ∨ c.toNat = 95 ∨
      (97 ≤ c.toNat ∧ c.toNat ≤ 122) := by
  simp only [isWordChar, Char.isAlphanum, isAlpha_iff, Char.isDigit, Bool.or_eq_true, Bool.and_eq_true,
    decide_eq_true_eq, beq_iff_eq, UInt32.le_iff_toNat_le, ge_iff_le] at h
  have hval : c.toNat = c.val.toNat := rfl
  rcases h with ((⟨hlow, hhigh⟩ | ⟨hlow, hhigh⟩) | ⟨hlow, hhigh⟩) | rfl
  · have : 'A'.val.toNat = 65 := rfl
    have : 'Z'.val.toNat = 90 := rfl
    omega
  · have : 'a'.val.toNat = 97 := rfl
    have : 'z'.val.toNat = 122 := rfl
    omega
  · have : '0'.val.toNat = 48 := rfl
    have : '9'.val.toNat = 57 := rfl
    omega
  · exact .inr (.inr (.inl rfl))

theorem isBlank_wordChar (h : isWordChar c = true) : isBlank c = false := by
  have := toNat_wordChar h
  simp [isBlank, blankRanges, inRanges]
  omega

theorem wordChar_of_digit (h : isAsciiDigit c = true) : isWordChar c = true := by
  have hdigit : c.isDigit = true := by simpa [Char.isDigit, isAsciiDigit, Char.le_def] using h
  simp [isWordChar, Char.isAlphanum, hdigit]

theorem mayStartName_of_isAlpha (h : (c.isAlpha || c == '_') = true) : mayStartName c = true := by
  simp only [isAlpha_iff, Bool.or_eq_true, beq_iff_eq] at h
  simp only [mayStartName, Char.le_def, Bool.or_eq_true, Bool.and_eq_true, decide_eq_true_eq, beq_iff_eq]
  tauto

theorem mayContinueName_wordChar (h : isWordChar c = true) : mayContinueName c = true := by
  rw [isWordChar, Char.isAlphanum, Bool.or_right_comm, Bool.or_eq_true] at h
  rw [mayContinueName, Bool.or_eq_true]
  refine h.imp mayStartName_of_isAlpha fun hdigit => ?_
  simpa [Char.isDigit, isAsciiDigit, Char.le_def] using hdigit

end WordChar

/-! ### Atoms -/

/-- The text is a name: characters of words, not a digit first, and not a word that means something
else. -/
def isName (s : List Char) : Bool :=
  (match s with
    | [] => false
    | c :: _ => c.isAlpha || c == '_') &&
  s.all isWordChar && !keywords.contains (String.ofList s)

/-- The text can stand between quotes: it has no such quote, no back slash, no line break and no null
character. -/
def isQuotable (quote : Char) (s : List Char) : Bool :=
  s.all fun c => !List.contains [quote, '\\', '\n', '\r', '\x00'] c

/-- A kind of quote. -/
inductive Quote where
  | single
  | double

def Quote.char : Quote → Char
  | .single => '\''
  | .double => '"'

/-- What is compared. -/
inductive Atom where
  | name (id : { s : List Char // isName s = true })
  | number (n : { n : Nat // (Nat.toDigits 10 n).length ≤ Number.digitLimit })
  | quoted (q : Quote) (body : { s : List Char // isQuotable q.char s = true })

namespace Atom

/-- The atom as it is written. -/
def print : Atom → List Char
  | name id => id
  | number n => Nat.toDigits 10 n
  | quoted q body => q.char :: (body ++ [q.char])

def token : Atom → Token
  | name id => .name (String.ofList id)
  | number n => .number (.int n)
  | quoted _ body => .quoted ⟨{}, body⟩

def expr : Atom → Expr
  | name id => .name (String.ofList id)
  | number n => .constant (.int n)
  | quoted _ body => .constant (.text (String.ofList body))

/-- The object that the atom stands for. -/
def value (names : Names) : Atom → Option Object
  | name id => names (String.ofList id)
  | number n => some (.int .literal (n : Nat))
  | quoted _ body => some (.text .literal (String.ofList body))

/-- The names in the atom. -/
def names : Atom → List String
  | name id => [String.ofList id]
  | _ => []

end Atom

theorem isName_iff {s : List Char} :
    isName s = true ↔
      (∃ c r, s = c :: r ∧ (c.isAlpha || c == '_') = true) ∧ (∀ c ∈ s, isWordChar c = true) ∧
        String.ofList s ∉ keywords := by
  cases s <;> simp [isName, and_assoc]

theorem wordChar_toDigits (n : Nat) : ∀ c ∈ Nat.toDigits 10 n, isWordChar c = true :=
  fun c hc => wordChar_of_digit (Digits.toDigits c hc)

/-! ### Signs and words -/

/-- How two objects are compared. -/
inductive Comparison where
  | equal
  | unequal
  | less
  | atMost
  | greater
  | atLeast

namespace Comparison

def op : Comparison → CompareOp
  | equal => .eq
  | unequal => .notEq
  | less => .lt
  | atMost => .ltE
  | greater => .gt
  | atLeast => .gtE

/-- The sign of the comparison among words. -/
def sign : Comparison → String
  | equal => "=="
  | unequal => "!="
  | less => "<"
  | atMost => "<="
  | greater => ">"
  | atLeast => ">="

/-- The sign of the comparison among signs. -/
def strictSign : Comparison → String
  | equal => "==="
  | unequal => "!=="
  | c => c.sign

end Comparison

/-- The word of a connective. -/
def BoolOp.word : BoolOp → String
  | .and => "and"
  | .or => "or"

/-- The sign of a connective. -/
def BoolOp.sign : BoolOp → String
  | .and => "&&"
  | .or => "||"

/-- How operators are written, with the blanks around them. -/
structure Style where
  comparison : Comparison → List Char
  connective : BoolOp → List Char
  not : List Char

/-- Operators as signs. -/
def Style.signs : Style where
  comparison c := ' ' :: (c.strictSign.toList ++ [' '])
  connective op := ' ' :: (op.sign.toList ++ [' '])
  not := "!".toList

/-- Operators as words. -/
def Style.words : Style where
  comparison c := ' ' :: (c.sign.toList ++ [' '])
  connective op := ' ' :: (op.word.toList ++ [' '])
  not := "not ".toList

/-! ### Formulas -/

/-- A text in brackets. -/
def bracketed (s : List Char) : List Char := '(' :: (s ++ [')'])

/-- Tokens in brackets. -/
def tokensInBrackets (ts : List Token) : List Token := .mark "(" :: (ts ++ [.mark ")"])

/-- A condition of comparisons and connectives. -/
inductive Formula where
  | atom (a : Atom)
  | compare (c : Comparison) (a b : Atom)
  | join (op : BoolOp) (f g : Formula)
  | not (f : Formula)

namespace Formula

/-- The formula as it is written. What a connective joins stands in brackets. -/
def print (style : Style) : Formula → List Char
  | atom a => a.print
  | compare c a b => a.print ++ (style.comparison c ++ b.print)
  | join op f g => bracketed (f.print style) ++ (style.connective op ++ bracketed (g.print style))
  | not f => style.not ++ bracketed (f.print style)

/-- The text of the formula. -/
def text (style : Style) (f : Formula) : String := String.ofList (f.print style)

/-- How deep brackets are nested. -/
def nesting : Formula → Nat
  | atom _ | compare .. => 0
  | join _ f g => max f.nesting g.nesting + 1
  | not f => f.nesting + 1

def tokens : Formula → List Token
  | atom a => [a.token]
  | compare c a b => [a.token, .mark c.sign, b.token]
  | join op f g => tokensInBrackets f.tokens ++ .keyword op.word :: tokensInBrackets g.tokens
  | not f => .keyword "not" :: tokensInBrackets f.tokens

def expr : Formula → Expr
  | atom a => a.expr
  | compare c a b => .compare a.expr [(c.op, b.expr)]
  | join op f g => .boolean op [f.expr, g.expr]
  | not f => .unary .not f.expr

/-- The object that the formula comes to: a connective gives the operand that decides, and does not ask
for the second one if the first does. -/
def value (names : Names) : Formula → Option Object
  | atom a => a.value names
  | compare c a b => do
    let x ← a.value names
    let y ← b.value names
    return .bool (← compareOp? c.op x y)
  | join .and f g => do
    let x ← f.value names
    if x.truthy then g.value names else return x
  | join .or f g => do
    let x ← f.value names
    if x.truthy then return x else g.value names
  | not f => do return .bool !(← f.value names).truthy

/-- The names in the formula. -/
def names : Formula → List String
  | atom a => a.names
  | compare _ a b => a.names ++ b.names
  | join _ f g => f.names ++ g.names
  | not f => f.names

end Formula

end StoryState.Condition
