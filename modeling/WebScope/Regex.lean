import WebScope.Text.Basic

/-!
# Anchored expressions

The fragment of regular expressions that path tests are compiled to: `\A`, a sequence of pieces, `\z`. A piece is a
plain character, a backslash before an operator, `.` (one character that is no line feed) or `.*` (any run of such
characters). `Regex.compile` reads the source of an expression and refuses one that would grow past `Regex.sizeLimit`,
by the approximate count of `Regex.size`.

`Regex.Takes` says what a sequence of pieces matches; `Regex.isMatch` decides it by carrying the set of all places in
the text that the pieces read so far can have reached, so its cost is at most pieces times characters.
-/

namespace WebScope

/-- What one piece of an expression takes from the text. -/
inductive Piece
  /-- The character itself. -/
  | exactly (c : Char)
  /-- One character that is no line feed. -/
  | any
  /-- Any run of characters, none of them a line feed. -/
  | anyRun
  deriving DecidableEq, Repr

/-- **A compiled expression**: the source and the pieces between its anchors. -/
structure Regex where
  source : Text
  pieces : List Piece
  deriving DecidableEq, Repr

namespace Regex

/-- Why an expression does not compile. -/
inductive CompileError
  /-- The source leaves the fragment. -/
  | malformed
  /-- The compiled program would be larger than the limit. -/
  | tooLarge
  deriving DecidableEq, Repr

/-- The largest program, in octets. -/
def sizeLimit : Nat := 10485760

/-- The wording of a compile error. -/
def CompileError.message : CompileError → Text
  | .malformed => "regex parse error".toList
  | .tooLarge => "Compiled regex exceeds size limit of ".toList ++ Text.ofNat sizeLimit ++ " bytes.".toList

/-! ## Reading a source -/

/-- The characters that stand for themselves only behind a backslash. -/
def isOperator (c : Char) : Bool :=
  ['.', '+', '*', '?', '^', '$', '{', '}', '(', ')', '|', '[', ']', '\\'].contains c

/-- The pieces up to the closing anchor. -/
def pieces? : Text → Option (List Piece)
  | [] => none
  | ['\\', 'z'] => some []
  | '\\' :: c :: s => if isOperator c then (pieces? s).map (.exactly c :: ·) else none
  | '.' :: '*' :: s => (pieces? s).map (.anyRun :: ·)
  | '.' :: s => (pieces? s).map (.any :: ·)
  | c :: s => if isOperator c then none else (pieces? s).map (.exactly c :: ·)

/-- The pieces between the anchors of a source. -/
def piecesOfSource? (source : Text) : Option (List Piece) :=
  (Text.after? ['\\', 'A'] source).bind pieces?

/-- About how many octets of program a piece takes. The three numbers are approximations, since the true count depends
on how the engine lays its programs out: a plain character is roughly one step for each of its octets, a class of
characters roughly a decision tree over octets. -/
def Piece.weight : Piece → Nat
  | .exactly c => 32 * c.utf8Size
  | .any => 1000
  | .anyRun => 1040

/-- About how many octets of program the pieces take. -/
def size : List Piece → Nat
  | [] => 0
  | p :: ps => Piece.weight p + size ps

/-- **Compiles an expression.** -/
def compile (source : Text) : Except CompileError Regex :=
  match piecesOfSource? source with
  | none => .error .malformed
  | some pieces => if sizeLimit < size pieces then .error .tooLarge else .ok ⟨source, pieces⟩

/-! ## Matching -/

/-- **The texts that a sequence of pieces matches.** -/
inductive Takes : List Piece → Text → Prop
  | nil : Takes [] []
  | exactly {c : Char} {ps : List Piece} {s : Text} : Takes ps s → Takes (.exactly c :: ps) (c :: s)
  | any {c : Char} {ps : List Piece} {s : Text} : c ≠ '\n' → Takes ps s → Takes (.any :: ps) (c :: s)
  | anyRun {ps : List Piece} {run s : Text} : (∀ c ∈ run, c ≠ '\n') → Takes ps s → Takes (.anyRun :: ps) (run ++ s)

/-- A set of places of a text, as one flag for each place from the front; places past the last flag are not in it. -/
abbrev Places := List Bool

/-- The places reached by taking one character of the class `p`, counted from the second character on. -/
def Places.step (p : Char → Bool) : Text → Places → Places
  | c :: s, b :: bs => (b && p c) :: Places.step p s bs
  | _, _ => []

/-- The places reached by taking any run without a line feed, where `reached` says that one run is under way. -/
def Places.spread : Bool → Text → Places → Places
  | reached, [], bs => [reached || bs.headD false]
  | reached, c :: s, bs =>
    let here := reached || bs.headD false
    here :: Places.spread (here && c != '\n') s bs.tail

/-- Whether the pieces can take all of the text from one of the places on. -/
def takesFrom : List Piece → Text → Places → Bool
  | [], s, bs => bs.getD s.length false
  | .exactly c :: ps, s, bs => takesFrom ps s.tail (bs.step (· == c) s)
  | .any :: ps, s, bs => takesFrom ps s.tail (bs.step (· != '\n') s)
  | .anyRun :: ps, s, bs => takesFrom ps s (bs.spread false s)

/-- **Whether an expression matches the whole text.** -/
def isMatch (r : Regex) (s : Text) : Bool := takesFrom r.pieces s [true]

end Regex
end WebScope
