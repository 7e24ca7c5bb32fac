import WebScope.Text.Blank
import WebScope.Unicode.Composition
import WebScope.Unicode.Direction
import WebScope.Unicode.HostMapping
import WebScope.Unicode.Joining
import WebScope.Unicode.Mark
import WebScope.Url.Punycode

/-!
# Domain names

The hosts of the schemes that have domain names. `Domain.ofText?` brings a name to its one form: the mapping of host
names, normal form C, written forms (`xn--`) read back, and each label checked. Two spellings of a name have the same
form, so names are compared as texts. Plain names, which are ASCII and hold no written form, need no table: their form
is the name in small letters.
-/

namespace WebScope
namespace Domain

/-- The characters that no domain name holds: controls, blanks and everything that ends or structures a host. -/
def isForbidden (c : Char) : Bool :=
  c.toNat ≤ 0x20 || c.toNat == 0x7F || ['%', '#', '/', ':', '<', '>', '?', '@', '[', '\\', ']', '^', '|'].contains c

/-- Whether a character is ASCII. -/
def isAscii (c : Char) : Bool := c.toNat < 0x80

/-- What a label starts with when it is in its written form. -/
def writtenMark : Text := "xn--".toList

/-! ## Rules for labels -/

/-- The zero-width non-joiner. -/
def nonJoiner : Char := Char.ofNat 0x200C

/-- The zero-width joiner. -/
def joiner : Char := Char.ofNat 0x200D

/-- Whether a text starts, transparent characters apart, with one of the given joining types. -/
def startsJoining (types : List Unicode.JoiningType) (s : Text) : Bool :=
  match s.dropWhile fun c => Unicode.joiningType c == .transparent with
  | [] => false
  | c :: _ => types.contains (Unicode.joiningType c)

/-- Whether a joiner of either kind can stand between the text before it, given from its end, and the text behind it:
behind a virama, or for the non-joiner between letters that would join. -/
def allowsJoiner (c : Char) (before behind : Text) : Bool :=
  before.head?.any (fun v => Unicode.combiningClass v == 9) ||
    (c == nonJoiner && startsJoining [.left, .both] before && startsJoining [.right, .both] behind)

/-- Whether every joiner of a label may stand where it stands; `before` is the part already seen, from its end. -/
def joinersAllowed (before : Text) : Text → Bool
  | [] => true
  | c :: s => ((c != nonJoiner && c != joiner) || allowsJoiner c before s) && joinersAllowed (c :: before) s

/-- Whether a label has no mark at its start and joiners only in their places. -/
def isSound (label : Text) : Bool := !label.head?.any Unicode.isMark && joinersAllowed [] label

/-- The label that a text is, with a written form read back. A written form has to stand for a label that is not ASCII
and is in normal form already; a label that is not ASCII has at most a thousand characters. -/
def label? (s : Text) : Option Text :=
  match Text.after? writtenMark s with
  | some r =>
    if r.all isAscii && r.getLast? != some '-' && decide (r.length ≤ 2000) then
      (Punycode.decode? r).bind fun u =>
        if !u.all isAscii && u.all (fun c => Unicode.hostStatus c == .valid && c != '.') && Unicode.composed u == u &&
            isSound u then some u else none
    else none
  | none => if s.all isAscii || (decide (s.length ≤ 1000) && isSound s) then some s else none

/-! ## The rule of writing direction -/

/-- Whether a label can hold a character of a direction class in a label of its own direction. -/
def fits (rightToLeft : Bool) : Unicode.Direction → Bool
  | .leftToRight => !rightToLeft
  | .rightToLeft | .arabicNumber => rightToLeft
  | .europeanNumber | .mark | .neutral => true
  | .breaking => false

/-- **Whether a label keeps one direction**: its first character gives it, all others fit, it ends, marks apart, in a
letter of its direction or a number, and it does not mix the two kinds of numbers when it is written from right to
left. -/
def keepsDirection (label : Text) : Bool :=
  let classes := label.map Unicode.direction
  let final := (classes.reverse.dropWhile (· == .mark)).head?
  match classes.head? with
  | some .leftToRight =>
    classes.all (fits false) && (final == some .leftToRight || final == some .europeanNumber)
  | some .rightToLeft =>
    classes.all (fits true) && (final == some .rightToLeft || final == some .europeanNumber ||
      final == some .arabicNumber) && !(classes.contains .europeanNumber && classes.contains .arabicNumber)
  | _ => false

/-- Whether a character is of a right-to-left class. -/
def isRightToLeft (c : Char) : Bool := fits true (Unicode.direction c) && !fits false (Unicode.direction c)

/-- Whether the labels of a name keep their directions, which matters only if one of them runs from right to left. -/
def directionsKept (labels : List Text) : Bool :=
  !labels.any (·.any isRightToLeft) || labels.all fun l => l == [] || keepsDirection l

/-! ## Names -/

/-- Whether a name needs no table: it is ASCII and no label is in its written form. -/
def isPlain (s : Text) : Bool :=
  s.all isAscii && (Text.fields (· == '.') (Text.lower s)).all fun l => (Text.after? writtenMark l).isNone

/-- The labels of a name that is not plain, in their one form. -/
def labels? (s : Text) : Option (List Text) := do
  let mapped ← Unicode.mapHost? s
  let labels ← (Text.fields (· == '.') (Unicode.composed mapped)).mapM label?
  if directionsKept labels then some labels else none

/-- **The one form of a domain name.** -/
def ofText? (s : Text) : Option Text :=
  let name? := if isPlain s then some (Text.lower s) else (labels? s).map (List.intercalate ['.'])
  name?.bind fun name => if name.any isForbidden then none else some name

end Domain
end WebScope
