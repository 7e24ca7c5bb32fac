import WebScope.Text.Basic
import WebScope.Url.Percent

/-!
# Paths

The path of a URL in its normal form. `Path.resolve` walks the segments of a path from the root: the segment `.` is
dropped and `..` takes the segment before it away, in any of their spellings. In `file` URLs a drive letter at the root
gets its colon and is never taken away.
Main statement: a resolved path starts with a slash (`resolve_eq_cons`).
-/

namespace WebScope
namespace Path

/-- Whether a text is a drive letter: a letter and a colon or a bar. -/
def isDrive : Text → Bool
  | [a, b] => a.isAlpha && (b == ':' || b == '|')
  | _ => false

/-- Whether a segment starts with a drive letter that a separator ends. -/
def startsWithDrive (s : Text) : Bool := isDrive (s.take 2) && (s.drop 2).head?.all (· == '\\')

/-- Whether a segment is one of the spellings of `.`. -/
def isDot (s : Text) : Bool := [['.'], "%2e".toList].contains (Text.lower s)

/-- Whether a segment is one of the spellings of `..`. -/
def isDotDot (s : Text) : Bool :=
  ["..".toList, ".%2e".toList, "%2e.".toList, "%2e%2e".toList].contains (Text.lower s)

/-- The segments, the last one first, without the last one; a drive letter stays. -/
def parent : List Text → List Text
  | [] => []
  | s :: done => if startsWithDrive s then s :: done else done

/-- A segment as it is kept behind the segments `done`: a drive letter at the root of a `file` URL has a colon. -/
def kept (isFile : Bool) (done : List Text) (s : Text) : Text :=
  if isFile && done.isEmpty && isDrive s then [s.headD 'c', ':'] else s

/-- The path with the complete segments `done`, the last one first, and the open segment `final`. -/
def render (done : List Text) (final : Text) : Text :=
  '/' :: done.foldl (fun tail s => s ++ '/' :: tail) final

/-- **Walks segments**: all but the last one end at a slash. -/
def walk (isFile : Bool) (done : List Text) : List Text → Text
  | [] => render done []
  | [s] =>
    if isDotDot s then render (parent done) []
    else if isDot s then render done []
    else render done (kept isFile done s)
  | s :: rest =>
    if isDotDot s then walk isFile (parent done) rest
    else if isDot s then walk isFile done rest
    else walk isFile (kept isFile done s :: done) rest

/-- What separates segments: the slash, and in schemes with rules of their own the backslash. -/
def isSeparator (special : Bool) (c : Char) : Bool := c == '/' || (special && c == '\\')

/-- The part of a URL before its query and its fragment. -/
def beforeQuery (s : Text) : Text := s.takeWhile fun c => c != '?' && c != '#'

/-- **The normal form of the path** whose text behind the root is `s`. -/
def resolve (special isFile : Bool) (s : Text) : Text :=
  walk isFile [] ((Text.fields (isSeparator special) (beforeQuery s)).map (Percent.encode Percent.isPathEncoded))

/-- The path text behind the root slash; the root is there even if it is not written. -/
def behindRoot (special : Bool) : Text → Text
  | [] => []
  | c :: s => if isSeparator special c then s else c :: s

/-- A path without segments: the text up to the query, controls in percent form. -/
def plain (s : Text) : Text := Percent.encode Percent.isControl (beforeQuery s)

/-- The path behind an authority. It is empty only in schemes without rules of their own, when nothing is written. -/
def behindAuthority (special : Bool) (s : Text) : Text :=
  if !special && (beforeQuery s).isEmpty then [] else resolve special false (behindRoot special s)

/-- The path of a `file` URL before the slashes at its root become one. -/
def rooted (s : Text) : Text := resolve true true (behindRoot true s)

/-- The path of a `file` URL: one slash at the root, however many are written. -/
def ofFile (s : Text) : Text := '/' :: (rooted s).dropWhile (· == '/')

/-- Whether the path of a `file` URL starts with a drive letter. -/
def hasDrive (s : Text) : Bool := startsWithDrive (((rooted s).drop 1).takeWhile (· != '/'))

/-- A resolved path starts at the root. -/
theorem resolve_eq_cons (special isFile : Bool) (s : Text) : ∃ r, resolve special isFile s = '/' :: r := by
  have key : ∀ (segments : List Text) (done : List Text), ∃ r, walk isFile done segments = '/' :: r := by
    intro segments
    induction segments with
    | nil => intro done; exact ⟨_, rfl⟩
    | cons s rest ih =>
      intro done
      cases rest with
      | nil =>
        rw [walk]
        split
        · exact ⟨_, rfl⟩
        · split <;> exact ⟨_, rfl⟩
      | cons s' rest =>
        rw [walk]
        · split
          · exact ih _
          · split <;> exact ih _
        · simp
  exact key _ _

end Path
end WebScope
