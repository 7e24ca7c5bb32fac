import WebScope.Header.Block

/-!
# Lists of headers

Headers in the order in which they were added; a key can repeat. Keys are compared without regard to the case of
ASCII letters. Look-ups see only the headers that are switched on, removal takes all.
Main statement: what is removed and what is left are all headers (`size_remove_add_removed`).
-/

namespace WebScope

/-- **A list of headers.** -/
structure HeaderList where
  headers : List Header := []
  deriving DecidableEq, Repr

namespace HeaderList

/-- Whether a header has a key, letter case apart. -/
def hasKey (key : Text) (h : Header) : Bool := Text.eqIgnoringCase h.key key

/-- The headers of a block. -/
def ofBlock (block : Text) : HeaderList := ⟨Header.ofBlock block⟩

/-- The block of a list. -/
def toBlock (l : HeaderList) (separator : Option Text) : Text := Header.toBlock l.headers separator

/-- Adds a header at the end. -/
def push (l : HeaderList) (h : Header) : HeaderList := ⟨l.headers ++ [h]⟩

/-- **The values of a key**, in order, of the headers that are switched on. -/
def getAll (l : HeaderList) (key : Text) : List Text :=
  ((Property.enabled l.headers).filter (hasKey key)).map Header.value

/-- The first value of a key. -/
def get? (l : HeaderList) (key : Text) : Option Text := (l.getAll key).head?

/-- Whether a header has the key, switched on or not. -/
def contains (l : HeaderList) (key : Text) : Bool := l.headers.any (hasKey key)

/-- The list without the headers of a key. -/
def remove (l : HeaderList) (key : Text) : HeaderList := ⟨l.headers.filter fun h => !hasKey key h⟩

/-- How many headers `remove` takes away. -/
def removed (l : HeaderList) (key : Text) : Nat := l.headers.countP (hasKey key)

/-- The number of headers. -/
def size (l : HeaderList) : Nat := l.headers.length

/-- Whether there is no header. -/
def isEmpty (l : HeaderList) : Bool := l.headers.isEmpty

/-- The definitions of the headers. -/
def definitions (l : HeaderList) : List Header.Definition := Property.definitions l.headers

/-- What is removed and what is left are all headers. -/
theorem size_remove_add_removed (l : HeaderList) (key : Text) : (l.remove key).size + l.removed key = l.size := by
  simp only [size, remove, removed]
  induction l.headers with
  | nil => rfl
  | cons h hs ih =>
    cases hk : hasKey key h <;> simp_all <;> omega

end HeaderList
end WebScope
