import WebScope.Text.Basic

/-!
# IP addresses

IPv4 addresses have one to four numbers, each decimal, octal behind `0` or hexadecimal behind `0x`; the last number
fills all octets that the others leave. IPv6 addresses have eight pieces of four hexadecimal digits, where `::` stands
for one or more pieces of zero and the last two pieces can be a dotted address.
-/

namespace WebScope
namespace Address

/-! ## IPv4 -/

/-- A number of an IPv4 address; `0x` alone is zero. -/
def ipv4Number? (s : Text) : Option Nat :=
  match s with
  | [] => none
  | '0' :: 'x' :: r => Text.number? 16 r
  | '0' :: 'X' :: r => Text.number? 16 r
  | '0' :: c :: r => Text.number? 8 (c :: r)
  | _ => Text.number? 10 s

/-- The labels of a name; one empty label at the end does not count. -/
def labels (name : Text) : List Text :=
  let ls := Text.fields (· == '.') name
  if ls.getLast? = some [] then ls.dropLast else ls

/-- Whether the last label of a name is a number, so that the name has to be an address. -/
def endsInNumber (name : Text) : Bool :=
  (labels name).getLast?.any fun l => (l != [] && l.all Char.isDigit) || (ipv4Number? l).isSome

/-- The octets before the last number, all of them at most 255, as one number. -/
def octets? (ns : List Nat) : Option Nat :=
  ns.foldlM (fun a n => if n ≤ 255 then some (a * 256 + n) else none) 0

/-- **Reads an IPv4 address** as its value. -/
def ipv4? (name : Text) : Option Nat := do
  let ns ← (labels name).mapM ipv4Number?
  let final ← ns.getLast?
  if 4 < ns.length then none
  else
    let front ← octets? ns.dropLast
    let room := Nat.pow 256 (5 - ns.length)
    if final < room then some (front * room + final) else none

/-! ## IPv6 -/

/-- A decimal number of an address inside an address: at most 255, without zeros before it. -/
def dottedOctet? (s : Text) : Option Nat :=
  match s with
  | [] => none
  | '0' :: _ :: _ => none
  | _ => (Text.number? 10 s).bind fun n => if n ≤ 255 then some n else none

/-- The two pieces that a dotted address makes. -/
def dottedPieces? (s : Text) : Option (List Nat) := do
  match ← (Text.fields (· == '.') s).mapM dottedOctet? with
  | [a, b, c, d] => some [a * 256 + b, c * 256 + d]
  | _ => none

/-- A piece of one to four hexadecimal digits. -/
def piece? (s : Text) : Option Nat := if s = [] ∨ 4 < s.length then none else Text.number? 16 s

/-- The pieces of a list of groups, where the last group of the address can be dotted. -/
def pieces? (canEndDotted : Bool) : List Text → Option (List Nat)
  | [] => some []
  | [g] => if canEndDotted && g.contains '.' then dottedPieces? g else (piece? g).map ([·])
  | g :: gs => do return (← piece? g) :: (← pieces? canEndDotted gs)

/-- The address with the groups `front` before `::` and the groups `rest` behind its second colon. -/
def gapped? (front rest : List Text) : Option (List Nat) := do
  if rest = [] then none
  else
    let a ← pieces? false front
    let b ← pieces? true (if rest = [[]] then [] else rest)
    if a.length + b.length < 8 then some (a ++ List.replicate (8 - a.length - b.length) 0 ++ b) else none

/-- **Reads an IPv6 address** as its eight pieces. The first empty group tells where `::` stands; at the start of an
address `::` makes two empty groups. -/
def ipv6? (s : Text) : Option (List Nat) :=
  match (Text.fields (· == ':') s).span (· ≠ []) with
  | (groups, []) => (pieces? true groups).bind fun ps => if ps.length = 8 then some ps else none
  | ([], _ :: [] :: rest) => gapped? [] rest
  | ([], _) => none
  | (front, _ :: rest) => gapped? front rest

end Address
end WebScope
