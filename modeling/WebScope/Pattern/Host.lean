import WebScope.Pattern.Segments

/-!
# Host tests

The host of a pattern admits a remote (a host with its port, as the URL writes it) in one of three ways: it is `*`, it
is the remote itself, or it is `*.` before a suffix that the remote ends with at a dot. The comparison is exact, letter
case included.
-/

namespace WebScope
namespace HostToken

/-- The host that admits every remote. -/
def isAny (host : Text) : Bool := host == matchAll

/-- The host that is the remote. -/
def isExactly (host remote : Text) : Bool := host == remote

/-- The host `*.suffix`: it admits the suffix and every name with a dot before the suffix. -/
def isSuffixOf (host remote : Text) : Bool :=
  match Text.after? "*.".toList host with
  | none => false
  | some suffix => remote == suffix || (Text.before? suffix remote).any fun front => front.getLast? == some '.'

/-- **Whether a host token admits a remote.** -/
def admits (host remote : Text) : Bool := isAny host || isExactly host remote || isSuffixOf host remote

end HostToken
end WebScope
