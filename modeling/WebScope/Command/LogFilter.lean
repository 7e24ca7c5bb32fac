import WebScope.Text.Basic

/-!
# Log filters

A log filter says which messages are shown. It is a list of directives between commas: a level alone, or a target with a
level behind `=`. Of the directives whose target a message's target starts with, the one with the longest target
decides, and among equal targets the last. Directives that say nothing are ignored.
-/

namespace WebScope

/-- **How severe a message is**, or how much is shown. -/
inductive LogLevel
  | off
  | error
  | warn
  | info
  | debug
  | trace
  deriving DecidableEq, Repr

namespace LogLevel

/-- All levels, from the least that is shown to the most. -/
def all : List LogLevel := [.off, .error, .warn, .info, .debug, .trace]

/-- The place of a level among all. -/
def rank : LogLevel → Nat
  | .off => 0
  | .error => 1
  | .warn => 2
  | .info => 3
  | .debug => 4
  | .trace => 5

/-- The name of a level. -/
def name : LogLevel → Text
  | .off => "off".toList
  | .error => "error".toList
  | .warn => "warn".toList
  | .info => "info".toList
  | .debug => "debug".toList
  | .trace => "trace".toList

/-- The level of a name in any case, or of a rank in digits. -/
def ofText? (s : Text) : Option LogLevel := all.find? fun l => Text.eqIgnoringCase s l.name || s == Text.ofNat l.rank

end LogLevel

/-- **A directive of a filter.** Without a target it is for all messages. -/
structure LogDirective where
  target : Text := []
  level : LogLevel
  deriving DecidableEq, Repr

namespace LogDirective

/-- Whether a character can be part of a target. -/
def isTargetChar (c : Char) : Bool := c.isAlphanum || c == '_' || c == ':' || c == '-'

/-- Whether a text is a target. -/
def isTarget (s : Text) : Bool := s != [] && s.all isTargetChar

/-- **Reads a directive.** A target without a level shows everything. -/
def ofText? (s : Text) : Option LogDirective :=
  match LogLevel.ofText? s with
  | some level => some { level }
  | none =>
    match Text.cut? '=' s with
    | none => if isTarget s then some ⟨s, .trace⟩ else none
    | some (target, level) =>
      if !isTarget target then none
      else if level = [] then some ⟨target, .trace⟩
      else (LogLevel.ofText? level).map fun level => ⟨target, level⟩

end LogDirective

/-- **A log filter**: its directives in order. -/
abbrev LogFilter := List LogDirective

namespace LogFilter

/-- The directives of a text. -/
def ofText (s : Text) : LogFilter := (Text.fields (· == ',') s).filterMap LogDirective.ofText?

/-- Whether a directive is for messages of a target. -/
def isFor (target : Text) (d : LogDirective) : Bool := (Text.after? d.target target).isSome

/-- The directive that decides about messages of a target. -/
def deciding? (target : Text) : LogFilter → Option LogDirective
  | [] => none
  | d :: f =>
    match deciding? target f with
    | some e => if isFor target d && decide (e.target.length < d.target.length) then some d else some e
    | none => if isFor target d then some d else none

/-- **Whether messages of a target and a level are shown.** Without a directive for them they are not. -/
def shows (f : LogFilter) (target : Text) (level : LogLevel) : Bool :=
  (deciding? target f).any fun d => level.rank ≤ d.level.rank

end LogFilter
end WebScope
