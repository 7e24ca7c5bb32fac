import WebScope.Main
import WebScope.Proofs.Command.Verdicts
import WebScope.Proofs.Command.Warnings
import WebScope.Proofs.Header.FieldLines
import WebScope.Proofs.Header.JsonForms
import WebScope.Proofs.Header.Layout
import WebScope.Proofs.Header.LineRoundTrip
import WebScope.Proofs.Header.ListRuns
import WebScope.Proofs.Header.RoundTrip
import WebScope.Proofs.Header.SingleLine
import WebScope.Proofs.Pattern.Canonical
import WebScope.Proofs.Pattern.Decoding
import WebScope.Proofs.Pattern.GlobLanguage
import WebScope.Proofs.Pattern.Grammar
import WebScope.Proofs.Pattern.History
import WebScope.Proofs.Pattern.JsonForms
import WebScope.Proofs.Pattern.Meaning
import WebScope.Proofs.Pattern.Reports
import WebScope.Proofs.Pattern.Satisfiable
import WebScope.Proofs.Pattern.Schemes
import WebScope.Proofs.Pattern.Splitting
import WebScope.Proofs.Pattern.Widening
import WebScope.Proofs.Scope.CatchAll
import WebScope.Proofs.Scope.FileRuns
import WebScope.Proofs.Scope.InvalidRules
import WebScope.Proofs.Scope.ProtocolLists
import WebScope.Proofs.Scope.QueryVerdict
import WebScope.Proofs.Scope.RuleByRule
import WebScope.Proofs.Scope.RuleLists
import WebScope.Proofs.Scope.TomlRoundTrip
import WebScope.Proofs.Url.Attained
import WebScope.Proofs.Url.Decomposition
import WebScope.Proofs.Url.Place
import WebScope.Proofs.Url.Query
import WebScope.Proofs.Url.Remote
