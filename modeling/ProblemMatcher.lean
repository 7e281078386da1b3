import ProblemMatcher.Main
import ProblemMatcher.Session
import ProblemMatcher.Proofs.Live.Coverage
import ProblemMatcher.Proofs.Matcher.Composite
import ProblemMatcher.Proofs.Regex.Parallel
import ProblemMatcher.Proofs.Matcher.GroupAccount
import ProblemMatcher.Proofs.Regex.Ends
import ProblemMatcher.Proofs.Regex.CharEnds
import ProblemMatcher.Proofs.Regex.RunEnds
import ProblemMatcher.Proofs.Regex.Releases
import ProblemMatcher.Proofs.Regex.Form
import ProblemMatcher.Proofs.Regex.Segment
import ProblemMatcher.Proofs.Regex.Mirror
import ProblemMatcher.Proofs.Matcher.Lines
import ProblemMatcher.Proofs.Live.Bounds
import ProblemMatcher.Proofs.Live.Preview
import ProblemMatcher.Proofs.Scan.Isolation
import ProblemMatcher.Proofs.Matcher.Acceptance
import ProblemMatcher.Proofs.Declaration.Chains
import ProblemMatcher.Proofs.Session.View
import ProblemMatcher.Proofs.Session.Parity
import ProblemMatcher.Proofs.Truncation
import ProblemMatcher.Proofs.Diagnostic.Completeness
import ProblemMatcher.Proofs.Matcher.Blanks
import ProblemMatcher.Proofs.Matcher.Stripped
import ProblemMatcher.Proofs.Declaration.SingleFields
import ProblemMatcher.Proofs.Matcher.LastRound
import ProblemMatcher.Proofs.Text.PositionOrder
import ProblemMatcher.Proofs.Declaration.Layers
import ProblemMatcher.Proofs.Session.Unshowable
import ProblemMatcher.Proofs.Session.OwnFields
import ProblemMatcher.Proofs.Live.Injection
import ProblemMatcher.Proofs.Session.Lenses
import ProblemMatcher.Proofs.Matcher.MemberOrder
import ProblemMatcher.Proofs.Text.Utf8
import ProblemMatcher.Proofs.File.Contents
import ProblemMatcher.Proofs.Settings.Nearest
import ProblemMatcher.Proofs.Settings.Choices
import ProblemMatcher.Proofs.CommandLine.Ending
import ProblemMatcher.Proofs.Text.Numerals
import ProblemMatcher.Proofs.Diagnostic.Locations
