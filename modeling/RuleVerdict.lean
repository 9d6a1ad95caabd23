import RuleVerdict.Collection
import RuleVerdict.Definition.Decode
import RuleVerdict.Definition.Encode
import RuleVerdict.Proofs.Json.ReadBack
import RuleVerdict.Proofs.Record.LastWrite
import RuleVerdict.Proofs.Logic.Acceptance
import RuleVerdict.Proofs.Logic.Brackets
import RuleVerdict.Proofs.Logic.Reading
import RuleVerdict.Proofs.Logic.Faults
import RuleVerdict.Proofs.Logic.NodeValues
import RuleVerdict.Proofs.Logic.Meaning
import RuleVerdict.Proofs.Logic.Agreement
import RuleVerdict.Proofs.Logic.NegatedText
import RuleVerdict.Proofs.Group.BlameModes
import RuleVerdict.Proofs.Group.Checks
import RuleVerdict.Proofs.Group.Compiled
import RuleVerdict.Proofs.Group.Explanations
import RuleVerdict.Proofs.Group.Verdicts
import RuleVerdict.Proofs.Group.Integrity
import RuleVerdict.Proofs.Group.CacheRuns
import RuleVerdict.Proofs.Group.Conjunctions
import RuleVerdict.Proofs.Group.WrittenIds
import RuleVerdict.Proofs.Group.Negations
import RuleVerdict.Proofs.Definition.RoundTrip
import RuleVerdict.Logic.Arena
import RuleVerdict.Proofs.Logic.Operands
import RuleVerdict.Proofs.Logic.Placement
import RuleVerdict.Proofs.Logic.Preorder
import RuleVerdict.Proofs.Logic.NodeTexts
import RuleVerdict.Proofs.Logic.Frames
import RuleVerdict.Proofs.Logic.Recursion
import RuleVerdict.Proofs.Logic.FirstFault
import RuleVerdict.Proofs.Text.LowercaseFixed
import RuleVerdict.Proofs.Logic.Spacing
import RuleVerdict.Proofs.Logic.StableLayout
import RuleVerdict.Proofs.Group.FreshIds
import RuleVerdict.Proofs.Record.JsonWalk
import RuleVerdict.Proofs.Atom.Comparisons
import RuleVerdict.Proofs.Atom.Operators
import RuleVerdict.Proofs.Atom.Opposites
import RuleVerdict.Proofs.Atom.Membership
import RuleVerdict.Proofs.Atom.Degraded
import RuleVerdict.Proofs.Binary64.ReadBack
import RuleVerdict.Proofs.Text.Delimiters
import RuleVerdict.Proofs.Interval.Syntax
import RuleVerdict.Proofs.Json.Embedding
import RuleVerdict.Proofs.Definition.Literals
import RuleVerdict.Proofs.Atom.Integers
import RuleVerdict.Proofs.Atom.Between
import RuleVerdict.Proofs.Atom.Overlap
import RuleVerdict.Proofs.Record.Paths
import RuleVerdict.Proofs.Group.Reports
import RuleVerdict.Proofs.Group.Collections
import RuleVerdict.Proofs.Logic.Spans
