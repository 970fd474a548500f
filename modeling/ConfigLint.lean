import ConfigLint.Assist
import ConfigLint.Libraries.Own
import ConfigLint.Value.Result
import ConfigLint.Workspace.Session
import ConfigLint.Proofs.Duplicates
import ConfigLint.Proofs.Assignment
import ConfigLint.Proofs.Severities
import ConfigLint.Proofs.LineFindings
import ConfigLint.Proofs.Spans
import ConfigLint.Proofs.Blame
import ConfigLint.Proofs.FileTree
import ConfigLint.Proofs.Fallback
import ConfigLint.Proofs.Scanning
import ConfigLint.Proofs.Building
import ConfigLint.Proofs.Findings
import ConfigLint.Proofs.Order
import ConfigLint.Proofs.Slots
import ConfigLint.Proofs.Sessions
import ConfigLint.Proofs.WriteOnce
import ConfigLint.Proofs.DefaultSource
import ConfigLint.Proofs.Marks
import ConfigLint.Proofs.PatternFaults
import ConfigLint.Proofs.NoVerdict
import ConfigLint.Proofs.LineEnds
import ConfigLint.Proofs.Relevance
import ConfigLint.Proofs.Renumbering
import ConfigLint.Proofs.Composition
import ConfigLint.Proofs.Respacing
import ConfigLint.Proofs.Choices
import ConfigLint.Proofs.Isolation
import ConfigLint.Proofs.Acceptance
import ConfigLint.Proofs.Bindings
import ConfigLint.Proofs.DigitRuns
import ConfigLint.Proofs.Quoting
import ConfigLint.Proofs.Colors
import ConfigLint.Proofs.PaletteEntries
import ConfigLint.Proofs.Rounding
import ConfigLint.Proofs.DecimalRounding
import ConfigLint.Proofs.Limits
import ConfigLint.Proofs.NumberOrder
import ConfigLint.Proofs.MarkedPaths
import ConfigLint.Proofs.ColorNames
import ConfigLint.Proofs.Trials
import ConfigLint.Proofs.PlainPatterns
import ConfigLint.Proofs.DurationGrammar
import ConfigLint.Proofs.Durations
import ConfigLint.Proofs.KeyCompletions
import ConfigLint.Proofs.Rejoining
import ConfigLint.Proofs.ValueCompletions
