import ShellTemplate.Glob.Meaning
import ShellTemplate.Glob.Printer
import ShellTemplate.Main
import ShellTemplate.Proofs.Parts
import ShellTemplate.Proofs.Printing
import ShellTemplate.Proofs.Reaching
import ShellTemplate.Proofs.PatternReading
import ShellTemplate.Proofs.PatternPrinting
import ShellTemplate.Glob.Closed
import ShellTemplate.Proofs.PatternConcatenation
import ShellTemplate.Proofs.Traces
import ShellTemplate.Proofs.ClosedTexts
import ShellTemplate.Proofs.Concatenation
import ShellTemplate.Proofs.DefaultBodies
import ShellTemplate.Proofs.Consulting
import ShellTemplate.Proofs.Decoding
import ShellTemplate.Proofs.ArgumentLists
import ShellTemplate.Proofs.Runs
import ShellTemplate.Proofs.PassingBytes
import ShellTemplate.Proofs.TemplateSources
import ShellTemplate.Proofs.Removal
import ShellTemplate.Proofs.FaultFragments
import ShellTemplate.Glob.Role
import ShellTemplate.Proofs.Escaping
import ShellTemplate.Proofs.LiteralPatterns
import ShellTemplate.Proofs.Negation
import ShellTemplate.Proofs.Replacement
import ShellTemplate.Proofs.StrictLookups
import ShellTemplate.Proofs.Substrings
import ShellTemplate.Proofs.NestingLimit
import ShellTemplate.Proofs.Offsets
import ShellTemplate.Proofs.Remarks
import ShellTemplate.Proofs.Backtracking
import ShellTemplate.Proofs.BodyDepths
import ShellTemplate.Proofs.Definitions
import ShellTemplate.Proofs.IndexedReading
