import NativeBoundary.Main
import NativeBoundary.Proofs.Build.Attribution
import NativeBoundary.Proofs.Build.CallableName
import NativeBoundary.Proofs.Build.MemberName
import NativeBoundary.Proofs.Build.Merging
import NativeBoundary.Proofs.Build.Transcription
import NativeBoundary.Proofs.Build.Unplaced
import NativeBoundary.Proofs.Interface.Enumeration
import NativeBoundary.Proofs.Interface.Printing
import NativeBoundary.Proofs.Interface.Receiver
import NativeBoundary.Proofs.Interface.Skew
import NativeBoundary.Proofs.Interface.Store
import NativeBoundary.Proofs.Literal.Canonical
import NativeBoundary.Proofs.Metadata.Shape
import NativeBoundary.Proofs.TypeExpr.Lexing
import NativeBoundary.Proofs.TypeExpr.Reading
import NativeBoundary.Proofs.TypeExpr.Depth
import NativeBoundary.Proofs.TypeExpr.Grammar
import NativeBoundary.Proofs.TypeExpr.RoundTrip
import NativeBoundary.Proofs.TypeExpr.Spelling
import NativeBoundary.Proofs.Registry.History
import NativeBoundary.Proofs.Json.Written
import NativeBoundary.Proofs.Document.Refusal
import NativeBoundary.Proofs.Document.RoundTrip
import NativeBoundary.Proofs.CommandLine.Report
import NativeBoundary.Proofs.Text.CharacterName
