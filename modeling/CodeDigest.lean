import CodeDigest.Main
import CodeDigest.Proofs.BlockExtent
import CodeDigest.Proofs.Fidelity
import CodeDigest.Proofs.SignatureExtent
import CodeDigest.Proofs.SignatureStability
import CodeDigest.Proofs.Renderings
import CodeDigest.Proofs.Runs
import CodeDigest.Proofs.Deduplication
import CodeDigest.Proofs.DocumentOrder
import CodeDigest.Proofs.Lines
import CodeDigest.Proofs.KeptRows
import CodeDigest.Proofs.Redundancy
import CodeDigest.Proofs.Schedules
import CodeDigest.Proofs.CommentRemoval
import CodeDigest.Proofs.MarkdownReading
import CodeDigest.Proofs.XmlReading
import CodeDigest.Proofs.DryRun
import CodeDigest.Proofs.RemovalJoins
import CodeDigest.Proofs.SignatureEnd
import CodeDigest.Proofs.OpaqueLiterals
import CodeDigest.Proofs.SecondRemoval
import CodeDigest.Proofs.RemovalTerminators
import CodeDigest.Proofs.Selectors
import CodeDigest.Proofs.CommentRows
import CodeDigest.Proofs.CommentRuns
import CodeDigest.Proofs.MemberKeys
import CodeDigest.Proofs.AnnotationRows
import CodeDigest.Proofs.Coordinates
import CodeDigest.Proofs.Registrations
import CodeDigest.Proofs.Tallies
import CodeDigest.Proofs.Selections
import CodeDigest.Proofs.LineNumbers
import CodeDigest.Proofs.BodyClose
import CodeDigest.Proofs.Owners
