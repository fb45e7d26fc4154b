import HttpScript.Proofs.FilePath.Place
import HttpScript.Server.Connection
import HttpScript.Proofs.Url.FileUrl
import HttpScript.Proofs.Script.Unfolding
import HttpScript.Proofs.Script.IncludedDocument
import HttpScript.Proofs.Script.IncludeWalk
import HttpScript.Proofs.Script.Failure
import HttpScript.Proofs.Script.Success
import HttpScript.Proofs.Script.Locality
import HttpScript.Proofs.Server.Checking
import HttpScript.Proofs.Url.Identity
import HttpScript.Proofs.Server.History
import HttpScript.Proofs.Server.Freshness
import HttpScript.Proofs.Server.OpenFiles
import HttpScript.Proofs.Diagnostic.LastCheck
import HttpScript.Proofs.Variable.Occurrence
import HttpScript.Proofs.Variable.Grouping
import HttpScript.Proofs.Diagnostic.Classification
import HttpScript.Proofs.Variable.Precedence
import HttpScript.Proofs.Diagnostic.Scope
import HttpScript.Proofs.Script.LineForm
import HttpScript.Proofs.Text.CodeUnit
import HttpScript.Proofs.Script.Stretch
import HttpScript.Proofs.Script.Numbering
import HttpScript.Proofs.Script.Placement
import HttpScript.Proofs.Script.Coverage
import HttpScript.Proofs.Script.RequestName
import HttpScript.Proofs.Script.CommentInsertion
import HttpScript.Proofs.Variable.ReferenceText
import HttpScript.Proofs.Variable.DefinedKinds
import HttpScript.Proofs.Diagnostic.Environment
import HttpScript.Proofs.Text.Words
import HttpScript.Proofs.Text.LineEnd
import HttpScript.Proofs.Script.RequestParts
import HttpScript.Proofs.Script.RequestComments
import HttpScript.Proofs.Script.BlockRequest
import HttpScript.Proofs.Script.RequestWriting
import HttpScript.Proofs.Http.IgnoringCase
import HttpScript.Proofs.Script.RequestLine
import HttpScript.Proofs.Variable.CapturedValue
import HttpScript.Proofs.Variable.ResolvedSide
import HttpScript.Proofs.FilePath.Lexical
import HttpScript.Proofs.Script.IncludePattern
import HttpScript.Proofs.Lens
import HttpScript.Proofs.Settings.EnvironmentName
import HttpScript.Proofs.Settings.Merging
import HttpScript.Proofs.Http.WireForm
import HttpScript.Proofs.Script.ResolvedInclude
