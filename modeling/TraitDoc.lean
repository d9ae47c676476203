import TraitDoc.CommandLine
import TraitDoc.Declaration
import TraitDoc.DocComment
import TraitDoc.Failure
import TraitDoc.FileFault
import TraitDoc.FilePath
import TraitDoc.FileTree.Access
import TraitDoc.FileTree.Basic
import TraitDoc.FileTree.Changes
import TraitDoc.FileTree.Standing
import TraitDoc.Home
import TraitDoc.Host
import TraitDoc.Journal
import TraitDoc.Main
import TraitDoc.Member
import TraitDoc.Plumbing.AroundComments
import TraitDoc.Plumbing.Removal
import TraitDoc.Plumbing.Rules
import TraitDoc.Program
import TraitDoc.Proofs.CommentSpans
import TraitDoc.Proofs.Reach
import TraitDoc.Proofs.Readers
import TraitDoc.Proofs.Seams
import TraitDoc.Run
import TraitDoc.Settings.Basic
import TraitDoc.Settings.Document
import TraitDoc.Settings.Fault
import TraitDoc.Settings.Load
import TraitDoc.Text.Basic
import TraitDoc.Text.Blank
import TraitDoc.Text.CharSet
import TraitDoc.Text.Digit
import TraitDoc.Text.Encoding
import TraitDoc.Text.Order
import TraitDoc.Text.Printable
import TraitDoc.Text.Quoted
import TraitDoc.Text.Split
import TraitDoc.Text.Word
import TraitDoc.Trait
import TraitDoc.TraitFile
import TraitDoc.Workspace
import TraitDoc.Yaml.Base64
import TraitDoc.Yaml.Character
import TraitDoc.Yaml.Cursor
import TraitDoc.Yaml.Document
import TraitDoc.Yaml.Double
import TraitDoc.Yaml.Fault
import TraitDoc.Yaml.Moment
import TraitDoc.Yaml.Node.Basic
import TraitDoc.Yaml.Node.Merging
import TraitDoc.Yaml.Node.OfText
import TraitDoc.Yaml.Node.Outline
import TraitDoc.Yaml.Node.Scalar
import TraitDoc.Yaml.Number
import TraitDoc.Yaml.Tag
import TraitDoc.Yaml.Token.Basic
import TraitDoc.Yaml.Token.Scalar
import TraitDoc.Yaml.Token.Scan
import TraitDoc.Yaml.Token.Tag
import TraitDoc.Yaml.Value
import TraitDoc.Proofs.HeaderEnd
import TraitDoc.Proofs.CommentsKept
import TraitDoc.Proofs.KeywordLeft
import TraitDoc.Proofs.Growth
import TraitDoc.Proofs.FailedRuns
import TraitDoc.Proofs.Rendering
import TraitDoc.Proofs.StatefulHosts
import TraitDoc.Proofs.Writing
import TraitDoc.Proofs.RunEnds
import TraitDoc.Proofs.Denotation
import TraitDoc.Proofs.Footprint
import TraitDoc.Proofs.OutputsHeld
import TraitDoc.Proofs.DeclarationPlace
import TraitDoc.Proofs.SourceGrammar
import TraitDoc.Proofs.Overwriting
import TraitDoc.Proofs.OnTheWay
import TraitDoc.Proofs.Rerun
import TraitDoc.Proofs.Loading
import TraitDoc.Proofs.BreakingOff
import TraitDoc.Proofs.StayingBelow
import TraitDoc.Proofs.OrderOfNames
import TraitDoc.Proofs.WellFormed
import TraitDoc.Proofs.AcceptedDocuments
import TraitDoc.Proofs.FilesAddedTo
import TraitDoc.Proofs.JournalSinks
import TraitDoc.Proofs.ValueLine
import TraitDoc.Proofs.TraitBody
import TraitDoc.Proofs.LineByLine
import TraitDoc.Proofs.BroughtTogether
import TraitDoc.Proofs.LinesLeft
import TraitDoc.Proofs.CommentsFound
import TraitDoc.Proofs.CommentSearch
import TraitDoc.Proofs.SaidByKeys
import TraitDoc.Proofs.ProjectSpellings
import TraitDoc.Proofs.DeclaredNames
