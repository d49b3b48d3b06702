import BeanForge.Entity.Revision
import BeanForge.FieldTable.Position
import BeanForge.Json.Read
import BeanForge.Main
import BeanForge.Proofs.Keyed
import BeanForge.Proofs.FileTree.Growth
import BeanForge.Proofs.FileTree.Addresses
import BeanForge.Proofs.FileTree.Folders
import BeanForge.Proofs.FileTree.Obstacles
import BeanForge.Proofs.FileTree.Listing
import BeanForge.Proofs.Source.Names
import BeanForge.Proofs.Text.Lines
import BeanForge.Proofs.Settings.Layout
import BeanForge.Proofs.Source.Layout
import BeanForge.Proofs.Source.Reading
import BeanForge.Proofs.Source.Types
import BeanForge.Proofs.Source.Annotations
import BeanForge.Proofs.Template.Likeness
import BeanForge.Proofs.Template.BundledParts
import BeanForge.Proofs.Template.Yield
import BeanForge.Proofs.Template.FieldFilters
import BeanForge.Proofs.Template.BundledRun
import BeanForge.Proofs.Template.Lookup
import BeanForge.Proofs.Template.Shelter
import BeanForge.Proofs.Entity.ClassText
import BeanForge.Proofs.Entity.Views
import BeanForge.Proofs.Entity.Printing
import BeanForge.Proofs.Entity.Accessors
import BeanForge.Proofs.Artifact.Paths
import BeanForge.Proofs.Artifact.TypePaths
import BeanForge.Proofs.Artifact.Emission
import BeanForge.Proofs.Artifact.Session
import BeanForge.Proofs.Artifact.Reliability
import BeanForge.Proofs.Artifact.Filling
import BeanForge.Proofs.Artifact.Confinement
import BeanForge.Proofs.Artifact.Identity
import BeanForge.Proofs.Artifact.Leftovers
import BeanForge.Proofs.Artifact.Recording
import BeanForge.Proofs.Artifact.Refusals
import BeanForge.Proofs.Artifact.Persistence
import BeanForge.Proofs.Discovery.Findings
import BeanForge.Proofs.Pass.Account
import BeanForge.Proofs.Pass.Agreement
import BeanForge.Proofs.Pass.Completion
import BeanForge.Proofs.Pass.Delivery
import BeanForge.Proofs.Pass.Holding
import BeanForge.Proofs.Pass.Independence
import BeanForge.Proofs.Pass.Repetition
import BeanForge.Proofs.CommandLine.Completeness
import BeanForge.Proofs.Source.Declarations
import BeanForge.Proofs.Discovery.WrittenSources
import BeanForge.Proofs.Source.Cuts
import BeanForge.Proofs.Discovery.Answers
import BeanForge.Proofs.Json.Escapes
import BeanForge.Proofs.Json.Reading
import BeanForge.Proofs.Pass.Listeners
import BeanForge.Proofs.Pass.Logging
import BeanForge.Proofs.Source.Spelling
import BeanForge.Proofs.CommandLine.Inspection
import BeanForge.Proofs.Template.Missing
import BeanForge.Proofs.Template.MoreNames
import BeanForge.Proofs.Template.Guards
import BeanForge.Proofs.Template.GuardedRuns
import BeanForge.Proofs.Template.MoreVariables
import BeanForge.Proofs.FieldTable.Descriptions
import BeanForge.Proofs.FieldTable.Merging
import BeanForge.Proofs.FieldTable.AccessorNames
import BeanForge.Proofs.FileTree.Contents
import BeanForge.Proofs.Discovery.Isolation
import BeanForge.Proofs.Settings.Overlay
import BeanForge.Proofs.Settings.Layers
import BeanForge.Proofs.CommandLine.Precedence
import BeanForge.Proofs.Artifact.Contribution
import BeanForge.Proofs.Text.SmallLetters
import BeanForge.Proofs.Text.Capitals
import BeanForge.Proofs.FieldTable.Clashes
import BeanForge.Proofs.Log.Lines
import BeanForge.Proofs.Log.Scopes
import BeanForge.Proofs.Validation
import BeanForge.Proofs.CommandLine.Endings
import BeanForge.Proofs.Entity.TypeKinds
