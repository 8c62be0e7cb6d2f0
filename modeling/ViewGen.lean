import ViewGen.Schema.File
import ViewGen.Naming
import ViewGen.Template.Source
import ViewGen.Manifest.Store
import ViewGen.Reconcile
import ViewGen.Lock.Hold
import ViewGen.Run
import ViewGen.Discovery
import ViewGen.Settings
import ViewGen.CommandLine.Execute
import ViewGen.Main
import ViewGen.Proofs.DiskOperations
import ViewGen.Proofs.Jobs
import ViewGen.Proofs.ManifestText
import ViewGen.Proofs.ManifestStore
import ViewGen.Proofs.Locking
import ViewGen.Proofs.Words
import ViewGen.Proofs.Attributes
import ViewGen.Proofs.Blocks
import ViewGen.Proofs.SchemaText
import ViewGen.Proofs.Names
import ViewGen.Proofs.Incrementality
import ViewGen.Proofs.Runs
import ViewGen.Proofs.Histories
import ViewGen.Proofs.Reruns
import ViewGen.Proofs.Attempts
import ViewGen.Proofs.Resuming
import ViewGen.Proofs.LockContents
import ViewGen.Proofs.Failures
import ViewGen.Proofs.Readings
import ViewGen.Proofs.Retries
import ViewGen.Proofs.Rebuilds
import ViewGen.Proofs.Extensions
import ViewGen.Proofs.Waiting
import ViewGen.Proofs.Releases
import ViewGen.Proofs.Containment
import ViewGen.Proofs.Nuls
import ViewGen.Proofs.Escapes
import ViewGen.Proofs.NumberText
import ViewGen.Proofs.Exclusion
import ViewGen.Proofs.Concatenation
import ViewGen.Proofs.Snapshots
import ViewGen.Proofs.Rehearsals
import ViewGen.Proofs.TemplateRows
import ViewGen.Proofs.BundledViews
import ViewGen.Proofs.PartialWrites
import ViewGen.Proofs.JsonText
import ViewGen.Proofs.ManifestLoads
import ViewGen.Proofs.Takeovers
import ViewGen.Proofs.AttributeLines
import ViewGen.Proofs.ForeignKeys
import ViewGen.Proofs.Custody
import ViewGen.Proofs.FilledTemplates
import ViewGen.Proofs.Discoveries
import ViewGen.Proofs.TemplateFaults
import ViewGen.Proofs.Markups
import ViewGen.Proofs.Reports
import ViewGen.Proofs.Consultations
import ViewGen.Proofs.ModelTables
import ViewGen.Proofs.LineEndings
import ViewGen.Proofs.WordBoundaries
import ViewGen.Proofs.CapitalizedWords
import ViewGen.Proofs.Collisions
