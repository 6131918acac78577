import AuditAspects.Main
import AuditAspects.Value.Writer
import AuditAspects.Proofs.DraftHistory
import AuditAspects.Proofs.RebuiltNames
import AuditAspects.Proofs.AspectName
import AuditAspects.Proofs.AuditProduction
import AuditAspects.Proofs.DraftMerge
import AuditAspects.Proofs.IdentifierRoundTrip
import AuditAspects.Proofs.AuditedUnit
import AuditAspects.Proofs.SourceNames
import AuditAspects.Proofs.SourceText
import AuditAspects.Proofs.AuditedSource
import AuditAspects.Proofs.ClaimHistory
import AuditAspects.Proofs.HeldMembers
import AuditAspects.Proofs.ProductionRecords
import AuditAspects.Proofs.OverrideLiteral
import AuditAspects.Proofs.StepLaws
import AuditAspects.Proofs.Enrolment
import AuditAspects.Proofs.ModuleCourse
import AuditAspects.Proofs.ScanSurvey
import AuditAspects.Proofs.RenewedClasses
import AuditAspects.Proofs.GrownStores
import AuditAspects.Proofs.KeptCode
import AuditAspects.Proofs.ScanOutcome
import AuditAspects.Proofs.GeneratedUnits
import AuditAspects.Proofs.EncodedSources
import AuditAspects.Proofs.WrittenUnits
import AuditAspects.Proofs.SaidLines
import AuditAspects.Proofs.ShownEntity
import AuditAspects.Proofs.DryRun
import AuditAspects.Proofs.ClassHistory
import AuditAspects.Proofs.RefusedMark
import AuditAspects.Proofs.RegistryHistory
import AuditAspects.Proofs.DeclaredMethods
import AuditAspects.Proofs.OwnData
import AuditAspects.Proofs.ContributionOutcome
import AuditAspects.Proofs.UnitPaths
import AuditAspects.Proofs.OutputTree
import AuditAspects.Proofs.EntityNames
import AuditAspects.Proofs.ListedEntities
import AuditAspects.Proofs.SourceHeading
import AuditAspects.Proofs.GeneratedEntries
import AuditAspects.Proofs.ToldReports
import AuditAspects.Proofs.ReportedFaults
import AuditAspects.Proofs.ReservedNames
import AuditAspects.Proofs.DelimitedLiterals
import AuditAspects.Proofs.ColumnRows
import AuditAspects.Proofs.QualifiedNames
import AuditAspects.Proofs.RefusedEdits
import AuditAspects.Proofs.UnpackagedImports
import AuditAspects.Proofs.ClaimOrders
import AuditAspects.Proofs.AlteredFields
import AuditAspects.Proofs.MarkerOutcome
