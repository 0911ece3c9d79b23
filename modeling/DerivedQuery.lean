import DerivedQuery.Engine
import DerivedQuery.Example.Trades
import DerivedQuery.Json.Decode
import DerivedQuery.Json.Printer
import DerivedQuery.Json.Reader
import DerivedQuery.Metrics
import DerivedQuery.Proofs.Accounting
import DerivedQuery.Proofs.ArgumentIndependence
import DerivedQuery.Proofs.BindingDecision
import DerivedQuery.Proofs.CacheTransparency
import DerivedQuery.Proofs.CallTrace
import DerivedQuery.Proofs.CompilationOutcome
import DerivedQuery.Proofs.ConditionText
import DerivedQuery.Proofs.DeletionScope
import DerivedQuery.Proofs.FailedDeletion
import DerivedQuery.Proofs.FoldAll
import DerivedQuery.Proofs.KeyDeletion
import DerivedQuery.Proofs.ListCoercion
import DerivedQuery.Proofs.MarkerPosition
import DerivedQuery.Proofs.OrderingAgreement
import DerivedQuery.Proofs.OrderingStart
import DerivedQuery.Proofs.Paging
import DerivedQuery.Proofs.Phrase.Reading
import DerivedQuery.Proofs.PlanErrors
import DerivedQuery.Proofs.Readable
import DerivedQuery.Proofs.Reentrance
import DerivedQuery.Proofs.ResultShape
import DerivedQuery.Proofs.ScalarCoercion
import DerivedQuery.Proofs.SnakeCase
import DerivedQuery.Proofs.SubjectWords
import DerivedQuery.Proofs.TagAgreement
import DerivedQuery.Settings.Load
