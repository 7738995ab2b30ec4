import PageScript.Browser.Scripted
import PageScript.Document.JsonNode
import PageScript.Main
import PageScript.Plugin.Scripted
import PageScript.Table.Plain
import PageScript.Table.Written
import PageScript.Vars.Levelled
import PageScript.Proofs.Leads
import PageScript.Proofs.WorldChanges
import PageScript.Proofs.Histories
import PageScript.Proofs.SupervisorLaw
import PageScript.Proofs.HistoryAdditions
import PageScript.Proofs.LossHeeding
import PageScript.Proofs.Visits
import PageScript.Proofs.CarriedOut
import PageScript.Proofs.PassingParts
import PageScript.Proofs.Unwinding
import PageScript.Proofs.TraversalInvariants
import PageScript.Proofs.Course
import PageScript.Proofs.ProgressSigns
import PageScript.Proofs.Supervision
import PageScript.Proofs.AfterStop
import PageScript.Proofs.GivenUpSteps
import PageScript.Proofs.Teardown
import PageScript.Proofs.IncludeDepth
import PageScript.Proofs.BrowserLoss
import PageScript.Proofs.LossOutcome
import PageScript.Proofs.RunOutcomes
import PageScript.Proofs.ForsakenRuns
import PageScript.Proofs.Stays
import PageScript.Proofs.RunTours
import PageScript.Proofs.StartsAndFinishes
import PageScript.Proofs.AnsweredSteps
import PageScript.Proofs.ActCalls
import PageScript.Proofs.RestoredContext
import PageScript.Proofs.ContextShifts
import PageScript.Proofs.ContextKept
import PageScript.Proofs.WindowInUse
import PageScript.Proofs.FrameInUse
import PageScript.Proofs.ActComposition
import PageScript.Proofs.HijackedVars
import PageScript.Proofs.SessionEdits
import PageScript.Proofs.ScopeUnderflows
import PageScript.Proofs.RowScopes
import PageScript.Proofs.PluginTurns
import PageScript.Proofs.Landmarks
import PageScript.Proofs.Scenes
import PageScript.Proofs.SceneOrder
import PageScript.Proofs.PluginOrder
import PageScript.Proofs.Verdicts
import PageScript.Proofs.OutsideRequests
import PageScript.Proofs.FileLookups
import PageScript.Proofs.ElementPairs
import PageScript.Proofs.ElementTwins
import PageScript.Proofs.RunPairs
import PageScript.Proofs.DryRuns
import PageScript.Proofs.ScriptIndependence
import PageScript.Proofs.AcceptedNodes
import PageScript.Proofs.BuiltEvents
import PageScript.Proofs.AllowedMoves
import PageScript.Proofs.FailureReasons
import PageScript.Proofs.FailureReports
import PageScript.Proofs.Timeless
import PageScript.Proofs.NoPlugins
import PageScript.Proofs.AllowedWaits
import PageScript.Proofs.WorldsAbreast
import PageScript.Proofs.ScriptsInPlace
import PageScript.Proofs.MirroredTours
import PageScript.Proofs.FollowedTours
import PageScript.Proofs.RunResults
import PageScript.Proofs.FollowedEnds
import PageScript.Proofs.IncludedScripts
import PageScript.Proofs.BindingLookups
import PageScript.Proofs.ScopeLevels
import PageScript.Proofs.FlattenedScopes
import PageScript.Proofs.RowCells
import PageScript.Proofs.RestatedEvents
import PageScript.Proofs.EventEchoes
import PageScript.Proofs.AttributeOrder
import PageScript.Proofs.TemplateCuts
import PageScript.Proofs.RecordsReadBack
import PageScript.Proofs.UnquotedRecords
import PageScript.Proofs.RowRuns
import PageScript.Proofs.RunTraversals
import PageScript.Proofs.ActEndings
import PageScript.Proofs.WindowSearch
import PageScript.Proofs.FailedSearch
import PageScript.Proofs.ActPlans
import PageScript.Proofs.ElementActions
import PageScript.Proofs.OptionalTargets
import PageScript.Proofs.OverdueProgress
import PageScript.Proofs.Numerals
import PageScript.Proofs.WrittenFlags
import PageScript.Proofs.PageChecks
import PageScript.Proofs.NodeDocuments
import PageScript.Proofs.TablesNamedAhead
import PageScript.Proofs.InsertedAttributes
