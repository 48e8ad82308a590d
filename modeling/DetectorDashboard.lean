import DetectorDashboard.Application.Polling
import DetectorDashboard.Application.Web
import DetectorDashboard.Configuration.Load
import DetectorDashboard.ControlServer.Address
import DetectorDashboard.ControlServer.Client
import DetectorDashboard.ControlServer.Response
import DetectorDashboard.Proofs.Run
import DetectorDashboard.Proofs.Effect
import DetectorDashboard.Proofs.ElementId
import DetectorDashboard.Proofs.GateMaxima
import DetectorDashboard.Proofs.TableRows
import DetectorDashboard.Proofs.UnitRows
import DetectorDashboard.Proofs.RowSweep
import DetectorDashboard.Proofs.LastResponses
import DetectorDashboard.Proofs.Numbering
import DetectorDashboard.Proofs.LatestAnswer
import DetectorDashboard.Proofs.DeliveryOrder
import DetectorDashboard.Proofs.CallLog
import DetectorDashboard.Proofs.CommandFailure
import DetectorDashboard.Proofs.Occurrence
import DetectorDashboard.Proofs.Markup
import DetectorDashboard.Proofs.EscapedText
import DetectorDashboard.Proofs.Tag
import DetectorDashboard.Proofs.DocumentIds
import DetectorDashboard.Proofs.DocumentMarkup
import DetectorDashboard.Proofs.DocumentParts
import DetectorDashboard.Proofs.PageDocument
import DetectorDashboard.Proofs.TagSequence
import DetectorDashboard.Proofs.TextIndependence
import DetectorDashboard.Proofs.SentCalls
import DetectorDashboard.Proofs.PollTimers
import DetectorDashboard.Proofs.PollerLifecycle
import DetectorDashboard.Proofs.PollCadence
import DetectorDashboard.Proofs.AlertBoxes
import DetectorDashboard.Proofs.ShownAlerts
import DetectorDashboard.Proofs.AlertDelivery
import DetectorDashboard.Proofs.Utf8
import DetectorDashboard.Proofs.ConfigurationLayers
import DetectorDashboard.Proofs.ViewLink
import DetectorDashboard.Proofs.UpdateLog
import DetectorDashboard.Proofs.RefreshOutcome
import DetectorDashboard.Proofs.Envelope
import DetectorDashboard.Proofs.UnitDecoding
import DetectorDashboard.Proofs.JobKeeping
import DetectorDashboard.Proofs.JobProgress
import DetectorDashboard.Proofs.RefusedRequest
import DetectorDashboard.Proofs.FormRedirect
import DetectorDashboard.Proofs.SummaryRefresh
import DetectorDashboard.Proofs.JsonText
import DetectorDashboard.Proofs.ByteReading
import DetectorDashboard.Proofs.RefusalText
import DetectorDashboard.Proofs.EventFormat
import DetectorDashboard.Proofs.UpdateStream
import DetectorDashboard.Proofs.FragmentEscape
import DetectorDashboard.Proofs.Shape
import DetectorDashboard.Proofs.Tolerance
import DetectorDashboard.Proofs.OpenSchema
import DetectorDashboard.Proofs.RecordReading
import DetectorDashboard.Proofs.UnitColumns
import DetectorDashboard.Proofs.FlagLamps
import DetectorDashboard.Proofs.NewestAlerts
import DetectorDashboard.Proofs.ListenAddress
import DetectorDashboard.Proofs.PanelMarks
import DetectorDashboard.Proofs.VisiblePanel
import DetectorDashboard.Proofs.Rounding
import DetectorDashboard.Proofs.Overflow
import DetectorDashboard.Proofs.SpelledNumber
import DetectorDashboard.Proofs.FloatText
import DetectorDashboard.Proofs.PutRequests
import DetectorDashboard.Proofs.InputText
import DetectorDashboard.Proofs.InputFields
import DetectorDashboard.Proofs.CountInput
import DetectorDashboard.Proofs.TimeInput
