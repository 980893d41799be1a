import CodecReport.Main
import CodecReport.Panel.Move
import CodecReport.Selection.Action
import CodecReport.Proofs.Document.Layout
import CodecReport.Proofs.Document.Limits
import CodecReport.Proofs.Page.Panels
import CodecReport.Proofs.Panel.Membership
import CodecReport.Proofs.Selection.Settling
import CodecReport.Proofs.Table.Projection
import CodecReport.Proofs.Table.Records
import CodecReport.Proofs.Table.Alignment
import CodecReport.Proofs.Number.Display
import CodecReport.Proofs.Table.Display
import CodecReport.Proofs.Panel.Isolation
import CodecReport.Proofs.Markup.Pieces
import CodecReport.Proofs.Markup.Elements
import CodecReport.Proofs.Page.Pieces
import CodecReport.Proofs.Page.Setup
import CodecReport.Proofs.Page.Anchors
import CodecReport.Proofs.Document.Names
import CodecReport.Proofs.Page.Links
import CodecReport.Proofs.Panel.Wording
import CodecReport.Proofs.Page.Wording
import CodecReport.Proofs.Number.Quotient
import CodecReport.Proofs.Panel.Warnings
import CodecReport.Proofs.Disk.Writing
import CodecReport.Proofs.Output.Leaving
import CodecReport.Proofs.Report.Csv
import CodecReport.Proofs.Report.Reading
import CodecReport.Proofs.Output.Pictures
import CodecReport.Proofs.Output.Pages
import CodecReport.Proofs.Output.Status
import CodecReport.Proofs.Number.Order
import CodecReport.Proofs.Table.Ranking
import CodecReport.Proofs.Selection.Enrollment
import CodecReport.Proofs.Selection.Moments
import CodecReport.Proofs.Selection.Reentry
import CodecReport.Proofs.Selection.Detachment
import CodecReport.Proofs.Panel.Refreshing
import CodecReport.Proofs.Page.Highlights
import CodecReport.Proofs.Page.Query
import CodecReport.Proofs.Source.Detection
import CodecReport.Proofs.Panel.Heights
import CodecReport.Proofs.Output.Drawing
import CodecReport.Proofs.Panel.Redrawn
import CodecReport.Proofs.Page.Address
import CodecReport.Proofs.Table.Frames
import CodecReport.Proofs.Text.FileLabel
import CodecReport.Proofs.Chart.Text
