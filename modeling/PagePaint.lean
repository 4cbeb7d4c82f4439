import PagePaint.Backend.Backend
import PagePaint.Backend.Recorder
import PagePaint.Color
import PagePaint.CommandLine.Options
import PagePaint.CommandLine.Report
import PagePaint.CommandLine.Sample
import PagePaint.Config
import PagePaint.Error
import PagePaint.Exchange.Compact
import PagePaint.Exchange.FlagText
import PagePaint.Exchange.Format
import PagePaint.Exchange.Reader
import PagePaint.Exchange.Record
import PagePaint.Exchange.Value
import PagePaint.Flags
import PagePaint.Geometry.Display
import PagePaint.Geometry.Outline
import PagePaint.Geometry.Rect
import PagePaint.Geometry.Transform
import PagePaint.Image.Cache
import PagePaint.Image.Decode
import PagePaint.Log
import PagePaint.Main
import PagePaint.Number.Binary32
import PagePaint.Number.Hexadecimal
import PagePaint.Number.Numeral
import PagePaint.Number.Scalar
import PagePaint.Number.Shortest
import PagePaint.Page.Annot
import PagePaint.Page.Object
import PagePaint.Page.Page
import PagePaint.Page.Style
import PagePaint.Paint.Overlay
import PagePaint.Paint.Policy
import PagePaint.Paint.Renderer
import PagePaint.Paint.Script
import PagePaint.Proofs.Backend.Faults
import PagePaint.Proofs.Backend.Passage
import PagePaint.Proofs.Paint.Order
import PagePaint.Proofs.Session.Batches
import PagePaint.Proofs.Session.Completion
import PagePaint.Proofs.Session.Consistency
import PagePaint.Proofs.Session.Failure
import PagePaint.Proofs.Session.History
import PagePaint.Proofs.Session.PaintingRecord
import PagePaint.Proofs.Session.PauseInvariance
import PagePaint.Proofs.Session.Request
import PagePaint.Proofs.Session.Units
import PagePaint.Raster.Arc
import PagePaint.Raster.Blend
import PagePaint.Raster.Box
import PagePaint.Raster.Brush
import PagePaint.Raster.Clip
import PagePaint.Raster.Coverage
import PagePaint.Raster.Curve
import PagePaint.Raster.Dash
import PagePaint.Raster.Edge
import PagePaint.Raster.Fill
import PagePaint.Raster.Gradient
import PagePaint.Raster.Hairline
import PagePaint.Raster.Join
import PagePaint.Raster.Measure
import PagePaint.Raster.Monotone
import PagePaint.Raster.Painter
import PagePaint.Raster.Rectangle
import PagePaint.Raster.Reduce
import PagePaint.Raster.Roots
import PagePaint.Raster.Shape
import PagePaint.Raster.Stroke
import PagePaint.Raster.Vector
import PagePaint.Session.Drive
import PagePaint.Session.Job
import PagePaint.Session.Pause
import PagePaint.Session.Session
import PagePaint.Session.Work
import PagePaint.Target.Digest
import PagePaint.Target.Pixel
import PagePaint.Target.Pixmap
import PagePaint.Target.Png
import PagePaint.Target.Target
import PagePaint.Proofs.Session.Script
import PagePaint.Proofs.Backend.Parallel
import PagePaint.Proofs.Session.Legality
import PagePaint.Proofs.Session.Lockstep
import PagePaint.Proofs.Session.Watched
import PagePaint.Proofs.Backend.Shape
import PagePaint.Proofs.Session.Custody
import PagePaint.Proofs.Image.Cache
import PagePaint.Proofs.Session.CacheLimit
import PagePaint.Proofs.Paint.Recolor
import PagePaint.Proofs.Session.RecordedCalls
import PagePaint.Proofs.Session.SchemeRecord
import PagePaint.Proofs.Paint.Congruence
import PagePaint.Proofs.Paint.Outlined
import PagePaint.Proofs.Session.SamePass
import PagePaint.Proofs.Session.FillConversion
import PagePaint.Proofs.Paint.NativeColors
import PagePaint.Proofs.Session.ColorSecrecy
import PagePaint.Proofs.Session.FormRecord
import PagePaint.Proofs.Paint.Partition
import PagePaint.Proofs.Session.AnnotsOnce
import PagePaint.Proofs.Session.Rounds
import PagePaint.Proofs.Session.Schedule
import PagePaint.Proofs.Session.Progress
import PagePaint.Proofs.Image.Accounting
import PagePaint.Proofs.Paint.Smoothing
import PagePaint.Proofs.Session.RenderOptions
import PagePaint.Proofs.Image.Eviction
import PagePaint.Proofs.Backend.PainterFaults
import PagePaint.Proofs.Paint.Solidity
import PagePaint.Proofs.Session.CallInvariant
import PagePaint.Proofs.Session.SolidCalls
import PagePaint.Proofs.Number.Significand
import PagePaint.Proofs.Number.Rounding
import PagePaint.Proofs.Number.Arithmetic
import PagePaint.Proofs.Number.Comparison
import PagePaint.Proofs.Number.Conversion
import PagePaint.Proofs.Raster.Opacity
import PagePaint.Proofs.Backend.Preservation
import PagePaint.Proofs.Backend.Opacity
import PagePaint.Proofs.Session.Backing
import PagePaint.Proofs.Geometry.Display
import PagePaint.Proofs.Image.Decoding
import PagePaint.Proofs.Backend.ImageSizes
import PagePaint.Proofs.Raster.Extents
import PagePaint.Proofs.Raster.Overwriting
import PagePaint.Proofs.Geometry.Composition
import PagePaint.Proofs.Paint.GlyphPlacement
import PagePaint.Proofs.Paint.ImagePlacement
import PagePaint.Proofs.Session.Controllers
import PagePaint.Proofs.Session.Resumes
import PagePaint.Proofs.CommandLine.Grammar
import PagePaint.Proofs.CommandLine.Precedence
import PagePaint.Proofs.Number.Sums
import PagePaint.Proofs.Number.Remainder
import PagePaint.Proofs.Raster.DashPattern
import PagePaint.Proofs.Raster.Dashing
import PagePaint.Proofs.Backend.Dashes
