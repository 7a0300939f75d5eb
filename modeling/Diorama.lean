import Diorama.Number.Shortest
import Diorama.Number.Numeral
import Diorama.Text.Blank
import Diorama.Text.Lines
import Diorama.Text.Digit
import Diorama.Text.Case
import Diorama.Text.Quoted
import Diorama.Json.Printer
import Diorama.Json.Reader
import Diorama.Script
import Diorama.Animation.Plan
import Diorama.Animation.FrameName
import Diorama.Geometry.TransformStack
import Diorama.Geometry.Mesh
import Diorama.Shading.Phong
import Diorama.Shading.Components
import Diorama.Canvas.Line
import Diorama.Canvas.Triangle
import Diorama.Canvas.Ppm
import Diorama.Limits
import Diorama.Config.Load
import Diorama.Config.Objects
import Diorama.Render.Run
import Diorama.Script.File
import Diorama.Images.Services
import Diorama.Images.Writer
import Diorama.CommandLine.Arguments
import Diorama.CommandLine.Program
import Diorama.Images.Encoding
import Diorama.Render.WriteLog
import Diorama.Main
import Diorama.Proofs.Render.Alike
import Diorama.Proofs.Render.Replay
import Diorama.Proofs.Render.Specialisation
import Diorama.Proofs.Canvas.Crashes
import Diorama.Proofs.Render.Offence
import Diorama.Proofs.Render.Steps
import Diorama.Proofs.Render.FatalErrors
import Diorama.Proofs.Render.Writes
import Diorama.Proofs.Canvas.Grid
import Diorama.Proofs.Canvas.Marks
import Diorama.Proofs.Canvas.Spans
import Diorama.Proofs.Canvas.DepthBuffer
import Diorama.Proofs.Animation.Settling
import Diorama.Proofs.Animation.KnobValues
import Diorama.Proofs.Render.Lockstep
import Diorama.Proofs.Render.Interleaving
import Diorama.Proofs.Text.Words
import Diorama.Proofs.Script.Signatures
import Diorama.Proofs.Script.Grammar
import Diorama.Proofs.Fallible
import Diorama.Proofs.Files.Places
import Diorama.Proofs.Files.Ways
import Diorama.Proofs.Files.Operations
import Diorama.Proofs.Images.Saving
import Diorama.Proofs.Geometry.Scopes
import Diorama.Proofs.Render.Effects
import Diorama.Proofs.Render.Buffers
import Diorama.Proofs.Render.Refusals
import Diorama.Proofs.Render.Nesting
import Diorama.Proofs.Render.Inert
import Diorama.Proofs.Render.Materials
import Diorama.Proofs.Config.Demands
import Diorama.Proofs.Config.Reported
import Diorama.Proofs.Config.Rendering
import Diorama.Proofs.Number.Rational
import Diorama.Proofs.Canvas.Stepping
import Diorama.Proofs.Canvas.Clipping
import Diorama.Proofs.Canvas.Coverage
import Diorama.Proofs.Geometry.Sampling
import Diorama.Proofs.Geometry.Surfaces
import Diorama.Proofs.Geometry.Boxes
import Diorama.Proofs.Canvas.VertexOrder
import Diorama.Proofs.Number.FloatValue
import Diorama.Proofs.Number.FloatArithmetic
import Diorama.Proofs.Number.FloatInfinity
import Diorama.Proofs.Number.FloatBounds
import Diorama.Proofs.Shading.Lengths
import Diorama.Proofs.Shading.Channels
import Diorama.Proofs.Canvas.FloatClipping
import Diorama.Proofs.Canvas.FiniteGeometry
import Diorama.Proofs.Text.LineBreaks
import Diorama.Proofs.Script.Concatenation
import Diorama.Proofs.Text.Encoding
import Diorama.Proofs.Files.Names
import Diorama.Proofs.Script.FileText
import Diorama.Proofs.Animation.FrameNames
import Diorama.Proofs.Files.Numbered
import Diorama.Proofs.Geometry.ExactRing
import Diorama.Proofs.Geometry.Rigid
import Diorama.Proofs.Files.Changes
import Diorama.Proofs.Images.Targets
import Diorama.Proofs.Render.FrameFiles
import Diorama.Proofs.Render.Transforms
import Diorama.Proofs.Number.FloatMonotone
import Diorama.Proofs.Animation.Ramps
import Diorama.Proofs.Animation.RampEnds
import Diorama.Proofs.Canvas.Extents
import Diorama.Proofs.Canvas.Visible
import Diorama.Proofs.Canvas.Pixmaps
import Diorama.Proofs.Animation.KnobStore
import Diorama.Proofs.Geometry.WholeGroups
import Diorama.Proofs.Config.WholeDocuments
import Diorama.Proofs.Config.Objects
