import NativeBootstrap.Main
import NativeBootstrap.Pattern.Cursor
import NativeBootstrap.Pattern.Tree
import NativeBootstrap.Text.Letters
import NativeBootstrap.Pattern.Escape
import NativeBootstrap.Pattern.Brackets
import NativeBootstrap.Pattern.Reader
import NativeBootstrap.Pattern.CodeSet
import NativeBootstrap.Pattern.Expression
import NativeBootstrap.Pattern.Meaning
import NativeBootstrap.Pattern.Encoding
import NativeBootstrap.Pattern.Size
import NativeBootstrap.Proofs.Session.OneShot
import NativeBootstrap.Proofs.Session.DryRun
import NativeBootstrap.Proofs.Artifact.Absolute
import NativeBootstrap.Proofs.Concurrency.Agreement
import NativeBootstrap.Proofs.Percent.Encoding
import NativeBootstrap.Proofs.Percent.Rejection
import NativeBootstrap.Proofs.Path.Normal
import NativeBootstrap.Proofs.Artifact.DoubleEncoding
import NativeBootstrap.Proofs.Resolution.InstalledLayout
import NativeBootstrap.Proofs.Resolution.InstallRoot
import NativeBootstrap.Proofs.Artifact.RunningProgram
import NativeBootstrap.Proofs.Artifact.WorkingDirectory
import NativeBootstrap.Proofs.SharedSession.OneBootstrap
import NativeBootstrap.Proofs.FileSystem.Descent
import NativeBootstrap.Proofs.Path.Names
import NativeBootstrap.Proofs.Resolution.BesideDirectory
import NativeBootstrap.Proofs.Path.Joining
import NativeBootstrap.Proofs.Resolution.UnsupportedHost
import NativeBootstrap.Proofs.Program.ExitCode
import NativeBootstrap.Proofs.SharedSession.Readiness
import NativeBootstrap.Proofs.Path.Joints
import NativeBootstrap.Proofs.Path.Parents
import NativeBootstrap.Proofs.Library.NamedLibraries
import NativeBootstrap.Proofs.Library.VersionQuery
import NativeBootstrap.Proofs.Text.Lossy
import NativeBootstrap.Proofs.Resolution.PlanShape
import NativeBootstrap.Proofs.Resolution.Warnings
import NativeBootstrap.Proofs.Session.ReportCounts
import NativeBootstrap.Proofs.Session.StartLog
import NativeBootstrap.Proofs.CommandLine.OptionGroups
import NativeBootstrap.Proofs.Settings.WriteOnce
import NativeBootstrap.Proofs.Percent.Pieces
import NativeBootstrap.Proofs.Percent.Runs
import NativeBootstrap.Proofs.Percent.ScanRange
