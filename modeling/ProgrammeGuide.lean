import ProgrammeGuide.CommandLine
import ProgrammeGuide.Cursor.Stack
import ProgrammeGuide.Main
import ProgrammeGuide.Proofs.History
import ProgrammeGuide.Proofs.Store
import ProgrammeGuide.Proofs.Descriptors
import ProgrammeGuide.Proofs.Kinds
import ProgrammeGuide.Proofs.Fragments
import ProgrammeGuide.Proofs.LongDescriptions
import ProgrammeGuide.Proofs.Records
import ProgrammeGuide.Proofs.Retention
import ProgrammeGuide.Proofs.Resending
import ProgrammeGuide.Proofs.FixedWidth
import ProgrammeGuide.Proofs.Verdicts
import ProgrammeGuide.Proofs.Cutting
import ProgrammeGuide.Proofs.ClassRuns
import ProgrammeGuide.Proofs.Succession
import ProgrammeGuide.Proofs.Replay
import ProgrammeGuide.Proofs.ReadBack
import ProgrammeGuide.Proofs.EventLoop
import ProgrammeGuide.Proofs.Blocks
import ProgrammeGuide.Proofs.Truncation
import ProgrammeGuide.Proofs.SentSections
import ProgrammeGuide.Proofs.Faults
import ProgrammeGuide.Proofs.Layouts
import ProgrammeGuide.Proofs.LinkLayouts
import ProgrammeGuide.Proofs.RoundTrip
import ProgrammeGuide.Proofs.Splitting
import ProgrammeGuide.Proofs.Grammar
import ProgrammeGuide.Proofs.SectionLayout
import ProgrammeGuide.Proofs.Broadcast
import ProgrammeGuide.Proofs.ItemAreas
import ProgrammeGuide.Proofs.OwnRange
import ProgrammeGuide.Proofs.Machine.Runs
import ProgrammeGuide.Proofs.Durations
import ProgrammeGuide.Proofs.Headings
import ProgrammeGuide.Proofs.Calendar
import ProgrammeGuide.Proofs.DayNumbers
import ProgrammeGuide.Proofs.StartTimes
import ProgrammeGuide.Proofs.LinkRecords
import ProgrammeGuide.Proofs.Listings
import ProgrammeGuide.Proofs.CursorSteps
import ProgrammeGuide.Proofs.CursorRuns
