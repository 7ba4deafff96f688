import ThemeMotion.Animation.Request
import ThemeMotion.Files.Folder
import ThemeMotion.Progress.Curve
import ThemeMotion.Proofs.Theme.Grammar
import ThemeMotion.Settings.File
import ThemeMotion.Stage.Basic
import ThemeMotion.Stored.Data
import ThemeMotion.Theme.Load
import ThemeMotion.Trace.Diagnostics
import ThemeMotion.Value.Coerce
import ThemeMotion.Proofs.Theme.Attributes
import ThemeMotion.Proofs.Theme.Phase
import ThemeMotion.Proofs.Theme.Acceptance
import ThemeMotion.Proofs.Theme.Merging
import ThemeMotion.Proofs.Selector.Chain
import ThemeMotion.Proofs.Theme.Invariant
import ThemeMotion.Proofs.Animation.Gathering
import ThemeMotion.Proofs.Selector.Matching
import ThemeMotion.Proofs.Selector.Grammar
import ThemeMotion.Proofs.Selector.Reading
import ThemeMotion.Proofs.Animation.Typing
import ThemeMotion.Proofs.Animation.Answering
import ThemeMotion.Proofs.Selector.Roundtrip
import ThemeMotion.Proofs.Theme.Tracking
import ThemeMotion.Proofs.Theme.Placing
import ThemeMotion.Proofs.Theme.Coherence
import ThemeMotion.Proofs.Animation.Repeating
import ThemeMotion.Proofs.Stage.Growing
import ThemeMotion.Proofs.Stage.Walking
import ThemeMotion.Proofs.Animation.Influence
import ThemeMotion.Proofs.Selector.Extending
import ThemeMotion.Proofs.Theme.Loading
import ThemeMotion.Proofs.Theme.Reloading
import ThemeMotion.Proofs.Stage.Writing
import ThemeMotion.Proofs.Animation.Precedence
import ThemeMotion.Proofs.Stage.Searching
import ThemeMotion.Proofs.Text.Fields
import ThemeMotion.Proofs.Theme.Listing
import ThemeMotion.Proofs.Value.Reading
import ThemeMotion.Proofs.Value.Display
import ThemeMotion.Proofs.Animation.Synchronizing
import ThemeMotion.Proofs.Binary.Pattern
import ThemeMotion.Proofs.Decimal.Numeral
import ThemeMotion.Proofs.Decimal.Size
import ThemeMotion.Proofs.Value.Finiteness
import ThemeMotion.Proofs.Animation.Attaching
import ThemeMotion.Proofs.Trace.Asking
import ThemeMotion.Proofs.Trace.Fixing
import ThemeMotion.Proofs.Text.Casing
import ThemeMotion.Proofs.Progress.Casing
import ThemeMotion.Proofs.Stored.Roundtrip
