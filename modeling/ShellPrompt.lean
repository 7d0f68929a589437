import ShellPrompt.Main
import ShellPrompt.Proofs.CommandLine.Faults
import ShellPrompt.Proofs.CommandLine.Output
import ShellPrompt.Proofs.Config.ClosedEscape
import ShellPrompt.Proofs.Config.Editing
import ShellPrompt.Proofs.Config.Embedding
import ShellPrompt.Proofs.Config.Fallback
import ShellPrompt.Proofs.Config.FileRoundTrip
import ShellPrompt.Proofs.Config.Rebuilding
import ShellPrompt.Proofs.Config.SelectedPalette
import ShellPrompt.Proofs.Config.Validity
import ShellPrompt.Proofs.Preferences
import ShellPrompt.Proofs.Style.Attributes
import ShellPrompt.Proofs.Template.Agreement
import ShellPrompt.Proofs.Template.Fusing
import ShellPrompt.Proofs.Template.GroupFree
import ShellPrompt.Proofs.Terminal.Spans
import ShellPrompt.Proofs.Theme.Importing
import ShellPrompt.Proofs.Theme.Schemes
import ShellPrompt.Proofs.Toml.Delimiting
