import FlakeWM.Session.Presentation
import FlakeWM.Desktop.Visibility
import FlakeWM.Input.KeyStrokes
import FlakeWM.Input.Actions
import FlakeWM.Input.Buttons
import FlakeWM.Desktop.LayerFocus
import FlakeWM.Desktop.KeptAbove
import FlakeWM.Input.TouchIsolation
import FlakeWM.View.PressedWindow
import FlakeWM.Screen.SavedOutputs
import FlakeWM.Input.ShortcutServices
import FlakeWM.View.SelectedWorkspace
import FlakeWM.Screen.ExtendedDesktop
import FlakeWM.Desktop.ShowDesktop
import FlakeWM.Input.ClipboardOwner
import FlakeWM.Input.ClipboardCopies
import FlakeWM.Desktop.Mirrored
import FlakeWM.Input.EnterLeave
import FlakeWM.Input.TextDeletion
import FlakeWM.Input.SwipeBlocks
import FlakeWM.Screen.KdeApply
import FlakeWM.Input.MatchingBindings
import FlakeWM.Protocol.ShellMoves
import FlakeWM.Protocol.StackingOrder
import FlakeWM.Protocol.VirtualDesktops
import FlakeWM.Session.Idle
import FlakeWM.Backend.Fbdev
import FlakeWM.Input.PopupPlacement
import FlakeWM.Input.ShortcutText
import FlakeWM.View.SwitcherCycle
import FlakeWM.View.ShakeCursor
import FlakeWM.Render.RoundedRegions
import FlakeWM.View.WindowLayout
import FlakeWM.View.NaturalLayout
import FlakeWM.View.HiddenSources
