import FurnitureAR.Library.Execution
import FurnitureAR.Library.FifoQueue
import FurnitureAR.Library.Lease
import FurnitureAR.Library.RowInsertion
import FurnitureAR.Library.FirstMatch
import FurnitureAR.Library.Observation
import FurnitureAR.Library.TimerSlots
import FurnitureAR.Library.Throttle
import FurnitureAR.Library.SlidingWindow
import FurnitureAR.ARKit
import FurnitureAR.VirtualObject
import FurnitureAR.ModelLookup
import FurnitureAR.StatusViewController
import FurnitureAR.Scene
import FurnitureAR.VirtualObjectInteraction
import FurnitureAR.ARViewController
import FurnitureAR.ScreenSteps
import FurnitureAR.LoadCycle
import FurnitureAR.LoadRefinement
import FurnitureAR.LoadSerialisation
import FurnitureAR.RestartExclusion
import FurnitureAR.AddButton
import FurnitureAR.CoachingOverlay
import FurnitureAR.GestureSafety
import FurnitureAR.RaycastOwnership
import FurnitureAR.PhantomObjects
import FurnitureAR.Interruption
import FurnitureAR.AnchorOwnership
import FurnitureAR.PanBelowThreshold
import FurnitureAR.CancelledDrag
import FurnitureAR.DraggedPosition
import FurnitureAR.ThresholdPanGesture
import FurnitureAR.DragAccumulation
import FurnitureAR.ScheduledMessages
import FurnitureAR.StaleHints
import FurnitureAR.StarvedHint
import FurnitureAR.StatusTimers
import FurnitureAR.FocusSquareSegment
import FurnitureAR.FocusSquare
import FurnitureAR.FocusSquareShape
import FurnitureAR.FocusSquareRequests
import FurnitureAR.FocusSquareOrientation
import FurnitureAR.FocusSquarePosition
import FurnitureAR.FocusSquareAnimations
import FurnitureAR.Furniture
import FurnitureAR.FurnitureTableViewCell
import FurnitureAR.FurnitureListTableView
import FurnitureAR.ListRefinement
import FurnitureAR.ListUniqueness
import FurnitureAR.ListOrder
import FurnitureAR.Catalogue
import FurnitureAR.FurnitureListViewController
import FurnitureAR.RefreshConfluence
import FurnitureAR.AnswersShown
import FurnitureAR.RefreshControl
import FurnitureAR.CellImages
import FurnitureAR.ImageArrival
import FurnitureAR.ModelShape
import FurnitureAR.SelectedObject
import FurnitureAR.InitialPlacement
import FurnitureAR.RestartLiveness
import FurnitureAR.FocusedScreen
import FurnitureAR.FrameDelivery
import FurnitureAR.SquareVisibility
import FurnitureAR.PickedObject
import FurnitureAR.Browsing
