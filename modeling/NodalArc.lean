import NodalArc.SeekSynchronisation
import NodalArc.LatestStatements
import NodalArc.SeekFence
import NodalArc.PacingAuthority
import NodalArc.GroundTeardowns
import NodalArc.StickyTerminals
import NodalArc.MakeBeforeBreak
import NodalArc.TransitionStore
import NodalArc.TransientFailures
import NodalArc.FixedInterfaces
import NodalArc.ContactNaming
import NodalArc.QueueSizing
import NodalArc.OperationPlans
import NodalArc.PassSampling
import NodalArc.RecordHistory
