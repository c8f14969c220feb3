import EventNative.GoMap
import EventNative.Drivers.Factory
import EventNative.Drivers.Granularity
import EventNative.GoTime.Calendar
import EventNative.GoTime.Format
import EventNative.GoTime.DayCount
import EventNative.Sources.Registry
import EventNative.Sources.Sync
import EventNative.Sources.Cluster
import EventNative.Sources.Replay
import EventNative.Sources.Status
import EventNative.Sources.NewService
import EventNative.Authorization.Tokens
