import Ferrometer.Foundation.Base64
import Ferrometer.Foundation.BestPerKey
import Ferrometer.Foundation.Building
import Ferrometer.Foundation.CappedDoubling
import Ferrometer.Foundation.Components
import Ferrometer.Foundation.Fallible
import Ferrometer.Foundation.FileTree
import Ferrometer.Foundation.Grouping
import Ferrometer.Foundation.LabelSet
import Ferrometer.Foundation.Machine
import Ferrometer.Foundation.Notify
import Ferrometer.Foundation.OldestFirst
import Ferrometer.Foundation.OrderedLog
import Ferrometer.Foundation.Outages
import Ferrometer.Foundation.ProtoWire
import Ferrometer.Foundation.Sharing
import Ferrometer.Foundation.SortedMap
import Ferrometer.Foundation.Stateful
import Ferrometer.Foundation.Text
import Ferrometer.Foundation.Template
import Ferrometer.Error
import Ferrometer.Signal
import Ferrometer.Config.Placeholder
import Ferrometer.Config.Expansion
import Ferrometer.Config.Model
import Ferrometer.Time
import Ferrometer.Config.Validate
import Ferrometer.Config.Load
import Ferrometer.Config.Connections
import Ferrometer.Config.Units
import Ferrometer.Http
import Ferrometer.Collector.Float
import Ferrometer.Collector.LabelCache
import Ferrometer.Collector.Prometheus
import Ferrometer.Collector.Prometheus.History
import Ferrometer.Forwarder.Otlphttp.Buffer
import Ferrometer.Forwarder.Otlphttp.SendCycle
import Ferrometer.Forwarder.Otlphttp.Eviction
import Ferrometer.Forwarder.Otlphttp.Proto
import Ferrometer.Forwarder.Otlphttp.Encode
import Ferrometer.Forwarder.Otlphttp.Upload
import Ferrometer.Forwarder.Otlphttp.Run
import Ferrometer.Forwarder.Otlphttp.Flush
import Ferrometer.Forwarder.Otlphttp.Calls
import Ferrometer.Log.CursorFile
import Ferrometer.Auth
import Ferrometer.Tls
import Ferrometer.Connect
import Ferrometer.Config.ByteSize
import Ferrometer.Log.Interference
import Ferrometer.Log.Source
import Ferrometer.Log.Journal
import Ferrometer.Log.Source.Journald
import Ferrometer.Log.Source.Fields
import Ferrometer.Log.Source.Reading
import Ferrometer.Log.Source.Growth
import Ferrometer.Log.Source.Batches
import Ferrometer.Log.Source.Caps
import Ferrometer.Log.Source.Tail
import Ferrometer.Log.Source.Failing
import Ferrometer.Log.Source.Losses
import Ferrometer.Log.Source.Resume
import Ferrometer.Log.Shipper
import Ferrometer.Log.Delivery
import Ferrometer.Log.Splitting
import Ferrometer.Log.Sink.Push
import Ferrometer.Log.Sink.Loki
import Ferrometer.Log.Sink.Labels
import Ferrometer.Log.Sink.Streams
import Ferrometer.Log.Sink.Wire
import Ferrometer.Log.Sink.Ingestion
import Ferrometer.Log.Restart
import Ferrometer.Log.Repeats
import Ferrometer.Log.Fleet
import Ferrometer.Log.Spawn
import Ferrometer.Log.Atomic
import Ferrometer.Pipeline.Scheduled
import Ferrometer.Pipeline.Scheduler
import Ferrometer.Pipeline.Slots
import Ferrometer.Pipeline.Tick
import Ferrometer.Pipeline.MetricTypes
import Ferrometer.Collector.Unix.Host
import Ferrometer.Collector.Unix.Cpu
import Ferrometer.Collector.Unix.Filesystem
import Ferrometer.Collector.Unix.Hwmon
import Ferrometer.Collector.Unix.UnixCollector
import Ferrometer.Collector.Unix.Identity
import Ferrometer.Pipeline.HungMount
import Ferrometer.Pipeline.Agent
import Ferrometer.Pipeline.Agent.Shutdown
import Ferrometer.Pipeline.Agent.Isolation
import Ferrometer.Pipeline.Agent.Startup
import Ferrometer.Pipeline.Agent.Ingestion
import Ferrometer.Backoff
