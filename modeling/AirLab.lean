import AirLab.Effects.Prog
import AirLab.Effects.Triple
import AirLab.Effects.History
import AirLab.Effects.Interleave
import AirLab.Effects.Mailbox
import AirLab.Effects.Script
import AirLab.Effects.Clock
import AirLab.Effects.Journal
import AirLab.Effects.Spawn
import AirLab.Effects.Unbroken
import AirLab.Effects.Bursts
import AirLab.Effects.Restrict
import AirLab.Sampling.Hold
import AirLab.CLang.Float
import AirLab.CLang.Text
import AirLab.CLang.Decimal
import AirLab.CLang.LittleEndian
import AirLab.CLang.Reading
import AirLab.CLang.Range
import AirLab.Board
import AirLab.Opc.Histogram
import AirLab.Opc.Driver
import AirLab.Gas.Driver
import AirLab.Ambient.Driver
import AirLab.Storage.Driver
import AirLab.Threads
import AirLab.Footprint
import AirLab.Interleaving
import AirLab.Opc.Framing
import AirLab.Opc.PowerPhases
import AirLab.Opc.Power
import AirLab.Opc.Averages
import AirLab.Opc.Failures
import AirLab.Opc.Wire
import AirLab.Opc.Schedule
import AirLab.Records
import AirLab.Opc.Record
import AirLab.Opc.Leftovers
import AirLab.Opc.Relay
import AirLab.Gas.Converters
import AirLab.Gas.Averages
import AirLab.Gas.Provenance
import AirLab.Gas.Record
import AirLab.Gas.Bus
import AirLab.Ambient.Coherence
import AirLab.Ambient.Averages
import AirLab.Ambient.Failures
import AirLab.Storage.Log
import AirLab.Storage.Script
import AirLab.Storage.Journal
import AirLab.Storage.RoundTrip
import AirLab.Ambient.Listener
import AirLab.Gas.Traffic
import AirLab.Opc.Traffic
import AirLab.Uplink
import AirLab.Freshness
import AirLab.Turns
import AirLab.Independence
import AirLab.Join
import AirLab.Link
import AirLab.Gas.Log
import AirLab.Pacing
import AirLab.Progress
import AirLab.Boot.Driver
import AirLab.Boot.Sequence
import AirLab.Boot.Refinement
import AirLab.Station
