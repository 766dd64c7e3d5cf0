import UnionpiTiger.Lib.Run
import UnionpiTiger.Lib.GoBackN
import UnionpiTiger.Lib.Overwriting
import UnionpiTiger.Lib.Reads
import UnionpiTiger.Lib.StdMap
import UnionpiTiger.H5.Wire
import UnionpiTiger.H5.Control
import UnionpiTiger.H5.Receive
import UnionpiTiger.H5.Deframe
import UnionpiTiger.H5.Sender
import UnionpiTiger.H5.Complete
import UnionpiTiger.H5.RoundTrip
import UnionpiTiger.H5.Queues
import UnionpiTiger.H5.Window
import UnionpiTiger.H5.Session
import UnionpiTiger.H5.Link
import UnionpiTiger.H5.Refinement
import UnionpiTiger.H5.GoBackN
import UnionpiTiger.H5.Retransfer
import UnionpiTiger.H5.PassUp
import UnionpiTiger.H5.UpQueue
import UnionpiTiger.Coex.VendorCmd
import UnionpiTiger.Coex.Callback
import UnionpiTiger.Coex.Profile
import UnionpiTiger.Coex.Events
import UnionpiTiger.Coex.RefCount
import UnionpiTiger.Coex.Balanced
import UnionpiTiger.Coex.Profiles
import UnionpiTiger.Coex.ConnTable
import UnionpiTiger.Coex.Handles
import UnionpiTiger.Coex.Keyed
import UnionpiTiger.Hw.Download
import UnionpiTiger.Hw.Transfer
import UnionpiTiger.Hw.Settings
import UnionpiTiger.Hw.Buffers
import UnionpiTiger.Userial.Reassembly
import UnionpiTiger.Userial.Resume
import UnionpiTiger.Userial.Chunking
import UnionpiTiger.Userial.Overrun
import UnionpiTiger.Userial.HostResume
import UnionpiTiger.Userial.HostDelivery
import UnionpiTiger.Userial.HostOverrun
import UnionpiTiger.Userial.Arrays
import UnionpiTiger.Audio.Formatter
import UnionpiTiger.Audio.Coherence
import UnionpiTiger.Audio.Mclk
import UnionpiTiger.Audio.Fifo
import UnionpiTiger.Audio.Clocked
import UnionpiTiger.Camera.Stream
import UnionpiTiger.Camera.LifeCycle
import UnionpiTiger.Camera.HandedUp
import UnionpiTiger.Camera.Uvc
import UnionpiTiger.Camera.UvcTable
import UnionpiTiger.Lib.Resync
import UnionpiTiger.Demux.Swdmx
import UnionpiTiger.Demux.Section
import UnionpiTiger.Demux.PidTable
import UnionpiTiger.Demux.TsParser
import UnionpiTiger.Demux.Reception
import UnionpiTiger.Demux.Received
import UnionpiTiger.Demux.RoundTrip
import UnionpiTiger.Demux.AmlDmx
import UnionpiTiger.Demux.Effects
import UnionpiTiger.Demux.Linked
import UnionpiTiger.Demux.Sweep
import UnionpiTiger.Demux.Locking
import UnionpiTiger.Demux.Calls
import UnionpiTiger.Demux.Delivery
import UnionpiTiger.Demux.FeedRuns
import UnionpiTiger.Lib.Words
import UnionpiTiger.Lib.RingQueue
import UnionpiTiger.Lib.Numbered
import UnionpiTiger.Vdec.Input
import UnionpiTiger.Vdec.Tidy
import UnionpiTiger.Vdec.Filling
import UnionpiTiger.Vdec.Chunks
import UnionpiTiger.Vdec.Calls
import UnionpiTiger.Vdec.Producer
import UnionpiTiger.Vdec.Circular
import UnionpiTiger.Vdec.CircularRuns
import UnionpiTiger.Amports.Queued
import UnionpiTiger.Amports.ByteStream
import UnionpiTiger.Canvas.Groups
import UnionpiTiger.Canvas.Accounting
import UnionpiTiger.CodecMm.Mgt
import UnionpiTiger.CodecMm.Tally
import UnionpiTiger.CodecMm.Owners
import UnionpiTiger.Scatter.Life
import UnionpiTiger.Scatter.LifeSteps
import UnionpiTiger.Scatter.ManagerSteps
import UnionpiTiger.Scatter.Lifetime
import UnionpiTiger.Scatter.Slots
import UnionpiTiger.Scatter.Threads
import UnionpiTiger.Scatter.Sections
import UnionpiTiger.Scatter.Released
import UnionpiTiger.Lib.Tables
import UnionpiTiger.CodecMm.Keeper
import UnionpiTiger.Boxes.Box
import UnionpiTiger.Boxes.Counting
import UnionpiTiger.Configs.Tree
import UnionpiTiger.Configs.Refs
import UnionpiTiger.Configs.Balance
import UnionpiTiger.Configs.Runs
import UnionpiTiger.Isp.EventQueue
import UnionpiTiger.Vfm.HandOver
import UnionpiTiger.H264.HeaderCache
import UnionpiTiger.Hw.Patched
import UnionpiTiger.Hw.Owned
import UnionpiTiger.Hw.Configurations
import UnionpiTiger.Firmware.Drv
import UnionpiTiger.Firmware.Parsing
import UnionpiTiger.Firmware.Selected
import UnionpiTiger.Demux.Dsc
import UnionpiTiger.Demux.Coherence
import UnionpiTiger.Audio.ChannelMasks
import UnionpiTiger.Audio.FllParam
import UnionpiTiger.Userial.ScanParams
import UnionpiTiger.Lib.Crc
import UnionpiTiger.H5.Crc
import UnionpiTiger.H5.Burst
import UnionpiTiger.Coex.Channels
import UnionpiTiger.Coex.HidView
import UnionpiTiger.Hw.Epatch
import UnionpiTiger.Coex.HidActive
import UnionpiTiger.Coex.HidState
import UnionpiTiger.Lib.Batch
import UnionpiTiger.Camera.Control
import UnionpiTiger.Camera.ControlSet
import UnionpiTiger.Camera.ControlGet
import UnionpiTiger.Camera.ControlWalk
import UnionpiTiger.Camera.Enumerated
import UnionpiTiger.Demux.Crc32
import UnionpiTiger.Demux.Isolation
import UnionpiTiger.Demux.SecMatch
import UnionpiTiger.Audio.DmaWindow
import UnionpiTiger.Lib.Carry
import UnionpiTiger.Wifi.DevAddr
import UnionpiTiger.Lib.Around
import UnionpiTiger.Canvas.ContinueSet
import UnionpiTiger.Amports.BufferPool
import UnionpiTiger.Lib.Numerals
import UnionpiTiger.Configs.Values
import UnionpiTiger.Vp9.Superframe
import UnionpiTiger.Lib.SquaringLog
import UnionpiTiger.Isp.Log2
import UnionpiTiger.Lib.Blend
import UnionpiTiger.Isp.Modulation
import UnionpiTiger.Isp.ModulationWords
import UnionpiTiger.Isp.Equidistant
import UnionpiTiger.Isp.EquidistantTables
import UnionpiTiger.H5.LinkControl
import UnionpiTiger.Bt.Heartbeat
import UnionpiTiger.Decoder.ConfigParser
import UnionpiTiger.Configs.PathValue
import UnionpiTiger.Lib.Stores
import UnionpiTiger.Configs.Listing
import UnionpiTiger.Configs.ListingRoom
import UnionpiTiger.Hw.AltBytes
import UnionpiTiger.Hw.AltWalks
import UnionpiTiger.Hw.ConfigBounds
import UnionpiTiger.Lib.Checked
import UnionpiTiger.Firmware.Bytes
import UnionpiTiger.Firmware.RecordBounds
import UnionpiTiger.Firmware.Refinement
import UnionpiTiger.Lib.BitSearch
import UnionpiTiger.Isp.Sqrt
import UnionpiTiger.H264.Rbsp
import UnionpiTiger.Camera.Received
import UnionpiTiger.Lib.Confined
import UnionpiTiger.Lib.Triples
import UnionpiTiger.H264.BitReader
import UnionpiTiger.H264.StartCodes
import UnionpiTiger.H264.ParamSets
import UnionpiTiger.H264.ResChange
import UnionpiTiger.H264.NalStream
import UnionpiTiger.H264.SpsParser
import UnionpiTiger.H264.BitFields
import UnionpiTiger.H264.SpsPlaces
import UnionpiTiger.H264.SpsSafety
import UnionpiTiger.H264.SpsShape
import UnionpiTiger.H264.SpsParams
import UnionpiTiger.Lib.Inverses
import UnionpiTiger.Dvbcsa.Block
import UnionpiTiger.Dvbcsa.Key
import UnionpiTiger.Dvbcsa.Stream
import UnionpiTiger.Dvbcsa.Packets
import UnionpiTiger.Lib.Sorting
import UnionpiTiger.Dpb.Qsort
import UnionpiTiger.Demux.Scrambled
import UnionpiTiger.Dpb.QsortRuns
import UnionpiTiger.Lib.ListOrder
import UnionpiTiger.Dpb.RefLists
import UnionpiTiger.Dpb.InitLists
